import LinkTemplate.Proofs.CommandLine.Persistence
import LinkTemplate.Proofs.Inventory.Required

/-!
# Values for the arguments of a template

An entry `NAME=VALUE` is cut at its first equals sign. So a value may hold equals signs and a name
may not : the entry of a name that holds one supplies the part of the name in front of it. With one
entry for each argument that a template lists, a value gets through to its placeholders, whatever
the order of the entries, if its name holds no equals sign and is no such part of another name
(`reaches_of_suppliable`), and no other value does so always (`exists_not_reaches`).
-/

namespace LinkTemplate.CommandLine

open Template

variable {template name : Text} {value : Text → Text} {entries : List Text} {bindings : Bindings}

/-! ## Entries -/

/-- The text of an entry. -/
def entry (name value : Text) : Text :=
  name ++ '=' :: value

theorem mem_entry (name value : Text) : '=' ∈ entry name value := by
  simp [entry]

theorem cut?_entry (h : '=' ∉ name) (text : Text) :
    Text.cut? '=' (entry name text) = some (name, text) :=
  Text.cut?_append h text

/-- An entry whose name holds an equals sign is read as one for the part in front of it. -/
theorem cut?_entry_of_cut? {front back : Text} (h : Text.cut? '=' name = some (front, back))
    (text : Text) :
    Text.cut? '=' (entry name text) = some (front, entry back text) := by
  obtain ⟨rfl, hfront⟩ := Text.eq_of_cut? h
  rw [entry, List.append_assoc, List.cons_append]
  exact Text.cut?_append hfront _

theorem parseBinding_eq_ok_iff {text : Text} {p : Text × Text} :
    parseBinding text = .ok p ↔ Text.cut? '=' text = some p := by
  unfold parseBinding
  cases Text.cut? '=' text <;> simp

theorem mapM_parseBinding_eq_ok_iff {texts : List Text} :
    texts.mapM parseBinding = .ok bindings ↔
      texts.map (Text.cut? '=') = bindings.map some := by
  induction texts generalizing bindings with
  | nil => cases bindings <;> simp [pure, Except.pure]
  | cons text texts ih =>
    rw [List.mapM_cons, bind_eq_ok_iff]
    simp only [parseBinding_eq_ok_iff, bind_eq_ok_iff, ih, pure, Except.pure, Except.ok.injEq]
    constructor
    · rintro ⟨p, hcut, rest, hrest, rfl⟩
      rw [List.map_cons, List.map_cons, hcut, hrest]
    · cases bindings with
      | nil => simp
      | cons p rest =>
        intro h
        obtain ⟨hcut, hrest⟩ := List.cons.inj h
        exact ⟨p, hcut, rest, hrest, rfl⟩

/-- Each entry is cut at its first equals sign, and the last one counts first. -/
theorem parseBindings_eq_ok_iff {texts : List Text} :
    parseBindings texts = .ok bindings ↔
      texts.map (Text.cut? '=') = bindings.reverse.map some := by
  rw [parseBindings, bind_eq_ok_iff, ← mapM_parseBinding_eq_ok_iff]
  constructor
  · rintro ⟨read, hread, h⟩
    rw [← Except.ok.inj h, List.reverse_reverse, hread]
  · intro h
    exact ⟨bindings.reverse, h, by rw [List.reverse_reverse]; rfl⟩

theorem mem_parseBindings {texts : List Text} (h : parseBindings texts = .ok bindings)
    {p : Text × Text} : p ∈ bindings ↔ ∃ text ∈ texts, Text.cut? '=' text = some p := by
  rw [← List.mem_map, parseBindings_eq_ok_iff.mp h]
  simp

/-- No entry supplies a name that holds an equals sign. -/
theorem lookup_parseBindings_eq_none {texts : List Text} (h : parseBindings texts = .ok bindings)
    (hname : '=' ∈ name) : bindings.lookup name = none := by
  refine List.lookup_eq_none_iff.mpr fun p hp => bne_iff_ne.mpr ?_
  rintro rfl
  obtain ⟨text, -, hcut⟩ := (mem_parseBindings h).mp hp
  exact (Text.eq_of_cut? hcut).2 hname

/-! ## One entry for each argument -/

/-- There is one entry for each argument that the template lists, with the value that is assigned
to its name, in any order. -/
def Assigns (template : Text) (value : Text → Text) (entries : List Text) : Prop :=
  entries.Perm ((Inventory.ofTemplate template).arguments.map fun a => entry a.name (value a.name))

instance (template : Text) (value : Text → Text) (entries : List Text) :
    Decidable (Assigns template value entries) :=
  inferInstanceAs (Decidable (List.Perm _ _))

/-- A name holds no equals sign, and none of the listed names goes on behind it with one. -/
structure Suppliable (template name : Text) : Prop where
  plain : '=' ∉ name
  apart : ∀ a ∈ (Inventory.ofTemplate template).arguments, ¬name ++ ['='] <+: a.name

/-- The value that is assigned to a name gets through to every placeholder of that name. -/
structure Reaches (template : Text) (value : Text → Text) (inputs : Inputs) (name : Text) :
    Prop where
  not_missing : name ∉ (expand template inputs).missing
  substituted : ∀ content ∈ contents template, ∀ default choices modifiers,
    Placeholder.parse content = .ok ⟨.argument name default choices, modifiers⟩ →
      (Placeholder.Kind.argument name default choices).resolve inputs = .resolved (value name) ∧
      resolve inputs content = .resolved (Modifier.applyAll modifiers (value name))

theorem Assigns.mem_iff (h : Assigns template value entries) {text : Text} :
    text ∈ entries ↔
      ∃ a ∈ (Inventory.ofTemplate template).arguments, entry a.name (value a.name) = text := by
  rw [List.Perm.mem_iff h, List.mem_map]

theorem Assigns.exists_parseBindings (h : Assigns template value entries) :
    ∃ bindings, parseBindings entries = .ok bindings := by
  refine exists_parseBindings_eq_ok_iff.mpr fun text htext => ?_
  obtain ⟨a, -, rfl⟩ := h.mem_iff.mp htext
  exact mem_entry _ _

/-- If no listed name holds an equals sign, every listed name can be supplied. -/
theorem suppliable_of_plain (h : ∀ a ∈ (Inventory.ofTemplate template).arguments, '=' ∉ a.name)
    {a : Argument} (ha : a ∈ (Inventory.ofTemplate template).arguments) :
    Suppliable template a.name where
  plain := h a ha
  apart b hb hbehind := h b hb (hbehind.subset (by simp))

theorem parseBindings_of_expandInputs {env : Environment} {settings : Settings}
    {options : ExpandOptions} {inputs : Inputs}
    (h : expandInputs env settings template options = .ok inputs) :
    parseBindings options.arguments = .ok inputs.arguments := by
  obtain ⟨arguments, harguments, h⟩ := bind_eq_ok_iff.mp h
  obtain ⟨reference, -, h⟩ := bind_eq_ok_iff.mp h
  rw [harguments, ← Except.ok.inj h]

/-! ## Values that get through -/

/-- Only the entry of a name that can be supplied is read as one for that name. -/
theorem eq_of_cut?_entry (hname : Suppliable template name) {a : Argument}
    (ha : a ∈ (Inventory.ofTemplate template).arguments) {text found : Text}
    (hcut : Text.cut? '=' (entry a.name text) = some (name, found)) :
    a.name = name ∧ text = found := by
  cases hsplit : Text.cut? '=' a.name with
  | none =>
    rw [cut?_entry (Text.cut?_eq_none_iff.mp hsplit)] at hcut
    simpa using hcut
  | some parts =>
    obtain ⟨front, back⟩ := parts
    rw [cut?_entry_of_cut? hsplit, Option.some.injEq, Prod.mk.injEq] at hcut
    obtain ⟨rfl, -⟩ := hcut
    exact absurd ⟨back, by simp [(Text.eq_of_cut? hsplit).1]⟩ (hname.apart a ha)

theorem lookup_of_suppliable (hassigns : Assigns template value entries)
    (hbindings : parseBindings entries = .ok bindings) {a : Argument}
    (ha : a ∈ (Inventory.ofTemplate template).arguments) (hname : Suppliable template a.name) :
    bindings.lookup a.name = some (value a.name) := by
  have hmem : (a.name, value a.name) ∈ bindings :=
    (mem_parseBindings hbindings).mpr
      ⟨_, hassigns.mem_iff.mpr ⟨a, ha, rfl⟩, cut?_entry hname.plain _⟩
  have hsome : (bindings.lookup a.name).isSome :=
    List.lookup_isSome_iff.mpr ⟨_, hmem, beq_self_eq_true _⟩
  obtain ⟨found, hfound⟩ := Option.isSome_iff_exists.mp hsome
  obtain ⟨front, back, rfl, -⟩ := List.lookup_eq_some_iff.mp hfound
  have hcut := (mem_parseBindings hbindings).mp
    (List.mem_append_right front (List.mem_cons_self (a := (a.name, found)) (l := back)))
  obtain ⟨text, htext, hcut⟩ := hcut
  obtain ⟨b, hb, rfl⟩ := hassigns.mem_iff.mp htext
  obtain ⟨hba, rfl⟩ := eq_of_cut?_entry hname hb hcut
  rw [hfound, hba]

/-- A value that is found under its name gets through. -/
theorem reaches_of_lookup {inputs : Inputs}
    (h : inputs.arguments.lookup name = some (value name)) :
    Reaches template value inputs name where
  not_missing hmissing := (mem_missing_iff.mp hmissing).1 (by simp [Inputs.Supplies, h])
  substituted content _ default choices modifiers hparse := by
    have hkind : (Placeholder.Kind.argument name default choices).resolve inputs =
        .resolved (value name) := by simp [Placeholder.Kind.resolve, h]
    refine ⟨hkind, ?_⟩
    rw [resolve_of_ok hparse, hkind]
    rfl

/-- A name that the template does not list has no placeholders. -/
theorem reaches_of_not_listed (h : ∀ a ∈ (Inventory.ofTemplate template).arguments, a.name ≠ name)
    (inputs : Inputs) : Reaches template value inputs name where
  not_missing hmissing := by
    obtain ⟨-, a, ha, rfl, -⟩ := mem_missing_iff.mp hmissing
    obtain ⟨b, hb, hba⟩ := Inventory.exists_mem_arguments ha
    exact h b hb hba
  substituted content hcontent default choices modifiers hparse := by
    have hdeclared : ⟨name, default, choices⟩ ∈ declarations template :=
      mem_declarations.mpr (mem_kinds.mpr ⟨content, hcontent, modifiers, hparse⟩)
    obtain ⟨b, hb, hba⟩ := Inventory.exists_mem_arguments hdeclared
    exact absurd hba (h b hb)

theorem reaches_of_suppliable (hassigns : Assigns template value entries) {inputs : Inputs}
    (hbindings : parseBindings entries = .ok inputs.arguments)
    (hname : ∀ a ∈ (Inventory.ofTemplate template).arguments, a.name = name →
      Suppliable template name) : Reaches template value inputs name := by
  by_cases hlisted : ∃ a ∈ (Inventory.ofTemplate template).arguments, a.name = name
  · obtain ⟨a, ha, rfl⟩ := hlisted
    exact reaches_of_lookup (lookup_of_suppliable hassigns hbindings ha (hname a ha rfl))
  · exact reaches_of_not_listed (fun a ha hname => hlisted ⟨a, ha, hname⟩) inputs

/-! ## Values that do not -/

/-- Where the value of a listed name gets through, it is found under that name, or it is the
default. -/
theorem Reaches.lookup_or_default {inputs : Inputs} {a : Argument}
    (h : Reaches template value inputs a.name)
    (ha : a ∈ (Inventory.ofTemplate template).arguments) :
    (inputs.arguments.lookup a.name).or a.default = some (value a.name) := by
  have hdeclared := List.mem_of_find?_eq_some (Inventory.mem_arguments_iff.mp ha)
  obtain ⟨content, hcontent, modifiers, hparse⟩ := mem_kinds.mp (mem_declarations.mp hdeclared)
  have hkind := (h.substituted content hcontent _ _ _ hparse).1
  cases hor : (inputs.arguments.lookup a.name).or a.default with
  | none => simp [Placeholder.Kind.resolve, hor] at hkind
  | some found => simpa [Placeholder.Kind.resolve, hor] using hkind

/-- The entry that stands last is the first to count. -/
theorem lookup_parseBindings_last {texts : List Text} {last found : Text}
    (h : parseBindings (texts ++ [last]) = .ok bindings)
    (hlast : Text.cut? '=' last = some (name, found)) : bindings.lookup name = some found := by
  have hmap := parseBindings_eq_ok_iff.mp h
  cases bindings with
  | nil => simp at hmap
  | cons p bindings =>
    rw [List.map_append, List.reverse_cons, List.map_append] at hmap
    have hp := (List.append_inj' hmap rfl).2
    simp only [List.map_cons, List.map_nil, List.cons.injEq, and_true, hlast,
      Option.some.injEq] at hp
    subst hp
    simp

/-- Any other listed name has values that do not get through. -/
theorem exists_not_reaches {a : Argument} (ha : a ∈ (Inventory.ofTemplate template).arguments)
    (hname : ¬Suppliable template a.name) :
    ∃ value entries, Assigns template value entries ∧
      ∀ inputs : Inputs, parseBindings entries = .ok inputs.arguments →
        ¬Reaches template value inputs a.name := by
  by_cases hplain : '=' ∈ a.name
  · -- the name is supplied by no entry at all, so any value that is not the default will do
    refine ⟨fun _ => 'x' :: a.default.getD [], _, List.Perm.refl _, fun inputs hbindings h => ?_⟩
    have hor := h.lookup_or_default ha
    rw [lookup_parseBindings_eq_none hbindings hplain, Option.none_or] at hor
    cases hdefault : a.default <;> simp [hdefault] at hor
  · -- the entry of the longer name stands last and takes the place of the value
    have hlonger : ∃ b ∈ (Inventory.ofTemplate template).arguments, a.name ++ ['='] <+: b.name :=
      Decidable.byContradiction fun hnone =>
        hname ⟨hplain, fun b hb hbehind => hnone ⟨b, hb, hbehind⟩⟩
    obtain ⟨b, hb, back, hback⟩ := hlonger
    let all := (Inventory.ofTemplate template).arguments.map fun a => entry a.name []
    have hmem : entry b.name [] ∈ all := List.mem_map_of_mem hb
    refine ⟨fun _ => [], all.erase (entry b.name []) ++ [entry b.name []],
      (List.perm_append_singleton _ _).trans (List.perm_cons_erase hmem).symm,
      fun inputs hbindings h => ?_⟩
    have hcut : Text.cut? '=' b.name = some (a.name, back) := by
      rw [← hback, List.append_assoc]
      exact Text.cut?_append hplain back
    have hor := h.lookup_or_default ha
    rw [lookup_parseBindings_last hbindings (cut?_entry_of_cut? hcut []), Option.some_or] at hor
    simp [entry] at hor

/-! ## Supplying every argument -/

/-- With one entry for each listed argument the template is expanded, and each value gets through
whose name can be supplied; so if no listed name holds an equals sign, nothing is missing and every
argument placeholder is given the value that is assigned to its name. A listed name that cannot be
supplied has a value that does not get through. -/
theorem arguments_supplied_unless_equals (template : Text) :
    (∀ (env : Environment) (settings : Settings) (options : ExpandOptions) (value : Text → Text)
      (reference : Instant), Assigns template value options.arguments →
      parseReference env.now options.reference = .ok reference →
      ∃ inputs, expandInputs env settings template options = .ok inputs ∧
        (∀ r, (performExpand env settings template options).run r =
          .ok (expand template inputs).succeeded
            (delivered env settings options (expand template inputs) r)) ∧
        (∀ name, Suppliable template name → Reaches template value inputs name) ∧
        ((∀ a ∈ (Inventory.ofTemplate template).arguments, '=' ∉ a.name) →
          (expand template inputs).missing = [] ∧
            ∀ name, Reaches template value inputs name)) ∧
    ∀ a ∈ (Inventory.ofTemplate template).arguments, ¬Suppliable template a.name →
      ∃ (options : ExpandOptions) (value : Text → Text), Assigns template value options.arguments ∧
        ∀ env settings inputs, expandInputs env settings template options = .ok inputs →
          ¬Reaches template value inputs a.name := by
  refine ⟨fun env settings options value reference hassigns hreference => ?_, fun a ha hname => ?_⟩
  · obtain ⟨bindings, hbindings⟩ := hassigns.exists_parseBindings
    obtain ⟨inputs, hinputs, rfl, -, -⟩ :=
      @expandInputs_eq_ok settings env template options _ _ hbindings hreference
    refine ⟨inputs, hinputs, fun r => ?_, fun name hname => ?_, fun hplain => ?_⟩
    · exact run_ofExcept_bind_eq_ok_iff.mpr ⟨inputs, hinputs, run_deliverExpansion _ _⟩
    · exact reaches_of_suppliable hassigns hbindings fun _ _ _ => hname
    · have hall (name : Text) : Reaches template value inputs name :=
        reaches_of_suppliable hassigns hbindings
          fun a ha hname => hname ▸ suppliable_of_plain hplain ha
      exact ⟨List.eq_nil_iff_forall_not_mem.mpr fun name => (hall name).not_missing, hall⟩
  · obtain ⟨value, entries, hassigns, h⟩ := exists_not_reaches ha hname
    exact ⟨{ arguments := entries }, value, hassigns, fun env settings inputs hinputs =>
      h inputs (parseBindings_of_expandInputs hinputs)⟩

/-- Values with equals signs get through, also in place of a default, and none gets through to a
name with an equals sign. -/
theorem arguments_supplied_unless_equals_values :
    let template := "{argument name=q | uppercase}{argument name=p default=d}".toList
    let value (name : Text) : Text := if name = "q".toList then "a=b".toList else "=v".toList
    let options : ExpandOptions := { arguments := ["p==v".toList, "q=a=b".toList] }
    let other := '{' :: "argument name=\"a=b\"".toList ++ ['}']
    (∃ inputs, expandInputs {} {} template options = .ok inputs ∧
      (∀ r, (performExpand {} {} template options).run r =
        .ok (expand template inputs).succeeded
          (delivered {} {} options (expand template inputs) r)) ∧
      (expand template inputs).missing = [] ∧ Reaches template value inputs "q".toList ∧
        Reaches template value inputs "p".toList) ∧
    ∃ (options : ExpandOptions) (value : Text → Text), Assigns other value options.arguments ∧
      ∀ env settings inputs, expandInputs env settings other options = .ok inputs →
        ¬Reaches other value inputs "a=b".toList := by
  intro template value options other
  have hassigns : Assigns template value options.arguments := by decide +kernel
  have hplain : ∀ a ∈ (Inventory.ofTemplate template).arguments, '=' ∉ a.name := by decide +kernel
  have hlisted : ⟨"a=b".toList, none, none⟩ ∈ (Inventory.ofTemplate other).arguments := by
    decide +kernel
  obtain ⟨inputs, hinputs, hrun, -, hall⟩ :=
    (arguments_supplied_unless_equals template).1 {} {} options value _ hassigns rfl
  obtain ⟨hmissing, hreaches⟩ := hall hplain
  exact ⟨⟨inputs, hinputs, hrun, hmissing, hreaches _, hreaches _⟩,
    (arguments_supplied_unless_equals other).2 _ hlisted fun hname =>
      absurd hname.plain (by decide)⟩

/-- An entry for a name with an equals sign leaves its argument missing. -/
theorem equals_in_name_not_supplied :
    ¬∀ (template : Text) (env : Environment) (settings : Settings) (options : ExpandOptions)
      (value : Text → Text) (reference : Instant), Assigns template value options.arguments →
      parseReference env.now options.reference = .ok reference →
      ∃ inputs, expandInputs env settings template options = .ok inputs ∧
        (expand template inputs).missing = [] ∧ ∀ name, Reaches template value inputs name := by
  intro h
  let template := '{' :: "argument name=\"a=b\"".toList ++ ['}']
  let options : ExpandOptions := { arguments := ["a=b=v".toList] }
  have hassigns : Assigns template (fun _ => "v".toList) options.arguments := by decide +kernel
  obtain ⟨inputs, hinputs, hmissing, -⟩ := h template {} {} options _ _ hassigns rfl
  have hread : expandInputs {} {} template options =
      .ok { arguments := [("a".toList, "b=v".toList)], reference := Instant.epoch } := by
    decide +kernel
  obtain rfl := Except.ok.inj (hread.symm.trans hinputs)
  have hname : "a=b".toList ∈ (expand template
      { arguments := [("a".toList, "b=v".toList)], reference := Instant.epoch }).missing := by
    decide +kernel
  rw [hmissing] at hname
  exact List.not_mem_nil hname

end LinkTemplate.CommandLine
