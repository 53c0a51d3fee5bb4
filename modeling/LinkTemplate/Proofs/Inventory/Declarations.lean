import LinkTemplate.Inventory
import LinkTemplate.Proofs.Template.Pieces

/-!
# The declarations behind an inventory

Every argument placeholder of a template declares an argument, and one name may be declared more
than once, with defaults that differ. `declarations` lists them all. An inventory keeps the
first declaration of each name (`mem_arguments_iff`), and the rest of it says which kinds of
placeholders there are (`ofTemplate_eq`).
-/

namespace LinkTemplate

namespace Placeholder.Kind

/-- The argument that a placeholder declares. -/
def argument? : Placeholder.Kind → Option Argument
  | .argument name default choices => some ⟨name, default, choices⟩
  | _ => none

/-- The attributes of a date placeholder. -/
def dateSpec? : Placeholder.Kind → Option DateSpec
  | .dated _ spec => some spec
  | _ => none

end Placeholder.Kind

namespace Template

/-- The kinds of the placeholders that can be parsed, in order. -/
def kinds (template : Text) : List Placeholder.Kind :=
  (contents template).filterMap fun content =>
    (Placeholder.parse content).toOption.map (·.kind)

/-- The arguments that the placeholders of a template declare, in order and with repetitions. -/
def declarations (template : Text) : List Argument :=
  (kinds template).filterMap (·.argument?)

theorem mem_kinds {template : Text} {kind : Placeholder.Kind} :
    kind ∈ kinds template ↔
      ∃ content ∈ contents template, ∃ modifiers,
        Placeholder.parse content = .ok ⟨kind, modifiers⟩ := by
  simp only [kinds, List.mem_filterMap, Option.map_eq_some_iff]
  constructor
  · rintro ⟨content, hmem, p, hp, rfl⟩
    refine ⟨content, hmem, p.modifiers, ?_⟩
    cases hparse : Placeholder.parse content with
    | error d => simp [hparse, Except.toOption] at hp
    | ok q =>
      simp only [hparse, Except.toOption, Option.some.injEq] at hp
      rw [hp]
  · rintro ⟨content, hmem, modifiers, hparse⟩
    exact ⟨content, hmem, _, by rw [hparse]; rfl, rfl⟩

theorem mem_declarations {template : Text} {a : Argument} :
    a ∈ declarations template ↔ .argument a.name a.default a.choices ∈ kinds template := by
  rw [declarations, List.mem_filterMap]
  constructor
  · rintro ⟨kind, hmem, h⟩
    cases kind <;> simp only [Placeholder.Kind.argument?, Option.some.injEq, reduceCtorEq] at h
    subst h
    exact hmem
  · intro hmem
    exact ⟨_, hmem, rfl⟩

end Template

open Template

namespace Inventory

/-! ## First declarations -/

/-- The arguments whose name is neither in `seen` nor the name of an earlier one. -/
def firstsFrom (seen : List Text) : List Argument → List Argument
  | [] => []
  | a :: rest =>
    if a.name ∈ seen then firstsFrom seen rest else a :: firstsFrom (seen ++ [a.name]) rest

theorem mem_firstsFrom {seen : List Text} {as : List Argument} {a : Argument} :
    a ∈ firstsFrom seen as ↔ a.name ∉ seen ∧ as.find? (·.name = a.name) = some a := by
  induction as generalizing seen with
  | nil => simp [firstsFrom]
  | cons b rest ih =>
    by_cases hseen : b.name ∈ seen
    · have hne : a.name ∉ seen → b.name ≠ a.name := fun h he => h (he ▸ hseen)
      rw [firstsFrom, if_pos hseen, ih]
      refine and_congr_right fun h => ?_
      rw [List.find?_cons_of_neg (by simpa using hne h)]
    · rw [firstsFrom, if_neg hseen, List.mem_cons, ih]
      by_cases hname : b.name = a.name
      · rw [List.find?_cons_of_pos (by simpa using hname)]
        simp only [List.mem_append, List.mem_singleton, hname, not_or, not_true, and_false,
          false_and, or_false, Option.some.injEq]
        exact ⟨fun h => ⟨hname ▸ hseen, h.symm⟩, fun h => h.2.symm⟩
      · have hne : a ≠ b := fun h => hname (h ▸ rfl)
        rw [List.find?_cons_of_neg (by simpa using hname)]
        simp [hne, Ne.symm hname]

/-- Only which names have been seen matters. -/
theorem firstsFrom_congr {seen seen' : List Text} (h : ∀ name, name ∈ seen ↔ name ∈ seen')
    (as : List Argument) : firstsFrom seen as = firstsFrom seen' as := by
  induction as generalizing seen seen' with
  | nil => rfl
  | cons a rest ih =>
    have hadd : ∀ name, name ∈ seen ++ [a.name] ↔ name ∈ seen' ++ [a.name] := by
      simp [h]
    simp only [firstsFrom, h a.name, ih h, ih hadd]

/-- Names that have been seen before are taken out of the first declarations. -/
theorem firstsFrom_append (seen more : List Text) (as : List Argument) :
    firstsFrom (seen ++ more) as = (firstsFrom more as).filter (·.name ∉ seen) := by
  induction as generalizing more with
  | nil => rfl
  | cons a rest ih =>
    by_cases hmore : a.name ∈ more
    · rw [firstsFrom, if_pos (List.mem_append_right _ hmore), ih, firstsFrom, if_pos hmore]
    by_cases hseen : a.name ∈ seen
    · have hadd : ∀ name, name ∈ seen ++ more ↔ name ∈ seen ++ (more ++ [a.name]) := by
        grind
      rw [firstsFrom, if_pos (List.mem_append_left _ hseen), firstsFrom_congr hadd, ih, firstsFrom,
        if_neg hmore, List.filter_cons_of_neg (by simpa using hseen)]
    · have hnot : a.name ∉ seen ++ more := by simp [hseen, hmore]
      rw [firstsFrom, if_neg hnot, List.append_assoc, ih, firstsFrom, if_neg hmore,
        List.filter_cons_of_pos (by simpa using hseen)]

/-! ## The whole inventory -/

/-- An inventory with more placeholders behind its own. -/
theorem foldl_add (ks : List Placeholder.Kind) (i : Inventory) :
    ks.foldl add i =
      { arguments := i.arguments ++
          firstsFrom (i.arguments.map (·.name)) (ks.filterMap (·.argument?))
        usesClipboard := i.usesClipboard || decide (.clipboard ∈ ks)
        usesSelection := i.usesSelection || decide (.selection ∈ ks)
        usesDate := i.usesDate || ks.any (·.dateSpec?.isSome)
        dateFormats := i.dateFormats ++ (ks.filterMap (·.dateSpec?)).filterMap (·.format) } := by
  induction ks generalizing i with
  | nil => simp [firstsFrom]
  | cons k ks ih =>
    rw [List.foldl_cons, ih]
    cases k with
    | argument name default choices =>
      have hfirst : (.argument name default choices :: ks).filterMap (·.argument?) =
          (⟨name, default, choices⟩ : Argument) :: ks.filterMap (·.argument?) := rfl
      rw [hfirst, firstsFrom, add]
      by_cases hname : name ∈ i.arguments.map (·.name)
      · have hany : i.arguments.any (·.name = name) = true := by simpa using hname
        rw [if_pos hany, if_pos hname]
        simp [Placeholder.Kind.dateSpec?]
      · have hany : ¬i.arguments.any (·.name = name) = true := by simpa using hname
        rw [if_neg hany, if_neg hname]
        simp [Placeholder.Kind.dateSpec?]
    | clipboard => simp [add, Placeholder.Kind.argument?, Placeholder.Kind.dateSpec?]
    | selection => simp [add, Placeholder.Kind.argument?, Placeholder.Kind.dateSpec?]
    | dated style spec =>
      cases hf : spec.format <;>
        simp [add, Placeholder.Kind.argument?, Placeholder.Kind.dateSpec?, hf]
    | unknown raw => simp [add, Placeholder.Kind.argument?, Placeholder.Kind.dateSpec?]

theorem ofTemplate_eq_foldl (template : Text) :
    ofTemplate template = (kinds template).foldl add {} := by
  rw [kinds, List.foldl_filterMap, ofTemplate, ← map_content_spans, List.foldl_map]
  congr 1
  funext i s
  unfold addContent
  cases Placeholder.parse s.content <;> rfl

/-- The first declarations, and which other kinds there are. -/
theorem ofTemplate_eq (template : Text) :
    ofTemplate template =
      { arguments := firstsFrom [] (declarations template)
        usesClipboard := decide (.clipboard ∈ kinds template)
        usesSelection := decide (.selection ∈ kinds template)
        usesDate := (kinds template).any (·.dateSpec?.isSome)
        dateFormats := ((kinds template).filterMap (·.dateSpec?)).filterMap (·.format) } := by
  rw [ofTemplate_eq_foldl, foldl_add]
  simp [declarations]

/-- An inventory lists an argument if it is the first declaration of its name. -/
theorem mem_arguments_iff {template : Text} {a : Argument} :
    a ∈ (ofTemplate template).arguments ↔
      (declarations template).find? (·.name = a.name) = some a := by
  rw [ofTemplate_eq, mem_firstsFrom]
  simp

/-- Every name that is declared is listed, by its first declaration. -/
theorem exists_mem_arguments {template : Text} {a : Argument} (h : a ∈ declarations template) :
    ∃ b ∈ (ofTemplate template).arguments, b.name = a.name := by
  have hsome : ((declarations template).find? (·.name = a.name)).isSome := by
    rw [List.find?_isSome]
    exact ⟨a, h, by simp⟩
  obtain ⟨b, hb⟩ := Option.isSome_iff_exists.mp hsome
  have hname : b.name = a.name := by simpa using List.find?_some hb
  exact ⟨b, mem_arguments_iff.mpr (by rw [hname]; exact hb), hname⟩

end Inventory

end LinkTemplate
