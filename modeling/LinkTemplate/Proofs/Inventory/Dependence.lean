import LinkTemplate.Proofs.Expansion.Substitution
import LinkTemplate.Proofs.Expansion.Supply
import LinkTemplate.Proofs.Inventory.Declarations
import LinkTemplate.Proofs.Modifier.Steady

/-!
# What an expansion depends on

The inventory of a template is exactly what its expansion depends on. Inputs that agree on it
(`Agree`) give the same expansion. In the other direction, two values that differ in one steady
character get through the modifiers of every placeholder with the same length, so the first
placeholder that shows them tells the two texts apart (`url_ne_of_follows`).
-/

namespace LinkTemplate

open Template

/-! ## Nothing else -/

/-- The inputs are the same in everything that the inventory lists. -/
structure Inventory.Agree (inventory : Inventory) (x y : Inputs) : Prop where
  arguments : ∀ a ∈ inventory.arguments, x.arguments.lookup a.name = y.arguments.lookup a.name
  clipboard : inventory.usesClipboard = true → x.clipboard = y.clipboard
  selection : inventory.usesSelection = true → x.selection = y.selection
  reference : inventory.usesDate = true → x.reference = y.reference
  patterns : inventory.usesDate = true → x.patterns = y.patterns

theorem resolve_eq_of_agree {template : Text} {x y : Inputs}
    (h : (Inventory.ofTemplate template).Agree x y) {kind : Placeholder.Kind}
    (hkind : kind ∈ kinds template) : kind.resolve x = kind.resolve y := by
  cases kind with
  | argument name default choices =>
    obtain ⟨b, hb, rfl⟩ := Inventory.exists_mem_arguments
      (mem_declarations (a := ⟨name, default, choices⟩) |>.mpr hkind)
    simp only [Placeholder.Kind.resolve, h.arguments b hb]
  | clipboard =>
    have huses : (Inventory.ofTemplate template).usesClipboard = true := by
      simpa [Inventory.ofTemplate_eq] using hkind
    simp only [Placeholder.Kind.resolve, h.clipboard huses]
  | selection =>
    have huses : (Inventory.ofTemplate template).usesSelection = true := by
      simpa [Inventory.ofTemplate_eq] using hkind
    simp only [Placeholder.Kind.resolve, h.selection huses]
  | dated style spec =>
    have huses : (Inventory.ofTemplate template).usesDate = true := by
      rw [Inventory.ofTemplate_eq]
      exact List.any_eq_true.mpr ⟨_, hkind, rfl⟩
    simp only [Placeholder.Kind.resolve, h.reference huses, h.patterns huses]
  | unknown raw => rfl

theorem expand_eq_of_agree {template : Text} {x y : Inputs}
    (h : (Inventory.ofTemplate template).Agree x y) : expand template x = expand template y := by
  refine expand_congr fun s hs => resolve_congr fun p hparse => ?_
  have hkind : p.kind ∈ kinds template :=
    mem_kinds.mpr ⟨_, mem_contents_iff_spans.mpr ⟨s, hs, rfl⟩, p.modifiers, hparse⟩
  exact resolve_eq_of_agree h hkind

/-! ## Nothing less -/

/-- Lists of blocks with the same lengths are equal only block by block. -/
theorem eq_of_flatMap_eq {α β : Type} {f g : α → List β} {l : List α}
    (hlength : ∀ a ∈ l, (f a).length = (g a).length) (h : l.flatMap f = l.flatMap g) :
    ∀ a ∈ l, f a = g a := by
  induction l with
  | nil => simp
  | cons a l ih =>
    rw [List.flatMap_cons, List.flatMap_cons] at h
    obtain ⟨hhead, htail⟩ := List.append_inj h (hlength a List.mem_cons_self)
    have hrest := ih (fun b hb => hlength b (List.mem_cons_of_mem _ hb)) htail
    exact List.forall_mem_cons.mpr ⟨hhead, hrest⟩

/-- Placeholders of the kind take the text that the inputs are varied by for their value. -/
def Follows (vary : Text → Inputs) (kind : Placeholder.Kind) : Prop :=
  ∀ v, kind.resolve (vary v) = .resolved v

/-- Placeholders of the kind do not look at the text that the inputs are varied by. -/
def Ignores (vary : Text → Inputs) (kind : Placeholder.Kind) : Prop :=
  ∀ v w, kind.resolve (vary v) = kind.resolve (vary w)

/-- What is shown for a kind that follows the varied text is different for `0` and `1`, and of
one length. -/
theorem shown_of_follows {vary : Text → Inputs} {content : Text} {p : Placeholder}
    (hparse : Placeholder.parse content = .ok p) (h : Follows vary p.kind) :
    shown (vary ['0']) content ≠ shown (vary ['1']) content ∧
      (shown (vary ['0']) content).length = (shown (vary ['1']) content).length := by
  have hshown : ∀ v, shown (vary v) content = Modifier.applyAll p.modifiers v := by
    intro v
    rw [shown, resolve_of_ok hparse, h v]
    rfl
  rw [hshown, hshown]
  exact Modifier.applyAll_steady_ne p.modifiers isSteady_zero isSteady_one (by decide)

theorem shown_of_ignores {vary : Text → Inputs} {content : Text} {p : Placeholder}
    (hparse : Placeholder.parse content = .ok p) (h : Ignores vary p.kind) (v w : Text) :
    shown (vary v) content = shown (vary w) content := by
  rw [shown, shown, resolve_of_ok hparse, resolve_of_ok hparse, h v w]

/-- If every kind follows the varied text or ignores it and a kind of the template follows it,
then the expansions for the texts `0` and `1` differ. -/
theorem url_ne_of_follows {vary : Text → Inputs}
    (h : ∀ kind, Follows vary kind ∨ Ignores vary kind) {template : Text}
    {kind : Placeholder.Kind} (hkind : kind ∈ kinds template) (hfollows : Follows vary kind) :
    (expand template (vary ['0'])).url ≠ (expand template (vary ['1'])).url := by
  have hlength : ∀ p ∈ pieces template, (Piece.fill (shown (vary ['0'])) p).length =
      (Piece.fill (shown (vary ['1'])) p).length := by
    intro piece _
    cases piece with
    | char c => rfl
    | placeholder content =>
      cases hparse : Placeholder.parse content with
      | error d => simp only [Piece.fill, shown, resolve_of_error hparse]
      | ok p =>
        rcases h p.kind with hp | hp
        · exact (shown_of_follows hparse hp).2
        · exact congrArg List.length (shown_of_ignores hparse hp _ _)
  intro heq
  rw [expand_url, expand_url] at heq
  obtain ⟨content, hmem, modifiers, hparse⟩ := mem_kinds.mp hkind
  exact (shown_of_follows hparse hfollows).1
    (eq_of_flatMap_eq hlength heq _ (mem_contents.mp hmem))

theorem follows_or_ignores_supply (inputs : Inputs) (name : Text) (kind : Placeholder.Kind) :
    Follows (inputs.supply name) kind ∨ Ignores (inputs.supply name) kind := by
  by_cases h : ∃ default choices, kind = .argument name default choices
  · obtain ⟨default, choices, rfl⟩ := h
    exact Or.inl fun v => inputs.resolve_supply_self name v default choices
  · have hne : ∀ default choices, kind ≠ .argument name default choices :=
      fun default choices he => h ⟨default, choices, he⟩
    refine Or.inr fun v w => ?_
    rw [inputs.resolve_supply_of_ne name v hne, inputs.resolve_supply_of_ne name w hne]

theorem follows_or_ignores_clipboard (inputs : Inputs) (kind : Placeholder.Kind) :
    Follows (fun v => { inputs with clipboard := some v }) kind ∨
      Ignores (fun v => { inputs with clipboard := some v }) kind := by
  cases kind with
  | clipboard => exact Or.inl fun v => rfl
  | argument | selection | dated | unknown => exact Or.inr fun v w => rfl

theorem follows_or_ignores_selection (inputs : Inputs) (kind : Placeholder.Kind) :
    Follows (fun v => { inputs with selection := some v }) kind ∨
      Ignores (fun v => { inputs with selection := some v }) kind := by
  cases kind with
  | selection => exact Or.inl fun v => rfl
  | argument | clipboard | dated | unknown => exact Or.inr fun v w => rfl

/-- An expansion depends on what the inventory lists and on nothing else : inputs that agree on
it give the same expansion, and for each argument, for a clipboard and for a selection that it
lists, whatever the other inputs are, there are two texts whose expansions differ. -/
theorem inventory_exact (template : Text) :
    let inventory := Inventory.ofTemplate template
    (∀ x y, inventory.Agree x y → expand template x = expand template y) ∧
    (∀ a ∈ inventory.arguments, ∀ inputs : Inputs, ∃ v w,
      (expand template (inputs.supply a.name v)).url ≠
        (expand template (inputs.supply a.name w)).url) ∧
    (inventory.usesClipboard = true → ∀ inputs : Inputs, ∃ v w,
      (expand template { inputs with clipboard := some v }).url ≠
        (expand template { inputs with clipboard := some w }).url) ∧
    (inventory.usesSelection = true → ∀ inputs : Inputs, ∃ v w,
      (expand template { inputs with selection := some v }).url ≠
        (expand template { inputs with selection := some w }).url) := by
  refine ⟨fun x y => expand_eq_of_agree, ?_, ?_, ?_⟩
  · intro a ha inputs
    have hkind := mem_declarations.mp (List.mem_of_find?_eq_some (Inventory.mem_arguments_iff.mp ha))
    exact ⟨_, _, url_ne_of_follows (follows_or_ignores_supply inputs a.name) hkind
      fun v => inputs.resolve_supply_self a.name v a.default a.choices⟩
  · intro huses inputs
    have hkind : .clipboard ∈ kinds template := by simpa [Inventory.ofTemplate_eq] using huses
    exact ⟨_, _, url_ne_of_follows (follows_or_ignores_clipboard inputs) hkind fun v => rfl⟩
  · intro huses inputs
    have hkind : .selection ∈ kinds template := by simpa [Inventory.ofTemplate_eq] using huses
    exact ⟨_, _, url_ne_of_follows (follows_or_ignores_selection inputs) hkind fun v => rfl⟩

/-- An argument with a default behind two modifiers, and a clipboard and a selection behind a
brace that stays open. -/
theorem inventory_exact_argument :
    let template := '{' :: "argument name=\"q\" default=\"0\" | lowercase | json-stringify".toList ++
      '}' :: '{' :: '{' :: '}' :: '{' :: "clipboard | trim".toList ++ '}' :: '{' ::
      "selection".toList ++ ['}', '{']
    let inventory := Inventory.ofTemplate template
    let q : Argument := ⟨"q".toList, some "0".toList, none⟩
    let x : Inputs := { arguments := [("p".toList, [])], reference := default }
    let y : Inputs := { reference := default, patterns := { date := [] } }
    inventory.Agree x y ∧ expand template x = expand template y ∧
    q ∈ inventory.arguments ∧ (∃ v w,
      (expand template (x.supply q.name v)).url ≠ (expand template (x.supply q.name w)).url) ∧
    inventory.usesClipboard = true ∧ (∃ v w,
      (expand template { x with clipboard := some v }).url ≠
        (expand template { x with clipboard := some w }).url) ∧
    inventory.usesSelection = true ∧ ∃ v w,
      (expand template { x with selection := some v }).url ≠
        (expand template { x with selection := some w }).url := by
  intro template inventory q x y
  obtain ⟨hagree, hargument, hclipboard, hselection⟩ := inventory_exact template
  have hinventory : inventory =
      { arguments := [q], usesClipboard := true, usesSelection := true } := by decide +kernel
  have hxy : inventory.Agree x y := by
    rw [hinventory]
    constructor <;> decide
  have hq : q ∈ inventory.arguments := by rw [hinventory]; exact List.mem_singleton_self q
  have hc : inventory.usesClipboard = true := by rw [hinventory]
  have hs : inventory.usesSelection = true := by rw [hinventory]
  exact ⟨hxy, hagree x y hxy, hq, hargument q hq x, hc, hclipboard hc x, hs, hselection hs x⟩

end LinkTemplate
