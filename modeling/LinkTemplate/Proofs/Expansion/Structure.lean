import LinkTemplate.Proofs.Expansion.Substitution
import LinkTemplate.Proofs.Expansion.Supply
import LinkTemplate.Proofs.Modifier.Encoded

/-!
# The structure of an expanded address

If percent encoding is the last modifier of every placeholder that takes a value, then values
add no delimiters : the delimiters of an expansion are those of the characters between the
placeholders and of the placeholders that stay as they are written (`delimiters_url`). Which
placeholders stay is all that the inputs decide of them.
-/

namespace LinkTemplate

open Template

namespace Placeholder

/-- Whether a placeholder of the kind may take a value. -/
def Kind.takesValue : Kind → Bool
  | .unknown _ => false
  | _ => true

/-- The last recognised modifier of the placeholder with the given content is percent encoding.
Placeholders that cannot be parsed or take no value need none. -/
def EndsEncoded (content : Text) : Prop :=
  ∀ p ∈ (parse content).toOption, p.kind.takesValue = true →
    (Modifier.recognised p.modifiers).getLast? = some .percentEncode

instance (content : Text) : Decidable (EndsEncoded content) :=
  inferInstanceAs (Decidable (∀ p ∈ (parse content).toOption, _ → _))

/-- A kind that takes no value is kept. -/
theorem Kind.takesValue_of_resolve {kind : Kind} {inputs : Inputs} {value : Text}
    (h : kind.resolve inputs = .resolved value) : kind.takesValue = true := by
  cases kind with
  | argument | clipboard | selection | dated => rfl
  | unknown raw => cases h

end Placeholder

open Placeholder

/-- A resolved placeholder whose last modifier is percent encoding shows no delimiters. -/
theorem delimiters_eq_nil_of_resolve {content value : Text} {inputs : Inputs}
    (hencoded : EndsEncoded content) (h : resolve inputs content = .resolved value) :
    Text.delimiters value = [] := by
  cases hparse : parse content with
  | error d =>
    rw [resolve_of_error hparse] at h
    cases h
  | ok p =>
    rw [resolve_of_ok hparse] at h
    cases hkind : p.kind.resolve inputs with
    | resolved base =>
      rw [hkind] at h
      obtain rfl := Outcome.resolved.inj h
      have hlast := hencoded p (by rw [hparse]; rfl) (Kind.takesValue_of_resolve hkind)
      obtain ⟨before, hbefore⟩ := Modifier.exists_applyAll_eq hlast base
      rw [hbefore]
      exact Text.delimiters_encode before
    | kept | missing | failed =>
      rw [hkind] at h
      cases h

/-- The delimiters that are shown for a placeholder are none or its own. -/
theorem delimiters_shown {content : Text} (hencoded : EndsEncoded content) (inputs : Inputs) :
    Text.delimiters (shown inputs content) =
      if (resolve inputs content).value?.isSome then []
      else Text.delimiters ('{' :: content ++ ['}']) := by
  cases hresolve : resolve inputs content with
  | resolved value =>
    simpa [shown, hresolve, Outcome.value?] using delimiters_eq_nil_of_resolve hencoded hresolve
  | kept | missing | failed => simp [shown, hresolve, Outcome.value?]

/-- The delimiters of an expansion, piece by piece. -/
theorem delimiters_url (template : Text) (inputs : Inputs) :
    Text.delimiters (expand template inputs).url =
      (pieces template).flatMap fun p => Text.delimiters (p.fill (shown inputs)) := by
  rw [expand_url, Text.delimiters_flatMap]

/-- Values that are percent-encoded last cannot change the structure of an address : under any
two inputs that resolve the same placeholders, the expansions have the same characters other
than ASCII letters and digits, `-`, `.`, `_`, `~` and `%`, in the same order. -/
theorem delimiters_url_eq (template : Text)
    (hencoded : ∀ s ∈ spans template, EndsEncoded s.content) (x y : Inputs)
    (hresolved : ∀ s ∈ spans template,
      (resolve x s.content).value?.isSome = (resolve y s.content).value?.isSome) :
    (expand template x).url.filter (fun c => !(c.isAlphanum || "-._~%".toList.contains c)) =
      (expand template y).url.filter
        (fun c => !(c.isAlphanum || "-._~%".toList.contains c)) := by
  have hfilter : ∀ t : Text,
      t.filter (fun c => !(c.isAlphanum || "-._~%".toList.contains c)) = Text.delimiters t :=
    fun t => List.filter_congr fun c _ => by rw [Text.Percent.isEncoded_eq]
  have hpiece : ∀ p ∈ pieces template,
      Text.delimiters (p.fill (shown x)) = Text.delimiters (p.fill (shown y)) := by
    intro p hp
    cases p with
    | char c => rfl
    | placeholder content =>
      obtain ⟨s, hs, rfl⟩ := mem_contents_iff_spans.mp (mem_contents.mpr hp)
      simp only [Piece.fill]
      rw [delimiters_shown (hencoded s hs), delimiters_shown (hencoded s hs), hresolved s hs]
  rw [hfilter, hfilter, delimiters_url, delimiters_url, List.flatMap_def, List.flatMap_def,
    List.map_congr_left hpiece]

/-- Values full of delimiters, for an argument with unknown modifiers around percent encoding
and for a clipboard, beside a selection that is not there and a placeholder of no known kind. -/
theorem delimiters_url_eq_injected :
    let template := "/?q=".toList ++ '{' ::
      "argument name=\"q\" default=\"a|b\" | trim | Percent-Encode | shout".toList ++ '}' ::
      '&' :: '{' :: "clipboard|json-stringify|PERCENT-ENCODE".toList ++ '}' :: '{' ::
      "selection | percent-encode".toList ++ '}' :: '{' :: "foo | trim".toList ++ ['}']
    let x : Inputs :=
      { arguments := [("q".toList, "x&y=#/é".toList)], clipboard := some "?\"".toList,
        reference := default }
    let y : Inputs := { clipboard := some [], reference := default }
    (∀ s ∈ spans template, EndsEncoded s.content) ∧
    (∀ s ∈ spans template,
      (resolve x s.content).value?.isSome = (resolve y s.content).value?.isSome) ∧
    (expand template x).url ≠ (expand template y).url ∧
    (expand template x).url.filter (fun c => !(c.isAlphanum || "-._~%".toList.contains c)) =
      (expand template y).url.filter
        (fun c => !(c.isAlphanum || "-._~%".toList.contains c)) := by
  intro template x y
  have hencoded : ∀ s ∈ spans template, EndsEncoded s.content := by decide +kernel
  have hresolved : ∀ s ∈ spans template,
      (resolve x s.content).value?.isSome = (resolve y s.content).value?.isSome := by
    decide +kernel
  have hne : (expand template x).url ≠ (expand template y).url := by decide +kernel
  exact ⟨hencoded, hresolved, hne, delimiters_url_eq template hencoded x y hresolved⟩

end LinkTemplate
