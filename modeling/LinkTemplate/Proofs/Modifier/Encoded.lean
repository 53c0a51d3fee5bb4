import LinkTemplate.Modifier

/-!
# What percent encoding leaves of a value

Percent encoding writes unreserved characters, percent signs and nothing else
(`isEncoded_of_mem_encode`). Names that no modifier has do nothing, so the value that a list of
modifiers gives is one that the last recognised modifier made (`exists_applyAll_eq`). If that
modifier is percent encoding, the value has no character that could be a delimiter.
-/

namespace LinkTemplate

namespace Text

namespace Percent

/-! ## The alphabet -/

/-- Whether a character may stand in percent-encoded text. -/
def isEncoded (c : Char) : Bool :=
  isUnreserved c || c == '%'

/-- The ASCII letters and digits, `-`, `.`, `_`, `~` and `%`. -/
theorem isEncoded_eq (c : Char) : isEncoded c = (c.isAlphanum || "-._~%".toList.contains c) := by
  rw [Bool.eq_iff_iff]
  simp [isEncoded, isUnreserved, or_assoc]

theorem isUnreserved_hexCapital : ∀ n < 16, isUnreserved (hexCapital n) = true := by
  decide

theorem isEncoded_of_mem_encodeByte {b : UInt8} {c : Char} (h : c ∈ encodeByte b) :
    isEncoded c = true := by
  have hb : b.toNat < 256 := b.toNat_lt
  simp only [encodeByte, List.mem_cons, List.not_mem_nil, or_false] at h
  rcases h with rfl | rfl | rfl
  · rfl
  · rw [isEncoded, isUnreserved_hexCapital _ (by omega), Bool.true_or]
  · rw [isEncoded, isUnreserved_hexCapital _ (by omega), Bool.true_or]

theorem isEncoded_of_mem_encodeChar {c x : Char} (h : x ∈ encodeChar c) : isEncoded x = true := by
  unfold encodeChar at h
  split at h
  · next hc =>
    obtain rfl := List.mem_singleton.mp h
    rw [isEncoded, hc, Bool.true_or]
  · obtain ⟨b, -, hx⟩ := List.mem_flatMap.mp h
    exact isEncoded_of_mem_encodeByte hx

theorem isEncoded_of_mem_encode {t : Text} {c : Char} (h : c ∈ encode t) : isEncoded c = true := by
  obtain ⟨x, -, hc⟩ := List.mem_flatMap.mp h
  exact isEncoded_of_mem_encodeChar hc

end Percent

/-- The characters of a text that percent encoding writes otherwise. They are what gives an
address its structure. -/
def delimiters (t : Text) : Text :=
  t.filter fun c => !Percent.isEncoded c

theorem delimiters_encode (t : Text) : delimiters (Percent.encode t) = [] := by
  refine List.filter_eq_nil_iff.mpr fun c hc => ?_
  simp [Percent.isEncoded_of_mem_encode hc]

theorem delimiters_flatMap {α : Type} (f : α → Text) (l : List α) :
    delimiters (l.flatMap f) = l.flatMap fun a => delimiters (f a) :=
  List.filter_flatMap

end Text

/-! ## The last modifier -/

namespace Modifier

/-- The modifiers that the names stand for, where names that no modifier has are left out. -/
def recognised (names : List Text) : List Modifier :=
  names.filterMap ofName?

theorem applyAll_eq_foldl (names : List Text) (value : Text) :
    applyAll names value = (recognised names).foldl (fun value m => m.apply value) value := by
  induction names generalizing value with
  | nil => rfl
  | cons name names ih =>
    have hstep : applyAll (name :: names) value =
        applyAll names (((ofName? name).map (·.apply value)).getD value) := rfl
    rw [hstep, ih, recognised, recognised]
    cases hname : ofName? name with
    | none => rw [List.filterMap_cons_none hname, Option.map_none, Option.getD_none]
    | some m =>
      rw [List.filterMap_cons_some hname, List.foldl_cons, Option.map_some, Option.getD_some]

/-- The value that modifiers give is one that the last of them made. -/
theorem exists_applyAll_eq {names : List Text} {m : Modifier}
    (h : (recognised names).getLast? = some m) (value : Text) :
    ∃ before, applyAll names value = m.apply before := by
  obtain ⟨ms, hms⟩ := List.getLast?_eq_some_iff.mp h
  rw [applyAll_eq_foldl, hms, List.foldl_append]
  exact ⟨_, rfl⟩

end Modifier

end LinkTemplate
