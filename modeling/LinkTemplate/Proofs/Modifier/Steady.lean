import LinkTemplate.Modifier

/-!
# Characters that modifiers leave alone

A steady character is changed by no modifier, and what it is makes no difference to the
characters around it : not being blank it stops `trim`, and being neither cased nor
case-ignorable it stops the search of the final sigma rule. Through any list of modifiers, then,
one steady character in a value stays one, and what appears around it is the same for every
steady character (`exists_applyAll_steady`). The digits 0 and 1 are steady, so the two values
that they make stay apart.
-/

namespace LinkTemplate

open Text

/-- No modifier changes the character or looks past it. -/
structure IsSteady (c : Char) : Prop where
  not_blank : isBlank c = false
  upperChar_eq : upperChar c = [c]
  lowerChar_eq : lowerChar c = [c]
  ne_sigma : c ≠ 'Σ'
  not_cased : isCased c = false
  not_ignorable : isCaseIgnorable c = false
  unreserved : Percent.isUnreserved c = true
  escaped_eq : escaped [c] = [c]

theorem isSteady_zero : IsSteady '0' := by
  constructor <;> decide +kernel

theorem isSteady_one : IsSteady '1' := by
  constructor <;> decide +kernel

namespace IsSteady

variable {c : Char} (hc : IsSteady c) (front back : Text)
include hc

/-! ## Each modifier -/

theorem trimStart_append : trimStart (front ++ c :: back) = trimStart front ++ c :: back := by
  unfold trimStart
  induction front with
  | nil => simp [hc.not_blank]
  | cons x front ih =>
    cases hx : isBlank x
    · simp [hx]
    · simpa [List.dropWhile_cons, hx] using ih

theorem trimEnd_append : trimEnd (front ++ c :: back) = front ++ c :: trimEnd back := by
  have hreverse : (front ++ c :: back).reverse = back.reverse ++ c :: front.reverse := by simp
  rw [trimEnd, hreverse, hc.trimStart_append]
  simp [trimEnd]

theorem trim_append : trim (front ++ c :: back) = trimStart front ++ c :: trimEnd back := by
  rw [trim, hc.trimStart_append, hc.trimEnd_append]

theorem upper_append : upper (front ++ c :: back) = upper front ++ c :: upper back := by
  simp [upper, hc.upperChar_eq]

/-- The final sigma rule does not look past the character. -/
theorem startsCased_append : startsCased (front ++ c :: back) = startsCased front := by
  unfold startsCased
  induction front with
  | nil => simp [hc.not_ignorable, hc.not_cased]
  | cons x front ih =>
    cases hx : isCaseIgnorable x
    · simp [hx]
    · simpa [List.dropWhile_cons, hx] using ih

theorem lowerAfter_append_left (t : Text) :
    lowerAfter (front ++ c :: back) t = lowerAfter front t := by
  induction t generalizing front with
  | nil => rfl
  | cons x t ih =>
    have hrest := ih (x :: front)
    rw [List.cons_append] at hrest
    simp only [lowerAfter, lowerSigma, hc.startsCased_append, hrest]

theorem lowerAfter_append (before : Text) :
    lowerAfter before (front ++ c :: back) = lowerAfter before front ++ c :: lower back := by
  induction front generalizing before with
  | nil =>
    have hback := hc.lowerAfter_append_left [] before back
    rw [List.nil_append] at hback
    simp [lowerAfter, hc.ne_sigma, hc.lowerChar_eq, hback, lower]
  | cons x front ih =>
    simp only [List.cons_append, lowerAfter, lowerSigma, hc.startsCased_append, ih,
      List.append_assoc]

theorem lower_append : lower (front ++ c :: back) = lower front ++ c :: lower back :=
  hc.lowerAfter_append front back []

theorem encode_append :
    Percent.encode (front ++ c :: back) = Percent.encode front ++ c :: Percent.encode back := by
  simp [Percent.encode, Percent.encodeChar, hc.unreserved]

theorem escaped_append : escaped (front ++ c :: back) = escaped front ++ c :: escaped back := by
  rw [Text.escaped_append, ← List.singleton_append, Text.escaped_append, hc.escaped_eq,
    List.singleton_append]

theorem stringify_append :
    stringify (front ++ c :: back) = '"' :: escaped front ++ c :: (escaped back ++ ['"']) := by
  rw [stringify, hc.escaped_append]
  simp

end IsSteady

/-! ## Lists of modifiers -/

/-- What a modifier makes of the text around a steady character does not depend on it. -/
theorem Modifier.exists_apply_steady (m : Modifier) (front back : Text) :
    ∃ front' back', ∀ c, IsSteady c → m.apply (front ++ c :: back) = front' ++ c :: back' := by
  cases m with
  | trim => exact ⟨_, _, fun c hc => hc.trim_append front back⟩
  | uppercase => exact ⟨_, _, fun c hc => hc.upper_append front back⟩
  | lowercase => exact ⟨_, _, fun c hc => hc.lower_append front back⟩
  | percentEncode => exact ⟨_, _, fun c hc => hc.encode_append front back⟩
  | jsonStringify => exact ⟨_, _, fun c hc => hc.stringify_append front back⟩

theorem Modifier.exists_applyAll_steady (names : List Text) (front back : Text) :
    ∃ front' back', ∀ c, IsSteady c →
      applyAll names (front ++ c :: back) = front' ++ c :: back' := by
  induction names generalizing front back with
  | nil => exact ⟨front, back, fun c _ => rfl⟩
  | cons name names ih =>
    cases hm : ofName? name with
    | none =>
      obtain ⟨front', back', h⟩ := ih front back
      exact ⟨front', back', fun c hc => by simpa [applyAll, hm] using h c hc⟩
    | some m =>
      obtain ⟨front₁, back₁, h₁⟩ := m.exists_apply_steady front back
      obtain ⟨front', back', h⟩ := ih front₁ back₁
      exact ⟨front', back', fun c hc => by simpa [applyAll, hm, h₁ c hc] using h c hc⟩

/-- Two steady characters give values of one length that differ. -/
theorem Modifier.applyAll_steady_ne (names : List Text) {c d : Char} (hc : IsSteady c)
    (hd : IsSteady d) (hne : c ≠ d) :
    applyAll names [c] ≠ applyAll names [d] ∧
      (applyAll names [c]).length = (applyAll names [d]).length := by
  obtain ⟨front, back, h⟩ := exists_applyAll_steady names [] []
  simp only [List.nil_append] at h
  rw [h c hc, h d hd]
  simp [hne]

end LinkTemplate
