import LinkTemplate.Text.Blank

/-!
# Trimming

A text is a trimmed text with blank characters around it (`exists_eq_append_trim`), and blanks
added around a text do not change what trimming leaves of it. A text is trimmed if neither its
first nor its last character is blank (`trim_eq_self_iff`).
-/

namespace LinkTemplate.Text

/-- Every character of the text is blank. -/
def AllBlank (t : Text) : Prop :=
  ∀ c ∈ t, isBlank c = true

instance (t : Text) : Decidable (AllBlank t) :=
  List.decidableBAll (fun c => isBlank c = true) t

theorem AllBlank.reverse {t : Text} (h : AllBlank t) : AllBlank t.reverse :=
  fun c hc => h c (List.mem_reverse.mp hc)

theorem trimStart_append_of_blank {front : Text} (h : AllBlank front) (t : Text) :
    trimStart (front ++ t) = trimStart t :=
  List.dropWhile_append_of_pos h

theorem trimEnd_append_of_blank {back : Text} (h : AllBlank back) (t : Text) :
    trimEnd (t ++ back) = trimEnd t := by
  rw [trimEnd, List.reverse_append, trimStart_append_of_blank h.reverse, trimEnd]

theorem trimStart_eq_nil_of_blank {t : Text} (h : AllBlank t) : trimStart t = [] := by
  have happend := trimStart_append_of_blank h []
  rwa [List.append_nil] at happend

theorem trimStart_append_of_ne_nil {t : Text} (h : trimStart t ≠ []) (back : Text) :
    trimStart (t ++ back) = trimStart t ++ back := by
  have hne : t.dropWhile isBlank ≠ [] := h
  simp [trimStart, List.dropWhile_append, hne]

/-- Blank characters in front of a text are trimmed. -/
theorem trim_append_left {front : Text} (h : AllBlank front) (t : Text) :
    trim (front ++ t) = trim t := by
  rw [trim, trimStart_append_of_blank h, trim]

theorem exists_eq_append_trimStart (t : Text) :
    ∃ front, AllBlank front ∧ t = front ++ trimStart t :=
  ⟨t.takeWhile isBlank, List.all_eq_true.mp List.all_takeWhile,
    List.takeWhile_append_dropWhile.symm⟩

/-- Blank characters behind a text are trimmed. -/
theorem trim_append_right {back : Text} (h : AllBlank back) (t : Text) :
    trim (t ++ back) = trim t := by
  by_cases hnil : trimStart t = []
  · obtain ⟨front, hfront, ht⟩ := exists_eq_append_trimStart t
    rw [hnil, List.append_nil] at ht
    rw [ht, trim_append_left hfront, trim, trim, trimStart_eq_nil_of_blank h,
      trimStart_eq_nil_of_blank hfront]
  · rw [trim, trimStart_append_of_ne_nil hnil, trimEnd_append_of_blank h, trim]

theorem exists_eq_append_trimEnd (t : Text) :
    ∃ back, AllBlank back ∧ t = trimEnd t ++ back := by
  obtain ⟨front, hfront, h⟩ := exists_eq_append_trimStart t.reverse
  refine ⟨front.reverse, hfront.reverse, ?_⟩
  rw [trimEnd, ← List.reverse_append, ← h, List.reverse_reverse]

/-- A text is what trimming leaves of it, with blank characters around. -/
theorem exists_eq_append_trim (t : Text) :
    ∃ front back, AllBlank front ∧ AllBlank back ∧ t = front ++ (trim t ++ back) := by
  obtain ⟨front, hfront, hstart⟩ := exists_eq_append_trimStart t
  obtain ⟨back, hback, hend⟩ := exists_eq_append_trimEnd (trimStart t)
  exact ⟨front, back, hfront, hback, by rw [trim, ← hend, ← hstart]⟩

theorem trim_trim (t : Text) : trim (trim t) = trim t := by
  obtain ⟨front, back, hfront, hback, h⟩ := exists_eq_append_trim t
  calc trim (trim t) = trim (front ++ (trim t ++ back)) := by
        rw [trim_append_left hfront, trim_append_right hback]
    _ = trim t := by rw [← h]

theorem trim_eq_nil_iff {t : Text} : trim t = [] ↔ AllBlank t := by
  constructor
  · intro hnil
    obtain ⟨front, back, hfront, hback, h⟩ := exists_eq_append_trim t
    rw [h, hnil, List.nil_append]
    exact List.forall_mem_append.mpr ⟨hfront, hback⟩
  · intro h
    rw [trim, trimStart_eq_nil_of_blank h]
    rfl

theorem mem_of_mem_trim {c : Char} {t : Text} (h : c ∈ trim t) : c ∈ t := by
  obtain ⟨front, back, -, -, ht⟩ := exists_eq_append_trim t
  rw [ht]
  exact List.mem_append_right front (List.mem_append_left back h)

/-- Trimming keeps every character that is not blank. -/
theorem count_trim {c : Char} (hc : isBlank c = false) (t : Text) :
    (trim t).count c = t.count c := by
  have hzero : ∀ s : Text, AllBlank s → s.count c = 0 := by
    intro s hs
    refine List.count_eq_zero.mpr fun hmem => ?_
    rw [hs c hmem] at hc
    exact Bool.noConfusion hc
  obtain ⟨front, back, hfront, hback, h⟩ := exists_eq_append_trim t
  calc (trim t).count c = (front ++ (trim t ++ back)).count c := by
        simp [hzero front hfront, hzero back hback]
    _ = t.count c := by rw [← h]

theorem trimStart_eq_self_iff {t : Text} :
    trimStart t = t ↔ ∀ c, t.head? = some c → isBlank c = false := by
  cases t with
  | nil => simp [trimStart]
  | cons c t =>
    cases hc : isBlank c with
    | false => simp [trimStart, hc]
    | true =>
      have hlength : (trimStart (c :: t)).length ≤ t.length := by
        rw [trimStart, List.dropWhile_cons_of_pos hc]
        exact (List.dropWhile_sublist _).length_le
      simp only [List.head?_cons, Option.some.injEq, forall_eq', hc, Bool.true_eq_false, iff_false]
      intro h
      rw [h, List.length_cons] at hlength
      omega

theorem trimEnd_eq_self_iff {t : Text} :
    trimEnd t = t ↔ ∀ c, t.getLast? = some c → isBlank c = false := by
  rw [trimEnd, List.reverse_eq_iff, trimStart_eq_self_iff, List.head?_reverse]

/-- A text is trimmed if neither its first nor its last character is blank. -/
theorem trim_eq_self_iff {t : Text} :
    trim t = t ↔ (∀ c, t.head? = some c → isBlank c = false) ∧
      ∀ c, t.getLast? = some c → isBlank c = false := by
  rw [← trimStart_eq_self_iff, ← trimEnd_eq_self_iff]
  constructor
  · intro h
    obtain ⟨front, -, hstart⟩ := exists_eq_append_trimStart t
    obtain ⟨back, -, hend⟩ := exists_eq_append_trimEnd (trimStart t)
    have hlength := congrArg List.length hstart
    have hlength' := congrArg List.length hend
    rw [show trimEnd (trimStart t) = t from h] at hlength'
    simp only [List.length_append] at hlength hlength'
    obtain rfl : front = [] := List.eq_nil_of_length_eq_zero (by omega)
    rw [List.nil_append] at hstart
    have htrim : trimEnd (trimStart t) = t := h
    rw [← hstart] at htrim
    exact ⟨hstart.symm, htrim⟩
  · rintro ⟨hstart, hend⟩
    rw [trim, hstart, hend]

theorem trimStart_append_cons {c : Char} (hc : isBlank c = false) (s t : Text) :
    trimStart (s ++ c :: t) = trimStart s ++ c :: t := by
  rw [trimStart, List.dropWhile_append, List.dropWhile_cons_of_neg (Bool.eq_false_iff.mp hc)]
  split
  · next h => rw [trimStart, List.isEmpty_iff.mp h, List.nil_append]
  · rfl

theorem trimEnd_append_cons {c : Char} (hc : isBlank c = false) (s t : Text) :
    trimEnd (s ++ c :: t) = s ++ c :: trimEnd t := by
  rw [trimEnd, List.reverse_append, List.reverse_cons, List.append_assoc, List.singleton_append,
    trimStart_append_cons hc, trimEnd]
  simp

/-- Trimming a text at a character that is not blank trims the two sides at their outer ends. -/
theorem trim_append_cons_eq {c : Char} (hc : isBlank c = false) (s t : Text) :
    trim (s ++ c :: t) = trimStart s ++ c :: trimEnd t := by
  rw [trim, trimStart_append_cons hc, trimEnd_append_cons hc]

theorem trim_trimStart (t : Text) : trim (trimStart t) = trim t := by
  obtain ⟨front, hfront, h⟩ := exists_eq_append_trimStart t
  calc trim (trimStart t) = trim (front ++ trimStart t) := (trim_append_left hfront _).symm
    _ = trim t := by rw [← h]

theorem trim_trimEnd (t : Text) : trim (trimEnd t) = trim t := by
  obtain ⟨back, hback, h⟩ := exists_eq_append_trimEnd t
  calc trim (trimEnd t) = trim (trimEnd t ++ back) := (trim_append_right hback _).symm
    _ = trim t := by rw [← h]

/-- Two trimmed texts with a character between them that is not blank. -/
theorem trim_append_cons {s t : Text} {c : Char} (hc : isBlank c = false) (hs : trim s = s)
    (ht : trim t = t) : trim (s ++ c :: t) = s ++ c :: t := by
  rw [trim_append_cons_eq hc, trimStart_eq_self_iff.mpr (trim_eq_self_iff.mp hs).1,
    trimEnd_eq_self_iff.mpr (trim_eq_self_iff.mp ht).2]

end LinkTemplate.Text
