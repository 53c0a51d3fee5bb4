import LinkTemplate.Json.Printer
import LinkTemplate.Json.Reader

/-!
# Strings between quotes

What `quote` writes is read back as the same text, whatever follows (`readString_quote`). Each
character is written as one piece (`readPieces_escapeChar`) : most stand for themselves, some
have a short escape, and the other control characters are written as a unit, which is never half
of a surrogate pair.
-/

namespace LinkTemplate.Json

/-- The piece that a character is written as. -/
def Piece.ofChar (c : Char) : Piece :=
  if c.toNat < 0x20 ∧ c ∉ ['\x08', '\x0c', '\n', '\r', '\t'] then .unit c.toNat else .char c

/-- The digits that a control character is written with name it. -/
theorem unit?_control {n : Nat} (h : n < 0x20) :
    unit? '0' '0' (Text.hexDigit (n / 16)) (Text.hexDigit (n % 16)) = some n := by
  have hzero : Text.hexValue? '0' = some 0 := by decide
  have hhigh := Text.hexValue?_hexDigit (n / 16) (by omega)
  have hlow := Text.hexValue?_hexDigit (n % 16) (by omega)
  simp only [unit?, List.mapM_cons, List.mapM_nil, hzero, hhigh, hlow, Option.pure_def,
    Option.bind_eq_bind, Option.bind_some, List.foldl_cons, List.foldl_nil, Option.some.injEq]
  omega

theorem readPieces_plain {c : Char} (hcontrol : ¬c.toNat < 0x20) (hquote : c ≠ '"')
    (hbackslash : c ≠ '\\') (t : Text) :
    readPieces (c :: t) = (readPieces t).map fun (pieces, rest) => (.char c :: pieces, rest) := by
  rw [readPieces]
  · cases h : readPieces t <;> simp [hcontrol, hbackslash]
  · exact hquote
  · exact fun _ _ _ _ _ hc _ => hbackslash hc
  · exact fun _ _ hc _ => hbackslash hc

theorem readPieces_shortEscape {e c : Char} (h : shortEscape? e = some c) (t : Text) :
    readPieces ('\\' :: e :: t) =
      (readPieces t).map fun (pieces, rest) => (.char c :: pieces, rest) := by
  have hunit : e ≠ 'u' := by
    rintro rfl
    simp [shortEscape?] at h
  rw [readPieces]
  · cases hp : readPieces t <;> simp [h]
  · intro _ _ _ _ _ he _
    exact hunit he

theorem readPieces_escapeChar (c : Char) (t : Text) :
    readPieces (escapeChar c ++ t) =
      (readPieces t).map fun (pieces, rest) => (Piece.ofChar c :: pieces, rest) := by
  unfold escapeChar
  split
  iterate 7 exact readPieces_shortEscape rfl t
  next hquote hbackslash hbackspace hfeed hnewline hreturn htab =>
  split
  next hcontrol =>
    have hpiece : Piece.ofChar c = .unit c.toNat :=
      if_pos ⟨hcontrol, by simp_all⟩
    cases h : readPieces t <;> simp [readPieces, unit?_control hcontrol, hpiece, h]
  next hplain =>
    have hpiece : Piece.ofChar c = .char c := if_neg fun hc => hplain hc.1
    rw [List.singleton_append, readPieces_plain hplain hquote hbackslash, hpiece]

/-! ## Texts -/

/-- A control character is no half of a surrogate pair, so what follows cannot join it. -/
theorem assemble?_ofChar (c : Char) (pieces : List Piece) :
    assemble? (Piece.ofChar c :: pieces) = (assemble? pieces).map (c :: ·) := by
  unfold Piece.ofChar
  split
  next h =>
    have hhigh : isHighSurrogate c.toNat = false := by
      simp only [isHighSurrogate, Bool.and_eq_false_iff, decide_eq_false_iff_not]
      omega
    have hlow : isLowSurrogate c.toNat = false := by
      simp only [isLowSurrogate, Bool.and_eq_false_iff, decide_eq_false_iff_not]
      omega
    rcases pieces with _ | ⟨_ | _, pieces⟩ <;> simp [assemble?, hhigh, hlow, Char.ofNat_toNat]
  · rfl

theorem assemble?_map_ofChar (t : Text) : assemble? (t.map Piece.ofChar) = some t := by
  induction t with
  | nil => rfl
  | cons c t ih => rw [List.map_cons, assemble?_ofChar, ih, Option.map_some]

theorem readPieces_escaped (t rest : Text) :
    readPieces (t.flatMap escapeChar ++ '"' :: rest) = some (t.map Piece.ofChar, rest) := by
  induction t with
  | nil => rfl
  | cons c t ih =>
    rw [List.flatMap_cons, List.append_assoc, readPieces_escapeChar, ih, Option.map_some,
      List.map_cons]

/-- A quoted text is read back up to its closing quote, behind its opening one. -/
theorem readString_quote (t rest : Text) :
    ∃ body, quote t ++ rest = '"' :: body ∧ readString body = some (some t, rest) := by
  refine ⟨t.flatMap escapeChar ++ '"' :: rest, by simp [quote], ?_⟩
  simp only [readString, readPieces_escaped, Option.map_some, assemble?_map_ofChar]

end LinkTemplate.Json
