import LinkTemplate.Proofs.Json.Values
import LinkTemplate.Text.Stringified

/-!
# Stringified texts and JSON strings

The five replacements of `stringify` read what the earlier ones wrote. Since the backslash comes
first, they come to one pass that escapes each character by itself (`escaped_eq_flatMap`), and
reading the escapes from left to right takes it back (`unstringify?_stringify`).

A JSON string escapes more characters : every control character below U+0020. So a stringified text
is the JSON string of the text if it holds no control character but line feed, carriage return
and tab (`stringify_eq_quote_iff`). With another one it is no JSON at all, since a string holds no
such character unescaped (`readPieces_control`).
-/

namespace LinkTemplate.Text

/-! ## One pass -/

/-- A character with the escape that `stringify` knows for it. -/
def escapeOnce (c : Char) : Text :=
  match c with
  | '\\' => ['\\', '\\']
  | '"' => ['\\', '"']
  | '\n' => ['\\', 'n']
  | '\r' => ['\\', 'r']
  | '\t' => ['\\', 't']
  | c => [c]

/-- The character that a letter behind a backslash stands for. -/
def ofEscape? : Char → Option Char
  | '\\' => some '\\'
  | '"' => some '"'
  | 'n' => some '\n'
  | 'r' => some '\r'
  | 't' => some '\t'
  | _ => none

/-- The text up to a quote that is not escaped and ends it, with its escapes undone. -/
def unescape? : Text → Option Text
  | [] => none
  | '\\' :: e :: rest => do
    let c ← ofEscape? e
    let t ← unescape? rest
    return c :: t
  | '"' :: rest => if rest = [] then some [] else none
  | c :: rest => if c = '\\' then none else (unescape? rest).map (c :: ·)

/-- The text of a string literal. -/
def unstringify? : Text → Option Text
  | '"' :: rest => unescape? rest
  | _ => none

theorem escapeOnce_of_notMem {c : Char} (h : c ∉ ['\\', '"', '\n', '\r', '\t']) :
    escapeOnce c = [c] := by
  simp only [List.mem_cons, List.not_mem_nil, or_false, not_or] at h
  unfold escapeOnce
  split <;> simp_all

theorem escaped_singleton (c : Char) : escaped [c] = escapeOnce c := by
  by_cases h : c ∈ ['\\', '"', '\n', '\r', '\t']
  · simp only [List.mem_cons, List.not_mem_nil, or_false] at h
    rcases h with rfl | rfl | rfl | rfl | rfl <;> rfl
  · rw [escapeOnce_of_notMem h]
    simp only [List.mem_cons, List.not_mem_nil, or_false, not_or] at h
    simp [escaped, replaceChar, h]

/-- The replacements one after the other are one pass over the characters. -/
theorem escaped_eq_flatMap (t : Text) : escaped t = t.flatMap escapeOnce := by
  induction t with
  | nil => rfl
  | cons c t ih =>
    rw [← List.singleton_append, escaped_append, ih, escaped_singleton, List.singleton_append,
      List.flatMap_cons]

theorem unescape?_escapeOnce (c : Char) (t : Text) :
    unescape? (escapeOnce c ++ t) = (unescape? t).map (c :: ·) := by
  unfold escapeOnce
  split
  iterate 5
    cases h : unescape? t <;> simp [unescape?, ofEscape?, h]
  next hbackslash hquote _ _ _ =>
    rw [List.singleton_append, unescape?]
    · rw [if_neg hbackslash]
    · exact fun _ _ hc _ => hbackslash hc
    · exact hquote

theorem unescape?_flatMap (t : Text) : unescape? (t.flatMap escapeOnce ++ ['"']) = some t := by
  induction t with
  | nil => rfl
  | cons c t ih =>
    rw [List.flatMap_cons, List.append_assoc, unescape?_escapeOnce, ih, Option.map_some]

theorem unstringify?_stringify (t : Text) : unstringify? (stringify t) = some t := by
  rw [stringify, escaped_eq_flatMap]
  exact unescape?_flatMap t

theorem stringify_eq_iff {s t : Text} : stringify s = stringify t ↔ s = t := by
  refine ⟨fun h => ?_, congrArg stringify⟩
  rw [← Option.some_inj, ← unstringify?_stringify, h, unstringify?_stringify]

/-! ## JSON strings -/

/-- A control character below a blank for which `stringify` has no escape. -/
def IsBareControl (c : Char) : Prop :=
  c.toNat < 0x20 ∧ c ≠ '\n' ∧ c ≠ '\r' ∧ c ≠ '\t'

instance (c : Char) : Decidable (IsBareControl c) :=
  inferInstanceAs (Decidable (_ ∧ _ ∧ _ ∧ _))

variable {c : Char}

theorem IsBareControl.ne (h : IsBareControl c) : c ≠ '\\' ∧ c ≠ '"' := by
  obtain ⟨hlt, -⟩ := h
  constructor <;> rintro rfl <;> exact absurd hlt (by decide)

theorem IsBareControl.escapeOnce_eq (h : IsBareControl c) : escapeOnce c = [c] := by
  obtain ⟨hbackslash, hquote⟩ := h.ne
  obtain ⟨-, hfeed, hreturn, htab⟩ := h
  exact escapeOnce_of_notMem (by simp [hbackslash, hquote, hfeed, hreturn, htab])

/-- In a JSON string a bare control character is escaped. -/
theorem IsBareControl.exists_escapeChar_eq (h : IsBareControl c) :
    ∃ rest, Json.escapeChar c = '\\' :: rest := by
  unfold Json.escapeChar
  split
  iterate 7 exact ⟨_, rfl⟩
  exact ⟨_, if_pos h.1⟩

/-- Every other character is escaped in the same way. -/
theorem escapeChar_eq_escapeOnce (h : ¬IsBareControl c) : Json.escapeChar c = escapeOnce c := by
  unfold Json.escapeChar
  split
  case h_3 | h_4 => exact absurd (by decide) h
  case h_8 hquote hbackslash _ _ hfeed hreturn htab =>
    have hcontrol : ¬c.toNat < 0x20 := fun hlt => h ⟨hlt, hfeed, hreturn, htab⟩
    rw [if_neg hcontrol, escapeOnce_of_notMem]
    simp only [List.mem_cons, List.not_mem_nil, or_false, not_or]
    exact ⟨hbackslash, hquote, hfeed, hreturn, htab⟩
  all_goals rfl

theorem flatMap_escapeOnce_eq_iff {t : Text} :
    t.flatMap escapeOnce = t.flatMap Json.escapeChar ↔ ∀ c ∈ t, ¬IsBareControl c := by
  induction t with
  | nil => simp
  | cons c t ih =>
    rw [List.flatMap_cons, List.flatMap_cons, List.forall_mem_cons, ← ih]
    by_cases h : IsBareControl c
    · obtain ⟨rest, hrest⟩ := h.exists_escapeChar_eq
      rw [h.escapeOnce_eq, hrest]
      simp [h, h.ne.1]
    · rw [escapeChar_eq_escapeOnce h]
      simp [h]

/-- Stringifying a text writes its JSON string if the text holds no bare control character, and only
then. -/
theorem stringify_eq_quote_iff {t : Text} :
    stringify t = Json.quote t ↔ ∀ c ∈ t, ¬IsBareControl c := by
  rw [stringify, escaped_eq_flatMap, Json.quote, ← flatMap_escapeOnce_eq_iff]
  simp

/-- A string ends at no bare control character and holds none. -/
theorem readPieces_control (h : IsBareControl c) (t : Text) : Json.readPieces (c :: t) = none := by
  obtain ⟨hbackslash, hquote⟩ := h.ne
  rw [Json.readPieces]
  · simp [h.1]
  · exact hquote
  · exact fun _ _ _ _ _ hc _ => hbackslash hc
  · exact fun _ _ hc _ => hbackslash hc

theorem readPieces_flatMap_eq_none {t : Text} (h : ∃ c ∈ t, IsBareControl c) (rest : Text) :
    Json.readPieces (t.flatMap escapeOnce ++ rest) = none := by
  induction t with
  | nil => simp at h
  | cons c t ih =>
    rw [List.flatMap_cons, List.append_assoc]
    by_cases hc : IsBareControl c
    · rw [hc.escapeOnce_eq, List.singleton_append, readPieces_control hc]
    · have hrest : ∃ c ∈ t, IsBareControl c := by simpa [hc] using h
      rw [← escapeChar_eq_escapeOnce hc, Json.readPieces_escapeChar, ih hrest, Option.map_none]

theorem read?_stringify_eq_none {t : Text} (h : ∃ c ∈ t, IsBareControl c) :
    Json.read? (stringify t) = none := by
  have hvalue : Json.readValue (Json.stepBound (stringify t)) (stringify t) = none := by
    have hskip : Json.skipBlanks (stringify t) = '"' :: (t.flatMap escapeOnce ++ ['"']) := by
      rw [stringify, escaped_eq_flatMap]
      exact Json.skipBlanks_cons '"' rfl _
    rw [Json.stepBound]
    simp only [Json.readValue, hskip, Json.readString, readPieces_flatMap_eq_none h,
      Option.map_none]
  rw [Json.read?, hvalue]
  rfl

theorem read?_stringify_iff {t : Text} :
    Json.read? (stringify t) = some (.ofText t) ↔ ∀ c ∈ t, ¬IsBareControl c := by
  constructor
  · intro h c hmem hc
    rw [read?_stringify_eq_none ⟨c, hmem, hc⟩] at h
    cases h
  · intro h
    rw [stringify_eq_quote_iff.mpr h]
    exact Json.read?_render (.text t)

/-- Stringifying a text is quoting what one pass over its characters writes, and undoing the escapes
between the quotes gives the text back, so different texts stay different. It writes the JSON string
of the text, and then is read as the text, if the text holds no control character below U+0020
other than line feed, carriage return and tab, and only then. -/
theorem stringify_reversible :
    (∀ t, stringify t = '"' :: t.flatMap escapeOnce ++ ['"']) ∧
    (∀ t, unstringify? (stringify t) = some t) ∧
    (∀ s t, stringify s = stringify t ↔ s = t) ∧
    (∀ t, stringify t = Json.quote t ↔ ∀ c ∈ t, ¬IsBareControl c) ∧
    ∀ t, Json.read? (stringify t) = some (.ofText t) ↔ ∀ c ∈ t, ¬IsBareControl c := by
  refine ⟨fun t => ?_, unstringify?_stringify, fun _ _ => stringify_eq_iff,
    fun _ => stringify_eq_quote_iff, fun _ => read?_stringify_iff⟩
  rw [stringify, escaped_eq_flatMap]

/-- Every character with an escape, and the bell, which has one in JSON only. -/
theorem stringify_reversible_bell :
    let t := ['é', '\\', '"', '\n', '\r', '\t', 'n']
    let bell := ['\x07']
    (∀ c ∈ t, ¬IsBareControl c) ∧ stringify t = Json.quote t ∧
      Json.read? (stringify t) = some (.ofText t) ∧ unstringify? (stringify bell) = some bell ∧
      stringify bell ≠ Json.quote bell := by
  intro t bell
  obtain ⟨-, hundo, -, hquote, hread⟩ := stringify_reversible
  have hplain : ∀ c ∈ t, ¬IsBareControl c := by simp [t, IsBareControl]
  have hbell : ¬∀ c ∈ bell, ¬IsBareControl c := fun h =>
    h '\x07' (List.mem_singleton_self _) (by decide)
  exact ⟨hplain, (hquote t).mpr hplain, (hread t).mpr hplain, hundo bell,
    fun h => hbell ((hquote bell).mp h)⟩

end LinkTemplate.Text
