import LinkTemplate.Proofs.Json.Strings
import Mathlib.Data.List.DropRight

/-!
# Values without numbers

A value that is made of texts, switches and `null` by arrays and objects is read back as it was
from what is written of it, whatever blanks stand behind (`read?_render`). `ReadsBack` says this of
a value in the middle of a text : a step for each of its characters is enough to read it. The items
of an array and the members of an object are read one after the other, so their steps add up in the
same way as their characters do.
-/

namespace LinkTemplate.Json

/-! ## Blanks -/

theorem skipBlanks_append {blanks : Text} (h : blanks.all isBlank = true) (t : Text) :
    skipBlanks (blanks ++ t) = skipBlanks t := by
  induction blanks with
  | nil => rfl
  | cons c blanks ih =>
    simp only [List.all_cons, Bool.and_eq_true] at h
    rw [List.cons_append, skipBlanks, List.dropWhile_cons_of_pos h.1]
    exact ih h.2

theorem skipBlanks_cons (c : Char) (h : isBlank c = false) (t : Text) :
    skipBlanks (c :: t) = c :: t := by
  rw [skipBlanks, List.dropWhile_cons_of_neg (by simp [h])]

theorem skipBlanks_newLine (depth : Nat) (t : Text) :
    skipBlanks (newLine depth ++ t) = skipBlanks t := by
  refine skipBlanks_append ?_ t
  simp [newLine, List.all_replicate, isBlank]

theorem skipBlanks_skipBlanks (t : Text) : skipBlanks (skipBlanks t) = skipBlanks t :=
  List.dropWhile_idempotent isBlank t

/-- Blanks in front of a value do not matter. -/
theorem readValue_congr {t u : Text} (h : skipBlanks t = skipBlanks u) (fuel : Nat) :
    readValue fuel t = readValue fuel u := by
  cases fuel with
  | zero => simp only [readValue]
  | succ fuel => simp only [readValue, h]

theorem readItems_skipBlanks (fuel : Nat) (t : Text) :
    readItems fuel (skipBlanks t) = readItems fuel t := by
  cases fuel with
  | zero => simp only [readItems]
  | succ fuel => simp only [readItems, readValue_congr (skipBlanks_skipBlanks t)]

theorem readMembers_skipBlanks (fuel : Nat) (t : Text) :
    readMembers fuel (skipBlanks t) = readMembers fuel t := by
  cases fuel with
  | zero => simp only [readMembers]
  | succ fuel => simp only [readMembers, skipBlanks_skipBlanks]

/-! ## Plain values -/

/-- The value is made of texts, switches and `null` by arrays and objects. -/
inductive Value.IsPlain : Value → Prop
  | null : IsPlain .null
  | bool (b : Bool) : IsPlain (.bool b)
  | text (t : Text) : IsPlain (.ofText t)
  | array {items : List Value} (h : ∀ item ∈ items, item.IsPlain) : IsPlain (.array items)
  | object {members : List (Text × Value)} (h : ∀ m ∈ members, m.2.IsPlain) :
    IsPlain (.object (members.map fun m => (some m.1, m.2)))

theorem Value.isPlain_ofTexts (ts : List Text) : (Value.ofTexts ts).IsPlain := by
  refine .array fun item hitem => ?_
  obtain ⟨t, -, rfl⟩ := List.mem_map.mp hitem
  exact .text t

theorem Value.isPlain_ofMembers {members : List (String × Value)}
    (h : ∀ m ∈ members, m.2.IsPlain) : (Value.ofMembers members).IsPlain := by
  have hplain : ∀ m ∈ members.map fun m => (m.1.toList, m.2), m.2.IsPlain :=
    List.forall_mem_map.mpr h
  have hobject := Value.IsPlain.object hplain
  rwa [List.map_map] at hobject

/-- The value is read from what is written of it, in a step for each character. -/
def ReadsBack (v : Value) : Prop :=
  ∀ fuel depth rest, (v.renderAt depth).length ≤ fuel + 1 →
    readValue (fuel + 1) (v.renderAt depth ++ rest) = some (v, rest)

theorem renderContent_some (t : Text) : renderContent (some t) = quote t := rfl

/-- What is written of a plain value begins with a character that ends no array. -/
theorem Value.IsPlain.exists_renderAt_eq_cons {v : Value} (h : v.IsPlain) (depth : Nat) :
    ∃ c t, v.renderAt depth = c :: t ∧ isBlank c = false ∧ c ≠ ']' := by
  cases h with
  | null => exact ⟨'n', _, rfl, rfl, by decide⟩
  | bool b => cases b <;> exact ⟨_, _, rfl, rfl, by decide⟩
  | text t => exact ⟨'"', _, rfl, rfl, by decide⟩
  | @array items h => cases items <;> exact ⟨'[', _, rfl, rfl, by decide⟩
  | @object members h => cases members <;> exact ⟨'{', _, rfl, rfl, by decide⟩

theorem readsBack_null : ReadsBack .null := by
  intro fuel depth rest _
  have hskip : skipBlanks (Value.null.renderAt depth ++ rest) =
      'n' :: 'u' :: 'l' :: 'l' :: rest := skipBlanks_cons 'n' rfl _
  simp only [readValue, hskip]

theorem readsBack_bool (b : Bool) : ReadsBack (.bool b) := by
  intro fuel depth rest _
  cases b with
  | true =>
    have hskip : skipBlanks ((Value.bool true).renderAt depth ++ rest) =
        't' :: 'r' :: 'u' :: 'e' :: rest := skipBlanks_cons 't' rfl _
    simp only [readValue, hskip]
  | false =>
    have hskip : skipBlanks ((Value.bool false).renderAt depth ++ rest) =
        'f' :: 'a' :: 'l' :: 's' :: 'e' :: rest := skipBlanks_cons 'f' rfl _
    simp only [readValue, hskip]

theorem readsBack_ofText (t : Text) : ReadsBack (.ofText t) := by
  intro fuel depth rest _
  obtain ⟨body, hquote, hread⟩ := readString_quote t rest
  have hskip : skipBlanks ((Value.ofText t).renderAt depth ++ rest) = '"' :: body := by
    rw [Value.ofText, Value.renderAt, renderContent_some, hquote]
    exact skipBlanks_cons '"' rfl body
  simp only [readValue, hskip, hread, Option.map_some]
  rfl

/-! ## Items -/

theorem readItems_item {item : Value} (h : ReadsBack item) {fuel depth : Nat}
    (hfuel : (item.renderAt depth).length ≤ fuel + 1) (t : Text) :
    readItems (fuel + 2) (newLine depth ++ (item.renderAt depth ++ t)) =
      match skipBlanks t with
      | ',' :: t => (readItems (fuel + 1) t).map fun (items, t) => (item :: items, t)
      | ']' :: t => some ([item], t)
      | _ => none := by
  have hitem := (readValue_congr (skipBlanks_newLine depth _) (fuel + 1)).trans
    (h fuel depth t hfuel)
  simp only [readItems, hitem, Option.bind_eq_bind, Option.bind_some]
  rcases skipBlanks t with _ | ⟨c, after⟩
  · rfl
  by_cases hcomma : c = ','
  · subst hcomma
    exact (Option.map_eq_bind ..).symm
  by_cases hbracket : c = ']'
  · subst hbracket
    rfl
  grind

theorem renderItems_cons_append (depth : Nat) (item : Value) (items : List Value) (t : Text) :
    renderItems depth (item :: items) ++ t =
      newLine depth ++ (item.renderAt depth ++
        ((if items.isEmpty then [] else [',']) ++ (renderItems depth items ++ t))) := by
  rw [renderItems]
  simp only [List.append_assoc]

/-- Items are read, from the new line of the first to the closing bracket. -/
theorem readItems_renderItems {items : List Value} (hne : items ≠ [])
    (h : ∀ item ∈ items, ReadsBack item) {fuel depth : Nat}
    (hfuel : (renderItems (depth + 1) items).length ≤ fuel) (outer : Nat) (rest : Text) :
    readItems fuel (renderItems (depth + 1) items ++ (newLine outer ++ ']' :: rest)) =
      some (items, rest) := by
  induction items generalizing fuel with
  | nil => exact absurd rfl hne
  | cons item items ih =>
    obtain ⟨hitem, hitems⟩ := List.forall_mem_cons.mp h
    have hlength := hfuel
    simp only [renderItems, newLine, List.length_append, List.length_cons,
      List.length_replicate] at hlength
    obtain ⟨fuel, rfl⟩ : ∃ n, fuel = n + 2 := ⟨fuel - 2, by omega⟩
    rw [renderItems_cons_append, readItems_item hitem (by omega)]
    cases items with
    | nil =>
      have hend : skipBlanks (newLine outer ++ ']' :: rest) = ']' :: rest := by
        rw [skipBlanks_newLine, skipBlanks_cons ']' rfl]
      simp [renderItems, hend]
    | cons item' items =>
      have hcomma (t : Text) : skipBlanks ([','] ++ t) = ',' :: t := skipBlanks_cons ',' rfl t
      rw [if_neg (by simp), hcomma]
      have hrest := @ih (List.cons_ne_nil _ _) hitems (fuel + 1) (by omega)
      simp only [hrest, Option.map_some]

/-- An array that does not end at once is read as its items. -/
theorem readValue_of_bracket {t body inner : Text} {c : Char} (h : skipBlanks t = '[' :: body)
    (hbody : skipBlanks body = c :: inner) (hc : c ≠ ']') (fuel : Nat) :
    readValue (fuel + 1) t =
      (readItems fuel body).map fun (items, rest) => (.array items, rest) := by
  rw [← readItems_skipBlanks]
  simp only [readValue, h, hbody]
  split
  · next heq => exact absurd (List.cons.inj heq).1 hc
  · rfl

theorem readsBack_array {items : List Value} (hplain : ∀ item ∈ items, item.IsPlain)
    (h : ∀ item ∈ items, ReadsBack item) : ReadsBack (.array items) := by
  intro fuel depth rest hfuel
  cases items with
  | nil =>
    have hskip : skipBlanks ((Value.array []).renderAt depth ++ rest) = '[' :: ']' :: rest :=
      skipBlanks_cons '[' rfl _
    have hend : skipBlanks (']' :: rest) = ']' :: rest := skipBlanks_cons ']' rfl rest
    simp only [readValue, hskip, hend]
  | cons item items =>
    let body := renderItems (depth + 1) (item :: items) ++ (newLine depth ++ ']' :: rest)
    have hrender : (Value.array (item :: items)).renderAt depth ++ rest = '[' :: body := by
      simp [Value.renderAt, body]
    have hlength : (renderItems (depth + 1) (item :: items)).length ≤ fuel := by
      simp only [Value.renderAt, List.isEmpty_cons, Bool.false_eq_true, if_false,
        List.length_append, List.length_cons] at hfuel
      omega
    obtain ⟨c, t, hitem, hblank, hc⟩ :=
      (hplain item List.mem_cons_self).exists_renderAt_eq_cons (depth + 1)
    have hstart : ∃ inner, skipBlanks body = c :: inner := by
      simp only [body]
      rw [renderItems_cons_append, skipBlanks_newLine, hitem, List.cons_append]
      exact ⟨_, skipBlanks_cons c hblank _⟩
    obtain ⟨inner, hinner⟩ := hstart
    rw [hrender, readValue_of_bracket (skipBlanks_cons '[' rfl body) hinner hc,
      readItems_renderItems (List.cons_ne_nil _ _) h hlength]
    rfl

/-! ## Members -/

theorem readMembers_member {name : Text} {value : Value} (h : ReadsBack value) {fuel depth : Nat}
    (hfuel : (value.renderAt depth).length ≤ fuel + 1) (t : Text) :
    readMembers (fuel + 2)
        (newLine depth ++ (quote name ++ (": ".toList ++ (value.renderAt depth ++ t)))) =
      match skipBlanks t with
      | ',' :: t => (readMembers (fuel + 1) t).map fun (members, t) =>
          ((some name, value) :: members, t)
      | '}' :: t => some ([(some name, value)], t)
      | _ => none := by
  obtain ⟨body, hquote, hread⟩ :=
    readString_quote name (": ".toList ++ (value.renderAt depth ++ t))
  have hname : skipBlanks ('"' :: body) = '"' :: body := skipBlanks_cons '"' rfl body
  have hcolon : skipBlanks (": ".toList ++ (value.renderAt depth ++ t)) =
      ':' :: ' ' :: (value.renderAt depth ++ t) := skipBlanks_cons ':' rfl _
  have hblank : skipBlanks (' ' :: (value.renderAt depth ++ t)) =
      skipBlanks (value.renderAt depth ++ t) := List.dropWhile_cons_of_pos rfl
  have hvalue := (readValue_congr hblank (fuel + 1)).trans (h fuel depth t hfuel)
  rw [readMembers, skipBlanks_newLine, hquote, hname]
  simp only [hread, hcolon, hvalue, Option.bind_eq_bind, Option.bind_some]
  rcases skipBlanks t with _ | ⟨c, after⟩
  · rfl
  by_cases hcomma : c = ','
  · subst hcomma
    exact (Option.map_eq_bind ..).symm
  by_cases hbrace : c = '}'
  · subst hbrace
    rfl
  grind

theorem renderMembers_cons_append (depth : Nat) (name : Text) (value : Value)
    (members : List (Content × Value)) (t : Text) :
    renderMembers depth ((some name, value) :: members) ++ t =
      newLine depth ++ (quote name ++ (": ".toList ++ (value.renderAt depth ++
        ((if members.isEmpty then [] else [',']) ++ (renderMembers depth members ++ t))))) := by
  rw [renderMembers, renderContent_some]
  simp only [List.append_assoc]

/-- Members are read, from the new line of the first to the closing brace. -/
theorem readMembers_renderMembers {members : List (Text × Value)} (hne : members ≠ [])
    (h : ∀ m ∈ members, ReadsBack m.2) {fuel depth : Nat}
    (hfuel : (renderMembers (depth + 1) (members.map fun m => (some m.1, m.2))).length ≤ fuel)
    (outer : Nat) (rest : Text) :
    readMembers fuel (renderMembers (depth + 1) (members.map fun m => (some m.1, m.2)) ++
        (newLine outer ++ '}' :: rest)) =
      some (members.map fun m => (some m.1, m.2), rest) := by
  induction members generalizing fuel with
  | nil => exact absurd rfl hne
  | cons m members ih =>
    obtain ⟨hvalue, hmembers⟩ := List.forall_mem_cons.mp h
    have hlength := hfuel
    simp only [List.map_cons, renderMembers, newLine, List.length_append, List.length_cons,
      List.length_replicate] at hlength
    obtain ⟨fuel, rfl⟩ : ∃ n, fuel = n + 2 := ⟨fuel - 2, by omega⟩
    rw [List.map_cons, renderMembers_cons_append, readMembers_member hvalue (by omega)]
    cases members with
    | nil =>
      have hend : skipBlanks (newLine outer ++ '}' :: rest) = '}' :: rest := by
        rw [skipBlanks_newLine, skipBlanks_cons '}' rfl]
      simp [renderMembers, hend]
    | cons m' members =>
      have hcomma (t : Text) : skipBlanks ([','] ++ t) = ',' :: t := skipBlanks_cons ',' rfl t
      rw [if_neg (by simp), hcomma]
      have hrest := @ih (List.cons_ne_nil _ _) hmembers (fuel + 1) (by omega)
      simp only [hrest, Option.map_some]

/-- An object that does not end at once is read as its members. -/
theorem readValue_of_brace {t body inner : Text} {c : Char} (h : skipBlanks t = '{' :: body)
    (hbody : skipBlanks body = c :: inner) (hc : c ≠ '}') (fuel : Nat) :
    readValue (fuel + 1) t =
      (readMembers fuel body).map fun (members, rest) => (.object members, rest) := by
  rw [← readMembers_skipBlanks]
  simp only [readValue, h, hbody]
  split
  · next heq => exact absurd (List.cons.inj heq).1 hc
  · rfl

theorem readsBack_object {members : List (Text × Value)} (h : ∀ m ∈ members, ReadsBack m.2) :
    ReadsBack (.object (members.map fun m => (some m.1, m.2))) := by
  intro fuel depth rest hfuel
  cases members with
  | nil =>
    have hskip : skipBlanks ((Value.object []).renderAt depth ++ rest) = '{' :: '}' :: rest :=
      skipBlanks_cons '{' rfl _
    have hend : skipBlanks ('}' :: rest) = '}' :: rest := skipBlanks_cons '}' rfl rest
    rw [List.map_nil]
    simp only [readValue, hskip, hend]
  | cons m members =>
    let body := renderMembers (depth + 1) ((m :: members).map fun m => (some m.1, m.2)) ++
      (newLine depth ++ '}' :: rest)
    have hrender : (Value.object ((m :: members).map fun m => (some m.1, m.2))).renderAt depth ++
        rest = '{' :: body := by
      simp [Value.renderAt, body]
    have hlength :
        (renderMembers (depth + 1) ((m :: members).map fun m => (some m.1, m.2))).length ≤ fuel := by
      simp only [List.map_cons, Value.renderAt, List.isEmpty_cons, Bool.false_eq_true, if_false,
        List.length_append, List.length_cons] at hfuel ⊢
      omega
    have hstart : ∃ inner, skipBlanks body = '"' :: inner := by
      simp only [body, List.map_cons]
      rw [renderMembers_cons_append, skipBlanks_newLine]
      exact ⟨_, skipBlanks_cons '"' rfl _⟩
    obtain ⟨inner, hinner⟩ := hstart
    rw [hrender, readValue_of_brace (skipBlanks_cons '{' rfl body) hinner (by decide),
      readMembers_renderMembers (List.cons_ne_nil _ _) h hlength]
    rfl

/-! ## Whole texts -/

theorem Value.IsPlain.readsBack {v : Value} (h : v.IsPlain) : ReadsBack v := by
  induction h with
  | null => exact readsBack_null
  | bool b => exact readsBack_bool b
  | text t => exact readsBack_ofText t
  | array hplain ih => exact readsBack_array hplain ih
  | object _ ih => exact readsBack_object ih

/-- A plain value is read back from the text that is written of it, with any blanks behind. -/
theorem read?_render_append {v : Value} (h : v.IsPlain) {blanks : Text}
    (hblanks : blanks.all isBlank = true) : read? (v.render ++ blanks) = some v := by
  have hsteps : stepBound (v.render ++ blanks) = (2 * (v.render ++ blanks).length + 1) + 1 := rfl
  have hlength : (v.renderAt 0).length ≤ 2 * (v.render ++ blanks).length + 1 + 1 := by
    rw [List.length_append, Value.render]
    omega
  have hend : skipBlanks blanks = [] := by
    have := skipBlanks_append hblanks []
    rwa [List.append_nil] at this
  have hread : readValue (stepBound (v.render ++ blanks)) (v.render ++ blanks) = some (v, blanks) := by
    rw [hsteps]
    exact h.readsBack _ 0 blanks hlength
  simp only [read?, hread, Option.bind_eq_bind, Option.bind_some, hend, if_true]

theorem read?_render {v : Value} (h : v.IsPlain) : read? v.render = some v := by
  have := read?_render_append h (show ([] : Text).all isBlank = true from rfl)
  rwa [List.append_nil] at this

end LinkTemplate.Json
