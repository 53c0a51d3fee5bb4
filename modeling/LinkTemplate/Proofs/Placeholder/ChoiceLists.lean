import LinkTemplate.Placeholder.Choices
import LinkTemplate.Proofs.Text.Trim
import Mathlib.Data.List.Forall2

/-!
# Lists of choices, read back

The choices of two lists joined by a comma are those of the one and then those of the other
(`parse_append`). A list of choices is read back as it was printed if no label or value has
blanks at its ends or a comma, and no label a pipe (`parse_print`).

Each part between commas that is not blank writes one choice, whether the blanks around it are cut
off first or not (`forall₂_writes_parse`). Whatever the part, that choice can be printed and read
back (`isPrintable_of_mem_parse`), so printing the choices of any list brings it into a form that
reading and printing keep.
-/

namespace LinkTemplate

namespace Text

theorem splitOn_eq (sep : Char) (t : Text) : splitOn sep t = List.splitOn sep t := by
  induction t with
  | nil => rfl
  | cons c t ih =>
    rw [splitOn, ih, List.splitOn_cons_eq_if_modifyHead]
    by_cases hc : c = sep
    · simp [hc]
    · obtain ⟨part, parts, h⟩ := List.exists_cons_of_ne_nil (List.splitOn_ne_nil sep t)
      simp [hc, h]

theorem splitOn_ne_nil (sep : Char) (t : Text) : splitOn sep t ≠ [] := by
  rw [splitOn_eq]
  exact List.splitOn_ne_nil sep t

theorem splitOn_append_cons (sep : Char) (s t : Text) :
    splitOn sep (s ++ sep :: t) = splitOn sep s ++ splitOn sep t := by
  simp only [splitOn_eq, List.splitOn_append_cons_self]

theorem splitOn_of_notMem {sep : Char} {t : Text} (h : sep ∉ t) : splitOn sep t = [t] := by
  rw [splitOn_eq, List.splitOn_eq_singleton h]

theorem notMem_of_mem_splitOn {sep : Char} {t part : Text} (h : part ∈ splitOn sep t) :
    sep ∉ part := by
  induction t generalizing part with
  | nil =>
    rw [List.mem_singleton.mp h]
    exact List.not_mem_nil
  | cons c t ih =>
    rw [splitOn] at h
    by_cases hc : c = sep
    · rw [if_pos hc, List.mem_cons] at h
      rcases h with rfl | h
      · exact List.not_mem_nil
      · exact ih h
    · obtain ⟨first, parts, hparts⟩ := List.exists_cons_of_ne_nil (splitOn_ne_nil sep t)
      rw [hparts] at h ih
      rw [if_neg hc, List.mem_cons] at h
      rcases h with rfl | h
      · rw [List.mem_cons, not_or]
        exact ⟨Ne.symm hc, ih List.mem_cons_self⟩
      · exact ih (List.mem_cons_of_mem _ h)

end Text

/-- A choice whose label and value can be told from what stands around them in a list. -/
structure Choice.IsPrintable (c : Choice) : Prop where
  label_trimmed : Text.trim c.label = c.label
  value_trimmed : Text.trim c.value = c.value
  comma_notMem_label : ',' ∉ c.label
  comma_notMem_value : ',' ∉ c.value
  pipe_notMem_label : '|' ∉ c.label

namespace Choices

/-- The choices of two lists with a comma between them. -/
theorem parse_append (s t : Text) : parse (s ++ ',' :: t) = parse s ++ parse t := by
  simp only [parse, Text.splitOn_append_cons, List.map_append, List.filter_append]

/-- A blank in front of a list makes no difference. -/
theorem parse_cons_blank (t : Text) : parse (' ' :: t) = parse t := by
  have hblank : Text.AllBlank [' '] := by decide
  have htrim : ∀ part : Text, Text.trim (' ' :: part) = Text.trim part :=
    fun part => Text.trim_append_left hblank part
  cases ht : Text.splitOn ',' t with
  | nil => exact absurd ht (Text.splitOn_ne_nil ',' t)
  | cons part parts =>
    have hcons : Text.splitOn ',' (' ' :: t) = (' ' :: part) :: parts := by
      rw [Text.splitOn, if_neg (by decide), ht]
    rw [parse, parse, hcons, ht, List.map_cons, List.map_cons, htrim]

/-- A printed choice is read as that choice. -/
theorem parse_printChoice {c : Choice} (h : c.IsPrintable) : parse (printChoice c) = [c] := by
  have hcomma : ',' ∉ printChoice c := by
    simp [printChoice, h.comma_notMem_label, h.comma_notMem_value]
  have htrim : Text.trim (printChoice c) = printChoice c :=
    Text.trim_append_cons (by decide) h.label_trimmed h.value_trimmed
  have hne : printChoice c ≠ [] := by simp [printChoice]
  have hchoice : parseChoice (printChoice c) = c := by
    rw [parseChoice, printChoice, Text.cut?_append h.pipe_notMem_label]
    simp [h.label_trimmed, h.value_trimmed]
  simp [parse, Text.splitOn_of_notMem hcomma, htrim, hne, hchoice]

theorem print_cons_cons (c d : Choice) (choices : List Choice) :
    print (c :: d :: choices) = printChoice c ++ ',' :: ' ' :: print (d :: choices) := by
  simp [print, Text.join, List.intercalate]

/-- A printed list of choices is read as that list. -/
theorem parse_print {choices : List Choice} (h : ∀ c ∈ choices, c.IsPrintable) :
    parse (print choices) = choices := by
  induction choices with
  | nil => rfl
  | cons c choices ih =>
    have hhead := parse_printChoice (h c List.mem_cons_self)
    have hrest := ih fun d hd => h d (List.mem_cons_of_mem _ hd)
    cases choices with
    | nil => simpa [print, Text.join, List.intercalate] using hhead
    | cons d choices =>
      rw [print_cons_cons, parse_append, hhead, parse_cons_blank, hrest, List.singleton_append]

/-! ## What is read -/

/-- A part of a list writes a choice. Its label stands in front of the first pipe and its value
behind it, or the whole part is both, with blanks around them that do not count. -/
def Writes (part : Text) (c : Choice) : Prop :=
  (∃ label value, part = label ++ '|' :: value ∧ '|' ∉ label ∧
      c = ⟨Text.trim label, Text.trim value⟩) ∨
    '|' ∉ part ∧ c = ⟨Text.trim part, Text.trim part⟩

/-- Cutting the blanks off a part first does not change the choice that it writes. -/
theorem writes_parseChoice_trim (part : Text) : Writes part (parseChoice (Text.trim part)) := by
  cases hcut : Text.cut? '|' part with
  | none =>
    have hpipe : '|' ∉ part := Text.cut?_eq_none_iff.mp hcut
    have htrim : Text.cut? '|' (Text.trim part) = none :=
      Text.cut?_eq_none_iff.mpr fun h => hpipe (Text.mem_of_mem_trim h)
    exact Or.inr ⟨hpipe, by rw [parseChoice, htrim]⟩
  | some p =>
    obtain ⟨label, value⟩ := p
    obtain ⟨rfl, hpipe⟩ := Text.eq_of_cut? hcut
    have hstart : '|' ∉ Text.trimStart label := fun h => hpipe ((List.dropWhile_sublist _).subset h)
    refine Or.inl ⟨label, value, rfl, hpipe, ?_⟩
    rw [Text.trim_append_cons_eq (by decide), parseChoice, Text.cut?_append hstart]
    simp only [Text.trim_trimStart, Text.trim_trimEnd]

/-- A trimmed part without commas writes a choice that can be printed. -/
theorem isPrintable_parseChoice {part : Text} (htrim : Text.trim part = part)
    (hcomma : ',' ∉ part) : (parseChoice part).IsPrintable := by
  cases hcut : Text.cut? '|' part with
  | none =>
    rw [parseChoice, hcut]
    exact ⟨htrim, htrim, hcomma, hcomma, Text.cut?_eq_none_iff.mp hcut⟩
  | some p =>
    obtain ⟨label, value⟩ := p
    obtain ⟨rfl, hpipe⟩ := Text.eq_of_cut? hcut
    rw [parseChoice, hcut]
    refine ⟨Text.trim_trim label, Text.trim_trim value, fun h => hcomma ?_, fun h => hcomma ?_,
      fun h => hpipe (Text.mem_of_mem_trim h)⟩
    · exact List.mem_append_left _ (Text.mem_of_mem_trim h)
    · exact List.mem_append_right _ (List.mem_cons_of_mem _ (Text.mem_of_mem_trim h))

theorem isPrintable_of_mem_parse {list : Text} {c : Choice} (h : c ∈ parse list) :
    c.IsPrintable := by
  obtain ⟨trimmed, hmem, rfl⟩ := List.mem_map.mp h
  obtain ⟨part, hpart, rfl⟩ := List.mem_map.mp (List.mem_filter.mp hmem).1
  refine isPrintable_parseChoice (Text.trim_trim part) fun hcomma => ?_
  exact Text.notMem_of_mem_splitOn hpart (Text.mem_of_mem_trim hcomma)

/-- The parts that are not blank write the choices of the list, one each and in order. -/
theorem forall₂_writes_parse (list : Text) :
    List.Forall₂ Writes ((List.splitOn ',' list).filter fun part => ¬Text.AllBlank part)
      (parse list) := by
  have hblank : (fun part => decide (¬Text.AllBlank part)) =
      (fun part => decide (part ≠ [])) ∘ Text.trim := by
    funext part
    simp [Text.trim_eq_nil_iff]
  rw [parse, Text.splitOn_eq, List.filter_map, List.map_map, ← hblank, List.forall₂_map_right_iff,
    List.forall₂_same]
  exact fun part _ => writes_parseChoice_trim part

/-- Reading a list of choices, printing what was read and reading it again gives the same choices.
Each of them has a label and a value without blanks at their ends and without commas, and a label
without pipes. They are what the parts between the commas write that are not blank, one choice for
each part and in order, and a comma between two lists separates the choices of the two. -/
theorem parse_normal_form :
    (∀ list, parse (print (parse list)) = parse list) ∧
    (∀ list, ∀ c ∈ parse list, c.IsPrintable) ∧
    (∀ list, List.Forall₂ Writes
      ((List.splitOn ',' list).filter fun part => ¬Text.AllBlank part) (parse list)) ∧
    (∀ list, (parse list).length =
      (List.splitOn ',' list).countP fun part => ¬Text.AllBlank part) ∧
    ∀ s t, parse (s ++ ',' :: t) = parse s ++ parse t := by
  refine ⟨fun list => ?_, fun list _ => isPrintable_of_mem_parse, forall₂_writes_parse,
    fun list => ?_, parse_append⟩
  · exact parse_print fun _ => isPrintable_of_mem_parse
  · rw [List.countP_eq_length_filter, (forall₂_writes_parse list).length_eq]

/-- Of five parts the blank one writes nothing, and one repeats another. -/
theorem parse_normal_form_padded :
    let list := " Rust | r|s ,é,\u3000,| x,é".toList
    let printed := "Rust|r|s, é|é, |x, é|é".toList
    let c : Choice := ⟨"Rust".toList, "r|s".toList⟩
    c ∈ parse list ∧ c.IsPrintable ∧ print (parse list) = printed ∧ parse printed = parse list ∧
      (parse list).length = 4 := by
  intro list printed c
  obtain ⟨hagain, hprintable, -, hlength, -⟩ := parse_normal_form
  have hc : c ∈ parse list := by decide +kernel
  have hprint : print (parse list) = printed := by decide +kernel
  have hparse := hagain list
  have hcount := hlength list
  rw [hprint] at hparse
  exact ⟨hc, hprintable list c hc, hprint, hparse, hcount.trans (by decide +kernel)⟩

end Choices

end LinkTemplate
