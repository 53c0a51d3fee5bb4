import LinkTemplate.Placeholder.Parser
import LinkTemplate.Proofs.Placeholder.ChoiceLists
import LinkTemplate.Proofs.Placeholder.Keys
import LinkTemplate.Proofs.Placeholder.Segments

/-!
# Reading what was printed

A placeholder has many written forms, which differ in the blanks around its segments (`Writes`);
`print` gives the one without any. If nothing in a placeholder can be taken for a part of the
grammar (`IsPrintable`), then `parse` reads it back from every written form. The three layers of
the grammar are settled one by one : the segments (`split_of_writes`), the keyword of the base with
its attributes (`parseBase_base`) and the list of choices (`Choices.parse_print`).
-/

namespace LinkTemplate

namespace Placeholder

open Attribute Segment

/-! ## Written forms -/

/-- The text with blank characters around it. -/
def Pads (t padded : Text) : Prop :=
  ∃ front back, Text.AllBlank front ∧ Text.AllBlank back ∧ padded = front ++ (t ++ back)

/-- `WritesModifiers names text` : the text gives each name behind a pipe with a blank on both
sides, and any further blanks around the name. -/
inductive WritesModifiers : List Text → Text → Prop
  | nil : WritesModifiers [] []
  | cons {name padded text : Text} {names : List Text} :
      Pads (escapePipes name) padded → WritesModifiers names text →
      WritesModifiers (name :: names) (" | ".toList ++ (padded ++ text))

/-- `Writes p text` : the text is the base of the placeholder, with any blanks around it, and its
modifiers. -/
def Writes (p : Placeholder) (text : Text) : Prop :=
  ∃ base modifiers, Pads p.kind.print base ∧ WritesModifiers p.modifiers modifiers ∧
    text = base ++ modifiers

theorem pads_self (t : Text) : Pads t t :=
  ⟨[], [], by decide, by decide, by simp⟩

/-- The printed form is one of the written forms. -/
theorem writes_print (p : Placeholder) : Writes p p.print := by
  refine ⟨p.kind.print, _, pads_self _, ?_, rfl⟩
  induction p.modifiers with
  | nil => exact .nil
  | cons name names ih =>
    rw [List.flatMap_cons, List.append_assoc]
    exact .cons (pads_self _) ih

/-! ## What can be printed -/

/-- The keys of all attributes. -/
def attributeKeys : List Text :=
  ["name".toList, "default".toList, "options".toList, "format".toList, "offset".toList]

/-- A value that neither ends its quotes nor holds what starts an attribute. -/
structure IsPlainValue (value : Text) : Prop where
  quote_notMem : '"' ∉ value
  not_infix : ∀ key ∈ attributeKeys, ¬key ++ ['='] <:+: value

/-- A text that stands for itself as a base or as a modifier name. -/
structure IsPlainSegment (t : Text) : Prop where
  trimmed : Text.trim t = t
  quote_notMem : '"' ∉ t

/-- A text that is none of the keyword forms. -/
structure IsNoKeyword (raw : Text) : Prop where
  ne_clipboard : raw ≠ "clipboard".toList
  ne_selection : raw ≠ "selection".toList
  not_dated : ∀ (style : DateStyle) (rest : Text), raw = style.keyword ++ rest →
    ∃ c, rest.head? = some c ∧ Text.isBlank c = false
  not_argument : ¬"argument".toList <+: raw

/-- A kind whose parts cannot be taken for parts of the grammar. -/
def Kind.IsPrintable : Kind → Prop
  | .argument name default choices =>
    name ≠ [] ∧ IsPlainValue name ∧ (∀ value ∈ default, IsPlainValue value) ∧
      ∀ list ∈ choices, IsPlainValue (Choices.print list) ∧ ∀ c ∈ list, c.IsPrintable
  | .clipboard => True
  | .selection => True
  | .dated _ spec =>
    (∀ value ∈ spec.format, IsPlainValue value) ∧ ∀ value ∈ spec.offset, IsPlainValue value
  | .unknown raw => IsPlainSegment raw ∧ IsNoKeyword raw

/-- A placeholder whose parts cannot be taken for parts of the grammar. -/
structure IsPrintable (p : Placeholder) : Prop where
  kind : p.kind.IsPrintable
  modifiers : ∀ name ∈ p.modifiers, name ≠ [] ∧ IsPlainSegment name

/-! ## Bases -/

/-- The attribute of a key, if it has a value. -/
def attribute? (key : Text) (value? : Option Text) : List (Text × Text) :=
  (value?.map fun value => (key, value)).toList

/-- The attributes of an argument. -/
def argumentAttributes (name : Text) (default : Option Text) (choices : Option (List Choice)) :
    List (Text × Text) :=
  ("name".toList, name) :: (attribute? "default".toList default ++
    attribute? "options".toList (choices.map Choices.print))

/-- The attributes of a date placeholder. -/
def dateAttributes (spec : DateSpec) : List (Text × Text) :=
  attribute? "format".toList spec.format ++ attribute? "offset".toList spec.offset

/-- The base of a placeholder as it is read, without escapes. -/
def Kind.base : Kind → Text
  | .argument name default choices =>
    "argument".toList ++ printAttributes (argumentAttributes name default choices)
  | .clipboard => "clipboard".toList
  | .selection => "selection".toList
  | .dated style spec => style.keyword ++ printAttributes (dateAttributes spec)
  | .unknown raw => raw

theorem Kind.base_argument (name : Text) (default : Option Text)
    (choices : Option (List Choice)) : (Kind.argument name default choices).base =
      "argument".toList ++ printAttributes (argumentAttributes name default choices) := rfl

theorem Kind.base_dated (style : DateStyle) (spec : DateSpec) :
    (Kind.dated style spec).base = style.keyword ++ printAttributes (dateAttributes spec) := rfl

theorem Kind.base_unknown (raw : Text) : (Kind.unknown raw).base = raw := rfl

theorem printAttribute?_eq (key : Text) (value? : Option Text) :
    printAttribute? key value? = printAttributes (attribute? key value?) := by
  cases value? <;> simp [printAttribute?, attribute?, printAttributes]

theorem printAttributes_append (as bs : List (Text × Text)) :
    printAttributes (as ++ bs) = printAttributes as ++ printAttributes bs :=
  List.flatMap_append

theorem Kind.print_argument (name : Text) (default : Option Text)
    (choices : Option (List Choice)) : (Kind.argument name default choices).print =
      "argument".toList ++ printAttributes (argumentAttributes name default choices) := by
  have hprint : (Kind.argument name default choices).print =
      "argument".toList ++ printAttribute "name".toList name ++
        printAttribute? "default".toList default ++
        printAttribute? "options".toList (choices.map Choices.print) := rfl
  rw [hprint, argumentAttributes, printAttributes, List.flatMap_cons, ← printAttributes,
    printAttributes_append, ← printAttribute?_eq, ← printAttribute?_eq]
  simp only [List.append_assoc]

theorem Kind.print_dated (style : DateStyle) (spec : DateSpec) :
    (Kind.dated style spec).print = style.keyword ++ printAttributes (dateAttributes spec) := by
  have hprint : (Kind.dated style spec).print = style.keyword ++
      printAttribute? "format".toList spec.format ++ printAttribute? "offset".toList spec.offset :=
    rfl
  rw [hprint, dateAttributes, printAttributes_append, ← printAttribute?_eq, ← printAttribute?_eq,
    List.append_assoc]

theorem mem_attribute? {key : Text} {value? : Option Text} {a : Text × Text} :
    a ∈ attribute? key value? ↔ ∃ value ∈ value?, a = (key, value) := by
  simp [attribute?, eq_comm]

/-- An attribute with a key of the grammar and a plain value. -/
structure IsPlainAttribute (a : Text × Text) : Prop where
  key_mem : a.1 ∈ attributeKeys
  value : IsPlainValue a.2

theorem isPlainAttribute_of_mem_attribute? {key : Text} {value? : Option Text} {a : Text × Text}
    (hkey : key ∈ attributeKeys) (h : ∀ value ∈ value?, IsPlainValue value)
    (ha : a ∈ attribute? key value?) : IsPlainAttribute a := by
  obtain ⟨value, hvalue, rfl⟩ := mem_attribute?.mp ha
  exact ⟨hkey, h value hvalue⟩

theorem isPlainAttribute_of_mem_argumentAttributes {name : Text} {default : Option Text}
    {choices : Option (List Choice)} (h : (Kind.argument name default choices).IsPrintable)
    {a : Text × Text} (ha : a ∈ argumentAttributes name default choices) : IsPlainAttribute a := by
  obtain ⟨-, hname, hdefault, hchoices⟩ := h
  have hlist : ∀ value ∈ choices.map Choices.print, IsPlainValue value := by
    intro value hvalue
    obtain ⟨list, hlist, rfl⟩ := Option.map_eq_some_iff.mp hvalue
    exact (hchoices list hlist).1
  rcases List.mem_cons.mp ha with rfl | ha
  · exact ⟨List.mem_cons_self, hname⟩
  rcases List.mem_append.mp ha with ha | ha
  · exact isPlainAttribute_of_mem_attribute? (by decide) hdefault ha
  · exact isPlainAttribute_of_mem_attribute? (by decide) hlist ha

theorem isPlainAttribute_of_mem_dateAttributes {style : DateStyle} {spec : DateSpec}
    (h : (Kind.dated style spec).IsPrintable) {a : Text × Text} (ha : a ∈ dateAttributes spec) :
    IsPlainAttribute a := by
  rcases List.mem_append.mp ha with ha | ha
  · exact isPlainAttribute_of_mem_attribute? (by decide) h.1 ha
  · exact isPlainAttribute_of_mem_attribute? (by decide) h.2 ha

/-! ## Reading the base -/

theorem isKey_of_mem_attributeKeys : ∀ key ∈ attributeKeys, IsKey key := by
  decide

/-- A key of the grammar is read from plain attributes behind a text without `=` by looking it
up. -/
theorem extract_of_plain {key base : Text} (hkey : key ∈ attributeKeys) (hbase : '=' ∉ base)
    {attributes : List (Text × Text)} (h : ∀ a ∈ attributes, IsPlainAttribute a) :
    extract key (base ++ printAttributes attributes) = attributes.lookup key := by
  refine extract_printAttributes (isKey_of_mem_attributeKeys key hkey) ?_ fun a ha => ?_
  · rintro ⟨front, back, rfl, -⟩
    simp at hbase
  · obtain ⟨hmem, hvalue⟩ := h a ha
    exact ⟨isKey_of_mem_attributeKeys _ hmem, hvalue.quote_notMem,
      fun hmentions => hvalue.not_infix key hkey (infix_of_mentions hmentions)⟩

theorem lookup_attribute?_self (key : Text) (value? : Option Text) :
    (attribute? key value?).lookup key = value? := by
  cases value? <;> simp [attribute?]

theorem lookup_attribute?_of_ne {key other : Text} (h : other ≠ key) (value? : Option Text) :
    (attribute? key value?).lookup other = none := by
  cases value? <;> simp [attribute?, List.lookup_cons, beq_eq_false_iff_ne.mpr h]

theorem argumentKind?_base {name : Text} {default : Option Text} {choices : Option (List Choice)}
    (h : (Kind.argument name default choices).IsPrintable) :
    argumentKind? (Kind.argument name default choices).base =
      some (.argument name default choices) := by
  have hextract : ∀ key ∈ attributeKeys, extract key (Kind.argument name default choices).base =
      (argumentAttributes name default choices).lookup key := fun key hkey =>
    extract_of_plain hkey (by decide) fun a ha => isPlainAttribute_of_mem_argumentAttributes h ha
  have hchoices : (choices.map Choices.print).map Choices.parse = choices := by
    cases choices with
    | none => rfl
    | some list => exact congrArg some (Choices.parse_print (h.2.2.2 list rfl).2)
  have hname : (argumentAttributes name default choices).lookup "name".toList = some name := by
    rw [argumentAttributes, List.lookup_cons_self]
  have hdefault : (argumentAttributes name default choices).lookup "default".toList = default := by
    rw [argumentAttributes, List.lookup_cons, List.lookup_append, lookup_attribute?_self,
      lookup_attribute?_of_ne (by decide), Option.or_none]
    rfl
  have hoptions : (argumentAttributes name default choices).lookup "options".toList =
      choices.map Choices.print := by
    rw [argumentAttributes, List.lookup_cons, List.lookup_append, lookup_attribute?_self,
      lookup_attribute?_of_ne (by decide), Option.none_or]
    rfl
  rw [argumentKind?, hextract _ (by decide), hextract _ (by decide), hextract _ (by decide), hname,
    hdefault, hoptions, hchoices]
  simp [Option.filter, h.1]

theorem dateSpec_printAttributes {style : DateStyle} {spec : DateSpec}
    (h : (Kind.dated style spec).IsPrintable) :
    dateSpec (printAttributes (dateAttributes spec)) = spec := by
  have hextract : ∀ key ∈ attributeKeys, extract key (printAttributes (dateAttributes spec)) =
      (dateAttributes spec).lookup key := fun key hkey =>
    extract_of_plain hkey List.not_mem_nil fun a ha =>
      isPlainAttribute_of_mem_dateAttributes h ha
  have hformat : (dateAttributes spec).lookup "format".toList = spec.format := by
    rw [dateAttributes, List.lookup_append, lookup_attribute?_self,
      lookup_attribute?_of_ne (by decide), Option.or_none]
  have hoffset : (dateAttributes spec).lookup "offset".toList = spec.offset := by
    rw [dateAttributes, List.lookup_append, lookup_attribute?_self,
      lookup_attribute?_of_ne (by decide), Option.none_or]
  rw [dateSpec, hextract _ (by decide), hextract _ (by decide), hformat, hoffset]

/-! ## Keywords -/

/-- The text may stand behind a whole word : it is empty or starts with a blank. -/
def EndsWord (rest : Text) : Prop :=
  ∀ c, rest.head? = some c → Text.isBlank c = true

theorem endsWord_printAttributes (attributes : List (Text × Text)) :
    EndsWord (printAttributes attributes) := by
  intro c hc
  cases attributes with
  | nil => simp [printAttributes] at hc
  | cons a attributes =>
    obtain rfl : ' ' = c := by simpa [printAttributes, printAttribute] using hc
    decide

theorem afterKeyword?_eq_some_iff {keyword base rest : Text} :
    afterKeyword? keyword base = some rest ↔ base = keyword ++ rest ∧ EndsWord rest := by
  rw [afterKeyword?, Option.filter_eq_some_iff, Text.afterStart?_eq_some_iff]
  cases rest <;> simp [EndsWord]

theorem keyword_date : DateStyle.date.keyword = "date".toList := rfl

theorem keyword_time : DateStyle.time.keyword = "time".toList := rfl

theorem keyword_datetime : DateStyle.datetime.keyword = "datetime".toList := rfl

/-- The keyword in front of the end of a word is the whole word. -/
theorem takeWhile_keyword (style : DateStyle) {rest : Text} (h : EndsWord rest) :
    (style.keyword ++ rest).takeWhile (fun c => !Text.isBlank c) = style.keyword := by
  have hword : ∀ c ∈ style.keyword, (!Text.isBlank c) = true :=
    List.all_eq_true.mp (by cases style <;> decide)
  rw [List.takeWhile_append_of_pos hword]
  cases rest with
  | nil => simp
  | cons c rest => simp [h c rfl]

theorem keyword_injective {style other : DateStyle} (h : style.keyword = other.keyword) :
    style = other := by
  cases style <;> cases other <;> first | rfl | exact absurd h (by decide)

theorem afterKeyword?_keyword (style other : DateStyle) {rest : Text} (h : EndsWord rest) :
    afterKeyword? other.keyword (style.keyword ++ rest) =
      if other = style then some rest else none := by
  split
  · next heq =>
    subst heq
    exact afterKeyword?_eq_some_iff.mpr ⟨rfl, h⟩
  · next hne =>
    rw [Option.eq_none_iff_forall_ne_some]
    intro rest' hrest'
    obtain ⟨heq, h'⟩ := afterKeyword?_eq_some_iff.mp hrest'
    have hkeyword := takeWhile_keyword style h
    rw [heq, takeWhile_keyword other h'] at hkeyword
    exact hne (keyword_injective hkeyword)

/-- A style is read off its keyword. -/
theorem datedKind?_keyword (style : DateStyle) {rest : Text} (h : EndsWord rest) :
    datedKind? (style.keyword ++ rest) = some (.dated style (dateSpec rest)) := by
  simp only [datedKind?, afterKeyword?_keyword style _ h]
  cases style <;> rfl

theorem datedKind?_eq_none {base : Text}
    (h : ∀ (style : DateStyle) (rest : Text), base = style.keyword ++ rest → ¬EndsWord rest) :
    datedKind? base = none := by
  refine List.findSome?_eq_none_iff.mpr fun style _ => ?_
  rw [Option.map_eq_none_iff, Option.eq_none_iff_forall_ne_some]
  intro rest hrest
  obtain ⟨heq, hends⟩ := afterKeyword?_eq_some_iff.mp hrest
  exact h style rest heq hends

/-- The base of a printable kind is read as that kind. -/
theorem parseBase_base {kind : Kind} (h : kind.IsPrintable) (content : Text) :
    parseBase kind.base content = .ok kind := by
  cases kind with
  | clipboard => rfl
  | selection => rfl
  | argument name default choices =>
    have hclipboard : (Kind.argument name default choices).base ≠ "clipboard".toList := by
      simp [Kind.base_argument]
    have hselection : (Kind.argument name default choices).base ≠ "selection".toList := by
      simp [Kind.base_argument]
    have hdated : datedKind? (Kind.argument name default choices).base = none := by
      refine datedKind?_eq_none fun style rest heq => ?_
      cases style <;> simp [Kind.base_argument, keyword_date, keyword_time, keyword_datetime] at heq
    have hargument : "argument".toList.isPrefixOf (Kind.argument name default choices).base :=
      List.isPrefixOf_iff_prefix.mpr (List.prefix_append _ _)
    rw [parseBase, if_neg hclipboard, if_neg hselection, hdated]
    simp only [hargument, if_true, argumentKind?_base h]
  | dated style spec =>
    have hclipboard : (Kind.dated style spec).base ≠ "clipboard".toList := by
      cases style <;> simp [Kind.base_dated, keyword_date, keyword_time, keyword_datetime]
    have hselection : (Kind.dated style spec).base ≠ "selection".toList := by
      cases style <;> simp [Kind.base_dated, keyword_date, keyword_time, keyword_datetime]
    have hdated : datedKind? (Kind.dated style spec).base = some (.dated style spec) := by
      rw [Kind.base_dated, datedKind?_keyword style (endsWord_printAttributes _),
        dateSpec_printAttributes h]
    rw [parseBase, if_neg hclipboard, if_neg hselection, hdated]
  | unknown raw =>
    obtain ⟨-, hraw⟩ := h
    have hdated : datedKind? raw = none := datedKind?_eq_none fun style rest heq hends => by
      obtain ⟨c, hc, hblank⟩ := hraw.not_dated style rest heq
      rw [hends c hc] at hblank
      exact Bool.noConfusion hblank
    have hargument : ¬"argument".toList.isPrefixOf raw = true :=
      fun hprefix => hraw.not_argument (List.isPrefixOf_iff_prefix.mp hprefix)
    rw [parseBase, Kind.base_unknown, if_neg hraw.ne_clipboard, if_neg hraw.ne_selection, hdated,
      if_neg hargument]

/-! ## Reading the segments -/

theorem readsAs_of_blank {s : Text} (h : Text.AllBlank s) : ReadsAs s s := by
  refine .of_plain fun c hc => ⟨?_, ?_, ?_⟩ <;>
    · rintro rfl
      exact absurd (h _ hc) (by decide)

theorem readsAs_printAttributes {attributes : List (Text × Text)}
    (h : ∀ a ∈ attributes, IsPlainAttribute a) :
    ReadsAs (printAttributes attributes) (printAttributes attributes) := by
  have hkeys : ∀ key ∈ attributeKeys, IsPlain (' ' :: key ++ ['=']) := by
    decide
  induction attributes with
  | nil => exact .nil
  | cons a attributes ih =>
    obtain ⟨hkey, hvalue⟩ := h a List.mem_cons_self
    have hword := ReadsAs.of_plain (hkeys a.1 hkey)
    have hquoted := ReadsAs.of_quoted hvalue.quote_notMem
    have hrest := ih fun b hb => h b (List.mem_cons_of_mem _ hb)
    have hprint : printAttributes (a :: attributes) =
        (' ' :: a.1 ++ ['=']) ++ ('"' :: a.2 ++ ['"']) ++ printAttributes attributes := by
      simp [printAttributes, printAttribute]
    rw [hprint]
    exact (hword.append hquoted).append hrest

theorem trim_append_printAttributes {base : Text} (hbase : Text.trim base = base) (hne : base ≠ [])
    (attributes : List (Text × Text)) :
    Text.trim (base ++ printAttributes attributes) = base ++ printAttributes attributes := by
  rw [Text.trim_eq_self_iff] at hbase ⊢
  constructor
  · intro c hc
    cases base with
    | nil => exact absurd rfl hne
    | cons d base => exact hbase.1 c hc
  · intro c hc
    rcases List.eq_nil_or_concat attributes with rfl | ⟨front, a, rfl⟩
    · exact hbase.2 c (by simpa [printAttributes] using hc)
    · have hquote : base ++ printAttributes (front.concat a) =
          base ++ printAttributes front ++ (' ' :: a.1 ++ '=' :: '"' :: a.2) ++ ['"'] := by
        simp [printAttributes, printAttribute]
      rw [hquote, List.getLast?_concat] at hc
      obtain rfl := Option.some.inj hc
      decide

/-- A printed base is read as the base, which is trimmed. -/
theorem readsAs_base {kind : Kind} (h : kind.IsPrintable) :
    ReadsAs kind.print kind.base ∧ Text.trim kind.base = kind.base := by
  cases kind with
  | clipboard => exact ⟨.of_plain (by decide), by decide⟩
  | selection => exact ⟨.of_plain (by decide), by decide⟩
  | argument name default choices =>
    rw [Kind.print_argument, Kind.base_argument]
    refine ⟨.append (.of_plain (by decide)) (readsAs_printAttributes fun a ha =>
      isPlainAttribute_of_mem_argumentAttributes h ha), ?_⟩
    exact trim_append_printAttributes (by decide) (by decide) _
  | dated style spec =>
    rw [Kind.print_dated, Kind.base_dated]
    refine ⟨.append (.of_plain (by cases style <;> decide)) (readsAs_printAttributes fun a ha =>
      isPlainAttribute_of_mem_dateAttributes h ha), ?_⟩
    exact trim_append_printAttributes (by cases style <;> decide) (by cases style <;> decide) _
  | unknown raw => exact ⟨.of_escapePipes h.1.quote_notMem, h.1.trimmed⟩

/-- Blanks around what is read are trimmed. -/
theorem Pads.readsAs {s t padded : Text} (h : Pads s padded) (hs : ReadsAs s t)
    (ht : Text.trim t = t) : ∃ read, ReadsAs padded read ∧ Text.trim read = t := by
  obtain ⟨front, back, hfront, hback, rfl⟩ := h
  refine ⟨front ++ (t ++ back), (readsAs_of_blank hfront).append (hs.append
    (readsAs_of_blank hback)), ?_⟩
  rw [Text.trim_append_left hfront, Text.trim_append_right hback, ht]

theorem WritesModifiers.head_ne {names : List Text} {text : Text}
    (h : WritesModifiers names text) : text.head? ≠ some '|' := by
  cases h <;> simp

/-- Behind the segment `current`, written modifier names are read as the names. -/
theorem splitFrom_of_writesModifiers {names : List Text} {text : Text}
    (h : WritesModifiers names text) (hnames : ∀ name ∈ names, IsPlainSegment name)
    (current : Text) : splitFrom false current text = Text.trim current :: names := by
  have hblank : Text.AllBlank [' '] := by decide
  induction h generalizing current with
  | nil => simp
  | @cons name padded text names hpads hwrites ih =>
    have hname := hnames name List.mem_cons_self
    obtain ⟨read, hread, htrim⟩ :=
      hpads.readsAs (.of_escapePipes hname.quote_notMem) hname.trimmed
    have hspace : ∀ rest : Text, ' ' = '\\' → rest.head? ≠ some '|' :=
      fun _ h => absurd h (by decide)
    have hbar : " | ".toList ++ (padded ++ text) = ' ' :: '|' :: ' ' :: (padded ++ text) := rfl
    rw [hbar, splitFrom_plain (by decide) (by decide) (hspace _), splitFrom_pipe,
      splitFrom_plain (by decide) (by decide) (hspace _),
      hread.splitFrom_append _ _ hwrites.head_ne,
      ih fun name hname => hnames name (List.mem_cons_of_mem _ hname), List.nil_append,
      Text.trim_append_left hblank, htrim, Text.trim_append_right hblank]

/-- The segments of a written placeholder are its base and its modifier names. -/
theorem split_of_writes {p : Placeholder} (h : p.IsPrintable) {text : Text}
    (hwrites : Writes p text) : Segment.split text = p.kind.base :: p.modifiers := by
  obtain ⟨base, modifiers, hbase, hmodifiers, rfl⟩ := hwrites
  obtain ⟨hreads, htrimmed⟩ := readsAs_base h.kind
  obtain ⟨read, hread, htrim⟩ := hbase.readsAs hreads htrimmed
  have hnames : ∀ name ∈ p.modifiers, IsPlainSegment name :=
    fun name hname => (h.modifiers name hname).2
  rw [Segment.split, hread.splitFrom_append _ _ hmodifiers.head_ne,
    splitFrom_of_writesModifiers hmodifiers hnames, List.nil_append, htrim]

/-- Reading undoes writing : a placeholder none of whose parts can be taken for a part of the
grammar is read back from its printed form, and from every form that differs from it in blanks
around the segments. -/
theorem parse_of_writes (p : Placeholder) (h : p.IsPrintable) :
    parse p.print = .ok p ∧ ∀ text, Writes p text → parse text = .ok p := by
  have hwritten : ∀ text, Writes p text → parse text = .ok p := by
    intro text hwrites
    have hnames : p.modifiers.filter (· ≠ []) = p.modifiers := by
      refine List.filter_eq_self.mpr fun name hname => ?_
      simpa using (h.modifiers name hname).1
    rw [parse, split_of_writes h hwrites]
    simp only [parseBase_base h.kind, hnames, Except.map]
  exact ⟨hwritten _ (writes_print p), hwritten⟩

/-- Pipes, backslashes, commas and a `=` in values, choices and a modifier name. -/
theorem parse_of_writes_argument :
    let p : Placeholder :=
      ⟨.argument "a | b\\".toList (some "name = x".toList)
        (some [⟨"é".toList, "1|2".toList⟩, ⟨[], []⟩]), ["trim".toList, "x|y\\".toList]⟩
    p.IsPrintable ∧
      p.print = "argument name=\"a | b\\\" default=\"name = x\" options=\"é|1|2, |\"".toList ++
        " | trim | x\\|y\\".toList ∧
      Writes p ('\t' :: p.print ++ [' ']) ∧ parse p.print = .ok p ∧
      parse ('\t' :: p.print ++ [' ']) = .ok p := by
  intro p
  have hchoice : ∀ c ∈ [Choice.mk "é".toList "1|2".toList, ⟨[], []⟩], c.IsPrintable := by
    simp only [List.mem_cons, List.not_mem_nil, or_false, forall_eq_or_imp, forall_eq]
    constructor <;> constructor <;> decide
  have hprintable : p.IsPrintable := by
    refine ⟨⟨by decide +kernel, ⟨by decide +kernel, by decide +kernel⟩, ?_, ?_⟩, ?_⟩
    · rintro value ⟨⟩
      exact ⟨by decide +kernel, by decide +kernel⟩
    · rintro list ⟨⟩
      exact ⟨⟨by decide +kernel, by decide +kernel⟩, hchoice⟩
    · simp only [p, List.mem_cons, List.not_mem_nil, or_false, forall_eq_or_imp, forall_eq]
      exact ⟨⟨by decide +kernel, by decide +kernel, by decide +kernel⟩, by decide +kernel,
        by decide +kernel, by decide +kernel⟩
  have hwrites : Writes p ('\t' :: p.print ++ [' ']) := by
    have hbase : Pads p.kind.print ('\t' :: p.kind.print) :=
      ⟨['\t'], [], by decide +kernel, by decide +kernel, by simp⟩
    have hlast : Pads (escapePipes "x|y\\".toList) (escapePipes "x|y\\".toList ++ [' ']) :=
      ⟨[], [' '], by decide +kernel, by decide +kernel, rfl⟩
    exact ⟨_, _, hbase, .cons (pads_self _) (.cons hlast .nil), by decide +kernel⟩
  obtain ⟨hprint, hwritten⟩ := parse_of_writes p hprintable
  exact ⟨hprintable, by decide +kernel, hwrites, hprint, hwritten _ hwrites⟩

end Placeholder

end LinkTemplate
