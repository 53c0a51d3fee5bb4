import LinkTemplate.Text.Percent
import Mathlib.Data.List.Basic

/-!
# Percent encoding undone

`encode` goes through a text character by character, but what it writes is settled by the bytes of
the UTF-8 form, one by one (`encode_eq_flatMap`) : a byte becomes the unreserved character that it
is the code of, or else a percent sign with its two digits (`encodeOctet`). Decoding gives the bytes
back (`decode_flatMap_encodeOctet`), and a text in the form that bytes are written in (`IsEncoding`)
is what the bytes that it stands for are written as (`IsEncoding.flatMap_decode`). So `encode` loses
nothing, and the texts that it writes are those of this form whose bytes are UTF-8.
-/

namespace LinkTemplate.Text.Percent

/-! ## Bytes of a character -/

theorem toNat_lt_of_isUnreserved {c : Char} (h : isUnreserved c = true) : c.toNat < 0x80 := by
  delta isUnreserved Char.isAlphanum Char.isAlpha Char.isUpper Char.isLower Char.isDigit at h
  simp only [Bool.or_eq_true, Bool.and_eq_true, decide_eq_true_eq, beq_iff_eq, ge_iff_le,
    UInt32.le_iff_toNat_le, Char.toNat_val] at h
  rcases h with (((h | rfl) | rfl) | rfl) | rfl
  · have hlast : 'Z'.toNat = 90 ∧ 'z'.toNat = 122 ∧ '9'.toNat = 57 := ⟨rfl, rfl, rfl⟩
    omega
  all_goals decide

theorem utf8EncodeChar_of_lt {c : Char} (h : c.toNat < 0x80) :
    String.utf8EncodeChar c = [UInt8.ofNat c.toNat] := by
  have hle : c.val.toNat ≤ 0x7f := Nat.le_of_lt_succ h
  rw [String.utf8EncodeChar, if_pos hle, Char.toNat_val]

/-- Every byte of a character beyond ASCII is beyond ASCII. -/
theorem le_toNat_of_mem_utf8EncodeChar {c : Char} (h : 0x80 ≤ c.toNat) {b : UInt8}
    (hb : b ∈ String.utf8EncodeChar c) : 0x80 ≤ b.toNat := by
  have hlt : ¬c.val.toNat ≤ 0x7f := Nat.not_le_of_lt h
  rw [String.utf8EncodeChar, if_neg hlt] at hb
  split at hb
  · simp only [List.mem_cons, List.not_mem_nil, or_false] at hb
    rcases hb with rfl | rfl <;> simp only [UInt8.toNat_ofNat'] <;> omega
  · split at hb <;> simp only [List.mem_cons, List.not_mem_nil, or_false] at hb
    · rcases hb with rfl | rfl | rfl <;> simp only [UInt8.toNat_ofNat'] <;> omega
    · rcases hb with rfl | rfl | rfl | rfl <;> simp only [UInt8.toNat_ofNat'] <;> omega

/-! ## One byte -/

/-- Whether a byte is the code of an unreserved character. -/
def isUnreservedByte (b : UInt8) : Bool :=
  isUnreserved (Char.ofUInt8 b)

/-- A byte as the unreserved character that it is the code of, or as `%` and two digits. -/
def encodeOctet (b : UInt8) : Text :=
  if isUnreservedByte b then [Char.ofUInt8 b] else encodeByte b

theorem toNat_ofUInt8 (b : UInt8) : (Char.ofUInt8 b).toNat = b.toNat :=
  UInt8.toNat_toUInt32 b

theorem ofUInt8_ofNat {c : Char} (h : c.toNat < 0x80) : Char.ofUInt8 (UInt8.ofNat c.toNat) = c := by
  refine Char.toNat_inj.mp ?_
  rw [toNat_ofUInt8, UInt8.toNat_ofNat']
  omega

/-- A character is written as its bytes are, each by itself. -/
theorem encodeChar_eq_flatMap (c : Char) :
    encodeChar c = (String.utf8EncodeChar c).flatMap encodeOctet := by
  by_cases hlt : c.toNat < 0x80
  · rw [encodeChar, utf8EncodeChar_of_lt hlt, List.flatMap_singleton, List.flatMap_singleton,
      encodeOctet, isUnreservedByte, ofUInt8_ofNat hlt]
  · have hreserved : isUnreserved c = false :=
      Bool.eq_false_iff.mpr fun h => hlt (toNat_lt_of_isUnreserved h)
    rw [encodeChar, hreserved, if_neg Bool.false_ne_true]
    refine List.flatMap_congr fun b hb => ?_
    have hbyte : isUnreservedByte b = false := by
      refine Bool.eq_false_iff.mpr fun h => ?_
      have hascii := toNat_lt_of_isUnreserved h
      have hbeyond := le_toNat_of_mem_utf8EncodeChar (Nat.le_of_not_lt hlt) hb
      rw [toNat_ofUInt8] at hascii
      omega
    rw [encodeOctet, hbyte, if_neg Bool.false_ne_true]

/-- A text is written byte by byte. -/
theorem encode_eq_flatMap (t : Text) : encode t = (utf8 t).flatMap encodeOctet := by
  rw [encode, utf8, List.flatMap_assoc]
  exact List.flatMap_congr fun c _ => encodeChar_eq_flatMap c

/-! ## Decoding -/

/-- A character other than a percent sign stands for itself. -/
theorem decode_cons {c : Char} (h : c ≠ '%') (t : Text) :
    decode (c :: t) = String.utf8EncodeChar c ++ decode t := by
  rw [decode]
  rintro high low after rfl -
  exact h rfl

theorem decode_unreserved {c : Char} (h : isUnreserved c = true) (t : Text) :
    decode (c :: t) = UInt8.ofNat c.toNat :: decode t := by
  have hne : c ≠ '%' := by
    rintro rfl
    exact absurd h (by decide)
  rw [decode_cons hne, utf8EncodeChar_of_lt (toNat_lt_of_isUnreserved h), List.singleton_append]

theorem decode_encodeByte (b : UInt8) (t : Text) : decode (encodeByte b ++ t) = b :: decode t := by
  have hb : b.toNat < 256 := b.toNat_lt
  have hhigh := hexValue?_hexCapital (b.toNat / 16) (by omega)
  have hlow := hexValue?_hexCapital (b.toNat % 16) (by omega)
  have hvalue : 16 * (b.toNat / 16) + b.toNat % 16 = b.toNat := Nat.div_add_mod _ _
  simp only [encodeByte, List.cons_append, List.nil_append, decode, hhigh, hlow, hvalue,
    UInt8.ofNat_toNat]

theorem decode_encodeOctet (b : UInt8) (t : Text) :
    decode (encodeOctet b ++ t) = b :: decode t := by
  rw [encodeOctet]
  split
  · next h =>
    rw [List.singleton_append, decode_unreserved h, toNat_ofUInt8, UInt8.ofNat_toNat]
  · exact decode_encodeByte b t

theorem decode_flatMap_encodeOctet (bytes : List UInt8) :
    decode (bytes.flatMap encodeOctet) = bytes := by
  induction bytes with
  | nil => rfl
  | cons b bytes ih => rw [List.flatMap_cons, decode_encodeOctet, ih]

theorem decode_encode (t : Text) : decode (encode t) = utf8 t := by
  rw [encode_eq_flatMap, decode_flatMap_encodeOctet]

theorem utf8_inj {s t : Text} : utf8 s = utf8 t ↔ s = t := by
  refine ⟨fun h => ?_, congrArg utf8⟩
  have hbytes : s.utf8Encode = t.utf8Encode := congrArg List.toByteArray h
  have hchars : some s.toArray = some t.toArray := by
    rw [← List.utf8Decode?_utf8Encode, hbytes, List.utf8Decode?_utf8Encode]
  exact List.toArray_inj (Option.some.inj hchars)

theorem encode_inj {s t : Text} : encode s = encode t ↔ s = t := by
  refine ⟨fun h => ?_, congrArg encode⟩
  rw [← utf8_inj, ← decode_encode, h, decode_encode]

/-! ## The written form -/

/-- The hexadecimal digits in capitals, each at the place of its value. -/
def hexCapitals : Text :=
  "0123456789ABCDEF".toList

/-- The text is made of unreserved characters and of percent signs with two digits in capitals, and
the digits write no byte of an unreserved character. -/
inductive IsEncoding : Text → Prop
  | nil : IsEncoding []
  | char {c : Char} {t : Text} (hc : isUnreserved c = true) (ht : IsEncoding t) :
    IsEncoding (c :: t)
  | byte {b : UInt8} {high low : Char} {t : Text} (hhigh : hexCapitals[b.toNat / 16]? = some high)
      (hlow : hexCapitals[b.toNat % 16]? = some low) (hb : isUnreservedByte b = false)
      (ht : IsEncoding t) : IsEncoding ('%' :: high :: low :: t)

theorem getElem?_hexCapitals : ∀ n < 16, hexCapitals[n]? = some (hexCapital n) := by
  decide

theorem isEncoding_flatMap (bytes : List UInt8) : IsEncoding (bytes.flatMap encodeOctet) := by
  induction bytes with
  | nil => exact .nil
  | cons b bytes ih =>
    have hb : b.toNat < 256 := b.toNat_lt
    rw [List.flatMap_cons, encodeOctet]
    split
    · next h => exact .char h ih
    · next h =>
      exact .byte (getElem?_hexCapitals _ (by omega)) (getElem?_hexCapitals _ (by omega))
        (Bool.eq_false_iff.mpr h) ih

theorem isEncoding_encode (t : Text) : IsEncoding (encode t) := by
  rw [encode_eq_flatMap]
  exact isEncoding_flatMap _

/-- A text in the written form is what its bytes are written as. -/
theorem IsEncoding.flatMap_decode {t : Text} (h : IsEncoding t) :
    (decode t).flatMap encodeOctet = t := by
  induction h with
  | nil => rfl
  | @char c t hc _ ih =>
    have hchar := ofUInt8_ofNat (toNat_lt_of_isUnreserved hc)
    rw [decode_unreserved hc, List.flatMap_cons, ih, encodeOctet, isUnreservedByte, hchar,
      if_pos hc, List.singleton_append]
  | @byte b high low t hhigh hlow hb _ ih =>
    have hlt : b.toNat < 256 := b.toNat_lt
    rw [getElem?_hexCapitals _ (by omega), Option.some_inj] at hhigh hlow
    subst hhigh hlow
    have hdecode : decode ('%' :: hexCapital (b.toNat / 16) :: hexCapital (b.toNat % 16) :: t) =
        b :: decode t := decode_encodeByte b t
    rw [hdecode, List.flatMap_cons, ih, encodeOctet, hb, if_neg Bool.false_ne_true]
    rfl

/-- A text in the written form whose bytes are the UTF-8 form of a text is the encoding of it. -/
theorem IsEncoding.encode_eq {s t : Text} (h : IsEncoding s) (hutf8 : utf8 t = decode s) :
    encode t = s := by
  rw [encode_eq_flatMap, hutf8, h.flatMap_decode]

theorem exists_encode_eq_iff {s : Text} :
    (∃ t, encode t = s) ↔ IsEncoding s ∧ (decode s).toByteArray.IsValidUTF8 := by
  constructor
  · rintro ⟨t, rfl⟩
    rw [decode_encode]
    exact ⟨isEncoding_encode t, ⟨t, rfl⟩⟩
  · rintro ⟨h, t, ht⟩
    exact ⟨t, h.encode_eq (List.toByteArray_inj.mp ht.symm)⟩

/-! ## Texts left as they are -/

theorem length_encodeChar (c : Char) :
    (encodeChar c).length = if isUnreserved c then 1 else 3 * c.utf8Size := by
  rw [encodeChar]
  split
  · rfl
  · simp [List.length_flatMap, encodeByte, Nat.mul_comm]

theorem length_le_length_encode (t : Text) : t.length ≤ (encode t).length := by
  induction t with
  | nil => exact Nat.le_refl _
  | cons c t ih =>
    have hsize := Char.utf8Size_pos c
    rw [encode, List.flatMap_cons, ← encode, List.length_append, List.length_cons,
      length_encodeChar]
    split <;> omega

theorem encode_eq_self_iff {t : Text} : encode t = t ↔ ∀ c ∈ t, isUnreserved c = true := by
  induction t with
  | nil => simp [encode]
  | cons c t ih =>
    rw [List.forall_mem_cons, ← ih, encode, List.flatMap_cons, ← encode]
    cases hc : isUnreserved c with
    | true => simp [encodeChar, hc]
    | false =>
      have hsize := Char.utf8Size_pos c
      have hrest := length_le_length_encode t
      simp only [Bool.false_eq_true, false_and, iff_false]
      intro h
      have hlength := congrArg List.length h
      rw [List.length_append, List.length_cons, length_encodeChar, hc,
        if_neg Bool.false_ne_true] at hlength
      omega

/-! ## Nothing lost -/

/-- A text is encoded byte by byte. Decoding gives the bytes back, so different texts are written
differently. What is written is made of unreserved characters and of percent signs with the digits
of other bytes, text by text, and is the text itself if all its characters are unreserved and only
then. A text of this form is what the text is written as whose bytes it stands for, and it is
written at all if its bytes are UTF-8. -/
theorem encode_lossless :
    (∀ t, encode t = (utf8 t).flatMap encodeOctet) ∧
    (∀ t, decode (encode t) = utf8 t) ∧
    (∀ s t, encode s = encode t ↔ s = t) ∧
    (∀ t, IsEncoding (encode t)) ∧
    (∀ s t, encode (s ++ t) = encode s ++ encode t) ∧
    (∀ t, encode t = t ↔ ∀ c ∈ t, isUnreserved c = true) ∧
    (∀ s t, IsEncoding s → utf8 t = decode s → encode t = s) ∧
    ∀ s, (∃ t, encode t = s) ↔ IsEncoding s ∧ (decode s).toByteArray.IsValidUTF8 :=
  ⟨encode_eq_flatMap, decode_encode, fun _ _ => encode_inj, isEncoding_encode, encode_append,
    fun _ => encode_eq_self_iff, fun _ _ h hutf8 => h.encode_eq hutf8,
    fun _ => exists_encode_eq_iff⟩

/-- A letter of two bytes, a blank and a percent sign are read and written again. In small digits
they are read in the same way, but nothing is written so. -/
theorem encode_lossless_multibyte :
    let t := "é %~".toList
    let s := "%C3%A9%20%25~".toList
    let small := "%c3%a9%20%25~".toList
    (IsEncoding s ∧ utf8 t = decode s) ∧ encode t = s ∧ utf8 t = decode small ∧
      ¬IsEncoding small := by
  intro t s small
  obtain ⟨-, -, -, -, -, -, hagain, -⟩ := encode_lossless
  have hform : IsEncoding s :=
    .byte (b := 0xC3) rfl rfl (by decide) <| .byte (b := 0xA9) rfl rfl (by decide) <|
    .byte (b := 0x20) rfl rfl (by decide) <| .byte (b := 0x25) rfl rfl (by decide) <|
    .char (by decide) .nil
  have hbytes : utf8 t = decode s := by decide +kernel
  have hsmall : utf8 t = decode small := by decide +kernel
  refine ⟨⟨hform, hbytes⟩, hagain s t hform hbytes, hsmall, fun h => ?_⟩
  have hwritten := (hagain small t h hsmall).symm.trans (hagain s t hform hbytes)
  exact absurd hwritten (by decide)

end LinkTemplate.Text.Percent
