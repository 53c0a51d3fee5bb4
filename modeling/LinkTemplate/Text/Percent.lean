import LinkTemplate.Text.Hexadecimal

/-!
# Percent encoding

`encode` keeps the unreserved characters of a URI, the ASCII letters and digits and `-`, `.`,
`_`, `~`, and writes every byte of the UTF-8 form of any other character as `%` with two
hexadecimal digits in capitals. `decode` gives the bytes back; a `%` without two hexadecimal
digits behind it stands for itself.
-/

namespace LinkTemplate.Text.Percent

/-- Whether a character is written as itself. -/
def isUnreserved (c : Char) : Bool :=
  c.isAlphanum || c == '-' || c == '.' || c == '_' || c == '~'

/-- The UTF-8 bytes of a text. -/
def utf8 (t : Text) : List UInt8 :=
  t.flatMap String.utf8EncodeChar

/-- A byte as `%` and two hexadecimal digits. -/
def encodeByte (b : UInt8) : Text :=
  ['%', hexCapital (b.toNat / 16), hexCapital (b.toNat % 16)]

/-- A character as itself or as its encoded bytes. -/
def encodeChar (c : Char) : Text :=
  if isUnreserved c then [c] else (String.utf8EncodeChar c).flatMap encodeByte

/-- The percent-encoded text. -/
def encode (t : Text) : Text :=
  t.flatMap encodeChar

/-- The bytes that a percent-encoded text stands for. -/
def decode : Text → List UInt8
  | [] => []
  | c :: rest =>
    match c, rest with
    | '%', high :: low :: after =>
      match hexValue? high, hexValue? low with
      | some h, some l => UInt8.ofNat (16 * h + l) :: decode after
      | _, _ => String.utf8EncodeChar '%' ++ decode (high :: low :: after)
    | c, rest => String.utf8EncodeChar c ++ decode rest

theorem encode_append (s t : Text) : encode (s ++ t) = encode s ++ encode t := by
  simp [encode]

end LinkTemplate.Text.Percent
