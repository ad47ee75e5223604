import ModuleUpdate.Text.Hexadecimal

namespace ModuleUpdate.Url

/-!
# Percent encoding

An address holds characters of a small set.  All others are written as the bytes they have, each a
percent sign and two hexadecimal digits; a percent sign stands for itself elsewhere.
-/

/-- A byte as a percent sign and two uppercase hexadecimal digits. -/
def encodeByte (byte : UInt8) : Text :=
  ['%', (Text.hexDigit (byte.toNat / 16)).toUpper, (Text.hexDigit (byte.toNat % 16)).toUpper]

/-- A text with controls, characters beyond the Latin letters and those of a list encoded. -/
def encode (refused : Text) (text : Text) : Text :=
  text.flatMap fun character =>
    if character.toNat ≤ 0x1F ∨ 0x7F ≤ character.toNat ∨ character ∈ refused then
      (String.utf8EncodeChar character).flatMap encodeByte
    else
      [character]

/-- The byte of two hexadecimal digits. -/
def byte? (high low : Char) : Option UInt8 :=
  (Text.ofHexDigits? [high, low]).map UInt8.ofNat

/-- The bytes that an encoded text stands for. -/
def decode : Text → List UInt8
  | [] => []
  | '%' :: high :: low :: rest =>
      match byte? high low with
      | some byte => byte :: decode rest
      | none => String.utf8EncodeChar '%' ++ decode (high :: low :: rest)
  | character :: rest => String.utf8EncodeChar character ++ decode rest

/-- The text that an encoded text stands for, if its bytes are those of a text. -/
def decodeText? (text : Text) : Option Text :=
  Text.ofBytes? (decode text).toByteArray

end ModuleUpdate.Url
