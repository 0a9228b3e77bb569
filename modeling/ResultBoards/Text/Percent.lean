import ResultBoards.Text.Hex

/-!
# Percent-encoding

A byte is written as a percent sign and two hexadecimal digits.  Texts are encoded by
their UTF-8 bytes.
-/

namespace ResultBoards.Text.Percent

/-- A byte as a percent sign and two upper-case digits. -/
def encodeByte (byte : UInt8) : List Char :=
  ['%', hexDigitUpper (byte.toNat / 16), hexDigitUpper (byte.toNat % 16)]

/-- A character as its encoded bytes. -/
def encodeChar (c : Char) : List Char :=
  (String.utf8EncodeChar c).flatMap encodeByte

/-- The characters that never need to be encoded. -/
def isUnreserved (c : Char) : Bool :=
  c.isAlphanum || c == '-' || c == '_' || c == '.' || c == '~'

/-- A text with all but the given characters encoded. -/
def encodeExcept (kept : Char → Bool) (text : List Char) : List Char :=
  text.flatMap fun c => if kept c then [c] else encodeChar c

/-- A text with all but the unreserved characters encoded. -/
def encode (text : String) : String :=
  String.ofList (encodeExcept isUnreserved text.toList)

/-- The bytes of a text in which encoded bytes are decoded.  A percent sign without two
digits stands for itself. -/
def decodeBytes : List Char → List UInt8
  | [] => []
  | '%' :: high :: low :: rest =>
      match hexValue? high, hexValue? low with
      | some high, some low => UInt8.ofNat (high * 16 + low) :: decodeBytes rest
      | _, _ => String.utf8EncodeChar '%' ++ decodeBytes (high :: low :: rest)
  | c :: rest => String.utf8EncodeChar c ++ decodeBytes rest

/-- The text that is meant, unless its bytes are not UTF-8. -/
def decode? (text : List Char) : Option String :=
  String.fromUTF8? (ByteArray.mk (decodeBytes text).toArray)

end ResultBoards.Text.Percent
