import DocScript.Text.Utf8

/-! # Percent encoding

Bytes written as a percent sign and two hexadecimal digits, in capitals when they are written and
in any case when they are read.
-/

namespace DocScript.Url

/-- The byte that two hexadecimal digits stand for. -/
def hexPair? (high low : Char) : Option UInt8 := (Text.hexNumber? [high, low]).map UInt8.ofNat

def percentByte (b : UInt8) : List Char :=
  ['%', Text.hexCapital (b.toNat / 16), Text.hexCapital (b.toNat % 16)]

/-- The bytes of a character in UTF-8, each of them encoded. -/
def percentChar (c : Char) : List Char := (String.utf8EncodeChar c).flatMap percentByte

def isAscii (c : Char) : Bool := c.toNat < 0x80

/-- The bytes of an ASCII text, with encoded bytes decoded. A percent sign that begins no encoded
byte stands for itself. -/
def asciiBytes : List Char → List UInt8
  | [] => []
  | '%' :: high :: low :: rest =>
    match hexPair? high low with
    | some b => b :: asciiBytes rest
    | none => '%'.toUInt8 :: asciiBytes (high :: low :: rest)
  | c :: rest => c.toUInt8 :: asciiBytes rest

/-- Decodes a text whose last ASCII run so far is `run`, last character first. Characters outside
ASCII end a run and stand for themselves. -/
def unquoteFrom (run : List Char) : List Char → List Char
  | [] => Text.Utf8.decodeReplacing (asciiBytes run.reverse)
  | c :: rest =>
    if isAscii c then unquoteFrom (c :: run) rest
    else Text.Utf8.decodeReplacing (asciiBytes run.reverse) ++ c :: unquoteFrom [] rest

/-- A text with its encoded bytes read as UTF-8. -/
def unquote (text : String) : String := String.ofList (unquoteFrom [] text.toList)

end DocScript.Url
