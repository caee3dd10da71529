import DocScript.Text.Class
import DocScript.Text.Hex

/-! # Code points

The texts of values are made of code points. An escape can name half of a surrogate pair, which is a
code point and no character, so that no string has it.
-/

namespace DocScript

/-- A character, or half of a surrogate pair that stands by itself. -/
inductive Point where
  | char (c : Char)
  | half (index : Fin 0x800)
  deriving DecidableEq, Repr

namespace Point

/-- The code of the first half of a pair. -/
def firstHalf : Nat := 0xD800

def code : Point → Nat
  | .char c => c.toNat
  | .half index => firstHalf + index

/-- The point with a code that some point has. -/
def ofCode (code : Nat) : Point :=
  if h : code - firstHalf < 0x800 ∧ firstHalf ≤ code then .half ⟨code - firstHalf, h.1⟩
  else .char (Char.ofNat code)

def char? : Point → Option Char
  | .char c => some c
  | .half _ => none

def isChar (point : Point) : Bool := point.char?.isSome

end Point

/-- A text of a value. -/
abbrev Points := List Point

namespace Points

def ofChars (chars : List Char) : Points := chars.map .char

def ofString (s : String) : Points := ofChars s.toList

instance : Coe String Points := ⟨ofString⟩

/-- A text as a string. One with half of a pair is none. -/
def string? (text : Points) : Option String := (text.mapM Point.char?).map String.ofList

def isBlank (text : Points) : Bool := text.all fun point => point.char?.any Text.isBlank

end Points

end DocScript
