import DocScript.Text.Table.CaseFold
import DocScript.Text.Table.Punctuation
import DocScript.Text.Table.Unprintable
import DocScript.Text.Table.Word

/-! # Character classes

Names, numerals and blanks are recognised in every script, not only in ASCII.
-/

namespace DocScript.Text

/-- Letters and numbers of every script, and the underscore. -/
def isWord (c : Char) : Bool := wordRanges.contains c

def isPrintable (c : Char) : Bool := !unprintableRanges.contains c

def isPunctuation (c : Char) : Bool := punctuationRanges.contains c

def blankRanges : Ranges :=
  [(0x09, 0x0D), (0x1C, 0x20), (0x85, 0x85), (0xA0, 0xA0), (0x1680, 0x1680), (0x2000, 0x200A),
   (0x2028, 0x2029), (0x202F, 0x202F), (0x205F, 0x205F), (0x3000, 0x3000)]

/-- Spaces, line ends and the separators that count as such. The zero-width space is not one. -/
def isBlank (c : Char) : Bool := blankRanges.contains c

/-- The zeros of the decimal scripts. The nine other digits follow each of them. -/
def digitZeros : List Nat :=
  [0x30, 0x660, 0x6F0, 0x7C0, 0x966, 0x9E6, 0xA66, 0xAE6, 0xB66, 0xBE6, 0xC66, 0xCE6, 0xD66,
   0xDE6, 0xE50, 0xED0, 0xF20, 0x1040, 0x1090, 0x17E0, 0x1810, 0x1946, 0x19D0, 0x1A80, 0x1A90,
   0x1B50, 0x1BB0, 0x1C40, 0x1C50, 0xA620, 0xA8D0, 0xA900, 0xA9D0, 0xA9F0, 0xAA50, 0xABF0, 0xFF10,
   0x104A0, 0x10D30, 0x11066, 0x110F0, 0x11136, 0x111D0, 0x112F0, 0x11450, 0x114D0, 0x11650,
   0x116C0, 0x11730, 0x118E0, 0x11950, 0x11C50, 0x11D50, 0x11DA0, 0x16A60, 0x16AC0, 0x16B50,
   0x1D7CE, 0x1D7D8, 0x1D7E2, 0x1D7EC, 0x1D7F6, 0x1E140, 0x1E2F0, 0x1E950, 0x1FBF0]

/-- What a decimal digit of any script stands for. -/
def digitValue? (c : Char) : Option Nat :=
  (digitZeros.find? fun first => first ≤ c.toNat && c.toNat ≤ first + 9).map (c.toNat - ·)

def isDigit (c : Char) : Bool := (digitValue? c).isSome

/-- The one character that a run of foldings gives for `code`, if the run covers it. -/
def FoldRun.apply? (run : FoldRun) (code : Nat) : Option Char :=
  if run.first ≤ code && code ≤ run.last && (code - run.first) % run.step == 0 then
    some (Char.ofNat (code + run.offset).toNat)
  else none

/-- The capital form in which letters that differ in case agree. -/
def capital (c : Char) : List Char :=
  match foldExpansions.lookup c.toNat with
  | some codes => codes.map Char.ofNat
  | none => [(foldRuns.findSome? fun run => run.apply? c.toNat).getD c]

/-- The small form of an ASCII letter, and of the Kelvin sign, whose small form is `k`. -/
def asciiSmall (c : Char) : Char :=
  if c = '\u212a' then 'k' else c.toLower

/-- Drops blanks at both ends. -/
def trim (text : List Char) : List Char :=
  ((text.dropWhile isBlank).reverse.dropWhile isBlank).reverse

end DocScript.Text
