/-! # Lines

A document breaks at a newline, a carriage return, or the two together. An excerpt of a script
also breaks at the other characters that end a line.
-/

namespace DocScript.Text

/-- Each line end becomes a single newline. -/
def unifyBreaks : List Char → List Char
  | [] => []
  | '\r' :: '\n' :: rest => '\n' :: unifyBreaks rest
  | '\r' :: rest => '\n' :: unifyBreaks rest
  | c :: rest => c :: unifyBreaks rest

/-- The characters other than the carriage return that end a line of an excerpt. -/
def endsLine (c : Char) : Bool :=
  c = '\n' || c = '\x0b' || c = '\x0c' || c = '\x1c' || c = '\x1d' || c = '\x1e' || c = '\u0085' ||
    c = '\u2028' || c = '\u2029'

/-- The lines of a text without their ends, given the line that has been begun, last character
first. A text that ends in a line end has no empty last line. -/
def linesFrom : List Char → List Char → List (List Char)
  | [], [] => []
  | begun@(_ :: _), [] => [begun.reverse]
  | begun, '\r' :: '\n' :: rest => begun.reverse :: linesFrom [] rest
  | begun, c :: rest =>
    if c = '\r' || endsLine c then begun.reverse :: linesFrom [] rest
    else linesFrom (c :: begun) rest

def lines (text : String) : List String :=
  (linesFrom [] text.toList).map String.ofList

end DocScript.Text
