import DocScript.Markdown.Reference
import DocScript.Markdown.Tag

/-! # Lines of a document

A block looks at each line as the containers around it leave it: without the marks of quotes and
items, with the column of its text counted from the edge of the container.
-/

namespace DocScript.Markdown

/-- A line inside its containers. -/
structure Line where
  /-- The line from the edge of the innermost quote. -/
  chars : List Char
  /-- How many characters stand before the text. -/
  shift : Nat
  /-- The column of the text. It is negative for a line that only continues a paragraph. -/
  indent : Int
  /-- The columns to the left of the edge, for tab stops. -/
  base : Nat
  /-- The place of the line in the document, from zero. -/
  number : Nat
  /-- Whether a line end follows. -/
  ended : Bool

/-- The text of a line behind its marks and blanks. -/
def Line.text (line : Line) : List Char := line.chars.drop line.shift

def Line.isEmpty (line : Line) : Bool := line.text.isEmpty

/-- The column behind a blank at a column. -/
def blankEnd (c : Char) (column stops : Int) : Int :=
  if c = '\t' then column + (4 - (column + stops) % 4) else column + 1

/-- How many blanks begin a text that starts at a column, and the column behind them. -/
def countBlanks (stops : Int) : Int → List Char → Nat × Int
  | column, c :: rest =>
    if isSpace c then
      let (count, stop) := countBlanks stops (blankEnd c column stops) rest
      (count + 1, stop)
    else (0, column)
  | column, [] => (0, column)

/-- The text of a line from a column on. A tab that reaches beyond the column leaves blanks. What
containers have taken from the line counts as blanks. -/
def dropColumns (columns base : Int) (shift : Nat) : Int → List Char → List Char
  | column, c :: rest =>
    if column < columns then
      if isSpace c then dropColumns columns base (shift - 1) (blankEnd c column base) rest
      else if 0 < shift then dropColumns columns base (shift - 1) (column + 1) rest
      else c :: rest
    else List.replicate (column - columns).toNat ' ' ++ c :: rest
  | column, [] => List.replicate (column - columns).toNat ' '

def Line.fromColumn (line : Line) (columns : Int) : List Char :=
  dropColumns columns line.base line.shift 0 line.chars

/-- The lines from a column on, divided by line ends. -/
def joinLines (columns : Int) : List Line → List Char
  | [] => []
  | [line] => line.fromColumn columns
  | line :: rest => line.fromColumn columns ++ '\n' :: joinLines columns rest

/-- The lines from a column on, each with its end. -/
def joinEndedLines (columns : Int) (lines : List Line) : List Char :=
  lines.flatMap fun line => line.fromColumn columns ++ if line.ended then ['\n'] else []

def Line.ofChars (number : Nat) (ended : Bool) (chars : List Char) : Line :=
  let (shift, indent) := countBlanks 0 0 chars
  ⟨chars, shift, indent, 0, number, ended⟩

/-- The lines of a text, given the line that has been begun, last character first. Blanks behind
the last line end are no line. -/
def linesOf (number : Nat) (begun : List Char) : List Char → List Line
  | [] => if begun.all isSpace then [] else [Line.ofChars number false begun.reverse]
  | c :: rest =>
    if c = '\n' then Line.ofChars number true begun.reverse :: linesOf (number + 1) [] rest
    else linesOf number (c :: begun) rest

/-- What the containers around a block ask of its lines. -/
structure Frame where
  /-- The column from which lines belong to the innermost item. -/
  indent : Int
  /-- The column of the list that holds the item, or -1. -/
  listIndent : Int
  level : Nat

def Line.isOutdented (line : Line) (frame : Frame) : Bool := line.indent < frame.indent

/-- Whether a line is indented enough for code. -/
def Line.isCode (line : Line) (frame : Frame) : Bool := 4 ≤ line.indent - frame.indent

/-- The mark and length of a code fence that a line opens. -/
def Line.fence? (line : Line) (frame : Frame) : Option (Char × Nat) :=
  if line.isCode frame then none
  else
    match line.text with
    | c :: rest =>
      let length := (rest.takeWhile (· = c)).length + 1
      let info := line.text.drop length
      if (c = '~' || c = '\x60') && 3 ≤ length && !(c = '\x60' && info.contains c) then
        some (c, length)
      else none
    | [] => none

/-- Whether a line closes a code fence. -/
def Line.closesFence (line : Line) (frame : Frame) (mark : Char) (length : Nat) : Bool :=
  let marks := line.text.takeWhile (· = mark)
  !line.isCode frame && length ≤ marks.length && (line.text.drop marks.length).all isSpace

def Line.isQuote (line : Line) (frame : Frame) : Bool :=
  !line.isCode frame && line.text.head? = some '>'

/-- Whether a line is at least three equal marks, with blanks between them. -/
def Line.isBreak (line : Line) (frame : Frame) : Bool :=
  !line.isCode frame &&
    match line.text with
    | c :: _ =>
      (c = '*' || c = '-' || c = '_') && (line.text.all fun d => d = c || isSpace d) &&
        3 ≤ (line.text.filter (· = c)).length
    | [] => false

/-- The mark of a list item. -/
structure ItemMark where
  /-- The number of an ordered item. -/
  number : Option Nat
  char : Char
  length : Nat

def beginsBlank : List Char → Bool
  | [] => true
  | c :: _ => isSpace c

/-- The mark of an item that a line begins. -/
def Line.itemMark? (line : Line) : Option ItemMark :=
  let digits := line.text.takeWhile Char.isDigit
  match line.text.drop digits.length with
  | c :: rest =>
    if digits.isEmpty then
      if (c = '*' || c = '-' || c = '+') && beginsBlank rest then some ⟨none, c, 1⟩ else none
    else if digits.length ≤ 9 && (c = '.' || c = ')') && beginsBlank rest then
      some ⟨some (digits.foldl (fun n d => n * 10 + (d.toNat - 48)) 0), c, digits.length + 1⟩
    else none
  | [] => none

/-- Whether a line begins a list where another block stands. Behind a paragraph, an empty item
begins none, nor does a number other than one. -/
def Line.beginsList (line : Line) (frame : Frame) (afterParagraph : Bool) : Bool :=
  if line.isCode frame then false
  else if 0 ≤ frame.listIndent && 4 ≤ line.indent - frame.listIndent && line.isOutdented frame then
    false
  else
    match line.itemMark? with
    | none => false
    | some mark =>
      if afterParagraph && !line.isOutdented frame then
        mark.number.getD 1 = 1 && !((line.text.drop mark.length).all isSpace)
      else true

def Line.markup? (line : Line) (frame : Frame) : Option MarkupBlock :=
  if line.isCode frame then none else MarkupBlock.ofLine? line.text

/-- The depth of a heading that a line makes, and the text behind its marks. -/
def Line.heading? (line : Line) (frame : Frame) : Option (Nat × List Char) :=
  let depth := (line.text.takeWhile (· = '#')).length
  let rest := line.text.drop depth
  if !line.isCode frame && 0 < depth && depth ≤ 6 && beginsBlank rest then some (depth, rest)
  else none

/-- The text of a heading without the marks at its end. -/
def headingText (text : List Char) : List Char :=
  let backwards := text.reverse.dropWhile isSpace
  let unmarked := backwards.dropWhile (· = '#')
  Text.trim (if unmarked.head?.any isSpace then unmarked else backwards).reverse

/-- The depth of the heading that a line makes of the paragraph above it. -/
def Line.underline? (line : Line) (frame : Frame) : Option Nat :=
  if line.isOutdented frame then none
  else
    match line.text with
    | c :: _ =>
      if (c = '=' || c = '-') && (line.text.dropWhile (· = c)).all isSpace then
        some (if c = '=' then 1 else 2)
      else none
    | [] => none

/-- Whether a line begins a block that ends the block above it. -/
def Line.interrupts (line : Line) (frame : Frame) (afterParagraph : Bool) : Bool :=
  (line.fence? frame).isSome || line.isQuote frame || line.isBreak frame ||
    line.beginsList frame afterParagraph || (line.markup? frame).any MarkupBlock.interrupts ||
    (line.heading? frame).isSome

/-- A line of a quote behind its mark. One blank belongs to the mark, and a tab may be part of it
and of the text. -/
def Line.behindQuote (line : Line) : Line :=
  let start := line.indent + 1
  let behind := line.text.drop 1
  let next := behind.head?
  let takesTab := next = some '\t' && (line.base + start) % 4 = 3
  let takesBlank := next = some ' ' || takesTab
  let sharesTab := next = some '\t' && !takesTab
  let chars := if takesBlank then behind.drop 1 else behind
  let edge := if takesBlank then start + 1 else start
  let stops : Int := line.base + if sharesTab then 1 else 0
  let (shift, stop) := countBlanks stops edge chars
  let base := (line.indent + 1 + if takesBlank || sharesTab then 1 else 0).toNat
  { line with chars, shift, indent := stop - edge, base }

end DocScript.Markdown
