import DocScript.Markdown.Inline
import DocScript.Markdown.Line

/-! # Blocks

Lines are gathered into blocks, and the blocks in quotes and items are read in the same way from
the lines inside. Definitions are collected on the way, so that inline text is read once all of
them are known.
-/

namespace DocScript.Markdown

/-- A block whose inline text has not been read. -/
inductive Block where
  | container (content : Content) (line : Nat) (children : List Block)
  | inline (content : Content) (line : Nat) (text : List Char)
  | leaf (content : Content) (line : Nat)

/-- What reading gives: the blocks, the lines after them, and all definitions so far. -/
structure Reading where
  blocks : List Block
  rest : List Line
  definitions : Definitions

/-- The first definition of a label is kept. -/
def define (definitions : Definitions) (label url : List Char) : Definitions :=
  if (definitions.lookup label).isSome then definitions else definitions ++ [(label, url)]

/-- The number of lines up to the last that is not empty. -/
def trimmedLength (lines : List Line) : Nat :=
  (lines.reverse.dropWhile Line.isEmpty).length

/-- Code that is set apart by its indentation. -/
def readCode (frame : Frame) (first : Line) (rest : List Line) : Block × List Line :=
  let lines := first :: rest
  let count := trimmedLength (lines.takeWhile fun l => l.isEmpty || l.isCode frame)
  let text := joinLines (4 + frame.indent) (lines.take count) ++ ['\n']
  (.leaf (.code (String.ofList text)) first.number, lines.drop count)

/-- The lines up to the one that closes a fence, and those after it. -/
def fencedLines (frame : Frame) (mark : Char) (length : Nat) :
    List Line → List Line × List Line
  | [] => ([], [])
  | line :: rest =>
    if !line.isEmpty && line.isOutdented frame then ([], line :: rest)
    else if line.closesFence frame mark length then ([], rest)
    else
      let (inside, after) := fencedLines frame mark length rest
      (line :: inside, after)

/-- Code between fences, without as many blanks as stand before the first one. -/
def readFence (frame : Frame) (mark : Char) (length : Nat) (first : Line) (rest : List Line) :
    Block × List Line :=
  let (inside, after) := fencedLines frame mark length rest
  (.leaf (.code (String.ofList (joinEndedLines first.indent inside))) first.number, after)

/-- The lines of a block of markup behind its first one, and the lines after it. -/
def markupLines (frame : Frame) (kind : MarkupBlock) : List Line → List Line × List Line
  | [] => ([], [])
  | line :: rest =>
    if line.isOutdented frame then ([], line :: rest)
    else if kind.endsAt line.text then
      if line.isEmpty then ([], line :: rest) else ([line], rest)
    else
      let (inside, after) := markupLines frame kind rest
      (line :: inside, after)

/-- A block of markup that passes through. -/
def readMarkup (frame : Frame) (kind : MarkupBlock) (first : Line) (rest : List Line) :
    Block × List Line :=
  let (inside, after) := if kind.endsAt first.text then ([], rest) else markupLines frame kind rest
  let text := joinEndedLines frame.indent (first :: inside)
  (.leaf (.html (String.ofList text)) first.number, after)

/-- How many lines continue a paragraph. If the next one underlines it, the depth of the heading
that it makes. -/
def paragraphExtent (frame : Frame) : List Line → Nat × Option Nat
  | [] => (0, none)
  | line :: rest =>
    let onward := let (count, depth) := paragraphExtent frame rest
      (count + 1, depth)
    if line.isEmpty then (0, none)
    else if line.isCode frame then onward
    else
      match line.underline? frame with
      | some depth => (0, some depth)
      | none =>
        if line.indent < 0 then onward
        else if line.interrupts frame true then (0, none)
        else onward

/-- A paragraph, or the heading that an underline makes of it. -/
def readParagraph (frame : Frame) (first : Line) (rest : List Line) : Block × List Line :=
  let (count, depth) := paragraphExtent frame rest
  let text := Text.trim (joinLines frame.indent (first :: rest.take count))
  match depth with
  | some depth => (.inline (.heading (some depth)) first.number text, rest.drop (count + 1))
  | none => (.inline .paragraph first.number text, rest.drop count)

/-- The lines that may continue a definition. -/
def definitionLines (frame : Frame) : List Line → List Line
  | [] => []
  | line :: rest =>
    if line.isEmpty then []
    else if line.isCode frame || line.indent < 0 || !line.interrupts frame false then
      line :: definitionLines frame rest
    else []

def joinTextLines : List Line → List Char
  | [] => []
  | [line] => line.text
  | line :: rest => line.text ++ '\n' :: joinTextLines rest

/-- A definition, and the number of its lines. -/
def readDefinition (frame : Frame) (first : Line) (rest : List Line) :
    Option ((List Char × List Char) × Nat) :=
  let text := joinTextLines (first :: definitionLines frame rest)
  (takeDefinition? text).map fun (definition, left) =>
    (definition, (text.take (text.length - left.length)).count '\n' + 1)

/-- The lines of a quote as they stand inside it. A line without a mark belongs to it if it may
continue a paragraph. -/
def quoteLines (frame : Frame) (lastEmpty : Bool) : List Line → List Line
  | [] => []
  | line :: rest =>
    if line.isEmpty then []
    else if line.text.head? = some '>' && !line.isOutdented frame then
      let inside := line.behindQuote
      inside :: quoteLines frame inside.isEmpty rest
    else if lastEmpty || line.interrupts frame false then []
    else { line with indent := -1 } :: quoteLines frame lastEmpty rest

/-- An item: the frame for its lines, its first line as it stands inside, and whether that line is
empty. -/
def ItemMark.enter (mark : ItemMark) (frame : Frame) (line : Line) : Frame × Line × Bool :=
  let start := line.indent + mark.length
  let behind := line.text.drop mark.length
  let (blanks, stop) := countBlanks line.base start behind
  let isEmpty := behind.length ≤ blanks
  let width := if isEmpty || 4 < stop - start then 1 else stop - start
  (⟨start + width, frame.indent, frame.level + 2⟩,
    { line with shift := line.shift + mark.length + blanks, indent := stop }, isEmpty)

/-- Whether a line continues a list with another item. -/
def ItemMark.next? (mark : ItemMark) (frame : Frame) (line : Line) : Option ItemMark :=
  if line.isOutdented frame || line.isCode frame || (line.fence? frame).isSome ||
      line.isQuote frame || line.isBreak frame then none
  else
    match line.itemMark? with
    | some next =>
      if next.number.isSome = mark.number.isSome && next.char = mark.char then some next else none
    | none => none

mutual

/-- The blocks of lines, up to the first line that does not belong to the innermost item. -/
def readBlocks (fuel : Nat) (frame : Frame) (definitions : Definitions) (lines : List Line) :
    Reading :=
  match fuel with
  | 0 => ⟨[], [], definitions⟩
  | fuel + 1 =>
    match lines.dropWhile Line.isEmpty with
    | [] => ⟨[], [], definitions⟩
    | first :: rest =>
      if first.isOutdented frame then ⟨[], first :: rest, definitions⟩
      else if maxNesting ≤ frame.level then ⟨[], [], definitions⟩
      else
        let one := readBlock fuel frame definitions first rest
        let others := readBlocks fuel frame one.definitions one.rest
        { others with blocks := one.blocks ++ others.blocks }

/-- The block that a line begins. -/
def readBlock (fuel : Nat) (frame : Frame) (definitions : Definitions) (first : Line)
    (rest : List Line) : Reading :=
  match fuel with
  | 0 => ⟨[], rest, definitions⟩
  | fuel + 1 =>
    let single : Block × List Line → Reading := fun (block, rest) => ⟨[block], rest, definitions⟩
    if first.isCode frame then single (readCode frame first rest)
    else
      match first.fence? frame with
      | some (mark, length) => single (readFence frame mark length first rest)
      | none =>
        if first.isQuote frame then readQuote fuel frame definitions first rest
        else if first.isBreak frame then single (.leaf .thematicBreak first.number, rest)
        else
          match first.itemMark? with
          | some mark => readList fuel frame definitions mark first rest
          | none =>
            match readDefinition frame first rest with
            | some ((label, url), count) =>
              ⟨[], (first :: rest).drop count, define definitions label url⟩
            | none =>
              match first.markup? frame with
              | some kind => single (readMarkup frame kind first rest)
              | none =>
                match first.heading? frame with
                | some (depth, text) =>
                  single (.inline (.heading (some depth)) first.number (headingText text), rest)
                | none => single (readParagraph frame first rest)

/-- A quote. Lines that it does not use belong to the text after it. -/
def readQuote (fuel : Nat) (frame : Frame) (definitions : Definitions) (first : Line)
    (rest : List Line) : Reading :=
  match fuel with
  | 0 => ⟨[], rest, definitions⟩
  | fuel + 1 =>
    let inside := first.behindQuote
    let lines := inside :: quoteLines frame inside.isEmpty rest
    let inner := readBlocks fuel ⟨0, frame.listIndent, frame.level + 1⟩ definitions lines
    ⟨[.container .quote first.number inner.blocks],
      (first :: rest).drop (lines.length - inner.rest.length), inner.definitions⟩

/-- A list from its first item on. -/
def readList (fuel : Nat) (frame : Frame) (definitions : Definitions) (mark : ItemMark)
    (first : Line) (rest : List Line) : Reading :=
  match fuel with
  | 0 => ⟨[], rest, definitions⟩
  | fuel + 1 =>
    let items := readItems fuel frame definitions mark first rest
    { items with
      blocks := [.container (.list mark.number.isSome) first.number items.blocks] }

/-- The items of a list. An empty first line with an empty one behind it is all of an item. -/
def readItems (fuel : Nat) (frame : Frame) (definitions : Definitions) (mark : ItemMark)
    (first : Line) (rest : List Line) : Reading :=
  match fuel with
  | 0 => ⟨[], rest, definitions⟩
  | fuel + 1 =>
    let (inside, line, isEmpty) := mark.enter frame first
    let inner :=
      if isEmpty && (rest.head?.map Line.isEmpty).getD true then
        (⟨[], rest.drop 1, definitions⟩ : Reading)
      else readBlocks fuel inside definitions (line :: rest)
    let item := Block.container .item first.number inner.blocks
    let others :=
      match inner.rest with
      | [] => (⟨[], [], inner.definitions⟩ : Reading)
      | next :: after =>
        match mark.next? frame next with
        | some mark => readItems fuel frame inner.definitions mark next after
        | none => ⟨[], next :: after, inner.definitions⟩
    { others with blocks := item :: others.blocks }

end

mutual

/-- A block with its inline text read. Lines are counted from one. -/
def Block.toNode (definitions : Definitions) : Block → Node
  | .container content line children =>
    .mk content (some (line + 1)) (toNodes definitions children)
  | .inline content line text => .mk content (some (line + 1)) (parseInline definitions text)
  | .leaf content line => .mk content (some (line + 1)) []

def Block.toNodes (definitions : Definitions) : List Block → List Node
  | [] => []
  | block :: rest => block.toNode definitions :: toNodes definitions rest

end

end DocScript.Markdown
