import DocScript.Expr.Arguments
import DocScript.Expr.Template
import DocScript.Markdown.Document
import DocScript.Program.Basic
import DocScript.Url.Percent

/-! # From documents to programs

The top-level blocks of a document are read in order. A heading of depth one begins a function. A
deeper heading with emphasis opens a conditional block, if the block around it is open. Paragraphs,
bullet lists and quotes are statements of the innermost open block, and a thematic break ends it.
-/

namespace DocScript

namespace Markdown.Node

mutual

/-- The text of a node. Code, markup and images are comments in it. -/
def collectText : Node → List Char
  | .mk content _ children =>
    match content with
    | .inlineCode _ => []
    | .html _ => []
    | .image _ => []
    | .text s => s.toList ++ collectTexts children
    | _ => collectTexts children

def collectTexts : List Node → List Char
  | [] => []
  | node :: rest => collectText node ++ collectTexts rest

end

/-- The text of a node without the blanks around it. -/
def plainText (node : Node) : String := String.ofList (Text.trim node.collectText)

/-- The text of the first emphasis among the children of a node. -/
def emphasized? (node : Node) : Option String :=
  (node.children.find? fun child => child.content = .emphasis).map plainText

/-- Whether a node is text that holds only blanks. -/
def isBlankText (node : Node) : Bool :=
  match node.content with
  | .text s => (Text.trim s.toList).isEmpty
  | _ => false

end Markdown.Node

open Markdown (Node Content)

/-- The name at the head of a text, and what follows it and the blanks behind it. -/
def takeVariable? (text : List Char) : Option (String × List Char) :=
  match text.takeWhile Text.isWord with
  | [] => none
  | name => some (String.ofList name, (text.drop name.length).dropWhile Text.isBlank)

/-- The text behind an equals sign that is not doubled. It must not be empty, nor go over the end
of a line. -/
def takeAssigned? : List Char → Option String
  | '=' :: rest =>
    match rest with
    | '=' :: _ => none
    | _ =>
      let value := rest.dropWhile Text.isBlank
      if value.isEmpty || value.contains '\n' then none else some (String.ofList value)
  | _ => none

/-- A name and the text of the value that an item gives it. -/
def readDeclaration? (text : String) : Option (String × String) := do
  let (name, rest) ← takeVariable? text.toList
  return (name, ← takeAssigned? rest)

def isVariable (text : String) : Bool := text ≠ "" && text.toList.all Text.isWord

def compoundOf? (c : Char) : Option Compound :=
  if c = '+' then some .add
  else if c = '-' then some .sub
  else if c = '*' then some .mul
  else if c = '/' then some .div
  else none

/-- A name, an operator and the text of a value that a paragraph assigns. -/
def readAssignment? (text : String) : Option (String × Option Compound × String) := do
  let (name, rest) ← takeVariable? text.toList
  let (op, rest) := match rest with
    | c :: after =>
      match compoundOf? c with
      | some op => (some op, after)
      | none => (none, rest)
    | [] => (none, rest)
  return (name, op, ← takeAssigned? rest)

/-- The inside of a text that is one pair of braces and has no other closing brace. -/
def wholeExpression? (text : String) : Option String :=
  match text.toList with
  | '\x7b' :: rest =>
    let inside := rest.takeWhile (· ≠ '\x7d')
    if !inside.isEmpty && rest.drop inside.length = ['\x7d'] then some (String.ofList inside)
    else none
  | _ => none

/-- An expression of a block. A syntax error in it has the line of the block. -/
def parseAt (line : Line) (text : String) : Result Expr :=
  (Expr.parse text).mapError (Failure.withLine line)

/-- What a text in bold prints. -/
def Printed.read (line : Line) (text : String) : Result Printed :=
  match wholeExpression? text with
  | some inside => (parseAt line inside).map .expr
  | none =>
    if text.contains '\x7b' && text.contains '\x7d' then
      ((Template.parse text).mapError (Failure.withLine line)).map .template
    else .ok (.expr (.literal (.string text) none))

/-- The document and the function that a link names. The name stands behind the last `#`. -/
def readTarget (url : String) : Option String × String :=
  let chars := url.toList
  let name := (chars.reverse.takeWhile (· ≠ '#')).reverse
  if name.length < chars.length then
    let reference := Url.unquote (String.ofList (chars.take (chars.length - name.length - 1)))
    (if reference = "" then none else some reference, Url.unquote (String.ofList name))
  else (none, Url.unquote url)

/-- The call that a link makes. -/
def readCall (line : Line) (url text : String) : Result Statement :=
  let (reference, function) := readTarget url
  ((splitArguments text).mapM (parseAt line)).map fun arguments =>
    .call function reference arguments line

/-- The assignment that the text of a paragraph reads as, if it does. -/
def readAssigned (node : Node) : Result (Option Statement) :=
  match readAssignment? node.plainText with
  | some (name, op, text) =>
    (parseAt node.line text).map fun value => some (.assign name op value node.line)
  | none => .ok none

/-- The statement that a paragraph makes: a print if it is all bold, a call if it is one link, and
else an assignment if it reads as one. -/
def readParagraph (node : Node) : Result (Option Statement) :=
  match node.children.filter fun child => !child.isBlankText with
  | [sole] =>
    match sole.content with
    | .strong =>
      (Printed.read node.line sole.plainText).map fun content => some (.print content node.line)
    | .link url => (readCall node.line url sole.plainText).map some
    | _ => readAssigned node
  | _ => readAssigned node

/-- The declaration that an item makes. -/
def readItem (item : Node) : Result (Option Statement) :=
  let text := item.plainText
  match readDeclaration? text with
  | some (name, value) =>
    (parseAt item.line value).map fun value => some (.declare name (some value) item.line)
  | none =>
    .ok (if isVariable text then some (.declare text none item.line) else none)

/-- A conditional block that is open: its condition and line, and the statements that stand before
it in the block around it, last one first. -/
structure OpenBlock where
  condition : Expr
  line : Line
  before : List Statement

/-- A function whose body is being read. -/
structure Draft where
  name : String
  parameters : List String
  /-- The statements of the innermost open block, last one first. -/
  statements : List Statement
  /-- The open blocks, innermost first. -/
  opened : List OpenBlock

namespace Draft

def ofName (name : String) : Draft := ⟨name, [], [], []⟩

/-- The depth of the innermost open block. The body of the function has depth one. -/
def depth (draft : Draft) : Nat := draft.opened.length + 1

def push (draft : Draft) (statement : Statement) : Draft :=
  { draft with statements := statement :: draft.statements }

/-- Puts the innermost open block into the one around it. -/
def close (draft : Draft) : Draft :=
  match draft.opened with
  | [] => draft
  | block :: outer =>
    { draft with
      statements := .cond block.condition draft.statements.reverse block.line :: block.before
      opened := outer }

def closeTo (draft : Draft) : Nat → Draft
  | 0 => draft
  | n + 1 => draft.close.closeTo n

def openBlock (draft : Draft) (condition : Expr) (line : Line) : Draft :=
  { draft with
    statements := []
    opened := ⟨condition, line, draft.statements⟩ :: draft.opened }

def finish (draft : Draft) : Function :=
  let closed := draft.closeTo draft.opened.length
  ⟨closed.name, closed.parameters, closed.statements.reverse⟩

end Draft

/-- A heading that opens no block. -/
structure DroppedHeading where
  depth : Int
  text : String
  line : Line

/-- How far a document has been read. -/
structure Outline where
  functions : List Function
  current : Option Draft
  dropped : List DroppedHeading

namespace Outline

/-- Adds the function that is being read to the table. -/
def finish (outline : Outline) : List Function :=
  match outline.current with
  | some draft => putFunction draft.finish outline.functions
  | none => outline.functions

def withDraft (outline : Outline) (draft : Draft) : Outline :=
  { outline with current := some draft }

/-- A deeper heading closes the blocks of its depth and beyond. It opens one if it has emphasis and
the block around it is open. -/
def addHeading (outline : Outline) (draft : Draft) (depth : Int) (node : Node) : Result Outline :=
  if depth < 1 then .error (.fault (.badDepth (some depth)))
  else
    let draft := draft.closeTo (draft.depth + 1 - depth.toNat)
    let condition := (node.emphasized?).getD ""
    if draft.depth + 1 = depth.toNat && condition ≠ "" then
      (parseAt node.line condition).map fun condition =>
        outline.withDraft (draft.openBlock condition node.line)
    else
      .ok { outline.withDraft draft with
        dropped := outline.dropped ++ [⟨depth, node.plainText, node.line⟩] }

/-- Adds what the items of a bullet list declare. -/
def addItems (outline : Outline) (draft : Draft) (items : List Node) : Result Outline :=
  (items.mapM readItem).map fun declared =>
    outline.withDraft ((declared.filterMap id).foldl Draft.push draft)

/-- Reads a block of a function. -/
def addToDraft (outline : Outline) (draft : Draft) (node : Node) : Result Outline :=
  match node.content with
  | .heading none => .error (.fault (.badDepth none))
  | .heading (some depth) => outline.addHeading draft depth node
  | .list true =>
    .ok (if draft.opened.isEmpty then
      outline.withDraft
        { draft with parameters := draft.parameters ++ node.children.map Node.plainText }
    else outline)
  | .list false => outline.addItems draft node.children
  | .paragraph =>
    (readParagraph node).map fun
      | some statement => outline.withDraft (draft.push statement)
      | none => outline
  | .thematicBreak => .ok (outline.withDraft (draft.push (.stop node.line)).close)
  | .quote =>
    let name := node.plainText
    .ok (if name = "" then outline else outline.withDraft (draft.push (.input name node.line)))
  | _ => .ok outline

/-- Reads a top-level block. Blocks before the first function are comments. -/
def add (outline : Outline) (node : Node) : Result Outline :=
  if node.content = .heading (some 1) then
    .ok { outline with
      functions := outline.finish
      current := some (.ofName node.plainText) }
  else
    match outline.current with
    | some draft => outline.addToDraft draft node
    | none => .ok outline

end Outline

/-- What reading a document gives: its program or the first failure, and the headings that were
dropped until then. -/
structure Compiled where
  program : Result Program
  dropped : List DroppedHeading

def compileNodes (outline : Outline) : List Node → Compiled
  | [] => ⟨.ok ⟨outline.finish, none⟩, outline.dropped⟩
  | node :: rest =>
    match outline.add node with
    | .ok outline => compileNodes outline rest
    | .error failure => ⟨.error failure, outline.dropped⟩

/-- The program of a document tree. -/
def compile (document : Node) : Compiled := compileNodes ⟨[], none, []⟩ document.children

/-- The program of a document text. -/
def Program.parse (text : String) : Compiled := compile (Markdown.parseDocument text)

end DocScript
