import DocScript.Markdown.Node

/-! # Emphasis

Runs of `*` and `_` are marks that may open emphasis, close it, or both. Each closing mark is
paired with the nearest opening one that fits, and two neighbouring pairs make strong emphasis.
-/

namespace DocScript.Markdown

/-- One mark of a run. -/
structure Mark where
  char : Char
  /-- The length of the run. -/
  length : Nat
  /-- The place of the mark among the pieces of the text. -/
  piece : Nat
  opens : Bool
  closes : Bool
  /-- The mark that closes what this one opens. -/
  closer : Option Nat
  deriving Inhabited

/-- A piece of inline text. Texts next to each other are one text. -/
inductive Piece where
  | text (chars : List Char)
  | mark (char : Char)
  | node (node : Node)

/-- A closing mark that can open too, or an opening one that can close too, fits only if the
lengths of the two runs do not add up to a multiple of three, or both are multiples. -/
def Mark.fits (opener closer : Mark) : Bool :=
  !((opener.closes || closer.opens) && (opener.length + closer.length) % 3 = 0 &&
    (opener.length % 3 ≠ 0 || closer.length % 3 ≠ 0))

/-- How the pairing of marks stands. Places are counted from one where zero stands for none. -/
structure Pairing where
  marks : Array Mark
  /-- How many marks before each one can be passed over. -/
  jumps : Array Nat
  /-- Below these places, no opener is left for closers of a sort. -/
  bottoms : List ((Char × Bool × Nat) × Nat)
  /-- The first mark of the run. -/
  runStart : Nat
  /-- The piece of the last mark, unless it has been paired. -/
  lastPiece : Option Nat

/-- The sort of a closer, for which failures to find an opener are remembered. -/
def Mark.sort (m : Mark) : Char × Bool × Nat := (m.char, m.opens, m.length % 3)

/-- The opener for a closer, searched backwards from behind the place `before`. -/
def Pairing.findOpener (p : Pairing) (closer : Mark) (bottom before : Nat) : Option Nat :=
  if bottom < before then
    let place := before - 1
    let opener := p.marks.getD place default
    if opener.char = closer.char && opener.opens && opener.closer.isNone && opener.fits closer then
      some place
    else findOpener p closer bottom (place - p.jumps.getD place 0)
  else none
termination_by before

/-- Pairs two marks. -/
def Pairing.link (p : Pairing) (opener closer : Nat) : Pairing :=
  let before := opener - 1
  let passed :=
    if 0 < opener && !(p.marks.getD before default).opens then p.jumps.getD before 0 + 1 else 0
  { p with
    jumps := (p.jumps.setIfInBounds closer (closer - opener + passed)).setIfInBounds opener passed
    marks := (p.marks.modify closer ({ · with opens := false })).modify opener
      ({ · with closer := some closer, closes := false })
    lastPiece := none }

/-- Takes the next mark into the pairing. -/
def Pairing.step (p : Pairing) (place : Nat) : Pairing :=
  let mark := p.marks.getD place default
  let adjacent := match p.lastPiece with
    | some piece => piece + 1 = mark.piece
    | none => false
  let runStart :=
    if (p.marks.getD p.runStart default).char = mark.char && adjacent then p.runStart else place
  let p := { p with jumps := p.jumps.push 0, runStart, lastPiece := some mark.piece }
  if mark.closes then
    let bottom := (p.bottoms.lookup mark.sort).getD 0
    let before := runStart - p.jumps.getD runStart 0
    match p.findOpener mark bottom before with
    | some opener => p.link opener place
    | none => { p with bottoms := (mark.sort, before) :: p.bottoms }
  else p

def pairMarks (marks : Array Mark) : Array Mark :=
  ((List.range marks.size).foldl Pairing.step ⟨marks, #[], [], 0, none⟩).marks

/-- What a piece is once marks are paired. -/
inductive Role where
  | plain
  | opens (strong : Bool)
  | closes
  | blank

/-- Whether the pair that a mark opens and the pair around it make strong emphasis. -/
def isStrong (marks : Array Mark) (place closer : Nat) : Bool :=
  let outer := marks.getD (place - 1) default
  let mark := marks.getD place default
  let last := marks.getD (closer + 1) default
  0 < place && outer.closer = some (closer + 1) && outer.char = mark.char &&
    outer.piece + 1 = mark.piece && (marks.getD closer default).piece + 1 = last.piece

def setRole (marks : Array Mark) (place : Nat) (role : Role) (roles : Array Role) : Array Role :=
  roles.setIfInBounds (marks.getD place default).piece role

/-- The roles of pieces, given by the marks before the place `before`. -/
def assignRoles (marks : Array Mark) (before : Nat) (roles : Array Role) : Array Role :=
  if 0 < before then
    let place := before - 1
    match (marks.getD place default).closer with
    | none => assignRoles marks place roles
    | some closer =>
      let strong := isStrong marks place closer
      let roles := setRole marks closer .closes (setRole marks place (.opens strong) roles)
      if strong then
        assignRoles marks (place - 1)
          (setRole marks (closer + 1) .blank (setRole marks (place - 1) .blank roles))
      else assignRoles marks place roles
  else roles
termination_by before

/-- Inline text as a flat list. -/
inductive Flat where
  | text (chars : List Char)
  | node (node : Node)
  | opens (strong : Bool)
  | closes

def Flat.ofPiece : Piece → Role → List Flat
  | .text chars, _ => [.text chars]
  | .node n, _ => [.node n]
  | .mark char, .plain => [.text [char]]
  | .mark _, .opens strong => [.opens strong]
  | .mark _, .closes => [.closes]
  | .mark _, .blank => []

/-- Texts next to each other become one text. -/
def joinTexts : List Flat → List Flat
  | [] => []
  | .text chars :: rest =>
    match joinTexts rest with
    | .text more :: rest => .text (chars ++ more) :: rest
    | rest => .text chars :: rest
  | flat :: rest => flat :: joinTexts rest

/-- Emphasis that is open at a place: its strength, and what stands before it, last node first. -/
abbrev OpenEmphasis := List (Bool × List Node)

/-- The nodes of a flat list. `done` holds the nodes since the innermost open mark, last first. -/
def nestNodes (opened : OpenEmphasis) (done : List Node) : List Flat → List Node
  | [] =>
    match opened with
    | [] => done.reverse
    | _ => (opened.foldl (fun inner (_, before) => inner ++ before) done).reverse
  | .text [] :: rest => nestNodes opened done rest
  | .text (c :: chars) :: rest =>
    nestNodes opened (.inlined (.text (String.ofList (c :: chars))) [] :: done) rest
  | .node n :: rest => nestNodes opened (n :: done) rest
  | .opens strong :: rest => nestNodes ((strong, done) :: opened) [] rest
  | .closes :: rest =>
    match opened with
    | (strong, before) :: outer =>
      let content := if strong then Content.strong else Content.emphasis
      nestNodes outer (.inlined content done.reverse :: before) rest
    | [] => nestNodes [] done rest

/-- The nodes of inline text from its pieces and their marks. -/
def resolveMarks (pieces : Array Piece) (marks : Array Mark) : List Node :=
  let paired := pairMarks marks
  let roles := assignRoles paired paired.size (Array.replicate pieces.size .plain)
  nestNodes [] [] (joinTexts ((pieces.toList.zip roles.toList).flatMap fun (p, r) =>
    Flat.ofPiece p r))

end DocScript.Markdown
