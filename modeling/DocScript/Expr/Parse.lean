import DocScript.Expr.Token
import DocScript.Failure

/-! # Reading expressions

Tokens are taken one at a time by a machine that holds what is open to the left of the place: the
operators that wait for their right operand, and the brackets. Binary operators of one level group
to the left, signs bind tighter than they do, and members, indices and calls tighter still. What is
built of the tokens is left to a builder.
-/

namespace DocScript

/-- What is built of the tokens of operands, and of the parts of what they stand in. -/
structure Builder (α : Type) where
  name (name : String) : α
  number (numeral : Numeral) (source : String) : Except TooManyDigits α
  string (body source : String) : α
  group (inner : α) : α
  binary (op : BinaryOp) (left right : α) : α
  unary (op : UnaryOp) (operand : α) : α
  member (object : α) (name : String) : α
  index (object key : α) : α
  call (callee : α) (arguments : List α) : α

/-- The characters that are written with a letter behind a backslash. -/
def controlOf (c : Char) : Char :=
  if c = 'n' then '\n'
  else if c = 't' then '\t'
  else if c = 'r' then '\r'
  else if c = 'b' then '\x08'
  else if c = 'f' then '\x0c'
  else if c = 'v' then '\x0b'
  else if c = '0' then '\x00'
  else c

/-- The point with a code of four hexadecimal digits. -/
def pointOfCode? (a b c d : Char) : Option Point :=
  (Text.hexNumber? [a, b, c, d]).map Point.ofCode

/-- What the text between quotes stands for. -/
def unescapeChars : List Char → Points
  | '\\' :: 'u' :: a :: b :: c :: d :: rest =>
    match pointOfCode? a b c d with
    | some point => point :: unescapeChars rest
    | none => .char 'u' :: unescapeChars (a :: b :: c :: d :: rest)
  | '\\' :: c :: rest => .char (controlOf c) :: unescapeChars rest
  | c :: rest => .char c :: unescapeChars rest
  | [] => []

def unescape (body : String) : Points := unescapeChars body.toList

/-- Three names stand for values, and the others for variables. -/
def Expr.ofName (name : String) : Expr :=
  if name = "true" then .literal (.bool true) (some name)
  else if name = "false" then .literal (.bool false) (some name)
  else if name = "null" then .literal .none (some name)
  else .variableName name

/-- A numeral as an expression holds its number, clamped once. -/
def Expr.ofNumeral (numeral : Numeral) (source : String) : Except TooManyDigits Expr :=
  (numeral.value false).map fun n =>
    .literal (.number (if numeral.isInteger then n else n.clamp)) (some source)

/-- Expressions keep nothing of the parentheses around a group. -/
def Expr.builder : Builder Expr where
  name := ofName
  number := ofNumeral
  string body source := .literal (.string (unescape body)) (some source)
  group inner := inner
  binary := .binary
  unary := .unary
  member := .member
  index := .index
  call := .call

/-- What is open to the left of a place. -/
inductive Opening (α : Type) where
  | binary (op : BinaryOp) (left : α)
  | unary (op : UnaryOp)
  | group
  | index (object : α)
  | arguments (callee : α) (done : List α)

/-- A place between two tokens. The innermost opening comes first. -/
inductive Place (α : Type) where
  /-- An operand is due. Only right after the parenthesis of a call, its argument list may end. -/
  | operand (openings : List (Opening α)) (mayClose : Bool)
  /-- An operand has ended. If it is an integer numeral over the limit, this shows with the next
  token. -/
  | operator (openings : List (Opening α)) (found : Except TooManyDigits α)
  | memberName (openings : List (Opening α)) (object : α)

section

variable {α : Type} (build : Builder α)

def Place.expected : Place α → Expected
  | .operand _ _ => .operand
  | .operator _ _ => .operator
  | .memberName _ _ => .memberName

/-- Ends the signs, and the binary operators that bind at least as tightly as `level`. -/
def settle (level : Nat) : List (Opening α) → α → List (Opening α) × α
  | .unary op :: rest, e => settle level rest (build.unary op e)
  | .binary op left :: rest, e =>
    if level ≤ op.level then settle level rest (build.binary op left e)
    else (.binary op left :: rest, e)
  | openings, e => (openings, e)

/-- The place after a token where an operand is due. -/
def Place.afterOperand (openings : List (Opening α)) (mayClose : Bool) : Token → Option (Place α)
  | .name name => some (.operator openings (.ok (build.name name)))
  | .number numeral source => some (.operator openings (build.number numeral source))
  | .string body source => some (.operator openings (.ok (build.string body source)))
  | .symbol .openParen => some (.operand (.group :: openings) false)
  | .symbol .not => some (.operand (.unary .not :: openings) false)
  | .symbol (.binary (.operator .sub)) => some (.operand (.unary .neg :: openings) false)
  | .symbol (.binary (.operator .add)) => some (.operand (.unary .pos :: openings) false)
  | .symbol .closeParen =>
    match mayClose, openings with
    | true, .arguments callee done :: rest =>
      some (.operator rest (.ok (build.call callee done.reverse)))
    | _, _ => none
  | _ => none

/-- The place after a symbol that follows an operand. -/
def Place.afterSymbol (openings : List (Opening α)) (e : α) : Symbol → Option (Place α)
  | .binary op =>
    let settled := settle build op.level openings e
    some (.operand (.binary op settled.2 :: settled.1) false)
  | .dot => some (.memberName openings e)
  | .openBracket => some (.operand (.index e :: openings) false)
  | .openParen => some (.operand (.arguments e [] :: openings) true)
  | .closeParen =>
    match settle build 0 openings e with
    | (.group :: rest, e) => some (.operator rest (.ok (build.group e)))
    | (.arguments callee done :: rest, e) =>
      some (.operator rest (.ok (build.call callee (e :: done).reverse)))
    | _ => none
  | .closeBracket =>
    match settle build 0 openings e with
    | (.index object :: rest, e) => some (.operator rest (.ok (build.index object e)))
    | _ => none
  | .comma =>
    match settle build 0 openings e with
    | (.arguments callee done :: rest, e) =>
      some (.operand (.arguments callee (e :: done) :: rest) false)
    | _ => none
  | .not => none

/-- The place after a token, if the token fits. -/
def Place.next? : Place α → Token → Except TooManyDigits (Option (Place α))
  | .operand openings mayClose, token => .ok (afterOperand build openings mayClose token)
  | .operator _ _, .symbol .not => .ok none
  | .operator openings found, .symbol s => found.map fun e => afterSymbol build openings e s
  | .operator _ _, _ => .ok none
  | .memberName openings object, .name name =>
    .ok (some (.operator openings (.ok (build.member object name))))
  | .memberName _ _, _ => .ok none

/-- What ends at a place, if something does. -/
def Place.finish? : Place α → Except TooManyDigits (Option α)
  | .operator openings found =>
    found.map fun e =>
      match settle build 0 openings e with
      | ([], e) => some e
      | _ => none
  | _ => .ok none

end

def liftDigits {α : Type} : Except TooManyDigits α → Result α
  | .ok a => .ok a
  | .error e => .error (.fault (.tooManyDigits e.digits))

namespace Expr

theorem left_length {expected : Expected} {rest text left : List Char} {token : Token}
    (hr : rest.dropWhile Text.isBlank = text)
    (ht : Token.take? expected text = some (token, left)) : left.length < rest.length :=
  Nat.lt_of_lt_of_le (hr ▸ Token.take?_length ht) (List.dropWhile_suffix _).length_le

/-- Reads from a place to the end of the text. `rest` is the part still to be read. -/
def parseFrom (text : String) (place : Place Expr) (rest : List Char) : Result Expr :=
  match hr : rest.dropWhile Text.isBlank with
  | [] => do
    match ← liftDigits (place.finish? builder) with
    | some e => .ok e
    | none => .error ((Cause.unexpectedEnd text).failure none)
  | c :: cs =>
    let index := text.length - (c :: cs).length
    match ht : Token.take? place.expected (c :: cs) with
    | none => .error ((Cause.unexpectedChar c index text).failure none)
    | some (token, left) => do
      have := left_length hr ht
      match ← liftDigits (place.next? builder token) with
      | some next => parseFrom text next left
      | none => .error ((Cause.unexpectedToken token.text index text).failure none)
termination_by rest.length

def parse (text : String) : Result Expr :=
  if Text.trim text.toList = [] then .error (Cause.emptyExpression.failure none)
  else parseFrom text (.operand [] false) text.toList

end Expr

end DocScript
