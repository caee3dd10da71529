import DocScript.Expr.Basic
import DocScript.Failure

/-! # Evaluation

An expression is evaluated against the variables of one invocation. Operands are taken to numbers
where an operator needs numbers: numbers stand for themselves and numeral strings for what they
denote.
-/

namespace DocScript

def Result.ofRange {α : Type} : Except OutOfRange α → Result α
  | .ok a => .ok a
  | .error _ => .error (.fault .outOfRange)

namespace Value

/-- The number that a value is taken for, clamped unless it is read from a fractional numeral. -/
def expectNumber (context : String) (line : Line) (value : Value) : Result Number :=
  match value with
  | .number n => .ok n.clamp
  | .string s => do
    match ← Result.numberOfText? s with
    | some n => .ok n
    | Option.none => .error (value.refused (.notNumber context value) line)
  | _ => .error (value.refused (.notNumber context value) line)

def ofBool (b : Bool) : Number := .int (if b then 1 else 0)

/-- The key that a value is taken for. Truth values count as 0 and 1. -/
def expectKey (context : String) (line : Line) (value : Value) : Result Key :=
  match value with
  | .bool b => .ok (.number (ofBool b))
  | .number n => .ok (.number n)
  | .string s => .ok (.text s)
  | _ => .error (value.refused (.notIndex context value) line)

/-- The number that a scalar is compared as, NaN for a string that is no numeral. Other values are
not compared as numbers. -/
def comparand? : Value → Result (Option Number)
  | .bool b => .ok (some (ofBool b))
  | .number n => .ok (some n)
  | .string s => (Result.numberOfText? s).map fun n => some (n.getD (.float .nan))
  | _ => .ok Option.none

def isScalar (value : Value) : Bool :=
  match value.kind with
  | .boolean => true
  | .number => true
  | .string => true
  | _ => false

/-- Equality across kinds: no value equals only itself, strings are compared as text with each
other and as numbers with the other scalars, and objects by identity. -/
def looseEquals : Value → Value → Result Bool
  | .none, .none => .ok true
  | .none, _ => .ok false
  | _, .none => .ok false
  | .string s, .string t => .ok (s = t)
  | a, b =>
    if a.isScalar && b.isScalar then do
      match ← a.comparand?, ← b.comparand? with
      | some m, some n => .ok (m.same n)
      | _, _ => .ok false
    else .ok (a.isSameObject b)

/-- Equality within one kind. -/
def strictEquals : Value → Value → Bool
  | .none, .none => true
  | .bool a, .bool b => a = b
  | .number m, .number n => m.same n
  | .string s, .string t => s = t
  | a, b => a.isSameObject b

end Value

/-- The words by which errors call the two operands. -/
structure OperandNames where
  left : String
  right : String

def Operator.operandNames (op : Operator) : OperandNames :=
  ⟨"left operand of " ++ op.text, "right operand of " ++ op.text⟩

/-- Takes both operands to numbers, the left one first. -/
def OperandNames.numbers (names : OperandNames) (left right : Value) (line : Line) :
    Result (Number × Number) := do
  let m ← left.expectNumber names.left line
  let n ← right.expectNumber names.right line
  return (m, n)

def OperandNames.compute (names : OperandNames) (left right : Value) (line : Line)
    (f : Number → Number → Result Number) : Result Value := do
  let (m, n) ← names.numbers left right line
  return .number (← f m n)

def OperandNames.compare (names : OperandNames) (left right : Value) (line : Line)
    (f : Number → Number → Bool) : Result Value := do
  let (m, n) ← names.numbers left right line
  return .bool (f m n)

namespace Operator

/-- What an operator makes of operands that errors call by some names. `+` joins text if either
operand is a string. -/
def applyNamed (op : Operator) (names : OperandNames) (left right : Value) (line : Line) :
    Result Value :=
  match op with
  | .add =>
    if left.isString || right.isString then do
      return .string ((← left.written) ++ (← right.written))
    else names.compute left right line fun m n => .ok (m.add n)
  | .sub => names.compute left right line fun m n => .ok (m.sub n)
  | .mul => names.compute left right line fun m n => .ok (m.mul n)
  | .div => names.compute left right line fun m n => Result.ofRange (m.divide n)
  | .mod => names.compute left right line fun m n => Result.ofRange (m.modulo n)
  | .lt => names.compare left right line Number.lt
  | .gt => names.compare left right line fun m n => n.lt m
  | .le => names.compare left right line Number.le
  | .ge => names.compare left right line fun m n => n.le m
  | .eq => (left.looseEquals right).map .bool
  | .ne => (left.looseEquals right).map fun b => .bool !b
  | .strictEq => .ok (.bool (left.strictEquals right))
  | .strictNe => .ok (.bool !left.strictEquals right)

def apply (op : Operator) (left right : Value) (line : Line) : Result Value :=
  op.applyNamed op.operandNames left right line

/-- An operator by its text. -/
def applyText (op : String) (left right : Value) (line : Line) : Result Value :=
  match ofText? op with
  | some op => op.apply left right line
  | none => .error ((Cause.unknownOperator op).failure line)

end Operator

namespace UnaryOp

def context (op : UnaryOp) : String := "operand of unary " ++ op.text

def apply (op : UnaryOp) (value : Value) (line : Line) : Result Value :=
  match op with
  | .not => .ok (.bool !value.truthy)
  | .neg => (value.expectNumber op.context line).map fun n => .number n.neg
  | .pos => (value.expectNumber op.context line).map .number

/-- An operator by its text. -/
def applyText (op : String) (value : Value) (line : Line) : Result Value :=
  match ofText? op with
  | some op => op.apply value line
  | none => .error ((Cause.unknownUnary op).failure line)

end UnaryOp

/-- The item at an index that is an integer in range. -/
def itemAt? {α : Type} (items : List α) (index : Number) : Option α :=
  match index.toInt? with
  | some (.ofNat i) => items[i]?
  | _ => none

namespace Value

def lengthName : Points := Points.ofString "length"

/-- A point of a text. A blank key denotes no index. -/
def pointMember (s : Points) : Key → Result Value
  | .text key =>
    if key = lengthName then .ok (.number (.int s.length))
    else if key.isBlank then .ok .none
    else (Result.numberOfText? key).map fun index => pick (index.bind (itemAt? s))
  | .number index => .ok (pick (itemAt? s index))
where
  pick : Option Point → Value
    | some point => .string [point]
    | Option.none => .none

/-- An item of a list. A blank key denotes the index zero. -/
def itemMember (items : List Value) : Key → Result Value
  | .text key =>
    if key = lengthName then .ok (.number (.int items.length))
    else (Result.numberOfText? key).map fun index => (index.bind (itemAt? items)).getD .none
  | .number index => .ok ((itemAt? items index).getD .none)

/-- The text of a key. -/
def keyText : Key → Result Points
  | .text s => .ok s
  | .number n => (Value.number n).written

/-- A field of a record, filed under the key or else under the text of the key. -/
def fieldMember (fields : List Field) (key : Key) : Result Value :=
  match Field.find? key fields with
  | some value => .ok value
  | Option.none => (keyText key).map fun spelled => (Field.find? (.text spelled) fields).getD .none

/-- The member of a value that a key selects. What has no such member gives no value. -/
def member (object : Value) (key : Key) : Result Value :=
  match object with
  | .string s => pointMember s key
  | .list _ items => itemMember items key
  | .record _ fields => fieldMember fields key
  | _ => .ok .none

end Value

/-- The words for an index in an error. -/
def indexContext : String := "member access index"

/-- The name by which an error calls a callee. -/
def Expr.calleeName : Expr → String
  | .variableName name => name
  | _ => "<expression>"

/-- The value of an expression, where `lookup` gives the values of variables. -/
def Expr.eval (lookup : String → Value) (line : Line) : Expr → Result Value
  | .literal value _ => .ok value
  | .variableName name => .ok (lookup name)
  | .binary (.logical .and) left right => do
    let value ← left.eval lookup line
    if value.truthy then right.eval lookup line else .ok value
  | .binary (.logical .or) left right => do
    let value ← left.eval lookup line
    if value.truthy then .ok value else right.eval lookup line
  | .binary (.operator op) left right => do
    let a ← left.eval lookup line
    let b ← right.eval lookup line
    op.apply a b line
  | .unary op operand => do
    op.apply (← operand.eval lookup line) line
  | .member object name => do
    (← object.eval lookup line).member (.text name)
  | .index object key => do
    let value ← object.eval lookup line
    let key ← (← key.eval lookup line).expectKey indexContext line
    value.member key
  | .call callee _ => .error ((Cause.callExpression callee.calleeName).failure line)

def TemplatePart.eval (lookup : String → Value) (line : Line) : TemplatePart → Result Points
  | .text literal => .ok literal
  | .expr e => do (← e.eval lookup line).written

/-- The text of a template with the texts of its expressions filled in. -/
def Template.eval (lookup : String → Value) (line : Line) (template : Template) : Result Value :=
  (template.mapM (TemplatePart.eval lookup line)).map fun parts => .string parts.flatten

end DocScript
