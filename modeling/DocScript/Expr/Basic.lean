import DocScript.Value.Basic

/-! # Expressions

Expressions compute values from variables, and templates are text with expressions in it.
-/

namespace DocScript

/-- Operators that look at the right operand only if the left one does not decide. -/
inductive Logical where
  | or
  | and
  deriving DecidableEq, Repr

/-- Operators that compute with both operands. -/
inductive Operator where
  | strictEq
  | strictNe
  | eq
  | ne
  | le
  | ge
  | lt
  | gt
  | add
  | sub
  | mul
  | div
  | mod
  deriving DecidableEq, Repr

inductive BinaryOp where
  | logical (op : Logical)
  | operator (op : Operator)
  deriving DecidableEq, Repr

inductive UnaryOp where
  | not
  | neg
  | pos
  deriving DecidableEq, Repr

inductive Expr where
  | literal (value : Value) (source : Option String)
  | variableName (name : String)
  | binary (op : BinaryOp) (left right : Expr)
  | unary (op : UnaryOp) (operand : Expr)
  | member (object : Expr) (name : String)
  | index (object key : Expr)
  | call (callee : Expr) (arguments : List Expr)

inductive TemplatePart where
  | text (text : String)
  | expr (expr : Expr)

abbrev Template := List TemplatePart

namespace Operator

def all : List Operator :=
  [.strictEq, .strictNe, .eq, .ne, .le, .ge, .lt, .gt, .add, .sub, .mul, .div, .mod]

def text : Operator → String
  | .strictEq => "==="
  | .strictNe => "!=="
  | .eq => "=="
  | .ne => "!="
  | .le => "<="
  | .ge => ">="
  | .lt => "<"
  | .gt => ">"
  | .add => "+"
  | .sub => "-"
  | .mul => "*"
  | .div => "/"
  | .mod => "%"

def ofText? (text : String) : Option Operator := all.find? fun op => op.text = text

end Operator

namespace Logical

def text : Logical → String
  | .or => "||"
  | .and => "&&"

end Logical

namespace UnaryOp

def text : UnaryOp → String
  | .not => "!"
  | .neg => "-"
  | .pos => "+"

def ofText? (text : String) : Option UnaryOp :=
  [UnaryOp.not, .neg, .pos].find? fun op => op.text = text

end UnaryOp

namespace BinaryOp

def text : BinaryOp → String
  | .logical op => op.text
  | .operator op => op.text

/-- How tightly an operator binds. Operators of one level group to the left. -/
def level : BinaryOp → Nat
  | .logical .or => 1
  | .logical .and => 2
  | .operator .strictEq => 3
  | .operator .strictNe => 3
  | .operator .eq => 3
  | .operator .ne => 3
  | .operator .le => 4
  | .operator .ge => 4
  | .operator .lt => 4
  | .operator .gt => 4
  | .operator .add => 5
  | .operator .sub => 5
  | .operator .mul => 6
  | .operator .div => 6
  | .operator .mod => 6

end BinaryOp

end DocScript
