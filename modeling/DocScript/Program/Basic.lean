import DocScript.Expr.Basic
import DocScript.Failure

/-! # Programs

A document is a table of functions. A function has parameters and a list of statements, in which
conditional blocks nest.
-/

namespace DocScript

/-- The operator of an assignment that combines the old value with the new one. -/
inductive Compound where
  | add
  | sub
  | mul
  | div
  deriving DecidableEq, Repr

def Compound.text : Compound → String
  | .add => "+"
  | .sub => "-"
  | .mul => "*"
  | .div => "/"

/-- The operator that an assignment abbreviates. -/
def Compound.operator : Compound → Operator
  | .add => .add
  | .sub => .sub
  | .mul => .mul
  | .div => .div

/-- What is printed: a value or a text with values in it. -/
inductive Printed where
  | expr (expr : Expr)
  | template (template : Template)

inductive Statement where
  | print (content : Printed) (line : Line)
  | assign (name : String) (operator : Option Compound) (value : Expr) (line : Line)
  | declare (name : String) (value : Option Expr) (line : Line)
  | call (function : String) (reference : Option String) (arguments : List Expr) (line : Line)
  | cond (condition : Expr) (body : List Statement) (line : Line)
  | stop (line : Line)
  | input (name : String) (line : Line)

/-- Whether a statement only works on variables, the output and the input. The others direct the
run. -/
def Statement.isPlain : Statement → Bool
  | .stop _ => false
  | .cond _ _ _ => false
  | .call _ _ _ _ => false
  | _ => true

structure Function where
  name : String
  parameters : List String
  body : List Statement

/-- The functions of a document, each name once. References to other documents resolve against the
origin: the directory of a local document or the URL of a remote one. -/
structure Program where
  functions : List Function
  origin : Option String

namespace Program

def find? (program : Program) (name : String) : Option Function :=
  program.functions.find? fun function => function.name = name

def names (program : Program) : List String := program.functions.map Function.name

def withOrigin (program : Program) (origin : Option String) : Program := { program with origin }

/-- Whether the program is the same with an origin as without. -/
def hasOrigin (program : Program) (origin : Option String) : Bool := program.origin = origin

end Program

/-- A function of a name that is taken replaces the one before and keeps its place. -/
def putFunction (function : Function) : List Function → List Function
  | [] => [function]
  | other :: rest =>
    if other.name = function.name then function :: rest else other :: putFunction function rest

end DocScript
