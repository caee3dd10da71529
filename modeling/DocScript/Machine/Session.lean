import DocScript.Expr.Eval
import DocScript.Program.Basic

/-! # Sessions

What a run changes: the frames of the invocations in progress, what has been printed, and the
input that is left. Variables belong to the innermost frame.
-/

namespace DocScript

/-- The variables of one invocation. Assignments may write those that are declared. -/
structure Frame where
  function : String
  bindings : List (String × Value)
  declared : List String
  args : List Value

/-- Sets a variable. A new one goes to the end. -/
def putVariable (name : String) (value : Value) : List (String × Value) → List (String × Value)
  | [] => [(name, value)]
  | entry :: rest =>
    if entry.1 = name then (name, value) :: rest else entry :: putVariable name value rest

namespace Frame

def get? (frame : Frame) (name : String) : Option Value := frame.bindings.lookup name

def isDeclared (frame : Frame) (name : String) : Bool := frame.declared.contains name

/-- Sets a variable that is declared or not. -/
def set (frame : Frame) (name : String) (value : Value) : Frame :=
  { frame with bindings := putVariable name value frame.bindings }

def declare (frame : Frame) (name : String) (value : Value) : Frame :=
  { frame.set name value with
    declared :=
      if frame.isDeclared name then frame.declared else frame.declared ++ [name] }

/-- A frame with some variables, of which the last one of a name counts. -/
def ofBindings (function : String) (bindings : List (String × Value)) (args : List Value) :
    Frame :=
  bindings.foldl (fun frame binding => frame.declare binding.1 binding.2)
    ⟨function, [], [], args⟩

end Frame

/-- Input that comes from outside while a run goes on: what comes each time that it is asked for, if
something comes, and how often it has come. -/
structure Provider where
  answer : Nat → Except Fault Value
  taken : Nat

/-- The innermost frame comes first, and so does the value that was printed last. -/
structure Session where
  frames : List Frame
  printed : List Value
  inputs : List Value
  provider : Option Provider

namespace Session

/-- A session before its first invocation. -/
def start (inputs : List Value) (provider : Option Provider) : Session :=
  ⟨[], [], inputs, provider⟩

/-- What has been printed, in order. -/
def output (session : Session) : List Value := session.printed.reverse

def push (session : Session) (frame : Frame) : Session :=
  { session with frames := frame :: session.frames }

/-- Ends the innermost invocation. -/
def pop (session : Session) : Except Fault (Frame × Session) :=
  match session.frames with
  | frame :: rest => .ok (frame, { session with frames := rest })
  | [] => .error .noInvocation

/-- The value of a variable. A name that is not bound has no value. -/
def get (session : Session) (name : String) : Value :=
  match session.frames with
  | frame :: _ => (frame.get? name).getD .none
  | [] => .none

def declare (session : Session) (name : String) (value : Value) : Except Fault Session :=
  match session.frames with
  | frame :: rest => .ok { session with frames := frame.declare name value :: rest }
  | [] => .error .noFrame

def checkDeclared (session : Session) (name : String) (line : Line) : Result Unit :=
  match session.frames with
  | frame :: _ =>
    if frame.isDeclared name then .ok () else .error ((Cause.undeclared name).failure line)
  | [] => .error ((Cause.undeclared name).failure line)

/-- Sets a variable that is declared. -/
def set (session : Session) (name : String) (value : Value) (line : Line) : Result Session :=
  match session.frames with
  | frame :: rest =>
    if frame.isDeclared name then .ok { session with frames := frame.set name value :: rest }
    else .error ((Cause.undeclared name).failure line)
  | [] => .error ((Cause.undeclared name).failure line)

def print (session : Session) (value : Value) : Session :=
  { session with printed := value :: session.printed }

/-- The next input, from the provider if there is one. Inputs that have run out give no value. -/
def read (session : Session) : Except Fault (Value × Session) :=
  match session.provider with
  | some provider =>
    (provider.answer provider.taken).map fun value =>
      (value, { session with provider := some { provider with taken := provider.taken + 1 } })
  | none =>
    match session.inputs with
    | value :: rest => .ok (value, { session with inputs := rest })
    | [] => .ok (.none, session)

def eval (session : Session) (e : Expr) (line : Line) : Result Value := e.eval session.get line

end Session

/-- What an assignment combines with a new value in place of no value. -/
def Value.neutralFor (value : Value) : Value :=
  match value.kind with
  | .string => .string ""
  | .number => .number (.int 0)
  | _ => .none

def Compound.operandNames (name : String) : OperandNames :=
  ⟨"variable '" ++ name ++ "'", "assignment value"⟩

/-- What an assignment to a variable makes of its old and new values. -/
def Compound.apply (op : Compound) (name : String) (current value : Value) (line : Line) :
    Result Value :=
  let current := match current with
    | .none => value.neutralFor
    | current => current
  op.operator.applyNamed (Compound.operandNames name) current value line

namespace Session

/-- What a statement prints. -/
def evalPrinted (session : Session) (content : Printed) (line : Line) : Result Value :=
  match content with
  | .expr e => session.eval e line
  | .template t => t.eval session.get line

/-- The value comes first, then the check of the name, and then the operator. -/
def assign (session : Session) (name : String) (op : Option Compound) (value : Expr)
    (line : Line) : Result Session := do
  let value ← session.eval value line
  session.checkDeclared name line
  match op with
  | none => session.set name value line
  | some op => session.set name (← op.apply name (session.get name) value line) line

/-- The value of a declaration. -/
def evalDeclared (session : Session) (value : Option Expr) (line : Line) : Result Value :=
  match value with
  | some e => session.eval e line
  | none => .ok .none

/-- What a statement does to a session. Breaks, conditional blocks and calls direct the run and
leave the session as it is. -/
def perform (session : Session) : Statement → Result Session
  | .print content line => (session.evalPrinted content line).map session.print
  | .assign name op value line => session.assign name op value line
  | .declare name value line => do
    Result.ofFault (session.declare name (← session.evalDeclared value line))
  | .input name _ => Result.ofFault do
    let (value, session) ← session.read
    session.declare name value
  | _ => .ok session

end Session

end DocScript
