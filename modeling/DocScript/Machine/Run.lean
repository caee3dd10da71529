import DocScript.Machine.Library
import DocScript.Machine.Session

/-! # Runs

A machine executes one statement a step. An invocation keeps the blocks that it is in, each with
the statements to come. A call that ends its block ends the invocation too: the callee takes the
place of the caller, so that chains of such calls need no more room than one of them.
-/

namespace DocScript

/-- One invocation in progress, with what is left of its blocks, the innermost one first. -/
structure Activation where
  program : Program
  function : String
  blocks : List (List Statement)

inductive Status where
  | running
  | finished
  | failed (failure : Failure)

/-- There is one frame for each activation, and further ones if a session had some before. -/
structure Machine where
  session : Session
  store : Store
  activations : List Activation
  status : Status

namespace Machine

def fail (machine : Machine) (failure : Failure) : Machine :=
  { machine with status := .failed failure }

def note (machine : Machine) (event : Event) : Machine :=
  { machine with store := machine.store.note event }

def bindings (parameters : List String) (args : List Value) : List (String × Value) :=
  match parameters, args with
  | [], _ => []
  | parameter :: rest, [] => (parameter, .none) :: bindings rest []
  | parameter :: rest, arg :: args => (parameter, arg) :: bindings rest args

/-- Begins an invocation. Parameters without arguments have no value. -/
def enter (machine : Machine) (program : Program) (function : Function) (args : List Value) :
    Machine :=
  let machine := machine.note (.enter function.name args)
  let frame := Frame.ofBindings function.name (bindings function.parameters args) args
  { machine with
    session := machine.session.push frame
    activations := ⟨program, function.name, [function.body]⟩ :: machine.activations }

/-- Ends the innermost invocation. -/
def leave (machine : Machine) : Machine :=
  { machine with
    session := { machine.session with frames := machine.session.frames.drop 1 }
    activations := machine.activations.drop 1 }

/-- The innermost invocation goes on with other blocks. -/
def continueWith (machine : Machine) (blocks : List (List Statement)) : Machine :=
  match machine.activations with
  | activation :: rest =>
    { machine with activations := { activation with blocks } :: rest }
  | [] => machine

/-- The innermost invocation goes on with other blocks in a session that a statement left. -/
def settle (machine : Machine) (blocks : List (List Statement)) (result : Result Session) :
    Machine :=
  match result with
  | .ok session => { machine with session }.continueWith blocks
  | .error failure => machine.fail failure

/-- Finds the function of a call, and evaluates the arguments only then. -/
def prepare (world : World) (mode : Mode) (session : Session) (store : Store) (program : Program)
    (name : String) (reference : Option String) (arguments : List Expr) (line : Line) :
    Result (Program × Function × List Value) × Store :=
  if mode = .sync && world.suspends then (.error (Cause.suspended.failure none), store)
  else
    match store.resolve world mode program name reference line with
    | (.error failure, store) => (.error failure, store)
    | (.ok (program, function), store) =>
      match arguments.mapM fun e => session.eval e line with
      | .ok args => (.ok (program, function, args), store)
      | .error failure => (.error failure, store)

/-- Calls a function, in place of the caller if nothing comes after the call in its block. -/
def call (world : World) (mode : Mode) (machine : Machine) (caller : Activation) (name : String)
    (reference : Option String) (arguments : List Expr) (line : Line)
    (later : List Statement) (outer : List (List Statement)) : Machine :=
  match prepare world mode machine.session machine.store caller.program name reference arguments
      line with
  | (.error failure, store) => { machine with store }.fail failure
  | (.ok (program, function, args), store) =>
    let machine := { machine with store }
    if later.isEmpty then
      (machine.leave.note (.tailCall caller.function function.name)).enter program function args
    else (machine.continueWith (later :: outer)).enter program function args

/-- Executes a statement of the innermost invocation, which some statements of its block and the
outer blocks come after. -/
def execute (world : World) (mode : Mode) (machine : Machine) (caller : Activation)
    (statement : Statement) (later : List Statement) (outer : List (List Statement)) : Machine :=
  let blocks := later :: outer
  match statement with
  | .stop _ => machine.leave
  | .cond condition body line =>
    match machine.session.eval condition line with
    | .ok value => machine.continueWith (if value.truthy then body :: blocks else blocks)
    | .error failure => machine.fail failure
  | .call name reference arguments line =>
    call world mode machine caller name reference arguments line later outer
  | _ => machine.settle blocks (machine.session.perform statement)

/-- One step of a machine that is running: a statement, the end of a block, or the end of an
invocation. -/
def advance (world : World) (mode : Mode) (machine : Machine) : Machine :=
  match machine.activations with
  | [] => { machine with status := .finished }
  | activation :: _ =>
    match activation.blocks with
    | [] => machine.leave
    | [] :: outer => machine.continueWith outer
    | (statement :: later) :: outer =>
      execute world mode machine activation statement later outer

/-- A machine that has ended stays as it is. -/
def step (world : World) (mode : Mode) (machine : Machine) : Machine :=
  match machine.status with
  | .running => advance world mode machine
  | _ => machine

def isRunning (machine : Machine) : Bool :=
  match machine.status with
  | .running => true
  | _ => false

/-- Runs a machine to its end, or for as many steps as `fuel` says. -/
def run (world : World) (mode : Mode) (fuel : Nat) (machine : Machine) : Machine :=
  match fuel with
  | 0 => machine
  | fuel + 1 =>
    if machine.isRunning then run world mode fuel (step world mode machine) else machine

/-- A machine about to run a function of a program. -/
def start (program : Program) (entry : String) (args : List Value) (session : Session)
    (store : Store) : Machine :=
  let machine : Machine := ⟨session, store, [], .running⟩
  match program.find? entry with
  | some function => machine.enter program function args
  | none => machine.fail ((Cause.noEntry entry).failure none)

def output (machine : Machine) : List Value := machine.session.output

def reads (machine : Machine) : List String := machine.store.log.filterMap Event.read?

def fetches (machine : Machine) : List String := machine.store.log.filterMap Event.fetched?

/-- The reported events. -/
def trace (machine : Machine) : List String := machine.store.log.filterMap Event.line?

/-- What ended the run before its end, if anything did. -/
def failure? (machine : Machine) : Option Failure :=
  match machine.status with
  | .failed failure => some failure
  | _ => none

end Machine

/-- The steps that a run is given, more than any machine has time for. -/
def enoughSteps : Nat := 1 <<< 60

end DocScript
