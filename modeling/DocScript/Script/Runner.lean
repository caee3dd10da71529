import DocScript.Machine.Need
import DocScript.Script.Report

/-! # Runners

A runner runs scripts, one after the other, and says what came of each. Every value that a script
prints is put on record as a text and then given to the host, before the script goes on. If the
script fails, what ended it is put on record last. The host may refuse a value, and its stack may
have no room for a script at some moment, which both end the script.
-/

namespace DocScript

/-- What an effect is written to. -/
inductive Topic where
  | stdout
  | stderr
  deriving DecidableEq, Repr

def Topic.name : Topic → String
  | .stdout => "stdout"
  | .stderr => "stderr"

/-- Something that a script has done that can be seen from outside. -/
structure Effect where
  topic : Topic
  message : Points
  deriving DecidableEq, Repr

namespace Effect

def ofPrinted (value : Value) : Effect := ⟨.stdout, value.text⟩

def ofFailure (failure : Failure) : Effect := ⟨.stderr, Report.messageOf failure⟩

end Effect

/-- What a host does with a value that is printed: the state that it is in then, and what has gone
wrong, if something has. -/
abbrev Sink (σ : Type) := σ → Value → σ × Option Fault

/-- The effects on record, the last one first, and a host in some state. -/
structure Record (σ : Type) where
  effects : List Effect
  host : σ

/-- A value that is printed goes on record, if it can be written, and then to the host. -/
def Record.print {σ : Type} (sink : Sink σ) : Sink (Record σ) := fun record value =>
  if value.isWritable then
    let (host, fault) := sink record.host value
    (⟨.ofPrinted value :: record.effects, host⟩, fault)
  else (record, some .unwritable)

/-- When the stack of the host has no room left: when a script is read, or before one of its steps,
which is then not made. This is up to the host, and not to the script alone. -/
inductive Overflow where
  | never
  | reading (reason : String)
  | step (number : Nat) (reason : String)

namespace Overflow

/-- How many of some steps there is room for. -/
def limit (overflow : Overflow) (fuel : Nat) : Nat :=
  match overflow with
  | .step number _ => min number fuel
  | _ => fuel

/-- What there is no room for within some steps, if there is something. -/
def reason? (overflow : Overflow) (fuel : Nat) : Option String :=
  match overflow with
  | .step number reason => if number < fuel then some reason else none
  | _ => none

variable {overflow : Overflow} {n fuel : Nat} {reason : String}

theorem limit_le (overflow : Overflow) (fuel : Nat) : overflow.limit fuel ≤ fuel := by
  cases overflow with
  | never | reading => exact Nat.le_refl fuel
  | step number => exact Nat.min_le_right number fuel

end Overflow

namespace Machine

/-- The value that the next step prints, if it prints one. -/
def printing? (machine : Machine) : Option Value :=
  match machine.status, machine.next? with
  | .running, some (_, .print content line) =>
    (machine.session.evalPrinted content line).toOption
  | _, _ => none

/-- Runs a machine and gives a sink each value that has been printed. If the sink fails, so does the
machine. -/
def runTo {σ : Type} (sink : Sink σ) (world : World) (mode : Mode) (fuel : Nat)
    (machine : Machine) (state : σ) : Machine × σ :=
  match fuel with
  | 0 => (machine, state)
  | fuel + 1 =>
    if machine.isRunning then
      let next := step world mode machine
      match machine.printing? with
      | some value =>
        match sink state value with
        | (state, none) => runTo sink world mode fuel next state
        | (state, some fault) => (next.fail (.fault fault), state)
      | none => runTo sink world mode fuel next state
    else (machine, state)

/-- A machine for whose next step there is no room, if there is a reason. -/
def overflow (machine : Machine) (reason? : Option String) : Machine :=
  match reason? with
  | some reason => if machine.isRunning then machine.fail (.fault (.overflow reason)) else machine
  | none => machine

end Machine

/-- A text that a host hands in, and how it is to be run. -/
structure Submission where
  text : String
  entry : String
  args : List Value
  inputs : List Value
  provider : Option Provider

def Submission.session (submission : Submission) : Session :=
  .start submission.inputs submission.provider

/-- What came of a script, and its effects in order. -/
structure Outcome extends Report where
  effects : List Effect

structure Runner where
  /-- What references in scripts resolve against. -/
  directory : Option String
  /-- The session of the last script. There is none before the first one. -/
  session : Option Session

/-- How far a runner has come with a script. There is an outcome once the script has ended, unless
it cannot be written. -/
structure Handled (σ : Type) where
  runner : Runner
  machine : Machine
  outcome : Option (Except Fault Outcome)
  host : σ

namespace Runner

/-- The script that a submission is for a runner. -/
def script (runner : Runner) (submission : Submission) : Script :=
  ⟨submission.text, submission.entry, submission.args, runner.directory⟩

/-- What came of the last script, of which the effects are on record that come before its end. -/
def outcome? (runner : Runner) (text : String) (status : Status) (effects : List Effect) :
    Option (Except Fault Outcome) :=
  match runner.session, status with
  | some session, .finished => some (.ok ⟨.ofSession session, effects.reverse⟩)
  | some session, .failed failure =>
    some ((Report.ofFailure text session failure).map fun report =>
      ⟨report, (.ofFailure failure :: effects).reverse⟩)
  | _, _ => none

/-- The machine that runs a script. It has failed if there is no room for reading the script. -/
def started (runner : Runner) (overflow : Overflow) (world : World) (library : Library)
    (submission : Submission) : Machine :=
  match overflow with
  | .reading reason => ⟨submission.session, ⟨library, []⟩, [], .failed (.fault (.overflow reason))⟩
  | _ => (runner.script submission).start world submission.session library

/-- Runs a script, which may wait, for as many steps as `fuel` says. It begins a new session. -/
def handle {σ : Type} (runner : Runner) (overflow : Overflow) (sink : Sink σ) (world : World)
    (library : Library) (fuel : Nat) (submission : Submission) (host : σ) : Handled σ :=
  let (machine, record) := (runner.started overflow world library submission).runTo
    (Record.print sink) world .async (overflow.limit fuel) ⟨[], host⟩
  let machine := machine.overflow (overflow.reason? fuel)
  let runner := { runner with session := some machine.session }
  ⟨runner, machine, runner.outcome? submission.text machine.status record.effects, record.host⟩

end Runner

end DocScript
