import DocScript.Command.Line
import DocScript.Proofs.Script.Outcomes
import DocScript.Proofs.Text.Points

/-! # What commands show

A command shows each value as it is printed, on a line of the standard output. Its script ends where
the machine does, or before: at a value that cannot be shown, or at a step for which the stack of
the host has no room.
-/

namespace DocScript

/-- Whether some lines show some values. -/
def Shows : List Value → List String → Prop :=
  List.Forall₂ fun value line => value.isWritable = true ∧ value.display = Points.ofString line

/-- What goes wrong with a value that cannot be shown. -/
inductive Unshown (value : Value) : Fault → Prop
  | unwritable (h : value.isWritable = false) : Unshown value .unwritable
  | notEncoded (h : ∀ line, value.display ≠ Points.ofString line) :
    Unshown value (.refused value.display.notEncoded)

namespace Command

/-- The sink of a command, which puts values on record and writes them to the standard output. -/
abbrev sink : Sink (Record (List String)) := Record.print writer

end Command

namespace Machine

/-- How a machine ends for a command, and the lines that have been shown then: at its end, at a
value that cannot be shown, or at a step for which there is no room. -/
inductive EndsOn (overflow : Overflow) (world : World) (m : Machine) :
    Option Failure → List String → Prop
  | ended {n : Nat} {lines : List String} (hn : (run world .async n m).isRunning = false)
    (ho : overflow.limit n = n) (hl : Shows (run world .async n m).output lines) :
    EndsOn overflow world m (run world .async n m).failure? lines
  | unshown {k : Nat} {value : Value} {fault : Fault} {lines : List String}
    (hp : (run world .async k m).printing? = some value) (hu : Unshown value fault)
    (ho : overflow.limit (k + 1) = k + 1) (hl : Shows (run world .async k m).output lines) :
    EndsOn overflow world m (some (.fault fault)) lines
  | overflowed {n : Nat} {reason : String} {lines : List String} (ho : overflow = .step n reason)
    (hn : (run world .async n m).isRunning = true)
    (hl : Shows (run world .async n m).output lines) :
    EndsOn overflow world m (some (.fault (.overflow reason))) lines

variable {overflow : Overflow} {world : World} {m twin : Machine} {outcome : Option Failure}
  {lines : List String}

end Machine

/-- Machines that always agree end in the same ways. -/
theorem Machine.EndsOn.congr {overflow : Overflow} {world : World} {m twin : Machine}
    {outcome : Option Failure} {lines : List String}
    (ha : ∀ n, (run world .async n m).Agrees (run world .async n twin))
    (h : m.EndsOn overflow world outcome lines) : twin.EndsOn overflow world outcome lines := by
  cases h with
  | ended hn ho hl =>
    rw [(ha _).failure?_eq]
    exact .ended ((ha _).isRunning_eq ▸ hn) ho ((ha _).output_eq ▸ hl)
  | unshown hp hu ho hl =>
    exact .unshown ((ha _).printing?_eq ▸ hp) hu ho ((ha _).output_eq ▸ hl)
  | overflowed ho hn hl =>
    exact .overflowed ho ((ha _).isRunning_eq ▸ hn) ((ha _).output_eq ▸ hl)

end DocScript
