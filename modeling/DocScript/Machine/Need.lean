import DocScript.Machine.Run

/-! # Needs

What the next step of a machine asks for from outside. A machine can be driven by looking at its
need, getting what is needed, and taking one step with it.
-/

namespace DocScript

inductive Need where
  | file (path : String)
  | remote (url : String)
  | input
  deriving DecidableEq, Repr

namespace Machine

/-- The statement that comes next, with the program that it stands in. -/
def next? (machine : Machine) : Option (Program × Statement) :=
  match machine.activations with
  | ⟨program, _, (statement :: _) :: _⟩ :: _ => some (program, statement)
  | _ => none

/-- The document that a call needs, unless it is there. -/
def needOfCall (world : World) (mode : Mode) (library : Library) (program : Program)
    (reference : String) (line : Line) : Option Need :=
  match Location.ofReference world mode program.origin reference line with
  | .error _ => none
  | .ok location =>
    if (library.find? location.key).isSome then none
    else
      match location with
      | .file path => some (.file path)
      | .remote url => some (.remote url)

def need? (world : World) (mode : Mode) (machine : Machine) : Option Need :=
  if machine.isRunning then
    match machine.next? with
    | some (_, .input _ _) => if machine.session.provider.isSome then some .input else none
    | some (program, .call _ (some reference) _ line) =>
      if reference = "" then none
      else needOfCall world mode machine.store.library program reference line
    | _ => none
  else none

end Machine

end DocScript
