import DocScript.Machine.Run
import DocScript.Proofs.Machine.Frames

/-! # What a step does to the invocations

A step enters an invocation, leaves one, replaces one, or stays in the one that it is in. A machine
with further invocations beneath its own makes the same steps.
-/

namespace DocScript

/-- How a step changes the invocations in progress. -/
inductive Move where
  | stay
  | enter (callee : Invocation)
  | leave
  | replace (callee : Invocation)

namespace Move

/-- The invocations in progress after a move, the innermost one first. -/
def apply : Move → List Invocation → List Invocation
  | .stay, stack => stack
  | .enter callee, stack => callee :: stack
  | .leave, stack => stack.drop 1
  | .replace callee, stack => callee :: stack.drop 1

/-- What a call does that has some statements after it in its block. -/
def ofCall (later : List Statement) : Result (Program × Function × List Value) → Move
  | .ok (_, function, args) =>
    if later.isEmpty then .replace ⟨function.name, args⟩ else .enter ⟨function.name, args⟩
  | .error _ => .stay

end Move

namespace Machine

variable {world : World} {mode : Mode} {m : Machine} {frames : List Frame}
  {activations : List Activation}

/-- What the next step does to the invocations. -/
def move (world : World) (mode : Mode) (machine : Machine) : Move :=
  match machine.status, machine.activations with
  | .running, ⟨_, _, []⟩ :: _ => .leave
  | .running, ⟨_, _, (.stop _ :: _) :: _⟩ :: _ => .leave
  | .running, ⟨program, _, (.call name reference arguments line :: later) :: _⟩ :: _ =>
    .ofCall later (prepare world mode machine.session machine.store program name reference
      arguments line).1
  | _, _ => .stay

/-- A machine with further frames and activations beneath its own. -/
def onto (machine : Machine) (frames : List Frame) (activations : List Activation) : Machine :=
  { machine with
    session := machine.session.onto frames
    activations := machine.activations ++ activations }

@[simp] theorem onto_session (machine : Machine) (frames : List Frame)
    (activations : List Activation) :
    (machine.onto frames activations).session = machine.session.onto frames := rfl

@[simp] theorem onto_store (machine : Machine) (frames : List Frame)
    (activations : List Activation) : (machine.onto frames activations).store = machine.store := rfl

/-- There is one frame for each activation, of the same function. -/
def Framed (machine : Machine) : Prop :=
  machine.session.frames.map Frame.function = machine.activations.map Activation.function

theorem Framed.length (h : m.Framed) :
    m.session.frames.length = m.activations.length := by
  simpa only [List.length_map] using congrArg List.length h

theorem Framed.frames_ne_nil (h : m.Framed) (ha : m.activations ≠ []) :
    m.session.frames ≠ [] := by
  rw [← List.length_pos_iff] at ha ⊢
  rwa [h.length]

theorem step_of_running (h : m.status = .running) :
    step world mode m = advance world mode m := by rw [step, h]

theorem step_of_ended (h : m.status ≠ .running) : step world mode m = m := by
  rw [step]
  split
  · exact absurd ‹_› h
  · rfl

theorem prepare_onto {session : Session} (h : session.frames ≠ []) (store : Store)
    (program : Program) (name : String) (reference : Option String) (arguments : List Expr)
    (line : Line) :
    prepare world mode (session.onto frames) store program name reference arguments line =
      prepare world mode session store program name reference arguments line := by
  simp only [prepare, Session.eval_onto h]

theorem prepare_of_alike {s s' : Session} (h : s.Alike s') (store : Store)
    (program : Program) (name : String) (reference : Option String) (arguments : List Expr)
    (line : Line) :
    prepare world mode s' store program name reference arguments line =
      prepare world mode s store program name reference arguments line := by
  obtain ⟨core, rest, rest', hn, rfl, rfl⟩ := h.exists_onto
  rw [prepare_onto hn, prepare_onto hn]

theorem leave_onto (hf : m.session.frames ≠ []) (ha : m.activations ≠ []) :
    (m.onto frames activations).leave = m.leave.onto frames activations := by
  obtain ⟨⟨_ | ⟨frame, _⟩, _, _, _⟩, _, _ | ⟨activation, _⟩, _⟩ := m
  · exact absurd rfl hf
  · exact absurd rfl hf
  · exact absurd rfl ha
  · rfl

theorem continueWith_onto (ha : m.activations ≠ []) (blocks : List (List Statement)) :
    (m.onto frames activations).continueWith blocks =
      (m.continueWith blocks).onto frames activations := by
  obtain ⟨_, _, _ | ⟨activation, _⟩, _⟩ := m
  · exact absurd rfl ha
  · rfl

theorem settle_onto (ha : m.activations ≠ []) (blocks : List (List Statement))
    (result : Result Session) :
    (m.onto frames activations).settle blocks (result.map (·.onto frames)) =
      (m.settle blocks result).onto frames activations := by
  cases result with
  | error failure => rfl
  | ok session => exact continueWith_onto (m := { m with session }) ha blocks

theorem call_onto (hf : m.session.frames ≠ []) (ha : m.activations ≠ [])
    (caller : Activation) (name : String) (reference : Option String) (arguments : List Expr)
    (line : Line) (later : List Statement) (outer : List (List Statement)) :
    call world mode (m.onto frames activations) caller name reference arguments line later
        outer =
      (call world mode m caller name reference arguments line later outer).onto frames
        activations := by
  simp only [call, onto_session, onto_store, prepare_onto hf]
  rcases prepare world mode m.session m.store caller.program name reference arguments
    line with ⟨failure | ⟨program, function, args⟩, store⟩
  · rfl
  · dsimp only
    split
    · exact congrArg (fun m => (note m _).enter program function args)
        (leave_onto (m := { m with store }) hf ha)
    · exact congrArg (fun m => enter m program function args)
        (continueWith_onto (m := { m with store }) ha _)

theorem execute_onto (hf : m.session.frames ≠ []) (ha : m.activations ≠ [])
    (caller : Activation) (statement : Statement) (later : List Statement)
    (outer : List (List Statement)) :
    execute world mode (m.onto frames activations) caller statement later outer =
      (execute world mode m caller statement later outer).onto frames activations := by
  have hs : (m.onto frames activations).settle (later :: outer)
      ((m.session.onto frames).perform statement) =
        (m.settle (later :: outer) (m.session.perform statement)).onto frames activations := by
    rw [Session.perform_onto hf]
    exact settle_onto ha ..
  cases statement with
  | stop line => exact leave_onto hf ha
  | call name reference arguments line => exact call_onto hf ha ..
  | cond condition body line =>
    simp only [execute, onto_session, Session.eval_onto hf]
    cases m.session.eval condition line with
    | error failure => rfl
    | ok value => exact continueWith_onto ha _
  | print | assign | declare | input => exact hs

/-- A machine with further invocations beneath its own makes the same step. -/
theorem step_onto (h : m.Framed) (ha : m.activations ≠ []) :
    step world mode (m.onto frames activations) =
      (step world mode m).onto frames activations := by
  have hf := h.frames_ne_nil ha
  by_cases hr : m.status = .running
  · rw [step_of_running hr, step_of_running (m := m.onto frames activations) hr]
    obtain ⟨session, store, _ | ⟨⟨program, name, blocks⟩, rest⟩, status⟩ := m
    · exact absurd rfl ha
    · match blocks with
      | [] => exact leave_onto hf ha
      | [] :: outer => exact continueWith_onto ha outer
      | (statement :: later) :: outer => exact execute_onto hf ha ..
  · rw [step_of_ended hr, step_of_ended (m := m.onto frames activations) hr]

theorem move_onto (h : m.Framed) (ha : m.activations ≠ []) :
    (m.onto frames activations).move world mode = m.move world mode := by
  have hf := h.frames_ne_nil ha
  obtain ⟨session, store, _ | ⟨⟨program, name, blocks⟩, rest⟩, status⟩ := m
  · exact absurd rfl ha
  · cases status with
    | running =>
      match blocks with
      | [] => rfl
      | [] :: _ => rfl
      | (.stop _ :: _) :: _ => rfl
      | (.call .. :: later) :: _ =>
        exact congrArg (fun prepared => Move.ofCall later prepared.1) (prepare_onto hf ..)
      | (.print .. :: _) :: _ => rfl
      | (.assign .. :: _) :: _ => rfl
      | (.declare .. :: _) :: _ => rfl
      | (.input .. :: _) :: _ => rfl
      | (.cond .. :: _) :: _ => rfl
    | finished => rfl
    | failed => rfl

/-- What a step can do, and what it does to the invocations. -/
inductive Transition (world : World) (mode : Mode) (machine : Machine) : Move → Machine → Prop where
  | ended (h : machine.status ≠ .running) : Transition world mode machine .stay machine
  | finished (h : machine.activations = []) :
    Transition world mode machine .stay { machine with status := .finished }
  | left : Transition world mode machine .leave machine.leave
  | continued {session : Session} (blocks : List (List Statement))
    (h : machine.session.SameCalls session) :
    Transition world mode machine .stay ({ machine with session }.continueWith blocks)
  | failed (store : Store) (failure : Failure) :
    Transition world mode machine .stay ({ machine with store }.fail failure)
  | entered (store : Store) (blocks : List (List Statement)) (program : Program)
    (function : Function) (args : List Value) :
    Transition world mode machine (.enter ⟨function.name, args⟩)
      (({ machine with store }.continueWith blocks).enter program function args)
  | replaced (store : Store) (event : Event) (program : Program) (function : Function)
    (args : List Value) :
    Transition world mode machine (.replace ⟨function.name, args⟩)
      (({ machine with store }.leave.note event).enter program function args)

theorem settle_transition (blocks : List (List Statement)) (statement : Statement) :
    Transition world mode m .stay (m.settle blocks (m.session.perform statement)) := by
  cases h : m.session.perform statement with
  | error failure => exact .failed m.store failure
  | ok session => exact .continued blocks (Session.sameCalls_perform h)

theorem call_transition (caller : Activation) (name : String) (reference : Option String)
    (arguments : List Expr) (line : Line) (later : List Statement)
    (outer : List (List Statement)) :
    Transition world mode m
      (.ofCall later (prepare world mode m.session m.store caller.program name reference arguments
        line).1)
      (call world mode m caller name reference arguments line later outer) := by
  rw [call]
  rcases prepare world mode m.session m.store caller.program name reference arguments line with
    ⟨failure | ⟨program, function, args⟩, store⟩
  · exact .failed store failure
  · simp only [Move.ofCall]
    split
    · exact .replaced store _ program function args
    · exact .entered store _ program function args

theorem step_transition (world : World) (mode : Mode) (m : Machine) :
    Transition world mode m (m.move world mode) (step world mode m) := by
  by_cases hr : m.status = .running
  · rw [step_of_running hr]
    obtain ⟨session, store, _ | ⟨⟨program, name, blocks⟩, rest⟩, status⟩ := m <;> subst hr
    · exact .finished rfl
    · match blocks with
      | [] => exact .left
      | [] :: outer => exact .continued outer ⟨rfl, rfl⟩
      | (.stop _ :: _) :: _ => exact .left
      | (.call callee reference arguments line :: later) :: outer =>
        exact call_transition ⟨program, name, _⟩ callee reference arguments line later outer
      | (.print .. :: _) :: _ => exact settle_transition ..
      | (.assign .. :: _) :: _ => exact settle_transition ..
      | (.declare .. :: _) :: _ => exact settle_transition ..
      | (.input .. :: _) :: _ => exact settle_transition ..
      | (.cond condition body line :: later) :: outer =>
        simp only [advance, execute]
        split
        · exact .continued _ ⟨rfl, rfl⟩
        · exact .failed store _
  · have hm : m.move world mode = .stay := by
      unfold move
      split <;> first | rfl | exact absurd ‹m.status = _› hr
    rw [step_of_ended hr, hm]
    exact .ended hr

theorem functions_continueWith (machine : Machine) (blocks : List (List Statement)) :
    (machine.continueWith blocks).activations.map Activation.function =
      machine.activations.map Activation.function := by
  obtain ⟨_, _, _ | ⟨_, _⟩, _⟩ := machine <;> rfl

theorem frames_continueWith (machine : Machine) (blocks : List (List Statement)) :
    (machine.continueWith blocks).session.frames = machine.session.frames := by
  obtain ⟨_, _, _ | ⟨_, _⟩, _⟩ := machine <;> rfl

namespace Transition

variable {m' : Machine} {move : Move}

theorem invocations (h : Transition world mode m move m') :
    m'.session.frames.map Frame.invocation =
      move.apply (m.session.frames.map Frame.invocation) := by
  cases h with
  | ended => rfl
  | finished => rfl
  | left => simp only [leave, Move.apply, List.map_drop]
  | continued blocks hs => rw [frames_continueWith]; exact hs.1
  | failed => rfl
  | entered =>
    simp only [enter, note, Session.push, Move.apply, frames_continueWith, List.map_cons,
      Frame.invocation_ofBindings]
  | replaced =>
    simp only [enter, note, Session.push, leave, Move.apply, List.map_cons, List.map_drop,
      Frame.invocation_ofBindings]

theorem framed (h : Transition world mode m move m') (hf : m.Framed) : m'.Framed := by
  unfold Framed at hf ⊢
  cases h with
  | ended => exact hf
  | finished => exact hf
  | left => simp only [leave, List.map_drop, hf]
  | continued blocks hs =>
    rw [frames_continueWith, functions_continueWith, ← hf]
    exact hs.functions
  | failed => exact hf
  | entered store blocks program function args =>
    simp only [enter, note, Session.push, List.map_cons, frames_continueWith,
      functions_continueWith, hf, Frame.function_ofBindings]
  | replaced store event program function args =>
    simp only [enter, note, Session.push, leave, List.map_cons, List.map_drop, hf,
      Frame.function_ofBindings]

end Transition

/-- A step changes the invocations that the frames are of by its move. -/
theorem invocations_step (world : World) (mode : Mode) (m : Machine) :
    (step world mode m).session.frames.map Frame.invocation =
      (m.move world mode).apply (m.session.frames.map Frame.invocation) :=
  (step_transition world mode m).invocations

theorem Framed.step (h : m.Framed) : (step world mode m).Framed :=
  (step_transition world mode m).framed h

end Machine

end DocScript
