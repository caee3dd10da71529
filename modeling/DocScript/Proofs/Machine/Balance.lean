import DocScript.Proofs.Machine.Step

/-! # Balanced calls

A call that ends leaves the frames beneath it as they were, and one that fails leaves its own frames
above them. Neither depends on what is beneath.
-/

namespace DocScript

/-- The invocations that were entered and not left again, the innermost one first. -/
def Move.replay (moves : List Move) : List Invocation :=
  moves.foldl (fun stack move => move.apply stack) []

theorem Move.replay_append_singleton (moves : List Move) (move : Move) :
    replay (moves ++ [move]) = move.apply (replay moves) := by
  simp only [replay, List.foldl_append, List.foldl_cons, List.foldl_nil]

namespace Machine

variable {world : World} {mode : Mode} {m : Machine} {frames : List Frame}
  {activations : List Activation} {depth : Nat}

/-- Whether a call that was entered above `depth` other invocations goes on. -/
def inCall (depth : Nat) (machine : Machine) : Bool :=
  machine.isRunning && decide (depth < machine.activations.length)

/-- Runs a call that was entered above `depth` other invocations, until it ends or fails, or for as
many steps as `fuel` says. -/
def runCall (world : World) (mode : Mode) (depth : Nat) : Nat → Machine → Machine
  | 0, machine => machine
  | fuel + 1, machine =>
    if machine.inCall depth then runCall world mode depth fuel (step world mode machine)
    else machine

/-- The moves of such a call. -/
def callMoves (world : World) (mode : Mode) (depth : Nat) : Nat → Machine → List Move
  | 0, _ => []
  | fuel + 1, machine =>
    if machine.inCall depth then
      machine.move world mode :: callMoves world mode depth fuel (step world mode machine)
    else []

theorem isRunning_iff : m.isRunning = true ↔ m.status = .running := by
  unfold isRunning
  cases m.status <;> simp

theorem inCall_iff :
    m.inCall depth = true ↔ m.status = .running ∧ depth < m.activations.length := by
  rw [inCall, Bool.and_eq_true, isRunning_iff, decide_eq_true_iff]

theorem inCall_onto : (m.onto frames activations).inCall activations.length = m.inCall 0 := by
  have hs : (m.onto frames activations).status = m.status := rfl
  have hl : (m.onto frames activations).activations = m.activations ++ activations := rfl
  rw [Bool.eq_iff_iff, inCall_iff, inCall_iff, hs, hl, List.length_append]
  exact and_congr_right fun _ => by omega

theorem activations_ne_nil_of_inCall (h : m.inCall 0 = true) : m.activations ≠ [] :=
  List.length_pos_iff.mp (inCall_iff.mp h).2

theorem runCall_onto (h : m.Framed) (fuel : Nat) :
    runCall world mode activations.length fuel (m.onto frames activations) =
      (runCall world mode 0 fuel m).onto frames activations := by
  induction fuel generalizing m with
  | zero => rfl
  | succ fuel ih =>
    rw [runCall, runCall, inCall_onto]
    split
    · rename_i hc
      rw [step_onto h (activations_ne_nil_of_inCall hc), ih h.step]
    · rfl

theorem callMoves_onto (h : m.Framed) (fuel : Nat) :
    callMoves world mode activations.length fuel (m.onto frames activations) =
      callMoves world mode 0 fuel m := by
  induction fuel generalizing m with
  | zero => rfl
  | succ fuel ih =>
    rw [callMoves, callMoves, inCall_onto]
    split
    · rename_i hc
      have ha := activations_ne_nil_of_inCall hc
      rw [step_onto h ha, move_onto h ha, ih h.step]
    · rfl

theorem Framed.runCall (h : m.Framed) (fuel : Nat) :
    (runCall world mode depth fuel m).Framed := by
  induction fuel generalizing m with
  | zero => exact h
  | succ fuel ih =>
    rw [Machine.runCall]
    split
    · exact ih h.step
    · exact h

/-- The frames of a call are of the invocations that its moves leave in progress. -/
theorem invocations_runCall (fuel : Nat) {moves : List Move}
    (h : m.session.frames.map Frame.invocation = Move.replay moves) :
    (runCall world mode depth fuel m).session.frames.map Frame.invocation =
      Move.replay (moves ++ callMoves world mode depth fuel m) := by
  induction fuel generalizing m moves with
  | zero => rw [callMoves, List.append_nil]; exact h
  | succ fuel ih =>
    rw [runCall, callMoves]
    split
    · have hs : (step world mode m).session.frames.map Frame.invocation =
          Move.replay (moves ++ [m.move world mode]) := by
        rw [invocations_step, h, Move.replay_append_singleton]
      rw [ih hs, List.append_assoc, List.singleton_append]
    · rw [List.append_nil]; exact h

theorem Transition.running_or_ne_nil {m' : Machine} {move : Move}
    (h : Transition world mode m move m') (hr : m.status = .running) (ha : m.activations ≠ []) :
    m'.status = .running ∨ m'.activations ≠ [] := by
  cases h with
  | ended h => exact absurd hr h
  | finished h => exact absurd h ha
  | left => exact .inl hr
  | continued blocks h =>
    left
    unfold continueWith
    split <;> exact hr
  | failed => exact .inr ha
  | entered => exact .inr (List.cons_ne_nil _ _)
  | replaced => exact .inr (List.cons_ne_nil _ _)

/-- A call that fails has not left its last invocation. -/
theorem running_or_ne_nil_runCall (world : World) (mode : Mode) (depth fuel : Nat) (m : Machine)
    (h : m.status = .running ∨ m.activations ≠ []) :
    (runCall world mode depth fuel m).status = .running ∨
      (runCall world mode depth fuel m).activations ≠ [] := by
  induction fuel generalizing m with
  | zero => exact h
  | succ fuel ih =>
    rw [runCall]
    split
    · rename_i hc
      obtain ⟨hr, hl⟩ := inCall_iff.mp hc
      exact ih _ ((step_transition world mode m).running_or_ne_nil hr
        (List.ne_nil_of_length_pos (Nat.zero_lt_of_lt hl)))
    · exact h

/-- Running a call is running the machine up to the first step at which the call is over. -/
theorem exists_runCall_eq_run (world : World) (mode : Mode) (depth fuel : Nat) (m : Machine) :
    ∃ steps ≤ fuel, runCall world mode depth fuel m = run world mode steps m ∧
      ∀ k < steps, (run world mode k m).inCall depth = true := by
  induction fuel generalizing m with
  | zero => exact ⟨0, Nat.le_refl 0, rfl, fun k hk => absurd hk (Nat.not_lt_zero k)⟩
  | succ fuel ih =>
    rw [runCall]
    split
    · rename_i hc
      obtain ⟨steps, hle, he, hk⟩ := ih (step world mode m)
      have hr := isRunning_iff.mpr (inCall_iff.mp hc).1
      refine ⟨steps + 1, Nat.succ_le_succ hle, ?_, ?_⟩
      · rw [he, run, if_pos hr]
      · rintro (_ | k) hlt
        · exact hc
        · rw [run, if_pos hr]
          exact hk k (Nat.lt_of_succ_lt_succ hlt)
    · exact ⟨0, Nat.zero_le _, rfl, fun k hk => absurd hk (Nat.not_lt_zero k)⟩

/-- A machine with other invocations in progress. -/
def withCalls (machine : Machine) (frames : List Frame) (activations : List Activation) : Machine :=
  { machine with session := { machine.session with frames }, activations }

/-- A call on no other invocations. -/
def lone (machine : Machine) (program : Program) (function : Function) (args : List Value) :
    Machine :=
  (machine.withCalls [] []).enter program function args

theorem framed_lone (machine : Machine) (program : Program) (function : Function)
    (args : List Value) : (machine.lone program function args).Framed :=
  congrArg (· :: []) (Frame.function_ofBindings ..)

theorem invocations_runCall_lone (machine : Machine) (program : Program) (function : Function)
    (args : List Value) (fuel : Nat) :
    (runCall world mode 0 fuel (machine.lone program function args)).session.frames.map
        Frame.invocation =
      Move.replay (.enter ⟨function.name, args⟩ ::
        callMoves world mode 0 fuel (machine.lone program function args)) := by
  have h : (machine.lone program function args).session.frames.map Frame.invocation =
      Move.replay [.enter ⟨function.name, args⟩] :=
    congrArg (· :: []) (Frame.invocation_ofBindings ..)
  exact invocations_runCall fuel h

/-- On any others, a call runs as it does on none. -/
theorem runCall_enter (machine : Machine) (program : Program) (function : Function)
    (args : List Value) (frames : List Frame) (activations : List Activation) (fuel : Nat) :
    runCall world mode activations.length fuel
        ((machine.withCalls frames activations).enter program function args) =
      (runCall world mode 0 fuel (machine.lone program function args)).onto frames activations :=
  runCall_onto (framed_lone machine program function args) fuel

/-- A call is a run up to the first step at which it is over. The frames beneath it stay as they
are. The frames above them are of the invocations that the call has entered and not left: none if it
has ended, and at least one if it has failed. What the call prints, reads, asks for and comes to is
the same on any other invocations. -/
theorem call_balanced_isolated (world : World) (mode : Mode) (machine : Machine)
    (program : Program) (function : Function) (args : List Value) (fuel : Nat) :
    let started := machine.enter program function args
    let depth := machine.activations.length
    let ended := runCall world mode depth fuel started
    (∃ steps ≤ fuel, ended = run world mode steps started ∧
      ∀ k < steps, (run world mode k started).inCall depth = true) ∧
    (∃ above,
      ended.session.frames = above ++ machine.session.frames ∧
      above.map Frame.invocation = Move.replay
        (.enter ⟨function.name, args⟩ :: callMoves world mode depth fuel started) ∧
      (ended.status = .running → ended.activations.length ≤ depth →
        above = [] ∧ ended.activations = machine.activations) ∧
      (∀ failure, ended.status = .failed failure → above ≠ [])) ∧
    ∀ frames activations,
      let other := runCall world mode activations.length fuel
        ((machine.withCalls frames activations).enter program function args)
      other.output = ended.output ∧ other.session.inputs = ended.session.inputs ∧
      other.session.provider = ended.session.provider ∧ other.store = ended.store ∧
      other.status = ended.status ∧
      (other.activations.length ≤ activations.length ↔ ended.activations.length ≤ depth) := by
  intro started depth ended
  have hl := framed_lone machine program function args
  let lone := runCall world mode 0 fuel (machine.lone program function args)
  have he : ended = lone.onto machine.session.frames machine.activations := runCall_enter machine ..
  have ha : ended.activations.length = lone.activations.length + depth := by
    rw [he]
    exact List.length_append
  refine ⟨exists_runCall_eq_run world mode depth fuel started,
    ⟨lone.session.frames, by rw [he]; rfl, ?_, ?_, ?_⟩, ?_⟩
  · have hm : callMoves world mode depth fuel started =
        callMoves world mode 0 fuel (machine.lone program function args) :=
      callMoves_onto hl fuel
    rw [hm]
    exact invocations_runCall_lone ..
  · intro _ hle
    have hn : lone.activations = [] := List.length_eq_zero_iff.mp (by omega)
    have hf : lone.session.frames = [] := by
      rw [← List.length_eq_zero_iff, (hl.runCall fuel).length, hn, List.length_nil]
    refine ⟨hf, ?_⟩
    rw [he]
    exact congrArg (· ++ machine.activations) hn
  · intro failure hs
    have hs : lone.status = .failed failure := by rwa [he] at hs
    refine (hl.runCall fuel).frames_ne_nil ?_
    rcases running_or_ne_nil_runCall world mode 0 fuel (machine.lone program function args)
      (.inr (List.cons_ne_nil _ _)) with h | h
    · rw [hs] at h
      cases h
    · exact h
  · intro frames activations other
    have ho : other = lone.onto frames activations := runCall_enter machine ..
    have hb : other.activations.length = lone.activations.length + activations.length := by
      rw [ho]
      exact List.length_append
    refine ⟨by rw [ho, he]; rfl, by rw [ho, he]; rfl, by rw [ho, he]; rfl, by rw [ho, he]; rfl,
      by rw [ho, he]; rfl, by omega⟩

end Machine

end DocScript
