import DocScript.Proofs.Machine.Blocks
import DocScript.Proofs.Machine.Modes
import DocScript.Proofs.Program.Listing

/-! # The depth of the call stack

A call in last position takes the place of its caller, and goes on in the loop that the caller is
run by. Every other call enters a loop of its own and waits for it. So there is one frame for each
loop, and however many calls are made in last position, they need no more than one.
-/

namespace DocScript

/-- Where a call stands in its list of statements. -/
inductive Position where
  | last
  | inner
  deriving DecidableEq, Repr

namespace Move

/-- The loops in progress after a move, each as the invocations that it has run in turn, the latest
one first. -/
def loops : Move → List (List Invocation) → List (List Invocation)
  | .stay, loops => loops
  | .enter callee, loops => [callee] :: loops
  | .leave, loops => loops.drop 1
  | .replace callee, ran :: rest => (callee :: ran) :: rest
  | .replace callee, [] => [[callee]]

/-- The calls in progress after a move. A function that ends was called last by those before it,
which end with it, up to the first one that has something left to do. -/
def pending : Move → List Position → List Position
  | .stay, calls => calls
  | .enter _, calls => .inner :: calls
  | .leave, calls => (calls.dropWhile (· = .last)).drop 1
  | .replace _, calls => .last :: calls

variable {move : Move} {loops : List (List Invocation)}

theorem loops_ne_nil (h : ∀ ran ∈ loops, ran ≠ []) : ∀ ran ∈ move.loops loops, ran ≠ [] := by
  intro ran hr
  cases move with
  | stay => exact h ran hr
  | enter callee =>
    rcases List.mem_cons.mp hr with rfl | hr
    · exact List.cons_ne_nil _ _
    · exact h ran hr
  | leave => exact h ran (List.mem_of_mem_drop hr)
  | replace callee =>
    cases loops with
    | nil =>
      cases List.mem_singleton.mp hr
      exact List.cons_ne_nil _ _
    | cons first rest =>
      rcases List.mem_cons.mp hr with rfl | hr
      · exact List.cons_ne_nil _ _
      · exact h ran (List.mem_cons_of_mem first hr)

/-- The invocations in progress are those that the loops run at the moment. -/
theorem head_loops (h : ∀ ran ∈ loops, ran ≠ []) :
    (move.loops loops).filterMap List.head? = move.apply (loops.filterMap List.head?) := by
  cases move with
  | stay => rfl
  | enter callee => rfl
  | leave =>
    cases loops with
    | nil => rfl
    | cons ran rest =>
      obtain ⟨callee, earlier, rfl⟩ := List.exists_cons_of_ne_nil (h ran List.mem_cons_self)
      rfl
  | replace callee =>
    cases loops with
    | nil => rfl
    | cons ran rest =>
      obtain ⟨caller, earlier, rfl⟩ := List.exists_cons_of_ne_nil (h ran List.mem_cons_self)
      rfl

theorem length_head (h : ∀ ran ∈ loops, ran ≠ []) :
    (loops.filterMap List.head?).length = loops.length := by
  induction loops with
  | nil => rfl
  | cons ran rest ih =>
    obtain ⟨callee, earlier, rfl⟩ := List.exists_cons_of_ne_nil (h ran List.mem_cons_self)
    have := ih fun ran hr => h ran (List.mem_cons_of_mem _ hr)
    simp only [List.filterMap_cons, List.head?_cons, List.length_cons, this]

theorem length_loops_le (hm : ∀ callee, move ≠ .enter callee) (h : loops.length ≤ 1) :
    (move.loops loops).length ≤ 1 := by
  cases move with
  | stay => exact h
  | enter callee => exact absurd rfl (hm callee)
  | leave =>
    rw [Move.loops, List.length_drop]
    omega
  | replace callee =>
    cases loops with
    | nil => exact Nat.le_refl 1
    | cons ran rest => exact h

/-- A function that ends returns to the innermost call that has something left to do. -/
theorem count_pending_leave (calls : List Position) :
    (Move.leave.pending calls).count .inner = calls.count .inner - 1 := by
  induction calls with
  | nil => rfl
  | cons position rest ih =>
    cases position with
    | last =>
      have hd : Move.leave.pending (.last :: rest) = Move.leave.pending rest := rfl
      rw [hd, ih, List.count_cons_of_ne (by decide)]
    | inner =>
      have hd : Move.leave.pending (.inner :: rest) = rest := rfl
      rw [hd, List.count_cons_self, Nat.add_sub_cancel]

/-- One step of the count: the innermost invocation, and one for each call that is not last. -/
theorem length_apply {stack : List Invocation} {calls : List Position}
    (hs : move ≠ .stay → stack ≠ []) (h : stack ≠ [] → stack.length = 1 + calls.count .inner)
    (hn : move.apply stack ≠ []) :
    (move.apply stack).length = 1 + (move.pending calls).count .inner := by
  cases move with
  | stay => exact h hn
  | enter callee =>
    have hl := h (hs (by simp))
    simp only [apply, pending, List.length_cons, List.count_cons_self, hl]
    omega
  | leave =>
    have hl := h (hs (by simp))
    have hp : 0 < (stack.drop 1).length := List.length_pos_iff.mpr hn
    rw [List.length_drop] at hp
    simp only [apply, count_pending_leave, List.length_drop]
    omega
  | replace callee =>
    have hl := h (hs (by simp))
    simp only [apply, pending, List.length_cons, List.length_drop,
      List.count_cons_of_ne (show Position.last ≠ .inner by decide)]
    omega

end Move

namespace Machine

variable {world : World} {mode : Mode} {m : Machine}

/-- The moves of the first steps of a run. -/
def moves (world : World) (mode : Mode) (machine : Machine) (steps : Nat) : List Move :=
  (List.range steps).map fun k => (run world mode k machine).move world mode

/-- The loops in progress after some steps. A machine begins with one for each of its frames. -/
def loops (world : World) (mode : Mode) (machine : Machine) (steps : Nat) :
    List (List Invocation) :=
  (moves world mode machine steps).foldl (fun loops move => move.loops loops)
    (machine.session.frames.map fun frame => [frame.invocation])

/-- The calls in progress after some steps. -/
def pending (world : World) (mode : Mode) (machine : Machine) (steps : Nat) : List Position :=
  (moves world mode machine steps).foldl (fun calls move => move.pending calls) []

theorem moves_succ (world : World) (mode : Mode) (m : Machine) (n : Nat) :
    moves world mode m (n + 1) =
      moves world mode m n ++ [(run world mode n m).move world mode] := by
  rw [moves, List.range_succ, List.map_append]
  rfl

theorem loops_succ (world : World) (mode : Mode) (m : Machine) (n : Nat) :
    loops world mode m (n + 1) =
      ((run world mode n m).move world mode).loops (loops world mode m n) := by
  simp only [loops, moves_succ, List.foldl_append, List.foldl_cons, List.foldl_nil]

theorem pending_succ (world : World) (mode : Mode) (m : Machine) (n : Nat) :
    pending world mode m (n + 1) =
      ((run world mode n m).move world mode).pending (pending world mode m n) := by
  simp only [pending, moves_succ, List.foldl_append, List.foldl_cons, List.foldl_nil]

theorem activations_ne_nil_of_move (h : m.move world mode ≠ .stay) : m.activations ≠ [] := by
  intro hn
  apply h
  unfold move
  rw [hn]
  cases m.status <;> rfl

theorem framed_start (program : Program) (entry : String) (args : List Value) (inputs : List Value)
    (provider : Option Provider) (store : Store) :
    (start program entry args (.start inputs provider) store).Framed := by
  unfold start
  split
  · exact congrArg (· :: []) (Frame.function_ofBindings ..)
  · rfl

theorem Framed.run (h : m.Framed) (n : Nat) : (run world mode n m).Framed := by
  apply run_preserves h
  intro k _ hn
  exact hn.step

/-- The frames are of the invocations that the loops run at the moment. -/
theorem invocations_run (world : World) (mode : Mode) (m : Machine) (n : Nat) :
    (∀ ran ∈ loops world mode m n, ran ≠ []) ∧
      (run world mode n m).session.frames.map Frame.invocation =
        (loops world mode m n).filterMap List.head? := by
  induction n with
  | zero =>
    constructor
    · intro ran hr
      obtain ⟨frame, -, rfl⟩ := List.mem_map.mp hr
      exact List.cons_ne_nil _ _
    · simp only [loops, moves, run, List.range_zero, List.map_nil, List.foldl_nil,
        List.filterMap_map, Function.comp_def, List.head?_cons, List.filterMap_eq_map']
  | succ n ih =>
    obtain ⟨hne, hf⟩ := ih
    rw [run_succ, loops_succ]
    refine ⟨Move.loops_ne_nil hne, ?_⟩
    rw [invocations_step, hf, Move.head_loops hne]

theorem frames_ne_nil_of_move (hf : m.Framed) (h : m.move world mode ≠ .stay) :
    m.session.frames ≠ [] :=
  hf.frames_ne_nil (activations_ne_nil_of_move h)

theorem length_frames_run (hf : m.Framed) (hl : m.session.frames.length ≤ 1) (n : Nat)
    (hn : (run world mode n m).session.frames ≠ []) :
    (run world mode n m).session.frames.length = 1 + (pending world mode m n).count .inner := by
  have key : ∀ n, (run world mode n m).session.frames.map Frame.invocation ≠ [] →
      ((run world mode n m).session.frames.map Frame.invocation).length =
        1 + (pending world mode m n).count .inner := by
    intro n
    induction n with
    | zero =>
      intro hn
      have hp : 0 < (m.session.frames.map Frame.invocation).length := List.length_pos_iff.mpr hn
      rw [List.length_map] at hp
      simp only [run, pending, moves, List.range_zero, List.map_nil, List.foldl_nil,
        List.count_nil, List.length_map]
      omega
    | succ n ih =>
      rw [run_succ, pending_succ, invocations_step]
      refine Move.length_apply (fun hm => ?_) ih
      simpa using frames_ne_nil_of_move (hf.run n) hm
  simpa only [List.length_map] using key n (by simpa using hn)

/-! ## Callers that wait -/

/-- Whether every caller has something left to do in the list that its call stands in. -/
def CallersWait (machine : Machine) : Prop :=
  ∀ caller ∈ machine.activations.tail, ∃ statement later outer,
    caller.blocks = (statement :: later) :: outer

theorem activations_step_of_enter {callee : Invocation} (h : m.move world mode = .enter callee) :
    ∃ caller rest statement later outer target, m.activations = caller :: rest ∧
      (step world mode m).activations =
        target :: { caller with blocks := (statement :: later) :: outer } :: rest := by
  unfold move at h
  split at h
  · cases h
  · cases h
  · rename_i program function name reference arguments line later outer rest hs ha
    rw [step_of_running hs, advance, ha]
    simp only [execute, call]
    rcases hp : prepare world mode m.session m.store program name reference arguments line with
      ⟨failure | ⟨target, function', args⟩, store⟩
    · rw [hp] at h
      cases h
    · rw [hp] at h
      cases later with
      | nil => cases h
      | cons statement later =>
        refine ⟨_, rest, statement, later, outer, ⟨target, function'.name, [function'.body]⟩, rfl,
          ?_⟩
        simp only [List.isEmpty_cons, Bool.false_eq_true, if_false, enter, note, continueWith, ha]
  · cases h

theorem CallersWait.step (h : m.CallersWait) : (step world mode m).CallersWait := by
  have ht := step_transition world mode m
  generalize hm : m.move world mode = move at ht
  generalize hs : Machine.step world mode m = after at ht ⊢
  cases ht with
  | ended => exact h
  | finished => exact h
  | left =>
    intro caller hc
    have hc : caller ∈ (m.activations.drop 1).tail := hc
    rw [List.drop_one] at hc
    exact h caller (List.mem_of_mem_tail hc)
  | continued blocks _ =>
    obtain ⟨_, _, _ | ⟨_, _⟩, _⟩ := m <;> exact h
  | failed => exact h
  | entered =>
    obtain ⟨caller, rest, statement, later, outer, target, ha, hn⟩ := activations_step_of_enter hm
    rw [hs] at hn
    intro other ho
    rw [hn] at ho
    rcases List.mem_cons.mp ho with rfl | ho
    · exact ⟨statement, later, outer, rfl⟩
    · apply h
      rw [ha]
      exact ho
  | replaced =>
    intro caller hc
    apply h
    rw [← List.drop_one]
    exact hc

theorem CallersWait.run (h : m.CallersWait) (n : Nat) : (run world mode n m).CallersWait := by
  apply run_preserves h
  intro k _ hn
  exact hn.step

theorem callersWait_start (program : Program) (entry : String) (args : List Value)
    (session : Session) (store : Store) :
    (start program entry args session store).CallersWait := by
  unfold start
  split <;> nofun

end Machine

/-! ## Calls in last position only -/

def Statement.isCall : Statement → Bool
  | .call _ _ _ _ => true
  | _ => false

/-- Whether at most the last statement of a list is a call. -/
def callsLast (block : List Statement) : Bool := block.dropLast.all (!·.isCall)

/-- Whether in every list of a body, the nested ones among them, at most the last statement is a
call. -/
def Function.callsLast (function : Function) : Bool :=
  (function.body :: blocksOf function.body).all DocScript.callsLast

/-- A list that has calls only in last position, and so have the lists in it. -/
def CallsLast (block : List Statement) : Prop :=
  ∀ list ∈ block :: blocksOf block, callsLast list = true

theorem Function.callsLast_iff {function : Function} :
    function.callsLast = true ↔ CallsLast function.body :=
  List.all_eq_true

theorem callsLast_of_cons {statement : Statement} {later : List Statement}
    (h : callsLast (statement :: later) = true) : callsLast later = true := by
  cases later with
  | nil => rfl
  | cons next rest =>
    rw [callsLast, List.dropLast_cons_cons, List.all_cons, Bool.and_eq_true] at h
    exact h.2

theorem passing_callsLast : Machine.Passing CallsLast where
  later := by
    intro statement later h list hl
    rcases List.mem_cons.mp hl with rfl | hl
    · exact callsLast_of_cons (h _ List.mem_cons_self)
    · apply h
      rw [blocksOf]
      exact List.mem_cons_of_mem _ (List.mem_append_right _ hl)
  body := by
    intro condition body line later h list hl
    apply h
    rw [blocksOf, Statement.blocks]
    exact List.mem_cons_of_mem _ (List.mem_append_left _ hl)

namespace Machine

variable {world : World} {mode : Mode} {m : Machine}

theorem HasBlocks.move_ne_enter (h : m.HasBlocks CallsLast) (callee : Invocation) :
    m.move world mode ≠ .enter callee := by
  intro hm
  unfold move at hm
  split at hm
  · cases hm
  · cases hm
  · rename_i program function name reference arguments line later outer rest hs ha
    have hb : CallsLast (.call name reference arguments line :: later) := by
      refine h ⟨program, function, _ :: outer⟩ ?_ _ List.mem_cons_self
      rw [ha]
      exact List.mem_cons_self
    have hl := hb _ List.mem_cons_self
    cases later with
    | nil =>
      rcases hp : (prepare world mode m.session m.store program name reference arguments line).1
        with failure | ⟨target, function', args⟩ <;> rw [hp] at hm <;> cases hm
    | cons next later => cases hl
  · cases hm

theorem length_loops_le (hl : m.session.frames.length ≤ 1) {n : Nat}
    (hm : ∀ k < n, ∀ callee, (run world mode k m).move world mode ≠ .enter callee) :
    (loops world mode m n).length ≤ 1 := by
  induction n with
  | zero => simpa [loops, moves] using hl
  | succ n ih =>
    rw [loops_succ]
    have hn := ih fun k hk => hm k (Nat.lt_succ_of_lt hk)
    exact Move.length_loops_le (hm n (Nat.lt_succ_self n)) hn

/-- The call stack has one frame for each loop in progress, which is the one for what the loop runs
at the moment. These are the run itself, and each call in progress that is not the last statement
of its list: its caller has something left to do there. If all functions that are begun call only
in last position, no step enters a loop in another one, and there is never more than one frame. -/
theorem frames_are_of_loops (world : World) (mode : Mode) (program : Program) (entry : String)
    (args : List Value) (inputs : List Value) (provider : Option Provider) (store : Store)
    (n : Nat) :
    let started := start program entry args (.start inputs provider) store
    let reached := run world mode n started
    (reached.session.frames.map Frame.invocation =
        (loops world mode started n).filterMap List.head? ∧
      reached.session.frames.length = (loops world mode started n).length ∧
      (reached.session.frames ≠ [] → reached.session.frames.length =
        1 + (pending world mode started n).count .inner) ∧
      reached.CallersWait) ∧
    ((∀ function, program.find? entry = some function → function.callsLast = true) →
      (∀ k < n, ∀ function, (run world mode k started).begun? world mode = some function →
        function.callsLast = true) →
      reached.session.frames.length ≤ 1 ∧ (loops world mode started n).length ≤ 1 ∧
      ∀ k ≤ n, ∀ callee, (run world mode k started).move world mode ≠ .enter callee) := by
  intro started reached
  have hf : started.Framed := framed_start program entry args inputs provider store
  have hl : started.session.frames.length ≤ 1 := by
    simp only [started, start]
    split <;> simp [enter, note, fail, Session.push, Session.start]
  obtain ⟨hne, hi⟩ := invocations_run world mode started n
  have hloops : reached.session.frames.length = (loops world mode started n).length := by
    have := congrArg List.length hi
    rwa [List.length_map, Move.length_head hne] at this
  refine ⟨⟨hi, hloops, length_frames_run hf hl n, ?_⟩, ?_⟩
  · exact (callersWait_start program entry args _ store).run n
  · intro he hb
    have hm : ∀ k ≤ n, ∀ callee, (run world mode k started).move world mode ≠ .enter callee := by
      intro k hk
      have hs : started.HasBlocks CallsLast :=
        hasBlocks_start (fun function h => Function.callsLast_iff.mp (he function h)) args _ store
      refine (hs.run passing_callsLast fun j hj function h => ?_).move_ne_enter
      exact Function.callsLast_iff.mp (hb j (Nat.lt_of_lt_of_le hj hk) function h)
    have h₁ := length_loops_le hl fun k hk => hm k (Nat.le_of_lt hk)
    exact ⟨hloops ▸ h₁, h₁, hm⟩

section Example

/-- A document that calls itself from a conditional, which is not the last of its statements. -/
def circling : Program where
  functions := [⟨"main", [], [
    .cond (.literal (.bool true) "true")
      [.print (.expr (.literal (.bool true) "true")) (some 5), .call "main" none [] (some 7)]
      (some 3),
    .print (.expr (.literal (.bool false) "false")) (some 9)]⟩]
  origin := none

def circleStarted : Machine := start circling "main" [] (.start [] none) ⟨.empty, []⟩

/-- After three calls there is still one frame, and all four invocations were run by one loop. -/
theorem circling_needs_one_frame :
    (∀ function, circling.find? "main" = some function → function.callsLast = true) ∧
    (∀ k < 9, ∀ function, (run barren .async k circleStarted).begun? barren .async = some function →
      function.callsLast = true) ∧
    (run barren .async 9 circleStarted).session.frames.length ≤ 1 ∧
    (loops barren .async circleStarted 9).map List.length = [4] := by
  have he : ∀ function, circling.find? "main" = some function → function.callsLast = true := by
    intro function h
    cases h
    decide
  have hb : ∀ k < 9, ((run barren .async k circleStarted).begun? barren .async).all
      Function.callsLast = true := by decide +kernel
  have hb : ∀ k < 9, ∀ function,
      (run barren .async k circleStarted).begun? barren .async = some function →
        function.callsLast = true := by
    intro k hk function h
    have := hb k hk
    rwa [h] at this
  obtain ⟨-, h⟩ := frames_are_of_loops barren .async circling "main" [] [] none ⟨.empty, []⟩ 9
  exact ⟨he, hb, (h he hb).1, by decide +kernel⟩

end Example

end Machine

end DocScript
