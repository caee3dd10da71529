import DocScript.Proofs.Machine.Stores

/-! # The blocks of a run

The statements that invocations still have to execute come from the bodies of the functions that
the run has begun. What holds of these bodies, and passes to the rest and to the conditional bodies
of a block, holds of every block at any time.
-/

namespace DocScript.Machine

variable {world : World} {mode : Mode} {m : Machine} {P : List Statement → Prop}
  {Q : Program → List Statement → Prop}

/-- What a step does, by what comes next in the innermost invocation. -/
inductive Turn (world : World) (mode : Mode) (machine : Machine) : Machine → Prop where
  | ended (hs : machine.status ≠ .running) : Turn world mode machine machine
  | finished (ha : machine.activations = []) :
    Turn world mode machine { machine with status := .finished }
  | returned : Turn world mode machine machine.leave
  | closed {program : Program} {function : String} {outer : List (List Statement)}
    {rest : List Activation} (ha : machine.activations = ⟨program, function, [] :: outer⟩ :: rest) :
    Turn world mode machine (machine.continueWith outer)
  | executed {program : Program} {function : String} {statement : Statement}
    {later : List Statement} {outer : List (List Statement)} {rest : List Activation}
    (hs : machine.status = .running)
    (ha : machine.activations = ⟨program, function, (statement :: later) :: outer⟩ :: rest) :
    Turn world mode machine (execute world mode machine
      ⟨program, function, (statement :: later) :: outer⟩ statement later outer)

theorem step_turn (world : World) (mode : Mode) (m : Machine) :
    Turn world mode m (step world mode m) := by
  by_cases hs : m.status = .running
  · rw [step_of_running hs, advance]
    split
    · exact .finished ‹_›
    · rename_i activation rest ha
      obtain ⟨program, function, blocks⟩ := activation
      dsimp only
      split
      · exact .returned
      · exact .closed ha
      · exact .executed hs ha
  · rw [step_of_ended hs]
    exact .ended hs

/-- The function that the next step begins, if it begins one. -/
def begun? (world : World) (mode : Mode) (machine : Machine) : Option Function :=
  match machine.status, machine.activations with
  | .running, ⟨program, _, (.call name reference arguments line :: _) :: _⟩ :: _ =>
    (prepare world mode machine.session machine.store program name reference arguments
      line).1.toOption.map fun prepared => prepared.2.1
  | _, _ => none

/-- Whether all blocks that are being executed have a property. -/
def HasBlocks (P : List Statement → Prop) (machine : Machine) : Prop :=
  ∀ activation ∈ machine.activations, ∀ block ∈ activation.blocks, P block

/-- Whether all blocks that are being executed have a property in their programs. -/
def HasBlocksIn (Q : Program → List Statement → Prop) (machine : Machine) : Prop :=
  ∀ activation ∈ machine.activations, ∀ block ∈ activation.blocks, Q activation.program block

/-- Whether a property passes from a block to what is still to be executed of it. -/
structure Passing (P : List Statement → Prop) : Prop where
  later : ∀ {statement later}, P (statement :: later) → P later
  body : ∀ {condition body line later}, P (.cond condition body line :: later) → P body

theorem HasBlocksIn.leave (h : m.HasBlocksIn Q) : m.leave.HasBlocksIn Q :=
  fun activation ha => h activation (List.mem_of_mem_drop ha)

theorem HasBlocksIn.continueWith (h : m.HasBlocksIn Q) {activation : Activation}
    {rest : List Activation} (ha : m.activations = activation :: rest)
    {blocks : List (List Statement)} (hb : ∀ block ∈ blocks, Q activation.program block) :
    (m.continueWith blocks).HasBlocksIn Q := by
  obtain ⟨session, store, activations, status⟩ := m
  cases ha
  intro other ho
  rcases List.mem_cons.mp ho with rfl | ho
  · exact hb
  · exact h other (List.mem_cons_of_mem activation ho)

theorem HasBlocksIn.settle (h : m.HasBlocksIn Q) {activation : Activation}
    {rest : List Activation} (ha : m.activations = activation :: rest)
    {blocks : List (List Statement)} (hb : ∀ block ∈ blocks, Q activation.program block)
    (result : Result Session) : (m.settle blocks result).HasBlocksIn Q := by
  cases result with
  | error failure => exact h
  | ok session => exact HasBlocksIn.continueWith (m := { m with session }) h ha hb

theorem HasBlocksIn.enter (h : m.HasBlocksIn Q) {program : Program} {function : Function}
    (hf : Q program function.body) (args : List Value) :
    (m.enter program function args).HasBlocksIn Q := by
  intro activation ha block hb
  rcases List.mem_cons.mp ha with rfl | ha
  · cases List.mem_singleton.mp hb
    exact hf
  · exact h activation ha block hb

theorem HasBlocksIn.call (h : m.HasBlocksIn Q) {caller : Activation} {rest : List Activation}
    (ha : m.activations = caller :: rest) {name : String} {reference : Option String}
    {arguments : List Expr} {line : Line} {later : List Statement} {outer : List (List Statement)}
    (hb : ∀ block ∈ later :: outer, Q caller.program block)
    (hf : ∀ target function args store,
      prepare world mode m.session m.store caller.program name reference arguments line =
        (.ok (target, function, args), store) → Q target function.body) :
    (call world mode m caller name reference arguments line later outer).HasBlocksIn Q := by
  rw [Machine.call]
  rcases hp : prepare world mode m.session m.store caller.program name reference arguments line with
    ⟨failure | ⟨target, function, args⟩, store⟩
  · exact h
  · have hs : HasBlocksIn Q { m with store } := h
    have hbody := hf target function args store hp
    dsimp only
    split
    · exact hs.leave.enter hbody args
    · exact (hs.continueWith ha hb).enter hbody args

theorem HasBlocksIn.step (h : m.HasBlocksIn Q) (hp : ∀ program, Passing (Q program))
    (hf : ∀ caller name reference arguments line target function args store,
      m.Calls caller name reference arguments line →
      prepare world mode m.session m.store caller name reference arguments line =
        (.ok (target, function, args), store) → Q target function.body) :
    (Machine.step world mode m).HasBlocksIn Q := by
  have ht := step_turn world mode m
  generalize Machine.step world mode m = after at ht ⊢
  cases ht with
  | ended => exact h
  | finished => exact h
  | returned => exact h.leave
  | closed ha =>
    have hb := h _ (ha ▸ List.mem_cons_self)
    exact h.continueWith ha fun block ho => hb block (List.mem_cons_of_mem _ ho)
  | @executed program function statement later outer rest hs ha =>
    have hb := h _ (ha ▸ List.mem_cons_self)
    obtain ⟨hfirst, houter⟩ := List.forall_mem_cons.mp hb
    have hl : ∀ block ∈ later :: outer, Q program block :=
      List.forall_mem_cons.mpr ⟨(hp program).later hfirst, houter⟩
    cases statement with
    | stop line => exact h.leave
    | cond condition body line =>
      simp only [execute]
      split
      · apply h.continueWith ha
        split
        · exact List.forall_mem_cons.mpr ⟨(hp program).body hfirst, hl⟩
        · exact hl
      · exact h
    | call callee reference arguments line =>
      have hc : m.Calls program callee reference arguments line := ⟨hs, by rw [next?, ha]⟩
      apply h.call ha hl
      intro target function args store he
      exact hf _ _ _ _ _ _ _ _ _ hc he
    | print | assign | declare | input => exact h.settle ha hl _

theorem HasBlocksIn.run (h : m.HasBlocksIn Q) (hp : ∀ program, Passing (Q program)) {n : Nat}
    (hf : ∀ k < n, (Machine.run world mode k m).HasBlocksIn Q →
      ∀ caller name reference arguments line target function args store,
      (Machine.run world mode k m).Calls caller name reference arguments line →
      prepare world mode (Machine.run world mode k m).session (Machine.run world mode k m).store
        caller name reference arguments line = (.ok (target, function, args), store) →
      Q target function.body) : (Machine.run world mode n m).HasBlocksIn Q := by
  apply run_preserves h
  intro k hk hn
  exact hn.step hp (hf k hk hn)

theorem hasBlocksIn_start {program : Program} {entry : String}
    (hf : ∀ function, program.find? entry = some function → Q program function.body)
    (args : List Value) (session : Session) (store : Store) :
    (start program entry args session store).HasBlocksIn Q := by
  have hn : HasBlocksIn Q ⟨session, store, [], .running⟩ := nofun
  unfold start
  split
  · exact hn.enter (hf _ ‹_›) args
  · exact hn

/-- What comes next is the head of a block in the program of the innermost invocation. -/
theorem HasBlocksIn.next (h : m.HasBlocksIn Q) {program : Program} {statement : Statement}
    (hn : m.next? = some (program, statement)) : ∃ later, Q program (statement :: later) := by
  obtain ⟨function, later, outer, rest, ha⟩ := exists_activation hn
  exact ⟨later, h _ (ha ▸ List.mem_cons_self) _ List.mem_cons_self⟩

/-! ## Properties of blocks in any program -/

theorem HasBlocks.step (h : m.HasBlocks P) (hp : Passing P)
    (hf : ∀ function, m.begun? world mode = some function → P function.body) :
    (Machine.step world mode m).HasBlocks P := by
  apply HasBlocksIn.step (Q := fun _ => P) h fun _ => hp
  intro caller name reference arguments line target function args store hc he
  obtain ⟨_, later, outer, rest, ha⟩ := exists_activation hc.next
  apply hf
  simp only [begun?, hc.running, ha, he]
  rfl

theorem HasBlocks.run (h : m.HasBlocks P) (hp : Passing P) {n : Nat}
    (hf : ∀ k < n, ∀ function, (Machine.run world mode k m).begun? world mode = some function →
      P function.body) : (Machine.run world mode n m).HasBlocks P := by
  apply run_preserves h
  intro k hk hn
  exact hn.step hp (hf k hk)

theorem hasBlocks_start {program : Program} {entry : String}
    (hf : ∀ function, program.find? entry = some function → P function.body) (args : List Value)
    (session : Session) (store : Store) : (start program entry args session store).HasBlocks P :=
  hasBlocksIn_start (Q := fun _ => P) hf args session store

end DocScript.Machine
