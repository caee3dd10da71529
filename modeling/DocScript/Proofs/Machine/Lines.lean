import DocScript.Proofs.Expr.Lines
import DocScript.Proofs.Machine.Blocks
import DocScript.Proofs.Machine.Modes
import DocScript.Proofs.Machine.Resolution
import DocScript.Proofs.Program.Passages

/-! # The lines of errors in runs

An error that a run ends in has the line of the statement that comes next in the innermost
invocation, unless the run has no function to begin with, must not wait, or has met an import that
cannot be read.
-/

namespace DocScript

/-- The line of a statement. -/
def Statement.line : Statement → Line
  | .print _ line => line
  | .assign _ _ _ line => line
  | .declare _ _ line => line
  | .call _ _ _ line => line
  | .cond _ _ line => line
  | .stop line => line
  | .input _ line => line

theorem Result.isAt_ofFault {α : Type} {line : Line} (result : Except Fault α) :
    (Result.ofFault result).IsAt line := by
  cases result with
  | ok a => exact isAt_ok a
  | error fault => exact isAt_fault fault

namespace Session

variable (session : Session) {line : Line}

theorem isAt_eval (e : Expr) : (session.eval e line).IsAt line := e.isAt_eval

theorem isAt_checkDeclared (name : String) : (session.checkDeclared name line).IsAt line := by
  unfold checkDeclared
  split
  · split
    · exact Result.isAt_ok ()
    · exact Result.isAt_failure (by simp [Cause.kind])
  · exact Result.isAt_failure (by simp [Cause.kind])

theorem isAt_set (name : String) (value : Value) : (session.set name value line).IsAt line := by
  unfold set
  split
  · split
    · exact Result.isAt_ok _
    · exact Result.isAt_failure (by simp [Cause.kind])
  · exact Result.isAt_failure (by simp [Cause.kind])

theorem isAt_evalPrinted (content : Printed) : (session.evalPrinted content line).IsAt line := by
  cases content with
  | expr e => exact session.isAt_eval e
  | template t => exact t.isAt_eval

theorem isAt_evalDeclared (value : Option Expr) : (session.evalDeclared value line).IsAt line := by
  cases value with
  | some e => exact session.isAt_eval e
  | none => exact Result.isAt_ok Value.none

theorem isAt_assign (name : String) (op : Option Compound) (e : Expr) :
    (session.assign name op e line).IsAt line := by
  apply (session.isAt_eval e).bind
  intro value
  apply (session.isAt_checkDeclared name).bind
  intro _
  cases op with
  | none => exact session.isAt_set name value
  | some op =>
    have ho : (op.apply name (session.get name) value line).IsAt line :=
      (op.operator.applyNamed_ends _ value line _).isAt
    apply ho.bind
    intro result
    exact session.isAt_set name result

theorem isAt_perform (statement : Statement) :
    (session.perform statement).IsAt statement.line := by
  cases statement with
  | print content line => exact (session.isAt_evalPrinted content).map session.print
  | assign name op e line => exact session.isAt_assign name op e
  | declare name value line =>
    apply (session.isAt_evalDeclared value).bind
    intro value
    exact Result.isAt_ofFault (session.declare name value)
  | input name line =>
    show (Result.ofFault _).IsAt line
    exact Result.isAt_ofFault _
  | stop | cond | call => exact Result.isAt_ok session

end Session

/-! ## Documents -/

/-- An error of a document that cannot be read is a syntax error on a line of the document. -/
theorem Program.isPlaced_of_parse_error {text : String} {e : ScriptError}
    (h : (Program.parse text).program = .error (.error e)) :
    e.kind = .malformed ∧ Markdown.IsLineOf (Markdown.lineCount text) e.line := by
  have hp := Markdown.isPlaced_of_mem_document text
  have he : Result.ends (Program.parse text).program = _ := ends_compileNodes hp ⟨[], none, []⟩
  rw [h] at he
  rcases Passage.readAll_cases (passages none (Markdown.parseDocument text).children) with
    ⟨hr, -⟩ | ⟨before, p, after, failure, hs, -, hq, hr⟩
  · cases he.trans hr
  · have hf := he.trans hr
    have hm : p ∈ passages none (Markdown.parseDocument text).children :=
      hs ▸ List.mem_append_right before List.mem_cons_self
    obtain ⟨n, h1, hn, hl⟩ := (isHolder_of_mem_passages (List.Subset.refl _) hm).isLineOf hp
    rcases Expr.parse_error hq with ⟨cause, hk, rfl⟩ | ⟨digits, -, -, rfl⟩
    · rw [hl, withLine_failure cause h1] at hf
      cases hf
      exact ⟨hk, n, h1, hn, rfl⟩
    · cases hf

theorem World.Misreads.kind_eq {world : World} {location : Location} {e : ScriptError}
    (h : world.Misreads location (.error e)) : e.kind = .malformed := by
  obtain ⟨text, -, hp⟩ := h
  exact (Program.isPlaced_of_parse_error hp).1

theorem Failure.IsUnresolved.isAt {line : Line} {failure : Failure}
    (h : failure.IsUnresolved line) : failure.IsAt line := by
  obtain ⟨cause, hk, rfl⟩ := h
  refine ⟨rfl, ?_⟩
  intro hm
  cases hk.symm.trans hm

theorem Location.isAt_ofReference (world : World) (mode : Mode) (origin : Option String)
    (reference : String) (line : Line) :
    (ofReference world mode origin reference line).IsAt line := by
  intro failure h
  rcases ofReference_error h with hu | ⟨-, malformed, -, rfl⟩ | ⟨fault, -, rfl⟩
  · exact hu.isAt
  · trivial
  · trivial

theorem World.Faults.isAt {world : World} {line : Line} {failure : Failure}
    (h : world.Faults failure) : failure.IsAt line := by
  obtain ⟨fault, rfl, -⟩ := h
  trivial

namespace Store

variable {world : World} {mode : Mode} {store : Store} {program : Program} {name reference : String}
  {location : Location} {line : Line} {failure : Failure}

/-- Finding a function fails at the line of the call, or by reading a document that the call refers
to and that is not in the library. -/
theorem resolve_error_cases {reference : Option String}
    (h : (store.resolve world mode program name reference line).1 = .error failure) :
    failure.IsAt line ∨ ∃ location, Locates world mode program reference line location ∧
      store.library.find? location.key = none ∧ world.Misreads location failure := by
  simp only [resolve] at h
  split at h
  · split at h
    · cases h
    · cases h
      exact .inl ⟨rfl, by simp [ScriptError.kind, Cause.kind]⟩
  · rename_i text ht
    obtain ⟨hr, hn⟩ := Option.filter_eq_some_iff.mp ht
    split at h
    · rename_i hl
      cases h
      exact .inl (Location.isAt_ofReference world mode program.origin text line _ hl)
    · rename_i location hl
      split at h
      · rename_i hs
        cases h
        rcases load_error (congrArg Prod.fst hs) with hu | hf | ⟨hf, hm⟩
        · exact .inl hu.isAt
        · exact .inl hf.isAt
        · exact .inr ⟨location, ⟨text, hr, by simpa using hn, hl⟩, hf, hm⟩
      · split at h
        · cases h
        · cases h
          exact .inl ⟨rfl, by simp [ScriptError.kind, Cause.kind]⟩

end Store

namespace Machine

variable {world : World} {mode : Mode} {m : Machine} {e : ScriptError}

/-- Where an error comes from that the next step of a machine raises. -/
inductive Raises (world : World) (mode : Mode) (machine : Machine) : ScriptError → Prop where
  /-- The statement that comes next fails. -/
  | statement {program : Program} {statement : Statement} {e : ScriptError}
    (hn : machine.next? = some (program, statement)) (hl : e.line = statement.line)
    (hk : e.kind ≠ .malformed) : Raises world mode machine e
  /-- A call would have to wait in a run that may not. -/
  | suspension {program : Program} {name : String} {reference : Option String}
    {arguments : List Expr} {line : Line}
    (hc : machine.Calls program name reference arguments line) (hm : mode = .sync)
    (hw : world.suspends = true) : Raises world mode machine ⟨.suspended, none⟩
  /-- A call refers to a document with a syntax error, which is not in the library. -/
  | document {program : Program} {location : Location} {e : ScriptError}
    (hs : machine.Seeks world mode program location)
    (hf : machine.store.library.find? location.key = none)
    (hm : world.Misreads location (.error e)) (hk : e.kind = .malformed) :
    Raises world mode machine e

theorem Calls.raises {program : Program} {name : String} {reference : Option String}
    {arguments : List Expr} {line : Line} (hc : m.Calls program name reference arguments line)
    (h : (prepare world mode m.session m.store program name reference arguments line).1 =
      .error (.error e)) : Raises world mode m e := by
  simp only [prepare] at h
  split at h
  · rename_i hw
    obtain ⟨hm, hw⟩ := Bool.and_eq_true_iff.mp hw
    cases h
    exact .suspension hc (of_decide_eq_true hm) hw
  · split at h
    · rename_i hr
      cases h
      rcases Store.resolve_error_cases (congrArg Prod.fst hr) with
        ⟨hl, hk⟩ | ⟨location, hl, hf, hm⟩
      · exact .statement hc.next hl hk
      · exact .document ⟨name, reference, arguments, line, hc, hl⟩ hf hm hm.kind_eq
    · split at h
      · cases h
      · rename_i ha
        cases h
        obtain ⟨hl, hk⟩ := Result.isAt_mapM m.session.isAt_eval arguments _ ha
        exact .statement hc.next hl hk

theorem status_continueWith (m : Machine) (blocks : List (List Statement)) :
    (m.continueWith blocks).status = m.status := by
  obtain ⟨_, _, _ | ⟨_, _⟩, _⟩ := m <;> rfl

theorem eq_error_of_settle (hr : m.status = .running) {blocks : List (List Statement)}
    {result : Result Session} {failure : Failure}
    (h : (m.settle blocks result).status = .failed failure) : result = .error failure := by
  cases result with
  | ok session =>
    have hs : ({ m with session }.continueWith blocks).status = .failed failure := h
    rw [status_continueWith] at hs
    cases hr.symm.trans hs
  | error failure' =>
    cases h
    rfl

/-- A step that raises an error leaves everything but the store and the status as it is. -/
theorem raises_of_step (hr : m.status = .running)
    (h : (step world mode m).status = .failed (.error e)) :
    Raises world mode m e ∧
      ∃ store, step world mode m = (m.withStore store).fail (.error e) := by
  have ht := step_turn world mode m
  generalize step world mode m = after at ht h ⊢
  cases ht with
  | ended hs => exact absurd hr hs
  | finished => cases h
  | returned => cases hr.symm.trans h
  | closed =>
    rw [status_continueWith] at h
    cases hr.symm.trans h
  | @executed program function statement later outer rest hs ha =>
    have hn : m.next? = some (program, statement) := by rw [next?, ha]
    cases statement with
    | stop line => cases hr.symm.trans h
    | cond condition body line =>
      simp only [execute] at h ⊢
      split at h
      · rw [status_continueWith] at h
        cases hr.symm.trans h
      · rename_i he
        cases h
        obtain ⟨hl, hk⟩ := m.session.isAt_eval condition _ he
        exact ⟨.statement hn hl hk, m.store, rfl⟩
    | call name reference arguments line =>
      simp only [execute, call] at h ⊢
      rcases hp : prepare world mode m.session m.store program name reference arguments line with
        ⟨failure | ⟨target, callee, args⟩, store⟩
      · rw [hp] at h
        cases h
        exact ⟨Calls.raises ⟨hr, hn⟩ (congrArg Prod.fst hp), store, rfl⟩
      · rw [hp] at h
        dsimp only at h
        split at h
        · cases hr.symm.trans h
        · rw [enter, note] at h
          have hs := (status_continueWith { m with store } (later :: outer)).symm.trans h
          cases hr.symm.trans hs
    | print | assign | declare | input =>
      have he := eq_error_of_settle hr h
      obtain ⟨hl, hk⟩ := m.session.isAt_perform _ _ he
      refine ⟨.statement hn hl hk, m.store, ?_⟩
      simp only [execute, he]
      rfl

/-- A run that has ended has made a last step. -/
theorem exists_last_step (hr : m.status = .running) {n : Nat}
    (h : (run world mode n m).status ≠ .running) :
    ∃ k < n, (run world mode k m).status = .running ∧
      run world mode n m = step world mode (run world mode k m) := by
  induction n with
  | zero => exact absurd hr h
  | succ n ih =>
    by_cases hn : (run world mode n m).status = .running
    · exact ⟨n, Nat.lt_succ_self n, hn, run_succ world mode n m⟩
    · obtain ⟨k, hk, hs, he⟩ := ih hn
      refine ⟨k, Nat.lt_succ_of_lt hk, hs, ?_⟩
      rw [run_of_ended hn (Nat.le_succ n), he]

theorem eq_failed_of_failure? {failure : Failure} (h : m.failure? = some failure) :
    m.status = .failed failure := by
  unfold failure? at h
  split at h
  · cases h
    assumption
  · cases h

/-- A run that ends in an error has no function to begin with, or it ends where the error is raised:
by the statement that comes next in the innermost invocation, whose line the error has, by a call
that must not wait, or by a syntax error in a document that is loaded. -/
theorem error_is_of_next_statement (world : World) (mode : Mode) (program : Program)
    (entry : String) (args : List Value) (session : Session) (store : Store) {n : Nat}
    {e : ScriptError} :
    let started := start program entry args session store
    (run world mode n started).failure? = some (.error e) →
      program.find? entry = none ∧ e = ⟨.noEntry entry, none⟩ ∨
        ∃ k < n, (run world mode k started).status = .running ∧
          Raises world mode (run world mode k started) e ∧
          ∃ store, run world mode n started =
            ((run world mode k started).withStore store).fail (.error e) := by
  intro started h
  have hs := eq_failed_of_failure? h
  cases hf : program.find? entry with
  | none =>
    left
    have he : started = fail ⟨session, store, [], .running⟩ ((Cause.noEntry entry).failure none) :=
      start_noEntry hf
    have hr : (run world mode 0 started).status ≠ .running := by
      simp [run, he, fail]
    rw [run_of_ended hr (Nat.zero_le n), run, he] at hs
    cases hs
    exact ⟨rfl, rfl⟩
  | some function =>
    right
    have hr : started.status = .running := by
      unfold started start
      rw [hf]
      rfl
    have hn : (run world mode n started).status ≠ .running := by
      simp [hs]
    obtain ⟨k, hk, hrunning, he⟩ := exists_last_step hr hn
    rw [he] at hs ⊢
    exact ⟨k, hk, hrunning, raises_of_step hrunning hs⟩

section Example

/-- The condition of a block is true, and the value of an assignment in it is a call. -/
def guarded : List Statement :=
  [.assign "x" none (.unary .not (.binary (.operator .add) (.literal (.number (.int 1)) none)
    (.call (.variableName "f") []))) (some 9)]

/-- A document with a call that is not the last statement of its block. -/
def guarding : Program where
  functions := [⟨"main", [], [.call "g" none [] (some 3),
      .print (.expr (.literal (.bool true) none)) (some 4)]⟩,
    ⟨"g", [], [.cond (.literal (.bool true) none) guarded (some 8)]⟩]
  origin := none

def guardStarted : Machine := start guarding "main" [] (.start [] none) ⟨.empty, []⟩

/-- The error has the line of the assignment, not that of the block around it or of the call. -/
theorem error_in_called_block :
    (run barren .async 3 guardStarted).failure? = some (.error ⟨.callExpression "f", some 9⟩) ∧
      ∃ k < 3, (run barren .async k guardStarted).status = .running ∧
        Raises barren .async (run barren .async k guardStarted) ⟨.callExpression "f", some 9⟩ ∧
        ∃ store, run barren .async 3 guardStarted =
          ((run barren .async k guardStarted).withStore store).fail
            (.error ⟨.callExpression "f", some 9⟩) := by
  have h : (run barren .async 3 guardStarted).failure? =
      some (.error ⟨.callExpression "f", some 9⟩) := rfl
  refine ⟨h, (error_is_of_next_statement _ _ _ _ _ _ _ h).resolve_left ?_⟩
  rintro ⟨-, he⟩
  cases he

end Example

end Machine

end DocScript
