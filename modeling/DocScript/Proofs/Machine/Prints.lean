import DocScript.Proofs.Machine.Holdings
import DocScript.Proofs.Machine.Stores
import DocScript.Script.Runner

/-! # What a run prints

The output of a machine grows by what its steps print. A sink that is given each value as it is
printed has been given just these values in order, at any time, and a run comes to an end with the
first value that its sink refuses.
-/

namespace DocScript

namespace Session

variable {session session' : Session} {name : String} {value : Value} {line : Line}

theorem printed_declare (h : session.declare name value = .ok session') :
    session'.printed = session.printed := by
  unfold declare at h
  split at h <;> cases h
  rfl

theorem printed_set (h : session.set name value line = .ok session') :
    session'.printed = session.printed := by
  unfold set at h
  split at h
  · split at h <;> cases h
    rfl
  · cases h

theorem printed_read (h : session.read = .ok (value, session')) :
    session'.printed = session.printed := by
  obtain ⟨_, _, inputs, _ | provider⟩ := session
  · cases inputs <;> cases h <;> rfl
  · obtain ⟨_, -, h⟩ := Result.map_eq_ok.mp h
    cases h
    rfl

theorem printed_assign {op : Option Compound} {e : Expr}
    (h : session.assign name op e line = .ok session') : session'.printed = session.printed := by
  simp only [assign, Result.bind_eq_ok] at h
  obtain ⟨value, -, -, -, h⟩ := h
  cases op with
  | none => exact printed_set h
  | some op =>
    obtain ⟨result, -, h⟩ := Result.bind_eq_ok.mp h
    exact printed_set h

end Session

/-- Whether a sink takes all of some values, from a state to another one. -/
inductive Sink.Takes {σ : Type} (sink : Sink σ) : σ → List Value → σ → Prop
  | nil (state : σ) : Takes sink state [] state
  | cons {state next after : σ} {value : Value} {rest : List Value}
    (head : sink state value = (next, none)) (tail : Takes sink next rest after) :
    Takes sink state (value :: rest) after

namespace Machine

variable {σ : Type} {world : World} {mode : Mode} {m : Machine}

theorem printed_settle {result : Result Session}
    (h : ∀ session, result = .ok session → session.printed = m.session.printed)
    (blocks : List (List Statement)) :
    (m.settle blocks result).session.printed = m.session.printed := by
  cases result with
  | error failure => rfl
  | ok session =>
    rw [settle, session_continueWith]
    exact h session rfl

theorem printed_call (caller : Activation) (name : String) (reference : Option String)
    (arguments : List Expr) (line : Line) (later : List Statement)
    (outer : List (List Statement)) :
    (call world mode m caller name reference arguments line later outer).session.printed =
      m.session.printed := by
  unfold call
  split
  · rfl
  · dsimp only
    split
    · rfl
    · rw [enter, note, Session.push, session_continueWith]

/-- A step adds what it prints to the output. -/
theorem printed_step (world : World) (mode : Mode) (m : Machine) :
    (step world mode m).session.printed = m.printing?.toList ++ m.session.printed := by
  by_cases hr : m.status = .running
  · obtain ⟨session, store, _ | ⟨⟨program, name, blocks⟩, rest⟩, status⟩ := m <;> subst hr
    · rfl
    · match blocks with
      | [] => rfl
      | [] :: _ => rfl
      | (.stop _ :: _) :: _ => rfl
      | (.call .. :: _) :: _ => exact printed_call ..
      | (.cond condition body line :: later) :: outer =>
        simp only [step, advance, execute]
        split
        · rw [session_continueWith]
          rfl
        · rfl
      | (.print content line :: later) :: outer =>
        simp only [step, advance, execute, printing?, next?, Session.perform]
        cases session.evalPrinted content line with
        | ok value => rfl
        | error failure => rfl
      | (.assign .. :: later) :: outer =>
        exact printed_settle (fun _ => Session.printed_assign) (later :: outer)
      | (.declare name value line :: later) :: outer =>
        apply printed_settle
        intro session' h
        obtain ⟨value, -, h⟩ := Result.bind_eq_ok.mp h
        exact Session.printed_declare (Result.ofFault_eq_ok.mp h)
      | (.input name line :: later) :: outer =>
        apply printed_settle
        intro session' h
        obtain ⟨read, hr, h⟩ := Result.bind_eq_ok.mp (Result.ofFault_eq_ok.mp h)
        exact (Session.printed_declare h).trans (Session.printed_read hr)
  · have hp : m.printing? = none := by
      unfold printing?
      split
      · exact absurd ‹_› hr
      · rfl
    rw [step_of_ended hr, hp]
    rfl

/-- The values that some steps print, in order. -/
def prints (world : World) (mode : Mode) : Nat → Machine → List Value
  | 0, _ => []
  | n + 1, machine => machine.printing?.toList ++ prints world mode n (step world mode machine)

theorem output_run (world : World) (mode : Mode) (n : Nat) (m : Machine) :
    (run world mode n m).output = m.output ++ prints world mode n m := by
  rw [run_eq_iterate]
  induction n generalizing m with
  | zero => exact (List.append_nil m.output).symm
  | succ n ih =>
    have ho : (step world mode m).output = m.output ++ m.printing?.toList := by
      simp only [output, Session.output, printed_step, List.reverse_append]
      cases m.printing? <;> rfl
    rw [Function.iterate_succ_apply, ih, ho, prints, List.append_assoc]

theorem prints_of_ended (h : m.status ≠ .running) (n : Nat) : prints world mode n m = [] := by
  have ho := output_run world mode n m
  have hr : run world mode n m = m := by
    rw [run_eq_iterate]
    exact iterate_step_of_ended h n
  rw [hr] at ho
  exact List.self_eq_append_right.mp ho

/-- What a run with a sink comes to: to what it comes to without one if the sink takes all that is
printed, and else to a failure at the first value that the sink refuses. -/
inductive RunsTo (sink : Sink σ) (world : World) (mode : Mode) (n : Nat) (m : Machine) (state : σ) :
    Machine × σ → Prop
  | taken {after : σ} (h : sink.Takes state (prints world mode n m) after) :
    RunsTo sink world mode n m state (run world mode n m, after)
  | refused {k : Nat} {value : Value} {before after : σ} {fault : Fault} (hk : k < n)
    (hp : (run world mode k m).printing? = some value)
    (ht : sink.Takes state (prints world mode k m) before)
    (hs : sink before value = (after, some fault)) :
    RunsTo sink world mode n m state ((run world mode (k + 1) m).fail (.fault fault), after)

variable {sink : Sink σ} {state next : σ} {n : Nat} {result : Machine × σ}

/-- A step that prints nothing, or a value that the sink takes, comes before such a run. -/
theorem RunsTo.step (hr : m.isRunning = true)
    (hs : ∀ values after, sink.Takes next values after →
      sink.Takes state (m.printing?.toList ++ values) after)
    (h : RunsTo sink world mode n (Machine.step world mode m) next result) :
    RunsTo sink world mode (n + 1) m state result := by
  have hrun (k : Nat) :
      run world mode k (Machine.step world mode m) = run world mode (k + 1) m := by
    rw [run, if_pos hr]
  cases h with
  | taken h =>
    rw [hrun]
    exact .taken (hs _ _ h)
  | refused hk hp ht hf =>
    rw [hrun] at hp ⊢
    exact .refused (Nat.succ_lt_succ hk) hp (hs _ _ ht) hf

theorem runTo_runs (sink : Sink σ) (world : World) (mode : Mode) (n : Nat) (m : Machine)
    (state : σ) : RunsTo sink world mode n m state (runTo sink world mode n m state) := by
  induction n generalizing m state with
  | zero => exact .taken (.nil state)
  | succ n ih =>
    rw [runTo]
    by_cases hr : m.isRunning = true
    · rw [if_pos hr]
      dsimp only
      cases hp : m.printing? with
      | none => exact (ih _ _).step hr fun _ _ h => by rwa [hp]
      | some value =>
        dsimp only
        rcases hs : sink state value with ⟨next, _ | fault⟩
        · exact (ih _ _).step hr fun _ _ h => by rw [hp]; exact .cons hs h
        · have hone : run world mode 1 m = Machine.step world mode m := by rw [run, if_pos hr, run]
          rw [← hone]
          exact .refused (Nat.succ_pos n) hp (.nil state) hs
    · have hn : prints world mode (n + 1) m = [] := prints_of_ended (mt isRunning_iff.mpr hr) _
      have hrun : run world mode (n + 1) m = m := by rw [run, if_neg hr]
      have ht : sink.Takes state (prints world mode (n + 1) m) state := by
        rw [hn]
        exact .nil state
      have hruns : RunsTo sink world mode (n + 1) m state (run world mode (n + 1) m, state) :=
        .taken ht
      rw [if_neg hr]
      rwa [hrun] at hruns

end Machine

end DocScript
