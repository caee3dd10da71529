import DocScript.Proofs.Expr.Segments
import DocScript.Proofs.Machine.Integers
import DocScript.Proofs.Machine.Prints
import DocScript.Proofs.Value.Writable

/-! # What runners report

A runner comes to what the interpretation of a script comes to, and reports just that. The values
that were printed, what the host was given and the effects on record are the same values in the same
order, however the script ends. A report can be written if no value over the limit on conversions is
printed or handed to a function, and there is none in a run unless the host hands it in.
-/

namespace DocScript

namespace Store

variable {world : World} {mode : Mode} {earlier : List Event}

/-- A store in which some events, the last one first, have been noted before all others. -/
abbrev after (store : Store) (earlier : List Event) : Store := store.renote (· ++ earlier)

theorem requests_after (store : Store) (earlier : List Event) :
    (store.after earlier).requests =
      (⟨store.library, earlier⟩ : Store).requests ++ store.requests := by
  simp only [requests, log, renote, List.reverse_append, List.filterMap_append]

end Store

namespace Machine

variable {world : World} {mode : Mode} {m twin : Machine} {earlier : List Event}

/-- Whether two machines have come to the same, with the same requests and the same library. -/
structure Agrees (machine other : Machine) : Prop where
  session : machine.session = other.session
  activations : machine.activations = other.activations
  status : machine.status = other.status
  store : other.store.Quiet machine.store

theorem Twins.agrees (h : Twins (fun store store' => store' = store.after earlier) m twin)
    {library : Library} (he : (⟨library, earlier⟩ : Store).requests = []) : twin.Agrees m := by
  have hs := h.same
  constructor
  · rw [hs, withStore]
  · rw [hs, withStore]
  · rw [hs, withStore]
  · rw [h.stores]
    have hr := m.store.requests_after earlier
    have he : (⟨m.store.library, earlier⟩ : Store).requests = [] := he
    rw [he, List.nil_append] at hr
    exact ⟨hr, rfl⟩

namespace Agrees

theorem symm (h : m.Agrees twin) : twin.Agrees m where
  session := h.session.symm
  activations := h.activations.symm
  status := h.status.symm
  store := ⟨h.store.requests.symm, h.store.library.symm⟩

theorem isRunning_eq (h : m.Agrees twin) : m.isRunning = twin.isRunning := by
  rw [isRunning, isRunning, h.status]

theorem failure?_eq (h : m.Agrees twin) : m.failure? = twin.failure? := by
  rw [failure?, failure?, h.status]

theorem output_eq (h : m.Agrees twin) : m.output = twin.output := by
  rw [output, output, h.session]

theorem printing?_eq (h : m.Agrees twin) : m.printing? = twin.printing? := by
  rw [printing?, printing?, h.status, next?, next?, h.activations, h.session]

theorem overflow (h : m.Agrees twin) (reason? : Option String) :
    (m.overflow reason?).Agrees (twin.overflow reason?) := by
  cases reason? with
  | none => exact h
  | some reason =>
    simp only [Machine.overflow, h.isRunning_eq]
    split
    · exact ⟨h.session, h.activations, rfl, h.store⟩
    · exact h

end Agrees

/-- A machine that has failed before its first step. -/
def unstarted (session : Session) (library : Library) (failure : Failure) : Machine :=
  ⟨session, ⟨library, []⟩, [], .failed failure⟩

theorem holds_unstarted {P : Value → Prop} {session : Session} (hs : session.Holds P)
    {library : Library} (hl : ∀ entry ∈ library.entries, entry.2.Holds P) (failure : Failure) :
    (unstarted session library failure).Holds P :=
  ⟨hs, nofun, hl, nofun⟩

end Machine

/-! ## Interpretations -/

namespace Submission

/-- The program of what a host submits, with references resolved against a base, if there is one. -/
def program (submission : Submission) (base : Except Fault String) : Result Program := do
  let program ← (Program.parse submission.text).program
  return program.withOrigin (some (← Result.ofFault base))

theorem program_eq_ok_iff {submission : Submission} {base : Except Fault String}
    {program : Program} : submission.program base = .ok program ↔
      ∃ parsed directory, (Program.parse submission.text).program = .ok parsed ∧
        base = .ok directory ∧ program = parsed.withOrigin (some directory) := by
  simp only [Submission.program, Result.bind_eq_ok, Result.ofFault_eq_ok]
  constructor
  · rintro ⟨parsed, hp, directory, hd, ⟨⟩⟩
    exact ⟨parsed, directory, hp, hd, rfl⟩
  · rintro ⟨parsed, directory, hp, hd, rfl⟩
    exact ⟨parsed, hp, directory, hd, rfl⟩

/-- Without a base there is a fault, so an error is one of reading. -/
theorem parse_eq_error_of_program {submission : Submission} {base : Except Fault String}
    {e : ScriptError} (h : submission.program base = .error (.error e)) :
    (Program.parse submission.text).program = .error (.error e) := by
  unfold Submission.program at h
  cases hp : (Program.parse submission.text).program with
  | error failure =>
    rw [hp] at h
    exact h
  | ok parsed =>
    rw [hp] at h
    cases base <;> cases h

/-- A machine about to run this program, or one that has failed because there is none, or no room
for reading it. -/
def ready (submission : Submission) (overflow : Overflow) (library : Library)
    (base : Except Fault String) : Machine :=
  match overflow with
  | .reading reason => .unstarted submission.session library (.fault (.overflow reason))
  | _ =>
    match submission.program base with
    | .ok program =>
      .start program submission.entry submission.args submission.session ⟨library, []⟩
    | .error failure => .unstarted submission.session library failure

/-- Whether all values that a host hands in have a property. -/
structure Holds (P : Value → Prop) (submission : Submission) : Prop where
  args : ∀ value ∈ submission.args, P value
  inputs : ∀ value ∈ submission.inputs, P value
  provider : ∀ source ∈ submission.provider, ∀ n value, source.answer n = .ok value → P value

variable {P : Value → Prop} {submission : Submission} {library : Library}

theorem Holds.ready (h : submission.Holds P) (hP : Value.Hereditary P)
    (hl : ∀ entry ∈ library.entries, entry.2.Holds P) (overflow : Overflow)
    (base : Except Fault String) : (submission.ready overflow library base).Holds P := by
  have hs : submission.session.Holds P := ⟨nofun, nofun, h.inputs, h.provider⟩
  unfold Submission.ready
  split
  · exact Machine.holds_unstarted hs hl _
  · split
    · rename_i hp
      obtain ⟨parsed, directory, hc, -, rfl⟩ := program_eq_ok_iff.mp hp
      have hc : (parsed.withOrigin (some directory)).IsCompiled := ⟨_, parsed, hc, rfl⟩
      have hstore : ∀ entry ∈ (⟨library, []⟩ : Store).library.entries, entry.2.Holds P := hl
      exact Machine.holds_start hP (hc.holds hP) _ h.args hs hstore
    · exact Machine.holds_unstarted hs hl _

end Submission

/-! ## Reports -/

namespace Runner

variable {σ : Type} {sink : Sink σ}

end Runner

/-- A sink that takes all values. -/
def Sink.total {σ : Type} (receive : σ → Value → σ) : Sink σ := fun state value =>
  (receive state value, none)

namespace Runner

variable {σ : Type} (runner : Runner) (overflow : Overflow) (world : World) (library : Library)
  (steps : Nat) (submission : Submission)

variable {runner overflow world library steps submission}

theorem handle_eq {sink : Sink σ} {host : σ} {machine : Machine} {record : Record σ}
    (h : (runner.started overflow world library submission).runTo (Record.print sink) world .async
      (overflow.limit steps) ⟨[], host⟩ = (machine, record)) :
    let ended := machine.overflow (overflow.reason? steps)
    let next := { runner with session := some ended.session }
    runner.handle overflow sink world library steps submission host =
      ⟨next, ended, next.outcome? submission.text ended.status record.effects, record.host⟩ := by
  simp only [handle, h]

section Example

/-- An input once, and none after it. -/
def onlyOnce : Provider where
  answer
    | 0 => .ok (.number (.int (10 ^ 20)))
    | _ => .error (.refused "closed")
  taken := 0

/-- A script that prints the first one of two inputs. -/
def asking : Submission where
  text := "# f\n\n> x\n\n**\x7bx\x7d**\n\n> x"
  entry := "f"
  args := []
  inputs := []
  provider := some onlyOnce

end Example

end Runner

end DocScript
