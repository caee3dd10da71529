import DocScript.Proofs.Machine.Failures
import DocScript.Proofs.Script.Outcomes
import DocScript.Proofs.Text.Lines

/-! # The excerpts of reports

An excerpt shows the lines around that of an error, and marks this one. It counts lines in a way of
its own, and takes them from the script whatever document the error is about.
-/

namespace DocScript

open Markdown (lineCount IsLineOf)

namespace Report

variable {lines other shown : List String} {n : Nat} {text : String}

/-- A line of an excerpt with its mark and its number. -/
def numberedLine (mark : String) (width number : Nat) (text : String) : String :=
  mark ++ " " ++ padLeft width (toString number) ++ " | " ++ text

def isMarked (line : String) : Bool := line.toList.head? = some '>'

/-- The lines around one, each with its number. -/
def around (lines : List String) (n : Nat) : List (String × Nat) :=
  ((lines.zipIdx 1).take (n + radius)).drop (n - radius - 1)

/-- Whether one line of an excerpt is marked, and it is the one with a number. -/
def Marks (lines : List String) (n : Nat) (shown : List String) : Prop :=
  ∃ width text, lines[n - 1]? = some text ∧
    shown.filter isMarked = [numberedLine ">" width n text]

/-- Whether an excerpt shows the lines around one by their numbers, and marks this one. -/
structure IsExcerpt (lines : List String) (n : Nat) (shown : List String) : Prop where
  marked : Marks lines n shown
  numbered : ∃ width, shown = (around lines n).map fun p =>
    numberedLine (if p.2 = n then ">" else " ") width p.2 p.1

theorem isMarked_excerptLine (width n number : Nat) (text : String) :
    isMarked (excerptLine width n number text) = decide (number = n) := by
  by_cases h : number = n <;> simp [isMarked, excerptLine, h]

theorem excerptAt_eq_map (h1 : 1 ≤ n) (hn : n ≤ lines.length) :
    excerptAt lines n = (around lines n).map fun p =>
      excerptLine (toString (min lines.length (n + radius))).length n p.2 p.1 := by
  have ht : lines.take (min lines.length (n + radius)) = lines.take (n + radius) := by
    rw [← List.take_take, List.take_of_length_le (List.length_take_le' _ _)]
  rw [excerptAt, if_pos ⟨h1, hn⟩]
  dsimp only
  rw [ht]
  apply List.ext_getElem?
  intro i
  simp only [around, List.getElem?_mapIdx, List.getElem?_map, List.getElem?_drop,
    List.getElem?_take]
  split
  · rw [List.getElem?_zipIdx]
    cases lines[n - radius - 1 + i]? with
    | none => rfl
    | some text => simp [Nat.add_comm]
  · rfl

/-- Just one of the lines around one has its number. -/
theorem around_eq (h1 : 1 ≤ n) (h : lines[n - 1]? = some text) :
    ∃ before after, around lines n = before ++ (text, n) :: after ∧ (∀ p ∈ before, p.2 ≠ n) ∧
      ∀ p ∈ after, p.2 ≠ n := by
  obtain ⟨front, back, rfl, hl⟩ : ∃ front back, lines = front ++ text :: back ∧
      front.length = n - 1 := by
    obtain ⟨hn, rfl⟩ := List.getElem?_eq_some_iff.mp h
    refine ⟨lines.take (n - 1), lines.drop (n - 1 + 1), ?_, ?_⟩
    · rw [← List.drop_eq_getElem_cons hn, List.take_append_drop]
    · rw [List.length_take, Nat.min_eq_left (Nat.le_of_lt hn)]
  have hf : (front.zipIdx 1).length = n - 1 := by rw [List.length_zipIdx, hl]
  have hn : 1 + front.length = n := by omega
  obtain ⟨m, hm⟩ : ∃ m, n + radius - (n - 1) = m + 1 := ⟨n + radius - n, by omega⟩
  refine ⟨(front.zipIdx 1).drop (n - radius - 1), (back.zipIdx (n + 1)).take m, ?_, ?_, ?_⟩
  · rw [around, List.zipIdx_append, List.zipIdx_cons, hn, List.take_append,
      List.take_of_length_le (by omega), hf, hm, List.take_succ_cons,
      List.drop_append_of_le_length (by omega)]
  · intro p hp
    have := List.snd_lt_of_mem_zipIdx (List.mem_of_mem_drop hp)
    omega
  · intro p hp
    have := List.le_snd_of_mem_zipIdx (List.mem_of_mem_take hp)
    omega

/-- The lines that are shown around a line make an excerpt. -/
theorem isExcerpt_excerptAt (h1 : 1 ≤ n) (hn : n ≤ lines.length) :
    IsExcerpt lines n (excerptAt lines n) := by
  rw [excerptAt_eq_map h1 hn]
  generalize (toString (min lines.length (n + radius))).length = width
  have ht : lines[n - 1]? = some lines[n - 1] := List.getElem?_eq_getElem (by omega)
  obtain ⟨before, after, he, hb, ha⟩ := around_eq h1 ht
  have hm : isMarked ∘ (fun p : String × Nat => excerptLine width n p.2 p.1) =
      fun p => decide (p.2 = n) := funext fun p => isMarked_excerptLine width n p.2 p.1
  refine ⟨⟨width, _, ht, ?_⟩, width, rfl⟩
  rw [List.filter_map, hm, he, List.filter_append,
    List.filter_eq_nil_iff.mpr fun p hp => by simpa using hb p hp,
    List.filter_cons_of_pos (by simp),
    List.filter_eq_nil_iff.mpr fun p hp => by simpa using ha p hp]
  simp [excerptLine, numberedLine]

theorem take_zipIdx (lines : List String) (start m : Nat) :
    (lines.zipIdx start).take m = (lines.take m).zipIdx start := by
  induction lines generalizing start m with
  | nil => simp
  | cons line rest ih => cases m <;> simp [ih]

theorem Marks.of_take (h1 : 1 ≤ n) (hs : Marks lines n shown)
    (h : lines.take n = other.take n) : Marks other n shown := by
  obtain ⟨width, text, ht, hf⟩ := hs
  have hi : n - 1 < n := by omega
  refine ⟨width, text, ?_, hf⟩
  rw [← List.getElem?_take_of_lt hi, ← h, List.getElem?_take_of_lt hi, ht]

theorem not_marks {line : String} (ht : lines[n - 1]? = some text)
    (hf : shown.filter isMarked = [line]) (hn : ¬text.toList <:+ line.toList) :
    ¬Marks lines n shown := by
  rintro ⟨width, other, ho, hm⟩
  cases ht.symm.trans ho
  rw [hf] at hm
  apply hn
  rw [(List.cons.inj hm).1, numberedLine, String.toList_append]
  exact List.suffix_append _ _

/-- An excerpt depends on no line beyond those that it can show. -/
theorem IsExcerpt.of_take (h1 : 1 ≤ n) (hs : IsExcerpt lines n shown)
    (h : lines.take (n + radius) = other.take (n + radius)) : IsExcerpt other n shown := by
  have ht : lines.take n = other.take n := by
    have hm := congrArg (List.take n) h
    rwa [List.take_take, List.take_take, Nat.min_eq_left (Nat.le_add_right n radius)] at hm
  refine ⟨hs.marked.of_take h1 ht, ?_⟩
  rw [around, take_zipIdx, ← h, ← take_zipIdx]
  exact hs.numbered

theorem excerpt_eq_nil {text : String} (h : (Text.lines text).length < n) :
    excerpt text (some n) = [] :=
  if_neg fun hb => Nat.not_le_of_lt h hb.2

end Report

namespace Runner

variable {σ : Type} {runner : Runner} {overflow : Overflow} {sink : Sink σ} {world : World}
  {library : Library} {steps : Nat} {submission : Submission} {host : σ} {outcome : Outcome}
  {n : Int}

/-- The machine that runs a runner's script, unless there is no room for reading it. -/
abbrev begun (runner : Runner) (world : World) (library : Library) (submission : Submission) :
    Machine :=
  (runner.script submission).start world submission.session library

/-- Only the script itself ends a run with an error. -/
theorem status_of_error {m : Machine} {record : Record σ} {result : Machine × Record σ}
    (h : Machine.RunsTo (Record.print sink) world .async (overflow.limit steps) m record result)
    {e : ScriptError}
    (he : (result.1.overflow (overflow.reason? steps)).status = .failed (.error e)) :
    (Machine.run world .async (overflow.limit steps) m).status = .failed (.error e) := by
  have hs : result.1.status = .failed (.error e) := by
    cases hr : overflow.reason? steps with
    | none => rwa [hr] at he
    | some reason =>
      rw [hr, Machine.overflow] at he
      split at he
      · cases he
      · exact he
  cases h with
  | taken => exact hs
  | refused => cases hs

theorem started_eq_begun {e : ScriptError} {n : Nat}
    (h : (Machine.run world .async n
      (runner.started overflow world library submission)).status = .failed (.error e)) :
    runner.started overflow world library submission = runner.begun world library submission := by
  cases overflow with
  | never | step => rfl
  | reading reason =>
    rw [Machine.run_of_ended (n := 0) (by simp [Machine.run, started]) (Nat.zero_le n)] at h
    cases h

/-- An outcome with a line that the host has not raised reports an error of a document, and its
context begins with an excerpt. -/
theorem exists_error
    (ho : (runner.handle overflow sink world library steps submission host).outcome =
      some (.ok outcome))
    (hh : ∀ e, (runner.handle overflow sink world library steps submission host).machine.failure? ≠
      some (.fault (.raised e)))
    (hn : outcome.line = some n) :
    ∃ e frames stack, e.line = some n ∧ outcome.message = some (Report.messageOf (.error e)) ∧
      (Machine.run world .async (overflow.limit steps)
        (runner.begun world library submission)).status = .failed (.error e) ∧
      Report.stackLines frames = .ok stack ∧
      outcome.context = Report.joinLines (Report.excerpt submission.text (some n) ++ stack) := by
  have hruns := Machine.runTo_runs (Record.print sink) world .async (overflow.limit steps)
    (runner.started overflow world library submission) ⟨[], host⟩
  rcases hrun : (runner.started overflow world library submission).runTo (Record.print sink) world
    .async (overflow.limit steps) ⟨[], host⟩ with ⟨machine, record⟩
  rw [hrun] at hruns
  have hhandled : runner.handle overflow sink world library steps submission host = _ :=
    handle_eq hrun
  rw [hhandled] at ho hh
  simp only [outcome?] at ho
  split at ho
  · cases ho
    cases hn
  · rename_i session failure hr hs
    obtain ⟨report, hreport, hout⟩ := Result.map_eq_ok.mp (Option.some.inj ho)
    obtain ⟨stack, hstack, rfl⟩ := Result.map_eq_ok.mp hreport
    subst hout
    cases failure with
    | fault fault =>
      cases fault with
      | raised e => exact absurd (by rw [Machine.failure?, hs]) (hh e)
      | _ => cases hn
    | error e =>
      have hl : e.line = some n := hn
      have he := status_of_error hruns hs
      refine ⟨e, session.frames, stack, hl, rfl, started_eq_begun he ▸ he, hstack, ?_⟩
      show Report.joinLines (Report.excerpt submission.text e.line ++ _) = _
      rw [hl]
  · cases ho

/-- The error of a script is one of reading it or of the run of its program. -/
theorem error_cases {e : ScriptError} {steps : Nat}
    (h : (Machine.run world .async steps (runner.begun world library submission)).status =
      .failed (.error e)) :
    (Program.parse submission.text).program = .error (.error e) ∨
      ∃ program directory store, (Program.parse submission.text).program = .ok program ∧
        Location.base world runner.directory = .ok directory ∧ store.library = library ∧
        runner.begun world library submission =
          Machine.start (program.withOrigin (some directory)) submission.entry submission.args
            submission.session store := by
  have hp : (runner.script submission).program world =
    submission.program (Location.base world runner.directory) := rfl
  unfold begun Script.start at h ⊢
  rw [hp] at h ⊢
  have hq := Store.quiet_dropped ⟨library, []⟩ (Program.parse submission.text).dropped
  cases hprogram : submission.program (Location.base world runner.directory) with
  | ok program =>
    obtain ⟨parsed, directory, hparse, hd, rfl⟩ := Submission.program_eq_ok_iff.mp hprogram
    exact .inr ⟨parsed, directory, _, hparse, hd, hq.library, rfl⟩
  | error failure =>
    rw [hprogram] at h
    dsimp only at h
    rw [Machine.run_of_ended (n := 0) (by simp [Machine.run]) (Nat.zero_le steps)] at h
    cases h
    exact .inl (Submission.parse_eq_error_of_program hprogram)

/-- The error of a script that refers to no other document has a line of the script. -/
theorem isLineOf_error
    (hc : ∀ program, (Program.parse submission.text).program = .ok program →
      program.IsSelfContained) {e : ScriptError} {steps : Nat}
    (h : (Machine.run world .async steps (runner.begun world library submission)).status =
      .failed (.error e))
    (hl : e.line ≠ none) : IsLineOf (lineCount submission.text) e.line := by
  rcases error_cases h with hp | ⟨program, directory, store, hp, -, -, hs⟩
  · exact (Program.isPlaced_of_parse_error hp).2
  · have ho : (program.withOrigin (some directory)).IsOf submission.text := ⟨program, hp, rfl⟩
    rw [hs] at h
    exact Machine.isLineOf_of_isSelfContained ho (hc program hp) h hl

/-- If a script refers to no other document and fails with a line, and it is not the host that has
raised the error, this is a line of the script, and the excerpt shows the lines around the one of
this number and marks just this one, as excerpts count lines. So the marked line is the one that the
error is about if no character that ends a line of an excerpt occurs in the lines of the script up
to there, and the other lines that are shown have their numbers in the script if none occurs up to
the last of these. -/
theorem excerpt_marks_line
    (hc : ∀ program, (Program.parse submission.text).program = .ok program →
      program.IsSelfContained)
    (ho : (runner.handle overflow sink world library steps submission host).outcome =
      some (.ok outcome))
    (hh : ∀ e, (runner.handle overflow sink world library steps submission host).machine.failure? ≠
      some (.fault (.raised e)))
    (hn : outcome.line = some n) :
    ∃ k : Nat, n = k ∧ 1 ≤ k ∧ k ≤ lineCount submission.text ∧ ∃ shown frames stack,
      Report.stackLines frames = .ok stack ∧
      outcome.context = Report.joinLines (shown ++ stack) ∧
      Report.IsExcerpt (Text.lines submission.text) k shown ∧
      ((∀ line ∈ (Text.documentLines submission.text).take k,
          Text.Lacks Text.endsLine line.toList) →
        Report.Marks (Text.documentLines submission.text) k shown) ∧
      ((∀ line ∈ (Text.documentLines submission.text).take (k + Report.radius),
          Text.Lacks Text.endsLine line.toList) →
        Report.IsExcerpt (Text.documentLines submission.text) k shown) := by
  obtain ⟨e, frames, stack, hl, -, hs, hstack, hcontext⟩ := exists_error ho hh hn
  obtain ⟨k, h1, hk, he⟩ := isLineOf_error hc hs (by simp [hl])
  have hkn : n = k := Option.some.inj (hl.symm.trans he)
  subst hkn
  have hx : Report.IsExcerpt (Text.lines submission.text) k
      (Report.excerpt submission.text (some (k : Int))) :=
    Report.isExcerpt_excerptAt h1 (Text.le_length_lines hk)
  refine ⟨k, rfl, h1, hk, _, frames, stack, hstack, hcontext, hx, ?_, ?_⟩
  · intro hw
    exact hx.marked.of_take h1 ((Text.take_lines_eq_iff _ _).mpr hw)
  · intro hw
    exact hx.of_take h1 ((Text.take_lines_eq_iff _ _).mpr hw)

section Example

/-- A text whose first function is run, without arguments and inputs. -/
def alone (text : String) : Submission := ⟨text, "f", [], [], none⟩

def handleAlone (world : World) (library : Library) (text : String) : Handled Unit :=
  handle ⟨none, none⟩ .never (Sink.total fun _ _ => ()) world library 10 (alone text) ()

/-- The outcome that there is, if it can be written. -/
def outcomeAlone? (world : World) (library : Library) (text : String) : Option Outcome :=
  (handleAlone world library text).outcome.bind Except.toOption

theorem exists_outcome_of_line (world : World) (library : Library) (text : String)
    (h : ((outcomeAlone? world library text).map fun outcome => outcome.line) = some (some n)) :
    ∃ outcome, (handleAlone world library text).outcome = some (.ok outcome) ∧
      outcome.line = some n := by
  obtain ⟨outcome, ho, hn⟩ := Option.map_eq_some_iff.mp h
  obtain ⟨result, hr, ho⟩ := Option.bind_eq_some_iff.mp ho
  cases result with
  | error fault => cases ho
  | ok outcome' =>
    cases ho
    exact ⟨outcome, hr, hn⟩

/-- A machine that has failed with an error of a document has not failed by one of the host. -/
theorem not_raised_of_all {m : Machine}
    (h : m.failure?.all fun | .error _ => true | .fault _ => false) (e : ScriptError) :
    m.failure? ≠ some (.fault (.raised e)) := by
  intro hf
  rw [hf] at h
  cases h

theorem isSelfContained_of_all {text : String}
    (h : (Program.parse text).program.toOption.all fun program =>
      program.functions.all fun function =>
        (preorderAll 1 function.body).all fun p => p.1.reference?.isNone) :
    ∀ program, (Program.parse text).program = .ok program → program.IsSelfContained := by
  intro program hp function hf p hm
  rw [hp] at h
  exact Option.isNone_iff_eq_none.mp (List.all_eq_true.mp (List.all_eq_true.mp h function hf) p hm)

theorem lacks_of_all {lines : List String}
    (h : lines.all fun line => line.toList.all fun c => !Text.endsLine c) :
    ∀ line ∈ lines, Text.Lacks Text.endsLine line.toList := by
  intro line hl c hc
  simpa using List.all_eq_true.mp (List.all_eq_true.mp h line hl) c hc

/-- A document that assigns to a variable without a declaration. -/
def unassigned : String := "# f\n\nx=1"

/-- The assignment on the third line is marked. -/
theorem excerpt_marks_undeclared :
    ∃ outcome shown stack,
      (handleAlone Machine.barren .empty unassigned).outcome = some (.ok outcome) ∧
      outcome.line = some 3 ∧
      outcome.context = Report.joinLines (shown ++ stack) ∧
      Report.IsExcerpt (Text.documentLines unassigned) 3 shown := by
  obtain ⟨outcome, ho, hn⟩ := exists_outcome_of_line (n := 3) Machine.barren .empty unassigned
    (by decide +kernel)
  have hh := not_raised_of_all (m := (handleAlone Machine.barren .empty unassigned).machine)
    (by decide +kernel)
  obtain ⟨k, hk, -, -, shown, -, stack, -, hc, -, -, hx⟩ :=
    excerpt_marks_line (isSelfContained_of_all (by decide +kernel)) ho hh hn
  cases Int.ofNat.inj hk
  exact ⟨outcome, shown, stack, ho, hn, hc, hx (lacks_of_all (by decide +kernel))⟩

/-- A script with a line separator in its heading. -/
def separated : String := "# f\u2028\n\nx=1"

/-- The separator ends a line of the excerpt, but none of the script. So the blank line before the
assignment is marked. -/
theorem excerpt_misses_separated :
    (∀ program, (Program.parse separated).program = .ok program → program.IsSelfContained) ∧
    (outcomeAlone? Machine.barren .empty separated).map (fun o => (o.line, o.context)) =
      some (some 3, "  1 | # f\n  2 | \n> 3 | \n  4 | x=1\n" ++
        "Stack (most recent call last):\n  f()") ∧
    Text.documentLines separated = ["# f\u2028", "", "x=1"] ∧
    ¬Report.Marks (Text.documentLines separated) 3 (Report.excerpt separated (some 3)) := by
  have hd : Text.documentLines separated = ["# f\u2028", "", "x=1"] := by decide +kernel
  have hs : (Report.excerpt separated (some 3)).filter Report.isMarked = ["> 3 | "] := by
    decide +kernel
  refine ⟨isSelfContained_of_all (by decide +kernel), by decide +kernel, hd, ?_⟩
  rw [hd]
  exact Report.not_marks rfl hs (by decide)

end Example

/-- Whether a document can come into the run of a script: it is the script, its program is in the
library, or it is outside. -/
inductive IsWithin (world : World) (library : Library) (submission : Submission) :
    String → Prop where
  | script : IsWithin world library submission submission.text
  | kept {text : String} {entry : String × Program} (h : entry ∈ library.entries)
      (ho : entry.2.IsOf text) : IsWithin world library submission text
  | outside {text : String} {location : Location} (h : world.text? location = some text) :
      IsWithin world library submission text

/-- Whether a script ends in an error in the document with a text, when the script is read or at a
step of its run. -/
inductive FailsIn (runner : Runner) (world : World) (library : Library) (steps : Nat)
    (submission : Submission) : String → ScriptError → Prop where
  | reading {e : ScriptError} (h : (Program.parse submission.text).program = .error (.error e)) :
    FailsIn runner world library steps submission submission.text e
  | running {k : Nat} {text : String} {e : ScriptError} (hk : k < steps)
    (h : Machine.FailsIn world .async (Machine.run world .async k
      (runner.begun world library submission)) text e) :
    FailsIn runner world library steps submission text e

theorem FailsIn.isLineOf {text : String} {e : ScriptError}
    (h : runner.FailsIn world library steps submission text e) :
    IsLineOf (lineCount text) e.line := by
  cases h with
  | reading h => exact (Program.isPlaced_of_parse_error h).2
  | running hk h => exact h.isLineOf

theorem exists_failsIn (hd : ∀ entry ∈ library.entries, ∃ text, entry.2.IsOf text)
    {e : ScriptError}
    (h : (Machine.run world .async steps (runner.begun world library submission)).status =
      .failed (.error e))
    (hl : e.line ≠ none) :
    ∃ text, IsWithin world library submission text ∧
      runner.FailsIn world library steps submission text e := by
  rcases error_cases h with hp | ⟨program, directory, store, hp, -, rfl, hs⟩
  · exact ⟨_, .script, .reading hp⟩
  · have ho : (program.withOrigin (some directory)).IsOf submission.text := ⟨program, hp, rfl⟩
    have hkept : ∀ entry ∈ store.library.entries, ∃ text,
        IsWithin world store.library submission text ∧ entry.2.IsOf text := by
      intro entry he
      obtain ⟨text, ht⟩ := hd entry he
      exact ⟨text, .kept he ht, ht⟩
    have houtside : ∀ location text, world.text? location = some text →
        IsWithin world store.library submission text := fun _ _ => .outside
    rw [hs] at h
    obtain ⟨k, hk, text, ht, hf⟩ := Machine.exists_failsIn ho h hl .script hkept houtside
    exact ⟨text, ht, .running hk (hs ▸ hf)⟩

theorem FailsIn.mono {text : String} {e : ScriptError} {fewer : Nat} (hle : fewer ≤ steps)
    (h : runner.FailsIn world library fewer submission text e) :
    runner.FailsIn world library steps submission text e := by
  cases h with
  | reading h => exact .reading h
  | running hk h => exact .running (Nat.lt_of_lt_of_le hk hle) h

/-- If a script fails with a line, and it is not the host that has raised the error, this is a line
of the document in which it fails, which may be another one. The excerpt is of the script in any
case: it shows the line of this number in the script, if there is one, and is right if it is the
script that fails. -/
theorem excerpt_is_of_script (hd : ∀ entry ∈ library.entries, ∃ text, entry.2.IsOf text)
    (ho : (runner.handle overflow sink world library steps submission host).outcome =
      some (.ok outcome))
    (hh : ∀ e, (runner.handle overflow sink world library steps submission host).machine.failure? ≠
      some (.fault (.raised e)))
    (hn : outcome.line = some n) :
    ∃ (text : String) (e : ScriptError) (k : Nat), IsWithin world library submission text ∧
      runner.FailsIn world library steps submission text e ∧
      outcome.message = some (Report.messageOf (.error e)) ∧ e.line = some n ∧
      n = k ∧ 1 ≤ k ∧ k ≤ lineCount text ∧ ∃ shown frames stack,
      Report.stackLines frames = .ok stack ∧
      outcome.context = Report.joinLines (shown ++ stack) ∧
      (k ≤ (Text.lines submission.text).length →
        Report.IsExcerpt (Text.lines submission.text) k shown) ∧
      ((Text.lines submission.text).length < k → shown = []) ∧
      (text = submission.text → Report.IsExcerpt (Text.lines text) k shown) := by
  obtain ⟨e, frames, stack, hl, hm, hs, hstack, hcontext⟩ := exists_error ho hh hn
  obtain ⟨text, ht, hf⟩ := exists_failsIn hd hs (by simp [hl])
  obtain ⟨k, h1, hk, he⟩ := hf.isLineOf
  cases hl.symm.trans he
  refine ⟨text, e, k, ht, hf.mono (overflow.limit_le steps), hm, hl, rfl, h1, hk, _, frames,
    stack, hstack, hcontext, ?_, Report.excerpt_eq_nil, ?_⟩
  · exact Report.isExcerpt_excerptAt h1
  · rintro rfl
    exact Report.isExcerpt_excerptAt h1 (Text.le_length_lines hk)

section Example

/-- A document with an expression that is none on its third line. -/
def unreadable : String := "# f\n\nx=)"

/-- A world with this document. -/
def shelf : World where
  read path := if path = "/lib.md" then .ok unreadable else .error (.failed "missing")
  fetch _ := .error (.failed "missing")
  directory := .ok .root
  suspends := false

/-- A script with a declaration on its third line, and a call of a function in this document. -/
def importing : String := "# f\n\n- x=1\n\n[](lib.md#f)"

theorem eq_unreadable {location : Location} {text : String}
    (h : shelf.text? location = some text) : text = unreadable := by
  cases location with
  | remote url => cases h
  | file path =>
    simp only [World.text?, shelf] at h
    split at h <;> cases h
    rfl

/-- The script before its call. -/
def calling : Machine :=
  Machine.run shelf .async 1 (begun ⟨none, none⟩ shelf .empty (alone importing))

/-- A step that fails with a syntax error fails in a document that a call refers to. -/
theorem failsIn_of_malformed {m : Machine} (hr : m.isRunning = true)
    (hs : (Machine.step shelf .async m).failure?.any fun
      | .error e => e.line = some n && e.kind = .malformed
      | .fault _ => false) :
    ∃ e, e.line = some n ∧ Machine.FailsIn shelf .async m unreadable e := by
  obtain ⟨failure, hf, hs⟩ := Option.any_eq_true _ _ |>.mp hs
  cases failure with
  | fault fault => cases hs
  | error e =>
    obtain ⟨hl, hk⟩ := Bool.and_eq_true_iff.mp hs
    have hf := Machine.eq_failed_of_failure? hf
    refine ⟨e, of_decide_eq_true hl, ?_⟩
    cases (Machine.raises_of_step (Machine.isRunning_iff.mp hr) hf).1 with
    | statement _ _ hn => exact absurd (of_decide_eq_true hk) hn
    | suspension => cases hl
    | document hs _ hm _ =>
      obtain ⟨text, ht, hp⟩ := hm
      cases eq_unreadable ht
      exact .document hf hs ht hp

/-- The script fails in the document that it calls. -/
theorem failsIn_unreadable :
    ∃ e, e.line = some 3 ∧ FailsIn ⟨none, none⟩ shelf .empty 10 (alone importing) unreadable e := by
  have hr : calling.isRunning = true := by decide +kernel
  obtain ⟨e, hl, hf⟩ := failsIn_of_malformed (n := 3) hr (by decide +kernel)
  have h1 : 1 < 10 := by decide
  exact ⟨e, hl, .running h1 hf⟩

/-- The line of the declaration in the script is marked, which has not failed. -/
theorem excerpt_misses_import :
    (∃ e, e.line = some 3 ∧
      FailsIn ⟨none, none⟩ shelf .empty 10 (alone importing) unreadable e) ∧
    (outcomeAlone? shelf .empty importing).map (fun o => (o.line, o.context)) =
      some (some 3, "  1 | # f\n  2 | \n> 3 | - x=1\n  4 | \n  5 | [](lib.md#f)\n" ++
        "Stack (most recent call last):\n  f()") ∧
    Text.lines unreadable = ["# f", "", "x=)"] ∧
    ¬Report.Marks (Text.lines unreadable) 3 (Report.excerpt importing (some 3)) := by
  have hd : Text.lines unreadable = ["# f", "", "x=)"] := by decide +kernel
  have hs : (Report.excerpt importing (some 3)).filter Report.isMarked = ["> 3 | - x=1"] := by
    decide +kernel
  refine ⟨failsIn_unreadable, by decide +kernel, hd, ?_⟩
  rw [hd]
  exact Report.not_marks rfl hs (by decide)

/-- A library with the program of a document at the place that the script refers to. -/
def warmed (text : String) : Library :=
  ⟨(Program.parse text).program.toOption.toList.map fun program => ("/lib.md", program)⟩

theorem isOf_of_mem_warmed {text : String} :
    ∀ entry ∈ (warmed text).entries, ∃ text, entry.2.IsOf text := by
  intro entry he
  obtain ⟨program, hp, rfl⟩ := List.mem_map.mp he
  exact ⟨text, program, Result.eq_ok_of_toOption (Option.mem_toList.mp hp), rfl⟩

/-- If an assignment in the document fails, the line of the declaration in the script is shown. -/
theorem excerpt_is_of_importing :
    ∃ outcome text e shown stack,
      (handleAlone shelf (warmed unassigned) importing).outcome = some (.ok outcome) ∧
      outcome.line = some 3 ∧
      FailsIn ⟨none, none⟩ shelf (warmed unassigned) 10 (alone importing) text e ∧
      outcome.message = some (Report.messageOf (.error e)) ∧
      outcome.context = Report.joinLines (shown ++ stack) ∧
      Report.IsExcerpt (Text.lines importing) 3 shown := by
  obtain ⟨outcome, ho, hn⟩ := exists_outcome_of_line (n := 3) shelf (warmed unassigned) importing
    (by decide +kernel)
  have hh := not_raised_of_all (m := (handleAlone shelf (warmed unassigned) importing).machine)
    (by decide +kernel)
  obtain ⟨text, e, k, -, hf, hm, -, hk, -, -, shown, -, stack, -, hc, hx, -⟩ :=
    excerpt_is_of_script isOf_of_mem_warmed ho hh hn
  cases Int.ofNat.inj hk
  exact ⟨outcome, text, e, shown, stack, ho, hn, hf, hm, hc, hx (by decide +kernel)⟩

end Example

end Runner

end DocScript
