import DocScript.Proofs.Expr.Safe
import DocScript.Proofs.Machine.Holdings
import DocScript.Proofs.Machine.Modes
import DocScript.Proofs.Machine.Programs

/-! # The integers of a run

Literals and the results of operators are clamped or as small as their operands, and all other
values are handed on as they are. Only lengths are whatever they are. So a run holds no integer over
the bound of exact ones unless it is given one, or measures a text or list that no memory holds. The
same is so of every hereditary property of values.
-/

namespace DocScript

variable {P : Value → Prop}

theorem Expr.IsWritten.isSafe {e : Expr} (h : e.IsWritten) : e.IsSafe := by
  rcases h with ⟨text, h⟩ | ⟨text, rfl⟩
  · exact isSafe_of_parse h
  · exact Value.isSafe_string text

theorem Compound.isSafe_apply {op : Compound} {name : String} {current value result : Value}
    {line : Line} (h : op.apply name current value line = .ok result) : result.IsSafe :=
  (op.operator.applyNamed_ends _ value line _).of_eq_ok h

/-- Whether all literals of a program stand for values with a property. -/
def Program.Holds (P : Value → Prop) (program : Program) : Prop :=
  ∀ function ∈ program.functions, HasExpressions (Expr.Holds P) function.body

theorem Program.IsCompiled.holds {program : Program} (h : program.IsCompiled)
    (hP : Value.Hereditary P) : program.Holds P :=
  fun _ hf => (h.hasExpressions hf).mono fun _ he => he.isSafe.mono hP.safe

namespace Session

variable {session session' : Session} {value : Value} {line : Line}

theorem Holds.eval (h : session.Holds P) (hP : Value.Hereditary P) {e : Expr} (he : e.Holds P)
    (hf : e.Fits session.get) (hv : session.eval e line = .ok value) : P value :=
  Expr.Holds.eval hP (h.get hP.none) he hf hv

theorem Holds.evalPrinted (h : session.Holds P) (hP : Value.Hereditary P) {content : Printed}
    (he : ∀ e ∈ content.expressions, e.Holds P ∧ e.Fits session.get)
    (hv : session.evalPrinted content line = .ok value) : P value := by
  cases content with
  | expr e =>
    obtain ⟨hs, hf⟩ := he e List.mem_cons_self
    exact h.eval hP hs hf hv
  | template t =>
    obtain ⟨parts, -, rfl⟩ := Result.map_eq_ok.mp hv
    exact hP.safe _ (Value.isSafe_string _)

theorem Holds.assign (h : session.Holds P) (hP : Value.Hereditary P) {name : String}
    {op : Option Compound} {e : Expr} (he : e.Holds P) (hf : e.Fits session.get)
    (ha : session.assign name op e line = .ok session') : session'.Holds P := by
  simp only [Session.assign, Result.bind_eq_ok] at ha
  obtain ⟨value, hv, -, -, ha⟩ := ha
  cases op with
  | none => exact h.set (h.eval hP he hf hv) ha
  | some op =>
    obtain ⟨result, hr, ha⟩ := Result.bind_eq_ok.mp ha
    exact h.set (hP.safe _ (Compound.isSafe_apply hr)) ha

theorem Holds.perform (h : session.Holds P) (hP : Value.Hereditary P) {statement : Statement}
    (he : ∀ e ∈ statement.expressions, e.Holds P ∧ e.Fits session.get)
    (hp : session.perform statement = .ok session') : session'.Holds P := by
  cases statement with
  | print content line =>
    obtain ⟨value, hv, rfl⟩ := Result.map_eq_ok.mp hp
    exact h.print (h.evalPrinted hP he hv)
  | assign name op e line =>
    obtain ⟨hs, hf⟩ := he e List.mem_cons_self
    exact h.assign hP hs hf hp
  | declare name e? line =>
    obtain ⟨value, hv, hp⟩ := Result.bind_eq_ok.mp hp
    refine h.declare ?_ (Result.ofFault_eq_ok.mp hp)
    cases e? with
    | none =>
      cases hv
      exact hP.none
    | some e =>
      obtain ⟨hs, hf⟩ := he e List.mem_cons_self
      exact h.eval hP hs hf hv
  | input name line =>
    obtain ⟨⟨value, after⟩, hr, hp⟩ := Result.bind_eq_ok.mp (Result.ofFault_eq_ok.mp hp)
    obtain ⟨hv, ha⟩ := h.read hP.none hr
    exact ha.declare hv hp
  | stop | cond | call =>
    cases hp
    exact h

end Session

namespace Machine

variable {world : World} {mode : Mode} {m : Machine}

/-- Whether all values that the next statement takes the length of fit. -/
def Fits (machine : Machine) : Prop :=
  ∀ program statement, machine.next? = some (program, statement) →
    ∀ e ∈ statement.expressions, e.Fits machine.session.get

theorem holds_settle (h : m.session.Holds P) {result : Result Session}
    (hr : ∀ session, result = .ok session → session.Holds P) (blocks : List (List Statement)) :
    (m.settle blocks result).session.Holds P := by
  cases result with
  | error failure => exact h
  | ok session =>
    rw [settle, session_continueWith]
    exact hr session rfl

theorem holds_call (h : m.session.Holds P) (hP : Value.Hereditary P) {caller : Activation}
    {name : String} {reference : Option String} {arguments : List Expr} {line : Line}
    (he : ∀ e ∈ arguments, e.Holds P ∧ e.Fits m.session.get) (later : List Statement)
    (outer : List (List Statement)) :
    (call world mode m caller name reference arguments line later outer).session.Holds P := by
  rw [call]
  rcases hp : prepare world mode m.session m.store caller.program name reference arguments line with
    ⟨failure | ⟨program, function, args⟩, store⟩
  · exact h
  · have hargs : ∀ value ∈ args, P value := by
      intro value hv
      obtain ⟨e, hm, hv⟩ := Result.mem_of_mapM (prepare_eq_ok hp).2 value hv
      obtain ⟨hs, hf⟩ := he e hm
      exact h.eval hP hs hf hv
    dsimp only
    split
    · exact holds_enter (holds_leave (m := { m with store }) h) hP.none hargs program function
    · refine holds_enter ?_ hP.none hargs program function
      rwa [session_continueWith]

/-- Whether all values that a machine holds have a property, and all literals that it is about to
execute. -/
structure Holds (P : Value → Prop) (machine : Machine) : Prop where
  session : machine.session.Holds P
  blocks : machine.HasBlocks (HasExpressions (Expr.Holds P))
  programs : machine.HasPrograms (Program.Holds P)

theorem Holds.session_step (h : m.Holds P) (hP : Value.Hereditary P) (hf : m.Fits) :
    (Machine.step world mode m).session.Holds P := by
  have hs := h.session
  have ht := step_turn world mode m
  generalize Machine.step world mode m = after at ht ⊢
  cases ht with
  | ended => exact hs
  | finished => exact hs
  | returned => exact holds_leave hs
  | closed ha => rwa [session_continueWith]
  | @executed program function statement later outer rest _ ha =>
    have hb := h.blocks _ (ha ▸ List.mem_cons_self) _ List.mem_cons_self
    have hn : m.next? = some (program, statement) := by rw [next?, ha]
    have he : ∀ e ∈ statement.expressions, e.Holds P ∧ e.Fits m.session.get :=
      fun e hm => ⟨hb.head e hm, hf program statement hn e hm⟩
    have hp : ∀ session, m.session.perform statement = .ok session → session.Holds P :=
      fun session => hs.perform hP he
    cases statement with
    | stop line => exact holds_leave hs
    | cond condition body line =>
      simp only [execute]
      split
      · rwa [session_continueWith]
      · exact hs
    | call callee reference arguments line => exact holds_call hs hP he later outer
    | print | assign | declare | input => exact holds_settle hs hp _

theorem Holds.step (h : m.Holds P) (hP : Value.Hereditary P) (hf : m.Fits) :
    (Machine.step world mode m).Holds P := by
  have hworld : ∀ location program, world.program? location = some program → program.Holds P :=
    fun _ _ hp => (World.isCompiled_of_program? hp).holds hP
  refine ⟨h.session_step hP hf, ?_, h.programs.step hworld⟩
  apply h.blocks.step passing_hasExpressions
  intro function hb
  obtain ⟨program, hp, hm⟩ := h.programs.begun hworld hb
  exact hp function hm

/-- At all steps a run holds only values with a hereditary property, if it is so of what it is given
and all that it takes the length of fits in a memory. -/
theorem Holds.run (h : m.Holds P) (hP : Value.Hereditary P) {n : Nat}
    (hf : ∀ k < n, (Machine.run world mode k m).Fits) : (Machine.run world mode n m).Holds P := by
  apply run_preserves h
  intro k hk hn
  exact hn.step hP (hf k hk)

theorem holds_start (hP : Value.Hereditary P) {program : Program} (hp : program.Holds P)
    (entry : String) {args : List Value} (ha : ∀ value ∈ args, P value) {session : Session}
    (hs : session.Holds P) {store : Store}
    (hl : ∀ entry ∈ store.library.entries, entry.2.Holds P) :
    (start program entry args session store).Holds P where
  session := by
    unfold start
    split
    · exact holds_enter (m := ⟨session, store, [], .running⟩) hs hP.none ha _ _
    · exact hs
  blocks := by
    apply hasBlocks_start
    exact fun function hf => hp function (List.mem_of_find?_eq_some hf)
  programs := hasPrograms_start hp entry args session hl

end Machine

/-- The integers that a frame holds at any depth, in its variables and its arguments. -/
def Frame.integers (frame : Frame) : List Int :=
  frame.bindings.flatMap (·.2.integers) ++ frame.args.flatMap Value.integers

/-- The integers in all frames of a session and in what it has printed, at any depth. -/
def Session.integers (session : Session) : List Int :=
  session.frames.flatMap Frame.integers ++ session.output.flatMap Value.integers

theorem Session.Holds.integers {session : Session} (h : session.Holds Value.IsSafe) :
    ∀ n ∈ session.integers, n.natAbs ≤ maxSafe := by
  intro n hn
  rcases List.mem_append.mp hn with hn | hn
  · obtain ⟨frame, hf, hn⟩ := List.mem_flatMap.mp hn
    rcases List.mem_append.mp hn with hn | hn
    · obtain ⟨binding, hb, hn⟩ := List.mem_flatMap.mp hn
      exact (h.frames frame hf).bindings binding hb n hn
    · obtain ⟨value, hv, hn⟩ := List.mem_flatMap.mp hn
      exact (h.frames frame hf).args value hv n hn
  · obtain ⟨value, hv, hn⟩ := List.mem_flatMap.mp hn
    exact h.printed value (List.mem_reverse.mp hv) n hn

/-- At no step does a run of a document hold an integer over 2 ^ 53 in a frame or in its output, if
its arguments and inputs hold none and all that it takes the length of fits in a memory. -/
theorem Machine.integers_run_le (world : World) (mode : Mode) {program : Program}
    (hp : program.IsCompiled) (entry : String) {args inputs : List Value}
    {provider : Option Provider} {store : Store}
    (hl : ∀ entry ∈ store.library.entries, entry.2.IsCompiled)
    (ha : ∀ value ∈ args, value.IsSafe) (hi : ∀ value ∈ inputs, value.IsSafe)
    (hprovider : ∀ source ∈ provider, ∀ n value, source.answer n = .ok value → value.IsSafe)
    {n : Nat} (hf : ∀ k < n, (run world mode k
      (start program entry args (.start inputs provider) store)).Fits) :
    ∀ i ∈ (run world mode n
      (start program entry args (.start inputs provider) store)).session.integers,
      i.natAbs ≤ 2 ^ 53 := by
  have hsafe := Value.hereditary_isSafe
  have hs : (Session.start inputs provider).Holds Value.IsSafe := ⟨nofun, nofun, hi, hprovider⟩
  have hstart := holds_start hsafe (hp.holds hsafe) entry ha hs
    fun entry he => (hl entry he).holds hsafe
  exact (hstart.run hsafe hf).session.integers

section Example

open Markdown (Node)

def sumItem : Node := .mk .item (some 5) [.inlined (.text "m = n + 'ab'.length") []]

/-- An input, and a variable for the sum of it and the length of a text. -/
def sumDocument : Node :=
  .mk .document none
    [.mk (.heading (some 1)) (some 1) [.inlined (.text "f") []],
     .mk .quote (some 3) [.inlined (.text "n") []],
     .mk (.list false) (some 5) [sumItem]]

def sumExpr : Expr :=
  .binary (.operator .add) (.variableName "n")
    (.member (.literal (.string "ab") (some "'ab'")) "length")

def sumProgram : Program :=
  ⟨[⟨"f", [], [.input "n" (some 3), .declare "m" (some sumExpr) (some 5)]⟩], none⟩

theorem parse_sumExpr : Expr.parse "n + 'ab'.length" = .ok sumExpr := by
  rw [Expr.parse_eq_ok_iff]
  apply Reads.token (t := .name "n") rfl rfl
  apply Reads.token (t := .symbol (.binary (.operator .add))) rfl rfl
  apply Reads.token (t := .string "ab" "'ab'") rfl rfl
  apply Reads.token (t := .symbol .dot) rfl rfl
  apply Reads.token (t := .name "length") rfl rfl
  exact .ends rfl rfl

theorem isCompiled_sumProgram : sumProgram.IsCompiled := by
  have hitem : readItem sumItem = .ok (some (.declare "m" (some sumExpr) (some 5))) := by
    show (parseAt (some 5) "n + 'ab'.length").map _ = _
    rw [parseAt, parse_sumExpr]
    rfl
  have hstart : compile sumDocument = compileNodes
      ⟨[], some ⟨"f", [], [.input "n" (some 3)], []⟩, []⟩ [.mk (.list false) (some 5) [sumItem]] :=
    rfl
  have hadd : (Outline.mk [] (some ⟨"f", [], [.input "n" (some 3)], []⟩) []).add
      (.mk (.list false) (some 5) [sumItem]) =
      .ok ⟨[], some ⟨"f", [], [.declare "m" (some sumExpr) (some 5), .input "n" (some 3)], []⟩,
        []⟩ := by
    show ([sumItem].mapM readItem).map _ = _
    rw [List.mapM_cons, hitem]
    rfl
  refine ⟨sumDocument, sumProgram, ?_, rfl⟩
  rw [hstart, compileNodes, hadd]
  rfl

namespace Machine

/-- About to run the function with the largest input that is safe. -/
def sumStarted : Machine :=
  start sumProgram "f" [] (.start [.number (.int 9007199254740992)] none) ⟨.empty, []⟩

theorem fits_sumStarted : ∀ k < 2, (run barren .sync k sumStarted).Fits := by
  intro k hk program statement hnext e he access ha line value hobject hkey
  match k, hk with
  | 0, _ =>
    cases hnext
    cases he
  | 1, _ =>
    cases hnext
    cases List.mem_singleton.mp he
    cases List.mem_singleton.mp ha
    cases hobject
    rintro n ⟨⟩
    decide

/-- The input is held as it is, and the sum as a float. -/
theorem integers_sumStarted :
    (run barren .sync 2 sumStarted).session.integers = [9007199254740992] ∧
      ∀ i ∈ (run barren .sync 2 sumStarted).session.integers, i.natAbs ≤ 2 ^ 53 := by
  have hi : ∀ value ∈ [Value.number (.int 9007199254740992)], value.IsSafe :=
    List.forall_mem_singleton.mpr (Value.isSafe_number.mpr (Nat.le_refl maxSafe))
  refine ⟨by decide +kernel, ?_⟩
  apply integers_run_le barren .sync isCompiled_sumProgram "f" (List.forall_mem_nil _)
    (List.forall_mem_nil _) hi _ fits_sumStarted
  rintro source ⟨⟩

end Machine

end Example

end DocScript
