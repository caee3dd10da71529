import DocScript.Proofs.Machine.Lines
import DocScript.Proofs.Machine.Programs

/-! # Where runs fail

An invocation executes what stands in its own program. So the error of a run is raised by a
statement of a document, or by a document that cannot be read, and has a line of that document.
-/

namespace DocScript

open Markdown (Node lineCount IsLineOf)

/-! ## The lines of statements -/

section Statements

variable {node : Node} {s : Statement} {line : Line} {later : List Statement}

theorem Statement.line_bare (s : Statement) : s.bare.line = s.line := by
  cases s <;> rfl

theorem Statement.IsMadeBy.line_eq (h : s.IsMadeBy node) : s.line = node.line := by
  cases h <;> rfl

theorem Statement.IsReadFrom.isLineOf {blocks : List Node} {count : Nat}
    (h : s.IsReadFrom blocks) (hp : ∀ node ∈ blocks, node.IsPlaced count) :
    IsLineOf count s.line := by
  cases h with
  | paragraph hm h => exact (isMadeBy_of_readParagraph h).line_eq ▸ (hp _ hm).line
  | item hm hc hi h => exact (isMadeBy_of_readItem h).line_eq ▸ (hp _ hm).items false hc _ hi
  | heading hm h => exact (hp _ hm).line
  | thematicBreak hm => exact (hp _ hm).line
  | quote hm name => exact (hp _ hm).line

end Statements

namespace Program

variable {program : Program} {text : String} {statement : Statement} {later : List Statement}

/-- Whether a program has the functions of the document with a text. -/
def IsOf (program : Program) (text : String) : Prop :=
  ∃ parsed, (parse text).program = .ok parsed ∧ program.functions = parsed.functions

/-- Whether a statement stands in the body of a function, at any level. -/
def HasStatement (program : Program) (statement : Statement) : Prop :=
  ∃ function ∈ program.functions, ∃ level, (statement.bare, level) ∈ preorderAll 1 function.body

/-- Whether all statements of a block, at any level, stand in the body of one function. -/
def HasBlock (program : Program) (block : List Statement) : Prop :=
  ∃ function ∈ program.functions, ∃ level, preorderAll level block ⊆ preorderAll 1 function.body

theorem hasBlock_body {function : Function} (h : function ∈ program.functions) :
    program.HasBlock function.body := ⟨function, h, 1, List.Subset.refl _⟩

theorem HasBlock.head (h : program.HasBlock (statement :: later)) :
    program.HasStatement statement := by
  obtain ⟨function, hf, level, hs⟩ := h
  refine ⟨function, hf, level, hs ?_⟩
  rw [preorderAll, preorder_eq]
  exact List.mem_append_left _ List.mem_cons_self

theorem passing_hasBlock (program : Program) : Machine.Passing program.HasBlock where
  later := by
    rintro statement later ⟨function, hf, level, hs⟩
    exact ⟨function, hf, level, fun p hp => hs (List.mem_append_right _ hp)⟩
  body := by
    rintro condition body line later ⟨function, hf, level, hs⟩
    exact ⟨function, hf, level + 1, fun p hp =>
      hs (List.mem_append_left _ (List.mem_cons_of_mem _ hp))⟩

theorem IsOf.isLineOf (h : program.IsOf text) (hs : program.HasStatement statement) :
    IsLineOf (lineCount text) statement.line := by
  obtain ⟨parsed, hp, he⟩ := h
  obtain ⟨function, hf, level, hm⟩ := hs
  rw [← statement.line_bare]
  exact (isReadFrom_of_compile hp (he ▸ hf) _ hm).isLineOf (Markdown.isPlaced_of_mem_document text)

end Program

theorem World.isOf_of_program? {world : World} {location : Location} {program : Program}
    (h : world.program? location = some program) :
    ∃ text, world.text? location = some text ∧ program.IsOf text := by
  obtain ⟨text, ht, parsed, hp, rfl⟩ := World.exists_text_of_program? h
  exact ⟨text, ht, parsed, hp, rfl⟩

namespace Machine

variable {world : World} {mode : Mode} {m : Machine} {program : Program} {e : ScriptError}

/-- Invocations execute what stands in their own programs. -/
theorem hasBlock_run (world : World) (mode : Mode) (program : Program) (entry : String)
    (args : List Value) (session : Session) (store : Store) (n : Nat) :
    (run world mode n (start program entry args session store)).HasBlocksIn
      Program.HasBlock := by
  have hs : (start program entry args session store).HasBlocksIn Program.HasBlock :=
    hasBlocksIn_start (fun function hf => Program.hasBlock_body (List.mem_of_find?_eq_some hf))
      args session store
  apply hs.run Program.passing_hasBlock
  intro k _ _ caller name reference arguments line target function args store _ he
  exact Program.hasBlock_body (mem_functions_of_resolve (prepare_eq_ok he).1)

theorem mem_programs_of_next {statement : Statement} (h : m.next? = some (program, statement)) :
    program ∈ m.programs := by
  obtain ⟨function, later, outer, rest, ha⟩ := exists_activation h
  rw [programs, ha]
  exact List.mem_cons_self

/-- A running machine that ends in an error raises it on the way. -/
theorem exists_raises (hr : m.status = .running) {n : Nat}
    (h : (run world mode n m).status = .failed (.error e)) :
    ∃ k < n, (step world mode (run world mode k m)).status = .failed (.error e) ∧
      Raises world mode (run world mode k m) e := by
  have hn : (run world mode n m).status ≠ .running := by simp [h]
  obtain ⟨k, hk, hs, he⟩ := exists_last_step hr hn
  rw [he] at h
  exact ⟨k, hk, h, (raises_of_step hs h).1⟩

/-- A run that ends in an error with a line raises it on the way. -/
theorem exists_raises_of_start {entry : String} {args : List Value} {session : Session}
    {store : Store} {n : Nat}
    (h : (run world mode n (start program entry args session store)).status = .failed (.error e))
    (hl : e.line ≠ none) :
    ∃ k < n, (step world mode (run world mode k (start program entry args session store))).status =
        .failed (.error e) ∧
      Raises world mode (run world mode k (start program entry args session store)) e := by
  cases hf : program.find? entry with
  | none =>
    -- Such a run has ended before its first step, in an error without a line.
    have hs : start program entry args session store = _ := start_noEntry hf
    have hr : (run world mode 0 (start program entry args session store)).status ≠ .running := by
      simp [run, hs, fail]
    rw [run_of_ended hr (Nat.zero_le n), run, hs] at h
    cases h
    exact absurd rfl hl
  | some function =>
    refine exists_raises ?_ h
    rw [start, hf]
    rfl

/-! ## Documents that fail -/

/-- Whether the next step of a machine raises an error in the document with a text: at a statement
of the document, or by reading it. -/
inductive FailsIn (world : World) (mode : Mode) (machine : Machine) (text : String) :
    ScriptError → Prop where
  | statement {program : Program} {statement : Statement} {e : ScriptError}
    (hf : (step world mode machine).status = .failed (.error e))
    (hn : machine.next? = some (program, statement)) (hp : program.IsOf text)
    (hs : program.HasStatement statement) (hl : e.line = statement.line) :
    FailsIn world mode machine text e
  | document {program : Program} {location : Location} {e : ScriptError}
    (hf : (step world mode machine).status = .failed (.error e))
    (hs : machine.Seeks world mode program location) (ht : world.text? location = some text)
    (hp : (Program.parse text).program = .error (.error e)) : FailsIn world mode machine text e

theorem FailsIn.isLineOf {text : String} (h : FailsIn world mode m text e) :
    IsLineOf (lineCount text) e.line := by
  cases h with
  | statement hf hn hp hs hl => exact hl ▸ hp.isLineOf hs
  | document hf hs ht hp => exact (Program.isPlaced_of_parse_error hp).2

theorem Raises.failsIn (h : Raises world mode m e)
    (hf : (step world mode m).status = .failed (.error e)) (hl : e.line ≠ none)
    (hb : m.HasBlocksIn Program.HasBlock) {P : String → Prop}
    (hp : m.HasPrograms fun program => ∃ text, P text ∧ program.IsOf text)
    (hw : ∀ location text, world.text? location = some text → P text) :
    ∃ text, P text ∧ FailsIn world mode m text e := by
  cases h with
  | @statement program statement _ hn hs hk =>
    obtain ⟨later, hm⟩ := hb.next hn
    obtain ⟨text, ht, ho⟩ := hp.running program (mem_programs_of_next hn)
    exact ⟨text, ht, .statement hf hn ho hm.head hs⟩
  | suspension => exact absurd rfl hl
  | document hs hd hm hk =>
    obtain ⟨text, ht, hp⟩ := hm
    exact ⟨text, hw _ _ ht, .document hf hs ht hp⟩

/-- A run that ends in an error with a line fails in a document. It is the one that the run began
with, one whose program was in the library, or one from outside. -/
theorem exists_failsIn {text : String} (hp : program.IsOf text) {entry : String}
    {args : List Value} {session : Session} {store : Store} {n : Nat}
    (h : (run world mode n (start program entry args session store)).status = .failed (.error e))
    (hl : e.line ≠ none) {P : String → Prop} (ht : P text)
    (hs : ∀ entry ∈ store.library.entries, ∃ text, P text ∧ entry.2.IsOf text)
    (hw : ∀ location text, world.text? location = some text → P text) :
    ∃ k < n, ∃ text, P text ∧
      FailsIn world mode (run world mode k (start program entry args session store)) text e := by
  obtain ⟨k, hk, hf, hr⟩ := exists_raises_of_start h hl
  have hb := hasBlock_run world mode program entry args session store k
  refine ⟨k, hk, hr.failsIn hf hl hb ?_ hw⟩
  apply HasPrograms.run (hasPrograms_start ⟨text, ht, hp⟩ entry args session hs)
  intro location program hp
  obtain ⟨text, ht, ho⟩ := World.isOf_of_program? hp
  exact ⟨text, hw location text ht, ho⟩

end Machine

/-! ## Documents without references -/

/-- The document that a statement refers to, if it is a call with a reference. -/
def Statement.reference? : Statement → Option String
  | .call _ reference _ _ => reference.filter (· ≠ "")
  | _ => none

/-- Whether no statement of a program, at any level, refers to another document. -/
def Program.IsSelfContained (program : Program) : Prop :=
  ∀ function ∈ program.functions, ∀ p ∈ preorderAll 1 function.body, p.1.reference? = none

theorem Program.IsSelfContained.reference {program : Program} (h : program.IsSelfContained)
    {statement : Statement} (hs : program.HasStatement statement) :
    statement.reference? = none := by
  obtain ⟨function, hf, level, hm⟩ := hs
  have hr := h function hf _ hm
  cases statement <;> first | rfl | exact hr

theorem Store.eq_of_resolve {world : World} {mode : Mode} {program target : Program}
    {name : String} {reference : Option String} {line : Line} {function : Function}
    {store store' : Store} (hr : reference.filter (· ≠ "") = none)
    (h : store.resolve world mode program name reference line =
      (.ok (target, function), store')) : target = program := by
  simp only [resolve, hr] at h
  split at h <;> cases h
  rfl

namespace Machine

variable {world : World} {mode : Mode} {program : Program} {entry : String} {args : List Value}
  {session : Session} {store : Store} {n : Nat} {e : ScriptError}

/-- A program that refers to no other document is the only one that its runs execute. -/
theorem hasBlock_run_of_isSelfContained (hc : program.IsSelfContained) (world : World)
    (mode : Mode) (entry : String) (args : List Value) (session : Session) (store : Store)
    (n : Nat) :
    (run world mode n (start program entry args session store)).HasBlocksIn fun other block =>
      other = program ∧ program.HasBlock block := by
  have hs : (start program entry args session store).HasBlocksIn fun other block =>
      other = program ∧ program.HasBlock block :=
    hasBlocksIn_start
      (fun function hf => ⟨rfl, Program.hasBlock_body (List.mem_of_find?_eq_some hf)⟩)
      args session store
  apply hs.run
  · intro other
    exact ⟨fun h => ⟨h.1, (program.passing_hasBlock).later h.2⟩,
      fun h => ⟨h.1, (program.passing_hasBlock).body h.2⟩⟩
  · intro k _ hb caller name reference arguments line target function args store hcall he
    -- The call stands in the program, so it has no reference and finds its function there.
    obtain ⟨later, rfl, hm⟩ := hb.next hcall.next
    have hr := (prepare_eq_ok he).1
    cases Store.eq_of_resolve (hc.reference hm.head) hr
    exact ⟨rfl, Program.hasBlock_body (mem_functions_of_resolve hr)⟩

/-- The error of a run has a line of the document, if the document refers to no other one. -/
theorem isLineOf_of_isSelfContained {text : String} (hp : program.IsOf text)
    (hc : program.IsSelfContained)
    (h : (run world mode n (start program entry args session store)).status = .failed (.error e))
    (hl : e.line ≠ none) : IsLineOf (lineCount text) e.line := by
  obtain ⟨k, -, -, hr⟩ := exists_raises_of_start h hl
  have hb := hasBlock_run_of_isSelfContained hc world mode entry args session store k
  cases hr with
  | statement hn hs hk =>
    obtain ⟨later, rfl, hm⟩ := hb.next hn
    exact hs ▸ hp.isLineOf hm.head
  | suspension => exact absurd rfl hl
  | document hs hf hm hk =>
    obtain ⟨name, reference, arguments, line, hcall, text, rfl, hne, -⟩ := hs
    obtain ⟨later, rfl, hm⟩ := hb.next hcall.next
    have hr := hc.reference hm.head
    simp [Statement.reference?, hne] at hr

end Machine

end DocScript
