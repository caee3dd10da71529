import DocScript.Proofs.Machine.Blocks
import DocScript.Proofs.Program.Expressions

/-! # The programs of a run

A run executes its program and those that it finds in its library, which it extends by the documents
that it loads. So what holds of all documents holds of every function that is begun, and in
particular its expressions come from a document.
-/

namespace DocScript

/-- Whether the functions of a program are those of a document. -/
def Program.IsCompiled (program : Program) : Prop :=
  ∃ document parsed, (compile document).program = .ok parsed ∧ program.functions = parsed.functions

theorem World.isCompiled_of_program? {world : World} {location : Location} {program : Program}
    (h : world.program? location = some program) : program.IsCompiled := by
  obtain ⟨text, -, parsed, hp, rfl⟩ := World.exists_text_of_program? h
  exact ⟨Markdown.parseDocument text, parsed, hp, rfl⟩

/-- Whether all expressions of a block and of the blocks in it have a property. -/
def HasExpressions (P : Expr → Prop) (block : List Statement) : Prop :=
  ∃ level, ∀ p ∈ preorderAll level block, ∀ e ∈ p.1.expressions, P e

theorem Program.IsCompiled.hasExpressions {program : Program} (h : program.IsCompiled)
    {function : Function} (hf : function ∈ program.functions) :
    HasExpressions Expr.IsWritten function.body := by
  obtain ⟨document, parsed, hp, he⟩ := h
  exact ⟨1, isWritten_of_compile hp (he ▸ hf)⟩

theorem Statement.expressions_bare (s : Statement) : s.bare.expressions = s.expressions := by
  cases s <;> rfl

section Expressions

variable {P : Expr → Prop} {s : Statement} {later : List Statement}

theorem HasExpressions.head (h : HasExpressions P (s :: later)) : ∀ e ∈ s.expressions, P e := by
  obtain ⟨level, h⟩ := h
  rw [preorderAll, preorder_eq] at h
  rw [← s.expressions_bare]
  exact h (s.bare, level) (List.mem_append_left _ List.mem_cons_self)

theorem passing_hasExpressions : Machine.Passing (HasExpressions P) where
  later := by
    rintro s later ⟨level, h⟩
    exact ⟨level, fun p hp => h p (List.mem_append_right _ hp)⟩
  body := by
    rintro condition body line later ⟨level, h⟩
    exact ⟨level + 1, fun p hp => h p (List.mem_append_left _ (List.mem_cons_of_mem _ hp))⟩

theorem HasExpressions.mono {Q : Expr → Prop} {block : List Statement} (h : HasExpressions P block)
    (hpq : ∀ e, P e → Q e) : HasExpressions Q block := by
  obtain ⟨level, h⟩ := h
  exact ⟨level, fun p hp e he => hpq e (h p hp e he)⟩

end Expressions

namespace Machine

variable {world : World} {mode : Mode} {m : Machine}

/-- Whether all programs that are running or in the library have a property. -/
structure HasPrograms (P : Program → Prop) (machine : Machine) : Prop where
  library : ∀ entry ∈ machine.store.library.entries, P entry.2
  running : ∀ program ∈ machine.programs, P program

variable {P : Program → Prop}

theorem forall_entries_of_asked {location : Location} {store store' : Store}
    (h : ∀ entry ∈ store.library.entries, P entry.2)
    (hw : ∀ location program, world.program? location = some program → P program)
    (ha : store.Asked world location store') : ∀ entry ∈ store'.library.entries, P entry.2 := by
  rw [ha.entries]
  refine List.forall_mem_append.mpr ⟨h, ?_⟩
  intro entry he
  obtain ⟨program, hp, rfl⟩ := Option.map_eq_some_iff.mp (Option.mem_toList.mp he)
  exact hw location program hp

theorem of_find? {library : Library} (h : ∀ entry ∈ library.entries, P entry.2) {key : String}
    {program : Program} (hf : library.find? key = some program) : P program :=
  h _ (Library.mem_entries_of_find? hf)

theorem HasPrograms.step (h : m.HasPrograms P)
    (hw : ∀ location program, world.program? location = some program → P program) :
    (step world mode m).HasPrograms P := by
  have hl : ∀ entry ∈ (Machine.step world mode m).store.library.entries, P entry.2 := by
    rcases step_asks world mode m with hq | ⟨program, location, -, ha⟩
    · rw [hq.library]
      exact h.library
    · exact forall_entries_of_asked h.library hw ha
  constructor
  · exact hl
  · intro program hp
    rcases step_programs world mode m hp with hm | ⟨key, hk⟩
    · exact h.running program hm
    · exact of_find? hl hk

theorem HasPrograms.run (h : m.HasPrograms P)
    (hw : ∀ location program, world.program? location = some program → P program) (n : Nat) :
    (run world mode n m).HasPrograms P := by
  apply run_preserves h
  intro k _ hn
  exact hn.step hw

theorem hasPrograms_start {program : Program} (hp : P program) (entry : String)
    (args : List Value) (session : Session) {store : Store}
    (hl : ∀ entry ∈ store.library.entries, P entry.2) :
    (start program entry args session store).HasPrograms P := by
  constructor
  · rw [(quiet_start program entry args session store).library]
    exact hl
  · intro other ho
    have hs := programs_start_subset program entry args session store ho
    rwa [List.mem_singleton.mp hs]

theorem mem_functions_of_resolve {program target : Program} {name : String}
    {reference : Option String} {line : Line} {function : Function} {store store' : Store}
    (h : store.resolve world mode program name reference line = (.ok (target, function), store')) :
    function ∈ target.functions := by
  simp only [Store.resolve] at h
  split at h
  · split at h <;> cases h
    exact List.mem_of_find?_eq_some ‹_›
  · split at h
    · cases h
    · split at h
      · cases h
      · split at h <;> cases h
        exact List.mem_of_find?_eq_some ‹_›

/-- A function that is begun is one of a program that has the property. -/
theorem HasPrograms.begun (h : m.HasPrograms P)
    (hw : ∀ location program, world.program? location = some program → P program)
    {function : Function} (hb : m.begun? world mode = some function) :
    ∃ program, P program ∧ function ∈ program.functions := by
  unfold begun? at hb
  split at hb
  · rename_i program _ name reference arguments line _ _ _ hs ha
    obtain ⟨⟨target, called, args⟩, hr, rfl⟩ := Option.map_eq_some_iff.mp hb
    have hp : prepare world mode m.session m.store program name reference arguments line =
        (.ok (target, called, args), (prepare world mode m.session m.store program name reference
          arguments line).2) := Prod.ext (Result.eq_ok_of_toOption hr) rfl
    have hc : P program := h.running program (by rw [programs, ha]; exact List.mem_cons_self)
    refine ⟨target, ?_, mem_functions_of_resolve (prepare_eq_ok hp).1⟩
    rcases prepare_target hp with rfl | ⟨key, hk⟩
    · exact hc
    · -- The target is looked up after the call, when its document may have come from outside.
      refine of_find? ?_ hk
      rcases prepare_asks world mode m.session m.store program name reference arguments line with
        hq | ⟨location, -, hq⟩
      · rw [hq]
        exact h.library
      · exact forall_entries_of_asked h.library hw hq
  · cases hb

end Machine

end DocScript
