import DocScript.Proofs.Expr.Operators

/-! # The lines of errors in expressions

An expression is evaluated at a line, and its errors have that line, however deep in it they arise.
None of them is a syntax error, for the text of an expression has been read before.
-/

namespace DocScript

/-- Whether a failure is an error at a line that is no syntax error, or else a fault. -/
def Failure.IsAt (line : Line) : Failure → Prop
  | .error e => e.line = line ∧ e.kind ≠ .malformed
  | .fault _ => True

/-- Whether a computation fails at a line if it fails. -/
def Result.IsAt {α : Type} (line : Line) (result : Result α) : Prop :=
  ∀ failure, result = .error failure → failure.IsAt line

namespace Result

variable {α β : Type} {line : Line} {result : Result α}

theorem isAt_ok (a : α) : IsAt line (.ok a) := nofun

theorem isAt_failure {cause : Cause} (h : cause.kind ≠ .malformed) :
    IsAt (α := α) line (.error (cause.failure line)) := by
  intro failure he
  cases he
  exact ⟨rfl, h⟩

theorem isAt_fault (fault : Fault) : IsAt (α := α) line (.error (.fault fault)) := by
  intro failure he
  cases he
  trivial

theorem IsAt.bind (h : result.IsAt line) {f : α → Result β} (hf : ∀ a, (f a).IsAt line) :
    (result >>= f).IsAt line := by
  cases result with
  | ok a => exact hf a
  | error failure =>
    intro failure' he
    cases he
    exact h failure rfl

theorem IsAt.map (h : result.IsAt line) (f : α → β) : IsAt line (result.map f) := by
  cases result with
  | ok a => exact isAt_ok (f a)
  | error failure =>
    intro failure' he
    cases he
    exact h failure rfl

theorem isAt_mapM {f : α → Result β} (hf : ∀ a, (f a).IsAt line) (as : List α) :
    IsAt line (as.mapM f) := by
  induction as with
  | nil => exact isAt_ok []
  | cons a as ih =>
    rw [List.mapM_cons]
    apply (hf a).bind
    intro b
    apply ih.bind
    intro bs
    exact isAt_ok (b :: bs)

end Result

theorem Ends.isAt {α : Type} {uses : Uses} {line : Line} {P : α → Prop} {result : Result α}
    (h : Ends uses line P result) : result.IsAt line := by
  cases h with
  | value => exact Result.isAt_ok _
  | notNumber => exact Result.isAt_failure (by simp [Cause.kind])
  | tooManyDigits | unwritable => exact Result.isAt_fault _

theorem Result.isAt_numberOfText? {line : Line} (text : Points) :
    (Result.numberOfText? text).IsAt line :=
  (numberOfText?_ends text (.ofComparands [.string text]) List.mem_cons_self line).isAt

namespace Value

variable {line : Line}

theorem isAt_refused {α : Type} {cause : Cause} (h : cause.kind ≠ .malformed) (value : Value) :
    Result.IsAt (α := α) line (.error (value.refused cause line)) := by
  unfold refused
  split
  · exact Result.isAt_failure h
  · exact Result.isAt_fault _

theorem isAt_written (value : Value) : value.written.IsAt line :=
  (value.written_ends line).isAt

theorem isAt_expectKey (context : String) (value : Value) :
    (value.expectKey context line).IsAt line := by
  cases value with
  | bool | number | string => exact Result.isAt_ok _
  | none | list | record => exact isAt_refused (by simp [Cause.kind]) _

theorem isAt_member (object : Value) (key : Key) : (object.member key).IsAt line := by
  cases object with
  | string s =>
    cases key with
    | number index => exact Result.isAt_ok _
    | text key =>
      simp only [member, pointMember]
      split
      · exact Result.isAt_ok _
      · split
        · exact Result.isAt_ok _
        · exact (Result.isAt_numberOfText? key).map _
  | list id items =>
    cases key with
    | number index => exact Result.isAt_ok _
    | text key =>
      simp only [member, itemMember]
      split
      · exact Result.isAt_ok _
      · exact (Result.isAt_numberOfText? key).map _
  | record id fields =>
    simp only [member, fieldMember]
    split
    · exact Result.isAt_ok _
    · refine Result.IsAt.map ?_ _
      cases key with
      | text => exact Result.isAt_ok _
      | number n => exact isAt_written _
  | none | bool | number => exact Result.isAt_ok _

end Value

variable {lookup : String → Value} {line : Line}

theorem Expr.isAt_eval (e : Expr) : (e.eval lookup line).IsAt line := by
  fun_induction Expr.eval lookup line e with
  | case1 literal => exact Result.isAt_ok literal
  | case2 name => exact Result.isAt_ok (lookup name)
  | case3 left right ihleft ihright =>
    apply ihleft.bind
    intro a
    split
    · exact ihright
    · exact Result.isAt_ok a
  | case4 left right ihleft ihright =>
    apply ihleft.bind
    intro a
    split
    · exact Result.isAt_ok a
    · exact ihright
  | case5 op left right ihleft ihright =>
    apply ihleft.bind
    intro a
    apply ihright.bind
    intro b
    exact (op.applyNamed_ends a b line _).isAt
  | case6 op operand ih =>
    apply ih.bind
    intro a
    exact (op.apply_ends a line).isAt
  | case7 object name ih =>
    apply ih.bind
    intro a
    exact a.isAt_member _
  | case8 object key ihobject ihkey =>
    apply ihobject.bind
    intro a
    apply ihkey.bind
    intro b
    apply (b.isAt_expectKey _).bind
    intro k
    exact a.isAt_member k
  | case9 => exact Result.isAt_failure (by simp [Cause.kind])

theorem Template.isAt_eval (template : Template) : (template.eval lookup line).IsAt line := by
  refine (Result.isAt_mapM (fun part => ?_) template).map _
  cases part with
  | text literal => exact Result.isAt_ok _
  | expr e => exact e.isAt_eval.bind Value.isAt_written

end DocScript
