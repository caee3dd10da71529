import DocScript.Proofs.Expr.Forms
import DocScript.Proofs.Machine.Modes

/-! # Assignments

A compound assignment stores what its operator makes of the variable and the new value, or fails as
the operator does. Which forms the integers of a frame have changes nothing about it.
-/

namespace DocScript

/-! ## Operands by different names -/

/-- Two failures are the same, apart from the words by which they call the operand that is to
blame. -/
inductive Failure.Corresponds (names names' : OperandNames) : Failure → Failure → Prop
  | same (failure : Failure) : Corresponds names names' failure failure
  | left (operand : Value) (line : Line) : Corresponds names names'
      ((Cause.notNumber names.left operand).failure line)
      ((Cause.notNumber names'.left operand).failure line)
  | right (operand : Value) (line : Line) : Corresponds names names'
      ((Cause.notNumber names.right operand).failure line)
      ((Cause.notNumber names'.right operand).failure line)

section Names

variable {F : Failure → Failure → Prop} (names names' : OperandNames)

theorem Value.expectNumber_related {context context' : String} (value : Value) {line : Line}
    (hf : ∀ failure, F failure failure)
    (hn : F ((Cause.notNumber context value).failure line)
      ((Cause.notNumber context' value).failure line)) :
    Result.Related F Eq (value.expectNumber context line) (value.expectNumber context' line) := by
  have hrefused : F (value.refused (.notNumber context value) line)
      (value.refused (.notNumber context' value) line) := by
    unfold refused
    split
    · exact hn
    · exact hf _
  cases value with
  | number n => exact .ok rfl
  | string s =>
    rw [expectNumber, expectNumber]
    apply (Result.Related.refl hf Eq.refl (Result.numberOfText? s)).bind
    rintro n _ rfl
    cases n with
    | none => exact .error hn
    | some n => exact .ok rfl
  | none | bool | list | record => exact .error hrefused

theorem OperandNames.numbers_related (left right : Value) (line : Line) :
    Result.Related (Failure.Corresponds names names') Eq (names.numbers left right line)
      (names'.numbers left right line) := by
  rw [numbers, numbers]
  apply (left.expectNumber_related .same (.left left line)).bind
  rintro m _ rfl
  apply (right.expectNumber_related .same (.right right line)).bind
  rintro n _ rfl
  exact .ok rfl

/-- What errors call the operands decides nothing else. -/
theorem Operator.applyNamed_related (op : Operator) (left right : Value) (line : Line) :
    Result.Related (Failure.Corresponds names names') Eq (op.applyNamed names left right line)
      (op.applyNamed names' left right line) := by
  have hnumbers {α : Type} (f : Number × Number → Result α) :
      Result.Related (Failure.Corresponds names names') Eq (names.numbers left right line >>= f)
        (names'.numbers left right line >>= f) := by
    apply (names.numbers_related names' left right line).bind
    rintro p _ rfl
    exact .refl .same Eq.refl _
  cases op with
  | add =>
    rw [applyNamed, applyNamed]
    split
    · exact .refl .same Eq.refl _
    · exact hnumbers _
  | sub | mul | div | mod => rw [applyNamed, applyNamed]; exact hnumbers _
  | lt | gt | le | ge => rw [applyNamed, applyNamed]; exact hnumbers _
  | eq | ne | strictEq | strictNe => exact .refl .same Eq.refl _

end Names

/-! ## Variables -/

theorem lookup_cons_eq_ite (name other : String) (value : Value)
    (bindings : List (String × Value)) :
    ((name, value) :: bindings).lookup other =
      if other = name then some value else bindings.lookup other := by
  by_cases h : other = name
  · simp [h]
  · simp [List.lookup_cons, h, beq_false_of_ne h]

theorem lookup_putVariable (name other : String) (value : Value)
    (bindings : List (String × Value)) :
    (putVariable name value bindings).lookup other =
      if other = name then some value else bindings.lookup other := by
  induction bindings with
  | nil => exact lookup_cons_eq_ite name other value []
  | cons entry rest ih =>
    obtain ⟨bound, old⟩ := entry
    by_cases hb : bound = name
    · subst hb
      rw [putVariable, if_pos rfl, lookup_cons_eq_ite, lookup_cons_eq_ite]
      split <;> rfl
    · rw [putVariable, if_neg hb, lookup_cons_eq_ite, lookup_cons_eq_ite, ih]
      split_ifs <;> simp_all

/-- Setting a variable leaves the others as they are. -/
theorem Frame.get?_set (frame : Frame) (name other : String) (value : Value) :
    (frame.set name value).get? other = if other = name then some value else frame.get? other :=
  lookup_putVariable name other value frame.bindings

namespace Session

variable (session : Session) (frame : Frame) (name : String) (e : Expr) (line : Line)

theorem assign_plain_push :
    (session.push frame).assign name none e line =
      (session.push frame).eval e line >>= fun value =>
        if frame.isDeclared name then .ok (session.push (frame.set name value))
        else .error ((Cause.undeclared name).failure line) := by
  simp only [assign, checkDeclared, set, push]
  congr 1
  funext value
  split <;> rfl

theorem assign_compound_push (op : Compound) :
    (session.push frame).assign name (some op) e line =
      (session.push frame).eval e line >>= fun value =>
        if frame.isDeclared name then
          op.apply name ((session.push frame).get name) value line >>= fun result =>
            .ok (session.push (frame.set name result))
        else .error ((Cause.undeclared name).failure line) := by
  simp only [assign, checkDeclared, set, push]
  congr 1
  funext value
  split <;> rfl

end Session

/-- Two frames are the same, apart from the forms of the integers that their variables hold. -/
structure Frame.Matches (frame frame' : Frame) : Prop where
  function : frame.function = frame'.function
  declared : frame.declared = frame'.declared
  args : frame.args = frame'.args
  bindings : List.Forall₂ (fun binding binding' =>
    binding.1 = binding'.1 ∧ binding.2.Matches binding'.2) frame.bindings frame'.bindings

/-- Two values are equal for all that a program can tell. -/
structure Value.IsIndistinct (v w : Value) : Prop where
  equal : v = w ∨ ∃ m n, v = .number m ∧ w = .number n ∧ m.same n = true
  truthy : v.truthy = w.truthy
  kind : v.kind = w.kind
  text : v.text = w.text

theorem Value.Matches.isIndistinct {v w : Value} (h : v.Matches w) : v.IsIndistinct w where
  equal := by
    cases h with
    | refl => exact .inl rfl
    | @forms m n k hm hn _ =>
      have hvalue : n.value? ≠ Option.none := by simp [Number.toInt?_eq_some_iff.mp hn]
      exact .inr ⟨m, n, rfl, rfl,
        Number.same_iff.mpr ⟨Number.value?_eq_of_toInt? hm hn, hvalue⟩⟩
  truthy := h.truthy
  kind := h.kind
  text := h.text

theorem Compound.apply_eq (op : Compound) (name : String) {v w v' w' : Value}
    (hv : v.Matches v') (hw : w.Matches w') (line : Line) :
    op.apply name v w line = op.apply name v' w' line := by
  have hn : w.neutralFor = w'.neutralFor := by rw [Value.neutralFor, hw.kind, Value.neutralFor]
  have hnamed {v v' : Value} (hv : v.Matches v') :=
    op.operator.applyNamed_eq hv hw line (Compound.operandNames name)
  cases hv with
  | refl =>
    cases v with
    | none => rw [apply, apply, hn]; exact hnamed (.refl _)
    | bool | number | string | list | record => exact hnamed (.refl _)
  | forms hm hn hk => exact hnamed (.forms hm hn hk)

section Frames

variable {frame frame' : Frame} (h : frame.Matches frame') (session : Session)

include h

theorem Frame.Matches.get (name : String) :
    ((session.push frame).get name).Matches ((session.push frame').get name) := by
  obtain ⟨_, bindings, _, _⟩ := frame
  obtain ⟨_, bindings', _, _⟩ := frame'
  have hb := h.bindings
  simp only [Session.get, Session.push, Frame.get?] at hb ⊢
  clear h
  induction hb with
  | nil => exact .refl _
  | @cons binding binding' _ _ hv _ ih =>
    obtain ⟨bound, value⟩ := binding
    obtain ⟨bound', value'⟩ := binding'
    obtain ⟨hbound, hv⟩ := hv
    dsimp only at hbound hv
    subst hbound
    rw [lookup_cons_eq_ite, lookup_cons_eq_ite]
    split
    · exact hv
    · exact ih

/-- A compound assignment stores the same value in frames that match. -/
theorem Session.assign_compound_related (name : String) (op : Compound) (e : Expr) (line : Line) :
    Result.Related Eq
      (fun s s' => ∃ value,
        s = session.push (frame.set name value) ∧ s' = session.push (frame'.set name value))
      ((session.push frame).assign name (some op) e line)
      ((session.push frame').assign name (some op) e line) := by
  have hd : frame.isDeclared name = frame'.isDeclared name := by
    rw [Frame.isDeclared, h.declared, Frame.isDeclared]
  rw [assign_compound_push, assign_compound_push, hd]
  apply (e.eval_matches (h.get session) line).bind
  intro v w hvw
  rw [op.apply_eq name (h.get session name) hvw]
  split
  · apply (Result.Related.refl Eq.refl Eq.refl _).bind
    rintro value _ rfl
    exact .ok ⟨value, rfl, rfl⟩
  · exact .error rfl

/-- Whether integers are held as such or as floats shows in no expression and no template, and in
no value that a compound assignment stores. -/
theorem Session.forms_unobservable (line : Line) :
    (∀ e : Expr, Result.Related Eq Value.IsIndistinct ((session.push frame).eval e line)
      ((session.push frame').eval e line)) ∧
    (∀ template : Template, template.eval (session.push frame).get line =
      template.eval (session.push frame').get line) ∧
    ∀ name op e, Result.Related Eq
      (fun s s' => ∃ value,
        s = session.push (frame.set name value) ∧ s' = session.push (frame'.set name value))
      ((session.push frame).assign name (some op) e line)
      ((session.push frame').assign name (some op) e line) :=
  ⟨fun e => (e.eval_matches (h.get session) line).mono fun _ _ => Value.Matches.isIndistinct,
    fun template => template.eval_eq (h.get session) line,
    fun name op e => assign_compound_related h session name op e line⟩

end Frames

section Example

/-- A zero and the largest safe integer, held as integers or as floats. -/
def holding (zero largest : Number) : Frame :=
  ⟨"f", [("zero", .number zero), ("n", .number largest)], ["zero", "n"], []⟩

theorem matches_holding :
    (holding (.int 0) (.int 9007199254740992)).Matches
      (holding (.float (.zero true)) (.float (.ofInt 9007199254740992))) where
  function := rfl
  declared := rfl
  args := rfl
  bindings :=
    .cons ⟨rfl, .forms rfl rfl (by decide)⟩
      (.cons ⟨rfl, .forms rfl (show _ = some 9007199254740992 by decide +kernel) (by decide)⟩ .nil)

/-- The sign of a zero does not show when something is divided by it. -/
theorem forms_unobservable_zero :
    (holding (.int 0) (.int 9007199254740992)).Matches
        (holding (.float (.zero true)) (.float (.ofInt 9007199254740992))) ∧
      Result.Related Eq Value.IsIndistinct
        (((Session.start [] none).push (holding (.int 0) (.int 9007199254740992))).eval
          (.binary (.operator .div) (.variableName "n") (.variableName "zero")) none)
        (((Session.start [] none).push
          (holding (.float (.zero true)) (.float (.ofInt 9007199254740992)))).eval
          (.binary (.operator .div) (.variableName "n") (.variableName "zero")) none) :=
  ⟨matches_holding, (Session.forms_unobservable matches_holding (.start [] none) none).1 _⟩

end Example

/-! ## Compound assignments and their operators -/

/-- A compound assignment to a variable that has a value computes what its operator computes. -/
theorem Compound.apply_related (op : Compound) (name : String) {current : Value}
    (h : current ≠ .none) (value : Value) (line : Line) :
    Result.Related (Failure.Corresponds (operandNames name) op.operator.operandNames) Eq
      (op.apply name current value line) (op.operator.apply current value line) := by
  have hnamed := op.operator.applyNamed_related (operandNames name) op.operator.operandNames current
    value line
  cases current with
  | none => exact absurd rfl h
  | bool | number | string | list | record => exact hnamed

theorem Session.assign_related (session : Session) {frame : Frame} {name : String}
    (h : (session.push frame).get name ≠ .none) (hd : frame.isDeclared name) (op : Compound)
    (e : Expr) (line : Line) :
    Result.Related (Failure.Corresponds (Compound.operandNames name) op.operator.operandNames)
      (fun s s' => ∃ value,
        s = session.push (frame.set name value) ∧ s' = session.push (frame.set name value))
      ((session.push frame).assign name (some op) e line)
      ((session.push frame).assign name none
        (.binary (.operator op.operator) (.variableName name) e) line) := by
  have heval : (session.push frame).eval (.binary (.operator op.operator) (.variableName name) e)
      line = (session.push frame).eval e line >>= fun value =>
        op.operator.apply ((session.push frame).get name) value line := rfl
  rw [assign_compound_push, assign_plain_push, heval]
  cases (session.push frame).eval e line with
  | error failure => exact .error (.same failure)
  | ok value =>
    simp only [hd, if_true]
    apply (op.apply_related name h value line).bind
    rintro result _ rfl
    exact .ok ⟨result, rfl, rfl⟩

namespace Machine

/-- Assigning with an operator and assigning the operation both give a declared variable the same
value and leave the others, or both fail over the same operand and leave the session as it is. -/
theorem execute_compound (world : World) (mode : Mode) (machine : Machine) {frame : Frame}
    {rest : List Frame} {name : String} (hf : machine.session.frames = frame :: rest)
    (hd : frame.isDeclared name) (hv : machine.session.get name ≠ .none) (caller : Activation)
    (op : Compound) (e : Expr) (line : Line) (later : List Statement)
    (outer : List (List Statement)) :
    let compound := execute world mode machine caller (.assign name (some op) e line) later outer
    let plain := execute world mode machine caller
      (.assign name none (.binary (.operator op.operator) (.variableName name) e) line) later outer
    (∃ value,
      let frame' := frame.set name value
      let machine' := { machine with session := { machine.session with frames := frame' :: rest } }
      (∀ other, frame'.get? other = if other = name then some value else frame.get? other) ∧
        compound = machine'.continueWith (later :: outer) ∧
        plain = machine'.continueWith (later :: outer)) ∨
    ∃ failure failure',
      failure.Corresponds (Compound.operandNames name) op.operator.operandNames failure' ∧
        compound = machine.fail failure ∧ plain = machine.fail failure' := by
  intro compound plain
  obtain ⟨⟨_, printed, inputs, provider⟩, _, _, _⟩ := machine
  cases hf
  rcases (Session.assign_related ⟨rest, printed, inputs, provider⟩ hv hd op e line).ok_or_error with
    ⟨_, _, hcompound, hplain, value, rfl, rfl⟩ | ⟨failure, failure', hcompound, hplain, hfailure⟩
  · refine .inl ⟨value, fun other => frame.get?_set name other value, ?_, ?_⟩
    · exact congrArg (settle _ (later :: outer)) hcompound
    · exact congrArg (settle _ (later :: outer)) hplain
  · refine .inr ⟨failure, failure', hfailure, ?_, ?_⟩
    · exact congrArg (settle _ (later :: outer)) hcompound
    · exact congrArg (settle _ (later :: outer)) hplain

section Example

/-- About to assign to a variable that holds one. -/
def dividing : Machine :=
  ⟨(Session.start [] none).push ⟨"f", [("x", .number (.int 1))], ["x"], []⟩, ⟨.empty, []⟩,
    [⟨⟨[], none⟩, "f", []⟩], .running⟩

/-- Division of one by a text that denotes zero gives an infinity in both ways. -/
theorem execute_compound_dividing :
    let divisor : Expr := .literal (.string "0") none
    let caller : Activation := ⟨⟨[], none⟩, "f", []⟩
    let compound :=
      execute barren .sync dividing caller (.assign "x" (some .div) divisor none) [] []
    let plain := execute barren .sync dividing caller
      (.assign "x" none (.binary (.operator .div) (.variableName "x") divisor) none) [] []
    dividing.session.get "x" ≠ .none ∧ compound.session = plain.session ∧
      (compound.session.get "x").text = "Infinity" := by
  intro divisor caller compound plain
  have hv : dividing.session.get "x" ≠ .none := by rintro ⟨⟩
  refine ⟨hv, ?_, by decide +kernel⟩
  have hagree :=
    execute_compound barren .sync dividing rfl (by decide) hv caller .div divisor none [] []
  rcases hagree with ⟨value, -, hcompound, hplain⟩ | ⟨failure, failure', -, hcompound, hplain⟩
  · exact congrArg session (hcompound.trans hplain.symm)
  · exact (congrArg session hcompound).trans (congrArg session hplain).symm

end Example

end Machine

end DocScript
