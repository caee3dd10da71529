import DocScript.Proofs.Expr.Reads
import DocScript.Proofs.Expr.Taking
import DocScript.Proofs.Number.Safe

/-! # Texts that are no expressions

An expression fails to read by a syntax error without a line, or by a fault if it has an integer
numeral over the limit.
-/

namespace DocScript

/-- Whether a text has a run of so many digits in it. -/
def HasDigits (text : List Char) (n : Nat) : Prop :=
  ∃ run ds, run <:+: text ∧ Digits run ds ∧ ds.length = n

/-- Whether a failure is a syntax error without a line. -/
def Failure.IsMalformed (failure : Failure) : Prop :=
  ∃ cause : Cause, cause.kind = .malformed ∧ failure = cause.failure none

/-- Whether a failure is the fault of a numeral in a text, one over the limit. -/
def Failure.IsOfDigits (text : List Char) (failure : Failure) : Prop :=
  ∃ n, Numeral.maxDigits < n ∧ HasDigits text n ∧ failure = .fault (.tooManyDigits n)

variable {text : List Char}

theorem HasDigits.infix {part : List Char} {n : Nat} (h : HasDigits part n)
    (hp : part <:+: text) : HasDigits text n := by
  obtain ⟨run, ds, hr, hd, hl⟩ := h
  exact ⟨run, ds, hr.trans hp, hd, hl⟩

theorem NumberText.hasDigits {numeral : Numeral} (h : NumberText text numeral) :
    HasDigits text numeral.whole.length := by
  cases h with
  | whole hd _ _ => exact ⟨_, _, (List.prefix_append _ _).isInfix, hd, rfl⟩
  | point hd _ _ _ => exact ⟨_, _, (List.prefix_append _ _).isInfix, hd, rfl⟩
  | fraction _ _ _ => exact ⟨[], [], List.nil_infix, .nil, rfl⟩

/-- Whether the numeral that a place has found, if it is over the limit, stands in a text. -/
def Place.IsIn (text : List Char) : Place Expr → Prop
  | .operator _ (.error e) => Numeral.maxDigits < e.digits ∧ HasDigits text e.digits
  | _ => True

variable {place next : Place Expr} {t : Token}

theorem isIn_afterOperand {openings : List (Opening Expr)} {mayClose : Bool}
    (hl : t.Lexical) (ht : t.text.toList <:+: text)
    (h : Place.afterOperand Expr.builder openings mayClose t = some next) : next.IsIn text := by
  cases t with
  | name => cases h; trivial
  | string => cases h; trivial
  | number numeral source =>
    cases h
    cases hl with
    | number hn =>
      simp only [Expr.builder, Expr.ofNumeral]
      cases hv : numeral.value false with
      | ok n => trivial
      | error e =>
        obtain ⟨-, he, hm⟩ := Numeral.value_eq_error hv
        rw [← he] at hm
        exact ⟨hm, he ▸ hn.hasDigits.infix ht⟩
  | symbol s =>
    unfold Place.afterOperand at h
    split at h
    all_goals first
      | (cases h; trivial)
      | (split at h <;> cases h; trivial)
      | cases h

theorem isIn_afterSymbol {openings : List (Opening Expr)} {e : Expr} {s : Symbol}
    (h : Place.afterSymbol Expr.builder openings e s = some next) : next.IsIn text := by
  cases s with
  | binary => cases h; trivial
  | dot => cases h; trivial
  | openBracket => cases h; trivial
  | openParen => cases h; trivial
  | not => cases h
  | closeParen | closeBracket | comma =>
    simp only [Place.afterSymbol] at h
    split at h <;> cases h <;> trivial

theorem isIn_next? (hl : t.Lexical) (ht : t.text.toList <:+: text)
    (h : place.next? Expr.builder t = .ok (some next)) : next.IsIn text := by
  unfold Place.next? at h
  split at h
  · exact isIn_afterOperand hl ht (Except.ok.inj h)
  · cases h
  · rename_i openings found s _
    cases found with
    | error e => cases h
    | ok e => exact isIn_afterSymbol (Except.ok.inj h)
  · cases h
  · cases h
    trivial
  · cases h

theorem Place.IsIn.next?_error (hp : place.IsIn text) {e : TooManyDigits}
    (h : place.next? Expr.builder t = .error e) :
    Numeral.maxDigits < e.digits ∧ HasDigits text e.digits := by
  unfold Place.next? at h
  split at h
  any_goals cases h
  rename_i openings found s _
  cases found with
  | error e => cases h; exact hp
  | ok e => cases h

theorem Place.IsIn.finish?_error (hp : place.IsIn text) {e : TooManyDigits}
    (h : place.finish? Expr.builder = .error e) :
    Numeral.maxDigits < e.digits ∧ HasDigits text e.digits := by
  unfold Place.finish? at h
  split at h
  · rename_i openings found
    cases found with
    | error e => cases h; exact hp
    | ok e => cases h
  · cases h

theorem liftDigits_error {α : Type} {found : Except TooManyDigits α} {failure : Failure}
    (h : liftDigits found = .error failure) :
    ∃ e, found = .error e ∧ failure = .fault (.tooManyDigits e.digits) := by
  cases found <;> cases h
  exact ⟨_, rfl, rfl⟩

theorem Result.bind_eq_error {α β : Type} {result : Result α} {f : α → Result β}
    {failure : Failure} (h : result >>= f = .error failure) :
    result = .error failure ∨ ∃ a, result = .ok a ∧ f a = .error failure := by
  cases result with
  | error other =>
    cases h
    exact .inl rfl
  | ok a => exact .inr ⟨a, rfl, h⟩

theorem Digits.dropWhile_isBlank {cs : List Char} {ds : List Nat} (h : Digits cs ds) :
    cs.dropWhile Text.isBlank = cs := by
  cases h with
  | nil => rfl
  | cons hc _ => rw [List.dropWhile_cons_of_neg (by simp [not_isBlank_of_digit hc])]

namespace Expr

theorem parseFrom_error {text : String} {place : Place Expr} {rest : List Char} {failure : Failure}
    (hp : place.IsIn text.toList) (hs : rest <:+ text.toList)
    (h : parseFrom text place rest = .error failure) :
    failure.IsMalformed ∨ failure.IsOfDigits text.toList := by
  fun_induction parseFrom text place rest with
  | case1 place rest hr =>
    rcases Result.bind_eq_error h with h | ⟨found, -, h⟩
    · obtain ⟨e, he, rfl⟩ := liftDigits_error h
      obtain ⟨hm, hd⟩ := hp.finish?_error he
      exact .inr ⟨e.digits, hm, hd, rfl⟩
    · cases found <;> cases h
      exact .inl ⟨_, rfl, rfl⟩
  | case2 =>
    cases h
    exact .inl ⟨_, rfl, rfl⟩
  | case3 place rest c cs hr index t left ht _ ih =>
    obtain ⟨hl, hc⟩ := lexical_of_take? ht
    have hd : c :: cs <:+ text.toList := by
      rw [← hr]
      exact (List.dropWhile_suffix _).trans hs
    rcases Result.bind_eq_error h with h | ⟨found, hf, h⟩
    · obtain ⟨e, he, rfl⟩ := liftDigits_error h
      obtain ⟨hm, hd⟩ := hp.next?_error he
      exact .inr ⟨e.digits, hm, hd, rfl⟩
    · cases found with
      | none =>
        cases h
        exact .inl ⟨_, rfl, rfl⟩
      | some next =>
        rw [hc] at hd
        have ht : t.text.toList <:+: text.toList :=
          (List.prefix_append _ left).isInfix.trans hd.isInfix
        exact ih next (isIn_next? hl ht (liftDigits_eq_ok.mp hf))
          ((List.suffix_append _ left).trans hd) h

/-- What is no expression fails to read by a syntax error, or by the fault of a numeral in it. -/
theorem parse_error {text : String} {failure : Failure} (h : parse text = .error failure) :
    failure.IsMalformed ∨ failure.IsOfDigits text.toList := by
  unfold parse at h
  split at h
  · cases h
    exact .inl ⟨_, rfl, rfl⟩
  · have hp : (Place.operand [] false : Place Expr).IsIn text.toList := trivial
    exact parseFrom_error hp (List.suffix_refl _) h

theorem parseFrom_overlong (text : String) (openings : List (Opening Expr)) (e : TooManyDigits) :
    parseFrom text (.operator openings (.error e)) [] =
      .error (.fault (.tooManyDigits e.digits)) := by
  rw [parseFrom]
  rfl

/-- A text that is an integer numeral over the limit fails to read by a fault. -/
theorem parse_overlong {text : String} {ds : List Nat} (h : Digits text.toList ds)
    (hm : Numeral.maxDigits < ds.length) :
    parse text = .error (.fault (.tooManyDigits ds.length)) := by
  have hn : NumberText text.toList ⟨ds, false, [], none⟩ := by
    have hne : ds ≠ [] := List.ne_nil_of_length_pos (Nat.zero_lt_of_lt hm)
    have hw := NumberText.whole h hne .none
    rwa [List.append_nil] at hw
  have ht : Token.take? .operand text.toList = some (.number ⟨ds, false, [], none⟩ text, []) := by
    have hb : Bounded [] := nofun
    have hf : ¬Misread .operand (.number ⟨ds, false, [], none⟩ text) := nofun
    have ht := take?_lexical_number hn hb hf
    rwa [List.append_nil] at ht
  have hv : ofNumeral ⟨ds, false, [], none⟩ text = .error ⟨ds.length⟩ := by
    simp [ofNumeral, Numeral.value, Numeral.isInteger, hm, Except.map]
  have hd := h.dropWhile_isBlank
  have hne : text.toList ≠ [] := by
    rintro he
    rw [he] at ht
    cases ht
  have htrim : ¬Text.trim text.toList = [] := fun he => hne (hd ▸ dropWhile_of_trim he)
  rw [parse, if_neg htrim, parseFrom]
  split
  · rename_i hr
    exact absurd (hd ▸ hr) hne
  · rename_i c cs hr
    rw [hd] at hr
    rw [hr] at ht
    split
    · rename_i hnone
      cases ht.symm.trans hnone
    · rename_i token left hsome
      cases ht.symm.trans hsome
      have hp : parseFrom text (.operator [] (ofNumeral ⟨ds, false, [], none⟩ text)) [] = _ :=
        hv ▸ parseFrom_overlong text [] ⟨ds.length⟩
      exact hp

end Expr

end DocScript
