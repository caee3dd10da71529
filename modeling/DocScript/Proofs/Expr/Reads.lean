import DocScript.Proofs.Expr.Parsing

/-! # Reading to the end of a text

What parsing an expression finds is given by the tokens in turn and the places between them. So
statements about expressions that have been read are proved by induction over their tokens.
-/

namespace DocScript

/-- Reading from a place takes a text to its end and finds an expression. -/
inductive Reads : Place Expr → List Char → Expr → Prop
  | ends {place : Place Expr} {rest : List Char} {e : Expr}
      (hrest : rest.dropWhile Text.isBlank = [])
      (hfinish : place.finish? Expr.builder = .ok (some e)) : Reads place rest e
  | token {place next : Place Expr} {rest left : List Char} {t : Token} {e : Expr}
      (htake : Token.take? place.expected (rest.dropWhile Text.isBlank) = some (t, left))
      (hnext : place.next? Expr.builder t = .ok (some next)) (h : Reads next left e) :
      Reads place rest e

theorem Place.finish?_eq_ok {α : Type} {build : Builder α} {place : Place α} {a : α}
    (h : place.finish? build = .ok (some a)) :
    ∃ openings found, place = .operator openings (.ok found) ∧
      settle build 0 openings found = ([], a) := by
  unfold Place.finish? at h
  split at h
  · rename_i openings found
    cases found with
    | error e => cases h
    | ok found =>
      refine ⟨openings, found, rfl, ?_⟩
      rcases hs : settle build 0 openings found with ⟨_ | ⟨opening, rest⟩, e⟩
      · simp only [Except.map, hs] at h
        cases h
        rfl
      · simp only [Except.map, hs] at h
        cases h
  · cases h

namespace Expr

variable {text : String} {e : Expr}

theorem liftDigits_eq_ok {α : Type} {found : Except TooManyDigits α} {a : α} :
    liftDigits found = .ok a ↔ found = .ok a := by
  cases found <;> simp [liftDigits]

theorem eq_ok_of_mapError {result : Result Expr}
    (h : result.mapError Failure.kind? = outcome (some e)) : result = .ok e :=
  (ok_iff_mapError_eq_outcome h e).mpr rfl

theorem parseFrom_eq_ok_iff {place : Place Expr} {rest : List Char} :
    parseFrom text place rest = .ok e ↔ Reads place rest e := by
  constructor
  · intro h
    fun_induction parseFrom text place rest with
    | case1 place rest hr =>
      obtain ⟨found, hf, h⟩ := Result.bind_eq_ok.mp h
      cases found with
      | none => cases h
      | some found =>
        cases h
        exact .ends hr (liftDigits_eq_ok.mp hf)
    | case2 => cases h
    | case3 place rest c cs hr index t left ht _ ih =>
      obtain ⟨found, hf, h⟩ := Result.bind_eq_ok.mp h
      cases found with
      | none => cases h
      | some next => exact .token (hr ▸ ht) (liftDigits_eq_ok.mp hf) (ih next h)
  · intro h
    apply eq_ok_of_mapError
    induction h with
    | ends hrest hfinish => exact parseFrom_end text _ hrest hfinish
    | token htake hnext _ ih => exact (parseFrom_token text _ rfl htake hnext).trans ih

theorem parse_eq_ok_iff : parse text = .ok e ↔ Reads (.operand [] false) text.toList e := by
  have hfrom : parseFrom text (.operand [] false) text.toList = .ok e ↔ _ := parseFrom_eq_ok_iff
  rw [← hfrom]
  have h := parse_eq_parseFrom text
  constructor
  · intro he
    apply eq_ok_of_mapError
    rw [← h, he]
    rfl
  · intro he
    apply eq_ok_of_mapError
    rw [h, he]
    rfl

end Expr

end DocScript
