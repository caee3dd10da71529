import DocScript.Proofs.Expr.Forms
import DocScript.Proofs.Text.Points

/-! # Equality

Strict equality holds between values that are one: of one kind, and then by text, by exact numeric
value or by identity. Loose equality is the same within a kind, and takes scalars of two kinds for
numbers.
-/

namespace DocScript

/-- Whether two values are one. NaN is not one with anything. -/
inductive Value.IsOne : Value → Value → Prop
  | none : IsOne .none .none
  | bool (b : Bool) : IsOne (.bool b) (.bool b)
  | number {m n : Number} {x : Extended} (hm : m.value? = some x) (hn : n.value? = some x) :
    IsOne (.number m) (.number n)
  | string (s : Points) : IsOne (.string s) (.string s)
  | object {v w : Value} {identity : Nat} (hv : v.identity? = some identity)
    (hw : w.identity? = some identity) : IsOne v w

/-- Whether a value is no integer numeral over the limit on digits. -/
def Value.InLimit (value : Value) : Prop :=
  ∀ (s : String) (digits : Nat), value = .string s → ¬IsOverlong s digits

theorem Value.InLimit.exists_numberOfText? {text : Points} (h : (Value.string text).InLimit) :
    ∃ n, Result.numberOfText? text = .ok n := by
  unfold Result.numberOfText?
  split
  · rename_i s hs
    obtain rfl := Points.string?_eq_some.mp hs
    cases hn : numberOfText? s with
    | ok n => exact ⟨n, rfl⟩
    | error e => exact absurd (numberOfText?_eq_error_iff.mp hn) (h s e.digits rfl)
  · exact ⟨_, rfl⟩

namespace Value

variable {a b c : Value}

theorem isSameObject_iff : a.isSameObject b = true ↔
    ∃ identity, a.identity? = some identity ∧ b.identity? = some identity := by
  unfold isSameObject
  cases a.identity? <;> cases b.identity? <;> simp [eq_comm]

theorem kind_of_identity? {identity : Nat} (h : a.identity? = some identity) :
    a.kind = .object := by
  cases a with
  | none | bool | number | string => cases h
  | list | record => rfl

theorem isOne_number_iff {m n : Number} :
    (Value.number m).IsOne (.number n) ↔ ∃ x, m.value? = some x ∧ n.value? = some x := by
  constructor
  · rintro (_ | _ | ⟨hm, hn⟩ | _ | ⟨hv, _⟩)
    · exact ⟨_, hm, hn⟩
    · cases hv
  · rintro ⟨x, hm, hn⟩
    exact .number hm hn

theorem isOne_object_iff {identity : Nat} (h : a.identity? = some identity) :
    a.IsOne b ↔ b.identity? = some identity := by
  constructor
  · rintro (_ | _ | _ | _ | ⟨ha, hb⟩)
    any_goals cases h
    rwa [← h, ha]
  · exact .object h

theorem strictEquals_iff : a.strictEquals b = true ↔ a.IsOne b := by
  constructor
  · intro h
    unfold strictEquals at h
    split at h
    · exact .none
    · obtain rfl := of_decide_eq_true h
      exact .bool _
    · obtain ⟨he, hn⟩ := Number.same_iff.mp h
      obtain ⟨x, hx⟩ := Option.ne_none_iff_exists'.mp hn
      exact .number (he.trans hx) hx
    · obtain rfl := of_decide_eq_true h
      exact .string _
    · obtain ⟨identity, ha, hb⟩ := isSameObject_iff.mp h
      exact .object ha hb
  · rintro (_ | _ | ⟨hm, hn⟩ | _ | ⟨ha, hb⟩)
    · rfl
    · simp [strictEquals]
    · exact Number.same_iff.mpr ⟨hm.trans hn.symm, by simp [hn]⟩
    · simp [strictEquals]
    · have h := isSameObject_iff.mpr ⟨_, ha, hb⟩
      cases a with
      | none | bool | number | string => cases ha
      | list | record => cases b <;> exact h

theorem IsOne.trans (h : a.IsOne b) (h' : b.IsOne c) : a.IsOne c := by
  cases h with
  | none | bool | string => exact h'
  | number hm hn =>
    cases h' with
    | number hn' hk => exact .number hm (hk.trans (hn'.symm.trans hn))
    | object hv _ => cases hv
  | object ha hb => exact .object ha ((isOne_object_iff hb).mp h')

theorem IsOne.kind_eq (h : a.IsOne b) : a.kind = b.kind := by
  cases h with
  | none | bool | number | string => rfl
  | object ha hb => rw [kind_of_identity? ha, kind_of_identity? hb]

theorem isOne_self_iff : a.IsOne a ↔ a ≠ .number (.float .nan) := by
  cases a with
  | number n =>
    rw [isOne_number_iff, ne_eq, Value.number.injEq, ← Number.value?_eq_none_iff,
      ← ne_eq, Option.ne_none_iff_exists']
    simp
  | none => simp [IsOne.none]
  | bool b => simp [IsOne.bool b]
  | string s => simp [IsOne.string s]
  | list identity items | record identity items =>
    exact iff_of_true (@IsOne.object _ _ identity rfl rfl) nofun

/-- Within a kind, loose equality is strict equality. -/
theorem looseEquals_of_kind_eq (h : a.kind = b.kind) :
    a.looseEquals b = .ok (a.strictEquals b) := by
  cases a <;> cases b
  case bool.bool p q => cases p <;> cases q <;> rfl
  case number.number m n => rfl
  all_goals simp [kind] at h
  all_goals simp [looseEquals, isScalar, kind, strictEquals]

theorem exists_comparand? (h : a.InLimit) : ∃ n, a.comparand? = .ok n := by
  cases a with
  | string s =>
    obtain ⟨n, hn⟩ := h.exists_numberOfText?
    rw [comparand?, hn]
    exact ⟨_, rfl⟩
  | none | bool | number | list | record => exact ⟨_, rfl⟩

theorem exists_looseEquals (ha : a.InLimit) (hb : b.InLimit) : ∃ r, a.looseEquals b = .ok r := by
  obtain ⟨m, hm⟩ := exists_comparand? ha
  obtain ⟨n, hn⟩ := exists_comparand? hb
  unfold looseEquals
  split
  · exact ⟨_, rfl⟩
  · exact ⟨_, rfl⟩
  · exact ⟨_, rfl⟩
  · exact ⟨_, rfl⟩
  · split
    · rw [hm, hn]
      cases m <;> cases n <;> exact ⟨_, rfl⟩
    · exact ⟨_, rfl⟩

theorem looseEquals_none : a.looseEquals .none = .ok true ↔ a = .none := by
  cases a <;> simp [looseEquals]

/-- An object equals itself alone, also loosely. -/
theorem looseEquals_of_identity? {identity : Nat} (h : a.identity? = some identity) :
    a.looseEquals b = .ok true ↔ b.identity? = some identity := by
  cases a with
  | none | bool | number | string => cases h
  | list | record =>
    cases h
    cases b <;> simp [looseEquals, isScalar, kind, isSameObject, identity?, eq_comm]

/-- Both equalities are symmetric, and strict equality is transitive and reflexive, at NaN apart. It
holds only within a kind, where it is loose equality, and says that values are one. Loose equality
has an answer for all values, only no value equals no value, and an object equals itself alone. -/
theorem equality_laws (ha : a.InLimit) (hb : b.InLimit) (c : Value) :
    (∃ r, a.looseEquals b = .ok r ∧ b.looseEquals a = .ok r) ∧
      a.strictEquals b = b.strictEquals a ∧
      (a.strictEquals b = true → b.strictEquals c = true → a.strictEquals c = true) ∧
      (a.strictEquals a = true ↔ a ≠ .number (.float .nan)) ∧
      (a.strictEquals b = true → a.looseEquals b = .ok true ∧ a.kind = b.kind) ∧
      (a.kind = b.kind → a.looseEquals b = .ok (a.strictEquals b)) ∧
      (a.looseEquals .none = .ok true ↔ a = .none) ∧
      (a.strictEquals b = true ↔ a.IsOne b) ∧
      ∀ identity, a.identity? = some identity →
        (a.looseEquals b = .ok true ↔ b.identity? = some identity) := by
  refine ⟨?_, strictEquals_comm a b, ?_, ?_, ?_, looseEquals_of_kind_eq, looseEquals_none,
    strictEquals_iff, fun _ => looseEquals_of_identity?⟩
  · obtain ⟨r, hr⟩ := exists_looseEquals ha hb
    exact ⟨r, hr, (looseEquals_comm b a).trans hr⟩
  · simp only [strictEquals_iff]
    exact IsOne.trans
  · rw [strictEquals_iff, isOne_self_iff]
  · intro h
    have hkind := (strictEquals_iff.mp h).kind_eq
    rw [looseEquals_of_kind_eq hkind, h]
    exact ⟨rfl, hkind⟩

theorem inLimit_one : (Value.string "1").InLimit := by
  rintro s digits hs ⟨-, hlength, hlong⟩
  obtain rfl := Points.ofString_inj.mp (Value.string.inj hs)
  subst hlength
  revert hlong
  decide +kernel

/-- A numeral equals its number loosely, in either order, and not strictly. -/
theorem equality_laws_numeral :
    (Value.string "1").InLimit ∧ (Value.number (.int 1)).InLimit ∧
      (Value.string "1").looseEquals (.number (.int 1)) = .ok true ∧
      (Value.number (.int 1)).looseEquals (.string "1") = .ok true ∧
      (Value.string "1").strictEquals (.number (.int 1)) = false := by
  have hn : (Value.number (.int 1)).InLimit := nofun
  have hloose : (Value.string "1").looseEquals (.number (.int 1)) = .ok true := by rfl
  obtain ⟨⟨r, hr, hr'⟩, -, -, -, hstrict, -⟩ := equality_laws inLimit_one hn .none
  cases hloose.symm.trans hr
  refine ⟨inLimit_one, hn, hloose, hr', Bool.eq_false_iff.mpr fun h => ?_⟩
  cases (hstrict h).2

end Value

end DocScript
