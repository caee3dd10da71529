import DocScript.Proofs.Expr.Literals
import DocScript.Proofs.Expr.Operators

/-! # Safe evaluation

What an expression makes of safe variables is safe. Lengths are the one thing that is not clamped,
so this needs that no text or list is measured that is longer than the bound of exact integers. The
same is so of every hereditary property: values are made safe, or handed on as they are.
-/

namespace DocScript

theorem mem_of_itemAt? {α : Type} {items : List α} {index : Number} {item : α}
    (h : itemAt? items index = some item) : item ∈ items := by
  unfold itemAt? at h
  split at h
  · exact List.mem_of_getElem? h
  · cases h

theorem Field.exists_of_find? {key : Key} {fields : List Field} {value : Value}
    (h : Field.find? key fields = some value) : ∃ field ∈ fields, field.value = value := by
  induction fields with
  | nil => cases h
  | cons field rest ih =>
    rw [Field.find?] at h
    split at h
    · exact ⟨field, List.mem_cons_self, Option.some.inj h⟩
    · obtain ⟨other, ho, hv⟩ := ih h
      exact ⟨other, List.mem_cons_of_mem field ho, hv⟩

namespace Value

variable {P : Value → Prop} {key : Key} {value : Value}

/-- The length of a text or of a list. -/
def length? : Value → Option Nat
  | .string s => some s.length
  | .list _ items => some items.length
  | _ => Option.none

/-- Whether the length of a value is safe, if it has one. No memory holds a text or a list for which
it is not. -/
def Fits (value : Value) : Prop := ∀ n ∈ value.length?, n ≤ maxSafe

theorem isSafe_length {n : Nat} (h : n ≤ maxSafe) : (Value.number (.int n)).IsSafe :=
  isSafe_number.mpr h

theorem isSafe_pick (point : Option Point) : (pointMember.pick point).IsSafe := by
  cases point with
  | none => exact isSafe_none
  | some point => exact isSafe_string _

theorem isSafe_pointMember {s : Points} (hf : key = .text "length" → s.length ≤ maxSafe)
    (h : pointMember s key = .ok value) : value.IsSafe := by
  cases key with
  | text key =>
    rw [pointMember] at h
    split at h
    · rename_i hk
      cases h
      exact isSafe_length (hf (congrArg Key.text hk))
    · split at h
      · cases h
        exact isSafe_none
      · obtain ⟨index, -, rfl⟩ := Result.map_eq_ok.mp h
        exact isSafe_pick _
  | number index =>
    cases h
    exact isSafe_pick _

namespace Hereditary

theorem none (hP : Hereditary P) : P .none := hP.safe _ isSafe_none

theorem getD_item (hP : Hereditary P) {identity : Nat} {items : List Value}
    (h : P (list identity items)) (index : Number) : P ((itemAt? items index).getD .none) := by
  cases hi : itemAt? items index with
  | none => exact hP.none
  | some item => exact hP.item h (mem_of_itemAt? hi)

theorem itemMember (hP : Hereditary P) {identity : Nat} {items : List Value}
    (hs : P (list identity items)) (hf : key = .text "length" → items.length ≤ maxSafe)
    (h : itemMember items key = .ok value) : P value := by
  cases key with
  | text key =>
    rw [Value.itemMember] at h
    split at h
    · rename_i hk
      cases h
      exact hP.safe _ (isSafe_length (hf (congrArg Key.text hk)))
    · obtain ⟨index?, -, rfl⟩ := Result.map_eq_ok.mp h
      cases index? with
      | none => exact hP.none
      | some index => exact hP.getD_item hs index
  | number index =>
    cases h
    exact hP.getD_item hs index

theorem getD_field (hP : Hereditary P) {identity : Nat} {fields : List Field}
    (h : P (record identity fields)) (key : Key) : P ((Field.find? key fields).getD .none) := by
  cases hv : Field.find? key fields with
  | none => exact hP.none
  | some value =>
    obtain ⟨field, hm, rfl⟩ := Field.exists_of_find? hv
    exact hP.field h hm

theorem fieldMember (hP : Hereditary P) {identity : Nat} {fields : List Field}
    (hs : P (record identity fields)) (h : fieldMember fields key = .ok value) : P value := by
  rw [Value.fieldMember] at h
  split at h
  · rename_i hv
    cases h
    have hd := hP.getD_field hs key
    rwa [hv] at hd
  · obtain ⟨spelled, -, rfl⟩ := Result.map_eq_ok.mp h
    exact hP.getD_field hs _

theorem member (hP : Hereditary P) {object : Value} (hs : P object)
    (hf : key = .text "length" → object.Fits) (h : object.member key = .ok value) : P value := by
  cases object with
  | string s => exact hP.safe _ (isSafe_pointMember (fun hk => hf hk _ rfl) h)
  | list identity items => exact hP.itemMember hs (fun hk => hf hk _ rfl) h
  | record identity fields => exact hP.fieldMember hs h
  | none | bool | number =>
    cases h
    exact hP.none

end Hereditary

theorem eq_of_expectKey {context : String} {line : Line} {text : Points}
    (h : value.expectKey context line = .ok (.text text)) : value = .string text := by
  cases value <;> cases h
  rfl

end Value

/-- The members that an expression reads, each by its object and its key. -/
def Expr.accesses : Expr → List (Expr × Expr)
  | .literal _ _ => []
  | .variableName _ => []
  | .binary _ left right => left.accesses ++ right.accesses
  | .unary _ operand => operand.accesses
  | .member object name => (object, .literal (.string name) none) :: object.accesses
  | .index object key => (object, key) :: (object.accesses ++ key.accesses)
  | .call _ _ => []

/-- Whether all values that an expression takes the length of fit. -/
def Expr.Fits (lookup : String → Value) (e : Expr) : Prop :=
  ∀ access ∈ e.accesses, ∀ line value, access.1.eval lookup line = .ok value →
    access.2.eval lookup line = .ok (.string "length") → value.Fits

theorem Expr.Fits.mono {lookup : String → Value} {e e' : Expr} (h : e.Fits lookup)
    (hs : e'.accesses ⊆ e.accesses) : e'.Fits lookup :=
  fun access ha => h access (hs ha)

theorem Expr.Holds.eval {P : Value → Prop} (hP : Value.Hereditary P) {lookup : String → Value}
    (hl : ∀ name, P (lookup name)) {line : Line} {e : Expr} (he : e.Holds P) (hf : e.Fits lookup)
    {value : Value} (h : e.eval lookup line = .ok value) : P value := by
  fun_induction Expr.eval lookup line e generalizing value with
  | case1 literal =>
    cases h
    exact he
  | case2 name =>
    cases h
    exact hl name
  | case3 left right ihleft ihright =>
    obtain ⟨a, ha, h⟩ := Result.bind_eq_ok.mp h
    split at h
    · exact ihright he.2 (hf.mono (List.subset_append_right _ _)) h
    · cases h
      exact ihleft he.1 (hf.mono (List.subset_append_left _ _)) ha
  | case4 left right ihleft ihright =>
    obtain ⟨a, ha, h⟩ := Result.bind_eq_ok.mp h
    split at h
    · cases h
      exact ihleft he.1 (hf.mono (List.subset_append_left _ _)) ha
    · exact ihright he.2 (hf.mono (List.subset_append_right _ _)) h
  | case5 op left right =>
    obtain ⟨a, -, h⟩ := Result.bind_eq_ok.mp h
    obtain ⟨b, -, h⟩ := Result.bind_eq_ok.mp h
    exact hP.safe value ((op.applyNamed_ends a b line _).of_eq_ok h)
  | case6 op operand =>
    obtain ⟨a, -, h⟩ := Result.bind_eq_ok.mp h
    exact hP.safe value ((op.apply_ends a line).of_eq_ok h)
  | case7 object name ih =>
    obtain ⟨a, ha, h⟩ := Result.bind_eq_ok.mp h
    refine hP.member (ih he (hf.mono (List.subset_cons_self _ _)) ha) ?_ h
    intro hk
    refine hf _ List.mem_cons_self line a ha ?_
    rw [Expr.eval, Key.text.inj hk]
  | case8 object key ihobject =>
    obtain ⟨a, ha, h⟩ := Result.bind_eq_ok.mp h
    obtain ⟨b, hb, h⟩ := Result.bind_eq_ok.mp h
    obtain ⟨k, hk, h⟩ := Result.bind_eq_ok.mp h
    have hobject : object.Fits lookup :=
      hf.mono (List.subset_cons_of_subset _ (List.subset_append_left _ _))
    refine hP.member (ihobject he.1 hobject ha) ?_ h
    -- The object is measured only if the key is a text, and no other value gives that text.
    rintro rfl
    rw [Value.eq_of_expectKey hk] at hb
    exact hf _ List.mem_cons_self line a ha hb
  | case9 => cases h

end DocScript
