import DocScript.Proofs.Number.Safe
import DocScript.Value.Basic

/-! # Safe values

The integers of a value are the one that it is and those that it holds at any depth, in lists and
in the keys and values of records. A value is safe if all of them are up to the bound of exact ones.
-/

namespace DocScript

namespace Value

def IsSafe (value : Value) : Prop := ∀ n ∈ value.integers, n.natAbs ≤ maxSafe

theorem isSafe_none : IsSafe .none := nofun

theorem isSafe_bool (b : Bool) : (Value.bool b).IsSafe := nofun

theorem isSafe_string (s : Points) : (Value.string s).IsSafe := nofun

theorem isSafe_number {n : Number} : (Value.number n).IsSafe ↔ n.IsSafe := by
  cases n with
  | int n => exact List.forall_mem_singleton
  | float x => exact ⟨fun _ => trivial, fun _ => nofun⟩

theorem isSafe_clamp {value : Value} (h : value.IsSafe) : value.clamp.IsSafe := by
  cases value with
  | number n => exact isSafe_number.mpr (Number.isSafe_clamp n)
  | none | bool | string | list | record => exact h

theorem integers_subset_items {items : List Value} {value : Value} (h : value ∈ items) :
    value.integers ⊆ itemIntegers items := by
  induction items with
  | nil => cases h
  | cons item rest ih =>
    rw [itemIntegers]
    rcases List.mem_cons.mp h with rfl | h
    · exact List.subset_append_left _ _
    · exact List.subset_append_of_subset_right _ (ih h)

theorem integers_subset_fields {fields : List Field} {field : Field} (h : field ∈ fields) :
    field.value.integers ⊆ fieldIntegers fields := by
  induction fields with
  | nil => cases h
  | cons first rest ih =>
    obtain ⟨key, value⟩ := first
    rw [fieldIntegers]
    rcases List.mem_cons.mp h with rfl | h
    · exact List.subset_append_of_subset_left _ (List.subset_append_right _ _)
    · exact List.subset_append_of_subset_right _ (ih h)

/-- Whether a property holds of all safe values, and with a list or a record of what is in it. -/
structure Hereditary (P : Value → Prop) : Prop where
  safe : ∀ value, value.IsSafe → P value
  item : ∀ {identity items value}, P (list identity items) → value ∈ items → P value
  field : ∀ {identity fields field}, P (record identity fields) → field ∈ fields → P field.value

/-- What is said of each integer in a value, and is so of all safe integers, is hereditary. -/
theorem hereditary_integers {Q : Int → Prop} (hq : ∀ n, n.natAbs ≤ maxSafe → Q n) :
    Hereditary fun value => ∀ n ∈ value.integers, Q n where
  safe _ h n hn := hq n (h n hn)
  item h hv n hn := h n (integers_subset_items hv hn)
  field h hf n hn := h n (integers_subset_fields hf hn)

theorem hereditary_isSafe : Hereditary IsSafe := hereditary_integers fun _ => id

end Value

end DocScript
