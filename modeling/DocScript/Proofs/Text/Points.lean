import DocScript.Text.Points
import Mathlib.Data.List.Basic

/-! # Texts of strings

A string is a text without halves of pairs, and is the only string with that text. A point is the
one that has its code.
-/

namespace DocScript

namespace Point

theorem code_char_lt (c : Char) : c.toNat < firstHalf ∨ firstHalf + 0x800 ≤ c.toNat := by
  have hv : c.toNat < 0xD800 ∨ 0xDFFF < c.toNat ∧ c.toNat < 0x110000 := c.valid
  simp only [firstHalf]
  omega

@[simp] theorem ofCode_code (point : Point) : ofCode point.code = point := by
  cases point with
  | char c =>
    have hc := code_char_lt c
    rw [ofCode, dif_neg (by simp only [code]; omega), code, Char.ofNat_toNat]
  | half index =>
    have hsub : (half index).code - firstHalf = index := Nat.add_sub_cancel_left ..
    rw [ofCode, dif_pos ⟨by omega, Nat.le_add_right ..⟩]
    exact congrArg half (Fin.ext hsub)

theorem code_lt (point : Point) : point.code < 0x110000 := by
  cases point with
  | char c =>
    have hv : c.toNat < 0xD800 ∨ 0xDFFF < c.toNat ∧ c.toNat < 0x110000 := c.valid
    simp only [code]
    omega
  | half index =>
    simp only [code, firstHalf]
    omega

end Point

namespace Points

variable {text : Points} {s t : String} {cs ds : List Char}

@[simp] theorem ofChars_nil : ofChars [] = [] := rfl

@[simp] theorem ofChars_cons (c : Char) (cs : List Char) :
    ofChars (c :: cs) = .char c :: ofChars cs := rfl

@[simp] theorem ofChars_append (cs ds : List Char) :
    ofChars (cs ++ ds) = ofChars cs ++ ofChars ds := List.map_append

@[simp] theorem ofChars_inj : ofChars cs = ofChars ds ↔ cs = ds :=
  List.map_inj_right fun _ _ h => Point.char.inj h

@[simp] theorem ofString_ofList (cs : List Char) : ofString (String.ofList cs) = ofChars cs := by
  rw [ofString, String.toList_ofList]

@[simp] theorem ofString_inj : ofString s = ofString t ↔ s = t := by
  rw [ofString, ofString, ofChars_inj, String.toList_inj]

theorem mapM_char?_eq_some : text.mapM Point.char? = some cs ↔ text = ofChars cs := by
  induction text generalizing cs with
  | nil => cases cs <;> simp
  | cons point rest ih =>
    cases point with
    | char c =>
      simp only [List.mapM_cons, Point.char?, Option.bind_eq_bind, Option.bind_some,
        Option.bind_eq_some_iff, ih]
      cases cs with
      | nil => simp
      | cons d ds => simp [and_comm]
    | half index => cases cs <;> simp [Point.char?]

theorem string?_eq_some : text.string? = some s ↔ text = ofString s := by
  rw [string?, Option.map_eq_some_iff, ofString]
  constructor
  · rintro ⟨cs, h, rfl⟩
    rw [String.toList_ofList, mapM_char?_eq_some.mp h]
  · exact fun h => ⟨_, mapM_char?_eq_some.mpr h, String.ofList_toList⟩

@[simp] theorem string?_ofString (s : String) : (ofString s).string? = some s :=
  string?_eq_some.mpr rfl

@[simp] theorem isBlank_ofChars (cs : List Char) : (ofChars cs).isBlank = cs.all Text.isBlank :=
  List.all_map

end Points

end DocScript
