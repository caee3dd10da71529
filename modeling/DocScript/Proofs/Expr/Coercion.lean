import DocScript.Expr.Eval
import DocScript.Proofs.Expr.Blanks
import DocScript.Proofs.Number.Clamping
import DocScript.Proofs.Number.Nearest
import DocScript.Proofs.Number.Safe
import DocScript.Proofs.Text.Points
import DocScript.Proofs.Value.Writable

/-! # Texts taken for numbers

Blanks around it aside, a text is taken for a number exactly if it is empty, or a numeral with an
optional sign. The number is the one that the numeral denotes, in an expression as in a text.
-/

namespace DocScript

/-- A numeral with an optional sign. -/
inductive SignedText : List Char → Bool → Numeral → Prop
  | unsigned {cs : List Char} {numeral : Numeral} (h : NumberText cs numeral) :
    SignedText cs false numeral
  | plus {cs : List Char} {numeral : Numeral} (h : NumberText cs numeral) :
    SignedText ('+' :: cs) false numeral
  | minus {cs : List Char} {numeral : Numeral} (h : NumberText cs numeral) :
    SignedText ('-' :: cs) true numeral

/-! ## Characters of numerals -/

section Characters

variable {cs : List Char} {c : Char}

theorem Digits.not_isBlank {ds : List Nat} (h : Digits cs ds) (hc : c ∈ cs) :
    Text.isBlank c = false := by
  induction h with
  | nil => cases hc
  | cons hd _ ih =>
    rcases List.mem_cons.mp hc with rfl | hc
    · exact not_isBlank_of_digit hd
    · exact ih hc

theorem ExponentText.not_isBlank {e : Option Int} (h : ExponentText cs e) (hc : c ∈ cs) :
    Text.isBlank c = false := by
  have hletter {e : Char} (he : e = 'e' ∨ e = 'E') : Text.isBlank e = false := by
    rcases he with rfl | rfl <;> decide
  cases h with
  | none => cases hc
  | unsigned he hd _ =>
    rcases List.mem_cons.mp hc with rfl | hc
    · exact hletter he
    · exact hd.not_isBlank hc
  | plus he hd _ | minus he hd _ =>
    simp only [List.mem_cons] at hc
    rcases hc with rfl | rfl | hc
    · exact hletter he
    · exact not_isBlank_of_symbol (by decide)
    · exact hd.not_isBlank hc

theorem NumberText.not_isBlank {numeral : Numeral} (h : NumberText cs numeral) (hc : c ∈ cs) :
    Text.isBlank c = false := by
  have hpoint : Text.isBlank '.' = false := not_isBlank_of_symbol (by decide)
  cases h with
  | whole hd _ he =>
    rcases List.mem_append.mp hc with hc | hc
    · exact hd.not_isBlank hc
    · exact he.not_isBlank hc
  | point hd _ hf he =>
    simp only [List.mem_append, List.mem_cons] at hc
    rcases hc with hc | rfl | hc | hc
    · exact hd.not_isBlank hc
    · exact hpoint
    · exact hf.not_isBlank hc
    · exact he.not_isBlank hc
  | fraction hf _ he =>
    simp only [List.mem_append, List.mem_cons] at hc
    rcases hc with rfl | hc | hc
    · exact hpoint
    · exact hf.not_isBlank hc
    · exact he.not_isBlank hc

end Characters

/-! ## Texts and numerals -/

section Numerals

variable {text : List Char} {s : String} {negative : Bool} {numeral : Numeral} {e : Expr}

theorem NumberText.fraction_eq_nil (h : NumberText text numeral) (hp : numeral.point = false) :
    numeral.fraction = [] := by
  cases h with
  | whole => rfl
  | point | fraction => cases hp

theorem takeSign_number (h : NumberText text numeral) : takeSign text = (false, text) := by
  obtain ⟨c, cs, rfl, hc⟩ := h.head
  have hsign : c ≠ '+' ∧ c ≠ '-' := by
    rcases hc with rfl | ⟨d, hd⟩
    · decide
    · constructor <;> rintro rfl <;> exact not_symbol_of_digit hd (by decide)
  unfold takeSign
  split <;> simp_all

/-- What is read of a text as a numeral behind its sign, down to the last character. -/
theorem signedText_iff : SignedText text negative numeral ↔
    (takeSign text).1 = negative ∧ Numeral.take? (takeSign text).2 = some (numeral, []) := by
  have htake {cs : List Char} (h : NumberText cs numeral) :
      Numeral.take? cs = some (numeral, []) := by
    have hend : Bounded [] := nofun
    simpa using take?_number h hend
  constructor
  · intro h
    cases h with
    | unsigned h => rw [takeSign_number h]; exact ⟨rfl, htake h⟩
    | plus h | minus h => exact ⟨rfl, htake h⟩
  · rintro ⟨hsign, h⟩
    obtain ⟨taken, htaken, hnumber⟩ := number_of_take? h
    rw [List.append_nil] at htaken
    subst htaken
    revert hsign hnumber
    fun_cases takeSign text with
    | case1 rest =>
      rintro rfl hnumber
      exact .plus hnumber
    | case2 rest =>
      rintro rfl hnumber
      exact .minus hnumber
    | case3 =>
      rintro rfl hnumber
      exact .unsigned hnumber

theorem numberOfText?_of_signedText (h : SignedText (Text.trim s.toList) negative numeral) :
    numberOfText? s = (numeral.value negative).map some := by
  obtain ⟨hsign, htake⟩ := signedText_iff.mp h
  unfold numberOfText?
  split
  · rename_i hnil
    rw [hnil] at htake
    cases htake
  · simp only [htake, hsign]

theorem numberOfText?_eq_none (hne : Text.trim s.toList ≠ [])
    (h : ∀ negative numeral, ¬ SignedText (Text.trim s.toList) negative numeral) :
    numberOfText? s = .ok none := by
  unfold numberOfText?
  split
  · exact absurd ‹_› hne
  · dsimp only
    split
    · rename_i htake
      exact absurd (signedText_iff.mpr ⟨rfl, htake⟩) (h _ _)
    · rfl

/-- A text that is one numeral is read as the literal of that numeral. -/
theorem parse_of_numberText (h : NumberText s.toList numeral)
    (he : Expr.ofNumeral numeral s = .ok e) : Expr.parse s = .ok e := by
  have hend : Bounded [] := nofun
  have htake : Token.take? .operand (s.toList ++ []) = some (.number numeral s, []) :=
    take?_lexical_number h hend nofun
  have hdrop := dropWhile_isBlank_of_forall fun c hc => h.not_isBlank hc
  have hfinish : (Place.operator [] (Expr.ofNumeral numeral s)).finish? Expr.builder =
      .ok (some e) := by
    rw [he]
    rfl
  rw [List.append_nil] at htake
  rw [Expr.parse_eq_ok_iff]
  exact .token (hdrop ▸ htake) rfl (.ends rfl hfinish)

theorem SignedText.fraction_eq_nil (h : SignedText text negative numeral)
    (hp : numeral.point = false) : numeral.fraction = [] := by
  cases h with
  | unsigned h | plus h | minus h => exact h.fraction_eq_nil hp

/-- Only the limit on digits keeps a numeral from being taken for what it stands for. -/
theorem numberOfText?_denotes (hs : ∀ digits, ¬ IsOverlong s digits)
    (h : SignedText (Text.trim s.toList) negative numeral) :
    ∃ n, numeral.value negative = .ok n ∧ numberOfText? s = .ok (some n) ∧
      numeral.Denotes negative n := by
  have hn := numberOfText?_of_signedText h
  cases hv : numeral.value negative with
  | error e =>
    rw [hv] at hn
    exact absurd (numberOfText?_eq_error_iff.mp hn) (hs e.digits)
  | ok n =>
    rw [hv] at hn
    exact ⟨n, rfl, hn, Numeral.denotes_of_value h.fraction_eq_nil hv⟩

end Numerals

/-! ## Numbers -/

section Coercion

variable {s : String} {text : Points} {n : Number} {number : Option Number} {context : String}
  {line : Line}

theorem Result.numberOfText?_ofString (h : DocScript.numberOfText? s = .ok number) :
    Result.numberOfText? s = .ok number := by
  simp only [numberOfText?, Points.string?_ofString, h]

/-- A text with half of a pair is no numeral. -/
theorem Result.numberOfText?_of_half (h : text.string? = none) : numberOfText? text = .ok none := by
  rw [numberOfText?, h]

theorem Value.expectNumber_some (h : Result.numberOfText? text = .ok (some n)) :
    (Value.string text).expectNumber context line = .ok n := by
  rw [expectNumber, h]
  rfl

theorem Value.expectNumber_none (h : Result.numberOfText? text = .ok Option.none) :
    (Value.string text).expectNumber context line =
      .error ((Cause.notNumber context (.string text)).failure line) := by
  rw [expectNumber, h]
  rfl

theorem Numeral.Denotes.value?_ne_none {negative : Bool} {numeral : Numeral}
    (h : numeral.Denotes negative n) : n.value? ≠ none := by
  rw [ne_eq, Number.value?_eq_none_iff]
  rintro rfl
  cases h with
  | rounded _ hx => exact hx.elim

/-- The literal of a numeral has the value that the numeral stands for. -/
theorem Expr.ofNumeral_same {numeral : Numeral} (hv : numeral.value false = .ok n)
    (hd : numeral.Denotes false n) :
    ∃ literal, ofNumeral numeral s = .ok (.literal (.number literal) (some s)) ∧
      literal.same n = true := by
  refine ⟨if numeral.isInteger then n else n.clamp, by rw [ofNumeral, hv]; rfl, ?_⟩
  refine Number.same_iff.mpr ⟨?_, hd.value?_ne_none⟩
  split
  · rfl
  · cases hd with
    | exact hi => exact absurd hi ‹_›
    | rounded => exact Number.value?_clamp_float _

/-- A text within the limit on digits is taken for a number exactly if it is a string that is empty
or a numeral with an optional sign, blanks around it aside: for zero, or for what the numeral stands
for. As a literal the text of a numeral has the same value. -/
theorem Value.expectNumber_string (text : Points)
    (hs : ∀ s digits, text = Points.ofString s → ¬ IsOverlong s digits) (context : String)
    (line : Line) :
    let taken := (Value.string text).expectNumber context line
    ((∃ n, taken = .ok n) ↔ ∃ s : String, text = Points.ofString s ∧
      (Text.trim s.toList = [] ∨
        ∃ negative numeral, SignedText (Text.trim s.toList) negative numeral)) ∧
    ∀ s : String, text = Points.ofString s →
      (Text.trim s.toList = [] → taken = .ok (.int 0)) ∧
      (∀ negative numeral, SignedText (Text.trim s.toList) negative numeral →
        ∃ n, taken = .ok n ∧ numeral.Denotes negative n) ∧
      ∀ numeral, NumberText s.toList numeral → ∃ literal n,
        Expr.parse s = .ok (.literal (.number literal) (some s)) ∧ taken = .ok n ∧
          literal.same n = true := by
  intro taken
  have hempty (s : String) (ht : text = Points.ofString s) (h : Text.trim s.toList = []) :
      taken = .ok (.int 0) := by
    subst ht
    refine expectNumber_some (Result.numberOfText?_ofString ?_)
    unfold numberOfText?
    rw [h]
  have hsigned (s : String) (ht : text = Points.ofString s) (negative : Bool) (numeral : Numeral)
      (h : SignedText (Text.trim s.toList) negative numeral) :
      ∃ n, taken = .ok n ∧ numeral.Denotes negative n := by
    obtain ⟨n, -, hn, hd⟩ := numberOfText?_denotes (hs s · ht) h
    subst ht
    exact ⟨n, expectNumber_some (Result.numberOfText?_ofString hn), hd⟩
  refine ⟨⟨?_, ?_⟩, fun s ht => ⟨hempty s ht, hsigned s ht, ?_⟩⟩
  · rintro ⟨n, hn⟩
    cases hstring : text.string? with
    | none => cases (expectNumber_none (Result.numberOfText?_of_half hstring)).symm.trans hn
    | some s =>
      have ht := Points.string?_eq_some.mp hstring
      refine ⟨s, ht, ?_⟩
      by_contra hneither
      obtain ⟨hne, hnone⟩ := not_or.mp hneither
      have hnone := numberOfText?_eq_none hne fun negative numeral h =>
        hnone ⟨negative, numeral, h⟩
      subst ht
      cases (expectNumber_none (Result.numberOfText?_ofString hnone)).symm.trans hn
  · rintro ⟨s, ht, h | ⟨negative, numeral, h⟩⟩
    · exact ⟨_, hempty s ht h⟩
    · obtain ⟨n, hn, -⟩ := hsigned s ht negative numeral h
      exact ⟨n, hn⟩
  · intro numeral h
    have htrim : Text.trim s.toList = s.toList := trim_of_forall fun c hc => h.not_isBlank hc
    obtain ⟨n, hv, hn, hd⟩ := numberOfText?_denotes (hs s · ht) (htrim.symm ▸ SignedText.unsigned h)
    obtain ⟨literal, hliteral, hsame⟩ := Expr.ofNumeral_same hv hd
    subst ht
    exact ⟨literal, n, parse_of_numberText h hliteral,
      expectNumber_some (Result.numberOfText?_ofString hn), hsame⟩

/-- A blank and a sign go in front of a numeral, whose digits may be of any script. -/
theorem expectNumber_arabic :
    let s := "\u00a0-٣.5"
    let numeral : Numeral := ⟨[3], true, [5], none⟩
    (∀ digits, ¬ IsOverlong s digits) ∧ SignedText (Text.trim s.toList) true numeral ∧
      numeral.signedRat true = -(7 / 2) ∧
      ∃ n, (Value.string s).expectNumber "operand" none = .ok n ∧ numeral.Denotes true n := by
  intro s numeral
  have htrim : Text.trim s.toList = ['-', '٣', '.', '5'] := by decide +kernel
  have hs : ∀ digits, ¬ IsOverlong s digits := by
    rintro digits ⟨-, hlength, hlong⟩
    rw [htrim] at hlength
    subst hlength
    revert hlong
    decide
  have hsigned : SignedText (Text.trim s.toList) true numeral := by
    rw [htrim]
    have hthree : Digits ['٣'] [3] := .cons (by decide) .nil
    have hfive : Digits ['5'] [5] := .cons (by decide) .nil
    exact .minus (.point hthree (by decide) hfive .none)
  have hlimit (t : String) (digits : Nat) (ht : Points.ofString s = Points.ofString t) :
      ¬ IsOverlong t digits :=
    Points.ofString_inj.mp ht ▸ hs digits
  have htaken := Value.expectNumber_string s hlimit "operand" none
  refine ⟨hs, hsigned, ?_, (htaken.2 s rfl).2.1 _ _ hsigned⟩
  norm_num [Numeral.signedRat, Numeral.toRat, natOfDigits, numeral]

end Coercion

end DocScript
