import DocScript.Number.Text
import DocScript.Proofs.Expr.Coercion
import DocScript.Proofs.Number.Shortest
import DocScript.Value.Text

/-! # Numbers read back

The text of a finite number is a numeral with an optional sign, and it is taken for a number of the
same value. The texts of infinities and of NaN are taken for no number.
-/

namespace DocScript

/-! ## Digits -/

section Digits

variable {cs es : List Char} {ds fs : List Nat}

theorem Digits.append (h : Digits cs ds) (h' : Digits es fs) : Digits (cs ++ es) (ds ++ fs) := by
  induction h with
  | nil => exact h'
  | cons hc _ ih => exact .cons hc ih

theorem Digits.take (h : Digits cs ds) (n : Nat) : Digits (cs.take n) (ds.take n) := by
  induction h generalizing n with
  | nil => simpa using .nil
  | cons hc _ ih =>
    cases n with
    | zero => exact .nil
    | succ n => exact .cons hc (ih n)

theorem Digits.drop (h : Digits cs ds) (n : Nat) : Digits (cs.drop n) (ds.drop n) := by
  induction h generalizing n with
  | nil => simpa using .nil
  | cons hc h ih =>
    cases n with
    | zero => exact .cons hc h
    | succ n => exact ih n

theorem digits_zeros (n : Nat) : Digits (List.replicate n '0') (List.replicate n 0) :=
  digits_replicate (by decide) n

theorem natOfDigits_zeros_append (n : Nat) (ds : List Nat) :
    natOfDigits (List.replicate n 0 ++ ds) = natOfDigits ds := by
  induction n with
  | zero => rfl
  | succ n ih => exact ih

theorem natOfDigits_append_zeros (ds : List Nat) (n : Nat) :
    natOfDigits (ds ++ List.replicate n 0) = natOfDigits ds * 10 ^ n := by
  have hz : natOfDigits (List.replicate n 0) = 0 := by
    simpa [natOfDigits] using natOfDigits_zeros_append n []
  rw [natOfDigits_append, hz, List.length_replicate, Nat.add_zero]

theorem digitValue?_digitChar {d : Nat} (h : d < 10) :
    Text.digitValue? d.digitChar = some d := by
  revert d
  decide

/-- A number is what its digits stand for. -/
theorem exists_digits (n : Nat) :
    ∃ ds, Digits (Nat.toDigits 10 n) ds ∧ ds ≠ [] ∧ natOfDigits ds = n := by
  induction n using Nat.strong_induction_on with
  | _ n ih =>
    rw [Nat.toDigits_eq_if (by decide)]
    split
    · rename_i hlt
      exact ⟨[n], .cons (digitValue?_digitChar hlt) .nil, by simp, by simp [natOfDigits]⟩
    · obtain ⟨ds, hds, -, hn⟩ := ih (n / 10) (by omega)
      have hlast := digitValue?_digitChar (Nat.mod_lt n (by decide : 0 < 10))
      refine ⟨ds ++ [n % 10], hds.append (.cons hlast .nil), by simp, ?_⟩
      rw [natOfDigits_append, hn]
      simpa [natOfDigits] using Nat.div_add_mod' n 10

end Digits

/-! ## Written decimals -/

/-- An exponent as it is written stands for itself. -/
theorem exponentText_padLeft (width : Nat) (e : Int) :
    ExponentText ('e' :: (if e < 0 then '-' else '+') :: padLeft width (Nat.toDigits 10 e.natAbs))
      (some e) := by
  obtain ⟨ds, hds, hne, hn⟩ := exists_digits e.natAbs
  have hpad := (digits_zeros (width - (Nat.toDigits 10 e.natAbs).length)).append hds
  have hvalue := natOfDigits_zeros_append (width - (Nat.toDigits 10 e.natAbs).length) ds
  rw [hn] at hvalue
  have hne : List.replicate (width - (Nat.toDigits 10 e.natAbs).length) 0 ++ ds ≠ [] := by
    simp [hne]
  split
  · have htext := ExponentText.minus (.inl rfl) hpad hne
    rwa [hvalue, show -((e.natAbs : Nat) : Int) = e by omega] at htext
  · have htext := ExponentText.plus (.inl rfl) hpad hne
    rwa [hvalue, show ((e.natAbs : Nat) : Int) = e by omega] at htext

/-- Digits with a point behind the first one, if there are others. -/
def mantissaChars : List Char → List Char
  | [] => ['0']
  | [c] => [c]
  | c :: rest => c :: '.' :: rest

/-- Whether a text is a numeral of some value that is not written as an integer. -/
def IsFractional (cs : List Char) (q : Rat) : Prop :=
  ∃ numeral, NumberText cs numeral ∧ numeral.isInteger = false ∧ numeral.toDecimal.toRat = q

section Layouts

variable {cs es fs : List Char} {ds gs : List Nat} {d : Decimal}

/-- A point takes the digits behind it out of the exponent. -/
theorem isFractional_point {e : Option Int} (h : Digits cs ds) (hne : ds ≠ []) (hf : Digits fs gs)
    (he : ExponentText es e) (hd : natOfDigits (ds ++ gs) = d.coefficient)
    (hexp : e.getD 0 - gs.length = d.exponent) :
    IsFractional (cs ++ '.' :: (fs ++ es)) d.toRat := by
  refine ⟨_, .point h hne hf he, rfl, ?_⟩
  rw [Decimal.toRat, Decimal.toRat, ← hd, ← hexp]
  rfl

variable (h : Digits cs ds) (hd : natOfDigits ds = d.coefficient)

include h hd

/-- Zeros stand between the point and the digits. -/
theorem isFractional_behind {n : Nat} (hexp : (n : Int) + cs.length = -d.exponent) :
    IsFractional ('0' :: '.' :: List.replicate n '0' ++ cs) d.toRat := by
  have hlength := h.length_eq
  have hdigits : natOfDigits ([0] ++ (List.replicate n 0 ++ ds)) = d.coefficient := by
    rw [show [0] = List.replicate 1 0 from rfl, natOfDigits_zeros_append,
      natOfDigits_zeros_append, hd]
  have htext := isFractional_point (d := d) (digits_zeros 1) (by simp)
    ((digits_zeros n).append h) .none hdigits
    (by rw [List.length_append, List.length_replicate, Option.getD_none]; omega)
  rwa [List.append_nil] at htext

variable (hne : ds ≠ [])

include hne

/-- The point and a zero stand behind the digits and further zeros. -/
theorem isFractional_integral (hexp : 0 ≤ d.exponent) :
    IsFractional (cs ++ List.replicate d.exponent.toNat '0' ++ ['.', '0']) d.toRat := by
  have hpadded : Decimal.toRat ⟨d.coefficient * 10 ^ (d.exponent.toNat + 1), -1⟩ = d.toRat := by
    have hcast : (10 : Rat) ^ d.exponent = 10 ^ d.exponent.toNat := by
      rw [← zpow_natCast, Int.toNat_of_nonneg hexp]
    rw [Decimal.toRat, Decimal.toRat, hcast, zpow_neg_one]
    push_cast
    ring
  have hdigits : natOfDigits (ds ++ List.replicate d.exponent.toNat 0 ++ [0]) =
      d.coefficient * 10 ^ (d.exponent.toNat + 1) := by
    rw [List.append_assoc, ← List.replicate_succ', natOfDigits_append_zeros, hd]
  rw [← hpadded]
  exact isFractional_point (h.append (digits_zeros _)) (by simp [hne]) (digits_zeros 1) .none
    hdigits rfl

/-- The point stands among the digits. -/
theorem isFractional_among {n : Nat} (hn : 0 < n) (hexp : (n : Int) = cs.length + d.exponent)
    (hle : d.exponent ≤ 0) : IsFractional (cs.take n ++ '.' :: cs.drop n) d.toRat := by
  have hlength := h.length_eq
  have htext := isFractional_point (d := d) (h.take n) (by simp [hne, hn.ne']) (h.drop n) .none
    (by rw [List.take_append_drop, hd])
    (by rw [List.length_drop, Option.getD_none]; omega)
  rwa [List.append_nil] at htext

/-- An exponent stands behind the digits, of which the first may have a point behind it. -/
theorem isFractional_scientific (he : ExponentText es (some (d.exponent + cs.length - 1))) :
    IsFractional (mantissaChars cs ++ es) d.toRat := by
  cases h with
  | nil => exact absurd rfl hne
  | @cons c first cs rest hc hrest =>
    have hfirst : Digits [c] [first] := .cons hc .nil
    cases hrest with
    | nil =>
      refine ⟨_, .whole hfirst hne he, rfl, ?_⟩
      rw [Decimal.toRat, Decimal.toRat, ← hd]
      simp [Numeral.toDecimal]
    | cons hc' hrest =>
      have hlength := hrest.length_eq
      exact isFractional_point hfirst (by simp) (.cons hc' hrest) he hd
        (by simp only [List.length_cons, Option.getD_some]; omega)

end Layouts

/-- A written decimal is a numeral of the same value, and no integer. -/
theorem DecimalLayout.isFractional_write (layout : DecimalLayout) (d : Decimal) :
    IsFractional (layout.write d) d.toRat := by
  obtain ⟨ds, h, hne, hd⟩ := exists_digits d.coefficient
  unfold write
  dsimp only
  split
  · split
    · exact isFractional_integral h hd hne ‹_›
    · split
      · exact isFractional_among h hd hne (Nat.succ_pos _) (by omega) (by omega)
      · exact isFractional_behind h hd (by omega)
  · exact isFractional_scientific h hd hne (exponentText_padLeft _ _)

/-! ## Texts of numbers -/

section Texts

variable {cs : List Char} {negative : Bool} {numeral : Numeral} {n : Int} {q : Rat}

theorem SignedText.trim_eq (h : SignedText cs negative numeral) : Text.trim cs = cs := by
  apply trim_of_forall
  intro c hc
  cases h with
  | unsigned h => exact h.not_isBlank hc
  | plus h | minus h =>
    rcases List.mem_cons.mp hc with rfl | hc
    · exact not_isBlank_of_symbol (by decide)
    · exact h.not_isBlank hc

theorem SignedText.numberOfText?_eq (h : SignedText cs negative numeral) :
    numberOfText? (String.ofList cs) = (numeral.value negative).map some := by
  apply numberOfText?_of_signedText
  rwa [String.toList_ofList, h.trim_eq]

theorem signed_natAbs (n : Int) : signed (n < 0) n.natAbs = n := by
  unfold signed
  split
  · have := of_decide_eq_true ‹_›
    omega
  · have := of_decide_eq_false (Bool.eq_false_of_not_eq_true ‹_›)
    omega

theorem exists_signedText_intChars (n : Int) :
    ∃ ds, SignedText (intChars n) (n < 0) ⟨ds, false, [], none⟩ ∧
      ds.length = (Nat.toDigits 10 n.natAbs).length ∧ natOfDigits ds = n.natAbs := by
  obtain ⟨ds, hds, hne, hn⟩ := exists_digits n.natAbs
  have htext := NumberText.whole hds hne .none
  rw [List.append_nil] at htext
  refine ⟨ds, ?_, hds.length_eq, hn⟩
  unfold intChars
  split
  · rw [decide_eq_true ‹_›]
    exact .minus htext
  · rw [decide_eq_false ‹_›]
    exact .unsigned htext

/-- An integer that is written with its digits is read as itself, clamped. -/
theorem numberOfText?_intChars (h : n.natAbs < Number.firstUnwritten) :
    numberOfText? (String.ofList (intChars n)) = .ok (some (Number.clamp (.int n))) := by
  obtain ⟨ds, htext, hlength, hn⟩ := exists_signedText_intChars n
  have hshort : ¬Numeral.maxDigits < ds.length := by
    have hle : (Nat.toDigits 10 n.natAbs).length ≤ 21 :=
      (Nat.length_toDigits_le_iff (by decide) (by decide)).mpr h
    rw [hlength, Numeral.maxDigits]
    omega
  have hvalue : Numeral.value (n < 0) ⟨ds, false, [], none⟩ = .ok (Number.clamp (.int n)) := by
    unfold Numeral.value
    have hi : Numeral.isInteger ⟨ds, false, [], none⟩ := rfl
    rw [if_pos hi, if_neg hshort, hn, signed_natAbs]
  rw [htext.numberOfText?_eq, hvalue]
  rfl

/-- A finite float in its plain form is read as itself. -/
theorem numberOfText?_plainChars (hq : q ≠ 0) (hr : Representable q) :
    numberOfText? (String.ofList (Binary64.finite q hq hr).plainChars) =
      .ok (some (.float (.finite q hq hr))) := by
  have habs : Representable |q| := by
    rcases abs_choice q with h | h <;> rw [h]
    · exact hr
    · exact hr.neg
  have hround := Decimal.toRat_round_shortest habs (abs_pos.mpr hq)
  have hround := Binary64.eq_finite_of_toRat (abs_ne_zero.mpr hq) habs hround
  obtain ⟨numeral, htext, hi, hrat⟩ := DecimalLayout.plain.isFractional_write (Decimal.shortest |q|)
  have hread : numeral.toDecimal.toBinary64 = .finite |q| (abs_ne_zero.mpr hq) habs := by
    rw [Decimal.toBinary64_eq_round, hrat, hround]
  have hvalue {negative : Bool} (hs : (if negative then -|q| else |q|) = q) :
      numeral.value negative = .ok (.float (.finite q hq hr)) := by
    unfold Numeral.value
    rw [if_neg (by rw [hi]; decide), hread]
    have hsigned : (if negative then (Binary64.finite |q| (abs_ne_zero.mpr hq) habs).neg
        else .finite |q| (abs_ne_zero.mpr hq) habs) = .finite q hq hr := by
      apply Binary64.eq_finite_of_toRat
      cases negative <;> exact hs
    exact congrArg (fun x => Except.ok (Number.float x)) hsigned
  unfold Binary64.plainChars
  dsimp only
  rw [ratAbs_eq]
  split
  · rename_i hneg
    rw [(SignedText.minus htext).numberOfText?_eq,
      hvalue (by rw [if_pos rfl, abs_of_neg hneg, neg_neg])]
    rfl
  · rename_i hpos
    rw [(SignedText.unsigned htext).numberOfText?_eq,
      hvalue (by rw [if_neg Bool.false_ne_true, abs_of_nonneg (not_lt.mp hpos)])]
    rfl

end Texts

namespace Number

variable {n : Number} {q : Rat}

/-- Whether a number is neither NaN nor an infinity. -/
def IsFinite (n : Number) : Prop := ∃ q, n.value? = some (.real q)

theorem value?_clamp_int {k : Int} (h : Representable k) :
    (clamp (.int k)).value? = some (.real k) := by
  rw [clamp]
  split
  · rfl
  · rename_i hlarge
    have hne : (k : Rat) ≠ 0 := by
      rintro hz
      rw [Int.cast_eq_zero.mp hz] at hlarge
      exact hlarge (Nat.zero_le _)
    rw [Binary64.ofInt, Binary64.round_of_representable hne h]
    rfl

/-- The text of a finite number denotes a number of the same value. -/
theorem numberOfText?_text (hs : n.IsSafe) (hq : n.value? = some (.real q)) :
    ∃ m, numberOfText? n.text = .ok (some m) ∧ m.value? = some (.real q) := by
  cases n with
  | int k =>
    obtain rfl : (k : Rat) = q := by simpa [value?] using hq
    have hsmall : k.natAbs < firstUnwritten := lt_of_le_of_lt hs (by decide)
    exact ⟨_, numberOfText?_intChars hsmall, value?_clamp_int (representable_intCast hs)⟩
  | float x =>
    cases x with
    | nan => cases hq
    | infinite s => cases s <;> cases hq
    | zero s =>
      obtain rfl : 0 = q := by simpa [value?, Binary64.toRat] using hq
      exact ⟨_, numberOfText?_intChars (n := 0) (by decide), rfl⟩
    | finite p hp hr =>
      obtain rfl : p = q := by simpa [value?, Binary64.toRat] using hq
      have hplain := numberOfText?_plainChars hp hr
      rw [text]
      cases hi : (Binary64.finite p hp hr).toInt? with
      | none =>
        simp only [textChars, hi]
        exact ⟨_, hplain, rfl⟩
      | some k =>
        simp only [textChars, hi]
        split
        · obtain ⟨-, -, rfl⟩ := Binary64.toInt?_eq_some_iff.mp hi
          exact ⟨_, numberOfText?_intChars ‹_›, value?_clamp_int hr⟩
        · exact ⟨_, hplain, rfl⟩

theorem numberOfText?_text_of_not_isFinite (h : ¬n.IsFinite) : numberOfText? n.text = .ok none := by
  rcases n with n | (_ | ⟨_ | _⟩ | _ | _)
  · exact absurd ⟨_, rfl⟩ h
  · decide +kernel
  · decide +kernel
  · decide +kernel
  · exact absurd ⟨_, rfl⟩ h
  · exact absurd ⟨_, rfl⟩ h

end Number

/-! ## Reading back -/

section ReadBack

variable {n : Number} {text : Points} {line : Line}

theorem Value.text_number (n : Number) : (Value.number n).text = Points.ofString n.text := by
  rw [Number.text, Points.ofString_ofList]
  rfl

theorem Value.looseEquals_number_string {found : Option Number}
    (h : Result.numberOfText? text = .ok found) :
    (Value.number n).looseEquals (.string text) = .ok (n.same (found.getD (.float .nan))) := by
  have hs : comparand? (.string text) = .ok (some (found.getD (.float .nan))) := by
    rw [comparand?, h]
    rfl
  unfold looseEquals
  dsimp only
  rw [hs]
  rfl

/-- A number is compared with its own text as with any string. -/
theorem Expr.eval_eq_add_empty {lookup : String → Value} {e : Expr} {source : Option String}
    (hs : n.IsSafe) (he : e.eval lookup line = .ok (.number n)) :
    (Expr.binary (.operator .eq) e
      (.binary (.operator .add) e (.literal (.string "") source))).eval lookup line =
        ((Value.number n).looseEquals (.string (Value.number n).text)).map .bool := by
  have hwritten := Value.written_of_isWritable (Value.isSafe_number.mpr hs).isWritable
  have hadd : (Expr.binary (.operator .add) e (.literal (.string "") source)).eval lookup line =
      .ok (.string (Value.number n).text) := by
    rw [eval, he]
    show (do return .string ((← (Value.number n).written) ++ []) : Result Value) = _
    rw [hwritten]
    exact congrArg (fun text => Except.ok (Value.string text)) (List.append_nil _)
  rw [eval, he, hadd]
  rfl

/-- The text of a number that is finite is taken for a number of the same value, and the text of
one that is not is taken for none. So a number equals its own text exactly if it is finite. -/
theorem Value.expectNumber_text (hs : n.IsSafe) (context : String) (line : Line) :
    let text := (Value.number n).text
    let taken := (Value.string text).expectNumber context line
    (Value.number n).written = .ok text ∧
    (n.IsFinite → ∃ m, taken = .ok m ∧ m.same n = true) ∧
    (¬n.IsFinite → taken = .error ((Cause.notNumber context (.string text)).failure line)) ∧
    ∀ (lookup : String → Value) (e : Expr) (source : Option String),
      e.eval lookup line = .ok (.number n) →
      ∃ equal, (Expr.binary (.operator .eq) e
        (.binary (.operator .add) e (.literal (.string "") source))).eval lookup line =
          .ok (.bool equal) ∧ (equal = true ↔ n.IsFinite) := by
  intro text taken
  refine ⟨written_of_isWritable (isSafe_number.mpr hs).isWritable, ?_⟩
  have htext : text = Points.ofString n.text := text_number n
  by_cases hfinite : n.IsFinite
  · obtain ⟨q, hq⟩ := hfinite
    obtain ⟨m, hm, hmq⟩ := Number.numberOfText?_text hs hq
    have hm : Result.numberOfText? text = .ok (some m) := by
      rw [htext, Result.numberOfText?_ofString hm]
    have hsame {a b : Number} (ha : a.value? = some (.real q)) (hb : b.value? = some (.real q)) :
        a.same b = true := by
      rw [Number.same_iff, ha, hb]
      exact ⟨rfl, nofun⟩
    refine ⟨fun _ => ⟨m, expectNumber_some hm, hsame hmq hq⟩, absurd ⟨q, hq⟩, ?_⟩
    intro lookup e source he
    rw [Expr.eval_eq_add_empty hs he, looseEquals_number_string hm]
    exact ⟨_, rfl, fun _ => ⟨q, hq⟩, fun _ => hsame hq hmq⟩
  · have hnone := Number.numberOfText?_text_of_not_isFinite hfinite
    have hnone : Result.numberOfText? text = .ok Option.none := by
      rw [htext, Result.numberOfText?_ofString hnone]
    refine ⟨(absurd · hfinite), fun _ => expectNumber_none hnone, ?_⟩
    intro lookup e source he
    rw [Expr.eval_eq_add_empty hs he, looseEquals_number_string hnone]
    refine ⟨_, rfl, fun h => ?_, (absurd · hfinite)⟩
    exact absurd rfl (Number.same_iff.mp h).2

/-- A tenth is written with one digit, but its value is another one. -/
theorem expectNumber_text_tenth :
    let n : Number := .float (.round (1 / 10))
    n.IsSafe ∧ n.value? = some (.real (3602879701896397 / 36028797018963968)) ∧
      (Value.number n).text = Points.ofString "0.1" ∧
      ∃ m, (Value.string (Value.number n).text).expectNumber "operand" none = .ok m ∧
        m.same n = true := by
  intro n
  have hs : n.IsSafe := trivial
  have hq : n.value? = some (.real (3602879701896397 / 36028797018963968)) := by decide +kernel
  have htext : n.text = "0.1" := by decide +kernel
  refine ⟨hs, hq, ?_, (Value.expectNumber_text hs "operand" none).2.1 ⟨_, hq⟩⟩
  rw [Value.text_number, htext]

end ReadBack

end DocScript
