import DocScript.Proofs.Text.Points
import DocScript.Text.Quoted
import Mathlib.Algebra.Group.Nat.Defs

/-! # Quoted texts are read back

No point is written so that it could be taken for another one or for the closing quote. So a
quoted text ends in one place, whatever it holds and whatever follows it.
-/

namespace DocScript.Text

variable {quote c : Char} {text text' : Points} {rest rest' : List Char} {n width : Nat}

/-! ## Codes -/

theorem hexValue?_digitChar : ∀ d < 16, hexValue? d.digitChar = some d := by
  decide

theorem hexNumber?_append_singleton (text : List Char) (c : Char) :
    hexNumber? (text ++ [c]) =
      (hexNumber? text).bind fun n => (hexValue? c).map (n * 16 + ·) := by
  simp only [hexNumber?, List.foldlM_append, List.foldlM_cons, List.foldlM_nil]
  cases List.foldlM (fun n c => (hexValue? c).map (n * 16 + ·)) 0 text <;> simp

theorem hexNumber?_zeros_append (k : Nat) (text : List Char) :
    hexNumber? (List.replicate k '0' ++ text) = hexNumber? text := by
  induction k with
  | zero => rfl
  | succ k ih => exact ih

/-- A number is what its hexadecimal digits spell. -/
theorem hexNumber?_toDigits (n : Nat) : hexNumber? (Nat.toDigits 16 n) = some n := by
  induction n using Nat.strongRecOn with
  | _ n ih =>
    rw [Nat.toDigits_eq_if (by decide)]
    split
    · rename_i hlt
      have hd := hexNumber?_append_singleton [] n.digitChar
      rw [List.nil_append, hexValue?_digitChar n hlt] at hd
      simpa [hexNumber?] using hd
    · have hlast := hexValue?_digitChar (n % 16) (Nat.mod_lt n (by decide))
      rw [hexNumber?_append_singleton, ih (n / 16) (by omega), hlast]
      exact congrArg some (Nat.div_add_mod' n 16)

theorem hexNumber?_hexadecimal (width n : Nat) : hexNumber? (hexadecimal width n) = some n := by
  rw [hexadecimal, hexNumber?_zeros_append, hexNumber?_toDigits]

theorem length_hexadecimal (hw : 0 < width) (h : n < 16 ^ width) :
    (hexadecimal width n).length = width := by
  have hle := (Nat.length_toDigits_le_iff (by decide) hw).mpr h
  rw [hexadecimal, List.length_append, List.length_replicate]
  omega

/-! ## Points -/

/-- The point with a code of some width at the head of a text, and what follows it. -/
def readCode (width : Nat) (text : List Char) : Option (Point × List Char) :=
  (hexNumber? (text.take width)).map fun n => (Point.ofCode n, text.drop width)

/-- The point that is written at the head of a quoted text, and what follows it. -/
def readEscaped : List Char → Option (Point × List Char)
  | '\\' :: c :: rest =>
    if c = 'x' then readCode 2 rest
    else if c = 'u' then readCode 4 rest
    else if c = 'U' then readCode 8 rest
    else if c = 'n' then some (.char '\n', rest)
    else if c = 'r' then some (.char '\r', rest)
    else if c = 't' then some (.char '\t', rest)
    else some (.char c, rest)
  | c :: rest => some (.char c, rest)
  | [] => none

theorem readCode_hexadecimal (hw : 0 < width) {point : Point} (h : point.code < 16 ^ width)
    (rest : List Char) :
    readCode width (hexadecimal width point.code ++ rest) = some (point, rest) := by
  have hlength := length_hexadecimal hw h
  rw [readCode, List.take_left' hlength, List.drop_left' hlength, hexNumber?_hexadecimal,
    Option.map_some, Point.ofCode_code]

theorem readEscaped_escapeCode (point : Point) (rest : List Char) :
    readEscaped (escapeCode point.code ++ rest) = some (point, rest) := by
  have hmax : point.code < 16 ^ 8 := Nat.lt_trans point.code_lt (by decide)
  unfold escapeCode
  split
  · exact readCode_hexadecimal (by decide) (by assumption) rest
  · split
    · exact readCode_hexadecimal (by decide) (by assumption) rest
    · exact readCode_hexadecimal (by decide) hmax rest

theorem readEscaped_of_ne (h : c ≠ '\\') (rest : List Char) :
    readEscaped (c :: rest) = some (.char c, rest) := by
  unfold readEscaped
  split <;> simp_all

/-- The quotes that quoted texts stand in. -/
def IsQuote (quote : Char) : Prop := quote = '"' ∨ quote = singleQuote

theorem isQuote_quoteFor (text : Points) : IsQuote (quoteFor text) := by
  unfold quoteFor
  split
  · exact .inl rfl
  · exact .inr rfl

theorem readEscaped_escapeChar (hq : IsQuote quote) (c : Char) (rest : List Char) :
    readEscaped (escapeChar quote c ++ rest) = some (.char c, rest) := by
  unfold escapeChar
  split
  · rename_i hc
    have hc : c = '"' ∨ c = singleQuote ∨ c = '\\' := by
      rcases hq with rfl | rfl <;> simp at hc <;> tauto
    rcases hc with rfl | rfl | rfl <;> rfl
  · rename_i hc
    have hne : c ≠ '\\' := fun he => hc (by simp [he])
    split
    · subst c; rfl
    split
    · subst c; rfl
    split
    · subst c; rfl
    split
    · exact readEscaped_of_ne hne rest
    · exact readEscaped_escapeCode (.char c) rest

/-- A point is read as itself, whatever follows it. -/
theorem readEscaped_escape (hq : IsQuote quote) (point : Point) (rest : List Char) :
    readEscaped (escape quote point ++ rest) = some (point, rest) := by
  cases point with
  | char c => exact readEscaped_escapeChar hq c rest
  | half index => exact readEscaped_escapeCode (.half index) rest

theorem exists_escapeCode_eq_cons (n : Nat) : ∃ more, escapeCode n = '\\' :: more := by
  unfold escapeCode
  split
  · exact ⟨_, rfl⟩
  · split <;> exact ⟨_, rfl⟩

/-- What a point is written as does not begin with the quote. -/
theorem exists_escape_eq_cons (hq : IsQuote quote) (point : Point) :
    ∃ d more, escape quote point = d :: more ∧ d ≠ quote := by
  have hslash : '\\' ≠ quote := by
    rcases hq with rfl | rfl <;> decide
  have hcode (n : Nat) : ∃ d more, escapeCode n = d :: more ∧ d ≠ quote :=
    let ⟨more, he⟩ := exists_escapeCode_eq_cons n
    ⟨_, more, he, hslash⟩
  cases point with
  | half index => exact hcode _
  | char c =>
    show ∃ d more, escapeChar quote c = d :: more ∧ d ≠ quote
    unfold escapeChar
    split
    · exact ⟨_, _, rfl, hslash⟩
    · rename_i hc
      have hne : c ≠ quote := fun he => hc (by simp [he])
      split
      · exact ⟨_, _, rfl, hslash⟩
      split
      · exact ⟨_, _, rfl, hslash⟩
      split
      · exact ⟨_, _, rfl, hslash⟩
      split
      · exact ⟨_, _, rfl, hne⟩
      · exact hcode _

/-! ## Texts -/

theorem flatMap_escape_inj (hq : IsQuote quote)
    (h : text.flatMap (escape quote) ++ quote :: rest =
      text'.flatMap (escape quote) ++ quote :: rest') : text = text' ∧ rest = rest' := by
  induction text generalizing text' with
  | nil =>
    cases text' with
    | nil => exact ⟨rfl, (List.cons.inj h).2⟩
    | cons c' text' =>
      obtain ⟨d, more, he, hd⟩ := exists_escape_eq_cons hq c'
      rw [List.flatMap_cons, he] at h
      exact absurd (List.cons.inj h).1.symm hd
  | cons c text ih =>
    rw [List.flatMap_cons, List.append_assoc] at h
    have hc := readEscaped_escape hq c (text.flatMap (escape quote) ++ quote :: rest)
    cases text' with
    | nil =>
      obtain ⟨d, more, he, hd⟩ := exists_escape_eq_cons hq c
      rw [he] at h
      exact absurd (List.cons.inj h).1 hd
    | cons c' text' =>
      rw [List.flatMap_cons, List.append_assoc] at h
      rw [h, readEscaped_escape hq] at hc
      obtain ⟨rfl, htail⟩ := Prod.mk.inj (Option.some.inj hc)
      obtain ⟨rfl, hrest⟩ := ih htail.symm
      exact ⟨rfl, hrest⟩

/-- Two quoted texts with something behind each of them are the same only if both the texts and
what is behind them are. -/
theorem quoteChars_append_inj (h : quoteChars text ++ rest = quoteChars text' ++ rest') :
    text = text' ∧ rest = rest' := by
  simp only [quoteChars, List.cons_append, List.append_assoc] at h
  obtain ⟨hquote, h⟩ := List.cons.inj h
  rw [hquote] at h
  exact flatMap_escape_inj (isQuote_quoteFor text') h

end DocScript.Text
