import DocScript.Expr.Token

/-! # The texts of tokens

A token is read from its text wherever a blank or the end follows, with two exceptions: where an
operand is due, an inequality begins with an exclamation mark, and where an operator is due, a
numeral that begins with a point begins with a dot. Neither token fits there.
-/

namespace DocScript

def IsName (text : List Char) : Prop :=
  ∃ c rest, text = c :: rest ∧ startsName c ∧ ∀ d ∈ rest, continuesName d

/-- The text between two quotes. A backslash takes the next character with it. -/
inductive StringBody (quote : Char) : List Char → Prop
  | nil : StringBody quote []
  | plain {c : Char} {rest : List Char} (hquote : c ≠ quote) (hescape : c ≠ '\\')
      (h : StringBody quote rest) : StringBody quote (c :: rest)
  | escaped {c : Char} {rest : List Char} (hc : c ≠ '\n') (h : StringBody quote rest) :
      StringBody quote ('\\' :: c :: rest)

/-- Digits and their values. -/
inductive Digits : List Char → List Nat → Prop
  | nil : Digits [] []
  | cons {c : Char} {d : Nat} {cs : List Char} {ds : List Nat} (hc : Text.digitValue? c = some d)
      (h : Digits cs ds) : Digits (c :: cs) (d :: ds)

inductive ExponentText : List Char → Option Int → Prop
  | none : ExponentText [] none
  | unsigned {e : Char} (he : e = 'e' ∨ e = 'E') {cs : List Char} {ds : List Nat}
      (h : Digits cs ds) (hne : ds ≠ []) : ExponentText (e :: cs) (some (natOfDigits ds))
  | plus {e : Char} (he : e = 'e' ∨ e = 'E') {cs : List Char} {ds : List Nat}
      (h : Digits cs ds) (hne : ds ≠ []) : ExponentText (e :: '+' :: cs) (some (natOfDigits ds))
  | minus {e : Char} (he : e = 'e' ∨ e = 'E') {cs : List Char} {ds : List Nat}
      (h : Digits cs ds) (hne : ds ≠ []) : ExponentText (e :: '-' :: cs) (some (-natOfDigits ds))

inductive NumberText : List Char → Numeral → Prop
  | whole {cs es : List Char} {ds : List Nat} {e : Option Int} (h : Digits cs ds) (hne : ds ≠ [])
      (he : ExponentText es e) : NumberText (cs ++ es) ⟨ds, false, [], e⟩
  | point {cs fs es : List Char} {ds gs : List Nat} {e : Option Int} (h : Digits cs ds)
      (hne : ds ≠ []) (hf : Digits fs gs) (he : ExponentText es e) :
      NumberText (cs ++ '.' :: (fs ++ es)) ⟨ds, true, gs, e⟩
  | fraction {fs es : List Char} {gs : List Nat} {e : Option Int} (hf : Digits fs gs)
      (hne : gs ≠ []) (he : ExponentText es e) :
      NumberText ('.' :: (fs ++ es)) ⟨[], true, gs, e⟩

/-- The tokens that the grammar has, with their texts. -/
inductive Token.Lexical : Token → Prop
  | name {text : String} (h : IsName text.toList) : Lexical (.name text)
  | number {source : String} {numeral : Numeral} (h : NumberText source.toList numeral) :
      Lexical (.number numeral source)
  | string {quote : Char} (hquote : quote = '"' ∨ quote = Text.singleQuote) {body source : String}
      (hbody : StringBody quote body.toList)
      (hsource : source.toList = quote :: (body.toList ++ [quote])) : Lexical (.string body source)
  | symbol (s : Symbol) : Lexical (.symbol s)

/-- A text is at its end, or goes on with a blank. -/
def Bounded (rest : List Char) : Prop := ∀ c, rest.head? = some c → Text.isBlank c

/-! ## Characters -/

/-- The codes of a set of characters. -/
def Text.Ranges.codes (ranges : Text.Ranges) : List Nat :=
  ranges.flatMap fun (first, last) => (List.range (last + 1 - first)).map (first + ·)

theorem Text.Ranges.mem_codes {ranges : Text.Ranges} {c : Char} (h : ranges.contains c) :
    c.toNat ∈ ranges.codes := by
  induction ranges with
  | nil => cases h
  | cons range rest ih =>
    obtain ⟨first, last⟩ := range
    rw [Text.Ranges.contains] at h
    split at h
    · cases h
    · rename_i hfirst
      rw [Text.Ranges.codes, List.flatMap_cons, List.mem_append]
      rcases Bool.or_eq_true_iff.mp h with hlast | hrest
      · have hlast := of_decide_eq_true hlast
        exact .inl (List.mem_map.mpr ⟨c.toNat - first, by rw [List.mem_range]; omega, by omega⟩)
      · exact .inr (ih hrest)

/-- What no blank is, checked on the codes of the blanks. -/
theorem classes_of_isBlank {c : Char} (h : Text.isBlank c) :
    continuesName c = false ∧ startsName c = false ∧ Text.digitValue? c = none := by
  have hcodes : (Text.blankRanges.codes.all fun n =>
      !continuesName (Char.ofNat n) && !startsName (Char.ofNat n) &&
        (Text.digitValue? (Char.ofNat n)).isNone) = true := by decide +kernel
  have hc := List.all_eq_true.mp hcodes c.toNat (Text.Ranges.mem_codes h)
  rw [Char.ofNat_toNat] at hc
  simpa [and_assoc] using hc

/-- The characters of symbols. -/
def symbolChars : List Char :=
  ['=', '!', '<', '>', '|', '&', '+', '-', '*', '/', '%', '.', ',', '(', ')', '[', ']']

theorem classes_of_symbol {c : Char} (h : c ∈ symbolChars) :
    Text.isBlank c = false ∧ startsName c = false ∧ Text.digitValue? c = none ∧
      (c = '"' || c = Text.singleQuote) = false := by
  have hall : (symbolChars.all fun c => !Text.isBlank c && !startsName c &&
      (Text.digitValue? c).isNone && !(c = '"' || c = Text.singleQuote)) = true := by
    decide +kernel
  have hc := List.all_eq_true.mp hall c h
  simpa [and_assoc] using hc

theorem continuesName_of_isBlank {c : Char} (h : Text.isBlank c) : continuesName c = false :=
  (classes_of_isBlank h).1

theorem not_startsName_of_isBlank {c : Char} (h : Text.isBlank c) : startsName c = false :=
  (classes_of_isBlank h).2.1

theorem digitValue?_of_isBlank {c : Char} (h : Text.isBlank c) : Text.digitValue? c = none :=
  (classes_of_isBlank h).2.2

theorem not_isBlank_of_symbol {c : Char} (h : c ∈ symbolChars) : Text.isBlank c = false :=
  (classes_of_symbol h).1

theorem not_startsName_of_symbol {c : Char} (h : c ∈ symbolChars) : startsName c = false :=
  (classes_of_symbol h).2.1

theorem not_digit_of_symbol {c : Char} (h : c ∈ symbolChars) : Text.digitValue? c = none :=
  (classes_of_symbol h).2.2.1

theorem code_of_digit {c : Char} {d : Nat} (h : Text.digitValue? c = some d) :
    48 ≤ c.toNat ∧ c.toNat ≤ 57 ∨ 1632 ≤ c.toNat := by
  obtain ⟨first, hfirst, -⟩ := Option.map_eq_some_iff.mp h
  have hzero : ∀ first ∈ Text.digitZeros, first = 48 ∨ 1632 ≤ first := by decide
  have hrange := List.find?_some hfirst
  simp only [Bool.and_eq_true, decide_eq_true_eq] at hrange
  rcases hzero first (List.mem_of_find?_eq_some hfirst) with rfl | hlarge <;> omega

theorem code_of_isAlpha {c : Char} (h : c.isAlpha) : 65 ≤ c.toNat ∧ c.toNat ≤ 122 := by
  have hcase : (c.isUpper || c.isLower) = true := h
  rcases Bool.or_eq_true_iff.mp hcase with hupper | hlower
  · have hcode : 'A'.val ≤ c.val ∧ c.val ≤ 'Z'.val := of_decide_eq_true hupper
    have : 65 ≤ c.toNat ∧ c.toNat ≤ 90 := by simpa [UInt32.le_iff_toNat_le] using hcode
    omega
  · obtain ⟨hfirst, hlast⟩ := Bool.and_eq_true_iff.mp hlower
    have hcode : 'a'.val ≤ c.val ∧ c.val ≤ 'z'.val :=
      ⟨of_decide_eq_true hfirst, of_decide_eq_true hlast⟩
    have : 97 ≤ c.toNat ∧ c.toNat ≤ 122 := by simpa [UInt32.le_iff_toNat_le] using hcode
    omega

theorem code_of_startsName {c : Char} (h : startsName c) :
    c.toNat = 36 ∨ 65 ≤ c.toNat ∧ c.toNat ≤ 122 := by
  simp only [startsName, Bool.or_eq_true, decide_eq_true_eq] at h
  rcases h with (halpha | rfl) | rfl
  · exact .inr (code_of_isAlpha halpha)
  · decide
  · decide

theorem not_startsName_of_digit {c : Char} {d : Nat} (h : Text.digitValue? c = some d) :
    startsName c = false := by
  cases hname : startsName c with
  | false => rfl
  | true =>
    have hname := code_of_startsName hname
    have hdigit := code_of_digit h
    omega

theorem not_digit_of_startsName {c : Char} (h : startsName c) : Text.digitValue? c = none := by
  cases hd : Text.digitValue? c with
  | none => rfl
  | some d =>
    rw [not_startsName_of_digit hd] at h
    cases h

theorem not_symbol_of_startsName {c : Char} (h : startsName c) : c ∉ symbolChars := by
  intro hmem
  rw [not_startsName_of_symbol hmem] at h
  cases h

theorem not_symbol_of_digit {c : Char} {d : Nat} (h : Text.digitValue? c = some d) :
    c ∉ symbolChars := by
  intro hmem
  rw [not_digit_of_symbol hmem] at h
  cases h

theorem not_symbol_of_isBlank {c : Char} (h : Text.isBlank c) : c ∉ symbolChars := by
  intro hmem
  rw [not_isBlank_of_symbol hmem] at h
  cases h

theorem not_isBlank_of_digit {c : Char} {d : Nat} (h : Text.digitValue? c = some d) :
    Text.isBlank c = false := by
  cases hblank : Text.isBlank c with
  | false => rfl
  | true =>
    rw [digitValue?_of_isBlank hblank] at h
    cases h

/-! ## Names, strings and numerals -/

theorem Bounded.head {p : Char → Bool} {rest : List Char} (h : Bounded rest)
    (hp : ∀ c, Text.isBlank c → p c = false) : rest.takeWhile p = [] ∧ rest.dropWhile p = rest := by
  cases rest with
  | nil => exact ⟨rfl, rfl⟩
  | cons c cs => simp [hp c (h c rfl)]

theorem takeWord?_name {c : Char} {cs rest : List Char} (hc : startsName c)
    (hcs : ∀ d ∈ cs, continuesName d) (hrest : Bounded rest) :
    takeWord? (c :: (cs ++ rest)) = some (.name (String.ofList (c :: cs)), rest) := by
  obtain ⟨htake, hdrop⟩ := hrest.head fun _ => continuesName_of_isBlank
  rw [takeWord?, if_pos hc, List.takeWhile_append_of_pos hcs, List.dropWhile_append_of_pos hcs,
    htake, hdrop, List.append_nil]

theorem takeString_body {quote : Char} {body : List Char} (h : StringBody quote body)
    (hquote : quote ≠ '\\') (rest : List Char) :
    takeString quote (body ++ quote :: rest) = some (body, rest) := by
  induction h with
  | nil =>
    rw [List.nil_append, takeString, if_pos rfl]
    exact fun _ _ hc _ => hquote hc
  | plain hc hescape _ ih =>
    rw [List.cons_append, takeString, if_neg hc, if_neg hescape, ih]
    · rfl
    · exact fun _ _ hc _ => hescape hc
  | escaped hc _ ih =>
    rw [List.cons_append, List.cons_append, takeString, if_neg hc, ih]
    rfl

theorem takeWord?_string {quote : Char} (hquote : quote = '"' ∨ quote = Text.singleQuote)
    {body : List Char} (h : StringBody quote body) (rest : List Char) :
    takeWord? (quote :: (body ++ quote :: rest))
      = some (.string (String.ofList body) (String.ofList (quote :: (body ++ [quote]))), rest) := by
  have hname : startsName quote = false := by rcases hquote with rfl | rfl <;> decide
  have hescape : quote ≠ '\\' := by rcases hquote with rfl | rfl <;> decide
  have hquotes : (quote = '"' || quote = Text.singleQuote) = true := by simpa using hquote
  simp only [takeWord?, hname, hquotes, takeString_body h hescape, if_true, List.cons_append]
  rfl

theorem Digits.length_eq {cs : List Char} {ds : List Nat} (h : Digits cs ds) :
    ds.length = cs.length := by
  induction h with
  | nil => rfl
  | cons _ _ ih => rw [List.length_cons, List.length_cons, ih]

theorem digits_replicate {c : Char} {d : Nat} (h : Text.digitValue? c = some d) (n : Nat) :
    Digits (List.replicate n c) (List.replicate n d) := by
  induction n with
  | zero => exact .nil
  | succ n ih => exact .cons h ih

theorem takeDigits_append {cs rest : List Char} {ds : List Nat} (h : Digits cs ds)
    (hrest : ∀ c, rest.head? = some c → Text.digitValue? c = none) :
    takeDigits (cs ++ rest) = (ds, rest) := by
  induction h with
  | nil =>
    cases rest with
    | nil => rfl
    | cons c rest => rw [List.nil_append, takeDigits, hrest c rfl]
  | cons hc h ih => rw [List.cons_append, takeDigits, hc, ih]

theorem takeSign_digits {cs : List Char} {ds : List Nat} (h : Digits cs ds) (hne : ds ≠ [])
    (rest : List Char) : takeSign (cs ++ rest) = (false, cs ++ rest) := by
  cases h with
  | nil => exact absurd rfl hne
  | cons hc h =>
    have hsymbol := not_symbol_of_digit hc
    rw [List.cons_append, takeSign]
    · rintro _ ⟨⟩
      exact hsymbol (by decide)
    · rintro _ ⟨⟩
      exact hsymbol (by decide)

/-- After its digits, a numeral goes on with neither a digit nor a point. -/
theorem exponent_head {es rest : List Char} {e : Option Int} (h : ExponentText es e)
    (hrest : Bounded rest) {c : Char} (hc : (es ++ rest).head? = some c) :
    Text.digitValue? c = none ∧ c ≠ '.' := by
  have hletter {e : Char} (he : e = 'e' ∨ e = 'E') : Text.digitValue? e = none ∧ e ≠ '.' := by
    rcases he with rfl | rfl <;> exact ⟨not_digit_of_startsName (by decide), by decide⟩
  cases h with
  | none =>
    refine ⟨digitValue?_of_isBlank (hrest c hc), ?_⟩
    rintro rfl
    exact not_symbol_of_isBlank (hrest _ hc) (by decide)
  | unsigned he _ _ | plus he _ _ | minus he _ _ =>
    cases hc
    exact hletter he

theorem takeExponent_append {es rest : List Char} {e : Option Int} (h : ExponentText es e)
    (hrest : Bounded rest) : takeExponent (es ++ rest) = (e, rest) := by
  have hdigit : ∀ c, rest.head? = some c → Text.digitValue? c = none :=
    fun c hc => digitValue?_of_isBlank (hrest c hc)
  have hletter {e : Char} (he : e = 'e' ∨ e = 'E') : (e = 'e' || e = 'E') = true := by
    simpa using he
  cases h with
  | none =>
    cases rest with
    | nil => rfl
    | cons c cs =>
      have hname : startsName c = false := not_startsName_of_isBlank (hrest c rfl)
      have hc : ¬ (c = 'e' || c = 'E') = true := by
        intro hc
        rcases (by simpa using hc : c = 'e' ∨ c = 'E') with rfl | rfl <;> cases hname
      rw [List.nil_append, takeExponent, if_neg hc]
  | unsigned he hd hne =>
    rw [List.cons_append, takeExponent, if_pos (hletter he), takeSign_digits hd hne]
    obtain ⟨d, ds, rfl⟩ := List.exists_cons_of_ne_nil hne
    simp only [takeDigits_append hd hdigit]
    rfl
  | plus he hd hne =>
    rw [List.cons_append, takeExponent, if_pos (hletter he), List.cons_append, takeSign]
    obtain ⟨d, ds, rfl⟩ := List.exists_cons_of_ne_nil hne
    simp only [takeDigits_append hd hdigit]
    rfl
  | minus he hd hne =>
    rw [List.cons_append, takeExponent, if_pos (hletter he), List.cons_append, takeSign]
    obtain ⟨d, ds, rfl⟩ := List.exists_cons_of_ne_nil hne
    simp only [takeDigits_append hd hdigit]
    rfl

theorem take?_whole {text left : List Char} {ds : List Nat} (hne : ds ≠ [])
    (hdigits : takeDigits text = (ds, left)) (hleft : ∀ rest, left ≠ '.' :: rest) :
    Numeral.take? text = some (Numeral.withExponent ds false [] left) := by
  have hsome : ¬ ds.isEmpty = true := by simpa using hne
  simp only [Numeral.take?, hdigits, if_neg hsome]

theorem take?_point {text rest left : List Char} {ds fs : List Nat} (hne : ds ≠ [] ∨ fs ≠ [])
    (hdigits : takeDigits text = (ds, '.' :: rest)) (hfraction : takeDigits rest = (fs, left)) :
    Numeral.take? text = some (Numeral.withExponent ds true fs left) := by
  have hsome : ¬ (ds.isEmpty && fs.isEmpty) = true := by
    simpa [Classical.or_iff_not_imp_left] using hne
  simp only [Numeral.take?, hdigits, hfraction, if_neg hsome]

theorem NumberText.head {text : List Char} {numeral : Numeral} (h : NumberText text numeral) :
    ∃ c cs, text = c :: cs ∧ (c = '.' ∨ ∃ d, Text.digitValue? c = some d) := by
  cases h with
  | whole hd hne _ | point hd hne _ _ =>
    cases hd with
    | nil => exact absurd rfl hne
    | cons hc _ => exact ⟨_, _, rfl, .inr ⟨_, hc⟩⟩
  | fraction _ _ _ => exact ⟨_, _, rfl, .inl rfl⟩

/-- Behind its first point, a numeral is a numeral without one. -/
theorem NumberText.behind_point {cs : List Char} {numeral : Numeral}
    (h : NumberText ('.' :: cs) numeral) :
    ∃ c rest, cs = c :: rest ∧ (∃ d, Text.digitValue? c = some d) ∧
      ∃ numeral, NumberText cs numeral := by
  generalize htext : '.' :: cs = text at h
  have hpoint : Text.digitValue? '.' = none := not_digit_of_symbol (by decide)
  cases h with
  | whole hd hne _ | point hd hne _ _ =>
    cases hd with
    | nil => exact absurd rfl hne
    | cons hc _ =>
      rw [← (List.cons.inj htext).1, hpoint] at hc
      cases hc
  | fraction hf hne he =>
    obtain ⟨-, rfl⟩ := List.cons.inj htext
    have hnumber := NumberText.whole hf hne he
    cases hf with
    | nil => exact absurd rfl hne
    | cons hc _ => exact ⟨_, _, rfl, ⟨_, hc⟩, _, hnumber⟩

theorem take?_number {text rest : List Char} {numeral : Numeral} (h : NumberText text numeral)
    (hrest : Bounded rest) : Numeral.take? (text ++ rest) = some (numeral, rest) := by
  have hpoint : Text.digitValue? '.' = none := not_digit_of_symbol (by decide)
  cases h with
  | whole hd hne he =>
    have hdigits := takeDigits_append hd fun c hc => (exponent_head he hrest hc).1
    rw [List.append_assoc, take?_whole hne hdigits, Numeral.withExponent,
      takeExponent_append he hrest]
    intro after heq
    exact (exponent_head he hrest (heq ▸ rfl)).2 rfl
  | @point cs fs es ds gs e hd hne hf he =>
    have hfraction := takeDigits_append hf fun c hc => (exponent_head he hrest hc).1
    have hdigits : takeDigits (cs ++ '.' :: (fs ++ (es ++ rest)))
        = (ds, '.' :: (fs ++ (es ++ rest))) := takeDigits_append hd (by rintro c ⟨⟩; exact hpoint)
    rw [List.append_assoc, List.cons_append, List.append_assoc,
      take?_point (.inl hne) hdigits hfraction, Numeral.withExponent,
      takeExponent_append he hrest]
  | fraction hf hne he =>
    have hfraction := takeDigits_append hf fun c hc => (exponent_head he hrest hc).1
    rw [List.cons_append, List.append_assoc, take?_point (.inr hne) rfl hfraction,
      Numeral.withExponent, takeExponent_append he hrest]

theorem takeInfix?_none {c : Char} (h : c ∉ symbolChars) (rest : List Char) :
    takeInfix? (c :: rest) = none := by
  rw [takeInfix?]
  all_goals
    rintro _ ⟨⟩
    exact h (by decide)

theorem takeInfix?_symbol {s : Symbol} (hs : s ≠ .not) {rest : List Char}
    (hrest : ∀ cs, rest ≠ '=' :: cs) : takeInfix? (s.text.toList ++ rest) = some (s, rest) := by
  rcases s with ⟨⟨_ | _⟩ | ⟨_ | _ | _ | _ | _ | _ | _ | _ | _ | _ | _ | _ | _⟩⟩ |
    _ | _ | _ | _ | _ | _ | _
  all_goals simp [Symbol.text, BinaryOp.text, Operator.text, Logical.text, takeInfix?] at hs ⊢

theorem takeWord?_none {c : Char} (hc : c ∈ symbolChars) {rest : List Char}
    (hrest : c = '.' → ∀ d, rest.head? = some d → Text.digitValue? d = none) :
    takeWord? (c :: rest) = none := by
  have hname := not_startsName_of_symbol hc
  have hquote := (classes_of_symbol hc).2.2.2
  have hdigits : takeDigits (c :: rest) = ([], c :: rest) := by
    rw [takeDigits, not_digit_of_symbol hc]
  have hnumber : Numeral.take? (c :: rest) = none := by
    unfold Numeral.take?
    simp only [hdigits]
    split
    · rename_i heq
      cases heq
      have hfraction : takeDigits rest = ([], rest) := takeDigits_append .nil (hrest rfl)
      simp only [hfraction]
      rfl
    · rfl
  simp only [takeWord?, hname, hquote, hnumber, Bool.false_eq_true, if_false]

theorem take?_word {text rest : List Char} {t : Token} (h : takeWord? text = some (t, rest))
    {expected : Expected} (hsymbol : expected = .operator → takeInfix? text = none) :
    Token.take? expected text = some (t, rest) := by
  cases expected with
  | operand => simp [Token.take?, takeExpected?, h]
  | operator => simp [Token.take?, takeExpected?, takeAny?, hsymbol rfl, asToken, h]
  | memberName =>
    have hname : takeName? text = some (t, rest) ∨ takeName? text = none := by
      unfold takeName?
      split
      · split
        · exact .inl h
        · exact .inr rfl
      · exact .inr rfl
    rcases hname with hname | hname <;> simp [Token.take?, takeExpected?, takeAny?, hname, h]

theorem takeName?_none {c : Char} (hc : startsName c = false) (rest : List Char) :
    takeName? (c :: rest) = none := by
  simp only [takeName?, hc, Bool.false_eq_true, if_false]

/-- A symbol is read unless an operand is due and an operand can begin as it begins. -/
theorem take?_symbol {text rest : List Char} {s : Symbol} (hword : takeWord? text = none)
    (hname : takeName? text = none)
    (hs : takeInfix? text = some (s, rest)) {expected : Expected}
    (hsign : expected = .operand → ∀ found, takePrefix? text = some found → found = (s, rest)) :
    Token.take? expected text = some (.symbol s, rest) := by
  cases expected with
  | operand =>
    cases hp : takePrefix? text with
    | none => simp [Token.take?, takeExpected?, takeAny?, hword, hs, hp, asToken]
    | some found => simp [Token.take?, takeExpected?, hword, hp, hsign rfl found hp, asToken]
  | operator => simp [Token.take?, takeExpected?, hs, asToken]
  | memberName => simp [Token.take?, takeExpected?, takeAny?, hname, hword, hs, asToken]

theorem Symbol.text_eq_cons (s : Symbol) : ∃ c cs, s.text.toList = c :: cs ∧ c ∈ symbolChars ∧
    (cs.all fun d => d ∈ symbolChars) = true := by
  rcases s with ⟨_ | _⟩ | _ | _ | _ | _ | _ | _ | _
  case binary.logical op => cases op <;> exact ⟨_, _, rfl, by decide, by decide⟩
  case binary.operator op => cases op <;> exact ⟨_, _, rfl, by decide, by decide⟩
  all_goals exact ⟨_, _, rfl, by decide, by decide⟩

theorem takeWord?_symbol (s : Symbol) {rest : List Char} (hrest : Bounded rest) :
    takeWord? (s.text.toList ++ rest) = none := by
  obtain ⟨c, cs, htext, hc, hcs⟩ := s.text_eq_cons
  rw [htext, List.cons_append]
  refine takeWord?_none hc fun _ d hd => ?_
  cases cs with
  | nil => exact digitValue?_of_isBlank (hrest d hd)
  | cons e cs =>
    cases hd
    exact not_digit_of_symbol (of_decide_eq_true (List.all_eq_true.mp hcs _ List.mem_cons_self))

theorem takeName?_symbol (s : Symbol) (rest : List Char) :
    takeName? (s.text.toList ++ rest) = none := by
  obtain ⟨c, cs, htext, hc, -⟩ := s.text_eq_cons
  rw [htext]
  exact takeName?_none (not_startsName_of_symbol hc) _

theorem Bounded.not_cons {rest : List Char} (h : Bounded rest) {c : Char} (hc : c ∈ symbolChars)
    (cs : List Char) : rest ≠ c :: cs := by
  rintro rfl
  exact not_symbol_of_isBlank (h c rfl) hc

/-! ## Tokens -/

/-- The tokens that are not read as they stand where something else is expected. -/
inductive Misread : Expected → Token → Prop
  | ne : Misread .operand (.symbol (.binary (.operator .ne)))
  | strictNe : Misread .operand (.symbol (.binary (.operator .strictNe)))
  | fraction {numeral : Numeral} {source : String} {cs : List Char}
      (h : source.toList = '.' :: cs) : Misread .operator (.number numeral source)

theorem take?_not {rest : List Char} (hrest : Bounded rest) (expected : Expected) :
    Token.take? expected ('!' :: rest) = some (.symbol .not, rest) := by
  have hword : takeWord? ('!' :: rest) = none := takeWord?_symbol .not hrest
  have hname : takeName? ('!' :: rest) = none := takeName?_symbol .not rest
  have hsymbol : takeInfix? ('!' :: rest) = none := by
    have := hrest.not_cons (show '=' ∈ symbolChars by decide)
    simp [takeInfix?, this]
  cases expected <;>
    simp [Token.take?, takeExpected?, takeAny?, hword, hname, hsymbol, takePrefix?, asToken]

theorem take?_lexical_symbol {s : Symbol} {rest : List Char} (hrest : Bounded rest)
    {expected : Expected} (hfit : ¬ Misread expected (.symbol s)) :
    Token.take? expected (s.text.toList ++ rest) = some (.symbol s, rest) := by
  by_cases hs : s = .not
  · subst hs
    exact take?_not hrest expected
  · have hsymbol := takeInfix?_symbol hs (hrest.not_cons (show '=' ∈ symbolChars by decide))
    refine take?_symbol (takeWord?_symbol s hrest) (takeName?_symbol s rest) hsymbol ?_
    rintro rfl found hfound
    rcases s with ⟨⟨_ | _⟩ | op⟩ | _ | _ | _ | _ | _ | _ | _
    case binary.operator =>
      cases op with
      | ne => exact absurd .ne hfit
      | strictNe => exact absurd .strictNe hfit
      | _ => simp_all [Symbol.text, BinaryOp.text, Operator.text, takePrefix?]
    all_goals simp_all [Symbol.text, BinaryOp.text, Logical.text, takePrefix?]

theorem take?_lexical_number {source : String} {numeral : Numeral}
    (h : NumberText source.toList numeral) {rest : List Char} (hrest : Bounded rest)
    {expected : Expected} (hfit : ¬ Misread expected (.number numeral source)) :
    Token.take? expected (source.toList ++ rest) = some (.number numeral source, rest) := by
  have hnumber := take?_number h hrest
  obtain ⟨c, cs, htext, hc⟩ := h.head
  have hname : startsName c = false := by
    rcases hc with rfl | ⟨d, hd⟩
    · decide
    · exact not_startsName_of_digit hd
  have hquote : (c = '"' || c = Text.singleQuote) = false := by
    rcases hc with rfl | ⟨d, hd⟩
    · decide
    · have hcode := code_of_digit hd
      simp only [Bool.or_eq_false_iff, decide_eq_false_iff_not]
      constructor <;>
        rintro rfl <;> revert hcode <;> decide
  have hword : takeWord? (source.toList ++ rest) = some (.number numeral source, rest) := by
    rw [htext, List.cons_append] at hnumber ⊢
    have htake : (c :: (cs ++ rest)).take ((cs ++ rest).length + 1 - rest.length) = c :: cs := by
      rw [List.length_append, Nat.add_right_comm, Nat.add_sub_cancel, List.take_succ_cons,
        List.take_left' rfl]
    simp only [takeWord?, hname, hquote, hnumber, Bool.false_eq_true, if_false, htake]
    rw [← htext, String.ofList_toList]
  refine take?_word hword ?_
  rintro rfl
  rw [htext]
  refine takeInfix?_none ?_ _
  rcases hc with rfl | ⟨d, hd⟩
  · exact absurd (.fraction htext) hfit
  · exact not_symbol_of_digit hd

theorem take?_lexical {t : Token} (ht : t.Lexical) {rest : List Char} (hrest : Bounded rest)
    {expected : Expected} (hfit : ¬ Misread expected t) :
    Token.take? expected (t.text.toList ++ rest) = some (t, rest) := by
  cases ht with
  | @name text h =>
    obtain ⟨c, cs, htext, hc, hcs⟩ := h
    have hword := takeWord?_name hc hcs hrest
    rw [← htext, String.ofList_toList, ← List.cons_append, ← htext] at hword
    refine take?_word hword fun _ => ?_
    rw [htext]
    exact takeInfix?_none (not_symbol_of_startsName hc) (cs ++ rest)
  | number h => exact take?_lexical_number h hrest hfit
  | @string quote hquote body source hbody hsource =>
    have hword := takeWord?_string hquote hbody rest
    rw [← hsource, String.ofList_toList, String.ofList_toList] at hword
    have htext : source.toList ++ rest = quote :: (body.toList ++ quote :: rest) := by
      rw [hsource, List.cons_append, List.append_assoc, List.singleton_append]
    rw [Token.text, htext]
    refine take?_word hword fun _ => takeInfix?_none ?_ _
    rcases hquote with rfl | rfl <;> decide
  | symbol s => exact take?_lexical_symbol hrest hfit

theorem Token.Lexical.head {t : Token} (h : t.Lexical) :
    ∃ c cs, t.text.toList = c :: cs ∧ Text.isBlank c = false := by
  cases h with
  | name h =>
    obtain ⟨c, cs, htext, hc, -⟩ := h
    cases hblank : Text.isBlank c with
    | false => exact ⟨c, cs, htext, hblank⟩
    | true =>
      rw [not_startsName_of_isBlank hblank] at hc
      cases hc
  | number h =>
    obtain ⟨c, cs, htext, rfl | ⟨d, hd⟩⟩ := h.head
    · exact ⟨'.', cs, htext, not_isBlank_of_symbol (by decide)⟩
    · exact ⟨c, cs, htext, not_isBlank_of_digit hd⟩
  | string hquote _ hsource =>
    refine ⟨_, _, hsource, ?_⟩
    rcases hquote with rfl | rfl <;> decide
  | symbol s =>
    obtain ⟨c, cs, htext, hc, -⟩ := s.text_eq_cons
    exact ⟨c, cs, htext, not_isBlank_of_symbol hc⟩

end DocScript
