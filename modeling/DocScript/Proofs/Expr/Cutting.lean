import DocScript.Proofs.Expr.Reads
import DocScript.Proofs.Expr.Taking

/-! # Texts that go on in another way

What fits at a place has been read without a look beyond the blank, or the end, that may follow it.
So a token is read as well when the text is cut somewhere behind the token, and goes on with a
blank there.
-/

namespace DocScript

variable {cs left rem more taken : List Char} {c : Char}

theorem eq_append_of_cut (h : cs ++ left = taken ++ (rem ++ left)) : cs = taken ++ rem := by
  rwa [← List.append_assoc, List.append_left_inj] at h

theorem cons_eq_of_cut (h : c :: (cs ++ left) = rem ++ left) : c :: cs = rem :=
  List.append_cancel_right (show c :: cs ++ left = rem ++ left from h)

/-! ## Parts of tokens -/

theorem takeDigits_cut {ds : List Nat} (hmore : Bounded more)
    (h : takeDigits (cs ++ left) = (ds, rem ++ left)) :
    takeDigits (cs ++ more) = (ds, rem ++ more) := by
  induction cs generalizing ds with
  | nil =>
    obtain ⟨taken, hleft, hdigits⟩ := digits_of_takeDigits h
    obtain ⟨rfl, rfl⟩ := List.append_eq_nil_iff.mp (eq_append_of_cut hleft).symm
    cases hdigits
    exact takeDigits_append .nil fun c hc => digitValue?_of_isBlank (hmore c hc)
  | cons c cs ih =>
    rw [List.cons_append, takeDigits] at h ⊢
    cases hd : Text.digitValue? c with
    | none =>
      simp only [hd] at h
      obtain ⟨rfl, hrem⟩ := Prod.mk.inj h
      rw [← cons_eq_of_cut hrem]
      rfl
    | some d =>
      simp only [hd] at h
      obtain ⟨rfl, hrem⟩ := Prod.mk.inj h
      simp only [ih (Prod.ext rfl hrem)]

theorem takeWhile_cut {p : Char → Bool} (hmore : Bounded more)
    (hp : ∀ c, Text.isBlank c → p c = false) (h : (cs ++ left).dropWhile p = rem ++ left) :
    (cs ++ more).takeWhile p = (cs ++ left).takeWhile p ∧
      (cs ++ more).dropWhile p = rem ++ more := by
  induction cs with
  | nil =>
    have hleft := List.takeWhile_append_dropWhile (p := p) (l := left)
    rw [List.nil_append] at h
    rw [h, ← List.append_assoc] at hleft
    obtain ⟨htake, rfl⟩ := List.append_eq_nil_iff.mp (List.append_left_eq_self.mp hleft)
    obtain ⟨htake', hdrop⟩ := hmore.head hp
    exact ⟨htake'.trans htake.symm, hdrop⟩
  | cons c cs ih =>
    rw [List.cons_append, List.dropWhile_cons] at h
    rw [List.cons_append, List.cons_append, List.takeWhile_cons, List.takeWhile_cons,
      List.dropWhile_cons]
    split
    · rename_i hc
      rw [if_pos hc] at h
      exact ⟨congrArg _ (ih h).1, (ih h).2⟩
    · rename_i hc
      rw [if_neg hc, ← List.cons_append] at h
      exact ⟨rfl, congrArg (· ++ more) (List.append_cancel_right h)⟩

theorem exists_takeSign (hne : cs ≠ []) :
    ∃ negative after, ∀ rest, takeSign (cs ++ rest) = (negative, after ++ rest) := by
  obtain ⟨c, cs, rfl⟩ := List.exists_cons_of_ne_nil hne
  by_cases hplus : c = '+'
  · exact ⟨false, cs, fun rest => by rw [hplus, List.cons_append, takeSign]⟩
  by_cases hminus : c = '-'
  · exact ⟨true, cs, fun rest => by rw [hminus, List.cons_append, takeSign]⟩
  refine ⟨false, c :: cs, fun rest => ?_⟩
  rw [takeSign]
  · rintro _ ⟨⟩
    exact hplus rfl
  · rintro _ ⟨⟩
    exact hminus rfl

/-- No exponent ends with its letter, nor goes on with a blank behind it. -/
theorem takeExponent_cut_letter {e : Option Int} (hmore : Bounded more)
    (h : takeExponent (c :: left) = (e, rem ++ left)) :
    takeExponent (c :: more) = (e, rem ++ more) := by
  obtain ⟨taken, hleft, hexponent⟩ := exponent_of_takeExponent h
  have hone : [c] = taken ++ rem := eq_append_of_cut hleft
  have hsign : takeSign more = (false, more) := by
    rw [takeSign]
    · exact hmore.not_cons (by decide)
    · exact hmore.not_cons (by decide)
  have hdigits : takeDigits more = ([], more) :=
    takeDigits_append .nil fun c hc => digitValue?_of_isBlank (hmore c hc)
  cases hexponent with
  | none =>
    rw [List.nil_append] at hone
    subst hone
    simp only [takeExponent, hsign, hdigits, ite_self]
    rfl
  | unsigned _ hd hne =>
    cases hd with
    | nil => exact absurd rfl hne
    | cons => simp at hone
  | plus | minus => simp at hone

theorem takeExponent_cut {e : Option Int} (hmore : Bounded more)
    (h : takeExponent (cs ++ left) = (e, rem ++ left)) :
    takeExponent (cs ++ more) = (e, rem ++ more) := by
  cases cs with
  | nil =>
    obtain ⟨taken, hleft, hexponent⟩ := exponent_of_takeExponent h
    obtain ⟨rfl, rfl⟩ := List.append_eq_nil_iff.mp (eq_append_of_cut hleft).symm
    cases hexponent
    exact takeExponent_append .none hmore
  | cons c cs =>
    by_cases hne : cs = []
    · subst hne
      exact takeExponent_cut_letter hmore h
    obtain ⟨negative, after, hsign⟩ := exists_takeSign hne
    simp only [List.cons_append, takeExponent, hsign] at h ⊢
    split
    · rename_i hc
      rw [if_pos hc] at h
      rcases hd : takeDigits (after ++ left) with ⟨ds, behind⟩
      obtain ⟨taken, hafter, hdigits⟩ := digits_of_takeDigits hd
      cases ds with
      | nil =>
        cases hdigits
        subst hafter
        simp only [hd] at h
        obtain ⟨rfl, hrem⟩ := Prod.mk.inj h
        have hnone : takeDigits (after ++ more) = ([], after ++ more) := takeDigits_cut hmore hd
        simp only [← cons_eq_of_cut hrem, hnone]
        rfl
      | cons n ds =>
        simp only [hd] at h
        obtain ⟨rfl, rfl⟩ := Prod.mk.inj h
        have hsome := takeDigits_cut hmore hd
        simp only [hsome]
    · rename_i hc
      rw [if_neg hc] at h
      obtain ⟨rfl, hrem⟩ := Prod.mk.inj h
      rw [← cons_eq_of_cut hrem]
      rfl

theorem take?_cut {numeral : Numeral} (hmore : Bounded more)
    (h : Numeral.take? (cs ++ left) = some (numeral, rem ++ left)) :
    Numeral.take? (cs ++ more) = some (numeral, rem ++ more) := by
  -- Behind the digits comes what an exponent leaves of it, and so the cut.
  have hbehind {text : List Char} {e : Option Int} (he : takeExponent text = (e, rem ++ left)) :
      ∃ behind, text = behind ++ left ∧ takeExponent (behind ++ more) = (e, rem ++ more) := by
    obtain ⟨taken, rfl, -⟩ := exponent_of_takeExponent he
    rw [← List.append_assoc] at he
    exact ⟨taken ++ rem, by rw [List.append_assoc], takeExponent_cut hmore he⟩
  unfold Numeral.take? at h
  rcases hw : takeDigits (cs ++ left) with ⟨whole, text⟩
  simp only [hw] at h
  split at h
  · rename_i rest
    rcases hf : takeDigits rest with ⟨fraction, text⟩
    simp only [hf] at h
    split at h
    · cases h
    · rename_i hne
      obtain ⟨rfl, hleft⟩ := Prod.mk.inj (Option.some.inj h)
      obtain ⟨behind, rfl, hexponent⟩ := hbehind (Prod.ext rfl hleft)
      obtain ⟨taken, rfl, -⟩ := digits_of_takeDigits hf
      rw [← List.append_assoc] at hf hw
      have hwhole : takeDigits (cs ++ more) = (whole, '.' :: (taken ++ behind) ++ more) :=
        takeDigits_cut hmore hw
      rw [take?_point (by simpa [Classical.or_iff_not_imp_left] using hne) hwhole
        (takeDigits_cut hmore hf), Numeral.withExponent, hexponent]
  · rename_i hpoint
    split at h
    · cases h
    · rename_i hne
      obtain ⟨rfl, hleft⟩ := Prod.mk.inj (Option.some.inj h)
      obtain ⟨behind, rfl, hexponent⟩ := hbehind (Prod.ext rfl hleft)
      rw [take?_whole (by simpa using hne) (takeDigits_cut hmore hw), Numeral.withExponent,
        hexponent]
      intro rest hrest
      cases behind with
      | nil => exact hmore.not_cons (by decide) rest hrest
      | cons c behind =>
        obtain ⟨rfl, -⟩ := List.cons.inj hrest
        exact hpoint _ rfl

theorem takeString_cut {quote : Char} {body : List Char} (hquote : quote ≠ '\\')
    (h : takeString quote (cs ++ left) = some (body, rem ++ left)) :
    takeString quote (cs ++ more) = some (body, rem ++ more) := by
  obtain ⟨hcs, hbody⟩ := body_of_takeString h
  have hcs : cs ++ left = body ++ [quote] ++ (rem ++ left) := by
    rw [hcs, List.append_assoc, List.singleton_append]
  rw [eq_append_of_cut hcs, List.append_assoc, List.append_assoc]
  exact takeString_body hbody hquote (rem ++ more)

/-! ## Tokens -/

theorem ne_nil_of_cut (h : (rem ++ left).length < (cs ++ left).length) : cs ≠ [] := by
  rintro rfl
  simp only [List.nil_append, List.length_append] at h
  omega

/-- The part of a text in front of what is left of it does not depend on what follows both. -/
theorem take_cut (c : Char) (cs rem text : List Char) :
    (c :: cs ++ text).take ((cs ++ text).length + 1 - (rem ++ text).length) =
      (c :: cs).take (cs.length + 1 - rem.length) := by
  rw [List.length_append, List.length_append, Nat.add_right_comm, Nat.add_sub_add_right]
  exact List.take_append_of_le_length (Nat.sub_le _ _)

theorem takeWord?_cut {t : Token} (hmore : Bounded more)
    (h : takeWord? (cs ++ left) = some (t, rem ++ left)) :
    takeWord? (cs ++ more) = some (t, rem ++ more) := by
  obtain ⟨c, cs, rfl⟩ := List.exists_cons_of_ne_nil (ne_nil_of_cut (takeWord?_length h))
  rw [List.cons_append, takeWord?, ← List.cons_append] at h ⊢
  split
  · rename_i hc
    rw [if_pos hc] at h
    obtain ⟨rfl, hleft⟩ := Prod.mk.inj (Option.some.inj h)
    obtain ⟨htake, hdrop⟩ := takeWhile_cut hmore (fun _ => continuesName_of_isBlank) hleft
    rw [htake, hdrop]
  · rename_i hc
    rw [if_neg hc] at h
    split
    · rename_i hq
      rw [if_pos hq] at h
      have hescape : c ≠ '\\' := by
        rcases (by simpa using hq : c = '"' ∨ c = Text.singleQuote) with rfl | rfl <;> decide
      split at h
      · rename_i body after hbody
        obtain ⟨rfl, rfl⟩ := Prod.mk.inj (Option.some.inj h)
        rw [takeString_cut hescape hbody]
      · cases h
    · rename_i hq
      rw [if_neg hq] at h
      split at h
      · rename_i numeral after hn
        obtain ⟨rfl, rfl⟩ := Prod.mk.inj (Option.some.inj h)
        rw [take?_cut hmore hn]
        simp only [take_cut]
      · cases h

theorem takeInfix?_ne_none {s : Symbol} (hs : s ≠ .not) (rest : List Char) :
    takeInfix? (s.text.toList ++ rest) ≠ none := by
  by_cases he : ∃ more, rest = '=' :: more
  · obtain ⟨more, rfl⟩ := he
    rcases s with ⟨op | op⟩ | _ | _ | _ | _ | _ | _ | _
    case not => exact absurd rfl hs
    case binary.logical => cases op <;> nofun
    case binary.operator => cases op <;> nofun
    all_goals nofun
  · rw [takeInfix?_symbol hs fun more hr => he ⟨more, hr⟩]
    nofun

/-- In front of an equals sign, what follows the sign decides nothing. -/
theorem takeInfix?_equals {s : Symbol} {rest : List Char}
    (h : takeInfix? (s.text.toList ++ '=' :: rest) = some (s, '=' :: rest)) (more : List Char) :
    takeInfix? (s.text.toList ++ '=' :: more) = some (s, '=' :: more) := by
  have hs := (takeInfix?_text h).1
  rcases s with ⟨op | op⟩ | _ | _ | _ | _ | _ | _ | _
  case not => exact absurd rfl hs
  case binary.logical => cases op <;> rfl
  case binary.operator => cases op <;> first | rfl | cases h
  all_goals rfl

theorem takeInfix?_cut {s : Symbol} (hmore : Bounded more)
    (h : takeInfix? (cs ++ left) = some (s, rem ++ left)) :
    takeInfix? (cs ++ more) = some (s, rem ++ more) := by
  obtain ⟨hs, hcs⟩ := takeInfix?_text h
  obtain rfl := eq_append_of_cut hcs
  rw [List.append_assoc] at h ⊢
  cases rem with
  | nil => exact takeInfix?_symbol hs (hmore.not_cons (by decide))
  | cons c rem =>
    by_cases hc : c = '='
    · subst hc
      exact takeInfix?_equals h (rem ++ more)
    · exact takeInfix?_symbol hs fun rest hrest => hc (List.cons.inj hrest).1

theorem takePrefix?_cut {s : Symbol} (h : takePrefix? (cs ++ left) = some (s, rem ++ left)) :
    takePrefix? (cs ++ more) = some (s, rem ++ more) := by
  obtain ⟨c, cs, rfl⟩ := List.exists_cons_of_ne_nil (ne_nil_of_cut (takePrefix?_length h))
  rw [List.cons_append] at h ⊢
  unfold takePrefix? at h
  split at h
  case h_6 => cases h
  all_goals
    rename_i hc
    obtain ⟨rfl, rfl⟩ := List.cons.inj hc
    obtain ⟨rfl, hrem⟩ := Prod.mk.inj (Option.some.inj h)
    rw [List.append_cancel_right hrem]
    rfl

/-- No word begins like a sign or a parenthesis. -/
theorem takeWord?_prefix {s : Symbol} (h : takePrefix? cs = some (s, left)) :
    takeWord? cs = none := by
  unfold takePrefix? at h
  split at h
  case h_6 => cases h
  all_goals exact takeWord?_none (by decide) (by rintro ⟨⟩)

theorem symbol_of_asToken {found : Option (Symbol × List Char)} {t : Token}
    (h : asToken found = some (t, left)) : ∃ s, t = .symbol s ∧ found = some (s, left) := by
  obtain ⟨⟨s, after⟩, hs, he⟩ := Option.map_eq_some_iff.mp h
  obtain ⟨rfl, rfl⟩ := Prod.mk.inj he
  exact ⟨s, rfl, hs⟩

theorem takeExpected?_cut {expected : Expected} {t : Token} (hmore : Bounded more)
    (h : takeExpected? expected (cs ++ left) = some (t, rem ++ left)) :
    takeExpected? expected (cs ++ more) = some (t, rem ++ more) := by
  have hsymbol {take : List Char → Option (Symbol × List Char)}
      (hcut : ∀ s, take (cs ++ left) = some (s, rem ++ left) →
        take (cs ++ more) = some (s, rem ++ more))
      (htake : asToken (take (cs ++ left)) = some (t, rem ++ left)) :
      asToken (take (cs ++ more)) = some (t, rem ++ more) := by
    obtain ⟨s, rfl, hs⟩ := symbol_of_asToken htake
    rw [asToken, hcut s hs]
    rfl
  cases expected with
  | operand =>
    rcases Option.or_eq_some_iff.mp h with hword | ⟨-, hprefix⟩
    · rw [takeExpected?, takeWord?_cut hmore hword]
      rfl
    · have hprefix := hsymbol (fun _ => takePrefix?_cut) hprefix
      obtain ⟨⟨s, after⟩, hs, -⟩ := Option.map_eq_some_iff.mp hprefix
      rw [takeExpected?, takeWord?_prefix hs, hprefix]
      rfl
  | operator => exact hsymbol (fun _ => takeInfix?_cut hmore) h
  | memberName =>
    obtain ⟨c, cs, rfl⟩ := List.exists_cons_of_ne_nil (ne_nil_of_cut (takeExpected?_length h))
    rw [takeExpected?, List.cons_append, takeName?, ← List.cons_append] at h ⊢
    split at h
    · exact (if_pos ‹_›).trans (takeWord?_cut hmore h)
    · cases h

theorem takeWord?_ne_symbol {s : Symbol} : takeWord? cs ≠ some (.symbol s, left) := by
  intro h
  cases cs with
  | nil => cases h
  | cons c cs =>
    rw [takeWord?] at h
    split at h
    · cases h
    · split at h
      · split at h <;> cases h
      · split at h <;> cases h

theorem takeName?_of_takeWord? {name : String} (h : takeWord? cs = some (.name name, left)) :
    takeName? cs = some (.name name, left) := by
  cases cs with
  | nil => cases h
  | cons c cs =>
    rw [takeName?]
    split
    · exact h
    · rename_i hc
      rw [takeWord?, if_neg hc] at h
      split at h
      · split at h <;> cases h
      · split at h <;> cases h

/-- A symbol that fits where an operand is due is looked for there. -/
theorem takePrefix?_of_afterOperand {s : Symbol} {openings : List (Opening Expr)}
    {mayClose : Bool} {next : Place Expr}
    (h : Place.afterOperand Expr.builder openings mayClose (.symbol s) = some next) :
    takePrefix? (s.text.toList ++ left) = some (s, left) := by
  rcases s with ⟨op | op⟩ | _ | _ | _ | _ | _ | _ | _
  case binary.operator => cases op <;> first | rfl | cases h
  case not | openParen | closeParen => rfl
  all_goals cases h

/-- A token that fits is one that is looked for at the place. -/
theorem takeExpected?_of_next? {place next : Place Expr} {t : Token}
    (htake : Token.take? place.expected cs = some (t, left))
    (hnext : place.next? Expr.builder t = .ok (some next)) :
    takeExpected? place.expected cs = some (t, left) := by
  rcases Option.or_eq_some_iff.mp htake with h | ⟨hnone, h⟩
  · exact h
  rcases place with ⟨openings, mayClose⟩ | ⟨openings, found⟩ | ⟨openings, object⟩
  case operand =>
    obtain ⟨hword, hprefix⟩ := Option.or_eq_none_iff.mp hnone
    rw [takeAny?, hword, hprefix, Option.none_or, Option.or_none] at h
    obtain ⟨s, rfl, hs⟩ := symbol_of_asToken h
    obtain ⟨-, rfl⟩ := takeInfix?_text hs
    rw [takePrefix?_of_afterOperand (Except.ok.inj hnext)] at hprefix
    cases hprefix
  case operator =>
    rw [takeAny?, show asToken (takeInfix? cs) = none from hnone, Option.none_or] at h
    rcases Option.or_eq_some_iff.mp h with hword | ⟨-, hprefix⟩
    · cases t with
      | symbol s => exact absurd hword takeWord?_ne_symbol
      | _ => cases hnext
    · obtain ⟨s, rfl, hs⟩ := symbol_of_asToken hprefix
      have hne : s ≠ .not := by
        rintro rfl
        cases hnext
      rw [takePrefix?_text hs] at hnone
      exact absurd (Option.map_eq_none_iff.mp hnone) (takeInfix?_ne_none hne left)
  case memberName =>
    cases t with
    | name name =>
      rcases Option.or_eq_some_iff.mp h with hword | ⟨-, h⟩
      · exact takeName?_of_takeWord? hword
      · rcases Option.or_eq_some_iff.mp h with h | ⟨-, h⟩ <;>
          obtain ⟨s, hs, -⟩ := symbol_of_asToken h <;> cases hs
    | _ => cases hnext

/-- A token that fits is taken whatever follows, if it goes on with a blank behind the cut. -/
theorem Token.take?_cut {place next : Place Expr} {t : Token} (hmore : Bounded more)
    (htake : Token.take? place.expected (cs ++ left) = some (t, rem ++ left))
    (hnext : place.next? Expr.builder t = .ok (some next)) :
    Token.take? place.expected (cs ++ more) = some (t, rem ++ more) := by
  rw [Token.take?, takeExpected?_cut hmore (takeExpected?_of_next? htake hnext)]
  rfl

end DocScript
