import DocScript.Proofs.Expr.Lexing
import Mathlib.Data.List.TakeWhile

/-! # Tokens at the head of a text

Whatever stands behind it, what is taken from the head of a text is a token of the grammar, and the
text goes on behind the token's own text.
-/

namespace DocScript

variable {cs left : List Char}

theorem digits_of_takeDigits {ds : List Nat} (h : takeDigits cs = (ds, left)) :
    ∃ taken, cs = taken ++ left ∧ Digits taken ds := by
  induction cs generalizing ds with
  | nil =>
    cases h
    exact ⟨[], rfl, .nil⟩
  | cons c cs ih =>
    unfold takeDigits at h
    split at h
    · rename_i d hd
      cases h
      obtain ⟨taken, hcs, ht⟩ := ih rfl
      exact ⟨c :: taken, congrArg _ hcs, .cons hd ht⟩
    · cases h
      exact ⟨[], rfl, .nil⟩

theorem exponent_of_takeExponent {e : Option Int} (h : takeExponent cs = (e, left)) :
    ∃ taken, cs = taken ++ left ∧ ExponentText taken e := by
  have hnone : takeExponent cs = (none, cs) →
      ∃ taken, cs = taken ++ left ∧ ExponentText taken e := by
    intro hn
    cases h.symm.trans hn
    exact ⟨[], rfl, .none⟩
  cases cs with
  | nil => exact hnone rfl
  | cons c rest =>
    by_cases hc : (c = 'e' || c = 'E') = true
    · have hletter : c = 'e' ∨ c = 'E' := by simpa using hc
      rcases hs : takeSign rest with ⟨negative, after⟩
      rcases hd : takeDigits after with ⟨_ | ⟨d, ds⟩, more⟩
      · apply hnone
        rw [takeExponent, if_pos hc]
        simp only [hs, hd]
      · rw [takeExponent, if_pos hc] at h
        simp only [hs, hd] at h
        cases h
        obtain ⟨taken, rfl, hdigits⟩ := digits_of_takeDigits hd
        unfold takeSign at hs
        split at hs <;> cases hs
        · exact ⟨c :: '+' :: taken, rfl, .plus hletter hdigits (List.cons_ne_nil _ _)⟩
        · exact ⟨c :: '-' :: taken, rfl, .minus hletter hdigits (List.cons_ne_nil _ _)⟩
        · exact ⟨c :: taken, rfl, .unsigned hletter hdigits (List.cons_ne_nil _ _)⟩
    · apply hnone
      rw [takeExponent, if_neg hc]

theorem number_of_take? {numeral : Numeral} (h : Numeral.take? cs = some (numeral, left)) :
    ∃ taken, cs = taken ++ left ∧ NumberText taken numeral := by
  unfold Numeral.take? at h
  rcases hd : takeDigits cs with ⟨ds, more⟩
  obtain ⟨whole, rfl, hwhole⟩ := digits_of_takeDigits hd
  simp only [hd] at h
  split at h
  · rename_i rest
    rcases hf : takeDigits rest with ⟨gs, last⟩
    obtain ⟨fraction, rfl, hfraction⟩ := digits_of_takeDigits hf
    simp only [hf] at h
    split at h
    · cases h
    · rename_i hne
      obtain ⟨rfl, rfl⟩ := Prod.mk.inj (Option.some.inj h)
      obtain ⟨exponent, he, hexponent⟩ :=
        exponent_of_takeExponent (Prod.eta (takeExponent last)).symm
      cases hwhole with
      | nil =>
        refine ⟨'.' :: (fraction ++ exponent), ?_,
          .fraction hfraction (by simpa using hne) hexponent⟩
        simp only [List.nil_append, List.cons_append, List.append_assoc, ← he]
      | cons hc hcs =>
        refine ⟨_, ?_, .point (.cons hc hcs) (List.cons_ne_nil _ _) hfraction hexponent⟩
        simp only [List.cons_append, List.append_assoc, ← he]
  · split at h
    · cases h
    · rename_i hne
      obtain ⟨rfl, rfl⟩ := Prod.mk.inj (Option.some.inj h)
      obtain ⟨exponent, he, hexponent⟩ :=
        exponent_of_takeExponent (Prod.eta (takeExponent more)).symm
      refine ⟨whole ++ exponent, ?_, .whole hwhole (by simpa using hne) hexponent⟩
      rw [List.append_assoc, ← he]

theorem body_of_takeString {quote : Char} {body : List Char}
    (h : takeString quote cs = some (body, left)) :
    cs = body ++ quote :: left ∧ StringBody quote body := by
  fun_induction takeString quote cs generalizing body with
  | case1 => cases h
  | case2 => cases h
  | case3 c rest hc ih =>
    obtain ⟨⟨more, after⟩, hm, he⟩ := Option.map_eq_some_iff.mp h
    cases he
    obtain ⟨rfl, hbody⟩ := ih hm
    exact ⟨rfl, .escaped hc hbody⟩
  | case4 rest =>
    cases h
    exact ⟨rfl, .nil⟩
  | case5 => cases h
  | case6 c rest _ hq he ih =>
    obtain ⟨⟨more, after⟩, hm, heq⟩ := Option.map_eq_some_iff.mp h
    cases heq
    obtain ⟨rfl, hbody⟩ := ih hm
    exact ⟨rfl, .plain hq he hbody⟩

theorem takeInfix?_text {s : Symbol} (h : takeInfix? cs = some (s, left)) :
    s ≠ .not ∧ cs = s.text.toList ++ left := by
  unfold takeInfix? at h
  split at h <;> cases h <;> exact ⟨nofun, rfl⟩

theorem takePrefix?_text {s : Symbol} (h : takePrefix? cs = some (s, left)) :
    cs = s.text.toList ++ left := by
  unfold takePrefix? at h
  split at h <;> cases h <;> rfl

theorem takeWord?_lexical {t : Token} (h : takeWord? cs = some (t, left)) :
    t.Lexical ∧ cs = t.text.toList ++ left := by
  cases cs with
  | nil => cases h
  | cons c rest =>
    rw [takeWord?] at h
    split at h
    · rename_i hc
      cases h
      refine ⟨.name ?_, ?_⟩
      · rw [String.toList_ofList]
        exact ⟨c, _, rfl, hc, fun d hd => List.mem_takeWhile_imp hd⟩
      · rw [Token.text, String.toList_ofList, List.cons_append, List.takeWhile_append_dropWhile]
    · split at h
      · rename_i hq
        split at h
        · rename_i body after hs
          cases h
          obtain ⟨rfl, hbody⟩ := body_of_takeString hs
          have hquote : c = '"' ∨ c = Text.singleQuote := by simpa using hq
          refine ⟨.string hquote ?_ ?_, ?_⟩
          · rwa [String.toList_ofList]
          · rw [String.toList_ofList, String.toList_ofList, List.cons_append]
          · rw [Token.text, String.toList_ofList, List.append_assoc]
            rfl
        · cases h
      · split at h
        · rename_i numeral after hn
          cases h
          obtain ⟨taken, ht, hnumber⟩ := number_of_take? hn
          have hl : rest.length + 1 - left.length = taken.length := by
            have := congrArg List.length ht
            simp only [List.length_cons, List.length_append] at this
            omega
          have hsource : (c :: rest).take (rest.length + 1 - left.length) = taken := by
            rw [hl, ht, List.take_left']
            rfl
          rw [hsource]
          refine ⟨.number ?_, ?_⟩
          · rwa [String.toList_ofList]
          · rw [Token.text, String.toList_ofList, ht]
        · cases h

theorem asToken_lexical {found : Option (Symbol × List Char)} {t : Token}
    (hf : ∀ s, found = some (s, left) → cs = s.text.toList ++ left)
    (h : asToken found = some (t, left)) : t.Lexical ∧ cs = t.text.toList ++ left := by
  obtain ⟨⟨s, after⟩, hs, he⟩ := Option.map_eq_some_iff.mp h
  cases he
  exact ⟨.symbol s, hf s hs⟩

theorem takeAny?_lexical {t : Token} (h : takeAny? cs = some (t, left)) :
    t.Lexical ∧ cs = t.text.toList ++ left := by
  rcases Option.or_eq_some_iff.mp h with hw | ⟨-, h⟩
  · exact takeWord?_lexical hw
  · rcases Option.or_eq_some_iff.mp h with hi | ⟨-, hp⟩
    · exact asToken_lexical (fun s hs => (takeInfix?_text hs).2) hi
    · exact asToken_lexical (fun s hs => takePrefix?_text hs) hp

/-- What is taken from a text is a token, and its text stands at the head. -/
theorem lexical_of_take? {expected : Expected} {t : Token}
    (h : Token.take? expected cs = some (t, left)) : t.Lexical ∧ cs = t.text.toList ++ left := by
  rcases Option.or_eq_some_iff.mp h with he | ⟨-, ha⟩
  · cases expected with
    | operand =>
      rcases Option.or_eq_some_iff.mp he with hw | ⟨-, hp⟩
      · exact takeWord?_lexical hw
      · exact asToken_lexical (fun s hs => takePrefix?_text hs) hp
    | operator => exact asToken_lexical (fun s hs => (takeInfix?_text hs).2) he
    | memberName =>
      cases cs with
      | nil => cases he
      | cons c rest =>
        rw [takeExpected?, takeName?] at he
        split at he
        · exact takeWord?_lexical he
        · cases he
  · exact takeAny?_lexical ha

end DocScript
