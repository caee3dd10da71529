import DocScript.Proofs.Expr.Cutting

/-! # Blanks at the end of a text

Blanks behind an expression change nothing: every token is read as if the text ended in front of
them. So a text without the blanks around it reads as the same expression.
-/

namespace DocScript

variable {blanks : List Char}

def IsBlank (text : List Char) : Prop := ∀ c ∈ text, Text.isBlank c = true

/-- What is found at the head of a text, with some more behind what follows it. -/
def following {α : Type} (more : List Char) (found : α × List Char) : α × List Char :=
  (found.1, found.2 ++ more)

theorem IsBlank.bounded (h : IsBlank blanks) : Bounded blanks :=
  fun c hc => h c (List.mem_of_mem_head? hc)

theorem IsBlank.not_symbol (h : IsBlank blanks) {c : Char} (hc : c ∈ symbolChars)
    (rest : List Char) : blanks ≠ c :: rest := h.bounded.not_cons hc rest

theorem takeDigits_append_blanks (h : IsBlank blanks) (cs : List Char) :
    takeDigits (cs ++ blanks) = ((takeDigits cs).1, (takeDigits cs).2 ++ blanks) := by
  have hends : takeDigits (cs ++ []) = ((takeDigits cs).1, (takeDigits cs).2 ++ []) := by simp
  exact takeDigits_cut h.bounded hends

theorem takeExponent_append_blanks (h : IsBlank blanks) (cs : List Char) :
    takeExponent (cs ++ blanks) = ((takeExponent cs).1, (takeExponent cs).2 ++ blanks) := by
  have hends : takeExponent (cs ++ []) = ((takeExponent cs).1, (takeExponent cs).2 ++ []) := by simp
  exact takeExponent_cut h.bounded hends

theorem takeWhile_append_blanks (h : IsBlank blanks) {p : Char → Bool}
    (hp : ∀ c, Text.isBlank c → p c = false) (cs : List Char) :
    (cs ++ blanks).takeWhile p = cs.takeWhile p ∧
      (cs ++ blanks).dropWhile p = cs.dropWhile p ++ blanks := by
  have hends : (cs ++ []).dropWhile p = cs.dropWhile p ++ [] := by simp
  have hcut := takeWhile_cut h.bounded hp hends
  rwa [List.append_nil] at hcut

theorem symbols_of_append (h : IsBlank blanks) {symbols cs left : List Char}
    (hs : ∀ c ∈ symbols, c ∈ symbolChars) (he : cs ++ blanks = symbols ++ left) :
    ∃ rest, cs = symbols ++ rest ∧ left = rest ++ blanks := by
  rcases List.append_eq_append_iff.mp he with ⟨rest, rfl, hb⟩ | ⟨rest, hc, hl⟩
  · cases rest with
    | nil => exact ⟨[], by simp, by simp [hb]⟩
    | cons c rest =>
      have hc := hs c (List.mem_append_right _ List.mem_cons_self)
      exact absurd hb (h.not_symbol hc _)
  · exact ⟨rest, hc, hl⟩

theorem Symbol.text_subset (s : Symbol) : ∀ c ∈ s.text.toList, c ∈ symbolChars := by
  obtain ⟨c, cs, ht, hc, hcs⟩ := s.text_eq_cons
  rw [ht]
  intro d hd
  rcases List.mem_cons.mp hd with rfl | hd
  · exact hc
  · exact of_decide_eq_true (List.all_eq_true.mp hcs d hd)

theorem takeInfix?_append_blanks (h : IsBlank blanks) (cs : List Char) :
    takeInfix? (cs ++ blanks) = (takeInfix? cs).map (following blanks) := by
  cases hf : takeInfix? cs with
  | some found =>
    obtain ⟨s, left⟩ := found
    rw [← List.append_nil cs, ← List.append_nil left] at hf
    exact takeInfix?_cut h.bounded hf
  | none =>
    cases hb : takeInfix? (cs ++ blanks) with
    | none => rfl
    | some found =>
      obtain ⟨s, left⟩ := found
      obtain ⟨hs, he⟩ := takeInfix?_text hb
      obtain ⟨rest, rfl, -⟩ := symbols_of_append h s.text_subset he
      exact absurd hf (takeInfix?_ne_none hs rest)

theorem takePrefix?_append_blanks (h : IsBlank blanks) (cs : List Char) :
    takePrefix? (cs ++ blanks) = (takePrefix? cs).map (following blanks) := by
  cases cs with
  | nil =>
    rw [List.nil_append, takePrefix?]
    · rfl
    all_goals exact h.not_symbol (by decide)
  | cons c cs =>
    rw [List.cons_append]
    unfold takePrefix?
    split <;> simp_all [following]

theorem withExponent_append_blanks (h : IsBlank blanks) (whole : List Nat) (point : Bool)
    (fraction : List Nat) (cs : List Char) :
    Numeral.withExponent whole point fraction (cs ++ blanks) =
      following blanks (Numeral.withExponent whole point fraction cs) := by
  rw [Numeral.withExponent, takeExponent_append_blanks h]
  rfl

theorem take?_append_blanks (h : IsBlank blanks) (cs : List Char) :
    Numeral.take? (cs ++ blanks) = (Numeral.take? cs).map (following blanks) := by
  unfold Numeral.take?
  simp only [takeDigits_append_blanks h]
  rcases takeDigits cs with ⟨whole, left⟩
  dsimp only
  by_cases hp : ∃ rest, left = '.' :: rest
  · obtain ⟨rest, rfl⟩ := hp
    simp only [List.cons_append, takeDigits_append_blanks h]
    split
    · rfl
    · rw [withExponent_append_blanks h]
      rfl
  · have hb : ∀ rest, left ++ blanks ≠ '.' :: rest := by
      intro rest he
      have he : left ++ blanks = ['.'] ++ rest := he
      obtain ⟨more, hl, -⟩ := symbols_of_append h (List.forall_mem_singleton.mpr (by decide)) he
      exact hp ⟨more, hl⟩
    have hl : ∀ rest, left ≠ '.' :: rest := fun rest hl => hp ⟨rest, hl⟩
    split
    · exact absurd ‹_› (hb _)
    · rw [withExponent_append_blanks h]
      by_cases hw : whole.isEmpty = true
      · simp only [hw, if_true]
        rfl
      · simp only [if_neg hw]
        rfl

theorem takeString_blanks (h : IsBlank blanks) {quote : Char} (hq : Text.isBlank quote = false) :
    takeString quote blanks = none := by
  induction blanks with
  | nil => rfl
  | cons c rest ih =>
    have hc := h c List.mem_cons_self
    have hr := ih fun d hd => h d (List.mem_cons_of_mem c hd)
    have hcq : c ≠ quote := by
      rintro rfl
      rw [hq] at hc
      cases hc
    have he : c ≠ '\\' := by
      rintro rfl
      exact absurd hc (by decide)
    rw [takeString, if_neg hcq, if_neg he, hr]
    · rfl
    · rintro d more ⟨⟩
      exact absurd rfl he

theorem takeString_append_blanks (h : IsBlank blanks) {quote : Char}
    (hq : Text.isBlank quote = false) (he : quote ≠ '\\') (cs : List Char) :
    takeString quote (cs ++ blanks) = (takeString quote cs).map (following blanks) := by
  fun_induction takeString quote cs with
  | case1 => exact takeString_blanks h hq
  | case2 rest => rfl
  | case3 c rest hc ih =>
    rw [List.cons_append, List.cons_append, takeString, if_neg hc, ih]
    cases takeString quote rest <;> rfl
  | case4 rest hne =>
    rw [List.cons_append, takeString, if_pos rfl]
    · rfl
    · exact fun _ _ hc _ => he hc
  | case5 rest hne hc =>
    have hr : rest = [] := by
      cases rest with
      | nil => rfl
      | cons c more => exact absurd rfl (hne c more rfl)
    subst hr
    cases blanks with
    | nil =>
      rw [List.append_nil, takeString, if_neg hc, if_pos rfl]
      · rfl
      · exact fun _ _ _ hn => List.cons_ne_nil _ _ hn.symm
    | cons c more =>
      rw [List.cons_append, List.nil_append, takeString]
      split
      · rfl
      · rw [takeString_blanks (fun d hd => h d (List.mem_cons_of_mem c hd)) hq]
        rfl
  | case6 c rest hne hc he ih =>
    rw [List.cons_append, takeString, if_neg hc, if_neg he, ih]
    · cases takeString quote rest <;> rfl
    · exact fun _ _ hc _ => he hc

theorem takeWord?_blanks (h : IsBlank blanks) : takeWord? blanks = none := by
  cases blanks with
  | nil => rfl
  | cons c rest =>
    have hc := h c List.mem_cons_self
    have hquote : (c = '"' || c = Text.singleQuote) = false := by
      cases hq : (c = '"' || c = Text.singleQuote : Bool) with
      | false => rfl
      | true =>
        rcases (by simpa using hq : c = '"' ∨ c = Text.singleQuote) with rfl | rfl <;>
          exact absurd hc (by decide)
    have hn : Numeral.take? (c :: rest) = none := take?_append_blanks h []
    simp only [takeWord?, not_startsName_of_isBlank hc, hquote, hn, Bool.false_eq_true, if_false]

theorem takeWord?_append_blanks (h : IsBlank blanks) (cs : List Char) :
    takeWord? (cs ++ blanks) = (takeWord? cs).map (following blanks) := by
  cases cs with
  | nil => exact takeWord?_blanks h
  | cons c cs =>
    rw [List.cons_append, takeWord?, takeWord?, ← List.cons_append]
    split
    · obtain ⟨ht, hd⟩ := takeWhile_append_blanks h (fun _ => continuesName_of_isBlank) cs
      rw [ht, hd]
      rfl
    · split
      · rename_i hq
        have hq : Text.isBlank c = false ∧ c ≠ '\\' := by
          rcases (by simpa using hq : c = '"' ∨ c = Text.singleQuote) with rfl | rfl <;> decide
        rw [takeString_append_blanks h hq.1 hq.2]
        cases takeString c cs <;> rfl
      · rw [take?_append_blanks h]
        cases hn : Numeral.take? (c :: cs) with
        | none => rfl
        | some found =>
          obtain ⟨numeral, left⟩ := found
          simp only [Option.map_some, following, take_cut]

theorem takeName?_append_blanks (h : IsBlank blanks) (cs : List Char) :
    takeName? (cs ++ blanks) = (takeName? cs).map (following blanks) := by
  cases cs with
  | nil =>
    cases blanks with
    | nil => rfl
    | cons c rest =>
      exact takeName?_none (not_startsName_of_isBlank (h c List.mem_cons_self)) rest
  | cons c cs =>
    rw [List.cons_append, takeName?, takeName?, ← List.cons_append]
    split
    · exact takeWord?_append_blanks h _
    · rfl

theorem asToken_following (found : Option (Symbol × List Char)) :
    asToken (found.map (following blanks)) = (asToken found).map (following blanks) := by
  cases found <;> rfl

theorem takeAny?_append_blanks (h : IsBlank blanks) (cs : List Char) :
    takeAny? (cs ++ blanks) = (takeAny? cs).map (following blanks) := by
  rw [takeAny?, takeAny?, takeWord?_append_blanks h, takeInfix?_append_blanks h,
    takePrefix?_append_blanks h, asToken_following, asToken_following, Option.map_or, Option.map_or]

theorem Token.take?_append_blanks (h : IsBlank blanks) (expected : Expected) (cs : List Char) :
    Token.take? expected (cs ++ blanks) = (Token.take? expected cs).map (following blanks) := by
  have he : takeExpected? expected (cs ++ blanks) =
      (takeExpected? expected cs).map (following blanks) := by
    cases expected with
    | operand =>
      rw [takeExpected?, takeExpected?, takeWord?_append_blanks h, takePrefix?_append_blanks h,
        asToken_following, Option.map_or]
    | operator => rw [takeExpected?, takeExpected?, takeInfix?_append_blanks h, asToken_following]
    | memberName => exact takeName?_append_blanks h cs
  rw [Token.take?, Token.take?, he, takeAny?_append_blanks h, Option.map_or]

theorem Reads.of_append_blanks (h : IsBlank blanks) {place : Place Expr} {cs : List Char} {e : Expr}
    (hr : Reads place (cs ++ blanks) e) : Reads place cs e := by
  generalize htext : cs ++ blanks = text at hr
  induction hr generalizing cs with
  | ends hrest hfinish =>
    subst htext
    refine .ends (List.dropWhile_eq_nil_iff.mpr fun c hc => ?_) hfinish
    exact List.dropWhile_eq_nil_iff.mp hrest c (List.mem_append_left _ hc)
  | token htake hnext _ ih =>
    subst htext
    rw [List.dropWhile_append] at htake
    split at htake
    · -- Only blanks are left, and nothing behind them for a token.
      rw [List.dropWhile_eq_nil_iff.mpr h] at htake
      exact absurd (Token.take?_length htake) (Nat.not_lt_zero _)
    · rw [Token.take?_append_blanks h] at htake
      obtain ⟨⟨t, left⟩, ht, he⟩ := Option.map_eq_some_iff.mp htake
      obtain ⟨rfl, rfl⟩ := Prod.mk.inj he
      exact .token ht hnext (ih rfl)

/-- Reading looks at what is behind the blanks at the head of a text. -/
theorem Reads.of_dropWhile {place : Place Expr} {cs ds : List Char} {e : Expr}
    (h : cs.dropWhile Text.isBlank = ds.dropWhile Text.isBlank) (hr : Reads place cs e) :
    Reads place ds e := by
  cases hr with
  | ends hrest hfinish => exact .ends (h ▸ hrest) hfinish
  | token htake hnext hr => exact .token (h ▸ htake) hnext hr

theorem Reads.blanks_append (h : IsBlank blanks) {place : Place Expr} {cs : List Char} {e : Expr}
    (hr : Reads place cs e) : Reads place (blanks ++ cs) e :=
  hr.of_dropWhile (List.dropWhile_append_of_pos h).symm

theorem Reads.of_blanks_append (h : IsBlank blanks) {place : Place Expr} {cs : List Char} {e : Expr}
    (hr : Reads place (blanks ++ cs) e) : Reads place cs e :=
  hr.of_dropWhile (List.dropWhile_append_of_pos h)

/-! ## Trimming -/

theorem dropWhile_isBlank_of_forall {cs : List Char} (h : ∀ c ∈ cs, Text.isBlank c = false) :
    cs.dropWhile Text.isBlank = cs :=
  List.dropWhile_eq_self_iff.mpr fun hl => by simp [h _ (List.getElem_mem hl)]

theorem trim_of_forall {cs : List Char} (h : ∀ c ∈ cs, Text.isBlank c = false) :
    Text.trim cs = cs := by
  rw [Text.trim, dropWhile_isBlank_of_forall h,
    dropWhile_isBlank_of_forall fun c hc => h c (List.mem_reverse.mp hc), List.reverse_reverse]

theorem trim_blanks_append (h : IsBlank blanks) (cs : List Char) :
    Text.trim (blanks ++ cs) = Text.trim cs := by
  rw [Text.trim, List.dropWhile_append_of_pos h]
  rfl

theorem trim_append_blanks (h : IsBlank blanks) (cs : List Char) :
    Text.trim (cs ++ blanks) = Text.trim cs := by
  have hr : ∀ c ∈ blanks.reverse, Text.isBlank c = true := fun c hc => h c (List.mem_reverse.mp hc)
  rw [Text.trim, Text.trim, List.dropWhile_append]
  split
  · rename_i he
    rw [List.dropWhile_eq_nil_iff.mpr h, List.isEmpty_iff.mp he]
  · rw [List.reverse_append, List.dropWhile_append_of_pos hr]

theorem exists_trim (cs : List Char) :
    ∃ before after, IsBlank before ∧ IsBlank after ∧ cs = before ++ (Text.trim cs ++ after) := by
  have hb (text : List Char) : IsBlank (text.takeWhile Text.isBlank) :=
    fun c hc => List.mem_takeWhile_imp hc
  refine ⟨cs.takeWhile Text.isBlank,
    ((cs.dropWhile Text.isBlank).reverse.takeWhile Text.isBlank).reverse, hb cs, ?_, ?_⟩
  · intro c hc
    exact hb _ c (List.mem_reverse.mp hc)
  · rw [Text.trim, ← List.reverse_append, List.takeWhile_append_dropWhile, List.reverse_reverse,
      List.takeWhile_append_dropWhile]

/-- A text without the blanks around it reads as the same expression. -/
theorem parse_trim {text : String} {e : Expr} (h : Expr.parse text = .ok e) :
    Expr.parse (String.ofList (Text.trim text.toList)) = .ok e := by
  rw [Expr.parse_eq_ok_iff] at h ⊢
  rw [String.toList_ofList]
  obtain ⟨before, after, hb, ha, he⟩ := exists_trim text.toList
  rw [he] at h
  exact (h.of_blanks_append hb).of_append_blanks ha

end DocScript
