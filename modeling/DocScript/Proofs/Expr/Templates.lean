import DocScript.Proofs.Expr.Arguments
import DocScript.Proofs.Expr.Segments

/-! # Expressions in templates

An expression has braces only in its strings. A template reads back the expressions that stand in
its braces exactly if the braces of each of them are balanced. A brace in a string counts like any
other, so that a string with one of them ends the expression too early or keeps it from ending.
-/

namespace DocScript

/-! ## Where expressions have braces -/

/-- Whether a character is neither a quote nor a brace. -/
def IsBare (c : Char) : Prop := c ≠ '"' ∧ c ≠ Text.singleQuote ∧ c ≠ '\x7b' ∧ c ≠ '\x7d'

/-- Whether braces stand in strings only, and every string ends. -/
inductive Sheltered : List Char → Prop
  | nil : Sheltered []
  | bare {c : Char} {rest : List Char} (hc : IsBare c) (h : Sheltered rest) : Sheltered (c :: rest)
  | string {quote : Char} {body rest : List Char} (hq : quote = '"' ∨ quote = Text.singleQuote)
      (hb : StringBody quote body) (h : Sheltered rest) :
      Sheltered (quote :: (body ++ quote :: rest))

section Sheltered

variable {text text' : List Char} {c : Char}

theorem Sheltered.append (h : Sheltered text) (h' : Sheltered text') :
    Sheltered (text ++ text') := by
  induction h with
  | nil => exact h'
  | bare hc _ ih => exact .bare hc ih
  | string hq hb _ ih =>
    rw [List.cons_append, List.append_assoc]
    exact .string hq hb ih

theorem sheltered_of_forall (h : ∀ c ∈ text, IsBare c) : Sheltered text := by
  induction text with
  | nil => exact .nil
  | cons c text ih =>
    obtain ⟨hc, ht⟩ := List.forall_mem_cons.mp h
    exact .bare hc (ih ht)

theorem isBare_of_unmarked (h : c ∉ marks) : IsBare c := by
  simp only [marks, List.mem_cons, List.not_mem_nil, or_false, not_or] at h
  exact ⟨h.1, h.2.1, h.2.2.2.2.2.2.2.1, h.2.2.2.2.2.2.2.2⟩

theorem isBare_of_symbol (h : c ∈ symbolChars) : IsBare c := by
  have hall : (symbolChars.all fun c =>
      c ≠ '"' && c ≠ Text.singleQuote && c ≠ '\x7b' && c ≠ '\x7d') = true := by decide
  simpa [IsBare, and_assoc] using List.all_eq_true.mp hall c h

theorem Token.Lexical.sheltered {t : Token} (h : t.Lexical) : Sheltered t.text.toList := by
  cases h with
  | name h => exact sheltered_of_forall fun c hc => isBare_of_unmarked (unmarked_name h c hc)
  | number h => exact sheltered_of_forall fun c hc => isBare_of_unmarked (unmarked_number h c hc)
  | string hq hb hs =>
    rw [Token.text, hs]
    exact .string hq hb .nil
  | symbol s => exact sheltered_of_forall fun c hc => isBare_of_symbol (s.text_subset c hc)

/-- What stands before the end of an expression has braces in strings only. -/
theorem Reads.sheltered {place : Place Expr} {e : Expr} (h : Reads place text e) :
    Sheltered text := by
  have hblanks (cs : List Char) : Sheltered (cs.takeWhile Text.isBlank) :=
    sheltered_of_forall fun c hc => isBare_of_unmarked <|
      IsBlank.unmarked (fun c hc => List.mem_takeWhile_imp hc) c hc
  induction h with
  | @ends place rest e hrest _ =>
    rw [← List.takeWhile_append_dropWhile (p := Text.isBlank) (l := rest), hrest]
    exact (hblanks rest).append .nil
  | @token place next rest left t e htake _ _ ih =>
    obtain ⟨hlexical, hd⟩ := lexical_of_take? htake
    rw [← List.takeWhile_append_dropWhile (p := Text.isBlank) (l := rest), hd]
    exact (hblanks rest).append (hlexical.sheltered.append ih)

theorem not_isBare_of_quote {quote : Char} (hq : quote = '"' ∨ quote = Text.singleQuote) :
    ¬IsBare quote := by
  rcases hq with rfl | rfl <;> simp [IsBare]

theorem sheltered_bare_iff (hc : IsBare c) : Sheltered (c :: text) ↔ Sheltered text := by
  refine ⟨fun h => ?_, .bare hc⟩
  cases h with
  | bare _ h => exact h
  | string hq => exact absurd hc (not_isBare_of_quote hq)

/-- A string can end at one quote only. -/
theorem sheltered_string_iff {quote : Char} (hq : quote = '"' ∨ quote = Text.singleQuote)
    {body : List Char} (hb : StringBody quote body) :
    Sheltered (quote :: (body ++ quote :: text)) ↔ Sheltered text := by
  refine ⟨fun h => ?_, .string hq hb⟩
  have hescape : quote ≠ '\\' := by rcases hq with rfl | rfl <;> decide
  have htake := takeString_body hb hescape text
  generalize body ++ quote :: text = behind at h htake
  cases h with
  | bare hc => exact absurd hc (not_isBare_of_quote hq)
  | string _ hb' h =>
    rw [takeString_body hb' hescape] at htake
    cases htake
    exact h

theorem not_sheltered_brace (hc : c = '\x7b' ∨ c = '\x7d') : ¬Sheltered (c :: text) := by
  intro h
  cases h with
  | bare hb => rcases hc with rfl | rfl <;> simp [IsBare] at hb
  | string hq => rcases hc with rfl | rfl <;> revert hq <;> decide

/-- Where braces stand in strings only and every string ends, no brace comes next. -/
theorem Sheltered.not_append (h : Sheltered text) (hc : c = '\x7b' ∨ c = '\x7d') :
    ¬Sheltered (text ++ c :: text') := by
  induction h with
  | nil => exact not_sheltered_brace hc
  | bare hb _ ih => rwa [List.cons_append, sheltered_bare_iff hb]
  | string hq hb _ ih =>
    rwa [List.cons_append, List.append_assoc, List.cons_append, sheltered_string_iff hq hb]

end Sheltered

/-- Of two expressions before closing braces in one text, neither goes on behind the brace of the
other. -/
theorem eq_of_parse {s t : List Char} {d e : Expr} (hs : Expr.parse (String.ofList s) = .ok d)
    (ht : Expr.parse (String.ofList t) = .ok e) {v w : List Char}
    (h : s ++ '\x7d' :: v = t ++ '\x7d' :: w) : s = t ∧ v = w := by
  have hsheltered {s : List Char} {e : Expr} (h : Expr.parse (String.ofList s) = .ok e) :
      Sheltered s := by
    have hr := (Expr.parse_eq_ok_iff.mp h).sheltered
    rwa [String.toList_ofList] at hr
  -- The longer one of the two has the brace behind the shorter one outside of its strings.
  have hshorter {s t v w : List Char} (hs : Sheltered s) (ht : Sheltered t)
      (h : s ++ '\x7d' :: v = t ++ '\x7d' :: w) : s.length ≥ t.length := by
    by_contra hlt
    obtain ⟨more, rfl⟩ : s <+: t := by
      refine List.prefix_of_prefix_length_le ⟨_, h⟩ ⟨_, rfl⟩ (by omega)
    cases more with
    | nil => simp at hlt
    | cons c more =>
      rw [List.append_assoc] at h
      obtain ⟨rfl, -⟩ := List.cons_eq_cons.mp (List.append_cancel_left h)
      exact hs.not_append (.inr rfl) ht
  have hlength : s.length = t.length :=
    Nat.le_antisymm (hshorter (hsheltered ht) (hsheltered hs) h.symm)
      (hshorter (hsheltered hs) (hsheltered ht) h)
  obtain ⟨rfl, hrest⟩ := List.append_inj h hlength
  exact ⟨rfl, (List.cons.inj hrest).2⟩

/-! ## Templates of literals and expressions -/

def IsUnbraced (text : String) : Prop := ∀ c ∈ text.toList, c ≠ '\x7b' ∧ c ≠ '\x7d'

instance (text : String) : Decidable (IsUnbraced text) :=
  List.decidableBAll (fun c => c ≠ '\x7b' ∧ c ≠ '\x7d') text.toList

/-- An expression that is to stand in braces, and the literal in front of them. -/
structure Span where
  literal : String
  source : String
  expr : Expr
  unbraced : IsUnbraced literal
  parse : Expr.parse source = .ok expr

namespace Span

/-- The text of a template, with a literal at its end. -/
def write : List Span → String → String
  | [], last => last
  | span :: rest, last =>
    span.literal ++ "\x7b" ++ span.source ++ "\x7d" ++ write rest last

def literalParts (literal : String) : Template := if literal = "" then [] else [.text literal]

/-- The parts that the text of a template is to have. -/
def parts : List Span → String → Template
  | [], last => literalParts last
  | span :: rest, last => literalParts span.literal ++ .expr span.expr :: parts rest last

variable {literal last : String} {left passed text : List Char}

theorem toList_write (span : Span) (rest : List Span) (last : String) :
    (write (span :: rest) last).toList = span.literal.toList ++
      '\x7b' :: (span.source.toList ++ '\x7d' :: (write rest last).toList) := by
  simp [write]

theorem unclosed_of_isUnbraced (h : IsUnbraced literal) (left : List Char) :
    Unclosed literal.toList left := by
  intro before behind he
  have hmem : '\x7b' ∈ literal.toList := by simp [he]
  exact absurd rfl (h _ hmem).1

theorem literal_gives (literal : String) :
    List.Forall₂ Segment.Gives (Segment.ofPassed literal.toList.reverse)
      (literalParts literal) := by
  unfold Segment.ofPassed literalParts
  by_cases h : literal = ""
  · simp [h]
  · have hg := Segment.Gives.text literal.toList
    rw [String.ofList_toList] at hg
    simp [h, hg]

/-- What has been passed over stands in the first segment. -/
theorem segments_head (hne : passed ≠ []) (text : List Char) :
    ∃ more rest, segments passed text = .text (passed.reverse ++ more) :: rest := by
  fun_induction segments passed text with
  | case1 passed => exact ⟨[], [], by simp [Segment.ofPassed, hne]⟩
  | case2 passed rest inside left =>
    exact ⟨[], .braced inside :: segments [] left, by simp [Segment.ofPassed, hne]⟩
  | case3 passed rest _ ih =>
    obtain ⟨more, later, h⟩ := ih (List.cons_ne_nil _ _)
    exact ⟨'\x7b' :: more, later, by rw [h]; simp⟩
  | case4 passed c rest _ ih =>
    obtain ⟨more, later, h⟩ := ih (List.cons_ne_nil _ _)
    exact ⟨c :: more, later, by rw [h]; simp⟩

/-- The literal that is read up to a brace has not more characters if a part of the same literal, or
an expression, is to be read. -/
theorem segments_ne (literal : String) (text : List Char) {part : TemplatePart} {rest : Template}
    (hpart : part.isText = false) :
    ¬List.Forall₂ Segment.Gives (segments ('\x7b' :: literal.toList.reverse) text)
      (literalParts literal ++ part :: rest) := by
  obtain ⟨more, later, hs⟩ := segments_head (List.cons_ne_nil '\x7b' literal.toList.reverse) text
  rw [hs, literalParts]
  intro h
  split at h
  · cases h with
    | cons hg _ =>
      rw [hg.isText_eq] at hpart
      cases hpart
  · generalize ht : TemplatePart.text literal = first at h
    cases h with
    | cons hg _ =>
      cases hg
      have hlength := congrArg String.length (TemplatePart.text.inj ht)
      simp at hlength

/-- Behind a literal, what is read of braces is the inside. -/
theorem gives_tail {inside : List Char} {rest : List Segment} {e : Expr} {template : Template}
    (h : List.Forall₂ Segment.Gives
      (Segment.ofPassed literal.toList.reverse ++ .braced inside :: rest)
      (literalParts literal ++ .expr e :: template)) :
    ∃ d, Expr.parse (String.ofList inside) = .ok d ∧ List.Forall₂ Segment.Gives rest template := by
  have hfirst {rest : List Segment} {template : Template}
      (h : List.Forall₂ Segment.Gives (.braced inside :: rest) (.expr e :: template)) :
      ∃ d, Expr.parse (String.ofList inside) = .ok d ∧
        List.Forall₂ Segment.Gives rest template := by
    cases h with
    | cons hg hrest =>
      cases hg with
      | expr hd => exact ⟨e, hd, hrest⟩
  by_cases hl : literal = ""
  · have hs : Segment.ofPassed literal.toList.reverse = [] := by rw [hl]; rfl
    rw [hs, literalParts, if_pos hl] at h
    exact hfirst h
  · have hs : Segment.ofPassed literal.toList.reverse = [.text literal.toList] := by
      simp [Segment.ofPassed, hl]
    rw [hs, literalParts, if_neg hl] at h
    cases h with
    | cons _ h => exact hfirst h

theorem gives_of_balanced {spans : List Span} (hl : IsUnbraced last)
    (h : ∀ span ∈ spans, IsBalanced span.source.toList) :
    List.Forall₂ Segment.Gives
      (segments [] (write spans last).toList) (parts spans last) := by
  induction spans with
  | nil =>
    have hs := segments_unclosed (unclosed_of_isUnbraced hl []) []
    rw [List.append_nil, List.append_nil, segments] at hs
    rw [write, hs]
    exact literal_gives last
  | cons span rest ih =>
    obtain ⟨hb, hrest⟩ := List.forall_mem_cons.mp h
    rw [toList_write, segments_unclosed (unclosed_of_isUnbraced span.unbraced _), List.append_nil,
      segments_braced hb]
    refine List.rel_append (literal_gives span.literal) (.cons (.expr ?_) (ih hrest))
    rw [String.ofList_toList, span.parse]

theorem balanced_of_gives {spans : List Span}
    (h : List.Forall₂ Segment.Gives
      (segments [] (write spans last).toList) (parts spans last)) :
    ∀ span ∈ spans, IsBalanced span.source.toList := by
  induction spans with
  | nil => nofun
  | cons span rest ih =>
    rw [toList_write, segments_unclosed (unclosed_of_isUnbraced span.unbraced _),
      List.append_nil] at h
    cases ht : takeBraced 0 (span.source.toList ++ '\x7d' :: (write rest last).toList) with
    | none =>
      have hs := segments_unclosed (unclosed_singleton (takeBraced_eq_none_iff.mp ht))
        span.literal.toList.reverse
      rw [List.singleton_append] at hs
      rw [hs] at h
      exact absurd h (segments_ne span.literal _ rfl)
    | some found =>
      obtain ⟨inside, left⟩ := found
      obtain ⟨he, hb⟩ := takeBraced_zero_iff.mp ht
      rw [he, segments_braced hb, parts] at h
      obtain ⟨d, hd, hrest⟩ := gives_tail h
      have hs : Expr.parse (String.ofList span.source.toList) = .ok span.expr := by
        rw [String.ofList_toList, span.parse]
      obtain ⟨rfl, rfl⟩ := eq_of_parse hs hd he
      exact List.forall_mem_cons.mpr ⟨hb, ih hrest⟩

/-- The expressions in the braces of a template are read back, and the literals around them, exactly
if the braces of each expression are balanced. -/
theorem parse_write_iff (spans : List Span) (hl : IsUnbraced last) :
    Template.parse (write spans last) = .ok (parts spans last) ↔
      ∀ span ∈ spans, IsBalanced span.source.toList := by
  rw [Template.parse_eq_ok_iff]
  exact ⟨balanced_of_gives, gives_of_balanced hl⟩

end Span

section Example

/-- Braces of both kinds in a string. -/
def pairSpan : Span where
  literal := "a "
  source := "'\x7b\x7d' + x"
  expr := .binary (.operator .add) (.literal (.string "\x7b\x7d") (some "'\x7b\x7d'"))
    (.variableName "x")
  unbraced := by decide
  parse := by
    rw [Expr.parse_eq_ok_iff]
    apply Reads.token (t := .string "\x7b\x7d" "'\x7b\x7d'") rfl rfl
    apply Reads.token (t := .symbol (.binary (.operator .add))) rfl rfl
    apply Reads.token (t := .name "x") rfl rfl
    exact .ends rfl rfl

theorem parse_write_pair :
    IsUnbraced "!" ∧ (∀ span ∈ [pairSpan], IsBalanced span.source.toList) ∧
      Template.parse (Span.write [pairSpan] "!") =
        .ok [.text "a ", .expr pairSpan.expr, .text "!"] := by
  have hl : IsUnbraced "!" := by decide
  have hb : ∀ span ∈ [pairSpan], IsBalanced span.source.toList := by decide
  exact ⟨hl, hb, (Span.parse_write_iff [pairSpan] hl).mpr hb⟩

/-- A closing brace in a string. -/
def closingSpan : Span where
  literal := ""
  source := "'\x7d'"
  expr := .literal (.string "\x7d") (some "'\x7d'")
  unbraced := by decide
  parse := by
    rw [Expr.parse_eq_ok_iff]
    apply Reads.token (t := .string "\x7d" "'\x7d'") rfl rfl
    exact .ends rfl rfl

theorem closing_brace_in_string :
    ¬∀ (before source after : String) (e : Expr), IsUnbraced before → IsUnbraced after →
      Expr.parse source = .ok e →
        Template.parse (before ++ "\x7b" ++ source ++ "\x7d" ++ after) =
          .ok (Span.literalParts before ++ .expr e :: Span.literalParts after) := by
  intro h
  have hp := h "" closingSpan.source "" closingSpan.expr (by decide) (by decide) closingSpan.parse
  have hb : ∀ span ∈ [closingSpan], IsBalanced span.source.toList :=
    Span.balanced_of_gives (Template.parse_eq_ok_iff.mp hp)
  revert hb
  decide

end Example

end DocScript
