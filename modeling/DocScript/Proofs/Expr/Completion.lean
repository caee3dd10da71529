import DocScript.Proofs.Expr.Blanks

/-! # Where a text goes wrong

No error stands behind the first place where a text cannot go on to be an expression. For wherever
the parser gets to, an operand that is due can be written and what is open can be closed, so
whatever it has read can be completed.
-/

namespace DocScript

/-- Whether some text makes an expression of a text that it follows. -/
def IsCompletable (before : List Char) : Prop :=
  ∃ more e, Expr.parse (String.ofList (before ++ more)) = .ok e

/-- What causes of syntax errors say about a text: what they name stands at their index, and what
is in front of it can be completed. -/
inductive Cause.Marks (text : String) : Cause → Prop
  | character {c : Char} {i : Nat} (hc : text.toList[i]? = some c)
      (hbefore : IsCompletable (text.toList.take i)) : Marks text (.unexpectedChar c i text)
  | token {t : Token} {i : Nat} (ht : t.Lexical) (hi : i < text.length)
      (hstands : t.text.toList <+: text.toList.drop i)
      (hbefore : IsCompletable (text.toList.take i)) : Marks text (.unexpectedToken t.text i text)
  | ending (h : IsCompletable text.toList) : Marks text (.unexpectedEnd text)
  | empty (h : IsCompletable text.toList) : Marks text .emptyExpression

/-- A token is read on the way from a place through a text. -/
inductive Place.Meets : Place Expr → List Char → Token → Prop
  | here {place : Place Expr} {rest left : List Char} {t : Token}
      (htake : Token.take? place.expected (rest.dropWhile Text.isBlank) = some (t, left)) :
      Meets place rest t
  | later {place next : Place Expr} {rest left : List Char} {t t' : Token}
      (htake : Token.take? place.expected (rest.dropWhile Text.isBlank) = some (t, left))
      (hnext : place.next? Expr.builder t = .ok (some next)) (h : Meets next left t') :
      Meets place rest t'

/-! ## Numerals within the limit -/

theorem NumberText.length_whole_le {cs : List Char} {numeral : Numeral}
    (h : NumberText cs numeral) : numeral.whole.length ≤ cs.length := by
  cases h with
  | whole hd _ _ | point hd _ _ _ =>
    rw [hd.length_eq, List.length_append]
    exact Nat.le_add_right _ _
  | fraction => exact Nat.zero_le _

theorem Place.Meets.lexical {place : Place Expr} {rest : List Char} {t : Token}
    (h : place.Meets rest t) : t.Lexical ∧ t.text.toList <:+: rest := by
  induction h with
  | @here place rest left t htake =>
    obtain ⟨ht, htext⟩ := lexical_of_take? htake
    have hprefix : t.text.toList <+: rest.dropWhile Text.isBlank :=
      htext ▸ List.prefix_append _ left
    exact ⟨ht, hprefix.isInfix.trans (List.dropWhile_suffix _).isInfix⟩
  | @later place next rest left t t' htake _ _ ih =>
    obtain ⟨-, htext⟩ := lexical_of_take? htake
    have hsuffix : left <:+ rest.dropWhile Text.isBlank := htext ▸ List.suffix_append _ left
    exact ⟨ih.1, ih.2.trans (hsuffix.trans (List.dropWhile_suffix _)).isInfix⟩

/-- A text that is no longer than the limit has no numeral over it. -/
theorem Place.Meets.inLimit {place : Place Expr} {rest : List Char} {t : Token}
    (h : place.Meets rest t) (hshort : rest.length ≤ Numeral.maxDigits) : t.InLimit := by
  obtain ⟨ht, htext⟩ := h.lexical
  cases ht with
  | number hnumber =>
    exact fun _ => hnumber.length_whole_le.trans (htext.length_le.trans hshort)
  | _ => trivial

/-! ## Closing what is open -/

/-- Whether a text can go on at a place, with a blank or not at all, to be an expression. -/
def Place.CanEnd (place : Place Expr) : Prop := ∃ more e, Bounded more ∧ Reads place more e

variable {place next : Place Expr} {t : Token}

theorem Place.CanEnd.token (ht : t.Lexical) (hfit : ¬Misread place.expected t)
    (hnext : place.next? Expr.builder t = .ok (some next)) (h : next.CanEnd) : place.CanEnd := by
  obtain ⟨more, e, hmore, hreads⟩ := h
  have hblank : IsBlank [' '] := List.forall_mem_singleton.mpr (by decide)
  have hdrop : (t.text.toList ++ more).dropWhile Text.isBlank = t.text.toList ++ more := by
    obtain ⟨c, cs, htext, hc⟩ := ht.head
    rw [htext, List.cons_append, List.dropWhile_cons, hc]
    rfl
  refine ⟨[' '] ++ (t.text.toList ++ more), e, ?_, .blanks_append hblank (.token ?_ hnext hreads)⟩
  · rintro c ⟨⟩
    decide
  · rw [hdrop]
    exact take?_lexical ht hmore hfit

theorem Place.CanEnd.symbol {openings : List (Opening Expr)} {e : Expr} {s : Symbol} (hs : s ≠ .not)
    (hnext : Place.afterSymbol Expr.builder openings e s = some next) (h : next.CanEnd) :
    (Place.operator openings (.ok e)).CanEnd := by
  refine .token (.symbol s) (by rintro ⟨⟩) ?_ h
  rw [Place.next?, Except.map, hnext]
  exact hs

/-- Every opening that waits for a bracket gets it, from the innermost one on. -/
theorem canEnd_of_settle {openings outer : List (Opening Expr)} {e inner : Expr}
    (h : settle Expr.builder 0 openings e = settle Expr.builder 0 outer inner) :
    (Place.operator openings (.ok e)).CanEnd := by
  induction outer generalizing openings e inner with
  | nil =>
    have hfinish : (Place.operator openings (.ok e)).finish? Expr.builder = .ok (some inner) := by
      rw [Place.finish?, Except.map, h]
      rfl
    exact ⟨[], inner, by rintro c ⟨⟩, .ends rfl hfinish⟩
  | cons opening outer ih =>
    cases opening with
    | binary op left => exact ih (h.trans (settle_binary _ (Nat.zero_le _) left outer inner))
    | unary op => exact ih (h.trans (settle_unary _ 0 op outer inner))
    | group =>
      have hclose : Place.afterSymbol Expr.builder openings e .closeParen =
          some (.operator outer (.ok (Expr.builder.group inner))) := by
        rw [Place.afterSymbol, h]
        rfl
      exact .symbol (by decide) hclose (ih rfl)
    | index object =>
      have hclose : Place.afterSymbol Expr.builder openings e .closeBracket =
          some (.operator outer (.ok (Expr.builder.index object inner))) := by
        rw [Place.afterSymbol, h]
        rfl
      exact .symbol (by decide) hclose (ih rfl)
    | arguments callee done =>
      have hclose : Place.afterSymbol Expr.builder openings e .closeParen =
          some (.operator outer (.ok (Expr.builder.call callee (inner :: done).reverse))) := by
        rw [Place.afterSymbol, h]
        rfl
      exact .symbol (by decide) hclose (ih rfl)

/-- Where an operand or the name of a member is due, a name can stand. -/
theorem Place.Sound.canEnd {place : Place ParseTree} (h : place.Sound) : place.read.CanEnd := by
  have hname : (Token.name "x").Lexical := .name ⟨'x', [], rfl, by decide, nofun⟩
  rcases place with ⟨openings, mayClose⟩ | ⟨openings, _ | t⟩ | ⟨openings, object⟩
  case operand => exact .token hname nofun rfl (canEnd_of_settle rfl)
  case operator.error => exact h.elim
  case operator.ok => exact canEnd_of_settle rfl
  case memberName => exact .token hname nofun rfl (canEnd_of_settle rfl)

/-! ## Cutting a text off -/

/-- What is in front of some of a text can be completed, read from a place on. -/
def Place.CompletesBefore (after : List Char) (place : Place Expr) (rest : List Char) : Prop :=
  ∃ before more e, rest = before ++ after ∧ Bounded more ∧ Reads place (before ++ more) e

theorem Place.CanEnd.completesBefore {blanks : List Char} (h : place.CanEnd)
    (hblanks : IsBlank blanks) (after : List Char) :
    place.CompletesBefore after (blanks ++ after) := by
  obtain ⟨more, e, hmore, hreads⟩ := h
  exact ⟨blanks, more, e, rfl, hmore, hreads.blanks_append hblanks⟩

theorem Place.CompletesBefore.of_token {after rest left : List Char}
    (htake : Token.take? place.expected (rest.dropWhile Text.isBlank) = some (t, left))
    (hnext : place.next? Expr.builder t = .ok (some next)) (h : next.CompletesBefore after left) :
    place.CompletesBefore after rest := by
  obtain ⟨behind, more, e, rfl, hmore, hreads⟩ := h
  have hlength := Token.take?_length htake
  obtain ⟨before, rfl⟩ : after <:+ rest := by
    obtain ⟨-, htext⟩ := lexical_of_take? htake
    have hsuffix := List.dropWhile_suffix (l := rest) Text.isBlank
    rw [htext, ← List.append_assoc] at hsuffix
    exact (List.suffix_append _ after).trans hsuffix
  refine ⟨before, more, e, rfl, hmore, .token ?_ hnext hreads⟩
  rw [List.dropWhile_append] at htake hlength ⊢
  split at htake
  · have := (List.dropWhile_suffix (l := after) Text.isBlank).length_le
    rw [if_pos ‹_›, List.length_append] at hlength
    omega
  · rw [if_neg ‹_›]
    exact Token.take?_cut hmore htake hnext

/-- What a cause says about the rest of a text, read from a place on. Its index counts what is in
front of what it names. -/
inductive Cause.MarksRest (text : String) (place : Place Expr) (rest : List Char) : Cause → Prop
  | character {c : Char} {after : List Char} (h : place.CompletesBefore (c :: after) rest) :
      MarksRest text place rest
        (.unexpectedChar c (text.length - (c :: after).length) text)
  | token {t : Token} {after : List Char} (ht : t.Lexical)
      (h : place.CompletesBefore (t.text.toList ++ after) rest) :
      MarksRest text place rest
        (.unexpectedToken t.text (text.length - (t.text.toList ++ after).length) text)
  | ending (h : place.CompletesBefore [] rest) : MarksRest text place rest (.unexpectedEnd text)

variable {text : String} {rest left : List Char} {cause : Cause} {failure : Failure}

theorem Cause.MarksRest.of_token
    (htake : Token.take? place.expected (rest.dropWhile Text.isBlank) = some (t, left))
    (hnext : place.next? Expr.builder t = .ok (some next)) (h : cause.MarksRest text next left) :
    cause.MarksRest text place rest := by
  cases h with
  | character h => exact .character (h.of_token htake hnext)
  | token ht h => exact .token ht (h.of_token htake hnext)
  | ending h => exact .ending (h.of_token htake hnext)

theorem completesBefore_dropWhile {place : Place ParseTree} (h : place.Sound) (rest : List Char) :
    place.read.CompletesBefore (rest.dropWhile Text.isBlank) rest := by
  have hblanks : IsBlank (rest.takeWhile Text.isBlank) := fun c hc => List.mem_takeWhile_imp hc
  have hend := h.canEnd.completesBefore hblanks (rest.dropWhile Text.isBlank)
  rwa [List.takeWhile_append_dropWhile] at hend

theorem Expr.parseFrom_marksRest (hplace : ∃ tree : Place ParseTree, tree.Sound ∧ place = tree.read)
    (hlimit : ∀ t, place.Meets rest t → t.InLimit)
    (h : parseFrom text place rest = .error failure) :
    ∃ cause : Cause, failure = cause.failure none ∧ cause.MarksRest text place rest := by
  fun_induction parseFrom text place rest with
  | case1 place rest hr =>
    obtain ⟨tree, hsound, rfl⟩ := hplace
    have hbefore := completesBefore_dropWhile hsound rest
    obtain ⟨found, hfinish⟩ := hsound.finish?_ok
    have hread := tree.finish?_read
    rw [hfinish] at hread
    rw [hread] at h
    cases found with
    | none =>
      cases h
      exact ⟨_, rfl, .ending (hr ▸ hbefore)⟩
    | some e => cases h
  | case2 place rest c cs hr index ht =>
    obtain ⟨tree, hsound, rfl⟩ := hplace
    have hbefore := completesBefore_dropWhile hsound rest
    cases h
    exact ⟨_, rfl, .character (hr ▸ hbefore)⟩
  | case3 place rest c cs hr index t left ht _ ih =>
    obtain ⟨tree, hsound, rfl⟩ := hplace
    have htake := hr.symm ▸ ht
    obtain ⟨found, hnext⟩ := hsound.next?_ok t
    have hread := tree.next?_read (hlimit t (.here htake))
    rw [hnext] at hread
    rw [hread] at h
    cases found with
    | none =>
      cases h
      have hbefore := completesBefore_dropWhile hsound rest
      obtain ⟨hlexical, htext⟩ := lexical_of_take? ht
      rw [hr, htext] at hbefore
      have hmarks := @Cause.MarksRest.token text _ _ _ _ hlexical hbefore
      rw [← htext] at hmarks
      exact ⟨_, rfl, hmarks⟩
    | some next =>
      have hplace := (Place.sound_next hsound hnext).1
      have hlimit t' (h' : next.read.Meets left t') : t'.InLimit :=
        hlimit t' (.later htake hread h')
      obtain ⟨cause, hcause, hmarks⟩ := ih next.read ⟨next, hplace, rfl⟩ hlimit h
      exact ⟨cause, hcause, hmarks.of_token htake hread⟩

theorem isCompletable_of_completesBefore {after : List Char}
    (h : (Place.operand [] false).CompletesBefore after text.toList) :
    ∃ before, text.toList = before ++ after ∧ before.length = text.length - after.length ∧
      IsCompletable before := by
  obtain ⟨before, more, e, htext, -, hreads⟩ := h
  refine ⟨before, htext, ?_, more, e, ?_⟩
  · rw [← String.length_toList, htext, List.length_append, Nat.add_sub_cancel]
  · rw [Expr.parse_eq_ok_iff, String.toList_ofList]
    exact hreads

theorem Cause.MarksRest.marks (h : cause.MarksRest text (.operand [] false) text.toList) :
    cause.Marks text := by
  cases h with
  | character h =>
    obtain ⟨before, htext, hlength, hbefore⟩ := isCompletable_of_completesBefore h
    rw [← hlength]
    refine .character ?_ ?_
    · rw [htext, List.getElem?_append_right (Nat.le_refl _), Nat.sub_self]
      rfl
    · rwa [htext, List.take_left]
  | token ht h =>
    obtain ⟨before, htext, hlength, hbefore⟩ := isCompletable_of_completesBefore h
    rw [← hlength]
    refine .token ht ?_ ?_ ?_
    · obtain ⟨c, cs, hc, -⟩ := ht.head
      rw [← String.length_toList, htext, hc]
      simp
    · rw [htext, List.drop_left]
      exact List.prefix_append _ _
    · rwa [htext, List.take_left]
  | ending h =>
    obtain ⟨before, htext, -, hbefore⟩ := isCompletable_of_completesBefore h
    rw [List.append_nil] at htext
    exact .ending (htext ▸ hbefore)

/-- A text without overlong numerals that is no expression fails to read by a syntax error. It names
what stands at an index, and what is in front of it can be completed, or it names nothing, and the
whole text can. -/
theorem syntax_errors_mark
    (hlimit : ∀ t, (Place.operand [] false).Meets text.toList t → t.InLimit)
    (h : Expr.parse text = .error failure) :
    ∃ cause : Cause, failure = cause.failure none ∧ cause.Marks text := by
  have hstart : (Place.operand [] false : Place ParseTree).Sound := ⟨trivial, nofun⟩
  unfold Expr.parse at h
  split at h
  · rename_i htrim
    cases h
    have hbefore := completesBefore_dropWhile hstart text.toList
    rw [Expr.dropWhile_of_trim htrim] at hbefore
    obtain ⟨before, htext, -, hcompletable⟩ := isCompletable_of_completesBefore hbefore
    rw [List.append_nil] at htext
    exact ⟨_, rfl, .empty (htext ▸ hcompletable)⟩
  · obtain ⟨cause, hcause, hmarks⟩ :=
      Expr.parseFrom_marksRest ⟨.operand [] false, hstart, rfl⟩ hlimit h
    exact ⟨cause, hcause, hmarks.marks⟩

/-- No comma stands between two arguments. -/
theorem syntax_error_marks_argument :
    (∀ t, (Place.operand [] false).Meets "f(1 2".toList t → t.InLimit) ∧
      Expr.parse "f(1 2" = .error ((Cause.unexpectedToken "2" 4 "f(1 2").failure none) ∧
      (Cause.unexpectedToken "2" 4 "f(1 2").Marks "f(1 2" := by
  have hlimit : ∀ t, (Place.operand [] false).Meets "f(1 2".toList t → t.InLimit :=
    fun t h => h.inLimit (by decide)
  have htrim : ¬Text.trim "f(1 2".toList = [] := by decide +kernel
  have hf : Token.take? .operand "f(1 2".toList = some (.name "f", "(1 2".toList) := by
    decide +kernel
  have hparen : Token.take? .operator "(1 2".toList = some (.symbol .openParen, "1 2".toList) := by
    decide +kernel
  have hone : Token.take? .operand "1 2".toList =
      some (.number ⟨[1], false, [], none⟩ "1", " 2".toList) := by decide +kernel
  have htwo : Token.take? .operator "2".toList =
      some (.number ⟨[2], false, [], none⟩ "2", []) := by decide +kernel
  have hparse :
      Expr.parse "f(1 2" = .error ((Cause.unexpectedToken "2" 4 "f(1 2").failure none) := by
    rw [Expr.parse, if_neg htrim]
    refine Eq.trans (Expr.parseFrom_take? _ _ (by decide +kernel) hf rfl) ?_
    refine Eq.trans (Expr.parseFrom_take? _ _ (by decide +kernel) hparen rfl) ?_
    refine Eq.trans (Expr.parseFrom_take? _ _ (by decide +kernel) hone rfl) ?_
    exact Eq.trans (Expr.parseFrom_take? _ _ (by decide +kernel) htwo rfl) rfl
  obtain ⟨cause, hcause, hmarks⟩ := syntax_errors_mark hlimit hparse
  cases hcause
  exact ⟨hlimit, hparse, hmarks⟩

end DocScript
