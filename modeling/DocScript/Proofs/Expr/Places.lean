import DocScript.Proofs.Expr.Grammar

/-! # Places

The machine that reads expressions is run over a sequence of tokens and builds trees. What is open
to the left of a place holds the tokens before it, in an order that the grammar allows, and so the
tree at the end is an ordered tree of all tokens.
-/

namespace DocScript

/-- What is built over the tokens from a place on, if they fit and end there. -/
def Place.run {α : Type} (build : Builder α) : Place α → List Token → Option α
  | place, [] =>
    match place.finish? build with
    | .ok found => found
    | .error _ => none
  | place, t :: rest =>
    match place.next? build t with
    | .ok (some next) => next.run build rest
    | _ => none

/-- Trees keep all that is read. -/
def ParseTree.builder : Builder ParseTree where
  name := .name
  number numeral source := .ok (.number numeral source)
  string := .string
  group := .group
  binary := .binary
  unary := .unary
  member := .member
  index := .index
  call := .call

section

variable {α : Type} (build : Builder α)

theorem settle_unary (level : Nat) (op : UnaryOp) (rest : List (Opening α)) (e : α) :
    settle build level (.unary op :: rest) e = settle build level rest (build.unary op e) := by
  rw [settle]

theorem settle_binary {level : Nat} {op : BinaryOp} (h : level ≤ op.level) (left : α)
    (rest : List (Opening α)) (e : α) :
    settle build level (.binary op left :: rest) e
      = settle build level rest (build.binary op left e) := by
  rw [settle, if_pos h]

end

/-! ## Sound places -/

namespace Opening

/-- The tokens of an opening. Every argument that is done has a comma behind it. -/
def tokens : Opening ParseTree → List Token
  | .binary op left => left.yield ++ [.symbol (.binary op)]
  | .unary op => [op.token]
  | .group => [.symbol .openParen]
  | .index object => object.yield ++ [.symbol .openBracket]
  | .arguments callee done =>
    callee.yield ++ .symbol .openParen :: done.reverse.flatMap fun t => t.yield ++ [.symbol .comma]

/-- The tokens of the openings to the left of a place. -/
def tokensAll : List (Opening ParseTree) → List Token
  | [] => []
  | opening :: outer => tokensAll outer ++ opening.tokens

/-- An operator of a level may stand behind the openings, and an operand bound as tightly. -/
def Allows (level : Nat) : List (Opening ParseTree) → Prop
  | .binary op _ :: _ => op.level < level
  | .unary _ :: _ => 7 ≤ level
  | _ => True

/-- What waits in the openings is ordered, and tighter operators stand behind looser ones. -/
def Stacked : List (Opening ParseTree) → Prop
  | [] => True
  | .binary op left :: outer =>
    left.Ordered ∧ op.level ≤ left.level ∧ Allows op.level outer ∧ Stacked outer
  | .unary _ :: outer => Stacked outer
  | .group :: outer => Stacked outer
  | .index object :: outer => object.Ordered ∧ 8 ≤ object.level ∧ Stacked outer
  | .arguments callee done :: outer =>
    callee.Ordered ∧ 8 ≤ callee.level ∧ ParseTree.OrderedAll done ∧ Stacked outer

theorem allows_seven (openings : List (Opening ParseTree)) : Allows 7 openings := by
  rcases openings with _ | ⟨_ | _ | _ | _ | _, outer⟩
  · trivial
  · exact BinaryOp.level_lt _
  · exact Nat.le_refl 7
  all_goals trivial

theorem Allows.mono {level level' : Nat} {openings : List (Opening ParseTree)}
    (h : Allows level openings) (hle : level ≤ level') : Allows level' openings := by
  rcases openings with _ | ⟨_ | _ | _ | _ | _, outer⟩
  · trivial
  · exact Nat.lt_of_lt_of_le h hle
  · exact Nat.le_trans h hle
  all_goals trivial

theorem settle_of_allows {level : Nat} {openings : List (Opening ParseTree)}
    (h : Allows level openings) (hlevel : level < 7) (t : ParseTree) :
    settle ParseTree.builder level openings t = (openings, t) := by
  rcases openings with _ | ⟨_ | _ | _ | _ | _, outer⟩
  · rfl
  · rw [settle, if_neg (Nat.not_le_of_lt h)]
  · exact absurd h (Nat.not_le_of_lt hlevel)
  all_goals rfl

end Opening

open Opening

theorem settle_tokens (level : Nat) (openings : List (Opening ParseTree)) (t : ParseTree) :
    tokensAll (settle ParseTree.builder level openings t).1
        ++ (settle ParseTree.builder level openings t).2.yield
      = tokensAll openings ++ t.yield := by
  induction openings generalizing t with
  | nil => rfl
  | cons opening outer ih =>
    cases opening with
    | binary op left =>
      rw [settle]
      split
      · rw [ih]
        simp [ParseTree.builder, ParseTree.yield, tokensAll, tokens]
      · rfl
    | unary op =>
      rw [settle, ih]
      simp [ParseTree.builder, ParseTree.yield, tokensAll, tokens]
    | _ => rfl

/-- Ending what binds at least as tightly as a level leaves openings that it may stand behind. -/
theorem settle_stacked {level : Nat} {openings : List (Opening ParseTree)} {t : ParseTree}
    (hlevel : level < 7) (hopenings : Stacked openings) (ht : t.Ordered)
    (hallows : Allows t.level openings) (htlevel : level ≤ t.level) :
    let settled := settle ParseTree.builder level openings t
    Stacked settled.1 ∧ settled.2.Ordered ∧ level ≤ settled.2.level ∧
      Allows level settled.1 := by
  induction openings generalizing t with
  | nil => exact ⟨trivial, ht, htlevel, trivial⟩
  | cons opening outer ih =>
    cases opening with
    | binary op left =>
      obtain ⟨hleft, hleftLevel, houter, hstacked⟩ := hopenings
      rw [settle]
      split
      · rename_i hle
        exact ih hstacked ⟨hleft, ht, hleftLevel, hallows⟩ houter hle
      · rename_i hlt
        exact ⟨⟨hleft, hleftLevel, houter, hstacked⟩, ht, htlevel, Nat.lt_of_not_le hlt⟩
    | unary op =>
      rw [settle]
      exact ih hopenings ⟨ht, hallows⟩ (allows_seven outer) (Nat.le_of_lt hlevel)
    | _ => exact ⟨hopenings, ht, htlevel, trivial⟩

theorem yieldArguments_concat (args : List ParseTree) (last : ParseTree) :
    ParseTree.yieldArguments (args ++ [last])
      = (args.flatMap fun t => t.yield ++ [.symbol .comma]) ++ last.yield := by
  induction args with
  | nil => simp [ParseTree.yieldArguments, ParseTree.yieldMore]
  | cons t more ih =>
    have hmore : ParseTree.yieldMore (more ++ [last])
        = .symbol .comma :: ParseTree.yieldArguments (more ++ [last]) := by
      cases more <;> rfl
    simp only [List.cons_append, ParseTree.yieldArguments, hmore, ih, List.flatMap_cons,
      List.append_assoc, List.nil_append]

theorem orderedAll_append {xs ys : List ParseTree} (hxs : ParseTree.OrderedAll xs)
    (hys : ParseTree.OrderedAll ys) : ParseTree.OrderedAll (xs ++ ys) := by
  induction xs with
  | nil => exact hys
  | cons x xs ih => exact ⟨hxs.1, ih hxs.2⟩

theorem orderedAll_reverse {xs : List ParseTree} (h : ParseTree.OrderedAll xs) :
    ParseTree.OrderedAll xs.reverse := by
  induction xs with
  | nil => trivial
  | cons x xs ih =>
    rw [List.reverse_cons]
    exact orderedAll_append (ih h.2) ⟨h.1, trivial⟩

namespace Place

/-- The tokens to the left of a place. -/
def tokens : Place ParseTree → List Token
  | .operand openings _ => tokensAll openings
  | .operator openings (.ok t) => tokensAll openings ++ t.yield
  | .operator openings (.error _) => tokensAll openings
  | .memberName openings object => tokensAll openings ++ (object.yield ++ [.symbol .dot])

/-- What has been read up to a place is ordered. -/
def Sound : Place ParseTree → Prop
  | .operand openings mayClose =>
    Stacked openings ∧
      (mayClose = true → ∃ callee outer, openings = .arguments callee [] :: outer)
  | .operator openings (.ok t) => Stacked openings ∧ t.Ordered ∧ 8 ≤ t.level
  | .operator _ (.error _) => False
  | .memberName openings object => Stacked openings ∧ object.Ordered ∧ 8 ≤ object.level

theorem sound_afterOperand {openings : List (Opening ParseTree)} {mayClose : Bool} {t : Token}
    {next : Place ParseTree} (h : (Place.operand openings mayClose).Sound)
    (hnext : afterOperand ParseTree.builder openings mayClose t = some next) :
    next.Sound ∧ next.tokens = tokensAll openings ++ [t] := by
  obtain ⟨hstacked, hclose⟩ := h
  unfold afterOperand at hnext
  split at hnext
  case h_1 | h_2 | h_3 =>
    cases hnext
    exact ⟨⟨hstacked, trivial, Nat.le_succ 8⟩, rfl⟩
  case h_4 | h_5 | h_6 | h_7 =>
    cases hnext
    exact ⟨⟨hstacked, nofun⟩, rfl⟩
  case h_8 =>
    split at hnext
    · cases hnext
      obtain ⟨callee, outer, heq⟩ := hclose rfl
      cases heq
      obtain ⟨hcallee, hlevel, -, houter⟩ := hstacked
      refine ⟨⟨houter, ⟨hcallee, trivial, hlevel⟩, Nat.le_refl 8⟩, ?_⟩
      simp [Place.tokens, tokensAll, Opening.tokens, ParseTree.builder, ParseTree.yield,
        ParseTree.yieldArguments]
    · cases hnext
  case h_9 => cases hnext

/-- Behind a whole operand everything up to the last opening that has to be closed can be ended. -/
theorem settled {openings outer : List (Opening ParseTree)} {e last : ParseTree}
    (h : (Place.operator openings (.ok e)).Sound)
    (hsettle : settle ParseTree.builder 0 openings e = (outer, last)) :
    Stacked outer ∧ last.Ordered ∧
      tokensAll openings ++ e.yield = tokensAll outer ++ last.yield := by
  obtain ⟨hstacked, hordered, hlevel⟩ := h
  have hallows : Allows e.level openings := (allows_seven openings).mono (by omega)
  have hend := settle_stacked (by decide) hstacked hordered hallows e.level.zero_le
  have htokens := settle_tokens 0 openings e
  rw [hsettle] at hend htokens
  exact ⟨hend.1, hend.2.1, htokens.symm⟩

theorem sound_afterBinary {openings : List (Opening ParseTree)} {e : ParseTree} (op : BinaryOp)
    (h : (Place.operator openings (.ok e)).Sound) :
    let settled := settle ParseTree.builder op.level openings e
    (Place.operand (.binary op settled.2 :: settled.1) false).Sound ∧
      (Place.operand (.binary op settled.2 :: settled.1) false).tokens
        = tokensAll openings ++ e.yield ++ [.symbol (.binary op)] := by
  obtain ⟨hstacked, hordered, hlevel⟩ := h
  have hallows : Allows e.level openings := (allows_seven openings).mono (by omega)
  have hop : op.level ≤ e.level := Nat.le_trans (Nat.le_of_lt op.level_lt) (by omega)
  obtain ⟨hstacked, hordered, hlevel, hallows⟩ :=
    settle_stacked op.level_lt hstacked hordered hallows hop
  refine ⟨⟨⟨hordered, hlevel, hallows, hstacked⟩, nofun⟩, ?_⟩
  rw [← settle_tokens op.level]
  simp [Place.tokens, tokensAll, Opening.tokens]

theorem sound_afterSymbol {openings : List (Opening ParseTree)} {e : ParseTree} {s : Symbol}
    {next : Place ParseTree} (h : (Place.operator openings (.ok e)).Sound)
    (hnext : afterSymbol ParseTree.builder openings e s = some next) :
    next.Sound ∧ next.tokens = tokensAll openings ++ e.yield ++ [.symbol s] := by
  have ⟨hstacked, hordered, hlevel⟩ := h
  cases s with
  | binary op =>
    cases hnext
    exact sound_afterBinary op h
  | not => cases hnext
  | dot =>
    cases hnext
    exact ⟨⟨hstacked, hordered, hlevel⟩, by simp [Place.tokens]⟩
  | openParen =>
    cases hnext
    refine ⟨⟨⟨hordered, hlevel, trivial, hstacked⟩, fun _ => ⟨e, openings, rfl⟩⟩, ?_⟩
    simp [Place.tokens, tokensAll, Opening.tokens]
  | openBracket =>
    cases hnext
    refine ⟨⟨⟨hordered, hlevel, hstacked⟩, nofun⟩, ?_⟩
    simp [Place.tokens, tokensAll, Opening.tokens]
  | closeParen =>
    simp only [afterSymbol] at hnext
    split at hnext
    · rename_i outer inner hsettle
      cases hnext
      obtain ⟨houter, hinner, htokens⟩ := settled h hsettle
      refine ⟨⟨houter, hinner, Nat.le_succ 8⟩, ?_⟩
      rw [htokens]
      simp [Place.tokens, tokensAll, Opening.tokens, ParseTree.builder, ParseTree.yield]
    · rename_i callee done outer last hsettle
      cases hnext
      obtain ⟨⟨hcallee, hcalleeLevel, hdone, houter⟩, hlast, htokens⟩ := settled h hsettle
      have hargs : ParseTree.OrderedAll (last :: done).reverse :=
        orderedAll_reverse ⟨hlast, hdone⟩
      refine ⟨⟨houter, ⟨hcallee, hargs, hcalleeLevel⟩, Nat.le_refl 8⟩, ?_⟩
      rw [htokens]
      simp [Place.tokens, tokensAll, Opening.tokens, ParseTree.builder, ParseTree.yield,
        yieldArguments_concat]
    · cases hnext
  | closeBracket =>
    simp only [afterSymbol] at hnext
    split at hnext
    · rename_i object outer key hsettle
      cases hnext
      obtain ⟨⟨hobject, hobjectLevel, houter⟩, hkey, htokens⟩ := settled h hsettle
      refine ⟨⟨houter, ⟨hobject, hkey, hobjectLevel⟩, Nat.le_refl 8⟩, ?_⟩
      rw [htokens]
      simp [Place.tokens, tokensAll, Opening.tokens, ParseTree.builder, ParseTree.yield]
    · cases hnext
  | comma =>
    simp only [afterSymbol] at hnext
    split at hnext
    · rename_i callee done outer last hsettle
      cases hnext
      obtain ⟨⟨hcallee, hcalleeLevel, hdone, houter⟩, hlast, htokens⟩ := settled h hsettle
      refine ⟨⟨⟨hcallee, hcalleeLevel, ⟨hlast, hdone⟩, houter⟩, nofun⟩, ?_⟩
      rw [htokens]
      simp [Place.tokens, tokensAll, Opening.tokens]
    · cases hnext

theorem sound_next {place next : Place ParseTree} {t : Token} (h : place.Sound)
    (hnext : place.next? ParseTree.builder t = .ok (some next)) :
    next.Sound ∧ next.tokens = place.tokens ++ [t] := by
  unfold next? at hnext
  split at hnext
  · exact sound_afterOperand h (Except.ok.inj hnext)
  · cases hnext
  · rename_i openings found s _
    cases found with
    | error _ => exact h.elim
    | ok e => exact sound_afterSymbol h (Except.ok.inj hnext)
  · cases hnext
  · obtain ⟨hstacked, hordered, hlevel⟩ := h
    cases hnext
    refine ⟨⟨hstacked, ⟨hordered, hlevel⟩, Nat.le_refl 8⟩, ?_⟩
    simp [Place.tokens, ParseTree.builder, ParseTree.yield]
  · cases hnext

theorem sound_finish {place : Place ParseTree} {t : ParseTree} (h : place.Sound)
    (hfinish : place.finish? ParseTree.builder = .ok (some t)) :
    t.Ordered ∧ t.yield = place.tokens := by
  unfold finish? at hfinish
  split at hfinish
  · rename_i openings found
    cases found with
    | error _ => exact h.elim
    | ok e =>
      simp only [Except.map, Except.ok.injEq] at hfinish
      split at hfinish
      · rename_i hsettle
        cases hfinish
        obtain ⟨-, hordered, htokens⟩ := settled h hsettle
        exact ⟨hordered, htokens.symm⟩
      · cases hfinish
  · cases hfinish

theorem sound_run {place : Place ParseTree} {ts : List Token} {t : ParseTree} (h : place.Sound)
    (hrun : place.run ParseTree.builder ts = some t) :
    t.Ordered ∧ t.yield = place.tokens ++ ts := by
  induction ts generalizing place with
  | nil =>
    rw [run] at hrun
    split at hrun
    · rename_i hfinish
      rw [List.append_nil]
      exact sound_finish h (hrun ▸ hfinish)
    · cases hrun
  | cons tok rest ih =>
    rw [run] at hrun
    split at hrun
    · rename_i next hnext
      obtain ⟨hsound, htokens⟩ := sound_next h hnext
      obtain ⟨hordered, hyield⟩ := ih hsound hrun
      refine ⟨hordered, ?_⟩
      rw [hyield, htokens, List.append_assoc, List.singleton_append]
    · cases hrun

end Place

end DocScript
