import DocScript.Proofs.Expr.Places

/-! # Runs over trees

The machine gets over the tokens of every ordered tree and ends with the tree. So it builds a tree
exactly if the grammar derives it, and no sequence of tokens has two trees.
-/

namespace DocScript

open Opening

namespace Place

theorem run_operand {openings : List (Opening ParseTree)} {mayClose : Bool} {tok : Token}
    {next : Place ParseTree} (rest : List Token)
    (h : afterOperand ParseTree.builder openings mayClose tok = some next) :
    (operand openings mayClose).run ParseTree.builder (tok :: rest)
      = next.run ParseTree.builder rest := by
  rw [run, next?, h]

theorem run_operator {openings : List (Opening ParseTree)} {e : ParseTree} {s : Symbol}
    {next : Place ParseTree} (rest : List Token)
    (h : afterSymbol ParseTree.builder openings e s = some next) :
    (operator openings (.ok e)).run ParseTree.builder (.symbol s :: rest)
      = next.run ParseTree.builder rest := by
  cases s with
  | not => cases h
  | _ =>
    rw [run, next?, Except.map, h]
    rintro ⟨⟩

/-- The machine gets over a tree: it ends with openings that wait for more operators, and settling
them gives the tree. Nothing waits at the end of a tree of the tightest rules. -/
def Passes (openings : List (Opening ParseTree)) (mayClose : Bool) (t : ParseTree) : Prop :=
  ∃ waiting e,
    (∀ rest, (operand openings mayClose).run ParseTree.builder (t.yield ++ rest)
      = (operator (waiting ++ openings) (.ok e)).run ParseTree.builder rest) ∧
    (∀ level ≤ t.level, settle ParseTree.builder level (waiting ++ openings) e
      = settle ParseTree.builder level openings t) ∧
    (8 ≤ t.level → waiting = [] ∧ e = t)

theorem Passes.settled {openings : List (Opening ParseTree)} {mayClose : Bool} {t : ParseTree}
    (h : Passes openings mayClose t) {level : Nat} (hlevel : level ≤ t.level)
    (hallows : Allows level openings) (hlt : level < 7) :
    ∃ waiting e,
      (∀ rest, (operand openings mayClose).run ParseTree.builder (t.yield ++ rest)
        = (operator (waiting ++ openings) (.ok e)).run ParseTree.builder rest) ∧
      settle ParseTree.builder level (waiting ++ openings) e = (openings, t) := by
  obtain ⟨waiting, e, hrun, hsettle, -⟩ := h
  exact ⟨waiting, e, hrun, (hsettle level hlevel).trans (settle_of_allows hallows hlt t)⟩

/-- A tree of the tightest rules is passed without anything that waits. -/
theorem Passes.tight {openings : List (Opening ParseTree)} {mayClose : Bool} {t : ParseTree}
    (h : Passes openings mayClose t) (hlevel : 8 ≤ t.level) (rest : List Token) :
    (operand openings mayClose).run ParseTree.builder (t.yield ++ rest)
      = (operator openings (.ok t)).run ParseTree.builder rest := by
  obtain ⟨waiting, e, hrun, -, htight⟩ := h
  obtain ⟨rfl, rfl⟩ := htight hlevel
  exact hrun rest

theorem Passes.of_tight {openings : List (Opening ParseTree)} {mayClose : Bool} {t : ParseTree}
    (h : ∀ rest, (operand openings mayClose).run ParseTree.builder (t.yield ++ rest)
      = (operator openings (.ok t)).run ParseTree.builder rest) : Passes openings mayClose t :=
  ⟨[], t, h, fun _ _ => rfl, fun _ => ⟨rfl, rfl⟩⟩

theorem passes_group {openings : List (Opening ParseTree)} (mayClose : Bool) {inner : ParseTree}
    (h : Passes (.group :: openings) false inner) : Passes openings mayClose (.group inner) := by
  obtain ⟨waiting, e, hrun, hsettle⟩ := h.settled inner.level.zero_le trivial (by decide)
  refine .of_tight fun rest => ?_
  have hclose : afterSymbol ParseTree.builder (waiting ++ .group :: openings) e .closeParen
      = some (operator openings (.ok (.group inner))) := by
    rw [afterSymbol, hsettle]
    rfl
  rw [ParseTree.yield, List.cons_append, List.append_assoc, run_operand _ rfl, hrun]
  exact run_operator rest hclose

theorem passes_unary {openings : List (Opening ParseTree)} (mayClose : Bool) {op : UnaryOp}
    {operand : ParseTree} (h : Passes (.unary op :: openings) false operand)
    (hlevel : 7 ≤ operand.level) : Passes openings mayClose (.unary op operand) := by
  obtain ⟨waiting, e, hrun, hsettle, -⟩ := h
  refine ⟨waiting ++ [.unary op], e, fun rest => ?_, fun level hle => ?_, nofun⟩
  · have hsign : afterOperand ParseTree.builder openings mayClose op.token
        = some (.operand (.unary op :: openings) false) := by
      cases op <;> rfl
    rw [ParseTree.yield, List.cons_append, run_operand _ hsign, hrun, List.append_assoc]
    rfl
  · rw [List.append_assoc, List.singleton_append, hsettle level (Nat.le_trans hle hlevel),
      settle_unary]
    rfl

theorem passes_binary {openings : List (Opening ParseTree)} {mayClose : Bool} {op : BinaryOp}
    {left right : ParseTree} (hallows : Allows op.level openings)
    (hl : Passes openings mayClose left) (hleft : op.level ≤ left.level)
    (hr : Passes (.binary op left :: openings) false right) (hright : op.level < right.level) :
    Passes openings mayClose (.binary op left right) := by
  obtain ⟨waiting, e, hrun, hsettle⟩ := hl.settled hleft hallows op.level_lt
  obtain ⟨waiting', e', hrun', hsettle', -⟩ := hr
  have hop : afterSymbol ParseTree.builder (waiting ++ openings) e (.binary op)
      = some (operand (.binary op left :: openings) false) := by
    rw [afterSymbol, hsettle]
  refine ⟨waiting' ++ [.binary op left], e', fun rest => ?_, fun level hle => ?_, ?_⟩
  · rw [ParseTree.yield, List.append_assoc, hrun, List.cons_append, run_operator _ hop, hrun',
      List.append_assoc]
    rfl
  · rw [List.append_assoc, List.singleton_append,
      hsettle' level (Nat.le_trans hle (Nat.le_of_lt hright)), settle_binary _ hle]
    rfl
  · intro hle
    exact absurd (Nat.lt_of_le_of_lt hle op.level_lt) (by decide)

theorem passes_member {openings : List (Opening ParseTree)} {mayClose : Bool}
    {object : ParseTree} (h : Passes openings mayClose object) (hlevel : 8 ≤ object.level)
    (name : String) : Passes openings mayClose (.member object name) := by
  refine .of_tight fun rest => ?_
  rw [ParseTree.yield, List.append_assoc, h.tight hlevel, List.cons_append, run_operator _ rfl]
  rfl

theorem passes_index {openings : List (Opening ParseTree)} {mayClose : Bool}
    {object key : ParseTree} (h : Passes openings mayClose object) (hlevel : 8 ≤ object.level)
    (hk : Passes (.index object :: openings) false key) :
    Passes openings mayClose (.index object key) := by
  obtain ⟨waiting, e, hrun, hsettle⟩ := hk.settled key.level.zero_le trivial (by decide)
  have hclose : afterSymbol ParseTree.builder (waiting ++ .index object :: openings) e .closeBracket
      = some (operator openings (.ok (.index object key))) := by
    rw [afterSymbol, hsettle]
    rfl
  refine .of_tight fun rest => ?_
  rw [ParseTree.yield, List.append_assoc, h.tight hlevel, List.cons_append, run_operator _ rfl,
    List.append_assoc, hrun]
  exact run_operator rest hclose

/-- The machine gets over arguments and the parenthesis behind them. -/
def PassesArguments (callee : ParseTree) (args : List ParseTree) : Prop :=
  ∀ openings done mayClose rest, args ≠ [] →
    (operand (.arguments callee done :: openings) mayClose).run ParseTree.builder
        (ParseTree.yieldArguments args ++ .symbol .closeParen :: rest)
      = (operator openings (.ok (.call callee (done.reverse ++ args)))).run ParseTree.builder rest

theorem passes_call {openings : List (Opening ParseTree)} {mayClose : Bool} {callee : ParseTree}
    {args : List ParseTree} (h : Passes openings mayClose callee) (hlevel : 8 ≤ callee.level)
    (hargs : PassesArguments callee args) : Passes openings mayClose (.call callee args) := by
  refine .of_tight fun rest => ?_
  rw [ParseTree.yield, List.append_assoc, h.tight hlevel, List.cons_append, run_operator _ rfl,
    List.append_assoc]
  cases args with
  | nil => exact run_operand rest rfl
  | cons t more => exact hargs openings [] true rest (List.cons_ne_nil t more)

theorem passesArguments_last {callee t : ParseTree}
    (h : ∀ openings mayClose, Allows t.level openings → Passes openings mayClose t) :
    PassesArguments callee [t] := by
  intro openings done mayClose rest _
  obtain ⟨waiting, e, hrun, hsettle⟩ :=
    (h (.arguments callee done :: openings) mayClose trivial).settled t.level.zero_le trivial
      (by decide)
  have hclose : afterSymbol ParseTree.builder (waiting ++ .arguments callee done :: openings) e
      .closeParen = some (operator openings (.ok (.call callee (done.reverse ++ [t])))) := by
    rw [afterSymbol, hsettle]
    simp only [List.reverse_cons]
    rfl
  rw [ParseTree.yieldArguments, ParseTree.yieldMore, List.append_nil, hrun]
  exact run_operator rest hclose

theorem passesArguments_cons {callee t : ParseTree} {more : List ParseTree}
    (h : ∀ openings mayClose, Allows t.level openings → Passes openings mayClose t)
    (hmore : PassesArguments callee more) (hne : more ≠ []) :
    PassesArguments callee (t :: more) := by
  intro openings done mayClose rest _
  obtain ⟨waiting, e, hrun, hsettle⟩ :=
    (h (.arguments callee done :: openings) mayClose trivial).settled t.level.zero_le trivial
      (by decide)
  have hcomma : afterSymbol ParseTree.builder (waiting ++ .arguments callee done :: openings) e
      .comma = some (operand (.arguments callee (t :: done) :: openings) false) := by
    rw [afterSymbol, hsettle]
  have hyield : ParseTree.yieldMore more
      = .symbol .comma :: ParseTree.yieldArguments more := by
    cases more with
    | nil => exact absurd rfl hne
    | cons u more => rfl
  rw [ParseTree.yieldArguments, hyield, List.append_assoc, hrun, List.cons_append,
    run_operator _ hcomma, hmore _ _ _ _ hne, List.reverse_cons, List.append_assoc,
    List.singleton_append]

mutual

theorem passes : ∀ (t : ParseTree), t.Ordered → ∀ openings mayClose, Allows t.level openings →
    Passes openings mayClose t
  | .number _ _, _, _, _, _ => .of_tight fun rest => run_operand rest rfl
  | .string _ _, _, _, _, _ => .of_tight fun rest => run_operand rest rfl
  | .name _, _, _, _, _ => .of_tight fun rest => run_operand rest rfl
  | .group inner, h, _, mayClose, _ => passes_group mayClose (passes inner h _ _ trivial)
  | .unary _ inner, ⟨h, hlevel⟩, _, mayClose, _ =>
    passes_unary mayClose (passes inner h _ _ hlevel) hlevel
  | .binary _ left right, ⟨hl, hr, hleft, hright⟩, openings, mayClose, hallows =>
    passes_binary hallows (passes left hl openings mayClose (hallows.mono hleft)) hleft
      (passes right hr _ _ hright) hright
  | .member object text, ⟨h, hlevel⟩, openings, mayClose, hallows =>
    passes_member (passes object h openings mayClose (hallows.mono hlevel)) hlevel text
  | .index object key, ⟨h, hk, hlevel⟩, openings, mayClose, hallows =>
    passes_index (passes object h openings mayClose (hallows.mono hlevel)) hlevel
      (passes key hk _ _ trivial)
  | .call callee args, ⟨h, hargs, hlevel⟩, openings, mayClose, hallows =>
    passes_call (passes callee h openings mayClose (hallows.mono hlevel)) hlevel
      (passesArguments args hargs callee)

theorem passesArguments : ∀ (args : List ParseTree), ParseTree.OrderedAll args → ∀ callee,
    PassesArguments callee args
  | [], _, _ => fun _ _ _ _ h => absurd rfl h
  | [t], ⟨h, _⟩, _ => passesArguments_last (passes t h)
  | t :: u :: more, ⟨h, hmore⟩, callee =>
    passesArguments_cons (passes t h) (passesArguments (u :: more) hmore callee)
      (List.cons_ne_nil u more)

end

end Place

/-- The machine accepts what the grammar derives, and builds the tree that it derives. -/
theorem run_builder_iff {ts : List Token} {t : ParseTree} :
    (Place.operand [] false).run ParseTree.builder ts = some t ↔ Derives .logicOr ts t := by
  rw [derives_logicOr_iff]
  constructor
  · intro h
    have hstart : (Place.operand [] false).Sound := ⟨trivial, nofun⟩
    exact Place.sound_run hstart h
  · rintro ⟨hordered, rfl⟩
    obtain ⟨waiting, e, hrun, hsettle⟩ :=
      (Place.passes t hordered [] false trivial).settled t.level.zero_le trivial (by decide)
    have hfinish := hrun []
    rw [List.append_nil] at hfinish
    rw [hfinish, Place.run, Place.finish?, Except.map, hsettle]

/-- No sequence of tokens has two trees. -/
theorem Derives.unique {ts : List Token} {t t' : ParseTree} (h : Derives .logicOr ts t)
    (h' : Derives .logicOr ts t') : t = t' :=
  Option.some.inj ((run_builder_iff.mpr h).symm.trans (run_builder_iff.mpr h'))

end DocScript
