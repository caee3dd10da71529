import DocScript.Expr.Parse

/-! # The grammar of expressions

The rules of expressions go from the loosest operators to the tightest, and derive trees from
tokens. What a rule derives is known from the tree alone: its tokens, and the order in which its
operators may stand in each other.
-/

namespace DocScript

/-- The rules that derive an expression, the loosest first. -/
inductive Rule where
  | logicOr
  | logicAnd
  | equality
  | relational
  | additive
  | multiplicative
  | unary
  | suffixed
  | primary

namespace Rule

/-- The rule that a rule also takes its expressions from. -/
def tighter? : Rule → Option Rule
  | logicOr => some logicAnd
  | logicAnd => some equality
  | equality => some relational
  | relational => some additive
  | additive => some multiplicative
  | multiplicative => some unary
  | unary => some suffixed
  | suffixed => some primary
  | primary => none

/-- The operators that a rule puts between two operands. -/
def operators : Rule → List BinaryOp
  | logicOr => [.logical .or]
  | logicAnd => [.logical .and]
  | equality =>
    [.operator .strictEq, .operator .strictNe, .operator .eq, .operator .ne]
  | relational => [.operator .le, .operator .ge, .operator .lt, .operator .gt]
  | additive => [.operator .add, .operator .sub]
  | multiplicative => [.operator .mul, .operator .div, .operator .mod]
  | unary => []
  | suffixed => []
  | primary => []

end Rule

/-- The sign of an operator with one operand. -/
def UnaryOp.token : UnaryOp → Token
  | .not => .symbol .not
  | .neg => .symbol (.binary (.operator .sub))
  | .pos => .symbol (.binary (.operator .add))

/-- What the rules find in a sequence of tokens. -/
inductive ParseTree where
  | number (numeral : Numeral) (source : String)
  | string (body source : String)
  | name (name : String)
  | group (inner : ParseTree)
  | binary (op : BinaryOp) (left right : ParseTree)
  | unary (op : UnaryOp) (operand : ParseTree)
  | member (object : ParseTree) (name : String)
  | index (object key : ParseTree)
  | call (callee : ParseTree) (arguments : List ParseTree)

mutual

/-- A rule derives a tree from tokens. -/
inductive Derives : Rule → List Token → ParseTree → Prop
  | tighter {rule next : Rule} {ts : List Token} {t : ParseTree}
      (hnext : rule.tighter? = some next) (h : Derives next ts t) : Derives rule ts t
  | binary {rule next : Rule} {op : BinaryOp} {ls rs : List Token} {l r : ParseTree}
      (hop : op ∈ rule.operators) (hnext : rule.tighter? = some next)
      (hl : Derives rule ls l) (hr : Derives next rs r) :
      Derives rule (ls ++ .symbol (.binary op) :: rs) (.binary op l r)
  | unary (op : UnaryOp) {ts : List Token} {t : ParseTree} (h : Derives .unary ts t) :
      Derives .unary (op.token :: ts) (.unary op t)
  | member {ts : List Token} {t : ParseTree} (h : Derives .suffixed ts t) (name : String) :
      Derives .suffixed (ts ++ [.symbol .dot, .name name]) (.member t name)
  | index {os ks : List Token} {o k : ParseTree} (ho : Derives .suffixed os o)
      (hk : Derives .logicOr ks k) :
      Derives .suffixed (os ++ .symbol .openBracket :: (ks ++ [.symbol .closeBracket])) (.index o k)
  | call {cs ps : List Token} {c : ParseTree} {args : List ParseTree}
      (hc : Derives .suffixed cs c) (hargs : DerivesArguments ps args) :
      Derives .suffixed (cs ++ .symbol .openParen :: (ps ++ [.symbol .closeParen])) (.call c args)
  | number (numeral : Numeral) (source : String) :
      Derives .primary [.number numeral source] (.number numeral source)
  | string (body source : String) :
      Derives .primary [.string body source] (.string body source)
  | name (name : String) : Derives .primary [.name name] (.name name)
  | group {ts : List Token} {t : ParseTree} (h : Derives .logicOr ts t) :
      Derives .primary (.symbol .openParen :: (ts ++ [.symbol .closeParen])) (.group t)

/-- The arguments of a call, of which there may be none. -/
inductive DerivesArguments : List Token → List ParseTree → Prop
  | none : DerivesArguments [] []
  | some {ts us : List Token} {t : ParseTree} {more : List ParseTree}
      (h : Derives .logicOr ts t) (hmore : DerivesMore us more) :
      DerivesArguments (ts ++ us) (t :: more)

/-- The arguments after the first, each behind a comma. -/
inductive DerivesMore : List Token → List ParseTree → Prop
  | nil : DerivesMore [] []
  | cons {ts us : List Token} {t : ParseTree} {more : List ParseTree}
      (h : Derives .logicOr ts t) (hmore : DerivesMore us more) :
      DerivesMore (.symbol .comma :: (ts ++ us)) (t :: more)

end

/-- The number that a numeral denotes, before it is clamped. -/
def Numeral.exact (numeral : Numeral) : Number :=
  if numeral.isInteger then .int (natOfDigits numeral.whole)
  else .float numeral.toDecimal.toBinary64

namespace ParseTree

mutual

/-- The expression that a tree stands for. -/
def read : ParseTree → Expr
  | .number numeral source => .literal (.number numeral.exact.clamp) (some source)
  | .string body source => .literal (.string (unescape body)) (some source)
  | .name text => .ofName text
  | .group inner => inner.read
  | .binary op left right => .binary op left.read right.read
  | .unary op operand => .unary op operand.read
  | .member object text => .member object.read text
  | .index object key => .index object.read key.read
  | .call callee arguments => .call callee.read (readAll arguments)

def readAll : List ParseTree → List Expr
  | [] => []
  | t :: rest => t.read :: readAll rest

end

mutual

/-- The tokens of a tree. -/
def yield : ParseTree → List Token
  | .number numeral source => [.number numeral source]
  | .string body source => [.string body source]
  | .name text => [.name text]
  | .group inner => .symbol .openParen :: (inner.yield ++ [.symbol .closeParen])
  | .binary op left right => left.yield ++ .symbol (.binary op) :: right.yield
  | .unary op operand => op.token :: operand.yield
  | .member object text => object.yield ++ [.symbol .dot, .name text]
  | .index object key =>
    object.yield ++ .symbol .openBracket :: (key.yield ++ [.symbol .closeBracket])
  | .call callee arguments =>
    callee.yield ++ .symbol .openParen :: (yieldArguments arguments ++ [.symbol .closeParen])

def yieldArguments : List ParseTree → List Token
  | [] => []
  | t :: more => t.yield ++ yieldMore more

def yieldMore : List ParseTree → List Token
  | [] => []
  | t :: more => .symbol .comma :: (t.yield ++ yieldMore more)

end

/-- How tightly the parts of a tree are bound at its top. -/
def level : ParseTree → Nat
  | .binary op _ _ => op.level
  | .unary _ _ => 7
  | .member _ _ => 8
  | .index _ _ => 8
  | .call _ _ => 8
  | _ => 9

mutual

/-- The operands of every operator are bound as tightly as its rule says. -/
def Ordered : ParseTree → Prop
  | .number _ _ => True
  | .string _ _ => True
  | .name _ => True
  | .group inner => inner.Ordered
  | .binary op left right =>
    left.Ordered ∧ right.Ordered ∧ op.level ≤ left.level ∧ op.level < right.level
  | .unary _ operand => operand.Ordered ∧ 7 ≤ operand.level
  | .member object _ => object.Ordered ∧ 8 ≤ object.level
  | .index object key => object.Ordered ∧ key.Ordered ∧ 8 ≤ object.level
  | .call callee arguments => callee.Ordered ∧ OrderedAll arguments ∧ 8 ≤ callee.level

def OrderedAll : List ParseTree → Prop
  | [] => True
  | t :: rest => t.Ordered ∧ OrderedAll rest

end

end ParseTree

/-! ## Rules and levels -/

def Rule.level : Rule → Nat
  | logicOr => 1
  | logicAnd => 2
  | equality => 3
  | relational => 4
  | additive => 5
  | multiplicative => 6
  | unary => 7
  | suffixed => 8
  | primary => 9

/-- The rule that an operator belongs to. -/
def BinaryOp.rule : BinaryOp → Rule
  | .logical .or => .logicOr
  | .logical .and => .logicAnd
  | .operator .strictEq => .equality
  | .operator .strictNe => .equality
  | .operator .eq => .equality
  | .operator .ne => .equality
  | .operator .le => .relational
  | .operator .ge => .relational
  | .operator .lt => .relational
  | .operator .gt => .relational
  | .operator .add => .additive
  | .operator .sub => .additive
  | .operator .mul => .multiplicative
  | .operator .div => .multiplicative
  | .operator .mod => .multiplicative

theorem Rule.level_of_tighter {rule next : Rule} (h : rule.tighter? = some next) :
    next.level = rule.level + 1 := by
  cases rule <;> cases h <;> rfl

theorem Rule.exists_tighter {rule other : Rule} (h : rule.level < other.level) :
    ∃ next, rule.tighter? = some next := by
  cases rule with
  | primary => cases other <;> simp [level] at h
  | _ => exact ⟨_, rfl⟩

theorem Rule.level_injective {rule other : Rule} (h : rule.level = other.level) :
    rule = other := by
  cases rule <;> cases other <;> first | rfl | cases h

theorem Rule.level_of_mem_operators {rule : Rule} {op : BinaryOp} (h : op ∈ rule.operators) :
    op.level = rule.level := by
  cases rule <;> simp only [operators, List.mem_cons, List.not_mem_nil, or_false] at h
  all_goals rcases h with rfl | rfl | rfl | rfl <;> rfl

theorem BinaryOp.mem_operators (op : BinaryOp) : op ∈ op.rule.operators := by
  rcases op with op | op <;> cases op <;> simp [rule, Rule.operators]

theorem BinaryOp.level_rule (op : BinaryOp) : op.rule.level = op.level :=
  (Rule.level_of_mem_operators op.mem_operators).symm

/-! ## Derivations and ordered trees -/

theorem Rule.level_pos (rule : Rule) : 1 ≤ rule.level := by
  cases rule <;> decide

theorem BinaryOp.level_lt (op : BinaryOp) : op.level < 7 := by
  rcases op with op | op <;> cases op <;> decide

theorem ParseTree.level_pos (t : ParseTree) : 1 ≤ t.level := by
  cases t with
  | binary op _ _ =>
    rw [ParseTree.level, ← op.level_rule]
    exact op.rule.level_pos
  | _ => simp [ParseTree.level]

mutual

theorem Derives.ordered {rule : Rule} {ts : List Token} {t : ParseTree} :
    Derives rule ts t → t.Ordered ∧ rule.level ≤ t.level ∧ t.yield = ts
  | .tighter hnext h => by
    obtain ⟨hordered, hlevel, hyield⟩ := h.ordered
    have := Rule.level_of_tighter hnext
    exact ⟨hordered, by omega, hyield⟩
  | .binary hop hnext hl hr => by
    obtain ⟨hlordered, hllevel, rfl⟩ := hl.ordered
    obtain ⟨hrordered, hrlevel, rfl⟩ := hr.ordered
    have hlevel := Rule.level_of_mem_operators hop
    have := Rule.level_of_tighter hnext
    exact ⟨⟨hlordered, hrordered, by omega, by omega⟩, Nat.le_of_eq hlevel.symm, rfl⟩
  | .unary op h => by
    obtain ⟨hordered, hlevel, rfl⟩ := h.ordered
    exact ⟨⟨hordered, hlevel⟩, Nat.le_refl _, rfl⟩
  | .member h name => by
    obtain ⟨hordered, hlevel, rfl⟩ := h.ordered
    exact ⟨⟨hordered, hlevel⟩, Nat.le_refl _, rfl⟩
  | .index ho hk => by
    obtain ⟨hoordered, holevel, rfl⟩ := ho.ordered
    obtain ⟨hkordered, -, rfl⟩ := hk.ordered
    exact ⟨⟨hoordered, hkordered, holevel⟩, Nat.le_refl _, rfl⟩
  | .call hc hargs => by
    obtain ⟨hcordered, hclevel, rfl⟩ := hc.ordered
    obtain ⟨hordered, rfl⟩ := hargs.ordered
    exact ⟨⟨hcordered, hordered, hclevel⟩, Nat.le_refl _, rfl⟩
  | .number _ _ => ⟨trivial, Nat.le_refl _, rfl⟩
  | .string _ _ => ⟨trivial, Nat.le_refl _, rfl⟩
  | .name _ => ⟨trivial, Nat.le_refl _, rfl⟩
  | .group h => by
    obtain ⟨hordered, -, rfl⟩ := h.ordered
    exact ⟨hordered, Nat.le_refl _, rfl⟩

theorem DerivesArguments.ordered {ts : List Token} {args : List ParseTree} :
    DerivesArguments ts args →
      ParseTree.OrderedAll args ∧ ParseTree.yieldArguments args = ts
  | .none => ⟨trivial, rfl⟩
  | .some h hmore => by
    obtain ⟨hordered, -, rfl⟩ := h.ordered
    obtain ⟨hmoreOrdered, rfl⟩ := hmore.ordered
    exact ⟨⟨hordered, hmoreOrdered⟩, rfl⟩

theorem DerivesMore.ordered {ts : List Token} {args : List ParseTree} :
    DerivesMore ts args → ParseTree.OrderedAll args ∧ ParseTree.yieldMore args = ts
  | .nil => ⟨trivial, rfl⟩
  | .cons h hmore => by
    obtain ⟨hordered, -, rfl⟩ := h.ordered
    obtain ⟨hmoreOrdered, rfl⟩ := hmore.ordered
    exact ⟨⟨hordered, hmoreOrdered⟩, rfl⟩

end

/-- What a rule derives, the looser rules derive too. -/
theorem Derives.loosen {rule looser : Rule} {ts : List Token} {t : ParseTree}
    (h : Derives rule ts t) (hlevel : looser.level ≤ rule.level) : Derives looser ts t := by
  obtain ⟨n, hn⟩ := Nat.le.dest hlevel
  induction n generalizing looser with
  | zero => exact Rule.level_injective hn ▸ h
  | succ n ih =>
    obtain ⟨next, hnext⟩ := Rule.exists_tighter (show looser.level < rule.level by omega)
    have hlevel := Rule.level_of_tighter hnext
    exact .tighter hnext (ih (by omega) (by omega))

/-- The rule that a tree is derived by at its top. -/
def ParseTree.rule : ParseTree → Rule
  | .binary op _ _ => op.rule
  | .unary _ _ => .unary
  | .member _ _ => .suffixed
  | .index _ _ => .suffixed
  | .call _ _ => .suffixed
  | _ => .primary

theorem ParseTree.level_rule (t : ParseTree) : t.rule.level = t.level := by
  cases t with
  | binary op _ _ => exact op.level_rule
  | _ => rfl

/-- The operand of a tighter level is derived by the rule of that level. -/
theorem Derives.atLevel {rule : Rule} {t : ParseTree} (h : Derives t.rule t.yield t)
    (hlevel : rule.level ≤ t.level) : Derives rule t.yield t :=
  h.loosen (t.level_rule ▸ hlevel)

namespace ParseTree

mutual

theorem Ordered.derives : ∀ {t : ParseTree}, t.Ordered → Derives t.rule t.yield t
  | .number numeral source, _ => .number numeral source
  | .string body source, _ => .string body source
  | .name text, _ => .name text
  | .group inner, h =>
    have hinner : inner.Ordered := h
    .group (hinner.derives.atLevel inner.level_pos)
  | .binary op left right, ⟨hleft, hright, hleftLevel, hrightLevel⟩ => by
    have hlt : op.rule.level < right.rule.level := by
      rw [op.level_rule, right.level_rule]
      exact hrightLevel
    obtain ⟨next, hnext⟩ := Rule.exists_tighter hlt
    have hl : Derives op.rule left.yield left := hleft.derives.atLevel (by rwa [op.level_rule])
    have hr : Derives next right.yield right :=
      hright.derives.atLevel (by rwa [Rule.level_of_tighter hnext, op.level_rule])
    exact .binary op.mem_operators hnext hl hr
  | .unary op operand, ⟨hoperand, hlevel⟩ => .unary op (hoperand.derives.atLevel hlevel)
  | .member object text, ⟨hobject, hlevel⟩ => .member (hobject.derives.atLevel hlevel) text
  | .index object key, ⟨hobject, hkey, hlevel⟩ =>
    .index (hobject.derives.atLevel hlevel) (hkey.derives.atLevel key.level_pos)
  | .call callee args, ⟨hcallee, hargs, hlevel⟩ =>
    .call (hcallee.derives.atLevel hlevel) (match args, hargs with
      | [], _ => .none
      | t :: more, ⟨ht, hmore⟩ => .some (ht.derives.atLevel t.level_pos) (moreDerives hmore))

theorem moreDerives : ∀ {more : List ParseTree}, OrderedAll more →
    DerivesMore (yieldMore more) more
  | [], _ => .nil
  | t :: _, ⟨ht, hmore⟩ => .cons (ht.derives.atLevel t.level_pos) (moreDerives hmore)

end

end ParseTree

/-- The loosest rule derives the ordered trees, each from its own tokens. -/
theorem derives_logicOr_iff {ts : List Token} {t : ParseTree} :
    Derives .logicOr ts t ↔ t.Ordered ∧ t.yield = ts := by
  constructor
  · intro h
    obtain ⟨hordered, -, hyield⟩ := h.ordered
    exact ⟨hordered, hyield⟩
  · rintro ⟨hordered, rfl⟩
    exact hordered.derives.atLevel t.level_pos

end DocScript
