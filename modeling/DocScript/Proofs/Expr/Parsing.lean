import DocScript.Proofs.Expr.Lexing
import DocScript.Proofs.Expr.Passes
import Mathlib.Data.List.TakeWhile

/-! # Parsing accepts the grammar

Reading expressions is reading trees and forgetting what expressions do not keep. So the parser
finds an expression in a text, however its tokens are laid out with blanks, exactly if the grammar
derives a tree from them that stands for the expression.
-/

namespace DocScript

/-- An integer numeral has no more digits than can be converted. -/
def Token.InLimit : Token → Prop
  | .number numeral _ => numeral.isInteger → numeral.whole.length ≤ Numeral.maxDigits
  | _ => True

/-- A text has the tokens in turn, blanks around them, and at least one between each two. -/
inductive LaidOut : List Token → List Char → Prop
  | nil {blanks : List Char} (h : ∀ c ∈ blanks, Text.isBlank c) : LaidOut [] blanks
  | cons {blanks rest : List Char} {t : Token} {ts : List Token}
      (h : ∀ c ∈ blanks, Text.isBlank c)
      (hnext : ts ≠ [] → ∃ c cs, rest = c :: cs ∧ Text.isBlank c) (hrest : LaidOut ts rest) :
      LaidOut (t :: ts) (blanks ++ (t.text.toList ++ rest))

theorem LaidOut.bounded {ts : List Token} {rest : List Char} (h : LaidOut ts rest)
    (hnext : ts ≠ [] → ∃ c cs, rest = c :: cs ∧ Text.isBlank c) : Bounded rest := by
  intro c hc
  cases h with
  | nil hblanks => exact hblanks c (List.mem_of_mem_head? hc)
  | cons _ _ _ =>
    obtain ⟨d, cs, heq, hd⟩ := hnext (List.cons_ne_nil _ _)
    rw [heq] at hc
    cases hc
    exact hd

/-- What kind of error a failure is. A fault is none. -/
def Failure.kind? : Failure → Option ErrorKind
  | .error e => some e.kind
  | .fault _ => none

/-! ## Expressions from trees -/

theorem readAll_eq_map (ts : List ParseTree) : ParseTree.readAll ts = ts.map ParseTree.read := by
  induction ts with
  | nil => rfl
  | cons t ts ih => rw [ParseTree.readAll, ih, List.map_cons]

theorem ofNumeral_of_inLimit {numeral : Numeral} {source : String}
    (h : (Token.number numeral source).InLimit) :
    Expr.ofNumeral numeral source = .ok (ParseTree.number numeral source).read := by
  rw [Expr.ofNumeral, ParseTree.read, Numeral.exact, Numeral.value]
  cases hinteger : numeral.isInteger with
  | false => rfl
  | true =>
    have hlimit := Nat.not_lt_of_le (h hinteger)
    simp only [if_true, if_neg hlimit]
    rfl

def Opening.read : Opening ParseTree → Opening Expr
  | .binary op left => .binary op left.read
  | .unary op => .unary op
  | .group => .group
  | .index object => .index object.read
  | .arguments callee done => .arguments callee.read (done.map ParseTree.read)

def Place.read : Place ParseTree → Place Expr
  | .operand openings mayClose => .operand (openings.map Opening.read) mayClose
  | .operator openings found => .operator (openings.map Opening.read) (found.map ParseTree.read)
  | .memberName openings object => .memberName (openings.map Opening.read) object.read

theorem settle_read (level : Nat) (openings : List (Opening ParseTree)) (t : ParseTree) :
    settle Expr.builder level (openings.map Opening.read) t.read
      = ((settle ParseTree.builder level openings t).1.map Opening.read,
        (settle ParseTree.builder level openings t).2.read) := by
  induction openings generalizing t with
  | nil => rfl
  | cons opening outer ih =>
    cases opening with
    | binary op left =>
      rw [List.map_cons, Opening.read, settle, settle]
      split
      · exact ih (.binary op left t)
      · rfl
    | unary op =>
      rw [List.map_cons, Opening.read, settle, settle]
      exact ih (.unary op t)
    | _ => rfl

namespace Place

theorem afterOperand_read {t : Token} (ht : t.InLimit) (openings : List (Opening ParseTree))
    (mayClose : Bool) :
    afterOperand Expr.builder (openings.map Opening.read) mayClose t
      = (afterOperand ParseTree.builder openings mayClose t).map read := by
  cases t with
  | name name => rfl
  | number numeral source =>
    simp only [afterOperand, Expr.builder, ofNumeral_of_inLimit ht]
    rfl
  | string body source => rfl
  | symbol s =>
    rcases s with ⟨_ | op⟩ | _ | _ | _ | _ | _ | _ | _
    case binary.operator => cases op <;> rfl
    case closeParen =>
      rcases mayClose with _ | _
      · rfl
      · rcases openings with _ | ⟨_ | _ | _ | _ | ⟨callee, done⟩, outer⟩
        case cons.arguments =>
          simp [afterOperand, Opening.read, read, Expr.builder, ParseTree.builder, ParseTree.read,
            readAll_eq_map, Except.map]
        all_goals rfl
    all_goals rfl

theorem afterSymbol_read (openings : List (Opening ParseTree)) (e : ParseTree) (s : Symbol) :
    afterSymbol Expr.builder (openings.map Opening.read) e.read s
      = (afterSymbol ParseTree.builder openings e s).map read := by
  cases s with
  | binary op => simp [afterSymbol, settle_read, read, Opening.read]
  | closeParen =>
    simp only [afterSymbol, settle_read]
    generalize settle ParseTree.builder 0 openings e = settled
    obtain ⟨_ | ⟨_ | _ | _ | _ | ⟨callee, done⟩, outer⟩, t⟩ := settled
    case cons.arguments =>
      simp [Opening.read, read, Expr.builder, ParseTree.builder, ParseTree.read, readAll_eq_map,
        Except.map]
    all_goals rfl
  | closeBracket =>
    simp only [afterSymbol, settle_read]
    generalize settle ParseTree.builder 0 openings e = settled
    obtain ⟨_ | ⟨_ | _ | _ | _ | _, outer⟩, t⟩ := settled <;> rfl
  | comma =>
    simp only [afterSymbol, settle_read]
    generalize settle ParseTree.builder 0 openings e = settled
    obtain ⟨_ | ⟨_ | _ | _ | _ | _, outer⟩, t⟩ := settled <;> rfl
  | _ => rfl

theorem next?_read {t : Token} (ht : t.InLimit) (place : Place ParseTree) :
    place.read.next? Expr.builder t
      = (place.next? ParseTree.builder t).map (Option.map read) := by
  cases place with
  | operand openings mayClose =>
    rw [read, next?, next?, afterOperand_read ht]
    rfl
  | operator openings found =>
    rcases found with error | e
    · cases t with
      | symbol s => cases s <;> rfl
      | _ => rfl
    · cases t with
      | symbol s =>
        cases s with
        | not => rfl
        | _ => exact congrArg Except.ok (afterSymbol_read openings e _)
      | _ => rfl
  | memberName openings object => cases t <;> rfl

theorem finish?_read (place : Place ParseTree) :
    place.read.finish? Expr.builder
      = (place.finish? ParseTree.builder).map (Option.map ParseTree.read) := by
  rcases place with _ | ⟨openings, _ | e⟩ | _
  case operator.ok =>
    simp only [read, finish?, Except.map, settle_read]
    generalize settle ParseTree.builder 0 openings e = settled
    obtain ⟨_ | _, t⟩ := settled <;> rfl
  all_goals rfl

/-- Building trees, no numeral is over a limit. -/
theorem Sound.next?_ok {place : Place ParseTree} (h : place.Sound) (t : Token) :
    ∃ found, place.next? ParseTree.builder t = .ok found := by
  rcases place with _ | ⟨_, _ | _⟩ | _
  case operand => exact ⟨_, rfl⟩
  case operator.error => exact h.elim
  case operator.ok =>
    cases t with
    | symbol s => cases s <;> exact ⟨_, rfl⟩
    | _ => exact ⟨_, rfl⟩
  case memberName => cases t <;> exact ⟨_, rfl⟩

theorem Sound.finish?_ok {place : Place ParseTree} (h : place.Sound) :
    ∃ found, place.finish? ParseTree.builder = .ok found := by
  rcases place with _ | ⟨_, _ | _⟩ | _
  case operator.error => exact h.elim
  all_goals exact ⟨_, rfl⟩

end Place

/-! ## Texts -/

/-- What reading ends in: an expression, or else a syntax error. -/
def outcome (found : Option Expr) : Except (Option ErrorKind) Expr :=
  found.elim (.error (some .malformed)) .ok

namespace Expr

variable (text : String)

theorem parseFrom_end {rest : List Char} (place : Place Expr)
    (hrest : rest.dropWhile Text.isBlank = []) {found : Option Expr}
    (hfinish : place.finish? builder = .ok found) :
    (parseFrom text place rest).mapError Failure.kind? = outcome found := by
  rw [parseFrom]
  split
  · rw [hfinish]
    cases found <;> rfl
  · rename_i hcons
    rw [hrest] at hcons
    cases hcons

theorem parseFrom_take? (place : Place Expr) {rest chars left : List Char} {t : Token}
    {found : Option (Place Expr)} (hrest : rest.dropWhile Text.isBlank = chars)
    (ht : Token.take? place.expected chars = some (t, left))
    (hnext : place.next? builder t = .ok found) :
    parseFrom text place rest
      = found.elim
        (.error ((Cause.unexpectedToken t.text (text.length - chars.length) text).failure none))
        fun next => parseFrom text next left := by
  rw [parseFrom]
  split
  · rename_i hnil
    obtain rfl := hrest.symm.trans hnil
    exact absurd (Token.take?_length ht) (Nat.not_lt_zero _)
  · rename_i hcons
    obtain rfl := hrest.symm.trans hcons
    split
    · rename_i hnone
      rw [ht] at hnone
      cases hnone
    · rename_i hsome
      rw [ht] at hsome
      cases hsome
      rw [hnext]
      cases found <;> rfl

/-- The parser goes on behind a token that fits, and ends with a syntax error at one that does
not. -/
theorem parseFrom_token (place : Place Expr) {rest chars left : List Char} {t : Token}
    {found : Option (Place Expr)} (hrest : rest.dropWhile Text.isBlank = chars)
    (ht : Token.take? place.expected chars = some (t, left))
    (hnext : place.next? builder t = .ok found) :
    (parseFrom text place rest).mapError Failure.kind?
      = found.elim (.error (some .malformed)) fun next =>
          (parseFrom text next left).mapError Failure.kind? := by
  rw [parseFrom_take? text place hrest ht hnext]
  cases found <;> rfl

theorem parseFrom_unread (place : Place Expr) {rest chars : List Char}
    (hrest : rest.dropWhile Text.isBlank = chars) (hne : chars ≠ [])
    (ht : Token.take? place.expected chars = none) :
    (parseFrom text place rest).mapError Failure.kind? = .error (some .malformed) := by
  subst hrest
  rw [parseFrom]
  split
  · rename_i hnil
    exact absurd hnil hne
  · rename_i hcons
    rw [hcons] at ht
    split
    · rfl
    · rename_i hsome
      rw [ht] at hsome
      cases hsome

/-! ## Misread tokens -/

/-- Where an operand is due, the exclamation mark of an inequality is read alone. -/
theorem take?_exclamation (rest : List Char) :
    Token.take? .operand ('!' :: '=' :: rest) = some (.symbol .not, '=' :: rest) := by
  have hword : takeWord? ('!' :: '=' :: rest) = none :=
    takeWord?_none (by decide) (by rintro ⟨⟩)
  simp [Token.take?, takeExpected?, hword, takePrefix?, asToken]

theorem take?_equals {rest : List Char} (hrest : Bounded rest) :
    Token.take? .operand ('=' :: rest) = none := by
  have hword : takeWord? ('=' :: rest) = none :=
    takeWord?_none (by decide) (by rintro ⟨⟩)
  have hsymbol : takeInfix? ('=' :: rest) = none := by
    have := hrest.not_cons (show '=' ∈ symbolChars by decide)
    simp [takeInfix?, this]
  simp [Token.take?, takeExpected?, takeAny?, hword, hsymbol, takePrefix?, asToken]

theorem take?_equality {rest : List Char} (hrest : Bounded rest) :
    Token.take? .operand ('=' :: '=' :: rest)
      = some (.symbol (.binary (.operator .eq)), rest) :=
  take?_lexical_symbol (s := .binary (.operator .eq)) hrest nofun

theorem dropWhile_symbol {c : Char} (hc : c ∈ symbolChars) (cs : List Char) :
    (c :: cs).dropWhile Text.isBlank = c :: cs := by
  rw [List.dropWhile_cons, not_isBlank_of_symbol hc]
  rfl

variable {chars rest : List Char}

theorem parseFrom_ne (openings : List (Opening Expr)) (mayClose : Bool)
    (hchars : chars.dropWhile Text.isBlank = '!' :: '=' :: rest) (hrest : Bounded rest) :
    (parseFrom text (.operand openings mayClose) chars).mapError Failure.kind?
      = .error (some .malformed) := by
  rw [parseFrom_token text (.operand openings mayClose) hchars (take?_exclamation rest) rfl]
  exact parseFrom_unread text _ (dropWhile_symbol (by decide) rest) (List.cons_ne_nil _ _)
    (take?_equals hrest)

theorem parseFrom_strictNe (openings : List (Opening Expr)) (mayClose : Bool)
    (hchars : chars.dropWhile Text.isBlank = '!' :: '=' :: '=' :: rest) (hrest : Bounded rest) :
    (parseFrom text (.operand openings mayClose) chars).mapError Failure.kind?
      = .error (some .malformed) := by
  rw [parseFrom_token text (.operand openings mayClose) hchars (take?_exclamation _) rfl]
  exact parseFrom_token text (.operand (.unary .not :: openings) false)
    (dropWhile_symbol (by decide) _) (take?_equality hrest) rfl

/-- Behind its point, the rest of a numeral is read as a numeral, where a name is due. -/
theorem parseFrom_fraction (openings : List (Opening Expr)) (e : Expr) {cs : List Char}
    {numeral : Numeral} (h : NumberText ('.' :: cs) numeral)
    (hchars : chars.dropWhile Text.isBlank = '.' :: (cs ++ rest)) (hrest : Bounded rest) :
    (parseFrom text (.operator openings (.ok e)) chars).mapError Failure.kind?
      = .error (some .malformed) := by
  obtain ⟨c, ds, rfl, ⟨d, hd⟩, fraction, hfraction⟩ := h.behind_point
  have hdot : Token.take? .operator ('.' :: (c :: ds ++ rest))
      = some (.symbol .dot, c :: ds ++ rest) := by
    simp [Token.take?, takeExpected?, takeInfix?, asToken]
  have hsource : NumberText (String.ofList (c :: ds)).toList fraction := by
    rwa [String.toList_ofList]
  have hread : Token.take? .memberName (c :: ds ++ rest)
      = some (.number fraction (String.ofList (c :: ds)), rest) := by
    have hfit : ¬ Misread .memberName (.number fraction (String.ofList (c :: ds))) := by rintro ⟨⟩
    have htake := take?_lexical (.number hsource) hrest hfit
    rwa [Token.text, String.toList_ofList] at htake
  have hblank : (c :: ds ++ rest).dropWhile Text.isBlank = c :: ds ++ rest := by
    rw [List.cons_append, List.dropWhile_cons, not_isBlank_of_digit hd]
    rfl
  rw [parseFrom_token text (.operator openings (.ok e)) hchars hdot rfl]
  exact parseFrom_token text (.memberName openings e) hblank hread rfl

/-- A misread token ends reading with a syntax error. -/
theorem parseFrom_misread {place : Place ParseTree} (hsound : place.Sound) {t : Token}
    (h : Misread place.expected t) (ht : t.Lexical)
    (hchars : chars.dropWhile Text.isBlank = t.text.toList ++ rest) (hrest : Bounded rest) :
    (parseFrom text place.read chars).mapError Failure.kind? = .error (some .malformed) := by
  rcases place with ⟨openings, mayClose⟩ | ⟨openings, _ | e⟩ | _
  case operand =>
    cases h with
    | ne => exact parseFrom_ne text _ mayClose hchars hrest
    | strictNe => exact parseFrom_strictNe text _ mayClose hchars hrest
  case operator.error => exact hsound.elim
  case operator.ok =>
    cases h with
    | @fraction numeral source cs htext =>
      cases ht with
      | number hnumber =>
        rw [htext] at hnumber
        rw [Token.text, htext] at hchars
        exact parseFrom_fraction text _ e.read hnumber hchars hrest
  case memberName => cases h

theorem next?_misread {place : Place ParseTree} {t : Token} (h : Misread place.expected t) :
    place.next? ParseTree.builder t = .ok none := by
  rcases place with _ | ⟨_, _⟩ | _ <;> cases h <;> rfl

/-! ## Laid out tokens -/

/-- On a text in which tokens are laid out, the parser does what the machine does on the tokens. -/
theorem parseFrom_laidOut {ts : List Token} (hlaid : LaidOut ts chars)
    (hlexical : ∀ t ∈ ts, t.Lexical) (hlimit : ∀ t ∈ ts, t.InLimit) {place : Place ParseTree}
    (hsound : place.Sound) :
    (parseFrom text place.read chars).mapError Failure.kind?
      = outcome ((place.run ParseTree.builder ts).map ParseTree.read) := by
  induction hlaid generalizing place with
  | @nil blanks h =>
    obtain ⟨found, hfinish⟩ := hsound.finish?_ok
    have hread := place.finish?_read
    rw [hfinish] at hread
    rw [parseFrom_end text place.read (List.dropWhile_eq_nil_iff.mpr h) hread, Place.run, hfinish]
  | @cons blanks rest t ts h hnext hlaid ih =>
    have ht := hlexical t List.mem_cons_self
    have hrest : Bounded rest := hlaid.bounded hnext
    have hexpected : place.read.expected = place.expected := by cases place <;> rfl
    have hchars : (blanks ++ (t.text.toList ++ rest)).dropWhile Text.isBlank
        = t.text.toList ++ rest := by
      obtain ⟨c, cs, htext, hc⟩ := ht.head
      rw [List.dropWhile_append_of_pos h, htext, List.cons_append, List.dropWhile_cons, hc]
      rfl
    by_cases hmisread : Misread place.expected t
    · rw [parseFrom_misread text hsound hmisread ht hchars hrest, Place.run,
        next?_misread hmisread]
      rfl
    · obtain ⟨found, hfound⟩ := hsound.next?_ok t
      have hread := place.next?_read (hlimit t List.mem_cons_self)
      rw [hfound] at hread
      have htake : Token.take? place.read.expected (t.text.toList ++ rest) = some (t, rest) := by
        rw [hexpected]
        exact take?_lexical ht hrest hmisread
      rw [parseFrom_token text place.read hchars htake hread, Place.run, hfound]
      cases found with
      | none => rfl
      | some next =>
        exact ih (fun t ht => hlexical t (List.mem_cons_of_mem _ ht))
          (fun t ht => hlimit t (List.mem_cons_of_mem _ ht)) (Place.sound_next hsound hfound).1

theorem dropWhile_of_trim {cs : List Char} (h : Text.trim cs = []) :
    cs.dropWhile Text.isBlank = [] := by
  rw [Text.trim, List.reverse_eq_nil_iff, List.dropWhile_eq_nil_iff] at h
  cases hdrop : cs.dropWhile Text.isBlank with
  | nil => rfl
  | cons c rest =>
    have hblank := h c (by rw [hdrop, List.mem_reverse]; exact List.mem_cons_self)
    have hstop := List.head?_dropWhile_not Text.isBlank cs
    rw [hdrop] at hstop
    exact absurd hblank (Bool.eq_false_iff.mp hstop)

theorem parse_eq_parseFrom :
    (parse text).mapError Failure.kind?
      = (parseFrom text (.operand [] false) text.toList).mapError Failure.kind? := by
  rw [parse]
  split
  · rename_i htrim
    rw [parseFrom_end text (.operand [] false) (dropWhile_of_trim htrim) rfl]
    rfl
  · rfl

theorem parse_laidOut {ts : List Token} (hlaid : LaidOut ts text.toList)
    (hlexical : ∀ t ∈ ts, t.Lexical) (hlimit : ∀ t ∈ ts, t.InLimit) :
    (parse text).mapError Failure.kind?
      = outcome (((Place.operand [] false).run ParseTree.builder ts).map ParseTree.read) := by
  have hstart : (Place.operand [] false).Sound := ⟨trivial, nofun⟩
  rw [parse_eq_parseFrom]
  exact parseFrom_laidOut text hlaid hlexical hlimit hstart

end Expr

theorem ok_iff_mapError_eq_outcome {result : Result Expr} {found : Option Expr}
    (h : result.mapError Failure.kind? = outcome found) (e : Expr) :
    result = .ok e ↔ found = some e := by
  rcases result with failure | e' <;> rcases found with _ | e''
  case error.none => constructor <;> rintro ⟨⟩
  case error.some => cases h
  case ok.none => cases h
  case ok.some =>
    cases h
    constructor <;> rintro ⟨⟩ <;> rfl

/-- A text of tokens that are laid out with blanks reads as an expression exactly if the grammar
derives a tree from the tokens that stands for it. There is at most one tree, and any other layout
ends in the same way. -/
theorem parse_iff_derives {ts : List Token} (hlexical : ∀ t ∈ ts, t.Lexical)
    (hlimit : ∀ t ∈ ts, t.InLimit) {text : String} (hlaid : LaidOut ts text.toList) :
    (∀ e, Expr.parse text = .ok e ↔ ∃ t, Derives .logicOr ts t ∧ t.read = e) ∧
      (∀ t t', Derives .logicOr ts t → Derives .logicOr ts t' → t = t') ∧
      ((∀ t, ¬ Derives .logicOr ts t) →
        (Expr.parse text).mapError Failure.kind? = .error (some .malformed)) ∧
      ∀ other : String, LaidOut ts other.toList →
        (Expr.parse other).mapError Failure.kind? = (Expr.parse text).mapError Failure.kind? := by
  have hparse := Expr.parse_laidOut text hlaid hlexical hlimit
  refine ⟨fun e => ?_, fun t t' => Derives.unique, fun hnone => ?_, fun other hother => ?_⟩
  · rw [ok_iff_mapError_eq_outcome hparse, Option.map_eq_some_iff]
    simp only [run_builder_iff]
  · rw [hparse]
    cases hrun : (Place.operand [] false).run ParseTree.builder ts with
    | none => rfl
    | some t => exact absurd (run_builder_iff.mp hrun) (hnone t)
  · rw [hparse, Expr.parse_laidOut other hother hlexical hlimit]

/-! ## A difference -/

def differenceTokens : List Token :=
  [.number ⟨[7], false, [], none⟩ "7", .symbol (.binary (.operator .sub)), .name "f",
    .symbol .openParen, .symbol .closeParen, .symbol (.binary (.operator .sub)), .name "x"]

def differenceTree : ParseTree :=
  .binary (.operator .sub)
    (.binary (.operator .sub) (.number ⟨[7], false, [], none⟩ "7") (.call (.name "f") []))
    (.name "x")

theorem derives_difference : Derives .logicOr differenceTokens differenceTree := by
  rw [derives_logicOr_iff]
  refine ⟨?_, rfl⟩
  simp [differenceTree, ParseTree.Ordered, ParseTree.OrderedAll, ParseTree.level, BinaryOp.level]

theorem lexical_difference : ∀ t ∈ differenceTokens, t.Lexical := by
  have hname {s : String} {c : Char} (hs : s.toList = [c]) (hc : startsName c) :
      (Token.name s).Lexical := .name ⟨c, [], hs, hc, nofun⟩
  have hseven : NumberText ['7'] ⟨[7], false, [], none⟩ :=
    .whole (.cons (by decide) .nil) nofun .none
  simp only [differenceTokens, List.mem_cons, List.not_mem_nil, or_false]
  rintro t (rfl | rfl | rfl | rfl | rfl | rfl | rfl)
  · exact .number hseven
  · exact .symbol _
  · exact hname rfl (by decide)
  · exact .symbol _
  · exact .symbol _
  · exact .symbol _
  · exact hname rfl (by decide)

theorem inLimit_difference : ∀ t ∈ differenceTokens, t.InLimit := by
  simp [differenceTokens, Token.InLimit, Numeral.maxDigits]

theorem laidOut_difference : LaidOut differenceTokens "7 -\tf ( ) - x\n".toList := by
  have htext : "7 -\tf ( ) - x\n".toList
      = [] ++ (['7'] ++ ([' '] ++ (['-'] ++ (['\t'] ++ (['f'] ++ ([' '] ++ (['('] ++
        ([' '] ++ ([')'] ++ ([' '] ++ (['-'] ++ ([' '] ++ (['x'] ++ ['\n']))))))))))))) := by
    decide
  rw [htext]
  refine .cons ?_ ?_ (.cons ?_ ?_ (.cons ?_ ?_ (.cons ?_ ?_ (.cons ?_ ?_ (.cons ?_ ?_
    (.cons ?_ ?_ (.nil ?_)))))))
  all_goals first
    | exact List.all_eq_true.mp (by decide)
    | exact fun _ => ⟨_, _, rfl, by decide⟩

/-- Differences group to the left. -/
theorem parse_difference :
    (∀ t ∈ differenceTokens, t.Lexical) ∧ (∀ t ∈ differenceTokens, t.InLimit) ∧
      LaidOut differenceTokens "7 -\tf ( ) - x\n".toList ∧
      Expr.parse "7 -\tf ( ) - x\n" = .ok (.binary (.operator .sub)
        (.binary (.operator .sub) (.literal (.number (.int 7)) (some "7"))
          (.call (.variableName "f") []))
        (.variableName "x")) := by
  refine ⟨lexical_difference, inLimit_difference, laidOut_difference, ?_⟩
  have hparse := parse_iff_derives lexical_difference inLimit_difference laidOut_difference
  exact (hparse.1 _).mpr ⟨differenceTree, derives_difference, rfl⟩

end DocScript
