import DocScript.Proofs.Expr.Reads
import DocScript.Proofs.Expr.Taking

/-! # Words as names

An expression that is one word is a variable of that name if the word begins as names do and stands
for no value. Any other word is read as a literal, if at all.
-/

namespace DocScript

variable {c : Char} {text name : String} {cs left : List Char}

/-- Whether all characters of a text belong to words, and there are some. -/
def IsWord (cs : List Char) : Prop := cs ≠ [] ∧ ∀ c ∈ cs, Text.isWord c

theorem not_isWord_of_symbol (h : c ∈ symbolChars) : Text.isWord c = false := by
  have hall : (symbolChars.all fun c => !Text.isWord c) = true := by decide +kernel
  simpa using List.all_eq_true.mp hall c h

theorem not_isWord_of_quote (h : c = '"' ∨ c = Text.singleQuote) : Text.isWord c = false := by
  rcases h with rfl | rfl <;> decide +kernel

theorem not_isBlank_of_isWord (h : Text.isWord c) : Text.isBlank c = false := by
  cases hblank : Text.isBlank c with
  | false => rfl
  | true =>
    have hc := continuesName_of_isBlank hblank
    rw [continuesName, h] at hc
    cases hc

theorem dropWhile_isBlank_of_isWord (h : ∀ c ∈ cs, Text.isWord c) :
    cs.dropWhile Text.isBlank = cs := by
  cases cs with
  | nil => rfl
  | cons c rest => simp [not_isBlank_of_isWord (h c List.mem_cons_self)]

/-- The words that stand for values. -/
def keywords : List String := ["true", "false", "null"]

/-- Whether a word is read as a variable: it begins as names do and stands for no value. -/
def isReadable (name : String) : Bool := name.toList.head?.any startsName && name ∉ keywords

namespace Expr

theorem ofName_of_mem_keywords (h : name ∈ keywords) :
    ∃ value source, ofName name = .literal value source := by
  simp only [keywords, List.mem_cons, List.not_mem_nil, or_false] at h
  rcases h with rfl | rfl | rfl <;> exact ⟨_, _, rfl⟩

theorem ofName_of_notMem_keywords (h : name ∉ keywords) : ofName name = .variableName name := by
  simp only [keywords, List.mem_cons, List.not_mem_nil, or_false, not_or] at h
  rw [ofName, if_neg h.1, if_neg h.2.1, if_neg h.2.2]

theorem ofNumeral_eq_ok {numeral : Numeral} {source : String} {e : Expr}
    (h : ofNumeral numeral source = .ok e) : ∃ value source, e = .literal value source := by
  unfold ofNumeral at h
  cases hv : numeral.value false with
  | error failure =>
    rw [hv] at h
    cases h
  | ok n =>
    rw [hv] at h
    cases h
    exact ⟨_, _, rfl⟩

/-- Within a word, nothing follows an operand, for what does is a symbol. -/
theorem eq_of_reads_operator {found : Except TooManyDigits Expr} {e : Expr}
    (hw : ∀ c ∈ left, Text.isWord c) (h : Reads (.operator [] found) left e) :
    left = [] ∧ found = .ok e := by
  cases h with
  | ends hrest hfinish =>
    obtain ⟨openings, found, he, hs⟩ := Place.finish?_eq_ok hfinish
    cases he
    rw [dropWhile_isBlank_of_isWord hw] at hrest
    cases hs
    exact ⟨hrest, rfl⟩
  | @token _ next _ _ t _ htake hnext =>
    rw [dropWhile_isBlank_of_isWord hw] at htake
    obtain ⟨-, rfl⟩ := lexical_of_take? htake
    obtain ⟨s, rfl⟩ : ∃ s, t = .symbol s := by
      cases t with
      | symbol s => exact ⟨s, rfl⟩
      | name | number | string => cases hnext
    obtain ⟨c, cs, htext, hc, -⟩ := s.text_eq_cons
    have hmem : c ∈ (Token.symbol s).text.toList := by
      rw [Token.text, htext]
      exact List.mem_cons_self
    have hword := hw c (List.mem_append_left _ hmem)
    rw [not_isWord_of_symbol hc] at hword
    cases hword

/-- A word that begins as names do is one token. -/
theorem take?_word_name {rest : List Char} (hc : startsName c) (hw : ∀ d ∈ rest, Text.isWord d) :
    Token.take? .operand (c :: rest) = some (.name (String.ofList (c :: rest)), []) := by
  have hd : ∀ d ∈ rest, continuesName d := fun d hd => by rw [continuesName, hw d hd]; rfl
  have ht := @takeWord?_name c rest [] hc hd nofun
  rw [List.append_nil] at ht
  exact take?_word ht nofun

theorem parse_of_startsName (hw : IsWord text.toList)
    (hc : text.toList.head?.any startsName = true) : parse text = .ok (ofName text) := by
  obtain ⟨c, rest, ht⟩ := List.exists_cons_of_ne_nil hw.1
  have htake :
      Token.take? .operand (text.toList.dropWhile Text.isBlank) = some (.name text, []) := by
    rw [dropWhile_isBlank_of_isWord hw.2, ← @String.ofList_toList text, String.toList_ofList]
    rw [ht] at hw hc ⊢
    exact take?_word_name hc fun d hd => hw.2 d (List.mem_cons_of_mem c hd)
  rw [parse_eq_ok_iff]
  exact .token htake rfl (.ends rfl rfl)

theorem literal_of_parse {e : Expr} (hw : IsWord text.toList)
    (hc : text.toList.head?.any startsName = false) (h : parse text = .ok e) :
    ∃ value source, e = .literal value source := by
  rw [parse_eq_ok_iff] at h
  cases h with
  | ends _ hfinish => cases hfinish
  | @token _ next _ left t _ htake hnext hleft =>
    rw [dropWhile_isBlank_of_isWord hw.2] at htake
    obtain ⟨hlexical, ht⟩ := lexical_of_take? htake
    have hl : ∀ c ∈ left, Text.isWord c := fun c hc =>
      hw.2 c (by rw [ht]; exact List.mem_append_right _ hc)
    cases hlexical with
    | name hname =>
      obtain ⟨c, cs, hn, hstarts, -⟩ := hname
      rw [ht, Token.text, hn] at hc
      rw [List.cons_append, List.head?_cons, Option.any_some, hstarts] at hc
      cases hc
    | @number source numeral _ =>
      cases hnext
      exact ofNumeral_eq_ok (eq_of_reads_operator hl hleft).2
    | string hquote _ hsource =>
      have hword := hw.2 _ (by rw [ht, Token.text, hsource]; exact List.mem_cons_self)
      rw [not_isWord_of_quote hquote] at hword
      cases hword
    | symbol s =>
      obtain ⟨c, cs, htext, hc, -⟩ := s.text_eq_cons
      have hword := hw.2 c (by rw [ht, Token.text, htext]; exact List.mem_cons_self)
      rw [not_isWord_of_symbol hc] at hword
      cases hword

/-- What a word is read as: the variable of its name, or a literal. -/
theorem parse_word {e : Expr} (hw : IsWord name.toList) (h : parse name = .ok e) :
    if isReadable name then e = .variableName name
    else ∃ value source, e = .literal value source := by
  unfold isReadable
  cases hc : name.toList.head?.any startsName with
  | false => exact literal_of_parse hw hc h
  | true =>
    rw [parse_of_startsName hw hc] at h
    cases h
    by_cases hk : name ∈ keywords
    · simpa [hk] using ofName_of_mem_keywords hk
    · simpa [hk] using ofName_of_notMem_keywords hk

/-- A word is read as the variable of its name if and only if it begins as names do and stands for
no value. -/
theorem parse_word_iff (hw : IsWord name.toList) :
    parse name = .ok (.variableName name) ↔ isReadable name = true := by
  constructor
  · intro h
    by_contra hn
    obtain ⟨value, source, he⟩ := (if_neg hn).mp (parse_word hw h)
    cases he
  · intro h
    obtain ⟨hc, hk⟩ := Bool.and_eq_true_iff.mp h
    rw [parse_of_startsName hw hc, ofName_of_notMem_keywords (of_decide_eq_true hk)]

end Expr

end DocScript
