import DocScript.Expr.Eval
import DocScript.Proofs.Expr.Reads
import DocScript.Proofs.Text.Points

/-! # String literals

Every text can be written between quotes, with a backslash before each backslash and each quote of
the same kind. What else may stand between two quotes is made of pieces, and the literal stands for
what they denote in turn.
-/

namespace DocScript

variable {quote c : Char} {body rest digits : List Char} {value : Points}

/-- Whether a text goes on with the four digits of a code. -/
def StartsWithCode (text : List Char) : Prop :=
  ∃ digits rest, text = digits ++ rest ∧ digits.length = 4 ∧
    ∀ c ∈ digits, (Text.hexValue? c).isSome

/-- What the text between two quotes stands for, piece by piece: a character for itself, four digits
behind `\u` for the point of that code, and any other character behind a backslash for the control
character that is written with it, or else for itself. -/
inductive StandsFor (quote : Char) : List Char → Points → Prop
  | nil : StandsFor quote [] []
  | plain {c : Char} {rest : List Char} {value : Points} (hquote : c ≠ quote) (hescape : c ≠ '\\')
    (h : StandsFor quote rest value) : StandsFor quote (c :: rest) (.char c :: value)
  | code {point : Point} {digits rest : List Char} {value : Points} (hlength : digits.length = 4)
    (hcode : Text.hexNumber? digits = some point.code) (h : StandsFor quote rest value) :
    StandsFor quote ('\\' :: 'u' :: (digits ++ rest)) (point :: value)
  | escaped {c : Char} {rest : List Char} {value : Points} (hc : c ≠ '\n')
    (hcode : c = 'u' → ¬StartsWithCode rest) (h : StandsFor quote rest value) :
    StandsFor quote ('\\' :: c :: rest) (.char (controlOf c) :: value)

/-- A text with a backslash before each backslash and each quote. -/
def guarded (quote : Char) (text : List Char) : List Char :=
  text.flatMap fun c => if c = quote ∨ c = '\\' then ['\\', c] else [c]

/-- A text between quotes. -/
def literalText (quote : Char) (body : List Char) : String :=
  String.ofList (quote :: (body ++ [quote]))

/-- Whether a text is read as a literal that stands for another text, and is evaluated to it. -/
def IsLiteralOf (source : String) (text : Points) : Prop :=
  Expr.parse source = .ok (.literal (.string text) (some source)) ∧
    ∀ lookup line, (Expr.literal (.string text) (some source)).eval lookup line = .ok (.string text)

/-! ## Codes -/

theorem isSome_foldlM_hexValue? (n : Nat) :
    (digits.foldlM (fun n c => (Text.hexValue? c).map (n * 16 + ·)) n).isSome ↔
      ∀ c ∈ digits, (Text.hexValue? c).isSome := by
  induction digits generalizing n with
  | nil => simp
  | cons c digits ih =>
    rw [List.foldlM_cons, List.forall_mem_cons]
    cases Text.hexValue? c with
    | none => simp
    | some d => simpa using ih (n * 16 + d)

theorem isSome_hexNumber? :
    (Text.hexNumber? digits).isSome ↔ ∀ c ∈ digits, (Text.hexValue? c).isSome :=
  isSome_foldlM_hexValue? 0

theorem StartsWithCode.of_isSome {a b d e : Char} (h : (pointOfCode? a b d e).isSome)
    (rest : List Char) : StartsWithCode (a :: b :: d :: e :: rest) := by
  rw [pointOfCode?, Option.isSome_map] at h
  exact ⟨[a, b, d, e], rest, rfl, rfl, isSome_hexNumber?.mp h⟩

/-! ## Reading a literal -/

theorem unescapeChars_plain (h : c ≠ '\\') :
    unescapeChars (c :: rest) = .char c :: unescapeChars rest := by
  rw [unescapeChars]
  · exact fun _ _ _ _ _ hc _ => h hc
  · exact fun _ _ hc _ => h hc

theorem unescapeChars_code {n : Nat} (hlength : digits.length = 4)
    (hcode : Text.hexNumber? digits = some n) :
    unescapeChars ('\\' :: 'u' :: (digits ++ rest)) = Point.ofCode n :: unescapeChars rest := by
  match digits, hlength with
  | [a, b, d, e], _ =>
    have hpoint : pointOfCode? a b d e = some (.ofCode n) := by rw [pointOfCode?, hcode]; rfl
    simp only [List.cons_append, List.nil_append]
    rw [unescapeChars, hpoint]

theorem unescapeChars_escaped (hcode : c = 'u' → ¬StartsWithCode rest) :
    unescapeChars ('\\' :: c :: rest) = .char (controlOf c) :: unescapeChars rest := by
  by_cases hfour : c = 'u' ∧ ∃ a b d e more, rest = a :: b :: d :: e :: more
  · obtain ⟨rfl, a, b, d, e, more, rfl⟩ := hfour
    have hnone : pointOfCode? a b d e = none := by
      rw [← Option.not_isSome_iff_eq_none]
      exact fun h => hcode rfl (.of_isSome h more)
    rw [unescapeChars, hnone]
    rfl
  · rw [unescapeChars]
    intro a b d e more hc hrest
    exact hfour ⟨hc, a, b, d, e, more, hrest⟩

/-- A body is decoded to what it stands for. -/
theorem StandsFor.unescapeChars (h : StandsFor quote body value) :
    unescapeChars body = value := by
  induction h with
  | nil => rfl
  | plain _ hescape _ ih => rw [unescapeChars_plain hescape, ih]
  | code hlength hcode _ ih => rw [unescapeChars_code hlength hcode, ih, Point.ofCode_code]
  | escaped _ hcode _ ih => rw [unescapeChars_escaped hcode, ih]

theorem StringBody.append_of_hex (hquote : Text.hexValue? quote = none)
    (hdigits : ∀ c ∈ digits, (Text.hexValue? c).isSome) (h : StringBody quote rest) :
    StringBody quote (digits ++ rest) := by
  induction digits with
  | nil => exact h
  | cons c digits ih =>
    obtain ⟨hc, hdigits⟩ := List.forall_mem_cons.mp hdigits
    have hne {d : Char} (hd : Text.hexValue? d = none) : c ≠ d := by
      rintro rfl
      simp [hd] at hc
    exact .plain (hne hquote) (hne (by decide)) (ih hdigits)

/-- A body ends nowhere before its closing quote. -/
theorem StandsFor.stringBody (hquote : Text.hexValue? quote = none)
    (h : StandsFor quote body value) : StringBody quote body := by
  induction h with
  | nil => exact .nil
  | plain hc hescape _ ih => exact .plain hc hescape ih
  | code _ hcode _ ih =>
    have hdigits := isSome_hexNumber?.mp (Option.isSome_of_mem hcode)
    exact .escaped (by decide) (.append_of_hex hquote hdigits ih)
  | escaped hc _ _ ih => exact .escaped hc ih

theorem standsFor_guarded (hquote : quote = '"' ∨ quote = Text.singleQuote) (text : List Char) :
    StandsFor quote (guarded quote text) (Points.ofChars text) := by
  induction text with
  | nil => exact .nil
  | cons c text ih =>
    rw [guarded, List.flatMap_cons]
    split
    · rename_i hc
      have hself : controlOf c = c ∧ c ≠ '\n' ∧ c ≠ 'u' := by
        rcases hquote with rfl | rfl <;> rcases hc with rfl | rfl <;> decide
      obtain ⟨hself, hline, hcode⟩ := hself
      have h := StandsFor.escaped hline (fun hu => absurd hu hcode) ih
      rwa [hself] at h
    · rename_i hc
      obtain ⟨hne, hescape⟩ := not_or.mp hc
      exact .plain hne hescape ih

theorem isLiteralOf_of_standsFor (hquote : quote = '"' ∨ quote = Text.singleQuote)
    (h : StandsFor quote body value) :
    IsLiteralOf (literalText quote body) value := by
  have hquote' : Text.hexValue? quote = none ∧ Text.isBlank quote = false := by
    rcases hquote with rfl | rfl <;> decide
  obtain ⟨hhex, hblank⟩ := hquote'
  have htake : Token.take? .operand (literalText quote body).toList =
      some (.string (String.ofList body) (literalText quote body), []) := by
    rw [literalText, String.toList_ofList]
    exact take?_word (takeWord?_string hquote (h.stringBody hhex) []) nofun
  have hdrop : (literalText quote body).toList.dropWhile Text.isBlank =
      (literalText quote body).toList := by
    rw [literalText, String.toList_ofList, List.dropWhile_cons, hblank]
    rfl
  have hvalue : unescape (String.ofList body) = value := by
    rw [unescape, String.toList_ofList, h.unescapeChars]
  refine ⟨Expr.parse_eq_ok_iff.mpr ?_, fun _ _ => rfl⟩
  rw [← hvalue]
  exact .token (hdrop ▸ htake) rfl (.ends rfl rfl)

/-- Every text is written as a literal by guarding it, and what may stand between two quotes is
read, piece by piece, as what it stands for. -/
theorem literals_stand_for (hquote : quote = '"' ∨ quote = Text.singleQuote) :
    (∀ s : String, IsLiteralOf (literalText quote (guarded quote s.toList)) s) ∧
      ∀ body value, StandsFor quote body value → IsLiteralOf (literalText quote body) value :=
  ⟨fun s => isLiteralOf_of_standsFor hquote (standsFor_guarded hquote s.toList),
    fun _ _ h => isLiteralOf_of_standsFor hquote h⟩

/-- The last code lacks a digit, so it is the letter behind a backslash, and the other quote needs
none. -/
theorem literal_stands_for_pieces :
    IsLiteralOf (literalText '"' "\\u00e9'\\n\\q\\u00g9".toList) "é'\nqu00g9" := by
  have hcode : ¬StartsWithCode "00g9".toList := by
    rintro ⟨digits, rest, htext, hlength, hdigits⟩
    obtain rfl : digits = "00g9".toList := by
      have := congrArg (List.take 4) htext
      rw [List.take_left' hlength] at this
      exact this.symm
    exact absurd (hdigits 'g' (by decide)) (by decide)
  have hrest : StandsFor '"' "00g9".toList (Points.ofString "00g9") := by
    repeat' refine .plain (by decide) (by decide) ?_
    exact .nil
  have hacute : Text.hexNumber? "00e9".toList = some (Point.char 'é').code := rfl
  have hpieces : StandsFor '"' "\\u00e9'\\n\\q\\u00g9".toList (Points.ofString "é'\nqu00g9") := by
    refine StandsFor.code rfl hacute (.plain (by decide) (by decide) ?_)
    refine .escaped (by decide) (fun h => absurd h (by decide)) ?_
    refine .escaped (by decide) (fun h => absurd h (by decide)) ?_
    exact .escaped (by decide) (fun _ => hcode) hrest
  exact (literals_stand_for (.inl rfl)).2 _ _ hpieces

end DocScript
