import DocScript.Proofs.Expr.Coercion
import DocScript.Proofs.Expr.Equality

/-! # Indexing

A text and the list of its points have the same member for every key that is not blank: the length,
the point at an index in range, or else no value. A blank key denotes no index of a text, but the
index zero of a list. What is no key is refused in the same words by both.
-/

namespace DocScript

/-- Whether a value denotes an integer as an index: by itself or as a numeral. -/
inductive Value.IsIndex : Value → Int → Prop
  | bool (b : Bool) : IsIndex (.bool b) (if b then 1 else 0)
  | number {n : Number} {i : Int} (h : n.value? = some (.real i)) : IsIndex (.number n) i
  | numeral {s : String} {negative : Bool} {numeral : Numeral} {n : Number} {i : Int}
    (hs : SignedText (Text.trim s.toList) negative numeral) (hn : numeral.value negative = .ok n)
    (h : n.value? = some (.real i)) : IsIndex (.string s) i

/-- Whether a key is a text of nothing but blanks. -/
def Value.IsBlankText (key : Value) : Prop := ∃ s : Points, key = .string s ∧ s.isBlank = true

/-- Whether a key is of a kind that selects members. -/
def Value.IsKey (key : Value) : Prop := key.kind ≠ .undefined ∧ key.kind ≠ .object

/-- The points of a text as a host lists them. -/
def characters (s : Points) : List Value := s.map fun point => .string [point]

/-- What an access to a text comes to for a key. -/
inductive Selects (s : Points) (line : Line) : Value → Result Value → Prop
  | refused {key : Value} (h : ¬key.IsKey) (hw : key.isWritable = true) :
    Selects s line key (.error ((Cause.notIndex indexContext key).failure line))
  /-- The key would be refused in words that cannot be written. -/
  | unwritable {key : Value} (h : ¬key.IsKey) (hw : key.isWritable = false) :
    Selects s line key (.error (.fault .unwritable))
  | length : Selects s line (.string "length") (.ok (.number (.int s.length)))
  | character {key : Value} {i : Nat} {point : Point} (hkey : key.IsIndex i)
    (hc : s[i]? = some point) : Selects s line key (.ok (.string [point]))
  | nothing {key : Value} (h : key.IsKey) (hlength : key ≠ .string "length")
    (hkey : ∀ i : Nat, key.IsIndex i → s.length ≤ i) : Selects s line key (.ok .none)

theorem trim_eq_nil_iff {cs : List Char} : Text.trim cs = [] ↔ cs.all Text.isBlank = true := by
  constructor
  · intro h
    obtain ⟨before, after, hb, ha, he⟩ := exists_trim cs
    rw [h, List.nil_append] at he
    rw [he, List.all_eq_true]
    intro c hc
    rcases List.mem_append.mp hc with hc | hc
    · exact hb c hc
    · exact ha c hc
  · intro h
    have hb : IsBlank cs := List.all_eq_true.mp h
    rw [← List.append_nil cs, trim_blanks_append hb]
    rfl

theorem Points.isBlank_iff {text : Points} :
    text.isBlank = true ↔ ∃ s : String, text = Points.ofString s ∧ Text.trim s.toList = [] := by
  constructor
  · intro h
    induction text with
    | nil => exact ⟨"", rfl, rfl⟩
    | cons point rest ih =>
      obtain ⟨hpoint, hrest⟩ := Bool.and_eq_true_iff.mp h
      obtain ⟨s, rfl, hs⟩ := ih hrest
      cases point with
      | half index => cases hpoint
      | char c =>
        refine ⟨String.ofList (c :: s.toList), ?_, trim_eq_nil_iff.mpr ?_⟩
        · rw [ofString_ofList]
          rfl
        · rw [String.toList_ofList, List.all_cons, trim_eq_nil_iff.mp hs, Bool.and_true]
          exact hpoint
  · rintro ⟨s, rfl, hs⟩
    rw [ofString, isBlank_ofChars, trim_eq_nil_iff.mp hs]

namespace Value

variable {text : Points} {line : Line} {key : Value} {i : Int}

theorem isIndex_number_iff {n : Number} : (Value.number n).IsIndex i ↔ n.toInt? = some i := by
  rw [Number.toInt?_eq_some_iff]
  constructor
  · rintro ⟨h⟩
    assumption
  · exact .number

theorem isIndex_bool_iff {b : Bool} : (Value.bool b).IsIndex i ↔ (ofBool b).toInt? = some i := by
  rw [ofBool, Number.toInt?, Option.some.injEq]
  constructor
  · rintro ⟨⟩
    rfl
  · rintro rfl
    exact .bool b

/-- A text denotes an index as a numeral. -/
theorem isIndex_string {t : String} : (Value.string t).IsIndex i ↔ ∃ negative numeral n,
    SignedText (Text.trim t.toList) negative numeral ∧ numeral.value negative = .ok n ∧
      n.value? = some (.real i) := by
  constructor
  · intro h
    generalize hv : Value.string t = value at h
    cases h with
    | bool | number => cases hv
    | numeral hs hn h =>
      obtain rfl := Points.ofString_inj.mp (Value.string.inj hv)
      exact ⟨_, _, _, hs, hn, h⟩
  · rintro ⟨negative, numeral, n, hs, hn, h⟩
    exact .numeral hs hn h

theorem IsIndex.exists_string (h : (Value.string text).IsIndex i) :
    ∃ s : String, text = Points.ofString s := by
  generalize hv : Value.string text = value at h
  cases h with
  | bool | number => cases hv
  | numeral => exact ⟨_, Value.string.inj hv⟩

/-- A text that is not blank denotes an index as the number that it is taken for. -/
theorem isIndex_string_iff {n : Option Number} (hne : text.isBlank ≠ true)
    (hn : Result.numberOfText? text = .ok n) :
    (Value.string text).IsIndex i ↔ ∃ m, n = some m ∧ m.toInt? = some i := by
  simp only [Number.toInt?_eq_some_iff]
  cases htext : text.string? with
  | none =>
    cases (Result.numberOfText?_of_half htext).symm.trans hn
    refine iff_of_false (fun h => ?_) (by simp)
    obtain ⟨s, rfl⟩ := h.exists_string
    rw [Points.string?_ofString] at htext
    cases htext
  | some t =>
    obtain rfl := Points.string?_eq_some.mp htext
    have hne : Text.trim t.toList ≠ [] := fun h => hne (Points.isBlank_iff.mpr ⟨t, rfl, h⟩)
    rw [isIndex_string]
    by_cases hsigned : ∃ negative numeral, SignedText (Text.trim t.toList) negative numeral
    · obtain ⟨negative, numeral, hs⟩ := hsigned
      cases hv : numeral.value negative with
      | error e =>
        simp only [Result.numberOfText?, htext, numberOfText?_of_signedText hs, hv] at hn
        cases hn
      | ok m =>
        have hm : numberOfText? t = .ok (some m) := by
          rw [numberOfText?_of_signedText hs, hv]
          rfl
        cases (Result.numberOfText?_ofString hm).symm.trans hn
        constructor
        · rintro ⟨negative', numeral', n, hs', hv', h⟩
          have hn := numberOfText?_of_signedText hs'
          rw [hm, hv'] at hn
          cases hn
          exact ⟨_, rfl, h⟩
        · rintro ⟨n, ⟨⟩, h⟩
          exact ⟨_, _, _, hs, hv, h⟩
    · have hnone := numberOfText?_eq_none hne fun negative numeral hs => hsigned ⟨_, _, hs⟩
      cases (Result.numberOfText?_ofString hnone).symm.trans hn
      refine iff_of_false ?_ (by simp)
      rintro ⟨_, _, _, hs, -⟩
      exact hsigned ⟨_, _, hs⟩

/-- A blank text denotes no index. -/
theorem not_isIndex_of_blank (h : text.isBlank = true) : ¬(Value.string text).IsIndex i := by
  obtain ⟨t, rfl, ht⟩ := Points.isBlank_iff.mp h
  rw [isIndex_string]
  rintro ⟨negative, numeral, n, hs, -, -⟩
  rw [ht] at hs
  obtain ⟨-, hnil⟩ := signedText_iff.mp hs
  cases hnil

end Value

section Items

variable {α : Type} {items : List α} {n : Number} {s : Points}

theorem itemAt?_eq_some_iff {item : α} :
    itemAt? items n = some item ↔ ∃ i : Nat, n.toInt? = some i ∧ items[i]? = some item := by
  unfold itemAt?
  split
  · rename_i i h
    simp [h]
  · rename_i h
    simp only [reduceCtorEq, false_iff, not_exists, not_and]
    intro i hi
    exact absurd hi (h i)

theorem itemAt?_map {β : Type} (f : α → β) :
    itemAt? (items.map f) n = (itemAt? items n).map f := by
  unfold itemAt?
  split <;> simp

theorem getD_itemAt?_characters :
    (itemAt? (characters s) n).getD .none = Value.pointMember.pick (itemAt? s n) := by
  rw [characters, itemAt?_map]
  cases itemAt? s n <;> rfl

end Items

section Access

variable {s : Points} {line : Line} {key : Value}

/-- What a number picks from a text is the point at the index that a key denotes, if the number
is the one that the key is taken for. -/
theorem selects_pick {n : Option Number} (hkey : key.IsKey) (hlength : key ≠ .string "length")
    (hi : ∀ i : Int, key.IsIndex i ↔ ∃ m, n = some m ∧ m.toInt? = some i) :
    Selects s line key (.ok (Value.pointMember.pick (n.bind (itemAt? s)))) := by
  cases hc : n.bind (itemAt? s) with
  | some point =>
    obtain ⟨m, hm, hc⟩ := Option.bind_eq_some_iff.mp hc
    obtain ⟨i, hmi, hc⟩ := itemAt?_eq_some_iff.mp hc
    exact .character ((hi i).mpr ⟨m, hm, hmi⟩) hc
  | none =>
    refine .nothing hkey hlength fun i hindex => ?_
    obtain ⟨m, rfl, hmi⟩ := (hi i).mp hindex
    rw [← List.getElem?_eq_none_iff, Option.eq_none_iff_forall_ne_some]
    intro point hget
    cases hc.symm.trans (itemAt?_eq_some_iff.mpr ⟨i, hmi, hget⟩)

/-- The member of a value that a key of any kind selects. -/
def Value.access (object key : Value) (line : Line) : Result Value := do
  object.member (← key.expectKey indexContext line)

theorem selects_refused (h : ¬key.IsKey) :
    Selects s line key (.error (key.refused (.notIndex indexContext key) line)) := by
  cases hw : key.isWritable with
  | true =>
    rw [Value.refused_of_isWritable hw]
    exact .refused h hw
  | false =>
    rw [Value.refused_of_not_isWritable hw]
    exact .unwritable h hw

theorem selects_text (h : key.InLimit) : Selects s line key ((Value.string s).access key line) := by
  cases key with
  | none | list | record => exact selects_refused (by simp [Value.IsKey, Value.kind])
  | bool b =>
    exact selects_pick (n := some (Value.ofBool b)) (by simp [Value.IsKey, Value.kind]) (by simp)
      fun i => by simp [Value.isIndex_bool_iff]
  | number n =>
    exact selects_pick (n := some n) (by simp [Value.IsKey, Value.kind]) (by simp)
      fun i => by simp [Value.isIndex_number_iff]
  | string t =>
    have hkey : (Value.string t).IsKey := by simp [Value.IsKey, Value.kind]
    show Selects s line _ (Value.pointMember s (.text t))
    unfold Value.pointMember
    dsimp only
    split_ifs with hlength hblank
    · subst hlength
      exact .length
    · exact .nothing hkey (fun he => hlength (Value.string.inj he)) fun i hi =>
        absurd hi (Value.not_isIndex_of_blank hblank)
    · obtain ⟨n, hn⟩ := h.exists_numberOfText?
      rw [hn]
      exact selects_pick hkey (fun he => hlength (Value.string.inj he))
        fun i => Value.isIndex_string_iff hblank hn

variable {identity : Nat}

/-- A key that is not blank selects the same of the characters as of the text. -/
theorem access_characters (h : ¬key.IsBlankText) :
    (Value.list identity (characters s)).access key line = (Value.string s).access key line := by
  have hpick (n : Number) : Value.itemMember (characters s) (.number n) =
      Value.pointMember s (.number n) := congrArg Except.ok getD_itemAt?_characters
  cases key with
  | none | list | record => rfl
  | bool b => exact hpick (Value.ofBool b)
  | number n => exact hpick n
  | string t =>
    have hblank : t.isBlank ≠ true := fun ht => h ⟨t, rfl, ht⟩
    show Value.itemMember (characters s) (.text t) = Value.pointMember s (.text t)
    unfold Value.itemMember Value.pointMember
    simp only [if_neg hblank, characters, List.length_map]
    split_ifs
    · rfl
    · congr 1
      funext n
      cases n with
      | none => rfl
      | some n => exact getD_itemAt?_characters

theorem ne_length_of_blank {t : Points} (h : t.isBlank = true) : t ≠ Value.lengthName := by
  rintro rfl
  revert h
  decide +kernel

theorem access_text_of_blank (h : key.IsBlankText) :
    (Value.string s).access key line = .ok .none := by
  obtain ⟨t, rfl, ht⟩ := h
  show Value.pointMember s (.text t) = _
  simp only [Value.pointMember, if_neg (ne_length_of_blank ht), if_pos ht]

theorem access_characters_of_blank (h : key.IsBlankText) :
    (Value.list identity (characters s)).access key line =
      .ok ((characters s).head?.getD .none) := by
  obtain ⟨text, rfl, hblank⟩ := h
  obtain ⟨t, rfl, ht⟩ := Points.isBlank_iff.mp hblank
  have hzero : numberOfText? t = .ok (some (.int 0)) := by
    unfold numberOfText?
    rw [ht]
  show Value.itemMember (characters s) (.text t) = _
  simp only [Value.itemMember, if_neg (ne_length_of_blank hblank),
    Result.numberOfText?_ofString hzero, List.head?_eq_getElem?]
  rfl

theorem Expr.eval_index {lookup : String → Value} {object index : Expr} {value : Value}
    (ho : object.eval lookup line = .ok value) (hi : index.eval lookup line = .ok key) :
    (Expr.index object index).eval lookup line = value.access key line := by
  rw [Expr.eval, ho, hi]
  rfl

/-- A text gives for a key its length, the point at the index that the key denotes, no value if it
denotes none in range, or an error if no key is of that kind, which is a fault if the key cannot be
written. The list of its points gives the same, but for a blank key the first point of a text that
has one. -/
theorem index_alike_unless_blank {lookup : String → Value} {text list index : Expr}
    (ht : text.eval lookup line = .ok (.string s))
    (hl : list.eval lookup line = .ok (.list identity (characters s)))
    (hi : index.eval lookup line = .ok key) (h : key.InLimit) :
    let ofText := (Expr.index text index).eval lookup line
    let ofList := (Expr.index list index).eval lookup line
    Selects s line key ofText ∧ (ofList = ofText ↔ ¬(key.IsBlankText ∧ s ≠ [])) ∧
      (key.IsBlankText → ofList = .ok ((characters s).head?.getD .none)) := by
  intro ofText ofList
  have htext : ofText = (Value.string s).access key line := Expr.eval_index ht hi
  have hlist : ofList = (Value.list identity (characters s)).access key line :=
    Expr.eval_index hl hi
  rw [htext, hlist]
  refine ⟨selects_text h, ?_, access_characters_of_blank⟩
  by_cases hblank : key.IsBlankText
  · rw [access_characters_of_blank hblank, access_text_of_blank hblank, characters]
    cases s <;> simp [hblank]
  · simp [access_characters hblank, hblank]

/-- The digits of an index select what the index selects. -/
theorem index_alike_numeral :
    let lookup (name : String) : Value :=
      if name = "s" then .string "ab" else .list 0 (characters "ab")
    let index : Expr := .literal (.string "1") (some "'1'")
    (Expr.variableName "s").eval lookup none = .ok (.string "ab") ∧
      (Expr.variableName "l").eval lookup none = .ok (.list 0 (characters "ab")) ∧
      index.eval lookup none = .ok (.string "1") ∧ (Value.string "1").InLimit ∧
      (Expr.index (.variableName "s") index).eval lookup none = .ok (.string "b") ∧
      (Expr.index (.variableName "l") index).eval lookup none = .ok (.string "b") := by
  intro lookup index
  have ht : (Expr.variableName "s").eval lookup none = .ok (.string "ab") := rfl
  have hl : (Expr.variableName "l").eval lookup none = .ok (.list 0 (characters "ab")) := rfl
  have hi : index.eval lookup none = .ok (.string "1") := by rw [Expr.eval]
  have hblank : ¬((Value.string "1").IsBlankText ∧ Points.ofString "ab" ≠ []) := by
    rintro ⟨⟨s, ⟨⟩, hs⟩, -⟩
    revert hs
    decide +kernel
  have htext : (Expr.index (.variableName "s") index).eval lookup none = .ok (.string "b") := rfl
  obtain ⟨-, halike, -⟩ := index_alike_unless_blank ht hl hi Value.inLimit_one
  exact ⟨ht, hl, hi, Value.inLimit_one, htext, (halike.mpr hblank).trans htext⟩

/-- A blank denotes no index, and selects nothing of a text, but the first character of a list. -/
theorem blank_index_of_characters :
    let lookup (name : String) : Value :=
      if name = "s" then .string "ab" else .list 0 (characters "ab")
    let index : Expr := .literal (.string " ") (some "' '")
    (∀ i, ¬(Value.string " ").IsIndex i) ∧
      (Expr.index (.variableName "s") index).eval lookup none = .ok .none ∧
      (Expr.index (.variableName "l") index).eval lookup none = .ok (.string "a") :=
  ⟨fun _ => Value.not_isIndex_of_blank (by decide +kernel), rfl, rfl⟩

end Access

end DocScript
