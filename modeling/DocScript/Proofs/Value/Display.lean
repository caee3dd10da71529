import DocScript.Proofs.Number.ReadBack
import DocScript.Proofs.Text.Quoted
import DocScript.Value.Text

/-! # Lists are shown apart

The text of an item tells its kind by its first character and ends where it ends, whatever text it
holds. So lists that are shown alike have the same items.
-/

namespace DocScript

theorem joinWith_cons {α : Type} (separator part : List α) (parts : List (List α)) :
    joinWith separator (part :: parts) = part ++ parts.flatMap (separator ++ ·) := by
  induction parts generalizing part with
  | nil => simp [joinWith]
  | cons other parts ih =>
    have hj : joinWith separator (part :: other :: parts) =
      part ++ separator ++ joinWith separator (other :: parts) := rfl
    rw [hj, ih, List.flatMap_cons, List.append_assoc, List.append_assoc]

theorem joinWith_eq_intercalate {α : Type} (separator : List α) (parts : List (List α)) :
    joinWith separator parts = separator.intercalate parts := by
  fun_induction joinWith with
  | case1 => rfl
  | case2 part => rw [List.intercalate_singleton]
  | case3 part rest hne ih => rw [ih, List.intercalate_cons_of_ne_nil hne, List.append_assoc]

theorem joinWith_map {α β : Type} (f : α → β) (separator : List α) (parts : List (List α)) :
    joinWith (separator.map f) (parts.map (List.map f)) = (joinWith separator parts).map f := by
  cases parts with
  | nil => rfl
  | cons part parts =>
    rw [List.map_cons, joinWith_cons, joinWith_cons, List.map_append, List.map_flatMap,
      List.flatMap_map]
    simp only [List.map_append]

/-- Whether a text is at its end, or goes on with a comma or with the end of a list. -/
def Parted (rest : List Char) : Prop := ∀ c, rest.head? = some c → c = ',' ∨ c = ']'

theorem Parted.digitValue? {rest : List Char} (h : Parted rest) {c : Char}
    (hc : rest.head? = some c) : Text.digitValue? c = none := by
  rcases h c hc with rfl | rfl <;> decide

/-- An integer is read off its digits, and what follows them is left. -/
theorem exists_takeDigits_intChars (n : Int) {rest : List Char} (hr : Parted rest) :
    ∃ ds, takeDigits (takeSign (intChars n ++ rest)).2 = (ds, rest) ∧
      signed (takeSign (intChars n ++ rest)).1 (natOfDigits ds) = n := by
  obtain ⟨ds, hds, hne, hn⟩ := exists_digits n.natAbs
  have hdigits := takeDigits_append hds fun c => hr.digitValue?
  have hsigned := signed_natAbs n
  rw [← hn] at hsigned
  refine ⟨ds, ?_⟩
  unfold intChars
  split
  · rw [decide_eq_true ‹_›] at hsigned
    exact ⟨hdigits, hsigned⟩
  · rw [decide_eq_false ‹_›] at hsigned
    rw [takeSign_digits hds hne]
    exact ⟨hdigits, hsigned⟩

theorem intChars_append_inj {m n : Int} {rest rest' : List Char} (hr : Parted rest)
    (hr' : Parted rest') (h : intChars m ++ rest = intChars n ++ rest') : m = n ∧ rest = rest' := by
  obtain ⟨ds, hdigits, hm⟩ := exists_takeDigits_intChars m hr
  obtain ⟨ds', hdigits', hn⟩ := exists_takeDigits_intChars n hr'
  rw [h] at hdigits hm
  obtain ⟨rfl, rfl⟩ := Prod.mk.inj (hdigits.symm.trans hdigits')
  exact ⟨hm.symm.trans hn, rfl⟩

namespace Value

/-- Built from lists, texts, integers, booleans and no value. -/
inductive IsPlain : Value → Prop
  | none : IsPlain .none
  | bool (b : Bool) : IsPlain (.bool b)
  | integer (n : Int) : IsPlain (.number (.int n))
  | string (s : Points) : IsPlain (.string s)
  | list {identity : Nat} {items : List Value} (h : ∀ item ∈ items, IsPlain item) :
    IsPlain (.list identity items)

/-- Whether two plain values are of one kind and equal, lists item by item. -/
inductive Alike : Value → Value → Prop
  | none : Alike .none .none
  | bool (b : Bool) : Alike (.bool b) (.bool b)
  | integer (n : Int) : Alike (.number (.int n)) (.number (.int n))
  | string (s : Points) : Alike (.string s) (.string s)
  | list {i j : Nat} {items items' : List Value} (h : List.Forall₂ Alike items items') :
    Alike (.list i items) (.list j items')

/-- A value as it is shown inside a list. -/
def shownInside : Value → Points
  | .string s => Points.ofString (Text.quoted s)
  | value => value.display

variable {a b : Value} {items items' : List Value} {rest rest' : List Char}

/-! ## The texts of items -/

/-- The characters of the text of an item of a list. -/
def itemChars (item : Value) : List Char := (shownInside item).filterMap Point.char?

theorem itemChars_eq {item : Value} {cs : List Char} (h : shownInside item = Points.ofChars cs) :
    itemChars item = cs := by
  rw [itemChars, h, Points.ofChars, List.filterMap_map]
  exact List.filterMap_some

theorem itemChars_integer (n : Int) : itemChars (.number (.int n)) = intChars n := itemChars_eq rfl

theorem itemChars_string (s : Points) : itemChars (.string s) = Text.quoteChars s :=
  itemChars_eq (Points.ofString_ofList _)

theorem layout_inside (item : Value) : layout indentWidth 0 true item = shownInside item := by
  cases item with
  | string s => rw [shownInside, Text.quoted, Points.ofString_ofList, layout, if_pos rfl]
  | record _ fields => cases fields <;> rfl
  | none | bool | number | list => rfl

theorem layoutItems_eq_map (width level : Int) (items : List Value) :
    layoutItems width level items = items.map (layout width level true) := by
  induction items with
  | nil => rfl
  | cons item rest ih => exact congrArg (layout width level true item :: ·) ih

theorem layout_list (width level : Int) (nested : Bool) (i : Nat) (items : List Value) :
    layout width level nested (.list i items) =
      .char '[' :: joinWith (Points.ofString ", ") (items.map (layout width (level + 1) true)) ++
        [.char ']'] :=
  congrArg (fun texts => .char '[' :: joinWith (Points.ofString ", ") texts ++ [.char ']'])
    (layoutItems_eq_map width (level + 1) items)

/-- The characters of a list with some items. -/
def listChars (items : List Value) : List Char :=
  '[' :: joinWith ", ".toList (items.map itemChars) ++ [']']

theorem layout_list_of_items {width level : Int}
    (h : ∀ item ∈ items, layout width (level + 1) true item = Points.ofChars (itemChars item))
    (nested : Bool) (i : Nat) :
    layout width level nested (.list i items) = Points.ofChars (listChars items) := by
  have hjoin := joinWith_map Point.char ", ".toList (items.map itemChars)
  rw [List.map_map] at hjoin
  rw [layout_list, List.map_congr_left h, listChars, Points.ofChars_append, Points.ofChars_cons,
    Points.ofChars, ← hjoin]
  rfl

/-- Neither the width nor the level shows in the text of an item, which is made of characters. -/
theorem IsPlain.layout_eq (h : a.IsPlain) (width level : Int) :
    layout width level true a = Points.ofChars (itemChars a) := by
  induction h generalizing width level with
  | none =>
    have hatom : itemChars .none = Value.none.atomChars := itemChars_eq rfl
    rw [hatom]
    rfl
  | bool b =>
    have hatom : itemChars (.bool b) = (Value.bool b).atomChars := itemChars_eq rfl
    rw [hatom]
    rfl
  | integer n =>
    rw [itemChars_integer]
    rfl
  | string s =>
    rw [itemChars_string, layout, if_pos rfl]
  | @list i items _ ih =>
    have hinside := layout_list_of_items (fun item hi => ih item hi indentWidth (0 + 1)) true i
    rw [layout_list_of_items fun item hi => ih item hi width (level + 1),
      itemChars_eq ((layout_inside _).symm.trans hinside)]

theorem IsPlain.shownInside_eq (h : a.IsPlain) : shownInside a = Points.ofChars (itemChars a) := by
  rw [← layout_inside, h.layout_eq]

theorem itemChars_list (h : ∀ item ∈ items, item.IsPlain) (i : Nat) :
    itemChars (.list i items) = listChars items :=
  itemChars_eq (layout_list_of_items (fun item hi => (h item hi).layout_eq indentWidth _) true i)

theorem displayAt_eq_listChars (h : ∀ item ∈ items, item.IsPlain) (width level : Int) (i : Nat) :
    (Value.list i items).displayAt width level = Points.ofChars (listChars items) :=
  layout_list_of_items (fun item hi => (h item hi).layout_eq width _) false i

/-- A list is shown as its items between brackets. -/
theorem displayAt_list (h : ∀ item ∈ items, item.IsPlain) (width level : Int) (i : Nat) :
    (Value.list i items).displayAt width level =
      Points.ofString "[" ++ (Points.ofString ", ").intercalate (items.map shownInside) ++
        Points.ofString "]" := by
  have hitems : items.map (layout width (level + 1) true) = items.map shownInside :=
    List.map_congr_left fun item hi => by rw [(h item hi).layout_eq, (h item hi).shownInside_eq]
  rw [displayAt, layout_list, hitems, joinWith_eq_intercalate]
  rfl

/-- What follows the text of an item in a list: the items behind it, the end of the list and the
text behind that. -/
def behind (items : List Value) (rest : List Char) : List Char :=
  items.flatMap (", ".toList ++ itemChars ·) ++ ']' :: rest

theorem parted_behind (items : List Value) (rest : List Char) : Parted (behind items rest) := by
  rintro c hc
  cases items with
  | nil => exact .inr (Option.some.inj hc).symm
  | cons item items => exact .inl (Option.some.inj hc).symm

theorem itemChars_nil (i : Nat) (rest : List Char) :
    itemChars (.list i []) ++ rest = '[' :: ']' :: rest := rfl

theorem itemChars_cons {item : Value} (h : ∀ other ∈ item :: items, other.IsPlain) (i : Nat)
    (rest : List Char) : itemChars (.list i (item :: items)) ++ rest =
      '[' :: (itemChars item ++ behind items rest) := by
  rw [itemChars_list h, listChars, List.map_cons, joinWith_cons, behind]
  simp [List.flatMap_map]

/-! ## The heads of texts -/

/-- The kind of a plain value inside a list, by the first character of its text. -/
def kindOfHead? (c : Char) : Option Kind :=
  if c = '-' ∨ Text.digitValue? c ≠ Option.none then some .number
  else if c = 'u' then some .undefined
  else if c = 't' ∨ c = 'f' then some .boolean
  else if c = '"' ∨ c = Text.singleQuote then some .string
  else if c = '[' then some .object
  else Option.none

theorem exists_intChars_eq_cons (n : Int) :
    ∃ c more, intChars n = c :: more ∧ kindOfHead? c = some .number := by
  obtain ⟨ds, hds, hne, -⟩ := exists_digits n.natAbs
  unfold intChars
  split
  · exact ⟨_, _, rfl, rfl⟩
  · generalize Nat.toDigits 10 n.natAbs = cs at hds
    cases hds with
    | nil => exact absurd rfl hne
    | cons hc _ =>
      refine ⟨_, _, rfl, if_pos (.inr ?_)⟩
      rw [hc]
      exact Option.some_ne_none _

/-- The first character of the text of an item tells its kind. -/
theorem IsPlain.exists_itemChars_eq_cons (h : a.IsPlain) :
    ∃ c more, itemChars a = c :: more ∧ kindOfHead? c = some a.kind := by
  cases h with
  | none => exact ⟨_, _, rfl, rfl⟩
  | bool b => cases b <;> exact ⟨_, _, rfl, rfl⟩
  | integer n =>
    rw [itemChars_integer]
    exact exists_intChars_eq_cons n
  | string s =>
    refine ⟨_, _, itemChars_string s, ?_⟩
    rcases Text.isQuote_quoteFor s with hq | hq <;> rw [hq] <;> rfl
  | list h => exact ⟨_, _, itemChars_list h _, rfl⟩

theorem IsPlain.kind_eq (ha : a.IsPlain) (hb : b.IsPlain)
    (h : itemChars a ++ rest = itemChars b ++ rest') : a.kind = b.kind := by
  obtain ⟨c, more, hc, hk⟩ := ha.exists_itemChars_eq_cons
  obtain ⟨c', more', hc', hk'⟩ := hb.exists_itemChars_eq_cons
  rw [hc, hc'] at h
  obtain ⟨rfl, -⟩ := List.cons.inj h
  exact Option.some.inj (hk.symm.trans hk')

theorem IsPlain.itemChars_ne_bracket (h : a.IsPlain) :
    itemChars a ++ rest ≠ ']' :: rest' := by
  obtain ⟨c, more, hc, hk⟩ := h.exists_itemChars_eq_cons
  rw [hc]
  intro he
  obtain ⟨rfl, -⟩ := List.cons.inj he
  rw [show kindOfHead? ']' = Option.none from rfl] at hk
  cases hk

/-! ## The ends of texts -/

/-- Whether the text of an item ends where it ends: with anything behind it, it is the text of
another item only if that one is alike, and has the same behind it. -/
def EndsItself (a : Value) : Prop :=
  ∀ (b : Value) (rest rest' : List Char), b.IsPlain → Parted rest → Parted rest' →
    itemChars a ++ rest = itemChars b ++ rest' → Alike a b ∧ rest = rest'

theorem behind_inj (h : ∀ item ∈ items, EndsItself item) (hi : ∀ item ∈ items', item.IsPlain)
    (he : behind items rest = behind items' rest') :
    List.Forall₂ Alike items items' ∧ rest = rest' := by
  induction items generalizing items' with
  | nil =>
    cases items' with
    | nil => exact ⟨.nil, (List.cons.inj he).2⟩
    | cons item' items' => exact absurd (List.cons.inj he).1 (by decide)
  | cons item items ih =>
    cases items' with
    | nil => exact absurd (List.cons.inj he).1 (by decide)
    | cons item' items' =>
      obtain ⟨hitem, hitems⟩ := List.forall_mem_cons.mp h
      obtain ⟨hitem', hitems'⟩ := List.forall_mem_cons.mp hi
      simp only [behind, List.flatMap_cons, List.append_assoc, List.append_cancel_left_eq] at he
      obtain ⟨halike, hbehind⟩ := hitem item' _ _ hitem' (parted_behind items rest)
        (parted_behind items' rest') he
      obtain ⟨hrest, rfl⟩ := ih hitems hitems' hbehind
      exact ⟨.cons halike hrest, rfl⟩

theorem itemChars_list_inj {i j : Nat} (h : ∀ item ∈ items, EndsItself item)
    (hp : ∀ item ∈ items, item.IsPlain) (hi : ∀ item ∈ items', item.IsPlain)
    (he : itemChars (.list i items) ++ rest =
      itemChars (.list j items') ++ rest') :
    List.Forall₂ Alike items items' ∧ rest = rest' := by
  cases items with
  | nil =>
    cases items' with
    | nil => exact ⟨.nil, (List.cons.inj (List.cons.inj he).2).2⟩
    | cons item' items' =>
      rw [itemChars_nil, itemChars_cons hi] at he
      exact absurd (List.cons.inj he).2.symm (hi item' List.mem_cons_self).itemChars_ne_bracket
  | cons item items =>
    cases items' with
    | nil =>
      rw [itemChars_nil, itemChars_cons hp] at he
      exact absurd (List.cons.inj he).2 (hp item List.mem_cons_self).itemChars_ne_bracket
    | cons item' items' =>
      rw [itemChars_cons hp, itemChars_cons hi] at he
      obtain ⟨hitem, hitems⟩ := List.forall_mem_cons.mp h
      obtain ⟨hitem', hitems'⟩ := List.forall_mem_cons.mp hi
      obtain ⟨halike, hbehind⟩ := hitem item' _ _ hitem' (parted_behind items rest)
        (parted_behind items' rest') (List.cons.inj he).2
      obtain ⟨hrest, rfl⟩ := behind_inj hitems hitems' hbehind
      exact ⟨.cons halike hrest, rfl⟩

theorem IsPlain.endsItself (h : a.IsPlain) : EndsItself a := by
  induction h with
  | none =>
    intro b rest rest' hb _ _ he
    have hk := IsPlain.none.kind_eq hb he
    cases hb with
    | none => exact ⟨.none, List.append_cancel_left he⟩
    | bool | integer | string | list => cases hk
  | bool x =>
    intro b rest rest' hb _ _ he
    have hk := (IsPlain.bool x).kind_eq hb he
    cases hb with
    | bool y =>
      cases x <;> cases y
      any_goals exact ⟨.bool _, List.append_cancel_left he⟩
      any_goals exact absurd (List.cons.inj he).1 (by decide)
    | none | integer | string | list => cases hk
  | integer m =>
    intro b rest rest' hb hr hr' he
    have hk := (IsPlain.integer m).kind_eq hb he
    cases hb with
    | integer n =>
      rw [itemChars_integer, itemChars_integer] at he
      obtain ⟨rfl, hrest⟩ := intChars_append_inj hr hr' he
      exact ⟨.integer m, hrest⟩
    | none | bool | string | list => cases hk
  | string s =>
    intro b rest rest' hb _ _ he
    have hk := (IsPlain.string s).kind_eq hb he
    cases hb with
    | string t =>
      rw [itemChars_string, itemChars_string] at he
      obtain ⟨rfl, hrest⟩ := Text.quoteChars_append_inj he
      exact ⟨.string s, hrest⟩
    | none | bool | integer | list => cases hk
  | list h ih =>
    intro b rest rest' hb _ _ he
    have hk := (IsPlain.list h).kind_eq hb he
    cases hb with
    | list h' =>
      obtain ⟨hitems, hrest⟩ := itemChars_list_inj ih h h' he
      exact ⟨.list hitems, hrest⟩
    | none | bool | integer | string => cases hk

/-! ## Lists that are shown alike -/

theorem map_shownInside_eq
    (hs : ∀ item ∈ items, ∀ item', item'.IsPlain → Alike item item' →
      shownInside item = shownInside item')
    (hp : ∀ item ∈ items', item.IsPlain) (h : List.Forall₂ Alike items items') :
    items.map shownInside = items'.map shownInside := by
  induction h with
  | nil => rfl
  | cons halike _ ih =>
    obtain ⟨hitem, hitems⟩ := List.forall_mem_cons.mp hs
    obtain ⟨hitem', hitems'⟩ := List.forall_mem_cons.mp hp
    rw [List.map_cons, List.map_cons, hitem _ hitem' halike, ih hitems hitems']

theorem Alike.shownInside_eq (h : Alike a b) (ha : a.IsPlain) (hb : b.IsPlain) :
    shownInside a = shownInside b := by
  induction ha generalizing b with
  | none | bool | integer | string =>
    cases h
    rfl
  | @list i items hi ih =>
    cases h with
    | @list _ j _ items' h =>
      cases hb with
      | list hi' =>
        have hd := displayAt_list hi indentWidth 0 i
        have hd' := displayAt_list hi' indentWidth 0 j
        rw [map_shownInside_eq (fun item hm item' hp ha => ih item hm ha hp) hi' h, ← hd'] at hd
        exact hd

/-- A list is shown as the texts of its items, of which strings are quoted, and two lists are shown
alike only if their items are alike. -/
theorem displayAt_list_iff (hi : ∀ item ∈ items, item.IsPlain)
    (hi' : ∀ item ∈ items', item.IsPlain) (width level : Int) (i j : Nat) :
    (Value.list i items).displayAt width level =
        Points.ofString "[" ++ (Points.ofString ", ").intercalate (items.map shownInside) ++
          Points.ofString "]" ∧
      ((Value.list i items).displayAt width level = (Value.list j items').displayAt width level ↔
        List.Forall₂ Alike items items') := by
  refine ⟨displayAt_list hi width level i, ?_, ?_⟩
  · intro h
    rw [displayAt_eq_listChars hi, displayAt_eq_listChars hi', Points.ofChars_inj,
      ← itemChars_list hi i, ← itemChars_list hi' j] at h
    exact (itemChars_list_inj (fun item hm => (hi item hm).endsItself) hi hi'
      (congrArg (· ++ []) h)).1
  · intro h
    rw [displayAt_list hi, displayAt_list hi',
      map_shownInside_eq (fun item hm item' hp ha => ha.shownInside_eq (hi item hm) hp) hi' h]

/-- One text that looks like two quoted ones is shown apart from the two. -/
theorem displayAt_list_iff_quotes :
    (∀ item ∈ [Value.string "a', 'b"], item.IsPlain) ∧
      (∀ item ∈ [Value.string "a", Value.string "b"], item.IsPlain) ∧
      (Value.list 0 [.string "a', 'b"]).display = "[\"a', 'b\"]" ∧
      (Value.list 1 [.string "a", .string "b"]).display = "['a', 'b']" ∧
      (Value.list 0 [.string "a', 'b"]).display ≠
        (Value.list 1 [.string "a", .string "b"]).display := by
  have hone : ∀ item ∈ [Value.string "a', 'b"], item.IsPlain := by
    simp only [List.mem_singleton, forall_eq]
    exact .string _
  have htwo : ∀ item ∈ [Value.string "a", Value.string "b"], item.IsPlain := by
    simp only [List.forall_mem_cons, List.not_mem_nil, false_imp_iff, implies_true, and_true]
    exact ⟨.string _, .string _⟩
  refine ⟨hone, htwo, by decide +kernel, by decide +kernel, fun h => ?_⟩
  have halike := (displayAt_list_iff hone htwo indentWidth 0 0 1).2.mp h
  cases halike with
  | cons _ hrest => cases hrest

end Value

end DocScript
