import DocScript.Proofs.Text.Utf8
import DocScript.Url.Percent
import Mathlib.Data.List.Basic

/-! # Percent encoding is read back

A text with every byte encoded is decoded to itself, and so is a text in which no encoded byte
stands.
-/

namespace DocScript.Url

open Text (hexValue? hexNumber? hexCapital)

open Text.Utf8 (decodeReplacing decodeFrom_ascii decodeReplacing_utf8 length_decodeFrom_le)

/-- A text with all the bytes of its UTF-8 form encoded. -/
def escape (text : String) : String := String.ofList (text.toList.flatMap percentChar)

section Escape

variable {c : Char} {run text rest : List Char}

theorem hexValue?_hexCapital : ∀ n < 16, hexValue? (hexCapital n) = some n := by
  decide

theorem hexPair?_hexCapital (b : UInt8) :
    hexPair? (hexCapital (b.toNat / 16)) (hexCapital (b.toNat % 16)) = some b := by
  have hb : b.toNat < 256 := b.toNat_lt
  have hh := hexValue?_hexCapital (b.toNat / 16) (by omega)
  have hl := hexValue?_hexCapital (b.toNat % 16) (by omega)
  have hn : (0 * 16 + b.toNat / 16) * 16 + b.toNat % 16 = b.toNat := by omega
  rw [hexPair?, hexNumber?, List.foldlM_cons, hh, Option.map_some, Option.bind_eq_bind,
    Option.bind_some, List.foldlM_cons, hl, Option.map_some, Option.bind_eq_bind, Option.bind_some,
    List.foldlM_nil, hn]
  exact congrArg some UInt8.ofNat_toNat

/-- An encoded byte has three ASCII characters, and a hash sign is none of them. -/
theorem mem_percentByte {b : UInt8} (h : c ∈ percentByte b) : isAscii c = true ∧ c ≠ '#' := by
  have hd : ∀ n < 16, isAscii (hexCapital n) = true ∧ hexCapital n ≠ '#' := by decide
  have hb : b.toNat < 256 := b.toNat_lt
  simp only [percentByte, List.mem_cons, List.not_mem_nil, or_false] at h
  rcases h with rfl | rfl | rfl
  · decide
  · exact hd _ (by omega)
  · exact hd _ (by omega)

theorem asciiBytes_percentByte (b : UInt8) (rest : List Char) :
    asciiBytes (percentByte b ++ rest) = b :: asciiBytes rest := by
  simp only [percentByte, List.cons_append, List.nil_append, asciiBytes, hexPair?_hexCapital]

theorem asciiBytes_encoded (bytes : List UInt8) :
    asciiBytes (bytes.flatMap percentByte) = bytes := by
  induction bytes with
  | nil => rfl
  | cons b rest ih => rw [List.flatMap_cons, asciiBytes_percentByte, ih]

theorem unquoteFrom_of_ascii (h : ∀ c ∈ text, isAscii c = true) :
    unquoteFrom run text = decodeReplacing (asciiBytes (run.reverse ++ text)) := by
  induction text generalizing run with
  | nil => rw [unquoteFrom, List.append_nil]
  | cons c rest ih =>
    rw [unquoteFrom, if_pos (h c List.mem_cons_self),
      ih fun other ho => h other (List.mem_cons_of_mem c ho), List.reverse_cons,
      List.append_assoc, List.singleton_append]

theorem toList_escape (text : String) : (escape text).toList =
    (text.toList.flatMap String.utf8EncodeChar).flatMap percentByte := by
  rw [escape, String.toList_ofList, List.flatMap_assoc]
  rfl

theorem mem_escape {text : String} (h : c ∈ (escape text).toList) :
    isAscii c = true ∧ c ≠ '#' := by
  rw [toList_escape] at h
  obtain ⟨b, -, hb⟩ := List.mem_flatMap.mp h
  exact mem_percentByte hb

/-- Decoding undoes encoding. -/
theorem unquote_escape (text : String) : unquote (escape text) = text := by
  rw [unquote, unquoteFrom_of_ascii fun c h => (mem_escape h).1, toList_escape,
    List.reverse_nil, List.nil_append, asciiBytes_encoded, decodeReplacing_utf8,
    String.ofList_toList]

end Escape

/-- Whether an encoded byte stands somewhere in a text. -/
def HasEscape (text : List Char) : Prop :=
  ∃ high low, ['%', high, low] <:+: text ∧ (hexPair? high low).isSome

section Unescaped

variable {c : Char} {run seen text rest : List Char}

theorem HasEscape.mono (h : HasEscape text) (hs : text <:+: rest) : HasEscape rest := by
  obtain ⟨high, low, hi, hp⟩ := h
  exact ⟨high, low, hi.trans hs, hp⟩

theorem not_hasEscape_of_notMem (h : '%' ∉ text) : ¬HasEscape text := by
  rintro ⟨high, low, hi, -⟩
  exact h (hi.subset List.mem_cons_self)

theorem hexPair?_of_none {high low : Char} (h : hexValue? high = none ∨ hexValue? low = none) :
    hexPair? high low = none := by
  rw [hexPair?, hexNumber?, List.foldlM_cons, Option.bind_eq_bind]
  rcases h with h | h
  · rw [h]
    rfl
  · cases hexValue? high with
    | none => rfl
    | some n =>
      rw [Option.map_some, Option.bind_some, List.foldlM_cons, h]
      rfl

theorem asciiBytes_cons
    (h : ∀ high low tail, c :: rest = '%' :: high :: low :: tail → hexPair? high low = none) :
    asciiBytes (c :: rest) = c.toUInt8 :: asciiBytes rest := by
  rw [asciiBytes.eq_def]
  split
  · contradiction
  · rename_i high low tail he
    rw [h high low tail he]
    cases he
    rfl
  · rename_i he
    cases he
    rfl

/-- The bytes of a text without encoded ones are its characters. A hash sign is no digit, so that
no encoded byte begins before it and ends behind it. -/
theorem asciiBytes_append (h : ¬HasEscape text) (hr : ∀ c ∈ rest.head?, c = '#') :
    asciiBytes (text ++ rest) = text.map Char.toUInt8 ++ asciiBytes rest := by
  induction text with
  | nil => rfl
  | cons c others ih =>
    have ho : ¬HasEscape others := fun hs => h (hs.mono (List.suffix_cons c others).isInfix)
    rw [List.map_cons, List.cons_append, List.cons_append, ← ih ho]
    apply asciiBytes_cons
    intro high low tail he
    match others, he with
    | [], he =>
      simp only [List.nil_append, List.cons.injEq] at he
      obtain ⟨rfl, rfl⟩ := he
      exact hexPair?_of_none (.inl (hr high rfl ▸ rfl))
    | [first], he =>
      simp only [List.cons_append, List.nil_append, List.cons.injEq] at he
      obtain ⟨rfl, rfl, rfl⟩ := he
      exact hexPair?_of_none (.inr (hr low rfl ▸ rfl))
    | first :: second :: others, he =>
      simp only [List.cons_append, List.cons.injEq] at he
      obtain ⟨rfl, rfl, rfl, -⟩ := he
      have hp : ['%', first, second] <:+: '%' :: first :: second :: others := ⟨[], others, rfl⟩
      by_contra hn
      exact h ⟨first, second, hp, Option.isSome_iff_ne_none.mpr hn⟩

/-- A run of which the bytes are decoded apart stays as it is, whatever more of the text belongs
to it. -/
theorem unquoteFrom_append_run
    (hd : ∀ tail, tail <+: seen.reverse ++ rest →
      decodeReplacing (asciiBytes (run.reverse ++ tail)) =
        run.reverse ++ decodeReplacing (asciiBytes tail)) :
    unquoteFrom (seen ++ run) rest = run.reverse ++ unquoteFrom seen rest := by
  induction rest generalizing seen with
  | nil =>
    rw [List.append_nil] at hd
    rw [unquoteFrom, unquoteFrom, List.reverse_append, hd _ List.prefix_rfl]
  | cons c rest ih =>
    rw [unquoteFrom, unquoteFrom]
    split
    · rw [← List.cons_append]
      exact ih fun tail hp => hd tail (by simpa using hp)
    · rw [List.reverse_append, hd _ (List.prefix_append _ _), List.append_assoc]

theorem decode_append (ht : ∀ c ∈ run, isAscii c = true) (h : ¬HasEscape run.reverse)
    (hr : ∀ c ∈ rest.head?, c = '#') :
    decodeReplacing (asciiBytes (run.reverse ++ rest)) =
      run.reverse ++ decodeReplacing (asciiBytes rest) := by
  rw [asciiBytes_append h hr]
  exact decodeFrom_ascii fun c hc => of_decide_eq_true (ht c (List.mem_reverse.mp hc))

/-- Without encoded bytes a text stays as it is, up to its end or the next hash sign. -/
theorem unquoteFrom_append (ht : ∀ c ∈ run, isAscii c = true) (h : ¬HasEscape (run.reverse ++ text))
    (hr : ∀ c ∈ rest.head?, c = '#') :
    unquoteFrom run (text ++ rest) = run.reverse ++ text ++ unquoteFrom [] rest := by
  induction text generalizing run with
  | nil =>
    rw [List.append_nil] at h ⊢
    rw [← List.nil_append run, List.nil_append rest]
    refine unquoteFrom_append_run fun tail ⟨others, he⟩ => decode_append ht h ?_
    intro c hc
    rw [List.reverse_nil, List.nil_append] at he
    exact hr c (by rw [← he, List.head?_append, hc, Option.some_or]; rfl)
  | cons c others ih =>
    rw [List.cons_append, unquoteFrom]
    split
    · rename_i hc
      rw [ih (List.forall_mem_cons.mpr ⟨hc, ht⟩) (by simpa using h)]
      simp
    · -- a character outside ASCII ends the run, and begins a new one behind it
      have hrun : ¬HasEscape run.reverse := fun hs => h (hs.mono (List.prefix_append _ _).isInfix)
      have ho : ¬HasEscape others := fun hs =>
        h (hs.mono ((List.suffix_cons c others).trans (List.suffix_append _ _)).isInfix)
      have hd := @decode_append _ [] ht hrun nofun
      have hnil : decodeReplacing (asciiBytes []) = [] := rfl
      rw [List.append_nil, hnil, List.append_nil] at hd
      rw [hd, @ih [] (by simp) ho]
      simp

theorem unquote_of_not_hasEscape {text : String} (h : ¬HasEscape text.toList) :
    unquote text = text := by
  have hu := @unquoteFrom_append [] text.toList [] nofun h nofun
  have hnil : unquoteFrom [] [] = [] := rfl
  rw [List.append_nil, hnil, List.append_nil] at hu
  rw [unquote, hu]
  exact String.ofList_toList

/-- What is encoded behind a hash sign does not change the text before it. -/
theorem unquote_append_hash {text rest : String} (h : ¬HasEscape text.toList) :
    unquote (text ++ "#" ++ rest) = text ++ "#" ++ unquote rest := by
  have hu := @unquoteFrom_append [] text.toList ('#' :: rest.toList) nofun h (by simp)
  have hh : unquoteFrom [] ('#' :: rest.toList) = '#' :: unquoteFrom [] rest.toList := by
    refine @unquoteFrom_append_run ['#'] [] _ fun tail _ => ?_
    have hb : asciiBytes ('#' :: tail) = '#'.toUInt8 :: asciiBytes tail :=
      asciiBytes_cons fun _ _ _ he => absurd (List.cons.inj he).1 (by decide)
    rw [List.reverse_singleton, List.singleton_append, hb]
    exact @decodeFrom_ascii _ ['#'] (List.forall_mem_singleton.mpr (by decide))
  rw [hh] at hu
  apply String.toList_injective
  simpa [unquote] using hu

end Unescaped

section Length

variable {c : Char} {run text rest : List Char}

theorem hasEscape_cons (h : HasEscape (c :: rest)) : HasEscape rest ∨
    ∃ high low tail, c :: rest = '%' :: high :: low :: tail ∧ (hexPair? high low).isSome := by
  obtain ⟨high, low, hi, hs⟩ := h
  rcases List.infix_cons_iff.mp hi with ⟨tail, ht⟩ | hi
  · exact .inr ⟨high, low, tail, ht.symm, hs⟩
  · exact .inl ⟨high, low, hi, hs⟩

theorem infix_or_infix_of_notMem {part : List Char} (h : part <:+: text ++ c :: rest)
    (hc : c ∉ part) : part <:+: text ∨ part <:+: rest := by
  have hstart {front : List Char} (hp : part <+: front ++ c :: rest) : part <+: front := by
    rcases List.prefix_or_prefix_of_prefix hp (⟨rest, by simp⟩ : front ++ [c] <+: _) with hp | hp
    · rcases List.prefix_concat_iff.mp hp with rfl | hp
      · simp at hc
      · exact hp
    · exact absurd (hp.subset (by simp)) hc
  induction text with
  | nil =>
    rcases List.infix_cons_iff.mp h with hp | hi
    · exact .inl (hstart hp).isInfix
    · exact .inr hi
  | cons d others ih =>
    rcases List.infix_cons_iff.mp h with hp | hi
    · exact .inl (hstart hp).isInfix
    · exact (ih hi).imp_left fun hi => hi.trans (List.suffix_cons d others).isInfix

theorem isAscii_of_hexValue? {n : Nat} (h : hexValue? c = some n) : isAscii c = true := by
  have hle {d : Char} (hd : d.toNat < 0x80) (hcd : c ≤ d) : isAscii c = true :=
    decide_eq_true (Nat.lt_of_le_of_lt (UInt32.le_iff_toNat_le.mp hcd) hd)
  unfold hexValue? at h
  split_ifs at h with hdigit hsmall hcapital
  · exact hle (by decide) (of_decide_eq_true (Bool.and_eq_true_iff.mp hdigit).2)
  · exact hle (by decide) (of_decide_eq_true (Bool.and_eq_true_iff.mp hsmall).2)
  · exact hle (by decide) (of_decide_eq_true (Bool.and_eq_true_iff.mp hcapital).2)

/-- An encoded byte has ASCII characters only. -/
theorem hasEscape_of_append_cons (h : HasEscape (text ++ c :: rest)) (hc : isAscii c = false) :
    HasEscape text ∨ HasEscape rest := by
  obtain ⟨high, low, hi, hs⟩ := h
  have hdigit (d : Char) (hd : hexValue? d ≠ none) : c ≠ d := by
    rintro rfl
    obtain ⟨n, hn⟩ := Option.ne_none_iff_exists'.mp hd
    rw [isAscii_of_hexValue? hn] at hc
    cases hc
  have hn : c ∉ ['%', high, low] := by
    simp only [List.mem_cons, List.not_mem_nil, or_false, not_or]
    refine ⟨?_, hdigit high fun hv => ?_, hdigit low fun hv => ?_⟩
    · rintro rfl
      cases hc
    · rw [hexPair?_of_none (.inl hv)] at hs
      cases hs
    · rw [hexPair?_of_none (.inr hv)] at hs
      cases hs
  rcases infix_or_infix_of_notMem hi hn with hi | hi
  · exact .inl ⟨high, low, hi, hs⟩
  · exact .inr ⟨high, low, hi, hs⟩

theorem length_asciiBytes (text : List Char) : (asciiBytes text).length ≤ text.length ∧
    (HasEscape text → (asciiBytes text).length < text.length) := by
  fun_induction asciiBytes text with
  | case1 => exact ⟨Nat.le_refl _, fun h => absurd h (not_hasEscape_of_notMem List.not_mem_nil)⟩
  | case2 high low rest b hb ih =>
    have hl : (asciiBytes rest).length + 1 < rest.length + 3 := by omega
    exact ⟨Nat.le_of_lt hl, fun _ => hl⟩
  | case3 high low rest hn ih =>
    refine ⟨Nat.succ_le_succ ih.1, fun h => Nat.succ_lt_succ (ih.2 ?_)⟩
    rcases hasEscape_cons h with h | ⟨_, _, _, he, hs⟩
    · exact h
    · cases he
      rw [hn] at hs
      cases hs
  | case4 c rest hn ih =>
    refine ⟨Nat.succ_le_succ ih.1, fun h => Nat.succ_lt_succ (ih.2 ?_)⟩
    rcases hasEscape_cons h with h | ⟨high, low, tail, he, -⟩
    · exact h
    · cases he
      exact absurd rfl (hn high low tail rfl)

theorem length_unquoteFrom (run text : List Char) :
    (unquoteFrom run text).length ≤ run.length + text.length ∧
      (HasEscape (run.reverse ++ text) →
        (unquoteFrom run text).length < run.length + text.length) := by
  have hd (run : List Char) : (decodeReplacing (asciiBytes run.reverse)).length ≤ run.length ∧
      (HasEscape run.reverse → (decodeReplacing (asciiBytes run.reverse)).length < run.length) := by
    have hl := length_asciiBytes run.reverse
    have hb : (decodeReplacing (asciiBytes run.reverse)).length ≤ _ := length_decodeFrom_le 0 _
    rw [List.length_reverse] at hl
    exact ⟨Nat.le_trans hb hl.1, fun h => Nat.lt_of_le_of_lt hb (hl.2 h)⟩
  induction text generalizing run with
  | nil => simpa [unquoteFrom] using hd run
  | cons c rest ih =>
    rw [unquoteFrom]
    cases hc : isAscii c with
    | true =>
      have hi := ih (c :: run)
      rw [List.reverse_cons, List.append_assoc, List.singleton_append, List.length_cons,
        Nat.succ_add_eq_add_succ] at hi
      exact hi
    | false =>
      have hrun := hd run
      have hrest := ih []
      simp only [List.length_cons, List.length_append, List.length_nil, List.reverse_nil,
        List.nil_append, Bool.false_eq_true, if_false] at hrest ⊢
      refine ⟨by omega, fun h => ?_⟩
      rcases hasEscape_of_append_cons h hc with h | h
      · have := hrun.2 h
        omega
      · have := hrest.2 h
        omega

/-- A text with an encoded byte gets shorter. -/
theorem length_unquote_lt {text : String} (h : HasEscape text.toList) :
    (unquote text).toList.length < text.toList.length := by
  rw [unquote, String.toList_ofList]
  simpa using (length_unquoteFrom [] text.toList).2 h

end Length

end DocScript.Url
