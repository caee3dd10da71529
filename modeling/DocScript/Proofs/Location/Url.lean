import DocScript.Url.Resolve
import Mathlib.Data.List.TakeWhile

/-! # URLs that references name

A remote reference begins with a scheme, and so does what any reference names from a remote
document. What begins with a scheme does not begin with a slash. A URL without its fragment has no
hash sign.
-/

namespace DocScript.Url

variable {text reference url : List Char} {parts : Parts}

/-- Whether a text begins with a scheme. -/
def NamesScheme (text : List Char) : Prop := (splitScheme [] (cleaned text)).1 ≠ []

/-- The scheme that a text begins with, in small letters. -/
def schemeOf (text : List Char) : List Char := (splitScheme [] (cleaned text)).1

/-- The schemes of remote references. -/
def IsHttp (scheme : List Char) : Prop := scheme = "http".toList ∨ scheme = "https".toList

section Scheme

/-- A text without a scheme gets the one that stands in for it, and any other keeps its own. -/
theorem splitScheme_cases (default text : List Char) :
    (splitScheme [] text).1 = [] ∧ (splitScheme default text).1 = default ∨
      (splitScheme [] text).1 ≠ [] ∧ splitScheme default text = splitScheme [] text := by
  unfold splitScheme
  split
  · split
    · exact .inr ⟨by simp, rfl⟩
    · exact .inl ⟨rfl, rfl⟩
  · exact .inl ⟨rfl, rfl⟩

theorem scheme_http {scheme : List Char} (h : IsHttp scheme) (default rest : List Char) :
    (splitScheme default (cleaned (scheme ++ ':' :: rest))).1 = scheme := by
  rcases h with rfl | rfl <;> rfl

theorem IsHttp.ne_nil {scheme : List Char} (h : IsHttp scheme) : scheme ≠ [] := by
  rcases h with rfl | rfl <;> simp

theorem namesScheme_http {scheme : List Char} (h : IsHttp scheme) (rest : List Char) :
    NamesScheme (scheme ++ ':' :: rest) := by
  rw [NamesScheme, scheme_http h]
  exact h.ne_nil

theorem exists_http_of_isRemote {reference : String} (h : isRemote reference = true) :
    ∃ scheme rest, IsHttp scheme ∧ reference.toList = scheme ++ ':' :: '/' :: '/' :: rest := by
  rw [isRemote, Bool.or_eq_true, String.startsWith_string_iff, String.startsWith_string_iff] at h
  rcases h with ⟨rest, h⟩ | ⟨rest, h⟩
  · exact ⟨"http".toList, rest, .inl rfl, h.symm⟩
  · exact ⟨"https".toList, rest, .inr rfl, h.symm⟩

theorem isRemote_http {scheme : List Char} (h : IsHttp scheme) (rest : List Char) :
    isRemote (String.ofList (scheme ++ ':' :: '/' :: '/' :: rest)) = true := by
  rw [isRemote, Bool.or_eq_true, String.startsWith_string_iff, String.startsWith_string_iff]
  rcases h with rfl | rfl
  · exact .inl ⟨rest, String.toList_ofList.symm⟩
  · exact .inr ⟨rest, String.toList_ofList.symm⟩

theorem namesScheme_of_isRemote {reference : String} (h : isRemote reference = true) :
    NamesScheme reference.toList := by
  obtain ⟨scheme, rest, hs, he⟩ := exists_http_of_isRemote h
  rw [he]
  exact namesScheme_http hs _

/-- Only capital letters are written anew, and what they become is a small letter. -/
theorem eq_of_toLower_eq {c mark : Char} (hm : mark.val.toNat < 97) (h : c.toLower = mark) :
    c = mark := by
  unfold Char.toLower at h
  split at h
  · rename_i hu
    have hl : 65 ≤ c.val.toNat := UInt32.le_iff_toNat_le.mp hu.1
    have hr : c.val.toNat ≤ 90 := UInt32.le_iff_toNat_le.mp hu.2
    have hn : (c.val.toNat + 32) % 2 ^ 32 = mark.val.toNat := by
      rw [← h, UInt32.toNat_add]
      rfl
    omega
  · exact h

/-- The marks that divide URLs do not stand in a scheme. -/
theorem notMem_scheme {mark : Char} (hm : mark.val.toNat < 97) (hs : isSchemeChar mark = false) :
    mark ∉ (splitScheme [] text).1 := by
  have ha : mark.isAlpha = false := by
    simp only [isSchemeChar, Char.isAlphanum, Bool.or_eq_false_iff] at hs
    exact hs.1.1.1.1
  unfold splitScheme
  split
  · split
    · rename_i h
      rw [Bool.and_eq_true, List.all_eq_true] at h
      rw [List.mem_map]
      rintro ⟨c, hc, he⟩
      obtain rfl := eq_of_toLower_eq hm he
      rcases List.mem_cons.mp hc with rfl | hc
      · rw [h.1] at ha
        cases ha
      · rw [h.2 c hc] at hs
        cases hs
    · simp
  · simp

theorem NamesScheme.head_ne_slash (h : NamesScheme text) : text.head? ≠ some '/' := by
  intro hs
  obtain ⟨tail, rfl⟩ := List.head?_eq_some_iff.mp hs
  have hc : cleaned ('/' :: tail) = '/' :: tail.filter fun c => !isDropped c := rfl
  apply h
  rw [hc]
  unfold splitScheme
  split
  · rename_i he
    have hf := congrArg (fun split => split.1.head?) he
    simp [before] at hf
    simp [← hf]
  · rfl

end Scheme

section Parts

theorem scheme_ofText {default : List Char} (h : Parts.ofText default text = .ok parts) :
    parts.scheme = (splitScheme default (cleaned text)).1 := by
  simp only [Parts.ofText, bind, Except.bind] at h
  split at h
  · cases h
  split at h
  · cases h
  cases h
  rfl

theorem exists_toText (h : parts.scheme ≠ []) :
    ∃ rest, parts.toText = parts.scheme ++ ':' :: rest := by
  have hs : parts.scheme.isEmpty = false := by simpa using h
  unfold Parts.toText
  simp only [hs, Bool.false_eq_true, if_false, List.append_assoc, List.cons_append]
  exact ⟨_, rfl⟩

/-- Parts with the scheme of a remote reference are written as one. -/
theorem isRemote_toText (h : IsHttp parts.scheme) :
    isRemote (String.ofList parts.toText) = true := by
  have hs : parts.scheme.isEmpty = false := by simpa using h.ne_nil
  have ha : hasAuthority parts.scheme = true := by
    rcases h with h | h <;> rw [h] <;> decide
  have ht : ∃ rest, parts.toText = parts.scheme ++ ':' :: '/' :: '/' :: rest := by
    unfold Parts.toText
    simp only [hs, ha, Bool.not_false, Bool.and_self, Bool.or_true, Bool.true_or, if_true,
      Bool.false_eq_true, if_false, List.append_assoc, List.cons_append]
    exact ⟨_, rfl⟩
  obtain ⟨rest, ht⟩ := ht
  rw [ht]
  exact isRemote_http h rest

theorem cut_fst_subset (mark : Char) (text : List Char) : (cut mark text).1 ⊆ text :=
  List.takeWhile_subset _

theorem cut_snd_subset (mark : Char) (text : List Char) : (cut mark text).2 ⊆ text :=
  fun _ h => (List.dropWhile_suffix _).subset ((List.drop_suffix 1 _).subset h)

theorem mark_notMem_cut (mark : Char) (text : List Char) : mark ∉ (cut mark text).1 :=
  fun h => by simpa using List.mem_takeWhile_imp h

theorem splitParameters_subset (path : List Char) :
    (splitParameters path).1 ⊆ path ∧ (splitParameters path).2 ⊆ path := by
  have hl : (path.reverse.takeWhile (· ≠ '/')).reverse ⊆ path := fun c h =>
    List.mem_reverse.mp (List.takeWhile_subset _ (List.mem_reverse.mp h))
  constructor
  · intro c h
    rcases List.mem_append.mp h with h | h
    · exact List.mem_of_mem_take h
    · exact hl (cut_fst_subset _ _ h)
  · exact fun c h => hl (cut_snd_subset _ _ h)

/-- What stands before the fragment has no hash sign. -/
theorem hash_notMem_ofText (h : Parts.ofText [] text = .ok parts) :
    '#' ∉ parts.scheme ∧ '#' ∉ parts.authority ∧ '#' ∉ parts.path ∧ '#' ∉ parts.parameters ∧
      '#' ∉ parts.query := by
  have ha (text : List Char) : '#' ∉ (splitAuthority text).1 := by
    unfold splitAuthority
    split
    · exact fun h => absurd (List.mem_takeWhile_imp h) (by decide)
    · simp
  simp only [Parts.ofText, bind, Except.bind] at h
  split at h
  · cases h
  split at h
  · cases h
  cases h
  refine ⟨notMem_scheme (by decide) (by decide), ha _, ?_, ?_, ?_⟩
  all_goals dsimp only
  · split
    · exact fun h => mark_notMem_cut '#' _ (cut_fst_subset _ _ ((splitParameters_subset _).1 h))
    · exact fun h => mark_notMem_cut '#' _ (cut_fst_subset _ _ h)
  · split
    · exact fun h => mark_notMem_cut '#' _ (cut_fst_subset _ _ ((splitParameters_subset _).2 h))
    · simp
  · exact fun h => mark_notMem_cut '#' _ (cut_snd_subset _ _ h)

/-- The text of parts without a fragment has no hash sign if the parts have none. -/
theorem hash_notMem_toText (hs : '#' ∉ parts.scheme) (ha : '#' ∉ parts.authority)
    (hp : '#' ∉ parts.path) (hm : '#' ∉ parts.parameters) (hq : '#' ∉ parts.query) :
    '#' ∉ { parts with fragment := [] : Parts }.toText := by
  have hmarked (mark : Char) (part : List Char) (hm : '#' ≠ mark) (hp : '#' ∉ part) :
      '#' ∉ marked mark part := by
    unfold marked
    split <;> simp [hm, hp]
  have hpath : '#' ∉ parts.path ++ marked ';' parts.parameters := by
    simp [hp, hmarked ';' _ (by decide) hm]
  have hquery := hmarked '?' _ (by decide) hq
  unfold Parts.toText
  dsimp only
  split_ifs <;> simp_all [marked]

end Parts

theorem scheme_complete (base reference : Parts) :
    (base.complete reference).scheme = reference.scheme := by
  unfold Parts.complete
  dsimp only
  split_ifs <;> rfl

/-- From a remote document, a reference names a remote one, unless it has a scheme that is not the
one of the document. Then it names what it would from anywhere. -/
theorem join_cases {base : String} (hb : isRemote base = true)
    (h : join base.toList reference = .ok url) :
    isRemote (String.ofList url) = true ∨
      url = reference ∧ NamesScheme reference ∧ schemeOf reference ≠ schemeOf base.toList := by
  obtain ⟨scheme, rest, hs, he⟩ := exists_http_of_isRemote hb
  have hn : base.toList.isEmpty = false := by
    rw [he]
    rcases hs with rfl | rfl <;> rfl
  have hbase : schemeOf base.toList = scheme := by rw [schemeOf, he, scheme_http hs]
  unfold join at h
  rw [hn, if_neg (by simp)] at h
  split at h
  · cases h
    rw [String.ofList_toList]
    exact .inl hb
  simp only [bind, Except.bind] at h
  split at h
  · cases h
  rename_i whole hw
  split at h
  · cases h
  rename_i parts hp
  have hws : whole.scheme = scheme := (scheme_ofText hw).trans hbase
  rw [hws] at h hp
  by_cases hps : parts.scheme = scheme
  · left
    have hr : isRelative scheme = true := by
      rcases hs with rfl | rfl <;> decide
    rw [hps, hr, if_neg (by simp)] at h
    cases h
    exact isRemote_toText (((scheme_complete whole parts).trans hps).symm ▸ hs)
  · right
    rw [if_pos (by simp [hps])] at h
    cases h
    rw [scheme_ofText hp] at hps
    obtain ⟨hnone, hd⟩ | ⟨hown, hsame⟩ := splitScheme_cases scheme (cleaned reference)
    · exact absurd hd hps
    · rw [hsame] at hps
      exact ⟨rfl, hown, hbase.symm ▸ hps⟩

/-- What a reference names from a remote document begins with a scheme. -/
theorem namesScheme_join {base : String} (hb : isRemote base = true)
    (h : join base.toList reference = .ok url) : NamesScheme url := by
  rcases join_cases hb h with hr | ⟨rfl, hn, -⟩
  · have hu := namesScheme_of_isRemote hr
    rwa [String.toList_ofList] at hu
  · exact hn

/-- Without its fragment, a remote reference is a URL of its scheme. -/
theorem isRemote_withoutFragment {text : String} (hr : isRemote text = true)
    (h : withoutFragment text.toList = .ok url) : isRemote (String.ofList url) = true := by
  unfold withoutFragment at h
  split at h
  · simp only [bind, Except.bind] at h
    split at h
    · cases h
    rename_i parts hp
    cases h
    obtain ⟨scheme, rest, hs, he⟩ := exists_http_of_isRemote hr
    apply isRemote_toText
    rwa [scheme_ofText hp, he, scheme_http hs]
  · cases h
    rwa [String.ofList_toList]

/-- A URL without its fragment has no hash sign. -/
theorem hash_notMem_withoutFragment (h : withoutFragment text = .ok url) : '#' ∉ url := by
  unfold withoutFragment at h
  split at h
  · simp only [bind, Except.bind] at h
    split at h
    · cases h
    rename_i parts hp
    cases h
    obtain ⟨hs, ha, hp, hm, hq⟩ := hash_notMem_ofText hp
    exact hash_notMem_toText hs ha hp hm hq
  · cases h
    rename_i hc
    simpa using hc

/-- A URL with a scheme does not begin with a slash when its fragment is taken away. -/
theorem head_withoutFragment_ne_slash (hn : NamesScheme text)
    (h : withoutFragment text = .ok url) : url.head? ≠ some '/' := by
  unfold withoutFragment at h
  split at h
  · simp only [bind, Except.bind] at h
    split at h
    · cases h
    rename_i parts hp
    cases h
    have hs := scheme_ofText hp
    have hne : { parts with fragment := [] : Parts }.scheme ≠ [] := hs.symm ▸ hn
    obtain ⟨rest, ht⟩ := exists_toText hne
    obtain ⟨c, others, hc⟩ := List.exists_cons_of_ne_nil hn
    have hslash : '/' ∉ parts.scheme := hs ▸ notMem_scheme (by decide) (by decide)
    rw [ht, hs, hc]
    rintro ⟨⟩
    rw [hs, hc] at hslash
    exact hslash List.mem_cons_self
  · cases h
    exact hn.head_ne_slash

end DocScript.Url
