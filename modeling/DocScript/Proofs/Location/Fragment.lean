import DocScript.Proofs.Location.Reference

/-! # URLs before their fragments

What stands behind a hash sign changes no part of the URL before it. A URL that is written as its
parts are is therefore named by itself with any fragment, from any document.
-/

namespace DocScript.Url

variable {text rest default url : List Char} {parts : Parts}

section Append

theorem takeWhile_append_mark {p : Char → Bool} {mark : Char} (hm : p mark = false) :
    (text ++ mark :: rest).takeWhile p = text.takeWhile p := by
  rw [List.takeWhile_append]
  split
  · rename_i hl
    rw [(List.takeWhile_prefix p).eq_of_length hl, List.takeWhile_cons_of_neg (by simp [hm]),
      List.append_nil]
  · rfl

theorem dropWhile_append_mark {p : Char → Bool} {mark : Char} (hm : p mark = false) :
    (text ++ mark :: rest).dropWhile p = text.dropWhile p ++ mark :: rest := by
  rw [List.dropWhile_append]
  split
  · rename_i he
    rw [List.dropWhile_cons_of_neg (by simp [hm]), List.isEmpty_iff.mp he, List.nil_append]
  · rfl

/-- The characters of a fragment that count. -/
def keptFragment (rest : List Char) : List Char := rest.filter fun c => !isDropped c

theorem cleaned_append_hash :
    cleaned (text ++ '#' :: rest) = cleaned text ++ '#' :: keptFragment rest := by
  rw [cleaned, cleaned, dropWhile_append_mark (by decide), List.filter_append]
  rfl

theorem hash_notMem_cleaned (h : '#' ∉ text) : '#' ∉ cleaned text := fun hc =>
  h ((List.dropWhile_suffix _).subset (List.mem_filter.mp hc).1)

theorem before_append {mark : Char} (h : mark ∉ text) :
    before (· = mark) (text ++ mark :: rest) = (text, mark :: rest) := by
  have ha : ∀ c ∈ text, (!decide (c = mark)) = true := fun c hc => by
    simpa using fun he : c = mark => h (he ▸ hc)
  rw [before, List.takeWhile_append_of_pos ha, List.dropWhile_append_of_pos ha,
    List.takeWhile_cons_of_neg (by simp), List.dropWhile_cons_of_neg (by simp), List.append_nil]

theorem splitScheme_of_notMem (h : ':' ∉ text) : splitScheme default text = (default, text) := by
  have hd : text.dropWhile (fun c => !decide (c = ':')) = [] := by
    rw [List.dropWhile_eq_nil_iff]
    exact fun c hc => by simpa using fun he : c = ':' => h (he ▸ hc)
  unfold splitScheme before
  rw [hd]
  split
  · rename_i he
    cases (Prod.mk.inj he).2
  · rfl

theorem splitScheme_append_hash (h : '#' ∉ text) : splitScheme default (text ++ '#' :: rest) =
    ((splitScheme default text).1, (splitScheme default text).2 ++ '#' :: rest) := by
  by_cases hc : ':' ∈ text
  · obtain ⟨name, tail, rfl, hn⟩ := List.eq_append_cons_of_mem hc
    rw [List.append_assoc, List.cons_append]
    unfold splitScheme
    rw [before_append hn, before_append hn]
    cases name with
    | nil => rfl
    | cons first others =>
      cases hf : first.isAlpha && others.all isSchemeChar with
      | true => simp only [hf, if_true]
      | false => simp [hf]
  · rw [splitScheme_of_notMem hc]
    unfold splitScheme
    split
    · -- without a colon before it, the hash sign would stand in the name of the scheme
      rename_i first others tail he
      have hm : '#' ∈ first :: others := by
        rw [← (Prod.mk.inj he).1, List.takeWhile_append_of_pos fun c hm => by
          simpa using fun he : c = ':' => hc (he ▸ hm), List.takeWhile_cons_of_pos (by decide)]
        exact List.mem_append_right _ List.mem_cons_self
      rw [if_neg]
      rw [Bool.and_eq_true, List.all_eq_true]
      rintro ⟨hf, ho⟩
      rcases List.mem_cons.mp hm with rfl | hm
      · cases hf
      · cases ho _ hm
    · rfl

theorem splitAuthority_of_ne (h : ∀ tail, text ≠ '/' :: '/' :: tail) :
    splitAuthority text = ([], text) := by
  unfold splitAuthority
  split
  · exact absurd rfl (h _)
  · rfl

theorem splitAuthority_append_hash : splitAuthority (text ++ '#' :: rest) =
    ((splitAuthority text).1, (splitAuthority text).2 ++ '#' :: rest) := by
  by_cases hs : ∃ tail, text = '/' :: '/' :: tail
  · obtain ⟨tail, rfl⟩ := hs
    simp only [List.cons_append, splitAuthority, before]
    rw [takeWhile_append_mark (by decide), dropWhile_append_mark (by decide)]
  · have hn : ∀ tail, text ++ '#' :: rest ≠ '/' :: '/' :: tail := by
      intro tail he
      rcases text with _ | ⟨c, _ | ⟨d, text⟩⟩
      · cases (List.cons.inj he).1
      · cases (List.cons.inj (List.cons.inj he).2).1
      · simp only [List.cons_append, List.cons.injEq] at he
        obtain ⟨rfl, rfl, -⟩ := he
        exact hs ⟨text, rfl⟩
    rw [splitAuthority_of_ne hn, splitAuthority_of_ne fun tail he => hs ⟨tail, he⟩]

theorem cut_append_mark {mark : Char} (h : mark ∉ text) :
    cut mark (text ++ mark :: rest) = (text, rest) := by
  have hb := @before_append text rest mark h
  simp only [before, Prod.mk.injEq] at hb
  simp only [cut, ne_eq, decide_not, hb, List.drop_one, List.tail_cons]

theorem cut_of_notMem {mark : Char} (h : mark ∉ text) : cut mark text = (text, []) := by
  have ha : ∀ c ∈ text, decide (c ≠ mark) = true := fun c hc =>
    decide_eq_true fun he => h (he ▸ hc)
  rw [cut, List.takeWhile_eq_self_iff.mpr ha, List.dropWhile_eq_nil_iff.mpr ha, List.drop_nil]

theorem hash_notMem_splitScheme (h : '#' ∉ text) : '#' ∉ (splitScheme default text).2 := by
  unfold splitScheme
  split
  · rename_i first others tail he
    split
    · have hs : ':' :: tail <:+ text := by
        rw [← (Prod.mk.inj he).2]
        exact List.dropWhile_suffix _
      exact fun hm => h (hs.subset (List.mem_cons_of_mem _ hm))
    · exact h
  · exact h

theorem hash_notMem_splitAuthority (h : '#' ∉ text) : '#' ∉ (splitAuthority text).2 := by
  unfold splitAuthority
  split
  · rename_i rest
    exact fun hm => h (List.mem_cons_of_mem _ (List.mem_cons_of_mem _
      ((List.dropWhile_suffix _).subset hm)))
  · exact h

/-- A fragment is a part of its own. -/
theorem ofText_append_hash (h : '#' ∉ text) : Parts.ofText default (text ++ '#' :: rest) =
    (Parts.ofText default text).map fun parts =>
      { parts with fragment := keptFragment rest } := by
  have hs := @hash_notMem_splitScheme _ default (hash_notMem_cleaned h)
  have ha := hash_notMem_splitAuthority hs
  simp only [Parts.ofText, cleaned_append_hash, splitScheme_append_hash (hash_notMem_cleaned h),
    splitAuthority_append_hash, cut_append_mark ha, cut_of_notMem ha, bind, Except.bind]
  split
  · rfl
  · split <;> rfl

end Append

/-- Whether a URL has an authority and is what its parts are written as. -/
def IsWhole (url : List Char) : Prop :=
  ∃ parts, Parts.ofText [] url = .ok parts ∧ parts.authority ≠ [] ∧ parts.toText = url

/-- Whether a text is nothing or a fragment with its mark. -/
def IsTail (rest : List Char) : Prop := rest = [] ∨ ∃ fragment, rest = '#' :: fragment

section Whole

theorem fragment_ofText (h : '#' ∉ text) (hp : Parts.ofText default text = .ok parts) :
    parts.fragment = [] := by
  have ha := hash_notMem_splitAuthority (@hash_notMem_splitScheme _ default (hash_notMem_cleaned h))
  simp only [Parts.ofText, cut_of_notMem ha, bind, Except.bind] at hp
  split at hp
  · cases hp
  · split at hp <;> cases hp
    rfl

/-- What names a scheme is divided the same whatever stands in for a scheme. -/
theorem ofText_default (h : NamesScheme text) (default : List Char) :
    Parts.ofText default text = Parts.ofText [] text := by
  rcases splitScheme_cases default (cleaned text) with ⟨hn, -⟩ | ⟨-, hs⟩
  · exact absurd hn h
  · rw [Parts.ofText, Parts.ofText, hs]

theorem withoutFragment_of_notMem (h : '#' ∉ url) : withoutFragment url = .ok url :=
  if_neg (by simpa using h)

theorem withoutFragment_append (h : '#' ∉ url) (hw : IsWhole url) (hr : IsTail rest) :
    withoutFragment (url ++ rest) = .ok url := by
  rcases hr with rfl | ⟨fragment, rfl⟩
  · rw [List.append_nil, withoutFragment_of_notMem h]
  · obtain ⟨parts, hp, -, ht⟩ := hw
    have hf : { parts with fragment := [] : Parts } = parts := by
      rw [← fragment_ofText h hp]
    rw [withoutFragment, if_pos (by simp), ofText_append_hash h, hp]
    exact congrArg Except.ok ((congrArg Parts.toText hf).trans ht)

theorem toText_withFragment (hf : parts.fragment = []) (fragment : List Char) :
    { parts with fragment : Parts }.toText = parts.toText ++ marked '#' fragment := by
  have hnil : marked '#' [] = [] := rfl
  simp only [Parts.toText, hf, hnil, List.append_nil, List.append_assoc]

theorem isTail_marked (fragment : List Char) : IsTail (marked '#' fragment) := by
  cases fragment with
  | nil => exact .inl rfl
  | cons c rest => exact .inr ⟨c :: rest, rfl⟩

theorem ofText_append_tail (h : '#' ∉ url) (hn : NamesScheme url)
    (hp : Parts.ofText [] url = .ok parts) (hr : IsTail rest) (default : List Char) :
    ∃ fragment, Parts.ofText default (url ++ rest) = .ok { parts with fragment } := by
  rcases hr with rfl | ⟨fragment, rfl⟩
  · exact ⟨parts.fragment, by rw [List.append_nil, ofText_default hn, hp]⟩
  · exact ⟨keptFragment fragment, by rw [ofText_append_hash h, ofText_default hn, hp]; rfl⟩

theorem IsHttp.hasAuthority {scheme : List Char} (h : IsHttp scheme) :
    hasAuthority scheme = true := by
  rcases h with rfl | rfl <;> decide

theorem join_eq {base reference : List Char} {whole : Parts} (hb : base ≠ []) (hr : reference ≠ [])
    (hw : Parts.ofText [] base = .ok whole) (hp : Parts.ofText whole.scheme reference = .ok parts) :
    join base reference =
      if parts.scheme ≠ whole.scheme || !isRelative parts.scheme then .ok reference
      else .ok (whole.complete parts).toText := by
  have hb : base.isEmpty = false := by simpa using hb
  have hr : reference.isEmpty = false := by simpa using hr
  simp only [join, hb, hr, hw, hp, bind, Except.bind, Bool.false_eq_true, if_false]
  rfl

/-- In a remote document, a whole URL is joined to itself, and keeps a fragment. -/
theorem join_whole {base : String} (hb : isRemote base = true)
    (hd : ∃ parts, Parts.ofText [] base.toList = .ok parts) (hn : NamesScheme url) (h : '#' ∉ url)
    (hw : IsWhole url) (hr : IsTail rest) :
    ∃ tail, IsTail tail ∧ join base.toList (url ++ rest) = .ok (url ++ tail) := by
  obtain ⟨scheme, after, hs, he⟩ := exists_http_of_isRemote hb
  obtain ⟨whole, hwhole⟩ := hd
  obtain ⟨parts, hp, ha, ht⟩ := hw
  have hbase : base.toList ≠ [] := by simp [he]
  have hreference : url ++ rest ≠ [] := by
    cases url with
    | nil => exact absurd rfl hn
    | cons c others => exact List.cons_ne_nil _ _
  have hscheme : whole.scheme = scheme := by rw [scheme_ofText hwhole, he, scheme_http hs]
  obtain ⟨fragment, hf⟩ := ofText_append_tail h hn hp hr whole.scheme
  rw [join_eq hbase hreference hwhole hf]
  split
  · exact ⟨rest, hr, rfl⟩
  · rename_i hsame
    have hsame : parts.scheme = scheme := by
      rw [Bool.or_eq_true, not_or] at hsame
      simpa [hscheme] using hsame.1
    have hauthority : hasAuthority parts.scheme = true := hsame ▸ hs.hasAuthority
    have hcomplete : whole.complete { parts with fragment } = { parts with fragment } := by
      rw [Parts.complete, if_pos]
      simpa [hauthority] using ha
    refine ⟨marked '#' fragment, isTail_marked fragment, ?_⟩
    rw [hcomplete, toText_withFragment (fragment_ofText h hp), ht]

end Whole

section Length

theorem cut_isPrefix (mark : Char) (text : List Char) :
    (cut mark text).1 ++ marked mark (cut mark text).2 <+: text := by
  by_cases h : mark ∈ text
  · obtain ⟨front, tail, rfl, hf⟩ := List.eq_append_cons_of_mem h
    rw [cut_append_mark hf]
    cases tail with
    | nil => exact (List.prefix_append_right_inj front).mpr List.nil_prefix
    | cons c others => exact List.prefix_rfl
  · rw [cut_of_notMem h]
    exact (List.append_nil text).symm ▸ List.prefix_append text []

theorem splitParameters_isPrefix (path : List Char) :
    (splitParameters path).1 ++ marked ';' (splitParameters path).2 <+: path := by
  have hs : (path.reverse.takeWhile (· ≠ '/')).reverse <:+ path := by
    rw [← List.reverse_prefix, List.reverse_reverse]
    exact List.takeWhile_prefix _
  obtain ⟨front, hf⟩ := hs
  simp only [splitParameters]
  generalize (path.reverse.takeWhile (· ≠ '/')).reverse = last at hf ⊢
  have hl : path.length - last.length = front.length := by
    rw [← hf, List.length_append]
    omega
  rw [hl, ← hf, List.take_left, List.append_assoc]
  exact (List.prefix_append_right_inj front).mpr (cut_isPrefix ';' last)

/-- The parts of a URL with an authority stand in it in turn, and its path begins with a slash. -/
theorem ofText_http {scheme : List Char} (hs : IsHttp scheme)
    (h : Parts.ofText [] (scheme ++ ':' :: '/' :: '/' :: rest) = .ok parts) :
    parts.scheme = scheme ∧
      parts.authority.length + (parts.path ++ marked ';' parts.parameters).length +
        (marked '?' parts.query).length ≤ rest.length ∧
      ∀ c ∈ (parts.path ++ marked ';' parts.parameters).head?, c = '/' := by
  have hc : splitScheme [] (cleaned (scheme ++ ':' :: '/' :: '/' :: rest)) =
      (scheme, '/' :: '/' :: keptFragment rest) := by
    rcases hs with rfl | rfl <;> rfl
  have hm : hasParameters scheme = true := by
    rcases hs with rfl | rfl <;> decide
  have hk : (keptFragment rest).length ≤ rest.length := List.length_filter_le _ _
  simp only [Parts.ofText, hc, hm, splitAuthority, before, if_true, bind, Except.bind] at h
  split at h
  · cases h
  split at h
  · cases h
  cases h
  refine ⟨rfl, ?_, ?_⟩
  all_goals dsimp only
  all_goals
    generalize ht : (keptFragment rest).dropWhile (fun c => !endsPart c) = tail
    have hf := cut_isPrefix '#' tail
    have hq := cut_isPrefix '?' (cut '#' tail).1
    have hp := splitParameters_isPrefix (cut '?' (cut '#' tail).1).1
  · have hl := congrArg List.length (@List.takeWhile_append_dropWhile _ (fun c => !endsPart c)
      (keptFragment rest))
    have hf := hf.length_le
    have hq := hq.length_le
    have hp := hp.length_le
    rw [ht, List.length_append] at hl
    rw [List.length_append] at hf hq
    omega
  · intro c hc
    obtain ⟨others, ho⟩ := List.head?_eq_some_iff.mp hc
    rw [ho] at hp
    have hpath : c ∈ (cut '?' (cut '#' tail).1).1 := hp.subset List.mem_cons_self
    have hquery : c ≠ '?' := by simpa using List.mem_takeWhile_imp hpath
    have hfragment : c ≠ '#' := by
      simpa using List.mem_takeWhile_imp (cut_fst_subset '?' _ hpath)
    obtain ⟨behind, hb⟩ := (hp.trans (List.takeWhile_prefix _)).trans (List.takeWhile_prefix _)
    have he := List.head?_dropWhile_not (fun c => !endsPart c) (keptFragment rest)
    rw [ht, ← hb] at he
    simpa [endsPart, hquery, hfragment] using he

/-- Without its fragment, a remote reference is no longer than with it. -/
theorem length_withoutFragment_le {text : String} (hr : isRemote text = true)
    (h : withoutFragment text.toList = .ok url) : url.length ≤ text.toList.length := by
  obtain ⟨scheme, rest, hs, he⟩ := exists_http_of_isRemote hr
  unfold withoutFragment at h
  split at h
  · simp only [bind, Except.bind] at h
    split at h
    · cases h
    rename_i parts hp
    cases h
    rw [he] at hp
    obtain ⟨hscheme, hlength, hhead⟩ := ofText_http hs hp
    have hnil : marked '#' [] = [] := rfl
    have hsome : parts.scheme.isEmpty = false := by simpa [hscheme] using hs.ne_nil
    have hauthority : hasAuthority parts.scheme = true := hscheme ▸ hs.hasAuthority
    have hslash (path : List Char) (h : ∀ c ∈ path.head?, c = '/') :
        (if !path.isEmpty && path.head? ≠ some '/' then '/' :: path else path) = path := by
      cases path with
      | nil => rfl
      | cons c others =>
        obtain rfl := h c rfl
        rfl
    rw [Parts.toText]
    dsimp only
    rw [hslash _ hhead, hsome, hauthority, hnil, he, ← hscheme]
    simp only [Bool.not_false, Bool.and_self, Bool.or_true, Bool.true_or, if_true,
      Bool.false_eq_true, if_false, List.append_nil, List.length_append, List.length_cons]
      at hlength ⊢
    omega
  · cases h
    exact Nat.le_refl _

end Length

end DocScript.Url

namespace DocScript.Location

variable {origin : Option String} {url rest : String} {line : Line}

/-- Whether an origin can be divided if it is a URL. -/
def IsDivided (origin : Option String) : Prop :=
  ∀ base, origin = some base → Url.isRemote base = true →
    ∃ parts, Url.Parts.ofText [] base.toList = .ok parts

theorem ofUrl_of_urlOf {chars path : List Char} {reference : String}
    (hu : urlOf origin reference = .ok chars) (hp : Url.path chars = .ok path)
    (hd : namesDocument path = true) :
    ofUrl .async origin reference line = .ok (.remote (String.ofList chars)) := by
  have hu := ofMalformed_eq_ok.mpr hu
  have hp := ofMalformed_eq_ok.mpr hp
  simp only [ofUrl, hu, hp, hd, bind, Except.bind]
  rfl

theorem isRemote_append (hr : Url.isRemote url = true) (rest : String) :
    Url.isRemote (url ++ rest) = true := by
  obtain ⟨scheme, after, hs, he⟩ := Url.exists_http_of_isRemote hr
  have ht := Url.isRemote_http hs (after ++ rest.toList)
  rwa [← List.cons_append, ← List.cons_append, ← List.cons_append, ← List.append_assoc, ← he,
    ← String.toList_append, String.ofList_toList] at ht

/-- A whole URL names itself from anywhere, with a fragment or without. -/
theorem urlOf_of_isWhole (hr : Url.isRemote url = true) (hh : '#' ∉ url.toList)
    (hw : Url.IsWhole url.toList) (ho : IsDivided origin) (ht : Url.IsTail rest.toList) :
    urlOf origin (url ++ rest) = .ok url.toList := by
  obtain ⟨tail, htail, hc⟩ : ∃ tail, Url.IsTail tail ∧
      completed origin (url ++ rest) = .ok (url.toList ++ tail) := by
    unfold completed
    rw [String.toList_append]
    split
    · rename_i base
      split
      · rename_i hb
        exact Url.join_whole hb (ho base rfl hb) (Url.namesScheme_of_isRemote hr) hh hw ht
      · exact ⟨rest.toList, ht, rfl⟩
    · exact ⟨rest.toList, ht, rfl⟩
  rw [urlOf, hc]
  exact Url.withoutFragment_append hh hw htail

/-- Outside remote documents, a remote reference is not joined to anything. -/
theorem urlOf_of_local (ho : isRemote origin = false) (reference : String) :
    urlOf origin reference = Url.withoutFragment reference.toList := by
  have hc : completed origin reference = .ok reference.toList := by
    unfold completed
    split
    · rw [if_neg (by simpa [isRemote] using ho)]
    · rfl
  rw [urlOf, hc]
  rfl

/-- Outside remote documents, a URL is named by a remote reference with or without a fragment. -/
theorem withoutFragment_of_ofReference {world : World} {mode : Mode} {reference : String}
    (ho : isRemote origin = false)
    (h : ofReference world mode origin reference line = .ok (.remote url)) :
    Url.isRemote reference = true ∧ Url.withoutFragment reference.toList = .ok url.toList := by
  unfold ofReference at h
  split at h
  · rename_i hr
    rw [ho, Bool.or_false] at hr
    obtain ⟨chars, -, he, -, hu, -⟩ := ofUrl_eq_ok h
    cases he
    rw [urlOf_of_local ho] at hu
    rw [String.toList_ofList]
    exact ⟨hr, hu⟩
  · obtain ⟨directory, -, hf⟩ := Result.map_eq_ok.mp (Result.ofFault_eq_ok.mp h)
    cases hf

theorem ofReference_of_urlOf {world : World} {path : List Char} {reference : String}
    (hr : Url.isRemote reference = true) (hu : urlOf origin reference = .ok url.toList)
    (hp : Url.path url.toList = .ok path) (hd : namesDocument path = true) :
    ofReference world .async origin reference line = .ok (.remote url) := by
  rw [ofReference, hr, Bool.true_or, if_pos rfl, ofUrl_of_urlOf hu hp hd, String.ofList_toList]

end DocScript.Location
