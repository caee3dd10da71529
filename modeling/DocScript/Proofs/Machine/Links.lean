import DocScript.Proofs.Location.Fragment
import DocScript.Proofs.Machine.Stores
import DocScript.Proofs.Program.Links

/-! # Links to remote documents

A link names a remote document by a URL. The URL is decoded, joined to that of the document in which
the link stands, and cut at its fragment, before it is asked for. A URL without encoded bytes is
asked for as it is written. One with encoded bytes is not.
-/

namespace DocScript

open Url (HasEscape IsWhole IsTail unquote)

theorem exists_last_hash {text : String} (h : '#' ∈ text.toList) :
    ∃ front name, text = front ++ "#" ++ name ∧ '#' ∉ name.toList := by
  obtain ⟨name, front, he, hn⟩ := List.eq_append_cons_of_mem (List.mem_reverse.mpr h)
  refine ⟨String.ofList front.reverse, String.ofList name.reverse, ?_, by simpa using hn⟩
  apply String.toList_injective
  rw [← @List.reverse_reverse _ text.toList, he]
  simp

/-- A fragment that a name stands in is divided from the name at the last hash sign. -/
theorem exists_readTarget {url : String} (hu : ¬HasEscape url.toList) (hn : url ≠ "")
    (fragment : String) :
    ∃ rest name, readTarget (url ++ "#" ++ fragment) = (some (url ++ rest), name) ∧
      IsTail rest.toList ∧ ('#' ∉ fragment.toList → rest = "") := by
  by_cases hf : '#' ∈ fragment.toList
  · obtain ⟨front, name, rfl, hname⟩ := exists_last_hash hf
    refine ⟨"#" ++ unquote front, unquote name, ?_, .inr ⟨(unquote front).toList, by simp⟩,
      fun hm => absurd hf hm⟩
    have ht := readTarget_append (url ++ "#" ++ front) hname
    rw [Url.unquote_append_hash hu, if_neg (by simp)] at ht
    simpa only [String.append_assoc] using ht
  · refine ⟨"", unquote fragment, ?_, .inl rfl, fun _ => rfl⟩
    rw [readTarget_append url hf, Url.unquote_of_not_hasEscape hu, if_neg hn, String.append_empty]

namespace Machine

variable {world : World} {m : Machine} {program : Program} {name : String}
  {reference : Option String} {arguments : List Expr} {line : Line} {location : Location}
  {statement : Statement} {url fragment text : String} {path : List Char}

/-- A call of a document that is not in the library asks for the document. -/
theorem Calls.asked (hc : m.Calls program name (some text) arguments line) (hn : text ≠ "")
    (hl : Location.ofReference world .async program.origin text line = .ok location)
    (hm : m.store.library.find? location.key = none) :
    m.store.Asked world location (step world .async m).store := by
  have hp := prepare_store_async world m.session m.store program name (some text) arguments line
  rw [Store.resolve_of_located hn hl name m.store] at hp
  have hq := hc.quiet_step world .async
  rw [hp] at hq
  exact (Store.load_of_missing world text line hm).1.quiet hq

/-- What a call asks for is what its reference names. -/
theorem Calls.locates (hc : m.Calls program name reference arguments line)
    (ha : m.store.Asked world location (step world .async m).store) :
    Store.Locates world .async program reference line location := by
  have hq := (hc.quiet_step world .async).requests
  rw [ha.requests] at hq
  rcases prepare_asks world .async m.session m.store program name reference arguments line with
    he | ⟨other, hl, ho⟩
  · rw [he] at hq
    simp at hq
  · rw [ho.requests] at hq
    have he : location = other := by simpa using hq
    rwa [he]

theorem exists_calls_of_link (hl : readCall line (url ++ "#" ++ fragment) text = .ok statement)
    (hr : m.status = .running) (hn : m.next? = some (program, statement)) :
    ∃ arguments, m.Calls program (readTarget (url ++ "#" ++ fragment)).2
      (readTarget (url ++ "#" ++ fragment)).1 arguments line := by
  obtain ⟨arguments, -, rfl⟩ := Result.map_eq_ok.mp hl
  exact ⟨arguments, hr, hn⟩

/-- A link without encoded bytes asks for its URL if the call of what the link refers to does. -/
theorem asked_of_urlOf (hl : readCall line (url ++ "#" ++ fragment) text = .ok statement)
    (hs : m.status = .running) (hn : m.next? = some (program, statement))
    (hr : Url.isRemote url = true) (hp : Url.path url.toList = .ok path)
    (hd : Location.namesDocument path = true) (hm : m.store.library.find? url = none)
    (he : ¬HasEscape url.toList)
    (hu : ∀ rest : String, IsTail rest.toList → ('#' ∉ fragment.toList → rest = "") →
      Location.urlOf program.origin (url ++ rest) = .ok url.toList) (world : World) :
    m.store.Asked world (.remote url) (step world .async m).store := by
  obtain ⟨arguments, hc⟩ := exists_calls_of_link hl hs hn
  have hne : url ≠ "" := by
    rintro rfl
    cases hr
  obtain ⟨rest, target, ht, htail, hempty⟩ := exists_readTarget he hne fragment
  rw [ht] at hc
  have hreference :
      Location.ofReference world .async program.origin (url ++ rest) line = .ok (.remote url) :=
    Location.ofReference_of_urlOf (Location.isRemote_append hr rest) (hu rest htail hempty) hp hd
  exact hc.asked (fun hn => hne (String.append_eq_empty_iff.mp hn).1) hreference hm

/-- From a document that is not remote, a link asks for its URL decoded, up to the first hash sign
that comes of it. -/
theorem eq_of_asked (hl : readCall line (url ++ "#" ++ fragment) text = .ok statement)
    (hs : m.status = .running) (hn : m.next? = some (program, statement))
    (ho : Location.isRemote program.origin = false) (hf : '#' ∉ fragment.toList) {other : String}
    (ha : m.store.Asked world (.remote other) (step world .async m).store) :
    Url.isRemote (unquote url) = true ∧
      Url.withoutFragment (unquote url).toList = .ok other.toList := by
  obtain ⟨arguments, hc⟩ := exists_calls_of_link hl hs hn
  obtain ⟨text, ht, -, hlocated⟩ := hc.locates ha
  rw [readTarget_append url hf] at ht
  split at ht <;> cases ht
  exact Location.withoutFragment_of_ofReference ho hlocated

/-- A link to a remote document that is not in the library asks for its URL as it is written, and
has what comes kept under it, if no byte is encoded in the URL and it is whole. From a document that
is not remote, a link with one fragment does so if and only if no byte is encoded in the URL, and
what it asks for is the URL decoded, up to the first hash sign that comes of it. -/
theorem asked_of_link (hl : readCall line (url ++ "#" ++ fragment) text = .ok statement)
    (hs : m.status = .running) (hn : m.next? = some (program, statement))
    (hr : Url.isRemote url = true) (hh : '#' ∉ url.toList) (hp : Url.path url.toList = .ok path)
    (hd : Location.namesDocument path = true) (hm : m.store.library.find? url = none)
    (world : World) :
    (¬HasEscape url.toList → IsWhole url.toList → Location.IsDivided program.origin →
      m.store.Asked world (.remote url) (step world .async m).store) ∧
    (Location.isRemote program.origin = false → '#' ∉ fragment.toList →
      (m.store.Asked world (.remote url) (step world .async m).store ↔ ¬HasEscape url.toList) ∧
      ∀ other, m.store.Asked world (.remote other) (step world .async m).store →
        Url.withoutFragment (unquote url).toList = .ok other.toList) := by
  refine ⟨fun he hw ho => ?_, fun ho hf => ⟨⟨fun ha he => ?_, fun he => ?_⟩,
    fun other ha => (eq_of_asked hl hs hn ho hf ha).2⟩⟩
  · apply asked_of_urlOf hl hs hn hr hp hd hm he
    exact fun rest htail _ => Location.urlOf_of_isWhole hr hh hw ho htail
  · -- decoding makes the URL shorter, and cutting off a fragment makes it no longer
    obtain ⟨hremote, hu⟩ := eq_of_asked hl hs hn ho hf ha
    have hshort := Url.length_unquote_lt he
    have hlong := Url.length_withoutFragment_le hremote hu
    omega
  · apply asked_of_urlOf hl hs hn hr hp hd hm he
    intro rest _ hempty
    rw [hempty hf, String.append_empty, Location.urlOf_of_local ho,
      Url.withoutFragment_of_notMem hh]

section Example

/-- About to make the call of a link without a text. -/
def linking (origin : Option String) (url : String) : Machine :=
  start ⟨[⟨"main", [], [.call (readTarget url).2 (readTarget url).1 [] none]⟩], origin⟩ "main" []
    (.start [] none) ⟨.empty, []⟩

/-- A server with one answer to everything. -/
def echoing : World where
  read _ := .error (.failed "")
  fetch _ := .ok ⟨200, "# f\n\n> x"⟩
  directory := .ok .root
  suspends := false

/-- A URL has two fragments, in a document of another scheme. One with an encoded blank is not asked
for. -/
theorem asked_of_link_nested :
    let nested := linking (some "http://g/m.md") "https://h/a.md#b#f"
    let encoded := linking none "https://h/a%20b.md#f"
    nested.store.Asked echoing (.remote "https://h/a.md") (step echoing .async nested).store ∧
      ¬encoded.store.Asked echoing (.remote "https://h/a%20b.md")
        (step echoing .async encoded).store := by
  intro nested encoded
  constructor
  · have hw : IsWhole "https://h/a.md".toList :=
      ⟨⟨"https".toList, "h".toList, "/a.md".toList, [], [], []⟩, by rfl, by decide,
        by decide +kernel⟩
    have ho : Location.IsDivided (some "http://g/m.md") := by
      rintro base ⟨⟩ -
      exact ⟨⟨"http".toList, "g".toList, "/m.md".toList, [], [], []⟩, by rfl⟩
    have he : ¬HasEscape "https://h/a.md".toList := Url.not_hasEscape_of_notMem (by decide)
    have hl : readCall none ("https://h/a.md" ++ "#" ++ "b#f") "" =
        .ok (.call "f" (some "https://h/a.md#b") [] none) := by rfl
    exact (asked_of_link hl rfl rfl (by decide +kernel) (by decide) rfl (by decide +kernel) rfl
      echoing).1 he hw ho
  · have he : HasEscape "https://h/a%20b.md".toList :=
      ⟨'2', '0', ⟨"https://h/a".toList, "b.md".toList, rfl⟩, rfl⟩
    have hl : readCall none ("https://h/a%20b.md" ++ "#" ++ "f") "" =
        .ok (.call "f" (some "https://h/a b.md") [] none) := by rfl
    have ha : encoded.store.Asked echoing (.remote "https://h/a%20b.md")
        (step echoing .async encoded).store ↔ _ :=
      (asked_of_link hl rfl rfl (by decide +kernel) (by decide) rfl (by decide +kernel) rfl
        echoing).2 rfl (by decide) |>.1
    exact fun h => ha.mp h he

/-- An encoded hash sign cuts a URL off where it stands, so that it names no document, and an
encoded blank is asked for as a blank. -/
theorem encoded_link_decoded :
    let ended url := step echoing .async (linking none (url ++ "#f"))
    (∀ url ∈ ["https://h/a%23b.md", "https://h/a%20b.md"],
      Url.isRemote url = true ∧ '#' ∉ url.toList ∧
        ((Url.path url.toList).toOption.map fun path => ".md".toList.isSuffixOf path) = some true ∧
        (linking none (url ++ "#f")).store.library.find? url = none) ∧
    (ended "https://h/a%23b.md").fetches = [] ∧
    (ended "https://h/a%20b.md").fetches = ["https://h/a b.md"] := by
  decide +kernel

end Example

end Machine

end DocScript
