import DocScript.Proofs.Location.Normal
import DocScript.Proofs.Location.Percent
import DocScript.Proofs.Program.Comments

/-! # What links call

A link names a function by what stands behind the last hash sign of its URL, and a document by what
stands before it. Both are decoded after they have been divided, so that every function of every
document has a URL that names it.
-/

namespace DocScript

open Markdown (Node Content)
open Url (escape unquote)

section Target

variable {url reference name : String}

theorem readTarget_of_notMem (h : '#' ∉ url.toList) : readTarget url = (none, unquote url) := by
  have ht : url.toList.reverse.takeWhile (· ≠ '#') = url.toList.reverse := by
    rw [List.takeWhile_eq_self_iff]
    intro c hc
    exact decide_eq_true fun he => h (he ▸ List.mem_reverse.mp hc)
  rw [readTarget]
  simp only [ht, List.reverse_reverse, Nat.lt_irrefl, if_false]

/-- A URL is divided at its last hash sign. -/
theorem readTarget_append (reference : String) (h : '#' ∉ name.toList) :
    readTarget (reference ++ "#" ++ name) =
      (if unquote reference = "" then none else some (unquote reference), unquote name) := by
  have hl : (reference ++ "#" ++ name).toList = reference.toList ++ '#' :: name.toList := by
    simp
  have ht : ((reference.toList ++ '#' :: name.toList).reverse.takeWhile (· ≠ '#')).reverse =
      name.toList := by
    rw [List.reverse_append, List.reverse_cons, List.append_assoc,
      List.takeWhile_append_of_pos, List.singleton_append, List.takeWhile_cons_of_neg (by simp),
      List.append_nil, List.reverse_reverse]
    intro c hc
    exact decide_eq_true fun he => h (he ▸ List.mem_reverse.mp hc)
  have hn : (reference.toList ++ '#' :: name.toList).length - name.toList.length - 1 =
      reference.toList.length := by
    rw [List.length_append, List.length_cons]
    omega
  rw [readTarget, hl]
  simp only [ht, hn, List.take_left, String.ofList_toList]
  rw [if_pos]
  rw [List.length_append, List.length_cons]
  omega

end Target

/-- Whether a node is a paragraph of one link with a text, blank text beside it aside. -/
def Markdown.Node.IsLink (node : Node) (url text : String) : Prop :=
  node.content = .paragraph ∧
    ∃ link, node.span? = some link ∧ link.content = .link url ∧ link.plainText = text

/-- Whether a block is read as a call wherever it stands in a function. The arguments are those in
a text, and if one of them is no expression, the reading fails there. -/
def Markdown.Node.IsCall (node : Node) (name : String) (reference : Option String) (text : String) :
    Prop :=
  ∀ (outline : Outline) (draft : Draft), outline.current = some draft →
    outline.add node = ((splitArguments text).mapM (parseAt node.line)).map fun arguments =>
      outline.withDraft (draft.push (.call name reference arguments node.line))

theorem readParagraph_of_isLink {node : Node} {url text : String} (h : node.IsLink url text) :
    readParagraph node = (readCall node.line url text).map some := by
  obtain ⟨-, link, hs, hl, rfl⟩ := h
  rw [readParagraph_eq, hs]
  simp only [readSpan, hl]

theorem isCall_of_isLink {node : Node} {url text name : String} {reference : Option String}
    (h : node.IsLink url text) (ht : readTarget url = (reference, name)) :
    node.IsCall name reference text := by
  intro outline draft hd
  have hn : node.content ≠ .heading (some 1) := by simp [h.1]
  rw [Outline.add, if_neg hn, hd]
  simp only [Outline.addToDraft, h.1, readParagraph_of_isLink h, readCall, ht]
  cases (splitArguments text).mapM (parseAt node.line) <;> rfl

theorem exists_find?_of_mem_names {program : Program} {name : String} (h : name ∈ program.names) :
    ∃ f, program.find? name = some f := by
  obtain ⟨f, hf, rfl⟩ := List.mem_map.mp h
  exact Option.isSome_iff_exists.mp (List.find?_isSome.mpr ⟨f, hf, by simp⟩)

theorem ofReference_of_isNormal {path directory : String} (hp : Path.IsNormal path.toList)
    {world : World} (mode : Mode) {origin : Option String} (ho : Location.isRemote origin = false)
    (hb : Location.base world origin = .ok directory) (line : Line) :
    Location.ofReference world mode origin path line = .ok (.file path) := by
  obtain ⟨ha, hn⟩ := hp
  have hr : Url.isRemote path = false := by
    rw [← @String.ofList_toList path, ← hn]
    exact Path.isRemote_normalize _
  have hf : Location.ofFile directory path = .file path := by
    rw [Location.ofFile, Path.join, if_pos ha, hn, String.ofList_toList]
  rw [Location.ofReference_of_not_isRemote hr ho, hb, Except.map, hf]
  rfl

section Addresses

variable {world : World} {mode : Mode} {program target : Program} {name path : String}
  {line : Line} {store store' : Store}

/-- A call without a reference finds each function of the program in which it stands. -/
theorem exists_resolve_of_mem_names (h : name ∈ program.names) :
    ∃ f, program.find? name = some f ∧
      ∀ world mode line store, Store.resolve world mode program name none line store =
        (.ok (program, f), store) := by
  obtain ⟨f, hf⟩ := exists_find?_of_mem_names h
  refine ⟨f, hf, fun world mode line store => ?_⟩
  simp only [Store.resolve, Option.filter_none, hf]

/-- A call that refers to a document by its path finds each function of the document. -/
theorem exists_resolve_of_load (hp : Path.IsNormal path.toList)
    (ho : Location.isRemote program.origin = false) {directory : String}
    (hb : Location.base world program.origin = .ok directory)
    (hl : store.load world path (.file path) line = (.ok target, store'))
    (h : name ∈ target.names) :
    ∃ f, target.find? name = some f ∧
      store.resolve world mode program name (some path) line = (.ok (target, f), store') := by
  obtain ⟨f, hf⟩ := exists_find?_of_mem_names h
  have hn : path ≠ "" := by
    rintro rfl
    cases hp.1
  have hs : (some path).filter (· ≠ "") = some path := by simpa using hn
  refine ⟨f, hf, ?_⟩
  simp only [Store.resolve, hs, ofReference_of_isNormal hp mode ho hb line, hl, hf]

end Addresses

/-- Whatever a document and a function are called, a link with both names encoded is read as the
call of the function in the document, and a link with the name of a function alone as its call
without a reference. Such calls find every function of the program in which they stand, and, from
any program that is no remote document and has a directory, every function of a document that is
kept as a file. -/
theorem escaped_link_calls (reference name text : String) (node : Node) :
    (node.IsLink (escape reference ++ "#" ++ escape name) text →
      node.IsCall name (if reference = "" then none else some reference) text) ∧
    (node.IsLink (escape name) text → node.IsCall name none text) ∧
    (∀ program : Program, name ∈ program.names →
      ∃ f, program.find? name = some f ∧
        ∀ world mode line store, Store.resolve world mode program name none line store =
          (.ok (program, f), store)) ∧
    ∀ (program : Program), Location.isRemote program.origin = false →
      Path.IsNormal reference.toList →
      ∀ (world : World) (directory : String), Location.base world program.origin = .ok directory →
      ∀ (mode : Mode) (line : Line) (store store' : Store) (target : Program),
        store.load world reference (.file reference) line = (.ok target, store') →
        name ∈ target.names →
        ∃ f, target.find? name = some f ∧
          store.resolve world mode program name (some reference) line =
            (.ok (target, f), store') := by
  have hn : '#' ∉ (escape name).toList := fun h => (Url.mem_escape h).2 rfl
  refine ⟨fun h => isCall_of_isLink h ?_, fun h => isCall_of_isLink h ?_,
    fun program h => exists_resolve_of_mem_names h,
    fun program ho hp world directory hb mode line store store' target hl h =>
      exists_resolve_of_load hp ho hb hl h⟩
  · rw [readTarget_append _ hn, Url.unquote_escape, Url.unquote_escape]
  · rw [readTarget_of_notMem hn, Url.unquote_escape]

/-- A paragraph of a link without a text. -/
def linkBlock (url : String) : Node := .mk .paragraph none [.mk (.link url) none []]

theorem isLink_linkBlock (url : String) : (linkBlock url).IsLink url "" := ⟨rfl, _, rfl, rfl, rfl⟩

/-- Signs that divide URLs, signs that begin encoded bytes and letters outside ASCII are encoded. -/
theorem escaped_link_calls_signs :
    (linkBlock "%2F%C3%BC%23%2E%6D%64#%66%25").IsCall "f%" (some "/ü#.md") "" ∧
    (linkBlock "%66%25").IsCall "f%" none "" ∧
    (∃ f : Function, f.name = "f%" ∧
      ∀ world mode line store, Store.resolve world mode ⟨[f], none⟩ "f%" none line store =
        (.ok (⟨[f], none⟩, f), store)) ∧
    ∃ target f, target.find? "f%" = some f ∧
      Store.resolve ⟨fun _ => .error (.failed ""), fun _ => .error (.failed ""), .ok .root, false⟩
        .sync ⟨[], some "/"⟩ "f%" (some "/ü#.md") none ⟨⟨[("/ü#.md", target)]⟩, []⟩ =
          (.ok (target, f), ⟨⟨[("/ü#.md", target)]⟩, []⟩) := by
  have hr : escape "/ü#.md" = "%2F%C3%BC%23%2E%6D%64" := by decide +kernel
  have hn : escape "f%" = "%66%25" := by decide +kernel
  have hboth := (escaped_link_calls "/ü#.md" "f%" "" (linkBlock "%2F%C3%BC%23%2E%6D%64#%66%25")).1
  obtain ⟨-, hname, hown, hfile⟩ := escaped_link_calls "/ü#.md" "f%" "" (linkBlock "%66%25")
  rw [hr, hn] at hboth
  rw [hn] at hname
  refine ⟨hboth (isLink_linkBlock _), hname (isLink_linkBlock _), ?_, ?_⟩
  · obtain ⟨f, hf, hresolve⟩ := hown ⟨[⟨"f%", [], []⟩], none⟩ (by decide)
    cases hf
    exact ⟨_, rfl, hresolve⟩
  · have hp : Path.IsNormal "/ü#.md".toList := ⟨by decide, by decide +kernel⟩
    exact ⟨⟨[⟨"f%", [], []⟩], some "/"⟩,
      hfile _ (by decide +kernel) hp _ _ rfl _ _ _ _ _ rfl (by decide)⟩

end DocScript
