import DocScript.Proofs.Machine.Loading

/-! # Fetches

Servers are asked for URLs that are known to be remote. Apart from these they are asked only for
what a remote document refers to by another scheme than its own, and that is asked for as it is
written. What comes from there is not known to be remote, and its references are to files.
-/

namespace DocScript.Machine

/-- Every URL that a task fetches is known to be remote, or it is a reference with another scheme
than the remote document in which a call has it. -/
theorem fetched_isRemote_or_written (world : World) (task : Task) (session : Session)
    (library : Library) (n : Nat) :
    let moment k := run world task.mode k (task.start world session library)
    ∀ url ∈ (moment n).fetches,
      Url.isRemote url = true ∨ ∃ k < n, ∃ caller name text arguments line,
        (moment k).Calls caller name (some text) arguments line ∧
        Location.NamesOtherScheme caller.origin text ∧
        Url.withoutFragment text.toList = .ok url.toList := by
  intro moment url h
  have hs : (task.start world session library).store.requests = [] :=
    (task.quiet_start world session library).requests
  rw [fetches, Store.fetches_eq] at h
  obtain ⟨location, hm, hl⟩ := List.mem_filterMap.mp h
  obtain ⟨k, hk, caller, name, reference, arguments, line, hc, text, rfl, -, ho⟩ :=
    exists_seeks_of_mem_requests hs hm
  cases location with
  | file path => cases hl
  | remote found =>
    cases hl
    rcases Location.isRemote_of_ofReference ho with hr | ⟨hn, hw⟩
    · exact .inl hr
    · exact .inr ⟨k, hk, caller, name, text, arguments, line, hc, hn, hw⟩

section Example

/-- A world with a file, and a server that has a document at a URL in capitals. The document refers
to the path of the file. -/
def shouting : World where
  read path :=
    if path = "/etc/secret.md" then .ok "# g\n\n**\x7btrue\x7d**"
    else .error (.failed "missing")
  fetch url :=
    if url = "HTTP://g/a.md" then .ok ⟨200, "# f\n\n[](/etc/secret.md#g)"⟩ else .ok ⟨404, ""⟩
  directory := .ok .root
  suspends := false

/-- A remote document that refers to the one in capitals. -/
def listener : Program where
  functions := [⟨"main", [], [.call "f" (some "HTTP://g/a.md") [] (some 3)]⟩]
  origin := some "https://h/m.md"

def listening : Task := .function listener "main" [] .async

/-- The URL in capitals is fetched as it is written, so that its document has a file read. -/
theorem fetched_in_capitals :
    let ended := run shouting .async 20 (listening.start shouting (.start [] none) .empty)
    ended.isRunning = false ∧ ended.fetches = ["HTTP://g/a.md"] ∧
      Url.isRemote "HTTP://g/a.md" = false ∧ ended.reads = ["/etc/secret.md"] ∧
      ended.output.map Value.text = [Points.ofString "true"] := by
  decide +kernel

theorem written_in_capitals :
    let moment k := run shouting listening.mode k (listening.start shouting (.start [] none) .empty)
    "HTTP://g/a.md" ∈ (moment 20).fetches ∧ ∃ k < 20, ∃ caller name text arguments line,
      (moment k).Calls caller name (some text) arguments line ∧
      Location.NamesOtherScheme caller.origin text ∧
      Url.withoutFragment text.toList = .ok "HTTP://g/a.md".toList := by
  intro moment
  have hm : "HTTP://g/a.md" ∈ (moment 20).fetches := by decide +kernel
  have hr : Url.isRemote "HTTP://g/a.md" = false := by decide +kernel
  refine ⟨hm, ?_⟩
  rcases fetched_isRemote_or_written shouting listening (.start [] none) .empty 20 _ hm with h | h
  · rw [hr] at h
    cases h
  · exact h

end Example

end DocScript.Machine
