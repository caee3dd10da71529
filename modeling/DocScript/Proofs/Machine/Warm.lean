import DocScript.Proofs.Machine.Origins

/-! # Warm libraries

A run with documents in its library goes like one without, if they are what comes of loading them
and servers have documents only at URLs known to be remote. It only asks for fewer of them.
-/

namespace DocScript

/-- Whether a run with a library asks for a document that one without asks for: if the library does
not have it, or there is none. -/
def Library.stillAsks (library : Library) (world : World) (location : Location) : Bool :=
  (library.find? location.key).isNone || (world.text? location).isNone

namespace Store

variable {world : World} {mode : Mode} {library : Library} {cold warm : Store}
  {reference : String} {location : Location} {line : Line}

/-- What can be found in a cold store or a library can be found in a warm one. -/
structure Warmed (world : World) (library : Library) (cold warm : Store) : Prop where
  found : ∀ key, warm.library.find? key = (cold.library.find? key).or (library.find? key)
  requests : warm.requests = cold.requests.filter (library.stillAsks world)

theorem warmed_start (world : World) (library : Library) :
    Warmed world library ⟨.empty, []⟩ ⟨library, []⟩ := ⟨fun _ => rfl, rfl⟩

theorem Warmed.note (h : Warmed world library cold warm) {event : Event}
    (he : event.asked? = none) : Warmed world library (cold.note event) (warm.note event) where
  found := h.found
  requests := by
    rw [(warm.quiet_note he).requests, (cold.quiet_note he).requests]
    exact h.requests

theorem obtain_result (world : World) (reference : String) (location : Location) (line : Line)
    (store store' : Store) :
    (store.obtain world reference location line).1 =
      (store'.obtain world reference location line).1 := by
  cases location with
  | file path =>
    simp only [obtain, readFile]
    rcases world.read path with (_ | _) | _ <;> rfl
  | remote url =>
    simp only [obtain, fetchUrl]
    rcases world.fetch url with (_ | _) | response
    · rfl
    · rfl
    · dsimp only
      split <;> rfl

theorem keep_result (location : Location) (text : String) (store store' : Store) :
    (store.keep location text).1 = (store'.keep location text).1 := by
  simp only [keep]
  split <;> rfl

/-- What comes of loading a document does not depend on what else is in the library. -/
theorem load_result (world : World) (reference : String) (line : Line) {store store' : Store}
    (h : store.library.find? location.key = none) (h' : store'.library.find? location.key = none) :
    (store.load world reference location line).1 =
      (store'.load world reference location line).1 := by
  have ho := obtain_result world reference location line store store'
  rw [load, load, h, h']
  dsimp only
  rcases hs : store.obtain world reference location line with ⟨result, after⟩
  rcases hs' : store'.obtain world reference location line with ⟨result', after'⟩
  rw [hs, hs'] at ho
  obtain rfl : result = result' := ho
  cases result with
  | error failure => rfl
  | ok text => exact keep_result location text after after'

/-- A document that only the library has: the cold store gets it from the world. -/
theorem Warmed.asked (h : Warmed world library cold warm) {program : Program} {cold' : Store}
    (hp : world.program? location = some program)
    (hl : library.find? location.key = some program) (ha : cold.Asked world location cold') :
    Warmed world library cold' warm where
  found key := by
    by_cases hk : key = location.key
    · rw [hk, h.found, ha.missing, hl, ha.find?_key, hp]
      rfl
    · rw [h.found, ha.find?_of_ne hk]
  requests := by
    obtain ⟨text, ht, -⟩ := World.exists_text_of_program? hp
    rw [h.requests, ha.requests, List.filter_append]
    simp [Library.stillAsks, hl, ht]

/-- A document that neither has: both stores get it from the world. -/
theorem Warmed.bothAsked (h : Warmed world library cold warm) {cold' warm' : Store}
    (hl : library.find? location.key = none) (ha : cold.Asked world location cold')
    (ha' : warm.Asked world location warm') : Warmed world library cold' warm' where
  found key := by
    by_cases hk : key = location.key
    · rw [hk, ha.find?_key, ha'.find?_key, hl, Option.or_none]
    · rw [ha.find?_of_ne hk, ha'.find?_of_ne hk]
      exact h.found key
  requests := by
    rw [ha.requests, ha'.requests, h.requests, List.filter_append]
    simp [Library.stillAsks, hl]

/-- Loading gives the same with a warm store as with a cold one. -/
theorem Warmed.load (h : Warmed world library cold warm) (hw : world.ServesOnlyUrls)
    (ha : library.Agrees world) {origin : Option String}
    (hl : Location.ofReference world mode origin reference line = .ok location) :
    (cold.load world reference location line).1 = (warm.load world reference location line).1 ∧
      Warmed world library (cold.load world reference location line).2
        (warm.load world reference location line).2 := by
  have hf := h.found location.key
  cases hc : cold.library.find? location.key with
  | some program =>
    rw [hc] at hf
    rw [load_of_found hc, load_of_found hf]
    exact ⟨rfl, h⟩
  | none =>
    rw [hc, Option.none_or] at hf
    obtain ⟨hasked, hr⟩ := load_of_missing world reference line hc
    cases hk : library.find? location.key with
    | some program =>
      -- The cold store asks for what the library has, and gets the same.
      rw [hk] at hf
      have hp := ha.program?_eq hw hl hk
      rw [load_of_found hf]
      exact ⟨Result.eq_ok_of_toOption (hr.trans hp), h.asked hp hk hasked⟩
    | none =>
      rw [hk] at hf
      obtain ⟨hasked', -⟩ := load_of_missing world reference line hf
      exact ⟨load_result world reference line hc hf, h.bothAsked hk hasked hasked'⟩

/-- A call finds the same with a warm store as with a cold one. -/
theorem Warmed.resolve (h : Warmed world library cold warm) (hw : world.ServesOnlyUrls)
    (ha : library.Agrees world) (mode : Mode) (program : Program) (name : String)
    (reference : Option String) (line : Line) :
    ∃ result cold' warm', Warmed world library cold' warm' ∧
      cold.resolve world mode program name reference line = (result, cold') ∧
      warm.resolve world mode program name reference line = (result, warm') := by
  unfold Store.resolve
  cases reference.filter (· ≠ "") with
  | none => cases program.find? name <;> exact ⟨_, cold, warm, h, rfl, rfl⟩
  | some text =>
    dsimp only
    cases hl : Location.ofReference world mode program.origin text line with
    | error failure => exact ⟨_, cold, warm, h, rfl, rfl⟩
    | ok location =>
      obtain ⟨hr, h'⟩ := h.load hw ha hl
      dsimp only
      rcases hc : cold.load world text location line with ⟨result, cold'⟩
      rcases hm : warm.load world text location line with ⟨result', warm'⟩
      rw [hc, hm] at hr h'
      obtain rfl : result = result' := hr
      cases result with
      | error failure => exact ⟨_, cold', warm', h', rfl, rfl⟩
      | ok target =>
        dsimp only
        cases target.find? name <;> exact ⟨_, cold', warm', h', rfl, rfl⟩

end Store

namespace Machine

variable {world : World} {library : Library} {m warm : Machine}

theorem prepare_warmed {s s' : Store} (h : s.Warmed world library s') (hw : world.ServesOnlyUrls)
    (ha : library.Agrees world) (mode : Mode) (session : Session) (program : Program)
    (name : String) (reference : Option String) (arguments : List Expr) (line : Line) :
    ∃ result t t', Store.Warmed world library t t' ∧
      prepare world mode session s program name reference arguments line = (result, t) ∧
      prepare world mode session s' program name reference arguments line = (result, t') := by
  unfold prepare
  split
  · exact ⟨_, s, s', h, rfl, rfl⟩
  · obtain ⟨result, t, t', ht, hs, hs'⟩ := h.resolve hw ha mode program name reference line
    rw [hs, hs']
    match result with
    | .error failure => exact ⟨_, t, t', ht, rfl, rfl⟩
    | .ok (target, function) =>
      dsimp only
      cases arguments.mapM fun e => session.eval e line <;> exact ⟨_, t, t', ht, rfl, rfl⟩

theorem Twins.run_warmed (h : Twins (Store.Warmed world library) m warm)
    (hw : world.ServesOnlyUrls) (ha : library.Agrees world) (mode : Mode) (n : Nat) :
    Twins (Store.Warmed world library) (Machine.run world mode n m)
      (Machine.run world mode n warm) := by
  apply h.run
  · intro store store' event he hs
    exact hs.note he
  · intro store store' session program name reference arguments line hs
    exact prepare_warmed hs hw ha mode session program name reference arguments line

theorem twins_start (program : Program) (entry : String) (args : List Value) (session : Session)
    (library : Library) :
    Twins (Store.Warmed world library) (start program entry args session ⟨.empty, []⟩)
      (start program entry args session ⟨library, []⟩) := by
  have hs := Store.warmed_start world library
  unfold start
  split
  · exact ⟨rfl, hs.note rfl⟩
  · exact ⟨rfl, hs⟩

/-- A run with a library that agrees with the world prints, takes from its input and comes to the
same as one without a library. Of the documents that the latter asks for, it asks for those that
the library does not have, or that are not there. It leaves such a library again. -/
theorem warm_run_eq_cold_run (hw : world.ServesOnlyUrls) (ha : library.Agrees world) (mode : Mode)
    (program : Program) (entry : String) (args : List Value) (session : Session) (n : Nat) :
    let cold := run world mode n (start program entry args session ⟨.empty, []⟩)
    let warm := run world mode n (start program entry args session ⟨library, []⟩)
    warm.session = cold.session ∧ warm.activations = cold.activations ∧
    warm.status = cold.status ∧
    warm.store.requests = cold.store.requests.filter (library.stillAsks world) ∧
    (Location.IsBase program.origin → warm.store.library.Agrees world) := by
  intro cold warm
  have h : Twins (Store.Warmed world library) cold warm :=
    (twins_start program entry args session library).run_warmed hw ha mode n
  have hs : warm.session = cold.session := by rw [h.same]; rfl
  have hc : warm.activations = cold.activations := by rw [h.same]; rfl
  have he : warm.status = cold.status := by rw [h.same]; rfl
  exact ⟨hs, hc, he, h.stores.requests, fun hb =>
    ((based_start hb entry args session ha).run hw n).agrees⟩

section Example

/-- The library that a run leaves which has obtained the bait. -/
def baitedLibrary : Library := ⟨(baited.entry? (.remote "http://h/a.md")).toList⟩

theorem agrees_of_isAbsolute {world : World} {location : Location} (h : location.IsAbsolute) :
    (⟨(world.entry? location).toList⟩ : Library).Agrees world :=
  fun _ he => ⟨location, h, Option.mem_toList.mp he⟩

/-- With the bait in its library, a run only asks for what is not there. -/
theorem warm_run_of_visitor :
    baited.ServesOnlyUrls ∧ baitedLibrary.Agrees baited ∧ Location.IsBase visitor.origin ∧
    let cold := run baited .async 9 visiting
    let warm := run baited .async 9 (start visitor "main" [] (.start [] none) ⟨baitedLibrary, []⟩)
    warm.session = cold.session ∧ warm.status = cold.status ∧
    cold.fetches = ["http://h/a.md", "http://h/etc/secret.md"] ∧
    warm.fetches = ["http://h/etc/secret.md"] ∧ warm.store.library.Agrees baited := by
  have hw := servesOnlyUrls_baited
  have ha : baitedLibrary.Agrees baited := agrees_of_isAbsolute trivial
  have hb : Location.IsBase visitor.origin := .inr (by decide +kernel)
  obtain ⟨hs, -, he, -, hl⟩ :=
    warm_run_eq_cold_run hw ha .async visitor "main" [] (.start [] none) 9
  exact ⟨hw, ha, hb, hs, he, by decide +kernel, by decide +kernel, hl hb⟩

/-- A world with a server that has documents at other URLs, of which one has the same name as a
file. -/
def crossed : World where
  read path :=
    if path = "c:d.md" then .ok "# g\n\n**\x7bfalse\x7d**" else .error (.failed "missing")
  fetch url :=
    if url = "c:d.md" then .ok ⟨200, "# g\n\n**\x7btrue\x7d**"⟩
    else if url = "a:b.md" then .ok ⟨200, "# f\n\n[](../c:d.md#g)"⟩
    else .ok ⟨404, ""⟩
  directory := .ok .root
  suspends := false

def crossing : Program where
  functions := [⟨"main", [], [.call "f" (some "a:b.md#f") [] (some 3)]⟩]
  origin := some "http://h/m.md"

/-- The library that a run leaves which has obtained the remote document of that name. -/
def crossedLibrary : Library := ⟨(crossed.entry? (.remote "c:d.md")).toList⟩

/-- A world without remote documents and with a file of the same name. -/
def uncrossed : World where
  read path := if path = "c:d.md" then .ok "# g" else .error (.failed "missing")
  fetch _ := .ok ⟨404, ""⟩
  directory := .ok .root
  suspends := false

def seeking : Program where
  functions := [⟨"main", [], [.call "g" (some "c:d.md#g") [] (some 3)]⟩]
  origin := some "http://h/m.md"

/-- The library that a run leaves which has obtained the file from a relative path. -/
def uncrossedLibrary : Library := ⟨(uncrossed.entry? (.file "c:d.md")).toList⟩

/-- From a URL whose scheme is another one, a reference may name a file by what is also a URL. The
library cannot tell them apart then. No more can it if servers have documents only at URLs known to
be remote, but its keys may be relative paths. -/
theorem warm_run_of_crossing :
    (crossedLibrary.Agrees crossed ∧ Location.IsBase crossing.origin ∧
      let cold := run crossed .async 20 (start crossing "main" [] (.start [] none) ⟨.empty, []⟩)
      let warm := run crossed .async 20
        (start crossing "main" [] (.start [] none) ⟨crossedLibrary, []⟩)
      crossedLibrary.keys = ["c:d.md"] ∧
      cold.isRunning = false ∧ cold.output.map Value.text = [Points.ofString "false"] ∧
      warm.isRunning = false ∧ warm.output.map Value.text = [Points.ofString "true"]) ∧
    uncrossed.ServesOnlyUrls ∧ Location.IsBase seeking.origin ∧
      (∀ entry ∈ uncrossedLibrary.entries, uncrossed.entry? (.file "c:d.md") = some entry) ∧
      let cold := run uncrossed .async 20 (start seeking "main" [] (.start [] none) ⟨.empty, []⟩)
      let warm := run uncrossed .async 20
        (start seeking "main" [] (.start [] none) ⟨uncrossedLibrary, []⟩)
      cold.failure?.isSome = true ∧ warm.isRunning = false ∧ warm.failure?.isNone = true := by
  refine ⟨⟨agrees_of_isAbsolute trivial, .inl (by decide +kernel), by decide +kernel⟩, ?_,
    .inl (by decide +kernel), fun entry he => Option.mem_toList.mp he, by decide +kernel⟩
  intro url response h hg
  cases h
  cases hg

end Example

end Machine

end DocScript
