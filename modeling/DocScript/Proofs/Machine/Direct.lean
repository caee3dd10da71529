import DocScript.Proofs.Machine.Step

/-! # Direct style

In direct style every call runs in place, on top of its caller. A call that ends its block then ends
the caller, as a break does.
-/

namespace DocScript

def Event.isTailCall : Event → Bool
  | .tailCall _ _ => true
  | _ => false

namespace Store

/-- A store with its events changed. -/
def renote (change : List Event → List Event) (store : Store) : Store :=
  { store with events := change store.events }

/-- Whether a change of events leaves alone what is noted after them, calls that take the place of
their callers apart. -/
def KeepsLater (change : List Event → List Event) : Prop :=
  ∀ event events, event.isTailCall = false → change (event :: events) = event :: change events

section Renote

variable {change : List Event → List Event} (hc : KeepsLater change)
include hc

theorem note_renote (store : Store) {event : Event} (h : event.isTailCall = false) :
    (store.renote change).note event = (store.note event).renote change := by
  simp only [renote, note, hc event store.events h]

theorem noteAll_dropped_renote (store : Store) (headings : List DroppedHeading) :
    (store.renote change).noteAll (headings.map .dropped) =
      (store.noteAll (headings.map .dropped)).renote change := by
  induction headings generalizing store with
  | nil => rfl
  | cons heading rest ih =>
    rw [List.map_cons, noteAll, List.foldl_cons, note_renote hc store rfl]
    exact ih (store.note (.dropped heading))

theorem readFile_renote (world : World) (reference path : String) (line : Line) (store : Store) :
    (store.renote change).readFile world reference path line =
      ((store.readFile world reference path line).1,
        (store.readFile world reference path line).2.renote change) := by
  have hn : (store.renote change).note (.read path) = _ := note_renote hc store rfl
  simp only [readFile, hn]
  rcases world.read path with (_ | _) | _
  · rfl
  · rfl
  · rw [note_renote hc _ rfl]

theorem fetchUrl_renote (world : World) (url : String) (line : Line) (store : Store) :
    (store.renote change).fetchUrl world url line =
      ((store.fetchUrl world url line).1, (store.fetchUrl world url line).2.renote change) := by
  have hn : (store.renote change).note (.fetch url) = _ := note_renote hc store rfl
  simp only [fetchUrl, hn]
  rcases world.fetch url with (_ | _) | response
  · rfl
  · rfl
  · dsimp only
    split <;> rfl

theorem obtain_renote (world : World) (reference : String) (location : Location) (line : Line)
    (store : Store) :
    (store.renote change).obtain world reference location line =
      ((store.obtain world reference location line).1,
        (store.obtain world reference location line).2.renote change) := by
  cases location with
  | file path => exact readFile_renote hc world reference path line store
  | remote url => exact fetchUrl_renote hc world url line store

theorem keep_renote (location : Location) (text : String) (store : Store) :
    (store.renote change).keep location text =
      ((store.keep location text).1, (store.keep location text).2.renote change) := by
  simp only [keep, noteAll_dropped_renote hc]
  cases (Program.parse text).program <;> rfl

theorem load_renote (world : World) (reference : String) (location : Location) (line : Line)
    (store : Store) :
    (store.renote change).load world reference location line =
      ((store.load world reference location line).1,
        (store.load world reference location line).2.renote change) := by
  simp only [load, show (store.renote change).library = store.library from rfl, obtain_renote hc]
  cases store.library.find? location.key with
  | some program => rfl
  | none =>
    rcases store.obtain world reference location line with ⟨_ | text, store⟩
    · rfl
    · exact keep_renote hc location text store

theorem resolve_renote (world : World) (mode : Mode) (program : Program) (name : String)
    (reference : Option String) (line : Line) (store : Store) :
    (store.renote change).resolve world mode program name reference line =
      ((store.resolve world mode program name reference line).1,
        (store.resolve world mode program name reference line).2.renote change) := by
  simp only [resolve, load_renote hc]
  cases reference.filter (· ≠ "") with
  | none => dsimp only; split <;> rfl
  | some reference =>
    dsimp only
    split
    · rfl
    · rcases store.load world reference _ line with ⟨_ | target, store⟩
      · rfl
      · dsimp only
        split <;> rfl

end Renote

/-- A store without notes of the calls that took the place of their callers. -/
def hush (store : Store) : Store :=
  { store with events := store.events.filter (!·.isTailCall) }

theorem keepsLater_hush : KeepsLater (List.filter (!·.isTailCall)) := by
  intro event events h
  simp [h]

theorem note_hush (store : Store) {event : Event} (h : event.isTailCall = false) :
    store.hush.note event = (store.note event).hush :=
  note_renote keepsLater_hush store h

end Store

/-- Finding what a call runs does not depend on what has been noted before. -/
theorem Machine.prepare_renote {change : List Event → List Event} (hc : Store.KeepsLater change)
    (world : World) (mode : Mode) (session : Session) (store : Store) (program : Program)
    (name : String) (reference : Option String) (arguments : List Expr) (line : Line) :
    prepare world mode session (store.renote change) program name reference arguments line =
      ((prepare world mode session store program name reference arguments line).1,
        (prepare world mode session store program name reference arguments line).2.renote
          change) := by
  simp only [prepare, Store.resolve_renote hc]
  split
  · rfl
  · rcases store.resolve world mode program name reference line with ⟨_ | ⟨target, function⟩, store⟩
    · rfl
    · dsimp only
      split <;> rfl

theorem Machine.prepare_hush (world : World) (mode : Mode) (session : Session) (store : Store)
    (program : Program) (name : String) (reference : Option String) (arguments : List Expr)
    (line : Line) :
    prepare world mode session store.hush program name reference arguments line =
      ((prepare world mode session store program name reference arguments line).1,
        (prepare world mode session store program name reference arguments line).2.hush) :=
  prepare_renote Store.keepsLater_hush world mode session store program name reference arguments
    line

/-- What a run works on. -/
structure Scene where
  session : Session
  store : Store

namespace Scene

/-- A scene without its frames and the notes of calls that took the place of their callers. -/
def visible (scene : Scene) : Scene := ⟨scene.session.bare, scene.store.hush⟩

/-- Begins an invocation. -/
def enter (scene : Scene) (function : Function) (args : List Value) : Scene where
  session := scene.session.push
    (.ofBindings function.name (Machine.bindings function.parameters args) args)
  store := scene.store.note (.enter function.name args)

/-- Ends the innermost invocation. -/
def leave (scene : Scene) : Scene :=
  { scene with session := { scene.session with frames := scene.session.frames.drop 1 } }

theorem frames_leave {scene scene' : Scene} {function : Function} {args : List Value}
    (h : scene'.session.frames.tail = (scene.enter function args).session.frames.tail) :
    scene'.leave.session.frames = scene.session.frames :=
  List.drop_one.trans h

end Scene

/-- How a list of statements ends: it runs through, or it ends its invocation, or it fails. -/
inductive Ending where
  | through
  | ended
  | failed (failure : Failure)

def Ending.failure? : Ending → Option Failure
  | .failed failure => some failure
  | _ => none

/-- Running statements of a program in direct style, from one scene to another. -/
inductive Direct (world : World) (mode : Mode) :
    Program → List Statement → Scene → Ending → Scene → Prop where
  | nil {program scene} : Direct world mode program [] scene .through scene
  | plain {program statement later scene session ending scene'}
    (hp : statement.isPlain = true) (h : scene.session.perform statement = .ok session)
    (rest : Direct world mode program later { scene with session } ending scene') :
    Direct world mode program (statement :: later) scene ending scene'
  | plain_failed {program statement later scene failure}
    (hp : statement.isPlain = true) (h : scene.session.perform statement = .error failure) :
    Direct world mode program (statement :: later) scene (.failed failure) scene
  | stop {program line later scene} :
    Direct world mode program (.stop line :: later) scene .ended scene
  | cond_failed {program condition body line later scene failure}
    (h : scene.session.eval condition line = .error failure) :
    Direct world mode program (.cond condition body line :: later) scene (.failed failure) scene
  | cond_false {program condition body line later scene value ending scene'}
    (h : scene.session.eval condition line = .ok value) (hv : value.truthy = false)
    (rest : Direct world mode program later scene ending scene') :
    Direct world mode program (.cond condition body line :: later) scene ending scene'
  | cond_through {program condition body line later scene value scene₁ ending scene'}
    (h : scene.session.eval condition line = .ok value) (hv : value.truthy = true)
    (inside : Direct world mode program body scene .through scene₁)
    (rest : Direct world mode program later scene₁ ending scene') :
    Direct world mode program (.cond condition body line :: later) scene ending scene'
  | cond_ended {program condition body line later scene value ending scene'}
    (h : scene.session.eval condition line = .ok value) (hv : value.truthy = true)
    (inside : Direct world mode program body scene ending scene') (he : ending ≠ .through) :
    Direct world mode program (.cond condition body line :: later) scene ending scene'
  | call_unprepared {program name reference arguments line later scene failure store}
    (h : Machine.prepare world mode scene.session scene.store program name reference arguments
      line = (.error failure, store)) :
    Direct world mode program (.call name reference arguments line :: later) scene
      (.failed failure) { scene with store }
  | call_failed {program name reference arguments line later scene target function args store
      failure scene'}
    (h : Machine.prepare world mode scene.session scene.store program name reference arguments
      line = (.ok (target, function, args), store))
    (callee : Direct world mode target function.body
      (Scene.enter { scene with store } function args) (.failed failure) scene') :
    Direct world mode program (.call name reference arguments line :: later) scene
      (.failed failure) scene'
  | call_last {program name reference arguments line scene target function args store ending
      scene'}
    (h : Machine.prepare world mode scene.session scene.store program name reference arguments
      line = (.ok (target, function, args), store))
    (callee : Direct world mode target function.body
      (Scene.enter { scene with store } function args) ending scene')
    (he : ending.failure? = none) :
    Direct world mode program [.call name reference arguments line] scene .ended scene'.leave
  | call_inner {program name reference arguments line later scene target function args store ending₁
      scene₁ ending scene'}
    (h : Machine.prepare world mode scene.session scene.store program name reference arguments
      line = (.ok (target, function, args), store))
    (callee : Direct world mode target function.body
      (Scene.enter { scene with store } function args) ending₁ scene₁)
    (he : ending₁.failure? = none) (hl : later ≠ [])
    (rest : Direct world mode program later scene₁.leave ending scene') :
    Direct world mode program (.call name reference arguments line :: later) scene ending scene'

/-- Running a function of a program in direct style: what failed, if anything did, and the scene at
the end. -/
inductive DirectRun (world : World) (mode : Mode) (program : Program) (entry : String)
    (args : List Value) (scene : Scene) : Option Failure → Scene → Prop where
  | noEntry (h : program.find? entry = none) :
    DirectRun world mode program entry args scene (some ((Cause.noEntry entry).failure none)) scene
  | returned {function ending scene'} (h : program.find? entry = some function)
    (callee : Direct world mode program function.body (scene.enter function args) ending scene')
    (he : ending.failure? = none) :
    DirectRun world mode program entry args scene none scene'.leave
  | failed {function failure scene'} (h : program.find? entry = some function)
    (callee : Direct world mode program function.body (scene.enter function args)
      (.failed failure) scene') :
    DirectRun world mode program entry args scene (some failure) scene'

namespace Direct

variable {world : World} {mode : Mode} {program : Program} {statements : List Statement}
  {scene scene' : Scene} {ending : Ending}

/-- Statements that do not fail leave the frames beneath the innermost one as they are. -/
theorem tail_frames (h : Direct world mode program statements scene ending scene')
    (he : ending.failure? = none) :
    scene'.session.frames.tail = scene.session.frames.tail := by
  induction h with
  | nil => rfl
  | plain _ hp _ ih => exact (ih he).trans (Session.sameCalls_perform hp).2
  | plain_failed => cases he
  | stop => rfl
  | cond_failed => cases he
  | cond_false _ _ _ ih => exact ih he
  | cond_through _ _ _ _ ih₁ ih₂ => exact (ih₂ he).trans (ih₁ rfl)
  | cond_ended _ _ _ _ ih => exact ih he
  | call_unprepared => cases he
  | call_failed => cases he
  | call_last _ _ hc ih => rw [Scene.frames_leave (ih hc)]
  | call_inner _ _ hc _ _ ih₁ ih₂ => rw [ih₂ he, Scene.frames_leave (ih₁ hc)]

end Direct

end DocScript
