import DocScript.Proofs.Machine.Balance
import DocScript.Proofs.Machine.Direct
import Mathlib.Logic.Function.Iterate

/-! # Machines and direct style

In a machine, a call that ends its block takes the place of its caller. Machines give the same
results as direct style, where such a call runs on top of its caller and then ends it.
-/

namespace DocScript

namespace Machine

def scene (machine : Machine) : Scene := ⟨machine.session, machine.store⟩

variable {world : World} {mode : Mode} {m m' m'' : Machine} {scene scene' : Scene}
  {program : Program} {name : String} {activation caller : Activation} {rest : List Activation}
  {beneath : List Frame} {blocks : List (List Statement)}
  {statement : Statement} {later : List Statement} {outer : List (List Statement)}

def Reaches (world : World) (mode : Mode) (m m' : Machine) : Prop :=
  ∃ n, (step world mode)^[n] m = m'

theorem Reaches.refl (m : Machine) : Reaches world mode m m := ⟨0, rfl⟩

theorem Reaches.of_step (h : Reaches world mode (step world mode m) m') :
    Reaches world mode m m' := by
  obtain ⟨n, hn⟩ := h
  exact ⟨n + 1, hn⟩

theorem Reaches.trans (h : Reaches world mode m m') (h' : Reaches world mode m' m'') :
    Reaches world mode m m'' := by
  obtain ⟨n, rfl⟩ := h
  obtain ⟨k, rfl⟩ := h'
  exact ⟨k + n, Function.iterate_add_apply _ k n m⟩

/-- A machine that runs in a scene, with one activation on top of others and some frames beneath its
innermost one. -/
structure At (m : Machine) (activation : Activation) (rest : List Activation)
    (beneath : List Frame) (scene : Scene) : Prop where
  alike : m.session.Alike scene.session
  store : m.store.hush = scene.store.hush
  running : m.status = .running
  activations : m.activations = activation :: rest
  beneath : m.session.frames.tail = beneath

theorem At.visible (h : m.At activation rest beneath scene) : m.scene.visible = scene.visible :=
  congrArg₂ Scene.mk h.alike.2 h.store

theorem At.step_eq
    (h : m.At ⟨program, name, (statement :: later) :: outer⟩ rest beneath scene) :
    step world mode m =
      execute world mode m ⟨program, name, (statement :: later) :: outer⟩ statement later
        outer := by
  rw [step_of_running h.running, advance, h.activations]

theorem At.continueWith (h : m.At ⟨program, name, blocks⟩ rest beneath scene)
    (blocks' : List (List Statement)) :
    (m.continueWith blocks').At ⟨program, name, blocks'⟩ rest beneath scene := by
  rw [Machine.continueWith, h.activations]
  exact ⟨h.alike, h.store, h.running, rfl, h.beneath⟩

theorem At.step_nil (h : m.At ⟨program, name, [] :: outer⟩ rest beneath scene) :
    (step world mode m).At ⟨program, name, outer⟩ rest beneath scene := by
  rw [step_of_running h.running, advance, h.activations]
  exact h.continueWith outer

theorem At.step_plain (hp : statement.isPlain = true)
    (h : m.At ⟨program, name, (statement :: later) :: outer⟩ rest beneath scene) :
    step world mode m = m.settle (later :: outer) (m.session.perform statement) := by
  rw [h.step_eq]
  cases statement <;> first | rfl | cases hp

theorem At.step_performed {session : Session} (hp : statement.isPlain = true)
    (hs : scene.session.perform statement = .ok session)
    (h : m.At ⟨program, name, (statement :: later) :: outer⟩ rest beneath scene) :
    (step world mode m).At ⟨program, name, later :: outer⟩ rest beneath
      { scene with session } := by
  obtain ⟨session', hm, ha⟩ := h.alike.symm.perform_ok hs
  rw [h.step_plain hp, hm]
  have ht : session'.frames.tail = beneath := (Session.sameCalls_perform hm).2.trans h.beneath
  have hat : At { m with session := session' } ⟨program, name, (statement :: later) :: outer⟩
      rest beneath { scene with session } := ⟨ha.symm, h.store, h.running, h.activations, ht⟩
  exact hat.continueWith _

theorem At.step_unperformed {failure : Failure} (hp : statement.isPlain = true)
    (hs : scene.session.perform statement = .error failure)
    (h : m.At ⟨program, name, (statement :: later) :: outer⟩ rest beneath scene) :
    step world mode m = m.fail failure := by
  rw [h.step_plain hp, h.alike.symm.perform_error hs]
  rfl

/-- A call is prepared as in the scene. -/
theorem At.prepare {program : Program} {name : String} {reference : Option String}
    {arguments : List Expr} {line : Line} {result : Result (Program × Function × List Value)}
    {store : Store} (h : m.At activation rest beneath scene)
    (hp : prepare world mode scene.session scene.store program name reference arguments line =
      (result, store)) :
    ∃ store', Machine.prepare world mode m.session m.store program name reference arguments line =
      (result, store') ∧ store'.hush = store.hush := by
  have he := prepare_hush world mode m.session m.store program name reference arguments line
  rw [h.store, prepare_hush, prepare_of_alike h.alike.symm, hp] at he
  obtain ⟨rfl, hs⟩ := Prod.mk.inj he
  exact ⟨_, rfl, hs.symm⟩

/-- A machine that has left an invocation in a scene. -/
structure Left (m : Machine) (rest : List Activation) (beneath : List Frame) (scene : Scene) :
    Prop where
  visible : m.scene.visible = scene.visible
  running : m.status = .running
  activations : m.activations = rest
  frames : m.session.frames = beneath

/-- What becomes of a machine when the statements of its innermost block come to an ending. -/
def Arrived (activation : Activation) (rest : List Activation) (beneath : List Frame)
    (scene : Scene) : Ending → Machine → Prop
  | .through, m => m.At activation rest beneath scene
  | .ended, m => m.Left rest beneath scene
  | .failed failure, m => m.scene.visible = scene.visible ∧ m.status = .failed failure

theorem At.left (h : m.At activation rest beneath scene) : m.leave.Left rest beneath scene where
  visible := h.visible
  running := h.running
  activations := by
    change m.activations.drop 1 = rest
    rw [h.activations]
    rfl
  frames := List.drop_one.trans h.beneath

/-- An invocation that has come to an ending other than a failure is left. -/
theorem Arrived.returned {ending : Ending}
    (h : Arrived ⟨program, name, []⟩ rest beneath scene ending m) (he : ending.failure? = none) :
    ∃ m', Reaches world mode m m' ∧ m'.Left rest beneath scene.leave := by
  cases ending with
  | through =>
    have hs : step world mode m = m.leave := by
      rw [step_of_running h.running, advance, h.activations]
    exact ⟨m.leave, ⟨1, hs⟩, ⟨h.visible, h.running, h.left.activations, h.left.frames⟩⟩
  | ended => exact ⟨m, .refl m, ⟨h.visible, h.running, h.activations, h.frames⟩⟩
  | failed failure => cases he

theorem alike_push {s s' : Session} (h : s.bare = s'.bare) (frame : Frame) :
    (s.push frame).Alike (s'.push frame) :=
  ⟨⟨frame, s.frames, s'.frames, rfl, rfl⟩, h⟩

theorem hush_note_enter {store store' : Store} (h : store.hush = store'.hush) (function : String)
    (args : List Value) :
    (store.note (.enter function args)).hush = (store'.note (.enter function args)).hush := by
  rw [← Store.note_hush _ rfl, ← Store.note_hush _ rfl, h]

/-- A machine that begins a call on top of its caller. -/
theorem At.entered {store store' : Store} (h : m.At ⟨program, name, blocks⟩ rest beneath scene)
    (hs : store'.hush = store.hush) (blocks' : List (List Statement)) (target : Program)
    (function : Function) (args : List Value) :
    (({ m with store := store' }.continueWith blocks').enter target function args).At
      ⟨target, function.name, [function.body]⟩ (⟨program, name, blocks'⟩ :: rest)
      m.session.frames (Scene.enter { scene with store } function args) := by
  rw [Machine.continueWith, h.activations]
  exact ⟨alike_push h.alike.2 _, hush_note_enter hs .., h.running, rfl, rfl⟩

/-- A machine that begins a call in place of its caller. -/
theorem At.replaced {store store' : Store} (h : m.At activation rest beneath scene)
    (hs : store'.hush = store.hush) (name callee : String) (target : Program)
    (function : Function) (args : List Value) :
    (({ m with store := store' }.leave.note (.tailCall name callee)).enter target function args).At
      ⟨target, function.name, [function.body]⟩ rest beneath
      (Scene.enter { scene with store } function args) := by
  have hb : { m.session with frames := m.session.frames.drop 1 }.bare = scene.session.bare :=
    h.alike.2
  have ha : m.activations.drop 1 = rest := by rw [h.activations]; rfl
  exact ⟨alike_push hb _, hush_note_enter hs .., h.running, congrArg (_ :: ·) ha,
    List.drop_one.trans h.beneath⟩

/-- A caller goes on when a call on top of it has been left. -/
theorem At.resumed {function : Function} {args : List Value} {store : Store}
    (h : m.At ⟨program, name, blocks⟩ rest beneath scene)
    (hl : m'.Left (⟨program, name, later :: outer⟩ :: rest) m.session.frames scene'.leave)
    (ht : scene'.session.frames.tail =
      (Scene.enter { scene with store } function args).session.frames.tail) :
    m'.At ⟨program, name, later :: outer⟩ rest beneath scene'.leave := by
  obtain ⟨⟨frame, frames, frames', hm, hs⟩, -⟩ := h.alike
  have hf' : scene'.leave.session.frames = frame :: frames' := (Scene.frames_leave ht).trans hs
  refine ⟨⟨⟨frame, frames, frames', hl.frames.trans hm, hf'⟩, congrArg Scene.session hl.visible⟩,
    congrArg Scene.store hl.visible, hl.running, hl.activations, ?_⟩
  rw [hl.frames, h.beneath]

theorem At.step_cond_true {condition : Expr} {body : List Statement} {line : Line} {value : Value}
    (he : scene.session.eval condition line = .ok value) (hv : value.truthy = true)
    (h : m.At ⟨program, name, (.cond condition body line :: later) :: outer⟩ rest beneath scene) :
    (step world mode m).At ⟨program, name, body :: later :: outer⟩ rest beneath scene := by
  rw [h.step_eq, execute, h.alike.symm.eval_eq, he]
  dsimp only
  rw [hv]
  exact h.continueWith _

theorem At.step_cond_false {condition : Expr} {body : List Statement} {line : Line} {value : Value}
    (he : scene.session.eval condition line = .ok value) (hv : value.truthy = false)
    (h : m.At ⟨program, name, (.cond condition body line :: later) :: outer⟩ rest beneath scene) :
    (step world mode m).At ⟨program, name, later :: outer⟩ rest beneath scene := by
  rw [h.step_eq, execute, h.alike.symm.eval_eq, he]
  dsimp only
  rw [hv]
  exact h.continueWith _

section Call

variable {callee : String} {reference : Option String} {arguments : List Expr} {line : Line}
  {target : Program} {function : Function} {args : List Value} {store : Store}

theorem At.step_call_last
    (hp : Machine.prepare world mode scene.session scene.store program callee reference arguments
      line = (.ok (target, function, args), store))
    (h : m.At ⟨program, name, [.call callee reference arguments line] :: outer⟩ rest beneath
      scene) :
    (step world mode m).At ⟨target, function.name, [function.body]⟩ rest beneath
      (Scene.enter { scene with store } function args) := by
  obtain ⟨store', hp', hs⟩ := h.prepare hp
  rw [h.step_eq, execute, call, hp']
  exact h.replaced hs name function.name target function args

theorem At.step_call_inner (hl : later ≠ [])
    (hp : Machine.prepare world mode scene.session scene.store program callee reference arguments
      line = (.ok (target, function, args), store))
    (h : m.At ⟨program, name, (.call callee reference arguments line :: later) :: outer⟩ rest
      beneath scene) :
    (step world mode m).At ⟨target, function.name, [function.body]⟩
      (⟨program, name, later :: outer⟩ :: rest) m.session.frames
      (Scene.enter { scene with store } function args) := by
  obtain ⟨store', hp', hs⟩ := h.prepare hp
  rw [h.step_eq, execute, call, hp']
  dsimp only
  rw [if_neg (by rwa [List.isEmpty_iff])]
  exact h.entered hs (later :: outer) target function args

end Call

/-- Machines follow runs in direct style. -/
theorem simulates {statements : List Statement} {ending : Ending}
    (h : Direct world mode program statements scene ending scene') (name : String)
    (outer : List (List Statement)) (rest : List Activation) (beneath : List Frame) (m : Machine)
    (hm : m.At ⟨program, name, statements :: outer⟩ rest beneath scene) :
    ∃ m', Reaches world mode m m' ∧
      Arrived ⟨program, name, outer⟩ rest beneath scene' ending m' := by
  induction h generalizing name outer rest beneath m with
  | nil => exact ⟨_, .of_step (.refl _), hm.step_nil⟩
  | plain hp hs _ ih =>
    obtain ⟨m', hr, ha⟩ := ih name outer rest beneath _ (hm.step_performed hp hs)
    exact ⟨m', hr.of_step, ha⟩
  | plain_failed hp hs =>
    exact ⟨_, .of_step ⟨0, hm.step_unperformed hp hs⟩, hm.visible, rfl⟩
  | stop => exact ⟨m.leave, .of_step ⟨0, hm.step_eq⟩, hm.left⟩
  | @cond_failed _ _ _ _ _ _ failure he =>
    have hs : step world mode m = m.fail failure := by
      rw [hm.step_eq, execute, hm.alike.symm.eval_eq, he]
    exact ⟨_, .of_step ⟨0, hs⟩, hm.visible, rfl⟩
  | cond_false he hv _ ih =>
    obtain ⟨m', hr, ha⟩ := ih name outer rest beneath _ (hm.step_cond_false he hv)
    exact ⟨m', hr.of_step, ha⟩
  | @cond_through _ _ _ _ later _ _ _ _ _ he hv _ _ ih₁ ih₂ =>
    obtain ⟨m₁, hr₁, ha₁⟩ := ih₁ name (later :: outer) rest beneath _ (hm.step_cond_true he hv)
    obtain ⟨m₂, hr₂, ha₂⟩ := ih₂ name outer rest beneath m₁ ha₁
    exact ⟨m₂, (hr₁.trans hr₂).of_step, ha₂⟩
  | @cond_ended _ _ _ _ later _ _ ending _ he hv _ hn ih =>
    obtain ⟨m', hr, ha⟩ := ih name (later :: outer) rest beneath _ (hm.step_cond_true he hv)
    cases ending with
    | through => exact absurd rfl hn
    | ended => exact ⟨m', hr.of_step, ha⟩
    | failed => exact ⟨m', hr.of_step, ha⟩
  | @call_unprepared _ _ _ _ _ _ _ failure _ hp =>
    obtain ⟨store', hp', hs⟩ := hm.prepare hp
    have he : step world mode m = { m with store := store' }.fail failure := by
      rw [hm.step_eq, execute, call, hp']
    exact ⟨_, .of_step ⟨0, he⟩, congrArg₂ Scene.mk hm.alike.2 hs, rfl⟩
  | @call_failed _ _ _ _ _ later _ _ _ _ _ _ _ hp _ ih =>
    cases later with
    | nil =>
      obtain ⟨m', hr, ha⟩ := ih _ _ _ _ _ (hm.step_call_last hp)
      exact ⟨m', hr.of_step, ha⟩
    | cons next later =>
      obtain ⟨m', hr, ha⟩ := ih _ _ _ _ _ (hm.step_call_inner (List.cons_ne_nil _ _) hp)
      exact ⟨m', hr.of_step, ha⟩
  | call_last hp _ he ih =>
    obtain ⟨m₁, hr₁, ha⟩ := ih _ _ _ _ _ (hm.step_call_last hp)
    obtain ⟨m₂, hr₂, hl⟩ := ha.returned he
    exact ⟨m₂, (hr₁.trans hr₂).of_step, hl⟩
  | call_inner hp hc he hl _ ih₁ ih₂ =>
    obtain ⟨m₁, hr₁, ha₁⟩ := ih₁ _ _ _ _ _ (hm.step_call_inner hl hp)
    obtain ⟨m₂, hr₂, hl₂⟩ := ha₁.returned he
    obtain ⟨m₃, hr₃, ha₃⟩ := ih₂ name outer rest beneath m₂ (hm.resumed hl₂ (hc.tail_frames he))
    exact ⟨m₃, ((hr₁.trans hr₂).trans hr₃).of_step, ha₃⟩

theorem iterate_step_of_ended (h : m.status ≠ .running) (n : Nat) :
    (step world mode)^[n] m = m := by
  induction n with
  | zero => rfl
  | succ n ih => rw [Function.iterate_succ_apply, step_of_ended h, ih]

/-- A machine that ends within `n` steps ends within as many less those that it has made. -/
theorem ended_of_iterate {n k : Nat} (h : ((step world mode)^[n] m).status ≠ .running)
    (hk : (step world mode)^[k] m = m') (hr : m'.status = .running) :
    k ≤ n ∧ ((step world mode)^[n - k] m').status ≠ .running := by
  subst hk
  have hle : k ≤ n := by
    by_contra hlt
    obtain ⟨d, rfl⟩ := Nat.exists_eq_add_of_lt (Nat.lt_of_not_le hlt)
    rw [Nat.add_assoc, Nat.add_comm, Function.iterate_add_apply, iterate_step_of_ended h] at hr
    exact h hr
  refine ⟨hle, ?_⟩
  rwa [← Function.iterate_add_apply, Nat.sub_add_cancel hle]

theorem ended_of_reaches {n : Nat} (h : ((step world mode)^[n] m).status ≠ .running)
    (hr : Reaches world mode m m') (hm : m'.status = .running) :
    ∃ k ≤ n, ((step world mode)^[k] m').status ≠ .running := by
  obtain ⟨k, hk⟩ := hr
  exact ⟨n - k, Nat.sub_le n k, (ended_of_iterate h hk hm).2⟩

/-- What a machine runs has a run in direct style if it ends within `n` steps. -/
def DirectWithin (world : World) (mode : Mode) (n : Nat) : Prop :=
  ∀ ⦃program : Program⦄ ⦃statements : List Statement⦄ ⦃scene : Scene⦄ ⦃name : String⦄
    ⦃outer : List (List Statement)⦄ ⦃rest : List Activation⦄ ⦃beneath : List Frame⦄ ⦃m : Machine⦄,
    m.At ⟨program, name, statements :: outer⟩ rest beneath scene →
    ((step world mode)^[n] m).status ≠ .running →
    ∃ ending scene', Direct world mode program statements scene ending scene'

section Within

variable {n : Nat} (ih : ∀ k ≤ n, DirectWithin world mode k)

include ih

/-- What is still to be run where a machine has come to. -/
theorem exists_direct_reached (hn : ((step world mode)^[n] m).status ≠ .running)
    (hr : Reaches world mode m m') (hm : m'.At ⟨program, name, later :: outer⟩ rest beneath scene) :
    ∃ ending scene', Direct world mode program later scene ending scene' := by
  obtain ⟨k, hk, hn'⟩ := ended_of_reaches hn hr hm.running
  exact ih k hk hm hn'

theorem exists_direct_plain (hp : statement.isPlain = true)
    (hm : m.At ⟨program, name, (statement :: later) :: outer⟩ rest beneath scene)
    (hn : ((step world mode)^[n] (step world mode m)).status ≠ .running) :
    ∃ ending scene', Direct world mode program (statement :: later) scene ending scene' := by
  cases hs : scene.session.perform statement with
  | error failure => exact ⟨_, _, .plain_failed hp hs⟩
  | ok session =>
    obtain ⟨ending, scene', hd⟩ := ih n n.le_refl (hm.step_performed hp hs) hn
    exact ⟨ending, scene', .plain hp hs hd⟩

theorem exists_direct_cond {condition : Expr} {body : List Statement} {line : Line}
    (hm : m.At ⟨program, name, (.cond condition body line :: later) :: outer⟩ rest beneath scene)
    (hn : ((step world mode)^[n] (step world mode m)).status ≠ .running) :
    ∃ ending scene',
      Direct world mode program (.cond condition body line :: later) scene ending scene' := by
  cases he : scene.session.eval condition line with
  | error failure => exact ⟨_, _, .cond_failed he⟩
  | ok value =>
    cases hv : value.truthy with
    | false =>
      obtain ⟨ending, scene', hd⟩ := ih n n.le_refl (hm.step_cond_false he hv) hn
      exact ⟨ending, scene', .cond_false he hv hd⟩
    | true =>
      have hb : (step world mode m).At ⟨program, name, body :: later :: outer⟩ rest beneath
        scene := hm.step_cond_true he hv
      obtain ⟨ending, scene', hd⟩ := ih n n.le_refl hb hn
      cases ending with
      | ended => exact ⟨_, _, .cond_ended he hv hd nofun⟩
      | failed failure => exact ⟨_, _, .cond_ended he hv hd nofun⟩
      | through =>
        obtain ⟨m', hr, ha⟩ := simulates hd _ _ _ _ _ hb
        obtain ⟨ending, scene'', hd'⟩ := exists_direct_reached ih hn hr ha
        exact ⟨ending, scene'', .cond_through he hv hd hd'⟩

theorem exists_direct_call {callee : String} {reference : Option String} {arguments : List Expr}
    {line : Line}
    (hm : m.At ⟨program, name, (.call callee reference arguments line :: later) :: outer⟩ rest
      beneath scene)
    (hn : ((step world mode)^[n] (step world mode m)).status ≠ .running) :
    ∃ ending scene', Direct world mode program (.call callee reference arguments line :: later)
      scene ending scene' := by
  rcases hc : prepare world mode scene.session scene.store program callee reference arguments line
    with ⟨failure | ⟨target, function, args⟩, store⟩
  · exact ⟨_, _, .call_unprepared hc⟩
  by_cases hl : later = []
  · subst hl
    obtain ⟨ending, scene', hd⟩ := ih n n.le_refl (hm.step_call_last hc) hn
    cases ending with
    | failed failure => exact ⟨_, _, .call_failed hc hd⟩
    | through => exact ⟨_, _, .call_last hc hd rfl⟩
    | ended => exact ⟨_, _, .call_last hc hd rfl⟩
  · have hb := hm.step_call_inner hl hc
    obtain ⟨ending, scene', hd⟩ := ih n n.le_refl hb hn
    cases hf : ending.failure? with
    | some failure =>
      cases ending <;> cases hf
      exact ⟨_, _, .call_failed hc hd⟩
    | none =>
      obtain ⟨m₁, hr₁, ha⟩ := simulates hd _ _ _ _ _ hb
      obtain ⟨m₂, hr₂, hl₂⟩ := ha.returned hf
      have hm₂ := hm.resumed hl₂ (hd.tail_frames hf)
      obtain ⟨ending, scene'', hd'⟩ := exists_direct_reached ih hn (hr₁.trans hr₂) hm₂
      exact ⟨ending, scene'', .call_inner hc hd hf hl hd'⟩

end Within

/-- What a machine that ends runs has a run in direct style. -/
theorem directWithin (n : Nat) : DirectWithin world mode n := by
  induction n using Nat.strongRecOn with
  | ind n ih =>
  intro program statements scene name outer rest beneath m hm hn
  obtain _ | n := n
  · exact absurd hm.running hn
  -- The first step leaves `n` steps, and so does what comes after it.
  have ih (k : Nat) (hk : k ≤ n) : DirectWithin world mode k := ih k (Nat.lt_succ_of_le hk)
  cases statements with
  | nil => exact ⟨_, _, .nil⟩
  | cons statement later =>
    cases statement with
    | stop line => exact ⟨_, _, .stop⟩
    | cond condition body line => exact exists_direct_cond ih hm hn
    | call callee reference arguments line => exact exists_direct_call ih hm hn
    | _ => exact exists_direct_plain ih rfl hm hn

theorem run_eq_iterate (world : World) (mode : Mode) (fuel : Nat) (m : Machine) :
    run world mode fuel m = (step world mode)^[fuel] m := by
  induction fuel generalizing m with
  | zero => rfl
  | succ fuel ih =>
    rw [run]
    split
    · exact ih _
    · rename_i hr
      rw [iterate_step_of_ended (fun h => hr (isRunning_iff.mpr h))]

/-- A machine that has ended is the only one that is reached and has ended. -/
theorem Reaches.eq_of_ended {n : Nat} (h : Reaches world mode m m') (hm : m'.status ≠ .running)
    (hn : ((step world mode)^[n] m).status ≠ .running) : (step world mode)^[n] m = m' := by
  obtain ⟨k, rfl⟩ := h
  rcases Nat.le_total n k with hle | hle
  · obtain ⟨d, rfl⟩ := Nat.exists_eq_add_of_le hle
    rw [Nat.add_comm, Function.iterate_add_apply, iterate_step_of_ended hn]
  · obtain ⟨d, rfl⟩ := Nat.exists_eq_add_of_le hle
    rw [Nat.add_comm, Function.iterate_add_apply, iterate_step_of_ended hm]

section Start

variable {entry : String} {args : List Value} {session : Session} {store : Store}

theorem start_at {function : Function} (h : program.find? entry = some function) :
    (start program entry args session store).At ⟨program, function.name, [function.body]⟩ []
      session.frames (Scene.enter ⟨session, store⟩ function args) := by
  rw [start, h]
  exact ⟨alike_push rfl _, rfl, rfl, rfl, rfl⟩

theorem start_noEntry (h : program.find? entry = none) :
    start program entry args session store =
      Machine.fail ⟨session, store, [], .running⟩ ((Cause.noEntry entry).failure none) := by
  rw [start, h]

/-- A machine comes to what a run in direct style comes to. -/
theorem directRun_reaches {outcome : Option Failure}
    (h : DirectRun world mode program entry args ⟨session, store⟩ outcome scene') :
    ∃ m, Reaches world mode (start program entry args session store) m ∧ m.status ≠ .running ∧
      m.failure? = outcome ∧ m.scene.visible = scene'.visible := by
  cases h with
  | noEntry h =>
    refine ⟨_, .refl _, ?_⟩
    rw [start_noEntry h]
    exact ⟨by rintro ⟨⟩, rfl, rfl⟩
  | returned h callee he =>
    obtain ⟨m₁, hr₁, ha⟩ := simulates callee _ _ _ _ _ (start_at h)
    obtain ⟨m₂, hr₂, hl⟩ := ha.returned he
    have hs : step world mode m₂ = { m₂ with status := .finished } := by
      rw [step_of_running hl.running, advance, hl.activations]
    exact ⟨_, (hr₁.trans hr₂).trans ⟨1, hs⟩, by rintro ⟨⟩, rfl, hl.visible⟩
  | failed h callee =>
    obtain ⟨m, hr, hv, hs⟩ := simulates callee _ _ _ _ _ (start_at h)
    exact ⟨m, hr, by rw [hs]; rintro ⟨⟩, by rw [failure?, hs], hv⟩

theorem exists_directRun {n : Nat}
    (hn : ((step world mode)^[n] (start program entry args session store)).status ≠ .running) :
    ∃ outcome scene', DirectRun world mode program entry args ⟨session, store⟩ outcome scene' := by
  cases h : program.find? entry with
  | none => exact ⟨_, _, .noEntry h⟩
  | some function =>
    obtain ⟨ending, scene', hd⟩ := directWithin n (start_at h) hn
    cases ending with
    | through => exact ⟨_, _, .returned h hd rfl⟩
    | ended => exact ⟨_, _, .returned h hd rfl⟩
    | failed failure => exact ⟨_, _, .failed h hd⟩

end Start

/-- A machine ends if and only if the run in direct style does. Both come to the same failure or to
none, and agree on what was printed, the input that is left, the requests in their order and the
library. -/
theorem halts_iff_directRun (world : World) (mode : Mode) (program : Program) (entry : String)
    (args : List Value) (session : Session) (store : Store) (outcome : Option Failure)
    (seen : Scene) :
    (∃ fuel,
      let ended := (start program entry args session store).run world mode fuel
      ended.isRunning = false ∧ ended.failure? = outcome ∧ ended.scene.visible = seen) ↔
    ∃ scene', DirectRun world mode program entry args ⟨session, store⟩ outcome scene' ∧
      scene'.visible = seen := by
  simp only [run_eq_iterate, Bool.eq_false_iff, ne_eq, isRunning_iff]
  constructor
  · rintro ⟨n, hn, rfl, rfl⟩
    obtain ⟨outcome, scene', hd⟩ := exists_directRun hn
    obtain ⟨m, hr, hm, ho, hv⟩ := directRun_reaches hd
    rw [hr.eq_of_ended hm hn]
    exact ⟨scene', ho ▸ hd, hv.symm⟩
  · rintro ⟨scene', hd, rfl⟩
    obtain ⟨m, ⟨n, rfl⟩, hm, ho, hv⟩ := directRun_reaches hd
    exact ⟨n, hm, ho, hv⟩

end Machine

end DocScript
