/-
The moments of a run.

Within one creation drafts are taken and given back many times.  A traced computation
(`Traced`) is a computation that also names the moments it passes through: the context after
each of its steps, with the types of the drafts in use.  Creation is traced step by step, and
what it does is creation itself (`run_create`).

A condition on the moments so far, on the context and on the drafts in use is kept up by every
creation if it is kept up by five kinds of steps (`Upkeep`): entering and leaving a creation,
taking a draft and giving it back, and steps that touch neither.
-/
import BeanContract.Proofs.Context.Account

namespace BeanContract

open Effect (after Keeps)

variable {H : Host} {σ α β γ : Type}

/-- A context at one moment of a run, and the types of the drafts in use, the last one taken
first. -/
structure Moment (H : Host) where
  context : Context H
  held : List ValueType

/-- A computation, and the moments it passes through when drafts of some types are in use. -/
structure Traced (H : Host) (σ α : Type) where
  run : EStateM Halt σ α
  moments : List ValueType → σ → List (Moment H)

abbrev TracedRun (H : Host) (α : Type) := Traced H (Context H) α

abbrev TracedStage (H : Host) (α : Type) := Traced H (Draft H × Context H) α

abbrev TracedCreator (H : Host) := Factory H → Channel → TracedRun H (Value H)

namespace Traced

def step (context : σ → Context H) (x : EStateM Halt σ α) : Traced H σ α where
  run := x
  moments held s := [⟨context (after (x s)), held⟩]

/-- Reading a part of the state is no step of its own. -/
def ask (part : σ → γ) (k : γ → Traced H σ α) : Traced H σ α where
  run s := (k (part s)).run s
  moments held s := (k (part s)).moments held s

def bind (x : Traced H σ α) (k : α → Traced H σ β) : Traced H σ β where
  run := x.run >>= fun a => (k a).run
  moments held s := x.moments held s ++
    match x.run s with
    | .ok a t => (k a).moments held t
    | .error _ _ => []

def inside (x : TracedRun H α) : TracedRun H α where
  run := do
    modify Context.enter
    Effect.finish x.run Context.leave
  moments held c := ⟨c.enter, held⟩ ::
    (x.moments held c.enter ++ [⟨(after (x.run c.enter)).leave, held⟩])

def caught (x : TracedRun H α) : TracedRun H (Except Failure α) where
  run := Run.caught x.run
  moments := x.moments

def reify (x : Traced H σ α) : Traced H σ (Except Halt α) where
  run := Effect.reify x.run
  moments := x.moments

def ofRun (x : TracedRun H α) : TracedStage H α where
  run := Stage.ofRun x.run
  moments held s := x.moments held s.2

/-- A pooled draft is in use from the moment it is taken until the moment it is given back. -/
def pooled (b : Blueprint H) (use : TracedStage H α) : TracedRun H α where
  run := Run.withPooled b use.run
  moments held c := ⟨c.taken b, b.type :: held⟩ ::
    (use.moments (b.type :: held) ((c.pool.acquire b).1, c.taken b) ++
      [⟨after (Run.withPooled b use.run c), held⟩])

/-! ## Creation, traced -/

def draw (create : TracedCreator H) (d : Draft H) (n : String) (channel : Channel) :
    TracedRun H (Value H) :=
  bind (step id (d.factory n)) fun f => create f channel

def valueFor (create : TracedCreator H) (channel : Channel) (d : Draft H) (n : String) :
    TracedRun H (Value H) :=
  ask Context.atStructuralDepth fun stop =>
    if d.blueprint.isNullable n && stop then step id (pure none) else draw create d n channel

def setEach (create : TracedCreator H) (channel : Channel) : List String → TracedStage H Unit
  | [] => step Prod.snd (pure ())
  | n :: names =>
    bind (ask Prod.fst fun d => bind (ofRun (valueFor create channel d n)) fun v =>
      step Prod.snd (Stage.change (·.put n v))) fun _ => setEach create channel names

def buildBy (create : TracedCreator H) (b : Blueprint H) (channel : Channel) :
    TracedRun H (Value H) :=
  pooled b <| ask Prod.fst fun d => bind (setEach create channel d.blueprint.staged) fun _ =>
    step Prod.snd (Stage.probe Draft.newBean)

def createBy (create : TracedCreator H) (t : ValueType) (channel : Channel) :
    TracedRun H (Value H) :=
  ask Context.registry fun r => bind (step id (Run.ofResult (r.get t))) fun f => create f channel

def program (create : TracedCreator H) : Program H α → TracedRun H α
  | .done a => step id (pure a)
  | .halt h => step id (throw h)
  | .engine next => ask Context.engine fun e => program create (next e)
  | .setEngine e next =>
    bind (step id (modify fun c => { c with engine := e })) fun _ => program create next
  | .world next => ask Context.world fun w => program create (next w)
  | .setWorld w next =>
    bind (step id (modify fun c => { c with world := w })) fun _ => program create next
  | .sequence next => bind (step id Run.nextSequence) fun n => program create (next n)
  | .depth next => ask Context.depth fun n => program create (next n)
  | .settings next => ask Context.settings fun s => program create (next s)
  | .create t channel next =>
    bind (caught (createBy create t channel)) fun r => program create (next r)
  | .bean b channel next =>
    bind (caught (buildBy create b channel)) fun r => program create (next r)

def createWithin : Nat → TracedCreator H
  | 0, f, _ => step id (Run.refuse f)
  | levels + 1, f, channel => ask Context.atDepthLimit fun stop =>
    if stop then step id (Run.refuse f)
    else inside (program (createWithin levels) (f.source channel))

def create (f : Factory H) (channel : Channel) : TracedRun H (Value H) :=
  ask (fun c => c.settings.depthLimit - c.depth) fun levels => createWithin levels f channel

/-! ## What is traced is creation -/

def creator (create : TracedCreator H) : Creator H := fun f channel => (create f channel).run

section

variable {nested : TracedCreator H}

theorem run_valueFor (channel : Channel) (d : Draft H) (n : String) :
    (valueFor nested channel d n).run = Stage.valueFor (creator nested) channel false d n := by
  funext c
  rw [Stage.valueFor_eq]
  show (if d.blueprint.isNullable n && c.atStructuralDepth then _ else _ :
    TracedRun H (Value H)).run c = _
  split
  · rfl
  · rfl

theorem run_setEach (channel : Channel) (names : List String) :
    (setEach nested channel names).run = Stage.setEach (creator nested) channel names := by
  induction names with
  | nil => rfl
  | cons n names ih =>
    have hone : (ask Prod.fst fun d => bind (ofRun (valueFor nested channel d n)) fun v =>
        step Prod.snd (Stage.change (·.put n v)) : TracedStage H Unit).run = (do
          let d ← Stage.draft
          let v ← Stage.ofRun (Stage.valueFor (creator nested) channel false d n)
          Stage.change (·.put n v)) := by
      funext s
      show (Stage.ofRun (valueFor nested channel s.1 n).run >>= fun v => _) s = _
      rw [run_valueFor]
      rfl
    exact congrArg₂ (fun x y => x >>= fun _ => y) hone ih

theorem run_buildBy (b : Blueprint H) (channel : Channel) :
    (buildBy nested b channel).run = Run.buildBy (creator nested) b channel := by
  refine congrArg (Run.withPooled b) ?_
  funext s
  show ((setEach nested channel s.1.blueprint.staged).run >>= fun _ => _) s = _
  rw [run_setEach]
  rfl

theorem run_program (p : Program H α) :
    (program nested p).run = Run.program (creator nested) p := by
  induction p with
  | done a => rfl
  | halt h => rfl
  | engine next ih => exact congrArg (get >>= ·) (funext fun c => ih c.engine)
  | setEngine e next ih => exact congrArg (_ >>= ·) (funext fun _ => ih)
  | world next ih => exact congrArg (get >>= ·) (funext fun c => ih c.world)
  | setWorld w next ih => exact congrArg (_ >>= ·) (funext fun _ => ih)
  | sequence next ih => exact congrArg (_ >>= ·) (funext fun n => ih n)
  | depth next ih => exact congrArg (get >>= ·) (funext fun c => ih c.depth)
  | settings next ih => exact congrArg (get >>= ·) (funext fun c => ih c.settings)
  | create t channel next ih => exact congrArg (_ >>= ·) (funext fun r => ih r)
  | bean b channel next ih =>
    show (Run.caught (buildBy nested b channel).run >>= fun r => (program nested (next r)).run) = _
    rw [run_buildBy]
    exact congrArg (_ >>= ·) (funext fun r => ih r)

end

theorem run_createWithin (levels : Nat) (f : Factory H) (channel : Channel) :
    (createWithin levels f channel).run = Run.createWithin levels f channel := by
  induction levels generalizing f channel with
  | zero => rfl
  | succ levels ih =>
    have hcreator : creator (createWithin levels) = Run.createWithin (H := H) levels := by
      funext g ch
      exact ih g ch
    funext c
    show (if c.atDepthLimit then _ else _ : TracedRun H (Value H)).run c =
      (if c.atDepthLimit then _ else _ : Run H (Value H)) c
    split
    · rfl
    · rw [← hcreator, ← run_program]
      rfl

theorem run_create (f : Factory H) (channel : Channel) :
    (create f channel).run = Run.create f channel := by
  funext c
  exact congrFun (run_createWithin (c.settings.depthLimit - c.depth) f channel) c

end Traced

/-! ## What a run keeps up -/

/-- A condition on the moments so far, on the state and on the types of the drafts in use. -/
abbrev Condition (H : Host) (σ : Type) := List (Moment H) → σ → List ValueType → Prop

def Condition.beside (P : Condition H (Context H)) (D : Draft H → Prop) :
    Condition H (Draft H × Context H) := fun past s held => P past s.2 held ∧ D s.1

namespace Traced

/-- Whatever becomes of the computation, the condition goes on to hold, with its moments added
to those before. -/
def Maintains (I : Condition H σ) (x : Traced H σ α) : Prop := ∀ past s held,
  I past s held → I (past ++ x.moments held s) (after (x.run s)) held

namespace Maintains

variable {I : Condition H σ}

protected theorem ask {part : σ → γ} {k : γ → Traced H σ α} (hk : ∀ v, (k v).Maintains I) :
    (ask part k).Maintains I := fun past s held h => hk (part s) past s held h

protected theorem bind {x : Traced H σ α} {k : α → Traced H σ β} (hx : x.Maintains I)
    (hk : ∀ a, (k a).Maintains I) : (bind x k).Maintains I := by
  intro past s held h
  have hfirst := hx past s held h
  show I (past ++ (x.moments held s ++ match x.run s with
    | .ok a t => (k a).moments held t
    | .error _ _ => [])) (after (EStateM.bind x.run (fun a => (k a).run) s)) held
  rw [← List.append_assoc]
  unfold EStateM.bind
  cases hr : x.run s with
  | ok a t =>
    rw [hr] at hfirst
    exact hk a _ t held hfirst
  | error e t =>
    rw [hr] at hfirst
    rw [List.append_nil]
    exact hfirst

protected theorem caught {P : Condition H (Context H)} {x : TracedRun H α}
    (hx : x.Maintains P) : (caught x).Maintains P := by
  intro past c held h
  show P _ (after (Run.caught x.run c)) held
  rw [Run.after_caught]
  exact hx past c held h

protected theorem reify {x : Traced H σ α} (hx : x.Maintains I) : (reify x).Maintains I := by
  intro past s held h
  have h' := hx past s held h
  show I (past ++ x.moments held s) (after (Effect.reify x.run s)) held
  unfold Effect.reify
  cases hr : x.run s with
  | ok a t => simpa [hr, after] using h'
  | error e t => simpa [hr, after] using h'

/-- What is kept up of a context is kept up of the context beside a draft. -/
protected theorem ofRun {P : Condition H (Context H)} {D : Draft H → Prop} {x : TracedRun H α}
    (hx : x.Maintains P) : (ofRun x).Maintains (Condition.beside P D) := by
  intro past s held h
  obtain ⟨d, c⟩ := s
  have h' := hx past c held h.1
  show Condition.beside P D (past ++ x.moments held c) (after (Stage.ofRun x.run (d, c))) held
  unfold Stage.ofRun Effect.zoom Effect.focus
  cases hr : x.run c with
  | ok a c' =>
    rw [hr] at h'
    exact ⟨h', h.2⟩
  | error e c' =>
    rw [hr] at h'
    exact ⟨h', h.2⟩

end Maintains
end Traced

def Context.account (c : Context H) : Pool H × Nat × Nat := (c.pool, c.depth, c.maxDepth)

/-- What the steps of a run have to do to conditions for the whole run to keep them up.  The
condition `P k` allows for `k` drafts more than are in use: a creation begins with one more,
which is for the bean that it may build.  Drafts in use satisfy `D`. -/
structure Upkeep (P : Nat → Condition H (Context H)) (D : Draft H → Prop) : Prop where
  quiet : ∀ {k past c c' held}, P k past c held → c'.account = c.account →
    P k (past ++ [⟨c', held⟩]) c' held
  enter : ∀ {k past c held}, P k past c held → P (k + 1) (past ++ [⟨c.enter, held⟩]) c.enter held
  leave : ∀ {k past c held}, P (k + 1) past c held → P k (past ++ [⟨c.leave, held⟩]) c.leave held
  take : ∀ {k past c held} (b : Blueprint H), P (k + 1) past c held →
    P k (past ++ [⟨c.taken b, b.type :: held⟩]) (c.taken b) (b.type :: held) ∧
      D (c.pool.acquire b).1 ∧ (c.pool.acquire b).1.type = b.type
  giveBack : ∀ {k past c held} {d : Draft H}, P k past c (d.type :: held) → D d →
    P (k + 1) (past ++ [⟨c.returned d, held⟩]) (c.returned d) held
  put : ∀ {d : Draft H} {n : String} (v : Value H), D d → n ∈ d.blueprint.staged → D (d.put n v)

/-- A probe changes nothing but the world. -/
theorem Stage.after_probe (f : Draft H → Probe H α) (s : Draft H × Context H) :
    ∃ w, after (Stage.probe f s) = (s.1, { s.2 with world := w }) := by
  obtain ⟨d, c⟩ := s
  show ∃ w, after (Stage.ofRun (Run.ofProbe (f d)) (d, c)) = (d, { c with world := w })
  unfold Stage.ofRun Run.ofProbe Effect.zoom Effect.focus
  cases hr : f d c.world with
  | ok a w => exact ⟨w, rfl⟩
  | error e w => exact ⟨w, rfl⟩

namespace Upkeep

open Traced (Maintains)

variable {P : Nat → Condition H (Context H)} {D : Draft H → Prop} (hP : Upkeep P D)
include hP

theorem step {x : Run H α} (k : Nat) (hx : Keeps Context.account x) :
    (Traced.step id x).Maintains (P k) := by
  intro past c held h
  exact hP.quiet h (hx c)

theorem stepStage {x : Stage H α} {E : Draft H → Prop} (k : Nat)
    (hx : ∀ s, (after (x s)).2.account = s.2.account) (hE : ∀ s, E s.1 → E (after (x s)).1) :
    (Traced.step Prod.snd x).Maintains (Condition.beside (P k) E) := by
  intro past s held h
  exact ⟨hP.quiet h.1 (hx s), hE s h.2⟩

/-- The use of a draft keeps up the condition if its user does, and keeps the draft of its
type. -/
theorem pooled {k : Nat} {b : Blueprint H} {use : TracedStage H α}
    (huse : use.Maintains (Condition.beside (P k) fun d => D d ∧ d.type = b.type)) :
    (Traced.pooled b use).Maintains (P (k + 1)) := by
  intro past c held h
  obtain ⟨htaken, hacquired⟩ := hP.take b h
  obtain ⟨hused, hD, htype⟩ :=
    huse _ ((c.pool.acquire b).1, c.taken b) (b.type :: held) ⟨htaken, hacquired⟩
  have hafter : after (Run.withPooled b use.run c) =
      (after (use.run ((c.pool.acquire b).1, c.taken b))).2.returned
        (after (use.run ((c.pool.acquire b).1, c.taken b))).1 := by
    rw [Run.withPooled_eq]
    cases use.run ((c.pool.acquire b).1, c.taken b) with
    | ok a s => rfl
    | error e s => rfl
  rw [← htype] at hused
  have hreturned := hP.giveBack hused hD
  rw [← hafter] at hreturned
  show P (k + 1) (past ++ ⟨c.taken b, b.type :: held⟩ ::
    (use.moments (b.type :: held) ((c.pool.acquire b).1, c.taken b) ++
      [⟨after (Run.withPooled b use.run c), held⟩])) (after (Run.withPooled b use.run c)) held
  simpa [htype] using hreturned

/-- Between entering a creation and leaving it, one more draft is allowed for. -/
theorem inside {k : Nat} {x : TracedRun H α} (hx : x.Maintains (P (k + 1))) :
    (Traced.inside x).Maintains (P k) := by
  intro past c held h
  have hleft := hP.leave (hx _ c.enter held (hP.enter h))
  have hafter : after ((Traced.inside x).run c) = (after (x.run c.enter)).leave :=
    Effect.after_finish x.run Context.leave c.enter
  rw [hafter]
  show P k (past ++ ⟨c.enter, held⟩ :: (x.moments held c.enter ++
    [⟨(after (x.run c.enter)).leave, held⟩])) (after (x.run c.enter)).leave held
  simpa using hleft

section Nested

variable {nested : TracedCreator H} (hnested : ∀ k f channel, (nested f channel).Maintains (P k))
include hnested

theorem draw (k : Nat) (d : Draft H) (n : String) (channel : Channel) :
    (Traced.draw nested d n channel).Maintains (P k) := by
  have hfactory : Keeps Context.account (d.factory n) :=
    Keeps.bind (.ofExcept _) fun _ => Keeps.get.bind fun _ => .ofExcept _
  exact (hP.step k hfactory).bind fun f => hnested k f channel

theorem valueFor (k : Nat) (channel : Channel) (d : Draft H) (n : String) :
    (Traced.valueFor nested channel d n).Maintains (P k) := by
  refine Maintains.ask fun stop => ?_
  split
  · exact hP.step k (.pure _)
  · exact hP.draw hnested k d n channel

/-- Staging values keeps up what is said of drafts, and the blueprint. -/
theorem setEach (k : Nat) (channel : Channel) (b : Blueprint H) (names : List String)
    (hnames : ∀ n ∈ names, n ∈ b.staged) : (Traced.setEach nested channel names).Maintains
      (Condition.beside (P k) fun d => D d ∧ d.blueprint = b) := by
  induction names with
  | nil => exact hP.stepStage k (fun _ => rfl) fun _ h => h
  | cons n names ih =>
    refine Maintains.bind ?_ fun _ => ih fun m hm => hnames m (List.mem_cons_of_mem n hm)
    refine Maintains.ask fun d => ?_
    refine Maintains.bind (.ofRun (hP.valueFor hnested k channel d n)) fun v => ?_
    refine hP.stepStage k (fun _ => rfl) fun s h => ⟨hP.put v h.1 ?_, h.2⟩
    rw [h.2]
    exact hnames n List.mem_cons_self

theorem buildBy (k : Nat) (b : Blueprint H) (channel : Channel) :
    (Traced.buildBy nested b channel).Maintains (P (k + 1)) := by
  refine hP.pooled ?_
  -- The draft may have been made for another blueprint of the type; staging keeps that one.
  intro past s held h
  have hstage : (Traced.bind (Traced.setEach nested channel s.1.blueprint.staged) fun _ =>
      Traced.step Prod.snd (Stage.probe Draft.newBean)).Maintains
        (Condition.beside (P k) fun d => D d ∧ d.blueprint = s.1.blueprint) := by
    refine Maintains.bind (hP.setEach hnested k channel _ _ fun _ hn => hn) fun _ => ?_
    refine hP.stepStage k (fun s => ?_) fun s hs => ?_
    · obtain ⟨w, hw⟩ := Stage.after_probe Draft.newBean s
      rw [hw]
      rfl
    · obtain ⟨w, hw⟩ := Stage.after_probe Draft.newBean s
      rw [hw]
      exact hs
  obtain ⟨hused, hD, hblueprint⟩ := hstage past s held ⟨h.1, h.2.1, rfl⟩
  refine ⟨hused, hD, ?_⟩
  rw [← h.2.2]
  exact congrArg Blueprint.type hblueprint

theorem createBy (k : Nat) (t : ValueType) (channel : Channel) :
    (Traced.createBy nested t channel).Maintains (P k) :=
  Maintains.ask fun _ => (hP.step k (.ofExcept _)).bind fun f => hnested k f channel

theorem program (k : Nat) (p : Program H α) : (Traced.program nested p).Maintains (P (k + 1)) := by
  induction p with
  | done a => exact hP.step _ (.pure a)
  | halt h => exact hP.step _ (.throw h)
  | engine next ih => exact Maintains.ask ih
  | setEngine e next ih => exact Maintains.bind (hP.step _ (.modify fun _ => rfl)) fun _ => ih
  | world next ih => exact Maintains.ask ih
  | setWorld w next ih => exact Maintains.bind (hP.step _ (.modify fun _ => rfl)) fun _ => ih
  | sequence next ih => exact Maintains.bind (hP.step _ fun _ => rfl) ih
  | depth next ih => exact Maintains.ask ih
  | settings next ih => exact Maintains.ask ih
  | create t channel next ih =>
    exact Maintains.bind (hP.createBy hnested (k + 1) t channel).caught ih
  | bean b channel next ih =>
    exact Maintains.bind (hP.buildBy hnested k b channel).caught ih

end Nested

theorem createWithin (levels k : Nat) (f : Factory H) (channel : Channel) :
    (Traced.createWithin levels f channel).Maintains (P k) := by
  have hrefuse : ∀ k f, (Traced.step id (Run.refuse f)).Maintains (P k) := fun k f =>
    hP.step k (Keeps.get.bind fun _ => .throw _)
  induction levels generalizing k f channel with
  | zero => exact hrefuse k f
  | succ levels ih =>
    refine Maintains.ask fun stop => ?_
    split
    · exact hrefuse k f
    · exact hP.inside (hP.program ih k (f.source channel))

/-- A creation keeps up what its steps do, and leaves no draft in use. -/
theorem create (k : Nat) (f : Factory H) (channel : Channel) :
    (Traced.create f channel).Maintains (P k) :=
  Maintains.ask fun levels => hP.createWithin levels k f channel

end Upkeep

end BeanContract
