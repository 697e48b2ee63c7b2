/-
The journal of a run.

A journaled computation is a computation that also writes down what cannot be seen from its
outcome: the numbers that a structure gives out, and what a draft holds whenever it is taken,
changed or probed.  Creation is journaled step by step, and what it does is creation itself
(`run_create`).

A condition on the journal so far and on the context is kept up by every creation if its steps
keep it up (`Regime`).  What a run writes down is thereby known from single steps.
-/
import BeanContract.Proofs.Context.Account

namespace BeanContract

open Effect (Keeps Meets after)

variable {H : Host} {σ α β : Type}

inductive Entry (H : Host) where
  | number (n : Nat)
  | draft (d : Draft H)

namespace Entry

def number? : Entry H → Option Nat
  | number n => some n
  | draft _ => none

def numbers (entries : List (Entry H)) : List Nat := entries.filterMap number?

end Entry

/-- A computation, and what it writes down. -/
structure Journaled (H : Host) (σ α : Type) where
  run : EStateM Halt σ α
  journal : σ → List (Entry H)

abbrev JournaledRun (H : Host) (α : Type) := Journaled H (Context H) α

abbrev JournaledStage (H : Host) (α : Type) := Journaled H (Draft H × Context H) α

abbrev JournaledCreator (H : Host) := Factory H → Channel → JournaledRun H (Value H)

namespace Journaled

def quiet (x : EStateM Halt σ α) : Journaled H σ α where
  run := x
  journal _ := []

instance : Monad (Journaled H σ) where
  pure a := quiet (pure a)
  bind x k :=
    { run := x.run >>= fun a => (k a).run
      journal s := x.journal s ++ match x.run s with
        | .ok a t => (k a).journal t
        | .error _ _ => [] }

/-- A computation that writes something down if it succeeds. -/
def note (x : EStateM Halt σ α) (entry : α → σ → Entry H) : Journaled H σ α where
  run := x
  journal s := match x s with
    | .ok a t => [entry a t]
    | .error _ _ => []

def each (f : β → Journaled H σ Unit) : List β → Journaled H σ Unit
  | [] => pure ()
  | b :: bs => do
    f b
    each f bs

/-- A failure becomes a result; a panic goes on. -/
def caught (x : JournaledRun H α) : JournaledRun H (Except Failure α) where
  run := Run.caught x.run
  journal := x.journal

def ofRun (x : JournaledRun H α) : JournaledStage H α where
  run := Stage.ofRun x.run
  journal s := x.journal s.2

def nextSequence : JournaledRun H Nat := note Run.nextSequence fun n _ => .number n

def change (f : Draft H → Draft H) : JournaledStage H Unit :=
  note (Stage.change f) fun _ s => .draft s.1

/-- The draft that is probed is written down. -/
def probe (f : Draft H → Probe H α) : JournaledStage H α where
  run := Stage.probe f
  journal s := [.draft s.1]

def pooled (b : Blueprint H) (use : JournaledStage H α) : JournaledRun H α where
  run := Run.withPooled b use.run
  journal c := .draft (c.pool.acquire b).1 :: use.journal ((c.pool.acquire b).1, c.taken b)

def inside (x : JournaledRun H α) : JournaledRun H α where
  run := do
    modify Context.enter
    Effect.finish x.run Context.leave
  journal c := x.journal c.enter

/-! ## Creation, journaled -/

def draw (create : JournaledCreator H) (d : Draft H) (n : String) (channel : Channel) :
    JournaledRun H (Value H) := do
  let f ← quiet (d.factory n)
  create f channel

def valueFor (create : JournaledCreator H) (channel : Channel) (d : Draft H) (n : String) :
    JournaledRun H (Value H) := do
  let c ← quiet get
  if d.blueprint.isNullable n && c.atStructuralDepth then pure none else draw create d n channel

def setEach (create : JournaledCreator H) (channel : Channel) : List String → JournaledStage H Unit :=
  each fun n => do
    let d ← quiet Stage.draft
    let v ← ofRun (valueFor create channel d n)
    change (·.put n v)

def buildBy (create : JournaledCreator H) (b : Blueprint H) (channel : Channel) :
    JournaledRun H (Value H) :=
  pooled b do
    let d ← quiet Stage.draft
    setEach create channel d.blueprint.staged
    probe Draft.newBean

def createBy (create : JournaledCreator H) (t : ValueType) (channel : Channel) :
    JournaledRun H (Value H) := do
  let c ← quiet get
  let f ← quiet (Run.ofResult (c.registry.get t))
  create f channel

def program (create : JournaledCreator H) : Program H α → JournaledRun H α
  | .done a => pure a
  | .halt h => quiet (throw h)
  | .engine next => do program create (next (← quiet get).engine)
  | .setEngine e next => do
    quiet (modify fun c => { c with engine := e })
    program create next
  | .world next => do program create (next (← quiet get).world)
  | .setWorld w next => do
    quiet (modify fun c => { c with world := w })
    program create next
  | .sequence next => do program create (next (← nextSequence))
  | .depth next => do program create (next (← quiet get).depth)
  | .settings next => do program create (next (← quiet get).settings)
  | .create t channel next => do program create (next (← caught (createBy create t channel)))
  | .bean b channel next => do program create (next (← caught (buildBy create b channel)))

def createWithin : Nat → JournaledCreator H
  | 0, f, _ => quiet (Run.refuse f)
  | levels + 1, f, channel => do
    if (← quiet get).atDepthLimit then quiet (Run.refuse f)
    else inside (program (createWithin levels) (f.source channel))

def create (f : Factory H) (channel : Channel) : JournaledRun H (Value H) := do
  let c ← quiet get
  createWithin (c.settings.depthLimit - c.depth) f channel

/-! ## What is journaled is creation -/

@[simp]
theorem run_pure (a : α) : (pure a : Journaled H σ α).run = pure a := rfl

@[simp]
theorem run_bind (x : Journaled H σ α) (k : α → Journaled H σ β) :
    (x >>= k).run = x.run >>= fun a => (k a).run := rfl

@[simp]
theorem run_quiet (x : EStateM Halt σ α) : (quiet x : Journaled H σ α).run = x := rfl

@[simp]
theorem run_ite (p : Prop) [Decidable p] (x y : Journaled H σ α) :
    (if p then x else y).run = if p then x.run else y.run := apply_ite _ _ _ _

theorem run_each {f : β → Journaled H σ Unit} {g : β → EStateM Halt σ Unit}
    (h : ∀ b, (f b).run = g b) (bs : List β) : (each f bs).run = Effect.each g bs := by
  induction bs with
  | nil => rfl
  | cons b bs ih =>
    show ((f b).run >>= fun _ => (each f bs).run) = _
    rw [h, ih]
    rfl

def creator (create : JournaledCreator H) : Creator H := fun f channel => (create f channel).run

section

variable {nested : JournaledCreator H}

theorem run_valueFor (channel : Channel) (d : Draft H) (n : String) :
    (valueFor nested channel d n).run = Stage.valueFor (creator nested) channel false d n := by
  funext c
  rw [Stage.valueFor_eq, valueFor, run_bind]
  simp only [run_ite]
  show (if d.blueprint.isNullable n && c.atStructuralDepth then _ else _ : Run H (Value H)) c = _
  split
  · rfl
  · rfl

theorem run_setEach (channel : Channel) (names : List String) :
    (setEach nested channel names).run = Stage.setEach (creator nested) channel names := by
  refine run_each (fun n => ?_) names
  show (Stage.draft >>= fun d => Stage.ofRun (valueFor nested channel d n).run >>= fun v => _) = _
  simp only [run_valueFor]
  rfl

theorem run_buildBy (b : Blueprint H) (channel : Channel) :
    (buildBy nested b channel).run = Run.buildBy (creator nested) b channel := by
  refine congrArg (Run.withPooled b) ?_
  show (Stage.draft >>= fun d => (setEach nested channel d.blueprint.staged).run >>= fun _ => _) = _
  simp only [run_setEach]
  rfl

theorem run_program (p : Program H α) :
    (program nested p).run = Run.program (creator nested) p := by
  induction p with
  | done a => rfl
  | halt h => rfl
  | engine next ih => exact congrArg (get >>= ·) (funext fun c => ih c.engine)
  | setEngine e next ih => exact congrArg (_ >>= ·) (funext fun _ => ih)
  | world next ih => exact congrArg (get >>= ·) (funext fun c => ih c.world)
  | setWorld w next ih => exact congrArg (_ >>= ·) (funext fun _ => ih)
  | sequence next ih => exact congrArg (_ >>= ·) (funext fun n => ih n)
  | depth next ih => exact congrArg (get >>= ·) (funext fun c => ih c.depth)
  | settings next ih => exact congrArg (get >>= ·) (funext fun c => ih c.settings)
  | create t channel next ih => exact congrArg (_ >>= ·) (funext fun r => ih r)
  | bean b channel next ih =>
    show (Run.caught (buildBy nested b channel).run >>= fun r => (program nested (next r)).run) = _
    rw [run_buildBy]
    exact congrArg (_ >>= ·) (funext fun r => ih r)

end

theorem run_createWithin (levels : Nat) (f : Factory H) (channel : Channel) :
    (createWithin levels f channel).run = Run.createWithin levels f channel := by
  induction levels generalizing f channel with
  | zero => rfl
  | succ levels ih =>
    have hcreator : creator (createWithin levels) = Run.createWithin (H := H) levels := by
      funext g ch
      exact ih g ch
    show (get >>= fun c : Context H => (if c.atDepthLimit then quiet (Run.refuse f)
      else inside (program (createWithin levels) (f.source channel)) : JournaledRun H _).run) = _
    simp only [run_ite]
    rw [inside, run_program, hcreator]
    rfl

@[simp]
theorem run_create (f : Factory H) (channel : Channel) :
    (create f channel).run = Run.create f channel := by
  funext c
  exact congrFun (run_createWithin (c.settings.depthLimit - c.depth) f channel) c

/-! ## What a run keeps up -/

/-- Whatever becomes of the computation, the condition goes on to hold, with what was written
down added to the journal so far; results satisfy `Q`. -/
def Holds (I : List (Entry H) → σ → Prop) (Q : α → Prop) (x : Journaled H σ α) : Prop :=
  ∀ past s, I past s → Meets x.run s (fun a t => I (past ++ x.journal s) t ∧ Q a)
    fun _ t => I (past ++ x.journal s) t

namespace Holds

variable {I : List (Entry H) → σ → Prop} {Q : α → Prop} {x : Journaled H σ α}

theorem mono {R : α → Prop} (h : Holds I Q x) (hQ : ∀ a, Q a → R a) : Holds I R x :=
  fun past s hs => (h past s hs).mono (fun a _ ha => ⟨ha.1, hQ a ha.2⟩) fun _ _ he => he

/-- Results are what those of the computation are. -/
theorem and_of_run {R : α → Prop} (h : Holds I Q x)
    (hR : ∀ past s a t, I past s → x.run s = .ok a t → R a) : Holds I (fun a => Q a ∧ R a) x :=
  fun past s hs => .intro
    (fun a t ha => ⟨((h past s hs).ok ha).1, ((h past s hs).ok ha).2, hR past s a t hs ha⟩)
    fun _ _ he => (h past s hs).error he

protected theorem pure {a : α} (h : Q a) : Holds I Q (pure a) := fun past s hs => by
  show I (past ++ []) s ∧ Q a
  rw [List.append_nil]
  exact ⟨hs, h⟩

protected theorem quiet {x : EStateM Halt σ α}
    (h : ∀ past s, I past s → Meets x s (fun a t => I past t ∧ Q a) fun _ t => I past t) :
    Holds I Q (quiet x) := fun past s hs => by
  show Meets x s (fun a t => I (past ++ []) t ∧ Q a) fun _ t => I (past ++ []) t
  rw [List.append_nil]
  exact h past s hs

protected theorem modify {g : σ → σ} (h : ∀ past s, I past s → I past (g s)) :
    Holds I (fun _ => True) (.quiet (modify g)) :=
  .quiet fun past s hs => ⟨h past s hs, trivial⟩

protected theorem throw {e : Halt} : Holds I Q (.quiet (throw e)) := .quiet fun _ _ hs => hs

/-- A computation that leaves the state alone gives what it gives in the states of the condition. -/
theorem ask {x : EStateM Halt σ α} (hx : Keeps id x)
    (h : ∀ past s a, I past s → x s = .ok a s → Q a) : Holds I Q (.quiet x) := by
  refine .quiet fun past s hs => .intro (fun a t ht => ?_) fun e t ht => ?_
  · have hsame : t = s := hx.of_ok ht
    subst hsame
    exact ⟨hs, h past t a hs ht⟩
  · have hsame : after (x s) = s := hx s
    rw [ht] at hsame
    change t = s at hsame
    exact hsame ▸ hs

/-- What is read from the state can be relied on as far as the condition says something of it. -/
protected theorem get {p : σ → β} {k : β → Journaled H σ α}
    (h : ∀ past s, I past s → Holds I Q (k (p s))) :
    Holds I Q (quiet (do pure (p (← get))) >>= k) := fun past s hs => h past s hs past s hs

protected theorem bind {R : β → Prop} {k : α → Journaled H σ β} (h : Holds I Q x)
    (hk : ∀ a, Q a → Holds I R (k a)) : Holds I R (x >>= k) := by
  intro past s hs
  have hx := h past s hs
  show Meets (x.run >>= fun a => (k a).run) s
    (fun b t => I (past ++ (x.journal s ++ match x.run s with
      | .ok a t => (k a).journal t
      | .error _ _ => [])) t ∧ R b) fun _ t => I (past ++ (x.journal s ++ match x.run s with
      | .ok a t => (k a).journal t
      | .error _ _ => [])) t
  rw [← List.append_assoc]
  cases hr : x.run s with
  | ok a t =>
    obtain ⟨hI, hQ⟩ := hx.ok hr
    exact Meets.bind_of_ok hr (hk a hQ _ t hI)
  | error e t =>
    have herror : (x.run >>= fun a => (k a).run) s = .error e t := Effect.bind_of_error hr _
    rw [List.append_nil]
    unfold Meets
    rw [herror]
    exact hx.error hr

protected theorem each {f : β → Journaled H σ Unit} {bs : List β}
    (h : ∀ b ∈ bs, Holds I (fun _ => True) (f b)) : Holds I (fun _ => True) (each f bs) := by
  induction bs with
  | nil => exact .pure trivial
  | cons b bs ih =>
    refine (h b List.mem_cons_self).bind fun _ _ => ?_
    exact ih fun c hc => h c (List.mem_cons_of_mem b hc)

protected theorem caught {I : List (Entry H) → Context H → Prop} {x : JournaledRun H α}
    (h : Holds I Q x) : Holds I (fun r => ∀ a, r = .ok a → Q a) (caught x) := by
  intro past c hc
  have hx := h past c hc
  show Meets (Run.caught x.run) c _ fun _ t => I (past ++ x.journal c) t
  unfold Meets Run.caught
  cases hr : x.run c with
  | ok a t =>
    refine ⟨(hx.ok hr).1, ?_⟩
    rintro _ ⟨⟩
    exact (hx.ok hr).2
  | error e t =>
    cases e with
    | failure f => exact ⟨hx.error hr, nofun⟩
    | panic p => exact hx.error hr

end Holds

def beside (I : List (Entry H) → Context H → Prop) (D : Draft H → Prop)
    (past : List (Entry H)) (s : Draft H × Context H) : Prop := I past s.2 ∧ D s.1

protected theorem Holds.ofRun {I : List (Entry H) → Context H → Prop} {D : Draft H → Prop}
    {Q : α → Prop} {x : JournaledRun H α} (h : Holds I Q x) : Holds (beside I D) Q (ofRun x) := by
  rintro past ⟨d, c⟩ ⟨hc, hd⟩
  refine Meets.zoom ((h past c hc).mono (fun a t ha => ⟨⟨ha.1, hd⟩, ha.2⟩) fun _ t he => ⟨he, hd⟩)

end Journaled

/-- Whatever a program is answered, the beans that it asks for are of blueprints in `B`. -/
def Program.Describes (B : Blueprint H → Prop) : Program H α → Prop
  | .done _ => True
  | .halt _ => True
  | .engine next => ∀ e, (next e).Describes B
  | .setEngine _ next => next.Describes B
  | .world next => ∀ w, (next w).Describes B
  | .setWorld _ next => next.Describes B
  | .sequence next => ∀ n, (next n).Describes B
  | .depth next => ∀ n, (next n).Describes B
  | .settings next => ∀ s, (next s).Describes B
  | .create _ _ next => ∀ r, (next r).Describes B
  | .bean b _ next => B b ∧ ∀ r, (next r).Describes B

theorem Program.describes_of_forall {B : Blueprint H → Prop} (hB : ∀ b, B b) (p : Program H α) :
    p.Describes B := by
  induction p with
  | done a => trivial
  | halt h => trivial
  | engine next ih => exact ih
  | setEngine e next ih => exact ih
  | world next ih => exact ih
  | setWorld w next ih => exact ih
  | sequence next ih => exact ih
  | depth next ih => exact ih
  | settings next ih => exact ih
  | create t channel next ih => exact ih
  | bean b channel next ih => exact ⟨hB b, ih⟩

def Blueprint.Puts (D : Draft H → Prop) (b : Blueprint H) (n : String) (v : Value H) : Prop :=
  ∀ d, D d → d.blueprint = b → D (d.put n v)

/-- What the steps of a creation have to do to the conditions `I k` for the whole creation to keep
them up, where `k` counts the levels of creation above a first one, below which there are `L`
levels at most.  Factories in `F`, which are all that is looked up, ask for beans of blueprints in
`B` only, and give values in `V`.  Drafts satisfy `D`. -/
structure Regime (L : Nat) (F : Factory H → Prop) (V : ValueType → Value H → Prop)
    (B : Blueprint H → Prop) (D : Draft H → Prop)
    (I : Nat → List (Entry H) → Context H → Prop) : Prop where
  engine : ∀ {k past c} e, I k past c → I k past { c with engine := e }
  world : ∀ {k past c} w, I k past c → I k past { c with world := w }
  number : ∀ {k past c}, I k past c →
    I k (past ++ [.number (c.sequence + 1)]) { c with sequence := c.sequence + 1 }
  draft : ∀ {k past c d}, I k past c → D d → I k (past ++ [.draft d]) c
  enter : ∀ {k past c}, I k past c → I (k + 1) past c.enter
  leave : ∀ {k past c}, I (k + 1) past c → I k past c.leave
  take : ∀ {k past c b}, I k past c → B b → I k past (c.taken b) ∧ D (c.pool.acquire b).1
  giveBack : ∀ {k past c d}, I k past c → D d → I k past (c.returned d)
  levels : ∀ {k past c}, I k past c → c.settings.depthLimit - c.depth = L - k
  lookUp : ∀ {k past c t f}, I k past c → c.registry.get t = .ok f → F f
  own : ∀ {k past c d n f}, I k past c → D d → d.factory n c = .ok f c →
    F f ∧ ∀ v, V f.type v → d.blueprint.Puts D n v
  null : ∀ {d n}, D d → D (d.put n none)
  describes : ∀ {f}, F f → ∀ channel, (f.source channel).Describes B
  gives : ∀ {k past c f channel v c'}, I k past c → F f → Run.create f channel c = .ok v c' →
    V f.type v

namespace Regime

open Journaled (Holds)

variable {L : Nat} {F : Factory H → Prop} {V : ValueType → Value H → Prop}
  {B : Blueprint H → Prop} {D : Draft H → Prop} {I : Nat → List (Entry H) → Context H → Prop}
  (R : Regime L F V B D I) {k : Nat}
include R

theorem ofProbe (x : Probe H α) : Holds (I k) (fun _ => True) (.quiet (Run.ofProbe x)) :=
  .quiet fun _ _ hc => Meets.zoom (.intro (fun _ _ _ => ⟨R.world _ hc, trivial⟩)
    fun _ _ _ => R.world _ hc)

theorem probe {D' : Draft H → Prop} (hD : ∀ d, D' d → D d) (f : Draft H → Probe H α) :
    Holds (Journaled.beside (I k) D') (fun _ => True) (.probe f) := by
  rintro past ⟨d, c⟩ ⟨hc, hd⟩
  have hnoted : I k (past ++ [.draft d]) c := R.draft hc (hD d hd)
  show Meets (Stage.ofRun (Run.ofProbe (f d))) (d, c) _ _
  refine Meets.zoom (Meets.zoom (.intro (fun a w _ => ?_) fun e w _ => ?_))
  · exact ⟨⟨R.world w hnoted, hd⟩, trivial⟩
  · exact ⟨R.world w hnoted, hd⟩

theorem change {D' : Draft H → Prop} (hD : ∀ d, D' d → D d) {g : Draft H → Draft H}
    (hg : ∀ d, D' d → D' (g d)) :
    Holds (Journaled.beside (I k) D') (fun _ => True) (.change g) := by
  rintro past ⟨d, c⟩ ⟨hc, hd⟩
  exact ⟨⟨R.draft hc (hD _ (hg d hd)), hg d hd⟩, trivial⟩

/-- What drafts of a blueprint satisfy beside it. -/
theorem pooled {b : Blueprint H} {use : JournaledStage H α} (hb : B b) (Q : α → Prop)
    (huse : ∀ b', Holds (Journaled.beside (I k) fun d => D d ∧ d.blueprint = b') Q use) :
    Holds (I k) Q (.pooled b use) := by
  intro past c hc
  obtain ⟨htaken, hacquired⟩ := R.take hc hb
  have hused := huse _ (past ++ [.draft (c.pool.acquire b).1]) ((c.pool.acquire b).1, c.taken b)
    ⟨R.draft htaken hacquired, hacquired, rfl⟩
  have hjournal : past ++ (Journaled.pooled b use).journal c =
      past ++ [.draft (c.pool.acquire b).1] ++
        use.journal ((c.pool.acquire b).1, c.taken b) := by
    rw [List.append_assoc]
    rfl
  rw [hjournal]
  show Meets (Run.withPooled b use.run) c _ _
  unfold Meets
  rw [Run.withPooled_eq]
  cases hr : use.run ((c.pool.acquire b).1, c.taken b) with
  | ok a s =>
    obtain ⟨⟨hI, hD, -⟩, hQ⟩ := hused.ok hr
    exact ⟨R.giveBack hI hD, hQ⟩
  | error e s =>
    obtain ⟨hI, hD, -⟩ := hused.error hr
    exact R.giveBack hI hD

theorem inside {x : JournaledRun H α} {Q : α → Prop} (hx : Holds (I (k + 1)) Q x) :
    Holds (I k) Q (.inside x) := by
  intro past c hc
  have hentered := hx past c.enter (R.enter hc)
  show Meets (Effect.finish x.run Context.leave) c.enter _ _
  refine Meets.finish (hentered.mono (fun a t h => ⟨R.leave h.1, h.2⟩) fun e t h => R.leave h)

theorem factory {d : Draft H} (hd : D d) (n : String) :
    Holds (I k) (fun f => F f ∧ ∀ v, V f.type v → d.blueprint.Puts D n v)
      (.quiet (d.factory n)) := by
  refine .ask ?_ fun past c f hc hf => R.own hc hd hf
  exact Keeps.bind (.ofExcept _) fun _ => Keeps.get.bind fun _ => .ofExcept _

section Nested

variable {nested : JournaledCreator H}
  (hnested : ∀ f channel, F f → Holds (I k) (V f.type) (nested f channel))
include hnested

theorem draw {d : Draft H} (hd : D d) (n : String) (channel : Channel) :
    Holds (I k) (d.blueprint.Puts D n) (.draw nested d n channel) :=
  (R.factory hd n).bind fun f hf => (hnested f channel hf.1).mono hf.2

theorem valueFor {d : Draft H} (hd : D d) (n : String) (channel : Channel) :
    Holds (I k) (d.blueprint.Puts D n) (.valueFor nested channel d n) := by
  refine Holds.get (p := id) fun past c hc => ?_
  split
  · exact .pure fun e he _ => R.null he
  · exact R.draw hnested hd n channel

theorem setEach (b : Blueprint H) (channel : Channel) (names : List String) :
    Holds (Journaled.beside (I k) fun d => D d ∧ d.blueprint = b) (fun _ => True)
      (.setEach nested channel names) := by
  refine .each fun n _ => ?_
  refine Holds.get (p := Prod.fst) fun past s hs => ?_
  obtain ⟨-, hd, hb⟩ := hs
  refine (R.valueFor hnested hd n channel).ofRun.bind fun v hv => ?_
  rw [hb] at hv
  exact R.change (fun _ h => h.1) fun e he => ⟨hv e he.1 he.2, he.2⟩

theorem buildBy {b : Blueprint H} (hb : B b) (channel : Channel) :
    Holds (I k) (fun _ => True) (.buildBy nested b channel) := by
  refine R.pooled hb _ fun b' => ?_
  refine Holds.get (p := Prod.fst) fun past s hs => ?_
  refine (R.setEach hnested b' channel _).bind fun _ _ => ?_
  exact R.probe (fun _ h => h.1) _

theorem createBy (t : ValueType) (channel : Channel) :
    Holds (I k) (fun _ => True) (.createBy nested t channel) := by
  refine Holds.get (p := id) fun past c hc => ?_
  have hfactory : Holds (I k) F (.quiet (Run.ofResult (c.registry.get t))) :=
    .ask (.ofExcept _) fun _ _ f _ hf => R.lookUp hc (Effect.ofExcept_eq_ok.1 hf).1
  exact hfactory.bind fun f hf => (hnested f channel hf).mono fun _ _ => trivial

/-- A program keeps up what its steps do. -/
theorem program {p : Program H α} (hp : p.Describes B) :
    Holds (I k) (fun _ => True) (.program nested p) := by
  induction p with
  | done a => exact .pure trivial
  | halt h => exact .throw
  | engine next ih => exact Holds.get (p := id) fun _ c _ => ih c.engine (hp _)
  | setEngine e next ih => exact (Holds.modify fun _ _ hc => R.engine e hc).bind fun _ _ => ih hp
  | world next ih => exact Holds.get (p := id) fun _ c _ => ih c.world (hp _)
  | setWorld w next ih => exact (Holds.modify fun _ _ hc => R.world w hc).bind fun _ _ => ih hp
  | sequence next ih =>
    have hnumber : Holds (I k) (fun _ => True) (.nextSequence : JournaledRun H Nat) :=
      fun past c hc => ⟨R.number hc, trivial⟩
    exact hnumber.bind fun n _ => ih n (hp n)
  | depth next ih => exact Holds.get (p := id) fun _ c _ => ih c.depth (hp _)
  | settings next ih => exact Holds.get (p := id) fun _ c _ => ih c.settings (hp _)
  | create t channel next ih =>
    exact (R.createBy hnested t channel).caught.bind fun r _ => ih r (hp r)
  | bean b channel next ih =>
    exact (R.buildBy hnested hp.1 channel).caught.bind fun r _ => ih r (hp.2 r)

end Nested

omit R in
theorem refuse (f : Factory H) : Holds (I k) (fun _ => True) (.quiet (Run.refuse f)) :=
  .quiet fun _ _ hc => hc

/-- A creation with as many levels as are left is one, and gives values as such. -/
theorem given {levels : Nat} (hlevels : levels = L - k) {f : Factory H} (hf : F f)
    {channel : Channel} (h : Holds (I k) (fun _ => True) (.createWithin levels f channel)) :
    Holds (I k) (V f.type) (.createWithin levels f channel) := by
  refine (h.and_of_run (R := V f.type) fun past c v c' hc hv => ?_).mono fun _ hv => hv.2
  rw [Journaled.run_createWithin, hlevels, ← R.levels hc] at hv
  exact R.gives hc hf hv

theorem createWithin {levels : Nat} (hlevels : levels = L - k) {f : Factory H} (hf : F f)
    (channel : Channel) : Holds (I k) (V f.type) (.createWithin levels f channel) := by
  refine R.given hlevels hf ?_
  induction levels generalizing k f channel with
  | zero => exact refuse f
  | succ levels ih =>
    refine Holds.get (p := id) fun past c hc => ?_
    split
    · exact refuse f
    · have hnested : levels = L - (k + 1) := by omega
      refine R.inside (R.program (fun g ch hg => ?_) (R.describes hf channel))
      exact R.given hnested hg (ih hnested hg ch)

/-- A creation keeps up what its steps do. -/
theorem create {f : Factory H} (hf : F f) (channel : Channel) :
    Holds (I k) (V f.type) (.create f channel) :=
  Holds.get (p := id) fun _ _ hc => R.createWithin (R.levels hc) hf channel

end Regime
end BeanContract
