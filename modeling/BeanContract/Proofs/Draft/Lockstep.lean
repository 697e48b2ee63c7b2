/-
Drafts in lockstep.

Two computations on drafts of blueprints that nothing tells apart go the same way step by step if
their contexts answer alike: a property draws from related factories, and these create the same
values and leave related contexts (`Lockstep`).  Then both computations have the same outcome, and
leave the same staged in related contexts.  The errors that they end with are those of creations,
failures, and the panics of texts that are asked for.
-/
import BeanContract.Proofs.Draft.Indistinct
import BeanContract.Proofs.Draft.Panic
import BeanContract.Proofs.Draft.Stage

namespace BeanContract

open Effect (InStep Only)

variable {H : Host} {α : Type}

/-- Two look-ups give values that are related, or fail in the same way. -/
def Paired {ε β : Type} (V : β → β → Prop) (x y : Except ε β) : Prop :=
  (∃ a a', x = .ok a ∧ y = .ok a' ∧ V a a') ∨ ∃ e, x = .error e ∧ y = .error e

def Context.SameRest (c c' : Context H) : Prop :=
  c' = { c with registry := c'.registry, pool := c'.pool }

namespace Context.SameRest

variable {c c' : Context H} (h : c.SameRest c')
include h

theorem settings : c'.settings = c.settings := by rw [h]

theorem engine : c'.engine = c.engine := by rw [h]

theorem depth : c'.depth = c.depth := by rw [h]

theorem sequence : c'.sequence = c.sequence := by rw [h]

theorem world : c'.world = c.world := by rw [h]

theorem atStructuralDepth : c'.atStructuralDepth = c.atStructuralDepth := by
  unfold Context.atStructuralDepth
  rw [h.settings, h.depth]

end Context.SameRest

theorem Run.inStep_ofProbe {R : Context H → Context H → Prop} {E : Halt → Prop}
    (hsame : ∀ c c', R c c' → c.SameRest c')
    (hworld : ∀ c c' w, R c c' → R { c with world := w } { c' with world := w })
    {x : Probe H α} (hx : Only E x) : InStep R E (Run.ofProbe x) (Run.ofProbe x) := by
  refine (InStep.of_only hx).zoom (fun c c' h => (hsame c c' h).world) ?_
  rintro c c' w _ h rfl
  exact hworld c c' _ h

/-- Contexts that `R` relates differ in their registries and pools at most.  Factories that `V`
relates, among them those that properties draw from, create the same values there by `create`,
with errors in `E`. -/
structure Lockstep (create : Creator H) (b b' : Blueprint H) (R : Context H → Context H → Prop)
    (V : Factory H → Factory H → Prop) (E : Halt → Prop) : Prop where
  indistinct : b.Indistinct b'
  same : ∀ c c', R c c' → c.SameRest c'
  withEngine : ∀ c c' e, R c c' → R { c with engine := e } { c' with engine := e }
  withWorld : ∀ c c' w, R c c' → R { c with world := w } { c' with world := w }
  lookUp : ∀ c c', R c c' → ∀ n t, Paired V (c.registry.forProperty b.type n t)
    (c'.registry.forProperty b.type n t)
  lowCardinality : ∀ f f', V f f' → f'.lowCardinality = f.lowCardinality
  create : ∀ f f', V f f' → ∀ channel, InStep R E (create f channel) (create f' channel)
  textual : ∀ e : Halt, e.Textual H → E e

namespace Lockstep

def Drafted (b b' : Blueprint H) (R : Context H → Context H → Prop)
    (s s' : Draft H × Context H) : Prop :=
  s.1.blueprint = b ∧ s'.1 = s.1.recast b' ∧ R s.2 s'.2

abbrev Stages (b b' : Blueprint H) (R : Context H → Context H → Prop) (E : Halt → Prop)
    (x y : Stage H α) : Prop :=
  InStep (Drafted b b' R) E x y

variable {create : Creator H} {b b' : Blueprint H} {R : Context H → Context H → Prop}
  {V : Factory H → Factory H → Prop} {E : Halt → Prop} (L : Lockstep create b b' R V E)
  {d : Draft H} {n : String}
include L

/-! ## Draws -/

theorem failure (f : Failure) : E (.failure f) := L.textual _ (Halt.textual_failure f)

theorem ofResult (r : Except Failure α) : InStep R E (Run.ofResult r) (Run.ofResult r) :=
  .ofExcept fun f _ => L.failure f

theorem engineDraw (step : Random.Engine → α × Random.Engine) :
    InStep R E (Run.draw step) (Run.draw step) := by
  intro c c' h
  refine .of_ok (Run.draw_eq step c) ?_ (L.withEngine c c' _ h)
  rw [Run.draw_eq, (L.same c c' h).engine]

theorem ofProbe {x : Probe H α} (hx : Only (Halt.Textual H) x) :
    InStep R E (Run.ofProbe x) (Run.ofProbe x) :=
  Run.inStep_ofProbe L.same L.withWorld (hx.mono L.textual)

/-- A property draws from related factories. -/
theorem factory_bind {k k' : Factory H → Run H α} (hd : d.blueprint = b)
    (hk : ∀ f f', V f f' → InStep R E (k f) (k' f')) (n : String) :
    InStep R E (d.factory n >>= k) ((d.recast b').factory n >>= k') := by
  have h : d.blueprint.Indistinct b' := hd ▸ L.indistinct
  have htype : d.type = b.type := congrArg Blueprint.type hd
  unfold Draft.factory
  rw [Draft.propertyType_recast h, Draft.type_recast h, htype, bind_assoc, bind_assoc]
  refine (L.ofResult _).bind fun t => ?_
  rw [bind_assoc, bind_assoc]
  refine .get fun c c' hc => ?_
  rcases L.lookUp c c' hc n t with ⟨f, f', hf, hf', hV⟩ | ⟨e, hf, hf'⟩
  · rw [hf, hf']
    exact hk f f' hV
  · rw [hf, hf']
    exact .throw (L.failure e)

theorem draw (hd : d.blueprint = b) (n : String) (channel : Channel) :
    InStep R E (d.draw create n channel) ((d.recast b').draw create n channel) :=
  L.factory_bind hd (fun f f' hV => L.create f f' hV channel) n

theorem drawPrimary (hd : d.blueprint = b) (names : List String) (values : Table String (Value H)) :
    InStep R E (d.drawPrimary create names values)
      ((d.recast b').drawPrimary create names values) := by
  induction names generalizing values with
  | nil => exact .pure values
  | cons n names ih => exact (L.draw hd n .primary).bind fun v => ih _

theorem valueFor (hd : d.blueprint = b) (channel : Channel) (nulls : Bool) (n : String) :
    InStep R E (Stage.valueFor create channel nulls d n)
      (Stage.valueFor create channel nulls (d.recast b') n) := by
  have hdraw := L.draw hd n channel
  have h : d.blueprint.Indistinct b' := hd ▸ L.indistinct
  refine .get fun c c' hc => ?_
  rw [Draft.recast_blueprint, h.shape.isNullable, (L.same c c' hc).settings,
    (L.same c c' hc).atStructuralDepth]
  split
  · split
    · exact .pure none
    · split
      · refine (L.engineDraw _).bind fun null => ?_
        split
        · exact .pure none
        · exact hdraw
      · exact hdraw
  · exact hdraw

/-! ## Stages -/

omit L in
theorem ofRun {x y : Run H α} (h : InStep R E x y) :
    Stages b b' R E (Stage.ofRun x) (Stage.ofRun y) :=
  h.zoom (fun _ _ hs => hs.2.2) fun _ _ _ _ hs hc => ⟨hs.1, hs.2.1, hc⟩

omit L in
theorem draft_bind {k k' : Draft H → Stage H α}
    (hk : ∀ d, d.blueprint = b → Stages b b' R E (k d) (k' (d.recast b'))) :
    Stages b b' R E (Stage.draft >>= k) (Stage.draft >>= k') := by
  rintro ⟨d, c⟩ ⟨_, c'⟩ ⟨hd, rfl, hc⟩
  exact hk d hd (d, c) (d.recast b', c') ⟨hd, rfl, hc⟩

omit L in
theorem context_bind {k k' : Context H → Stage H α}
    (hk : ∀ c c', R c c' → Stages b b' R E (k c) (k' c')) :
    Stages b b' R E (Stage.context >>= k) (Stage.context >>= k') := by
  rintro ⟨d, c⟩ ⟨d', c'⟩ ⟨hd, hrecast, hc⟩
  exact hk c c' hc (d, c) (d', c') ⟨hd, hrecast, hc⟩

omit L in
/-- A change of what is staged is the same for both drafts. -/
theorem change {f g : Draft H → Draft H}
    (h : ∀ d, d.blueprint = b → (f d).blueprint = b ∧ g (d.recast b') = (f d).recast b') :
    Stages b b' R E (Stage.change f) (Stage.change g) := by
  refine .modify ?_
  rintro ⟨d, c⟩ ⟨_, c'⟩ ⟨hd, rfl, hc⟩
  exact ⟨(h d hd).1, (h d hd).2, hc⟩

omit L in
theorem put (n : String) (v : Value H) :
    Stages b b' R E (Stage.change (·.put n v)) (Stage.change (·.put n v)) :=
  change fun _ hd => ⟨hd, rfl⟩

theorem probe {f : Draft H → Probe H α}
    (hrecast : ∀ d : Draft H, d.blueprint = b → f (d.recast b') = f d)
    (honly : ∀ d, Only (Halt.Textual H) (f d)) :
    Stages b b' R E (Stage.probe f) (Stage.probe f) := by
  refine draft_bind fun d hd => ?_
  rw [hrecast d hd]
  exact ofRun (L.ofProbe (honly d))

theorem reset : Stages b b' R E (Stage.reset create) (Stage.reset create) := by
  refine draft_bind fun d hd => ?_
  rw [Draft.recast_initial]
  cases d.initial with
  | some values => exact change fun _ hd => ⟨hd, rfl⟩
  | none =>
    rw [Draft.staged_recast (hd ▸ L.indistinct)]
    refine (ofRun (L.drawPrimary hd _ _)).bind fun values => ?_
    exact change fun _ hd => ⟨hd, rfl⟩

/-- A name that is picked from a list is in it. -/
theorem pick_bind {names : List String} (hnames : names ≠ []) {k k' : Nat → Stage H α}
    (hk : ∀ i, names.getD i "" ∈ names → Stages b b' R E (k i) (k' i)) :
    Stages b b' R E (Stage.ofRun (Run.below names.length) >>= k)
      (Stage.ofRun (Run.below names.length) >>= k') := by
  refine (ofRun (L.engineDraw _)).bind_of_ok fun i hi => hk i ?_
  obtain ⟨⟨d, c⟩, ⟨e, c'⟩, hi⟩ := hi
  exact Run.pick_mem hnames (Stage.ofRun_eq_ok.1 hi).2

/-- A random choice that is made on a condition only. -/
theorem chanceIf_bind (test : Bool) (p : Float) {k k' : Bool → Stage H α}
    (hk : ∀ null, Stages b b' R E (k null) (k' null)) :
    Stages b b' R E
      (if test then Stage.ofRun (Run.chance p) >>= k else pure false >>= k)
      (if test then Stage.ofRun (Run.chance p) >>= k' else pure false >>= k') := by
  split
  · exact (ofRun (L.engineDraw _)).bind hk
  · exact InStep.bind (.pure false) hk

theorem drawUnless (hd : d.blueprint = b) (n : String) (null : Bool) :
    Stages b b' R E (if null then pure none else Stage.ofRun (d.draw create n .random))
      (if null then pure none else Stage.ofRun ((d.recast b').draw create n .random)) := by
  split
  · exact .pure none
  · exact ofRun (L.draw hd n .random)

/-- The same is staged for the properties that get a value. -/
theorem setAll (channel : Channel) (nulls : Bool) :
    Stages b b' R E (Stage.setAll create channel nulls) (Stage.setAll create channel nulls) := by
  refine draft_bind fun d hd => ?_
  rw [Draft.staged_recast (hd ▸ L.indistinct)]
  refine .each fun n _ => draft_bind fun d hd => ?_
  exact (ofRun (L.valueFor hd channel nulls n)).bind fun v => put n v

theorem newBean : Stages b b' R E (Stage.probe Draft.newBean) (Stage.probe Draft.newBean) :=
  L.probe (fun _ hd => Draft.newBean_recast (hd ▸ L.indistinct)) Draft.newBean_only

theorem setProperty {n : String} (hn : b.isTestable n = true) (v : Value H) :
    Stages b b' R E (Stage.setProperty n v) (Stage.setProperty n v) := by
  have hread : ∀ d : Draft H, d.blueprint = b → (d.recast b').readActual n = d.readActual n :=
    fun d hd => Draft.readActual_recast (hd ▸ L.indistinct) (hd ▸ hn)
  have hprobe := L.probe hread fun d => d.readActual_only n
  refine draft_bind fun d hd => ?_
  rw [Draft.isReadable_recast (hd ▸ L.indistinct)]
  split
  · exact hprobe.bind fun before => (put n v).bind fun _ => hprobe.bind fun after => .pure _
  · exact (put n v).bind fun _ => .pure _

end Lockstep
end BeanContract
