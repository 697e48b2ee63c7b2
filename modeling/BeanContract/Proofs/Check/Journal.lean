/-
The journal of a verification run.

A whole run is journaled, from the trials of factories over the inference to both families of
checks: each draft is written down as it is made, whenever it has changed and whenever it is
probed, and so are the altered copies that are probed in its place.  What it does is the run
itself (`run_verify`).
-/
import BeanContract.Proofs.Context.Journal
import BeanContract.Verifier

namespace BeanContract

variable {H : Host} {σ α β γ : Type}

/-! ## Probes of copies -/

@[simp]
theorem Run.ofProbe_pure (a : α) : (Run.ofProbe (pure a) : Run H α) = pure a := rfl

@[simp]
theorem Run.ofProbe_bind (x : Probe H α) (k : α → Probe H β) :
    Run.ofProbe (x >>= k) = Run.ofProbe x >>= fun a => Run.ofProbe (k a) := by
  funext c
  show Effect.zoom _ _ (x >>= k) c = (Effect.zoom _ _ x >>= fun a => Effect.zoom _ _ (k a)) c
  unfold Effect.zoom Effect.focus bind EStateM.instMonad EStateM.bind
  dsimp only
  cases x c.world <;> rfl

@[simp]
theorem Run.ofProbe_ite (p : Prop) [Decidable p] (x y : Probe H α) :
    Run.ofProbe (if p then x else y) = if p then Run.ofProbe x else Run.ofProbe y :=
  apply_ite _ _ _ _

theorem Run.ofProbe_tally (f : β → Probe H Nat) (bs : List β) :
    Run.ofProbe (Effect.tally f bs) = Effect.tally (fun b => Run.ofProbe (f b)) bs := by
  induction bs with
  | nil => rfl
  | cons b bs ih => simp only [Effect.tally, ofProbe_bind, ofProbe_pure, ih]

namespace Journaled

def tally (f : β → Journaled H σ Nat) : List β → Journaled H σ Nat
  | [] => pure 0
  | b :: bs => do
    let n ← f b
    let m ← tally f bs
    pure (n + m)

def times (x : Journaled H σ Unit) : Nat → Journaled H σ Unit
  | 0 => pure ()
  | n + 1 => do
    x
    times x n

def gather (f : β → Journaled H σ γ) : List β → Journaled H σ (List γ)
  | [] => pure []
  | b :: bs => do
    let c ← f b
    let cs ← gather f bs
    pure (c :: cs)

theorem run_tally {f : β → Journaled H σ Nat} {g : β → EStateM Halt σ Nat}
    (h : ∀ b, (f b).run = g b) (bs : List β) : (tally f bs).run = Effect.tally g bs := by
  induction bs with
  | nil => rfl
  | cons b bs ih => simp only [tally, Effect.tally, run_bind, run_pure, h, ih]

theorem run_times {x : Journaled H σ Unit} {y : EStateM Halt σ Unit} (h : x.run = y) (n : Nat) :
    (times x n).run = Effect.times y n := by
  induction n with
  | zero => rfl
  | succ n ih => simp only [times, Effect.times, run_bind, h, ih]

theorem run_gather {f : β → Journaled H σ γ} {g : β → EStateM Halt σ γ}
    (h : ∀ b, (f b).run = g b) (bs : List β) : (gather f bs).run = Effect.gather g bs := by
  induction bs with
  | nil => rfl
  | cons b bs ih => simp only [gather, Effect.gather, run_bind, run_pure, h, ih]

def probed (ds : List (Draft H)) (x : Probe H α) : JournaledRun H α where
  run := Run.ofProbe x
  journal _ := ds.map .draft

def withDraft (b : Blueprint H) (x : JournaledStage H α) : JournaledRun H α where
  run c := match x.run (.ofBlueprint b, c) with
    | .ok a (_, c) => .ok a c
    | .error e (_, c) => .error e c
  journal c := .draft (.ofBlueprint b) :: x.journal (.ofBlueprint b, c)

/-! ## Values and staging -/

def createApart (f : Factory H) (avoid : List (Value H)) : Nat → JournaledRun H (Value H)
  | 0 => create f .random
  | n + 1 => do
    let v ← create f .random
    if avoid.any (fun a => a.same v) then createApart f avoid n else pure v

def createDistinct (f : Factory H) (avoid : List (Value H)) : JournaledRun H (Value H) := do
  let c ← quiet get
  createApart f avoid (if f.lowCardinality then 0 else c.settings.distinctAttempts - 1)

def extendApart (f : Factory H) : Nat → List (Value H) → JournaledRun H (List (Value H))
  | 0, found => pure found
  | n + 1, found => do
    let v ← createDistinct f found
    extendApart f n (found ++ [v])

def candidates (d : Draft H) (name : String) (null : Bool) : JournaledRun H (List (Value H)) := do
  let f ← quiet (d.factory name)
  let primary ← create f .primary
  let secondary ← create f .secondary
  let randoms := (← quiet get).settings.randomCandidates
  let found ← extendApart f randoms [primary, secondary]
  pure (if null then Draft.withNull randoms found else found)

def drawPrimary (d : Draft H) :
    List String → Table String (Value H) → JournaledRun H (Table String (Value H))
  | [], values => pure values
  | name :: names, values => do
    let v ← draw create d name .primary
    drawPrimary d names (values.insert name v)

def reset : JournaledStage H Unit := do
  let d ← quiet Stage.draft
  match d.initial with
  | some values => change fun d => { d with expected := values }
  | none =>
    let values ← ofRun (drawPrimary d d.blueprint.staged .empty)
    change fun d => { d with initial := some values, expected := values }

def setProperty (name : String) (v : Value H) : JournaledStage H Bool := do
  let d ← quiet Stage.draft
  if d.blueprint.isReadable name then
    let before ← probe (·.readActual name)
    change (·.put name v)
    let after ← probe (·.readActual name)
    pure (!Value.sameOption before after)
  else
    change (·.put name v)
    pure (!Value.sameOption (d.expected.get? name) (some v))

/-! ## Preparation and inference -/

def selfTest (f : Factory H) : JournaledRun H Unit := do
  let primary ← create f .primary
  let secondary ← create f .secondary
  let random ← create f .random
  quiet (f.checkDrawn .primary primary)
  quiet (f.checkDrawn .secondary secondary)
  quiet (f.checkDrawn .random random)
  if Value.same primary secondary then
    let text ← quiet (Run.ofProbe (Probe.shown primary.show?))
    quiet (throw (.configuration (.equalFixedValues f.type text)))
  else pure ()

def tryOut (f : Factory H) (undo : Registry H → Registry H) : JournaledRun H Unit := do
  let c ← quiet get
  if c.settings.selfTestFactories then
    match ← caught (selfTest f) with
    | .ok () => pure ()
    | .error e => quiet do
      modify fun c => { c with registry := undo c.registry }
      throw (.failure e)
  else pure ()

def registerPropertyFactory (owner : ValueType) (property : String) (f : Factory H) :
    JournaledRun H Unit := do
  let before := (← quiet get).registry.byProperty.get? (owner, property)
  quiet (modify fun c => { c with registry := c.registry.registerProperty owner property f })
  tryOut f (·.restoreProperty owner property before)

def prepare (d : Description H) : JournaledRun H Unit := do
  each (fun entry => registerPropertyFactory d.type entry.1 entry.2) d.factories
  quiet <| modify fun c =>
    if c.registry.contains d.type then c
    else { c with registry := c.registry.registerBean d }

def observe (op : Absence) (name : String) : JournaledStage H (Observation H) := do
  let before := (← quiet Stage.draft).expected.get? name
  change (Check.absent op · name)
  let o ← probe (·.classify name)
  change (·.restore name before)
  pure o

def inferProperty (op : Absence) (p : Property H) : JournaledStage H (Property H) :=
  if p.flags.ignored || (op = .setToNull && !p.isWritable) then pure p
  else do
    let o ← observe op p.name
    let f ← probe fun d => Check.learn d.blueprint p op o
    pure (p.setFinding op f)

def inferAll : JournaledStage H (Blueprint H) := do
  let b := (← quiet Stage.draft).blueprint
  change (·.prefer .creator)
  let creator ← gather (inferProperty .omitted) b.creator.properties
  change (·.prefer .setters)
  let bean ← gather (inferProperty .setToNull) b.bean.properties
  pure { b with creator := ⟨creator⟩, bean := ⟨bean⟩ }

def infer (b : Blueprint H) : JournaledRun H (Blueprint H) := withDraft b do
  reset
  inferAll

/-! ## Round trips -/

def candidatesOf (d : Draft H) : List String → JournaledRun H (List (String × List (Value H)))
  | [] => pure []
  | name :: names => do
    let values ← candidates d name (Check.triesNull d name)
    let rest ← candidatesOf d names
    pure ((name, values) :: rest)

def single (name : String) (v : Value H) : JournaledStage H Nat := do
  reset
  change (·.put name v)
  probe (·.verify name)
  pure 1

def pair (first second : String) (a b : Value H) : JournaledStage H Nat := do
  reset
  change fun d => (d.put first a).put second b
  probe (·.verify first)
  probe (·.verify second)
  pure 1

def pairs (table : List (String × List (Value H))) : JournaledStage H Nat :=
  tally (fun (first, as) =>
    tally (fun (second, bs) =>
      if first = second then pure 0
      else tally (fun a => tally (fun b => pair first second a b) bs) as)
      table) table

def combinations : JournaledStage H Nat := do
  let d ← quiet Stage.draft
  let table ← ofRun (candidatesOf d d.blueprint.testable)
  match table with
  | [(name, values)] => tally (single name) values
  | _ => do
    let n ← pairs table
    reset
    pure n

/-- Null by chance if it is tried, or else a random value. -/
def randomOr (null : Bool) (p : Float) (d : Draft H) (name : String) :
    JournaledStage H (Value H) := do
  let null ← quiet (if null then Stage.ofRun (Run.chance p) else pure false)
  if null then pure none else ofRun (draw create d name .random)

def changeOne (names : List String) : JournaledStage H Unit := do
  let d ← quiet Stage.draft
  let c ← quiet Stage.context
  let i ← quiet (Stage.ofRun (Run.below names.length))
  let name := names.getD i ""
  let v ← randomOr (Check.triesNull d name) c.settings.nullProbability d name
  change (·.put name v)

def trial (names : List String) : JournaledStage H Unit := do
  times (changeOne names) (Check.changesPerProperty * names.length)
  probe (·.verifyAll)

def trials : JournaledStage H Nat := do
  let names := (← quiet Stage.draft).blueprint.testable
  if names.isEmpty then pure 0
  else do
    let n := (← quiet Stage.context).settings.trials
    reset
    times (trial names) n
    reset
    pure n

def roundTrips : JournaledStage H Nat := do
  reset
  probe Check.texts
  let n ← combinations
  let m ← trials
  pure (n + m)

/-! ## Equality -/

def candidatePairs (hashes : Bool) (d : Draft H) (name : String) (values : List (Value H)) :
    JournaledRun H Nat :=
  tally (fun (v, i) =>
    tally (fun (w, j) =>
      if i = j then pure 0
      else do
        probed [d.put name v, d.put name w]
          (Check.apart hashes (d.put name v) (d.put name w) name)
        pure 1) values.zipIdx) values.zipIdx

def property (hashes : Bool) (name : String) : JournaledStage H Nat := do
  let d ← quiet Stage.draft
  let values ← ofRun (candidates d name (d.blueprint.isNullable name))
  let n ← tally (fun v => do
    change (·.put name v)
    probe (Check.twins hashes)
    pure 1) values
  let m ← do
    let e ← quiet Stage.draft
    ofRun (candidatePairs hashes e name values)
  change (·.restore name (d.expected.get? name))
  pure (n + m)

def randomValue (name : String) : JournaledStage H (Value H) := do
  let d ← quiet Stage.draft
  let c ← quiet Stage.context
  randomOr (d.blueprint.isNullable name) c.settings.nullProbability d name

def changeWithin (name : String) : Nat → JournaledStage H Bool
  | 0 => pure false
  | n + 1 => do
    let v ← randomValue name
    if ← setProperty name v then pure true else changeWithin name n

def equalityTrial (hashes : Bool) (names : List String) (previous : Value H) :
    JournaledStage H (Value H) := do
  let i ← quiet (Stage.ofRun (Run.below names.length))
  let name := names.getD i ""
  let changed ← changeWithin name Check.maxChanges
  let current ← probe Draft.newBean
  probe (Check.compare hashes · name changed previous current)
  pure current

def equalityTrials (hashes : Bool) (names : List String) : Nat → Value H → JournaledStage H Nat
  | 0, _ => pure 0
  | n + 1, previous => do
    let current ← equalityTrial hashes names previous
    let m ← equalityTrials hashes names n current
    pure (1 + m)

def equality : JournaledStage H Nat := do
  let settings := (← quiet Stage.context).settings
  reset
  let names := (← quiet Stage.draft).blueprint.testable
  let n ← tally (property settings.testHashCode) names
  if names.isEmpty then pure n
  else do
    let previous ← probe Draft.newBean
    let m ← equalityTrials settings.testHashCode names settings.trials previous
    pure (n + m)

/-! ## The run -/

def checks (b : Blueprint H) : JournaledRun H (Nat × Nat) := withDraft b do
  let roundTrips ← roundTrips
  let comparisons ← equality
  pure (roundTrips, comparisons)

def verify (d : Description H) (customisations : List (Customisation H)) :
    JournaledRun H Statistics := do
  let d ← quiet (Run.ofResult (d.customiseAll customisations))
  prepare d
  let b ← infer d.toBlueprint
  quiet (Run.ofResult (Check.validate b))
  let n ← checks b
  let c ← quiet get
  pure {
    bean := b.name
    seed := c.seed
    properties := b.testable.length
    roundTrips := n.1
    comparisons := n.2
    structures := c.structures
    maxDepth := c.maxDepth }

/-! ## What is journaled is the run -/

@[simp]
theorem run_draw (d : Draft H) (n : String) (channel : Channel) :
    (draw create d n channel).run = d.draw Run.create n channel := by
  simp only [draw, Draft.draw, run_bind, run_quiet, run_create]

@[simp]
theorem run_ofRun (x : JournaledRun H α) : (ofRun x).run = Stage.ofRun x.run := rfl

@[simp]
theorem run_probed (ds : List (Draft H)) (x : Probe H α) : (probed ds x).run = Run.ofProbe x := rfl

@[simp]
theorem run_change (f : Draft H → Draft H) : (change f).run = Stage.change f := rfl

@[simp]
theorem run_probe (f : Draft H → Probe H α) : (probe f).run = Stage.probe f := rfl

@[simp]
theorem run_caught (x : JournaledRun H α) : (caught x).run = Run.caught x.run := rfl

theorem run_createApart (f : Factory H) (avoid : List (Value H)) (n : Nat) :
    (createApart f avoid n).run = Run.createApart f avoid n := by
  induction n with
  | zero => exact run_create f .random
  | succ n ih =>
    simp only [createApart, Run.createApart, run_bind, run_ite, run_pure, run_create, ih]

@[simp]
theorem run_createDistinct (f : Factory H) (avoid : List (Value H)) :
    (createDistinct f avoid).run = Run.createDistinct f avoid := by
  simp only [createDistinct, Run.createDistinct, run_bind, run_quiet, run_createApart]

@[simp]
theorem run_extendApart (f : Factory H) (n : Nat) (found : List (Value H)) :
    (extendApart f n found).run = Draft.extendApart f n found := by
  induction n generalizing found with
  | zero => rfl
  | succ n ih => simp only [extendApart, Draft.extendApart, run_bind, run_createDistinct, ih]

@[simp]
theorem run_candidates (d : Draft H) (n : String) (null : Bool) :
    (candidates d n null).run = d.candidates n null := by
  simp only [candidates, Draft.candidates, run_bind, run_quiet, run_create, run_extendApart,
    run_pure]

@[simp]
theorem run_drawPrimary (d : Draft H) (names : List String) (values : Table String (Value H)) :
    (drawPrimary d names values).run = d.drawPrimary Run.create names values := by
  induction names generalizing values with
  | nil => rfl
  | cons n names ih => simp only [drawPrimary, Draft.drawPrimary, run_bind, run_draw, ih]

@[simp]
theorem run_reset : (reset : JournaledStage H Unit).run = Stage.reset Run.create := by
  refine congrArg (Stage.draft >>= ·) (funext fun d => ?_)
  cases h : d.initial with
  | none => simp only [h, run_bind, run_ofRun, run_drawPrimary, run_change]
  | some values => simp only [h, run_change]

@[simp]
theorem run_setProperty (n : String) (v : Value H) :
    (setProperty n v).run = Stage.setProperty n v := by
  simp only [setProperty, Stage.setProperty, run_bind, run_quiet, run_ite, run_probe, run_change,
    run_pure]

theorem run_selfTest (f : Factory H) : (selfTest f).run = f.selfTest := by
  simp only [selfTest, Factory.selfTest, Factory.selfTestBy, run_bind, run_quiet, run_create, run_ite, run_pure]

theorem run_tryOut (f : Factory H) (undo : Registry H → Registry H) :
    (tryOut f undo).run = Run.tryOutBy Run.create f undo := by
  refine congrArg (get >>= ·) (funext fun c => ?_)
  rw [run_ite]
  refine if_congr Iff.rfl ?_ rfl
  rw [run_bind, run_caught, run_selfTest]
  refine congrArg (_ >>= ·) (funext fun r => ?_)
  cases r <;> rfl

theorem run_registerPropertyFactory (owner : ValueType) (n : String) (f : Factory H) :
    (registerPropertyFactory owner n f).run = Run.registerPropertyFactory owner n f := by
  simp only [registerPropertyFactory, Run.registerPropertyFactory, Run.registerPropertyFactoryBy,
    run_bind, run_quiet, run_tryOut]

theorem run_prepare (d : Description H) : (prepare d).run = Verifier.prepare d := by
  refine congrArg (· >>= _) (run_each (fun entry => ?_) d.factories)
  exact run_registerPropertyFactory d.type entry.1 entry.2

theorem run_observe (op : Absence) (n : String) :
    (observe op n : JournaledStage H (Observation H)).run = Check.observe op n := by
  simp only [observe, Check.observe, run_bind, run_quiet, run_change, run_probe, run_pure]

theorem run_inferProperty (op : Absence) (p : Property H) :
    (inferProperty op p).run = Check.inferProperty op p := by
  simp only [inferProperty, Check.inferProperty, run_ite, run_bind, run_observe, run_probe,
    run_pure]

theorem run_inferAll : (inferAll : JournaledStage H (Blueprint H)).run = Check.inferAll := by
  simp only [inferAll, Check.inferAll, run_bind, run_quiet, run_change, run_pure,
    run_gather (run_inferProperty _)]

theorem run_infer (b : Blueprint H) : (infer b).run = Check.infer b := by
  funext c
  unfold infer Check.infer withDraft
  simp only [run_bind, run_reset, run_inferAll]
  rcases (Stage.reset Run.create >>= fun _ => Check.inferAll) (Draft.ofBlueprint b, c) with
    ⟨b', d, c₁⟩ | ⟨e, d, c₁⟩ <;> rfl

@[simp]
theorem run_candidatesOf (d : Draft H) (names : List String) :
    (candidatesOf d names).run = Check.candidatesOf d names := by
  induction names with
  | nil => rfl
  | cons n names ih =>
    simp only [candidatesOf, Check.candidatesOf, run_bind, run_candidates, run_pure, ih]

theorem run_single (n : String) (v : Value H) : (single n v).run = Check.single n v := by
  simp only [single, Check.single, run_bind, run_reset, run_change, run_probe, run_pure]

theorem run_pair (n m : String) (a b : Value H) : (pair n m a b).run = Check.pair n m a b := by
  simp only [pair, Check.pair, run_bind, run_reset, run_change, run_probe, run_pure]

theorem run_pairs (table : List (String × List (Value H))) :
    (pairs table).run = Check.pairs table := by
  refine run_tally (fun first => run_tally (fun second => ?_) table) table
  rw [run_ite]
  refine if_congr Iff.rfl rfl ?_
  exact run_tally (fun a => run_tally (run_pair first.1 second.1 a) second.2) first.2

theorem run_combinations : (combinations : JournaledStage H Nat).run = Check.combinations := by
  simp only [combinations, Check.combinations, run_bind, run_quiet, run_ofRun, run_candidatesOf]
  refine congrArg (_ >>= ·) (funext fun d => congrArg (_ >>= ·) (funext fun table => ?_))
  rcases table with _ | ⟨⟨n, values⟩, _ | ⟨entry, table⟩⟩
  · simp only [run_bind, run_pairs, run_reset, run_pure]
  · exact run_tally (run_single n) values
  · simp only [run_bind, run_pairs, run_reset, run_pure]

theorem run_randomOr (null : Bool) (p : Float) (d : Draft H) (n : String) :
    (randomOr null p d n).run =
      (if null then Stage.ofRun (Run.chance p) else pure false) >>= fun null =>
        if null then pure none else Stage.ofRun (d.draw Run.create n .random) := by
  simp only [randomOr, run_bind, run_quiet, run_ite, run_pure, run_ofRun, run_draw]

theorem run_changeOne (names : List String) :
    (changeOne names : JournaledStage H Unit).run = Check.change names := by
  simp only [changeOne, Check.change, run_bind, run_quiet, run_randomOr, run_change, bind_assoc]
  refine congrArg (_ >>= ·) (funext fun d => congrArg (_ >>= ·) (funext fun c =>
    congrArg (_ >>= ·) (funext fun i => ?_)))
  cases Check.triesNull d (names.getD i "") with
  | false => rfl
  | true =>
    refine congrArg (_ >>= ·) (funext fun null => ?_)
    cases null <;> rfl

theorem run_trial (names : List String) :
    (trial names : JournaledStage H Unit).run = Check.trial names := by
  simp only [trial, Check.trial, run_bind, run_times (run_changeOne names), run_probe]

theorem run_trials : (trials : JournaledStage H Nat).run = Check.trials := by
  simp only [trials, Check.trials, run_bind, run_quiet, run_ite, run_pure, run_reset,
    run_times (run_trial _)]

theorem run_roundTrips : (roundTrips : JournaledStage H Nat).run = Check.roundTrips := by
  simp only [roundTrips, Check.roundTrips, run_bind, run_reset, run_probe, run_combinations,
    run_trials, run_pure]

theorem run_candidatePairs (hashes : Bool) (d : Draft H) (n : String) (values : List (Value H)) :
    (candidatePairs hashes d n values).run =
      Run.ofProbe (Check.candidatePairs hashes d n values) := by
  unfold candidatePairs Check.candidatePairs
  rw [Run.ofProbe_tally]
  refine run_tally (fun a => ?_) _
  rw [Run.ofProbe_tally]
  refine run_tally (fun b => ?_) _
  simp only [run_ite, run_pure, run_bind, run_probed, Run.ofProbe_ite, Run.ofProbe_bind,
    Run.ofProbe_pure]

theorem run_property (hashes : Bool) (n : String) :
    (property hashes n : JournaledStage H Nat).run = Check.property hashes n := by
  have hvalue : ∀ v, (do
      change (·.put n v)
      probe (Check.twins hashes)
      pure 1 : JournaledStage H Nat).run = (do
      Stage.change (·.put n v)
      Stage.probe (Check.twins hashes)
      pure 1) := fun v => rfl
  simp only [property, Check.property, run_bind, run_quiet, run_ofRun, run_candidates,
    run_tally hvalue, run_candidatePairs, run_change, run_pure]
  rfl

theorem run_randomValue (n : String) :
    (randomValue n : JournaledStage H (Value H)).run = Check.randomValue n := by
  simp only [randomValue, Check.randomValue, run_bind, run_quiet, run_randomOr]
  refine congrArg (_ >>= ·) (funext fun d => congrArg (_ >>= ·) (funext fun c => ?_))
  cases d.blueprint.isNullable n <;> rfl

theorem run_changeWithin (n : String) (attempts : Nat) :
    (changeWithin n attempts : JournaledStage H Bool).run = Check.changeWithin n attempts := by
  induction attempts with
  | zero => rfl
  | succ attempts ih =>
    simp only [changeWithin, Check.changeWithin, run_bind, run_randomValue, run_setProperty,
      run_ite, run_pure, ih]

theorem run_equalityTrial (hashes : Bool) (names : List String) (previous : Value H) :
    (equalityTrial hashes names previous).run = Check.equalityTrial hashes names previous := by
  simp only [equalityTrial, Check.equalityTrial, run_bind, run_quiet, run_changeWithin, run_probe,
    run_pure]

theorem run_equalityTrials (hashes : Bool) (names : List String) (n : Nat) (previous : Value H) :
    (equalityTrials hashes names n previous).run =
      Check.equalityTrials hashes names n previous := by
  induction n generalizing previous with
  | zero => rfl
  | succ n ih =>
    simp only [equalityTrials, Check.equalityTrials, run_bind, run_equalityTrial, run_pure, ih]

theorem run_equality : (equality : JournaledStage H Nat).run = Check.equality := by
  simp only [equality, Check.equality, run_bind, run_quiet, run_reset, run_ite, run_pure,
    run_probe, run_tally (run_property _), run_equalityTrials]

theorem run_checks (b : Blueprint H) : (checks b).run = Verifier.checks b := by
  funext c
  unfold checks Verifier.checks withDraft
  simp only [run_bind, run_roundTrips, run_equality, run_pure]
  rcases (Check.roundTrips >>= fun n => Check.equality >>= fun m => pure (n, m))
    (Draft.ofBlueprint b, c) with ⟨n, d, c₁⟩ | ⟨e, d, c₁⟩ <;> rfl

/-- The journal is one of the run. -/
theorem run_verify (d : Description H) (cs : List (Customisation H)) :
    (verify d cs).run = Verifier.run d cs := by
  simp only [verify, Verifier.run, run_bind, run_quiet, run_prepare, run_infer, run_checks,
    run_pure]

end Journaled
end BeanContract
