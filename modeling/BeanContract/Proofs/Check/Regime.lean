/-
What a verification run keeps up.

A condition that every creation keeps up (`Regime`) is kept up by a whole run, provided the drafts
that satisfy the condition on drafts go on satisfying it when the checks alter them (`Staging`).
Values are staged for a property only if they were drawn for it, are null, or were staged for it
before.
-/
import BeanContract.Proofs.Check.Absence
import BeanContract.Proofs.Check.Journal

namespace BeanContract

open Effect (Keeps Meets)
open Journaled (Holds beside)

variable {H : Host} {σ α β : Type}

namespace Journaled.Holds

variable {I : List (Entry H) → σ → Prop} {Q : α → Prop} {x : Journaled H σ α}

protected theorem tally {f : β → Journaled H σ Nat} {bs : List β}
    (h : ∀ b ∈ bs, Holds I (fun _ => True) (f b)) : Holds I (fun _ => True) (tally f bs) := by
  induction bs with
  | nil => exact .pure trivial
  | cons b bs ih =>
    refine (h b List.mem_cons_self).bind fun n _ => ?_
    exact (ih fun c hc => h c (List.mem_cons_of_mem b hc)).bind fun m _ => .pure trivial

protected theorem times {x : Journaled H σ Unit} (h : Holds I (fun _ => True) x) (n : Nat) :
    Holds I (fun _ => True) (times x n) := by
  induction n with
  | zero => exact .pure trivial
  | succ n ih => exact h.bind fun _ _ => ih

protected theorem gather {γ : Type} {f : β → Journaled H σ γ} {bs : List β}
    (h : ∀ b ∈ bs, Holds I (fun _ => True) (f b)) : Holds I (fun _ => True) (gather f bs) := by
  induction bs with
  | nil => exact .pure trivial
  | cons b bs ih =>
    refine (h b List.mem_cons_self).bind fun n _ => ?_
    exact (ih fun c hc => h c (List.mem_cons_of_mem b hc)).bind fun m _ => .pure trivial

end Journaled.Holds

/-- What is said of a context goes on holding of it beside drafts of one blueprint, which satisfy
`D`. -/
abbrev Journaled.HoldsFor (I : List (Entry H) → Context H → Prop) (D : Draft H → Prop)
    (b : Blueprint H) (Q : α → Prop) (x : JournaledStage H α) : Prop :=
  Holds (beside I fun d => D d ∧ d.blueprint = b) Q x

/-- Drafts go on satisfying `D` when they are altered as the checks alter them, and blueprints go
on satisfying `B` when the absence of properties becomes known. -/
structure Staging (B : Blueprint H → Prop) (D : Draft H → Prop) : Prop where
  sameCode : ∀ {b b'}, B b → b.SameCode b' → B b'
  fresh : ∀ {b}, B b → D (.ofBlueprint b)
  prefer : ∀ {d} p, D d → D (d.prefer p)
  leaveOut : ∀ {d} n, D d → D (d.leaveOut n)
  restore : ∀ {d e} n, D d → D e → e.blueprint = d.blueprint →
    D (e.restore n (d.expected.get? n))
  restart : ∀ {d values}, D d → (∀ n v, values.get? n = some v → d.blueprint.Puts D n v) →
    D { d with initial := some values, expected := values }
  goBack : ∀ {d e values}, D d → D e → e.blueprint = d.blueprint → d.initial = some values →
    D { e with expected := values }

namespace Regime

open Journaled (HoldsFor)

variable {L : Nat} {F : Factory H → Prop} {V : ValueType → Value H → Prop}
  {B : Blueprint H → Prop} {D : Draft H → Prop} {I : Nat → List (Entry H) → Context H → Prop}
  (R : Regime L F V B D I) {k : Nat}
include R

/-! ## Values -/

theorem probed {ds : List (Draft H)} (hds : ∀ d ∈ ds, D d) (x : Probe H α) :
    Holds (I k) (fun _ => True) (.probed ds x) := by
  intro past c hc
  have hnoted : I k (past ++ ds.map .draft) c := by
    induction ds generalizing past with
    | nil => simpa using hc
    | cons d ds ih =>
      rw [List.map_cons, List.append_cons]
      exact ih (fun e he => hds e (List.mem_cons_of_mem d he)) (past ++ [.draft d])
        (R.draft hc (hds d List.mem_cons_self))
  exact Meets.zoom (.intro (fun _ w _ => ⟨R.world w hnoted, trivial⟩) fun _ w _ => R.world w hnoted)

theorem chosen {D' : Draft H → Prop} (step : Random.Engine → α × Random.Engine) :
    Holds (beside (I k) D') (fun _ => True) (.quiet (Stage.ofRun (Run.draw step))) :=
  .quiet fun _ _ hs => Meets.zoom ⟨⟨R.engine _ hs.1, hs.2⟩, trivial⟩

theorem createApart {f : Factory H} (hf : F f) (avoid : List (Value H)) (n : Nat) :
    Holds (I k) (V f.type) (.createApart f avoid n) := by
  induction n with
  | zero => exact R.create hf .random
  | succ n ih =>
    refine (R.create hf .random).bind fun v hv => ?_
    split
    · exact ih
    · exact .pure hv

theorem extendApart {f : Factory H} (hf : F f) (n : Nat) {found : List (Value H)}
    (hfound : ∀ v ∈ found, V f.type v) :
    Holds (I k) (fun values => ∀ v ∈ values, V f.type v) (.extendApart f n found) := by
  induction n generalizing found with
  | zero => exact .pure hfound
  | succ n ih =>
    have hdistinct : Holds (I k) (V f.type) (.createDistinct f found) :=
      Holds.get (p := id) fun _ _ _ => R.createApart hf found _
    refine hdistinct.bind fun v hv => ih fun u hu => ?_
    rcases List.mem_append.1 hu with hu | hu
    · exact hfound u hu
    · rw [List.mem_singleton.1 hu]
      exact hv

/-- Candidates may be staged. -/
theorem candidates {d : Draft H} (hd : D d) (n : String) (null : Bool) :
    Holds (I k) (fun values => ∀ v ∈ values, d.blueprint.Puts D n v) (.candidates d n null) := by
  refine (R.factory hd n).bind fun f hf => ?_
  obtain ⟨hadmitted, hputs⟩ := hf
  refine (R.create hadmitted .primary).bind fun primary hprimary => ?_
  refine (R.create hadmitted .secondary).bind fun secondary hsecondary => ?_
  refine Holds.get (p := id) fun past c hc => ?_
  have hfixed : ∀ v ∈ [primary, secondary], V f.type v := by
    rintro v hv
    rcases List.mem_pair.1 hv with rfl | rfl
    · exact hprimary
    · exact hsecondary
  refine (R.extendApart hadmitted _ hfixed).bind fun found hfound => .pure ?_
  cases null with
  | false => exact fun v hv => hputs v (hfound v hv)
  | true =>
    intro v hv
    rcases List.mem_append.1 hv with hv | hv
    · refine hputs v (hfound v ?_)
      split at hv
      · exact hv
      · exact (List.dropLast_sublist found).subset hv
    · rw [List.mem_singleton.1 hv]
      exact fun e he _ => R.null he

theorem drawPrimary {d : Draft H} (hd : D d) (names : List String)
    {values : Table String (Value H)}
    (hvalues : ∀ n v, values.get? n = some v → d.blueprint.Puts D n v) :
    Holds (I k) (fun values => ∀ n v, values.get? n = some v → d.blueprint.Puts D n v)
      (.drawPrimary d names values) := by
  induction names generalizing values with
  | nil => exact .pure hvalues
  | cons n names ih =>
    refine (R.draw (fun _ channel hf => R.create hf channel) hd n .primary).bind fun v hv => ?_
    refine ih fun m u hu => ?_
    rw [Table.get?_insert] at hu
    split at hu
    · rename_i hm
      cases hu
      exact hm ▸ hv
    · exact hvalues m u hu

/-! ## Preparation -/

omit R in
theorem checkDrawn (f : Factory H) (channel : Channel) (v : Value H) :
    Holds (I k) (fun _ => True) (.quiet (f.checkDrawn channel v)) := by
  unfold Factory.checkDrawn
  split
  · exact .throw
  · split
    · exact .pure trivial
    · exact .throw

theorem selfTest {f : Factory H} (hf : F f) : Holds (I k) (fun _ => True) (.selfTest f) := by
  refine (R.create hf .primary).bind fun primary _ => ?_
  refine (R.create hf .secondary).bind fun secondary _ => ?_
  refine (R.create hf .random).bind fun random _ => ?_
  refine (checkDrawn f _ _).bind fun _ _ => (checkDrawn f _ _).bind fun _ _ => ?_
  refine (checkDrawn f _ _).bind fun _ _ => ?_
  split
  · exact (R.ofProbe _).bind fun text _ => .throw
  · exact .pure trivial

/-- A factory is registered for a property and tried out.  If the trial fails, the property gets
back what it had. -/
theorem registerPropertyFactory {owner : ValueType} {n : String} {f : Factory H} (hf : F f)
    (henter : ∀ past c, I k past c →
      I k past { c with registry := c.registry.registerProperty owner n f })
    (hundo : ∀ past c past' c', I k past c → I k past' c' → I k past' { c' with
      registry := c'.registry.restoreProperty owner n (c.registry.byProperty.get? (owner, n)) }) :
    Holds (I k) (fun _ => True) (.registerPropertyFactory owner n f) := by
  refine Holds.get (p := id) fun past c hc => (Holds.modify henter).bind fun _ _ => ?_
  refine Holds.get (p := id) fun _ c' _ => ?_
  split
  · refine (R.selfTest hf).caught.bind fun r _ => ?_
    cases r with
    | ok u => exact .pure trivial
    | error e =>
      refine Holds.quiet fun past' c' hc' => ?_
      exact hundo past c past' c' hc hc'
  · exact .pure trivial

/-! ## Staging -/

section

variable (S : Staging B D) {b : Blueprint H} {n : String}
include S

theorem reset : HoldsFor (I k) D b (fun _ => True) .reset := by
  refine Holds.get (p := Prod.fst) fun past s hs => ?_
  obtain ⟨-, hd, hb⟩ := hs
  cases hinitial : s.1.initial with
  | some values =>
    refine R.change (fun _ h => h.1) fun e he => ⟨?_, he.2⟩
    exact S.goBack hd he.1 (he.2.trans hb.symm) hinitial
  | none =>
    have hnone : ∀ n v, (Table.empty : Table String (Value H)).get? n = some v →
        s.1.blueprint.Puts D n v := by
      intro n v hv
      cases hv
    refine (R.drawPrimary hd _ hnone).ofRun.bind fun values hvalues => ?_
    refine R.change (fun _ h => h.1) fun e he => ⟨S.restart he.1 ?_, he.2⟩
    rwa [he.2, ← hb]

omit S in
theorem probeFor (f : Draft H → Probe H α) : HoldsFor (I k) D b (fun _ => True) (.probe f) :=
  R.probe (fun _ h => h.1) f

omit S in
theorem put {v : Value H} (hv : b.Puts D n v) :
    HoldsFor (I k) D b (fun _ => True) (.change (·.put n v)) :=
  R.change (fun _ h => h.1) fun e he => ⟨hv e he.1 he.2, he.2⟩

omit S in
theorem setProperty {v : Value H} (hv : b.Puts D n v) :
    HoldsFor (I k) D b (fun _ => True) (.setProperty n v) := by
  refine Holds.get (p := Prod.fst) fun past s hs => ?_
  split
  · refine (R.probeFor _).bind fun before _ => (R.put hv).bind fun _ _ => ?_
    exact (R.probeFor _).bind fun after _ => .pure trivial
  · exact (R.put hv).bind fun _ _ => .pure trivial

/-! ## Inference -/

/-- A draft made for a computation serves a blueprint among the admitted ones. -/
theorem withDraft {x : JournaledStage H α} {Q : α → Prop} (hb : B b)
    (hx : HoldsFor (I k) D b Q x) : Holds (I k) Q (.withDraft b x) := by
  intro past c hc
  have hfresh := S.fresh hb
  have hrun := hx (past ++ [.draft (.ofBlueprint b)]) (.ofBlueprint b, c)
    ⟨R.draft hc hfresh, hfresh, rfl⟩
  have hjournal : past ++ (Journaled.withDraft b x).journal c =
      past ++ [.draft (.ofBlueprint b)] ++ x.journal (.ofBlueprint b, c) := by
    rw [List.append_assoc]
    rfl
  rw [hjournal]
  unfold Journaled.withDraft Meets
  dsimp only
  cases hr : x.run (.ofBlueprint b, c) with
  | ok a s => exact ⟨(hrun.ok hr).1.1, (hrun.ok hr).2⟩
  | error e s => exact (hrun.error hr).1

theorem absent (op : Absence) (n : String) :
    HoldsFor (I k) D b (fun _ => True) (.change (Check.absent op · n)) := by
  refine R.change (fun _ h => h.1) fun e he => ?_
  cases op with
  | omitted => exact ⟨S.leaveOut n he.1, he.2⟩
  | setToNull => exact ⟨R.null he.1, he.2⟩

theorem prefer (p : Preference) :
    HoldsFor (I k) D b (fun _ => True) (.change (·.prefer p)) :=
  R.change (fun _ h => h.1) fun _ he => ⟨S.prefer p he.1, he.2⟩

/-- After an observation the property holds again what it held. -/
theorem observe (op : Absence) (n : String) :
    HoldsFor (I k) D b (fun _ => True) (.observe op n) := by
  refine Holds.get (p := Prod.fst) fun past s hs => ?_
  obtain ⟨-, hd, hb⟩ := hs
  refine (R.absent S op n).bind fun _ _ => (R.probeFor _).bind fun o _ => ?_
  refine (R.change (fun _ h => h.1) fun e he => ⟨?_, he.2⟩).bind fun _ _ => .pure trivial
  exact S.restore n hd he.1 (he.2.trans hb.symm)

theorem inferProperty (op : Absence) (p : Property H) :
    HoldsFor (I k) D b (fun _ => True) (.inferProperty op p) := by
  unfold Journaled.inferProperty
  split
  · exact .pure trivial
  · refine (R.observe S op p.name).bind fun o _ => ?_
    exact (R.probeFor _).bind fun f _ => .pure trivial

theorem inferAll : HoldsFor (I k) D b (fun _ => True) .inferAll := by
  refine Holds.get (p := Prod.fst) fun past s hs => (R.prefer S _).bind fun _ _ => ?_
  refine (Holds.gather fun p _ => R.inferProperty S _ p).bind fun creator _ => ?_
  refine (R.prefer S _).bind fun _ _ => ?_
  exact (Holds.gather fun p _ => R.inferProperty S _ p).bind fun bean _ => .pure trivial

/-- What is inferred is still among the admitted blueprints. -/
theorem infer (hb : B b) : Holds (I k) B (.infer b) := by
  have hinfer : Holds (I k) (fun _ => True) (.infer b) :=
    R.withDraft S hb ((R.reset S).bind fun _ _ => R.inferAll S)
  refine (hinfer.and_of_run (R := B) fun past c b' c' _ h => ?_).mono fun b' h => h.2
  rw [Journaled.run_infer] at h
  exact S.sameCode hb (Check.sameCode_of_infer h)

/-! ## Round trips -/

omit S in
theorem candidatesOf {d : Draft H} (hd : D d) (names : List String) :
    Holds (I k) (fun table => ∀ entry ∈ table, ∀ v ∈ entry.2, d.blueprint.Puts D entry.1 v)
      (.candidatesOf d names) := by
  induction names with
  | nil => exact .pure fun _ h => absurd h List.not_mem_nil
  | cons n names ih =>
    refine (R.candidates hd n _).bind fun values hvalues => ih.bind fun rest hrest => .pure ?_
    exact List.forall_mem_cons.2 ⟨hvalues, hrest⟩

theorem pair {m : String} {v w : Value H} (hv : b.Puts D n v) (hw : b.Puts D m w) :
    HoldsFor (I k) D b (fun _ => True) (.pair n m v w) := by
  refine (R.reset S).bind fun _ _ => ?_
  have hput : HoldsFor (I k) D b (fun _ => True) (.change fun d => (d.put n v).put m w) :=
    R.change (fun _ h => h.1) fun e he => ⟨hw _ (hv e he.1 he.2) he.2, he.2⟩
  refine hput.bind fun _ _ => (R.probeFor _).bind fun _ _ => ?_
  exact (R.probeFor _).bind fun _ _ => .pure trivial

theorem pairs {table : List (String × List (Value H))}
    (htable : ∀ entry ∈ table, ∀ v ∈ entry.2, b.Puts D entry.1 v) :
    HoldsFor (I k) D b (fun _ => True) (.pairs table) := by
  refine .tally fun first hfirst => .tally fun second hsecond => ?_
  dsimp only
  split
  · exact .pure trivial
  · refine .tally fun v hv => .tally fun w hw => ?_
    exact R.pair S (htable first hfirst v hv) (htable second hsecond w hw)

theorem combinations : HoldsFor (I k) D b (fun _ => True) .combinations := by
  refine Holds.get (p := Prod.fst) fun past s hs => ?_
  obtain ⟨-, hd, hb⟩ := hs
  refine (R.candidatesOf hd _).ofRun.bind fun table htable => ?_
  rw [hb] at htable
  split
  · rename_i n values
    refine .tally fun v hv => (R.reset S).bind fun _ _ => ?_
    refine (R.put (htable _ List.mem_cons_self v hv)).bind fun _ _ => ?_
    exact (R.probeFor _).bind fun _ _ => .pure trivial
  · exact (R.pairs S htable).bind fun _ _ => (R.reset S).bind fun _ _ => .pure trivial

omit S in
theorem randomOr {d : Draft H} (hd : D d) (null : Bool) (p : Float) (n : String) :
    HoldsFor (I k) D b (d.blueprint.Puts D n) (.randomOr null p d n) := by
  have hnull : HoldsFor (I k) D b (fun _ => True)
      (.quiet (if null then Stage.ofRun (Run.chance p) else pure false)) := by
    cases null with
    | true => exact R.chosen _
    | false => exact .quiet fun _ _ hs => ⟨hs, trivial⟩
  refine hnull.bind fun null _ => ?_
  split
  · exact .pure fun e he _ => R.null he
  · exact (R.draw (fun _ channel hf => R.create hf channel) hd n .random).ofRun

omit S in
theorem changeOne (names : List String) :
    HoldsFor (I k) D b (fun _ => True) (.changeOne names) := by
  refine Holds.get (p := Prod.fst) fun past s hs => Holds.get (p := Prod.snd) fun _ c _ => ?_
  refine (R.chosen _).bind fun i _ => ?_
  refine (R.randomOr hs.2.1 _ _ _).bind fun v hv => ?_
  rw [hs.2.2] at hv
  exact R.put hv

omit S in
theorem trial (names : List String) : HoldsFor (I k) D b (fun _ => True) (.trial names) :=
  (Holds.times (R.changeOne names) _).bind fun _ _ => R.probeFor _

theorem trials : HoldsFor (I k) D b (fun _ => True) .trials := by
  refine Holds.get (p := Prod.fst) fun past s hs => ?_
  dsimp only
  split
  · exact .pure trivial
  · refine Holds.get (p := Prod.snd) fun _ c _ => (R.reset S).bind fun _ _ => ?_
    exact (Holds.times (R.trial _) _).bind fun _ _ => (R.reset S).bind fun _ _ => .pure trivial

theorem roundTrips : HoldsFor (I k) D b (fun _ => True) .roundTrips := by
  refine (R.reset S).bind fun _ _ => (R.probeFor _).bind fun _ _ => ?_
  exact (R.combinations S).bind fun _ _ => (R.trials S).bind fun _ _ => .pure trivial

/-! ## Equality -/

omit S in
theorem candidatePairs (hashes : Bool) {d : Draft H} (hd : D d) {values : List (Value H)}
    (hvalues : ∀ v ∈ values, d.blueprint.Puts D n v) :
    Holds (I k) (fun _ => True) (.candidatePairs hashes d n values) := by
  have hput : ∀ entry ∈ values.zipIdx, D (d.put n entry.1) := fun entry hentry =>
    hvalues _ (List.fst_mem_of_mem_zipIdx hentry) d hd rfl
  refine .tally fun v hv => .tally fun w hw => ?_
  dsimp only
  split
  · exact .pure trivial
  · refine (R.probed (fun e he => ?_) _).bind fun _ _ => .pure trivial
    rcases List.mem_pair.1 he with rfl | rfl
    · exact hput v hv
    · exact hput w hw

/-- In the end the property holds again what it held. -/
theorem property (hashes : Bool) (n : String) :
    HoldsFor (I k) D b (fun _ => True) (.property hashes n) := by
  refine Holds.get (p := Prod.fst) fun past s hs => ?_
  obtain ⟨-, hd, hb⟩ := hs
  refine (R.candidates hd n _).ofRun.bind fun values hvalues => ?_
  rw [hb] at hvalues
  refine (Holds.tally fun v hv => ?_).bind fun _ _ => ?_
  · refine (R.put (hvalues v hv)).bind fun _ _ => ?_
    exact (R.probeFor _).bind fun _ _ => .pure trivial
  · refine Holds.get (p := Prod.fst) fun past' t ht => ?_
    refine (R.candidatePairs hashes ht.2.1 (ht.2.2.symm ▸ hvalues)).ofRun.bind fun _ _ => ?_
    refine (R.change (fun _ h => h.1) fun e he => ⟨?_, he.2⟩).bind fun _ _ => .pure trivial
    exact S.restore n hd he.1 (he.2.trans hb.symm)

omit S in
theorem changeWithin (n : String) (attempts : Nat) :
    HoldsFor (I k) D b (fun _ => True) (.changeWithin n attempts) := by
  induction attempts with
  | zero => exact .pure trivial
  | succ attempts ih =>
    have hvalue : HoldsFor (I k) D b (b.Puts D n) (.randomValue n) := by
      refine Holds.get (p := Prod.fst) fun past s hs => Holds.get (p := Prod.snd) fun _ c _ => ?_
      exact hs.2.2 ▸ R.randomOr hs.2.1 _ _ n
    refine hvalue.bind fun v hv => (R.setProperty hv).bind fun changed _ => ?_
    split
    · exact .pure trivial
    · exact ih

omit S in
theorem equalityTrial (hashes : Bool) (names : List String) (previous : Value H) :
    HoldsFor (I k) D b (fun _ => True) (.equalityTrial hashes names previous) := by
  refine (R.chosen _).bind fun i _ => (R.changeWithin _ _).bind fun changed _ => ?_
  refine (R.probeFor _).bind fun current _ => ?_
  exact (R.probeFor _).bind fun _ _ => .pure trivial

omit S in
theorem equalityTrials (hashes : Bool) (names : List String) (n : Nat) (previous : Value H) :
    HoldsFor (I k) D b (fun _ => True) (.equalityTrials hashes names n previous) := by
  induction n generalizing previous with
  | zero => exact .pure trivial
  | succ n ih =>
    refine (R.equalityTrial hashes names previous).bind fun current _ => ?_
    exact (ih current).bind fun m _ => .pure trivial

theorem equality : HoldsFor (I k) D b (fun _ => True) .equality := by
  refine Holds.get (p := Prod.snd) fun past s hs => (R.reset S).bind fun _ _ => ?_
  refine Holds.get (p := Prod.fst) fun _ t _ => ?_
  refine (Holds.tally fun n _ => R.property S _ n).bind fun n _ => ?_
  split
  · exact .pure trivial
  · refine (R.probeFor _).bind fun previous _ => ?_
    exact (R.equalityTrials _ _ _ previous).bind fun _ _ => .pure trivial

/-! ## The run -/

/-- A run goes on as it begins, with the preparation for a customised description. -/
theorem verify {d : Description H} {cs : List (Customisation H)}
    (hprepare : ∀ d', d.customiseAll cs = .ok d' →
      B d'.toBlueprint ∧ Holds (I k) (fun _ => True) (.prepare d')) :
    Holds (I k) (fun _ => True) (.verify d cs) := by
  have hcustomised : Holds (I k) (fun d' => d.customiseAll cs = .ok d')
      (.quiet (Run.ofResult (d.customiseAll cs))) :=
    .ask (.ofExcept _) fun _ _ d' _ h => (Effect.ofExcept_eq_ok.1 h).1
  refine hcustomised.bind fun d' hd' => (hprepare d' hd').2.bind fun _ _ => ?_
  refine (R.infer S (hprepare d' hd').1).bind fun b hb => ?_
  have hvalid : Holds (I k) (fun _ => True) (.quiet (Run.ofResult (Check.validate b))) :=
    .ask (.ofExcept _) fun _ _ _ _ _ => trivial
  refine hvalid.bind fun _ _ => ?_
  have hchecks : Holds (I k) (fun _ => True) (.checks b) :=
    R.withDraft S hb <| (R.roundTrips S).bind fun _ _ => (R.equality S).bind fun _ _ =>
      .pure trivial
  exact hchecks.bind fun _ _ => Holds.get (p := id) fun _ _ _ => .pure trivial

end

end Regime
end BeanContract
