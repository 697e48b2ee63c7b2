/-
Checks in lockstep.

Contexts in which drafts go in lockstep give the same candidates, since these are drawn one after
the other.  The checks probe tested properties only, so that they too go in lockstep, on drafts of
blueprints that nothing tells apart: both runs have the same outcome and leave related contexts.
-/
import BeanContract.Proofs.Check.RoundTrip
import BeanContract.Proofs.Draft.Lockstep
import BeanContract.Verifier

namespace BeanContract
namespace Lockstep

open Effect (InStep)

variable {H : Host} {b b' : Blueprint H} {R : Context H → Context H → Prop}
  {V : Factory H → Factory H → Prop} {E : Halt → Prop} (L : Lockstep Run.create b b' R V E)
  {d : Draft H}
include L

/-! ## Candidates -/

theorem createApart {f f' : Factory H} (hV : V f f') (avoid : List (Value H)) (n : Nat) :
    InStep R E (Run.createApart f avoid n) (Run.createApart f' avoid n) := by
  induction n with
  | zero => exact L.create f f' hV .random
  | succ n ih =>
    refine (L.create f f' hV .random).bind fun v => ?_
    split
    · exact ih
    · exact .pure v

theorem createDistinct {f f' : Factory H} (hV : V f f') (avoid : List (Value H)) :
    InStep R E (Run.createDistinct f avoid) (Run.createDistinct f' avoid) := by
  refine .get fun c c' hc => ?_
  rw [(L.same c c' hc).settings, L.lowCardinality f f' hV]
  exact L.createApart hV avoid _

theorem extendApart {f f' : Factory H} (hV : V f f') (n : Nat) (found : List (Value H)) :
    InStep R E (Draft.extendApart f n found) (Draft.extendApart f' n found) := by
  induction n generalizing found with
  | zero => exact .pure found
  | succ n ih => exact (L.createDistinct hV found).bind fun v => ih _

theorem candidates (hd : d.blueprint = b) (n : String) (null : Bool) :
    InStep R E (d.candidates n null) ((d.recast b').candidates n null) := by
  refine L.factory_bind hd (fun f f' hV => ?_) n
  refine (L.create f f' hV .primary).bind fun primary => ?_
  refine (L.create f f' hV .secondary).bind fun secondary => ?_
  refine .get fun c c' hc => ?_
  rw [(L.same c c' hc).settings]
  exact (L.extendApart hV _ _).bind fun found => .pure _

/-! ## Round trips -/

section

open Check

theorem candidatesOf (hd : d.blueprint = b) {names : List String}
    (hnames : ∀ n ∈ names, b.isTestable n = true) :
    InStep R E (Check.candidatesOf d names) (Check.candidatesOf (d.recast b') names) := by
  induction names with
  | nil => exact .pure []
  | cons n names ih =>
    have hn : d.blueprint.isTestable n = true := hd ▸ hnames n List.mem_cons_self
    unfold Check.candidatesOf
    rw [Draft.triesNull_recast (hd ▸ L.indistinct) hn]
    refine (L.candidates hd n _).bind fun values => ?_
    exact (ih fun m hm => hnames m (List.mem_cons_of_mem n hm)).bind fun rest => .pure _

theorem verify {n : String} (hn : b.isTestable n = true) :
    Stages b b' R E (Stage.probe (·.verify n)) (Stage.probe (·.verify n)) :=
  L.probe (fun _ hd => Draft.verify_recast (hd ▸ L.indistinct) (hd ▸ hn)) fun d => d.verify_only n

theorem single {n : String} (hn : b.isTestable n = true) (v : Value H) :
    Stages b b' R E (Check.single n v) (Check.single n v) :=
  L.reset.bind fun _ => (put n v).bind fun _ => (L.verify hn).bind fun _ => .pure 1

theorem pair {n m : String} (hn : b.isTestable n = true) (hm : b.isTestable m = true)
    (v w : Value H) : Stages b b' R E (Check.pair n m v w) (Check.pair n m v w) := by
  refine L.reset.bind fun _ => ?_
  refine InStep.bind (change fun _ hd => ⟨hd, rfl⟩) fun _ => ?_
  exact (L.verify hn).bind fun _ => (L.verify hm).bind fun _ => .pure 1

theorem pairs {table : List (String × List (Value H))}
    (htable : ∀ entry ∈ table, b.isTestable entry.1 = true) :
    Stages b b' R E (Check.pairs table) (Check.pairs table) := by
  refine .tally fun first hfirst => .tally fun second hsecond => ?_
  dsimp only
  split
  · exact .pure 0
  · refine .tally fun v _ => .tally fun w _ => ?_
    exact L.pair (htable first hfirst) (htable second hsecond) v w

theorem combinations : Stages b b' R E Check.combinations Check.combinations := by
  refine draft_bind fun d hd => ?_
  have hnames : ∀ n ∈ d.blueprint.testable, b.isTestable n = true := fun n hn =>
    hd ▸ Blueprint.isTestable_of_mem hn
  rw [Draft.testable_recast (hd ▸ L.indistinct)]
  refine (ofRun (L.candidatesOf hd hnames)).bind_of_ok fun table htable => ?_
  have htested : ∀ entry ∈ table, b.isTestable entry.1 = true := by
    obtain ⟨⟨d₁, c₁⟩, ⟨d₂, c₂⟩, htable⟩ := htable
    intro entry hentry
    refine hnames entry.1 ?_
    rw [← candidatesOf_names (Stage.ofRun_eq_ok.1 htable).2]
    exact List.mem_map_of_mem hentry
  split
  · exact .tally fun v _ => L.single (htested _ List.mem_cons_self) v
  · exact (L.pairs htested).bind fun n => L.reset.bind fun _ => .pure n

theorem roundTripChange {names : List String} (hnames : names ≠ [])
    (htested : ∀ n ∈ names, b.isTestable n = true) :
    Stages b b' R E (Check.change names) (Check.change names) := by
  refine draft_bind fun d hd => context_bind fun c c' hc => ?_
  refine L.pick_bind hnames fun i hi => ?_
  dsimp only
  rw [Draft.triesNull_recast (hd ▸ L.indistinct) (hd ▸ htested _ hi), (L.same c c' hc).settings]
  refine L.chanceIf_bind _ _ fun null => ?_
  have hdraw := L.drawUnless hd (names.getD i "") null
  split at hdraw
  · rw [if_pos ‹_›, if_pos ‹_›]
    exact hdraw.bind fun v => put _ v
  · rw [if_neg ‹_›, if_neg ‹_›]
    exact hdraw.bind fun v => put _ v

theorem trial {names : List String} (hnames : names ≠ [])
    (htested : ∀ n ∈ names, b.isTestable n = true) :
    Stages b b' R E (Check.trial names) (Check.trial names) := by
  refine (InStep.times (L.roundTripChange hnames htested) _).bind fun _ => ?_
  exact L.probe (fun _ hd => Draft.verifyAll_recast (hd ▸ L.indistinct)) Draft.verifyAll_only

theorem trials : Stages b b' R E Check.trials Check.trials := by
  refine draft_bind fun d hd => ?_
  have htested : ∀ n ∈ d.blueprint.testable, b.isTestable n = true := fun n hn =>
    hd ▸ Blueprint.isTestable_of_mem hn
  rw [Draft.testable_recast (hd ▸ L.indistinct)]
  dsimp only
  split
  · exact .pure 0
  · rename_i hnames
    refine context_bind fun c c' hc => ?_
    rw [(L.same c c' hc).settings]
    refine L.reset.bind fun _ => ?_
    refine (InStep.times (L.trial (by simpa using hnames) htested) _).bind fun _ => ?_
    exact L.reset.bind fun _ => .pure _

theorem roundTrips : Stages b b' R E Check.roundTrips Check.roundTrips := by
  refine L.reset.bind fun _ => ?_
  refine (L.probe (fun _ hd => Draft.texts_recast (hd ▸ L.indistinct)) texts_only).bind fun _ => ?_
  exact L.combinations.bind fun n => L.trials.bind fun m => .pure _

/-! ## Equality -/

theorem property {n : String} (hn : b.isTestable n = true) (hashes : Bool) :
    Stages b b' R E (Check.property hashes n) (Check.property hashes n) := by
  have htwins := L.probe (fun _ hd => Draft.twins_recast (hd ▸ L.indistinct) hashes)
    fun d => twins_only d hashes
  have hpairs := fun values => L.probe
    (fun _ hd => Draft.candidatePairs_recast (hd ▸ L.indistinct) (hd ▸ hn) hashes values)
    fun d => candidatePairs_only d hashes n values
  refine draft_bind fun d hd => ?_
  have h : d.blueprint.Indistinct b' := hd ▸ L.indistinct
  rw [Draft.recast_blueprint, h.shape.isNullable]
  refine (ofRun (L.candidates hd n _)).bind fun values => ?_
  refine InStep.bind (.tally fun v _ => (put n v).bind fun _ => htwins.bind fun _ => .pure 1)
    fun k => (hpairs values).bind fun m => ?_
  exact InStep.bind (change fun _ hd => ⟨hd, rfl⟩) fun _ => .pure _

theorem randomValue {n : String} :
    Stages b b' R E (Check.randomValue n) (Check.randomValue n) := by
  refine draft_bind fun d hd => context_bind fun c c' hc => ?_
  have h : d.blueprint.Indistinct b' := hd ▸ L.indistinct
  dsimp only
  rw [Draft.recast_blueprint, h.shape.isNullable, (L.same c c' hc).settings]
  exact L.chanceIf_bind _ _ fun null => L.drawUnless hd n null

theorem changeWithin {n : String} (hn : b.isTestable n = true) (attempts : Nat) :
    Stages b b' R E (Check.changeWithin n attempts) (Check.changeWithin n attempts) := by
  induction attempts with
  | zero => exact .pure false
  | succ attempts ih =>
    refine L.randomValue.bind fun v => (L.setProperty hn v).bind fun changed => ?_
    split
    · exact .pure true
    · exact ih

theorem equalityTrial {names : List String} (hnames : names ≠ [])
    (htested : ∀ n ∈ names, b.isTestable n = true) (hashes : Bool) (previous : Value H) :
    Stages b b' R E (Check.equalityTrial hashes names previous)
      (Check.equalityTrial hashes names previous) := by
  refine L.pick_bind hnames fun i hi => ?_
  have hn := htested _ hi
  refine (L.changeWithin hn _).bind fun changed => L.newBean.bind fun current => ?_
  refine (L.probe (fun _ hd => ?_) fun d => compare_only d hashes _ _ _ _).bind fun _ => .pure _
  exact Draft.compare_recast (hd ▸ L.indistinct) (hd ▸ hn) hashes changed previous current

theorem equalityTrials {names : List String} (hnames : names ≠ [])
    (htested : ∀ n ∈ names, b.isTestable n = true) (hashes : Bool) (trials : Nat)
    (previous : Value H) :
    Stages b b' R E (Check.equalityTrials hashes names trials previous)
      (Check.equalityTrials hashes names trials previous) := by
  induction trials generalizing previous with
  | zero => exact .pure 0
  | succ trials ih =>
    exact (L.equalityTrial hnames htested hashes previous).bind fun v => (ih v).bind fun _ => .pure _

theorem equality : Stages b b' R E Check.equality Check.equality := by
  refine context_bind fun c c' hc => ?_
  dsimp only
  rw [(L.same c c' hc).settings]
  refine L.reset.bind fun _ => draft_bind fun d hd => ?_
  have htested : ∀ n ∈ d.blueprint.testable, b.isTestable n = true := fun n hn =>
    hd ▸ Blueprint.isTestable_of_mem hn
  rw [Draft.testable_recast (hd ▸ L.indistinct)]
  refine InStep.bind (.tally fun n hn => L.property (htested n hn) _) fun k => ?_
  split
  · exact .pure k
  · rename_i hnames
    refine L.newBean.bind fun previous => ?_
    refine (L.equalityTrials (by simpa using hnames) htested _ _ previous).bind fun _ => ?_
    exact .pure _

end

/-- The checks of the two blueprints have the same outcome. -/
theorem checks : InStep R E (Verifier.checks b) (Verifier.checks b') := by
  have hboth := L.roundTrips.bind fun n => L.equality.bind fun m =>
    InStep.pure (R := Drafted b b' R) (E := E) (n, m)
  intro c c' hc
  have hagree := hboth (.ofBlueprint b, c) (.ofBlueprint b', c') ⟨rfl, rfl, hc⟩
  rcases hagree.cases with ⟨counts, s, s', hx, hy, hs⟩ | ⟨e, s, s', hx, hy, he, hs⟩
  · refine .of_ok (a := counts) ?_ ?_ hs.2.2
    · simp only [Verifier.checks, hx]
    · simp only [Verifier.checks, hy]
  · refine .of_error (e := e) ?_ ?_ ⟨he, hs.2.2⟩
    · simp only [Verifier.checks, hx]
    · simp only [Verifier.checks, hy]

end Lockstep
end BeanContract
