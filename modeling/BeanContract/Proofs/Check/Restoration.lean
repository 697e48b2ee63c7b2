/-
What round trips leave staged.

Round trips stage values on top of the primary ones.  When they are done, the draft is at its
primary values again, with one exception: combinations of a property that is alone end with
its last candidate, and it takes the trials to undo that.
-/
import BeanContract.Proofs.Check.RoundTrip
import BeanContract.Proofs.Draft.History

namespace BeanContract

open Effect (Keeps)

variable {H : Host}

namespace Draft

/-- What a draft is apart from its staged values. -/
def unstaged (d : Draft H) : Draft H := { d with expected := .empty }

theorem restaged_iff {d e : Draft H} : d.Restaged e ↔ e.unstaged = d.unstaged := by
  obtain ⟨b, expected, initial, preference⟩ := d
  obtain ⟨b', expected', initial', preference'⟩ := e
  simp [Restaged, unstaged]

theorem Restaged.initial {d e : Draft H} (h : d.Restaged e) : e.initial = d.initial := by
  rw [h]

theorem Restaged.stage (d : Draft H) (values : Table String (Value H)) :
    d.Restaged { d with expected := values } := rfl

end Draft

/-- A stage that changes staged values only. -/
theorem Stage.Leaves.restaged {α : Type} {x : Stage H α} (hx : Leaves Draft.unstaged x)
    {d : Draft H} {s t : Draft H × Context H} {a : α} (hs : d.Restaged s.1)
    (h : x s = .ok a t) : d.Restaged t.1 := by
  rw [Draft.restaged_iff] at hs ⊢
  exact (Effect.Keeps.of_ok hx h).trans hs

namespace Check

theorem leaves_change (names : List String) :
    Stage.Leaves Draft.unstaged (change (H := H) names) := by
  refine Keeps.bind Stage.leaves_draft fun d => Keeps.bind Stage.leaves_context fun c => ?_
  refine Keeps.bind (Stage.leaves_ofRun _) fun i => ?_
  refine Keeps.branch ?_ fun null => Keeps.branch ?_ fun v => ?_
  · split
    · exact Stage.leaves_ofRun _
    · exact .pure _
  · split
    · exact .pure _
    · exact Stage.leaves_ofRun _
  · exact Stage.leaves_change (f := (·.put _ v)) fun _ => rfl

theorem leaves_trial (names : List String) :
    Stage.Leaves Draft.unstaged (trial (H := H) names) :=
  Keeps.bind (.times (leaves_change names) _) fun _ => Stage.leaves_probe _

theorem leaves_times (names : List String) (n : Nat) :
    Stage.Leaves Draft.unstaged (Effect.times (trial (H := H) names) n) :=
  Keeps.times (leaves_trial names) n

section

variable {d : Draft H} {values : Table String (Value H)} (hd : d.initial = some values)
  {s t : Draft H × Context H} {n : Nat} (hs : d.Restaged s.1)
include hd hs

theorem reset_restores {u : Unit} (h : Stage.reset Run.create s = .ok u t) :
    t = ({ d with expected := values }, s.2) := by
  obtain ⟨e, c⟩ := s
  have hinitial : e.initial = some values := hs.initial.trans hd
  rw [Stage.reset_of_initial hinitial] at h
  cases h
  rw [show e = { d with expected := e.expected } from hs]

theorem single_stages {p : String} {v : Value H} (h : single p v s = .ok n t) :
    t.1 = ({ d with expected := values } : Draft H).put p v := by
  obtain ⟨_, s₁, hreset, h⟩ := Effect.bind_eq_ok.1 h
  obtain rfl := reset_restores hd hs hreset
  obtain ⟨_, s₂, hput, h⟩ := Effect.bind_eq_ok.1 h
  obtain rfl := Stage.change_eq_ok.1 hput
  obtain ⟨_, s₃, hverify, h⟩ := Effect.bind_eq_ok.1 h
  obtain ⟨-, rfl⟩ := Effect.pure_eq_ok.1 h
  obtain ⟨e, c⟩ := s₃
  exact (Stage.probe_eq_ok.1 hverify).1

/-- The combinations of one property end with its last candidate. -/
theorem singles_stage_last {p : String} {vs : List (Value H)} {v : Value H}
    (hv : vs.getLast? = some v) (h : Effect.tally (single p) vs s = .ok n t) :
    t.1 = ({ d with expected := values } : Draft H).put p v := by
  induction vs generalizing s n with
  | nil => cases hv
  | cons w ws ih =>
    obtain ⟨m, s₁, hsingle, h⟩ := Effect.bind_eq_ok.1 h
    obtain ⟨k, s₂, hws, h⟩ := Effect.bind_eq_ok.1 h
    obtain ⟨-, rfl⟩ := Effect.pure_eq_ok.1 h
    have hs₁ := single_stages hd hs hsingle
    cases ws with
    | nil =>
      cases hv
      obtain ⟨-, rfl⟩ := Effect.pure_eq_ok.1 hws
      exact hs₁
    | cons w' ws =>
      rw [List.getLast?_cons_cons] at hv
      exact ih (by rw [hs₁]; rfl) hv hws

theorem pair_restages {p q : String} {v w : Value H} (h : pair p q v w s = .ok n t) :
    d.Restaged t.1 := by
  obtain ⟨_, s₁, hreset, h⟩ := Effect.bind_eq_ok.1 h
  obtain rfl := reset_restores hd hs hreset
  have hrest : Stage.Leaves Draft.unstaged (do
      Stage.change fun d => (d.put p v).put q w
      Stage.probe (·.verify p)
      Stage.probe (·.verify q)
      pure 1 : Stage H Nat) :=
    Keeps.bind (Stage.leaves_change fun _ => rfl) fun _ =>
      Keeps.bind (Stage.leaves_probe _) fun _ =>
        Keeps.bind (Stage.leaves_probe _) fun _ => .pure _
  exact hrest.restaged (.stage d values) h

theorem pairs_restages {table : List (String × List (Value H))} (h : pairs table s = .ok n t) :
    d.Restaged t.1 := by
  refine Effect.tally_invariant (I := fun t => d.Restaged t.1) (fun e _ s₁ m t₁ hs₁ h => ?_) hs h
  refine Effect.tally_invariant (I := fun t => d.Restaged t.1) (fun f _ s₂ m t₂ hs₂ h => ?_) hs₁ h
  dsimp only at h
  split at h
  · obtain ⟨-, rfl⟩ := Effect.pure_eq_ok.1 h
    exact hs₂
  · refine Effect.tally_invariant (I := fun t => d.Restaged t.1)
      (fun v _ s₃ m t₃ hs₃ h => ?_) hs₂ h
    exact Effect.tally_invariant (I := fun t => d.Restaged t.1)
      (fun w _ s₄ m t₄ hs₄ h => pair_restages hd hs₄ h) hs₃ h

theorem trials_restores (h : trials s = .ok n t) :
    t.1 = if d.blueprint.testable = [] then s.1 else { d with expected := values } := by
  obtain ⟨e, c⟩ := s
  obtain ⟨e', s₁, hdraft, h⟩ := Effect.bind_eq_ok.1 h
  obtain ⟨rfl, rfl⟩ := Stage.draft_eq_ok.1 hdraft
  have hempty : e'.blueprint.testable.isEmpty = true ↔ d.blueprint.testable = [] := by
    rw [← hs.blueprint, List.isEmpty_iff]
  dsimp only at h
  split at h
  · rename_i hnames
    obtain ⟨-, rfl⟩ := Effect.pure_eq_ok.1 h
    rw [if_pos (hempty.1 hnames)]
  · rename_i hnames
    rw [if_neg fun htestable => hnames (hempty.2 htestable)]
    obtain ⟨c', s₂, hcontext, h⟩ := Effect.bind_eq_ok.1 h
    obtain ⟨rfl, rfl⟩ := Stage.context_eq_ok.1 hcontext
    obtain ⟨_, s₃, hreset, h⟩ := Effect.bind_eq_ok.1 h
    obtain rfl := reset_restores hd hs hreset
    obtain ⟨_, s₄, htimes, h⟩ := Effect.bind_eq_ok.1 h
    obtain ⟨_, s₅, hreset', h⟩ := Effect.bind_eq_ok.1 h
    obtain ⟨-, rfl⟩ := Effect.pure_eq_ok.1 h
    have hs₄ := (leaves_times _ _).restaged (Draft.Restaged.stage d values) htimes
    rw [reset_restores hd hs₄ hreset']

end

theorem candidatesOf_singleton {d : Draft H} {p : String} {c c' : Context H}
    {table : List (String × List (Value H))} (h : candidatesOf d [p] c = .ok table c') :
    ∃ vs, d.candidates p (triesNull d p) c = .ok vs c' ∧ table = [(p, vs)] := by
  obtain ⟨vs, c₁, hvs, h⟩ := Effect.bind_eq_ok.1 h
  obtain ⟨rest, c₂, hrest, h⟩ := Effect.bind_eq_ok.1 h
  obtain ⟨rfl, rfl⟩ := Effect.pure_eq_ok.1 h
  obtain ⟨rfl, rfl⟩ := Effect.pure_eq_ok.1 hrest
  exact ⟨vs, hvs, rfl⟩

/-- Combinations end at the primary values, unless there is one tested property only.  That one
is left at the last of its candidates. -/
theorem combinations_restores {d : Draft H} {values : Table String (Value H)}
    (hd : d.initial = some values) {c : Context H} {n : Nat} {t : Draft H × Context H}
    (h : combinations (d, c) = .ok n t) :
    (d.blueprint.testable.length ≠ 1 → t.1 = { d with expected := values }) ∧
    ∀ p, d.blueprint.testable = [p] → ∃ vs c₁ v,
      d.candidates p (triesNull d p) c = .ok vs c₁ ∧ vs.getLast? = some v ∧
        t.1 = ({ d with expected := values } : Draft H).put p v := by
  obtain ⟨d', s₁, hdraft, h⟩ := Effect.bind_eq_ok.1 h
  obtain ⟨rfl, rfl⟩ := Stage.draft_eq_ok.1 hdraft
  obtain ⟨table, ⟨d₂, c₁⟩, htable, hrest⟩ := Effect.bind_eq_ok.1 h
  obtain ⟨rfl, htable'⟩ := Stage.ofRun_eq_ok.1 htable
  have hnames := candidatesOf_names htable'
  have hlength : table.length = d₂.blueprint.testable.length := by
    rw [← hnames, List.length_map]
  split at hrest
  · rename_i q ws
    refine ⟨fun hne => absurd hlength.symm hne, fun p hp => ?_⟩
    rw [hp] at htable'
    obtain ⟨vs, hvs, htable'⟩ := candidatesOf_singleton htable'
    cases htable'
    obtain ⟨a, b, rest, -, -, -, -, rfl⟩ := Draft.candidates_eq_ok hvs
    have hlast := List.getLast?_eq_some_getLast (l := a :: b :: rest) (by simp)
    exact ⟨_, c₁, _, hvs, hlast, singles_stage_last hd (.refl d₂) hlast hrest⟩
  · rename_i hne
    obtain ⟨m, s₂, hpairs, hrest⟩ := Effect.bind_eq_ok.1 hrest
    obtain ⟨_, s₃, hreset, hrest⟩ := Effect.bind_eq_ok.1 hrest
    obtain ⟨-, rfl⟩ := Effect.pure_eq_ok.1 hrest
    have hs₂ := pairs_restages hd (.refl d₂) hpairs
    refine ⟨fun _ => by rw [reset_restores hd hs₂ hreset], fun p hp => ?_⟩
    rw [hp] at htable'
    obtain ⟨vs, -, rfl⟩ := candidatesOf_singleton htable'
    exact absurd rfl (hne p vs)

/-- After round trips that succeed, a draft that was reset is at its primary values, and all else
about it is as before: after all of them, after the trials if there is something to try, and
after the combinations if those are not of one property alone.  Combinations of one property
alone leave the last of its candidates staged. -/
theorem primary_of_roundTrips {d : Draft H} {values : Table String (Value H)}
    (hd : d.initial = some values) (c : Context H) {n : Nat} {t : Draft H × Context H} :
    (combinations (d, c) = .ok n t →
      (d.blueprint.testable.length ≠ 1 → t.1 = { d with expected := values }) ∧
      ∀ p, d.blueprint.testable = [p] → ∃ vs c₁ v,
        d.candidates p (triesNull d p) c = .ok vs c₁ ∧ vs.getLast? = some v ∧
          t.1 = ({ d with expected := values } : Draft H).put p v) ∧
    (trials (d, c) = .ok n t →
      t.1 = if d.blueprint.testable = [] then d else { d with expected := values }) ∧
    (roundTrips (d, c) = .ok n t → t.1 = { d with expected := values }) := by
  refine ⟨combinations_restores hd, trials_restores hd (.refl d), fun h => ?_⟩
  obtain ⟨_, s₁, hreset, h⟩ := Effect.bind_eq_ok.1 h
  obtain rfl := reset_restores hd (.refl d) hreset
  obtain ⟨_, ⟨e, c₂⟩, htexts, h⟩ := Effect.bind_eq_ok.1 h
  obtain ⟨he, -⟩ := Stage.probe_eq_ok.1 htexts
  obtain ⟨m, s₂, hcombinations, h⟩ := Effect.bind_eq_ok.1 h
  obtain ⟨k, s₃, htrials, h⟩ := Effect.bind_eq_ok.1 h
  obtain ⟨-, rfl⟩ := Effect.pure_eq_ok.1 h
  have hinitial : e.initial = some values := by rw [he]; exact hd
  have hvalues : { e with expected := values } = { d with expected := values } := by rw [he]
  obtain ⟨hseveral, hone⟩ := combinations_restores hinitial hcombinations
  rw [hvalues] at hseveral hone
  have htestable : e.blueprint.testable = d.blueprint.testable := by rw [he]
  rw [htestable] at hseveral hone
  by_cases hlength : d.blueprint.testable.length = 1
  · obtain ⟨p, hp⟩ := List.length_eq_one_iff.1 hlength
    obtain ⟨-, -, v, -, -, hs₂⟩ := hone p hp
    have hrestaged : d.Restaged s₂.1 := by
      rw [hs₂]
      exact (Draft.Restaged.stage d values).put p v
    rw [trials_restores hd hrestaged htrials, if_neg (by rw [hp]; exact List.cons_ne_nil _ _)]
  · have hs₂ := hseveral hlength
    have hrestaged : d.Restaged s₂.1 := by
      rw [hs₂]
      exact .stage d values
    rw [trials_restores hd hrestaged htrials]
    split
    · exact hs₂
    · rfl

def fixedContext : Context Lamp.host :=
  { Lamp.context with settings := { Lamp.context.settings with randomCandidates := 0 } }

/-- Lamps are at their primary values after all checks. -/
theorem primary_of_roundTrips_lamp :
    ∃ d c values t,
      Stage.reset Run.create (.ofBlueprint Lamp.blueprint, Lamp.context) = .ok () (d, c) ∧
      d.initial = some values ∧ roundTrips (d, c) = .ok 20 t ∧
      t.1 = { d with expected := values } := by
  obtain ⟨d, c, hd, hinitial, hrun⟩ : ∃ d c,
      Stage.reset Run.create (.ofBlueprint Lamp.blueprint, Lamp.context) = .ok () (d, c) ∧
      d.initial = some d.expected ∧ Effect.result? (roundTrips (d, c)) = some 20 :=
    ⟨_, _, rfl, rfl, by decide +kernel⟩
  obtain ⟨t, ht⟩ := Effect.result?_eq_some.1 hrun
  exact ⟨d, c, d.expected, t, hd, hinitial, ht, (primary_of_roundTrips hinitial c).2.2 ht⟩

def nightLight : Blueprint Lamp.host :=
  { Lamp.blueprint with
    creator := .empty
    bean := ⟨[
      { name := "dim", type := .bool, getter := some fun o => pure (Lamp.ofSwitch o.2),
        setter := some fun o v => pure (o.1, Lamp.toSwitch v) }]⟩ }

/-- Lamps with one switch pass the combinations after a reset, and stay switched off although the
primary value is on. -/
theorem combinations_displace :
    ∃ d c t, Stage.reset Run.create (.ofBlueprint nightLight, fixedContext) = .ok () (d, c) ∧
      d.initial = some d.expected ∧ combinations (d, c) = .ok 2 t ∧
      d.expected.get? "dim" = some (some (.bool true)) ∧
      t.1.expected.get? "dim" = some (some (.bool false)) :=
  ⟨_, _, _, rfl, rfl, rfl, rfl, rfl⟩

end Check
end BeanContract
