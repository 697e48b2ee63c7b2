/-
Interrupted registrations.

A registration changes the depth, the pool and the registry, and undoes each change by a means
of its own.  Creations are left and drafts given back on every way out, so a panic leaves the
depth and the drafts in use as they were (`Factory.selfTest_lends`).  The registry is put back
only where a trial fails.  A panic goes past that, and the place of the registration goes on
answering with the factory that panicked, whatever had answered there before.
-/
import BeanContract.Proofs.Context.Moments
import BeanContract.Proofs.Context.Registration
import BeanContract.Proofs.Draft.Pool

namespace BeanContract

open Effect (after Meets)

variable {H : Host} {c c' : Context H} {out : ValueType → Nat}

/-! ## Drafts in use -/

/-- One more draft of a type is in use. -/
theorem out_count_cons (out : ValueType → Nat) (t : ValueType) (held : List ValueType) :
    (fun u => out u + (t :: held).count u) =
      fun u => out u + held.count u + if u = t then 1 else 0 := by
  funext u
  by_cases hu : u = t
  · simp [hu, Nat.add_assoc]
  · simp [hu, List.count_cons_of_ne (Ne.symm hu)]

/-- The drafts in use are those in use before and those that the creations hold. -/
theorem Upkeep.lends (out : ValueType → Nat) :
    Upkeep (fun _ _ (c : Context H) held => c.pool.Lends fun t => out t + held.count t)
      fun _ => True where
  quiet {_ _ c c' _} h hc := by
    have hpool : c'.pool = c.pool := congrArg (·.1) hc
    rw [hpool]
    exact h
  enter h := h
  leave h := h
  take b h := by
    rw [out_count_cons]
    exact ⟨h.acquire b, trivial, h.typed.acquired rfl⟩
  giveBack h _ := by
    rw [out_count_cons] at h
    exact h.release
  put _ _ _ := trivial

/-- However a creation ends, the drafts in use are those that were in use before it. -/
theorem Run.create_lends (f : Factory H) (channel : Channel) (h : c.pool.Lends out) :
    (after (Run.create f channel c)).pool.Lends out := by
  have hkept := (Upkeep.lends out).create 0 f channel [] c [] (by simpa using h)
  rw [Traced.run_create] at hkept
  simpa using hkept

namespace Factory

theorem checkDrawn_lends (f : Factory H) (channel : Channel) (v : Value H)
    (h : c.pool.Lends out) : (after (f.checkDrawn channel v c)).pool.Lends out := by
  unfold checkDrawn
  cases v.type? with
  | none => exact h
  | some t =>
    dsimp only
    split
    · exact h
    · exact h

/-- However a trial ends, the drafts in use are those that were in use before it. -/
theorem selfTest_lends (f : Factory H) (h : c.pool.Lends out) :
    (after (f.selfTest c)).pool.Lends out := by
  refine Meets.after (P := fun c : Context H => c.pool.Lends out) ?_
  have hcreate := fun channel (c : Context H) (hc : c.pool.Lends out) =>
    Meets.of_after (P := fun c : Context H => c.pool.Lends out) (Run.create_lends f channel hc)
  have hcheck := fun channel v (c : Context H) (hc : c.pool.Lends out) =>
    Meets.of_after (P := fun c : Context H => c.pool.Lends out) (f.checkDrawn_lends channel v hc)
  refine (hcreate .primary c h).bind fun primary c₁ h₁ => ?_
  refine (hcreate .secondary c₁ h₁).bind fun secondary c₂ h₂ => ?_
  refine (hcreate .random c₂ h₂).bind fun random c₃ h₃ => ?_
  refine (hcheck .primary primary c₃ h₃).bind fun _ c₄ h₄ => ?_
  refine (hcheck .secondary secondary c₄ h₄).bind fun _ c₅ h₅ => ?_
  refine (hcheck .random random c₅ h₅).bind fun _ c₆ h₆ => ?_
  split
  · refine Meets.bind (Q := fun _ c => c.pool.Lends out) (Meets.zoom ?_) fun _ c₇ h₇ => h₇
    cases Value.show? primary with
    | ok text => exact h₆
    | error p => exact h₆
  · exact h₆

end Factory

/-! ## Registrations -/

namespace Place

variable {place : Place} {f : Factory H}

/-- The registry answers in the place with the factory already. -/
def Answers (place : Place) (f : Factory H) (r : Registry H) : Prop :=
  match place with
  | type => r.get? f.type = some f ∧ r.contains f.type = true
  | property owner name => ∀ t, r.forProperty owner name t = .ok f

/-- Where a registration has not been taken back, every look-up answers as before only if its
place had answered with the factory before. -/
theorem Resolves.answersAs_iff {r r' : Registry H} (h : place.Resolves f r r') :
    r'.AnswersAs r ↔ place.Answers f r := by
  cases place with
  | type =>
    obtain ⟨hget, hcontains, hproperty⟩ := h
    constructor
    · intro hsame
      have htype := hsame.type f.type
      have hown := hsame.contains f.type
      rw [hget, if_pos rfl] at htype
      rw [hcontains] at hown
      exact ⟨htype.symm, by simpa using hown.symm⟩
    · rintro ⟨htype, hown⟩
      refine ⟨fun t => ?_, fun owner n t => ?_, fun t => ?_⟩
      · rw [hget]
        split
        · rename_i ht
          rw [ht, htype]
        · rfl
      · rw [hproperty]
        split
        · rename_i ht
          obtain ⟨rfl, hnone⟩ := ht
          rw [Registry.forProperty_of_none hnone, Registry.get_eq_ok.2 htype]
        · rfl
      · rw [hcontains]
        by_cases ht : t = f.type
        · simp [ht, hown]
        · simp [ht]
  | property o m =>
    obtain ⟨hget, hcontains, hproperty⟩ := h
    constructor
    · intro hsame t
      rw [← hsame.property o m t, hproperty, if_pos rfl]
    · intro hanswers
      refine ⟨hget, fun owner n t => ?_, hcontains⟩
      rw [hproperty]
      split
      · rename_i hkey
        cases hkey
        exact (hanswers t).symm
      · rfl

/-- However a registration ends, only its registry and its account of creations are new. -/
theorem after_register (place : Place) (f : Factory H) (h : c.pool.Lends out) :
    (after (place.register f c)).settings = c.settings ∧
      (after (place.register f c)).depth = c.depth ∧
      (after (place.register f c)).pool.Lends out := by
  refine ⟨?_, ?_, ?_⟩
  · exact registerBy_keeps (g := (·.settings)) (fun c => congrArg (·.1) (f.selfTest_keeps c))
      (fun _ _ => rfl) c
  · exact registerBy_keeps (g := (·.depth)) (fun c => congrArg (·.2.2.2) (f.selfTest_keeps c))
      (fun _ _ => rfl) c
  · unfold register
    cases htested : c.settings.selfTestFactories with
    | false =>
      rw [registerBy_of_untested htested]
      exact h
    | true =>
      have hlends : (after (f.selfTestBy Run.create (place.trialContext f c))).pool.Lends out :=
        f.selfTest_lends h
      rw [registerBy_of_tested htested]
      rcases hr : f.selfTestBy Run.create (place.trialContext f c) with ⟨_, c₁⟩ | ⟨_ | _, c₁⟩
      all_goals
        rw [hr] at hlends
        exact hlends

end Place

/-- Interrupted registrations, for a type or for one property, in any context:

Whether the trial of the factory fails or panics, the settings, the depth and the drafts in use
are what they were.  If it fails, every look-up answers as before.  If it panics, and it does so
exactly if the registration does, the place of the registration answers with the factory and
every other look-up as before; so all look-ups answer as before only where this very factory had
answered in that place already. -/
theorem register_interrupted (place : Place) (f : Factory H) (c : Context H)
    {out : ValueType → Nat} (hpool : c.pool.Lends out) :
    (∀ e c', place.register f c = .error e c' →
      c'.settings = c.settings ∧ c'.depth = c.depth ∧ c'.pool.Lends out) ∧
    (∀ e c', place.register f c = .error (.failure e) c' →
      c'.registry.AnswersAs c.registry) ∧
    (∀ p c', place.register f c = .error (.panic p) c' ↔ c.settings.selfTestFactories = true ∧
      f.selfTest { c with registry := place.enter f c.registry } = .error (.panic p) c') ∧
    ∀ p c', place.register f c = .error (.panic p) c' →
      place.Resolves f c.registry c'.registry ∧
      (c'.registry.AnswersAs c.registry ↔ place.Answers f c.registry) := by
  refine ⟨fun e c' h => ?_, fun e c' h => Place.answersAs_of_registerBy f.create_keeps_registry h,
    fun p c' => Place.registerBy_eq_panic_iff, fun p c' h => ?_⟩
  · have hafter := Place.after_register place f hpool
    rw [h] at hafter
    exact hafter
  · have hregistry := Place.registry_of_trial f.create_keeps_registry place c
    rw [(Place.registerBy_eq_panic_iff.1 h).2] at hregistry
    have hresolves : place.Resolves f c.registry c'.registry := by
      rw [show c'.registry = _ from hregistry]
      exact Place.resolves_enter place f c.registry
    exact ⟨hresolves, hresolves.answersAs_iff⟩

namespace Lamp

def broken : Factory host where
  type := .bool
  primary := .halt (.panic (.ofText "broken"))
  secondary := .done (some (.bool false))
  random := .done (some (.bool true))

def interrupted : Context host :=
  after (Place.type.register broken context)

theorem register_broken :
    Place.type.register broken context = .error (.panic (.ofText "broken")) interrupted := rfl

end Lamp

/-- The registration of a broken factory of switches leaves the depth and the drafts. -/
theorem register_interrupted_broken :
    (Lamp.context.pool.Lends fun _ => 0) ∧
    Place.type.register Lamp.broken Lamp.context =
      .error (.panic (.ofText "broken")) Lamp.interrupted ∧
    (Lamp.interrupted.depth = 0 ∧ Lamp.interrupted.pool.Lends fun _ => 0) ∧
    Place.type.Resolves Lamp.broken Lamp.context.registry Lamp.interrupted.registry := by
  have hpool : Lamp.context.pool.Lends fun _ => 0 := .empty
  obtain ⟨hkept, -, -, hpanic⟩ := register_interrupted .type Lamp.broken Lamp.context hpool
  exact ⟨hpool, Lamp.register_broken, (hkept _ _ Lamp.register_broken).2,
    (hpanic _ _ Lamp.register_broken).1⟩

/-- After the panic no switch can be created any more, though before it one could. -/
theorem not_answersAs_of_interrupted :
    (∃ v c', Run.createOf .bool .primary Lamp.context = .ok v c') ∧
    Place.type.register Lamp.broken Lamp.context =
      .error (.panic (.ofText "broken")) Lamp.interrupted ∧
    (∃ c', Run.createOf .bool .primary Lamp.interrupted = .error (.panic (.ofText "broken")) c') ∧
    ¬Lamp.interrupted.registry.AnswersAs Lamp.context.registry := by
  refine ⟨⟨_, _, rfl⟩, rfl, ⟨_, rfl⟩, fun h => ?_⟩
  -- The factory of the catalog hands out a switch where the broken one panics.
  have hget := h.type .bool
  have hsource := congrArg (Option.map (·.primary)) hget
  cases hsource

end BeanContract
