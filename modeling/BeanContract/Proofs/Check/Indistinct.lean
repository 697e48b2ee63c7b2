/-
Verifications of descriptions that nothing tells apart.

A run registers the factories that a description brings along and the description itself, learns
the responses to absence, and checks a draft of what it has learned.  Runs on two descriptions that
nothing tells apart go in step through each phase: their contexts come to differ in the blueprint
that each has registered, and stay indistinct.  What inference has learned of both is for the
caller to relate (`Check.InfersAlike`).  The two verifications then have the same outcome, and
leave the same world (`Verifier.agree_verify`).
-/
import BeanContract.Proofs.Check.Lockstep
import BeanContract.Proofs.Context.Indistinct

namespace BeanContract

open Effect (Agree Coupled InStep)

variable {H : Host} {α : Type} {E : Halt → Prop}

/-- The blueprints of the descriptions are not told apart.  The descriptions bring the same
factories along, which halt of themselves with errors in `E` only. -/
structure Description.Indistinct (E : Halt → Prop) (d d' : Description H) : Prop where
  blueprint : d.toBlueprint.Indistinct d'.toBlueprint
  factories : d'.factories = d.factories
  halts : ∀ entry ∈ d.factories, entry.2.HaltsIn E

theorem Registry.Indistinct.registerBean {r r' : Registry H} {d d' : Description H}
    (hE : ∀ f, E (.failure f)) (h : r.Indistinct E r') (hd : d.Indistinct E d') :
    (r.registerBean d).Indistinct E (r'.registerBean d') := by
  have htype : d'.type = d.type := hd.blueprint.shape.type
  unfold Registry.registerBean
  refine Registry.Indistinct.register ?_ (.ofBlueprint hE hd.blueprint)
  rw [hd.factories, htype]
  have hhalts := hd.halts
  generalize d.factories = entries at hhalts
  induction entries generalizing r r' with
  | nil => exact h
  | cons entry entries ih =>
    have hentry : entry.2.HaltsIn E := hhalts entry List.mem_cons_self
    exact ih (h.registerProperty (.refl hentry) _ _) fun e he =>
      hhalts e (List.mem_cons_of_mem entry he)

/-- Whatever is staged, inference learns the same of both blueprints up to what nothing tells
apart, or fails for both alike. -/
def Check.InfersAlike (E : Halt → Prop) (b b' : Blueprint H) : Prop :=
  ∀ d : Draft H, d.blueprint = b →
    Coupled (fun b₁ b₁' => b₁.Indistinct b₁' ∧ Check.validate b₁' = Check.validate b₁) E
      (Check.inferFrom d) (Check.inferFrom (d.recast b'))

structure Description.Alike (E : Halt → Prop) (d d' : Description H) : Prop where
  indistinct : d.Indistinct E d'
  infers : Check.InfersAlike E d.toBlueprint d'.toBlueprint

section

variable (hE : ∀ e : Halt, e.Textual H → E e)
include hE

/-! ## Registration -/

section

variable {f : Factory H} (hf : f.HaltsIn E)

omit hf in
theorem inStep_checkDrawn (f : Factory H) (channel : Channel) (v : Value H) :
    InStep (Context.Indistinct E) E (f.checkDrawn channel v) (f.checkDrawn channel v) := by
  unfold Factory.checkDrawn
  split
  · exact .throw (hE _ (Halt.textual_failure _))
  · split
    · exact .pure ()
    · exact .throw (hE _ (Halt.textual_failure _))

include hf

theorem inStep_selfTest :
    InStep (Context.Indistinct E) E f.selfTest f.selfTest := by
  have hcreate := Run.inStep_create hE (.refl hf)
  have hcheck := inStep_checkDrawn hE f
  refine (hcreate .primary).bind fun primary => ?_
  refine (hcreate .secondary).bind fun secondary => ?_
  refine (hcreate .random).bind fun random => ?_
  refine (hcheck .primary primary).bind fun _ => ?_
  refine (hcheck .secondary secondary).bind fun _ => ?_
  refine (hcheck .random random).bind fun _ => ?_
  split
  · have hshown := (Probe.shown_value_only primary).mono hE
    refine (Run.inStep_ofProbe (fun _ _ h => h.rest) (fun _ _ w h => h.withWorld w)
      hshown).bind fun _ => ?_
    exact .throw (hE _ (Halt.textual_failure _))
  · exact .pure ()

theorem inStep_tryOut {undo undo' : Registry H → Registry H}
    (hundo : ∀ r r', r.Indistinct E r' → (undo r).Indistinct E (undo' r')) :
    InStep (Context.Indistinct E) E (Run.tryOutBy Run.create f undo)
      (Run.tryOutBy Run.create f undo') := by
  refine .get fun c c' h => ?_
  rw [h.rest.settings]
  split
  · refine (inStep_selfTest hE hf).caught.bind fun r => ?_
    cases r with
    | ok _ => exact .pure ()
    | error e =>
      refine InStep.bind (.modify fun c c' h => ?_) fun _ => .throw (hE _ (Halt.textual_failure e))
      exact h.withRegistry (hundo _ _ h.registry)
  · exact .pure ()

theorem inStep_registerPropertyFactory (owner : ValueType) (n : String) :
    InStep (Context.Indistinct E) E (Run.registerPropertyFactory owner n f)
      (Run.registerPropertyFactory owner n f) := by
  refine .get fun c c' h => ?_
  refine InStep.bind (.modify fun c c' h => ?_) fun _ => inStep_tryOut hE hf fun r r' hr => ?_
  · exact h.withRegistry (h.registry.registerProperty (.refl hf) owner n)
  · exact hr.putProperty (h.registry.byProperty (owner, n)) owner n

end

namespace Verifier

variable {d d' : Description H} {cs : List (Customisation H)}

theorem inStep_prepare (h : d.Indistinct E d') :
    InStep (Context.Indistinct E) E (prepare d) (prepare d') := by
  have htype : d'.type = d.type := h.blueprint.shape.type
  unfold prepare
  rw [h.factories, htype]
  refine InStep.bind (.each fun entry hentry => ?_) fun _ => .modify fun c c' hc => ?_
  · exact inStep_registerPropertyFactory hE (h.halts entry hentry) d.type entry.1
  · rw [hc.registry.contains]
    split
    · exact hc
    · exact hc.withRegistry (hc.registry.registerBean (fun f => hE _ (Halt.textual_failure f)) h)

/-! ## Inference -/

/-- What follows goes on with what inference has learned of each blueprint. -/
theorem inStep_infer_bind {b b' : Blueprint H} (hb : b.Indistinct b')
    (hinfer : Check.InfersAlike E b b') {k k' : Blueprint H → Run H α}
    (hk : ∀ b₁ b₁', b₁.Indistinct b₁' → Check.validate b₁' = Check.validate b₁ →
      InStep (Context.Indistinct E) E (k b₁) (k' b₁')) :
    InStep (Context.Indistinct E) E (Check.infer b >>= k) (Check.infer b' >>= k') := by
  intro c c' hc
  have L := lockstep_indistinct hE (fun f f' hf channel => Run.inStep_create hE hf channel) hb
  have hreset := L.reset (.ofBlueprint b, c) (.ofBlueprint b', c') ⟨rfl, rfl, hc⟩
  rcases hreset.cases with ⟨_, ⟨d, c₁⟩, ⟨_, c₁'⟩, hx, hy, hd, rfl, hc₁⟩ |
    ⟨e, ⟨d, c₁⟩, ⟨d', c₁'⟩, hx, hy, he, hs⟩
  · have hworld : c₁'.world = c₁.world := hc₁.rest.world
    rcases hinfer d hd c₁.world with ⟨b₁, b₁', w, hw, hw', hb₁, hvalidate⟩ | ⟨e, w, hw, hw', he⟩
    · have hleft : Check.infer b c = .ok b₁ { c₁ with world := w } := by
        simp only [Check.infer_eq_inferFrom, hx, Run.ofProbe, Effect.zoom, Effect.focus, hw]
      have hright : Check.infer b' c' = .ok b₁' { c₁' with world := w } := by
        simp only [Check.infer_eq_inferFrom, hy, Run.ofProbe, Effect.zoom, Effect.focus, hworld, hw']
      exact (hk b₁ b₁' hb₁ hvalidate _ _ (hc₁.withWorld w)).congr (Effect.bind_of_ok hleft k)
        (Effect.bind_of_ok hright k')
    · have hleft : Check.infer b c = .error e { c₁ with world := w } := by
        simp only [Check.infer_eq_inferFrom, hx, Run.ofProbe, Effect.zoom, Effect.focus, hw, id]
      have hright : Check.infer b' c' = .error e { c₁' with world := w } := by
        simp only [Check.infer_eq_inferFrom, hy, Run.ofProbe, Effect.zoom, Effect.focus, hworld, hw', id]
      exact .of_error (Effect.bind_of_error hleft k) (Effect.bind_of_error hright k')
        ⟨he, hc₁.withWorld w⟩
  · have hleft : Check.infer b c = .error e c₁ := by simp only [Check.infer_eq_inferFrom, hx]
    have hright : Check.infer b' c' = .error e c₁' := by simp only [Check.infer_eq_inferFrom, hy]
    exact .of_error (Effect.bind_of_error hleft k) (Effect.bind_of_error hright k') ⟨he, hs.2.2⟩

/-! ## Runs -/

theorem inStep_run
    (h : Paired (Description.Alike E) (d.customiseAll cs) (d'.customiseAll cs)) :
    InStep (Context.Indistinct E) E (run d cs) (run d' cs) := by
  unfold run
  rcases h with ⟨d₁, d₁', hd, hd', hd₁, hinfer⟩ | ⟨e, hd, hd'⟩
  · rw [hd, hd']
    refine (inStep_prepare hE hd₁).bind fun _ => ?_
    refine inStep_infer_bind hE hd₁.blueprint hinfer fun b b' hb hvalidate => ?_
    have L := lockstep_indistinct hE (fun f f' hf channel => Run.inStep_create hE hf channel) hb
    rw [hvalidate, hb.shape.name, hb.shape.testable]
    refine InStep.bind (.ofExcept fun e _ => hE _ (Halt.textual_failure e)) fun _ => ?_
    refine L.checks.bind fun counts => .get fun c c' hc => ?_
    have hrest : c'.seed = c.seed ∧ c'.structures = c.structures ∧ c'.maxDepth = c.maxDepth := by
      rw [hc.rest]
      exact ⟨rfl, rfl, rfl⟩
    rw [hrest.1, hrest.2.1, hrest.2.2]
    exact .pure _
  · rw [hd, hd']
    exact .throw (hE _ (Halt.textual_failure e))

/-- Verifications of descriptions that nothing tells apart, in a registry that halts of itself with
errors in `E` only, have the same outcome. -/
theorem agree_verify {v : Verifier H} (hv : v.registry.Indistinct E v.registry)
    (hlimit : v.settings.depthLimit? = none → E (.panic .overflow))
    (h : Paired (Description.Alike E) (d.customiseAll cs) (d'.customiseAll cs))
    (chance : UInt64) (w : H.World) :
    Agree (v.verify chance d cs) w (v.verify chance d' cs) w (fun _ w₁ w₁' => w₁' = w₁)
      fun e w₁ w₁' => (∃ e₀, E e₀ ∧ e = withSeed (v.settings.seed.getD chance) e₀) ∧ w₁' = w₁ := by
  have hstart : (Context.start v.settings v.registry chance w).Indistinct E
      (.start v.settings v.registry chance w) := ⟨rfl, hv, .empty, hlimit⟩
  have hrun := inStep_run hE h _ _ hstart
  rcases hrun.cases with ⟨s, c, c', hx, hy, hc⟩ | ⟨e, c, c', hx, hy, he, hc⟩
  · have hleft : v.verify chance d cs w = .ok s c.world := by simp only [verify, inContext, hx]
    have hright : v.verify chance d' cs w = .ok s c'.world := by simp only [verify, inContext, hy]
    exact .of_ok hleft hright hc.rest.world
  · have hleft : v.verify chance d cs w =
        .error (withSeed (v.settings.seed.getD chance) e) c.world := by
      simp only [verify, inContext, hx]
    have hright : v.verify chance d' cs w =
        .error (withSeed (v.settings.seed.getD chance) e) c'.world := by
      simp only [verify, inContext, hy]
    exact .of_error hleft hright ⟨⟨e, he, rfl⟩, hc.rest.world⟩

end Verifier

end

end BeanContract
