/-
The contexts of a run.

A run starts in a new context and registers the factories its description brings along; from
then on it draws values and calls the host's code.  `Verifier.Reaches` collects the contexts
that it can be in between two creations, whatever is drawn and whatever the host's code does
to the world.  Where the factories of the description pass their trials in these contexts,
the preparation of a run succeeds (`ends_prepare`).
-/
import BeanContract.Proofs.Context.Registration

namespace BeanContract

open Effect (Ends)

variable {H : Host} {α : Type}

/-- The registry with factories for properties of an owner, added in order. -/
def Registry.withProperties (r : Registry H) (owner : ValueType)
    (factories : List (String × Factory H)) : Registry H :=
  factories.foldl (fun r e => r.registerProperty owner e.1 e.2) r

namespace Verifier

def prepared (v : Verifier H) (d : Description H) : Registry H :=
  let r := v.registry.withProperties d.type d.factories
  if r.contains d.type then r else r.registerBean d

/-- The contexts that runs on a description can be in between two creations. -/
inductive Reaches (v : Verifier H) (d : Description H) : Context H → Prop where
  | start (chance : UInt64) (w : H.World) :
      Reaches v d (.start v.settings v.registry chance w)
  /-- Random numbers may come from any engine. -/
  | engine {c : Context H} (e : Random.Engine) : Reaches v d c →
      Reaches v d { c with engine := e }
  /-- The host's code may do anything to the world. -/
  | world {c : Context H} (w : H.World) : Reaches v d c → Reaches v d { c with world := w }
  | create {c c' : Context H} {owner t : ValueType} {n : String} {f : Factory H}
      {channel : Channel} {u : Value H} : Reaches v d c →
      c.registry.forProperty owner n t = .ok f → Run.create f channel c = .ok u c' →
      Reaches v d c'
  | factory {c : Context H} {before after : List (String × Factory H)} {n : String}
      {f : Factory H} : Reaches v d c → before ++ (n, f) :: after = d.factories →
      c.registry = v.registry.withProperties d.type before →
      Reaches v d { c with registry := c.registry.registerProperty d.type n f }
  | bean {c : Context H} : Reaches v d c →
      c.registry = v.registry.withProperties d.type d.factories →
      Reaches v d { c with registry := v.prepared d }

/-- Every factory that the description brings along passes its trial when it is registered,
if there are trials. -/
def PassesTrials (v : Verifier H) (d : Description H) : Prop :=
  v.settings.selfTestFactories = true →
    ∀ before n f after, before ++ (n, f) :: after = d.factories →
      ∀ c, v.Reaches d c →
        c.registry = v.registry.withProperties d.type (before ++ [(n, f)]) →
        ∃ c', f.selfTest c = .ok () c'

variable {v : Verifier H} {d : Description H} {c c' : Context H}

/-- A run keeps its settings, and has left every creation that it entered. -/
theorem Reaches.setup (h : v.Reaches d c) : c.settings = v.settings ∧ c.depth = 0 := by
  induction h with
  | start chance w => exact ⟨rfl, rfl⟩
  | engine e _ ih => exact ih
  | world w _ ih => exact ih
  | create _ _ hcreate ih =>
    have hkept := (Run.create_keeps _ _).of_ok hcreate
    have hsettings := congrArg (·.1) hkept
    have hdepth := congrArg (·.2.2.2) hkept
    exact ⟨hsettings.trans ih.1, hdepth.trans ih.2⟩
  | factory _ _ _ ih => exact ih
  | bean _ _ ih => exact ih

/-! ## Trials -/

/-- A trial only creates values with the factory that is tried out. -/
theorem Reaches.selfTest {owner t : ValueType} {n : String} {f : Factory H}
    (hc : v.Reaches d c) (hf : c.registry.forProperty owner n t = .ok f)
    (h : f.selfTest c = .ok () c') : v.Reaches d c' ∧ c'.registry = c.registry := by
  have hcreate : ∀ {channel u c₁ c₂}, v.Reaches d c₁ ∧ c₁.registry = c.registry →
      Run.create f channel c₁ = .ok u c₂ → v.Reaches d c₂ ∧ c₂.registry = c.registry := by
    intro channel u c₁ c₂ h₁ hu
    have hregistry : c₂.registry = c₁.registry :=
      congrArg (·.2.1) ((Run.create_keeps f channel).of_ok hu)
    exact ⟨h₁.1.create (by rw [h₁.2, hf]) hu, hregistry.trans h₁.2⟩
  obtain ⟨_, _, _, c₁, c₂, hprimary, hsecondary, hrandom, -⟩ := Factory.selfTest_eq_ok.1 h
  exact hcreate (hcreate (hcreate ⟨hc, rfl⟩ hprimary) hsecondary) hrandom

/-! ## Preparation -/

theorem ends_registerPropertyFactory (htrials : v.PassesTrials d)
    {before after : List (String × Factory H)} {n : String} {f : Factory H}
    (hsplit : before ++ (n, f) :: after = d.factories) (hc : v.Reaches d c)
    (hregistry : c.registry = v.registry.withProperties d.type before) :
    Ends (Run.registerPropertyFactory d.type n f) c fun _ c' => v.Reaches d c' ∧
      c'.registry = v.registry.withProperties d.type (before ++ [(n, f)]) := by
  have hreach := hc.factory hsplit hregistry
  have hnew : c.registry.registerProperty d.type n f =
      v.registry.withProperties d.type (before ++ [(n, f)]) := by
    rw [hregistry, Registry.withProperties, Registry.withProperties, List.foldl_append]
    rfl
  have hf : (c.registry.registerProperty d.type n f).forProperty d.type n f.type = .ok f := by
    rw [Registry.forProperty_registerProperty, if_pos rfl]
  show Ends ((Place.property d.type n).register f) c _
  cases hself : c.settings.selfTestFactories with
  | true =>
    have hsettings : v.settings.selfTestFactories = true := hc.setup.1 ▸ hself
    obtain ⟨c₂, hc₂⟩ := htrials hsettings before n f after hsplit _ hreach hnew
    have hafter := hreach.selfTest hf hc₂
    have hpassed := Factory.selfTest_eq_ok.1 hc₂
    exact ⟨(), c₂, (Place.registerBy_eq_ok_iff hself).2 hpassed, hafter.1, hafter.2.trans hnew⟩
  | false => exact ⟨(), _, Place.registerBy_of_untested hself, hreach, hnew⟩

theorem ends_registerFactories (htrials : v.PassesTrials d)
    {before after : List (String × Factory H)} (hsplit : before ++ after = d.factories)
    (hc : v.Reaches d c) (hregistry : c.registry = v.registry.withProperties d.type before) :
    Ends (Effect.each (fun (n, f) => Run.registerPropertyFactory d.type n f) after) c
      fun _ c' => v.Reaches d c' ∧
        c'.registry = v.registry.withProperties d.type d.factories := by
  induction after generalizing before c with
  | nil =>
    rw [List.append_nil] at hsplit
    exact .pure ⟨hc, hsplit ▸ hregistry⟩
  | cons entry after ih =>
    refine (ends_registerPropertyFactory htrials hsplit hc hregistry).bind fun _ c₁ h₁ => ?_
    refine ih ?_ h₁.1 h₁.2
    rw [List.append_assoc]
    exact hsplit

/-- The preparation of a run succeeds if all trials do. -/
theorem ends_prepare (htrials : v.PassesTrials d) (hc : v.Reaches d c)
    (hregistry : c.registry = v.registry) :
    Ends (prepare d) c fun _ c' => v.Reaches d c' ∧ c'.registry = v.prepared d := by
  have hsplit : [] ++ d.factories = d.factories := List.nil_append _
  refine (ends_registerFactories htrials hsplit hc hregistry).bind fun _ c₁ h₁ => ?_
  have hbean := h₁.1.bean h₁.2
  have hmodified : (if c₁.registry.contains d.type then c₁
      else { c₁ with registry := c₁.registry.registerBean d }) =
        { c₁ with registry := v.prepared d } := by
    unfold prepared
    rw [← h₁.2]
    by_cases hcontains : c₁.registry.contains d.type = true
    · simp [hcontains]
    · simp [hcontains]
  refine Ends.modify ?_
  rw [hmodified]
  exact ⟨hbean, rfl⟩

end Verifier
end BeanContract
