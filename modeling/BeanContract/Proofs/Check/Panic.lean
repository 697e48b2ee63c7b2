/-
Panics that escape a verification.

The host's constructors, builders and accessors are called with their panics caught, in every phase
of a run and in the creation of nested beans.  Of what the host provides only the text of a value
is asked for without that, when a message is put together.  So unless the code of a factory
panics, a verification ends with statistics or with a failure, or with the panic of a text, or, at
the largest structural depths, with that of the sum that gives the depth limit
(`Verifier.verify_answers`).  A text that panics while a failure is being reported does get through
(`Brittle.verify_panics`).
-/
import BeanContract.Proofs.Check.Expectation
import BeanContract.Proofs.Check.Indistinct

namespace BeanContract

variable {H : Host} {E : Halt → Prop}

/-- The halt may end a creation under the settings: a failure, the panic of a text, or that of a
depth limit that overflows. -/
def Halt.Escapes (H : Host) (settings : Settings) (h : Halt) : Prop :=
  h.Textual H ∨ settings.depthLimit? = none ∧ h = .panic .overflow

def Halt.Quiet (h : Halt) : Prop := ∃ f, h = .failure f

theorem Halt.Quiet.textual {h : Halt} (hq : h.Quiet) : h.Textual H := by
  obtain ⟨f, rfl⟩ := hq
  exact textual_failure f

/-! ## Supplied factories -/

namespace Description

variable {P : Factory H → Prop} {d d' : Description H}

/-- What the factories of a description and of its customisations have in common. -/
theorem factories_customise {c : Customisation H} (hd : ∀ entry ∈ d.factories, P entry.2)
    (hc : ∀ n f, c = .factory n f → P f) (h : d.customise c = .ok d') :
    ∀ entry ∈ d'.factories, P entry.2 := by
  rcases customise_eq_ok h with ⟨n, f, rfl, rfl⟩ | rfl
  · intro entry hentry
    rcases List.mem_append.1 hentry with hentry | hentry
    · exact hd entry (List.mem_filter.1 hentry).1
    · rw [List.mem_singleton.1 hentry]
      exact hc n f rfl
  · exact hd

theorem factories_customiseAll {cs : List (Customisation H)}
    (hd : ∀ entry ∈ d.factories, P entry.2) (hcs : ∀ n f, .factory n f ∈ cs → P f)
    (h : d.customiseAll cs = .ok d') : ∀ entry ∈ d'.factories, P entry.2 := by
  induction cs generalizing d with
  | nil =>
    cases h
    exact hd
  | cons c cs ih =>
    obtain ⟨d₁, hc, h⟩ := customiseAll_cons.1 h
    refine ih ?_ (fun n f hf => hcs n f (List.mem_cons_of_mem c hf)) h
    exact factories_customise hd (fun n f hf => hcs n f (hf ▸ List.mem_cons_self)) hc

end Description

namespace Registry.HaltsIn

variable {r : Registry H}

theorem empty : (Registry.empty : Registry H).HaltsIn E := by
  refine ⟨?_, ?_, ?_⟩
  · intro t f hf
    cases hf
  · intro key f hf
    cases hf
  · intro lookup hl
    cases hl

theorem register (h : r.HaltsIn E) {f : Factory H} (hf : f.HaltsIn E) :
    (r.register f).HaltsIn E := by
  refine ⟨fun t g hg => ?_, h.byProperty, h.lookups⟩
  unfold Registry.register at hg
  rw [Table.get?_insert] at hg
  split at hg
  · cases hg
    exact hf
  · exact h.byType t g hg

theorem registerAll {fs : List (Factory H)} (h : r.HaltsIn E) (hfs : ∀ f ∈ fs, f.HaltsIn E) :
    (fs.foldl Registry.register r).HaltsIn E := by
  induction fs generalizing r with
  | nil => exact h
  | cons f fs ih =>
    exact ih (h.register (hfs f List.mem_cons_self)) fun g hg =>
      hfs g (List.mem_cons_of_mem f hg)

end Registry.HaltsIn

namespace Catalog

theorem haltsIn_fixed (primary secondary : Datum H.Object) (t : ValueType) :
    (Factory.fixed primary secondary (random t)).HaltsIn E := by
  intro channel
  cases channel with
  | primary => trivial
  | secondary => trivial
  | random =>
    cases t with
    | bool => exact fun _ => trivial
    | char => exact fun _ => trivial
    | int k => exact fun _ => trivial
    | string => exact fun _ => trivial
    | list t => trivial
    | option t => trivial
    | unit => trivial
    | object path => trivial

theorem haltsIn_bools : (bools : Factory H).HaltsIn E :=
  (haltsIn_fixed (.bool true) (.bool false) .bool).asLowCardinality

/-- No factory of the catalog halts of itself. -/
theorem haltsIn_registry : (registry : Registry H).HaltsIn E := by
  refine Registry.HaltsIn.empty.registerAll fun f hf => ?_
  simp only [factories, List.mem_append, List.mem_cons, List.mem_map, List.not_mem_nil,
    or_false] at hf
  rcases hf with ((rfl | rfl) | ⟨k, -, rfl⟩) | rfl
  · exact haltsIn_bools
  · exact haltsIn_fixed _ _ _
  · exact haltsIn_fixed _ _ _
  · exact haltsIn_fixed _ _ _

end Catalog

/-! ## Verification -/

theorem Check.InfersAlike.refl (hE : ∀ e : Halt, e.Textual H → E e) (b : Blueprint H) :
    Check.InfersAlike E b b := by
  rintro d rfl
  refine (Effect.Coupled.of_only ((Check.inferFrom_only d).mono hE)).mono ?_
  rintro b₁ _ rfl
  exact ⟨.refl b₁, rfl⟩

namespace Verifier

/-- No panic of a constructor, a builder, a getter or a setter escapes, for any customised
description and registry of factories whose own code does not panic: a verification succeeds, or
fails, or the text of a value has panicked, or the structural depth is so large that the sum that
gives the depth limit has. -/
theorem verify_answers {v : Verifier H} (hv : v.registry.HaltsIn Halt.Quiet) {d : Description H}
    (hd : ∀ entry ∈ d.factories, entry.2.HaltsIn Halt.Quiet) {cs : List (Customisation H)}
    (hcs : ∀ n f, .factory n f ∈ cs → f.HaltsIn Halt.Quiet) (chance : UInt64) (w : H.World) :
    (∃ statistics w', v.verify chance d cs w = .ok statistics w') ∨
    (∃ f w', v.verify chance d cs w = .error (.failure f) w') ∨
    (∃ p w', v.verify chance d cs w = .error (.panic p) w' ∧
      ∃ x : Value H, x.show? = .error p) ∨
    (2 ^ 64 ≤ v.settings.structuralDepth.toNat + 8 ∧
      ∃ w', v.verify chance d cs w = .error (.panic .overflow) w') := by
  have hquiet : ∀ e : Halt, e.Quiet → e.Escapes H v.settings := fun e he => .inl he.textual
  have hregistry : v.registry.HaltsIn (Halt.Escapes H v.settings) := hv.mono hquiet
  have hcustomised : Paired (Description.Alike (Halt.Escapes H v.settings)) (d.customiseAll cs)
      (d.customiseAll cs) := by
    cases h : d.customiseAll cs with
    | error e => exact .inr ⟨e, rfl, rfl⟩
    | ok d₁ =>
      refine .inl ⟨d₁, d₁, rfl, rfl, ⟨.refl _, rfl, fun entry hentry => ?_⟩, ?_⟩
      · exact (Description.factories_customiseAll hd hcs h entry hentry).mono hquiet
      · exact .refl (fun _ => .inl) _
  have hagree := agree_verify (fun _ => .inl) (.of_haltsIn hregistry) (fun h => .inr ⟨h, rfl⟩)
    hcustomised chance w
  rcases hagree.cases with ⟨statistics, w', -, hw, -⟩ | ⟨_, w', -, hw, -, ⟨e, he, rfl⟩, -⟩
  · exact .inl ⟨statistics, w', hw⟩
  · cases e with
    | failure f => exact .inr (.inl ⟨_, w', hw⟩)
    | panic p =>
      rcases he with he | ⟨hlimit, hp⟩
      · exact .inr (.inr (.inl ⟨p, w', hw, he p rfl⟩))
      · cases hp
        exact .inr (.inr (.inr ⟨Settings.depthLimit?_eq_none.1 hlimit, w', hw⟩))

def ofLamps : Verifier Lamp.host := standard

/-- Lamps that cannot be built, since the constructor panics, and neither can their builder be
shown. -/
def brokenLamps : Description Lamp.host :=
  { lamps with
    construct := fun _ => throw (.panic (.ofText "broken"))
    builderText := some fun _ => throw (.panic (.ofText "broken")) }

def ownSwitch : List (Customisation Lamp.host) := [.factory "on" Catalog.bools]

theorem haltsIn_ofLamps : ofLamps.registry.HaltsIn E := Catalog.haltsIn_registry

theorem haltsIn_ownSwitch {n : String} {f : Factory Lamp.host}
    (h : .factory n f ∈ ownSwitch) : f.HaltsIn E := by
  simp only [ownSwitch, List.mem_singleton, Customisation.factory.injEq] at h
  rw [h.2]
  exact Catalog.haltsIn_bools

theorem verify_answers_lamps :
    ofLamps.registry.HaltsIn Halt.Quiet ∧
    (∀ entry ∈ brokenLamps.factories, entry.2.HaltsIn Halt.Quiet) ∧
    (∀ n f, .factory n f ∈ ownSwitch → f.HaltsIn Halt.Quiet) ∧ ∀ chance,
      (∃ statistics w', ofLamps.verify chance brokenLamps ownSwitch () = .ok statistics w') ∨
      (∃ f w', ofLamps.verify chance brokenLamps ownSwitch () = .error (.failure f) w') ∨
      (∃ p w', ofLamps.verify chance brokenLamps ownSwitch () = .error (.panic p) w' ∧
        ∃ x : Value Lamp.host, x.show? = .error p) ∨
      (2 ^ 64 ≤ ofLamps.settings.structuralDepth.toNat + 8 ∧
        ∃ w', ofLamps.verify chance brokenLamps ownSwitch () = .error (.panic .overflow) w') := by
  have hown : ∀ entry ∈ brokenLamps.factories, entry.2.HaltsIn Halt.Quiet :=
    fun entry h => absurd h List.not_mem_nil
  exact ⟨haltsIn_ofLamps, hown, fun n f hf => haltsIn_ownSwitch hf, fun chance =>
    verify_answers haltsIn_ofLamps hown (fun n f hf => haltsIn_ownSwitch hf) chance ()⟩

end Verifier

/-! ## A text that panics -/

namespace Brittle

def host : Host where
  Object := Unit
  World := Unit
  same _ _ := true
  digest _ := []
  show? _ := .error (.ofText "no text")

def part : Description host where
  name := "Part"
  path := "Part"
  creator := .empty
  bean := .empty
  construct := fun _ => pure ()
  builderText := none
  factories := []

/-- What is made of a part is rejected, whatever the part. -/
def whole : Description host where
  name := "Whole"
  path := "Whole"
  creator := ⟨[{ name := "part", type := .object "Part" }]⟩
  bean := .empty
  construct := fun _ => throw (.error (.rejected "no"))
  builderText := none
  factories := []

def verifier : Verifier host := ⟨.standard, Registry.empty.registerBean part⟩

/-- The rejection is not reported, since the text of the part panics in the message. -/
theorem verify_panics : verifier.registry.HaltsIn Halt.Quiet ∧
    (∀ entry ∈ whole.factories, entry.2.HaltsIn Halt.Quiet) ∧
    ∃ w', verifier.verify 1 whole [] () = .error (.panic (.ofText "no text")) w' := by
  refine ⟨?_, fun entry h => absurd h List.not_mem_nil, Effect.error?_eq_some.1 ?_⟩
  · refine Registry.HaltsIn.empty.register (f := .ofBlueprint part.toBlueprint) ?_
    exact (Factory.Indistinct.ofBlueprint (fun f => ⟨f, rfl⟩) (.refl part.toBlueprint)).1
  · decide +kernel

end Brittle
end BeanContract
