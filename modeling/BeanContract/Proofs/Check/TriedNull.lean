/-
Where null is tried.

Round trips stage null for a property that does not take null if the bean is known not to fail
without a value.  What is known was observed on another bean than the one that is then built:
one that was constructed without the parameter, or one that got all its values through setters
(`builds_of_triesNull`).  Where the constructor tells null from nothing, or where a setter
depends on those before it, the bean with null may fail for a null that nobody asked for.
-/
import BeanContract.Proofs.Check.Absence
import BeanContract.Check.RoundTrip

namespace BeanContract
namespace Check

variable {H : Host} {d s : Draft H} {p : String}

/-- What is made of a failure is known as a failure. -/
theorem not_fails_of_resolve {f g : Finding H} {o : Observation H} {r : Response}
    (hf : f.resolve o = some g) (hr : g.response = some r) (hne : r ≠ .error) :
    o.response ≠ .error := by
  obtain ⟨r', hr', haccepts, -⟩ := Finding.resolve_eq_some hf
  obtain rfl : r = r' := Option.some.inj (hr.symm.trans hr')
  intro ho
  rw [ho] at haccepts
  cases r <;> simp [Response.accepts] at haccepts hne

theorem builds_of_observes {o : Observation H} (h : d.Observes p o) (ho : o.response ≠ .error) :
    ∃ bean, d.Builds bean := by
  cases h with
  | fails e he => exact absurd rfl ho
  | hidden bean hbean _ => exact ⟨bean, hbean⟩
  | refused bean _ hbean _ _ => exact ⟨bean, hbean⟩
  | null bean hbean _ _ => exact ⟨bean, hbean⟩
  | value bean _ hbean _ _ => exact ⟨bean, hbean⟩

theorem response_of_triesNull (hnullable : s.blueprint.isNullable p = false)
    (h : triesNull s p = true) : ∃ r, s.nullResponse p = some r ∧ r ≠ .error := by
  unfold triesNull at h
  rw [hnullable, Bool.false_or] at h
  cases hr : s.nullResponse p with
  | none => simp [hr] at h
  | some r => exact ⟨r, rfl, by simpa [hr] using h⟩

/-- Where null is tried for a property that is not flagged nullable, the bean does not fail
without a value for it: built without the parameter, or with null passed to the setter after
all other values were.

The bean of the primary values with null builds as well if null is to the constructor what no
argument is, for a parameter; and for any other property if no parameter has a setter. -/
theorem builds_of_triesNull {b b' : Blueprint H} {c c₀ c₁ c₂ c₃ : Context H}
    (hb : b.Stateless) (hwf : b.WellFormed)
    (hd : Stage.reset Run.create (.ofBlueprint b, c) = .ok () (d, c₀))
    (hinfer : infer b c = .ok b' c₁)
    (hs : Stage.reset Run.create (.ofBlueprint b', c₂) = .ok () (s, c₃))
    (hprimary : ∀ n, s.expected.get? n = d.expected.get? n)
    (hp : p ∈ b'.testable) (hnullable : b'.isNullable p = false) (htries : triesNull s p = true) :
    (b.isParameter p = true → ∃ bean, ((d.prefer .creator).leaveOut p).Builds bean) ∧
    (b.isParameter p = false → ∃ bean, ((d.prefer .setters).put p none).Builds bean) ∧
    ((b.isParameter p = true → ∀ args : Args H, args.get? p = some none →
        b.construct args = b.construct (args.erase p)) →
      (b.isParameter p = false → ∀ q ∈ b.bean.properties, q.isWritable = true →
        b.isParameter q.name = false) →
      ∃ bean, (s.put p none).Builds bean) := by
  obtain ⟨d', c', hd', hcode, hcreator, hbean⟩ := infer_eq_ok hb hinfer
  obtain ⟨rfl, -⟩ : d' = d ∧ c' = c₀ := by simpa [hd] using hd'.symm
  have hss := (Stage.reset_eq_ok hs).2
  have hdb : d'.blueprint = b := by
    rw [(Stage.reset_eq_ok hd).2]
    rfl
  have hsb : s.blueprint = b' := by
    rw [hss]
    rfl
  have hpreference : s.preference = .creator := by
    rw [hss]
    rfl
  have htestable : b.isTestable p = true := by
    rw [← hcode.isTestable]
    exact Blueprint.isTestable_of_mem hp
  subst hdb hsb
  obtain ⟨r, hr, hne⟩ := response_of_triesNull hnullable htries
  obtain ⟨o, f, hf, hobserved⟩ := known_of_learned hpreference hwf hcreator hbean htestable
  have ho : o.response ≠ .error := not_fails_of_resolve hf hr hne
  rcases hobserved with ⟨hparameter, hobserves⟩ | ⟨hparameter, hobserves⟩
  · obtain ⟨bean, hbuilds⟩ := builds_of_observes hobserves ho
    refine ⟨fun _ => ⟨bean, hbuilds⟩, fun h => absurd (hparameter.symm.trans h) nofun,
      fun hnull _ => ⟨bean, fun w => ?_⟩⟩
    rw [tryNewBean_leaveOut hcode hprimary hpreference (hnull hparameter) hparameter]
    exact hbuilds w
  · obtain ⟨bean, hbuilds⟩ := builds_of_observes hobserves ho
    refine ⟨fun h => absurd (h.symm.trans hparameter) nofun, fun _ => ⟨bean, hbuilds⟩,
      fun _ hone => ⟨bean, fun w => ?_⟩⟩
    rw [tryNewBean_setToNull hcode hprimary hpreference p (hone hparameter)]
    exact hbuilds w

/-- The first switch of a lamp is tried with null, and lamps are built with it. -/
theorem builds_of_triesNull_lamp :
    Lamp.blueprint.Stateless ∧ Lamp.blueprint.WellFormed ∧ ∃ d c₀ b' c₁ s c₃,
      Stage.reset Run.create (.ofBlueprint Lamp.blueprint, Lamp.context) = .ok () (d, c₀) ∧
      infer Lamp.blueprint Lamp.context = .ok b' c₁ ∧
      Stage.reset Run.create (.ofBlueprint b', c₁) = .ok () (s, c₃) ∧
      (∀ n, s.expected.get? n = d.expected.get? n) ∧ "on" ∈ b'.testable ∧
      b'.isNullable "on" = false ∧ triesNull s "on" = true ∧
      ∃ bean, (s.put "on" none).Builds bean := by
  obtain ⟨d, c₀, b', c₁, s, c₃, hd, hinfer, hs, hprimary, hp, hnullable, htries⟩ :
      ∃ d c₀ b' c₁ s c₃,
        Stage.reset Run.create (.ofBlueprint Lamp.blueprint, Lamp.context) = .ok () (d, c₀) ∧
        infer Lamp.blueprint Lamp.context = .ok b' c₁ ∧
        Stage.reset Run.create (.ofBlueprint b', c₁) = .ok () (s, c₃) ∧
        (∀ n, s.expected.get? n = d.expected.get? n) ∧ "on" ∈ b'.testable ∧
        b'.isNullable "on" = false ∧ triesNull s "on" = true :=
    ⟨_, _, _, _, _, _, rfl, rfl, rfl, fun _ => rfl, by decide, by decide, by decide⟩
  obtain ⟨-, -, hbuilds⟩ := builds_of_triesNull Lamp.stateless Lamp.wellFormed hd hinfer hs
    hprimary hp hnullable htries
  exact ⟨Lamp.stateless, Lamp.wellFormed, d, c₀, b', c₁, s, c₃, hd, hinfer, hs, hprimary, hp,
    hnullable, htries, hbuilds (fun _ args hargs => Lamp.construct_erase args "on" hargs)
      (fun h => absurd h (by decide))⟩

/-- A switch may be left out, but not null. -/
def demand : Option (Value Lamp.host) → Adapter Lamp.host Lamp.host.Object
  | some none => throw (.error (.rejected "null"))
  | v => pure (Lamp.toSwitch (v.getD none), none)

def fussyLamp : Blueprint Lamp.host :=
  { Lamp.blueprint with
    bean := ⟨[{ name := "on", type := .bool, getter := some fun o => pure (Lamp.ofSwitch o.1) }]⟩
    construct := fun args => demand (args.get? "on") }

theorem fussyLamp_stateless : fussyLamp.Stateless where
  construct args := by
    show Effect.Stateless (demand (args.get? "on"))
    unfold demand
    split
    · exact .throw _
    · exact .pure _
  builderText _ h := by cases h
  getter p hp get hg o := by
    cases List.mem_singleton.1 hp
    cases hg
    exact .pure _
  setter p hp set hset o v := by
    cases List.mem_singleton.1 hp
    cases hset

theorem fussyLamp_wellFormed : fussyLamp.WellFormed where
  creator := by decide
  bean := by decide
  agree n p q hp hq := by
    obtain ⟨hp', rfl⟩ := Model.mem_of_get? hp
    obtain ⟨hq', -⟩ := Model.mem_of_get? hq
    obtain rfl : p = { name := "on", type := .bool } := by
      simpa [fussyLamp, Lamp.blueprint] using hp'
    cases List.mem_singleton.1 hq'
    exact ⟨rfl, rfl⟩

/-- A fussy lamp can be built without its switch.  So it is tried with null, and round trips
report that it cannot be built. -/
theorem fussyLamp_tried :
    fussyLamp.Stateless ∧ fussyLamp.WellFormed ∧ ∃ b' c₁ s c₃,
      infer fussyLamp Lamp.context = .ok b' c₁ ∧ validate b' = .ok () ∧
      Stage.reset Run.create (.ofBlueprint b', c₁) = .ok () (s, c₃) ∧ "on" ∈ b'.testable ∧
      b'.isNullable "on" = false ∧ triesNull s "on" = true ∧
      (∀ bean, ¬(s.put "on" none).Builds bean) ∧
      ∃ s', roundTrips (.ofBlueprint b', c₁) = .error (.violationBecause
        (.construction "Lamp" "\x7bon=null\x7d") (.rejected "null")) s' := by
  refine ⟨fussyLamp_stateless, fussyLamp_wellFormed, _, _, _, _, rfl, by decide, rfl, by decide,
    by decide, by decide, fun bean h => ?_, _, by rfl⟩
  cases h ()

end Check
end BeanContract
