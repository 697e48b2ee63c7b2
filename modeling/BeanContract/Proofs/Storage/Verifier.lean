/-
No false alarms.

Verification of beans that store their properties succeeds, for every setting of the verifier
and whatever is drawn, if the factories of the properties never fail (`verify_ok_of_storesIn`).
A run learns how the beans respond to absence before it checks anything; what it learned
tolerates null, so the checks of round trips and of equality both succeed.
-/
import BeanContract.Proofs.Context.Recursion
import BeanContract.Proofs.Context.Reach
import BeanContract.Proofs.Storage.Absence
import BeanContract.Proofs.Storage.Equality

namespace BeanContract

open Effect (Ends)

variable {H : Host} {v : Verifier H} {d : Description H} {S : Storage H}
  {G : Datum H.Object → Prop}

namespace Verifier

/-- Every property that gets a value has a factory, which never fails during a run and gives
fitting values. -/
def Supplies (v : Verifier H) (d : Description H) (G : Datum H.Object → Prop) : Prop :=
  ∀ n ∈ d.staged, ∃ p f, d.property? n = some p ∧
    (v.prepared d).forProperty d.type n p.type = .ok f ∧
    ∀ c channel, v.Reaches d c → c.registry = v.prepared d →
      ∃ u c', Run.create f channel c = .ok u c' ∧ Fits G p.type u

/-- The contexts of a run supply the blueprint once the run is prepared. -/
theorem supplied_of_supplies (h : v.Supplies d G) :
    Supplied d.toBlueprint G fun c => v.Reaches d c ∧ c.registry = v.prepared d where
  world c w hc := ⟨hc.1.world w, hc.2⟩
  engine c e hc := ⟨hc.1.engine e, hc.2⟩
  factory n hn := by
    obtain ⟨p, f, hp, hf, hcreate⟩ := h n hn
    refine ⟨p, f, hp, fun c hc => by rw [hc.2]; exact hf, fun c channel hc => ?_⟩
    obtain ⟨u, c', hu, hfits⟩ := hcreate c channel hc.1 hc.2
    have hregistry : c'.registry = c.registry :=
      congrArg (·.2.1) ((Run.create_keeps f channel).of_ok hu)
    have hfactory : c.registry.forProperty d.type n p.type = .ok f := by
      rw [hc.2]
      exact hf
    exact ⟨u, c', hu, ⟨hc.1.create hfactory hu, hregistry.trans hc.2⟩, hfits⟩

section

variable {b : Blueprint H} {I : Context H → Prop}

/-- Both families of checks succeed. -/
theorem ends_checks (hI : Supplied b G I) (hwf : b.WellFormed) (hst : b.StoresIn S G)
    (hG : Lawful H G) (htol : b.Tolerates) {c : Context H} (hc : I c) :
    Ends (checks b) c fun _ _ => True := by
  have hboth : Ends (do
      let roundTrips ← Check.roundTrips
      let comparisons ← Check.equality
      pure (roundTrips, comparisons) : Stage H (Nat × Nat)) (.ofBlueprint b, c)
      fun _ _ => True := by
    have hproper := Draft.proper_ofBlueprint b G
    refine (Check.ends_roundTrips hI hwf hst hG htol hproper hc).bind fun k s hs => ?_
    refine (Check.ends_equality hwf hst hG hI hs).bind fun m t _ => .pure trivial
  obtain ⟨n, ⟨d, c'⟩, hrun, -⟩ := hboth
  refine ⟨n, c', ?_, trivial⟩
  unfold checks
  dsimp only
  rw [hrun]

end

/-- A run on a description of beans that store their properties succeeds from every context
in which it can start. -/
theorem ends_run {d' : Description H} {cs : List (Customisation H)}
    (hcustom : d.customiseAll cs = .ok d') (hwf : d'.WellFormed)
    (hst : d'.StoresIn S G) (hundeclared : d'.Undeclared) (hG : Lawful H G)
    (htrials : v.PassesTrials d') (hsupplies : v.Supplies d' G) {c : Context H}
    (hc : v.Reaches d' c) (hregistry : c.registry = v.registry) :
    Ends (run d cs) c fun _ _ => True := by
  have hI := supplied_of_supplies hsupplies
  refine (Ends.ofExcept (Q := fun e c' => e = d' ∧ c' = c) hcustom ⟨rfl, rfl⟩).bind ?_
  intro e c₁ h₁
  obtain ⟨rfl, rfl⟩ := h₁
  refine (ends_prepare htrials hc hregistry).bind fun _ c₂ h₂ => ?_
  refine (Check.ends_infer hwf hst hI hundeclared h₂).bind fun b c₃ h₃ => ?_
  obtain ⟨hc₃, hcode, htol, hvalid⟩ := h₃
  refine (Ends.ofExcept (Q := fun _ c' => c' = c₃) hvalid rfl).bind fun _ c₄ h₄ => ?_
  obtain rfl := h₄
  -- The checks run on the inferred blueprint, which stores its properties like the first one.
  have hchecks := ends_checks (hcode.supplied hI) (hcode.wellFormed hwf) (hcode.storesIn hst)
    hG htol hc₃
  refine hchecks.bind fun n c₅ _ => ?_
  exact Ends.bind (Q := fun _ _ => True) ⟨c₅, c₅, rfl, trivial⟩ fun _ _ _ => .pure trivial

end Verifier

/-! ## Lamps -/

namespace Lamp

def description : Description host := { blueprint with factories := [("on", Catalog.bools)] }

def dimmable : Description host :=
  { description with
    bean := ⟨[
      { name := "on", type := .bool, getter := some fun o => pure (ofSwitch o.1) },
      { name := "dim", type := .bool, flags := { nullable := true },
        getter := some fun o => pure (ofSwitch o.2),
        setter := some fun o v => pure (o.1, toSwitch v) }]⟩ }

def IsBool (x : Datum host.Object) : Prop := ∃ b, x = .bool b

def storage : Storage host where
  Bean _ := True
  slot o n := if n = "on" then ofSwitch o.1 else if n = "dim" then ofSwitch o.2 else none
  initial _ := none

theorem ofSwitch_toSwitch {v : Value host} (hv : Fits IsBool .bool v) :
    ofSwitch (toSwitch v) = v := by
  cases v with
  | none => rfl
  | some x =>
    obtain ⟨b, rfl⟩ := (hv x rfl).1
    rfl

theorem same_iff (o o' : Option Bool × Option Bool) :
    host.same o o' = true ↔ o.1 = o'.1 ∧ o.2 = o'.2 := by
  show decide (o = o') = true ↔ _
  rw [decide_eq_true_iff, Prod.ext_iff]

theorem same_ofSwitch (a b : Option Bool) :
    Value.same (ofSwitch a) (ofSwitch b) = true ↔ a = b := by
  rcases a with _ | _ | _ <;> rcases b with _ | _ | _ <;> decide

theorem eq_of_agrees (a b : Option Bool)
    (h : (ofSwitch a).hashCode.agrees (ofSwitch b).hashCode = true) : a = b := by
  rcases a with _ | _ | _ <;> rcases b with _ | _ | _ <;> first | rfl | cases h

theorem isCompared_iff (n : String) : dimmable.isCompared n = true ↔ n = "on" ∨ n = "dim" := by
  by_cases hon : n = "on"
  · subst hon
    decide
  · by_cases hdim : n = "dim"
    · subst hdim
      decide
    · have hnone : dimmable.property? n = none := by
        simp [Blueprint.property?, Model.get?, dimmable, description, blueprint, Ne.symm hon,
          Ne.symm hdim]
      simp [Blueprint.isCompared, hnone, hon, hdim]

theorem storesIn : dimmable.StoresIn storage IsBool where
  initial n p _ := fits_none
  construct args w ha := by
    refine ⟨_, w, rfl, trivial, fun n => ?_⟩
    by_cases hon : n = "on"
    · subst hon
      have hfits : Fits IsBool .bool ((args.get? "on").getD none) := by
        cases hv : args.get? "on" with
        | none => exact fits_none
        | some v =>
          obtain ⟨p, hp, hfits⟩ := ha "on" v hv
          cases hp
          exact hfits
      exact ofSwitch_toSwitch hfits
    · have hparameter : dimmable.isParameter n = false := by
        simp [Blueprint.isParameter, Model.contains, Model.get?, dimmable, description,
          blueprint, Ne.symm hon]
      rw [hparameter]
      show (if n = "on" then _ else if n = "dim" then ofSwitch none else none) = none
      rw [if_neg hon]
      split
      · rfl
      · rfl
  set p hp set hset o v w _ hv := by
    obtain rfl | rfl : p = _ ∨ p = _ := by simpa [dimmable] using hp
    · cases hset
    · cases hset
      refine ⟨_, w, rfl, trivial, fun n => ?_⟩
      by_cases hdim : n = "dim"
      · subst hdim
        exact ofSwitch_toSwitch hv
      · simp [storage, hdim]
  get p hp get hget o w _ := by
    obtain rfl | rfl : p = _ ∨ p = _ := by simpa [dimmable] using hp
    · cases hget
      exact ⟨_, w, rfl, rfl⟩
    · cases hget
      exact ⟨_, w, rfl, rfl⟩
  same o o' _ _ := by
    refine (same_iff o o').trans ?_
    rw [← same_ofSwitch, ← same_ofSwitch]
    constructor
    · intro h n hn
      rcases (isCompared_iff n).1 hn with rfl | rfl
      · exact h.1
      · exact h.2
    · intro h
      exact ⟨h "on" ((isCompared_iff "on").2 (.inl rfl)),
        h "dim" ((isCompared_iff "dim").2 (.inr rfl))⟩
  digest o o' _ _ h := by
    have hon := eq_of_agrees o.1 o'.1 (h "on" ((isCompared_iff "on").2 (.inl rfl)))
    have hdim := eq_of_agrees o.2 o'.2 (h "dim" ((isCompared_iff "dim").2 (.inr rfl)))
    simp [host, hon, hdim, HashAtom.agreesAll, HashAtom.agrees]
  text _ _ := ⟨"Lamp", rfl, by decide⟩
  builderText _ h := by cases h

theorem undeclared : dimmable.Undeclared := by
  intro p hp
  obtain rfl | rfl | rfl : p = _ ∨ p = _ ∨ p = _ := by
    simpa [dimmable, description, blueprint] using hp
  · exact ⟨rfl, fun op => by cases op <;> rfl, fun op => by cases op <;> simp [Property.finding]⟩
  · exact ⟨rfl, fun op => by cases op <;> rfl, fun op => by cases op <;> simp [Property.finding]⟩
  · exact ⟨rfl, fun op => by cases op <;> rfl, fun op => by cases op <;> simp [Property.finding]⟩

theorem lawful : Lawful host IsBool where
  refl := by
    rintro _ ⟨b, rfl⟩
    cases b <;> decide
  symm := by
    rintro _ _ ⟨a, rfl⟩ ⟨b, rfl⟩
    cases a <;> cases b <;> decide
  trans := by
    rintro _ _ _ ⟨a, rfl⟩ ⟨b, rfl⟩ ⟨c, rfl⟩
    cases a <;> cases b <;> cases c <;> decide
  hash := by
    rintro _ _ ⟨a, rfl⟩ ⟨b, rfl⟩
    cases a <;> cases b <;> decide

/-- Every channel of the factory of truth values gives one. -/
theorem create_bools {c : Context host} (hlimit : c.atDepthLimit = false) (channel : Channel) :
    ∃ b c', Run.create Catalog.bools channel c = .ok (some (.bool b)) c' := by
  rw [Run.create_of_granted hlimit]
  cases channel with
  | primary => exact ⟨true, _, rfl⟩
  | secondary => exact ⟨false, _, rfl⟩
  | random => exact ⟨_, _, rfl⟩

end Lamp

namespace Verifier

theorem atDepthLimit_of_reaches {d : Description Lamp.host} {c : Context Lamp.host}
    (hc : Reaches standard d c) : c.atDepthLimit = false := by
  obtain ⟨hsettings, hdepth⟩ := hc.setup
  unfold Context.atDepthLimit
  rw [hsettings, hdepth]
  decide

theorem lamp_supplies : standard.Supplies Lamp.dimmable Lamp.IsBool := by
  intro n hn
  have hcreate : ∀ c channel, Reaches standard Lamp.dimmable c →
      c.registry = standard.prepared Lamp.dimmable →
      ∃ u c', Run.create Catalog.bools channel c = .ok u c' ∧ Fits Lamp.IsBool .bool u := by
    intro c channel hc _
    obtain ⟨b, c', hb⟩ := Lamp.create_bools (atDepthLimit_of_reaches hc) channel
    refine ⟨_, c', hb, ?_⟩
    rintro x ⟨rfl⟩
    exact ⟨⟨b, rfl⟩, rfl⟩
  obtain rfl | rfl : n = "on" ∨ n = "dim" := by
    have hstaged : Lamp.dimmable.staged = ["on", "dim"] := by decide
    simpa [hstaged] using hn
  · exact ⟨_, Catalog.bools, rfl, rfl, hcreate⟩
  · exact ⟨_, Catalog.bools, rfl, rfl, hcreate⟩

theorem lamp_passesTrials : standard.PassesTrials Lamp.dimmable := by
  intro _ before n f after hsplit c hc _
  obtain ⟨rfl, rfl, rfl, rfl⟩ : before = [] ∧ n = "on" ∧ f = Catalog.bools ∧ after = [] := by
    have hfactories : Lamp.dimmable.factories = [("on", Catalog.bools)] := rfl
    rw [hfactories, List.append_eq_singleton_iff] at hsplit
    simpa [and_assoc] using hsplit
  have hlimit := atDepthLimit_of_reaches hc
  have hprimary : Run.create Catalog.bools .primary c = .ok (some (.bool true)) c.enter.leave :=
    (Run.create_done rfl).2 ⟨hlimit, rfl, rfl⟩
  have hlimit' : c.enter.leave.atDepthLimit = false := hlimit
  have hsecondary : Run.create Catalog.bools .secondary c.enter.leave =
      .ok (some (.bool false)) c.enter.leave.enter.leave :=
    (Run.create_done rfl).2 ⟨hlimit', rfl, rfl⟩
  have hlimit'' : c.enter.leave.enter.leave.atDepthLimit = false := hlimit
  obtain ⟨b, c', hrandom⟩ := Lamp.create_bools hlimit'' .random
  refine ⟨c', Effect.bind_eq_ok.2 ⟨_, _, hprimary, ?_⟩⟩
  refine Effect.bind_eq_ok.2 ⟨_, _, hsecondary, ?_⟩
  refine Effect.bind_eq_ok.2 ⟨_, _, hrandom, ?_⟩
  rfl

/-! ## No false alarms -/

/-- No false alarms: if the beans of a customised description store their properties, nothing
is declared about absence, and the factories of the properties never fail, then every run
succeeds, and so does every verification. -/
theorem verify_ok_of_storesIn {d' : Description H} {cs : List (Customisation H)}
    (hwf : d.WellFormed) (hcustom : d.customiseAll cs = .ok d') (hst : d'.StoresIn S G)
    (hundeclared : d'.Undeclared) (hG : Lawful H G) (htrials : v.PassesTrials d')
    (hsupplies : v.Supplies d' G) :
    (∀ c, v.Reaches d' c → c.registry = v.registry →
      ∃ statistics c', run d cs c = .ok statistics c') ∧
    ∀ chance w, ∃ statistics w', v.verify chance d cs w = .ok statistics w' := by
  have hrun : ∀ c, v.Reaches d' c → c.registry = v.registry →
      ∃ statistics c', run d cs c = .ok statistics c' := by
    intro c hc hregistry
    have hwf' := Description.customiseAll_wellFormed hwf hcustom
    obtain ⟨statistics, c', hok, -⟩ :=
      ends_run hcustom hwf' hst hundeclared hG htrials hsupplies hc hregistry
    exact ⟨statistics, c', hok⟩
  refine ⟨hrun, fun chance w => ?_⟩
  obtain ⟨statistics, c', hok⟩ := hrun (.start v.settings v.registry chance w) (.start chance w) rfl
  refine ⟨statistics, c'.world, ?_⟩
  unfold verify inContext
  rw [hok]

/-- Lamps pass, whatever is drawn. -/
theorem verify_ok_of_storesIn_lamps :
    Lamp.description.WellFormed ∧
      Lamp.description.customiseAll [.nullable "dim"] = .ok Lamp.dimmable ∧
      Lamp.dimmable.StoresIn Lamp.storage Lamp.IsBool ∧ Lamp.dimmable.Undeclared ∧
      Lawful Lamp.host Lamp.IsBool ∧ standard.PassesTrials Lamp.dimmable ∧
      standard.Supplies Lamp.dimmable Lamp.IsBool ∧
      (∀ c, Reaches standard Lamp.dimmable c → c.registry = (standard (H := Lamp.host)).registry →
        ∃ statistics c', run Lamp.description [.nullable "dim"] c = .ok statistics c') ∧
      ∀ chance w, ∃ statistics w',
        standard.verify chance Lamp.description [.nullable "dim"] w = .ok statistics w' :=
  ⟨Lamp.wellFormed, rfl, Lamp.storesIn, Lamp.undeclared, Lamp.lawful, lamp_passesTrials,
    lamp_supplies, verify_ok_of_storesIn Lamp.wellFormed rfl Lamp.storesIn Lamp.undeclared
      Lamp.lawful lamp_passesTrials lamp_supplies⟩

end Verifier
end BeanContract
