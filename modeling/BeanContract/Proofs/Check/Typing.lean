/-
Runs stage well-typed values.

When all factories at hand give values of their own types, when look-ups are answered by type and
when each type of beans has one built description, then whatever a verification run stages, in
whichever draft and at whichever moment, is null or of the declared type
(`Verifier.delivers_of_verify`).

The types are checked in three places: when a description is built, when a customisation brings a
factory, and when a factory is looked up.  `Registry.Typed` and `Context.Typed` are what these
checks leave behind, and registration and creation keep them up.
-/
import BeanContract.Proofs.Check.Panic
import BeanContract.Proofs.Check.Regime
import BeanContract.Proofs.Draft.Pool
import BeanContract.Proofs.Draft.Typing
import BeanContract.Proofs.Factory.Descriptions
import BeanContract.Proofs.Factory.Generation
import BeanContract.Proofs.Storage.Verifier

namespace BeanContract

open Effect (Keeps Meets)
open Journaled (Holds)

variable {H : Host} {built : Description H → Prop} {known : Factory H → Prop}

/-! ## Registries and contexts -/

def Factory.Admitted (built : Description H → Prop) (known : Factory H → Prop)
    (f : Factory H) : Prop :=
  known f ∨ ∃ b : Blueprint H, b.Among built ∧ f = .ofBlueprint b

/-- Types are looked up with factories of their own, and the factory of a property is of the
type that a built description declares for it. -/
structure Registry.Typed (built : Description H → Prop) (known : Factory H → Prop)
    (r : Registry H) : Prop where
  type : ∀ t f, r.get? t = some f → f.Admitted built known ∧ f.type = t
  property : ∀ owner n f, r.byProperty.get? (owner, n) = some f → f.Admitted built known ∧
    ∃ d, built d ∧ d.type = owner ∧ d.declared? n = some f.type

structure Context.Typed (built : Description H → Prop) (known : Factory H → Prop)
    (c : Context H) : Prop where
  registry : c.registry.Typed built known
  pool : c.pool.Holds fun t d => d.type = t ∧ d.Typed built

/-- Descriptions are built, and one for each type; all known factories build beans of described
blueprints only, and give null and values of their own types. -/
structure Provision (built : Description H → Prop) (known : Factory H → Prop) : Prop where
  declared : ∀ d, built d → ∃ name path xs, Description.declare name path xs = .ok d
  unique : ∀ d e, built d → built e → d.type = e.type → d = e
  describes : ∀ f, known f → ∀ channel, (f.source channel).Describes (·.Among built)
  gives : ∀ f, known f → ∀ channel c v c', c.Typed built known →
    Run.create f channel c = .ok v c' → v.HasType f.type

namespace Registry.Typed

variable {r : Registry H} {d : Description H} {n : String} {f : Factory H}

theorem registerProperty (hr : r.Typed built known) (hd : built d)
    (hf : f.Admitted built known) (hn : d.declared? n = some f.type) :
    (r.registerProperty d.type n f).Typed built known where
  type := hr.type
  property owner m g hg := by
    unfold Registry.registerProperty at hg
    rw [Table.get?_insert] at hg
    split at hg
    · rename_i hkey
      cases hkey
      cases hg
      exact ⟨hf, d, hd, rfl, hn⟩
    · exact hr.property owner m g hg

/-- The factory that a property gets back is one that it had in a typed registry. -/
theorem restoreProperty (hr : r.Typed built known) {r₀ : Registry H}
    (hr₀ : r₀.Typed built known) (owner : ValueType) (n : String) :
    (r.restoreProperty owner n (r₀.byProperty.get? (owner, n))).Typed built known where
  type := hr.type
  property o m g hg := by
    unfold Registry.restoreProperty at hg
    rw [Table.get?_put?] at hg
    split at hg
    · rename_i hkey
      cases hkey
      exact hr₀.property owner n g hg
    · exact hr.property o m g hg

theorem registerBean (hr : r.Typed built known) {e : Description H} (hd : built d)
    (he : e.toBlueprint.Among built) (htype : e.type = d.type)
    (hfactories : ∀ n f, (n, f) ∈ e.factories → f.Admitted built known ∧
      d.declared? n = some f.type) : (r.registerBean e).Typed built known where
  type t f hf := by
    rw [get?_registerBean] at hf
    split at hf
    · rename_i ht
      cases hf
      exact ⟨.inr ⟨_, he, rfl⟩, ht.symm⟩
    · exact hr.type t f hf
  property owner n f hf := by
    rw [byProperty_registerBean] at hf
    rcases Option.or_eq_some_iff.1 hf with hf | ⟨-, hf⟩
    · split at hf
      · rename_i howner
        obtain ⟨hadmitted, hn⟩ := hfactories n f (Description.factory?_mem hf)
        exact ⟨hadmitted, d, hd, htype.symm.trans howner, hn⟩
      · cases hf
    · exact hr.property owner n f hf

end Registry.Typed

namespace Provision

variable (P : Provision built known)
include P

theorem among {d : Description H} (hd : built d) : d.toBlueprint.Among built := by
  obtain ⟨name, path, xs, h⟩ := P.declared d hd
  exact ⟨Description.declare_wellFormed h, d, hd, rfl⟩

/-- A property draws from a factory of its type. -/
theorem supplies {r : Registry H} (hr : r.Typed built known) {d : Draft H} (hd : d.Typed built)
    {n : String} {t : ValueType} {f : Factory H} (ht : d.propertyType n = .ok t)
    (hf : r.forProperty d.type n t = .ok f) :
    f.Admitted built known ∧ d.blueprint.declared? n = some f.type := by
  have hdeclared : d.blueprint.declared? n = some t := by
    unfold Draft.propertyType at ht
    unfold Blueprint.declared?
    split at ht
    · rename_i p hp
      rw [hp]
      exact congrArg some (Except.ok.inj ht)
    · cases ht
  cases hentry : r.byProperty.get? (d.type, n) with
  | none =>
    rw [Registry.forProperty_of_none hentry, Registry.get_eq_ok] at hf
    obtain ⟨hadmitted, htype⟩ := hr.type t f hf
    exact ⟨hadmitted, htype ▸ hdeclared⟩
  | some g =>
    rw [Registry.forProperty_of_entry hentry] at hf
    cases hf
    obtain ⟨hadmitted, e, he, howner, hn⟩ := hr.property d.type n f hentry
    -- The description that the factory came with is the one of the draft.
    obtain ⟨e', he', hsignature⟩ := hd.blueprint.signature
    have hsame : e = e' := by
      refine P.unique e e' he he' (howner.trans ?_)
      exact Blueprint.type_of_signature hsignature
    refine ⟨hadmitted, ?_⟩
    rw [Blueprint.declared?_of_signature hsignature, ← hsame]
    exact hn

end Provision

/-! ## Beans -/

theorem Stage.setAll_keeps_blueprint (create : Creator H) (channel : Channel) (nulls : Bool) :
    Keeps (fun s => s.1.blueprint) (Stage.setAll create channel nulls) := by
  refine Keeps.bind (fun _ => rfl) fun d => Keeps.each (fun n => ?_) _
  refine Keeps.bind (fun _ => rfl) fun d => Keeps.bind ?_ fun v _ => rfl
  refine Keeps.zoom_of_put (fun _ _ => ?_) _
  rfl

/-- The beans of a blueprint are of its type, if no drafts of other beans are kept for it. -/
theorem Run.type_of_create_ofBlueprint {b : Blueprint H} {channel : Channel} {c c' : Context H}
    {v : Value H} (hpool : c.pool.Holds fun t d => d.type = t)
    (h : create (.ofBlueprint b) channel c = .ok v c') : v.HasType b.type := by
  have hacquired : (c.enter.pool.acquire b).1.type = b.type := hpool.acquired rfl
  have hbuild : Meets (buildBy create b channel) c.enter (fun v _ => v.HasType b.type)
      fun _ _ => True := by
    refine meets_withPooled (Meets.bind (Q := fun _ s => s.1.type = b.type) ?_ ?_)
    · have hkept := Stage.setAll_keeps_blueprint create channel false
        ((c.enter.pool.acquire b).1, c.enter.taken b)
      refine (Meets.of_after (P := fun s => s.1.type = b.type) ?_).mono (fun _ _ hs => hs)
        fun _ _ _ => trivial
      exact (congrArg Blueprint.type hkept).trans hacquired
    · rintro _ ⟨d, c₁⟩ hd
      refine .intro (fun v s hv => ?_) fun _ _ _ => trivial
      obtain ⟨-, w, hbean, -⟩ := Stage.probe_eq_ok.1 hv
      exact hd ▸ Draft.hasType_of_newBean hbean
  have hprogram : Meets (program create ((Factory.ofBlueprint b).source channel)) c.enter
      (fun v _ => v.HasType b.type) fun _ _ => True := by
    rw [Factory.ofBlueprint, Factory.source_ofChannel]
    exact meets_caught hbuild (fun v c' h => Meets.pure h) fun e => rfl
  cases hlimit : c.atDepthLimit with
  | true =>
    rw [create_of_refused hlimit] at h
    cases h
  | false =>
    rw [create_of_granted hlimit] at h
    exact (Meets.finish (Q := fun v _ => v.HasType b.type) (E := fun _ _ => True) hprogram).ok h

/-! ## What a run keeps up -/

/-- All drafts written down so far are typed, and so is the context, `k` creations deep. -/
structure TypedSoFar (built : Description H → Prop) (known : Factory H → Prop)
    (settings : Settings) (k : Nat) (past : List (Entry H)) (c : Context H) : Prop where
  drafts : ∀ d, .draft d ∈ past → d.Typed built
  context : c.Typed built known
  settings : c.settings = settings
  depth : c.depth = k

namespace TypedSoFar

variable {settings : Settings} {k : Nat} {past : List (Entry H)} {c : Context H}

/-- What does not touch the pool leaves the context typed, under a typed registry. -/
theorem congr (h : TypedSoFar built known settings k past c) {c' : Context H} {k' : Nat}
    (hregistry : c'.registry.Typed built known) (hpool : c'.pool = c.pool)
    (hsettings : c'.settings = c.settings) (hdepth : c'.depth = k') :
    TypedSoFar built known settings k' past c' :=
  ⟨h.drafts, ⟨hregistry, hpool ▸ h.context.pool⟩, hsettings.trans h.settings, hdepth⟩

theorem note (h : TypedSoFar built known settings k past c) {entry : Entry H}
    (hentry : ∀ d, entry = .draft d → d.Typed built) :
    TypedSoFar built known settings k (past ++ [entry]) c := by
  refine ⟨fun d hd => ?_, h.context, h.settings, h.depth⟩
  rcases List.mem_append.1 hd with hd | hd
  · exact h.drafts d hd
  · exact hentry d (List.mem_singleton.1 hd).symm

end TypedSoFar

namespace Provision

variable (P : Provision built known)
include P

/-- Every step of a creation keeps up typing. -/
theorem regime (settings : Settings) :
    Regime settings.depthLimit (Factory.Admitted built known) Value.HasType (·.Among built)
      (Draft.Typed built) (TypedSoFar built known settings) where
  engine _ h := h.congr h.context.registry rfl rfl h.depth
  world _ h := h.congr h.context.registry rfl rfl h.depth
  number h := (h.note fun _ heq => by cases heq).congr h.context.registry rfl rfl h.depth
  draft h hd := h.note fun _ heq => Entry.draft.inj heq ▸ hd
  enter h := h.congr h.context.registry rfl rfl (congrArg (· + 1) h.depth)
  leave h := h.congr h.context.registry rfl rfl (congrArg (· - 1) h.depth)
  take {k past c b} h hb := by
    have hfresh : (Draft.ofBlueprint b).type = b.type ∧ (Draft.ofBlueprint b).Typed built :=
      ⟨rfl, .ofBlueprint hb⟩
    exact ⟨⟨h.drafts, ⟨h.context.registry, h.context.pool.acquire b⟩, h.settings, h.depth⟩,
      (h.context.pool.acquired hfresh).2⟩
  giveBack h hd :=
    ⟨h.drafts, ⟨h.context.registry, h.context.pool.release ⟨rfl, hd⟩⟩, h.settings, h.depth⟩
  levels h := by rw [h.settings, h.depth]
  lookUp h hf := (h.context.registry.type _ _ (Registry.get_eq_ok.1 hf)).1
  own {k past c d n f} h hd hf := by
    obtain ⟨-, t, ht, hf⟩ := Draft.factory_eq_ok.1 hf
    obtain ⟨hadmitted, hn⟩ := P.supplies h.context.registry hd ht hf
    refine ⟨hadmitted, fun v hv e he heq => he.put ?_⟩
    exact heq ▸ Blueprint.accepts_of_declared hn hv
  null hd := hd.put fun _ _ => fits_none
  describes {f} hf channel := by
    rcases hf with hf | ⟨b, hb, rfl⟩
    · exact P.describes f hf channel
    · rw [Factory.ofBlueprint, Factory.source_ofChannel]
      refine ⟨hb, fun r => ?_⟩
      cases r <;> trivial
  gives {k past c f channel v c'} h hf hv := by
    rcases hf with hf | ⟨b, hb, rfl⟩
    · exact P.gives f hf channel c v c' h.context hv
    · exact Run.type_of_create_ofBlueprint (fun t d hd => (h.context.pool t d hd).1) hv

omit P in
theorem staging : Staging (·.Among built) (Draft.Typed (H := H) built) where
  sameCode hb h := hb.sameCode h
  fresh hb := .ofBlueprint hb
  prefer p hd := hd.prefer p
  leaveOut n hd := hd.leaveOut n
  restore n hd he heq := he.restore fun v hv => heq ▸ hd.fitting.expected n v hv
  restart {d values} hd hvalues := hd.restart fun n v hv => by
    -- What may be staged in a new draft is accepted.
    have hput := hvalues n v hv (.ofBlueprint d.blueprint) (.ofBlueprint hd.blueprint) rfl
    refine hput.fitting.expected n v ?_
    rw [Draft.get?_put, if_pos rfl]
  goBack {d e values} hd he heq hvalues := by
    refine ⟨he.blueprint, fun n v hv => ?_, he.fitting.initial⟩
    exact heq ▸ hd.fitting.initial values hvalues n v hv

/-- The preparation for a customised description registers factories of the types of its
properties only. -/
theorem prepare {d e : Description H} (hd : built d) (he : e.toBlueprint.Among built)
    (hsignature : e.signature = d.signature) (hmatching : e.Matching)
    (hknown : ∀ entry ∈ e.factories, known entry.2) (settings : Settings) :
    Holds (TypedSoFar built known settings 0) (fun _ => True) (.prepare e) := by
  have htype : e.type = d.type := Blueprint.type_of_signature hsignature
  have hfactories : ∀ n f, (n, f) ∈ e.factories →
      f.Admitted built known ∧ d.declared? n = some f.type := by
    intro n f hf
    refine ⟨.inl (hknown _ hf), ?_⟩
    rw [← Blueprint.declared?_of_signature hsignature]
    exact hmatching n f hf
  have heach : Holds (TypedSoFar built known settings 0) (fun _ => True)
      (.each (fun entry => .registerPropertyFactory e.type entry.1 entry.2) e.factories) := by
    refine .each fun entry hentry => ?_
    obtain ⟨hadmitted, hn⟩ := hfactories entry.1 entry.2 hentry
    refine (P.regime settings).registerPropertyFactory hadmitted (fun past c h => ?_)
      fun past c past' c' h h' => ?_
    · rw [htype]
      exact h.congr (h.context.registry.registerProperty hd hadmitted hn) rfl rfl h.depth
    · exact h'.congr (h'.context.registry.restoreProperty h.context.registry _ _) rfl rfl h'.depth
  refine heach.bind fun _ _ => .modify fun past c h => ?_
  split
  · exact h
  · exact h.congr (h.context.registry.registerBean hd he htype hfactories) rfl rfl h.depth

end Provision

/-! ## Runs -/

/-- Staging in a verification run, of a built description under any customisations.

Let all known factories give null and values of their own types, and nothing else, and let the
verifier's registry have known factories and those of described beans only: those it answers with
for a type are of that type, and those it has for properties were brought by built descriptions.
Let there be one built description for each type of beans.

The run can be journaled so that each draft is written down as it is made or taken from a pool,
whenever it has changed, and whenever it or a copy of it is probed; and whatever is staged in a
draft that is written down is null or of the type that each model declares.  So is what the
constructor and the setters get, and no setter refuses it for its type. -/
theorem Verifier.delivers_of_verify (P : Provision built known) {v : Verifier H}
    {d : Description H} (hd : built d) {cs : List (Customisation H)}
    (hregistry : ∀ t f, v.registry.get? t = some f → f.Admitted built known ∧ f.type = t)
    (hproperties : ∀ owner n f, v.registry.byProperty.get? (owner, n) = some f →
      known f ∧ ∃ e, built e ∧ e.type = owner ∧ (n, f) ∈ e.factories)
    (hfactories : ∀ n f, (n, f) ∈ d.factories → known f)
    (hcs : ∀ n f, .factory n f ∈ cs → known f) (chance : UInt64) (w : H.World) :
    (Journaled.verify d cs).run = Verifier.run d cs ∧
    ∀ e, .draft e ∈ (Journaled.verify d cs).journal (.start v.settings v.registry chance w) →
      e.Delivers := by
  refine ⟨Journaled.run_verify d cs, fun e he => ?_⟩
  have hmatching : ∀ d, built d → d.Matching := fun d hd => by
    obtain ⟨name, path, xs, h⟩ := P.declared d hd
    exact Description.matching_of_declare h
  have hstart : TypedSoFar built known v.settings 0 []
      (.start v.settings v.registry chance w) := by
    refine ⟨fun _ h => (List.not_mem_nil h).elim, ⟨⟨hregistry, ?_⟩, .empty⟩, rfl, rfl⟩
    intro owner n f hf
    obtain ⟨hadmitted, e, he, howner, hmem⟩ := hproperties owner n f hf
    exact ⟨.inl hadmitted, e, he, howner, hmatching e he n f hmem⟩
  have hrun : Holds (TypedSoFar built known v.settings 0) (fun _ => True) (.verify d cs) := by
    refine (P.regime v.settings).verify Provision.staging fun d' hd' => ?_
    obtain ⟨hmatching', hsignature⟩ := (hmatching d hd).customiseAll hd'
    have hamong : d'.toBlueprint.Among built :=
      Description.customiseAll_preserves (fun b c hb => hb.customised c) (P.among hd) hd'
    refine ⟨hamong, P.prepare hd hamong hsignature hmatching' ?_ v.settings⟩
    exact Description.factories_customiseAll (fun entry => hfactories entry.1 entry.2) hcs hd'
  have hend := hrun [] _ hstart
  have htyped : ∀ e, .draft e ∈ (Journaled.verify d cs).journal
      (.start v.settings v.registry chance w) → e.Typed built := by
    have hafter := Meets.after (hend.mono (fun _ _ h => h.1) fun _ _ h => h)
    exact hafter.drafts
  exact (htyped e he).delivers

namespace Lamp

def declarations : List (Declaration host) :=
  [.constructor blueprint.construct,
    .parameter "on" .bool,
    .getter "on" .bool fun o => pure (ofSwitch o.1),
    .getter "dim" .bool fun o => pure (ofSwitch o.2),
    .setter "dim" .bool fun o v => pure (o.1, toSwitch v)]

theorem declared : Description.declare "Lamp" "Lamp" declarations = .ok Verifier.lamps := rfl

theorem provision : Provision (· = Verifier.lamps) (· = (Catalog.bools : Factory host)) where
  declared := by
    rintro d rfl
    exact ⟨_, _, _, declared⟩
  unique := by
    rintro d e rfl rfl -
    rfl
  describes := by
    rintro f rfl channel
    cases channel with
    | primary => trivial
    | secondary => trivial
    | random => exact fun _ => trivial
  gives := by
    rintro f rfl channel c v c' - hv
    cases hlimit : c.atDepthLimit with
    | true =>
      rw [Run.create_of_refused hlimit] at hv
      cases hv
    | false =>
      obtain ⟨b, c₁, hb⟩ := create_bools hlimit channel
      rw [hb] at hv
      cases hv
      rintro x ⟨⟩
      exact ⟨trivial, rfl⟩

end Lamp

def Verifier.trialling : Verifier Lamp.host :=
  ⟨{ Settings.standard with selfTestFactories := false }, Registry.empty.register Catalog.bools⟩

/-- The first draft that is written down is the one made for inference, and all of them deliver
what is declared. -/
theorem Verifier.delivers_of_verify_lamps :
    Provision (· = lamps) (· = (Catalog.bools : Factory Lamp.host)) ∧
    ((Journaled.verify lamps [.nullable "dim", .factory "on" Catalog.bools]).journal
      (.start trialling.settings trialling.registry 0 ())).head? =
        some (.draft (.ofBlueprint (lamps.toBlueprint.customised (.nullable "dim")))) ∧
    ∀ e, .draft e ∈ (Journaled.verify lamps [.nullable "dim", .factory "on" Catalog.bools]).journal
      (.start trialling.settings trialling.registry 0 ()) → e.Delivers := by
  refine ⟨Lamp.provision, rfl, (delivers_of_verify Lamp.provision rfl ?_ ?_ ?_ ?_ 0 ()).2⟩
  · intro t f hf
    rw [trialling, Registry.get?_register] at hf
    split at hf
    · rename_i ht
      cases hf
      exact ⟨.inl rfl, ht.symm⟩
    · cases hf
  · intro owner n f hf
    cases hf
  · intro n f hf
    cases hf
  · intro n f hf
    obtain ⟨-, rfl⟩ : n = "on" ∧ f = Catalog.bools := by simpa using hf
    rfl

end BeanContract
