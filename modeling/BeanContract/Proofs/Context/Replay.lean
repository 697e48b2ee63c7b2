/-
Replay.

However a context was used (`Context.Lived`), once its engine is started anew from a seed it
gives the same values, errors and panics as a new context with that seed, call by call
(`replay`).  What earlier creations left behind, whether they were finished or not, does not
show: free drafts are staged anew, and the account of creations is not seen by factories.

The history may register factories, also such as are rejected, and describe further beans, as
long as each type of beans has one blueprint.  The factories of the catalog are fit for this, and
so are those of lists, of options (`Scope.confines_listOf`, `Scope.confines_optionOf`) and of
beans that have their one blueprint.
-/
import BeanContract.Proofs.Context.Twin
import BeanContract.Proofs.Context.Registration
import BeanContract.Proofs.Draft.Stage
import BeanContract.Proofs.Factory.Descriptions
import BeanContract.Proofs.Factory.Program

namespace BeanContract

open Effect (Agree after)

variable {H : Host} {σ α : Type}

/-! ## What supplies confined factories -/

namespace Scope

variable {S : Scope H σ} {r r' : Registry H} {f : Factory H}

theorem Supplied.of_answersAs (h : S.Supplied r) (hr : r'.AnswersAs r) : S.Supplied r' := by
  constructor
  · intro t f hf
    rw [hr.type] at hf
    exact h.type t f hf
  · intro owner n t f hasks hf
    rw [hr.property] at hf
    exact h.property owner n t f hasks hf

/-- A property draws from its own factory or from that of its type. -/
theorem Supplied.of_entries (htype : ∀ t f, r.get? t = some f → S.Confines f)
    (hproperty : ∀ owner n f, S.asks owner n → r.byProperty.get? (owner, n) = some f →
      S.Confines f) : S.Supplied r := by
  refine ⟨htype, fun owner n t f hasks hf => ?_⟩
  cases hentry : r.byProperty.get? (owner, n) with
  | some g =>
    rw [Registry.forProperty_of_entry hentry] at hf
    cases hf
    exact hproperty owner n f hasks hentry
  | none =>
    rw [Registry.forProperty_of_none hentry] at hf
    exact htype t f (Registry.get_eq_ok.1 hf)

theorem Supplied.entry (h : S.Supplied r) {owner : ValueType} {n : String}
    (hasks : S.asks owner n) (hf : r.byProperty.get? (owner, n) = some f) : S.Confines f :=
  h.property owner n .unit f hasks (Registry.forProperty_of_entry hf .unit)

theorem Supplied.enter (h : S.Supplied r) (hf : S.Confines f) (place : Place) :
    S.Supplied (place.enter f r) := by
  have hresolves := place.resolves_enter f r
  cases place with
  | type =>
    obtain ⟨htype, -, hproperty⟩ := hresolves
    constructor
    · intro t g hg
      rw [htype] at hg
      split at hg
      · cases hg
        exact hf
      · exact h.type t g hg
    · intro owner n t g hasks hg
      rw [hproperty] at hg
      split at hg
      · cases hg
        exact hf
      · exact h.property owner n t g hasks hg
  | property o m =>
    obtain ⟨htype, -, hproperty⟩ := hresolves
    constructor
    · intro t g hg
      rw [htype] at hg
      exact h.type t g hg
    · intro owner n t g hasks hg
      rw [hproperty] at hg
      split at hg
      · cases hg
        exact hf
      · exact h.property owner n t g hasks hg

theorem Supplied.empty : S.Supplied (.empty : Registry H) := by
  constructor
  · intro t f hf
    cases hf
  · intro owner n t f _ hf
    cases hf

theorem Supplied.registerAll {fs : List (Factory H)} (h : S.Supplied r)
    (hfs : ∀ f ∈ fs, S.Confines f) : S.Supplied (fs.foldl Registry.register r) := by
  induction fs generalizing r with
  | nil => exact h
  | cons f fs ih =>
    refine ih (h.enter (hfs f List.mem_cons_self) .type) fun g hg => ?_
    exact hfs g (List.mem_cons_of_mem f hg)

theorem confined_draw (step : Random.Engine → α × Random.Engine) :
    (Program.draw step : Program H α).Confined S := fun _ => trivial

theorem confines_fixed {primary secondary : Datum H.Object} {random : Program H (Datum H.Object)}
    (h : random.Confined S) : S.Confines (.fixed primary secondary random) := by
  intro channel
  cases channel with
  | primary => trivial
  | secondary => trivial
  | random => exact h.bind fun _ => trivial

theorem Confines.asLowCardinality (h : S.Confines f) : S.Confines f.asLowCardinality := by
  intro channel
  cases channel with
  | primary => exact h .primary
  | secondary => exact h .secondary
  | random => exact h .random

/-- The catalog is confined, whatever the scope. -/
theorem supplied_catalog : S.Supplied Catalog.registry := by
  have hrandom : ∀ t, (Catalog.random t : Program H (Datum H.Object)).Confined S := by
    intro t
    cases t with
    | bool => exact fun _ => trivial
    | char => exact fun _ => trivial
    | int k => exact fun _ => trivial
    | string => exact fun _ => trivial
    | list t => trivial
    | option t => trivial
    | unit => trivial
    | object path => trivial
  have hfixed : ∀ primary secondary t,
      S.Confines (.fixed primary secondary (Catalog.random t)) := fun _ _ t =>
    confines_fixed (hrandom t)
  refine Supplied.registerAll .empty fun f hf => ?_
  simp only [Catalog.factories, List.mem_append, List.mem_cons, List.mem_map,
    List.not_mem_nil, or_false] at hf
  rcases hf with ((rfl | rfl) | ⟨k, -, rfl⟩) | rfl
  · exact (hfixed _ _ _).asLowCardinality
  · exact hfixed _ _ _
  · exact hfixed _ _ _
  · exact hfixed _ _ _

theorem confined_atStructuralDepth : (Program.atStructuralDepth : Program H Bool).Confined S := by
  refine fun depth => ⟨fun _ => trivial, fun s s' h => ?_⟩
  simp only [S.structuralDepth s s' h]

theorem confined_createFitting (t : ValueType) (channel : Channel) :
    (Program.createFitting t channel : Program H (Value H)).Confined S := by
  have hvalue : (Program.createValue t channel : Program H (Value H)).Confined S := by
    intro r
    cases r with
    | ok v => trivial
    | error e => trivial
  refine hvalue.bind fun v => ?_
  cases v.cast t with
  | ok v => trivial
  | error e => trivial

theorem confined_items (elem : ValueType) (channel : Channel) (n : Nat) :
    (Factory.items elem channel n : Program H (List (Datum H.Object))).Confined S := by
  induction n with
  | zero => trivial
  | succ n ih => exact (confined_createFitting elem channel).bind fun _ => ih.bind fun _ => trivial

theorem confines_listOf (elem : ValueType) : S.Confines (.listOf elem : Factory H) := by
  intro channel
  rw [Factory.listOf, Factory.source_ofChannel]
  refine confined_atStructuralDepth.bind fun stop => ?_
  cases stop with
  | true => trivial
  | false =>
    have hfound : ∀ n, (Factory.items elem channel n >>= fun found =>
        pure (some (.list elem found)) : Program H (Value H)).Confined S := fun n =>
      (confined_items elem channel n).bind fun _ => trivial
    cases channel with
    | primary => exact hfound 1
    | secondary => exact hfound 1
    | random => exact (confined_draw _).bind hfound

theorem confines_optionOf (elem : ValueType) : S.Confines (.optionOf elem : Factory H) := by
  intro channel
  rw [Factory.optionOf, Factory.source_ofChannel]
  refine confined_atStructuralDepth.bind fun stop => ?_
  cases stop with
  | true => trivial
  | false =>
    have hitem : (Program.createFitting elem channel >>= fun item =>
        pure (some (Factory.optionDatum elem item)) : Program H (Value H)).Confined S :=
      (confined_createFitting elem channel).bind fun _ => trivial
    cases channel with
    | primary => exact hitem
    | secondary => exact hitem
    | random =>
      refine (confined_draw _).bind fun skip => ?_
      cases skip with
      | true => trivial
      | false => exact hitem

theorem confines_ofBlueprint {b : Blueprint H} (h : S.own b) : S.Confines (.ofBlueprint b) := by
  intro channel
  have hprogram : (Program.bean b channel Program.ofResult).Confined S := by
    refine ⟨h, fun r => ?_⟩
    cases r with
    | ok v => trivial
    | error e => trivial
  cases channel with
  | primary => exact hprogram
  | secondary => exact hprogram
  | random => exact hprogram

theorem Supplied.registerBean {d : Description H} (h : S.Supplied r) (hown : S.own d.toBlueprint)
    (hfactories : ∀ entry ∈ d.factories, S.Confines entry.2) : S.Supplied (r.registerBean d) := by
  refine .of_entries ?_ ?_
  · intro t f hf
    rw [Registry.get?_registerBean] at hf
    split at hf
    · cases hf
      exact confines_ofBlueprint hown
    · exact h.type t f hf
  · intro owner n f hasks hf
    rw [Registry.byProperty_registerBean, Option.or_eq_some_iff] at hf
    rcases hf with hbrought | ⟨-, hentry⟩
    · split at hbrought
      · exact hfactories _ (Description.factory?_mem hbrought)
      · cases hbrought
    · exact h.entry hasks hentry

/-! ## Trials -/

theorem mirrors_checkDrawn (n : Nat) (f : Factory H) (channel : Channel) (v : Value H) :
    S.Mirrors n (f.checkDrawn channel v) := by
  unfold Factory.checkDrawn
  cases v.type? with
  | none => exact .throw _
  | some t =>
    dsimp only
    split
    · exact .pure _
    · exact .throw _

theorem mirrors_selfTest (n : Nat) (hf : S.Confines f) : S.Mirrors n f.selfTest := by
  refine (mirrors_create n hf .primary).bind fun primary => ?_
  refine (mirrors_create n hf .secondary).bind fun secondary => ?_
  refine (mirrors_create n hf .random).bind fun random => ?_
  refine (mirrors_checkDrawn n f .primary primary).bind fun _ => ?_
  refine (mirrors_checkDrawn n f .secondary secondary).bind fun _ => ?_
  refine (mirrors_checkDrawn n f .random random).bind fun _ => ?_
  split
  · refine Mirrors.bind ?_ fun _ => .throw _
    intro c c' h
    cases htext : Value.show? primary with
    | ok text => exact .of_ok rfl rfl h
    | error p => exact .of_error rfl rfl h
  · exact .pure _

end Scope

/-! ## Histories -/

/-- The contexts that a new one can become while no creation is under way, with confined
factories and whatever becomes of each creation and of each trial. -/
inductive Context.Lived (S : Scope H σ) : Context H → Prop where
  | start (settings : Settings) {registry : Registry H} (chance : UInt64) (w : H.World) :
      S.Supplied registry → Lived S (.start settings registry chance w)
  | create {c : Context H} {f : Factory H} (channel : Channel) : Lived S c → S.Confines f →
      Lived S (after (Run.create f channel c))
  | sequence {c : Context H} : Lived S c → Lived S (after (Run.nextSequence c))
  /-- Random numbers may be drawn, or the engine be set. -/
  | engine {c : Context H} (e : Random.Engine) : Lived S c → Lived S { c with engine := e }
  | seed {c : Context H} (s : UInt64) : Lived S c → Lived S (c.setRepeatable s)
  | settings {c : Context H} (s : Settings) : Lived S c → Lived S { c with settings := s }
  | reset {c : Context H} : Lived S c → Lived S c.reset
  | register {c : Context H} {f : Factory H} (place : Place) : Lived S c → S.Confines f →
      Lived S (after (place.register f c))
  | registerBean {c : Context H} {d : Description H} : Lived S c → S.own d.toBlueprint →
      (∀ entry ∈ d.factories, S.Confines entry.2) →
      Lived S { c with registry := c.registry.registerBean d }

namespace Context

variable {S : Scope H σ} {c c' : Context H}

/-- The context is fit for replay: it is a twin of its own. -/
abbrev Steady (S : Scope H σ) (c : Context H) : Prop := c.Twin S 0 c

theorem Twin.of_supplied (h : S.Supplied c.registry) (hdepth : c.depth = 0) (hpool : S.Tidy c.pool) :
    c.Steady S :=
  ⟨rfl, hdepth, hdepth, fun h => absurd rfl h, rfl, ⟨fun _ => rfl, fun _ _ _ _ => rfl⟩, h, hpool,
    hpool⟩

theorem Twin.withRegistry (h : c.Steady S) {r : Registry H} (hr : S.Supplied r) :
    Context.Steady S { c with registry := r } :=
  .of_supplied hr h.depth h.tidy

theorem steady_register {f : Factory H} (place : Place) (h : c.Steady S) (hf : S.Confines f) :
    (after (place.register f c)).Steady S := by
  unfold Place.register
  have htrial : (place.trialContext f c).Steady S := h.withRegistry (h.supplied.enter hf place)
  cases htested : c.settings.selfTestFactories with
  | false =>
    rw [Place.registerBy_of_untested htested]
    exact htrial
  | true =>
    have hafter := (Scope.mirrors_selfTest 0 hf _ _ htrial).after
    have hregistry := Place.registry_of_trial f.create_keeps_registry place c
    rw [Place.registerBy_of_tested htested]
    unfold Factory.selfTest at hafter
    rcases hresult : f.selfTestBy Run.create (place.trialContext f c) with ⟨u, c₁⟩ | ⟨e | p, c₁⟩
    · rw [hresult] at hafter
      exact hafter
    · -- The registration is undone, and all else is left as the trial left it.
      rw [hresult] at hafter hregistry
      refine hafter.withRegistry ?_
      show S.Supplied (place.undo f c.registry c₁.registry)
      rw [show c₁.registry = _ from hregistry]
      exact h.supplied.of_answersAs (Place.undo_enter place f c.registry)
    · rw [hresult] at hafter
      exact hafter

/-- Whatever a context went through, its factories are confined and its drafts are clean. -/
theorem Lived.steady (h : c.Lived S) : c.Steady S := by
  induction h with
  | start settings chance w hr => exact .of_supplied hr rfl .empty
  | create channel _ hf ih => exact (Scope.mirrors_create 0 hf channel _ _ ih).after
  | sequence _ ih => exact ih.withSequence _
  | engine e _ ih => exact ih.withEngine e
  | seed s _ ih => exact .of_supplied ih.supplied ih.depth ih.tidy
  | settings s _ ih => exact .of_supplied ih.supplied ih.depth ih.tidy
  | reset _ ih => exact .of_supplied ih.supplied rfl .empty
  | register place _ hf ih => exact steady_register place ih hf
  | registerBean _ hown hfactories ih =>
    exact ih.withRegistry (ih.supplied.registerBean hown hfactories)

end Context

/-! ## Calls -/

inductive Call (H : Host) where
  | ofType (t : ValueType) (channel : Channel)
  | ofProperty (owner : ValueType) (n : String) (t : ValueType) (channel : Channel)
  | ofFactory (f : Factory H) (channel : Channel)

namespace Call

def run : Call H → Run H (Value H)
  | ofType t channel => Run.createOf t channel
  | ofProperty owner n t channel => Run.createFor owner n t channel
  | ofFactory f channel => Run.create f channel

def Confined (S : Scope H σ) : Call H → Prop
  | ofType _ _ => True
  | ofProperty owner n _ _ => S.asks owner n
  | ofFactory f _ => S.Confines f

end Call

def Run.replies (calls : List (Call H)) : Run H (List (Except Halt (Value H))) :=
  Effect.gather (fun q => Effect.reify q.run) calls

theorem Run.replies_singleton {q : Call H} {c c' : Context H}
    {replies : List (Except Halt (Value H))} (h : Run.replies [q] c = .ok replies c') :
    (∃ v, replies = [.ok v] ∧ q.run c = .ok v c') ∨
      ∃ e, replies = [.error e] ∧ q.run c = .error e c' := by
  obtain ⟨reply, c₁, hreply, h₁⟩ := Effect.bind_eq_ok.1 h
  cases h₁
  rcases Effect.reify_eq_ok.1 hreply with ⟨v, rfl, hv⟩ | ⟨e, rfl, he⟩
  · exact .inl ⟨v, rfl, hv⟩
  · exact .inr ⟨e, rfl, he⟩

namespace Scope

variable {S : Scope H σ}

theorem mirrors_call (n : Nat) {q : Call H} (hq : q.Confined S) : S.Mirrors n q.run := by
  have hcreate : ∀ n f channel, S.Confines f → S.Mirrors n (Run.create f channel) :=
    fun n f channel hf => mirrors_create n hf channel
  cases q with
  | ofType t channel => exact mirrors_createBy hcreate n t channel
  | ofProperty owner m t channel => exact mirrors_createFor hcreate n hq t channel
  | ofFactory f channel => exact hcreate n f channel hq

/-- Twins give the same replies, whatever each call comes to, and stay twins. -/
theorem replies_of_twin {n : Nat} {c c' : Context H} {calls : List (Call H)}
    (hcalls : ∀ q ∈ calls, q.Confined S) (h : c.Twin S n c') :
    ∃ replies c₁ c₁', Run.replies calls c = .ok replies c₁ ∧
      Run.replies calls c' = .ok replies c₁' ∧ c₁.Twin S n c₁' := by
  have hagree : Agree (Run.replies calls) c (Run.replies calls) c' (fun _ => Context.Twin S n)
      fun _ _ _ => False := by
    refine Agree.gather (fun q hq c₁ c₁' h₁ => Agree.reify ?_) h
    exact (mirrors_call n (hcalls q hq) c₁ c₁' h₁).mono (fun _ _ _ h₂ => h₂) fun _ _ _ h₂ => h₂
  cases hagree.cases with
  | inl hok =>
    exact hok
  | inr herror =>
    obtain ⟨_, _, _, _, _, hfalse⟩ := herror
    exact hfalse.elim

end Scope

/-- Whatever a context went through: with its engine started anew from a seed it gives the same
replies to any calls as a new context of the same registry, of settings that look the same and
of that seed. -/
theorem replay (S : Scope H σ) {c : Context H} (hc : c.Lived S) {calls : List (Call H)}
    (hcalls : ∀ q ∈ calls, q.Confined S) {settings : Settings} {chance seed : UInt64}
    (hseed : settings.seed.getD chance = seed) (hview : S.view settings = S.view c.settings)
    (w : H.World) :
    ∃ replies c₁ c₂, Run.replies calls (c.setRepeatable seed) = .ok replies c₁ ∧
      Run.replies calls (.start settings c.registry chance w) = .ok replies c₂ := by
  have h := hc.steady
  have hengine : Random.Engine.ofSeed (settings.seed.getD chance) 0 = .ofSeed seed 0 := by
    rw [hseed]
  have htwin : (c.setRepeatable seed).Twin S 0 (.start settings c.registry chance w) :=
    ⟨hengine, h.depth, rfl, fun h => absurd rfl h, hview, ⟨fun _ => rfl, fun _ _ _ _ => rfl⟩,
      h.supplied, h.tidy, .empty⟩
  obtain ⟨replies, c₁, c₂, h₁, h₂, -⟩ := Scope.replies_of_twin hcalls htwin
  exact ⟨replies, c₁, c₂, h₁, h₂⟩

/-! ## A replay -/

namespace Lamp

def scope : Scope Lamp.host Settings where
  own b := b = blueprint
  asks _ _ := True
  view s := { s with seed := none }
  structuralDepth s s' h := by
    injection h
  stateless b hb := by
    rw [hb]
    exact stateless
  unique b b' hb hb' _ := hb.trans hb'.symm
  staged _ _ _ _ := trivial

def described : Context Lamp.host :=
  { context with registry := context.registry.registerBean { blueprint with factories := [] } }

/-- A lamp was created, and a factory of units without values was rejected. -/
def used : Context Lamp.host :=
  after (Place.type.register (.ofChannel .unit fun _ => .done none)
    (after (Run.create (.ofBlueprint blueprint) .secondary described)))

theorem used_lived : used.Lived scope := by
  have hstart : context.Lived scope := .start _ _ _ Scope.supplied_catalog
  have hdescribed : described.Lived scope :=
    .registerBean (c := context) (d := { blueprint with factories := [] }) hstart rfl
      fun entry h => absurd h List.not_mem_nil
  have hcreated := hdescribed.create .secondary (Scope.confines_ofBlueprint (b := blueprint) rfl)
  refine hcreated.register .type fun channel => ?_
  cases channel with
  | primary => trivial
  | secondary => trivial
  | random => trivial

end Lamp

/-- A draft with the values of an earlier lamp gives the lamps of a new context. -/
theorem replay_lamps : Lamp.used.Lived Lamp.scope ∧
    (Lamp.used.pool.freeDrafts Lamp.blueprint.type).length = 1 ∧
    ∃ replies c₁ c₂,
      Run.replies [.ofType Lamp.blueprint.type .random] (Lamp.used.setRepeatable 5) =
        .ok replies c₁ ∧
      Run.replies [.ofType Lamp.blueprint.type .random]
        (.start { Lamp.used.settings with seed := some 5 } Lamp.used.registry 0 ()) =
          .ok replies c₂ := by
  have hcalls : ∀ q ∈ [Call.ofType Lamp.blueprint.type .random], q.Confined Lamp.scope := by
    intro q hq
    rw [List.mem_singleton] at hq
    rw [hq]
    trivial
  have hview : ∀ s : Settings, Lamp.scope.view { s with seed := some 5 } = Lamp.scope.view s :=
    fun _ => rfl
  exact ⟨Lamp.used_lived, by decide +kernel,
    replay Lamp.scope Lamp.used_lived hcalls rfl (hview Lamp.used.settings) ()⟩

end BeanContract
