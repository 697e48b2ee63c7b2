/-
Beans are built by the description that counts.

However beans were described and created in a context (`Context.Described`), it creates what a
new context does in which the last description of a type is the only one of that type
(`Context.buildsBy_of_described`), under two conditions on what earlier descriptions have left
behind.

No free draft may be of a replaced description (`Context.UpToDate`): drafts are kept by type, and
build by their own blueprint.  Creations keep this up, and so does a new description of a type
without free drafts, such as any type after a reset.

No factory may be left for a property that the last description stages and has no factory for:
factories of properties are kept by type and name.

Without the first condition beans of a replaced description are built, and without the second
one beans with values of its factories (`not_buildsBy_of_redescribed`).
-/
import BeanContract.Proofs.Context.Replay

namespace BeanContract

open Effect (after)
open Description (current override)

variable {H : Host}

/-! ## Histories -/

/-- The contexts that a new one with the registry `r` can become while no creation is under way,
and the descriptions registered so far. -/
inductive Context.Described (r : Registry H) : List (Description H) → Context H → Prop where
  | start (settings : Settings) (chance : UInt64) (w : H.World) :
      Described r [] (.start settings r chance w)
  | registerBean {ds : List (Description H)} {c : Context H} (d : Description H) :
      Described r ds c →
      Described r (ds ++ [d]) { c with registry := c.registry.registerBean d }
  /-- A creation, whatever becomes of it. -/
  | create {ds : List (Description H)} {c : Context H} (f : Factory H) (channel : Channel) :
      Described r ds c → Described r ds (after (Run.create f channel c))
  /-- Settings, the engine and the world may change. -/
  | quiet {ds : List (Description H)} {c c' : Context H} : Described r ds c →
      c'.registry = c.registry → c'.depth = c.depth → c'.pool = c.pool → Described r ds c'
  | reset {ds : List (Description H)} {c : Context H} : Described r ds c → Described r ds c.reset

def Draft.Regular (d : Draft H) : Prop := d.Clean d.blueprint

theorem upkeep_regular : Upkeep (H := H)
    (fun _ _ c _ => c.pool.Holds fun t d => d.type = t ∧ d.Regular) Draft.Regular where
  quiet := by
    intro k past c c' held h hc
    have hpool : c'.pool = c.pool := congrArg Prod.fst hc
    rw [hpool]
    exact h
  enter h := h
  leave h := h
  take b h := by
    obtain ⟨htype, hregular⟩ := h.acquired (b := b) ⟨rfl, .ofBlueprint b⟩
    exact ⟨h.acquire b, hregular, htype⟩
  giveBack h hd := h.release ⟨rfl, hd⟩
  put v hd hn := hd.put hn v

namespace Context.Described

variable {r : Registry H} {ds : List (Description H)} {c : Context H}

theorem setup (h : c.Described r ds) : c.registry = r.describe ds ∧ c.depth = 0 := by
  induction h with
  | start settings chance w => exact ⟨rfl, rfl⟩
  | registerBean d _ ih =>
    refine ⟨?_, ih.2⟩
    rw [Registry.describe_concat, ← ih.1]
  | @create _ c f channel _ ih =>
    have hkept := Run.create_keeps f channel c
    exact ⟨(congrArg (·.2.1) hkept).trans ih.1, (congrArg (·.2.2.2) hkept).trans ih.2⟩
  | quiet _ hregistry hdepth _ ih => exact ⟨hregistry.trans ih.1, hdepth.trans ih.2⟩
  | reset _ ih => exact ⟨ih.1, rfl⟩

/-- Every free draft is kept for its own type, and was staged as its blueprint stages. -/
theorem regular (h : c.Described r ds) : c.pool.Holds fun t d => d.type = t ∧ d.Regular := by
  induction h with
  | start settings chance w => exact .empty
  | registerBean d _ ih => exact ih
  | @create _ c f channel _ ih =>
    have hkept := upkeep_regular.create 0 f channel [] c [] ih
    rw [Traced.run_create] at hkept
    exact hkept
  | quiet _ _ _ hpool ih => exact hpool ▸ ih
  | reset _ _ => exact .empty

end Context.Described

/-! ## The description that counts -/

/-- Beans of the last descriptions of their types, and the properties that those stage. -/
def Scope.described (ds : List (Description H)) : Scope H Settings where
  own b := b.Stateless ∧ ∃ d, current ds b.type = some d ∧ d.toBlueprint = b
  asks owner n := ∀ d, current ds owner = some d → n ∈ d.staged
  view := id
  structuralDepth s s' h := congrArg Settings.structuralDepth h
  stateless b h := h.1
  unique b b' h h' htype := by
    obtain ⟨-, d, hd, rfl⟩ := h
    obtain ⟨-, d', hd', rfl⟩ := h'
    rw [htype, hd'] at hd
    cases hd
    rfl
  staged b h n hn d hd := by
    obtain ⟨-, e, he, rfl⟩ := h
    rw [he] at hd
    cases hd
    exact hn

namespace Scope

variable {r : Registry H} {ds : List (Description H)} {d : Description H}

/-- The description has stateless code, and factories that have to do with beans of the last
descriptions only. -/
structure Admits (ds : List (Description H)) (d : Description H) : Prop where
  stateless : d.toBlueprint.Stateless
  factories : ∀ n f, d.factory? n = some f → (Scope.described ds).Confines f

theorem supplied_describe (hr : (Scope.described ds).Supplied r) (hds : ∀ d ∈ ds, Admits ds d) :
    (Scope.described ds).Supplied (r.describe ds) := by
  refine .of_entries ?_ ?_
  · intro t f hf
    rw [Registry.get?_describe, Option.or_eq_some_iff] at hf
    rcases hf with hbuilt | ⟨-, hf⟩
    · obtain ⟨d, hd, rfl⟩ := Option.map_eq_some_iff.1 hbuilt
      obtain ⟨hmem, rfl⟩ := Description.current_mem hd
      exact confines_ofBlueprint ⟨(hds d hmem).stateless, d, hd, rfl⟩
    · exact hr.type t f hf
  · intro owner n f hasks hf
    rw [Registry.byProperty_describe, Option.or_eq_some_iff] at hf
    rcases hf with hbrought | ⟨-, hentry⟩
    · obtain ⟨d, hmem, -, hd⟩ := Description.override_mem hbrought
      exact (hds d hmem).factories n f hd
    · exact hr.entry hasks hentry

/-- Without the earlier descriptions of its type, the last one is found with the factories of
its properties as before. -/
theorem matches_only (hd : current ds d.type = some d)
    (hleft : ∀ e ∈ ds, e.type = d.type → ∀ n ∈ d.staged, d.factory? n = none →
      e.factory? n = none) :
    (Scope.described ds).Matches (r.describe ds) (r.describe (d.only ds)) := by
  have htype : ∀ t, (r.describe (d.only ds)).get? t = (r.describe ds).get? t := by
    intro t
    rw [Registry.get?_describe, Registry.get?_describe, Description.current_only]
    split
    · rename_i ht
      rw [← ht, hd]
    · rfl
  refine ⟨htype, fun owner n t hasks => ?_⟩
  rw [Registry.forProperty_describe, Registry.forProperty_describe, Registry.get_congr (htype t),
    Description.override_only]
  by_cases howner : d.type = owner
  · rw [← howner] at hasks ⊢
    have hn := hasks d hd
    rw [if_pos rfl, Description.override_of_current hd fun e he ht => hleft e he ht n hn]
  · rw [if_neg howner]

end Scope

namespace Context

variable {r : Registry H} {ds : List (Description H)} {d : Description H} {c : Context H}

def anew (c : Context H) (r : Registry H) (ds : List (Description H)) (chance : UInt64)
    (w : H.World) : Context H :=
  { Context.start c.settings (r.describe ds) chance w with engine := c.engine }

/-- For whichever types values are created, one after the other, they are those of a new context
in which `d` is the only description of its type, and so are the errors, the panics and the
engine in the end. -/
def BuildsBy (r : Registry H) (ds : List (Description H)) (d : Description H) (c : Context H) :
    Prop :=
  ∀ (requests : List (ValueType × Channel)) (chance : UInt64) (w : H.World),
    ∃ replies c₁ c₂,
      Run.replies (requests.map fun q => .ofType q.1 q.2) c = .ok replies c₁ ∧
      Run.replies (requests.map fun q => .ofType q.1 q.2) (c.anew r (d.only ds) chance w) =
        .ok replies c₂ ∧
      c₂.engine = c₁.engine

/-- No free draft is of a description that was replaced. -/
def UpToDate (ds : List (Description H)) (c : Context H) : Prop :=
  ∀ t, ∀ e ∈ c.pool.freeDrafts t, ∀ d, current ds t = some d → e.blueprint = d.toBlueprint

theorem UpToDate.reset (ds : List (Description H)) (c : Context H) : c.reset.UpToDate ds := by
  intro t e he
  cases he

theorem UpToDate.registerBean (h : c.UpToDate ds) (hfree : c.pool.freeDrafts d.type = []) :
    UpToDate (ds ++ [d]) { c with registry := c.registry.registerBean d } := by
  intro t e he d' hd'
  change e ∈ c.pool.freeDrafts t at he
  by_cases ht : d.type = t
  · rw [← ht, hfree] at he
    cases he
  · unfold current at hd'
    rw [Description.ofType_concat, if_neg ht, List.append_nil] at hd'
    exact h t e he d' hd'

theorem Described.tidy (hc : c.Described r ds) (h : c.UpToDate ds) :
    (Scope.described ds).Tidy c.pool := by
  intro t e he b hown htype
  obtain ⟨-, d, hd, rfl⟩ := hown
  rw [htype] at hd
  rw [← h t e he d hd]
  exact (hc.regular t e he).2

theorem Described.supplied (hc : c.Described r ds) (hr : (Scope.described ds).Supplied r)
    (hds : ∀ e ∈ ds, Scope.Admits ds e) : (Scope.described ds).Supplied c.registry := by
  rw [hc.setup.1]
  exact Scope.supplied_describe hr hds

theorem UpToDate.create (h : c.UpToDate ds) (hc : c.Described r ds)
    (hr : (Scope.described ds).Supplied r) (hds : ∀ e ∈ ds, Scope.Admits ds e) {f : Factory H}
    (hf : (Scope.described ds).Confines f) (channel : Channel) :
    (after (Run.create f channel c)).UpToDate ds := by
  have hsteady : c.Steady (Scope.described ds) :=
    .of_supplied (hc.supplied hr hds) hc.setup.2 (hc.tidy h)
  -- A creation leaves twins, and their free drafts are of the blueprints of the scope.
  have hafter := (Scope.mirrors_create 0 hf channel c c hsteady).after
  intro t e he d hd
  obtain ⟨hmem, ht⟩ := Description.current_mem hd
  rw [← ht] at hd
  exact (hafter.tidy t e he d.toBlueprint ⟨(hds d hmem).stateless, d, hd, rfl⟩ ht).blueprint

/-- However beans were described and created, values are created as if the last description of
a type had been the only one, if the pool has no draft of a replaced description and earlier
descriptions brought no factories for properties that this one stages without. -/
theorem buildsBy_of_described (hc : c.Described r ds) (hd : current ds d.type = some d)
    (hr : (Scope.described ds).Supplied r) (hds : ∀ e ∈ ds, Scope.Admits ds e)
    (hpool : c.UpToDate ds)
    (hleft : ∀ e ∈ ds, e.type = d.type → ∀ n ∈ d.staged, d.factory? n = none →
      e.factory? n = none) : c.BuildsBy r ds d := by
  intro requests chance w
  obtain ⟨hregistry, hdepth⟩ := hc.setup
  have htwin : c.Twin (Scope.described ds) 0 (c.anew r (d.only ds) chance w) := by
    refine ⟨rfl, hdepth, rfl, fun h => absurd rfl h, rfl, ?_, hc.supplied hr hds,
      hc.tidy hpool, .empty⟩
    rw [hregistry]
    exact Scope.matches_only hd hleft
  have hcalls : ∀ q ∈ requests.map fun q => Call.ofType q.1 q.2,
      q.Confined (Scope.described ds) := by
    intro q hq
    obtain ⟨_, -, rfl⟩ := List.mem_map.1 hq
    trivial
  obtain ⟨replies, c₁, c₂, h₁, h₂, htwin'⟩ := Scope.replies_of_twin hcalls htwin
  exact ⟨replies, c₁, c₂, h₁, h₂, htwin'.engine⟩

/-- In particular, a value that is created first is the same. -/
theorem BuildsBy.result?_createOf (h : c.BuildsBy r ds d) (t : ValueType) (channel : Channel)
    (chance : UInt64) (w : H.World) : Effect.result? (Run.createOf t channel c) =
      Effect.result? (Run.createOf t channel (c.anew r (d.only ds) chance w)) := by
  obtain ⟨replies, c₁, c₂, h₁, h₂, -⟩ := h [(t, channel)] chance w
  rcases Run.replies_singleton h₁ with ⟨v, rfl, hv⟩ | ⟨e, rfl, he⟩
  · rcases Run.replies_singleton h₂ with ⟨v', hsame, hv'⟩ | ⟨e', hsame, -⟩
    · cases hsame
      exact (congrArg Effect.result? hv).trans (congrArg Effect.result? hv').symm
    · cases hsame
  · rcases Run.replies_singleton h₂ with ⟨v', hsame, -⟩ | ⟨e', hsame, he'⟩
    · cases hsame
    · exact (congrArg Effect.result? he).trans (congrArg Effect.result? he').symm

end Context

/-! ## Lamps, described twice -/

namespace Lamp

def double : Description host := { blueprint with factories := [] }

def single : Description host := { double with construct := fun _ => pure (none, none) }

def dark : Description host :=
  { double with factories := [("dim", .ofChannel .bool fun _ => .done (some (.bool false)))] }

def describe (c : Context host) (d : Description host) : Context host :=
  { c with registry := c.registry.registerBean d }

def made (c : Context host) (d : Description host) : Context host :=
  after (Run.create (.ofBlueprint d.toBlueprint) .primary c)

theorem single_stateless : single.toBlueprint.Stateless :=
  { stateless with construct := fun _ => .pure _ }

theorem admits_double (ds : List (Description host)) : Scope.Admits ds double where
  stateless := stateless
  factories _ _ hf := absurd (Description.factory?_mem hf) List.not_mem_nil

theorem admits_single (ds : List (Description host)) : Scope.Admits ds single where
  stateless := single_stateless
  factories _ _ hf := absurd (Description.factory?_mem hf) List.not_mem_nil

theorem admits_dark (ds : List (Description host)) : Scope.Admits ds dark where
  stateless := stateless
  factories _ _ hf := by
    cases List.mem_singleton.1 (Description.factory?_mem hf)
    intro channel
    cases channel with
    | primary => trivial
    | secondary => trivial
    | random => trivial

theorem made_described :
    (made (describe context double) double).Described Catalog.registry [double] :=
  .create _ _ (.registerBean double (.start _ _ _))

end Lamp

open Lamp (double single dark describe made)

/-- Described anew after a reset, lamps are made by the new description. -/
theorem buildsBy_single :
    (made (describe (made (describe Lamp.context double) double).reset single) single).BuildsBy
      Catalog.registry [double, single] single := by
  have hadmits : ∀ e ∈ [double, single], Scope.Admits [double, single] e :=
    List.forall_mem_cons.2 ⟨Lamp.admits_double _,
      List.forall_mem_singleton.2 (Lamp.admits_single _)⟩
  have hdescribed : (describe (made (describe Lamp.context double) double).reset single).Described
      Catalog.registry [double, single] := .registerBean single Lamp.made_described.reset
  have hpool := (Context.UpToDate.reset [double] (made (describe Lamp.context double) double))
    |>.registerBean (d := single) rfl
  have hconfined : (Scope.described [double, single]).Confines (.ofBlueprint single.toBlueprint) :=
    Scope.confines_ofBlueprint ⟨Lamp.single_stateless, single, rfl, rfl⟩
  refine Context.buildsBy_of_described (.create _ _ hdescribed) rfl Scope.supplied_catalog hadmits
    (hpool.create hdescribed Scope.supplied_catalog hadmits hconfined .primary) ?_
  exact List.forall_mem_cons.2 ⟨fun _ n _ _ => rfl,
    List.forall_mem_singleton.2 fun _ n _ _ => rfl⟩

/-- The second description of lamps does not count: the first one's drafts are still there, or
its factories are. -/
theorem not_buildsBy_of_redescribed :
    ((describe (made (describe Lamp.context double) double) single).Described Catalog.registry
        [double, single] ∧
      current [double, single] single.type = some single ∧
      (∀ e ∈ [double, single], Scope.Admits [double, single] e) ∧
      ¬(describe (made (describe Lamp.context double) double) single).BuildsBy Catalog.registry
        [double, single] single) ∧
    ((describe (describe Lamp.context dark) single).Described Catalog.registry [dark, single] ∧
      current [dark, single] single.type = some single ∧
      (∀ e ∈ [dark, single], Scope.Admits [dark, single] e) ∧
      ¬(describe (describe Lamp.context dark) single).BuildsBy Catalog.registry [dark, single]
        single) := by
  refine ⟨⟨.registerBean _ Lamp.made_described, rfl, ?_, fun h => ?_⟩,
    .registerBean single (.registerBean dark (.start _ _ _)), rfl, ?_, fun h => ?_⟩
  · exact List.forall_mem_cons.2 ⟨Lamp.admits_double _,
      List.forall_mem_singleton.2 (Lamp.admits_single _)⟩
  · -- The free draft still makes lamps with both switches.
    have hfirst := h.result?_createOf single.type .primary 0 ()
    have hleft : Effect.result? (Run.createOf single.type .primary
        (describe (made (describe Lamp.context double) double) single)) =
        some (some (.object "Lamp" (some true, some true))) := rfl
    rw [hleft] at hfirst
    cases hfirst
  · exact List.forall_mem_cons.2 ⟨Lamp.admits_dark _,
      List.forall_mem_singleton.2 (Lamp.admits_single _)⟩
  · -- The second switch is still off.
    have hfirst := h.result?_createOf single.type .primary 0 ()
    have hleft : Effect.result? (Run.createOf single.type .primary
        (describe (describe Lamp.context dark) single)) =
        some (some (.object "Lamp" (none, some false))) := rfl
    rw [hleft] at hfirst
    cases hfirst

end BeanContract
