/-
Which type graphs generate.

In a registry whose factories all generate values in a known way, a creation fails at the
depth limit only.  It succeeds if the unguarded paths are short enough to stay within the
limit, and it fails if one of them is not, as on a cycle (`createOf_generates`).

The proof is one induction on the levels that the limit leaves.  What it carries of a context
is `Context.Sound`; what a creation has to meet is `Registry.Created` if it succeeds and
`Registry.Refused` if it fails.
-/
import BeanContract.Proofs.Factory.Graph
import BeanContract.Proofs.Context.Recursion
import BeanContract.Proofs.Draft.Candidates
import BeanContract.Proofs.Draft.Pool
import BeanContract.Proofs.Storage.Draft
import BeanContract.Factory.Catalog

namespace BeanContract

open Effect (Ends Meets)
open Relation (ReflTransGen TransGen)

variable {H : Host} {α : Type}

/-! ## Beans of suitable values -/

theorem Blueprint.Suits.cast {b : Blueprint H} {n : String} {v : Value H} {p : Property H}
    (h : b.Suits n v) (hp : b.property? n = some p) : v.cast p.type = .ok v := by
  obtain ⟨q, hq, htype | ⟨rfl, -⟩⟩ := h
  · obtain rfl := Option.some.inj (hq.symm.trans hp)
    obtain ⟨x, rfl, hx⟩ := Option.map_eq_some_iff.1 htype
    simp [Value.cast, hx]
  · rfl

namespace Draft

def IsFor (d : Draft H) (b : Blueprint H) : Prop := d.blueprint = b ∧ d.preference = .creator

def StagesFor (d : Draft H) (b : Blueprint H) (n : String) : Prop :=
  ∃ v, d.expected.get? n = some v ∧ b.Suits n v

theorem StagesFor.put {d : Draft H} {b : Blueprint H} {n m : String} {v : Value H}
    (hv : b.Suits m v) (h : d.StagesFor b n ∨ n = m) : (d.put m v).StagesFor b n := by
  unfold StagesFor
  rw [get?_put]
  by_cases hn : n = m
  · subst hn
    exact ⟨v, by simp, hv⟩
  · rw [if_neg hn]
    exact h.resolve_right hn

section

variable {d : Draft H} {b : Blueprint H} {Bean : H.Object → Prop} (hwf : b.WellFormed)
  (hb : b.Sturdy Bean) (hd : d.IsFor b) (hstaged : ∀ n ∈ b.staged, d.StagesFor b n)
include hd hstaged

theorem suited_args : b.Suited d.args := by
  intro n
  rw [get?_args, hd.1]
  have harg : d.arg? n = d.expected.get? n := by
    unfold arg?
    rw [if_neg]
    rintro ⟨hsetters, -⟩
    rw [hd.2] at hsetters
    cases hsetters
  by_cases hn : b.isParameter n = true
  · have hname : n ∈ b.creator.names := Model.contains_iff.1 hn
    rw [if_pos hn, if_pos hname, harg]
    refine hstaged n (List.mem_filter.2 ⟨List.mem_append_left _ hname, ?_⟩)
    rw [hn, Bool.true_or]
  · rw [if_neg hn, if_neg fun hname => hn (Model.contains_iff.2 hname)]

include hwf

omit hd in
theorem suits_of_written {p : Property H} (hp : p ∈ b.bean.properties) {v : Value H}
    (hv : d.written p = some v) : b.Suits p.name v := by
  have hget := Model.get?_of_mem hwf.bean hp
  obtain ⟨hvia, hv, -⟩ := exists_setter_of_written hv
  simp only [viaSetter, Bool.and_eq_true, Bool.not_eq_true'] at hvia
  have htestable : b.isTestable p.name = true := by
    unfold Blueprint.isTestable Blueprint.isWritable
    rw [Blueprint.property?_of_bean hget, hget]
    simp [hvia.1.1, hvia.1.2]
  have hname : p.name ∈ b.propertyNames := by
    unfold Blueprint.propertyNames
    by_cases hcreator : b.creator.contains p.name = true
    · exact List.mem_append_left _ (Model.contains_iff.1 hcreator)
    · refine List.mem_append_right _ (List.mem_filter.2 ⟨List.mem_map_of_mem hp, ?_⟩)
      simp [hcreator]
  obtain ⟨u, hu, hsuits⟩ := hstaged p.name (List.mem_filter.2 ⟨hname, by simp [htestable]⟩)
  rw [hu] at hv
  cases hv
  exact hsuits

include hb

omit hd in
theorem ends_writeAll_of_sturdy {ps : List (Property H)}
    (hps : ∀ p ∈ ps, p ∈ b.bean.properties) {o : H.Object} (ho : Bean o) (w : H.World) :
    Ends (d.writeAll ps o) w fun o' _ => Bean o' := by
  induction ps generalizing o w with
  | nil => exact .pure ho
  | cons p ps ih =>
    have hp := hps p List.mem_cons_self
    have hps' : ∀ q ∈ ps, q ∈ b.bean.properties := fun q hq => hps q (List.mem_cons_of_mem p hq)
    rw [writeAll_cons]
    cases hv : d.written p with
    | none => exact ih hps' ho w
    | some v =>
      have hsuits := suits_of_written hwf hstaged hp hv
      have hget := Blueprint.property?_of_bean (Model.get?_of_mem hwf.bean hp)
      obtain ⟨-, -, set, hset⟩ := exists_setter_of_written hv
      refine (p.ends_write hset (hsuits.cast hget) (hb.set p hp set hset o v w ho hsuits)).bind ?_
      exact fun o' w' ho' => ih hps' ho' w'

theorem ends_newBean_of_sturdy (w : H.World) :
    Ends d.newBean w fun v _ => v.type? = some b.type := by
  have htry : Ends d.tryNewBean w fun v _ => v.type? = some b.type := by
    have hconstruct := hb.construct d.args w (suited_args hd hstaged)
    unfold tryNewBean
    rw [hd.1]
    refine (ends_guarded hconstruct).bind fun o w₁ ho => ?_
    refine (ends_writeAll_of_sturdy hwf hb hstaged (fun _ hp => hp) ho
      w₁).bind fun o' w₂ _ => ?_
    exact .pure rfl
  refine (Ends.reify (Q := fun r _ => ∃ v, r = .ok v ∧ Value.type? v = some b.type) ?_).bind ?_
  · exact htry.mono fun v _ h => ⟨v, rfl, h⟩
  · rintro _ w' ⟨v, rfl, h⟩
    exact .pure h

end

end Draft

/-! ## Sound contexts -/

namespace Context

/-- A context of this setup, in whose pool the free drafts of a registered bean are those of
its blueprint. -/
structure Sound (c : Context H) (r : Registry H) (settings : Settings) (depth : Nat) : Prop where
  registry : c.registry = r
  settings : c.settings = settings
  depth : c.depth = depth
  pool : ∀ b, r.get? b.type = some (.ofBlueprint b) → ∀ d ∈ c.pool.freeDrafts b.type, d.IsFor b

namespace Sound

variable {c : Context H} {r : Registry H} {settings : Settings} {depth : Nat}
  (hc : c.Sound r settings depth) {b : Blueprint H} (hb : r.get? b.type = some (.ofBlueprint b))
include hc hb

theorem acquire : (c.pool.acquire b).1.IsFor b ∧ (c.taken b).Sound r settings depth := by
  have hacquired : (c.pool.acquire b).1.IsFor b := by
    cases c.pool.acquire_mem b with
    | inl hmem => exact hc.pool b hb _ hmem
    | inr hnew =>
      rw [hnew]
      exact ⟨rfl, rfl⟩
  refine ⟨hacquired, hc.registry, hc.settings, hc.depth, fun b' hb' e he => hc.pool b' hb' e ?_⟩
  change e ∈ (c.pool.acquire b).2.freeDrafts b'.type at he
  rw [Pool.freeDrafts_acquire] at he
  split at he
  · exact List.mem_of_mem_tail he
  · exact he

theorem release {d : Draft H} (hd : d.IsFor b) : (c.returned d).Sound r settings depth := by
  refine ⟨hc.registry, hc.settings, hc.depth, fun b' hb' e he => ?_⟩
  have hdtype : d.type = b.type := congrArg Blueprint.type hd.1
  change e ∈ (c.pool.release d).freeDrafts b'.type at he
  rw [Pool.freeDrafts_release, hdtype] at he
  split at he
  · rename_i htype
    -- Two registered blueprints of one type are the same.
    rw [htype, hb] at hb'
    obtain rfl := Factory.ofBlueprint_injective (Option.some.inj hb')
    rcases List.mem_cons.1 he with rfl | he
    · exact hd
    · exact hc.pool b hb e he
  · exact hc.pool b' hb' e he

end Sound

theorem sound_start (settings : Settings) (r : Registry H) (chance : UInt64) (w : H.World) :
    (start settings r chance w).Sound r settings 0 where
  registry := rfl
  settings := rfl
  depth := rfl
  pool _ _ _ hd := absurd hd List.not_mem_nil

end Context

namespace Run

/-- A pooled draft is used in the context without it, and given back to the one after that. -/
theorem meets_withPooled {b : Blueprint H} {use : Stage H α} {c : Context H}
    {Q : α → Context H → Prop} {E : Halt → Context H → Prop}
    (h : Meets use ((c.pool.acquire b).1, c.taken b) (fun a s => Q a (s.2.returned s.1))
      fun e s => E e (s.2.returned s.1)) : Meets (withPooled b use) c Q E := by
  unfold Meets
  rw [withPooled_eq]
  cases hu : use ((c.pool.acquire b).1, c.taken b) with
  | ok a s => exact h.ok hu
  | error e s => exact h.error hu

end Run

/-! ## One level of creations -/

/-- The creation gave a value of the type and left the context sound.  All unguarded paths
from the factory end above the limit, and the record is within `M` if the factory is. -/
structure Registry.Created (r : Registry H) (settings : Settings) (M depth : Nat)
    (t : ValueType) (f : Factory H) (old : Nat) (v : Value H) (c : Context H) : Prop where
  sound : c.Sound r settings depth
  type : v.type? = some t
  paths : ∀ k g, r.Path k f g → depth + k < settings.depthLimit
  record : r.Within settings M f (depth + 1) → c.maxDepth ≤ max old M

/-- The creation met the depth limit and left the context sound.  This does not happen to a
factory within `M`. -/
structure Registry.Refused (r : Registry H) (settings : Settings) (M depth level : Nat)
    (f : Factory H) (e : Halt) (c : Context H) : Prop where
  sound : c.Sound r settings depth
  tooDeep : settings.structuralDepth.toNat + 8 < 2 ^ 64 → ∃ t n, e = .configuration (.tooDeep t n)
  limit : ¬r.Within settings M f level

structure Registry.Running (r : Registry H) (settings : Settings) (M level : Nat)
    (f : Factory H) (old : Nat) (c : Context H) : Prop where
  sound : c.Sound r settings level
  record : r.Within settings M f level → c.maxDepth ≤ max old M

section

variable {r : Registry H} {settings : Settings} {M depth level old : Nat} {f g : Factory H}
  {t : ValueType} {c : Context H}

namespace Run

def Creates (create : Creator H) (r : Registry H) (settings : Settings) (M depth : Nat) : Prop :=
  ∀ t f, r.Supplies t f → ∀ channel c, c.Sound r settings depth →
    Meets (create f channel) c (r.Created settings M depth t f c.maxDepth)
      (r.Refused settings M depth (depth + 1) f)

variable {create : Creator H} (hcreate : Creates create r settings M level)
include hcreate

/-- A running factory draws from another one. -/
theorem meets_nested (hc : r.Running settings M level f old c) {guarded : Bool}
    (hdraw : r.Draws guarded f g) (hg : r.Supplies t g)
    (hguard : guarded = true → level < settings.structuralDepth.toNat) (channel : Channel) :
    Meets (create g channel) c
      (fun v c' => r.Running settings M level f old c' ∧ v.type? = some t ∧
        (guarded = false → ∀ k h, r.Path k g h → level + k < settings.depthLimit))
      (r.Refused settings M level level f) := by
  have hwithin : r.Within settings M f level → r.Within settings M g (level + 1) := by
    intro h
    cases guarded with
    | false => exact h.unguarded hdraw
    | true => exact h.guarded hg (hguard rfl)
  refine (hcreate t g hg channel c hc.sound).mono ?_ ?_
  · intro v c' h
    refine ⟨⟨h.sound, fun hf => ?_⟩, h.type, fun _ => h.paths⟩
    have hnested := h.record (hwithin hf)
    have hbefore := hc.record hf
    omega
  · intro e c' h
    exact ⟨h.sound, h.tooDeep, fun hf => h.limit (hwithin hf)⟩

omit hcreate in
theorem meets_createBy (hc : c.Sound r settings depth) (ht : r.get? t = some g)
    {channel : Channel} {Q : Value H → Context H → Prop} {E : Halt → Context H → Prop}
    (h : Meets (create g channel) c Q E) : Meets (createBy create t channel) c Q E := by
  have hget : c.registry.get t = .ok g := by
    rw [hc.registry, Registry.get, ht]
  refine Meets.bind_of_ok (t := c) rfl (Meets.bind_of_ok (t := c) (a := g) ?_ h)
  exact Effect.ofExcept_eq_ok.2 ⟨hget, rfl⟩

/-- Leaves, lists and options: a program that yields values and creates items only. -/
theorem meets_yields {allowed : ValueType → Prop} {p : Program H (Value H)}
    (hp : p.Yields settings level allowed fun v => v.type? = some t)
    (hallowed : ∀ u, allowed u → level < settings.structuralDepth.toNat ∧
      ∃ g, r.get? u = some g ∧ r.Draws true f g)
    (hc : r.Running settings M level f old c) :
    Meets (program create p) c (fun v c' => r.Running settings M level f old c' ∧
      v.type? = some t) (r.Refused settings M level level f) := by
  refine meets_program (I := r.Running settings M level f old) hp (fun c h => h.sound.settings)
    (fun c h => h.sound.depth) ?_ ?_ ?_ ?_ hc
  · exact fun c e h => ⟨⟨h.sound.registry, h.sound.settings, h.sound.depth, h.sound.pool⟩,
      h.record⟩
  · exact fun c w h => ⟨⟨h.sound.registry, h.sound.settings, h.sound.depth, h.sound.pool⟩,
      h.record⟩
  · exact fun c n h => ⟨⟨h.sound.registry, h.sound.settings, h.sound.depth, h.sound.pool⟩,
      h.record⟩
  · intro u hu channel c hc
    obtain ⟨hlevel, g, hg, hdraw⟩ := hallowed u hu
    refine meets_createBy hc.sound hg ?_
    refine (meets_nested hcreate hc hdraw (.type hg) (fun _ => hlevel) channel).mono ?_ ?_
    · exact fun v c' h => ⟨h.1, h.2.1⟩
    · exact fun e c' h => h

end Run

namespace Stage

variable {create : Creator H} (hcreate : Run.Creates create r settings M level)
  {b : Blueprint H} (hb : r.get? b.type = some (.ofBlueprint b)) {d : Draft H}
  (hd : d.IsFor b)
include hcreate hb hd

theorem meets_valueFor {n : String} {p : Property H} (hn : n ∈ b.staged) (hp : b.property? n = some p)
    (hg : r.forProperty b.type n p.type = .ok g)
    (hc : r.Running settings M level (.ofBlueprint b) old c) (channel : Channel) :
    Meets (valueFor create channel false d n) c
      (fun v c' => r.Running settings M level (.ofBlueprint b) old c' ∧ b.Suits n v ∧
        (b.isNullable n = false → ∀ k h, r.Path k g h → level + k < settings.depthLimit))
      (r.Refused settings M level level (.ofBlueprint b)) := by
  have hnullable : b.isNullable n = p.flags.nullable := by
    unfold Blueprint.isNullable
    rw [hp]
    rfl
  have heq := valueFor_eq create d n channel c
  rw [hd.1] at heq
  unfold Meets
  rw [heq]
  by_cases hstop : (b.isNullable n && c.atStructuralDepth) = true
  · rw [if_pos hstop]
    rw [Bool.and_eq_true] at hstop
    exact ⟨hc, ⟨p, hp, .inr ⟨rfl, hnullable ▸ hstop.1⟩⟩, fun h => by simp [h] at hstop⟩
  · rw [if_neg hstop]
    have hguard : b.isNullable n = true → level < settings.structuralDepth.toNat := by
      intro h
      simpa [h, Context.atStructuralDepth, hc.sound.settings, hc.sound.depth] using hstop
    have hfactory : d.factory n c = .ok g c := by
      refine Draft.factory_eq_ok.2 ⟨rfl, p.type, ?_, ?_⟩
      · unfold Draft.propertyType
        rw [hd.1, hp]
      · rw [hc.sound.registry, Draft.type, hd.1, hg]
    have hnested := Run.meets_nested hcreate hc (.bean hn hp hg) (.property hb hn hp hg) hguard
      channel
    refine Meets.bind_of_ok hfactory (hnested.mono ?_ fun _ _ h => h)
    exact fun v c' h => ⟨h.1, ⟨p, hp, .inl h.2.1⟩, h.2.2⟩

/-- Every staged property gets a suitable value, or the depth limit is met. -/
theorem meets_setAll (hstaged : ∀ n ∈ b.staged, ∃ p g, b.property? n = some p ∧
      r.forProperty b.type n p.type = .ok g)
    (hc : r.Running settings M level (.ofBlueprint b) old c) (channel : Channel) :
    Meets (setAll create channel false) (d, c)
      (fun _ s => s.1.IsFor b ∧ r.Running settings M level (.ofBlueprint b) old s.2 ∧
        (∀ n ∈ b.staged, s.1.StagesFor b n) ∧
        ∀ g, r.Draws false (.ofBlueprint b) g → ∀ k h, r.Path k g h →
          level + k < settings.depthLimit)
      (fun e s => s.1.IsFor b ∧ r.Refused settings M level level (.ofBlueprint b) e s.2) := by
  have hloop := Meets.each (l := b.staged) (s := (d, c))
    (f := fun n => do
      let d ← draft
      let v ← ofRun (valueFor create channel false d n)
      change (·.put n v))
    (I := fun s => s.1.IsFor b ∧ r.Running settings M level (.ofBlueprint b) old s.2)
    (P := fun n s => s.1.StagesFor b n ∧ ∀ p g, b.property? n = some p →
      r.forProperty b.type n p.type = .ok g → b.isNullable n = false → ∀ k h, r.Path k g h →
        level + k < settings.depthLimit)
    (E := fun e s => s.1.IsFor b ∧ r.Refused settings M level level (.ofBlueprint b) e s.2)
    ?_ ⟨hd, hc⟩
  · refine Meets.bind_of_ok (t := (d, c)) (a := d) rfl ?_
    rw [hd.1]
    refine hloop.mono ?_ fun _ _ h => h
    rintro _ s ⟨⟨hfor, hrunning⟩, hall, -⟩
    refine ⟨hfor, hrunning, fun n hn => (hall n hn).1, fun g hdraw => ?_⟩
    obtain ⟨b', n, p, hb', hn, hnullable, hp, hg⟩ := Registry.exists_of_unguarded hdraw
    obtain rfl := Factory.ofBlueprint_injective hb'
    exact (hall n hn).2 p g hp hg hnullable
  · rintro n hn ⟨d, c⟩ ⟨hd, hc⟩
    obtain ⟨p, g, hp, hg⟩ := hstaged n hn
    have hvalue := meets_valueFor hcreate hb hd hn hp hg hc channel
    refine Meets.bind_of_ok (t := (d, c)) (a := d) rfl ?_
    refine Meets.bind (Q := fun v s => s.1 = d ∧
      r.Running settings M level (.ofBlueprint b) old s.2 ∧ b.Suits n v ∧
        (b.isNullable n = false → ∀ k h, r.Path k g h → level + k < settings.depthLimit))
      (Meets.zoom (hvalue.mono (fun v c' h => ⟨rfl, h⟩) fun e c' h => ⟨hd, h⟩)) ?_
    rintro v ⟨_, c'⟩ ⟨rfl, hrunning, hsuits, hpaths⟩
    refine ⟨⟨hd, hrunning⟩, ⟨.put hsuits (.inr rfl), fun q g' hq hg' => ?_⟩,
      fun m h => ⟨.put hsuits (.inl h.1), h.2⟩⟩
    obtain rfl := Option.some.inj (hp.symm.trans hq)
    cases hg.symm.trans hg'
    exact hpaths

end Stage

namespace Run

variable {create : Creator H} (hcreate : Creates create r settings M level)
include hcreate

/-- A bean is built of the values that its properties got. -/
theorem meets_buildBy {b : Blueprint H} {Bean : H.Object → Prop} (hwf : b.WellFormed)
    (hsturdy : b.Sturdy Bean) (hb : r.get? b.type = some (.ofBlueprint b))
    (hstaged : ∀ n ∈ b.staged, ∃ p g, b.property? n = some p ∧
      r.forProperty b.type n p.type = .ok g)
    (hc : r.Running settings M level (.ofBlueprint b) old c) (channel : Channel) :
    Meets (buildBy create b channel) c
      (fun v c' => r.Running settings M level (.ofBlueprint b) old c' ∧
        v.type? = some b.type ∧ ∀ g, r.Draws false (.ofBlueprint b) g → ∀ k h, r.Path k g h →
          level + k < settings.depthLimit)
      (r.Refused settings M level level (.ofBlueprint b)) := by
  obtain ⟨hd, hacquired⟩ := hc.sound.acquire hb
  have hset := Stage.meets_setAll hcreate hb hd hstaged ⟨hacquired, hc.record⟩ channel
  refine meets_withPooled (Meets.bind (hset.mono (fun _ _ h => h) ?_) ?_)
  · rintro e ⟨d, c'⟩ ⟨hd, hrefused⟩
    exact ⟨hrefused.sound.release hb hd, hrefused.tooDeep, hrefused.limit⟩
  · rintro _ ⟨d, c'⟩ ⟨hd, hrunning, hall, hpaths⟩
    obtain ⟨v, w, hv, htype⟩ := Draft.ends_newBean_of_sturdy hwf hsturdy hd hall c'.world
    have hprobe : Stage.probe Draft.newBean (d, c') = .ok v (d, { c' with world := w }) :=
      Stage.probe_eq_ok.2 ⟨rfl, w, hv, rfl⟩
    refine Meets.of_ends ⟨v, _, hprobe, ⟨?_, hrunning.record⟩, htype, hpaths⟩
    refine Context.Sound.release ?_ hb hd
    exact ⟨hrunning.sound.registry, hrunning.sound.settings, hrunning.sound.depth,
      hrunning.sound.pool⟩

/-- A factory that generates values of a type does so when it runs, or meets the limit. -/
theorem meets_source (hf : r.Generates t f) (hc : r.Running settings M level f old c)
    (channel : Channel) : Meets (program create (f.source channel)) c
      (fun v c' => r.Running settings M level f old c' ∧ v.type? = some t ∧
        ∀ g, r.Draws false f g → ∀ k h, r.Path k g h → level + k < settings.depthLimit)
      (r.Refused settings M level level f) := by
  have hyields : ∀ (allowed : ValueType → Prop),
      (∀ ch, (f.source ch).Yields settings level allowed fun v => v.type? = some t) →
      (∀ u, allowed u → level < settings.structuralDepth.toNat ∧
        ∃ g, r.get? u = some g ∧ r.Draws true f g) →
      Meets (program create (f.source channel)) c
        (fun v c' => r.Running settings M level f old c' ∧ v.type? = some t ∧
          ∀ g, r.Draws false f g → ∀ k h, r.Path k g h → level + k < settings.depthLimit)
        (r.Refused settings M level level f) := by
    intro allowed hp hallowed
    refine (meets_yields hcreate (hp channel) hallowed hc).mono ?_ fun _ _ h => h
    exact fun v c' h => ⟨h.1, h.2, fun g hdraw =>
      absurd hdraw (Registry.not_unguarded_of_yields (hp .primary))⟩
  cases hf with
  | leaf hleaf => exact hyields _ (fun ch => hleaf settings level ch) fun u hu => hu.elim
  | @list elem g hg =>
    refine hyields _ (Factory.listOf_yields elem) ?_
    rintro u ⟨rfl, hlevel⟩
    exact ⟨hlevel, g, hg, .list hg⟩
  | @option elem g hg =>
    refine hyields _ (Factory.optionOf_yields elem) ?_
    rintro u ⟨rfl, hlevel⟩
    exact ⟨hlevel, g, hg, .option hg⟩
  | @bean b Bean hwf hsturdy hb hstaged =>
    have hbuild := meets_buildBy hcreate hwf hsturdy hb hstaged hc channel
    rw [Factory.ofBlueprint, Factory.source_ofChannel]
    exact meets_caught hbuild (fun v c' h => Meets.pure h) fun e => rfl

end Run

/-- In a regular registry creations end as they should, at every depth. -/
theorem creates_of_regular (hr : r.Regular) (settings : Settings) (M depth : Nat) :
    Run.Creates Run.create r settings M depth := by
  induction hn : settings.depthLimit - depth using Nat.strong_induction_on
    generalizing depth with
  | _ n ih =>
    intro t f hf channel c hc
    by_cases hlimit : c.atDepthLimit = true
    · have hat := Run.atDepthLimit_eq_true.1 hlimit
      rw [hc.settings, hc.depth] at hat
      unfold Meets
      rw [Run.create_of_refused hlimit]
      refine ⟨hc, fun hword => ?_, fun hwithin => ?_⟩
      · rw [Context.refusal_of_fits (by rwa [hc.settings])]
        exact ⟨_, _, rfl⟩
      have hlevel := hwithin.level_le
      have hM := hwithin.limit
      omega
    · have hgranted : c.atDepthLimit = false := by simpa using hlimit
      have hbelow := Run.atDepthLimit_eq_false.1 hgranted
      rw [hc.settings, hc.depth] at hbelow
      have hrunning : r.Running settings M (depth + 1) f c.maxDepth c.enter := by
        refine ⟨⟨hc.registry, hc.settings, congrArg (· + 1) hc.depth, hc.pool⟩, fun hwithin => ?_⟩
        have hlevel := hwithin.level_le
        show max c.maxDepth (c.depth + 1) ≤ max c.maxDepth M
        rw [hc.depth]
        omega
      have hleave : ∀ c' : Context H, c'.Sound r settings (depth + 1) →
          c'.leave.Sound r settings depth := fun c' h =>
        ⟨h.registry, h.settings, congrArg (· - 1) h.depth, h.pool⟩
      have hsource := Run.meets_source (ih _ (by omega) (depth + 1) rfl) (hr t f hf) hrunning
        channel
      unfold Meets
      rw [Run.create_of_granted hgranted]
      refine Meets.finish (hsource.mono ?_ ?_)
      · rintro v c' ⟨hrunning', htype, hpaths⟩
        refine ⟨hleave c' hrunning'.sound, htype, fun k g hpath => ?_, hrunning'.record⟩
        cases hpath with
        | nil => exact hbelow
        | cons hdraw hrest =>
          have hrest' := hpaths _ hdraw _ _ hrest
          omega
      · exact fun e c' h => ⟨hleave c' h.sound, h.tooDeep, h.limit⟩

end

/-! ## Types that generate, and types that do not -/

open Run (createOf)

/-- In a regular registry, with the structural depth `s`:

If no unguarded path has more than eight draws, every creation with none under way succeeds,
on every channel and whatever the random engine gives, and it nests no deeper than `s` and the
longest path together.

If unguarded draws lead from the factory of a type to a cycle of unguarded draws, every
creation of the type fails at the depth limit.

Both take a limit that is a 64-bit word.  Without one every creation panics. -/
theorem createOf_generates {r : Registry H} (hr : r.Regular) {t : ValueType} {f : Factory H}
    (ht : r.get? t = some f) (channel : Channel) (settings : Settings) {s : Nat}
    (hs : settings.structuralDepth.toNat = s) :
    (∀ L, L ≤ 8 → (∀ u g, r.Supplies u g → ∀ k h, r.Path k g h → k ≤ L) →
      1 ≤ s → s + 8 < 2 ^ 64 → ∀ c, c.Sound r settings 0 →
      ∃ v c', createOf t channel c = .ok v c' ∧ v.type? = some t ∧
        c'.maxDepth ≤ max c.maxDepth (s + L) ∧ c'.Sound r settings 0) ∧
    (∀ g, ReflTransGen (r.Draws false) f g → TransGen (r.Draws false) g g →
      s + 8 < 2 ^ 64 → ∀ depth c, c.Sound r settings depth →
      ∃ u n c', createOf t channel c = .error (.configuration (.tooDeep u n)) c' ∧
        c'.Sound r settings depth) ∧
    (2 ^ 64 ≤ s + 8 → ∀ depth c, c.Sound r settings depth →
      createOf t channel c = .error (.panic .overflow) c) := by
  have hcreate : ∀ M depth c, c.Sound r settings depth → Meets (createOf t channel) c
      (r.Created settings M depth t f c.maxDepth) (r.Refused settings M depth (depth + 1) f) :=
    fun M depth c hc => Run.meets_createBy hc ht
      (creates_of_regular hr settings M depth t f (.type ht) channel c hc)
  refine ⟨?_, ?_, ?_⟩
  · intro L hL hpaths hs₁ hword c hc
    have hwithin : r.Within settings (s + L) f 1 := by
      refine ⟨?_, fun u g hg k h hpath => ?_, fun k h hpath => ?_⟩
      · rw [Settings.depthLimit_eq (by omega)]
        omega
      · have := hpaths u g hg k h hpath
        omega
      · have := hpaths t f (.type ht) k h hpath
        omega
    have hmeets := hcreate (s + L) 0 c hc
    cases hresult : createOf t channel c with
    | ok v c' =>
      have h := hmeets.ok hresult
      exact ⟨v, c', rfl, h.type, h.record hwithin, h.sound⟩
    | error e c' => exact absurd hwithin (hmeets.error hresult).limit
  · intro g hfg hcycle hword depth c hc
    have hmeets := hcreate 0 depth c hc
    cases hresult : createOf t channel c with
    | ok v c' =>
      -- A path as long as the limit does not end above it.
      obtain ⟨h, hpath⟩ := Registry.exists_path_of_cycle hfg hcycle settings.depthLimit
      have habove := (hmeets.ok hresult).paths _ h hpath
      omega
    | error e c' =>
      have hrefused := hmeets.error hresult
      obtain ⟨u, n, rfl⟩ := hrefused.tooDeep (by rwa [hs])
      exact ⟨u, n, c', rfl, hrefused.sound⟩
  · intro hover depth c hc
    have hpanics := Run.create_of_overflows (c := c) (by rwa [hc.settings, hs]) f channel
    have hget : c.registry.get t = .ok f := by
      rw [hc.registry, Registry.get, ht]
    have hcreateOf : createOf t channel c = Run.create f channel c := by
      show (Run.ofResult (c.registry.get t) >>= fun f => Run.create f channel : Run H _) c = _
      rw [hget]
      rfl
    rw [hcreateOf, hpanics]

/-! ## Links of a chain -/

namespace Link

def host : Host where
  Object := Unit
  World := Unit
  same _ _ := true
  digest _ := []
  show? _ := .ok "Link"

def blueprint (last : Bool) : Blueprint host where
  name := "Link"
  path := "Link"
  creator := ⟨[{ name := "on", type := .bool },
    { name := "next", type := .object "Link", flags := { nullable := last } }]⟩
  bean := .empty
  construct := fun _ => pure ()
  builderText := none

def registry (last : Bool) : Registry host :=
  ((Registry.empty.register Catalog.bools).register (.listOf .bool)).register
    (.ofBlueprint (blueprint last))

variable {last : Bool} {t : ValueType} {f : Factory host}

theorem wellFormed : (blueprint last).WellFormed where
  creator := by
    show ["on", "next"].Nodup
    decide
  bean := List.nodup_nil
  agree _ _ _ _ h := by cases h

theorem sturdy : (blueprint last).Sturdy fun _ => True where
  construct _ w _ := ⟨(), w, rfl, trivial⟩
  set _ hp := by cases hp

theorem supplies (h : (registry last).Supplies t f) :
    t = .object "Link" ∧ f = .ofBlueprint (blueprint last) ∨
      t = .list .bool ∧ f = .listOf .bool ∨ t = .bool ∧ f = Catalog.bools := by
  have hget := Registry.type_of_supplies (fun _ => rfl) h
  unfold registry at hget
  rw [Registry.get?_register, Registry.get?_register, Registry.get?_register] at hget
  split at hget
  · rename_i ht
    exact .inl ⟨ht, (Option.some.inj hget).symm⟩
  · split at hget
    · rename_i ht
      exact .inr (.inl ⟨ht, (Option.some.inj hget).symm⟩)
    · split at hget
      · rename_i ht
        exact .inr (.inr ⟨ht, (Option.some.inj hget).symm⟩)
      · cases hget

theorem staged (last : Bool) : (blueprint last).staged = ["on", "next"] := by
  cases last <;> decide

theorem bools_yields (settings : Settings) (depth : Nat) (channel : Channel) :
    ((Catalog.bools : Factory host).source channel).Yields settings depth (fun _ => False)
      fun v => v.type? = some .bool := by
  cases channel with
  | primary => exact rfl
  | secondary => exact rfl
  | random => exact fun _ => rfl

theorem regular (last : Bool) : (registry last).Regular := by
  intro t f h
  rcases supplies h with ⟨rfl, rfl⟩ | ⟨rfl, rfl⟩ | ⟨rfl, rfl⟩
  · refine .bean (b := blueprint last) wellFormed sturdy rfl fun n hn => ?_
    rw [staged] at hn
    rcases List.mem_pair.1 hn with rfl | rfl
    · exact ⟨_, Catalog.bools, rfl, rfl⟩
    · exact ⟨_, .ofBlueprint (blueprint last), rfl, rfl⟩
  · exact .list (f := Catalog.bools) rfl
  · exact .leaf bools_yields

/-- The only unguarded draw is that of the switch. -/
theorem path_le {k : Nat} {g : Factory host} (h : (registry true).Supplies t f)
    (hpath : (registry true).Path k f g) : k ≤ 1 := by
  have hbools : ∀ g', ¬(registry true).Draws false Catalog.bools g' := fun g' =>
    Registry.not_unguarded_of_yields (bools_yields Settings.standard 0 .primary)
  cases hpath with
  | nil => exact Nat.zero_le 1
  | cons hdraw hrest =>
    obtain ⟨b, n, p, rfl, hn, hnullable, hp, hg⟩ := Registry.exists_of_unguarded hdraw
    obtain rfl : b = blueprint true := by
      rcases supplies h with ⟨-, hb⟩ | ⟨-, hb⟩ | ⟨-, hb⟩
      · exact Factory.ofBlueprint_injective hb
      · cases congrArg Factory.primary hb
      · cases congrArg Factory.primary hb
    rw [staged] at hn
    rcases List.mem_pair.1 hn with rfl | rfl
    · cases hp
      cases hg
      cases hrest with
      | nil => exact Nat.le_refl 1
      | cons hdraw' _ => exact absurd hdraw' (hbools _)
    · cases hnullable

theorem cycle : TransGen ((registry false).Draws false) (.ofBlueprint (blueprint false))
    (.ofBlueprint (blueprint false)) :=
  .single (.bean (b := blueprint false) (n := "next") (by decide) rfl rfl)

end Link

/-- Chains of links that may end do, one level below the structural depth with the last
switch; those that may not end meet the limit. -/
theorem createOf_generates_links :
    (Link.registry true).Regular ∧ (Link.registry false).Regular ∧
    (∃ v c', createOf (.object "Link") .primary
        (.start Settings.standard (Link.registry true) 0 ()) = .ok v c' ∧
      v.type? = some (.object "Link") ∧ c'.maxDepth ≤ 4) ∧
    ∃ u n c', createOf (.object "Link") .primary
      (.start Settings.standard (Link.registry false) 0 ()) =
        .error (.configuration (.tooDeep u n)) c' := by
  refine ⟨Link.regular true, Link.regular false, ?_, ?_⟩
  · obtain ⟨v, c', hv, htype, hdepth, -⟩ := (createOf_generates (Link.regular true)
      (t := .object "Link") (f := .ofBlueprint (Link.blueprint true)) rfl .primary
      Settings.standard (s := 3) rfl).1 1 (by decide) (fun _ _ hg _ _ => Link.path_le hg)
      (by decide) (by decide) _ (Context.sound_start _ _ 0 ())
    exact ⟨v, c', hv, htype, hdepth⟩
  · obtain ⟨u, n, c', he, -⟩ := (createOf_generates (Link.regular false)
      (t := .object "Link") (f := .ofBlueprint (Link.blueprint false)) rfl .primary
      Settings.standard (s := 3) rfl).2.1 _ .refl Link.cycle (by decide) 0 _
      (Context.sound_start _ _ 0 ())
    exact ⟨u, n, c', he⟩

/-- The first structural depth at which the sum that gives the limit overflows. -/
def Link.overflowing : Settings :=
  { Settings.standard with structuralDepth := 18446744073709551608 }

/-- At the largest structural depths not even a leaf is created, and chains that may not end are not
refused: the sum that gives the limit panics. -/
theorem createOf_panics_of_overflow :
    1 ≤ Link.overflowing.structuralDepth.toNat ∧ (Link.registry true).Regular ∧
    (∀ u g, (Link.registry true).Supplies u g → ∀ k h, (Link.registry true).Path k g h → k ≤ 1) ∧
    (Link.registry true).get? .bool = some Catalog.bools ∧
    (Context.start Link.overflowing (Link.registry true) 0 ()).Sound (Link.registry true)
      Link.overflowing 0 ∧
    createOf .bool .primary (.start Link.overflowing (Link.registry true) 0 ()) =
      .error (.panic .overflow) (.start Link.overflowing (Link.registry true) 0 ()) ∧
    TransGen ((Link.registry false).Draws false) (.ofBlueprint (Link.blueprint false))
      (.ofBlueprint (Link.blueprint false)) ∧
    createOf (.object "Link") .primary (.start Link.overflowing (Link.registry false) 0 ()) =
      .error (.panic .overflow) (.start Link.overflowing (Link.registry false) 0 ()) :=
  ⟨by decide, Link.regular true, fun _ _ hg _ _ => Link.path_le hg, rfl,
    Context.sound_start Link.overflowing (Link.registry true) 0 (), rfl, Link.cycle, rfl⟩

end BeanContract
