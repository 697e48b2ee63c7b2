/-
Contexts that nothing tells apart.

Contexts may differ in blueprints that nothing tells apart: those of the factories that they have
registered, and those of the drafts in their pools (`Context.Indistinct`).  Creation comes upon
such a blueprint where a bean is built, however deep it is nested, and there the beans of the two
contexts are the same.  So the contexts create the same values, with the same errors, and
stay alike (`inStep_create`).  The errors are those that programs halt with of themselves,
failures, panics of texts, and that of a depth limit that overflows.
-/
import BeanContract.Proofs.Context.Setup
import BeanContract.Proofs.Draft.Lockstep
import BeanContract.Proofs.Draft.Pool
import BeanContract.Proofs.Factory.Program

namespace BeanContract

open Effect (InStep)

variable {H : Host} {α : Type}

/-! ## Pools -/

def Draft.Indistinct (d d' : Draft H) : Prop := ∃ b', d.blueprint.Indistinct b' ∧ d' = d.recast b'

theorem Draft.Indistinct.type {d d' : Draft H} (h : d.Indistinct d') : d'.type = d.type := by
  obtain ⟨b', hb, rfl⟩ := h
  exact Draft.type_recast hb

def Pool.Indistinct (p p' : Pool H) : Prop :=
  ∀ t, List.Forall₂ Draft.Indistinct (p.freeDrafts t) (p'.freeDrafts t)

namespace Pool.Indistinct

variable {p p' : Pool H} {b b' : Blueprint H}

protected theorem empty : (Pool.empty : Pool H).Indistinct .empty := fun _ => .nil

protected theorem acquire (h : p.Indistinct p') (hb : b.Indistinct b') :
    (p.acquire b).1.Indistinct (p'.acquire b').1 ∧
      (p.acquire b).2.Indistinct (p'.acquire b').2 := by
  have htype : b'.type = b.type := hb.shape.type
  constructor
  · have hfree := h b.type
    rw [← htype] at hfree
    cases hp : p.freeDrafts b.type with
    | nil =>
      rw [htype, hp] at hfree
      rw [acquire_of_none hp, acquire_of_none (htype.symm ▸ List.forall₂_nil_left_iff.1 hfree)]
      exact ⟨b', hb, rfl⟩
    | cons d ds =>
      rw [htype, hp] at hfree
      obtain ⟨d', ds', hd, -, hp'⟩ := List.forall₂_cons_left_iff.1 hfree
      rw [acquire_of_free hp, acquire_of_free (htype.symm ▸ hp')]
      exact hd
  · intro t
    rw [freeDrafts_acquire, freeDrafts_acquire, htype]
    split
    · have htail : ∀ {ds ds' : List (Draft H)}, List.Forall₂ Draft.Indistinct ds ds' →
          List.Forall₂ Draft.Indistinct ds.tail ds'.tail := by
        rintro _ _ (_ | ⟨-, hrest⟩)
        · exact .nil
        · exact hrest
      exact htail (h t)
    · exact h t

protected theorem release (h : p.Indistinct p') {d d' : Draft H} (hd : d.Indistinct d') :
    (p.release d).Indistinct (p'.release d') := by
  intro t
  rw [freeDrafts_release, freeDrafts_release, hd.type]
  split
  · exact .cons hd (h t)
  · exact h t

end Pool.Indistinct

/-! ## Factories -/

/-- The program halts of itself with errors in `E` only, whatever it is answered. -/
def Program.HaltsIn (E : Halt → Prop) : Program H α → Prop
  | .done _ => True
  | .halt h => E h
  | .engine next => ∀ e, (next e).HaltsIn E
  | .setEngine _ next => next.HaltsIn E
  | .world next => ∀ w, (next w).HaltsIn E
  | .setWorld _ next => next.HaltsIn E
  | .sequence next => ∀ n, (next n).HaltsIn E
  | .depth next => ∀ n, (next n).HaltsIn E
  | .settings next => ∀ s, (next s).HaltsIn E
  | .create _ _ next => ∀ r, (next r).HaltsIn E
  | .bean _ _ next => ∀ r, (next r).HaltsIn E

theorem Program.HaltsIn.mono {E F : Halt → Prop} {p : Program H α} (h : p.HaltsIn E)
    (hF : ∀ e, E e → F e) : p.HaltsIn F := by
  induction p with
  | done a => trivial
  | halt e => exact hF e h
  | engine next ih => exact fun e => ih e (h e)
  | setEngine e next ih => exact ih h
  | world next ih => exact fun w => ih w (h w)
  | setWorld w next ih => exact ih h
  | sequence next ih => exact fun n => ih n (h n)
  | depth next ih => exact fun n => ih n (h n)
  | settings next ih => exact fun s => ih s (h s)
  | create t channel next ih => exact fun r => ih r (h r)
  | bean b channel next ih => exact fun r => ih r (h r)

theorem Program.HaltsIn.of_forall {E : Halt → Prop} (hE : ∀ e, E e) (p : Program H α) :
    p.HaltsIn E := by
  induction p with
  | done a => trivial
  | halt e => exact hE e
  | engine next ih => exact ih
  | setEngine e next ih => exact ih
  | world next ih => exact ih
  | setWorld w next ih => exact ih
  | sequence next ih => exact ih
  | depth next ih => exact ih
  | settings next ih => exact ih
  | create t channel next ih => exact ih
  | bean b channel next ih => exact ih

namespace Factory

def HaltsIn (E : Halt → Prop) (f : Factory H) : Prop := ∀ channel, (f.source channel).HaltsIn E

theorem HaltsIn.mono {E F : Halt → Prop} {f : Factory H} (h : f.HaltsIn E)
    (hF : ∀ e, E e → F e) : f.HaltsIn F := fun channel => (h channel).mono hF

theorem HaltsIn.asLowCardinality {E : Halt → Prop} {f : Factory H} (h : f.HaltsIn E) :
    f.asLowCardinality.HaltsIn E := by
  intro channel
  cases channel with
  | primary => exact h .primary
  | secondary => exact h .secondary
  | random => exact h .random

theorem HaltsIn.of_forall {E : Halt → Prop} (hE : ∀ e, E e) (f : Factory H) : f.HaltsIn E :=
  fun channel => .of_forall hE (f.source channel)

/-- The factories are the same, or build beans of blueprints that nothing tells apart.  They halt
of themselves with errors in `E` only. -/
def Indistinct (E : Halt → Prop) (f f' : Factory H) : Prop :=
  f.HaltsIn E ∧
    (f' = f ∨ ∃ b b', b.Indistinct b' ∧ f = .ofBlueprint b ∧ f' = .ofBlueprint b')

namespace Indistinct

variable {E : Halt → Prop} {f f' : Factory H} {b b' : Blueprint H}

protected theorem refl (h : f.HaltsIn E) : f.Indistinct E f := ⟨h, .inl rfl⟩

theorem ofBlueprint (hE : ∀ f, E (.failure f)) (hb : b.Indistinct b') :
    (Factory.ofBlueprint b).Indistinct E (.ofBlueprint b') := by
  refine ⟨fun channel => ?_, .inr ⟨b, b', hb, rfl, rfl⟩⟩
  have hprogram : (Program.bean b channel Program.ofResult).HaltsIn E := by
    intro r
    cases r with
    | ok v => trivial
    | error f => exact hE f
  cases channel with
  | primary => exact hprogram
  | secondary => exact hprogram
  | random => exact hprogram

theorem type (h : f.Indistinct E f') : f'.type = f.type := by
  rcases h.2 with rfl | ⟨b, b', hb, rfl, rfl⟩
  · rfl
  · exact hb.shape.type

theorem lowCardinality (h : f.Indistinct E f') : f'.lowCardinality = f.lowCardinality := by
  rcases h.2 with rfl | ⟨b, b', -, rfl, rfl⟩
  · rfl
  · rfl

end Indistinct
end Factory

/-! ## Registries -/

namespace Registry

structure Indistinct (E : Halt → Prop) (r r' : Registry H) : Prop where
  byType : ∀ t, FoundBoth (Factory.Indistinct E) (r.byType.get? t) (r'.byType.get? t)
  byProperty : ∀ key, FoundBoth (Factory.Indistinct E) (r.byProperty.get? key)
    (r'.byProperty.get? key)
  lookups : List.Forall₂ (fun l l' => ∀ t, FoundBoth (Factory.Indistinct E) (l t) (l' t))
    r.lookups r'.lookups

/-- Every factory that the registry may answer with halts of itself with errors in `E` only. -/
structure HaltsIn (E : Halt → Prop) (r : Registry H) : Prop where
  byType : ∀ t f, r.byType.get? t = some f → f.HaltsIn E
  byProperty : ∀ key f, r.byProperty.get? key = some f → f.HaltsIn E
  lookups : ∀ lookup ∈ r.lookups, ∀ t f, lookup t = some f → f.HaltsIn E

theorem HaltsIn.mono {E F : Halt → Prop} {r : Registry H} (h : r.HaltsIn E)
    (hF : ∀ e, E e → F e) : r.HaltsIn F :=
  ⟨fun t f hf => (h.byType t f hf).mono hF, fun key f hf => (h.byProperty key f hf).mono hF,
    fun lookup hl t f hf => (h.lookups lookup hl t f hf).mono hF⟩

theorem HaltsIn.of_forall {E : Halt → Prop} (hE : ∀ e, E e) (r : Registry H) : r.HaltsIn E :=
  ⟨fun _ f _ => .of_forall hE f, fun _ f _ => .of_forall hE f, fun _ _ _ f _ => .of_forall hE f⟩

namespace Indistinct

variable {E : Halt → Prop} {r r' : Registry H} {f f' : Factory H}

theorem of_haltsIn (h : r.HaltsIn E) : r.Indistinct E r := by
  have hfound : ∀ {found : Option (Factory H)}, (∀ f, found = some f → f.HaltsIn E) →
      FoundBoth (Factory.Indistinct E) found found := by
    intro found hfound
    cases found with
    | none => exact .inr ⟨rfl, rfl⟩
    | some f => exact .inl ⟨f, f, rfl, rfl, .refl (hfound f rfl)⟩
  refine ⟨fun t => hfound (h.byType t), fun key => hfound (h.byProperty key), ?_⟩
  exact List.forall₂_same.2 fun lookup hl t => hfound (h.lookups lookup hl t)

theorem get? (h : r.Indistinct E r') (t : ValueType) :
    FoundBoth (Factory.Indistinct E) (r.get? t) (r'.get? t) := by
  unfold Registry.get?
  rcases h.byType t with ⟨f, f', hf, hf', hff'⟩ | ⟨hf, hf'⟩
  · rw [hf, hf']
    exact .inl ⟨f, f', rfl, rfl, hff'⟩
  · rw [hf, hf']
    show FoundBoth _ (r.lookups.findSome? fun lookup => lookup t)
      (r'.lookups.findSome? fun lookup => lookup t)
    have hlookups := h.lookups
    generalize r.lookups = ls, r'.lookups = ls' at hlookups
    induction hlookups with
    | nil => exact .inr ⟨rfl, rfl⟩
    | cons hl _ ih =>
      rw [List.findSome?_cons, List.findSome?_cons]
      rcases hl t with ⟨f, f', hf, hf', hff'⟩ | ⟨hf, hf'⟩
      · rw [hf, hf']
        exact .inl ⟨f, f', rfl, rfl, hff'⟩
      · rw [hf, hf']
        exact ih

theorem get (h : r.Indistinct E r') (t : ValueType) :
    Paired (Factory.Indistinct E) (r.get t) (r'.get t) := by
  unfold Registry.get
  rcases h.get? t with ⟨f, f', hf, hf', hff'⟩ | ⟨hf, hf'⟩
  · rw [hf, hf']
    exact .inl ⟨f, f', rfl, rfl, hff'⟩
  · rw [hf, hf']
    exact .inr ⟨_, rfl, rfl⟩

theorem forProperty (h : r.Indistinct E r') (owner : ValueType) (n : String) (t : ValueType) :
    Paired (Factory.Indistinct E) (r.forProperty owner n t) (r'.forProperty owner n t) := by
  unfold Registry.forProperty
  rcases h.byProperty (owner, n) with ⟨f, f', hf, hf', hff'⟩ | ⟨hf, hf'⟩
  · rw [hf, hf']
    exact .inl ⟨f, f', rfl, rfl, hff'⟩
  · rw [hf, hf']
    exact h.get t

theorem contains (h : r.Indistinct E r') (t : ValueType) : r'.contains t = r.contains t := by
  unfold Registry.contains Table.contains
  rcases h.byType t with ⟨f, f', hf, hf', -⟩ | ⟨hf, hf'⟩
  · rw [hf, hf']
    rfl
  · rw [hf, hf']

theorem register (h : r.Indistinct E r') (hf : f.Indistinct E f') :
    (r.register f).Indistinct E (r'.register f') := by
  refine ⟨fun t => ?_, h.byProperty, h.lookups⟩
  unfold Registry.register
  rw [Table.get?_insert, Table.get?_insert, hf.type]
  split
  · exact .inl ⟨f, f', rfl, rfl, hf⟩
  · exact h.byType t

/-- A property may be given another factory, or the one that it had. -/
theorem putProperty (h : r.Indistinct E r') {found found' : Option (Factory H)}
    (hfound : FoundBoth (Factory.Indistinct E) found found') (owner : ValueType) (n : String) :
    (r.restoreProperty owner n found).Indistinct E (r'.restoreProperty owner n found') := by
  refine ⟨h.byType, fun key => ?_, h.lookups⟩
  unfold Registry.restoreProperty
  rw [Table.get?_put?, Table.get?_put?]
  split
  · exact hfound
  · exact h.byProperty key

theorem registerProperty (h : r.Indistinct E r') (hf : f.Indistinct E f') (owner : ValueType)
    (n : String) :
    (r.registerProperty owner n f).Indistinct E (r'.registerProperty owner n f') :=
  h.putProperty (.inl ⟨f, f', rfl, rfl, hf⟩) owner n

end Indistinct
end Registry

/-! ## Contexts -/

namespace Context

structure Indistinct (E : Halt → Prop) (c c' : Context H) : Prop where
  rest : c.SameRest c'
  registry : c.registry.Indistinct E c'.registry
  pool : c.pool.Indistinct c'.pool
  /-- Without a depth limit every creation panics. -/
  limit : c.settings.depthLimit? = none → E (.panic .overflow)

namespace Indistinct

variable {E : Halt → Prop} {c c' : Context H}

theorem withEngine (h : c.Indistinct E c') (e : Random.Engine) :
    Context.Indistinct E { c with engine := e } { c' with engine := e } :=
  ⟨congrArg (fun c : Context H => ({ c with engine := e } : Context H)) h.rest, h.registry, h.pool,
    h.limit⟩

theorem withWorld (h : c.Indistinct E c') (w : H.World) :
    Context.Indistinct E { c with world := w } { c' with world := w } :=
  ⟨congrArg (fun c : Context H => ({ c with world := w } : Context H)) h.rest, h.registry, h.pool,
    h.limit⟩

theorem withSequence (h : c.Indistinct E c') (n : Nat) :
    Context.Indistinct E { c with sequence := n } { c' with sequence := n } :=
  ⟨congrArg (fun c : Context H => ({ c with sequence := n } : Context H)) h.rest, h.registry,
    h.pool, h.limit⟩

theorem withRegistry (h : c.Indistinct E c') {r r' : Registry H} (hr : r.Indistinct E r') :
    Context.Indistinct E { c with registry := r } { c' with registry := r' } :=
  ⟨congrArg (fun c : Context H => ({ c with registry := r' } : Context H)) h.rest, hr, h.pool,
    h.limit⟩

theorem withPool (h : c.Indistinct E c') {p p' : Pool H} (hp : p.Indistinct p') :
    Context.Indistinct E { c with pool := p } { c' with pool := p' } :=
  ⟨congrArg (fun c : Context H => ({ c with pool := p' } : Context H)) h.rest, h.registry, hp,
    h.limit⟩

theorem enter (h : c.Indistinct E c') : c.enter.Indistinct E c'.enter :=
  ⟨congrArg Context.enter h.rest, h.registry, h.pool, h.limit⟩

theorem leave (h : c.Indistinct E c') : c.leave.Indistinct E c'.leave :=
  ⟨congrArg Context.leave h.rest, h.registry, h.pool, h.limit⟩

theorem refusal (h : c.Indistinct E c') (t : ValueType) : c'.refusal t = c.refusal t := by
  unfold Context.refusal
  rw [h.rest.settings, h.rest.depth]

end Indistinct
end Context

/-! ## Creation -/

theorem Effect.InStep.caught {R : Context H → Context H → Prop} {E : Halt → Prop}
    {x y : Run H α} (h : InStep R E x y) : InStep R E (Run.caught x) (Run.caught y) :=
  fun c c' hc => Run.agree_caught ((h c c' hc).mono (fun _ _ _ h => h) fun _ _ _ h =>
    ⟨fun _ _ => h.2, h⟩)

section

variable {E : Halt → Prop} (hE : ∀ e : Halt, e.Textual H → E e)
include hE

section Creator

variable {create : Creator H} (hcreate : ∀ f f', f.Indistinct E f' → ∀ channel,
  InStep (Context.Indistinct E) E (create f channel) (create f' channel))
include hcreate

/-- Drafts go in lockstep in indistinct contexts. -/
theorem lockstep_indistinct {b b' : Blueprint H} (hb : b.Indistinct b') :
    Lockstep create b b' (Context.Indistinct E) (Factory.Indistinct E) E where
  indistinct := hb
  same _ _ h := h.rest
  withEngine _ _ e h := h.withEngine e
  withWorld _ _ w h := h.withWorld w
  lookUp _ _ h n t := h.registry.forProperty b.type n t
  lowCardinality _ _ h := h.lowCardinality
  create := hcreate
  textual := hE

namespace Run

theorem inStep_buildBy {b b' : Blueprint H} (hb : b.Indistinct b') (channel : Channel) :
    InStep (Context.Indistinct E) E (buildBy create b channel) (buildBy create b' channel) := by
  intro c c' h
  obtain ⟨⟨b₁', hb₁, hrecast⟩, hpool⟩ := h.pool.acquire hb
  have L := lockstep_indistinct hE hcreate hb₁
  have huse := (L.setAll channel false).bind fun _ => L.newBean
  have hreturned : ∀ s s', Lockstep.Drafted (c.pool.acquire b).1.blueprint b₁'
      (Context.Indistinct E) s s' → (s.2.returned s.1).Indistinct E (s'.2.returned s'.1) := by
    rintro s s' ⟨hs, hrecast, hc⟩
    refine hc.withPool (hc.pool.release ⟨b₁', ?_, hrecast⟩)
    rw [hs]
    exact hb₁
  refine agree_withPooled ((huse _ _ ⟨rfl, hrecast, h.withPool hpool⟩).mono (fun _ => hreturned) ?_)
  exact fun e s s' hs => ⟨hs.1, hreturned s s' hs.2⟩

theorem inStep_createBy (t : ValueType) (channel : Channel) :
    InStep (Context.Indistinct E) E (createBy create t channel) (createBy create t channel) := by
  refine .get fun c c' h => ?_
  rcases h.registry.get t with ⟨f, f', hf, hf', hff'⟩ | ⟨e, hf, hf'⟩
  · rw [hf, hf']
    exact hcreate f f' hff' channel
  · rw [hf, hf']
    exact .throw (hE _ (Halt.textual_failure e))

theorem inStep_program {p : Program H α} (hp : p.HaltsIn E) :
    InStep (Context.Indistinct E) E (program create p) (program create p) := by
  induction p with
  | done a => exact .pure a
  | halt h => exact .throw hp
  | engine next ih =>
    refine .get fun c c' h => ?_
    rw [h.rest.engine]
    exact ih _ (hp _)
  | setEngine e next ih =>
    exact InStep.bind (.modify fun c c' h => h.withEngine e) fun _ => ih hp
  | world next ih =>
    refine .get fun c c' h => ?_
    rw [h.rest.world]
    exact ih _ (hp _)
  | setWorld w next ih =>
    exact InStep.bind (.modify fun c c' h => h.withWorld w) fun _ => ih hp
  | sequence next ih =>
    intro c c' h
    show Effect.Agree (program create (next (c.sequence + 1))) { c with sequence := c.sequence + 1 }
      (program create (next (c'.sequence + 1))) { c' with sequence := c'.sequence + 1 } _ _
    rw [h.rest.sequence]
    exact ih _ (hp _) _ _ (h.withSequence _)
  | depth next ih =>
    refine .get fun c c' h => ?_
    rw [h.rest.depth]
    exact ih _ (hp _)
  | settings next ih =>
    refine .get fun c c' h => ?_
    rw [h.rest.settings]
    exact ih _ (hp _)
  | create t channel next ih =>
    exact (inStep_createBy hE hcreate t channel).caught.bind fun r => ih r (hp r)
  | bean b channel next ih =>
    exact (inStep_buildBy hE hcreate (.refl b) channel).caught.bind fun r => ih r (hp r)

/-- Programs of indistinct factories go in step. -/
theorem inStep_source {f f' : Factory H} (hf : f.Indistinct E f') (channel : Channel) :
    InStep (Context.Indistinct E) E (program create (f.source channel))
      (program create (f'.source channel)) := by
  rcases hf.2 with rfl | ⟨b, b', hb, rfl, rfl⟩
  · exact inStep_program hE hcreate (hf.1 channel)
  · unfold Factory.ofBlueprint
    rw [Factory.source_ofChannel, Factory.source_ofChannel]
    refine (inStep_buildBy hE hcreate hb channel).caught.bind fun r => ?_
    cases r with
    | ok v => exact .pure v
    | error e => exact .throw (hE _ (Halt.textual_failure e))

end Run

end Creator

namespace Run

variable {f f' : Factory H}

theorem inStep_refuse (hf : f.Indistinct E f') :
    InStep (Context.Indistinct E) E (refuse f) (refuse f') := by
  refine .get fun c c' h => ?_
  rw [hf.type, h.refusal]
  refine .throw ?_
  unfold Context.refusal
  cases hlimit : c.settings.depthLimit? with
  | some limit => exact hE _ (Halt.textual_failure _)
  | none => exact h.limit hlimit

theorem inStep_createWithin (levels : Nat) (hf : f.Indistinct E f') (channel : Channel) :
    InStep (Context.Indistinct E) E (createWithin levels f channel)
      (createWithin levels f' channel) := by
  induction levels generalizing f f' channel with
  | zero => exact inStep_refuse hE hf
  | succ levels ih =>
    have hsource := inStep_source hE (fun g g' hg channel => ih hg channel) hf channel
    refine .get fun c c' h => ?_
    have hlimit : c'.atDepthLimit = c.atDepthLimit := by
      unfold Context.atDepthLimit
      rw [h.rest.settings, h.rest.depth]
    rw [hlimit]
    split
    · exact inStep_refuse hE hf
    · refine InStep.bind (.modify fun c c' h => h.enter) fun _ => ?_
      exact hsource.finish fun c c' h => h.leave

/-- Indistinct factories create the same in indistinct contexts. -/
theorem inStep_create (hf : f.Indistinct E f') (channel : Channel) :
    InStep (Context.Indistinct E) E (create f channel) (create f' channel) := by
  refine .get fun c c' h => ?_
  rw [h.rest.settings, h.rest.depth]
  exact inStep_createWithin hE _ hf channel

end Run

end

end BeanContract
