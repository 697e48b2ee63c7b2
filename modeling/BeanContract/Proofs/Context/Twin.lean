/-
Contexts that create the same.

A factory that is confined (`Program.Confined`) sees the context through its engine, its depth,
the sequence, some of the settings and what it creates, and builds beans of known blueprints
only.  What such factories create then depends on just that: two contexts that agree on it
(`Context.Twin`) give the same values, errors and panics, and stay twins
(`Scope.mirrors_create`).

The pools of twins may hold any drafts, as long as each was staged as its blueprint stages:
every staged property of a bean is staged anew before the bean is built, so that nothing left
in a draft shows up in it.
-/
import BeanContract.Proofs.Context.Moments
import BeanContract.Proofs.Draft.Pool
import BeanContract.Proofs.Factory.Registry

namespace BeanContract

open Effect (Agree)

variable {H : Host} {σ α : Type}

/-- What confined factories have to do with: the blueprints that they build beans of, one for
each type and of stateless code, the properties whose factories are asked for, and what is seen
of the settings, the structural depth at least. -/
structure Scope (H : Host) (σ : Type) where
  own : Blueprint H → Prop
  asks : ValueType → String → Prop
  view : Settings → σ
  structuralDepth : ∀ s s', view s = view s' → s.structuralDepth = s'.structuralDepth
  stateless : ∀ b, own b → b.Stateless
  unique : ∀ b b', own b → own b' → b.type = b'.type → b = b'
  staged : ∀ b, own b → ∀ n ∈ b.staged, asks b.type n

/-- The program has nothing to do with the world, builds beans of the scope's blueprints only
and does the same for settings that look the same. -/
def Program.Confined (S : Scope H σ) : Program H α → Prop
  | .done _ => True
  | .halt _ => True
  | .engine next => ∀ e, (next e).Confined S
  | .setEngine _ next => next.Confined S
  | .world _ => False
  | .setWorld _ _ => False
  | .sequence next => ∀ n, (next n).Confined S
  | .depth next => ∀ n, (next n).Confined S
  | .settings next => (∀ s, (next s).Confined S) ∧ ∀ s s', S.view s = S.view s' → next s = next s'
  | .create _ _ next => ∀ r, (next r).Confined S
  | .bean b _ next => S.own b ∧ ∀ r, (next r).Confined S

theorem Program.Confined.bind {β : Type} {S : Scope H σ} {p : Program H α} {f : α → Program H β}
    (hp : p.Confined S) (hf : ∀ a, (f a).Confined S) : (p >>= f).Confined S := by
  show (p.bind f).Confined S
  induction p with
  | done a => exact hf a
  | halt h => trivial
  | engine next ih => exact fun e => ih e (hp e)
  | setEngine e next ih => exact ih hp
  | world next ih => exact hp.elim
  | setWorld w next ih => exact hp.elim
  | sequence next ih => exact fun n => ih n (hp n)
  | depth next ih => exact fun n => ih n (hp n)
  | settings next ih =>
    refine ⟨fun s => ih s (hp.1 s), fun s s' h => ?_⟩
    show (next s).bind f = (next s').bind f
    rw [hp.2 s s' h]
  | create t channel next ih => exact fun r => ih r (hp r)
  | bean b channel next ih => exact ⟨hp.1, fun r => ih r (hp.2 r)⟩

structure Draft.Clean (b : Blueprint H) (d : Draft H) : Prop where
  blueprint : d.blueprint = b
  preference : d.preference = .creator
  unstaged : ∀ n, n ∉ b.staged → d.expected.get? n = none

namespace Draft.Clean

variable {b : Blueprint H} {d : Draft H}

theorem ofBlueprint (b : Blueprint H) : (Draft.ofBlueprint b).Clean b := ⟨rfl, rfl, fun _ _ => rfl⟩

theorem put {n : String} (h : d.Clean b) (hn : n ∈ b.staged) (v : Value H) :
    (d.put n v).Clean b := by
  refine ⟨h.blueprint, h.preference, fun m hm => ?_⟩
  show (d.expected.insert n v).get? m = none
  rw [Table.get?_insert, if_neg, h.unstaged m hm]
  intro heq
  rw [heq] at hm
  exact hm hn

theorem type (h : d.Clean b) : d.type = b.type := congrArg Blueprint.type h.blueprint

end Draft.Clean

namespace Scope

def Confines (S : Scope H σ) (f : Factory H) : Prop := ∀ channel, (f.source channel).Confined S

structure Matches (S : Scope H σ) (r r' : Registry H) : Prop where
  type : ∀ t, r'.get? t = r.get? t
  property : ∀ owner n t, S.asks owner n → r'.forProperty owner n t = r.forProperty owner n t

structure Supplied (S : Scope H σ) (r : Registry H) : Prop where
  type : ∀ t f, r.get? t = some f → S.Confines f
  property : ∀ owner n t f, S.asks owner n → r.forProperty owner n t = .ok f → S.Confines f

/-- The free drafts that may be taken for beans of the scope are clean. -/
def Tidy (S : Scope H σ) (p : Pool H) : Prop :=
  p.Holds fun t d => ∀ b, S.own b → b.type = t → d.Clean b

end Scope

namespace Scope.Tidy

variable {S : Scope H σ} {p : Pool H} {b : Blueprint H} {d : Draft H}

protected theorem acquire (h : S.Tidy p) (b : Blueprint H) : S.Tidy (p.acquire b).2 :=
  Pool.Holds.acquire h b

theorem acquired (h : S.Tidy p) (hown : S.own b) : (p.acquire b).1.Clean b := by
  refine Pool.Holds.acquired h ?_ b hown rfl
  intro b' hown' htype
  rw [S.unique b' b hown' hown htype]
  exact .ofBlueprint b

protected theorem release (h : S.Tidy p) (hown : S.own b) (hd : d.Clean b) :
    S.Tidy (p.release d) := by
  refine Pool.Holds.release h fun b' hown' htype => ?_
  rw [S.unique b' b hown' hown (htype.trans hd.type)]
  exact hd

end Scope.Tidy

/-- The contexts, in both of which `n` creations are under way, agree on all that confined
factories see. -/
structure Context.Twin (S : Scope H σ) (n : Nat) (c c' : Context H) : Prop where
  engine : c'.engine = c.engine
  depth : c.depth = n
  depth' : c'.depth = n
  /-- The sequence starts anew with the next structure. -/
  sequence : n ≠ 0 → c'.sequence = c.sequence
  view : S.view c'.settings = S.view c.settings
  registry : S.Matches c.registry c'.registry
  supplied : S.Supplied c.registry
  tidy : S.Tidy c.pool
  tidy' : S.Tidy c'.pool

namespace Context.Twin

variable {S : Scope H σ} {n : Nat} {c c' : Context H}

theorem structuralDepth (h : c.Twin S n c') :
    c'.settings.structuralDepth = c.settings.structuralDepth :=
  S.structuralDepth _ _ h.view

theorem atStructuralDepth (h : c.Twin S n c') : c'.atStructuralDepth = c.atStructuralDepth := by
  unfold Context.atStructuralDepth
  rw [h.structuralDepth, h.depth, h.depth']

theorem depthLimit? (h : c.Twin S n c') :
    c'.settings.depthLimit? = c.settings.depthLimit? := by
  unfold Settings.depthLimit?
  rw [h.structuralDepth]

theorem depthLimit (h : c.Twin S n c') : c'.settings.depthLimit = c.settings.depthLimit := by
  unfold Settings.depthLimit
  rw [h.depthLimit?]

theorem refusal (h : c.Twin S n c') (t : ValueType) : c'.refusal t = c.refusal t := by
  unfold Context.refusal
  rw [h.depthLimit?, h.depth, h.depth']

theorem atDepthLimit (h : c.Twin S n c') : c'.atDepthLimit = c.atDepthLimit := by
  unfold Context.atDepthLimit
  rw [h.depthLimit, h.depth, h.depth']

theorem withEngine (h : c.Twin S n c') (e : Random.Engine) :
    Context.Twin S n { c with engine := e } { c' with engine := e } :=
  ⟨rfl, h.depth, h.depth', h.sequence, h.view, h.registry, h.supplied, h.tidy,
    h.tidy'⟩

theorem withPools (h : c.Twin S n c') {p p' : Pool H} (hp : S.Tidy p) (hp' : S.Tidy p') :
    Context.Twin S n { c with pool := p } { c' with pool := p' } :=
  ⟨h.engine, h.depth, h.depth', h.sequence, h.view, h.registry, h.supplied, hp,
    hp'⟩

theorem withSequence (h : c.Twin S n c') (k : Nat) :
    Context.Twin S n { c with sequence := k } { c' with sequence := k } :=
  ⟨h.engine, h.depth, h.depth', fun _ => rfl, h.view, h.registry, h.supplied,
    h.tidy, h.tidy'⟩

theorem enter (h : c.Twin S n c') : c.enter.Twin S (n + 1) c'.enter := by
  refine ⟨h.engine, congrArg (· + 1) h.depth, congrArg (· + 1) h.depth', fun _ => ?_,
    h.view, h.registry, h.supplied, h.tidy, h.tidy'⟩
  show (if c'.depth = 0 then 0 else c'.sequence) = if c.depth = 0 then 0 else c.sequence
  rw [h.depth, h.depth']
  split
  · rfl
  · rename_i hn
    exact h.sequence hn

theorem leave (h : c.Twin S (n + 1) c') : c.leave.Twin S n c'.leave :=
  ⟨h.engine, congrArg (· - 1) h.depth, congrArg (· - 1) h.depth',
    fun _ => h.sequence (Nat.succ_ne_zero n), h.view, h.registry, h.supplied,
    h.tidy, h.tidy'⟩

end Context.Twin

namespace Scope

/-- In twins the computation has the same outcome, and leaves twins. -/
def Mirrors (S : Scope H σ) (n : Nat) (x : Run H α) : Prop := ∀ c c', c.Twin S n c' →
  Agree x c x c' (fun _ => Context.Twin S n) fun _ => Context.Twin S n

namespace Mirrors

variable {S : Scope H σ} {n : Nat} {β : Type}

protected theorem pure (a : α) : S.Mirrors n (pure a : Run H α) := fun _ _ h => .pure h

protected theorem throw (e : Halt) : S.Mirrors n (throw e : Run H α) := fun _ _ h => .throw h

protected theorem bind {x : Run H α} {k : α → Run H β} (hx : S.Mirrors n x)
    (hk : ∀ a, S.Mirrors n (k a)) : S.Mirrors n (x >>= k) :=
  fun c c' h => (hx c c' h).bind fun a c₁ c₁' h₁ => hk a c₁ c₁' h₁

protected theorem caught {x : Run H α} (hx : S.Mirrors n x) : S.Mirrors n (Run.caught x) :=
  fun c c' h => Run.agree_caught ((hx c c' h).mono (fun _ _ _ h => h) fun _ _ _ h =>
    ⟨fun _ _ => h, h⟩)

/-- What reads a part that twins agree on goes on alike. -/
theorem ask {γ : Type} (part : Context H → γ) {k : γ → Run H α}
    (hpart : ∀ c c', c.Twin S n c' → part c' = part c) (hk : ∀ v, S.Mirrors n (k v)) :
    S.Mirrors n (do k (part (← get))) := by
  intro c c' h
  show Agree (k (part c)) c (k (part c')) c' _ _
  rw [hpart c c' h]
  exact hk _ c c' h

end Mirrors

/-! ## Staging -/

/-- Both drafts are clean, and what is staged is the same but for the properties `left`. -/
structure Staged (S : Scope H σ) (n : Nat) (b : Blueprint H) (left : List String)
    (s s' : Draft H × Context H) : Prop where
  clean : s.1.Clean b
  clean' : s'.1.Clean b
  expected : ∀ m ∈ b.staged, m ∉ left → s'.1.expected.get? m = s.1.expected.get? m
  context : s.2.Twin S n s'.2

theorem Staged.put {S : Scope H σ} {n : Nat} {b : Blueprint H} {m : String} {left : List String}
    {d d' : Draft H} {c c' c₁ c₁' : Context H} (h : Staged S n b (m :: left) (d, c) (d', c'))
    (hm : m ∈ b.staged) (v : Value H) (hc : c₁.Twin S n c₁') :
    Staged S n b left (d.put m v, c₁) (d'.put m v, c₁') := by
  refine ⟨h.clean.put hm v, h.clean'.put hm v, fun k hk hleft => ?_, hc⟩
  show (d'.expected.insert m v).get? k = (d.expected.insert m v).get? k
  rw [Table.get?_insert, Table.get?_insert]
  by_cases hkm : k = m
  · rw [if_pos hkm, if_pos hkm]
  · rw [if_neg hkm, if_neg hkm]
    exact h.expected k hk (by simp [hkm, hleft])

section Creator

variable {S : Scope H σ} {create : Creator H}
  (hcreate : ∀ n f channel, S.Confines f → S.Mirrors n (create f channel))
include hcreate

/-- Twins look up the same factory, and create the same with it. -/
theorem mirrors_lookUp (n : Nat) (look : Registry H → Except Failure (Factory H))
    (hlook : ∀ r r', S.Matches r r' → look r' = look r)
    (hconfined : ∀ r f, S.Supplied r → look r = .ok f → S.Confines f) (channel : Channel) :
    S.Mirrors n (do
      let c ← get
      let f ← Run.ofResult (look c.registry)
      create f channel) := by
  intro c c' h
  show Agree (Run.ofResult (look c.registry) >>= fun f => create f channel) c
    (Run.ofResult (look c'.registry) >>= fun f => create f channel) c' _ _
  rw [hlook _ _ h.registry]
  refine Agree.bind (Q := fun f c₁ c₁' => S.Confines f ∧ c₁.Twin S n c₁') ?_
    fun f c₁ c₁' h₁ => hcreate n f channel h₁.1 c₁ c₁' h₁.2
  exact .ofExcept (fun f hf => ⟨hconfined _ f h.supplied hf, h⟩) fun _ _ => h

theorem mirrors_createBy (n : Nat) (t : ValueType) (channel : Channel) :
    S.Mirrors n (Run.createBy create t channel) := by
  refine mirrors_lookUp hcreate n (fun r => r.get t) ?_ ?_ channel
  · exact fun r r' h => Registry.get_congr (h.type t)
  · exact fun r f h hf => h.type t f (Registry.get_eq_ok.1 hf)

theorem mirrors_createFor (n : Nat) {owner : ValueType} {m : String} (hasks : S.asks owner m)
    (t : ValueType) (channel : Channel) : S.Mirrors n (do
      let c ← get
      let f ← Run.ofResult (c.registry.forProperty owner m t)
      create f channel) := by
  refine mirrors_lookUp hcreate n (fun r => r.forProperty owner m t) ?_ ?_ channel
  · exact fun r r' h => h.property owner m t hasks
  · exact fun r f h hf => h.property owner m t f hasks hf

theorem agree_draw {n : Nat} {b : Blueprint H} {d d' : Draft H} {m : String} (hown : S.own b)
    (hm : m ∈ b.staged) (hd : d.Clean b) (hd' : d'.Clean b) (channel : Channel)
    {c c' : Context H} (h : c.Twin S n c') :
    Agree (d.draw create m channel) c (d'.draw create m channel) c'
      (fun _ => Context.Twin S n) fun _ => Context.Twin S n := by
  have htype : d'.propertyType m = d.propertyType m := by
    unfold Draft.propertyType Draft.beanName
    rw [hd.blueprint, hd'.blueprint]
  unfold Draft.draw Draft.factory
  rw [htype, hd.type, hd'.type, bind_assoc]
  refine Agree.bind (Q := fun _ => Context.Twin S n) (.ofExcept (fun _ _ => h) fun _ _ => h) ?_
  intro t c₁ c₁' h₁
  exact mirrors_createFor hcreate n (S.staged b hown m hm) t channel c₁ c₁' h₁

theorem agree_valueFor {n : Nat} {b : Blueprint H} {d d' : Draft H} {m : String}
    (hown : S.own b) (hm : m ∈ b.staged) (hd : d.Clean b) (hd' : d'.Clean b) (channel : Channel)
    {c c' : Context H} (h : c.Twin S n c') :
    Agree (Stage.valueFor create channel false d m) c (Stage.valueFor create channel false d' m) c'
      (fun _ => Context.Twin S n) fun _ => Context.Twin S n := by
  have hleft := Stage.valueFor_eq create d m channel c
  have hright := Stage.valueFor_eq create d' m channel c'
  rw [hd.blueprint] at hleft
  rw [hd'.blueprint, h.atStructuralDepth] at hright
  by_cases hnull : (b.isNullable m && c.atStructuralDepth) = true
  · rw [if_pos hnull] at hleft hright
    exact .of_ok hleft hright h
  · rw [if_neg hnull] at hleft hright
    exact (agree_draw hcreate hown hm hd hd' channel h).congr hleft hright

theorem agree_setEach {n : Nat} {b : Blueprint H} (hown : S.own b) (channel : Channel)
    {left : List String} (hleft : ∀ m ∈ left, m ∈ b.staged) {s s' : Draft H × Context H}
    (h : Staged S n b left s s') :
    Agree (Stage.setEach create channel left) s (Stage.setEach create channel left) s'
      (fun _ => Staged S n b []) fun _ => Staged S n b b.staged := by
  induction left generalizing s s' with
  | nil => exact .pure h
  | cons m left ih =>
    -- Staging `m` in both drafts takes it off the properties in which they may differ.
    have hm := hleft m List.mem_cons_self
    have hrest : ∀ k ∈ left, k ∈ b.staged := fun k hk => hleft k (List.mem_cons_of_mem m hk)
    have hone : Agree (do
        let d ← Stage.draft
        let v ← Stage.ofRun (Stage.valueFor create channel false d m)
        Stage.change (·.put m v)) s (do
        let d ← Stage.draft
        let v ← Stage.ofRun (Stage.valueFor create channel false d m)
        Stage.change (·.put m v)) s' (fun _ => Staged S n b left) fun _ => Staged S n b b.staged := by
      have hvalue := agree_valueFor hcreate hown hm h.clean h.clean' channel h.context
      show Agree (Stage.ofRun (Stage.valueFor create channel false s.1 m) >>= fun v =>
        Stage.change (·.put m v)) s (Stage.ofRun (Stage.valueFor create channel false s'.1 m) >>=
          fun v => Stage.change (·.put m v)) s' _ _
      refine Agree.bind (Q := fun v u u' => Staged S n b left (u.1.put m v, u.2)
        (u'.1.put m v, u'.2)) (.zoom (hvalue.mono ?_ ?_)) ?_
      · exact fun v c c' hc => h.put hm v hc
      · exact fun _ c c' hc => ⟨h.clean, h.clean', fun k hk hnot => absurd hk hnot, hc⟩
      · exact fun v u u' hu => .of_ok rfl rfl hu
    exact hone.bind fun _ u u' hu => ih hrest hu

omit hcreate in
/-- Beans of the scope are the same if the same was staged for them. -/
theorem agree_newBean {n : Nat} {b : Blueprint H} (hown : S.own b) {s s' : Draft H × Context H}
    (h : Staged S n b [] s s') :
    Agree (Stage.probe Draft.newBean) s (Stage.probe Draft.newBean) s'
      (fun _ => Staged S n b []) fun _ => Staged S n b b.staged := by
  obtain ⟨d, c⟩ := s
  obtain ⟨d', c'⟩ := s'
  have hexpected : ∀ m, d'.expected.get? m = d.expected.get? m := by
    intro m
    by_cases hm : m ∈ b.staged
    · exact h.expected m hm List.not_mem_nil
    · -- No value was ever put into a clean draft for such a property.
      rw [h.clean.unstaged m hm, h.clean'.unstaged m hm]
  have hbean : d'.newBean = d.newBean := Draft.newBean_congr
    (h.clean'.blueprint.trans h.clean.blueprint.symm) h.clean'.preference h.clean.preference
    hexpected
  have hstateless : Effect.Stateless d.newBean := by
    refine Draft.newBean_stateless ?_
    rw [h.clean.blueprint]
    exact S.stateless b hown
  show Agree (Stage.ofRun (Run.ofProbe d.newBean)) (d, c)
    (Stage.ofRun (Run.ofProbe d'.newBean)) (d', c') _ _
  rw [hbean]
  refine .zoom (.zoom (.of_stateless hstateless (fun v => ?_) fun e => ?_))
  · exact ⟨h.clean, h.clean', h.expected, h.context⟩
  · exact ⟨h.clean, h.clean', fun k hk hnot => absurd hk hnot, h.context⟩

theorem mirrors_buildBy {n : Nat} {b : Blueprint H} (hown : S.own b) (channel : Channel) :
    S.Mirrors n (Run.buildBy create b channel) := by
  intro c c' h
  refine Run.agree_withPooled ?_
  have hstaged : Staged S n b b.staged ((c.pool.acquire b).1, c.taken b)
      ((c'.pool.acquire b).1, c'.taken b) :=
    ⟨h.tidy.acquired hown, h.tidy'.acquired hown, fun m hm hnot => absurd hm hnot,
      h.withPools (h.tidy.acquire b) (h.tidy'.acquire b)⟩
  have hreturned : ∀ left s s', Staged S n b left s s' →
      (s.2.returned s.1).Twin S n (s'.2.returned s'.1) := fun left s s' hs =>
    hs.context.withPools (hs.context.tidy.release hown hs.clean)
      (hs.context.tidy'.release hown hs.clean')
  have huse := (agree_setEach hcreate hown channel (fun _ hm => hm) hstaged).bind
    fun _ s s' hs => agree_newBean hown hs
  show Agree (Stage.setEach create channel (c.pool.acquire b).1.blueprint.staged >>= fun _ =>
    Stage.probe Draft.newBean) _ (Stage.setEach create channel
      (c'.pool.acquire b).1.blueprint.staged >>= fun _ => Stage.probe Draft.newBean) _ _ _
  rw [hstaged.clean.blueprint, hstaged.clean'.blueprint]
  exact huse.mono (fun _ => hreturned []) fun _ => hreturned b.staged

theorem mirrors_program {n : Nat} {p : Program H α} (hp : p.Confined S) :
    S.Mirrors (n + 1) (Run.program create p) := by
  induction p with
  | done a => exact .pure a
  | halt h => exact .throw h
  | engine next ih => exact .ask Context.engine (fun _ _ h => h.engine) fun e => ih e (hp e)
  | setEngine e next ih =>
    intro c c' h
    exact ih hp _ _ (h.withEngine e)
  | world next ih => exact hp.elim
  | setWorld w next ih => exact hp.elim
  | sequence next ih =>
    intro c c' h
    have hsequence := h.sequence (Nat.succ_ne_zero n)
    show Agree (Run.program create (next (c.sequence + 1))) { c with sequence := c.sequence + 1 }
      (Run.program create (next (c'.sequence + 1))) { c' with sequence := c'.sequence + 1 } _ _
    rw [hsequence]
    exact ih _ (hp _) _ _ (h.withSequence _)
  | depth next ih => 
    exact .ask Context.depth (fun _ _ h => h.depth'.trans h.depth.symm) fun k => ih k (hp k)
  | settings next ih =>
    intro c c' h
    show Agree (Run.program create (next c.settings)) c (Run.program create (next c'.settings)) c'
      _ _
    rw [hp.2 c'.settings c.settings h.view]
    exact ih _ (hp.1 _) c c' h
  | create t channel next ih =>
    exact (mirrors_createBy hcreate (n + 1) t channel).caught.bind fun r => ih r (hp r)
  | bean b channel next ih =>
    exact (mirrors_buildBy hcreate hp.1 channel).caught.bind fun r => ih r (hp.2 r)

end Creator

theorem mirrors_refuse {S : Scope H σ} (n : Nat) (f : Factory H) :
    S.Mirrors n (Run.refuse f) := by
  intro c c' h
  have hleft : Run.refuse f c = .error (c.refusal f.type) c := rfl
  have hright : Run.refuse f c' = .error (c'.refusal f.type) c' := rfl
  rw [h.refusal] at hright
  exact .of_error hleft hright h

theorem mirrors_createWithin {S : Scope H σ} (levels n : Nat) {f : Factory H}
    (hf : S.Confines f) (channel : Channel) :
    S.Mirrors n (Run.createWithin levels f channel) := by
  -- The twins are at one depth, so that both are at the limit or neither is.
  induction levels generalizing n f channel with
  | zero => exact mirrors_refuse n f
  | succ levels ih =>
    have hprogram : S.Mirrors (n + 1) (Run.program (Run.createWithin levels) (f.source channel)) :=
      mirrors_program (fun n g ch hg => ih n hg ch) (hf channel)
    intro c c' h
    show Agree (if c.atDepthLimit then Run.refuse f else _ : Run H (Value H)) c
      (if c'.atDepthLimit then Run.refuse f else _ : Run H (Value H)) c' _ _
    rw [h.atDepthLimit]
    split
    · exact mirrors_refuse n f c c' h
    · show Agree (Effect.finish _ Context.leave) c.enter (Effect.finish _ Context.leave) c'.enter
        _ _
      exact .finish ((hprogram _ _ h.enter).mono (fun _ _ _ h₁ => h₁.leave)
        fun _ _ _ h₁ => h₁.leave)

/-- Confined factories create the same in twins. -/
theorem mirrors_create {S : Scope H σ} (n : Nat) {f : Factory H} (hf : S.Confines f)
    (channel : Channel) : S.Mirrors n (Run.create f channel) := by
  intro c c' h
  show Agree (Run.createWithin (c.settings.depthLimit - c.depth) f channel) c
    (Run.createWithin (c'.settings.depthLimit - c'.depth) f channel) c' _ _
  rw [h.depthLimit, h.depth, h.depth']
  exact mirrors_createWithin _ n hf channel c c' h

end Scope
end BeanContract
