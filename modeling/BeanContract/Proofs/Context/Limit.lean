/-
The depth limit.

The limit is eight levels below the structural depth.  As long as that sum is a 64-bit word, a
creation is refused exactly if as many creations are under way, and a leaf is always created with
none under way; past that every creation panics (`Run.create_limited`).

A factory that takes no notice of the structural depth (`Program.Heedless`) does the same whatever
that is, until a creation is refused.  It passes refusals on, so that what it has created it also
creates with a larger structural depth.  The proof follows two runs of one program, in contexts that
are the same but for the structural depth (`Context.Raised`): they agree unless the run with the
lower limit meets it.
-/
import BeanContract.Proofs.Factory.Generation

namespace BeanContract

variable {H : Host} {α β : Type}

/-! ## Runs that agree unless one of them is refused -/

namespace Effect

variable {ε σ τ : Type}

/-- From `s` the first computation fails with an error in `R`, or agrees with the second one
from `t`. -/
def AgreeUnless (R : ε → Prop) (x : EStateM ε σ α) (s : σ) (y : EStateM ε τ α) (t : τ)
    (Q : σ → τ → Prop) : Prop :=
  (∃ e s', x s = .error e s' ∧ R e) ∨ Agree x s y t (fun _ => Q) fun _ => Q

namespace AgreeUnless

variable {R : ε → Prop} {x : EStateM ε σ α} {y : EStateM ε τ α} {s : σ} {t : τ}
  {Q Q' : σ → τ → Prop}

theorem of_agree (h : Agree x s y t (fun _ => Q) fun _ => Q) : AgreeUnless R x s y t Q := .inr h

theorem of_refused {e : ε} {s' : σ} (hx : x s = .error e s') (he : R e) :
    AgreeUnless R x s y t Q :=
  .inl ⟨e, s', hx, he⟩

protected theorem pure {a : α} (h : Q s t) :
    AgreeUnless R (pure a : EStateM ε σ α) s (pure a : EStateM ε τ α) t Q :=
  .of_agree (.pure h)

protected theorem throw {e : ε} (h : Q s t) :
    AgreeUnless R (throw e : EStateM ε σ α) s (throw e : EStateM ε τ α) t Q :=
  .of_agree (.throw h)

theorem mono (h : AgreeUnless R x s y t Q) (hQ : ∀ s t, Q s t → Q' s t) :
    AgreeUnless R x s y t Q' :=
  h.imp_right fun h => h.mono (fun _ => hQ) fun _ => hQ

/-- Only the outcomes of the computations matter. -/
theorem congr {x' : EStateM ε σ α} {y' : EStateM ε τ α} {s' : σ} {t' : τ}
    (h : AgreeUnless R x s y t Q) (hx : x' s' = x s) (hy : y' t' = y t) :
    AgreeUnless R x' s' y' t' Q := by
  rcases h with ⟨e, u, hu, he⟩ | h
  · exact .of_refused (hx.trans hu) he
  · exact .of_agree (h.congr hx hy)

protected theorem bind {k : α → EStateM ε σ β} {l : α → EStateM ε τ β} {P : σ → τ → Prop}
    (h : AgreeUnless R x s y t P) (hP : ∀ s t, P s t → Q s t)
    (hk : ∀ a s' t', P s' t' → AgreeUnless R (k a) s' (l a) t' Q) :
    AgreeUnless R (x >>= k) s (y >>= l) t Q := by
  rcases h with ⟨e, u, hu, he⟩ | h
  · exact .of_refused (bind_of_error hu k) he
  · cases h.cases with
    | inl h =>
      obtain ⟨a, s', t', hx, hy, h⟩ := h
      exact (hk a s' t' h).congr (bind_of_ok hx k) (bind_of_ok hy l)
    | inr h =>
      obtain ⟨e, s', t', hx, hy, h⟩ := h
      exact .of_agree (.of_error (bind_of_error hx k) (bind_of_error hy l) (hP s' t' h))

protected theorem zoom {υ : Type} {part : σ → τ} {put : σ → τ → σ} {part' : υ → τ}
    {put' : υ → τ → υ} {x y : EStateM ε τ α} {s : σ} {u : υ} {Q : σ → υ → Prop}
    (h : AgreeUnless R x (part s) y (part' u) fun a b => Q (put s a) (put' u b)) :
    AgreeUnless R (zoom part put x) s (zoom part' put' y) u Q := by
  rcases h with ⟨e, v, hv, he⟩ | h
  · have hzoom : Effect.zoom part put x s = .error e (put s v) := by
      simp only [Effect.zoom, focus, hv, id]
    exact .of_refused hzoom he
  · exact .of_agree (.zoom h)

protected theorem finish {cleanup : σ → σ} {cleanup' : τ → τ}
    (h : AgreeUnless R x s y t fun s' t' => Q (cleanup s') (cleanup' t')) :
    AgreeUnless R (finish x cleanup) s (finish y cleanup') t Q := by
  rcases h with ⟨e, s', hs', he⟩ | h
  · have hfinish : Effect.finish x cleanup s = .error e (cleanup s') := by
      simp only [Effect.finish, hs']
    exact .of_refused hfinish he
  · exact .of_agree (.finish h)

protected theorem each {f : β → EStateM ε σ Unit} {g : β → EStateM ε τ Unit} {l : List β}
    (step : ∀ b ∈ l, ∀ s t, Q s t → AgreeUnless R (f b) s (g b) t Q) (h : Q s t) :
    AgreeUnless R (each f l) s (each g l) t Q := by
  induction l generalizing s t with
  | nil => exact .pure h
  | cons b bs ih =>
    refine (step b List.mem_cons_self s t h).bind (fun _ _ h => h) fun _ s' t' h' => ?_
    exact ih (fun c hc => step c (List.mem_cons_of_mem b hc)) h'

end AgreeUnless
end Effect

open Effect (Agree AgreeUnless)

/-! ## Factories that take no notice of the structural depth -/

def Failure.IsTooDeep (f : Failure) : Prop := ∃ t n notes, f = .configuration (.tooDeep t n) notes

def Halt.IsTooDeep (h : Halt) : Prop := ∃ f : Failure, h = .failure f ∧ f.IsTooDeep

namespace Program

/-- A refusal is not made up for. -/
def PassesOn (next : Except Failure (Value H) → Program H α) : Prop :=
  ∀ f : Failure, f.IsTooDeep → ∃ h : Halt, h.IsTooDeep ∧ next (.error f) = .halt h

/-- The program does the same whatever the structural depth is, and passes refusals on.  It creates
values of some types and builds beans of some blueprints only. -/
def Heedless (types : ValueType → Prop) (beans : Blueprint H → Prop) : Program H α → Prop
  | .done _ => True
  | .halt _ => True
  | .engine next => ∀ e, (next e).Heedless types beans
  | .setEngine _ next => next.Heedless types beans
  | .world next => ∀ w, (next w).Heedless types beans
  | .setWorld _ next => next.Heedless types beans
  | .sequence next => ∀ n, (next n).Heedless types beans
  | .depth next => ∀ n, (next n).Heedless types beans
  | .settings next => (∀ s, (next s).Heedless types beans) ∧
      ∀ (s : Settings) depth, next { s with structuralDepth := depth } = next s
  | .create t _ next => types t ∧ PassesOn next ∧ ∀ r, (next r).Heedless types beans
  | .bean b _ next => beans b ∧ PassesOn next ∧ ∀ r, (next r).Heedless types beans

end Program

def Factory.Heedless (types : ValueType → Prop) (beans : Blueprint H → Prop) (f : Factory H) :
    Prop :=
  ∀ channel, (f.source channel).Heedless types beans

/-- The factories of these types, and those that beans of these blueprints draw from, take no
notice of the structural depth.  The beans do not either, as no property of theirs can be null. -/
structure Registry.Heedless (types : ValueType → Prop) (beans : Blueprint H → Prop)
    (r : Registry H) : Prop where
  type : ∀ t f, types t → r.get? t = some f → f.Heedless types beans
  property : ∀ b, beans b → ∀ n ∈ b.staged, ∀ p f, b.property? n = some p →
    r.forProperty b.type n p.type = .ok f → f.Heedless types beans
  nullable : ∀ b, beans b → ∀ n ∈ b.staged, b.isNullable n = false

theorem Program.passesOn_ofResult : PassesOn (ofResult : Except Failure (Value H) → _) :=
  fun f hf => ⟨.failure f, ⟨f, rfl, hf⟩, rfl⟩

theorem Program.heedless_ofResult {types : ValueType → Prop} {beans : Blueprint H → Prop}
    (r : Except Failure α) : (ofResult r : Program H α).Heedless types beans := by
  cases r <;> trivial

/-- The factory of beans leaves it to their properties. -/
theorem Factory.heedless_ofBlueprint {types : ValueType → Prop} {beans : Blueprint H → Prop}
    {b : Blueprint H} (hb : beans b) : (ofBlueprint b).Heedless types beans := by
  intro channel
  rw [ofBlueprint, source_ofChannel]
  exact ⟨hb, Program.passesOn_ofResult, Program.heedless_ofResult⟩

/-! ## Raising the structural depth -/

/-- The second context is the first one with another structural depth.  What the first one was set
up with is known, and which blueprints its free drafts have. -/
structure Context.Raised (beans : Blueprint H → Prop) (r : Registry H) (settings : Settings)
    (high : UInt64) (n : Nat) (c c' : Context H) : Prop where
  raised : c' = c.setStructuralDepth high
  registry : c.registry = r
  settings : c.settings = settings
  depth : c.depth = n
  pool : c.pool.Holds fun t d => (∃ b, beans b ∧ b.type = t) → beans d.blueprint

namespace Context.Raised

variable {beans : Blueprint H → Prop} {r : Registry H} {settings : Settings} {high : UInt64}
  {n : Nat} {c c' : Context H}

/-- Only the structural depth differs. -/
theorem part_eq {γ : Type} (h : c.Raised beans r settings high n c') (part : Context H → γ)
    (hpart : ∀ c, part (Context.setStructuralDepth c high) = part c) : part c' = part c := by
  rw [h.raised, hpart]

theorem withEngine (h : c.Raised beans r settings high n c') (e : Random.Engine) :
    Context.Raised beans r settings high n { c with engine := e } { c' with engine := e } := by
  obtain ⟨rfl, hregistry, hsettings, hdepth, hpool⟩ := h
  exact ⟨rfl, hregistry, hsettings, hdepth, hpool⟩

theorem withWorld (h : c.Raised beans r settings high n c') (w : H.World) :
    Context.Raised beans r settings high n { c with world := w } { c' with world := w } := by
  obtain ⟨rfl, hregistry, hsettings, hdepth, hpool⟩ := h
  exact ⟨rfl, hregistry, hsettings, hdepth, hpool⟩

theorem withSequence (h : c.Raised beans r settings high n c') (k : Nat) :
    Context.Raised beans r settings high n { c with sequence := k } { c' with sequence := k } := by
  obtain ⟨rfl, hregistry, hsettings, hdepth, hpool⟩ := h
  exact ⟨rfl, hregistry, hsettings, hdepth, hpool⟩

theorem enter (h : c.Raised beans r settings high n c') :
    c.enter.Raised beans r settings high (n + 1) c'.enter := by
  obtain ⟨rfl, hregistry, hsettings, hdepth, hpool⟩ := h
  exact ⟨rfl, hregistry, hsettings, congrArg (· + 1) hdepth, hpool⟩

theorem leave (h : c.Raised beans r settings high (n + 1) c') :
    c.leave.Raised beans r settings high n c'.leave := by
  obtain ⟨rfl, hregistry, hsettings, hdepth, hpool⟩ := h
  exact ⟨rfl, hregistry, hsettings, congrArg (· - 1) hdepth, hpool⟩

theorem taken (h : c.Raised beans r settings high n c') (b : Blueprint H) :
    (c.taken b).Raised beans r settings high n (c'.taken b) := by
  obtain ⟨rfl, hregistry, hsettings, hdepth, hpool⟩ := h
  exact ⟨rfl, hregistry, hsettings, hdepth, hpool.acquire b⟩

theorem returned (h : c.Raised beans r settings high n c') {d : Draft H}
    (hd : beans d.blueprint) :
    (c.returned d).Raised beans r settings high n (c'.returned d) := by
  obtain ⟨rfl, hregistry, hsettings, hdepth, hpool⟩ := h
  exact ⟨rfl, hregistry, hsettings, hdepth, hpool.release fun _ => hd⟩

end Context.Raised

section Creator

variable {types : ValueType → Prop} {beans : Blueprint H → Prop} {r : Registry H}
  {settings : Settings} {high : UInt64} {n : Nat} {create : Creator H} {c c' : Context H}

/-- With a raised structural depth the computation does the same, unless it is refused without. -/
def Run.Rises (beans : Blueprint H → Prop) (r : Registry H) (settings : Settings)
    (high : UInt64) (n : Nat) (x : Run H α) : Prop :=
  ∀ c c', c.Raised beans r settings high n c' →
    AgreeUnless Halt.IsTooDeep x c x c' (Context.Raised beans r settings high n)

namespace Run.Rises

/-- A refusal that is caught and passed on is a refusal. -/
theorem caught_bind {x : Run H α} {k : Except Failure α → Run H β}
    (hx : Rises beans r settings high n x) (hk : ∀ a, Rises beans r settings high n (k a))
    (hpass : ∀ f : Failure, f.IsTooDeep → ∃ h : Halt, h.IsTooDeep ∧ k (.error f) = throw h) :
    Rises beans r settings high n (caught x >>= k) := by
  intro c c' h
  rcases hx c c' h with ⟨_, c₁, hc₁, f, rfl, hf⟩ | hagree
  · have hcaught : caught x c = .ok (.error f) c₁ := by simp only [caught, hc₁]
    obtain ⟨e, he, heq⟩ := hpass f hf
    have hbind : (caught x >>= k) c = .error e c₁ := by
      rw [Effect.bind_of_ok hcaught, heq]
      rfl
    exact .of_refused hbind he
  · refine AgreeUnless.bind (P := Context.Raised beans r settings high n)
      (.of_agree (agree_caught (hagree.mono (fun _ _ _ h => h) fun _ _ _ h => ⟨fun _ _ => h, h⟩)))
      (fun _ _ h => h) fun a c₁ c₁' h₁ => hk a c₁ c₁' h₁

end Run.Rises

variable (hcreate : ∀ f channel, f.Heedless types beans →
    Run.Rises beans r settings high n (create f channel)) (hr : r.Heedless types beans)
include hcreate hr

theorem Run.rises_createBy {t : ValueType} (ht : types t) (channel : Channel) :
    Rises beans r settings high n (createBy create t channel) := by
  intro c c' h
  have hregistry := h.part_eq Context.registry fun _ => rfl
  show AgreeUnless _ (ofResult (c.registry.get t) >>= fun f => create f channel) c
    (ofResult (c'.registry.get t) >>= fun f => create f channel) c' _
  rw [hregistry, h.registry]
  cases hf : r.get t with
  | error e => exact .throw h
  | ok f => exact hcreate f channel (hr.type t f ht (Registry.get_eq_ok.1 hf)) c c' h

namespace Stage

def Same (beans : Blueprint H → Prop) (r : Registry H) (settings : Settings) (high : UInt64)
    (n : Nat) (b : Blueprint H) (s s' : Draft H × Context H) : Prop :=
  ∃ d c c', s = (d, c) ∧ s' = (d, c') ∧ d.blueprint = b ∧ c.Raised beans r settings high n c'

theorem rises_valueFor {d : Draft H} {m : String} (hd : beans d.blueprint)
    (hm : m ∈ d.blueprint.staged) (channel : Channel) :
    Run.Rises beans r settings high n (valueFor create channel false d m) := by
  intro c c' h
  have hvalue := valueFor_eq create d m channel
  simp only [hr.nullable d.blueprint hd m hm, Bool.false_and, Bool.false_eq_true, if_false]
    at hvalue
  refine AgreeUnless.congr ?_ (hvalue c) (hvalue c')
  have hregistry := h.part_eq Context.registry fun _ => rfl
  unfold Draft.draw Draft.factory Draft.propertyType
  cases hp : d.blueprint.property? m with
  | none => exact .throw h
  | some p =>
    show AgreeUnless _ (Run.ofResult (c.registry.forProperty d.type m p.type) >>= fun f =>
      create f channel) c (Run.ofResult (c'.registry.forProperty d.type m p.type) >>= fun f =>
        create f channel) c' _
    rw [hregistry, h.registry]
    cases hf : r.forProperty d.type m p.type with
    | error e => exact .throw h
    | ok f => exact hcreate f channel (hr.property _ hd m hm p f hp hf) c c' h

/-- Every property that gets a value gets the same one. -/
theorem same_setAll {b : Blueprint H} (hb : beans b) {s s' : Draft H × Context H}
    (h : Same beans r settings high n b s s') (channel : Channel) :
    AgreeUnless Halt.IsTooDeep (setAll create channel false) s (setAll create channel false) s'
      (Same beans r settings high n b) := by
  have hone : ∀ m ∈ b.staged, ∀ s s', Same beans r settings high n b s s' →
      AgreeUnless Halt.IsTooDeep (do
        let d ← draft
        let v ← Stage.ofRun (valueFor create channel false d m)
        change (·.put m v)) s (do
        let d ← draft
        let v ← Stage.ofRun (valueFor create channel false d m)
        change (·.put m v)) s' (Same beans r settings high n b) := by
    rintro m hm _ _ ⟨d, c, c', rfl, rfl, rfl, hc⟩
    have hvalue := rises_valueFor hcreate hr hb hm channel c c' hc
    show AgreeUnless _ (ofRun (valueFor create channel false d m) >>= fun v =>
      change (·.put m v)) (d, c) (ofRun (valueFor create channel false d m) >>= fun v =>
        change (·.put m v)) (d, c') _
    refine AgreeUnless.bind (P := Same beans r settings high n d.blueprint)
      (.zoom (hvalue.mono fun c₁ c₁' h => ⟨d, c₁, c₁', rfl, rfl, rfl, h⟩)) (fun _ _ h => h) ?_
    rintro v _ _ ⟨d₁, c₁, c₁', rfl, rfl, hd₁, hc₁⟩
    exact .of_agree (.of_ok rfl rfl ⟨d₁.put m v, c₁, c₁', rfl, rfl, hd₁, hc₁⟩)
  obtain ⟨d, c, c', rfl, rfl, rfl, hc⟩ := h
  exact AgreeUnless.each hone ⟨d, c, c', rfl, rfl, rfl, hc⟩

omit hcreate hr in
/-- Beans are built without a look at the settings. -/
theorem same_newBean {b : Blueprint H} {s s' : Draft H × Context H}
    (h : Same beans r settings high n b s s') :
    AgreeUnless Halt.IsTooDeep (probe Draft.newBean) s (probe Draft.newBean) s'
      (Same beans r settings high n b) := by
  obtain ⟨d, c, c', rfl, rfl, hd, hc⟩ := h
  have hworld := hc.part_eq Context.world fun _ => rfl
  have hsame : Agree d.newBean c.world d.newBean c'.world (fun _ w w' => w' = w)
      fun _ w w' => w' = w := by
    rw [hworld]
    exact (Agree.refl (E := fun _ => True) (fun _ _ _ _ => trivial) _).mono (fun _ _ _ h => h)
      fun _ _ _ h => h.2
  show AgreeUnless _ (ofRun (Run.ofProbe d.newBean)) (d, c) (ofRun (Run.ofProbe d.newBean)) (d, c')
    _
  refine .of_agree (.zoom (.zoom (hsame.mono ?_ ?_)))
  · rintro _ w w' rfl
    exact ⟨d, _, _, rfl, rfl, hd, hc.withWorld w'⟩
  · rintro _ w w' rfl
    exact ⟨d, _, _, rfl, rfl, hd, hc.withWorld w'⟩

end Stage

namespace Run

theorem rises_buildBy {b : Blueprint H} (hb : beans b) (channel : Channel) :
    Rises beans r settings high n (buildBy create b channel) := by
  intro c c' h
  have hpool := h.part_eq Context.pool fun _ => rfl
  have hd : beans (c.pool.acquire b).1.blueprint :=
    Pool.Holds.acquired h.pool (fun _ => hb) ⟨b, hb, rfl⟩
  have hacquired : Stage.Same beans r settings high n (c.pool.acquire b).1.blueprint
      ((c.pool.acquire b).1, c.taken b) ((c'.pool.acquire b).1, c'.taken b) :=
    ⟨_, _, _, rfl, by rw [hpool], rfl, h.taken b⟩
  have huse := (Stage.same_setAll hcreate hr hd hacquired channel).bind (fun _ _ h => h)
    fun _ s s' => Stage.same_newBean
  have hreturned : ∀ s s', Stage.Same beans r settings high n (c.pool.acquire b).1.blueprint s s' →
      (s.2.returned s.1).Raised beans r settings high n (s'.2.returned s'.1) := by
    rintro _ _ ⟨d₁, c₁, c₁', rfl, rfl, hd₁, hc₁⟩
    exact hc₁.returned (hd₁ ▸ hd)
  rcases huse with ⟨e, s, hs, he⟩ | hagree
  · have hbuild : buildBy create b channel c = .error e (s.2.returned s.1) := by
      unfold buildBy
      rw [withPooled_eq, hs]
    exact .of_refused hbuild he
  · exact .of_agree (agree_withPooled (hagree.mono (fun _ => hreturned) fun _ => hreturned))

theorem rises_program {p : Program H α} (hp : p.Heedless types beans) :
    Rises beans r settings high n (program create p) := by
  induction p with
  | done a => exact fun c c' h => .pure h
  | halt e => exact fun c c' h => .throw h
  | engine next ih =>
    intro c c' h
    have hengine := h.part_eq Context.engine fun _ => rfl
    show AgreeUnless _ (program create (next c.engine)) c (program create (next c'.engine)) c' _
    rw [hengine]
    exact ih _ (hp _) c c' h
  | setEngine e next ih => exact fun c c' h => ih hp _ _ (h.withEngine e)
  | world next ih =>
    intro c c' h
    have hworld := h.part_eq Context.world fun _ => rfl
    show AgreeUnless _ (program create (next c.world)) c (program create (next c'.world)) c' _
    rw [hworld]
    exact ih _ (hp _) c c' h
  | setWorld w next ih => exact fun c c' h => ih hp _ _ (h.withWorld w)
  | sequence next ih =>
    intro c c' h
    have hsequence := h.part_eq Context.sequence fun _ => rfl
    show AgreeUnless _ (program create (next (c.sequence + 1)))
      { c with sequence := c.sequence + 1 } (program create (next (c'.sequence + 1)))
      { c' with sequence := c'.sequence + 1 } _
    rw [hsequence]
    exact ih _ (hp _) _ _ (h.withSequence _)
  | depth next ih =>
    intro c c' h
    have hdepth := h.part_eq Context.depth fun _ => rfl
    show AgreeUnless _ (program create (next c.depth)) c (program create (next c'.depth)) c' _
    rw [hdepth]
    exact ih _ (hp _) c c' h
  | settings next ih =>
    intro c c' h
    have hsettings : next c'.settings = next c.settings := by
      rw [h.raised]
      exact hp.2 c.settings high
    show AgreeUnless _ (program create (next c.settings)) c (program create (next c'.settings)) c'
      _
    rw [hsettings]
    exact ih _ (hp.1 _) c c' h
  | create t channel next ih =>
    obtain ⟨ht, hpass, hnext⟩ := hp
    refine Rises.caught_bind (rises_createBy hcreate hr ht channel) (fun a => ih a (hnext a)) ?_
    intro f hf
    obtain ⟨e, he, heq⟩ := hpass f hf
    exact ⟨e, he, by rw [heq]; rfl⟩
  | bean b channel next ih =>
    obtain ⟨hb, hpass, hnext⟩ := hp
    refine Rises.caught_bind (rises_buildBy hcreate hr hb channel) (fun a => ih a (hnext a)) ?_
    intro f hf
    obtain ⟨e, he, heq⟩ := hpass f hf
    exact ⟨e, he, by rw [heq]; rfl⟩

end Run

end Creator

namespace Run

/-- A creation by a factory that takes no notice of the structural depth comes out the same if that
is raised, unless it is refused without. -/
theorem rises_create {types : ValueType → Prop} {beans : Blueprint H → Prop} {r : Registry H}
    (hr : r.Heedless types beans) {settings : Settings} {high : UInt64}
    (hword : settings.structuralDepth.toNat + 8 < 2 ^ 64)
    (hlimit : settings.depthLimit ≤ { settings with structuralDepth := high }.depthLimit) (n : Nat)
    {f : Factory H} (hf : f.Heedless types beans) (channel : Channel) :
    Rises beans r settings high n (create f channel) := by
  -- Nested creations have one level less before the lower limit.
  induction hn : settings.depthLimit - n generalizing n f channel with
  | zero =>
    intro c c' h
    have hrefused : c.atDepthLimit = true := by
      rw [atDepthLimit_eq_true, h.settings, h.depth]
      omega
    refine .of_refused (create_of_refused hrefused) ?_
    rw [Context.refusal_of_fits (by rwa [h.settings])]
    exact ⟨_, rfl, _, _, _, rfl⟩
  | succ k ih =>
    intro c c' h
    have hgranted : c.atDepthLimit = false := by
      rw [atDepthLimit_eq_false, h.settings, h.depth]
      omega
    have hgranted' : c'.atDepthLimit = false := by
      have hsettings : c'.settings = { settings with structuralDepth := high } := by
        rw [h.raised, ← h.settings]
        rfl
      rw [atDepthLimit_eq_false, hsettings, h.part_eq Context.depth fun _ => rfl, h.depth]
      omega
    refine AgreeUnless.congr ?_ (create_of_granted hgranted) (create_of_granted hgranted')
    have hprogram := rises_program (fun g ch hg => ih (n + 1) hg ch (by omega)) hr (hf channel)
    exact .finish ((hprogram _ _ h.enter).mono fun _ _ => Context.Raised.leave)

/-- A leaf is created wherever anything is. -/
theorem create_of_leaf {settings : Settings} {f : Factory H} {channel : Channel}
    {P : Value H → Prop}
    (hf : ∀ depth, (f.source channel).Yields settings depth (fun _ => False) P) {c : Context H}
    (hc : c.settings = settings) (hgranted : c.atDepthLimit = false) :
    ∃ v c', create f channel c = .ok v c' ∧ P v := by
  have hprogram : Effect.Meets (program create (f.source channel)) c.enter
      (fun v c' => (c'.settings = settings ∧ c'.depth = c.enter.depth) ∧ P v)
      fun _ _ => False := by
    refine meets_program (I := fun c' => c'.settings = settings ∧ c'.depth = c.enter.depth) (hf _)
      (fun _ h => h.1) (fun _ h => h.2) (fun _ _ h => h) (fun _ _ h => h) (fun _ _ h => h)
      (fun _ h => h.elim) ⟨hc, rfl⟩
  obtain ⟨v, c', hv, -, hP⟩ := hprogram.ends
  refine ⟨v, c'.leave, ?_, hP⟩
  rw [create_of_granted hgranted]
  simp only [Effect.finish, hv]

/-- As long as the sum of the structural depth `s` and eight is a 64-bit word, it is the limit:

A creation is refused if as many creations are under way, and otherwise runs the program of its
channel.  A leaf is created with none under way.  If `s` is raised, a creation by a factory that
takes no notice of it still succeeds, with the same value.

If the sum is larger than that, every creation panics, and changes nothing. -/
theorem create_limited {settings : Settings} {s : Nat}
    (hs : settings.structuralDepth.toNat = s) :
    (s + 8 < 2 ^ 64 →
      (∀ (f : Factory H) channel c, c.settings = settings →
        (s + 8 ≤ c.depth →
          create f channel c = .error (.configuration (.tooDeep f.type c.depth)) c) ∧
        (c.depth < s + 8 → create f channel c =
          Effect.finish (program create (f.source channel)) Context.leave c.enter)) ∧
      (∀ (f : Factory H) channel (P : Value H → Prop),
        (∀ depth, (f.source channel).Yields settings depth (fun _ => False) P) →
        ∀ c, c.settings = settings → c.depth = 0 → ∃ v c', create f channel c = .ok v c' ∧ P v) ∧
      ∀ high : UInt64, s ≤ high.toNat → high.toNat + 8 < 2 ^ 64 → ∀ types beans,
        ∀ f : Factory H, f.Heedless types beans → ∀ channel c, c.registry.Heedless types beans →
        c.pool.Holds (fun t d => (∃ b, beans b ∧ b.type = t) → beans d.blueprint) →
        c.settings = settings → ∀ v c', create f channel c = .ok v c' →
          create f channel (c.setStructuralDepth high) = .ok v (c'.setStructuralDepth high)) ∧
    (2 ^ 64 ≤ s + 8 → ∀ (f : Factory H) channel c, c.settings = settings →
      create f channel c = .error (.panic .overflow) c) := by
  refine ⟨fun hword => ?_, fun hover f channel c hc => ?_⟩
  · have hlimit : settings.depthLimit = s + 8 := hs ▸ Settings.depthLimit_eq (hs ▸ hword)
    refine ⟨fun f channel c hc => ⟨fun h => ?_, fun h => ?_⟩,
      fun f channel P hf c hc hdepth => ?_, ?_⟩
    · rw [create_of_refused (atDepthLimit_eq_true.2 (by rwa [hc, hlimit])),
        Context.refusal_of_fits (by rwa [hc, hs])]
    · exact create_of_granted (atDepthLimit_eq_false.2 (by rwa [hc, hlimit]))
    · refine create_of_leaf hf hc (atDepthLimit_eq_false.2 ?_)
      rw [hc, hlimit, hdepth]
      exact Nat.succ_pos _
    · intro high hle hhigh types beans f hf channel c hr hpool hc v c' h
      have hlimit' : { settings with structuralDepth := high }.depthLimit = high.toNat + 8 :=
        Settings.depthLimit_eq hhigh
      have hle : settings.depthLimit ≤ { settings with structuralDepth := high }.depthLimit := by
        omega
      have hrises := rises_create hr (hs ▸ hword) hle c.depth hf channel c
        (c.setStructuralDepth high) ⟨rfl, rfl, hc, rfl, hpool⟩
      rcases hrises with ⟨e, c₁, he, -⟩ | hagree
      · rw [h] at he
        cases he
      · obtain ⟨u, c₁, c₁', hleft, hright, hraised⟩ | ⟨e, c₁, c₁', hleft, -⟩ := hagree.cases
        · rw [h] at hleft
          cases hleft
          rw [hright, hraised.raised]
        · rw [h] at hleft
          cases hleft
  · exact create_of_overflows (by rwa [hc, hs]) f channel

end Run

/-! ## Badges -/

namespace Badge

def blueprint : Blueprint Link.host where
  name := "Badge"
  path := "Badge"
  creator := ⟨[{ name := "on", type := .bool }]⟩
  bean := .empty
  construct := fun _ => pure ()
  builderText := none

def registry : Registry Link.host :=
  (Registry.empty.register Catalog.bools).register (.ofBlueprint blueprint)

theorem heedless_bools {types : ValueType → Prop} {beans : Blueprint Link.host → Prop} :
    (Catalog.bools : Factory Link.host).Heedless types beans := by
  intro channel
  cases channel with
  | primary => trivial
  | secondary => trivial
  | random => exact fun _ => trivial

theorem heedless : registry.Heedless (· = .bool) (· = blueprint) where
  type t f ht hf := by
    subst ht
    cases hf
    exact heedless_bools
  property b hb n hn p f hp hf := by
    subst hb
    have hname : n = "on" := by
      have hstaged : blueprint.staged = ["on"] := by decide
      rw [hstaged] at hn
      exact List.mem_singleton.1 hn
    subst hname
    cases hp
    cases hf
    exact heedless_bools
  nullable b hb n hn := by
    subst hb
    exact (show ∀ n ∈ blueprint.staged, blueprint.isNullable n = false by decide) n hn

end Badge

namespace Run

/-- Badges nest two levels, whatever the structural depth is. -/
theorem create_limited_badge :
    Settings.standard.structuralDepth.toNat = 3 ∧ 3 + 8 < 2 ^ 64 ∧
    (∀ c : Context Link.host, c.settings = Settings.standard → c.depth = 11 →
      create Catalog.bools .primary c = .error (.configuration (.tooDeep .bool 11)) c) ∧
    (∃ v c', create Catalog.bools .random (.start Settings.standard Badge.registry 0 ()) =
      .ok v c' ∧ v.type? = some .bool) ∧
    Badge.registry.Heedless (· = .bool) (· = Badge.blueprint) ∧
    ∃ v c', create (.ofBlueprint Badge.blueprint) .primary
        (.start Settings.standard Badge.registry 0 ()) = .ok v c' ∧
      create (.ofBlueprint Badge.blueprint) .primary
        (.start { Settings.standard with structuralDepth := 40 } Badge.registry 0 ()) =
          .ok v (c'.setStructuralDepth 40) := by
  have hdepth : Settings.standard.structuralDepth.toNat = 3 := rfl
  obtain ⟨hrefused, hleaf, hraised⟩ := (create_limited (H := Link.host) hdepth).1 (by decide)
  refine ⟨hdepth, by decide, fun c hc hdepth => ?_, ?_, Badge.heedless, ?_⟩
  · rw [← hdepth]
    exact (hrefused Catalog.bools .primary c hc).1 (by omega)
  · exact hleaf Catalog.bools .random _ (fun depth => Link.bools_yields _ depth .random) _ rfl rfl
  · obtain ⟨v, c', h⟩ := Effect.isSome_result?.1 (show (Effect.result? (create
      (.ofBlueprint Badge.blueprint) .primary
        (.start Settings.standard Badge.registry 0 ()))).isSome = true by decide +kernel)
    exact ⟨v, c', h, hraised 40 (by decide) (by decide) (· = .bool) (· = Badge.blueprint) _
      (Factory.heedless_ofBlueprint rfl) _ _ Badge.heedless .empty rfl v c' h⟩

/-- Where the sum overflows, a leaf panics at depth 0, and raising the structural depth to there
turns a creation from success into a panic. -/
theorem create_panics_below_limit :
    (Context.start Link.overflowing Badge.registry 0 ()).depth <
      Link.overflowing.structuralDepth.toNat + 8 ∧
    create Catalog.bools .primary (.start Link.overflowing Badge.registry 0 ()) =
      .error (.panic .overflow) (.start Link.overflowing Badge.registry 0 ()) ∧
    Settings.standard.structuralDepth.toNat ≤ Link.overflowing.structuralDepth.toNat ∧
    ∃ c', create Catalog.bools .primary (.start Settings.standard Badge.registry 0 ()) =
      .ok (some (.bool true)) c' :=
  ⟨by decide, rfl, by decide, _, rfl⟩

end Run
end BeanContract
