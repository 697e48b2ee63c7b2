/-
Towers of lists and options.

The factories of lists and options can be put on top of each other.  Each level runs one level
deeper than the one around it and holds nothing at the structural depth, so that the values of the
two fixed channels differ only if the tower ends above it, with its elements
(`createOf_tower`).

A level is described by its items (`Run.meets_level`), and what one level does with the items of
the next one carries the induction over the tower.
-/
import BeanContract.Proofs.Context.Limit
import BeanContract.Proofs.Draft.Stage

namespace BeanContract

open Effect (Keeps Meets)

variable {H : Host} {α β : Type}

/-! ## Levels -/

inductive Layer where
  | list
  | option
  deriving DecidableEq, Repr

namespace Layer

def type : Layer → ValueType → ValueType
  | list, elem => .list elem
  | option, elem => .option elem

def factory : Layer → ValueType → Factory H
  | list, elem => .listOf elem
  | option, elem => .optionOf elem

/-- The most items that a level holds. -/
def most : Layer → Nat
  | list => Factory.maxListLength
  | option => 1

def holding : Layer → ValueType → List (Datum H.Object) → Datum H.Object
  | list, elem, xs => .list elem xs
  | option, elem, [] => .absent elem
  | option, _, x :: _ => .present x

/-- The value of a level that runs at depth `n`.  It holds nothing at the structural depth `s`.
Above, it holds what was drawn for it and is not null: one item of a fixed channel, and not more
than there is room for of the random one. -/
def Yields (l : Layer) (elem : ValueType) (s n : Nat) (channel : Channel)
    (Item : Value H → Prop) (v : Value H) : Prop :=
  ∃ vs : List (Value H), v = some (l.holding elem (vs.filterMap id)) ∧
    (s ≤ n → vs = []) ∧ (n < s → channel ≠ .random → vs.length = 1) ∧ vs.length ≤ l.most ∧
    ∀ v ∈ vs, Item v

end Layer

/-! ## One level -/

theorem Value.cast_ne_error {t : ValueType} {x : Datum H.Object} (h : x.type = t)
    (e : AccessError) : Value.cast t (some x : Value H) ≠ .error e := by
  rw [Value.cast, if_pos h]
  intro he
  cases he

structure Context.At (c : Context H) (settings : Settings) (r : Registry H) (n : Nat) : Prop where
  settings : c.settings = settings
  registry : c.registry = r
  depth : c.depth = n

theorem Context.At.of_setup {c c' : Context H} {settings : Settings} {r : Registry H} {n : Nat}
    (h : c.At settings r n) (hsetup : c'.setup = c.setup) : c'.At settings r n :=
  ⟨(congrArg (·.1) hsetup).trans h.settings, (congrArg (·.2.1) hsetup).trans h.registry,
    (congrArg (·.2.2.2) hsetup).trans h.depth⟩

/-- Nothing is refused below the limit. -/
theorem Context.At.granted {c : Context H} {settings : Settings} {r : Registry H} {n : Nat}
    (h : c.At settings r n) (hword : settings.structuralDepth.toNat + 8 < 2 ^ 64)
    (hn : n < settings.structuralDepth.toNat + 8) : c.atDepthLimit = false := by
  rw [Run.atDepthLimit_eq_false, h.settings, h.depth, Settings.depthLimit_eq hword]
  exact hn

/-- Both ways out keep what the computation keeps. -/
theorem Effect.Meets.keeping {ε σ γ : Type} {x : EStateM ε σ α} {s : σ} {Q : α → σ → Prop}
    {E : ε → σ → Prop} {f : σ → γ} (h : Meets x s Q E) (hx : Keeps f x) :
    Meets x s (fun a t => f t = f s ∧ Q a t) E :=
  .intro (fun _ _ ha => ⟨hx.of_ok ha, h.ok ha⟩) fun _ _ he => h.error he

namespace Run

theorem program_bind (create : Creator H) (p : Program H α) (f : α → Program H β) :
    program create (p >>= f) = program create p >>= fun a => program create (f a) := by
  show program create (p.bind f) = _
  induction p with
  | done a => rfl
  | halt h => rfl
  | engine next ih => simp only [Program.bind, program, ih, bind_assoc]
  | setEngine e next ih => simp only [Program.bind, program, ih, bind_assoc]
  | world next ih => simp only [Program.bind, program, ih, bind_assoc]
  | setWorld w next ih => simp only [Program.bind, program, ih, bind_assoc]
  | sequence next ih => simp only [Program.bind, program, ih, bind_assoc]
  | depth next ih => simp only [Program.bind, program, ih, bind_assoc]
  | settings next ih => simp only [Program.bind, program, ih, bind_assoc]
  | create t channel next ih => simp only [Program.bind, program, ih, bind_assoc]
  | bean b channel next ih => simp only [Program.bind, program, ih, bind_assoc]

theorem program_draw (create : Creator H) (step : Random.Engine → α × Random.Engine)
    (c : Context H) : program create (Program.draw step) c =
      .ok (step c.engine).1 { c with engine := (step c.engine).2 } := rfl

theorem createOf_eq_create {t : ValueType} {f : Factory H} {c : Context H}
    (hf : c.registry.get? t = some f) (channel : Channel) :
    createOf t channel c = create f channel c := by
  have hget : ofResult (c.registry.get t) c = .ok f c := by
    rw [Registry.get_eq_ok.2 hf]
    rfl
  exact Effect.bind_of_ok hget fun f => create f channel

theorem createOf_keeps (t : ValueType) (channel : Channel) :
    Keeps Context.setup (createOf t channel : Run H (Value H)) :=
  createBy_keeps create_keeps t channel

/-- In contexts of the setup and the depth, what is created of the type satisfies `Item` if it is
of the type.  The errors, and that of a value of another type, are in `E`. -/
def Draws (settings : Settings) (r : Registry H) (n : Nat) (t : ValueType) (channel : Channel)
    (Item : Value H → Prop) (E : Halt → Prop) : Prop :=
  ∀ c : Context H, c.At settings r n → Meets (createOf t channel) c
    (fun v _ => (∀ e, v.cast t = .error e → E (.configuration (.unfitValue t e))) ∧
      ((∀ x, v = some x → x.type = t) → Item v)) fun e _ => E e

section Level

variable {settings : Settings} {r : Registry H} {n : Nat} {elem : ValueType} {channel : Channel}
  {Item : Value H → Prop} {E : Halt → Prop} {c : Context H}

theorem meets_createFitting (h : Draws settings r n elem channel Item E)
    (hc : c.At settings r n) :
    Meets (program create (Program.createFitting elem channel)) c
      (fun v c' => c'.At settings r n ∧ Item v) fun e _ => E e := by
  have hcreate := (h c hc).keeping (createOf_keeps elem channel)
  have hvalue : Meets (program create (Program.createValue elem channel)) c _ fun e _ => E e :=
    meets_caught hcreate (fun _ _ h => .pure h) fun _ => rfl
  unfold Program.createFitting
  rw [program_bind]
  refine hvalue.bind fun v c' hv => ?_
  obtain ⟨hsetup, hunfit, hitem⟩ := hv
  have hc' := hc.of_setup hsetup
  cases v with
  | none =>
    refine .pure ⟨hc', hitem fun x hx => ?_⟩
    cases hx
  | some x =>
    by_cases htype : x.type = elem
    · have hcast : Value.cast elem (some x) = .ok (some x : Value H) := if_pos htype
      rw [hcast]
      exact .pure ⟨hc', hitem fun y hy => Option.some.inj hy ▸ htype⟩
    · have hcast : Value.cast elem (some x : Value H) =
          .error (.typeMismatch elem.name x.type.name) := if_neg htype
      rw [hcast]
      exact hunfit _ hcast

/-- `k` items are drawn, and those that are not null are kept. -/
theorem meets_items (h : Draws settings r n elem channel Item E) (k : Nat)
    (hc : c.At settings r n) :
    Meets (program create (Factory.items elem channel k)) c
      (fun xs c' => c'.At settings r n ∧ ∃ vs : List (Value H),
        xs = vs.filterMap id ∧ vs.length = k ∧ ∀ v ∈ vs, Item v) fun e _ => E e := by
  induction k generalizing c with
  | zero => exact .pure ⟨hc, [], rfl, rfl, List.forall_mem_nil _⟩
  | succ k ih =>
    have hitems : (Factory.items elem channel (k + 1) : Program H (List (Datum H.Object))) =
        Program.createFitting elem channel >>= fun item => Factory.items elem channel k >>=
          fun rest => pure (item.toList ++ rest) := rfl
    rw [hitems, program_bind]
    refine (meets_createFitting h hc).bind fun v c₁ ⟨hc₁, hv⟩ => ?_
    rw [program_bind]
    refine (ih hc₁).bind fun xs c₂ ⟨hc₂, vs, hxs, hlength, hvs⟩ => .pure ⟨hc₂, v :: vs, ?_, ?_, ?_⟩
    · rw [hxs]
      cases v <;> rfl
    · rw [List.length_cons, hlength]
    · exact List.forall_mem_cons.2 ⟨hv, hvs⟩

/-- Above the structural depth a list draws items. -/
theorem meets_listOf (h : Draws settings r n elem channel Item E) {k : Nat}
    (hk : k ≤ Factory.maxListLength) (hone : channel ≠ .random → k = 1)
    (hdepth : n < settings.structuralDepth.toNat) (hc : c.At settings r n) :
    Meets (program create (Factory.items elem channel k >>= fun xs =>
        pure (some (.list elem xs) : Value H))) c
      (fun v _ => Layer.list.Yields elem settings.structuralDepth.toNat n channel Item v)
      fun e _ => E e := by
  rw [program_bind]
  refine (meets_items h k hc).bind fun xs c' ⟨_, vs, hxs, hlength, hvs⟩ => .pure ?_
  exact ⟨vs, by rw [hxs]; rfl, fun hle => absurd hdepth (not_lt.2 hle),
    fun _ hfixed => hlength.trans (hone hfixed), hlength ▸ hk, hvs⟩

/-- Above the structural depth an option draws its item. -/
theorem meets_optionOf (h : Draws settings r n elem channel Item E)
    (hdepth : n < settings.structuralDepth.toNat) (hc : c.At settings r n) :
    Meets (program create (Program.createFitting elem channel >>= fun item =>
        pure (some (Factory.optionDatum elem item) : Value H))) c
      (fun v _ => Layer.option.Yields elem settings.structuralDepth.toNat n channel Item v)
      fun e _ => E e := by
  rw [program_bind]
  refine (meets_createFitting h hc).bind fun item c' ⟨_, hitem⟩ => .pure ⟨[item], ?_, ?_⟩
  · cases item <;> rfl
  · exact ⟨fun hle => absurd hdepth (not_lt.2 hle), fun _ _ => rfl, le_rfl,
      List.forall_mem_singleton.2 hitem⟩

theorem meets_level (l : Layer) (hc : c.At settings r n)
    (h : n < settings.structuralDepth.toNat → Draws settings r n elem channel Item E) :
    Meets (program create ((l.factory elem).source channel)) c
      (fun v _ => l.Yields elem settings.structuralDepth.toNat n channel Item v)
      fun e _ => E e := by
  have hstop : program create (Program.atStructuralDepth : Program H Bool) c =
      .ok (decide (settings.structuralDepth.toNat ≤ n)) c := by
    rw [← hc.settings, ← hc.depth]
    rfl
  by_cases hdepth : n < settings.structuralDepth.toNat
  · rw [decide_eq_false (not_le.2 hdepth)] at hstop
    have hdraws := h hdepth
    cases l with
    | list =>
      rw [Layer.factory, Factory.listOf, Factory.source_ofChannel, program_bind]
      refine .bind_of_ok hstop ?_
      cases channel with
      | primary => exact meets_listOf hdraws (by decide) (fun _ => rfl) hdepth hc
      | secondary => exact meets_listOf hdraws (by decide) (fun _ => rfl) hdepth hc
      | random =>
        show Meets (program create (Program.draw (Random.Engine.below (Factory.maxListLength + 1))
          >>= fun k => Factory.items elem .random k >>= fun xs =>
            pure (some (Datum.list elem xs)))) c _ _
        rw [program_bind]
        refine .bind_of_ok (program_draw create _ c) ?_
        have hbelow := Random.Engine.below_lt (Nat.succ_pos Factory.maxListLength) c.engine
        exact meets_listOf hdraws (Nat.le_of_lt_succ hbelow) (absurd rfl) hdepth
          ⟨hc.settings, hc.registry, hc.depth⟩
    | option =>
      rw [Layer.factory, Factory.optionOf, Factory.source_ofChannel, program_bind]
      refine .bind_of_ok hstop ?_
      cases channel with
      | primary => exact meets_optionOf hdraws hdepth hc
      | secondary => exact meets_optionOf hdraws hdepth hc
      | random =>
        show Meets (program create (Program.draw (Random.Engine.chance 0.25) >>= fun skip =>
          if skip then pure (some (Datum.absent elem)) else Program.createFitting elem .random >>=
            fun item => pure (some (Factory.optionDatum elem item)))) c _ _
        rw [program_bind]
        refine .bind_of_ok (program_draw create _ c) ?_
        split
        · exact .pure ⟨[], rfl, fun _ => rfl, fun _ => absurd rfl, Nat.zero_le _,
            List.forall_mem_nil _⟩
        · exact meets_optionOf hdraws hdepth ⟨hc.settings, hc.registry, hc.depth⟩
  · rw [decide_eq_true (not_lt.1 hdepth)] at hstop
    have hnothing : (l.Yields elem settings.structuralDepth.toNat n channel Item
        (some (l.holding elem []) : Value H)) :=
      ⟨[], rfl, fun _ => rfl, fun hlt => absurd hlt hdepth, Nat.zero_le _, List.forall_mem_nil _⟩
    cases l with
    | list =>
      rw [Layer.factory, Factory.listOf, Factory.source_ofChannel, program_bind]
      exact .bind_of_ok hstop (.pure hnothing)
    | option =>
      rw [Layer.factory, Factory.optionOf, Factory.source_ofChannel, program_bind]
      exact .bind_of_ok hstop (.pure hnothing)

/-- The creation of a level runs it one level deeper. -/
theorem meets_createOf_level {l : Layer} {s d : Nat}
    (hs : settings.structuralDepth.toNat = s) (hword : s + 8 < 2 ^ 64) (hd : d < s + 8)
    (hl : r.get? (l.type elem) = some (l.factory elem)) (hc : c.At settings r d)
    (h : d + 1 < s → Draws settings r (d + 1) elem channel Item E) :
    Meets (createOf (l.type elem) channel) c
      (fun v _ => l.Yields elem s (d + 1) channel Item v) fun e _ => E e := by
  subst hs
  unfold Meets
  rw [createOf_eq_create (hc.registry ▸ hl), create_of_granted (hc.granted hword hd)]
  exact Meets.finish (meets_level l ⟨hc.settings, hc.registry, congrArg (· + 1) hc.depth⟩ h)

end Level
end Run

/-! ## Towers -/

namespace Tower

/-- The type of the levels, outermost first, on top of a type of elements. -/
def type (ls : List Layer) (t : ValueType) : ValueType := ls.foldr Layer.type t

/-- The tower whose outermost level runs at depth `n`, with one element unless it ends before: a
level at the structural depth `s` holds nothing. -/
def value (s : Nat) : Nat → List Layer → ValueType → Datum H.Object → Datum H.Object
  | _, [], _, x => x
  | n, l :: ls, t, x => l.holding (type ls t) (if s ≤ n then [] else [value s (n + 1) ls t x])

/-- A tower whose outermost level ran at depth `n`.  No level holds more items than there is room
for, and none at the structural depth `s` or deeper holds any. -/
def Stacked (s : Nat) : Nat → List Layer → ValueType → Datum H.Object → Prop
  | _, [], t, x => x.type = t
  | n, l :: ls, t, x => ∃ xs, x = l.holding (type ls t) xs ∧ xs.length ≤ l.most ∧
      (s ≤ n → xs = []) ∧ ∀ y ∈ xs, Stacked s (n + 1) ls t y

variable {s n : Nat} {ls : List Layer} {t : ValueType} {x p q : Datum H.Object}

theorem sizeOf_type_cons (l : Layer) (ls : List Layer) (t : ValueType) :
    sizeOf (type (l :: ls) t) = 1 + sizeOf (type ls t) := by
  cases l <;> rfl

theorem sizeOf_le_type (ls : List Layer) (t : ValueType) : sizeOf t ≤ sizeOf (type ls t) := by
  induction ls with
  | nil => exact le_rfl
  | cons l ls ih =>
    rw [sizeOf_type_cons]
    omega

theorem type_holding (l : Layer) {elem : ValueType} {xs : List (Datum H.Object)}
    (h : ∀ x ∈ xs, x.type = elem) : (l.holding elem xs).type = l.type elem := by
  cases l with
  | list => rfl
  | option =>
    cases xs with
    | nil => rfl
    | cons x xs => exact congrArg ValueType.option (h x List.mem_cons_self)

theorem type_value (hx : x.type = t) : (value s n ls t x).type = type ls t := by
  induction ls generalizing n with
  | nil => exact hx
  | cons l ls ih =>
    refine type_holding l fun y hy => ?_
    split at hy
    · cases hy
    · rw [List.mem_singleton.1 hy]
      exact ih

theorem type_of_stacked (h : Stacked s n ls t x) : x.type = type ls t := by
  induction ls generalizing n x with
  | nil => exact h
  | cons l ls ih =>
    obtain ⟨xs, rfl, -, -, hxs⟩ := h
    exact type_holding l fun y hy => ih (hxs y hy)

/-! ### When towers differ -/

theorem same_holding_nil (l : Layer) (elem : ValueType) :
    Datum.same (H := H) (l.holding elem []) (l.holding elem []) = true := by
  cases l with
  | list => simp [Layer.holding, Datum.same, Datum.sameAll]
  | option => simp [Layer.holding, Datum.same]

theorem same_holding_singleton (l : Layer) (elem : ValueType) :
    Datum.same (H := H) (l.holding elem [p]) (l.holding elem [q]) = p.same q := by
  cases l with
  | list => simp [Layer.holding, Datum.same, Datum.sameAll]
  | option => simp [Layer.holding, Datum.same]

/-- Towers that end before their elements are the same, whatever the elements are. -/
theorem value_eq_of_ended (hls : ls ≠ []) (h : s < n + ls.length) :
    value s n ls t p = value s n ls t q ∧
      (value s n ls t p).same (value s n ls t q) = true := by
  induction ls generalizing n with
  | nil => exact absurd rfl hls
  | cons l ls ih =>
    unfold value
    by_cases hn : s ≤ n
    · rw [if_pos hn, if_pos hn]
      exact ⟨rfl, same_holding_nil l _⟩
    · rw [if_neg hn, if_neg hn, same_holding_singleton]
      rw [List.length_cons] at h
      have hrest : ls ≠ [] := by
        rintro rfl
        rw [List.length_nil] at h
        omega
      obtain ⟨heq, hsame⟩ := ih hrest (n := n + 1) (by omega)
      exact ⟨by rw [heq], hsame⟩

/-- Towers that reach their elements differ as these do. -/
theorem same_value (h : n + ls.length ≤ s) :
    (value s n ls t p).same (value s n ls t q) = p.same q := by
  induction ls generalizing n with
  | nil => rfl
  | cons l ls ih =>
    rw [List.length_cons] at h
    unfold value
    rw [if_neg (by omega), if_neg (by omega), same_holding_singleton]
    exact ih (by omega)

end Tower

/-- The registry has the factory of each level of the tower. -/
def Registry.Stacks (r : Registry H) : List Layer → ValueType → Prop
  | [], _ => True
  | l :: ls, t => r.get? (Tower.type (l :: ls) t) = some (l.factory (Tower.type ls t)) ∧
      r.Stacks ls t

namespace Registry

variable {r r' : Registry H} {ls : List Layer} {t : ValueType}

def registerTower (r : Registry H) : List Layer → ValueType → Registry H
  | [], _ => r
  | l :: ls, t => (r.registerTower ls t).register (l.factory (Tower.type ls t))

theorem get?_register_level (r : Registry H) (l : Layer) (elem u : ValueType) :
    (r.register (l.factory elem)).get? u =
      if u = l.type elem then some (l.factory elem) else r.get? u := by
  rw [get?_register]
  cases l <;> rfl

theorem Stacks.congr (h : r.Stacks ls t)
    (hget : ∀ u, sizeOf u ≤ sizeOf (Tower.type ls t) → r'.get? u = r.get? u) : r'.Stacks ls t := by
  induction ls with
  | nil => trivial
  | cons l ls ih =>
    refine ⟨(hget _ le_rfl).trans h.1, ih h.2 fun u hu => hget u ?_⟩
    rw [Tower.sizeOf_type_cons]
    omega

/-- Registering the factories of a tower puts it together and leaves its elements alone. -/
theorem stacks_registerTower (r : Registry H) (ls : List Layer) (t : ValueType) :
    (r.registerTower ls t).Stacks ls t ∧
      ∀ u, sizeOf u ≤ sizeOf t → (r.registerTower ls t).get? u = r.get? u := by
  induction ls with
  | nil => exact ⟨trivial, fun _ _ => rfl⟩
  | cons l ls ih =>
    -- The type of a level is larger than those below it, so its factory replaces none of theirs.
    have hlarger : ∀ u, sizeOf u ≤ sizeOf (Tower.type ls t) → u ≠ l.type (Tower.type ls t) := by
      rintro _ hu rfl
      have hcons := Tower.sizeOf_type_cons l ls t
      change sizeOf (Tower.type (l :: ls) t) ≤ _ at hu
      omega
    unfold registerTower
    refine ⟨⟨?_, ih.1.congr fun u hu => ?_⟩, fun u hu => ?_⟩
    · rw [get?_register_level]
      exact if_pos rfl
    · rw [get?_register_level, if_neg (hlarger u hu)]
    · rw [get?_register_level, if_neg (hlarger u (Nat.le_trans hu (Tower.sizeOf_le_type ls t)))]
      exact ih.2 u hu

end Registry

structure Registry.Gives (r : Registry H) (settings : Settings) (t : ValueType)
    (channel : Channel) (x : Datum H.Object) : Prop where
  type : x.type = t
  created : ∀ n, n < settings.structuralDepth.toNat → ∀ c : Context H, c.At settings r n →
    ∃ c', Run.createOf t channel c = .ok (some x) c'

namespace Run

section Tower

variable {settings : Settings} {r : Registry H} {s d : Nat} {l : Layer} {ls : List Layer}
  {t : ValueType} {channel : Channel} {x : Datum H.Object} {E : Halt → Prop} {c : Context H}
  (hs : settings.structuralDepth.toNat = s) (hword : s + 8 < 2 ^ 64)
include hs hword

/-- One more level on top of a tower of a fixed channel. -/
theorem meets_fixed (hd : d < s + 8) (hchannel : channel ≠ .random)
    (hr : r.Stacks (l :: ls) t) (hc : c.At settings r d)
    (h : d + 1 < s → Draws settings r (d + 1) (Tower.type ls t) channel
      (fun v => v = some (Tower.value s (d + 2) ls t x)) fun _ => False) :
    Meets (createOf (Tower.type (l :: ls) t) channel) c
      (fun v _ => v = some (Tower.value s (d + 1) (l :: ls) t x)) fun _ _ => False := by
  refine (meets_createOf_level hs hword hd hr.1 hc h).mono ?_ fun _ _ he => he
  rintro _ - ⟨vs, rfl, hended, hone, -, hvs⟩
  unfold Tower.value
  by_cases hdepth : s ≤ d + 1
  · rw [if_pos hdepth, hended hdepth]
    rfl
  · rw [if_neg hdepth]
    obtain ⟨v, rfl⟩ := List.length_eq_one_iff.1 (hone (not_le.1 hdepth) hchannel)
    rw [hvs v (List.mem_singleton_self v)]
    rfl

/-- One more level on top of a tower of the random channel. -/
theorem meets_random (hd : d < s + 8) (hr : r.Stacks (l :: ls) t) (hc : c.At settings r d)
    (h : d + 1 < s → Draws settings r (d + 1) (Tower.type ls t) .random
      (fun v => ∀ x, v = some x → Tower.Stacked s (d + 2) ls t x) E) :
    Meets (createOf (Tower.type (l :: ls) t) .random) c
      (fun v _ => ∃ x, v = some x ∧ Tower.Stacked s (d + 1) (l :: ls) t x) fun e _ => E e := by
  refine (meets_createOf_level hs hword hd hr.1 hc h).mono ?_ fun _ _ he => he
  rintro _ - ⟨vs, rfl, hended, -, hmost, hvs⟩
  refine ⟨_, rfl, _, rfl, Nat.le_trans (List.length_filterMap_le id vs) hmost, fun hdepth => ?_,
    fun y hy => ?_⟩
  · rw [hended hdepth]
    rfl
  · obtain ⟨v, hv, rfl⟩ := List.mem_filterMap.1 hy
    exact hvs _ hv y rfl

/-- Above the structural depth a tower of a fixed channel is created as it should be. -/
theorem draws_fixed (hx : r.Gives settings t channel x) (hchannel : channel ≠ .random)
    (hr : r.Stacks ls t) (hd : d < s) : Draws settings r d (Tower.type ls t) channel
      (fun v => v = some (Tower.value s (d + 1) ls t x)) fun _ => False := by
  have hcast : ∀ n ls e, Value.cast (Tower.type ls t)
      (some (Tower.value s n ls t x) : Value H) ≠ .error e := fun _ _ =>
    Value.cast_ne_error (Tower.type_value hx.type)
  induction ls generalizing d with
  | nil =>
    intro c hc
    obtain ⟨c', h⟩ := hx.created d (hs ▸ hd) c hc
    exact .of_ends ⟨_, c', h, hcast d [], fun _ => rfl⟩
  | cons l ls ih =>
    intro c hc
    refine (meets_fixed hs hword (by omega) hchannel hr hc (ih hr.2)).mono ?_ fun _ _ he => he
    rintro _ - rfl
    exact ⟨hcast _ _, fun _ => rfl⟩

/-- Above the structural depth a tower of the random channel is created as it should be. -/
theorem draws_random (ht : ∀ n < s, Draws settings r n t .random (fun _ => True) E)
    (hr : r.Stacks ls t) (hd : d < s) : Draws settings r d (Tower.type ls t) .random
      (fun v => ∀ x, v = some x → Tower.Stacked s (d + 1) ls t x) E := by
  induction ls generalizing d with
  | nil => exact fun c hc => (ht d hd c hc).mono (fun v _ h => ⟨h.1, id⟩) fun _ _ he => he
  | cons l ls ih =>
    intro c hc
    refine (meets_random hs hword (by omega) hr hc (ih hr.2)).mono ?_ fun _ _ he => he
    rintro _ - ⟨x, rfl, hx⟩
    refine ⟨fun e he => ?_, fun _ y hy => Option.some.inj hy ▸ hx⟩
    exact absurd he (Value.cast_ne_error (Tower.type_of_stacked hx) e)

end Tower
end Run

/-- A factory that hands out a datum gives it. -/
theorem Registry.gives_of_done {r : Registry H} {settings : Settings}
    (hword : settings.structuralDepth.toNat + 8 < 2 ^ 64) {channel : Channel} {f : Factory H}
    {x : Datum H.Object} (hf : r.get? x.type = some f)
    (hx : f.source channel = .done (some x)) : r.Gives settings x.type channel x where
  type := rfl
  created n hn c hc := by
    have hgranted := hc.granted hword (Nat.lt_add_right 8 hn)
    refine ⟨c.enter.leave, ?_⟩
    rw [Run.createOf_eq_create (hc.registry ▸ hf)]
    exact (Run.create_done hx).2 ⟨hgranted, rfl, rfl⟩

open Run (createOf Draws)

/-- A tower of lists and options over a type whose fixed values differ, created where `d` creations
are under way, under the structural depth `s`:

The fixed channels give towers that hold one item at each level above the structural depth and
nothing at the first level that reaches it.  They differ exactly if the tower with its elements
fits above, and otherwise they are equal.  On the random channel no list holds too many items and
no level at the structural depth or deeper holds any; the creation fails only as the creations of
elements do. -/
theorem createOf_tower {settings : Settings} {s d : Nat}
    (hs : settings.structuralDepth.toNat = s) (hword : s + 8 < 2 ^ 64) (hd : d < s + 8)
    {r : Registry H} {ls : List Layer} (hls : ls ≠ []) {t : ValueType} (hr : r.Stacks ls t)
    {p q : Datum H.Object} (hp : r.Gives settings t .primary p)
    (hq : r.Gives settings t .secondary q) (hpq : p.same q = false) {c : Context H}
    (hc : c.At settings r d) :
    (∃ c₁ c₂, createOf (Tower.type ls t) .primary c =
        .ok (some (Tower.value s (d + 1) ls t p)) c₁ ∧
      createOf (Tower.type ls t) .secondary c =
        .ok (some (Tower.value s (d + 1) ls t q)) c₂) ∧
    (Value.same (some (Tower.value s (d + 1) ls t p) : Value H)
      (some (Tower.value s (d + 1) ls t q)) = false ↔ d + ls.length < s) ∧
    (s ≤ d + ls.length → Tower.value s (d + 1) ls t p = Tower.value s (d + 1) ls t q ∧
      Value.same (some (Tower.value s (d + 1) ls t p) : Value H)
        (some (Tower.value s (d + 1) ls t q)) = true) ∧
    ∀ E : Halt → Prop, (∀ n < s, Draws settings r n t .random (fun _ => True) E) →
      Meets (createOf (Tower.type ls t) .random) c
        (fun v _ => ∃ x, v = some x ∧ Tower.Stacked s (d + 1) ls t x) fun e _ => E e := by
  have hsame : Value.same (some (Tower.value s (d + 1) ls t p) : Value H)
      (some (Tower.value s (d + 1) ls t q)) =
        (Tower.value s (d + 1) ls t p).same (Tower.value s (d + 1) ls t q) := by
    rw [Value.same, Tower.type_value hp.type, Tower.type_value hq.type, decide_eq_true rfl,
      Bool.true_and]
  have hended : s ≤ d + ls.length →
      Tower.value s (d + 1) ls t p = Tower.value s (d + 1) ls t q ∧
        (Tower.value s (d + 1) ls t p).same (Tower.value s (d + 1) ls t q) = true := fun h =>
    Tower.value_eq_of_ended hls (by omega)
  obtain ⟨l, ls, rfl⟩ := List.exists_cons_of_ne_nil hls
  rw [hsame]
  refine ⟨?_, ⟨fun h => ?_, fun h => ?_⟩, hended, fun E ht => ?_⟩
  · have hfixed : ∀ channel x, channel ≠ .random → r.Gives settings t channel x →
        ∃ c', createOf (Tower.type (l :: ls) t) channel c =
          .ok (some (Tower.value s (d + 1) (l :: ls) t x)) c' := by
      intro channel x hchannel hx
      have hmeets := Run.meets_fixed hs hword hd hchannel hr hc (x := x) fun h =>
        Run.draws_fixed hs hword hx hchannel hr.2 h
      obtain ⟨_, c', hresult, rfl⟩ := hmeets.ends
      exact ⟨c', hresult⟩
    obtain ⟨c₁, h₁⟩ := hfixed .primary p (by decide) hp
    obtain ⟨c₂, h₂⟩ := hfixed .secondary q (by decide) hq
    exact ⟨c₁, c₂, h₁, h₂⟩
  · by_contra hdepth
    rw [(hended (not_lt.1 hdepth)).2] at h
    cases h
  · rw [Tower.same_value (by omega), hpq]
  · exact Run.meets_random hs hword hd hr hc fun h => Run.draws_random hs hword ht hr.2 h

/-! ## Options of lists of truth values -/

namespace Tower

def registry : Registry Link.host :=
  (Registry.empty.register Catalog.bools).registerTower [.option, .list] .bool

theorem stacks_registry : registry.Stacks [.option, .list] .bool :=
  (Registry.stacks_registerTower _ _ _).1

theorem draws_bools {n : Nat} (hn : n < 3) : Run.Draws Settings.standard registry n .bool .random
    (fun _ => True) fun _ => False := by
  intro c hc
  have hget : c.registry.get? .bool = some Catalog.bools := by
    rw [hc.registry]
    rfl
  have hgranted := hc.granted (by decide) (Nat.lt_add_right 8 hn)
  obtain ⟨v, c', h, htype⟩ := Run.create_of_leaf
    (fun depth => Link.bools_yields Settings.standard depth .random) hc.settings hgranted
  rw [← Run.createOf_eq_create hget] at h
  obtain ⟨x, rfl, hx⟩ := Option.map_eq_some_iff.1 htype
  exact .of_ends ⟨_, c', h, Value.cast_ne_error hx, fun _ => trivial⟩

end Tower

/-- Under the structural depth 3 there is room for both levels and the element, and one level
deeper the list stays empty. -/
theorem createOf_tower_bools :
    (∃ c₁ c₂, createOf (.option (.list .bool)) .primary
        (.start Settings.standard Tower.registry 0 ()) =
          .ok (some (.present (.list .bool [.bool true]))) c₁ ∧
      createOf (.option (.list .bool)) .secondary
        (.start Settings.standard Tower.registry 0 ()) =
          .ok (some (.present (.list .bool [.bool false]))) c₂) ∧
    (∃ c₁ c₂, createOf (.option (.list .bool)) .primary
        { Context.start Settings.standard Tower.registry 0 () with depth := 1 } =
          .ok (some (.present (.list .bool []))) c₁ ∧
      createOf (.option (.list .bool)) .secondary
        { Context.start Settings.standard Tower.registry 0 () with depth := 1 } =
          .ok (some (.present (.list .bool []))) c₂) ∧
    ∃ v c', createOf (.option (.list .bool)) .random
      (.start Settings.standard Tower.registry 0 ()) = .ok v c' ∧
        ∃ x, v = some x ∧ Tower.Stacked 3 1 [.option, .list] .bool x := by
  have hprimary : Tower.registry.Gives Settings.standard .bool .primary (.bool true) :=
    Registry.gives_of_done (x := .bool true) (f := Catalog.bools) (by decide) rfl rfl
  have hsecondary : Tower.registry.Gives Settings.standard .bool .secondary (.bool false) :=
    Registry.gives_of_done (x := .bool false) (f := Catalog.bools) (by decide) rfl rfl
  obtain ⟨hfirst, -, -, hrandom⟩ := createOf_tower (d := 0) (s := 3) rfl (by decide) (by decide)
    (by decide) Tower.stacks_registry hprimary hsecondary rfl
    (c := .start Settings.standard Tower.registry 0 ()) ⟨rfl, rfl, rfl⟩
  obtain ⟨hsecond, -⟩ := createOf_tower (d := 1) (s := 3) rfl (by decide) (by decide)
    (by decide) Tower.stacks_registry hprimary hsecondary rfl
    (c := { Context.start Settings.standard Tower.registry 0 () with depth := 1 }) ⟨rfl, rfl, rfl⟩
  exact ⟨hfirst, hsecond, (hrandom (fun _ => False) fun n hn => Tower.draws_bools hn).ends⟩

/-- Where the sum of the structural depth and eight overflows, not even the outermost level is
created. -/
theorem createOf_tower_panics_of_overflow :
    0 < Link.overflowing.structuralDepth.toNat + 8 ∧
    Tower.registry.Stacks [.option, .list] .bool ∧
    (∃ f, Tower.registry.get? .bool = some f ∧
      f.primary = .done (some (.bool true)) ∧ f.secondary = .done (some (.bool false))) ∧
    createOf (.option (.list .bool)) .primary (.start Link.overflowing Tower.registry 0 ()) =
      .error (.panic .overflow) (.start Link.overflowing Tower.registry 0 ()) ∧
    createOf (.option (.list .bool)) .secondary (.start Link.overflowing Tower.registry 0 ()) =
      .error (.panic .overflow) (.start Link.overflowing Tower.registry 0 ()) :=
  ⟨by decide, Tower.stacks_registry, ⟨Catalog.bools, rfl, rfl, rfl⟩, rfl, rfl⟩

end BeanContract
