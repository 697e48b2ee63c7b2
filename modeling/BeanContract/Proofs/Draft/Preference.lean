/-
Both preferences build the same bean.

A writable parameter reaches a bean through the constructor or, after construction with an earlier
value, through its setter.  Where a value may as well come either way, setters of different
properties commute and no writable parameter is ignored (`Blueprint.Indifferent`), it makes no
difference which way a draft takes (`Draft.tryNewBean_prefer`): going through the properties, each
write of a parameter joins the arguments it comes right after, and each other write is put off
until all of these have.
-/
import BeanContract.Proofs.Draft.Bean

namespace BeanContract

open Effect (InStep)

/-! ## Computations in step, in a row -/

namespace Effect.InStep

variable {ε σ α : Type} {R : σ → σ → Prop} {E : ε → Prop} {x y z : EStateM ε σ α}

protected theorem symm (hR : Equivalence R) (h : InStep R E x y) : InStep R E y x := by
  intro s t hst
  rcases (h t s (hR.symm hst)).cases with ⟨a, t', s', hx, hy, hst'⟩ | ⟨e, t', s', hx, hy, he, hst'⟩
  · exact .of_ok hy hx (hR.symm hst')
  · exact .of_error hy hx ⟨he, hR.symm hst'⟩

protected theorem trans (hR : Equivalence R) (h : InStep R E x y) (h' : InStep R E y z) :
    InStep R E x z := by
  intro s t hst
  have hyz := h' t t (hR.refl t)
  rcases (h s t hst).cases with ⟨a, s', t', hx, hy, hst'⟩ | ⟨e, s', t', hx, hy, he, hst'⟩
  · rcases hyz.cases with ⟨b, t₁, u, hy', hz, htu⟩ | ⟨f, t₁, u, hy', -, -⟩
    · rw [hy] at hy'
      cases hy'
      exact .of_ok hx hz (hR.trans hst' htu)
    · rw [hy] at hy'
      cases hy'
  · rcases hyz.cases with ⟨b, t₁, u, hy', -, -⟩ | ⟨f, t₁, u, hy', hz, -, htu⟩
    · rw [hy] at hy'
      cases hy'
    · rw [hy] at hy'
      cases hy'
      exact .of_error hx hz ⟨he, hR.trans hst' htu⟩

end Effect.InStep

variable {H : Host}

/-! ## Blueprints for which both ways are the same -/

def Property.Settable (p : Property H) : Prop := p.isWritable = true ∧ p.flags.ignored = false

namespace Blueprint

/-- Each parameter, and nothing else, has an admissible value. -/
structure Complete (b : Blueprint H) (A : String → Value H → Prop) (args : Args H) : Prop where
  given : ∀ n, (args.get? n).isSome = b.isParameter n
  admissible : ∀ n v, args.get? n = some v → A n v

/-- The object was constructed from complete arguments, and admissible values were set on it. -/
inductive Made (b : Blueprint H) (A : String → Value H → Prop) : H.Object → Prop where
  | built {args : Args H} {w w' : H.World} {o : H.Object} : b.Complete A args →
      b.build args w = .ok o w' → Made b A o
  | written {o o' : H.Object} {p : Property H} {v : Value H} {w w' : H.World} : Made b A o →
      p ∈ b.bean.properties → p.Settable → A p.name v → p.write o v w = .ok o' w' → Made b A o'

/-- As far as `R` tells the states of the world apart and for the values that `A` admits, beans
do not depend on the order of their setters, and those of parameters do what the constructor does
with the value.  Errors, if there are any, are in `E`. -/
structure Indifferent (b : Blueprint H) (R : H.World → H.World → Prop) (E : AccessError → Prop)
    (A : String → Value H → Prop) : Prop where
  equivalence : Equivalence R
  /-- No writable parameter is ignored. -/
  tested : ∀ p ∈ b.bean.properties, p.isWritable = true → b.isParameter p.name = true →
    p.flags.ignored = false
  /-- Arguments are looked up by name. -/
  build : ∀ args args', b.Complete A args → (∀ n, args'.get? n = args.get? n) →
    InStep R E (b.build args') (b.build args)
  write : ∀ o, b.Made A o → ∀ p ∈ b.bean.properties, p.Settable → ∀ v, A p.name v →
    InStep R E (p.write o v) (p.write o v)
  commute : ∀ o, b.Made A o → ∀ p ∈ b.bean.properties, ∀ q ∈ b.bean.properties,
    p.Settable → q.Settable → p.name ≠ q.name → ∀ u v, A p.name u → A q.name v →
      InStep R E (p.write o u >>= fun o => q.write o v) (q.write o v >>= fun o => p.write o u)
  /-- A parameter may be set after construction with another value. -/
  parameter : ∀ p ∈ b.bean.properties, p.Settable → b.isParameter p.name = true →
    ∀ args, b.Complete A args → ∀ v, A p.name v →
      InStep R E (b.build (args.insert p.name v)) (b.build args >>= fun o => p.write o v)

theorem Complete.insert {b : Blueprint H} {A : String → Value H → Prop} {args : Args H}
    (h : b.Complete A args) {n : String} {v : Value H} (hn : b.isParameter n = true)
    (hv : A n v) : b.Complete A (args.insert n v) := by
  refine ⟨fun m => ?_, fun m u hu => ?_⟩
  · rw [Table.get?_insert]
    split
    · rename_i hm
      rw [hm, hn]
      rfl
    · exact h.given m
  · rw [Table.get?_insert] at hu
    split at hu
    · rename_i hm
      cases hu
      exact hm ▸ hv
    · exact h.admissible m u hu

def Makes (b : Blueprint H) (A : String → Value H → Prop) (x : Access H H.Object) : Prop :=
  ∀ w o w', x w = .ok o w' → b.Made A o

theorem Makes.bind {b : Blueprint H} {A : String → Value H → Prop} {x : Access H H.Object}
    {k : H.Object → Access H H.Object} (hx : b.Makes A x)
    (hk : ∀ o, b.Made A o → b.Makes A (k o)) : b.Makes A (x >>= k) := by
  intro w o w' h
  obtain ⟨o₁, w₁, ho₁, h⟩ := Effect.bind_eq_ok.1 h
  exact hk o₁ (hx w o₁ w₁ ho₁) w₁ o w' h

end Blueprint

namespace Draft

variable {b : Blueprint H} {R : H.World → H.World → Prop} {E : AccessError → Prop}
  {A : String → Value H → Prop} {d : Draft H}

/-- Setters get admissible values. -/
def Sets (d : Draft H) (A : String → Value H → Prop) : Prop :=
  ∀ p v, d.written p = some v → p.Settable ∧ A p.name v

theorem sets_of_expected (hvalues : ∀ n v, d.expected.get? n = some v → A n v) : d.Sets A := by
  intro p v hv
  unfold written at hv
  split at hv
  · rename_i hvia
    simp only [viaSetter, Bool.and_eq_true, Bool.not_eq_true'] at hvia
    exact ⟨hvia.1, hvalues _ _ hv⟩
  · cases hv

/-! ## Writes -/

theorem writeAll_of_none {p : Property H} {ps : List (Property H)} (hp : d.written p = none) :
    d.writeAll (p :: ps) = d.writeAll ps := by
  funext o
  rw [writeAll_cons, hp]

theorem writeAll_of_some {p : Property H} {ps : List (Property H)} {v : Value H}
    (hp : d.written p = some v) :
    d.writeAll (p :: ps) = fun o => p.write o v >>= d.writeAll ps := by
  funext o
  rw [writeAll_cons, hp]

section

variable (h : b.Indifferent R E A) (hd : d.Sets A)
include h hd

theorem inStep_writeAll {ps : List (Property H)} (hps : ∀ p ∈ ps, p ∈ b.bean.properties)
    {o : H.Object} (ho : b.Made A o) : InStep R E (d.writeAll ps o) (d.writeAll ps o) := by
  induction ps generalizing o with
  | nil => exact .pure o
  | cons p ps ih =>
    obtain ⟨hp, hps⟩ := List.forall_mem_cons.1 hps
    rw [writeAll_cons]
    cases hv : d.written p with
    | none => exact ih hps ho
    | some v =>
      obtain ⟨hsettable, hA⟩ := hd p v hv
      refine (h.write o ho p hp hsettable v hA).bind_of_ok ?_
      rintro o' ⟨w, w', ho'⟩
      exact ih hps (.written ho hp hsettable hA ho')

omit h in
theorem makes_writeAll {ps : List (Property H)} (hps : ∀ p ∈ ps, p ∈ b.bean.properties)
    {o : H.Object} (ho : b.Made A o) : b.Makes A (d.writeAll ps o) := by
  induction ps generalizing o with
  | nil =>
    intro w o' w' ho'
    obtain ⟨rfl, -⟩ := Effect.pure_eq_ok.1 ho'
    exact ho
  | cons p ps ih =>
    obtain ⟨hp, hps⟩ := List.forall_mem_cons.1 hps
    rw [writeAll_cons]
    cases hv : d.written p with
    | none => exact ih hps ho
    | some v =>
      obtain ⟨hsettable, hA⟩ := hd p v hv
      exact Blueprint.Makes.bind (fun _ _ _ ho' => .written ho hp hsettable hA ho')
        fun o' ho' => ih hps ho'

/-- The write of one property may be put off until after those of others. -/
theorem write_writeAll {p : Property H} (hp : p ∈ b.bean.properties) (hsettable : p.Settable)
    {v : Value H} (hv : A p.name v) {ps : List (Property H)}
    (hps : ∀ q ∈ ps, q ∈ b.bean.properties ∧ p.name ≠ q.name) {o : H.Object}
    (ho : b.Made A o) :
    InStep R E (p.write o v >>= d.writeAll ps) (d.writeAll ps o >>= fun o => p.write o v) := by
  induction ps generalizing o with
  | nil =>
    have hnil : (p.write o v >>= d.writeAll []) = p.write o v := bind_pure _
    rw [hnil]
    exact h.write o ho p hp hsettable v hv
  | cons q ps ih =>
    obtain ⟨⟨hq, hne⟩, hps⟩ := List.forall_mem_cons.1 hps
    cases hu : d.written q with
    | none =>
      rw [writeAll_of_none hu]
      exact ih hps ho
    | some u =>
      obtain ⟨hqset, hqA⟩ := hd q u hu
      have hmade : b.Makes A (p.write o v >>= fun o => q.write o u) :=
        Blueprint.Makes.bind (fun _ _ _ ho' => .written ho hp hsettable hv ho')
          fun _ ho' _ _ _ ho'' => .written ho' hq hqset hqA ho''
      have hswap : InStep R E ((p.write o v >>= fun o => q.write o u) >>= d.writeAll ps)
          ((q.write o u >>= fun o => p.write o v) >>= d.writeAll ps) := by
        refine (h.commute o ho p hp q hq hsettable hqset hne v u hv hqA).bind_of_ok ?_
        rintro o' ⟨w, w', ho'⟩
        exact inStep_writeAll h hd (fun q hq => (hps q hq).1) (hmade w o' w' ho')
      have hrest : InStep R E (q.write o u >>= fun o => p.write o v >>= d.writeAll ps)
          (q.write o u >>= fun o => d.writeAll ps o >>= fun o => p.write o v) := by
        refine (h.write o ho q hq hqset u hqA).bind_of_ok ?_
        rintro o' ⟨w, w', ho'⟩
        exact ih hps (.written ho hq hqset hqA ho')
      rw [writeAll_of_some hu]
      simp only [bind_assoc] at hswap ⊢
      exact hswap.trans h.equivalence hrest

end

/-! ## Both ways -/

theorem written_prefer_creator (d : Draft H) (p : Property H) :
    (d.prefer .creator).written p =
      if d.blueprint.isParameter p.name then none else (d.prefer .setters).written p := by
  unfold written viaSetter prefer
  cases d.blueprint.isParameter p.name <;> simp

theorem written_prefer_setters {p : Property H} (hp : p.Settable) :
    (d.prefer .setters).written p = d.expected.get? p.name := by
  simp [written, viaSetter, prefer, hp.1, hp.2]

/-- Arguments where the parameters that are set later have their staged values already. -/
structure Advanced (d : Draft H) (ps : List (Property H)) (args args' : Args H) : Prop where
  staged : ∀ p ∈ ps, p.Settable → d.blueprint.isParameter p.name = true →
    args'.get? p.name = d.expected.get? p.name
  same : ∀ n, (∀ p ∈ ps, p.Settable → d.blueprint.isParameter p.name = true → p.name ≠ n) →
    args'.get? n = args.get? n

theorem Advanced.tail {p : Property H} {ps : List (Property H)} {args args' : Args H}
    (h : d.Advanced (p :: ps) args args')
    (hp : ¬(p.Settable ∧ d.blueprint.isParameter p.name = true)) : d.Advanced ps args args' := by
  refine ⟨fun q hq => h.staged q (List.mem_cons_of_mem p hq), fun n hn => h.same n ?_⟩
  refine List.forall_mem_cons.2 ⟨fun hsettable hparameter => ?_, hn⟩
  exact absurd ⟨hsettable, hparameter⟩ hp

theorem Advanced.insert {p : Property H} {ps : List (Property H)} {args args' : Args H}
    {v : Value H} (h : d.Advanced (p :: ps) args args') (hp : p.Settable)
    (hparameter : d.blueprint.isParameter p.name = true)
    (hv : d.expected.get? p.name = some v) : d.Advanced ps (args.insert p.name v) args' := by
  refine ⟨fun q hq => h.staged q (List.mem_cons_of_mem p hq), fun n hn => ?_⟩
  rw [Table.get?_insert]
  split
  · rename_i hname
    rw [hname, h.staged p List.mem_cons_self hp hparameter, hv]
  · rename_i hname
    exact h.same n (List.forall_mem_cons.2 ⟨fun _ _ => Ne.symm hname, hn⟩)

/-- Constructing with the staged values of parameters and setting the rest is constructing with
other values and setting all. -/
theorem build_writeAll (h : d.blueprint.Indifferent R E A)
    (hstaged : ∀ n ∈ d.blueprint.creator.names, (d.expected.get? n).isSome = true)
    (hvalues : ∀ n v, d.expected.get? n = some v → A n v) {ps : List (Property H)}
    (hps : ∀ p ∈ ps, p ∈ d.blueprint.bean.properties) (hnames : (ps.map (·.name)).Nodup)
    {args args' : Args H} (hargs : d.blueprint.Complete A args)
    (hargs' : d.blueprint.Complete A args') (hadvanced : d.Advanced ps args args') :
    InStep R E (d.blueprint.build args' >>= (d.prefer .creator).writeAll ps)
      (d.blueprint.build args >>= (d.prefer .setters).writeAll ps) := by
  have hcreator : (d.prefer .creator).Sets A := sets_of_expected hvalues
  have hsetters : (d.prefer .setters).Sets A := sets_of_expected hvalues
  have hbuilds : ∀ {args : Args H}, d.blueprint.Complete A args →
      d.blueprint.Makes A (d.blueprint.build args) := fun hargs _ _ _ ho => .built hargs ho
  -- The induction is on the properties yet to be set; what is set joins the arguments.
  induction ps generalizing args with
  | nil =>
    have hsame : ∀ n, args'.get? n = args.get? n := fun n =>
      hadvanced.same n (List.forall_mem_nil _)
    exact (h.build args args' hargs hsame).bind fun o => .pure o
  | cons p ps ih =>
    obtain ⟨hp, hps⟩ := List.forall_mem_cons.1 hps
    obtain ⟨hfresh, hnames⟩ := List.nodup_cons.1 hnames
    cases hw : (d.prefer .setters).written p with
    | none =>
      -- The property is not set in either way.
      have hnot : ¬(p.Settable ∧ d.blueprint.isParameter p.name = true) := by
        rintro ⟨hsettable, hparameter⟩
        rw [written_prefer_setters hsettable] at hw
        have hsome := hstaged p.name (Model.contains_iff.1 hparameter)
        rw [hw] at hsome
        cases hsome
      have hcw : (d.prefer .creator).written p = none := by
        rw [written_prefer_creator, hw, ite_self]
      rw [writeAll_of_none hw, writeAll_of_none hcw]
      exact ih hps hnames hargs (hadvanced.tail hnot)
    | some v =>
      obtain ⟨hsettable, hA⟩ := hsetters p v hw
      rw [writeAll_of_some hw]
      by_cases hparameter : d.blueprint.isParameter p.name = true
      · -- The constructor gets the value, or the setter does right after it.
        have hv : d.expected.get? p.name = some v := (written_prefer_setters hsettable).symm.trans hw
        have hinsert := hargs.insert hparameter hA
        have hcw : (d.prefer .creator).written p = none := by
          rw [written_prefer_creator, if_pos hparameter]
        rw [writeAll_of_none hcw]
        refine (ih hps hnames hinsert (hadvanced.insert hsettable hparameter hv)).trans
          h.equivalence ?_
        rw [← bind_assoc]
        refine (h.parameter p hp hsettable hparameter args hargs v hA).bind_of_ok ?_
        rintro o ⟨w, w', ho⟩
        exact inStep_writeAll h hsetters hps (hbuilds hinsert w o w' ho)
      · -- Both ways set the value, which may wait for the rest in either of them.
        have hcw : (d.prefer .creator).written p = some v := by
          rw [written_prefer_creator, if_neg hparameter, hw]
        have hothers : ∀ q ∈ ps, q ∈ d.blueprint.bean.properties ∧ p.name ≠ q.name :=
          fun q hq => ⟨hps q hq, fun hname => hfresh (List.mem_map.2 ⟨q, hq, hname.symm⟩)⟩
        have hwait : ∀ {e : Draft H} {args : Args H}, e.Sets A → d.blueprint.Complete A args →
            InStep R E (d.blueprint.build args >>= fun o => p.write o v >>= e.writeAll ps)
              ((d.blueprint.build args >>= e.writeAll ps) >>= fun o => p.write o v) := by
          intro e args he hargs
          rw [bind_assoc]
          refine (h.build args args hargs fun _ => rfl).bind_of_ok ?_
          rintro o ⟨w, w', ho⟩
          exact write_writeAll h he hp hsettable hA hothers (hbuilds hargs w o w' ho)
        rw [writeAll_of_some hcw]
        have hmade : d.blueprint.Makes A
            (d.blueprint.build args' >>= (d.prefer .creator).writeAll ps) :=
          (hbuilds hargs').bind fun o ho => makes_writeAll hcreator hps ho
        refine (hwait hcreator hargs').trans h.equivalence ?_
        refine .trans h.equivalence ?_ ((hwait hsetters hargs).symm h.equivalence)
        refine (ih hps hnames hargs (hadvanced.tail fun hnot => hparameter hnot.2)).bind_of_ok ?_
        rintro o ⟨w, w', ho⟩
        exact h.write o (hmade w o w' ho) p hp hsettable v hA

/-- An argument is the initial value or the staged one, which there is. -/
theorem arg?_cases {n : String} (hn : (d.expected.get? n).isSome = true) :
    ∃ v, d.arg? n = some v ∧
      (d.expected.get? n = some v ∨ ∃ values, d.initial = some values ∧ values.get? n = some v) := by
  obtain ⟨v, hv⟩ := Option.isSome_iff_exists.1 hn
  unfold arg?
  split
  · cases hinitial : d.initial.bind (·.get? n) with
    | none => exact ⟨v, by rw [hv]; rfl, .inl hv⟩
    | some u => exact ⟨u, rfl, .inr (Option.bind_eq_some_iff.1 hinitial)⟩
  · exact ⟨v, hv, .inl hv⟩

theorem complete_args
    (hstaged : ∀ n ∈ d.blueprint.creator.names, (d.expected.get? n).isSome = true)
    (hvalues : ∀ n v, d.expected.get? n = some v → A n v)
    (hinitial : ∀ values, d.initial = some values → ∀ n v, values.get? n = some v → A n v) :
    d.blueprint.Complete A d.args := by
  have harg : ∀ n ∈ d.blueprint.creator.names, ∃ v, d.arg? n = some v ∧ A n v := by
    intro n hn
    obtain ⟨v, hv, hstaged | ⟨values, hvs, hvalue⟩⟩ := arg?_cases (hstaged n hn)
    · exact ⟨v, hv, hvalues n v hstaged⟩
    · exact ⟨v, hv, hinitial values hvs n v hvalue⟩
  have hparameter : ∀ {n}, d.blueprint.isParameter n = true ↔ n ∈ d.blueprint.creator.names :=
    Model.contains_iff
  refine ⟨fun n => ?_, fun n v hv => ?_⟩
  · rw [get?_args]
    split
    · rename_i hn
      obtain ⟨v, hv, -⟩ := harg n hn
      rw [hv, hparameter.2 hn]
      rfl
    · rename_i hn
      rw [Bool.eq_false_iff.2 fun h => hn (hparameter.1 h)]
      rfl
  · rw [get?_args] at hv
    split at hv
    · rename_i hn
      obtain ⟨u, hu, hA⟩ := harg n hn
      rw [hu] at hv
      cases hv
      exact hA
    · cases hv

/-- A parameter that no setter gets to has the same argument in both ways. -/
theorem advanced_args (htested : ∀ p ∈ d.blueprint.bean.properties, p.isWritable = true →
      d.blueprint.isParameter p.name = true → p.flags.ignored = false) :
    d.Advanced d.blueprint.bean.properties (d.prefer .setters).args (d.prefer .creator).args := by
  have hcreator : ∀ n, (d.prefer .creator).args.get? n =
      if n ∈ d.blueprint.creator.names then d.expected.get? n else none := get?_args _
  have hsetters : ∀ n, (d.prefer .setters).args.get? n =
      if n ∈ d.blueprint.creator.names then (d.prefer .setters).arg? n else none := get?_args _
  refine ⟨fun p hp _ hparameter => ?_, fun n hn => ?_⟩
  · rw [hcreator, if_pos (Model.contains_iff.1 hparameter)]
  · rw [hcreator, hsetters]
    split
    · rename_i hname
      have hwritable : d.blueprint.isWritable n = false := by
        refine Bool.eq_false_iff.2 fun hw => ?_
        obtain ⟨p, hp, hwritable⟩ := (Option.any_eq_true ..).1 hw
        obtain ⟨hmem, rfl⟩ := Model.mem_of_get? hp
        have hparameter : d.blueprint.isParameter p.name = true := Model.contains_iff.2 hname
        have hsettable : p.Settable := ⟨hwritable, htested p hmem hwritable hparameter⟩
        exact hn p hmem hsettable hparameter rfl
      simp [arg?, prefer, hwritable]
    · rfl

/-- Where values may as well come through the constructor or a setter, a draft with a value for
every parameter builds the same bean in both ways, or fails with the same error, which is one that
constructing and setting have.  It does not matter whether the draft has initial values. -/
theorem tryNewBean_prefer (hwf : d.blueprint.WellFormed) (h : d.blueprint.Indifferent R E A)
    (hstaged : ∀ n ∈ d.blueprint.creator.names, (d.expected.get? n).isSome = true)
    (hvalues : ∀ n v, d.expected.get? n = some v → A n v)
    (hinitial : ∀ values, d.initial = some values → ∀ n v, values.get? n = some v → A n v) :
    ∀ w w', R w w' →
      (∃ bean v v', (d.prefer .creator).tryNewBean w = .ok bean v ∧
        (d.prefer .setters).tryNewBean w' = .ok bean v' ∧ R v v') ∨
      ∃ e v v', (d.prefer .creator).tryNewBean w = .error e v ∧
        (d.prefer .setters).tryNewBean w' = .error e v' ∧ E e ∧ R v v' := by
  have hcreator : d.blueprint.Complete A (d.prefer .creator).args :=
    complete_args (d := d.prefer .creator) hstaged hvalues hinitial
  have hsetters : d.blueprint.Complete A (d.prefer .setters).args :=
    complete_args (d := d.prefer .setters) hstaged hvalues hinitial
  have hsame : InStep R E (d.prefer .creator).tryNewBean (d.prefer .setters).tryNewBean := by
    have hbuild := build_writeAll h hstaged hvalues (fun _ hp => hp) hwf.bean hsetters hcreator
      (advanced_args h.tested)
    have hbean := hbuild.bind fun o => .pure (some (Datum.object d.blueprint.path o))
    rwa [bind_assoc, bind_assoc] at hbean
  exact fun w w' hw => (hsame w w' hw).cases

end Draft

/-! ## A lamp whose parameter is writable -/

namespace Lamp

def switchable : Blueprint host :=
  { blueprint with
    bean := ⟨[
      { name := "on", type := .bool, getter := some fun o => pure (ofSwitch o.1),
        setter := some fun o v => pure (toSwitch v, o.2) },
      { name := "dim", type := .bool, getter := some fun o => pure (ofSwitch o.2),
        setter := some fun o v => pure (o.1, toSwitch v) }]⟩ }

def Switches (_ : String) (v : Value host) : Prop := v.cast .bool = .ok v

theorem mem_switchable {p : Property host} (hp : p ∈ switchable.bean.properties) :
    (p.name = "on" ∧ ∀ o v, v.cast .bool = .ok v → p.write o v = pure (toSwitch v, o.2)) ∨
      p.name = "dim" ∧ ∀ o v, v.cast .bool = .ok v → p.write o v = pure (o.1, toSwitch v) := by
  obtain rfl | rfl : p = _ ∨ p = _ := by simpa [switchable] using hp
  · refine .inl ⟨rfl, fun o v hv => ?_⟩
    unfold Property.write
    simp only [hv]
    rfl
  · refine .inr ⟨rfl, fun o v hv => ?_⟩
    unfold Property.write
    simp only [hv]
    rfl

theorem indifferent : switchable.Indifferent (· = ·) (fun _ => False) Switches where
  equivalence := ⟨fun _ => rfl, Eq.symm, Eq.trans⟩
  tested p hp _ _ := by
    obtain rfl | rfl : p = _ ∨ p = _ := by simpa [switchable] using hp
    · rfl
    · rfl
  build args args' _ hget := by
    have hsame : switchable.build args' = switchable.build args := by
      show guarded (pure _) = guarded (pure _)
      rw [hget]
    rw [hsame]
    exact .pure _
  write o _ p hp _ v hv := by
    rcases mem_switchable hp with ⟨-, hwrite⟩ | ⟨-, hwrite⟩
    · rw [hwrite o v hv]
      exact .pure _
    · rw [hwrite o v hv]
      exact .pure _
  commute o _ p hp q hq _ _ hne u v hu hv := by
    rcases mem_switchable hp with ⟨hpn, hpw⟩ | ⟨hpn, hpw⟩ <;>
      rcases mem_switchable hq with ⟨hqn, hqw⟩ | ⟨hqn, hqw⟩
    · exact absurd (hpn.trans hqn.symm) hne
    · simp only [hpw _ u hu, hqw _ v hv]
      exact .pure _
    · simp only [hpw _ u hu, hqw _ v hv]
      exact .pure _
    · exact absurd (hpn.trans hqn.symm) hne
  parameter p hp _ hparameter args _ v hv := by
    rcases mem_switchable hp with ⟨hpn, hpw⟩ | ⟨hpn, hpw⟩
    · simp only [hpw _ v hv, hpn]
      have hget : (args.insert "on" v).get? "on" = some v := by simp [Table.get?_insert]
      show InStep _ _ (guarded (pure (toSwitch (((args.insert "on" v).get? "on").getD none), none))) _
      rw [hget]
      exact .pure _
    · rw [hpn] at hparameter
      cases hparameter

theorem switches_insert {values : Args host} {n : String} {v : Value host}
    (h : ∀ m u, values.get? m = some u → Switches m u) (hv : v.cast .bool = .ok v) :
    ∀ m u, (values.insert n v).get? m = some u → Switches m u := by
  intro m u hu
  rw [Table.get?_insert] at hu
  split at hu
  · cases hu
    exact hv
  · exact h m u hu

def dimmed : Draft host where
  blueprint := switchable
  expected := (Table.empty.insert "on" (some (.bool true))).insert "dim" (some (.bool false))
  initial := some (Table.empty.insert "on" none)

end Lamp

/-- The lamp is the same whether it is switched on by its constructor or by its setter. -/
theorem Draft.tryNewBean_prefer_lamp :
    Lamp.switchable.WellFormed ∧
      Lamp.switchable.Indifferent (· = ·) (fun _ => False) Lamp.Switches ∧
      ∃ bean, (Lamp.dimmed.prefer .creator).tryNewBean () = .ok bean () ∧
        (Lamp.dimmed.prefer .setters).tryNewBean () = .ok bean () := by
  have hwf : Lamp.switchable.WellFormed := by
    refine ⟨by decide, by decide, fun n p q hp hq => ?_⟩
    obtain ⟨hp', rfl⟩ := Model.mem_of_get? hp
    obtain rfl : p = { name := "on", type := .bool } := by
      simpa [Lamp.switchable, Lamp.blueprint] using hp'
    cases hq
    exact ⟨rfl, rfl⟩
  have hstaged : ∀ n ∈ Lamp.switchable.creator.names, (Lamp.dimmed.expected.get? n).isSome = true := by
    decide
  have hempty : ∀ n v, (Table.empty : Args Lamp.host).get? n = some v → Lamp.Switches n v := by
    intro n v hv
    cases hv
  have hvalues := Lamp.switches_insert (Lamp.switches_insert hempty (n := "on")
    (v := some (.bool true)) rfl) (n := "dim") (v := some (.bool false)) rfl
  have hinitial : ∀ values, Lamp.dimmed.initial = some values →
      ∀ n v, values.get? n = some v → Lamp.Switches n v := by
    rintro values hvalues
    cases hvalues
    exact Lamp.switches_insert hempty (n := "on") rfl
  rcases Draft.tryNewBean_prefer (d := Lamp.dimmed) hwf Lamp.indifferent hstaged hvalues hinitial
    () () rfl with ⟨bean, v, v', hc, hs, -⟩ | ⟨e, v, v', -, -, he, -⟩
  · exact ⟨hwf, Lamp.indifferent, bean, hc, hs⟩
  · exact he.elim

end BeanContract
