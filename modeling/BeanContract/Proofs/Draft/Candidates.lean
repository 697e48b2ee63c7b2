/-
The candidates of a property.

The two fixed values of a property come first among its candidates, whatever random
values and null follow (`candidates_eq_ok`).
-/
import BeanContract.Proofs.Context.Recursion
import BeanContract.Proofs.Draft.Stage

namespace BeanContract

variable {H : Host} {c c' : Context H}

namespace Draft

theorem factory_eq_ok {d : Draft H} {n : String} {f : Factory H} :
    d.factory n c = .ok f c' ↔
      c' = c ∧ ∃ t, d.propertyType n = .ok t ∧ c.registry.forProperty d.type n t = .ok f := by
  constructor
  · intro h
    obtain ⟨t, c₁, ht, h⟩ := Effect.bind_eq_ok.1 h
    obtain ⟨ht', rfl⟩ := Effect.ofExcept_eq_ok.1 ht
    obtain ⟨c₂, c₃, hget, h⟩ := Effect.bind_eq_ok.1 h
    obtain ⟨rfl, rfl⟩ := Effect.get_eq_ok.1 hget
    obtain ⟨hf, rfl⟩ := Effect.ofExcept_eq_ok.1 h
    exact ⟨rfl, t, ht', hf⟩
  · rintro ⟨rfl, t, ht, hf⟩
    refine Effect.bind_eq_ok.2 ⟨t, c', Effect.ofExcept_eq_ok.2 ⟨ht, rfl⟩, ?_⟩
    exact Effect.bind_eq_ok.2 ⟨c', c', rfl, Effect.ofExcept_eq_ok.2 ⟨hf, rfl⟩⟩

/-- A draw depends on the draft by its blueprint only. -/
theorem draw_eq_ok {create : Creator H} {d : Draft H} {n : String} {channel : Channel}
    {v : Value H} :
    d.draw create n channel c = .ok v c' ↔
      ∃ f, d.factory n c = .ok f c ∧ create f channel c = .ok v c' := by
  constructor
  · intro h
    obtain ⟨f, c₁, hf, hv⟩ := Effect.bind_eq_ok.1 h
    obtain ⟨rfl, hf'⟩ := factory_eq_ok.1 hf
    exact ⟨f, factory_eq_ok.2 ⟨rfl, hf'⟩, hv⟩
  · rintro ⟨f, hf, hv⟩
    exact Effect.bind_eq_ok.2 ⟨f, c, hf, hv⟩

theorem extendApart_eq_ok {f : Factory H} {n : Nat} {found values : List (Value H)}
    (h : extendApart f n found c = .ok values c') :
    ∃ randoms, values = found ++ randoms ∧ randoms.length = n := by
  induction n generalizing found c with
  | zero =>
    obtain ⟨rfl, -⟩ := Effect.pure_eq_ok.1 h
    exact ⟨[], by simp, rfl⟩
  | succ n ih =>
    obtain ⟨v, c₁, -, hrest⟩ := Effect.bind_eq_ok.1 h
    obtain ⟨randoms, rfl, hn⟩ := ih hrest
    exact ⟨v :: randoms, by simp, by simp [hn]⟩

theorem withNull_fixed (a b : Value H) (randoms : List (Value H)) :
    ∃ rest, withNull randoms.length (a :: b :: randoms) = a :: b :: rest := by
  unfold withNull
  by_cases hr : randoms = []
  · exact ⟨[none], by simp [hr]⟩
  · exact ⟨randoms.dropLast ++ [none], by simp [hr, List.dropLast_cons_of_ne_nil]⟩

/-- The first two candidates are the primary and the secondary value of the property. -/
theorem candidates_eq_ok {d : Draft H} {n : String} {null : Bool} {values : List (Value H)}
    (h : d.candidates n null c = .ok values c') :
    ∃ a b rest c₁ c₂, d.draw Run.create n .primary c = .ok a c₁ ∧
      d.draw Run.create n .secondary c₁ = .ok b c₂ ∧ values = a :: b :: rest := by
  obtain ⟨f, c₀, hf, hdraws⟩ := Effect.bind_eq_ok.1 h
  obtain ⟨rfl, t, ht, hf'⟩ := factory_eq_ok.1 hf
  obtain ⟨a, c₁, ha, hdraws⟩ := Effect.bind_eq_ok.1 hdraws
  obtain ⟨b, c₂, hb, hdraws⟩ := Effect.bind_eq_ok.1 hdraws
  have hprimary := draw_eq_ok.2 ⟨f, hf, ha⟩
  -- The secondary value comes from the same factory, since a creation keeps the registry.
  have hregistry : c₁.registry = c₀.registry :=
    congrArg (·.2.1) ((Run.create_keeps f .primary).of_ok ha)
  have hf₁ : d.factory n c₁ = .ok f c₁ := factory_eq_ok.2 ⟨rfl, t, ht, by rw [hregistry, hf']⟩
  have hsecondary := draw_eq_ok.2 ⟨f, hf₁, hb⟩
  obtain ⟨c₃, c₄, hget, hrandoms⟩ := Effect.bind_eq_ok.1 hdraws
  obtain ⟨rfl, rfl⟩ := Effect.get_eq_ok.1 hget
  obtain ⟨found, c₅, hfound, hend⟩ := Effect.bind_eq_ok.1 hrandoms
  obtain ⟨rfl, rfl⟩ := Effect.pure_eq_ok.1 hend
  obtain ⟨randoms, rfl, hlength⟩ := extendApart_eq_ok hfound
  refine ⟨a, b, ?_⟩
  cases null with
  | false => exact ⟨randoms, c₁, c₂, hprimary, hsecondary, rfl⟩
  | true =>
    obtain ⟨rest, hrest⟩ := withNull_fixed a b randoms
    refine ⟨rest, c₁, c₂, hprimary, hsecondary, ?_⟩
    rw [← hrest, hlength]
    rfl

theorem factory_congr {d e : Draft H} (h : d.blueprint.SameCode e.blueprint) (n : String) :
    d.factory n = e.factory n := by
  have htype : d.propertyType n = e.propertyType n := by
    unfold propertyType beanName
    rcases h.property_rel n with ⟨p, q, hp, hq, hpq⟩ | ⟨hp, hq⟩
    · rw [hp, hq]
      exact congrArg Except.ok hpq.type.symm
    · rw [hp, hq, h.name]
  unfold factory type
  rw [htype, h.type]

theorem draw_congr {d e : Draft H} (h : d.blueprint.SameCode e.blueprint) (create : Creator H)
    (n : String) (channel : Channel) : d.draw create n channel = e.draw create n channel := by
  unfold draw
  rw [factory_congr h]

theorem candidates_congr {d e : Draft H} (h : d.blueprint.SameCode e.blueprint) (n : String)
    (null : Bool) : d.candidates n null = e.candidates n null := by
  unfold candidates
  rw [factory_congr h]

/-- What a channel of a property always draws from a registry. -/
def Fixed (d : Draft H) (r : Registry H) (n : String) (channel : Channel) (v : Value H) : Prop :=
  ∀ c u c', c.registry = r → d.draw Run.create n channel c = .ok u c' → u = v

/-- A property is fixed on a channel if its factory only hands out a value there. -/
theorem fixed_of_done {d : Draft H} {r : Registry H} {n : String} {t : ValueType}
    {f : Factory H} {channel : Channel} {v : Value H} (ht : d.propertyType n = .ok t)
    (hf : r.forProperty d.type n t = .ok f) (hv : f.source channel = .done v) :
    d.Fixed r n channel v := by
  rintro c u c' rfl hdraw
  obtain ⟨g, hg, hu⟩ := draw_eq_ok.1 hdraw
  obtain ⟨-, t', ht', hg'⟩ := factory_eq_ok.1 hg
  rw [ht] at ht'
  cases ht'
  rw [hf] at hg'
  cases hg'
  exact ((Run.create_done hv).1 hu).2.1

/-- Primary values that are fixed are those that are drawn. -/
theorem get?_drawPrimary {d : Draft H} {names : List String} {t t' : Table String (Value H)}
    {primary : String → Value H}
    (hfixed : ∀ n ∈ names, d.Fixed c.registry n .primary (primary n))
    (h : d.drawPrimary Run.create names t c = .ok t' c') (k : String) :
    t'.get? k = if k ∈ names then some (primary k) else t.get? k := by
  induction names generalizing t c with
  | nil =>
    obtain ⟨rfl, -⟩ := Effect.pure_eq_ok.1 h
    simp
  | cons n names ih =>
    obtain ⟨v, c₁, hv, hrest⟩ := Effect.bind_eq_ok.1 h
    have hregistry : c₁.registry = c.registry :=
      congrArg (·.2.1) ((draw_keeps Run.create_keeps d n .primary).of_ok hv)
    obtain rfl := hfixed n List.mem_cons_self c v c₁ rfl hv
    have hfixed' : ∀ m ∈ names, d.Fixed c₁.registry m .primary (primary m) := fun m hm => by
      rw [hregistry]
      exact hfixed m (List.mem_cons_of_mem n hm)
    rw [ih hfixed' hrest, Table.get?_insert]
    by_cases hk : k = n
    · simp [hk]
    · simp [hk]

/-- A draft reset for the first time stages the fixed primary values. -/
theorem get?_reset {b : Blueprint H} {d : Draft H} {primary : String → Value H} {u : Unit}
    (hfixed : ∀ n ∈ b.staged, (ofBlueprint b).Fixed c.registry n .primary (primary n))
    (h : Stage.reset Run.create (.ofBlueprint b, c) = .ok u (d, c')) (k : String) :
    d.expected.get? k = if k ∈ b.staged then some (primary k) else none := by
  obtain ⟨d', s, hd, h⟩ := Effect.bind_eq_ok.1 h
  obtain ⟨rfl, rfl⟩ := Stage.draft_eq_ok.1 hd
  obtain ⟨values, ⟨d₁, c₁⟩, hvalues, hchange⟩ := Effect.bind_eq_ok.1 h
  obtain ⟨-, hvalues'⟩ := Stage.ofRun_eq_ok.1 hvalues
  cases Stage.change_eq_ok.1 hchange
  exact get?_drawPrimary hfixed hvalues' k

end Draft
/-- The value of a property without chance: null where nesting has to stop and the property may
be null, and a drawn one otherwise. -/
theorem Stage.valueFor_eq (create : Creator H) (d : Draft H) (n : String) (channel : Channel)
    (c : Context H) : valueFor create channel false d n c =
      if d.blueprint.isNullable n && c.atStructuralDepth then .ok none c
      else d.draw create n channel c := by
  show (if d.blueprint.isNullable n then _ else _ : Run H (Value H)) c = _
  cases d.blueprint.isNullable n with
  | false => rfl
  | true =>
    show (if c.atStructuralDepth then _ else _ : Run H (Value H)) c = _
    cases c.atStructuralDepth <;> rfl

end BeanContract
