/-
Contexts that supply fitting values.

The checks draw values while they run, and every draw changes the context it is made in.
`Supplied` says of a set of contexts that draws succeed there, with values that fit, and
stay there.  A draft staged in such a context is `Proper`, and `Ready` once it is reset; what
a check does to it keeps that, whatever is drawn.
-/
import BeanContract.Proofs.Draft.Candidates
import BeanContract.Proofs.Storage.Draft

namespace BeanContract

open Effect (Ends)

variable {H : Host} {α : Type}

/-! ## Draws -/

/-- Contexts in which a value can be drawn for every property that gets one.  The values fit,
and the contexts stay among these through draws, and whatever the world and the random engine
become. -/
structure Supplied (b : Blueprint H) (G : Datum H.Object → Prop) (I : Context H → Prop) :
    Prop where
  world : ∀ c w, I c → I { c with world := w }
  engine : ∀ c e, I c → I { c with engine := e }
  factory : ∀ n ∈ b.staged, ∃ p f, b.property? n = some p ∧
    (∀ c, I c → c.registry.forProperty b.type n p.type = .ok f) ∧
    ∀ c channel, I c → Ends (Run.create f channel) c fun v c' => I c' ∧ Fits G p.type v

theorem Blueprint.SameCode.supplied {b b' : Blueprint H} (h : b.SameCode b')
    {G : Datum H.Object → Prop} {I : Context H → Prop} (hI : Supplied b G I) :
    Supplied b' G I where
  world := hI.world
  engine := hI.engine
  factory n hn := by
    rw [h.staged] at hn
    obtain ⟨p, f, hp, hf, hcreate⟩ := hI.factory n hn
    rcases h.property_rel n with ⟨p', q, hp', hq, hpq⟩ | ⟨hnone, -⟩
    · rw [hp] at hp'
      cases hp'
      refine ⟨q, f, hq, ?_⟩
      rw [h.type, hpq.type]
      exact ⟨hf, hcreate⟩
    · rw [hp] at hnone
      cases hnone

section

variable {b : Blueprint H} {G : Datum H.Object → Prop} {I : Context H → Prop}
  (hI : Supplied b G I)
include hI

namespace Run

theorem ends_engine (step : Random.Engine → α × Random.Engine) {c : Context H} (hc : I c) :
    Ends (draw step) c fun a c' => I c' ∧ a = (step c.engine).1 :=
  ⟨_, _, rfl, hI.engine c _ hc, rfl⟩

theorem ends_chance (p : Float) {c : Context H} (hc : I c) :
    Ends (chance p) c fun _ c' => I c' :=
  (ends_engine hI _ hc).mono fun _ _ h => h.1

omit hI in
theorem ends_createApart {f : Factory H} {P : Value H → Prop}
    (hf : ∀ c, I c → Ends (create f .random) c fun v c' => I c' ∧ P v)
    (avoid : List (Value H)) (n : Nat) {c : Context H} (hc : I c) :
    Ends (createApart f avoid n) c fun v c' => I c' ∧ P v := by
  induction n generalizing c with
  | zero => exact hf c hc
  | succ n ih =>
    refine (hf c hc).bind fun v c' h => ?_
    split
    · exact ih h.1
    · exact .pure h

end Run

namespace Draft

variable {d : Draft H} (hd : d.blueprint = b) {n : String} (hn : n ∈ b.staged)
include hd hn

theorem ends_factory {c : Context H} (hc : I c) : Ends (d.factory n) c fun f c' => c' = c ∧
    ∀ c channel, I c → Ends (Run.create f channel) c fun v c' => I c' ∧ b.Accepts G n v := by
  obtain ⟨p, f, hp, hf, hcreate⟩ := hI.factory n hn
  have htype : d.propertyType n = .ok p.type := by
    unfold propertyType
    rw [hd, hp]
  have hfactory : d.factory n c = .ok f c := by
    refine factory_eq_ok.2 ⟨rfl, p.type, htype, ?_⟩
    unfold type
    rw [hd]
    exact hf c hc
  refine ⟨f, c, hfactory, rfl, fun c channel hc => (hcreate c channel hc).mono ?_⟩
  rintro v c' ⟨hc', hv⟩
  refine ⟨hc', fun q hq => ?_⟩
  rw [hp] at hq
  cases hq
  exact hv

theorem ends_draw (channel : Channel) {c : Context H} (hc : I c) :
    Ends (d.draw Run.create n channel) c fun v c' => I c' ∧ b.Accepts G n v := by
  refine (ends_factory hI hd hn hc).bind fun f c' h => ?_
  obtain ⟨rfl, hf⟩ := h
  exact hf c' channel hc

omit hI hd hn in
theorem ends_extendApart {f : Factory H} {P : Value H → Prop}
    (hf : ∀ c, I c → Ends (Run.create f .random) c fun v c' => I c' ∧ P v) (n : Nat)
    {found : List (Value H)} (hfound : ∀ v ∈ found, P v) {c : Context H} (hc : I c) :
    Ends (extendApart f n found) c fun vs c' => I c' ∧ ∀ v ∈ vs, P v := by
  induction n generalizing found c with
  | zero => exact .pure ⟨hc, hfound⟩
  | succ n ih =>
    have hdistinct : Ends (Run.createDistinct f found) c fun v c' => I c' ∧ P v :=
      Ends.bind (Q := fun _ c' => I c') ⟨c, c, rfl, hc⟩ fun a c' hc' =>
        Run.ends_createApart hf found _ hc'
    refine hdistinct.bind fun v c' h => ?_
    obtain ⟨hc', hv⟩ := h
    refine ih (fun u hu => ?_) hc'
    rcases List.mem_append.1 hu with hu | hu
    · exact hfound u hu
    · rw [List.mem_singleton.1 hu]
      exact hv

/-- All candidates fit. -/
theorem ends_candidates (null : Bool) {c : Context H} (hc : I c) :
    Ends (d.candidates n null) c fun vs c' => I c' ∧ ∀ v ∈ vs, b.Accepts G n v := by
  refine (ends_factory hI hd hn hc).bind fun f c₁ h => ?_
  obtain ⟨rfl, hf⟩ := h
  refine (hf c₁ .primary hc).bind fun primary c₂ h => ?_
  obtain ⟨hc₂, hprimary⟩ := h
  refine (hf c₂ .secondary hc₂).bind fun secondary c₃ h => ?_
  obtain ⟨hc₃, hsecondary⟩ := h
  refine Ends.bind (Q := fun _ c' => I c') ⟨c₃, c₃, rfl, hc₃⟩ fun a c₄ hc₄ => ?_
  have hfixed : ∀ v ∈ [primary, secondary], b.Accepts G n v := by
    rintro v hv
    rcases List.mem_pair.1 hv with rfl | rfl
    · exact hprimary
    · exact hsecondary
  have hrandom := fun c => hf c .random
  refine (ends_extendApart hrandom a.settings.randomCandidates hfixed hc₄).bind ?_
  rintro found c₅ ⟨hc₅, hfound⟩
  refine .pure ⟨hc₅, ?_⟩
  cases null with
  | false => exact hfound
  | true =>
    intro v hv
    rcases List.mem_append.1 hv with hv | hv
    · split at hv
      · exact hfound v hv
      · exact hfound v ((List.dropLast_sublist found).subset hv)
    · rw [List.mem_singleton.1 hv]
      exact fun p _ => fits_none

end Draft
end

/-! ## Staging -/

theorem Blueprint.mem_staged {b : Blueprint H} {n : String} (hn : n ∈ b.testable) :
    n ∈ b.staged := by
  obtain ⟨hname, htestable⟩ := List.mem_filter.1 hn
  refine List.mem_filter.2 ⟨hname, ?_⟩
  rw [htestable, Bool.or_true]

namespace Draft

/-- A draft of the blueprint that builds it through its parameters, from fitting values. -/
structure Proper (b : Blueprint H) (G : Datum H.Object → Prop) (d : Draft H) : Prop where
  blueprint : d.blueprint = b
  preference : d.preference = .creator
  fitting : d.Fitting G
  primary : ∀ values, d.initial = some values → ∀ n ∈ b.staged, ∃ v, values.get? n = some v

structure Ready (b : Blueprint H) (G : Datum H.Object → Prop) (d : Draft H) : Prop
    extends Proper b G d where
  staged : ∀ n ∈ b.staged, ∃ v, d.expected.get? n = some v

section

variable {b : Blueprint H} {G : Datum H.Object → Prop} {d : Draft H}

theorem proper_ofBlueprint (b : Blueprint H) (G : Datum H.Object → Prop) :
    (ofBlueprint b).Proper b G where
  blueprint := rfl
  preference := rfl
  fitting := ⟨(fun _ _ h => by cases h), fun _ h => by cases h⟩
  primary _ h := by cases h

theorem Ready.put (hd : d.Ready b G) {n : String} {v : Value H} (hv : b.Accepts G n v) :
    (d.put n v).Ready b G where
  blueprint := hd.blueprint
  preference := hd.preference
  fitting := hd.fitting.put (hd.blueprint ▸ hv)
  primary := hd.primary
  staged m hm := by
    rw [get?_put]
    by_cases hmn : m = n
    · rw [if_pos hmn]
      exact ⟨v, rfl⟩
    · rw [if_neg hmn]
      exact hd.staged m hm

namespace Proper

variable {S : Storage H} (hd : d.Proper b G) (hwf : b.WellFormed) (hst : b.StoresIn S G)
include hd hwf hst

theorem fits_content {n : String} {p : Property H} (hp : b.property? n = some p) :
    Fits G p.type (d.content S n) := by
  have hblueprint := hd.blueprint
  subst hblueprint
  exact Draft.fits_content hwf hst hd.fitting hp

omit hst in
/-- A tested property holds what is staged for it. -/
theorem content_of_staged {n : String} (hn : b.isTestable n = true) {v : Value H}
    (hv : d.expected.get? n = some v) : d.content S n = v := by
  have hblueprint := hd.blueprint
  subst hblueprint
  exact Draft.content_of_staged hwf hn hv

theorem ends_newBean (w : H.World) : Ends d.newBean w fun bean _ => d.Holds S bean := by
  have hblueprint := hd.blueprint
  subst hblueprint
  exact Draft.ends_newBean hwf hst hd.fitting w

theorem ends_read {bean : Value H} (hbean : d.Holds S bean) {n : String}
    (hn : b.isReadable n = true) (w : H.World) :
    Ends (d.read bean n) w fun v _ => v = d.content S n := by
  have hblueprint := hd.blueprint
  subst hblueprint
  exact Draft.ends_read hwf hst hd.fitting hbean hn w

end Proper

end
end Draft

namespace Stage

variable {s : Draft H × Context H} {x : Run H α} {f : Draft H → Probe H α} {Q : α → _ → Prop}

theorem ends_ofRun (h : Ends x s.2 fun a c => Q a (s.1, c)) : Ends (ofRun x) s Q := Ends.zoom h

theorem ends_draft {k : Draft H → Stage H α} (h : Ends (k s.1) s Q) : Ends (draft >>= k) s Q := h

theorem ends_context {k : Context H → Stage H α} (h : Ends (k s.2) s Q) :
    Ends (context >>= k) s Q := h

theorem ends_change {g : Draft H → Draft H} {k : Unit → Stage H α}
    (h : Ends (k ()) (g s.1, s.2) Q) : Ends (change g >>= k) s Q := h

structure Ready (b : Blueprint H) (G : Datum H.Object → Prop) (I : Context H → Prop)
    (s : Draft H × Context H) : Prop where
  draft : s.1.Ready b G
  context : I s.2

variable {b : Blueprint H} {G : Datum H.Object → Prop} {I : Context H → Prop}
  (hI : Supplied b G I)
include hI

/-- A probe changes the world and nothing else. -/
theorem ends_probe (hc : I s.2) {P : α → Prop} (h : Ends (f s.1) s.2.world fun a _ => P a) :
    Ends (probe f) s fun a t => t.1 = s.1 ∧ I t.2 ∧ P a := by
  refine ends_draft (ends_ofRun (Ends.zoom (h.mono fun a w ha => ?_)))
  exact ⟨rfl, hI.world _ w hc, ha⟩

theorem ends_drawPrimary {d : Draft H} (hd : d.blueprint = b) {names : List String}
    (hnames : ∀ n ∈ names, n ∈ b.staged) {values : Table String (Value H)}
    (hvalues : ∀ n v, values.get? n = some v → b.Accepts G n v) {c : Context H} (hc : I c) :
    Ends (d.drawPrimary Run.create names values) c fun values' c' => I c' ∧
      (∀ n v, values'.get? n = some v → b.Accepts G n v) ∧
      ∀ n, n ∈ names ∨ (∃ v, values.get? n = some v) → ∃ v, values'.get? n = some v := by
  induction names generalizing values c with
  | nil =>
    refine .pure ⟨hc, hvalues, fun n hn => ?_⟩
    rcases hn with hn | hn
    · cases hn
    · exact hn
  | cons n names ih =>
    refine (Draft.ends_draw hI hd (hnames n List.mem_cons_self) .primary hc).bind fun v c' h => ?_
    obtain ⟨hc', hv⟩ := h
    have hinsert : ∀ m u, (values.insert n v).get? m = some u → b.Accepts G m u := by
      intro m u hu
      rw [Table.get?_insert] at hu
      split at hu
      · rename_i hm
        cases hu
        exact hm ▸ hv
      · exact hvalues m u hu
    refine (ih (fun m hm => hnames m (List.mem_cons_of_mem n hm)) hinsert hc').mono ?_
    rintro values' c'' ⟨hc'', hfit, hall⟩
    refine ⟨hc'', hfit, fun m hm => hall m ?_⟩
    rw [Table.get?_insert]
    by_cases hmn : m = n
    · exact .inr ⟨v, by rw [if_pos hmn]⟩
    · rw [if_neg hmn]
      rcases hm with hm | hm
      · exact .inl ((List.mem_cons.1 hm).resolve_left hmn)
      · exact .inr hm

/-- A reset makes a draft ready. -/
theorem ends_reset (hd : s.1.Proper b G) (hc : I s.2) :
    Ends (reset Run.create) s fun _ => Ready b G I := by
  obtain ⟨d, c⟩ := s
  dsimp only at hd hc
  refine ends_draft ?_
  dsimp only
  cases hi : d.initial with
  | some values =>
    -- Nothing is drawn, since the primary values were drawn before.
    refine Ends.modify ⟨⟨⟨hd.blueprint, hd.preference, ?_, hd.primary⟩, ?_⟩, hc⟩
    · exact ⟨hd.fitting.initial values hi, hd.fitting.initial⟩
    · exact hd.primary values hi
  | none =>
    have hempty : ∀ n v, (Table.empty : Table String (Value H)).get? n = some v →
        b.Accepts G n v := fun n v h => by cases h
    have hstaged : ∀ n ∈ d.blueprint.staged, n ∈ b.staged := by
      rw [hd.blueprint]
      exact fun _ hn => hn
    refine (ends_ofRun (Q := fun values t => t.1 = d ∧ I t.2 ∧
      (∀ n v, values.get? n = some v → b.Accepts G n v) ∧
      ∀ n ∈ b.staged, ∃ v, values.get? n = some v) ?_).bind ?_
    · refine (ends_drawPrimary hI hd.blueprint hstaged hempty hc).mono ?_
      rintro values c' ⟨hc', hfit, hall⟩
      rw [hd.blueprint] at hall
      exact ⟨rfl, hc', hfit, fun n hn => hall n (.inl hn)⟩
    · rintro values ⟨e', c'⟩ ⟨rfl, hc', hfit, hall⟩
      rw [← hd.blueprint] at hfit
      refine Ends.modify ⟨⟨⟨hd.blueprint, hd.preference, ⟨hfit, ?_⟩, ?_⟩, hall⟩, hc'⟩
      · rintro _ ⟨rfl⟩
        exact hfit
      · rintro _ ⟨rfl⟩
        exact hall

theorem ends_pick {names : List String} (hnames : names ≠ []) (hc : I s.2) :
    Ends (ofRun (Run.below names.length)) s fun i t =>
      t.1 = s.1 ∧ I t.2 ∧ names.getD i "" ∈ names :=
  ends_ofRun ⟨_, _, Run.draw_eq _ s.2, rfl, hI.engine _ _ hc,
    Run.pick_mem hnames (Run.draw_eq _ s.2)⟩

theorem ends_chanceIf (test : Bool) (p : Float) (hc : I s.2) :
    Ends (if test then ofRun (Run.chance p) else pure false : Stage H Bool) s fun _ t =>
      t.1 = s.1 ∧ I t.2 := by
  split
  · refine ends_ofRun ((Run.ends_chance hI p hc).mono fun _ c hc' => ?_)
    exact ⟨rfl, hc'⟩
  · exact .pure ⟨rfl, hc⟩

theorem ends_drawUnless (null : Bool) {d : Draft H} (hd : d.blueprint = b) {n : String}
    (hn : n ∈ b.staged) (hc : I s.2) :
    Ends (if null then pure none else ofRun (d.draw Run.create n .random) : Stage H (Value H)) s
      fun v t => t.1 = s.1 ∧ I t.2 ∧ b.Accepts G n v := by
  split
  · exact .pure ⟨rfl, hc, fun _ _ => fits_none⟩
  · refine ends_ofRun ((Draft.ends_draw hI hd hn .random hc).mono ?_)
    rintro v c ⟨hc', hv⟩
    exact ⟨rfl, hc', hv⟩

end Stage
end BeanContract
