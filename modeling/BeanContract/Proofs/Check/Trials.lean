/-
The trials of the check of equality.

A trial stages random values for one property until the bean shows a change, and then compares
the bean with the one before.  Whether a change showed was judged between one attempt and
the next.  The comparison spans all attempts, and needs to know of the whole: attempts that
showed nothing must not add up to a change, and must not hide the one that showed.  They do not
where the values of the properties are compared by an equivalence (`flagged_of_compared`), since the
bean before the last attempt then still shows what the bean before the trial does.
-/
import BeanContract.Proofs.Check.Equality
import BeanContract.Proofs.Draft.History
import BeanContract.Proofs.Storage.Verifier

namespace BeanContract

variable {H : Host} {d e : Draft H} {c c' : Context H} {r : Registry H} {n : String}

namespace Draft

/-- What can be observed of a property of the draft: what its getter reads from the bean or,
without a getter, what is staged. -/
def Exhibits (d : Draft H) (n : String) (o : Option (Value H)) : Prop :=
  if d.blueprint.isReadable n then ∃ bean v, d.Builds bean ∧ d.Reads bean n v ∧ o = some v
  else o = d.expected.get? n

theorem exhibits_of_readable (hn : d.blueprint.isReadable n = true) {o : Option (Value H)} :
    d.Exhibits n o ↔ ∃ bean v, d.Builds bean ∧ d.Reads bean n v ∧ o = some v := by
  unfold Exhibits
  rw [if_pos hn]

theorem exhibits_of_not_readable (hn : ¬d.blueprint.isReadable n = true)
    {o : Option (Value H)} : d.Exhibits n o ↔ o = d.expected.get? n := by
  unfold Exhibits
  rw [if_neg hn]

theorem exhibits_of_readActual (hd : d.blueprint.Stateless)
    (hn : d.blueprint.isReadable n = true) {o : Option (Value H)} {w w' : H.World}
    (h : d.readActual n w = .ok o w') : d.Exhibits n o := by
  unfold readActual at h
  rw [if_pos hn] at h
  obtain ⟨bean, w₁, hbean, h⟩ := Effect.bind_eq_ok.1 h
  obtain ⟨v, w₂, hv, h⟩ := Effect.bind_eq_ok.1 h
  obtain ⟨rfl, -⟩ := Effect.pure_eq_ok.1 h
  exact (exhibits_of_readable hn).2
    ⟨bean, v, builds_of_newBean hd hbean, reads_of_read hd hv, rfl⟩

theorem readActual_stateless (hd : d.blueprint.Stateless) (n : String) :
    Effect.Stateless (d.readActual n) := by
  unfold readActual
  split
  · refine (newBean_stateless hd).bind fun bean => ?_
    exact (read_stateless hd bean n).bind fun v => .pure _
  · exact .pure _

theorem Exhibits.unique [Nonempty H.World] {o o' : Option (Value H)} (h : d.Exhibits n o)
    (h' : d.Exhibits n o') : o = o' := by
  by_cases hn : d.blueprint.isReadable n = true
  · obtain ⟨bean, v, hbean, hv, rfl⟩ := (exhibits_of_readable hn).1 h
    obtain ⟨bean', v', hbean', hv', rfl⟩ := (exhibits_of_readable hn).1 h'
    obtain rfl := hbean.unique hbean'
    rw [hv.unique hv']
  · rw [(exhibits_of_not_readable hn).1 h, (exhibits_of_not_readable hn).1 h']

/-! ## The values of a check -/

/-- The values that a check of the draft may come across, if values are drawn from the registry:
null, those that the draft remembers, those that are drawn, and those that getters return. -/
inductive Occurs (d : Draft H) (r : Registry H) : Value H → Prop where
  | null : Occurs d r none
  | remembered {values : Table String (Value H)} {n : String} {v : Value H} :
      d.initial = some values → values.get? n = some v → Occurs d r v
  | drawn {n : String} {channel : Channel} {c c' : Context H} {v : Value H} :
      n ∈ d.blueprint.staged → c.registry = r → d.draw Run.create n channel c = .ok v c' →
      Occurs d r v
  | read {bean v : Value H} {n : String} {w w' : H.World} :
      n ∈ d.blueprint.testable → d.tryRead bean n w = .ok v w' → Occurs d r v

/-- The equality of the values that occur is an equivalence. -/
def Equates (d : Draft H) (r : Registry H) : Prop :=
  Equivalence fun v w : { v : Value H // d.Occurs r v } => v.1.same w.1 = true

def OccursIn (d : Draft H) (r : Registry H) (o : Option (Value H)) : Prop :=
  ∀ v, o = some v → d.Occurs r v

/-- An observation may stand for one that is the same. -/
theorem Equates.sameOption_congr (h : d.Equates r) {o o₁ o₂ : Option (Value H)}
    (ho : d.OccursIn r o) (ho₁ : d.OccursIn r o₁) (ho₂ : d.OccursIn r o₂)
    (hsame : Value.sameOption o o₁ = true) :
    Value.sameOption o₁ o₂ = Value.sameOption o o₂ := by
  cases o with
  | none =>
    cases o₁ with
    | none => rfl
    | some v₁ => cases hsame
  | some v =>
    cases o₁ with
    | none => cases hsame
    | some v₁ =>
      cases o₂ with
      | none => rfl
      | some v₂ =>
        have hv : d.Occurs r v := ho v rfl
        have hv₁ : d.Occurs r v₁ := ho₁ v₁ rfl
        have hv₂ : d.Occurs r v₂ := ho₂ v₂ rfl
        have hsame' : v.same v₁ = true := hsame
        have hleft : v₁.same v₂ = true → v.same v₂ = true :=
          h.trans (x := ⟨v, hv⟩) (y := ⟨v₁, hv₁⟩) (z := ⟨v₂, hv₂⟩) hsame'
        have hright : v.same v₂ = true → v₁.same v₂ = true :=
          h.trans (x := ⟨v₁, hv₁⟩) (y := ⟨v, hv⟩) (z := ⟨v₂, hv₂⟩)
            (h.symm (x := ⟨v, hv⟩) (y := ⟨v₁, hv₁⟩) hsame')
        exact Bool.eq_iff_iff.2 ⟨hleft, hright⟩

theorem AlikeBut.trans {f : Draft H} (h : d.AlikeBut n e) (h' : e.AlikeBut n f) :
    d.AlikeBut n f := Alike.trans h h'

theorem alikeBut_put (d : Draft H) (n : String) (v : Value H) : d.AlikeBut n (d.put n v) := by
  refine ⟨rfl, rfl, rfl, fun m => ?_⟩
  simp only [leaveOut, Draft.put, Table.get?_erase, Table.get?_insert]
  by_cases hm : m = n
  · simp [hm]
  · simp [hm]

end Draft

namespace Check

/-- A state in which the draft `d` is tested: a draft of the same blueprint, with values staged
that occur, in a context of the registry. -/
structure Tested (d : Draft H) (r : Registry H) (t : Draft H × Context H) : Prop where
  blueprint : t.1.blueprint = d.blueprint
  registry : t.2.registry = r
  staged : ∀ n v, t.1.expected.get? n = some v → d.Occurs r v

namespace Tested

variable {t : Draft H × Context H}

theorem put (ht : Tested d r t) (n : String) {v : Value H} (hv : d.Occurs r v) :
    Tested d r (t.1.put n v, t.2) := by
  refine ⟨ht.blueprint, ht.registry, fun m w hw => ?_⟩
  rw [Draft.get?_put] at hw
  split at hw
  · rwa [← Option.some.inj hw]
  · exact ht.staged m w hw

theorem occursIn (ht : Tested d r t) (hn : n ∈ d.blueprint.testable) {o : Option (Value H)}
    (ho : t.1.Exhibits n o) : d.OccursIn r o := by
  rintro v rfl
  by_cases hreadable : t.1.blueprint.isReadable n = true
  · obtain ⟨bean, v', -, hv', hv⟩ := (Draft.exhibits_of_readable hreadable).1 ho
    cases hv
    have hread : d.tryRead bean n t.2.world = .ok v t.2.world := by
      have := hv' t.2.world
      unfold Draft.tryRead at this ⊢
      rwa [ht.blueprint] at this
    exact .read hn hread
  · exact ht.staged n v ((Draft.exhibits_of_not_readable hreadable).1 ho).symm

end Tested

/-! ## Attempts -/

theorem randomValue_eq_ok {v : Value H} {t : Draft H × Context H}
    (ht : Tested d r (e, c)) (hn : n ∈ d.blueprint.testable)
    (h : randomValue n (e, c) = .ok v t) : t.1 = e ∧ t.2.registry = r ∧ d.Occurs r v := by
  obtain ⟨e', s, hdraft, h⟩ := Effect.bind_eq_ok.1 h
  obtain ⟨rfl, rfl⟩ := Stage.draft_eq_ok.1 hdraft
  obtain ⟨c', s, hcontext, h⟩ := Effect.bind_eq_ok.1 h
  obtain ⟨rfl, rfl⟩ := Stage.context_eq_ok.1 hcontext
  have hstaged : n ∈ d.blueprint.staged :=
    Blueprint.mem_staged_iff.2 (.inr (Blueprint.isTestable_of_mem hn))
  -- Whether chance chooses null or not, the draft and the registry are as before.
  have hvalue : ∀ null c₁, c₁.registry = r →
      (if null = true then pure none
        else Stage.ofRun (e'.draw Run.create n .random) : Stage H (Value H)) (e', c₁) = .ok v t →
      t.1 = e' ∧ t.2.registry = r ∧ d.Occurs r v := by
    intro null c₁ hc₁ h
    obtain ⟨e₂, c₂⟩ := t
    split at h
    · obtain ⟨rfl, hstate⟩ := Effect.pure_eq_ok.1 h
      cases hstate
      exact ⟨rfl, hc₁, .null⟩
    · obtain ⟨rfl, hdraw⟩ := Stage.ofRun_eq_ok.1 h
      have hc₂ : c₂.registry = c₁.registry :=
        congrArg (·.2.1) ((Draft.draw_keeps Run.create_keeps e₂ n .random).of_ok hdraw)
      rw [Draft.draw_congr (.of_eq ht.blueprint)] at hdraw
      exact ⟨rfl, hc₂.trans hc₁, .drawn hstaged hc₁ hdraw⟩
  dsimp only at h
  split at h
  · obtain ⟨null, ⟨e₁, c₁⟩, hnull, h⟩ := Effect.bind_eq_ok.1 h
    obtain ⟨rfl, hchance⟩ := Stage.ofRun_eq_ok.1 hnull
    have hc₁ : c₁.registry = c'.registry :=
      congrArg (·.2.1) ((Run.draw_keeps _).of_ok hchance)
    exact hvalue null c₁ (hc₁.trans ht.registry) h
  · exact hvalue false c' ht.registry h

theorem setProperty_eq_ok (he : e.blueprint.Stateless) {v : Value H} {changed : Bool}
    {t : Draft H × Context H} (h : Stage.setProperty n v (e, c) = .ok changed t) :
    t = (e.put n v, c) ∧ ∃ o o', e.Exhibits n o ∧ (e.put n v).Exhibits n o' ∧
      changed = !Value.sameOption o o' := by
  obtain ⟨e', s, hdraft, h⟩ := Effect.bind_eq_ok.1 h
  obtain ⟨rfl, rfl⟩ := Stage.draft_eq_ok.1 hdraft
  have hput : (e'.put n v).blueprint.Stateless := he
  split at h
  · rename_i hn
    obtain ⟨o, s, hbefore, h⟩ := Effect.bind_eq_ok.1 h
    obtain ⟨rfl, hbefore'⟩ := Stage.probe_stateless (Draft.readActual_stateless he n) hbefore
    obtain ⟨_, s, hchange, h⟩ := Effect.bind_eq_ok.1 h
    obtain rfl := Stage.change_eq_ok.1 hchange
    obtain ⟨o', s, hafter, h⟩ := Effect.bind_eq_ok.1 h
    obtain ⟨rfl, hafter'⟩ := Stage.probe_stateless (Draft.readActual_stateless hput n) hafter
    obtain ⟨rfl, rfl⟩ := Effect.pure_eq_ok.1 h
    exact ⟨rfl, o, o', Draft.exhibits_of_readActual he hn (hbefore' c.world),
      Draft.exhibits_of_readActual hput hn (hafter' c.world), rfl⟩
  · rename_i hn
    obtain ⟨_, s, hchange, h⟩ := Effect.bind_eq_ok.1 h
    obtain rfl := Stage.change_eq_ok.1 hchange
    obtain ⟨rfl, rfl⟩ := Effect.pure_eq_ok.1 h
    refine ⟨rfl, e'.expected.get? n, some v, (Draft.exhibits_of_not_readable hn).2 rfl, ?_, rfl⟩
    refine (Draft.exhibits_of_not_readable (d := e'.put n v) hn).2 ?_
    rw [Draft.get?_put, if_pos rfl]

section

variable (hd : d.blueprint.Stateless) (hn : n ∈ d.blueprint.testable)
include hd hn

/-- An attempt that shows a change is the last one. -/
theorem changeWithin_succ {attempts : Nat} {changed : Bool} {t : Draft H × Context H}
    (ht : Tested d r (e, c)) (h : changeWithin n (attempts + 1) (e, c) = .ok changed t) :
    ∃ v c₁ o o', Tested d r (e.put n v, c₁) ∧ e.Exhibits n o ∧ (e.put n v).Exhibits n o' ∧
      (Value.sameOption o o' = false ∧ changed = true ∧ t = (e.put n v, c₁) ∨
        Value.sameOption o o' = true ∧
          changeWithin n attempts (e.put n v, c₁) = .ok changed t) := by
  have he : e.blueprint.Stateless := by rwa [ht.blueprint]
  obtain ⟨v, ⟨e₁, c₁⟩, hvalue, hrest⟩ := Effect.bind_eq_ok.1 h
  obtain ⟨he₁, hc₁, hv⟩ := randomValue_eq_ok ht hn hvalue
  dsimp only at he₁ hc₁
  subst he₁
  obtain ⟨shown, s, hset, hend⟩ := Effect.bind_eq_ok.1 hrest
  obtain ⟨rfl, o, o', ho, ho', rfl⟩ := setProperty_eq_ok he hset
  have ht₁ : Tested d r (e₁, c₁) := ⟨ht.blueprint, hc₁, ht.staged⟩
  have hput : Tested d r (e₁.put n v, c₁) := ht₁.put n hv
  refine ⟨v, c₁, o, o', hput, ho, ho', ?_⟩
  cases hsame : Value.sameOption o o' with
  | false =>
    rw [hsame] at hend
    obtain ⟨rfl, rfl⟩ := Effect.pure_eq_ok.1 hend
    exact .inl ⟨rfl, rfl, rfl⟩
  | true =>
    rw [hsame] at hend
    exact .inr ⟨rfl, hend⟩

/-- After any number of attempts, at least one, the flag tells whether the draft shows a change
from before the first of them to after the last. -/
theorem changeWithin_eq_ok [Nonempty H.World] (hequates : d.Equates r) {attempts : Nat}
    {changed : Bool} {t : Draft H × Context H} (ht : Tested d r (e, c))
    (h : changeWithin n (attempts + 1) (e, c) = .ok changed t) :
    Tested d r t ∧ e.AlikeBut n t.1 ∧ ∃ o o', e.Exhibits n o ∧ t.1.Exhibits n o' ∧
      changed = !Value.sameOption o o' := by
  induction attempts generalizing e c with
  | zero =>
    obtain ⟨v, c₁, o, o', hput, ho, ho', hend⟩ := changeWithin_succ hd hn ht h
    rcases hend with ⟨hsame, rfl, rfl⟩ | ⟨hsame, h⟩
    · exact ⟨hput, e.alikeBut_put n v, o, o', ho, ho', by rw [hsame]; rfl⟩
    · obtain ⟨rfl, rfl⟩ := Effect.pure_eq_ok.1 h
      exact ⟨hput, e.alikeBut_put n v, o, o', ho, ho', by rw [hsame]; rfl⟩
  | succ attempts ih =>
    obtain ⟨v, c₁, o, o₁, hput, ho, ho₁, hend⟩ := changeWithin_succ hd hn ht h
    rcases hend with ⟨hsame, rfl, rfl⟩ | ⟨hsame, h⟩
    · exact ⟨hput, e.alikeBut_put n v, o, o₁, ho, ho₁, by rw [hsame]; rfl⟩
    · obtain ⟨ht', halike, o₂, o', ho₂, ho', rfl⟩ := ih hput h
      obtain rfl := ho₁.unique ho₂
      refine ⟨ht', (e.alikeBut_put n v).trans halike, o, o', ho, ho', ?_⟩
      -- What the attempt left unchanged stands for what was there before it.
      rw [hequates.sameOption_congr (ht.occursIn hn ho) (hput.occursIn hn ho₁)
        (ht'.occursIn hn ho') hsame]

end

/-! ## Trials -/

/-- The comparison of a trial that starts in state `t`: the property that was chosen, whether it
changed, and the bean and the state after that. -/
structure Compared (names : List String) (t : Draft H × Context H) (n : String) (changed : Bool)
    (current : Value H) (u : Draft H × Context H) : Prop where
  reached : ∃ i t₁ t₂, Stage.ofRun (Run.below names.length) t = .ok i t₁ ∧ n = names.getD i "" ∧
    changeWithin n maxChanges t₁ = .ok changed t₂ ∧ Stage.probe Draft.newBean t₂ = .ok current u

/-- A trial goes on with its comparison. -/
theorem equalityTrial_of_compared {names : List String} {t u : Draft H × Context H}
    {changed : Bool} {current : Value H} (h : Compared names t n changed current u) (hashes : Bool)
    (previous : Value H) : equalityTrial hashes names previous t = (do
      Stage.probe (compare hashes · n changed previous current)
      pure current : Stage H (Value H)) u := by
  obtain ⟨i, t₁, t₂, hi, rfl, hchanged, hcurrent⟩ := h.reached
  unfold equalityTrial
  rw [Effect.bind_of_ok hi, Effect.bind_of_ok hchanged, Effect.bind_of_ok hcurrent]

/-- A trial of the check that starts in state `s` begins in state `t`, with the bean of the one
before. -/
inductive Trial (s : Draft H × Context H) : Value H → Draft H × Context H → Prop where
  | first {u : Unit} {k : Nat} {s₁ s₂ t : Draft H × Context H} {previous : Value H} :
      Stage.reset Run.create s = .ok u s₁ →
      Effect.tally (property s.2.settings.testHashCode) s.1.blueprint.testable s₁ = .ok k s₂ →
      s.1.blueprint.testable ≠ [] → Stage.probe Draft.newBean s₂ = .ok previous t →
      Trial s previous t
  | next {previous current : Value H} {t u : Draft H × Context H} :
      Trial s previous t →
      equalityTrial s.2.settings.testHashCode s.1.blueprint.testable previous t = .ok current u →
      Trial s current u

theorem equalityTrial_eq_ok {hashes : Bool} {names : List String} {previous current : Value H}
    {t u : Draft H × Context H} (h : equalityTrial hashes names previous t = .ok current u) :
    ∃ n changed, Compared names t n changed current u := by
  obtain ⟨i, t₁, hi, h⟩ := Effect.bind_eq_ok.1 h
  obtain ⟨changed, t₂, hchanged, h⟩ := Effect.bind_eq_ok.1 h
  obtain ⟨bean, ⟨d₃, c₃⟩, hbean, h⟩ := Effect.bind_eq_ok.1 h
  obtain ⟨_, ⟨d₄, c₄⟩, hcompare, h⟩ := Effect.bind_eq_ok.1 h
  obtain ⟨rfl, rfl⟩ := Effect.pure_eq_ok.1 h
  -- A comparison that passes leaves the world as it is.
  obtain ⟨rfl, w, hcompare', rfl⟩ := Stage.probe_eq_ok.1 hcompare
  obtain ⟨rfl, -⟩ := compare_eq_ok hcompare'
  exact ⟨_, changed, i, t₁, t₂, hi, rfl, hchanged, hbean⟩

/-- A check that succeeds has made its trials one after the other. -/
theorem trials_of_equality {s w : Draft H × Context H} {k : Nat} (h : equality s = .ok k w)
    (hnames : s.1.blueprint.testable ≠ []) :
    ∃ previous t m u, Trial s previous t ∧ equalityTrials s.2.settings.testHashCode
      s.1.blueprint.testable s.2.settings.trials previous t = .ok m u := by
  obtain ⟨d, c⟩ := s
  obtain ⟨c', s₁, hcontext, hrest⟩ := Effect.bind_eq_ok.1 h
  obtain ⟨rfl, rfl⟩ := Stage.context_eq_ok.1 hcontext
  obtain ⟨_, ⟨e, c₀⟩, hreset, hrest⟩ := Effect.bind_eq_ok.1 hrest
  have hblueprint : e.blueprint = d.blueprint := by rw [(Stage.reset_eq_ok hreset).2]
  obtain ⟨e', s₂, hdraft, hrest⟩ := Effect.bind_eq_ok.1 hrest
  obtain ⟨rfl, rfl⟩ := Stage.draft_eq_ok.1 hdraft
  rw [hblueprint] at hrest
  obtain ⟨m, s₃, hproperties, htrials⟩ := Effect.bind_eq_ok.1 hrest
  rw [if_neg fun hempty => hnames (List.isEmpty_iff.1 hempty)] at htrials
  obtain ⟨previous, t, hbean, htrials⟩ := Effect.bind_eq_ok.1 htrials
  obtain ⟨m, u, htrials, -⟩ := Effect.bind_eq_ok.1 htrials
  exact ⟨previous, t, m, u, .first hreset hproperties hnames hbean, htrials⟩

theorem occurs_of_drawPrimary {names : List String} (hnames : ∀ n ∈ names, n ∈ d.blueprint.staged)
    {values values' : Table String (Value H)} (hc : c.registry = r)
    (hvalues : ∀ n v, values.get? n = some v → d.Occurs r v)
    (h : d.drawPrimary Run.create names values c = .ok values' c') :
    c'.registry = r ∧ ∀ n v, values'.get? n = some v → d.Occurs r v := by
  induction names generalizing values c with
  | nil =>
    obtain ⟨rfl, rfl⟩ := Effect.pure_eq_ok.1 h
    exact ⟨hc, hvalues⟩
  | cons p names ih =>
    obtain ⟨v, c₁, hv, hrest⟩ := Effect.bind_eq_ok.1 h
    have hc₁ : c₁.registry = c.registry :=
      congrArg (·.2.1) ((Draft.draw_keeps Run.create_keeps d p .primary).of_ok hv)
    have hp := hnames p List.mem_cons_self
    refine ih (fun n hn => hnames n (List.mem_cons_of_mem p hn)) (hc₁.trans hc) ?_ hrest
    intro n w hw
    rw [Table.get?_insert] at hw
    split at hw
    · cases hw
      exact .drawn hp hc hv
    · exact hvalues n w hw

/-- A check begins with values that occur. -/
theorem tested_of_reset {u : Unit} (h : Stage.reset Run.create (d, c) = .ok u (e, c')) :
    Tested d c.registry (e, c') := by
  cases hinitial : d.initial with
  | some values =>
    rw [Stage.reset_of_initial hinitial] at h
    cases h
    exact ⟨rfl, rfl, fun n v hv => .remembered hinitial hv⟩
  | none =>
    obtain ⟨values, hvalues, rfl⟩ := (Stage.reset_of_none hinitial).1 h
    have hempty : ∀ (n : String) (v : Value H), Table.empty.get? n = some v →
        d.Occurs c.registry v := fun n v hv => by cases hv
    obtain ⟨hregistry, hoccurs⟩ := occurs_of_drawPrimary (fun n hn => hn) rfl hempty hvalues
    exact ⟨rfl, hregistry, hoccurs⟩

/-- The test of single properties leaves the values staged that it found. -/
theorem tested_of_properties {hashes : Bool} {names : List String} {k : Nat}
    {t u : Draft H × Context H} (hd : d.blueprint.Stateless) (ht : Tested d r t)
    (h : Effect.tally (property hashes) names t = .ok k u) : Tested d r u := by
  have hb : t.1.blueprint.Stateless := by rwa [ht.blueprint]
  obtain ⟨lists, hlists, -, halike, -⟩ := properties_eq_ok hb (.refl t.1) h
  have hregistry := (Effect.gather_eq_ok (I := fun c => c.registry = r) (P := fun _ _ => True)
    (fun p _ c₁ values c₂ hc₁ hvalues => ⟨?_, trivial⟩) ht.registry hlists).1
  · refine ⟨halike.blueprint.trans ht.blueprint, hregistry, fun n v hv => ?_⟩
    exact ht.staged n v ((halike.expected n).symm.trans hv)
  · have hc₂ := (Draft.candidates_keeps t.1 p _).of_ok hvalues
    exact (congrArg (·.2.1) hc₂).trans hc₁

section

variable (hd : d.blueprint.Stateless)
include hd

theorem builds_of_probe {t u : Draft H × Context H} {bean : Value H} (ht : Tested d r t)
    (h : Stage.probe Draft.newBean t = .ok bean u) : u = t ∧ t.1.Builds bean := by
  have hb : t.1.blueprint.Stateless := by rwa [ht.blueprint]
  obtain ⟨rfl, hbean⟩ := Stage.probe_stateless (Draft.newBean_stateless hb) h
  exact ⟨rfl, Draft.builds_of_newBean hb (hbean t.2.world)⟩

/-- What the flag of a comparison says of the two beans. -/
theorem flagged_of_compared [Nonempty H.World] (hequates : d.Equates r)
    (hnames : d.blueprint.testable ≠ []) {t u : Draft H × Context H} {previous current : Value H}
    {changed : Bool} (ht : Tested d r t) (hprevious : t.1.Builds previous)
    (h : Compared d.blueprint.testable t n changed current u) :
    Tested d r u ∧ n ∈ d.blueprint.testable ∧ u.1.Builds current ∧ t.1.AlikeBut n u.1 ∧
      if d.blueprint.isReadable n then ∃ a b, t.1.Reads previous n a ∧ t.1.Reads current n b ∧
        (changed = true ↔ a.same b = false)
      else (changed = true ↔
        Value.sameOption (t.1.expected.get? n) (u.1.expected.get? n) = false) := by
  obtain ⟨i, ⟨e₁, c₁⟩, t₂, hi, hchosen, hchanged, hcurrent⟩ := h.reached
  obtain ⟨he₁, hpick⟩ := Stage.ofRun_eq_ok.1 hi
  have hn : n ∈ d.blueprint.testable := hchosen ▸ Run.pick_mem hnames hpick
  have hc₁ : c₁.registry = t.2.registry := congrArg (·.2.1) ((Run.draw_keeps _).of_ok hpick)
  subst he₁
  have ht₁ : Tested d r (t.1, c₁) := ⟨ht.blueprint, hc₁.trans ht.registry, ht.staged⟩
  obtain ⟨attempts, hattempts⟩ : ∃ attempts, maxChanges = attempts + 1 := ⟨_, rfl⟩
  rw [hattempts] at hchanged
  obtain ⟨ht₂, halike, o, o', ho, ho', rfl⟩ := changeWithin_eq_ok hd hn hequates ht₁ hchanged
  obtain ⟨rfl, hbuilds⟩ := builds_of_probe hd ht₂ hcurrent
  refine ⟨ht₂, hn, hbuilds, halike, ?_⟩
  have hblueprint : u.1.blueprint = t.1.blueprint := halike.blueprint.symm
  rw [Bool.not_eq_true', ← ht.blueprint]
  split
  · rename_i hreadable
    have hreadable' : u.1.blueprint.isReadable n = true := by
      rwa [hblueprint]
    obtain ⟨x, a, hx, ha, rfl⟩ := (Draft.exhibits_of_readable hreadable).1 ho
    obtain ⟨y, b, hy, hb, rfl⟩ := (Draft.exhibits_of_readable hreadable').1 ho'
    obtain rfl := hprevious.unique hx
    obtain rfl := hbuilds.unique hy
    refine ⟨a, b, ha, ?_, Iff.rfl⟩
    unfold Draft.Reads Draft.tryRead at hb ⊢
    rwa [← hblueprint]
  · rename_i hreadable
    have hreadable' : ¬u.1.blueprint.isReadable n = true := by
      rwa [hblueprint]
    rw [(Draft.exhibits_of_not_readable hreadable).1 ho,
      (Draft.exhibits_of_not_readable hreadable').1 ho']

/-- Each trial begins with the bean of its draft. -/
theorem tested_of_trial [Nonempty H.World] (hequates : d.Equates c.registry) {previous : Value H}
    {t : Draft H × Context H} (h : Trial (d, c) previous t) :
    Tested d c.registry t ∧ t.1.Builds previous ∧ d.blueprint.testable ≠ [] := by
  induction h with
  | @first u k s₁ s₂ t previous hreset hproperties hnames hbean =>
    obtain ⟨e, c'⟩ := s₁
    have hs₂ := tested_of_properties hd (tested_of_reset hreset) hproperties
    obtain ⟨rfl, hbuilds⟩ := builds_of_probe hd hs₂ hbean
    exact ⟨hs₂, hbuilds, hnames⟩
  | next _ htrial ih =>
    obtain ⟨ht, hprevious, hnames⟩ := ih
    obtain ⟨n, changed, hcompared⟩ := equalityTrial_eq_ok htrial
    obtain ⟨hu, -, hbuilds, -⟩ := flagged_of_compared hd hequates hnames ht hprevious hcompared
    exact ⟨hu, hbuilds, hnames⟩

/-- In each trial of a check of equality, however many attempts it takes, the beans that are
compared come from drafts that are alike but for the property that was chosen.  The flag of the
comparison tells whether the two beans differ in what its getter reads or, without a getter,
whether the drafts differ in what is staged for it. -/
theorem flagged_of_trial (hequates : d.Equates c.registry) {previous current : Value H}
    {t u : Draft H × Context H} {changed : Bool} (ht : Trial (d, c) previous t)
    (h : Compared d.blueprint.testable t n changed current u) :
    (∀ hashes, equalityTrial hashes d.blueprint.testable previous t = (do
      Stage.probe (compare hashes · n changed previous current)
      pure current : Stage H (Value H)) u) ∧
    n ∈ d.blueprint.testable ∧ t.1.Builds previous ∧ u.1.Builds current ∧ t.1.AlikeBut n u.1 ∧
    if d.blueprint.isReadable n then ∃ a b, t.1.Reads previous n a ∧ t.1.Reads current n b ∧
      (changed = true ↔ a.same b = false)
    else (changed = true ↔
      Value.sameOption (t.1.expected.get? n) (u.1.expected.get? n) = false) := by
  have : Nonempty H.World := ⟨c.world⟩
  obtain ⟨htested, hprevious, hnames⟩ := tested_of_trial hd hequates ht
  obtain ⟨-, hn, hcurrent, halike, hflag⟩ :=
    flagged_of_compared hd hequates hnames htested hprevious h
  exact ⟨fun hashes => equalityTrial_of_compared h hashes previous, hn, hprevious, hcurrent, halike,
    hflag⟩

end

end Check

/-! ## Trials of lamps -/

namespace Lamp

theorem read_switch {s : Option Bool} {w w' : host.World} {v : Value host}
    (h : (do
      let v ← guarded (pure (ofSwitch s))
      Effect.ofExcept id (v.cast .bool) : Access host (Value host)) w = .ok v w') :
    v = ofSwitch s := by
  obtain ⟨v', w₁, hget, hcast⟩ := Effect.bind_eq_ok.1 h
  obtain ⟨rfl, -⟩ := Effect.pure_eq_ok.1 (guarded_eq_ok.1 hget)
  have hswitch : (ofSwitch s).cast .bool = .ok (ofSwitch s) := by
    cases s <;> rfl
  obtain ⟨hv, -⟩ := Effect.ofExcept_eq_ok.1 hcast
  rw [hswitch] at hv
  exact (Except.ok.inj hv).symm

/-- Whatever comes up while lamps are checked is what a switch shows. -/
theorem switch_of_occurs {v : Value host}
    (h : (Draft.ofBlueprint blueprint).Occurs Lamp.context.registry v) :
    ∃ s, v = ofSwitch s := by
  cases h with
  | null => exact ⟨none, rfl⟩
  | remembered hinitial _ => cases hinitial
  | @drawn n channel c c' v hn hregistry hdraw =>
    obtain ⟨f, hf, hv⟩ := Draft.draw_eq_ok.1 hdraw
    obtain ⟨-, t, ht, hf⟩ := Draft.factory_eq_ok.1 hf
    rw [hregistry] at hf
    have hbools : f = Catalog.bools := by
      obtain rfl | rfl : n = "on" ∨ n = "dim" := by
        have hstaged : blueprint.staged = ["on", "dim"] := by decide
        simpa [Draft.ofBlueprint, hstaged] using hn
      · cases ht
        cases hf
        rfl
      · cases ht
        cases hf
        rfl
    subst hbools
    cases hlimit : c.atDepthLimit with
    | true =>
      rw [Run.create_of_refused hlimit] at hv
      cases hv
    | false =>
      obtain ⟨b, c'', hb⟩ := create_bools hlimit channel
      rw [hb] at hv
      cases hv
      exact ⟨some b, rfl⟩
  | @read bean v n w w' hn hread =>
    obtain rfl | rfl : n = "on" ∨ n = "dim" := by
      have htestable : blueprint.testable = ["on", "dim"] := by decide
      simpa [Draft.ofBlueprint, htestable] using hn
    · obtain ⟨o, w₁, -, hread⟩ := Effect.bind_eq_ok.1 hread
      exact ⟨o.1, read_switch hread⟩
    · obtain ⟨o, w₁, -, hread⟩ := Effect.bind_eq_ok.1 hread
      exact ⟨o.2, read_switch hread⟩

theorem equates : (Draft.ofBlueprint blueprint).Equates Lamp.context.registry where
  refl v := by
    obtain ⟨s, hs⟩ := switch_of_occurs v.2
    rw [hs]
    exact (same_ofSwitch s s).2 rfl
  symm {v w} h := by
    obtain ⟨s, hs⟩ := switch_of_occurs v.2
    obtain ⟨s', hs'⟩ := switch_of_occurs w.2
    rw [hs, hs', same_ofSwitch] at h
    rw [hs, hs', same_ofSwitch]
    exact h.symm
  trans {u v w} h h' := by
    obtain ⟨s, hs⟩ := switch_of_occurs u.2
    obtain ⟨s', hs'⟩ := switch_of_occurs v.2
    obtain ⟨s'', hs''⟩ := switch_of_occurs w.2
    rw [hs, hs', same_ofSwitch] at h
    rw [hs', hs'', same_ofSwitch] at h'
    rw [hs, hs'', same_ofSwitch]
    exact h.trans h'

end Lamp

namespace Check

/-- The first trial of lamps is flagged rightly. -/
theorem flagged_of_trial_lamp :
    Lamp.blueprint.Stateless ∧ (Draft.ofBlueprint Lamp.blueprint).Equates Lamp.context.registry ∧
    ∃ previous t n changed current u,
      Trial (.ofBlueprint Lamp.blueprint, Lamp.context) previous t ∧
      Compared Lamp.blueprint.testable t n changed current u ∧
      n ∈ Lamp.blueprint.testable ∧ t.1.Builds previous ∧ u.1.Builds current ∧
      t.1.AlikeBut n u.1 ∧ ∃ a b, t.1.Reads previous n a ∧ t.1.Reads current n b ∧
        (changed = true ↔ a.same b = false) := by
  have hrun : Effect.result? (equality (.ofBlueprint Lamp.blueprint, Lamp.context)) =
      some 20 := by decide +kernel
  obtain ⟨w, hw⟩ := Effect.result?_eq_some.1 hrun
  obtain ⟨previous, t, m, u, ht, htrials⟩ := trials_of_equality hw (by decide)
  obtain ⟨current, t', htrial, -⟩ := Effect.bind_eq_ok.1 htrials
  obtain ⟨n, changed, hcompared⟩ := equalityTrial_eq_ok htrial
  obtain ⟨-, hn, hprevious, hcurrent, halike, hflag⟩ :=
    flagged_of_trial Lamp.stateless Lamp.equates ht hcompared
  have hreadable : ∀ n ∈ Lamp.blueprint.testable, Lamp.blueprint.isReadable n = true := by decide
  rw [if_pos (show (Draft.ofBlueprint Lamp.blueprint).blueprint.isReadable n = true from
    hreadable n hn)] at hflag
  exact ⟨Lamp.stateless, Lamp.equates, previous, t, n, changed, current, t', ht, hcompared, hn,
    hprevious, hcurrent, halike, hflag⟩

end Check
end BeanContract
