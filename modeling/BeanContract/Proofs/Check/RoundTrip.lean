/-
What successful round trips prove.

If the check of texts and round trips succeeds, every combination of candidates was built
on top of the primary values and read back as staged, and the result is the number of
combinations and trials.  A property without a getter is never asked to read back, so a
combination of such properties alone is counted without being built.
-/
import BeanContract.Proofs.Draft.Stage
import BeanContract.Check.RoundTrip

namespace BeanContract

variable {H : Host}

namespace Draft

def Matches (d : Draft H) (n : String) (staged actual : Value H) : Prop :=
  match staged with
  | some _ => Value.same actual staged = true
  | none => (d.absence n false).2.allows actual = true

/-- Provided the property has a getter, the bean of the draft is built and the property
of it reads back as the staged value lets it. -/
def ReadsBack (d : Draft H) (n : String) (staged : Value H) : Prop :=
  d.blueprint.isReadable n = true →
    ∃ bean actual, d.Builds bean ∧ d.Reads bean n actual ∧ d.Matches n staged actual

/-- The bean of the draft, and its builder if there is one, have a text that is not empty. -/
structure Renders (d : Draft H) : Prop where
  bean : ∃ bean text, d.Builds bean ∧ bean.show? = .ok text ∧ text.isEmpty = false
  builder : ∀ render, d.blueprint.builderText = some render →
    ∃ text, (∀ w, render d.args w = .ok text w) ∧ text.isEmpty = false

theorem readsBack_of_verify {d : Draft H} (hd : d.blueprint.Stateless) {n : String}
    {staged : Value H} (hs : d.expected.get? n = some staged) {w w' : H.World} {u : Unit}
    (h : d.verify n w = .ok u w') : d.ReadsBack n staged := by
  intro hn
  unfold verify at h
  rw [if_pos hn] at h
  obtain ⟨bean, w₁, hb, h⟩ := Effect.bind_eq_ok.1 h
  obtain ⟨actual, w₂, hr, h⟩ := Effect.bind_eq_ok.1 h
  refine ⟨bean, actual, builds_of_newBean hd hb, reads_of_read hd hr, ?_⟩
  rw [hs] at h
  unfold Matches
  cases staged with
  | none => exact (checkAbsent_eq_ok.1 h).2
  | some x =>
    dsimp only at h
    split at h
    · assumption
    · obtain ⟨_, _, -, h⟩ := Effect.bind_eq_ok.1 h
      obtain ⟨_, _, -, h⟩ := Effect.bind_eq_ok.1 h
      exact absurd h Effect.throw_ne_ok

end Draft

namespace Check

/-! ## Texts -/

theorem beanText_eq_ok {bean : Value H} {w w' : H.World} {text : String}
    (h : beanText bean w = .ok text w') : bean.show? = .ok text := by
  unfold beanText guarded at h
  cases hs : bean.show? with
  | ok t =>
    rw [hs] at h
    cases h
    rfl
  | error p =>
    rw [hs] at h
    cases h

theorem texts_stateless {d : Draft H} (h : d.blueprint.Stateless) :
    Effect.Stateless (texts d) := by
  have hbean : ∀ bean, Effect.Stateless (beanText (H := H) bean) := fun bean =>
    guarded_stateless (.ofExcept _ _)
  have hnonempty : ∀ (text : String) (v : Violation),
      Effect.Stateless (if text.isEmpty then Probe.violation v else pure () : Probe H Unit) := by
    intro text v
    split
    · exact .throw _
    · exact .pure _
  unfold texts
  refine (Draft.newBean_stateless h).bind fun bean => ?_
  cases hb : d.blueprint.builderText with
  | none =>
    refine (hbean bean).bind_reify (fun e => .throw _) fun text => ?_
    dsimp only
    split
    · exact .throw _
    · exact .pure _
  | some render =>
    have hrender := guarded_stateless (h.builderText render hb d.args)
    refine (hbean bean).bind_reify (fun e => .throw _) fun text => ?_
    dsimp only
    split
    · exact .throw _
    · exact hrender.bind_reify (fun e => .throw _) fun text => hnonempty text _

theorem renders_of_texts {d : Draft H} (hd : d.blueprint.Stateless) {w w' : H.World} {u : Unit}
    (h : texts d w = .ok u w') : d.Renders := by
  unfold texts at h
  obtain ⟨bean, w₁, hb, h⟩ := Effect.bind_eq_ok.1 h
  obtain ⟨r, w₂, hr, h⟩ := Effect.bind_eq_ok.1 h
  rcases Effect.reify_eq_ok.1 hr with ⟨text, rfl, ht⟩ | ⟨e, rfl, -⟩
  · dsimp only at h
    split at h
    · obtain ⟨_, _, h, -⟩ := Effect.bind_eq_ok.1 h
      exact absurd h Effect.throw_ne_ok
    · rename_i hne
      refine ⟨⟨bean, text, Draft.builds_of_newBean hd hb, beanText_eq_ok ht, by simpa using hne⟩,
        fun render hrender => ?_⟩
      rw [hrender] at h
      obtain ⟨r, w₃, hr, h⟩ := Effect.bind_eq_ok.1 h
      rcases Effect.reify_eq_ok.1 hr with ⟨text', rfl, ht'⟩ | ⟨e, rfl, -⟩
      · dsimp only at h
        split at h
        · exact absurd h Effect.throw_ne_ok
        · rename_i hne'
          exact ⟨text', fun _ => (hd.builderText render hrender d.args).of_ok (guarded_eq_ok.1 ht') |>.2 _,
            by simpa using hne'⟩
      · exact absurd h Effect.throw_ne_ok
  · obtain ⟨_, _, h, -⟩ := Effect.bind_eq_ok.1 h
    exact absurd h Effect.throw_ne_ok

/-! ## Combinations -/

/-- How many combinations a table of candidates has: those of each ordered pair of
different properties, or the candidates of a property that is alone. -/
def combinationCount : List (String × List (Value H)) → Nat
  | [(_, values)] => values.length
  | table => (table.map fun e =>
      (table.map fun f => if e.1 = f.1 then 0 else e.2.length * f.2.length).sum).sum

/-- All combinations of a table of candidates, staged on top of the values of a draft, read
back. -/
structure CombinationsReadBack (s : Draft H) (table : List (String × List (Value H))) :
    Prop where
  alone : ∀ p values, table = [(p, values)] → ∀ a ∈ values, (s.put p a).ReadsBack p a
  paired : ∀ e ∈ table, ∀ f ∈ table, e.1 ≠ f.1 → ∀ a ∈ e.2, ∀ b ∈ f.2,
    ((s.put e.1 a).put f.1 b).ReadsBack e.1 a ∧ ((s.put e.1 a).put f.1 b).ReadsBack f.1 b

/-- What holds between combinations: the draft is the primary one but for staged values,
and the context is as it was. -/
def Between (s : Draft H) (c : Context H) (t : Draft H × Context H) : Prop :=
  s.Restaged t.1 ∧ t.2 = c

section

variable {s : Draft H} {c : Context H} {t t' : Draft H × Context H} {n : Nat}
  (hs : s.AtPrimary) (hb : s.blueprint.Stateless) (ht : Between s c t)
include hs hb ht

theorem single_eq_ok {p : String} {a : Value H} (h : single p a t = .ok n t') :
    Between s c t' ∧ (s.put p a).ReadsBack p a ∧ n = 1 := by
  obtain ⟨d, c⟩ := t
  obtain ⟨hd, rfl⟩ := ht
  obtain ⟨_, t₁, hreset, h⟩ := Effect.bind_eq_ok.1 h
  rw [Stage.reset_of_restaged hs hd] at hreset
  cases hreset
  obtain ⟨_, t₂, hc, h⟩ := Effect.bind_eq_ok.1 h
  obtain rfl := Stage.change_eq_ok.1 hc
  obtain ⟨_, t₃, hv, h⟩ := Effect.bind_eq_ok.1 h
  have hb' : (s.put p a).blueprint.Stateless := hb
  obtain ⟨rfl, hv'⟩ := Stage.probe_stateless (Draft.verify_stateless hb' p) hv
  obtain ⟨rfl, rfl⟩ := Effect.pure_eq_ok.1 h
  refine ⟨⟨(Draft.Restaged.refl s).put p a, rfl⟩, ?_, rfl⟩
  exact Draft.readsBack_of_verify hb' (by simp [Draft.get?_put]) (hv' c.world)

theorem pair_eq_ok {p q : String} {a b : Value H} (hpq : p ≠ q)
    (h : pair p q a b t = .ok n t') :
    Between s c t' ∧
      (((s.put p a).put q b).ReadsBack p a ∧ ((s.put p a).put q b).ReadsBack q b) ∧ n = 1 := by
  obtain ⟨d, c⟩ := t
  obtain ⟨hd, rfl⟩ := ht
  obtain ⟨_, t₁, hreset, h⟩ := Effect.bind_eq_ok.1 h
  rw [Stage.reset_of_restaged hs hd] at hreset
  cases hreset
  obtain ⟨_, t₂, hc, h⟩ := Effect.bind_eq_ok.1 h
  obtain rfl := Stage.change_eq_ok.1 hc
  have hb' : ((s.put p a).put q b).blueprint.Stateless := hb
  obtain ⟨_, t₃, hp, h⟩ := Effect.bind_eq_ok.1 h
  obtain ⟨rfl, hp'⟩ := Stage.probe_stateless (Draft.verify_stateless hb' p) hp
  obtain ⟨_, t₄, hq, h⟩ := Effect.bind_eq_ok.1 h
  obtain ⟨rfl, hq'⟩ := Stage.probe_stateless (Draft.verify_stateless hb' q) hq
  obtain ⟨rfl, rfl⟩ := Effect.pure_eq_ok.1 h
  refine ⟨⟨((Draft.Restaged.refl s).put p a).put q b, rfl⟩, ⟨?_, ?_⟩, rfl⟩
  · exact Draft.readsBack_of_verify hb' (by simp [Draft.get?_put, hpq]) (hp' c.world)
  · exact Draft.readsBack_of_verify hb' (by simp [Draft.get?_put]) (hq' c.world)

theorem pairs_eq_ok {table : List (String × List (Value H))} (h : pairs table t = .ok n t') :
    Between s c t' ∧
      (∀ e ∈ table, ∀ f ∈ table, e.1 ≠ f.1 → ∀ a ∈ e.2, ∀ b ∈ f.2,
        ((s.put e.1 a).put f.1 b).ReadsBack e.1 a ∧
          ((s.put e.1 a).put f.1 b).ReadsBack f.1 b) ∧
      n = (table.map fun e =>
        (table.map fun f => if e.1 = f.1 then 0 else e.2.length * f.2.length).sum).sum := by
  -- One loop inside the other: properties, properties, candidates, candidates.
  refine Effect.tally_eq_ok (fun e _ u k v hu h => ?_) ht h
  refine Effect.tally_eq_ok (fun f _ u k v hu h => ?_) hu h
  dsimp only at h
  split at h
  · rename_i hef
    obtain ⟨rfl, rfl⟩ := Effect.pure_eq_ok.1 h
    exact ⟨hu, fun hne => absurd hef hne, by simp [hef]⟩
  · rename_i hef
    have hrows := Effect.tally_eq_ok (I := Between s c)
      (P := fun a => ∀ b ∈ f.2, ((s.put e.1 a).put f.1 b).ReadsBack e.1 a ∧
        ((s.put e.1 a).put f.1 b).ReadsBack f.1 b) (k := fun _ => f.2.length)
      (fun a _ u k v hu h => ?_) hu h
    · obtain ⟨hv, hback, rfl⟩ := hrows
      exact ⟨hv, fun _ => hback, by simp [hef]⟩
    · have hcells := Effect.tally_eq_ok (k := fun _ => 1)
        (fun b _ u k v hu h => pair_eq_ok hs hb hu hef h) hu h
      simpa using hcells

theorem combinations_eq_ok (h : combinations t = .ok n t') :
    ∃ table c₁, candidatesOf t.1 s.blueprint.testable c = .ok table c₁ ∧ Between s c₁ t' ∧
      CombinationsReadBack s table ∧ n = combinationCount table := by
  obtain ⟨d, c⟩ := t
  obtain ⟨hd, rfl⟩ := ht
  obtain ⟨d', t₁, hdraft, h⟩ := Effect.bind_eq_ok.1 h
  obtain ⟨rfl, rfl⟩ := Stage.draft_eq_ok.1 hdraft
  obtain ⟨table, ⟨d₂, c₁⟩, htable, hrest⟩ := Effect.bind_eq_ok.1 h
  obtain ⟨rfl, htable'⟩ := Stage.ofRun_eq_ok.1 htable
  rw [hd.blueprint] at htable'
  have hu : Between s c₁ (d₂, c₁) := ⟨hd, rfl⟩
  refine ⟨table, c₁, htable', ?_⟩
  split at hrest
  · rename_i p values
    obtain ⟨hv, hback, rfl⟩ := Effect.tally_eq_ok (k := fun _ => 1)
      (fun a _ u k v hu h => single_eq_ok hs hb hu h) hu hrest
    refine ⟨hv, ⟨?_, ?_⟩, by simp [combinationCount]⟩
    · intro q values' hq a ha
      cases hq
      exact hback a ha
    · intro e he f hf hef
      rw [List.mem_singleton.1 he, List.mem_singleton.1 hf] at hef
      exact absurd rfl hef
  · rename_i hne
    obtain ⟨m, ⟨d₃, c₃⟩, hpairs, hrest⟩ := Effect.bind_eq_ok.1 hrest
    obtain ⟨_, t₄, hreset, hend⟩ := Effect.bind_eq_ok.1 hrest
    obtain ⟨⟨hd₃, rfl⟩, hback, hm⟩ := pairs_eq_ok hs hb hu hpairs
    rw [Stage.reset_of_restaged hs hd₃] at hreset
    cases hreset
    obtain ⟨rfl, rfl⟩ := Effect.pure_eq_ok.1 hend
    refine ⟨⟨.refl s, rfl⟩, ⟨fun p values hp => absurd hp (hne p values), hback⟩, ?_⟩
    rw [hm]
    unfold combinationCount
    split
    · exact absurd rfl (hne _ _)
    · rfl

end

/-! ## All round trips -/

theorem candidatesOf_keeps (d : Draft H) (names : List String) :
    Effect.Keeps Context.setup (candidatesOf d names) := by
  induction names with
  | nil => exact .pure []
  | cons p names ih =>
    exact (d.candidates_keeps p _).bind fun _ => ih.bind fun _ => .pure _

theorem candidatesOf_names {d : Draft H} {names : List String} {c c' : Context H}
    {table : List (String × List (Value H))} (h : candidatesOf d names c = .ok table c') :
    table.map (·.1) = names := by
  induction names generalizing c table with
  | nil =>
    obtain ⟨rfl, -⟩ := Effect.pure_eq_ok.1 h
    rfl
  | cons p names ih =>
    obtain ⟨values, c₁, -, h⟩ := Effect.bind_eq_ok.1 h
    obtain ⟨rest, c₂, hrest, h⟩ := Effect.bind_eq_ok.1 h
    obtain ⟨rfl, rfl⟩ := Effect.pure_eq_ok.1 h
    rw [List.map_cons, ih hrest]

/-- The number of trials is that of the settings, unless there is nothing to change. -/
theorem trials_eq_ok {d : Draft H} {c : Context H} {t : Draft H × Context H} {n : Nat}
    (h : trials (d, c) = .ok n t) :
    n = if d.blueprint.testable = [] then 0 else c.settings.trials := by
  obtain ⟨d', t₁, hdraft, h⟩ := Effect.bind_eq_ok.1 h
  obtain ⟨rfl, rfl⟩ := Stage.draft_eq_ok.1 hdraft
  dsimp only at h
  split at h
  · rename_i hnames
    obtain ⟨rfl, -⟩ := Effect.pure_eq_ok.1 h
    rw [if_pos (List.isEmpty_iff.1 hnames)]
  · rename_i hnames
    obtain ⟨c', t₂, hcontext, h⟩ := Effect.bind_eq_ok.1 h
    obtain ⟨rfl, rfl⟩ := Stage.context_eq_ok.1 hcontext
    obtain ⟨_, t₃, -, h⟩ := Effect.bind_eq_ok.1 h
    obtain ⟨_, t₄, -, h⟩ := Effect.bind_eq_ok.1 h
    obtain ⟨_, t₅, -, h⟩ := Effect.bind_eq_ok.1 h
    obtain ⟨rfl, -⟩ := Effect.pure_eq_ok.1 h
    rw [if_neg fun he => hnames (List.isEmpty_iff.2 he)]

/-- If all checks of texts and round trips succeed, the primary bean and its builder have
texts, every combination of the candidates that were drawn reads back, and the result
counts the combinations and the trials. -/
theorem readBack_of_roundTrips (d : Draft H) (c : Context H) (hb : d.blueprint.Stateless)
    {n : Nat} {t : Draft H × Context H} (h : roundTrips (d, c) = .ok n t) :
    ∃ s c₀ table c₁,
      Stage.reset Run.create (d, c) = .ok () (s, c₀) ∧ s.Renders ∧
      candidatesOf s d.blueprint.testable c₀ = .ok table c₁ ∧
      table.map (·.1) = d.blueprint.testable ∧ CombinationsReadBack s table ∧
      n = combinationCount table +
        if d.blueprint.testable = [] then 0 else c.settings.trials := by
  obtain ⟨_, ⟨s, c₀⟩, hreset, h⟩ := Effect.bind_eq_ok.1 h
  obtain ⟨hs, hsd⟩ := Stage.reset_eq_ok hreset
  have hblueprint : s.blueprint = d.blueprint := by rw [hsd]
  have hsb : s.blueprint.Stateless := by rwa [hblueprint]
  obtain ⟨_, t₁, htexts, h⟩ := Effect.bind_eq_ok.1 h
  obtain ⟨rfl, htexts'⟩ := Stage.probe_stateless (texts_stateless hsb) htexts
  obtain ⟨m, ⟨s', c₂⟩, hcombinations, h⟩ := Effect.bind_eq_ok.1 h
  obtain ⟨table, c₁, htable, ⟨hs', rfl⟩, hback, rfl⟩ :=
    combinations_eq_ok hs hsb ⟨.refl s, rfl⟩ hcombinations
  obtain ⟨k, t₃, htrials, h⟩ := Effect.bind_eq_ok.1 h
  obtain ⟨rfl, -⟩ := Effect.pure_eq_ok.1 h
  -- The trials read their number from the context that the combinations left.
  have hsettings : c₂.settings = c.settings := by
    have hc₀ := (Stage.reset_keeps Run.create_keeps).of_ok hreset
    have hc₂ := (candidatesOf_keeps s _).of_ok htable
    exact congrArg (·.1) (hc₂.trans hc₀)
  have hk := trials_eq_ok htrials
  rw [hs'.blueprint, hblueprint, hsettings] at hk
  rw [hblueprint] at htable
  exact ⟨s, c₀, table, c₂, hreset, renders_of_texts hsb (htexts' c₀.world), htable,
    candidatesOf_names htable, hback, by rw [hk]⟩

/-- The lamp passes with nine combinations of each ordered pair and two trials. -/
theorem readBack_of_roundTrips_lamp :
    Lamp.blueprint.Stateless ∧
      ∃ t, roundTrips (.ofBlueprint Lamp.blueprint, Lamp.context) = .ok 20 t ∧
      ∃ s c₀ table c₁,
        Stage.reset Run.create (.ofBlueprint Lamp.blueprint, Lamp.context) = .ok () (s, c₀) ∧
        s.Renders ∧ candidatesOf s Lamp.blueprint.testable c₀ = .ok table c₁ ∧
        table.map (·.1) = Lamp.blueprint.testable ∧ CombinationsReadBack s table ∧
        20 = combinationCount table +
          if Lamp.blueprint.testable = [] then 0 else Lamp.context.settings.trials := by
  have hrun : Effect.result? (roundTrips (.ofBlueprint Lamp.blueprint, Lamp.context)) =
      some 20 := by decide +kernel
  obtain ⟨t, ht⟩ := Effect.result?_eq_some.1 hrun
  exact ⟨Lamp.stateless, t, ht, readBack_of_roundTrips _ _ Lamp.stateless ht⟩

/-- Lamps that nothing can be read from, and whose first switch can be set only to on. -/
def sealedLamp : Blueprint Lamp.host :=
  { Lamp.blueprint with
    creator := .empty
    bean := ⟨[
      { name := "on", type := .bool, setter := some fun o v =>
          match v with
          | some (.bool true) => pure o
          | _ => throw (.error (.rejected "always on")) },
      { name := "dim", type := .bool, setter := some fun o _ => pure o }]⟩ }

theorem sealedLamp_stateless : sealedLamp.Stateless where
  construct _ := .pure _
  builderText _ h := by cases h
  getter p hp get hg := by
    obtain rfl | rfl : p = _ ∨ p = _ := by simpa [sealedLamp] using hp
    · cases hg
    · cases hg
  setter p hp set hs o v := by
    obtain rfl | rfl : p = _ ∨ p = _ := by simpa [sealedLamp] using hp
    · cases hs
      dsimp only
      split
      · exact .pure _
      · exact .throw _
    · cases hs
      exact .pure _

/-- The sealed lamp passes although the combinations that switch it off cannot be built. -/
theorem roundTrips_pass_unbuilt :
    sealedLamp.Stateless ∧ ∃ t s c₀ table c₁,
      roundTrips (.ofBlueprint sealedLamp, Lamp.context) = .ok 20 t ∧
      Stage.reset Run.create (.ofBlueprint sealedLamp, Lamp.context) = .ok () (s, c₀) ∧
      candidatesOf s sealedLamp.testable c₀ = .ok table c₁ ∧
      ∃ e ∈ table, ∃ f ∈ table, e.1 ≠ f.1 ∧ ∃ a ∈ e.2, ∃ b ∈ f.2,
        ¬ ∃ bean, ((s.put e.1 a).put f.1 b).Builds bean := by
  have hrun : Effect.result? (roundTrips (.ofBlueprint sealedLamp, Lamp.context)) =
      some 20 := by decide +kernel
  obtain ⟨t, ht⟩ := Effect.result?_eq_some.1 hrun
  refine ⟨sealedLamp_stateless, t, _, _, _, _, ht, rfl, rfl, _, .head _, _,
    .tail _ (.head _), by decide, _, .tail _ (.head _), _, .head _, ?_⟩
  rintro ⟨bean, hbean⟩
  cases hbean ()

end Check
end BeanContract
