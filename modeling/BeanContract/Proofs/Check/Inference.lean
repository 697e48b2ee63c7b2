/-
Inference is exact.

Where the code of a description is stateless, a bean of its primary values in which one
property is absent (`Draft.without`) always shows the same (`exists_observes`,
`Observes.unique`).  Inference succeeds exactly if every declared response accepts what is
shown, and then records the declared response, or else what is shown, and nothing else
(`infer_ok_iff`).  One draft serves for all of this, but no observation shows a trace of those
before it (`infer_eq_inferFrom`).

A parameter that is left out is all that is missing from construction
(`Draft.args_without_omitted`), and a writable one that is set to null is constructed with its
primary value (`Draft.args_without_setToNull`); setters are given the primary values of all
properties that they set, and null for the one that is set to null
(`Draft.written_without_omitted`, `Draft.written_without_setToNull`).
-/
import BeanContract.Proofs.Check.Absence

namespace BeanContract

variable {H : Host}

/-! ## Observations, exactly -/

namespace Draft

theorem exists_observes {d : Draft H} (hd : d.blueprint.Stateless) (n : String) :
    ∃ o, d.Observes n o := by
  obtain ⟨r, hr⟩ := tryNewBean_stateless hd
  cases r with
  | error e => exact ⟨_, .fails e fun w => by rw [hr]; rfl⟩
  | ok bean =>
    have hbean : d.Builds bean := fun w => by rw [hr]; rfl
    cases hn : d.blueprint.isReadable n with
    | false => exact ⟨_, .hidden bean hbean hn⟩
    | true =>
      obtain ⟨r', hr'⟩ := hd.read bean n
      have hread : ∀ w, d.tryRead bean n w = Effect.ofExcept id r' w := fun w =>
        congrFun hr' w
      cases r' with
      | error e => exact ⟨_, .refused bean e hbean hn hread⟩
      | ok v =>
        cases v with
        | none => exact ⟨_, .null bean hbean hn hread⟩
        | some x => exact ⟨_, .value bean x hbean hn hread⟩

theorem classify_of_observes {d : Draft H} {n : String} {o : Observation H}
    (h : d.Observes n o) (w : H.World) : d.classify n w = .ok o w := by
  have hbuilt : ∀ {bean}, d.Builds bean → Probe.attempt d.tryNewBean w = .ok (.ok bean) w :=
    fun hbean => Effect.reify_eq_ok.2 (.inl ⟨_, rfl, hbean w⟩)
  cases h with
  | fails e he =>
    exact Effect.bind_eq_ok.2 ⟨.error e, w, Effect.reify_eq_ok.2 (.inr ⟨e, rfl, he w⟩), rfl⟩
  | hidden bean hbean hn =>
    refine Effect.bind_eq_ok.2 ⟨.ok bean, w, hbuilt hbean, ?_⟩
    simp only [hn]
    rfl
  | refused bean e hbean hn he =>
    refine Effect.bind_eq_ok.2 ⟨.ok bean, w, hbuilt hbean, ?_⟩
    simp only [hn, if_true]
    exact Effect.bind_eq_ok.2 ⟨.error e, w, Effect.reify_eq_ok.2 (.inr ⟨e, rfl, he w⟩), rfl⟩
  | null bean hbean hn hv =>
    refine Effect.bind_eq_ok.2 ⟨.ok bean, w, hbuilt hbean, ?_⟩
    simp only [hn, if_true]
    exact Effect.bind_eq_ok.2 ⟨.ok none, w, Effect.reify_eq_ok.2 (.inl ⟨none, rfl, hv w⟩), rfl⟩
  | value bean x hbean hn hv =>
    refine Effect.bind_eq_ok.2 ⟨.ok bean, w, hbuilt hbean, ?_⟩
    simp only [hn, if_true]
    exact Effect.bind_eq_ok.2
      ⟨.ok (some x), w, Effect.reify_eq_ok.2 (.inl ⟨some x, rfl, hv w⟩), rfl⟩

theorem classify_eq_ok {d : Draft H} (hd : d.blueprint.Stateless) {n : String}
    {o : Observation H} {w w' : H.World} :
    d.classify n w = .ok o w' ↔ w' = w ∧ d.Observes n o := by
  constructor
  · intro h
    have ho := observes_of_classify hd h
    have hsame := (classify_of_observes ho w).symm.trans h
    cases hsame
    exact ⟨rfl, ho⟩
  · rintro ⟨rfl, ho⟩
    exact classify_of_observes ho _

theorem Observes.unique [Nonempty H.World] {d : Draft H} {n : String} {o o' : Observation H}
    (h : d.Observes n o) (h' : d.Observes n o') : o = o' := by
  obtain ⟨w⟩ := ‹Nonempty H.World›
  have hsame := (classify_of_observes h w).symm.trans (classify_of_observes h' w)
  cases hsame
  rfl

theorem Observes.not_varying {d : Draft H} {n : String} {o : Observation H}
    (h : d.Observes n o) : o.response.isVarying = false := by
  cases h <;> rfl

end Draft

/-! ## What is recorded -/

namespace Finding

/-- What is recorded after an observation: the declared response, with evidence for a
substitute or an error, or else the observation. -/
def recorded (f : Finding H) (o : Observation H) : Finding H :=
  match f.declaration with
  | none => { f with response := some o.response, evidence := o.evidence }
  | some r =>
    { f with response := some r, evidence := if r = .value ∨ r = .error then o.evidence else none }

theorem resolve_eq_some_iff {f g : Finding H} {o : Observation H} :
    f.resolve o = some g ↔
      (∀ r, f.declaration = some r → r.accepts o.response = true) ∧ g = f.recorded o := by
  unfold resolve recorded
  cases f.declaration with
  | none => exact ⟨fun h => ⟨nofun, (Option.some.inj h).symm⟩, fun h => by rw [h.2]⟩
  | some r =>
    dsimp only
    by_cases haccepts : r.accepts o.response = true
    · rw [if_pos haccepts]
      refine ⟨fun h => ⟨?_, (Option.some.inj h).symm⟩, fun h => by rw [h.2]⟩
      intro r' hr'
      exact Option.some.inj hr' ▸ haccepts
    · rw [if_neg haccepts]
      exact ⟨nofun, fun h => absurd (h.1 r rfl) haccepts⟩

theorem recorded_declaration {f : Finding H} (hf : f.WellDeclared) (o : Observation H) :
    (f.recorded o).declaration = f.declaration := by
  have hdeclaration : f.declaration = if f.declared then f.response else none := rfl
  cases hdeclared : f.declared with
  | false =>
    simp [recorded, declaration, hdeclared]
  | true =>
    obtain ⟨r, hr⟩ := Option.isSome_iff_exists.1 (hf.response hdeclared)
    simp [recorded, declaration, hdeclared, hr]

theorem recorded_wellDeclared (f : Finding H) {o : Observation H}
    (ho : o.response.isVarying = false) : (f.recorded o).WellDeclared := by
  unfold recorded
  cases hdeclared : f.declaration with
  | none =>
    refine ⟨fun _ => rfl, fun r hr hvarying => ?_⟩
    cases hr
    rw [ho] at hvarying
    cases hvarying
  | some r =>
    have hf' : f.declared = true := by
      by_contra h
      simp [declaration, h] at hdeclared
    exact ⟨fun _ => rfl, fun _ _ _ => hf'⟩

end Finding

/-- Whether an absence of the property is observed: it is not ignored, and a property that is
set to null has a setter. -/
def Property.Tested (p : Property H) (op : Absence) : Prop :=
  p.flags.ignored = false ∧ (op = .setToNull → p.isWritable = true)

def Blueprint.observed (b : Blueprint H) : Absence → Model H
  | .omitted => b.creator
  | .setToNull => b.bean

namespace Draft

def ofPrimary (b : Blueprint H) (values : Table String (Value H)) : Draft H where
  blueprint := b
  expected := values
  initial := some values

end Draft

/-- A property is left out of construction, and is set to null through its setter. -/
def Absence.preference : Absence → Preference
  | .omitted => .creator
  | .setToNull => .setters

/-- The draft of primary values in which one property is absent. -/
def Draft.without (b : Blueprint H) (values : Table String (Value H)) (op : Absence)
    (n : String) : Draft H :=
  Check.absent op ((ofPrimary b values).prefer op.preference) n

namespace Draft

variable (b : Blueprint H) (values : Table String (Value H)) (n : String)

theorem without_omitted : without b values .omitted n =
    { ofPrimary b values with expected := values.erase n } := rfl

theorem without_setToNull : without b values .setToNull n =
    { ofPrimary b values with expected := values.insert n none, preference := .setters } := rfl

/-- Only the parameter that is left out is missing from construction. -/
theorem args_without_omitted :
    (without b values .omitted n).args = (ofPrimary b values).args.erase n := by
  refine (erase_args (d := ofPrimary b values) (e := without b values .omitted n) rfl ?_
    fun m _ hm => ?_).symm
  · simp [without_omitted, arg?, ofPrimary, Table.get?_erase]
  · simp [without_omitted, arg?, ofPrimary, Table.get?_erase, hm]

/-- Setters get the primary values of what is no parameter. -/
theorem written_without_omitted (p : Property H) :
    (without b values .omitted n).written p =
      if p.isWritable && !p.flags.ignored && !b.isParameter p.name then
        if p.name = n then none else values.get? p.name
      else none := by
  simp [without_omitted, written, viaSetter, ofPrimary, Table.get?_erase]

/-- A writable parameter that is set to null is constructed with its primary value. -/
theorem args_without_setToNull (hn : (values.get? n).isSome = true)
    (hw : b.isWritable n = true) :
    (without b values .setToNull n).args = (ofPrimary b values).args := by
  refine args_congr rfl fun m _ => ?_
  by_cases hm : m = n
  · subst hm
    obtain ⟨v, hv⟩ := Option.isSome_iff_exists.1 hn
    simp [without_setToNull, arg?, ofPrimary, Table.get?_insert, hv, hw]
  · simp [without_setToNull, arg?, ofPrimary, Table.get?_insert, hm]

/-- Setters get the primary values, and null for the property that is set to null. -/
theorem written_without_setToNull (p : Property H) :
    (without b values .setToNull n).written p =
      if p.isWritable && !p.flags.ignored then
        if p.name = n then some none else values.get? p.name
      else none := by
  simp [without_setToNull, written, viaSetter, ofPrimary, Table.get?_insert]

end Draft

namespace Check

inductive Records (b : Blueprint H) (values : Table String (Value H)) (op : Absence)
    (p : Property H) : Property H → Prop where
  | passed : ¬p.Tested op → Records b values op p p
  | tested (o : Observation H) : p.Tested op → (Draft.without b values op p.name).Observes p.name o →
      (∀ r, (p.finding op).declaration = some r → r.accepts o.response = true) →
      Records b values op p (p.setFinding op ((p.finding op).recorded o))

namespace Records

variable {b : Blueprint H} {values : Table String (Value H)} {op : Absence} {p q : Property H}

theorem name (h : Records b values op p q) : q.name = p.name := by
  cases h with
  | passed _ => rfl
  | tested o _ _ _ => exact (p.sameCode_setFinding op _).name

variable (hp : ∀ op, (p.finding op).WellDeclared)
include hp

/-- What is declared stays declared, and nothing else is declared. -/
theorem declaration (h : Records b values op p q) (op' : Absence) :
    (q.finding op').declaration = (p.finding op').declaration := by
  cases h with
  | passed _ => rfl
  | tested o _ _ _ =>
    rw [Property.finding_setFinding]
    split
    · rename_i hop
      rw [hop, Finding.recorded_declaration (hp op)]
    · rfl

/-- What is shown does not vary, so that a varying response is a declared one. -/
theorem wellDeclared (h : Records b values op p q) (op' : Absence) :
    (q.finding op').WellDeclared := by
  cases h with
  | passed _ => exact hp op'
  | tested o _ ho _ =>
    rw [Property.finding_setFinding]
    split
    · exact Finding.recorded_wellDeclared _ ho.not_varying
    · exact hp op'

end Records

theorem learn_eq_ok {b : Blueprint H} {p : Property H} {op : Absence} {o : Observation H}
    {f : Finding H} {w w' : H.World} :
    learn b p op o w = .ok f w' ↔ w' = w ∧ (p.finding op).resolve o = some f := by
  unfold learn
  cases (p.finding op).resolve o with
  | none => simp [Effect.throw_ne_ok]
  | some g =>
    rw [Effect.pure_eq_ok]
    constructor
    · rintro ⟨rfl, rfl⟩
      exact ⟨rfl, rfl⟩
    · rintro ⟨rfl, h⟩
      exact ⟨Option.some.inj h, rfl⟩

theorem skips_iff {p : Property H} {op : Absence} :
    (p.flags.ignored || (op = .setToNull && !p.isWritable)) = true ↔ ¬p.Tested op := by
  unfold Property.Tested
  cases op <;> cases p.flags.ignored <;> cases p.isWritable <;> simp

section

variable {b : Blueprint H} (hb : b.Stateless) {values : Table String (Value H)} {op : Absence}
include hb

theorem without_stateless (n : String) : (Draft.without b values op n).blueprint.Stateless := by
  cases op <;> exact hb

/-- One round of inference, exactly. -/
theorem inferOne_eq_ok {p q : Property H} {w w' : H.World} :
    inferOne ((Draft.ofPrimary b values).prefer op.preference) op p w = .ok q w' ↔
      w' = w ∧ Records b values op p q := by
  unfold inferOne
  by_cases hskip : (p.flags.ignored || (op = .setToNull && !p.isWritable)) = true
  · rw [if_pos hskip, Effect.pure_eq_ok]
    have htested := skips_iff.1 hskip
    constructor
    · rintro ⟨rfl, rfl⟩
      exact ⟨rfl, .passed htested⟩
    · rintro ⟨rfl, hq⟩
      cases hq with
      | passed _ => exact ⟨rfl, rfl⟩
      | tested o h _ _ => exact absurd h htested
  · rw [if_neg hskip]
    have htested : p.Tested op := not_not.1 fun h => hskip (skips_iff.2 h)
    constructor
    · intro h
      obtain ⟨o, w₁, hclassify, hlearn⟩ := Effect.bind_eq_ok.1 h
      obtain ⟨f, w₂, hf, hpure⟩ := Effect.bind_eq_ok.1 hlearn
      obtain ⟨rfl, ho⟩ := (Draft.classify_eq_ok (without_stateless hb p.name)).1 hclassify
      obtain ⟨rfl, hresolve⟩ := learn_eq_ok.1 hf
      obtain ⟨rfl, rfl⟩ := Effect.pure_eq_ok.1 hpure
      obtain ⟨haccepts, rfl⟩ := Finding.resolve_eq_some_iff.1 hresolve
      exact ⟨rfl, .tested o htested ho haccepts⟩
    · rintro ⟨rfl, hq⟩
      cases hq with
      | passed h => exact absurd htested h
      | tested o _ ho haccepts =>
        refine Effect.bind_eq_ok.2 ⟨o, _, (Draft.classify_eq_ok (without_stateless hb p.name)).2
          ⟨rfl, ho⟩, ?_⟩
        have hf := Finding.resolve_eq_some_iff.2 ⟨haccepts, rfl⟩
        exact Effect.bind_eq_ok.2 ⟨_, _, learn_eq_ok.2 ⟨rfl, hf⟩, rfl⟩

/-- Something can be recorded if the declared response, if any, accepts what is shown. -/
theorem exists_records_iff {p : Property H} : (∃ q, Records b values op p q) ↔
    (p.Tested op → ∀ r, (p.finding op).declaration = some r →
      ∃ o, (Draft.without b values op p.name).Observes p.name o ∧
        r.accepts o.response = true) := by
  constructor
  · rintro ⟨q, hq⟩ htested r hr
    cases hq with
    | passed h => exact absurd htested h
    | tested o _ ho haccepts => exact ⟨o, ho, haccepts r hr⟩
  · intro h
    by_cases htested : p.Tested op
    · cases hdeclared : (p.finding op).declaration with
      | none =>
        obtain ⟨o, ho⟩ := Draft.exists_observes (without_stateless hb p.name) p.name
        exact ⟨_, .tested o htested ho fun r hr => by rw [hdeclared] at hr; cases hr⟩
      | some r =>
        obtain ⟨o, ho, haccepts⟩ := h htested r hdeclared
        refine ⟨_, .tested o htested ho fun r' hr' => ?_⟩
        rw [hdeclared] at hr'
        exact Option.some.inj hr' ▸ haccepts
    · exact ⟨p, .passed htested⟩

end

theorem infer_eq {b : Blueprint H} {values : Table String (Value H)} {c c₁ : Context H}
    (hdraws : (Draft.ofBlueprint b).drawPrimary Run.create b.staged .empty c = .ok values c₁) :
    infer b c = Run.ofProbe (inferFrom (Draft.ofPrimary b values)) c₁ := by
  have hreset : Stage.reset Run.create (.ofBlueprint b, c) =
      .ok () (Draft.ofPrimary b values, c₁) := by
    refine Effect.bind_eq_ok.2 ⟨.ofBlueprint b, (.ofBlueprint b, c), rfl, ?_⟩
    exact Effect.bind_eq_ok.2 ⟨values, (.ofBlueprint b, c₁), Stage.ofRun_eq_ok.2 ⟨rfl, hdraws⟩, rfl⟩
  rw [infer_eq_inferFrom]
  rw [hreset]

theorem infer_eq_ok_iff {b b' : Blueprint H} (hb : b.Stateless)
    {values : Table String (Value H)} {c c₁ c' : Context H}
    (hdraws : (Draft.ofBlueprint b).drawPrimary Run.create b.staged .empty c = .ok values c₁) :
    infer b c = .ok b' c' ↔ c' = c₁ ∧ b' = { b with creator := b'.creator, bean := b'.bean } ∧
      ∀ op, List.Forall₂ (Records b values op) (b.observed op).properties
        (b'.observed op).properties := by
  have hgather : ∀ op (ps qs : List (Property H)) (w w' : H.World),
      Effect.gather (inferOne ((Draft.ofPrimary b values).prefer op.preference) op) ps w =
        .ok qs w' ↔ w' = w ∧ List.Forall₂ (Records b values op) ps qs := fun op ps qs w w' =>
    Effect.gather_eq_ok_iff (f := inferOne _ op) (R := Records b values op)
      fun p _ w q w' => inferOne_eq_ok hb
  rw [infer_eq hdraws]
  constructor
  · intro h
    obtain ⟨w, hinfer, hc'⟩ := Effect.zoom_eq_ok.1 h
    obtain ⟨creator, w₁, hcreator, hrest⟩ := Effect.bind_eq_ok.1 hinfer
    obtain ⟨bean, w₂, hbean, hpure⟩ := Effect.bind_eq_ok.1 hrest
    obtain ⟨rfl, hparameters⟩ := (hgather .omitted _ _ _ _).1 hcreator
    obtain ⟨rfl, hproperties⟩ := (hgather .setToNull _ _ _ _).1 hbean
    obtain ⟨rfl, rfl⟩ := Effect.pure_eq_ok.1 hpure
    refine ⟨hc', rfl, fun op => ?_⟩
    cases op with
    | omitted => exact hparameters
    | setToNull => exact hproperties
  · rintro ⟨rfl, hb', hrecords⟩
    refine Effect.zoom_eq_ok.2 ⟨c'.world, ?_, rfl⟩
    refine Effect.bind_eq_ok.2 ⟨_, _, (hgather .omitted _ _ _ _).2 ⟨rfl, hrecords .omitted⟩, ?_⟩
    refine Effect.bind_eq_ok.2 ⟨_, _, (hgather .setToNull _ _ _ _).2 ⟨rfl, hrecords .setToNull⟩, ?_⟩
    exact Effect.pure_eq_ok.2 ⟨hb'.symm, rfl⟩

theorem wellDeclared_of_records {b b' : Blueprint H} {values : Table String (Value H)}
    (hb : b.WellDeclared) (h : ∀ op, List.Forall₂ (Records b values op)
      (b.observed op).properties (b'.observed op).properties) : b'.WellDeclared := by
  have hpartner : ∀ op n q, (b'.observed op).get? n = some q →
      ∃ p, (b.observed op).get? n = some p ∧ Records b values op p q := by
    intro op n q hq
    rcases Model.get?_rel (fun _ _ h => h.name) (h op) n with ⟨p, q', hp, hq', hpq⟩ | ⟨-, hq'⟩
    · rw [hq'] at hq
      cases hq
      exact ⟨p, hp, hpq⟩
    · rw [hq'] at hq
      cases hq
  refine ⟨fun n p' q' hp' hq' op => ?_, fun n p' hp' => ?_⟩
  · obtain ⟨p, hp, hpp⟩ := hpartner .omitted n p' hp'
    obtain ⟨q, hq, hqq⟩ := hpartner .setToNull n q' hq'
    rw [hqq.declaration (hb.finding n q (.inr hq)), hpp.declaration (hb.finding n p (.inl hp)),
      hb.alike n p q hp hq]
  · rcases hp' with hp' | hp'
    · obtain ⟨p, hp, hpp⟩ := hpartner .omitted n p' hp'
      exact hpp.wellDeclared (hb.finding n p (.inl hp))
    · obtain ⟨p, hp, hpp⟩ := hpartner .setToNull n p' hp'
      exact hpp.wellDeclared (hb.finding n p (.inr hp))

/-- Where the primary draws of a description succeed, inference does so exactly if the declared
response of every property whose absence is observed accepts what a bean of the primary values
without it shows.  It then records the declared response, or else what is shown, and leaves
everything else alone; what varies is what is declared to. -/
theorem infer_ok_iff {b : Blueprint H} (hb : b.Stateless) {values : Table String (Value H)}
    {c c₁ : Context H}
    (hdraws : (Draft.ofBlueprint b).drawPrimary Run.create b.staged .empty c = .ok values c₁) :
    ((∃ b' c', infer b c = .ok b' c') ↔
      ∀ op, ∀ p ∈ (b.observed op).properties, p.Tested op →
        ∀ r, (p.finding op).declaration = some r →
          ∃ o, (Draft.without b values op p.name).Observes p.name o ∧
            r.accepts o.response = true) ∧
    ∀ b' c', infer b c = .ok b' c' →
      c' = c₁ ∧ b' = { b with creator := b'.creator, bean := b'.bean } ∧
      (∀ op, List.Forall₂ (Records b values op) (b.observed op).properties
        (b'.observed op).properties) ∧
      (b.WellDeclared → b'.WellDeclared) := by
  refine ⟨⟨?_, fun h => ?_⟩, fun b' c' h => ?_⟩
  · rintro ⟨b', c', h⟩ op p hp htested
    obtain ⟨-, -, hrecords⟩ := (infer_eq_ok_iff hb hdraws).1 h
    exact (exists_records_iff hb).1 (exists_forall₂_iff.1 ⟨_, hrecords op⟩ p hp) htested
  · have hexists : ∀ op, ∃ qs, List.Forall₂ (Records b values op) (b.observed op).properties qs :=
      fun op => exists_forall₂_iff.2 fun p hp => (exists_records_iff hb).2 (h op p hp)
    obtain ⟨creator, hcreator⟩ := hexists .omitted
    obtain ⟨bean, hbean⟩ := hexists .setToNull
    refine ⟨{ b with creator := ⟨creator⟩, bean := ⟨bean⟩ }, c₁, ?_⟩
    refine (infer_eq_ok_iff hb hdraws).2 ⟨rfl, rfl, fun op => ?_⟩
    cases op with
    | omitted => exact hcreator
    | setToNull => exact hbean
  · obtain ⟨hc', hb', hrecords⟩ := (infer_eq_ok_iff hb hdraws).1 h
    exact ⟨hc', hb', hrecords, fun hdeclared => wellDeclared_of_records hdeclared hrecords⟩

def variableLamp : Blueprint Lamp.host :=
  Lamp.blueprint.customised (.response .omitted "on" .varyingNullable)

theorem variableLamp_stateless : variableLamp.Stateless := Lamp.stateless.customised _

/-- A lamp is built without its first switch, which is then unset, and the declaration that it
varies is kept. -/
theorem infer_ok_iff_lamp :
    variableLamp.Stateless ∧ ∃ values c₁, (Draft.ofBlueprint variableLamp).drawPrimary Run.create
        variableLamp.staged .empty Lamp.context = .ok values c₁ ∧
      (Draft.without variableLamp values .omitted "on").Observes "on" ⟨.null, none⟩ ∧
      ∃ b' c', infer variableLamp Lamp.context = .ok b' c' ∧ c' = c₁ ∧
        (∀ op, List.Forall₂ (Records variableLamp values op) (variableLamp.observed op).properties
          (b'.observed op).properties) := by
  obtain ⟨values, c₁, hdraws, hclassify⟩ : ∃ values c₁,
      (Draft.ofBlueprint variableLamp).drawPrimary Run.create variableLamp.staged .empty
        Lamp.context = .ok values c₁ ∧
      (Draft.without variableLamp values .omitted "on").classify "on" () =
        .ok ⟨.null, none⟩ () := ⟨_, _, rfl, rfl⟩
  have hobserves : (Draft.without variableLamp values .omitted "on").Observes "on" ⟨.null, none⟩ :=
    Draft.observes_of_classify (without_stateless variableLamp_stateless "on") hclassify
  obtain ⟨hiff, hrecords⟩ := infer_ok_iff variableLamp_stateless hdraws
  obtain ⟨b', c', hinfer⟩ : ∃ b' c', infer variableLamp Lamp.context = .ok b' c' := by
    refine hiff.2 fun op p hp _ r hr => ?_
    cases op with
    | omitted =>
      obtain rfl : p = _ := List.mem_singleton.1 hp
      cases hr
      exact ⟨_, hobserves, rfl⟩
    | setToNull =>
      obtain rfl | rfl : p = _ ∨ p = _ := by
        simpa [Blueprint.observed, variableLamp, Blueprint.customised, Lamp.blueprint,
          Model.update, Customisation.property] using hp
      · cases hr
      · cases hr
  exact ⟨variableLamp_stateless, values, c₁, hdraws, hobserves, b', c', hinfer,
    (hrecords b' c' hinfer).1, (hrecords b' c' hinfer).2.2.1⟩

end Check
end BeanContract
