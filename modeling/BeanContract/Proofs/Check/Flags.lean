/-
Flags are enforced.

Validation scans the properties of both models, leaving out before setting to null, for a first
finding that contradicts the flags (`validate_eq_error_iff`).  As inference records what the beans
of the primary values show, unless a declaration replaces it, a blueprint that was inferred and
validated stands for beans that keep to their flags, and one that is rejected for a contradiction
that was recorded or declared (`enforced_of_validate`).
-/
import BeanContract.Proofs.Check.Expectation

namespace BeanContract

variable {H : Host}

/-! ## The first contradiction -/

/-- The properties that are not ignored and the absences of each, in the order in which they are
compared with the flags. -/
def Blueprint.scanned (b : Blueprint H) : List (Property H × Absence) :=
  ((b.creator.properties ++ b.bean.properties).filter fun p => !p.flags.ignored).flatMap
    fun p => [(p, .omitted), (p, .setToNull)]

theorem Blueprint.mem_scanned {b : Blueprint H} {p : Property H} {op : Absence} :
    (p, op) ∈ b.scanned ↔
      (p ∈ b.creator.properties ∨ p ∈ b.bean.properties) ∧ p.flags.ignored = false := by
  cases op <;> simp [scanned, or_and_right]

namespace Check

inductive Contradicts (b : Blueprint H) (p : Property H) (op : Absence) : Failure → Prop where
  | null : p.flags.notNull = true → (p.finding op).response = some .null →
      Contradicts b p op (.violation (.nullDespiteNotNull b.name p.name op) none [])
  | error : p.flags.nullable = true → (p.finding op).response = some .error →
      Contradicts b p op
        (.violation (.errorDespiteNullable b.name p.name op) (p.finding op).error? [])

theorem validateOne_eq_error_iff {b : Blueprint H} {p : Property H} {op : Absence} {f : Failure} :
    validateOne b p op = .error f ↔ Contradicts b p op f := by
  unfold validateOne
  dsimp only
  constructor
  · intro h
    split at h
    · rename_i hnull
      cases h
      simp only [Bool.and_eq_true, decide_eq_true_eq] at hnull
      exact .null hnull.1 hnull.2
    · split at h
      · rename_i herror
        cases h
        simp only [Bool.and_eq_true, decide_eq_true_eq] at herror
        exact .error herror.1 herror.2
      · cases h
  · intro h
    cases h with
    | null hflag hresponse => simp [hflag, hresponse]
    | error hflag hresponse => simp [hflag, hresponse]

theorem validateOne_eq_ok_iff {b : Blueprint H} {p : Property H} {op : Absence} :
    validateOne b p op = .ok () ↔ ∀ f, ¬Contradicts b p op f := by
  simp only [← validateOne_eq_error_iff]
  cases validateOne b p op with
  | ok u => exact ⟨nofun, fun _ => rfl⟩
  | error f => exact ⟨nofun, fun h => absurd rfl (h f)⟩

theorem validate_eq (b : Blueprint H) :
    validate b = b.scanned.forM fun x => validateOne b x.1 x.2 := by
  unfold validate Blueprint.scanned
  simp only [List.forM_eq_forM]
  generalize b.creator.properties ++ b.bean.properties = ps
  induction ps with
  | nil => rfl
  | cons p ps ih =>
    rw [List.forM_cons, ih]
    cases hp : p.flags.ignored with
    | true => simp [hp]
    | false => simp [hp]

/-- Validation accepts what nothing contradicts. -/
theorem validate_eq_ok_iff {b : Blueprint H} :
    validate b = .ok () ↔ ∀ x ∈ b.scanned, ∀ f, ¬Contradicts b x.1 x.2 f := by
  simp only [validate_eq, Effect.forM_eq_ok_iff, validateOne_eq_ok_iff]

/-- Validation fails with the first contradiction. -/
theorem validate_eq_error_iff {b : Blueprint H} {f : Failure} :
    validate b = .error f ↔ ∃ before p op after, b.scanned = before ++ (p, op) :: after ∧
      (∀ x ∈ before, ∀ g, ¬Contradicts b x.1 x.2 g) ∧ Contradicts b p op f := by
  simp only [validate_eq, Effect.forM_eq_error_iff, validateOne_eq_ok_iff, validateOne_eq_error_iff,
    Prod.exists]

/-! ## What is recorded and what the flags ask for -/

/-- A bean of primary values without the property keeps to the property's flags: it does not read
back null despite them, unless that is declared to vary, and can be had if null is a regular
value. -/
structure Enforced (b : Blueprint H) (values : Table String (Value H)) (op : Absence)
    (p : Property H) : Prop where
  notNull : p.flags.notNull = true → (p.finding op).declaration ≠ some .varyingNullable →
    ∀ bean, (Draft.without b values op p.name).Builds bean →
      ¬(Draft.without b values op p.name).Reads bean p.name none
  nullable : p.flags.nullable = true → ∃ bean, (Draft.without b values op p.name).Builds bean

/-- An error that is recorded is the one that building the bean without the property ends with. -/
def Captured (b : Blueprint H) (values : Table String (Value H)) (op : Absence)
    (p : Property H) (e : AccessError) : Prop :=
  ∀ w, (Draft.without b values op p.name).tryNewBean w = .error e w

end Check

theorem Draft.Observes.null_of_reads [Nonempty H.World] {d : Draft H} {n : String}
    {o : Observation H} {bean : Value H} (ho : d.Observes n o) (hbean : d.Builds bean)
    (hnull : d.Reads bean n none) : o = ⟨.null, none⟩ := by
  refine ho.unique (.null bean hbean ?_ hnull)
  obtain ⟨w⟩ := ‹Nonempty H.World›
  by_contra hn
  have hread := hnull w
  unfold tryRead Blueprint.read at hread
  unfold Blueprint.isReadable at hn
  cases hp : d.blueprint.bean.get? n with
  | none =>
    rw [hp] at hread
    cases hread
  | some p =>
    rw [hp] at hread hn
    obtain ⟨x, w₁, -, hread⟩ := Effect.bind_eq_ok.1 hread
    have hgetter : p.getter = none := by simpa [Property.isReadable] using hn
    unfold Property.read at hread
    rw [hgetter] at hread
    cases hread

theorem Draft.Observes.builds_of_ne_error {d : Draft H} {n : String} {o : Observation H}
    (ho : d.Observes n o) (hne : o.response ≠ .error) : ∃ bean, d.Builds bean := by
  cases ho with
  | fails e he => exact absurd rfl hne
  | hidden bean hbean _ => exact ⟨bean, hbean⟩
  | refused bean e hbean _ _ => exact ⟨bean, hbean⟩
  | null bean hbean _ _ => exact ⟨bean, hbean⟩
  | value bean x hbean _ _ => exact ⟨bean, hbean⟩

theorem Draft.Observes.fails_of_error {d : Draft H} {n : String} {o : Observation H}
    (ho : d.Observes n o) (herror : o.response = .error) :
    ∃ e, o.evidence = some (.error e) ∧ ∀ w, d.tryNewBean w = .error e w := by
  cases ho with
  | fails e he => exact ⟨e, rfl, he⟩
  | hidden bean _ _ => cases herror
  | refused bean e _ _ _ => cases herror
  | null bean _ _ _ => cases herror
  | value bean x _ _ _ => cases herror

namespace Finding

variable {f : Finding H} {o : Observation H}
  (haccepts : ∀ r, f.declaration = some r → r.accepts o.response = true)
include haccepts

/-- Null is recorded if it is shown, unless it is declared to vary. -/
theorem recorded_null (ho : o.response = .null) (hf : f.declaration ≠ some .varyingNullable) :
    (f.recorded o).response = some .null := by
  unfold recorded
  cases hdeclared : f.declaration with
  | none => simp [ho]
  | some r =>
    have hr := haccepts r hdeclared
    rw [ho] at hr
    rw [hdeclared] at hf
    cases r <;> simp_all [Response.accepts]

/-- A failure is recorded exactly if the bean fails, with the error as evidence. -/
theorem recorded_error : (f.recorded o).response = some .error ↔ o.response = .error := by
  unfold recorded
  cases hdeclared : f.declaration with
  | none => simp
  | some r =>
    have hr := haccepts r hdeclared
    generalize o.response = shown at hr
    cases r <;> cases shown <;> simp_all [Response.accepts]

theorem recorded_error? (ho : o.response = .error) :
    (f.recorded o).evidence = o.evidence := by
  unfold recorded
  cases hdeclared : f.declaration with
  | none => rfl
  | some r =>
    have hr := haccepts r hdeclared
    rw [ho] at hr
    cases r <;> simp_all [Response.accepts]

end Finding

namespace Check

variable {b : Blueprint H} {values : Table String (Value H)} {op : Absence} {p q : Property H}

namespace Records

theorem flags (h : Records b values op p q) : q.flags = p.flags := by
  cases h with
  | passed _ => rfl
  | tested o _ _ _ => cases op <;> rfl

theorem finding_of_tested (h : Records b values op p q) (htested : p.Tested op) :
    ∃ o, (Draft.without b values op p.name).Observes p.name o ∧
      (∀ r, (p.finding op).declaration = some r → r.accepts o.response = true) ∧
      q.finding op = (p.finding op).recorded o := by
  cases h with
  | passed h => exact absurd htested h
  | tested o _ ho haccepts =>
    refine ⟨o, ho, haccepts, ?_⟩
    rw [Property.finding_setFinding, if_pos rfl]

/-- A property whose finding contradicts nothing is one whose flags the bean keeps to. -/
theorem enforced [Nonempty H.World] {b' : Blueprint H} (h : Records b values op p q)
    (htested : p.Tested op) (hq : ∀ f, ¬Contradicts b' q op f) : Enforced b values op p := by
  obtain ⟨o, ho, haccepts, hfinding⟩ := h.finding_of_tested htested
  refine ⟨fun hflag hdeclared bean hbean hnull => ?_, fun hflag => ?_⟩
  · have hshown := ho.null_of_reads hbean hnull
    have hresponse := Finding.recorded_null haccepts (by rw [hshown]) hdeclared
    exact hq _ (.null (h.flags ▸ hflag) (hfinding ▸ hresponse))
  · refine ho.builds_of_ne_error fun herror => ?_
    have hresponse := (Finding.recorded_error haccepts).2 herror
    exact hq _ (.error (h.flags ▸ hflag) (hfinding ▸ hresponse))

theorem captured (h : Records b values op p q) (htested : p.Tested op)
    (herror : (q.finding op).response = some .error) :
    ∃ e, (q.finding op).error? = some e ∧ Captured b values op p e := by
  obtain ⟨o, ho, haccepts, hfinding⟩ := h.finding_of_tested htested
  rw [hfinding] at herror ⊢
  have hshown := (Finding.recorded_error haccepts).1 herror
  obtain ⟨e, hevidence, he⟩ := ho.fails_of_error hshown
  refine ⟨e, ?_, he⟩
  unfold Finding.error?
  rw [Finding.recorded_error? haccepts hshown, hevidence]

end Records

/-- Where what is inferred is validated, the beans of the primary values keep to the flags of
every parameter that is left out and of every property that is set to null.  Validation fails only
with the first contradiction in what was recorded, or declared of an absence that is not observed,
and a recorded failure has the error of that bean as its cause. -/
theorem enforced_of_validate {b b' : Blueprint H} (hb : b.Stateless) {c c' : Context H}
    (h : infer b c = .ok b' c') :
    ∃ values, (Draft.ofBlueprint b).drawPrimary Run.create b.staged .empty c = .ok values c' ∧
      (validate b' = .ok () → ∀ op, ∀ p ∈ (b.observed op).properties, p.Tested op →
        Enforced b values op p) ∧
      (validate b' = .ok () ↔ ∀ p op, (p ∈ b'.creator.properties ∨ p ∈ b'.bean.properties) →
        p.flags.ignored = false → ∀ f, ¬Contradicts b' p op f) ∧
      (∀ f, validate b' = .error f ↔ ∃ before p op after,
        b'.scanned = before ++ (p, op) :: after ∧
        (∀ x ∈ before, ∀ g, ¬Contradicts b' x.1 x.2 g) ∧ Contradicts b' p op f) ∧
      b'.name = b.name ∧
      ∀ op, List.Forall₂ (fun p q => Records b values op p q ∧
          (p.Tested op → (q.finding op).response = some .error →
            ∃ e, (q.finding op).error? = some e ∧ Captured b values op p e))
        (b.observed op).properties (b'.observed op).properties := by
  obtain ⟨values, c₁, hdraws⟩ := drawPrimary_of_infer h
  obtain ⟨rfl, hname, hrecords⟩ := (infer_eq_ok_iff hb hdraws).1 h
  have : Nonempty H.World := ⟨c'.world⟩
  have hmem : ∀ op, ∀ q ∈ (b'.observed op).properties,
      q ∈ b'.creator.properties ∨ q ∈ b'.bean.properties := by
    intro op q hq
    cases op with
    | omitted => exact .inl hq
    | setToNull => exact .inr hq
  have hok : validate b' = .ok () ↔
      ∀ p op, (p ∈ b'.creator.properties ∨ p ∈ b'.bean.properties) →
        p.flags.ignored = false → ∀ f, ¬Contradicts b' p op f := by
    rw [validate_eq_ok_iff]
    constructor
    · exact fun h p op hp hignored => h (p, op) (Blueprint.mem_scanned.2 ⟨hp, hignored⟩)
    · rintro h ⟨p, op⟩ hx
      obtain ⟨hp, hignored⟩ := Blueprint.mem_scanned.1 hx
      exact h p op hp hignored
  refine ⟨values, hdraws, fun hvalid op p hp htested => ?_, hok, fun f => validate_eq_error_iff,
    by rw [hname], fun op => (hrecords op).imp fun p q hpq => ⟨hpq, hpq.captured⟩⟩
  obtain ⟨q, hq, hpq⟩ := exists_of_forall₂ (hrecords op).flip hp
  have hignored : q.flags.ignored = false := by rw [hpq.flags, htested.1]
  exact hpq.enforced htested (hok.1 hvalid q op (hmem op q hq) hignored)

/-- The lamp whose first switch must not be unset, but for being declared to vary when it is left
out, and whose second switch may be unset. -/
def flaggedLamp : Blueprint Lamp.host :=
  (variableLamp.customised (.notNull "on")).customised (.nullable "dim")

/-- Lamps keep to these flags; without the declaration they would not. -/
theorem enforced_of_validate_lamp :
    flaggedLamp.Stateless ∧ (∃ b' c', infer flaggedLamp Lamp.context = .ok b' c') ∧
      (∃ values, ∀ op, ∀ p ∈ (flaggedLamp.observed op).properties, p.Tested op →
        Enforced flaggedLamp values op p) ∧
      ∃ b' c', infer (Lamp.blueprint.customised (.notNull "on")) Lamp.context = .ok b' c' ∧
        validate b' = .error (.violation (.nullDespiteNotNull "Lamp" "on" .omitted) none []) := by
  have hstateless : flaggedLamp.Stateless := (variableLamp_stateless.customised _).customised _
  obtain ⟨b', c', hinfer, hvalid⟩ : ∃ b' c', infer flaggedLamp Lamp.context = .ok b' c' ∧
      validate b' = .ok () := ⟨_, _, rfl, rfl⟩
  obtain ⟨values, -, henforced, -⟩ := enforced_of_validate hstateless hinfer
  exact ⟨hstateless, ⟨b', c', hinfer⟩, ⟨values, henforced hvalid⟩, _, _, rfl, rfl⟩

end Check
end BeanContract
