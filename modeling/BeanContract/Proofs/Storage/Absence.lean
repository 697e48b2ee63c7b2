/-
Absence of properties in beans that store them.

A parameter that is left out, or a property that is set to null, leaves null in its slot.
Inference therefore records that the property reads null, or that it cannot be read, which
suits every flag but one that excludes null (`ends_infer`).
-/
import BeanContract.Proofs.Storage.RoundTrip
import BeanContract.Proofs.Check.Observation

namespace BeanContract

open Effect (Ends)

variable {H : Host} {b : Blueprint H} {S : Storage H} {G : Datum H.Object → Prop}

/-- What the bean of a draft shows of a property whose slot holds null. -/
theorem Draft.ends_classify {d : Draft H} (hwf : d.blueprint.WellFormed)
    (hst : d.blueprint.StoresIn S G) (hfit : d.Fitting G) {n : String}
    (hnull : d.content S n = none) (w : H.World) : Ends (d.classify n) w fun o _ =>
      o = ⟨if d.blueprint.isReadable n then .null else .notReadable, none⟩ := by
  have hbean : Ends (Probe.attempt d.tryNewBean) w fun r _ =>
      ∃ bean, r = .ok bean ∧ d.Holds S bean :=
    Ends.reify ((ends_tryNewBean hwf hst hfit w).mono fun bean _ h => ⟨bean, rfl, h⟩)
  refine hbean.bind fun r w₁ hr => ?_
  obtain ⟨bean, rfl, hholds⟩ := hr
  dsimp only
  by_cases hread : d.blueprint.isReadable n = true
  · rw [if_pos hread, if_pos hread]
    have hvalue : Ends (Probe.attempt (d.tryRead bean n)) w₁ fun r _ => r = .ok none :=
      Ends.reify ((ends_tryRead hwf hst hfit hholds hread w₁).mono fun v _ h => by
        rw [h, hnull])
    refine hvalue.bind fun r w₂ hr => ?_
    obtain rfl := hr
    exact .pure rfl
  · rw [if_neg hread, if_neg hread]
    exact .pure rfl

namespace Check

/-- What inference makes of a property: it keeps its code, and if its absence can be tested
then null is allowed after it. -/
structure Settled (b : Blueprint H) (op : Absence) (p q : Property H) : Prop where
  sameCode : p.SameCode q
  undeclared : q.Undeclared
  allows : p.flags.ignored = false → (op = .setToNull → p.isWritable = true) →
    b.isReadable p.name = true → (q.finding op).allows none = true

theorem undeclared_setFinding {p : Property H} (hp : p.Undeclared) (op : Absence)
    {f : Finding H} (hdeclared : f.declared = false) (hresponse : f.response ≠ some .error) :
    (p.setFinding op f).Undeclared := by
  obtain ⟨hnotNull, hdeclared', hresponse'⟩ := hp
  refine ⟨?_, fun op' => ?_, fun op' => ?_⟩
  · cases op with
    | omitted => exact hnotNull
    | setToNull => exact hnotNull
  · cases op with
    | omitted =>
      cases op' with
      | omitted => exact hdeclared
      | setToNull => exact hdeclared' .setToNull
    | setToNull =>
      cases op' with
      | omitted => exact hdeclared' .omitted
      | setToNull => exact hdeclared
  · cases op with
    | omitted =>
      cases op' with
      | omitted => exact hresponse
      | setToNull => exact hresponse' .setToNull
    | setToNull =>
      cases op' with
      | omitted => exact hresponse' .omitted
      | setToNull => exact hresponse

/-- The absence of a property is learned if it leaves null in the slot of the property. -/
theorem ends_inferOne (hwf : b.WellFormed) (hst : b.StoresIn S G) {d : Draft H}
    (hd : d.blueprint = b) {op : Absence} {p : Property H}
    (hp : p.Undeclared)
    (hnull : p.flags.ignored = false → (op = .setToNull → p.isWritable = true) →
      (absent op d p.name).Fitting G ∧ (absent op d p.name).content S p.name = none)
    (w : H.World) : Ends (inferOne d op p) w fun q _ => Settled b op p q := by
  unfold inferOne
  by_cases hskip : (p.flags.ignored || (op = .setToNull && !p.isWritable)) = true
  · rw [if_pos hskip]
    refine .pure ⟨rfl, hp, fun hignored hwritable => ?_⟩
    rw [hignored, Bool.false_or, Bool.and_eq_true, decide_eq_true_eq] at hskip
    rw [hwritable hskip.1] at hskip
    cases hskip.2
  · rw [if_neg hskip]
    rw [Bool.not_eq_true, Bool.or_eq_false_iff, Bool.and_eq_false_iff, decide_eq_false_iff_not,
      Bool.not_eq_false'] at hskip
    have htested : op = .setToNull → p.isWritable = true := fun hop =>
      hskip.2.resolve_left fun hne => hne hop
    obtain ⟨hfit', hcontent⟩ := hnull hskip.1 htested
    have hblueprint : (absent op d p.name).blueprint = b := by
      cases op with
      | omitted => exact hd
      | setToNull => exact hd
    have hclassify := Draft.ends_classify (hblueprint ▸ hwf) (hblueprint ▸ hst) hfit' hcontent w
    rw [hblueprint] at hclassify
    refine hclassify.bind fun o w₁ ho => ?_
    obtain rfl := ho
    have hdeclaration : (p.finding op).declaration = none := by
      unfold Finding.declaration
      rw [hp.declared op]
      rfl
    unfold learn Finding.resolve
    rw [hdeclaration]
    refine .pure ⟨p.sameCode_setFinding op _, ?_, fun _ _ hread => ?_⟩
    · refine undeclared_setFinding hp op (hp.declared op) ?_
      by_cases hread : b.isReadable p.name = true
      · simp [hread]
      · simp [hread]
    · rw [if_pos hread]
      cases op with
      | omitted => rfl
      | setToNull => rfl

/-- Properties about whose absence nothing is declared suit their flags. -/
theorem validate_undeclared (hb : b.Undeclared) : validate b = .ok () := by
  have hone : ∀ p : Property H, p.Undeclared → ∀ op, validateOne b p op = .ok () := by
    intro p hp op
    unfold validateOne
    simp [hp.notNull, hp.response op]
  refine Effect.forM_eq_ok_iff.2 fun p hp => ?_
  cases p.flags.ignored with
  | true => rfl
  | false =>
    simp only [hone p (hb p hp)]
    rfl

/-! ## Inference -/

section

variable (hwf : b.WellFormed) {op : Absence} {d : Draft H} (hd : d.blueprint = b)
  (hfit : d.Fitting G)
include hwf hd hfit

omit hwf in
theorem content_omitted {p : Property H} (hp : p ∈ b.creator.properties) :
    (absent .omitted (d.prefer .creator) p.name).Fitting G ∧
      (absent .omitted (d.prefer .creator) p.name).content S p.name = none := by
  have hparameter : (d.prefer .creator).blueprint.isParameter p.name = true := by
    show d.blueprint.isParameter p.name = true
    rw [hd]
    exact Model.contains_iff.2 (List.mem_map_of_mem hp)
  have hfit' : (d.prefer .creator).Fitting G := ⟨hfit.expected, hfit.initial⟩
  exact ⟨hfit'.leaveOut p.name, Draft.content_leaveOut rfl hparameter⟩

theorem content_setToNull {p : Property H} (hp : p ∈ b.bean.properties)
    (hignored : p.flags.ignored = false) (hwritable : p.isWritable = true) :
    (absent .setToNull (d.prefer .setters) p.name).Fitting G ∧
      (absent .setToNull (d.prefer .setters) p.name).content S p.name = none := by
  have hget : b.bean.get? p.name = some p := Model.get?_of_mem hwf.bean hp
  have htestable : b.isTestable p.name = true := by
    unfold Blueprint.isTestable Blueprint.isWritable
    rw [Blueprint.property?_of_bean hget, hget]
    simp [hignored, hwritable]
  have hfit' : (d.prefer .setters).Fitting G := ⟨hfit.expected, hfit.initial⟩
  have hstaged : (absent .setToNull (d.prefer .setters) p.name).expected.get? p.name =
      some none := by
    show ((d.prefer .setters).put p.name none).expected.get? p.name = some none
    rw [Draft.get?_put, if_pos rfl]
  refine ⟨hfit'.put fun _ _ => fits_none, ?_⟩
  exact Draft.content_of_staged (hd ▸ hwf) (hd ▸ htestable) hstaged

end

/-- A blueprint of settled properties has the code of the first one, and tolerates null. -/
theorem tolerates_of_settled (hwf : b.WellFormed) {b' : Blueprint H} (hcode : b.SameCode b')
    (hcreator : List.Forall₂ (Settled b .omitted) b.creator.properties b'.creator.properties)
    (hbean : List.Forall₂ (Settled b .setToNull) b.bean.properties b'.bean.properties) :
    b'.Tolerates := by
  intro n hn hread
  rw [hcode.isTestable] at hn
  rw [hcode.isReadable] at hread
  rcases Model.get?_rel (fun _ _ h => h.sameCode.name) hcreator n with
    ⟨p, q, hp, hq, hpq⟩ | ⟨hp, hq⟩
  · have hname := (Model.mem_of_get? hp).2
    have habsence : ((Draft.ofBlueprint b').absence n false).2 = q.finding .omitted := by
      simp [Draft.absence, Draft.ofBlueprint, hq, Property.finding]
    rw [habsence]
    refine hpq.allows (hwf.ignored_of_testable hn (.inl hp)) (fun h => by cases h) ?_
    rw [hname]
    exact hread
  · have hparameter : b.isParameter n = false := by
      simp [Blueprint.isParameter, Model.contains, hp]
    have hwritable := Blueprint.isWritable_of_testable hn hparameter
    rcases Model.get?_rel (fun _ _ h => h.sameCode.name) hbean n with
      ⟨p', q', hp', hq', hpq⟩ | ⟨hp', -⟩
    · have hname := (Model.mem_of_get? hp').2
      have habsence : ((Draft.ofBlueprint b').absence n false).2 = q'.finding .setToNull := by
        simp [Draft.absence, Draft.ofBlueprint, hq, hq', Property.finding]
      have hset : p'.isWritable = true := by simpa [Blueprint.isWritable, hp'] using hwritable
      rw [habsence]
      refine hpq.allows (hwf.ignored_of_testable hn (.inr hp')) (fun _ => hset) ?_
      rw [hname]
      exact hread
    · simp [Blueprint.isWritable, hp'] at hwritable

/-- Inference succeeds, and what it makes of the blueprint is valid and tolerates null. -/
theorem ends_infer (hwf : b.WellFormed) (hst : b.StoresIn S G) {I : Context H → Prop}
    (hI : Supplied b G I) (hundeclared : b.Undeclared) {c : Context H} (hc : I c) :
    Ends (infer b) c fun b' c' => I c' ∧ b.SameCode b' ∧ b'.Tolerates ∧
      validate b' = .ok () := by
  obtain ⟨_, ⟨d, c₁⟩, hreset, hready⟩ :=
    Stage.ends_reset (s := (.ofBlueprint b, c)) hI (Draft.proper_ofBlueprint b G) hc
  have hd : d.blueprint = b := hready.draft.blueprint
  have hfit : d.Fitting G := hready.draft.fitting
  -- The two passes differ in the preference of the draft, which must not matter to what the
  -- slots hold: both leave null behind, the first by the constructor, the second by a setter.
  have hcreator : ∀ w, Ends (Effect.gather (inferOne (d.prefer .creator) .omitted)
      b.creator.properties) w fun qs _ => True ∧
        List.Forall₂ (Settled b .omitted) b.creator.properties qs := fun w =>
    Ends.gather (I := fun _ => True) (fun p hp w _ =>
      (ends_inferOne hwf hst (d := d.prefer .creator) hd
        (hundeclared p (List.mem_append_left _ hp))
        (fun _ _ => content_omitted hd hfit hp) w).mono fun _ _ h => ⟨trivial, h⟩) trivial
  have hbean : ∀ w, Ends (Effect.gather (inferOne (d.prefer .setters) .setToNull)
      b.bean.properties) w fun qs _ => True ∧
        List.Forall₂ (Settled b .setToNull) b.bean.properties qs := fun w =>
    Ends.gather (I := fun _ => True) (fun p hp w _ =>
      (ends_inferOne hwf hst (d := d.prefer .setters) hd
        (hundeclared p (List.mem_append_right _ hp))
        (fun hignored hwritable =>
          content_setToNull hwf hd hfit hp hignored (hwritable rfl)) w).mono
        fun _ _ h => ⟨trivial, h⟩) trivial
  have hinfer : Ends (inferFrom d) c₁.world fun b' _ => b.SameCode b' ∧ b'.Tolerates ∧
      validate b' = .ok () := by
    unfold inferFrom
    rw [hd]
    refine (hcreator c₁.world).bind fun creator w hcreator => ?_
    refine (hbean w).bind fun bean w' hbean => .pure ?_
    have hcode : b.SameCode { b with creator := ⟨creator⟩, bean := ⟨bean⟩ } :=
      ⟨rfl, rfl, rfl, rfl, hcreator.2.imp fun _ _ h => h.sameCode,
        hbean.2.imp fun _ _ h => h.sameCode⟩
    refine ⟨hcode, tolerates_of_settled hwf hcode hcreator.2 hbean.2, ?_⟩
    refine validate_undeclared fun q hq => ?_
    rcases List.mem_append.1 hq with hq | hq
    · obtain ⟨p, -, hpq⟩ := exists_of_forall₂ hcreator.2 hq
      exact hpq.undeclared
    · obtain ⟨p, -, hpq⟩ := exists_of_forall₂ hbean.2 hq
      exact hpq.undeclared
  have hprobe : Ends (Run.ofProbe (inferFrom d)) c₁ fun b' c' => I c' ∧ b.SameCode b' ∧
      b'.Tolerates ∧ validate b' = .ok () :=
    Ends.zoom (hinfer.mono fun b' w h => ⟨hI.world c₁ w hready.context, h⟩)
  obtain ⟨b', c', hrun, hb'⟩ := hprobe
  refine ⟨b', c', ?_, hb'⟩
  rw [infer_eq_inferFrom]
  rw [hreset]
  exact hrun

end Check
end BeanContract
