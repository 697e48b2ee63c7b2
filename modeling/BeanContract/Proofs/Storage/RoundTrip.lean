/-
Round trips of beans that store their properties.

A bean holds what is staged for a tested property, so its getter gives back the same value;
where that is null, what is known of the property has to allow null (`Tolerates`).  With
that, no check of texts and round trips fails, whatever is drawn (`ends_roundTrips`).
-/
import BeanContract.Proofs.Storage.Supply
import BeanContract.Check.RoundTrip

namespace BeanContract

open Effect (Ends)

variable {H : Host} {b : Blueprint H} {S : Storage H} {G : Datum H.Object → Prop}

/-- A tested property that reads null after null was staged is as its absence allows. -/
def Blueprint.Tolerates (b : Blueprint H) : Prop :=
  ∀ n, b.isTestable n = true → b.isReadable n = true →
    ((Draft.ofBlueprint b).absence n false).2.allows none = true

namespace Draft

section

variable (hwf : b.WellFormed) (hst : b.StoresIn S G) (hG : Lawful H G) (htol : b.Tolerates)
  {d : Draft H} (hd : d.Ready b G)
include hwf hst hG htol hd

theorem ends_verify {n : String} (hn : n ∈ b.testable) (w : H.World) :
    Ends (d.verify n) w fun _ _ => True := by
  obtain ⟨⟨rfl, hpref, hfit, -⟩, hstaged⟩ := hd
  have htestable := Blueprint.isTestable_of_mem hn
  obtain ⟨v, hv⟩ := hstaged n (Blueprint.mem_staged hn)
  unfold verify
  by_cases hread : d.blueprint.isReadable n = true
  · rw [if_pos hread, hv]
    refine (ends_newBean hwf hst hfit w).bind fun bean w₁ hbean => ?_
    refine (ends_read hwf hst hfit hbean hread w₁).bind fun actual w₂ h => ?_
    obtain rfl := h
    rw [content_of_staged hwf htestable hv]
    cases v with
    | none =>
      have habsence : d.absence n false = (ofBlueprint d.blueprint).absence n false := by
        unfold absence
        rw [hpref]
        rfl
      have hallows := htol n htestable hread
      rw [← habsence] at hallows
      exact ⟨(), w₂, checkAbsent_eq_ok.2 ⟨rfl, hallows⟩, trivial⟩
    | some x =>
      obtain ⟨p, hp, -⟩ := Blueprint.property?_of_testable htestable
      dsimp only
      rw [if_pos (hG.same_refl (hfit.expected n (some x) hv p hp))]
      exact .pure trivial
  · rw [if_neg hread]
    exact .pure trivial

theorem ends_verifyAll (w : H.World) : Ends d.verifyAll w fun _ _ => True := by
  refine Ends.each (I := fun _ => True) (fun n hn w _ => ?_) trivial
  rw [hd.blueprint] at hn
  exact ends_verify hwf hst hG htol hd hn w

end

theorem ends_texts (hwf : b.WellFormed) (hst : b.StoresIn S G) {d : Draft H}
    (hd : d.Ready b G) (w : H.World) : Ends (Check.texts d) w fun _ _ => True := by
  obtain ⟨⟨rfl, -, hfit, -⟩, -⟩ := hd
  refine (ends_newBean hwf hst hfit w).bind fun _ w₁ h => ?_
  obtain ⟨o, rfl, ho, -⟩ := h
  obtain ⟨text, htext, hnonempty⟩ := hst.text o ho
  have hshow : Value.show? (some (Datum.object d.blueprint.path o)) = .ok text := by
    show Datum.show? _ = _
    rw [Datum.show?, htext]
  have hbean : Ends (Probe.attempt (Check.beanText (some (.object d.blueprint.path o)))) w₁
      fun r _ => r = .ok text := by
    refine Ends.reify (ends_guarded ?_)
    exact Ends.ofExcept hshow rfl
  refine hbean.bind fun _ w₂ h => ?_
  obtain rfl := h
  dsimp only
  rw [hnonempty]
  cases hrender : d.blueprint.builderText with
  | none => exact .pure trivial
  | some render =>
    have hbuilder : Ends (Probe.attempt (guarded (render d.args))) w₂
        fun r _ => ∃ text, r = .ok text ∧ text.isEmpty = false := by
      refine Ends.reify (ends_guarded ?_)
      exact (hst.builderText render hrender d.args w₂ (takes_args hwf hfit)).mono
        fun text _ h => ⟨text, rfl, h⟩
    refine hbuilder.bind fun _ w₃ h => ?_
    obtain ⟨text', rfl, hnonempty'⟩ := h
    dsimp only
    rw [hnonempty']
    exact .pure trivial

end Draft

namespace Check

open Stage (Ready)

variable {I : Context H → Prop} (hI : Supplied b G I)
include hI

theorem ends_candidatesOf {d : Draft H} (hd : d.blueprint = b) {names : List String}
    (hnames : ∀ n ∈ names, n ∈ b.testable) {c : Context H} (hc : I c) :
    Ends (candidatesOf d names) c fun table c' => I c' ∧
      ∀ e ∈ table, e.1 ∈ b.testable ∧ ∀ v ∈ e.2, b.Accepts G e.1 v := by
  induction names generalizing c with
  | nil => exact .pure ⟨hc, by simp⟩
  | cons n names ih =>
    have hn := hnames n List.mem_cons_self
    have hstaged := Blueprint.mem_staged hn
    refine (Draft.ends_candidates hI hd hstaged (triesNull d n) hc).bind fun values c₁ hv => ?_
    have hrest := ih (fun m hm => hnames m (List.mem_cons_of_mem n hm)) hv.1
    refine hrest.bind fun table c₂ htable => .pure ⟨htable.1, fun e he => ?_⟩
    rcases List.mem_cons.1 he with rfl | he
    · exact ⟨hn, hv.2⟩
    · exact htable.2 e he

variable (hwf : b.WellFormed) (hst : b.StoresIn S G) (hG : Lawful H G) (htol : b.Tolerates)
include hwf hst hG htol

/-- Any property of a ready draft verifies, and the draft stays ready. -/
theorem ends_probeVerify {n : String} (hn : n ∈ b.testable) {s : Draft H × Context H}
    (hs : Ready b G I s) :
    Ends (Stage.probe (·.verify n)) s fun _ => Ready b G I := by
  have hverify := Draft.ends_verify hwf hst hG htol hs.draft hn s.2.world
  refine (Stage.ends_probe hI hs.context hverify).mono fun _ t ht => ⟨?_, ht.2.1⟩
  rw [ht.1]
  exact hs.draft

theorem ends_single {n : String} (hn : n ∈ b.testable) {v : Value H} (hv : b.Accepts G n v)
    {s : Draft H × Context H} (hs : Ready b G I s) :
    Ends (single n v) s fun _ => Ready b G I := by
  refine (Stage.ends_reset hI hs.draft.toProper hs.context).bind fun _ t ht => ?_
  have hput : Ready b G I (t.1.put n v, t.2) := ⟨ht.draft.put hv, ht.context⟩
  refine Stage.ends_change ?_
  refine (ends_probeVerify hI hwf hst hG htol hn hput).bind fun _ _ h => ?_
  exact .pure h

theorem ends_pair {m n : String} (hm : m ∈ b.testable) (hn : n ∈ b.testable) {v w : Value H}
    (hv : b.Accepts G m v) (hw : b.Accepts G n w) {s : Draft H × Context H}
    (hs : Ready b G I s) : Ends (pair m n v w) s fun _ => Ready b G I := by
  refine (Stage.ends_reset hI hs.draft.toProper hs.context).bind fun _ t ht => ?_
  have hput : Ready b G I ((t.1.put m v).put n w, t.2) :=
    ⟨(ht.draft.put hv).put hw, ht.context⟩
  refine Stage.ends_change ?_
  refine (ends_probeVerify hI hwf hst hG htol hm hput).bind fun _ u hu => ?_
  refine (ends_probeVerify hI hwf hst hG htol hn hu).bind fun _ _ h => ?_
  exact .pure h

theorem ends_pairs {table : List (String × List (Value H))}
    (htable : ∀ e ∈ table, e.1 ∈ b.testable ∧ ∀ v ∈ e.2, b.Accepts G e.1 v)
    {s : Draft H × Context H} (hs : Ready b G I s) :
    Ends (pairs table) s fun _ => Ready b G I := by
  refine Ends.tally (fun e he s hs => ?_) hs
  refine Ends.tally (fun e' he' s hs => ?_) hs
  have hfirst := htable e he
  have hsecond := htable e' he'
  dsimp only
  by_cases hsame : e.1 = e'.1
  · rw [if_pos hsame]
    exact .pure hs
  · rw [if_neg hsame]
    refine Ends.tally (fun v hv s hs => ?_) hs
    refine Ends.tally (fun w hw s hs => ?_) hs
    exact ends_pair hI hwf hst hG htol hfirst.1 hsecond.1 (hfirst.2 v hv) (hsecond.2 w hw) hs

theorem ends_combinations {s : Draft H × Context H} (hs : Ready b G I s) :
    Ends combinations s fun _ => Ready b G I := by
  obtain ⟨d, c⟩ := s
  have hblueprint : d.blueprint = b := hs.draft.blueprint
  have hnames : ∀ n ∈ d.blueprint.testable, n ∈ b.testable := by
    rw [hblueprint]
    exact fun _ hn => hn
  refine Stage.ends_draft ?_
  have htable : Ends (Stage.ofRun (candidatesOf d d.blueprint.testable)) (d, c)
      fun table t => Ready b G I t ∧
        ∀ e ∈ table, e.1 ∈ b.testable ∧ ∀ v ∈ e.2, b.Accepts G e.1 v :=
    Stage.ends_ofRun ((ends_candidatesOf hI hblueprint hnames hs.context).mono
      fun table c' h => ⟨⟨hs.draft, h.1⟩, h.2⟩)
  refine htable.bind fun table t ht => ?_
  split
  · rename_i name values
    have hone := ht.2 (name, values) List.mem_cons_self
    exact Ends.tally (fun v hv s hs =>
      ends_single hI hwf hst hG htol hone.1 (hone.2 v hv) hs) ht.1
  · refine (ends_pairs hI hwf hst hG htol ht.2 ht.1).bind fun k u hu => ?_
    refine (Stage.ends_reset hI hu.draft.toProper hu.context).bind fun _ _ h => ?_
    exact .pure h

omit hwf hst hG htol in
theorem ends_change {names : List String} (hnonempty : names ≠ [])
    (hnames : ∀ n ∈ names, n ∈ b.testable) {s : Draft H × Context H} (hs : Ready b G I s) :
    Ends (change names) s fun _ => Ready b G I := by
  obtain ⟨d, c⟩ := s
  refine Stage.ends_draft ?_
  refine Stage.ends_context ?_
  refine (Stage.ends_pick hI hnonempty hs.context).bind fun i t ht => ?_
  have hn := Blueprint.mem_staged (hnames _ ht.2.2)
  refine (Stage.ends_chanceIf hI _ _ ht.2.1).branch fun null u hu => ?_
  refine (Stage.ends_drawUnless hI null hs.draft.blueprint hn hu.2).branch fun v u' hu' => ?_
  refine Ends.modify ⟨?_, hu'.2.1⟩
  rw [hu'.1, hu.1, ht.1]
  exact hs.draft.put hu'.2.2

theorem ends_trial {names : List String} (hnonempty : names ≠ [])
    (hnames : ∀ n ∈ names, n ∈ b.testable) {s : Draft H × Context H} (hs : Ready b G I s) :
    Ends (trial names) s fun _ => Ready b G I := by
  have hchange := fun s hs => ends_change (s := s) hI hnonempty hnames hs
  refine (Ends.times hchange _ hs).bind fun _ t ht => ?_
  have hverify := Draft.ends_verifyAll hwf hst hG htol ht.draft t.2.world
  refine (Stage.ends_probe hI ht.context hverify).mono fun _ u hu => ⟨?_, hu.2.1⟩
  rw [hu.1]
  exact ht.draft

theorem ends_trials {s : Draft H × Context H} (hs : Ready b G I s) :
    Ends trials s fun _ => Ready b G I := by
  obtain ⟨d, c⟩ := s
  have hnames : ∀ n ∈ d.blueprint.testable, n ∈ b.testable := by
    rw [hs.draft.blueprint]
    exact fun _ hn => hn
  refine Stage.ends_draft ?_
  dsimp only
  split
  · exact .pure hs
  · rename_i hnonempty
    have hnonempty' : d.blueprint.testable ≠ [] := by
      simpa using hnonempty
    refine Stage.ends_context ?_
    refine (Stage.ends_reset hI hs.draft.toProper hs.context).bind fun _ t ht => ?_
    have htrial := fun s hs => ends_trial (s := s) hI hwf hst hG htol hnonempty' hnames hs
    refine (Ends.times htrial _ ht).bind fun _ u hu => ?_
    refine (Stage.ends_reset hI hu.draft.toProper hu.context).bind fun _ _ h => ?_
    exact .pure h

/-- No check of texts and round trips fails. -/
theorem ends_roundTrips {s : Draft H × Context H} (hd : s.1.Proper b G) (hc : I s.2) :
    Ends roundTrips s fun _ => Ready b G I := by
  refine (Stage.ends_reset hI hd hc).bind fun _ t ht => ?_
  have htexts := Draft.ends_texts hwf hst ht.draft t.2.world
  have hprobe : Ends (Stage.probe texts) t fun _ => Ready b G I :=
    (Stage.ends_probe hI ht.context htexts).mono fun _ u hu =>
      ⟨hu.1.symm ▸ ht.draft, hu.2.1⟩
  refine hprobe.bind fun _ u hu => ?_
  refine (ends_combinations hI hwf hst hG htol hu).bind fun n v hv => ?_
  refine (ends_trials hI hwf hst hG htol hv).bind fun m _ h => ?_
  exact .pure h

end Check
end BeanContract
