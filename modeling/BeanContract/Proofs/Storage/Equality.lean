/-
Equality of beans that store their properties.

Two beans are equal exactly when they hold the same for the properties that count
(`same_iff_of_holds`), and then their hash codes agree.  Beans that are apart in one property
at most are therefore told apart as the checks expect, whichever way a change of the property
is noticed, and no check of equality fails (`ends_equality`).
-/
import BeanContract.Proofs.Storage.Supply
import BeanContract.Check.Equality

namespace BeanContract

open Effect (Ends)

variable {H : Host} {b : Blueprint H} {S : Storage H} {G : Datum H.Object → Prop}

theorem Blueprint.isCompared_eq {n : String} (hn : b.isTestable n = true) :
    b.isCompared n = b.isSignificant n := by
  obtain ⟨p, hp, hignored⟩ := property?_of_testable hn
  unfold isCompared isSignificant
  simp [hp, hignored]

namespace Draft

/-! ## Equality by content -/

section

variable (hwf : b.WellFormed) (hst : b.StoresIn S G) (hG : Lawful H G) {d e : Draft H}
  (hd : d.Proper b G) (he : e.Proper b G) {x y : Value H} (hx : d.Holds S x)
  (hy : e.Holds S y)

include hwf hst in
theorem fits_compared {n : String} (hn : b.isCompared n = true) :
    ∃ t, ∀ e : Draft H, e.Proper b G → Fits G t (e.content S n) := by
  unfold Blueprint.isCompared at hn
  cases hp : b.property? n with
  | none => simp [hp] at hn
  | some p =>
    refine ⟨p.type, fun e he => ?_⟩
    exact he.fits_content hwf hst hp

include hst hd he hx hy

theorem same_iff_of_holds : Value.same x y = true ↔
    ∀ n, b.isCompared n = true → Value.same (d.content S n) (e.content S n) = true := by
  obtain ⟨o, rfl, ho, hslots⟩ := hx
  obtain ⟨o', rfl, ho', hslots'⟩ := hy
  have hobjects : Value.same (some (.object d.blueprint.path o))
      (some (.object e.blueprint.path o')) = H.same o o' := by
    rw [hd.blueprint, he.blueprint]
    simp [Value.same, Datum.same, Datum.type]
  rw [hobjects, hst.same o o' ho ho']
  constructor
  · intro h n hn
    rw [← hslots, ← hslots']
    exact h n hn
  · intro h n hn
    rw [hslots, hslots']
    exact h n hn

include hwf hG

theorem agrees_of_same_content
    (h : ∀ n, b.isCompared n = true → Value.same (d.content S n) (e.content S n) = true) :
    x.hashCode.agrees y.hashCode = true := by
  have hslot : ∀ n, b.isCompared n = true →
      (d.content S n).hashCode.agrees (e.content S n).hashCode = true := by
    intro n hn
    obtain ⟨t, ht⟩ := fits_compared hwf hst hn
    exact hG.agrees_of_same (ht d hd) (ht e he) (h n hn)
  obtain ⟨o, rfl, ho, hslots⟩ := hx
  obtain ⟨o', rfl, ho', hslots'⟩ := hy
  show HashAtom.agreesAll (Datum.digest _) (Datum.digest _) = true
  rw [Datum.digest, Datum.digest]
  refine hst.digest o o' ho ho' fun n hn => ?_
  rw [hslots, hslots']
  exact hslot n hn

end

theorem same_content_self (hwf : b.WellFormed) (hst : b.StoresIn S G) (hG : Lawful H G)
    {d : Draft H} (hd : d.Proper b G) {n : String} (hn : b.isCompared n = true) :
    Value.same (d.content S n) (d.content S n) = true := by
  obtain ⟨t, ht⟩ := fits_compared hwf hst hn
  exact hG.same_refl (ht d hd)

end Draft

namespace Check

variable (hwf : b.WellFormed) (hst : b.StoresIn S G) (hG : Lawful H G)
include hwf hst hG

/-! ## Beans of known content -/

theorem ends_twins (hashes : Bool) {d : Draft H} (hd : d.Proper b G) (w : H.World) :
    Ends (twins hashes d) w fun _ _ => True := by
  have hself : ∀ n, b.isCompared n = true →
      Value.same (d.content S n) (d.content S n) = true := fun n hn =>
    Draft.same_content_self hwf hst hG hd hn
  refine (hd.ends_newBean hwf hst w).bind fun bean w₁ hbean => ?_
  rw [if_pos ((Draft.same_iff_of_holds hst hd hd hbean hbean).2 hself)]
  refine (hd.ends_newBean hwf hst w₁).bind fun fresh w₂ hfresh => ?_
  rw [if_pos ((Draft.same_iff_of_holds hst hd hd hbean hfresh).2 hself)]
  cases hashes with
  | false => exact .pure trivial
  | true =>
    rw [Draft.agrees_of_same_content hwf hst hG hd hd hbean hbean hself,
      Draft.agrees_of_same_content hwf hst hG hd hd hbean hfresh hself]
    exact .pure trivial

/-- Beans that hold the same but for one property compare as expected if the change of that
property is known. -/
theorem ends_compare (hashes : Bool) {d e f : Draft H} (hd : d.Proper b G) (he : e.Proper b G)
    (hf : f.blueprint = b) {n : String} (hn : b.isTestable n = true)
    (hrest : ∀ m ≠ n, d.content S m = e.content S m) {changed : Bool}
    (hchanged : changed = !Value.same (d.content S n) (e.content S n)) {x y : Value H}
    (hx : d.Holds S x) (hy : e.Holds S y) (w : H.World) :
    Ends (compare hashes f n changed x y) w fun _ _ => True := by
  have hcompared := Blueprint.isCompared_eq hn
  unfold compare
  rw [hf]
  by_cases hapart : (changed && b.isSignificant n) = true
  · rw [if_pos hapart]
    rw [Bool.and_eq_true, ← hcompared] at hapart
    have hdiffer : ¬ Value.same x y = true := by
      intro hsame
      have hslot := (Draft.same_iff_of_holds hst hd he hx hy).1 hsame n hapart.2
      rw [hchanged, hslot] at hapart
      cases hapart.1
    rw [if_neg hdiffer]
    exact .pure trivial
  · rw [if_neg hapart]
    have hcontent : ∀ m, b.isCompared m = true →
        Value.same (d.content S m) (e.content S m) = true := by
      intro m hm
      by_cases hmn : m = n
      · subst hmn
        rw [hchanged, ← hcompared, hm, Bool.and_true, Bool.not_eq_true, Bool.not_eq_false']
          at hapart
        exact hapart
      · rw [← hrest m hmn]
        exact Draft.same_content_self hwf hst hG hd hm
    rw [(Draft.same_iff_of_holds hst hd he hx hy).2 hcontent,
      Draft.agrees_of_same_content hwf hst hG hd he hx hy hcontent]
    cases hashes with
    | false => exact .pure trivial
    | true => exact .pure trivial

theorem ends_apart (hashes : Bool) {d : Draft H} (hd : d.Ready b G) {n : String}
    (hn : b.isTestable n = true) {v w : Value H} (hv : b.Accepts G n v) (hw : b.Accepts G n w)
    (world : H.World) :
    Ends (apart hashes (d.put n v) (d.put n w) n) world fun _ _ => True := by
  have hfirst := (hd.put hv).toProper
  have hsecond := (hd.put hw).toProper
  have hrest : ∀ m ≠ n, (d.put n v).content S m = (d.put n w).content S m := by
    intro m hm
    rw [Draft.content_put hm, Draft.content_put hm]
  refine (hfirst.ends_newBean hwf hst world).bind fun x w₁ hx => ?_
  refine (hsecond.ends_newBean hwf hst w₁).bind fun y w₂ hy => ?_
  rw [hfirst.blueprint]
  by_cases hread : b.isReadable n = true
  · rw [if_pos hread]
    refine (hfirst.ends_read hwf hst hx hread w₂).bind fun u w₃ hu => ?_
    refine (hsecond.ends_read hwf hst hy hread w₃).bind fun u' w₄ hu' => ?_
    refine ends_compare hwf hst hG hashes hfirst hsecond hfirst.blueprint hn hrest ?_ hx hy w₄
    rw [hu, hu']
  · rw [if_neg hread]
    refine ends_compare hwf hst hG hashes hfirst hsecond hfirst.blueprint hn hrest ?_ hx hy w₂
    have hput : ∀ u, (d.put n u).expected.get? n = some u := fun u => by
      rw [Draft.get?_put, if_pos rfl]
    have hfirst' := hfirst.content_of_staged (S := S) hwf hn (hput v)
    have hsecond' := hsecond.content_of_staged (S := S) hwf hn (hput w)
    rw [hput, hput, hfirst', hsecond']
    rfl

theorem ends_candidatePairs (hashes : Bool) {d : Draft H} (hd : d.Ready b G) {n : String}
    (hn : b.isTestable n = true) {values : List (Value H)}
    (hvalues : ∀ v ∈ values, b.Accepts G n v) (w : H.World) :
    Ends (candidatePairs hashes d n values) w fun _ _ => True := by
  have hmem : ∀ e ∈ values.zipIdx, b.Accepts G n e.1 := fun e he =>
    hvalues e.1 (List.fst_mem_of_mem_zipIdx he)
  refine Ends.tally (I := fun _ => True) (fun e he w _ => ?_) trivial
  refine Ends.tally (I := fun _ => True) (fun e' he' w _ => ?_) trivial
  dsimp only
  by_cases hsame : e.2 = e'.2
  · rw [if_pos hsame]
    exact .pure trivial
  · rw [if_neg hsame]
    refine (ends_apart hwf hst hG hashes hd hn (hmem e he) (hmem e' he') w).bind fun _ _ _ => ?_
    exact .pure trivial

/-! ## Staging -/

variable {I : Context H → Prop} (hI : Supplied b G I)
include hI

/-- The candidates of a property are all told apart as expected. -/
theorem ends_property (hashes : Bool) {n : String} (hn : n ∈ b.testable)
    {s : Draft H × Context H} (hs : Stage.Ready b G I s) :
    Ends (property hashes n) s fun _ => Stage.Ready b G I := by
  obtain ⟨d, c⟩ := s
  have htestable := Blueprint.isTestable_of_mem hn
  have hstaged := Blueprint.mem_staged hn
  have hd : d.Ready b G := hs.draft
  refine Stage.ends_draft ?_
  have hcandidates : Ends (Stage.ofRun (d.candidates n (d.blueprint.isNullable n))) (d, c)
      fun values t => Stage.Ready b G I t ∧ ∀ v ∈ values, b.Accepts G n v :=
    Stage.ends_ofRun ((Draft.ends_candidates hI hd.blueprint hstaged _ hs.context).mono
      fun values c' h => ⟨⟨hd, h.1⟩, h.2⟩)
  refine hcandidates.bind fun values t ht => ?_
  have htwins : ∀ v ∈ values, ∀ s, Stage.Ready b G I s → Ends (do
      Stage.change (·.put n v)
      Stage.probe (twins hashes)
      pure 1 : Stage H Nat) s fun _ => Stage.Ready b G I := by
    intro v hv s hs
    have hput := hs.draft.put (ht.2 v hv)
    have hprobe := ends_twins hwf hst hG hashes hput.toProper s.2.world
    refine Stage.ends_change ?_
    refine (Stage.ends_probe (s := (s.1.put n v, s.2)) hI hs.context hprobe).bind ?_
    refine fun _ u hu => .pure ⟨?_, hu.2.1⟩
    rw [hu.1]
    exact hput
  refine (Ends.tally htwins ht.1).bind fun k u hu => ?_
  have hpairs := ends_candidatePairs hwf hst hG hashes hu.draft htestable ht.2 u.2.world
  refine (Stage.ends_probe hI hu.context hpairs).bind fun m u' hu' => ?_
  -- The value that is staged again fits, as it did before.
  obtain ⟨v, hv⟩ := hd.staged n hstaged
  have haccepts : b.Accepts G n v := hd.blueprint ▸ hd.fitting.expected n v hv
  have hrestore : u'.1.restore n (d.expected.get? n) = u.1.put n v := by
    rw [hv, hu'.1]
    rfl
  refine Stage.ends_change (.pure ⟨?_, hu'.2.1⟩)
  show (u'.1.restore n (d.expected.get? n)).Ready b G
  rw [hrestore]
  exact hu.draft.put haccepts

omit hwf hst hG in
theorem ends_randomValue {n : String} (hn : n ∈ b.staged) {s : Draft H × Context H}
    (hd : s.1.blueprint = b) (hc : I s.2) :
    Ends (randomValue n) s fun v t => t.1 = s.1 ∧ I t.2 ∧ b.Accepts G n v := by
  obtain ⟨d, c⟩ := s
  refine Stage.ends_draft ?_
  refine Stage.ends_context ?_
  refine (Stage.ends_chanceIf hI _ _ hc).branch fun null t ht => ?_
  have hdraw := Stage.ends_drawUnless hI null hd hn ht.2
  rw [ht.1] at hdraw
  exact hdraw

omit hG hI in
theorem ends_readActual {d : Draft H} (hd : d.Proper b G) {n : String}
    (hn : b.isReadable n = true) (w : H.World) :
    Ends (d.readActual n) w fun r _ => r = some (d.content S n) := by
  unfold Draft.readActual
  rw [hd.blueprint, if_pos hn]
  refine (hd.ends_newBean hwf hst w).bind fun bean w₁ hbean => ?_
  refine (hd.ends_read hwf hst hbean hn w₁).bind fun v w₂ hv => .pure ?_
  rw [hv]

omit hG in
/-- Staging a value tells whether it changed what the property holds. -/
theorem ends_setProperty {n : String} (hn : n ∈ b.testable) {v : Value H}
    (hv : b.Accepts G n v) {s : Draft H × Context H} (hs : Stage.Ready b G I s) :
    Ends (Stage.setProperty n v) s fun changed t => t.1 = s.1.put n v ∧ I t.2 ∧
      changed = !Value.same (s.1.content S n) (t.1.content S n) := by
  obtain ⟨d, c⟩ := s
  have hd : d.Ready b G := hs.draft
  have hput : (d.put n v).Ready b G := hd.put hv
  refine Stage.ends_draft ?_
  rw [hd.blueprint]
  by_cases hread : b.isReadable n = true
  · rw [if_pos hread]
    have hbefore := ends_readActual hwf hst hd.toProper hread c.world
    refine (Stage.ends_probe hI hs.context hbefore).bind fun before t ht => ?_
    refine Stage.ends_change ?_
    rw [ht.1]
    have hafter := ends_readActual hwf hst hput.toProper hread t.2.world
    refine (Stage.ends_probe (s := (d.put n v, t.2)) hI ht.2.1 hafter).bind ?_
    refine fun after u hu => .pure ⟨hu.1, hu.2.1, ?_⟩
    rw [ht.2.2, hu.2.2, hu.1]
    rfl
  · rw [if_neg hread]
    refine Stage.ends_change (.pure ⟨rfl, hs.context, ?_⟩)
    -- Without a getter the staged values are compared, and they are what the slots hold.
    have htestable := Blueprint.isTestable_of_mem hn
    obtain ⟨w, hw⟩ := hd.staged n (Blueprint.mem_staged hn)
    have hv' : (d.put n v).expected.get? n = some v := by
      rw [Draft.get?_put, if_pos rfl]
    have hbefore : d.content S n = w := hd.content_of_staged hwf htestable hw
    have hafter : (d.put n v).content S n = v := hput.content_of_staged hwf htestable hv'
    rw [hw, hbefore, hafter]
    rfl

/-- Random values are staged for one property only, and whether they changed it is known. -/
theorem ends_changeWithin {n : String} (hn : n ∈ b.testable) (attempts : Nat)
    {s : Draft H × Context H} (hs : Stage.Ready b G I s) :
    Ends (changeWithin n attempts) s fun changed t => Stage.Ready b G I t ∧
      (∀ m ≠ n, s.1.content S m = t.1.content S m) ∧
      changed = !Value.same (s.1.content S n) (t.1.content S n) := by
  obtain ⟨p, hp, -⟩ := Blueprint.property?_of_testable (Blueprint.isTestable_of_mem hn)
  have hfits : ∀ {d : Draft H}, d.Ready b G → Fits G p.type (d.content S n) := fun hd =>
    hd.toProper.fits_content hwf hst hp
  induction attempts generalizing s with
  | zero =>
    refine .pure ⟨hs, fun _ _ => rfl, ?_⟩
    rw [hG.same_refl (hfits hs.draft)]
    rfl
  | succ attempts ih =>
    have hstaged := Blueprint.mem_staged hn
    refine (ends_randomValue hI hstaged hs.draft.blueprint hs.context).bind fun v t ht => ?_
    have hready : Stage.Ready b G I t := ⟨ht.1 ▸ hs.draft, ht.2.1⟩
    refine (ends_setProperty hwf hst hI hn ht.2.2 hready).bind fun changed u hu => ?_
    have hput : Stage.Ready b G I u := by
      refine ⟨?_, hu.2.1⟩
      rw [hu.1]
      exact hready.draft.put ht.2.2
    have hrest : ∀ m ≠ n, s.1.content S m = u.1.content S m := by
      intro m hm
      rw [hu.1, Draft.content_put hm, ht.1]
    have hflag := hu.2.2
    rw [ht.1] at hflag
    cases changed with
    | true => exact .pure ⟨hput, hrest, hflag⟩
    | false =>
      refine (ih hput).mono fun changed' u' hu' => ⟨hu'.1, fun m hm => ?_, ?_⟩
      · rw [hrest m hm, hu'.2.1 m hm]
      -- Nothing changed so far, so the value at the start may stand for the one here.
      · have hstart := hfits hs.draft
        have hmiddle := hfits hput.draft
        have hend := hfits hu'.1.draft
        have hsame : Value.same (s.1.content S n) (u.1.content S n) = true := by
          rw [eq_comm, Bool.not_eq_false'] at hflag
          exact hflag
        have hback := hG.same_symm hstart hmiddle hsame
        rw [hu'.2.2]
        congr 1
        rw [Bool.eq_iff_iff]
        exact ⟨hG.same_trans hstart hmiddle hend hsame,
          hG.same_trans hmiddle hstart hend hback⟩

/-- A trial compares the bean of the draft before it with that of the draft after it. -/
theorem ends_equalityTrial (hashes : Bool) {names : List String} (hnonempty : names ≠ [])
    (hnames : ∀ n ∈ names, n ∈ b.testable) {s : Draft H × Context H}
    (hs : Stage.Ready b G I s) {previous : Value H} (hprevious : s.1.Holds S previous) :
    Ends (equalityTrial hashes names previous) s fun current t =>
      Stage.Ready b G I t ∧ t.1.Holds S current := by
  refine (Stage.ends_pick hI hnonempty hs.context).bind fun i t ht => ?_
  have hn := hnames _ ht.2.2
  have hready : Stage.Ready b G I t := ⟨ht.1 ▸ hs.draft, ht.2.1⟩
  refine (ends_changeWithin hwf hst hG hI hn maxChanges hready).bind fun changed u hu => ?_
  rw [ht.1] at hu
  have hbean := hu.1.draft.ends_newBean hwf hst u.2.world
  refine (Stage.ends_probe hI hu.1.context hbean).bind fun current u₁ hu₁ => ?_
  have hproper : u₁.1.Proper b G := hu₁.1 ▸ hu.1.draft.toProper
  have hcompare := ends_compare hwf hst hG hashes hs.draft.toProper hu.1.draft.toProper
    hproper.blueprint (Blueprint.isTestable_of_mem hn) hu.2.1 hu.2.2 hprevious hu₁.2.2
    u₁.2.world
  refine (Stage.ends_probe hI hu₁.2.1 hcompare).bind fun _ u₂ hu₂ => .pure ?_
  have hsame : u₂.1 = u.1 := hu₂.1.trans hu₁.1
  exact ⟨⟨hsame ▸ hu.1.draft, hu₂.2.1⟩, hsame ▸ hu₁.2.2⟩

theorem ends_equalityTrials (hashes : Bool) {names : List String} (hnonempty : names ≠ [])
    (hnames : ∀ n ∈ names, n ∈ b.testable) (trials : Nat) {s : Draft H × Context H}
    (hs : Stage.Ready b G I s) {previous : Value H} (hprevious : s.1.Holds S previous) :
    Ends (equalityTrials hashes names trials previous) s fun _ => Stage.Ready b G I := by
  induction trials generalizing s previous with
  | zero => exact .pure hs
  | succ trials ih =>
    have htrial := ends_equalityTrial hwf hst hG hI hashes hnonempty hnames hs hprevious
    exact htrial.bind fun current t ht => (ih ht.1 ht.2).bind fun _ _ h => .pure h

/-- No check of equality and hash codes fails. -/
theorem ends_equality {s : Draft H × Context H} (hs : Stage.Ready b G I s) :
    Ends equality s fun _ => Stage.Ready b G I := by
  refine Stage.ends_context ?_
  refine (Stage.ends_reset hI hs.draft.toProper hs.context).bind fun _ t ht => ?_
  refine Stage.ends_draft ?_
  dsimp only
  have hnames : ∀ n ∈ t.1.blueprint.testable, n ∈ b.testable := by
    rw [ht.draft.blueprint]
    exact fun _ hn => hn
  have htally : Ends (Effect.tally (property s.2.settings.testHashCode) t.1.blueprint.testable)
      t fun _ => Stage.Ready b G I :=
    Ends.tally (fun n hn s hs => ends_property hwf hst hG hI _ (hnames n hn) hs) ht
  refine htally.bind fun k t' ht' => ?_
  split
  · exact .pure ht'
  · rename_i hempty
    have hnonempty : t.1.blueprint.testable ≠ [] := by
      simpa using hempty
    have hbean := ht'.draft.ends_newBean hwf hst t'.2.world
    refine (Stage.ends_probe hI ht'.context hbean).bind fun previous t₁ ht₁ => ?_
    have hready : Stage.Ready b G I t₁ := ⟨ht₁.1 ▸ ht'.draft, ht₁.2.1⟩
    have hprevious : t₁.1.Holds S previous := ht₁.1 ▸ ht₁.2.2
    refine (ends_equalityTrials hwf hst hG hI _ hnonempty hnames _ hready hprevious).bind ?_
    intro _ _ h
    exact .pure h

end Check
end BeanContract
