/-
What inference records about absent properties.

Inference and verification look at the same beans: a draft of the inferred blueprint with a
property set to null builds what inference saw when it left the property out, or set it to
null.  Verification therefore accepts what inference recorded, with two exceptions that
`verify_ok_iff_of_infer` names exactly: a property recorded as not readable because its
getter failed, and a substitute that does not equal itself.
-/
import BeanContract.Proofs.Bean.Description
import BeanContract.Proofs.Draft.Candidates
import BeanContract.Proofs.Check.Observation

namespace BeanContract

variable {H : Host}

/-! ## Observations -/

namespace Draft

/-- What the bean of a draft shows of a property. -/
inductive Observes (d : Draft H) (n : String) : Observation H → Prop where
  | fails (e : AccessError) : (∀ w, d.tryNewBean w = .error e w) →
      Observes d n ⟨.error, some (.error e)⟩
  | hidden (bean : Value H) : d.Builds bean → d.blueprint.isReadable n = false →
      Observes d n ⟨.notReadable, none⟩
  | refused (bean : Value H) (e : AccessError) : d.Builds bean →
      d.blueprint.isReadable n = true → (∀ w, d.tryRead bean n w = .error e w) →
      Observes d n ⟨.notReadable, some (.error e)⟩
  | null (bean : Value H) : d.Builds bean → d.blueprint.isReadable n = true →
      d.Reads bean n none → Observes d n ⟨.null, none⟩
  | value (bean : Value H) (x : Datum H.Object) : d.Builds bean →
      d.blueprint.isReadable n = true → d.Reads bean n (some x) →
      Observes d n ⟨.value, some (.value (some x))⟩

theorem observes_of_classify {d : Draft H} (hd : d.blueprint.Stateless) {n : String}
    {o : Observation H} {w w' : H.World} (h : d.classify n w = .ok o w') : d.Observes n o := by
  obtain ⟨r, w₁, hr, h⟩ := Effect.bind_eq_ok.1 h
  rcases (tryNewBean_stateless hd).of_reify hr with ⟨bean, rfl, hbean⟩ | ⟨e, rfl, he⟩
  · by_cases hn : d.blueprint.isReadable n = true
    · simp only [hn, if_true] at h
      obtain ⟨r', w₂, hr', h⟩ := Effect.bind_eq_ok.1 h
      rcases (hd.read bean n).of_reify hr' with ⟨v, rfl, hv⟩ | ⟨e, rfl, he⟩
      · cases v with
        | none =>
          obtain ⟨rfl, -⟩ := Effect.pure_eq_ok.1 h
          exact .null bean hbean hn hv
        | some x =>
          obtain ⟨rfl, -⟩ := Effect.pure_eq_ok.1 h
          exact .value bean x hbean hn hv
      · obtain ⟨rfl, -⟩ := Effect.pure_eq_ok.1 h
        exact .refused bean e hbean hn he
    · simp only [hn] at h
      obtain ⟨rfl, -⟩ := Effect.pure_eq_ok.1 h
      exact .hidden bean hbean (by simpa using hn)
  · obtain ⟨rfl, -⟩ := Effect.pure_eq_ok.1 h
    exact .fails e he

/-- A draft that builds the same bean shows the same of it. -/
theorem Observes.congr {d e : Draft H} {n : String} {o : Observation H} (h : d.Observes n o)
    (hnew : e.tryNewBean = d.tryNewBean)
    (hread : ∀ bean, e.tryRead bean n = d.tryRead bean n)
    (hreadable : e.blueprint.isReadable n = d.blueprint.isReadable n) : e.Observes n o := by
  have hbuilds : ∀ bean, d.Builds bean → e.Builds bean := fun bean hbean w => by
    rw [hnew, hbean w]
  have hreads : ∀ bean v, d.Reads bean n v → e.Reads bean n v := fun bean v hv w => by
    rw [hread, hv w]
  cases h with
  | fails e he => exact .fails e fun w => by rw [hnew, he w]
  | hidden bean hbean hn => exact .hidden bean (hbuilds bean hbean) (hreadable.trans hn)
  | refused bean e hbean hn he =>
    exact .refused bean e (hbuilds bean hbean) (hreadable.trans hn) fun w => by rw [hread, he w]
  | null bean hbean hn hv =>
    exact .null bean (hbuilds bean hbean) (hreadable.trans hn) (hreads bean none hv)
  | value bean x hbean hn hv =>
    exact .value bean x (hbuilds bean hbean) (hreadable.trans hn) (hreads bean _ hv)

end Draft

/-- What is known after an observation accepts it, and keeps a substitute. -/
theorem Finding.resolve_eq_some {f g : Finding H} {o : Observation H}
    (h : f.resolve o = some g) :
    ∃ r, g.response = some r ∧ r.accepts o.response = true ∧
      (r = .value → g.evidence = o.evidence) := by
  unfold resolve at h
  split at h
  · cases h
    exact ⟨o.response, rfl, by simp [Response.accepts], fun _ => rfl⟩
  · rename_i declared _
    split at h
    · rename_i haccepts
      cases h
      exact ⟨declared, rfl, haccepts, fun hvalue => by simp [hvalue]⟩
    · cases h

namespace Draft

theorem verify_of_reads {d : Draft H} {n : String} {bean v : Value H}
    (hn : d.blueprint.isReadable n = true) (hstaged : d.expected.get? n = some none)
    (hbean : d.Builds bean) (hv : d.Reads bean n v) (w : H.World) :
    d.verify n w = d.checkAbsent n false v w := by
  have hverify : d.verify n w = (do
      let bean ← d.newBean
      let actual ← d.read bean n
      d.checkAbsent n false actual : Probe H Unit) w := by
    unfold verify
    rw [if_pos hn, hstaged]
  rw [hverify]
  show EStateM.bind _ _ _ = _
  rw [EStateM.bind, newBean_of_builds hbean]
  show EStateM.bind _ _ _ = _
  rw [EStateM.bind, read_of_reads hv]

/-- Verification accepts an absent property whose absence was observed, unless it has a
getter that cannot be read, or a substitute that does not equal itself. -/
theorem verify_ok_iff_of_observes {d : Draft H} {n : String} {o : Observation H}
    {f : Finding H} {r : Response} (hstaged : d.expected.get? n = some none)
    (ho : d.Observes n o) (hf : f.resolve o = some (d.absence n false).2)
    (hr : d.nullResponse n = some r) (hne : r ≠ .error) (w : H.World) :
    (∃ w', d.verify n w = .ok () w') ↔
      ¬ (d.blueprint.isReadable n = true ∧ r = .notReadable) ∧
        (r = .value → ∀ v, (d.absence n false).2.evidence = some (.value v) →
          Value.same v v = true) := by
  obtain ⟨r', hr', haccepts, hevidence⟩ := Finding.resolve_eq_some hf
  obtain rfl : r = r' := by
    have := hr.symm.trans hr'
    simpa using this
  generalize hg : (d.absence n false).2 = g at *
  cases ho with
  | fails e he =>
    cases r <;> simp [Response.accepts] at haccepts hne
  | hidden bean hbean hn =>
    have hverify : d.verify n w = .ok () w := by
      unfold verify
      rw [hn]
      rfl
    refine ⟨fun _ => ⟨by simp [hn], fun hvalue => ?_⟩, fun _ => ⟨w, hverify⟩⟩
    subst hvalue
    simp [Response.accepts] at haccepts
  | refused bean e hbean hn he =>
    have hunreadable : r = .notReadable := by
      cases r <;> simp [Response.accepts] at haccepts ⊢
    refine ⟨fun ⟨w', hw⟩ => ?_, fun h => absurd ⟨hn, hunreadable⟩ h.1⟩
    unfold verify at hw
    rw [if_pos hn] at hw
    obtain ⟨bean', w₁, hbean', hw⟩ := Effect.bind_eq_ok.1 hw
    rw [newBean_of_builds hbean] at hbean'
    cases hbean'
    obtain ⟨v, w₂, hv, -⟩ := Effect.bind_eq_ok.1 hw
    exact absurd hv (read_fails he _ _ _)
  | null bean hbean hn hv =>
    have hallows : g.allows none = true := by
      unfold Finding.allows
      rw [hr']
      cases r <;> simp [Response.accepts] at haccepts <;> rfl
    have hcheck : d.checkAbsent n false none w = .ok () w :=
      checkAbsent_eq_ok.2 ⟨rfl, hg ▸ hallows⟩
    refine ⟨fun _ => ⟨fun h => ?_, fun hvalue => ?_⟩, fun _ => ⟨w, ?_⟩⟩
    · rw [h.2] at haccepts
      simp [Response.accepts] at haccepts
    · rw [hvalue] at haccepts
      simp [Response.accepts] at haccepts
    · rw [verify_of_reads hn hstaged hbean hv, hcheck]
  | value bean x hbean hn hv =>
    have hreadable : r ≠ .notReadable := by
      rintro rfl
      simp [Response.accepts] at haccepts
    have hallows : g.allows (some x) = true ↔
        (r = .value → Value.same (H := H) (some x) (some x) = true) := by
      unfold Finding.allows
      rw [hr']
      by_cases hvalue : r = .value
      · rw [hevidence hvalue, hvalue]
        simp
      · cases r <;> simp [Response.accepts] at haccepts hvalue ⊢
    rw [verify_of_reads hn hstaged hbean hv]
    constructor
    · rintro ⟨w', hw⟩
      have hsame := hallows.1 (hg ▸ (checkAbsent_eq_ok.1 hw).2)
      refine ⟨fun h => hreadable h.2, fun hvalue v hv => ?_⟩
      rw [hevidence hvalue] at hv
      cases hv
      exact hsame hvalue
    · rintro ⟨-, hsame⟩
      refine ⟨w, checkAbsent_eq_ok.2 ⟨rfl, hg ▸ hallows.2 fun hvalue => ?_⟩⟩
      exact hsame hvalue _ (hevidence hvalue)

end Draft

/-! ## Inference -/

namespace Check

/-- Inference leaves the code of every property alone. -/
theorem sameCode_of_inferOne {d : Draft H} {op : Absence} {p q : Property H} {w w' : H.World}
    (h : inferOne d op p w = .ok q w') : p.SameCode q := by
  unfold inferOne at h
  split at h
  · obtain ⟨rfl, -⟩ := Effect.pure_eq_ok.1 h
    rfl
  · obtain ⟨o, w₁, -, h⟩ := Effect.bind_eq_ok.1 h
    obtain ⟨f, w₂, -, h⟩ := Effect.bind_eq_ok.1 h
    obtain ⟨rfl, -⟩ := Effect.pure_eq_ok.1 h
    exact p.sameCode_setFinding op f

theorem sameCode_of_inferFrom {d : Draft H} {b : Blueprint H} {w w' : H.World}
    (h : inferFrom d w = .ok b w') : d.blueprint.SameCode b := by
  have hgather : ∀ {d : Draft H} {op : Absence} {ps qs : List (Property H)} {w w' : H.World},
      Effect.gather (inferOne d op) ps w = .ok qs w' → List.Forall₂ Property.SameCode ps qs := by
    intro d op ps qs w w' h
    exact (Effect.gather_eq_ok (I := fun _ => True) (P := Property.SameCode)
      (fun p _ s q t _ hq => ⟨trivial, sameCode_of_inferOne hq⟩) trivial h).2
  obtain ⟨creator, w₁, hcreator, h⟩ := Effect.bind_eq_ok.1 h
  obtain ⟨bean, w₂, hbean, h⟩ := Effect.bind_eq_ok.1 h
  obtain ⟨rfl, -⟩ := Effect.pure_eq_ok.1 h
  exact ⟨rfl, rfl, rfl, rfl, hgather hcreator, hgather hbean⟩

theorem sameCode_of_infer {b b' : Blueprint H} {c c' : Context H} (h : infer b c = .ok b' c') :
    b.SameCode b' := by
  rw [infer_eq_inferFrom] at h
  split at h
  · rename_i d c₁ hreset
    obtain ⟨w, hinfer, -⟩ := Effect.zoom_eq_ok.1 h
    have hcode := sameCode_of_inferFrom hinfer
    rwa [(Stage.reset_eq_ok hreset).2] at hcode
  · cases h

/-- What inference makes of a property: it keeps its code, and if its absence can be tested
then what is known of it is what the draft without it shows. -/
structure Learned (d : Draft H) (op : Absence) (p q : Property H) : Prop where
  sameCode : p.SameCode q
  finding : p.flags.ignored = false → (op = .setToNull → p.isWritable = true) →
    ∃ o, (absent op d p.name).Observes p.name o ∧
      (p.finding op).resolve o = some (q.finding op)

theorem learned_of_inferOne {d : Draft H} (hd : d.blueprint.Stateless) {op : Absence}
    {p q : Property H} {w w' : H.World} (h : inferOne d op p w = .ok q w') :
    Learned d op p q := by
  refine ⟨sameCode_of_inferOne h, fun hignored hwritable => ?_⟩
  unfold inferOne at h
  split at h
  · rename_i hskip
    cases op with
    | omitted => simp [hignored] at hskip
    | setToNull => simp [hignored, hwritable rfl] at hskip
  · obtain ⟨o, w₁, ho, h⟩ := Effect.bind_eq_ok.1 h
    obtain ⟨f, w₂, hf, h⟩ := Effect.bind_eq_ok.1 h
    obtain ⟨rfl, -⟩ := Effect.pure_eq_ok.1 h
    refine ⟨o, ?_, ?_⟩
    · have habsent : (absent op d p.name).blueprint = d.blueprint := by cases op <;> rfl
      exact Draft.observes_of_classify (by rwa [habsent]) ho
    · have hfinding : (p.setFinding op f).finding op = f := by cases op <;> rfl
      rw [hfinding]
      unfold learn at hf
      cases hg : (p.finding op).resolve o with
      | some g =>
        simp only [hg] at hf
        obtain ⟨rfl, -⟩ := Effect.pure_eq_ok.1 hf
        rfl
      | none =>
        simp only [hg] at hf
        exact absurd hf Effect.throw_ne_ok

/-- An inferred blueprint has the code of the blueprint it came from, and has learned from
the drafts of the primary values. -/
theorem infer_eq_ok {b b' : Blueprint H} (hb : b.Stateless) {c c' : Context H}
    (h : infer b c = .ok b' c') :
    ∃ d c₁, Stage.reset Run.create (.ofBlueprint b, c) = .ok () (d, c₁) ∧ b.SameCode b' ∧
      List.Forall₂ (Learned (d.prefer .creator) .omitted) b.creator.properties
        b'.creator.properties ∧
      List.Forall₂ (Learned (d.prefer .setters) .setToNull) b.bean.properties
        b'.bean.properties := by
  have hcode := sameCode_of_infer h
  rw [infer_eq_inferFrom] at h
  split at h
  · rename_i d c₁ hreset
    obtain ⟨-, hd⟩ := Stage.reset_eq_ok hreset
    have hblueprint : d.blueprint = b := by rw [hd]; rfl
    have hlearn : ∀ preference op (ps qs : List (Property H)) w w',
        Effect.gather (inferOne (d.prefer preference) op) ps w = .ok qs w' →
        List.Forall₂ (Learned (d.prefer preference) op) ps qs := by
      intro preference op ps qs w w' hgather
      have hstateless : (d.prefer preference).blueprint.Stateless := hblueprint ▸ hb
      have hone : ∀ p ∈ ps, ∀ s q t, True → inferOne (d.prefer preference) op p s = .ok q t →
          True ∧ Learned (d.prefer preference) op p q := fun p _ s q t _ hq =>
        ⟨trivial, learned_of_inferOne hstateless hq⟩
      exact (Effect.gather_eq_ok hone trivial hgather).2
    obtain ⟨w, hinfer, -⟩ := Effect.zoom_eq_ok.1 h
    obtain ⟨creator, w₁, hcreator, hinfer⟩ := Effect.bind_eq_ok.1 hinfer
    obtain ⟨bean, w₂, hbean, hinfer⟩ := Effect.bind_eq_ok.1 hinfer
    obtain ⟨rfl, -⟩ := Effect.pure_eq_ok.1 hinfer
    have hc := hlearn _ _ _ _ _ _ hcreator
    have hbn := hlearn _ _ _ _ _ _ hbean
    rw [hblueprint] at hcode hc hbn ⊢
    exact ⟨d, c₁, hreset, hcode, hc, hbn⟩
  · cases h

/-! ## Inference and verification build the same beans -/

section

variable {d s : Draft H} (hcode : d.blueprint.SameCode s.blueprint)
  (hexpected : ∀ k, s.expected.get? k = d.expected.get? k) (hs : s.preference = .creator)
include hcode hexpected hs

/-- Setting a parameter to null builds what leaving it out does, if the constructor sees no
difference. -/
theorem tryNewBean_leaveOut {p : String}
    (hnull : ∀ args : Args H, args.get? p = some none →
      d.blueprint.construct args = d.blueprint.construct (args.erase p))
    (hp : d.blueprint.isParameter p = true) :
    (s.put p none).tryNewBean = ((d.prefer .creator).leaveOut p).tryNewBean := by
  have harg : ∀ n, (s.put p none).arg? n = (s.put p none).expected.get? n := fun n => by
    simp [Draft.arg?, Draft.put, hs]
  have harg' : ∀ n, ((d.prefer .creator).leaveOut p).arg? n =
      ((d.prefer .creator).leaveOut p).expected.get? n := fun n => by
    simp [Draft.arg?, Draft.leaveOut, Draft.prefer]
  have hget : ∀ n ≠ p, (s.put p none).expected.get? n =
      ((d.prefer .creator).leaveOut p).expected.get? n := fun n hn => by
    simp [Draft.put, Draft.leaveOut, Draft.prefer, Table.get?_insert, Table.get?_erase, hn,
      hexpected]
  have hcode' : ((d.prefer .creator).leaveOut p).blueprint.SameCode (s.put p none).blueprint :=
    hcode
  refine (Draft.tryNewBean_congr hcode' ?_ fun q _ q' hq => ?_).symm
  · have hmem : p ∈ (s.put p none).blueprint.creator.names := by
      rw [show (s.put p none).blueprint.creator.names = s.blueprint.creator.names from rfl,
        hcode.creator_names]
      exact Model.contains_iff.1 hp
    have hpresent : (s.put p none).args.get? p = some none := by
      rw [Draft.get?_args, if_pos hmem, harg]
      simp [Draft.put, Table.get?_insert]
    have herase : (s.put p none).args.erase p = ((d.prefer .creator).leaveOut p).args := by
      refine Draft.erase_args hcode.creator_names ?_ fun m _ hm => ?_
      · rw [harg']
        simp [Draft.leaveOut, Table.get?_erase]
      · rw [harg, harg', hget m hm]
    rw [← herase]
    exact (hnull _ hpresent).symm
  · have hvia : ((d.prefer .creator).leaveOut p).viaSetter q = (s.put p none).viaSetter q' := by
      unfold Draft.viaSetter
      rw [hq.isWritable, hq.flags, hq.name]
      simp [Draft.put, Draft.leaveOut, Draft.prefer, hs, hcode.isParameter]
    unfold Draft.written
    rw [← hvia, hq.name]
    by_cases hn : q.name = p
    · have hskip : ((d.prefer .creator).leaveOut p).viaSetter q = false := by
        simp [Draft.viaSetter, Draft.leaveOut, Draft.prefer, hn, hp]
      rw [hskip]
      rfl
    · rw [hget q.name hn]

/-- Setting a property to null builds the same bean for verification as for inference, where
no writable property is a parameter. -/
theorem tryNewBean_setToNull (p : String)
    (hone : ∀ q ∈ d.blueprint.bean.properties, q.isWritable = true →
      d.blueprint.isParameter q.name = false) :
    (s.put p none).tryNewBean = ((d.prefer .setters).put p none).tryNewBean := by
  have hget : ∀ n, (s.put p none).expected.get? n =
      ((d.prefer .setters).put p none).expected.get? n := fun n => by
    simp [Draft.put, Draft.prefer, Table.get?_insert, hexpected]
  have hcode' : ((d.prefer .setters).put p none).blueprint.SameCode (s.put p none).blueprint :=
    hcode
  refine (Draft.tryNewBean_congr hcode' ?_ fun q hmem q' hq => ?_).symm
  · have hargs : ((d.prefer .setters).put p none).args = (s.put p none).args := by
      refine Draft.args_congr hcode.creator_names.symm fun n hn => ?_
      have hwritable : d.blueprint.isWritable n = false := by
        have hn' : d.blueprint.isParameter n = true := Model.contains_iff.2 hn
        unfold Blueprint.isWritable
        cases hq : d.blueprint.bean.get? n with
        | none => rfl
        | some q =>
          obtain ⟨hmem, rfl⟩ := Model.mem_of_get? hq
          cases hw : q.isWritable with
          | false => exact hw
          | true => rw [hone q hmem hw] at hn'; cases hn'
      have hleft : ((d.prefer .setters).put p none).arg? n =
          ((d.prefer .setters).put p none).expected.get? n := by
        simp [Draft.arg?, Draft.put, Draft.prefer, hwritable]
      have hright : (s.put p none).arg? n = (s.put p none).expected.get? n := by
        simp [Draft.arg?, Draft.put, hs]
      rw [hleft, hright, hget]
    rw [hargs]
  · have hvia : ((d.prefer .setters).put p none).viaSetter q = (s.put p none).viaSetter q' := by
      unfold Draft.viaSetter
      rw [hq.isWritable, hq.flags, hq.name]
      cases hw : q.isWritable with
      | false => rfl
      | true =>
        have hparameter := hone q hmem hw
        simp [Draft.put, Draft.prefer, hs, hcode.isParameter, hparameter]
    unfold Draft.written
    rw [hvia, hq.name, hget]

omit hcode hexpected in
/-- What is known of null after inference is what it observed when it left a tested parameter
out of construction, or set another tested property to null through its setter. -/
theorem known_of_learned {p : String} (hwf : d.blueprint.WellFormed)
    (hcreator : List.Forall₂ (Learned (d.prefer .creator) .omitted)
      d.blueprint.creator.properties s.blueprint.creator.properties)
    (hbean : List.Forall₂ (Learned (d.prefer .setters) .setToNull)
      d.blueprint.bean.properties s.blueprint.bean.properties)
    (hp : d.blueprint.isTestable p = true) :
    ∃ (o : Observation H) (f : Finding H), f.resolve o = some (s.absence p false).2 ∧
      (d.blueprint.isParameter p = true ∧ ((d.prefer .creator).leaveOut p).Observes p o ∨
        d.blueprint.isParameter p = false ∧ ((d.prefer .setters).put p none).Observes p o) := by
  rcases Model.get?_rel (fun _ _ h => h.sameCode.name) hcreator p with
    ⟨q, q', hq, hq', hlearned⟩ | ⟨hq, hq'⟩
  · have hparameter : d.blueprint.isParameter p = true := by
      simp [Blueprint.isParameter, Model.contains, hq]
    have hignored : q.flags.ignored = false := hwf.ignored_of_testable hp (.inl hq)
    obtain ⟨o, ho, hf⟩ := hlearned.finding hignored (by simp)
    have habsence : (s.absence p false).2 = q'.onOmit := by simp [Draft.absence, hs, hq']
    rw [(Model.mem_of_get? hq).2] at ho
    exact ⟨o, q.onOmit, habsence ▸ hf, .inl ⟨hparameter, ho⟩⟩
  · have hparameter : d.blueprint.isParameter p = false := by
      simp [Blueprint.isParameter, Model.contains, hq]
    have hwritable := Blueprint.isWritable_of_testable hp hparameter
    rcases Model.get?_rel (fun _ _ h => h.sameCode.name) hbean p with
      ⟨q, q', hx, hx', hlearned⟩ | ⟨hx, -⟩
    · have hignored : q.flags.ignored = false := hwf.ignored_of_testable hp (.inr hx)
      have hset : q.isWritable = true := by simpa [Blueprint.isWritable, hx] using hwritable
      obtain ⟨o, ho, hf⟩ := hlearned.finding hignored fun _ => hset
      have habsence : (s.absence p false).2 = q'.onNull := by
        simp [Draft.absence, hs, hq', hx']
      rw [(Model.mem_of_get? hx).2] at ho
      exact ⟨o, q.onNull, habsence ▸ hf, .inr ⟨hparameter, ho⟩⟩
    · simp [Blueprint.isWritable, hx] at hwritable

/-- What inference observed of the absence of a tested property is what a draft in which it
is set to null shows, and what was made of it is what that draft goes by. -/
theorem observed_of_learned {p : String} (hwf : d.blueprint.WellFormed)
    (hnull : ∀ (args : Args H) n, args.get? n = some none →
      d.blueprint.construct args = d.blueprint.construct (args.erase n))
    (hone : ∀ q ∈ d.blueprint.bean.properties, q.isWritable = true →
      d.blueprint.isParameter q.name = false)
    (hcreator : List.Forall₂ (Learned (d.prefer .creator) .omitted)
      d.blueprint.creator.properties s.blueprint.creator.properties)
    (hbean : List.Forall₂ (Learned (d.prefer .setters) .setToNull)
      d.blueprint.bean.properties s.blueprint.bean.properties)
    (hp : d.blueprint.isTestable p = true) :
    ∃ (o : Observation H) (f : Finding H), (s.put p none).Observes p o ∧
      f.resolve o = some ((s.put p none).absence p false).2 := by
  have hread : ∀ bean, (s.put p none).tryRead bean p = d.tryRead bean p := fun bean =>
    hcode.read bean p
  have hreadable : s.blueprint.isReadable p = d.blueprint.isReadable p := hcode.isReadable p
  obtain ⟨o, f, hf, ⟨hparameter, ho⟩ | ⟨-, ho⟩⟩ :=
    known_of_learned hs hwf hcreator hbean hp
  · refine ⟨o, f, ho.congr ?_ hread hreadable, hf⟩
    exact tryNewBean_leaveOut hcode hexpected hs (fun args => hnull args p) hparameter
  · refine ⟨o, f, ho.congr ?_ hread hreadable, hf⟩
    exact tryNewBean_setToNull hcode hexpected hs p hone

end

/-- After inference, a draft at its primary values in which a property with a known response
to null, other than an error, is set to null verifies it, except where the property has a
getter and is recorded as not readable, or where its recorded substitute does not equal
itself. -/
theorem verify_ok_iff_of_infer {b b' : Blueprint H} {c c₁ c₂ c₃ : Context H}
    {primary : String → Value H} {s : Draft H} {p : String} {r : Response}
    (hb : b.Stateless) (hwf : b.WellFormed)
    (hnull : ∀ (args : Args H) n, args.get? n = some none →
      b.construct args = b.construct (args.erase n))
    (hone : ∀ q ∈ b.bean.properties, q.isWritable = true → b.isParameter q.name = false)
    (hfixed : ∀ n ∈ b.staged,
      (Draft.ofBlueprint b).Fixed c.registry n .primary (primary n))
    (hinfer : infer b c = .ok b' c₁) (hc₂ : c₂.registry = c.registry)
    (hreset : Stage.reset Run.create (.ofBlueprint b', c₂) = .ok () (s, c₃))
    (hp : p ∈ b'.testable) (hr : s.nullResponse p = some r) (hne : r ≠ .error) (w : H.World) :
    (∃ w', (s.put p none).verify p w = .ok () w') ↔
      ¬ (b'.isReadable p = true ∧ r = .notReadable) ∧
        (r = .value → ∀ v, (s.absence p false).2.evidence = some (.value v) →
          Value.same v v = true) := by
  obtain ⟨d, c₄, hd, hcode, hcreator, hbean⟩ := infer_eq_ok hb hinfer
  have hdb : d.blueprint = b := by
    rw [(Stage.reset_eq_ok hd).2]
    rfl
  have hss := (Stage.reset_eq_ok hreset).2
  have hsb : s.blueprint = b' := by
    rw [hss]
    rfl
  have hs : s.preference = .creator := by
    rw [hss]
    rfl
  -- Both drafts stage the fixed primary values.
  have hexpected : ∀ k, s.expected.get? k = d.expected.get? k := by
    intro k
    have hfixed' : ∀ n ∈ b'.staged,
        (Draft.ofBlueprint b').Fixed c₂.registry n .primary (primary n) := by
      intro n hn c u c' hc hu
      rw [hcode.staged] at hn
      refine hfixed n hn c u c' (hc.trans hc₂) ?_
      rwa [Draft.draw_congr (d := .ofBlueprint b) (e := .ofBlueprint b') hcode]
    rw [Draft.get?_reset hfixed' hreset, Draft.get?_reset hfixed hd, hcode.staged]
  have htestable : b.isTestable p = true := by
    have := Blueprint.isTestable_of_mem hp
    rwa [hcode.isTestable] at this
  clear hss hd hreset hinfer hfixed hb hp
  subst hdb hsb
  obtain ⟨o, f, ho, hf⟩ := observed_of_learned hcode hexpected hs hwf hnull hone hcreator hbean
    htestable
  exact Draft.verify_ok_iff_of_observes (by simp [Draft.get?_put]) ho hf hr hne w

theorem lamp_writable : ∀ q ∈ Lamp.blueprint.bean.properties, q.isWritable = true →
    Lamp.blueprint.isParameter q.name = false := by
  intro q hq hw
  obtain rfl | rfl : q = _ ∨ q = _ := by simpa [Lamp.blueprint] using hq
  · cases hw
  · rfl

theorem lamp_fixed : ∀ n ∈ Lamp.blueprint.staged,
    (Draft.ofBlueprint Lamp.blueprint).Fixed Lamp.context.registry n .primary
      (some (.bool true)) := by
  intro n hn
  obtain rfl | rfl : n = "on" ∨ n = "dim" := by
    have hstaged : Lamp.blueprint.staged = ["on", "dim"] := by decide
    simpa [hstaged] using hn
  · exact Draft.fixed_of_done rfl rfl rfl
  · exact Draft.fixed_of_done rfl rfl rfl

/-- The second switch of a lamp reads back null, and is verified. -/
theorem verify_ok_iff_of_infer_lamp :
    Lamp.blueprint.Stateless ∧ Lamp.blueprint.WellFormed ∧
      ∃ b' c₁ s c₃, infer Lamp.blueprint Lamp.context = .ok b' c₁ ∧
        c₁.registry = Lamp.context.registry ∧
        Stage.reset Run.create (.ofBlueprint b', c₁) = .ok () (s, c₃) ∧ "dim" ∈ b'.testable ∧
        s.nullResponse "dim" = some .null ∧
        ((∃ w', (s.put "dim" none).verify "dim" () = .ok () w') ↔
          ¬ (b'.isReadable "dim" = true ∧ Response.null = .notReadable) ∧
            (Response.null = .value → ∀ v, (s.absence "dim" false).2.evidence =
              some (.value v) → Value.same v v = true)) := by
  obtain ⟨b', c₁, s, c₃, hinfer, hc, hreset, hp, hr⟩ : ∃ b' c₁ s c₃,
      infer Lamp.blueprint Lamp.context = .ok b' c₁ ∧
      c₁.registry = Lamp.context.registry ∧
      Stage.reset Run.create (.ofBlueprint b', c₁) = .ok () (s, c₃) ∧ "dim" ∈ b'.testable ∧
      s.nullResponse "dim" = some .null := ⟨_, _, _, _, rfl, rfl, rfl, by decide, rfl⟩
  exact ⟨Lamp.stateless, Lamp.wellFormed, b', c₁, s, c₃, hinfer, hc, hreset, hp, hr,
    verify_ok_iff_of_infer Lamp.stateless Lamp.wellFormed Lamp.construct_erase lamp_writable
      lamp_fixed hinfer hc hreset hp hr (by decide) ()⟩

def shyLamp : Blueprint Lamp.host :=
  { Lamp.blueprint with
    bean := ⟨[
      { name := "on", type := .bool, getter := some fun o => pure (Lamp.ofSwitch o.1) },
      { name := "dim", type := .bool,
        getter := some fun o =>
          match o.2 with
          | some b => pure (some (.bool b))
          | none => throw (.error (.rejected "unset")),
        setter := some fun o v => pure (o.1, Lamp.toSwitch v) }]⟩ }

theorem shyLamp_stateless : shyLamp.Stateless where
  construct _ := .pure _
  builderText _ h := by cases h
  getter p hp get hg o := by
    obtain rfl | rfl : p = _ ∨ p = _ := by simpa [shyLamp] using hp
    · cases hg
      exact .pure _
    · cases hg
      dsimp only
      split
      · exact .pure _
      · exact .throw _
  setter p hp set hs o v := by
    obtain rfl | rfl : p = _ ∨ p = _ := by simpa [shyLamp] using hp
    · cases hs
    · cases hs
      exact .pure _

/-- The second switch of a shy lamp is recorded as not readable, and is then reported. -/
theorem notReadable_not_verified :
    shyLamp.Stateless ∧
      (∀ (args : Args Lamp.host) n, args.get? n = some none →
        shyLamp.construct args = shyLamp.construct (args.erase n)) ∧
      (∀ q ∈ shyLamp.bean.properties, q.isWritable = true →
        shyLamp.isParameter q.name = false) ∧
      (∀ n ∈ shyLamp.staged, (Draft.ofBlueprint shyLamp).Fixed Lamp.context.registry n
        .primary (some (.bool true))) ∧
      ∃ b' c₁ s c₃, infer shyLamp Lamp.context = .ok b' c₁ ∧
        Stage.reset Run.create (.ofBlueprint b', c₁) = .ok () (s, c₃) ∧
        "dim" ∈ b'.testable ∧ s.nullResponse "dim" = some .notReadable ∧
        ∀ w w', (s.put "dim" none).verify "dim" w ≠ .ok () w' := by
  refine ⟨shyLamp_stateless, Lamp.construct_erase, fun q hq hw => ?_, fun n hn => ?_,
    _, _, _, _, rfl, rfl, by decide, rfl, fun w w' h => by cases h⟩
  · obtain rfl | rfl : q = _ ∨ q = _ := by simpa [shyLamp] using hq
    · cases hw
    · rfl
  · obtain rfl | rfl : n = "on" ∨ n = "dim" := by
      have hstaged : shyLamp.staged = ["on", "dim"] := by decide
      simpa [hstaged] using hn
    · exact Draft.fixed_of_done rfl rfl rfl
    · exact Draft.fixed_of_done rfl rfl rfl

end Check
end BeanContract
