/-
What customisations settle.

Customisations apply exactly if each of them names a property and brings no factory of another
type (`Description.customiseAll_ok_iff`).  They then turn each property, in whichever model it is,
into what those of its own name make of it, in their order (`Description.customiseAll_models`).

A customisation is about one aspect of a property.  Of two that are about the same one the later
counts, and an aspect that none is about stays as it was.  So customised descriptions are settled
(`Description.settled_of_customiseAll`), and only the order among the customisations of one
property matters (`Description.customiseAll_reordered`).
-/
import BeanContract.Proofs.Draft.Typing

namespace BeanContract

variable {H : Host}

namespace Customisation

/-- A factory has to be of the type of its property; anything else suits every type. -/
def Suits (t : ValueType) : Customisation H → Prop
  | factory _ f => f.type = t
  | _ => True

instance (t : ValueType) (c : Customisation H) : Decidable (c.Suits t) := by
  cases c <;> unfold Suits <;> infer_instance

inductive Aspect where
  | ignored
  | nullity
  | significance
  | absence (op : Absence)
  | source
  deriving DecidableEq, Repr

def aspect : Customisation H → Aspect
  | ignore _ => .ignored
  | notNull _ | nullable _ => .nullity
  | significant _ | notSignificant _ => .significance
  | response op _ _ => .absence op
  | factory _ _ => .source

/-- The customisations are about the same aspect of the same property. -/
def Rivals (c c' : Customisation H) : Prop := c'.property = c.property ∧ c'.aspect = c.aspect

def HoldsOf (p : Property H) : Customisation H → Prop
  | ignore _ => p.flags.ignored = true
  | notNull _ => p.flags.notNull = true ∧ p.flags.nullable = false
  | nullable _ => p.flags.nullable = true ∧ p.flags.notNull = false
  | significant _ => p.flags.significant = true
  | notSignificant _ => p.flags.significant = false
  | response op _ r => (p.finding op).response = some r ∧ (p.finding op).declared = true
  | factory _ _ => True

end Customisation

namespace Property

open Customisation (Aspect)

def SameIn (p q : Property H) : Aspect → Prop
  | .ignored => q.flags.ignored = p.flags.ignored
  | .nullity => q.flags.notNull = p.flags.notNull ∧ q.flags.nullable = p.flags.nullable
  | .significance => q.flags.significant = p.flags.significant
  | .absence op => q.finding op = p.finding op
  | .source => True

variable {p q r : Property H} {a : Aspect}

protected theorem SameIn.refl (p : Property H) (a : Aspect) : p.SameIn p a := by
  cases a with
  | nullity => exact ⟨rfl, rfl⟩
  | source => trivial
  | _ => exact rfl

theorem SameIn.trans (hpq : p.SameIn q a) (hqr : q.SameIn r a) : p.SameIn r a := by
  cases a with
  | nullity => exact ⟨hqr.1.trans hpq.1, hqr.2.trans hpq.2⟩
  | source => trivial
  | ignored => exact Eq.trans hqr hpq
  | significance => exact Eq.trans hqr hpq
  | absence op => exact Eq.trans hqr hpq

/-- What a customisation says of a property is a matter of its own aspect. -/
theorem SameIn.holdsOf {c : Customisation H} (h : p.SameIn q c.aspect) (hc : c.HoldsOf p) :
    c.HoldsOf q := by
  cases c with
  | ignore _ => exact Eq.trans h hc
  | notNull _ => exact ⟨h.1.trans hc.1, h.2.trans hc.2⟩
  | nullable _ => exact ⟨h.2.trans hc.1, h.1.trans hc.2⟩
  | significant _ => exact Eq.trans h hc
  | notSignificant _ => exact Eq.trans h hc
  | response op _ r =>
    have h : q.finding op = p.finding op := h
    show (q.finding op).response = some r ∧ (q.finding op).declared = true
    rwa [h]
  | factory _ _ => trivial

/-- A customisation leaves the aspects alone that it is not about. -/
theorem sameIn_apply {c : Customisation H} (p : Property H) (h : c.aspect ≠ a) :
    p.SameIn (c.apply p) a := by
  cases a with
  | ignored =>
    cases c with
    | ignore _ => exact absurd rfl h
    | response op _ r => cases op <;> exact rfl
    | _ => exact rfl
  | nullity =>
    cases c with
    | notNull _ => exact absurd rfl h
    | nullable _ => exact absurd rfl h
    | response op _ r => cases op <;> exact ⟨rfl, rfl⟩
    | _ => exact ⟨rfl, rfl⟩
  | significance =>
    cases c with
    | significant _ => exact absurd rfl h
    | notSignificant _ => exact absurd rfl h
    | response op _ r => cases op <;> exact rfl
    | _ => exact rfl
  | absence op =>
    cases c with
    | response op' _ r =>
      have hop : op ≠ op' := fun heq => h (congrArg Aspect.absence heq.symm)
      show (p.setFinding op' _).finding op = p.finding op
      rw [finding_setFinding, if_neg hop]
    | _ => exact rfl
  | source => trivial

theorem holdsOf_apply (c : Customisation H) (p : Property H) : c.HoldsOf (c.apply p) := by
  cases c with
  | response op _ r => cases op <;> exact ⟨rfl, rfl⟩
  | notNull _ => exact ⟨rfl, rfl⟩
  | nullable _ => exact ⟨rfl, rfl⟩
  | factory _ _ => trivial
  | _ => exact rfl

/-! ## One property under many customisations -/

def customisedBy (p : Property H) (cs : List (Customisation H)) : Property H :=
  cs.foldl (fun p c => if p.name = c.property then c.apply p else p) p

theorem customisedBy_append (p : Property H) (cs cs' : List (Customisation H)) :
    p.customisedBy (cs ++ cs') = (p.customisedBy cs).customisedBy cs' :=
  List.foldl_append

/-- What every applied customisation preserves. -/
theorem customisedBy_preserves {P : Property H → Prop} {cs : List (Customisation H)}
    (hP : ∀ c ∈ cs, ∀ q, q.name = c.property → P q → P (c.apply q)) (hp : P p) :
    P (p.customisedBy cs) := by
  induction cs generalizing p with
  | nil => exact hp
  | cons c cs ih =>
    refine ih (fun c' hc' => hP c' (List.mem_cons_of_mem c hc')) ?_
    dsimp only
    split
    · exact hP c List.mem_cons_self p ‹_› hp
    · exact hp

theorem customisedBy_name (p : Property H) (cs : List (Customisation H)) :
    (p.customisedBy cs).name = p.name :=
  customisedBy_preserves (P := fun q => q.name = p.name)
    (fun c _ q _ hq => (c.apply_name q).trans hq) rfl

/-- Only the customisations that name the property count. -/
theorem customisedBy_filter (p : Property H) (cs : List (Customisation H)) :
    p.customisedBy (cs.filter fun c => c.property = p.name) = p.customisedBy cs := by
  induction cs generalizing p with
  | nil => rfl
  | cons c cs ih =>
    by_cases hname : p.name = c.property
    · have hkeep := ih (c.apply p)
      rw [c.apply_name] at hkeep
      rw [List.filter_cons_of_pos (by simp [hname])]
      unfold customisedBy at hkeep ⊢
      rw [List.foldl_cons, List.foldl_cons, if_pos hname]
      exact hkeep
    · have hkeep := ih p
      rw [List.filter_cons_of_neg (by simpa using Ne.symm hname)]
      unfold customisedBy at hkeep ⊢
      rw [List.foldl_cons, if_neg hname]
      exact hkeep

/-- An aspect of a property that no customisation is about stays as it was. -/
theorem sameIn_customisedBy {cs : List (Customisation H)}
    (h : ∀ c ∈ cs, c.property = p.name → c.aspect ≠ a) : p.SameIn (p.customisedBy cs) a := by
  refine (customisedBy_preserves (P := fun q => q.name = p.name ∧ p.SameIn q a) ?_
    ⟨rfl, .refl p a⟩).2
  intro c hc q hq hsame
  have haspect := h c hc (hq.symm.trans hsame.1)
  exact ⟨(c.apply_name q).trans hsame.1, hsame.2.trans (sameIn_apply q haspect)⟩

/-- The last one of rivals counts. -/
theorem holdsOf_customisedBy {before after : List (Customisation H)} {c : Customisation H}
    (hname : p.name = c.property) (h : ∀ c' ∈ after, ¬c.Rivals c') :
    c.HoldsOf (p.customisedBy (before ++ c :: after)) := by
  have hbefore := customisedBy_name p before
  have hcons : p.customisedBy (before ++ c :: after) =
      (c.apply (p.customisedBy before)).customisedBy after := by
    rw [customisedBy_append]
    unfold customisedBy at hbefore ⊢
    rw [List.foldl_cons, if_pos (hbefore.trans hname)]
  rw [hcons]
  refine (sameIn_customisedBy fun c' hc' hc'name haspect => ?_).holdsOf (holdsOf_apply c _)
  rw [c.apply_name, hbefore, hname] at hc'name
  exact h c' hc' ⟨hc'name, haspect⟩

/-- What becomes of a property depends on its switches and on what is known of it only. -/
theorem customisedBy_alike {cs : List (Customisation H)} (hname : q.name = p.name)
    (hflags : q.flags = p.flags) (hfinding : ∀ op, q.finding op = p.finding op) :
    (q.customisedBy cs).flags = (p.customisedBy cs).flags ∧
      ∀ op, (q.customisedBy cs).finding op = (p.customisedBy cs).finding op := by
  induction cs generalizing p q with
  | nil => exact ⟨hflags, hfinding⟩
  | cons c cs ih =>
    unfold customisedBy at ih ⊢
    rw [List.foldl_cons, List.foldl_cons, hname]
    split
    · refine ih ?_ (c.apply_flags hflags) fun op => ?_
      · rw [c.apply_name, c.apply_name, hname]
      · cases c with
        | response op' _ r =>
          simp only [Customisation.apply, finding_setFinding, hfinding]
        | _ => exact hfinding op
    · exact ih hname hflags hfinding

end Property

namespace Description

variable {d d' : Description H} {c : Customisation H} {cs : List (Customisation H)}

/-! ## Which customisations apply -/

/-- The customisation names a property, whose type it suits. -/
def Admits (d : Description H) (c : Customisation H) : Prop :=
  ∃ t, d.declared? c.property = some t ∧ c.Suits t

theorem admits_of_signature (h : d'.signature = d.signature) : d'.Admits c ↔ d.Admits c := by
  unfold Admits
  rw [Blueprint.declared?_of_signature h]

theorem customise_ok_iff : (∃ d', d.customise c = .ok d') ↔ d.Admits c := by
  unfold customise Admits Blueprint.declared?
  cases hp : d.property? c.property with
  | none => simp
  | some p =>
    cases c with
    | factory n f =>
      by_cases htype : f.type = p.type
      · simp [Customisation.Suits, htype]
      · simp [Customisation.Suits, htype]
    | _ => simp [Customisation.Suits]

theorem customiseAll_append (d : Description H) (cs cs' : List (Customisation H)) :
    d.customiseAll (cs ++ cs') = d.customiseAll cs >>= fun d => d.customiseAll cs' :=
  List.foldlM_append

theorem customiseAll_ok_iff : (∃ d', d.customiseAll cs = .ok d') ↔ ∀ c ∈ cs, d.Admits c := by
  induction cs generalizing d with
  | nil => exact ⟨fun _ => nofun, fun _ => ⟨d, rfl⟩⟩
  | cons c cs ih =>
    rw [List.forall_mem_cons]
    constructor
    · rintro ⟨d', h⟩
      obtain ⟨d₁, hc, h⟩ := customiseAll_cons.1 h
      refine ⟨customise_ok_iff.1 ⟨d₁, hc⟩, fun c' hc' => ?_⟩
      exact (admits_of_signature (signature_customise hc)).1 (ih.1 ⟨d', h⟩ c' hc')
    · rintro ⟨hc, hcs⟩
      obtain ⟨d₁, hc⟩ := customise_ok_iff.2 hc
      have hsignature := signature_customise hc
      obtain ⟨d', h⟩ := ih.2 fun c' hc' => (admits_of_signature hsignature).2 (hcs c' hc')
      exact ⟨d', customiseAll_cons.2 ⟨d₁, hc, h⟩⟩

/-- What does not apply is a misconfiguration. -/
theorem customise_error {f : Failure} (h : d.customise c = .error f) :
    ∃ m, f = .configuration m [] := by
  unfold customise at h
  split at h
  · cases h
    exact ⟨_, rfl⟩
  · split at h
    · split at h
      · cases h
      · cases h
        exact ⟨_, rfl⟩
    · cases h

theorem customiseAll_error {f : Failure} (h : d.customiseAll cs = .error f) :
    ∃ m, f = .configuration m [] := by
  induction cs generalizing d with
  | nil => cases h
  | cons c cs ih =>
    unfold customiseAll at h ih
    rw [List.foldlM_cons] at h
    cases hc : d.customise c with
    | ok d₁ =>
      rw [hc] at h
      exact ih h
    | error f' =>
      rw [hc] at h
      cases h
      exact customise_error hc

/-! ## What they make of the models -/

theorem customise_models (h : d.customise c = .ok d') :
    d'.creator = d.creator.update c.property c.apply ∧
      d'.bean = d.bean.update c.property c.apply := by
  rcases customise_eq_ok h with ⟨n, f, rfl, rfl⟩ | rfl
  -- A factory goes to the description, and the update of the models with it does nothing.
  · have hid : ∀ m : Model H, m = m.update n fun p => p := fun m => by
      simp [Model.update]
    exact ⟨hid d.creator, hid d.bean⟩
  · exact ⟨rfl, rfl⟩

/-- Each property of both models is customised by those of its name. -/
theorem customiseAll_models (h : d.customiseAll cs = .ok d') :
    d'.creator.properties = d.creator.properties.map (·.customisedBy cs) ∧
      d'.bean.properties = d.bean.properties.map (·.customisedBy cs) := by
  induction cs generalizing d with
  | nil =>
    cases h
    exact ⟨(List.map_id _).symm, (List.map_id _).symm⟩
  | cons c cs ih =>
    obtain ⟨d₁, hc, h⟩ := customiseAll_cons.1 h
    obtain ⟨hcreator, hbean⟩ := ih h
    have hmodels := customise_models hc
    rw [hcreator, hbean, hmodels.1, hmodels.2]
    unfold Model.update
    dsimp only
    rw [List.map_map, List.map_map]
    exact ⟨rfl, rfl⟩

/-- The properties of a customised description are customised properties. -/
theorem exists_of_customiseAll (h : d.customiseAll cs = .ok d') {n : String} {p : Property H} :
    (d'.creator.get? n = some p →
      ∃ p₀, d.creator.get? n = some p₀ ∧ p = p₀.customisedBy cs) ∧
    (d'.bean.get? n = some p → ∃ p₀, d.bean.get? n = some p₀ ∧ p = p₀.customisedBy cs) := by
  have hget : ∀ m m' : Model H, m'.properties = m.properties.map (·.customisedBy cs) →
      m'.get? n = some p → ∃ p₀, m.get? n = some p₀ ∧ p = p₀.customisedBy cs := by
    intro m m' hm hp
    have hsame : (fun p : Property H => decide (p.name = n)) ∘ (·.customisedBy cs) =
        fun p : Property H => decide (p.name = n) := by
      funext q
      simp [Property.customisedBy_name]
    unfold Model.get? at hp ⊢
    rw [hm, List.find?_map, hsame] at hp
    obtain ⟨p₀, hp₀, hp⟩ := Option.map_eq_some_iff.1 hp
    exact ⟨p₀, hp₀, hp.symm⟩
  have hmodels := customiseAll_models h
  exact ⟨hget _ _ hmodels.1, hget _ _ hmodels.2⟩

/-- The same of a property in either model. -/
theorem property_of_customiseAll (h : d.customiseAll cs = .ok d') {n : String} {p : Property H}
    (hp : d'.creator.get? n = some p ∨ d'.bean.get? n = some p) :
    ∃ p₀, (d.creator.get? n = some p₀ ∨ d.bean.get? n = some p₀) ∧ p₀.name = n ∧
      p = p₀.customisedBy cs := by
  obtain ⟨hcreator, hbean⟩ := exists_of_customiseAll h (n := n) (p := p)
  rcases hp with hp | hp
  · obtain ⟨p₀, hp₀, heq⟩ := hcreator hp
    exact ⟨p₀, .inl hp₀, (Model.mem_of_get? hp₀).2, heq⟩
  · obtain ⟨p₀, hp₀, heq⟩ := hbean hp
    exact ⟨p₀, .inr hp₀, (Model.mem_of_get? hp₀).2, heq⟩

/-- Only the order among the customisations of one property matters to the models. -/
theorem customiseAll_reordered {cs' : List (Customisation H)}
    (hsame : ∀ n, cs'.filter (fun c => c.property = n) = cs.filter fun c => c.property = n)
    (h : d.customiseAll cs = .ok d') : ∃ d'', d.customiseAll cs' = .ok d'' ∧
      d''.creator = d'.creator ∧ d''.bean = d'.bean := by
  have hadmits := customiseAll_ok_iff.1 ⟨d', h⟩
  obtain ⟨d'', h'⟩ : ∃ d'', d.customiseAll cs' = .ok d'' := by
    refine customiseAll_ok_iff.2 fun c hc => hadmits c ?_
    have hmem : c ∈ cs'.filter fun c' => c'.property = c.property :=
      List.mem_filter.2 ⟨hc, by simp⟩
    rw [hsame] at hmem
    exact (List.mem_filter.1 hmem).1
  have hproperty : ∀ p : Property H, p.customisedBy cs' = p.customisedBy cs := fun p => by
    rw [← p.customisedBy_filter cs', ← p.customisedBy_filter cs, hsame]
  have hmodels := customiseAll_models h
  have hmodels' := customiseAll_models h'
  simp only [hproperty] at hmodels'
  refine ⟨d'', h', ?_, ?_⟩
  · exact congrArg Model.mk (hmodels'.1.trans hmodels.1.symm)
  · exact congrArg Model.mk (hmodels'.2.trans hmodels.2.symm)

/-! ## What they make of the factories -/

theorem customise_factory {n : String} {f : Factory H} (h : d.customise (.factory n f) = .ok d') :
    d' = d.setFactory n f := by
  unfold customise at h
  split at h
  · cases h
  · dsimp only at h
    split at h
    · exact (Except.ok.inj h).symm
    · cases h

theorem factories_setFactory (d : Description H) (n m : String) (f g : Factory H) :
    (m, g) ∈ (d.setFactory n f).factories ↔
      (m, g) = (n, f) ∨ m ≠ n ∧ (m, g) ∈ d.factories := by
  unfold setFactory
  simp only [List.mem_append, List.mem_filter, List.mem_singleton, decide_eq_true_eq]
  tauto

theorem nodup_customiseAll (hd : (d.factories.map (·.1)).Nodup)
    (h : d.customiseAll cs = .ok d') : (d'.factories.map (·.1)).Nodup := by
  induction cs generalizing d with
  | nil =>
    cases h
    exact hd
  | cons c cs ih =>
    obtain ⟨d₁, hc, h⟩ := customiseAll_cons.1 h
    refine ih ?_ h
    rcases customise_eq_ok hc with ⟨n, f, -, rfl⟩ | rfl
    · unfold setFactory
      dsimp only
      rw [List.map_append, List.nodup_append]
      refine ⟨hd.sublist (List.filter_sublist.map _), by simp, fun m hm k hk hmk => ?_⟩
      obtain ⟨entry, hentry, rfl⟩ := List.mem_map.1 hm
      have hne : entry.1 ≠ n := by simpa using (List.mem_filter.1 hentry).2
      exact hne (hmk.trans (List.mem_singleton.1 hk))
    · exact hd

/-- A factory stays unless another one comes for its property. -/
theorem factories_keep {n : String} {f : Factory H} (hcs : ∀ c ∈ cs, ∀ g, c ≠ .factory n g)
    (h : d.customiseAll cs = .ok d') : (n, f) ∈ d'.factories ↔ (n, f) ∈ d.factories := by
  induction cs generalizing d with
  | nil =>
    cases h
    exact .rfl
  | cons c cs ih =>
    obtain ⟨d₁, hc, h⟩ := customiseAll_cons.1 h
    refine (ih (fun c' hc' => hcs c' (List.mem_cons_of_mem c hc')) h).trans ?_
    rcases customise_eq_ok hc with ⟨m, g, rfl, rfl⟩ | rfl
    · have hne : n ≠ m := fun heq => hcs _ List.mem_cons_self g (by rw [heq])
      rw [factories_setFactory]
      simp [hne]
    · exact .rfl

/-! ## Settled descriptions -/

/-- The description is as the customisation says. -/
def Follows (d : Description H) (c : Customisation H) : Prop :=
  (∀ p, d.creator.get? c.property = some p ∨ d.bean.get? c.property = some p → c.HoldsOf p) ∧
    ∀ n f, c = .factory n f → (n, f) ∈ d.factories

/-- What the customisations made of a description `d₀` is consistent, and is what the last ones
say. -/
structure Settled (d₀ : Description H) (cs : List (Customisation H)) (d : Description H) :
    Prop where
  /-- No property is both nullable and never null. -/
  nullity : ∀ n p, d.creator.get? n = some p ∨ d.bean.get? n = some p →
    ¬(p.flags.nullable = true ∧ p.flags.notNull = true)
  /-- A property of both models has the same switches, and the same is known about its absence. -/
  alike : ∀ n p q, d.creator.get? n = some p → d.bean.get? n = some q →
    q.flags = p.flags ∧ ∀ op, q.finding op = p.finding op
  /-- A property has one factory of its own at most. -/
  single : (d.factories.map (·.1)).Nodup
  /-- A factory is of the type of its property. -/
  matching : ∀ n f, (n, f) ∈ d.factories → (∃ p, d.property? n = some p) ∧
    ∀ p, d.creator.get? n = some p ∨ d.bean.get? n = some p → p.type = f.type
  /-- Of rivals the last one counts. -/
  last : ∀ before c after, cs = before ++ c :: after → (∀ c' ∈ after, ¬c.Rivals c') → d.Follows c
  /-- What no customisation is about is as it was. -/
  unchanged : ∀ n a, (∀ c ∈ cs, c.property = n → c.aspect ≠ a) →
    (∀ p, d.creator.get? n = some p → ∃ p₀, d₀.creator.get? n = some p₀ ∧ p₀.SameIn p a) ∧
    (∀ p, d.bean.get? n = some p → ∃ p₀, d₀.bean.get? n = some p₀ ∧ p₀.SameIn p a) ∧
    (a = .source → ∀ f, (n, f) ∉ d.factories)

/-- The description has not been customised. -/
structure Plain (d : Description H) : Prop where
  wellFormed : d.toBlueprint.WellFormed
  plain : ∀ n p, d.creator.get? n = some p ∨ d.bean.get? n = some p → p.Plain
  factories : d.factories = []

theorem not_both_customisedBy {p : Property H} (hp : p.Plain) (cs : List (Customisation H)) :
    ¬((p.customisedBy cs).flags.nullable = true ∧ (p.customisedBy cs).flags.notNull = true) := by
  refine Property.customisedBy_preserves
    (P := fun q => ¬(q.flags.nullable = true ∧ q.flags.notNull = true)) ?_ (by simp [hp.1])
  intro c _ q _ hq
  cases c with
  | response op _ r => cases op <;> exact hq
  | notNull _ => exact fun h => Bool.false_ne_true h.1
  | nullable _ => exact fun h => Bool.false_ne_true h.2
  | _ => exact hq

theorem follows_of_last {before after : List (Customisation H)}
    (h : d.customiseAll (before ++ c :: after) = .ok d') (hafter : ∀ c' ∈ after, ¬c.Rivals c') :
    d'.Follows c := by
  refine ⟨fun p hp => ?_, ?_⟩
  · obtain ⟨p₀, -, hname, rfl⟩ := property_of_customiseAll h hp
    exact Property.holdsOf_customisedBy hname hafter
  · rintro n f rfl
    rw [customiseAll_append] at h
    cases h₁ : d.customiseAll before with
    | error e =>
      rw [h₁] at h
      cases h
    | ok d₁ =>
      rw [h₁] at h
      obtain ⟨d₂, h₂, h⟩ := customiseAll_cons.1 h
      refine (factories_keep (fun c' hc' g heq => hafter c' hc' ?_) h).2 ?_
      · rw [heq]
        exact ⟨rfl, rfl⟩
      · rw [customise_factory h₂]
        exact (factories_setFactory d₁ n n f f).2 (.inl rfl)

/-- Customisations settle a description that has not been customised. -/
theorem settled_of_customiseAll (hd : d.Plain) (h : d.customiseAll cs = .ok d') :
    d.Settled cs d' := by
  have hget := fun n p => exists_of_customiseAll h (n := n) (p := p)
  have hwf := customiseAll_wellFormed hd.wellFormed h
  refine ⟨fun n p hp => ?_, fun n p q hp hq => ?_, ?_, fun n f hf => ?_, ?_, fun n a hcs => ?_⟩
  · obtain ⟨p₀, hp₀, -, rfl⟩ := property_of_customiseAll h hp
    exact not_both_customisedBy (hd.plain n p₀ hp₀) cs
  · obtain ⟨p₀, hp₀, rfl⟩ := (hget n p).1 hp
    obtain ⟨q₀, hq₀, rfl⟩ := (hget n q).2 hq
    have hp' := hd.plain n p₀ (.inl hp₀)
    have hq' := hd.plain n q₀ (.inr hq₀)
    refine Property.customisedBy_alike ?_ ?_ fun op => ?_
    · rw [(Model.mem_of_get? hp₀).2, (Model.mem_of_get? hq₀).2]
    · rw [hp'.1, hq'.1]
    · rw [hp'.finding, hq'.finding]
  · refine nodup_customiseAll ?_ h
    rw [hd.factories]
    exact List.nodup_nil
  · have hmatching : d.Matching := fun n f hf => by
      rw [hd.factories] at hf
      cases hf
    have hdeclared := (hmatching.customiseAll h).1 n f hf
    obtain ⟨p, hp, htype⟩ := Option.map_eq_some_iff.1 hdeclared
    refine ⟨⟨p, hp⟩, fun q hq => ?_⟩
    rw [← htype]
    exact Blueprint.eq_of_models (g := Property.type) (fun p q hp hq => (hwf.agree n p q hp hq).1)
      (Blueprint.models_of_property? hp) hq
  · rintro before c after rfl hafter
    exact follows_of_last h hafter
  · have hsame : ∀ p : Property H, p.name = n → p.SameIn (p.customisedBy cs) a := fun p hp =>
      Property.sameIn_customisedBy fun c hc hname => hcs c hc (hname.trans hp)
    refine ⟨fun p hp => ?_, fun p hp => ?_, ?_⟩
    · obtain ⟨p₀, hp₀, rfl⟩ := (hget n p).1 hp
      exact ⟨p₀, hp₀, hsame p₀ (Model.mem_of_get? hp₀).2⟩
    · obtain ⟨p₀, hp₀, rfl⟩ := (hget n p).2 hp
      exact ⟨p₀, hp₀, hsame p₀ (Model.mem_of_get? hp₀).2⟩
    · rintro rfl f hf
      have hkeep := factories_keep (n := n) (f := f) (fun c hc g heq => ?_) h
      · rw [hkeep, hd.factories] at hf
        cases hf
      · subst heq
        exact hcs _ hc rfl rfl

end Description
end BeanContract
