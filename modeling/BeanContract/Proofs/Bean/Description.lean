/-
Descriptions are well-formed.

Whatever is declared, and however it is customised, the names of each model are distinct
and a property that both models have is one property, with one type and one set of flags
(`declare_wellFormed`).  It also has one declared response to each kind of absence, and no
response is known to vary unless that is declared (`declare_wellDeclared`).
-/
import BeanContract.Proofs.Bean.Code
import BeanContract.Bean.Declaration

namespace BeanContract

variable {H : Host}

namespace Model

theorem contains_iff {m : Model H} {n : String} : m.contains n = true ↔ n ∈ m.names := by
  unfold contains get? names
  simp [List.find?_isSome]

theorem mem_of_get? {m : Model H} {n : String} {p : Property H} (h : m.get? n = some p) :
    p ∈ m.properties ∧ p.name = n := by
  refine ⟨List.mem_of_find?_eq_some h, ?_⟩
  have := List.find?_some h
  simpa using this

theorem get?_of_mem {m : Model H} (hm : m.names.Nodup) {p : Property H}
    (hp : p ∈ m.properties) : m.get? p.name = some p := by
  obtain ⟨ps⟩ := m
  unfold names at hm
  unfold get?
  dsimp only at hm hp ⊢
  induction ps with
  | nil => cases hp
  | cons q ps ih =>
    rw [List.map_cons, List.nodup_cons] at hm
    rw [List.find?_cons]
    rcases List.mem_cons.1 hp with rfl | hp'
    · simp
    · have hne : q.name ≠ p.name := fun h => hm.1 (h ▸ List.mem_map_of_mem hp')
      simp only [hne, decide_false]
      exact ih hm.2 hp'

theorem get?_update {f : Property H → Property H} (hf : ∀ p, (f p).name = p.name) (m : Model H)
    (n k : String) : (m.update n f).get? k = if k = n then (m.get? k).map f else m.get? k := by
  obtain ⟨ps⟩ := m
  unfold update get?
  dsimp only
  induction ps with
  | nil => simp
  | cons p ps ih =>
    have hname : (if p.name = n then f p else p).name = p.name := by
      split
      · exact hf p
      · rfl
    rw [List.map_cons, List.find?_cons, List.find?_cons, hname, ih]
    by_cases hk : p.name = k
    · by_cases hn : k = n
      · simp [hk, hn]
      · simp [hk, hn]
    · simp [hk]

theorem exists_of_update {f : Property H → Property H} (hf : ∀ p, (f p).name = p.name)
    {m : Model H} {n k : String} {p : Property H} (h : (m.update n f).get? k = some p) :
    ∃ p₀, m.get? k = some p₀ ∧ p = if k = n then f p₀ else p₀ := by
  rw [get?_update hf] at h
  by_cases hk : k = n
  · rw [if_pos hk] at h
    obtain ⟨p₀, hp₀, rfl⟩ := Option.map_eq_some_iff.1 h
    exact ⟨p₀, hp₀, (if_pos hk).symm⟩
  · rw [if_neg hk] at h
    exact ⟨p, h, (if_neg hk).symm⟩

theorem names_update {f : Property H → Property H} (hf : ∀ p, (f p).name = p.name) (m : Model H)
    (n : String) : (m.update n f).names = m.names := by
  unfold update names
  rw [List.map_map]
  refine List.map_congr_left fun p _ => ?_
  by_cases hn : p.name = n
  · simp [hn, hf p]
  · simp [hn]

theorem names_add (m : Model H) (p : Property H) : (m.add p).names = m.names ++ [p.name] := by
  simp [add, names]

end Model

structure Blueprint.WellFormed (b : Blueprint H) : Prop where
  creator : b.creator.names.Nodup
  bean : b.bean.names.Nodup
  agree : ∀ n p q, b.creator.get? n = some p → b.bean.get? n = some q →
    q.type = p.type ∧ q.flags = p.flags

theorem Blueprint.SameCode.wellFormed {b b' : Blueprint H} (h : b.SameCode b')
    (hb : b.WellFormed) : b'.WellFormed := by
  refine ⟨h.creator_names ▸ hb.creator, h.bean_names ▸ hb.bean, fun n p' q' hp' hq' => ?_⟩
  rcases h.creator_rel n with ⟨p, p₁, hp, hp₁, hpp⟩ | ⟨-, hnone⟩
  · rcases h.bean_rel n with ⟨q, q₁, hq, hq₁, hqq⟩ | ⟨-, hnone⟩
    · rw [hp₁] at hp'
      cases hp'
      rw [hq₁] at hq'
      cases hq'
      rw [hqq.type, hqq.flags, hpp.type, hpp.flags]
      exact hb.agree n p q hp hq
    · rw [hnone] at hq'
      cases hq'
  · rw [hnone] at hp'
    cases hp'

/-- A response is what is declared, and only a declared one varies. -/
structure Finding.WellDeclared (f : Finding H) : Prop where
  response : f.declared = true → f.response.isSome = true
  varying : ∀ r, f.response = some r → r.isVarying = true → f.declared = true

/-- A property of both models has the same declared responses in both, and only what is
declared varies. -/
structure Blueprint.WellDeclared (b : Blueprint H) : Prop where
  alike : ∀ n p q, b.creator.get? n = some p → b.bean.get? n = some q → ∀ op,
    (q.finding op).declaration = (p.finding op).declaration
  finding : ∀ n p, b.creator.get? n = some p ∨ b.bean.get? n = some p → ∀ op,
    (p.finding op).WellDeclared

theorem Blueprint.isTestable_of_mem {b : Blueprint H} {n : String} (hn : n ∈ b.testable) :
    b.isTestable n = true :=
  (List.mem_filter.1 hn).2

theorem Blueprint.property?_of_testable {b : Blueprint H} {n : String}
    (hn : b.isTestable n = true) :
    ∃ p, b.property? n = some p ∧ p.flags.ignored = false := by
  unfold isTestable at hn
  rw [Bool.and_eq_true] at hn
  cases hp : b.property? n with
  | none => simp [hp] at hn
  | some p => exact ⟨p, rfl, by simpa [hp] using hn.1⟩

theorem Blueprint.isWritable_of_testable {b : Blueprint H} {n : String}
    (hn : b.isTestable n = true) (hp : b.isParameter n = false) : b.isWritable n = true := by
  unfold isTestable at hn
  rw [hp, Bool.false_or, Bool.and_eq_true] at hn
  exact hn.2

/-- What a parameter and the property of its name have in common is common to all that is found
under the name. -/
theorem Blueprint.eq_of_models {γ : Type*} {b : Blueprint H} {n : String} {g : Property H → γ}
    (hg : ∀ p q, b.creator.get? n = some p → b.bean.get? n = some q → g q = g p)
    {p q : Property H} (hp : b.creator.get? n = some p ∨ b.bean.get? n = some p)
    (hq : b.creator.get? n = some q ∨ b.bean.get? n = some q) : g q = g p := by
  rcases hp with hp | hp
  · rcases hq with hq | hq
    · rw [Option.some.inj (hp.symm.trans hq)]
    · exact hg p q hp hq
  · rcases hq with hq | hq
    · exact (hg q p hq hp).symm
    · rw [Option.some.inj (hp.symm.trans hq)]

theorem Blueprint.WellFormed.flags_eq {b : Blueprint H} (hb : b.WellFormed) {n : String}
    {p q : Property H} (hp : b.creator.get? n = some p ∨ b.bean.get? n = some p)
    (hq : b.creator.get? n = some q ∨ b.bean.get? n = some q) : q.flags = p.flags :=
  eq_of_models (fun p q hp hq => (hb.agree n p q hp hq).2) hp hq

theorem Blueprint.WellDeclared.declaration_eq {b : Blueprint H} (hb : b.WellDeclared)
    {n : String} {p q : Property H} (hp : b.creator.get? n = some p ∨ b.bean.get? n = some p)
    (hq : b.creator.get? n = some q ∨ b.bean.get? n = some q) (op : Absence) :
    (q.finding op).declaration = (p.finding op).declaration :=
  eq_of_models (g := fun p => (p.finding op).declaration)
    (fun p q hp hq => hb.alike n p q hp hq op) hp hq

theorem Blueprint.models_of_property? {b : Blueprint H} {n : String} {p : Property H}
    (hp : b.property? n = some p) : b.creator.get? n = some p ∨ b.bean.get? n = some p := by
  unfold property? at hp
  cases hbean : b.bean.get? n with
  | none => exact .inl (by simpa [hbean] using hp)
  | some q => exact .inr (by simpa [hbean] using hp)

/-- Neither declaration of a tested property is ignored. -/
theorem Blueprint.WellFormed.ignored_of_testable {b : Blueprint H} (hb : b.WellFormed)
    {n : String} (hn : b.isTestable n = true) {p : Property H}
    (hp : b.creator.get? n = some p ∨ b.bean.get? n = some p) : p.flags.ignored = false := by
  obtain ⟨q, hq, hignored⟩ := property?_of_testable hn
  rw [hb.flags_eq (models_of_property? hq) hp]
  exact hignored

/-- What a value reaches is tested if a declaration of it is not ignored. -/
theorem Blueprint.WellFormed.isTestable_of_ignored {b : Blueprint H} (hb : b.WellFormed)
    {n : String} {p : Property H} (hp : b.creator.get? n = some p ∨ b.bean.get? n = some p)
    (hignored : p.flags.ignored = false) (hn : b.isParameter n = true ∨ b.isWritable n = true) :
    b.isTestable n = true := by
  obtain ⟨q, hq⟩ : ∃ q, b.property? n = some q := by
    unfold property?
    cases hbean : b.bean.get? n with
    | some q => exact ⟨q, rfl⟩
    | none => exact ⟨p, hp.resolve_right (by simp [hbean])⟩
  unfold isTestable
  rw [hq, Bool.and_eq_true, Bool.or_eq_true]
  exact ⟨by simp [hb.flags_eq hp (models_of_property? hq), hignored], hn⟩

/-! ## Customisation -/

namespace Customisation

theorem apply_name (c : Customisation H) (p : Property H) : (c.apply p).name = p.name := by
  cases c with
  | response op _ r => cases op <;> rfl
  | _ => rfl

theorem apply_type (c : Customisation H) (p : Property H) : (c.apply p).type = p.type := by
  cases c with
  | response op _ r => cases op <;> rfl
  | _ => rfl

theorem apply_getter (c : Customisation H) (p : Property H) :
    (c.apply p).getter = p.getter := by
  cases c with
  | response op _ r => cases op <;> rfl
  | _ => rfl

theorem apply_setter (c : Customisation H) (p : Property H) :
    (c.apply p).setter = p.setter := by
  cases c with
  | response op _ r => cases op <;> rfl
  | _ => rfl

/-- What becomes of the flags depends on the flags only. -/
theorem apply_flags (c : Customisation H) {p q : Property H} (h : q.flags = p.flags) :
    (c.apply q).flags = (c.apply p).flags := by
  cases c with
  | response op _ r => cases op <;> exact h
  | factory _ f => exact h
  | _ => simp only [apply, h]

/-- What becomes of the declared responses depends on these only. -/
theorem apply_declaration (c : Customisation H) {p q : Property H}
    (h : ∀ op, (q.finding op).declaration = (p.finding op).declaration) (op : Absence) :
    ((c.apply q).finding op).declaration = ((c.apply p).finding op).declaration := by
  cases c with
  | response op' _ r =>
    simp only [apply, Property.finding_setFinding]
    split
    · rfl
    · exact h op
  | _ => exact h op

theorem apply_wellDeclared (c : Customisation H) {p : Property H}
    (h : ∀ op, (p.finding op).WellDeclared) (op : Absence) :
    ((c.apply p).finding op).WellDeclared := by
  cases c with
  | response op' _ r =>
    simp only [apply, Property.finding_setFinding]
    split
    · exact ⟨fun _ => rfl, fun _ _ _ => rfl⟩
    · exact h op
  | _ => exact h op

end Customisation

def Blueprint.customised (b : Blueprint H) (c : Customisation H) : Blueprint H :=
  { b with
    creator := b.creator.update c.property c.apply
    bean := b.bean.update c.property c.apply }

namespace Blueprint

variable {b : Blueprint H} (c : Customisation H)

theorem WellFormed.customised (hb : b.WellFormed) : (b.customised c).WellFormed := by
  refine ⟨?_, ?_, fun n p q hp hq => ?_⟩
  · exact (Model.names_update c.apply_name _ _).symm ▸ hb.creator
  · exact (Model.names_update c.apply_name _ _).symm ▸ hb.bean
  · obtain ⟨p₀, hp₀, rfl⟩ := Model.exists_of_update c.apply_name hp
    obtain ⟨q₀, hq₀, rfl⟩ := Model.exists_of_update c.apply_name hq
    obtain ⟨htype, hflags⟩ := hb.agree n p₀ q₀ hp₀ hq₀
    split
    · exact ⟨by rw [c.apply_type, c.apply_type, htype], c.apply_flags hflags⟩
    · exact ⟨htype, hflags⟩

theorem WellDeclared.customised (hb : b.WellDeclared) : (b.customised c).WellDeclared := by
  refine ⟨fun n p q hp hq => ?_, fun n p hp => ?_⟩
  · obtain ⟨p₀, hp₀, rfl⟩ := Model.exists_of_update c.apply_name hp
    obtain ⟨q₀, hq₀, rfl⟩ := Model.exists_of_update c.apply_name hq
    have halike := hb.alike n p₀ q₀ hp₀ hq₀
    split
    · exact c.apply_declaration halike
    · exact halike
  · obtain ⟨p₀, hp₀, rfl⟩ : ∃ p₀, (b.creator.get? n = some p₀ ∨ b.bean.get? n = some p₀) ∧
        p = if n = c.property then c.apply p₀ else p₀ := by
      rcases hp with hp | hp
      · obtain ⟨p₀, hp₀, h⟩ := Model.exists_of_update c.apply_name hp
        exact ⟨p₀, .inl hp₀, h⟩
      · obtain ⟨p₀, hp₀, h⟩ := Model.exists_of_update c.apply_name hp
        exact ⟨p₀, .inr hp₀, h⟩
    have hfinding := hb.finding n p₀ hp₀
    split
    · exact c.apply_wellDeclared hfinding
    · exact hfinding

end Blueprint

namespace Description

variable {d d' : Description H} {c : Customisation H} {cs : List (Customisation H)}

/-- What a customisation changes: the factories, or both models. -/
theorem customise_eq_ok (h : d.customise c = .ok d') :
    (∃ n f, c = .factory n f ∧ d' = d.setFactory n f) ∨
      d' = { d with toBlueprint := d.toBlueprint.customised c } := by
  unfold customise at h
  split at h
  · cases h
  · split at h
    · split at h
      · cases h
        exact .inl ⟨_, _, rfl, rfl⟩
      · cases h
    · cases h
      exact .inr rfl

theorem customiseAll_cons : d.customiseAll (c :: cs) = .ok d' ↔
    ∃ d₁, d.customise c = .ok d₁ ∧ d₁.customiseAll cs = .ok d' := by
  unfold customiseAll
  rw [List.foldlM_cons]
  cases d.customise c with
  | error e => exact ⟨nofun, nofun⟩
  | ok d₁ => exact ⟨fun h => ⟨d₁, rfl, h⟩, fun ⟨_, hd₁, h⟩ => Except.ok.inj hd₁ ▸ h⟩

section

variable {P : Blueprint H → Prop} (hP : ∀ b c, P b → P (b.customised c))
include hP

/-- What every customisation of both models preserves. -/
theorem customise_preserves (hd : P d.toBlueprint) (h : d.customise c = .ok d') :
    P d'.toBlueprint := by
  rcases customise_eq_ok h with ⟨n, f, -, rfl⟩ | rfl
  · exact hd
  · exact hP _ c hd

theorem customiseAll_preserves (hd : P d.toBlueprint) (h : d.customiseAll cs = .ok d') :
    P d'.toBlueprint := by
  induction cs generalizing d with
  | nil =>
    cases h
    exact hd
  | cons c cs ih =>
    obtain ⟨d₁, hc, h⟩ := customiseAll_cons.1 h
    exact ih (customise_preserves hP hd hc) h

end

theorem customiseAll_wellFormed (hd : d.toBlueprint.WellFormed)
    (h : d.customiseAll cs = .ok d') : d'.toBlueprint.WellFormed :=
  customiseAll_preserves (fun _ c hb => hb.customised c) hd h

end Description

/-! ## Declaration -/

def Property.Plain (p : Property H) : Prop := p.flags = {} ∧ p.onNull = {} ∧ p.onOmit = {}

theorem Property.Plain.finding {p : Property H} (hp : p.Plain) (op : Absence) :
    p.finding op = {} := by
  cases op with
  | omitted => exact hp.2.2
  | setToNull => exact hp.2.1

theorem Blueprint.wellDeclared_of_plain {b : Blueprint H}
    (hb : ∀ n p, b.creator.get? n = some p ∨ b.bean.get? n = some p → p.Plain) :
    b.WellDeclared := by
  refine ⟨fun n p q hp hq op => ?_, fun n p hp op => ?_⟩
  · rw [(hb n p (.inl hp)).finding, (hb n q (.inr hq)).finding]
  · rw [(hb n p hp).finding]
    exact ⟨nofun, nofun⟩

/-- What holds of the declarations taken in so far: the names of each model are distinct, and
no property has been customised. -/
structure Assembly.Sound (a : Assembly H) : Prop where
  creator : a.creator.names.Nodup
  bean : a.bean.names.Nodup
  plain : ∀ n p, a.creator.get? n = some p ∨ a.bean.get? n = some p → p.Plain

namespace Assembly

theorem nodup_add {m : Model H} (hm : m.names.Nodup) {p : Property H}
    (hp : m.contains p.name = false) : (m.add p).names.Nodup := by
  have hnew : p.name ∉ m.names := by
    rw [← Model.contains_iff, hp]
    exact Bool.false_ne_true
  rw [Model.names_add, List.nodup_append]
  refine ⟨hm, by simp, fun n hn k hk hnk => ?_⟩
  rw [List.mem_singleton.1 hk] at hnk
  exact hnew (hnk ▸ hn)

theorem get?_add {m : Model H} {p q : Property H} {n : String} (h : (m.add p).get? n = some q) :
    m.get? n = some q ∨ q = p := by
  unfold Model.add Model.get? at h
  rw [List.find?_append] at h
  cases hm : m.properties.find? fun p => p.name = n with
  | some r =>
    rw [hm] at h
    cases h
    exact .inl hm
  | none =>
    rw [hm] at h
    have := List.mem_of_find?_eq_some h
    exact .inr (by simpa using this)

theorem setAccessor_sound {a : Assembly H} (ha : a.Sound) (n : String) (t : ValueType)
    (declared : Property H → Bool) (second : DeclarationFault)
    (set : Property H → Property H) (hname : ∀ p, (set p).name = p.name)
    (hplain : ∀ p, p.Plain → (set p).Plain) : (a.setAccessor n t declared second set).Sound := by
  unfold setAccessor
  cases hn : a.bean.get? n with
  | none =>
    have hcontains : a.bean.contains (set { name := n, type := t }).name = false := by
      rw [hname]
      simp [Model.contains, hn]
    refine ⟨ha.creator, nodup_add ha.bean hcontains, fun k p hp => ?_⟩
    rcases hp with hp | hp
    · exact ha.plain k p (.inl hp)
    · rcases get?_add hp with hp | rfl
      · exact ha.plain k p (.inr hp)
      · exact hplain _ ⟨rfl, rfl, rfl⟩
  | some p =>
    dsimp only
    split
    · exact ⟨ha.creator, ha.bean, ha.plain⟩
    · split
      · exact ⟨ha.creator, ha.bean, ha.plain⟩
      · refine ⟨ha.creator, (Model.names_update hname _ _).symm ▸ ha.bean, fun k q hq => ?_⟩
        rcases hq with hq | hq
        · exact ha.plain k q (.inl hq)
        · dsimp only at hq
          rw [Model.get?_update hname] at hq
          split at hq
          · obtain ⟨r, hr, rfl⟩ := Option.map_eq_some_iff.1 hq
            exact hplain r (ha.plain k r (.inr hr))
          · exact ha.plain k q (.inr hq)

theorem add_sound {a : Assembly H} (ha : a.Sound) (x : Declaration H) : (a.add x).Sound := by
  have hconstructor : ∀ construct, (a.setConstructor construct).Sound := by
    intro construct
    unfold setConstructor
    split <;> exact ⟨ha.creator, ha.bean, ha.plain⟩
  cases x with
  | constructor construct => exact hconstructor construct
  | builder construct text =>
    have h := hconstructor construct
    exact ⟨h.creator, h.bean, h.plain⟩
  | parameter n t =>
    unfold add
    dsimp only
    split
    · exact ⟨ha.creator, ha.bean, ha.plain⟩
    · rename_i hn
      refine ⟨nodup_add ha.creator (by simpa using hn), ha.bean, fun k p hp => ?_⟩
      rcases hp with hp | hp
      · rcases get?_add hp with hp | rfl
        · exact ha.plain k p (.inl hp)
        · exact ⟨rfl, rfl, rfl⟩
      · exact ha.plain k p (.inr hp)
  | getter n t get =>
    exact setAccessor_sound ha n t _ _ (fun p => { p with getter := some get })
      (fun _ => rfl) fun _ hp => hp
  | setter n t set =>
    exact setAccessor_sound ha n t _ _ (fun p => { p with setter := some set })
      (fun _ => rfl) fun _ hp => hp
  | customise c => exact ⟨ha.creator, ha.bean, ha.plain⟩

theorem foldl_sound {a : Assembly H} (ha : a.Sound) (xs : List (Declaration H)) :
    (xs.foldl add a).Sound := by
  induction xs generalizing a with
  | nil => exact ha
  | cons x xs ih => exact ih (add_sound ha x)

theorem empty_sound : ({} : Assembly H).Sound where
  creator := List.nodup_nil
  bean := List.nodup_nil
  plain n p h := by
    rcases h with h | h <;> cases h

/-- Without a fault, a parameter and the property of its name have one type. -/
theorem type_eq_of_typeFaults {a : Assembly H} (h : a.typeFaults = []) {n : String}
    {p q : Property H} (hp : a.creator.get? n = some p) (hq : a.bean.get? n = some q) :
    q.type = p.type := by
  unfold typeFaults at h
  rw [List.filterMap_eq_nil_iff] at h
  have hmem : q ∈ a.bean.properties := List.mem_of_find?_eq_some hq
  have hname : q.name = n := by simpa using List.find?_some hq
  have hq' := h q hmem
  rw [hname, hp] at hq'
  dsimp only at hq'
  by_cases htype : p.type = q.type
  · exact htype.symm
  · rw [if_neg htype] at hq'
    cases hq'

end Assembly

namespace Description

/-- A description is declared without its customisations first. -/
theorem exists_of_declare {name path : String} {xs : List (Declaration H)} {d : Description H}
    (h : declare name path xs = .ok d) : ∃ (d₀ : Description H) (a : Assembly H), a.Sound ∧
      a.typeFaults = [] ∧ d₀.creator = a.creator ∧ d₀.bean = a.bean ∧ d₀.factories = [] ∧
      d₀.customiseAll a.customisations = .ok d := by
  have ha := Assembly.foldl_sound Assembly.empty_sound xs
  unfold declare at h
  dsimp only at h
  generalize xs.foldl Assembly.add {} = a at h ha
  split at h
  · rename_i construct hconstruct hfaults
    have htypes : a.typeFaults = [] := by
      unfold Assembly.allFaults at hfaults
      simp only [List.append_eq_nil_iff] at hfaults
      exact hfaults.1.2
    exact ⟨_, a, ha, htypes, rfl, rfl, rfl, h⟩
  · cases h

theorem declare_wellFormed {name path : String} {xs : List (Declaration H)} {d : Description H}
    (h : declare name path xs = .ok d) : d.toBlueprint.WellFormed := by
  obtain ⟨d₀, a, ha, htypes, hcreator, hbean, -, h⟩ := exists_of_declare h
  refine customiseAll_wellFormed ⟨hcreator ▸ ha.creator, hbean ▸ ha.bean, fun n p q hp hq => ?_⟩ h
  rw [hcreator] at hp
  rw [hbean] at hq
  refine ⟨Assembly.type_eq_of_typeFaults htypes hp hq, ?_⟩
  rw [(ha.plain n p (.inl hp)).1, (ha.plain n q (.inr hq)).1]

theorem declare_wellDeclared {name path : String} {xs : List (Declaration H)}
    {d : Description H} (h : declare name path xs = .ok d) : d.toBlueprint.WellDeclared := by
  obtain ⟨d₀, a, ha, -, hcreator, hbean, -, h⟩ := exists_of_declare h
  refine customiseAll_preserves (fun _ c hb => hb.customised c) ?_ h
  refine Blueprint.wellDeclared_of_plain fun n p hp => ha.plain n p ?_
  rwa [hcreator, hbean] at hp

end Description
end BeanContract
