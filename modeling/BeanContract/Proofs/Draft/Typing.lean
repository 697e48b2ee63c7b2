/-
Drafts of well-typed values.

Which properties a blueprint has, and of which types, is settled when its description is built:
customising it and learning about absence change neither (`Blueprint.signature`), and a
customisation that brings a factory is refused unless the factory is of the type of its property
(`Description.matching_of_declare`).

If everything that is staged in a draft of such a blueprint is null or of the type of its property
(`Draft.Typed`), then the constructor and the setters get nothing else, and no setter refuses what
it gets for its type (`Draft.Typed.delivers`).
-/
import BeanContract.Proofs.Storage.Draft

namespace BeanContract

variable {H : Host}

abbrev Value.HasType (t : ValueType) (v : Value H) : Prop := Fits (fun _ => True) t v

/-! ## Signatures -/

namespace Model

/-- The names and the types of the properties, in order. -/
def signature (m : Model H) : List (String × ValueType) :=
  m.properties.map fun p => (p.name, p.type)

theorem map_type_get? (m : Model H) (n : String) :
    (m.get? n).map (·.type) = (m.signature.find? fun entry => entry.1 = n).map (·.2) := by
  obtain ⟨ps⟩ := m
  unfold get? signature
  dsimp only
  induction ps with
  | nil => rfl
  | cons p ps ih =>
    rw [List.map_cons, List.find?_cons, List.find?_cons]
    by_cases hn : p.name = n
    · simp [hn]
    · simp only [hn, decide_false, ih]

theorem signature_update {f : Property H → Property H} (hname : ∀ p, (f p).name = p.name)
    (htype : ∀ p, (f p).type = p.type) (m : Model H) (n : String) :
    (m.update n f).signature = m.signature := by
  unfold update signature
  rw [List.map_map]
  refine List.map_congr_left fun p _ => ?_
  by_cases hn : p.name = n
  · simp [hn, hname p, htype p]
  · simp [hn]

theorem signature_eq {m m' : Model H}
    (h : List.Forall₂ Property.SameCode m.properties m'.properties) :
    m'.signature = m.signature := by
  obtain ⟨ps⟩ := m
  obtain ⟨qs⟩ := m'
  unfold signature
  dsimp only at h ⊢
  induction h with
  | nil => rfl
  | cons hpq _ ih => rw [List.map_cons, List.map_cons, ih, hpq.name, hpq.type]

end Model

namespace Blueprint

def signature (b : Blueprint H) : String × List (String × ValueType) × List (String × ValueType) :=
  (b.path, b.creator.signature, b.bean.signature)

def declared? (b : Blueprint H) (n : String) : Option ValueType := (b.property? n).map (·.type)

variable {b b' : Blueprint H}

theorem type_of_signature (h : b'.signature = b.signature) : b'.type = b.type :=
  congrArg ValueType.object (congrArg Prod.fst h)

theorem declared?_of_signature (h : b'.signature = b.signature) (n : String) :
    b'.declared? n = b.declared? n := by
  have hmap : ∀ b : Blueprint H, b.declared? n =
      ((b.bean.get? n).map (·.type)).or ((b.creator.get? n).map (·.type)) := fun b => by
    unfold declared? property?
    cases b.bean.get? n <;> rfl
  have hcreator : b'.creator.signature = b.creator.signature := congrArg (·.2.1) h
  have hbean : b'.bean.signature = b.bean.signature := congrArg (·.2.2) h
  rw [hmap, hmap, Model.map_type_get?, Model.map_type_get?, Model.map_type_get?,
    Model.map_type_get?, hcreator, hbean]

theorem signature_customised (b : Blueprint H) (c : Customisation H) :
    (b.customised c).signature = b.signature := by
  unfold signature customised
  dsimp only
  rw [Model.signature_update c.apply_name c.apply_type,
    Model.signature_update c.apply_name c.apply_type]

theorem SameCode.signature (h : b.SameCode b') : b'.signature = b.signature := by
  unfold Blueprint.signature
  rw [h.path, Model.signature_eq h.creator, Model.signature_eq h.bean]

/-- A value that is of the declared type is accepted. -/
theorem accepts_of_declared {n : String} {t : ValueType} (hn : b.declared? n = some t)
    {v : Value H} (hv : v.HasType t) : b.Accepts (fun _ => True) n v := by
  intro p hp
  have htype : p.type = t := by
    unfold declared? at hn
    rw [hp] at hn
    exact Option.some.inj hn
  rwa [htype]

end Blueprint

/-! ## The factories of descriptions -/

namespace Description

def Matching (d : Description H) : Prop :=
  ∀ n f, (n, f) ∈ d.factories → d.declared? n = some f.type

variable {d d' : Description H} {c : Customisation H} {cs : List (Customisation H)}

theorem signature_customise (h : d.customise c = .ok d') : d'.signature = d.signature := by
  rcases customise_eq_ok h with ⟨n, f, -, rfl⟩ | rfl
  · rfl
  · exact d.toBlueprint.signature_customised c

/-- A factory is taken for a property of its type only. -/
theorem declared?_of_customise {n : String} {f : Factory H}
    (h : d.customise (.factory n f) = .ok d') : d.declared? n = some f.type := by
  unfold customise Customisation.property at h
  unfold Blueprint.declared?
  dsimp only at h
  cases hp : d.property? n with
  | none => simp [hp] at h
  | some p =>
    simp only [hp] at h
    split at h
    · rename_i htype
      exact congrArg some htype.symm
    · cases h

theorem Matching.customise (hd : d.Matching) (h : d.customise c = .ok d') : d'.Matching := by
  intro m g hg
  rw [Blueprint.declared?_of_signature (signature_customise h)]
  rcases customise_eq_ok h with ⟨n, f, rfl, rfl⟩ | rfl
  · rcases List.mem_append.1 hg with hg | hg
    · exact hd m g (List.mem_filter.1 hg).1
    · cases List.mem_singleton.1 hg
      exact declared?_of_customise h
  · exact hd m g hg

theorem Matching.customiseAll (hd : d.Matching) (h : d.customiseAll cs = .ok d') :
    d'.Matching ∧ d'.signature = d.signature := by
  induction cs generalizing d with
  | nil =>
    cases h
    exact ⟨hd, rfl⟩
  | cons c cs ih =>
    obtain ⟨d₁, hc, h⟩ := customiseAll_cons.1 h
    obtain ⟨hd', hsignature⟩ := ih (hd.customise hc) h
    exact ⟨hd', hsignature.trans (signature_customise hc)⟩

theorem matching_of_declare {name path : String} {xs : List (Declaration H)}
    (h : declare name path xs = .ok d) : d.Matching := by
  obtain ⟨d₀, a, -, -, -, -, hfactories, h⟩ := exists_of_declare h
  have hd₀ : d₀.Matching := fun n f hf => by
    rw [hfactories] at hf
    cases hf
  exact (hd₀.customiseAll h).1

end Description

/-! ## Drafts -/

structure Blueprint.Among (built : Description H → Prop) (b : Blueprint H) : Prop where
  wellFormed : b.WellFormed
  signature : ∃ d, built d ∧ b.signature = d.signature

namespace Blueprint.Among

variable {built : Description H → Prop} {b b' : Blueprint H}

theorem customised (h : b.Among built) (c : Customisation H) : (b.customised c).Among built := by
  obtain ⟨d, hd, hsignature⟩ := h.signature
  exact ⟨h.wellFormed.customised c, d, hd, (b.signature_customised c).trans hsignature⟩

theorem sameCode (h : b.Among built) (hcode : b.SameCode b') : b'.Among built := by
  obtain ⟨d, hd, hsignature⟩ := h.signature
  exact ⟨hcode.wellFormed h.wellFormed, d, hd, hcode.signature.trans hsignature⟩

end Blueprint.Among

namespace Draft

/-- A draft of a blueprint among these, with nothing staged but null and values of the declared
types. -/
structure Typed (built : Description H → Prop) (d : Draft H) : Prop where
  blueprint : d.blueprint.Among built
  fitting : d.Fitting fun _ => True

/-- What is staged for a property, or goes back to it on a reset, is null or of the type that
each model declares for it.  So is what the constructor gets under the name of a parameter and
what a setter gets, which no setter refuses for its type. -/
structure Delivers (d : Draft H) : Prop where
  staged : ∀ n v, d.expected.get? n = some v →
    ∀ p, d.blueprint.creator.get? n = some p ∨ d.blueprint.bean.get? n = some p → v.HasType p.type
  initial : ∀ values, d.initial = some values → ∀ n v, values.get? n = some v →
    ∀ p, d.blueprint.creator.get? n = some p ∨ d.blueprint.bean.get? n = some p → v.HasType p.type
  passed : ∀ n v, d.args.get? n = some v →
    ∃ p, d.blueprint.creator.get? n = some p ∧ v.HasType p.type
  written : ∀ p ∈ d.blueprint.bean.properties, ∀ v, d.written p = some v → v.HasType p.type ∧
    ∃ set, p.setter = some set ∧ ∀ o, p.write o v = guarded (set o v)

namespace Typed

variable {built : Description H → Prop} {d : Draft H} {b : Blueprint H} {n : String}

protected theorem ofBlueprint (h : b.Among built) : (Draft.ofBlueprint b).Typed built where
  blueprint := h
  fitting := ⟨(fun _ _ hv => by cases hv), fun _ hv => by cases hv⟩

theorem put (h : d.Typed built) {v : Value H} (hv : d.blueprint.Accepts (fun _ => True) n v) :
    (d.put n v).Typed built :=
  ⟨h.blueprint, h.fitting.put hv⟩

theorem leaveOut (h : d.Typed built) (n : String) : (d.leaveOut n).Typed built :=
  ⟨h.blueprint, h.fitting.leaveOut n⟩

theorem prefer (h : d.Typed built) (p : Preference) : (d.prefer p).Typed built :=
  ⟨h.blueprint, h.fitting.expected, h.fitting.initial⟩

theorem restore (h : d.Typed built) {before : Option (Value H)}
    (hbefore : ∀ v, before = some v → d.blueprint.Accepts (fun _ => True) n v) :
    (d.restore n before).Typed built := by
  cases before with
  | none => exact h.leaveOut n
  | some v => exact h.put (hbefore v rfl)

/-- Going back to the primary values, or to new ones. -/
theorem restart (h : d.Typed built) {values : Table String (Value H)}
    (hvalues : ∀ n v, values.get? n = some v → d.blueprint.Accepts (fun _ => True) n v) :
    { d with initial := some values, expected := values }.Typed built :=
  ⟨h.blueprint, hvalues, fun _ heq => Option.some.inj heq ▸ hvalues⟩

theorem goBack (h : d.Typed built) {values : Table String (Value H)}
    (hvalues : d.initial = some values) : { d with expected := values }.Typed built :=
  ⟨h.blueprint, h.fitting.initial values hvalues, h.fitting.initial⟩

/-- What an accepted value is to one model it is to both. -/
theorem hasType (h : d.Typed built) {v : Value H}
    (hv : d.blueprint.Accepts (fun _ => True) n v) {p : Property H}
    (hp : d.blueprint.creator.get? n = some p ∨ d.blueprint.bean.get? n = some p) :
    v.HasType p.type := by
  rcases hp with hp | hp
  · obtain ⟨q, hq, htype⟩ := h.blueprint.wellFormed.property?_of_creator hp
    exact htype ▸ hv q hq
  · exact hv p (Blueprint.property?_of_bean hp)

/-- Only what fits is delivered. -/
theorem delivers (h : d.Typed built) : d.Delivers where
  staged n v hv p hp := h.hasType (h.fitting.expected n v hv) hp
  initial values hvalues n v hv p hp := h.hasType (h.fitting.initial values hvalues n v hv) hp
  passed := takes_args h.blueprint.wellFormed h.fitting
  written p hp v hv := by
    have hfits := fits_written h.blueprint.wellFormed h.fitting hp hv
    obtain ⟨-, -, set, hset⟩ := exists_setter_of_written hv
    refine ⟨hfits, set, hset, fun o => ?_⟩
    unfold Property.write
    rw [hset]
    dsimp only
    rw [cast_of_fits hfits]
    rfl

end Typed

/-- Beans are of the type of their blueprint. -/
theorem hasType_of_newBean {d : Draft H} {bean : Value H} {w w' : H.World}
    (h : d.newBean w = .ok bean w') : bean.HasType d.type := by
  obtain ⟨o, w₁, -, hbean⟩ := Effect.bind_eq_ok.1 (tryNewBean_of_newBean h)
  obtain ⟨o', w₂, -, hbean⟩ := Effect.bind_eq_ok.1 hbean
  obtain ⟨rfl, -⟩ := Effect.pure_eq_ok.1 hbean
  rintro x ⟨⟩
  exact ⟨trivial, rfl⟩

end Draft
end BeanContract
