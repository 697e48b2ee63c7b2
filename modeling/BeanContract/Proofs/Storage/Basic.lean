/-
Beans that store each property in a slot.

The plainest beans keep one slot for each property: the constructor fills the slots of its
parameters, a setter stores, a getter gives what is stored, and equality compares the slots
of the properties that count.  `Blueprint.StoresIn` says so of a blueprint, whatever its code
does with the world.  What a draft of such a blueprint builds is then known slot by slot
(`ends_tryNewBean`).
-/
import BeanContract.Proofs.Bean.Description
import BeanContract.Proofs.Draft.Bean

namespace BeanContract

open Effect (Ends)

variable {H : Host}

/-! ## Lawful values -/

/-- On these data equality is an equivalence, and equal data have agreeing hash codes. -/
structure Lawful (H : Host) (G : Datum H.Object → Prop) : Prop where
  refl : ∀ x, G x → Datum.same x x = true
  symm : ∀ x y, G x → G y → Datum.same x y = true → Datum.same y x = true
  trans : ∀ x y z, G x → G y → G z → Datum.same x y = true → Datum.same y z = true →
    Datum.same x z = true
  hash : ∀ x y, G x → G y → Datum.same x y = true →
    HashAtom.agreesAll x.digest y.digest = true

def Fits (G : Datum H.Object → Prop) (t : ValueType) (v : Value H) : Prop :=
  ∀ x, v = some x → G x ∧ x.type = t

section

variable {G : Datum H.Object → Prop} {t : ValueType} {v w u : Value H}

theorem fits_none : Fits G t (none : Value H) := fun _ h => by cases h

theorem cast_of_fits (h : Fits G t v) : v.cast t = .ok v := by
  cases v with
  | none => rfl
  | some x =>
    have htype := (h x rfl).2
    simp [Value.cast, htype]

namespace Lawful

variable (hG : Lawful H G)
include hG

theorem same_refl (hv : Fits G t v) : Value.same v v = true := by
  cases v with
  | none => rfl
  | some x => simp [Value.same, hG.refl x (hv x rfl).1]

theorem same_symm (hv : Fits G t v) (hw : Fits G t w) (h : Value.same v w = true) :
    Value.same w v = true := by
  cases v with
  | none =>
    cases w with
    | none => rfl
    | some y => cases h
  | some x =>
    cases w with
    | none => cases h
    | some y =>
      simp only [Value.same, Bool.and_eq_true, decide_eq_true_eq] at h ⊢
      exact ⟨h.1.symm, hG.symm x y (hv x rfl).1 (hw y rfl).1 h.2⟩

theorem same_trans (hv : Fits G t v) (hw : Fits G t w) (hu : Fits G t u)
    (h : Value.same v w = true) (h' : Value.same w u = true) : Value.same v u = true := by
  cases v with
  | none =>
    cases w with
    | none => exact h'
    | some y => cases h
  | some x =>
    cases w with
    | none => cases h
    | some y =>
      cases u with
      | none => cases h'
      | some z =>
        simp only [Value.same, Bool.and_eq_true, decide_eq_true_eq] at h h' ⊢
        exact ⟨h.1.trans h'.1,
          hG.trans x y z (hv x rfl).1 (hw y rfl).1 (hu z rfl).1 h.2 h'.2⟩

theorem agrees_of_same (hv : Fits G t v) (hw : Fits G t w) (h : Value.same v w = true) :
    v.hashCode.agrees w.hashCode = true := by
  cases v with
  | none =>
    cases w with
    | none => rfl
    | some y => cases h
  | some x =>
    cases w with
    | none => cases h
    | some y =>
      simp only [Value.same, Bool.and_eq_true] at h
      exact hG.hash x y (hv x rfl).1 (hw y rfl).1 h.2

end Lawful
end

/-! ## Slots -/

/-- Objects with slots: which objects are beans, what their slots hold, and what the slots
that no parameter fills hold at first. -/
structure Storage (H : Host) where
  Bean : H.Object → Prop
  slot : H.Object → String → Value H
  initial : String → Value H

/-- No response to an absence of the property is declared, none is known to be an error, and
the property may be null. -/
structure Property.Undeclared (p : Property H) : Prop where
  notNull : p.flags.notNull = false
  declared : ∀ op, (p.finding op).declared = false
  response : ∀ op, (p.finding op).response ≠ some .error

namespace Blueprint

def Undeclared (b : Blueprint H) : Prop :=
  ∀ p ∈ b.creator.properties ++ b.bean.properties, p.Undeclared

def isCompared (b : Blueprint H) (n : String) : Bool :=
  (b.property? n).any fun p => p.flags.significant && !p.flags.ignored

def Takes (b : Blueprint H) (G : Datum H.Object → Prop) (args : Args H) : Prop :=
  ∀ n v, args.get? n = some v → ∃ p, b.creator.get? n = some p ∧ Fits G p.type v

def Accepts (b : Blueprint H) (G : Datum H.Object → Prop) (n : String) (v : Value H) : Prop :=
  ∀ p, b.property? n = some p → Fits G p.type v

/-- The beans of the blueprint store each property in a slot of its own. -/
structure StoresIn (b : Blueprint H) (S : Storage H) (G : Datum H.Object → Prop) : Prop where
  initial : ∀ n, b.Accepts G n (S.initial n)
  construct : ∀ args w, b.Takes G args → Ends (b.construct args) w fun o _ => S.Bean o ∧
    ∀ n, S.slot o n = if b.isParameter n then (args.get? n).getD none else S.initial n
  set : ∀ p ∈ b.bean.properties, ∀ set, p.setter = some set → ∀ o v w, S.Bean o →
    Fits G p.type v → Ends (set o v) w fun o' _ => S.Bean o' ∧
      ∀ n, S.slot o' n = if n = p.name then v else S.slot o n
  get : ∀ p ∈ b.bean.properties, ∀ get, p.getter = some get → ∀ o w, S.Bean o →
    Ends (get o) w fun v _ => v = S.slot o p.name
  same : ∀ o o', S.Bean o → S.Bean o' → (H.same o o' = true ↔
    ∀ n, b.isCompared n = true → Value.same (S.slot o n) (S.slot o' n) = true)
  digest : ∀ o o', S.Bean o → S.Bean o' →
    (∀ n, b.isCompared n = true →
      (S.slot o n).hashCode.agrees (S.slot o' n).hashCode = true) →
    HashAtom.agreesAll (H.digest o) (H.digest o') = true
  text : ∀ o, S.Bean o → ∃ text, H.show? o = .ok text ∧ text.isEmpty = false
  builderText : ∀ render, b.builderText = some render → ∀ args w, b.Takes G args →
    Ends (render args) w fun text _ => text.isEmpty = false

theorem SameCode.isCompared {b b' : Blueprint H} (h : b.SameCode b') (n : String) :
    b'.isCompared n = b.isCompared n :=
  h.any_flags n fun f => f.significant && !f.ignored

theorem SameCode.takes {b b' : Blueprint H} (h : b.SameCode b') {G : Datum H.Object → Prop}
    {args : Args H} (ha : b'.Takes G args) : b.Takes G args := by
  intro n v hv
  obtain ⟨q, hq, hfits⟩ := ha n v hv
  rcases h.creator_rel n with ⟨p, q', hp, hq', hpq⟩ | ⟨-, hq'⟩
  · rw [hq'] at hq
    cases hq
    exact ⟨p, hp, hpq.type ▸ hfits⟩
  · rw [hq'] at hq
    cases hq

theorem SameCode.accepts {b b' : Blueprint H} (h : b.SameCode b') {G : Datum H.Object → Prop}
    {n : String} {v : Value H} (hv : b.Accepts G n v) : b'.Accepts G n v := by
  intro q hq
  rcases h.property_rel n with ⟨p, q', hp, hq', hpq⟩ | ⟨-, hq'⟩
  · rw [hq'] at hq
    cases hq
    rw [hpq.type]
    exact hv p hp
  · rw [hq'] at hq
    cases hq

/-- Beans are stored alike whatever is known about the absence of their properties. -/
theorem SameCode.storesIn {b b' : Blueprint H} (h : b.SameCode b') {S : Storage H}
    {G : Datum H.Object → Prop} (hst : b.StoresIn S G) : b'.StoresIn S G where
  initial n := h.accepts (hst.initial n)
  construct args w ha := by
    rw [h.construct]
    simp only [h.isParameter]
    exact hst.construct args w (h.takes ha)
  set q hq set hset o v w ho hv := by
    obtain ⟨p, hp, hpq⟩ := exists_of_forall₂ h.bean hq
    rw [hpq.name]
    rw [hpq] at hset
    rw [hpq.type] at hv
    exact hst.set p hp set hset o v w ho hv
  get q hq get hget o w ho := by
    obtain ⟨p, hp, hpq⟩ := exists_of_forall₂ h.bean hq
    rw [hpq.name]
    rw [hpq] at hget
    exact hst.get p hp get hget o w ho
  same o o' ho ho' := by
    simp only [h.isCompared]
    exact hst.same o o' ho ho'
  digest o o' ho ho' := by
    simp only [h.isCompared]
    exact hst.digest o o' ho ho'
  text := hst.text
  builderText render hrender args w ha := by
    rw [h.builderText] at hrender
    exact hst.builderText render hrender args w (h.takes ha)

end Blueprint

/-- What a slot of the bean of a draft holds: what its setter was given, or else what the
constructor put there. -/
def Draft.content (S : Storage H) (d : Draft H) (n : String) : Value H :=
  match (d.blueprint.bean.get? n).bind d.written with
  | some v => v
  | none => if d.blueprint.isParameter n then (d.arg? n).getD none else S.initial n

namespace Draft

/-- Every value that is staged, or that a reset would stage, fits its property. -/
structure Fitting (G : Datum H.Object → Prop) (d : Draft H) : Prop where
  expected : ∀ n v, d.expected.get? n = some v → d.blueprint.Accepts G n v
  initial : ∀ values, d.initial = some values → ∀ n v, values.get? n = some v →
    d.blueprint.Accepts G n v

def Holds (S : Storage H) (d : Draft H) (bean : Value H) : Prop :=
  ∃ o, bean = some (.object d.blueprint.path o) ∧ S.Bean o ∧ ∀ n, S.slot o n = d.content S n

end Draft
end BeanContract
