/-
Look-ups in a registry.

A registry is read through its look-ups, by type and by property of an owner.  The laws here
say what a registration does to each of them.  A registration that is undone leaves every
look-up as it was, wherever the entry came from that it had replaced.
-/
import BeanContract.Factory.Registry

namespace BeanContract
namespace Registry

variable {H : Host} {r r' : Registry H}

theorem get?_register (r : Registry H) (f : Factory H) (t : ValueType) :
    (r.register f).get? t = if t = f.type then some f else r.get? t := by
  unfold get? register
  rw [Table.get?_insert]
  split <;> rfl

theorem contains_register (r : Registry H) (f : Factory H) (t : ValueType) :
    (r.register f).contains t = (decide (t = f.type) || r.contains t) := by
  unfold contains register Table.contains
  rw [Table.get?_insert]
  by_cases ht : t = f.type <;> simp [ht]

theorem get_congr {t : ValueType} (h : r'.get? t = r.get? t) : r'.get t = r.get t := by
  unfold get
  rw [h]

theorem get_eq_ok {t : ValueType} {f : Factory H} : r.get t = .ok f ↔ r.get? t = some f := by
  unfold get
  cases r.get? t with
  | none => simp
  | some g => simp

theorem forProperty_of_entry {key : ValueType × String} {f : Factory H}
    (h : r.byProperty.get? key = some f) (t : ValueType) :
    r.forProperty key.1 key.2 t = .ok f := by
  unfold forProperty
  rw [h]

theorem forProperty_of_none {owner : ValueType} {n : String}
    (h : r.byProperty.get? (owner, n) = none) (t : ValueType) :
    r.forProperty owner n t = r.get t := by
  unfold forProperty
  rw [h]

/-- Properties without a factory of their own draw from that of their type. -/
theorem forProperty_register (r : Registry H) (f : Factory H) (owner : ValueType) (n : String)
    (t : ValueType) : (r.register f).forProperty owner n t =
      if t = f.type ∧ r.byProperty.get? (owner, n) = none then .ok f
      else r.forProperty owner n t := by
  cases hentry : r.byProperty.get? (owner, n) with
  | some g =>
    have hnew : (r.register f).byProperty.get? (owner, n) = some g := hentry
    simp [forProperty_of_entry hnew, forProperty_of_entry hentry]
  | none =>
    have hnew : (r.register f).byProperty.get? (owner, n) = none := hentry
    rw [forProperty_of_none hnew, forProperty_of_none hentry, get, get?_register]
    by_cases ht : t = f.type <;> simp [ht, get]

theorem forProperty_registerProperty (r : Registry H) (o : ValueType) (m : String)
    (f : Factory H) (owner : ValueType) (n : String) (t : ValueType) :
    (r.registerProperty o m f).forProperty owner n t =
      if (owner, n) = (o, m) then .ok f else r.forProperty owner n t := by
  unfold forProperty registerProperty
  rw [Table.get?_insert]
  by_cases h : (owner, n) = (o, m)
  · simp [h]
  · simp only [if_neg h]
    rfl

structure AnswersAs (r' r : Registry H) : Prop where
  type : ∀ t, r'.get? t = r.get? t
  property : ∀ owner n t, r'.forProperty owner n t = r.forProperty owner n t
  contains : ∀ t, r'.contains t = r.contains t

theorem AnswersAs.of_entries (htype : ∀ t, r'.byType.get? t = r.byType.get? t)
    (hproperty : ∀ key, r'.byProperty.get? key = r.byProperty.get? key)
    (hlookups : r'.lookups = r.lookups) : r'.AnswersAs r := by
  have hget : ∀ t, r'.get? t = r.get? t := by
    intro t
    unfold get?
    rw [htype, hlookups]
  refine ⟨hget, ?_, ?_⟩
  · intro owner n t
    unfold forProperty
    rw [hproperty, get_congr (hget t)]
  · intro t
    unfold Registry.contains Table.contains
    rw [htype]

theorem restore_register (r : Registry H) (f : Factory H) :
    ((r.register f).restore f.type (r.byType.get? f.type)).AnswersAs r := by
  refine .of_entries ?_ (fun _ => rfl) rfl
  intro t
  unfold restore register
  rw [Table.get?_put?]
  by_cases ht : t = f.type
  · rw [if_pos ht, ht]
  · rw [if_neg ht, Table.get?_insert, if_neg ht]

theorem restoreProperty_registerProperty (r : Registry H) (o : ValueType) (m : String)
    (f : Factory H) : ((r.registerProperty o m f).restoreProperty o m
      (r.byProperty.get? (o, m))).AnswersAs r := by
  refine .of_entries (fun _ => rfl) ?_ rfl
  intro key
  unfold restoreProperty registerProperty
  rw [Table.get?_put?]
  by_cases hkey : key = (o, m)
  · rw [if_pos hkey, hkey]
  · rw [if_neg hkey, Table.get?_insert, if_neg hkey]

end Registry
end BeanContract
