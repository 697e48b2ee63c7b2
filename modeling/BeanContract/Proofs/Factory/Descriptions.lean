/-
Descriptions in a registry.

A registry in which beans were described one after the other builds the beans of a type by the
last description of that type (`Description.current`).  The factories that descriptions bring
along are kept by type and property alone: that of an earlier description stays until a later
description of the type brings one for the same property (`Description.override`).
-/
import Mathlib.Data.List.Induction
import BeanContract.Proofs.Factory.Registry

namespace BeanContract

variable {H : Host}

namespace Description

/-- The factory that the description brings for a property, the last one if there are several. -/
def factory? (d : Description H) (n : String) : Option (Factory H) :=
  d.factories.reverse.findSome? fun entry => if entry.1 = n then some entry.2 else none

/-- The descriptions of one type. -/
def ofType (ds : List (Description H)) (t : ValueType) : List (Description H) :=
  ds.filter fun d => d.type = t

/-- The last description of the type. -/
def current (ds : List (Description H)) (t : ValueType) : Option (Description H) :=
  (ofType ds t).getLast?

def override (ds : List (Description H)) (owner : ValueType) (n : String) : Option (Factory H) :=
  (ofType ds owner).reverse.findSome? fun d => d.factory? n

/-- The descriptions of other types, and `d` alone of its own. -/
def only (d : Description H) (ds : List (Description H)) : List (Description H) :=
  ds.filter (fun e => e.type ≠ d.type) ++ [d]

variable {ds : List (Description H)} {d : Description H} {t owner : ValueType} {n : String}
  {f : Factory H}

theorem factory?_mem (h : d.factory? n = some f) : (n, f) ∈ d.factories := by
  obtain ⟨entry, hmem, hentry⟩ := List.exists_of_findSome?_eq_some h
  split at hentry
  · rename_i hname
    cases hentry
    rw [← hname]
    exact List.mem_reverse.1 hmem
  · cases hentry

theorem mem_ofType : d ∈ ofType ds t ↔ d ∈ ds ∧ d.type = t := by
  unfold ofType
  rw [List.mem_filter, decide_eq_true_iff]

theorem ofType_concat (ds : List (Description H)) (d : Description H) (t : ValueType) :
    ofType (ds ++ [d]) t = ofType ds t ++ if d.type = t then [d] else [] := by
  unfold ofType
  rw [List.filter_append]
  by_cases ht : d.type = t <;> simp [ht]

theorem ofType_only (d : Description H) (ds : List (Description H)) (t : ValueType) :
    ofType (d.only ds) t = if d.type = t then [d] else ofType ds t := by
  unfold only
  rw [ofType_concat]
  unfold ofType
  rw [List.filter_filter]
  by_cases ht : d.type = t
  · simp [ht]
  · rw [if_neg ht, if_neg ht, List.append_nil]
    refine List.filter_congr fun e _ => ?_
    by_cases he : e.type = t
    · simp [he, Ne.symm ht]
    · simp [he]

theorem current_mem (h : current ds t = some d) : d ∈ ds ∧ d.type = t :=
  mem_ofType.1 (List.mem_of_getLast? h)

theorem override_mem (h : override ds owner n = some f) :
    ∃ d ∈ ds, d.type = owner ∧ d.factory? n = some f := by
  obtain ⟨d, hmem, hd⟩ := List.exists_of_findSome?_eq_some h
  obtain ⟨hmem, ht⟩ := mem_ofType.1 (List.mem_reverse.1 hmem)
  exact ⟨d, hmem, ht, hd⟩

/-- The factories of a description are its own, unless an earlier one of its type has left one
that it does not replace. -/
theorem override_of_current (hd : current ds d.type = some d)
    (hleft : ∀ e ∈ ds, e.type = d.type → d.factory? n = none → e.factory? n = none) :
    override ds d.type n = d.factory? n := by
  obtain ⟨earlier, hds⟩ := List.getLast?_eq_some_iff.1 hd
  have hmem : ∀ e ∈ earlier, e ∈ ds ∧ e.type = d.type := fun e he =>
    mem_ofType.1 (by rw [hds]; exact List.mem_append_left _ he)
  unfold override
  rw [hds, List.reverse_append, List.reverse_singleton, List.singleton_append,
    List.findSome?_cons]
  cases hn : d.factory? n with
  | some f => rfl
  | none =>
    refine List.findSome?_eq_none_iff.2 fun e he => ?_
    obtain ⟨hmem, ht⟩ := hmem e (List.mem_reverse.1 he)
    exact hleft e hmem ht hn

/-- Alone of its type, a description counts, and every other one as before. -/
theorem current_only (d : Description H) (ds : List (Description H)) (t : ValueType) :
    current (d.only ds) t = if d.type = t then some d else current ds t := by
  unfold current
  rw [ofType_only]
  split <;> rfl

theorem override_only (d : Description H) (ds : List (Description H)) (owner : ValueType)
    (n : String) : override (d.only ds) owner n =
      if d.type = owner then d.factory? n else override ds owner n := by
  unfold override
  rw [ofType_only]
  split
  · simp
  · rfl

end Description

namespace Registry

open Description (current override)

variable {r : Registry H} {d : Description H} {t owner : ValueType} {n : String}

def describe (r : Registry H) (ds : List (Description H)) : Registry H :=
  ds.foldl registerBean r

theorem describe_concat (r : Registry H) (ds : List (Description H)) (d : Description H) :
    r.describe (ds ++ [d]) = (r.describe ds).registerBean d := by
  unfold describe
  rw [List.foldl_append]
  rfl

/-- The entries of a registry with more factories for properties of one owner. -/
theorem get?_registerProperties (l : List (String × Factory H)) (r : Registry H) (o : ValueType) :
    (∀ t, (l.foldl (fun r entry => r.registerProperty o entry.1 entry.2) r).get? t = r.get? t) ∧
    ∀ owner n, (l.foldl (fun r entry => r.registerProperty o entry.1 entry.2)
        r).byProperty.get? (owner, n) =
      (if o = owner then l.reverse.findSome? fun entry =>
          if entry.1 = n then some entry.2 else none
        else none).or (r.byProperty.get? (owner, n)) := by
  induction l generalizing r with
  | nil => exact ⟨fun _ => rfl, fun owner n => by simp⟩
  | cons entry l ih =>
    obtain ⟨htype, hproperty⟩ := ih (r.registerProperty o entry.1 entry.2)
    refine ⟨htype, fun owner n => ?_⟩
    rw [List.foldl_cons, hproperty]
    unfold registerProperty
    rw [Table.get?_insert, List.reverse_cons, List.findSome?_append]
    by_cases ho : o = owner
    · by_cases hn : entry.1 = n
      · simp [ho, hn]
      · simp [ho, hn, Ne.symm hn]
    · simp [ho, Ne.symm ho]

theorem get?_registerBean (r : Registry H) (d : Description H) (t : ValueType) :
    (r.registerBean d).get? t =
      if t = d.type then some (.ofBlueprint d.toBlueprint) else r.get? t := by
  unfold registerBean
  rw [get?_register, (get?_registerProperties d.factories r d.type).1]
  rfl

theorem byProperty_registerBean (r : Registry H) (d : Description H) (owner : ValueType)
    (n : String) : (r.registerBean d).byProperty.get? (owner, n) =
      (if d.type = owner then d.factory? n else none).or (r.byProperty.get? (owner, n)) :=
  (get?_registerProperties d.factories r d.type).2 owner n

theorem get?_describe (r : Registry H) (ds : List (Description H)) (t : ValueType) :
    (r.describe ds).get? t =
      ((current ds t).map fun d => .ofBlueprint d.toBlueprint).or (r.get? t) := by
  induction ds using List.reverseRecOn with
  | nil => rfl
  | append_singleton ds d ih =>
    rw [describe_concat, get?_registerBean, ih]
    unfold current
    rw [Description.ofType_concat]
    by_cases ht : d.type = t
    · simp [ht]
    · simp [ht, Ne.symm ht]

theorem byProperty_describe (r : Registry H) (ds : List (Description H)) (owner : ValueType)
    (n : String) : (r.describe ds).byProperty.get? (owner, n) =
      (override ds owner n).or (r.byProperty.get? (owner, n)) := by
  induction ds using List.reverseRecOn with
  | nil => rfl
  | append_singleton ds d ih =>
    rw [describe_concat, byProperty_registerBean, ih]
    unfold override
    rw [Description.ofType_concat]
    by_cases ho : d.type = owner
    · rw [if_pos ho, if_pos ho, List.reverse_append, List.reverse_singleton,
        List.singleton_append, List.findSome?_cons]
      cases d.factory? n <;> rfl
    · simp [ho]

/-- A property draws from the factory that a description brought for it, and else as it did. -/
theorem forProperty_describe (r : Registry H) (ds : List (Description H)) (owner : ValueType)
    (n : String) (t : ValueType) : (r.describe ds).forProperty owner n t =
      match (override ds owner n).or (r.byProperty.get? (owner, n)) with
      | some f => .ok f
      | none => (r.describe ds).get t := by
  rw [← byProperty_describe r ds owner n]
  rfl

end Registry
end BeanContract
