/-
The laws of the pool.

A pool is read through its free drafts and through the number of drafts it made, both by type.
The laws here say what taking a draft and giving one back do to each of them, what all free
drafts go on having in common (`Holds`), and how many drafts are in use (`Lends`).
-/
import BeanContract.Draft.Pool

namespace BeanContract
namespace Pool

variable {H : Host} {p : Pool H} {b : Blueprint H}

@[simp]
theorem freeDrafts_empty (t : ValueType) : (empty : Pool H).freeDrafts t = [] := rfl

@[simp]
theorem allocated_empty (t : ValueType) : (empty : Pool H).allocated t = 0 := rfl

theorem acquire_of_free {d : Draft H} {ds : List (Draft H)}
    (h : p.freeDrafts b.type = d :: ds) :
    p.acquire b = (d, { p with free := p.free.insert b.type ds }) := by
  unfold acquire
  rw [h]

theorem acquire_of_none (h : p.freeDrafts b.type = []) : p.acquire b =
    (.ofBlueprint b, { p with made := p.made.insert b.type (p.allocated b.type + 1) }) := by
  unfold acquire
  rw [h]

/-- A draft is made only if none is free. -/
theorem allocated_acquire (p : Pool H) (b : Blueprint H) (t : ValueType) :
    (p.acquire b).2.allocated t =
      if t = b.type ∧ p.freeDrafts b.type = [] then p.allocated t + 1 else p.allocated t := by
  cases h : p.freeDrafts b.type with
  | nil =>
    rw [acquire_of_none h]
    unfold allocated
    rw [Table.get?_insert]
    by_cases ht : t = b.type
    · simp [ht]
    · simp [ht]
  | cons d ds =>
    rw [acquire_of_free h]
    simp [allocated]

theorem freeDrafts_acquire (p : Pool H) (b : Blueprint H) (t : ValueType) :
    (p.acquire b).2.freeDrafts t =
      if t = b.type then (p.freeDrafts t).tail else p.freeDrafts t := by
  cases h : p.freeDrafts b.type with
  | nil =>
    rw [acquire_of_none h]
    show p.freeDrafts t = _
    by_cases ht : t = b.type
    · rw [if_pos ht, ht, h]
      rfl
    · rw [if_neg ht]
  | cons d ds =>
    rw [acquire_of_free h]
    show ((p.free.insert b.type ds).get? t).getD [] = _
    rw [Table.get?_insert]
    by_cases ht : t = b.type
    · rw [if_pos ht, if_pos ht, ht, h]
      rfl
    · rw [if_neg ht, if_neg ht]
      rfl

theorem acquire_mem (p : Pool H) (b : Blueprint H) :
    (p.acquire b).1 ∈ p.freeDrafts b.type ∨ (p.acquire b).1 = .ofBlueprint b := by
  cases h : p.freeDrafts b.type with
  | nil =>
    right
    rw [acquire_of_none h]
  | cons d ds =>
    left
    rw [acquire_of_free h]
    exact List.mem_cons_self

@[simp]
theorem allocated_release (p : Pool H) (d : Draft H) (t : ValueType) :
    (p.release d).allocated t = p.allocated t := rfl

theorem freeDrafts_release (p : Pool H) (d : Draft H) (t : ValueType) :
    (p.release d).freeDrafts t =
      if t = d.type then d :: p.freeDrafts t else p.freeDrafts t := by
  show ((p.free.insert d.type (d :: p.freeDrafts d.type)).get? t).getD [] = _
  rw [Table.get?_insert]
  by_cases ht : t = d.type
  · rw [if_pos ht, if_pos ht, ht]
    rfl
  · rw [if_neg ht, if_neg ht]
    rfl

/-! ## What free drafts have in common -/

/-- Every free draft satisfies `D`, with the type it is kept for. -/
def Holds (D : ValueType → Draft H → Prop) (p : Pool H) : Prop :=
  ∀ t, ∀ d ∈ p.freeDrafts t, D t d

namespace Holds

variable {D : ValueType → Draft H → Prop}

protected theorem empty : Holds D (empty : Pool H) := by
  intro t d hd
  simp at hd

protected theorem acquire (h : Holds D p) (b : Blueprint H) : Holds D (p.acquire b).2 := by
  intro t d hd
  rw [freeDrafts_acquire] at hd
  split at hd
  · exact h t d (List.mem_of_mem_tail hd)
  · exact h t d hd

/-- The draft that is taken is one of them, or a new one. -/
theorem acquired (h : Holds D p) (hnew : D b.type (.ofBlueprint b)) :
    D b.type (p.acquire b).1 := by
  cases p.acquire_mem b with
  | inl hmem => exact h b.type _ hmem
  | inr heq => rwa [heq]

protected theorem release (h : Holds D p) {d : Draft H} (hd : D d.type d) :
    Holds D (p.release d) := by
  intro t e he
  rw [freeDrafts_release] at he
  split at he
  · rename_i ht
    rw [List.mem_cons] at he
    cases he with
    | inl heq =>
      rw [heq, ht]
      exact hd
    | inr hmem => exact h t e hmem
  · exact h t e he

end Holds

/-! ## Drafts in use -/

/-- Free drafts are kept for their own types, and of the drafts made for each type the ones that
are not free are `out` many. -/
structure Lends (p : Pool H) (out : ValueType → Nat) : Prop where
  typed : p.Holds fun t d => d.type = t
  allocated : ∀ t, p.allocated t = (p.freeDrafts t).length + out t

namespace Lends

variable {out : ValueType → Nat}

protected theorem empty : (empty : Pool H).Lends fun _ => 0 := ⟨.empty, fun _ => rfl⟩

protected theorem acquire (h : p.Lends out) (b : Blueprint H) :
    (p.acquire b).2.Lends fun t => out t + if t = b.type then 1 else 0 := by
  refine ⟨h.typed.acquire b, fun t => ?_⟩
  have hmade := h.allocated t
  rw [allocated_acquire, freeDrafts_acquire]
  by_cases ht : t = b.type
  · subst ht
    cases hfree : p.freeDrafts b.type with
    | nil =>
      rw [hfree, List.length_nil] at hmade
      simp [hmade]
    | cons d ds =>
      rw [hfree, List.length_cons] at hmade
      simp
      omega
  · simpa [ht] using hmade

protected theorem release {d : Draft H}
    (h : p.Lends fun t => out t + if t = d.type then 1 else 0) : (p.release d).Lends out := by
  refine ⟨h.typed.release rfl, fun t => ?_⟩
  have hmade := h.allocated t
  rw [allocated_release, freeDrafts_release]
  by_cases ht : t = d.type
  · simp [ht] at hmade ⊢
    omega
  · simpa [ht] using hmade

end Lends

end Pool
end BeanContract
