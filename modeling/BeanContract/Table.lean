/-
Finite maps with at most one entry per key.

A table is read through `get?`, and each operation is fixed by what it does to
`get?`: `get?_insert`, `get?_erase` and `get?_keep`.  The entries keep no order
that a caller may rely on.
-/
namespace BeanContract

structure Table (κ α : Type) where
  entries : List (κ × α)
  distinct : (entries.map (·.1)).Nodup

namespace Table

variable {κ α : Type}

def empty : Table κ α := ⟨[], List.nodup_nil⟩

instance : Inhabited (Table κ α) := ⟨empty⟩

def size (t : Table κ α) : Nat := t.entries.length

def keys (t : Table κ α) : List κ := t.entries.map (·.1)

def values (t : Table κ α) : List α := t.entries.map (·.2)

private theorem keys_filter_nodup {l : List (κ × α)} (h : (l.map (·.1)).Nodup) (p : κ × α → Bool) :
    ((l.filter p).map (·.1)).Nodup :=
  List.Nodup.sublist (List.filter_sublist.map _) h

def keep (t : Table κ α) (p : κ → Bool) : Table κ α :=
  ⟨t.entries.filter (fun e => p e.1), keys_filter_nodup t.distinct _⟩

variable [DecidableEq κ]

def get? (t : Table κ α) (k : κ) : Option α := (t.entries.find? (fun e => e.1 = k)).map (·.2)

def contains (t : Table κ α) (k : κ) : Bool := (t.get? k).isSome

def erase (t : Table κ α) (k : κ) : Table κ α := t.keep (fun k' => k' ≠ k)

def insert (t : Table κ α) (k : κ) (a : α) : Table κ α :=
  ⟨(k, a) :: (t.erase k).entries, by
    refine List.nodup_cons.2 ⟨?_, (t.erase k).distinct⟩
    simp [erase, keep]⟩

/-- The table with `k` mapped to `a?`, or without `k` when there is none. -/
def put? (t : Table κ α) (k : κ) (a? : Option α) : Table κ α :=
  match a? with
  | some a => t.insert k a
  | none => t.erase k

@[simp] theorem get?_empty (k : κ) : (empty : Table κ α).get? k = none := rfl

theorem get?_keep (t : Table κ α) (p : κ → Bool) (k : κ) :
    (t.keep p).get? k = if p k then t.get? k else none := by
  have h : ∀ l : List (κ × α),
      (l.filter (fun e => p e.1)).find? (fun e => e.1 = k) =
        if p k then l.find? (fun e => e.1 = k) else none := by
    intro l
    induction l with
    | nil => simp
    | cons e l ih => by_cases hk : e.1 = k <;> by_cases hp : p e.1 <;> simp_all
  by_cases hp : p k <;> simp [keep, get?, h, hp]

theorem get?_erase (t : Table κ α) (k k' : κ) :
    (t.erase k).get? k' = if k' = k then none else t.get? k' := by
  by_cases h : k' = k <;> simp [erase, get?_keep, h]

theorem get?_insert (t : Table κ α) (k k' : κ) (a : α) :
    (t.insert k a).get? k' = if k' = k then some a else t.get? k' := by
  have h := get?_erase t k k'
  unfold get? insert at *
  by_cases hk : k = k'
  · simp [hk]
  · have hk' : ¬ k' = k := fun e => hk e.symm
    simp only [if_neg hk'] at h
    simp [hk, hk', h]

theorem erase_insert (t : Table κ α) (k k' : κ) (a : α) :
    (t.insert k a).erase k' = if k = k' then t.erase k' else (t.erase k').insert k a := by
  by_cases h : k = k'
  · simp [erase, insert, keep, h]
  · simp [erase, insert, keep, h, Bool.and_comm]

theorem get?_put? (t : Table κ α) (k k' : κ) (a? : Option α) :
    (t.put? k a?).get? k' = if k' = k then a? else t.get? k' := by
  cases a? with
  | none => simp [put?, get?_erase]
  | some a => simp [put?, get?_insert]

end Table
end BeanContract
