/-
Pools of drafts.

A bean that contains beans of its own type needs a second draft while the first is
in use.  A pool keeps the free drafts of each type, the last one released on top,
and counts how many it ever made; as uses nest, it makes no more than are in use
at one time.
-/
import BeanContract.Draft.Basic

namespace BeanContract

structure Pool (H : Host) where
  free : Table ValueType (List (Draft H))
  made : Table ValueType Nat

namespace Pool

variable {H : Host}

def empty : Pool H := ⟨.empty, .empty⟩

def allocated (p : Pool H) (t : ValueType) : Nat := (p.made.get? t).getD 0

/-- The free drafts of a type, the next one to be taken first. -/
def freeDrafts (p : Pool H) (t : ValueType) : List (Draft H) := (p.free.get? t).getD []

/-- Take a free draft of the blueprint's type, or make one. -/
def acquire (p : Pool H) (b : Blueprint H) : Draft H × Pool H :=
  match p.freeDrafts b.type with
  | d :: ds => (d, { p with free := p.free.insert b.type ds })
  | [] => (.ofBlueprint b, { p with made := p.made.insert b.type (p.allocated b.type + 1) })

def release (p : Pool H) (d : Draft H) : Pool H :=
  { p with free := p.free.insert d.type (d :: p.freeDrafts d.type) }

end Pool
end BeanContract
