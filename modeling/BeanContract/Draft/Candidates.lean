/-
Candidates: the values that a property is tested with.
-/
import BeanContract.Context.Create

namespace BeanContract
namespace Draft

variable {H : Host}

def extendApart (f : Factory H) : Nat → List (Value H) → Run H (List (Value H))
  | 0, found => pure found
  | n + 1, found => do
    let v ← Run.createDistinct f found
    extendApart f n (found ++ [v])

/-- Make null a candidate: it takes the last random place, or one of its own. -/
def withNull (randoms : Nat) (found : List (Value H)) : List (Value H) :=
  (if randoms = 0 then found else found.dropLast) ++ [none]

def candidates (d : Draft H) (name : String) (null : Bool) : Run H (List (Value H)) := do
  let f ← d.factory name
  let primary ← Run.create f .primary
  let secondary ← Run.create f .secondary
  let randoms := (← get).settings.randomCandidates
  let found ← extendApart f randoms [primary, secondary]
  pure (if null then withNull randoms found else found)

end Draft
end BeanContract
