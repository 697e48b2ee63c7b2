/-
Sets of characters given by the code points at which membership changes.

The boundary list `[a, b, c, d]`, in ascending order, stands for the code points
in `[a, b)` and `[c, d)`: a code point belongs when an odd number of boundaries
lie at or below it.
-/
namespace BeanContract
namespace Text

/-- A set of code points, by ascending boundaries. -/
structure CodeSet where
  bounds : List Nat

namespace CodeSet

/-- Membership of `n`, entering the boundary list inside the set or outside it. -/
def side (n : Nat) : Bool → List Nat → Bool
  | inside, [] => inside
  | inside, b :: bs => if n < b then inside else side n (!inside) bs

def contains (s : CodeSet) (c : Char) : Bool := side c.toNat false s.bounds

end CodeSet
end Text
end BeanContract
