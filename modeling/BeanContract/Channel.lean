/-
The three sources of values that every factory has.
-/
namespace BeanContract

/-- A source of values: two fixed ones that should differ, and a random one. -/
inductive Channel where
  | primary
  | secondary
  | random
  deriving DecidableEq, Repr

namespace Channel

def name : Channel → String
  | primary => "PRIMARY"
  | secondary => "SECONDARY"
  | random => "RANDOM"

def all : List Channel := [primary, secondary, random]

end Channel
end BeanContract
