/-
Settings of a verification.
-/
namespace BeanContract

structure Settings where
  /-- The nesting depth at which factories that watch the depth stop nesting. -/
  structuralDepth : UInt64
  /-- Randomized trials of each check. -/
  trials : Nat
  /-- Random candidates of a property, after the two fixed ones. -/
  randomCandidates : Nat
  /-- Draws made for a random value that differs from all values before it. -/
  distinctAttempts : Nat
  /-- How often a random change of a nullable property stages null. -/
  nullProbability : Float
  /-- Whether hash codes are checked along with equality. -/
  testHashCode : Bool
  /-- Whether a factory is tried out when it is registered. -/
  selfTestFactories : Bool
  /-- The seed of the random engine, for a run that can be repeated. -/
  seed : Option UInt64

namespace Settings

def standard : Settings where
  structuralDepth := 3
  trials := 100
  randomCandidates := 3
  distinctAttempts := 10
  nullProbability := 0.25
  testHashCode := true
  selfTestFactories := true
  seed := none

instance : Inhabited Settings := ⟨standard⟩

/-- Eight levels below the structural depth, for the leaves of the deepest structure; no
limit if that sum is not a 64-bit word. -/
def depthLimit? (s : Settings) : Option Nat :=
  let limit := s.structuralDepth.toNat + 8
  if limit < UInt64.size then some limit else none

/-- The depth from which on nothing is created, which is any depth if there is no limit. -/
def depthLimit (s : Settings) : Nat := s.depthLimit?.getD 0

end Settings
end BeanContract
