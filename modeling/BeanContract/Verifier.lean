/-
Verification of a described bean.

A verifier has settings and a registry, from which each run makes a context of its
own.  A run applies the customisations, registers the factories of properties and
one for the bean itself, learns the responses to absence and checks them against
the flags, and then checks round trips and equality.  The first failure ends it; a
violation carries the seed that brings it about again.
-/
import BeanContract.Check.Absence
import BeanContract.Check.Equality
import BeanContract.Check.RoundTrip
import BeanContract.Context.Register
import BeanContract.Factory.Catalog

namespace BeanContract

structure Statistics where
  bean : String
  seed : UInt64
  /-- The tested properties. -/
  properties : Nat
  roundTrips : Nat
  comparisons : Nat
  structures : Nat
  maxDepth : Nat
  deriving DecidableEq, Repr

structure Verifier (H : Host) where
  settings : Settings
  registry : Registry H

namespace Verifier

variable {H : Host} {α : Type}

def standard : Verifier H := ⟨.standard, Catalog.registry⟩

def inContext (v : Verifier H) (chance : UInt64) (x : Run H α) : Probe H α := fun w =>
  match x (.start v.settings v.registry chance w) with
  | .ok a c => .ok a c.world
  | .error e c => .error e c.world

/-- Register the factories that a description brings along, and one for its beans
unless there is one. -/
def prepare (d : Description H) : Run H Unit := do
  Effect.each (fun (property, f) => Run.registerPropertyFactory d.type property f) d.factories
  modify fun c =>
    if c.registry.contains d.type then c
    else { c with registry := c.registry.registerBean d }

def checks (b : Blueprint H) : Run H (Nat × Nat) := fun c =>
  let both : Stage H (Nat × Nat) := do
    let roundTrips ← Check.roundTrips
    let comparisons ← Check.equality
    pure (roundTrips, comparisons)
  match both (.ofBlueprint b, c) with
  | .ok n (_, c) => .ok n c
  | .error e (_, c) => .error e c

def run (d : Description H) (customisations : List (Customisation H)) : Run H Statistics := do
  let d ← Run.ofResult (d.customiseAll customisations)
  prepare d
  let b ← Check.infer d.toBlueprint
  Run.ofResult (Check.validate b)
  let (roundTrips, comparisons) ← checks b
  let c ← get
  pure {
    bean := b.name
    seed := c.seed
    properties := b.testable.length
    roundTrips := roundTrips
    comparisons := comparisons
    structures := c.structures
    maxDepth := c.maxDepth }

/-- Say how to bring a violation about again. -/
def withSeed (seed : UInt64) : Halt → Halt
  | .failure f =>
    .failure (if f.isViolation then f.annotate s!"reproduce with seed {seed}" else f)
  | h => h

/-- Verify a described bean; `chance` seeds the run when the settings do not. -/
def verify (v : Verifier H) (chance : UInt64) (d : Description H)
    (customisations : List (Customisation H)) : Probe H Statistics := fun w =>
  match v.inContext chance (run d customisations) w with
  | .ok s w => .ok s w
  | .error e w => .error (withSeed (v.settings.seed.getD chance) e) w

def verifyType (v : Verifier H) (chance : UInt64) (description : Except Failure (Description H))
    (published : List (Customisation H)) : Probe H Statistics := do
  match description with
  | .ok d => v.verify chance d published
  | .error f => throw (.failure f)

/-- Register a factory, once it is tried out in a context of its own. -/
def registerBy (create : Creator H) (v : Verifier H) (chance : UInt64) (f : Factory H) :
    Probe H (Verifier H) := do
  v.inContext chance (Run.registerFactoryBy create f)
  pure { v with registry := v.registry.register f }

def register (v : Verifier H) (chance : UInt64) (f : Factory H) : Probe H (Verifier H) :=
  registerBy Run.create v chance f

def registerBean (v : Verifier H) (d : Description H) : Verifier H :=
  { v with registry := v.registry.registerBean d }

end Verifier
end BeanContract
