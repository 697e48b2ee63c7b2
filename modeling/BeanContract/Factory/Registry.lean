/-
Registries: which factory supplies which values.

A property of an owner may have a factory of its own; otherwise the factory
registered for the type counts, and then the first lookup function that answers.
-/
import BeanContract.Bean.Description
import BeanContract.Factory.Basic

namespace BeanContract

/-- The factories by type, by owner and property, and the lookup functions. -/
structure Registry (H : Host) where
  byType : Table ValueType (Factory H)
  byProperty : Table (ValueType × String) (Factory H)
  lookups : List (ValueType → Option (Factory H))

namespace Registry

variable {H : Host}

def empty : Registry H := ⟨.empty, .empty, []⟩

def get? (r : Registry H) (t : ValueType) : Option (Factory H) :=
  r.byType.get? t <|> r.lookups.findSome? (fun lookup => lookup t)

def get (r : Registry H) (t : ValueType) : Except Failure (Factory H) :=
  match r.get? t with
  | some f => .ok f
  | none => .error (.configuration (.noFactory t) [])

def forProperty (r : Registry H) (owner : ValueType) (property : String) (t : ValueType) :
    Except Failure (Factory H) :=
  match r.byProperty.get? (owner, property) with
  | some f => .ok f
  | none => r.get t

def contains (r : Registry H) (t : ValueType) : Bool := r.byType.contains t

def register (r : Registry H) (f : Factory H) : Registry H :=
  { r with byType := r.byType.insert f.type f }

def restore (r : Registry H) (t : ValueType) (before : Option (Factory H)) : Registry H :=
  { r with byType := r.byType.put? t before }

def registerProperty (r : Registry H) (owner : ValueType) (property : String) (f : Factory H) :
    Registry H :=
  { r with byProperty := r.byProperty.insert (owner, property) f }

def restoreProperty (r : Registry H) (owner : ValueType) (property : String)
    (before : Option (Factory H)) : Registry H :=
  { r with byProperty := r.byProperty.put? (owner, property) before }

def clearProperties (r : Registry H) (owner : ValueType) : Registry H :=
  { r with byProperty := r.byProperty.keep (fun key => key.1 ≠ owner) }

/-- Ask `lookup` for types that no factory and no earlier lookup covers. -/
def addLookup (r : Registry H) (lookup : ValueType → Option (Factory H)) : Registry H :=
  { r with lookups := r.lookups ++ [lookup] }

/-- Make the described beans available as values, and the description's own
factories available for their properties. -/
def registerBean (r : Registry H) (d : Description H) : Registry H :=
  (d.factories.foldl (fun r entry => r.registerProperty d.type entry.1 entry.2) r).register
    (.ofBlueprint d.toBlueprint)

def types (r : Registry H) : List ValueType := r.byType.keys

def factories (r : Registry H) : List (Factory H) := r.byType.values

end Registry
end BeanContract
