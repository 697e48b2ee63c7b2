/-
Factories: where the values of one type come from.

A factory has a program for each channel.  `Factory.fixed` gives two fixed values
and a random draw; the factories of lists, options and beans create nested values
and stop nesting at the structural depth.
-/
import BeanContract.Factory.Program

namespace BeanContract

structure Factory (H : Host) where
  type : ValueType
  primary : Program H (Value H)
  secondary : Program H (Value H)
  random : Program H (Value H)
  /-- The type has too few values to expect random ones to differ. -/
  lowCardinality : Bool := false

namespace Factory

variable {H : Host}

def source (f : Factory H) : Channel → Program H (Value H)
  | .primary => f.primary
  | .secondary => f.secondary
  | .random => f.random

def ofChannel (t : ValueType) (program : Channel → Program H (Value H)) : Factory H where
  type := t
  primary := program .primary
  secondary := program .secondary
  random := program .random

/-- The factory whose program is told the channel and has to give a value of the type,
not null. -/
def ofTyped (t : ValueType) (program : Channel → Program H (Value H)) : Factory H :=
  ofChannel t fun c => do
    match Value.cast t (← program c) with
    | .error e => .halt (.configuration (.unfitValue t e))
    | .ok none => .halt (.configuration (.nullDrawn t c))
    | .ok v => pure v

def fixed (primary secondary : Datum H.Object) (random : Program H (Datum H.Object)) :
    Factory H where
  type := primary.type
  primary := pure (some primary)
  secondary := pure (some secondary)
  random := do pure (some (← random))

def withPrimary (f : Factory H) (d : Datum H.Object) : Factory H :=
  { f with primary := pure (some d) }

def withSecondary (f : Factory H) (d : Datum H.Object) : Factory H :=
  { f with secondary := pure (some d) }

def withRandom (f : Factory H) (random : Program H (Datum H.Object)) : Factory H :=
  { f with random := do pure (some (← random)) }

def asLowCardinality (f : Factory H) : Factory H := { f with lowCardinality := true }

def maxListLength : Nat := 3

/-- `n` items of a list, nulls left out. -/
def items (elem : ValueType) (c : Channel) : Nat → Program H (List (Datum H.Object))
  | 0 => pure []
  | n + 1 => do
    let item ← Program.createFitting elem c
    let rest ← items elem c n
    pure (item.toList ++ rest)

/-- Lists of one item, or of up to `maxListLength` random ones; empty at the
structural depth. -/
def listOf (elem : ValueType) : Factory H :=
  ofChannel (.list elem) fun c => do
    if ← Program.atStructuralDepth then
      pure (some (.list elem []))
    else
      let n ← match c with
        | .random => Program.draw (Random.Engine.below (maxListLength + 1))
        | _ => pure 1
      let found ← items elem c n
      pure (some (.list elem found))

def optionDatum (elem : ValueType) : Value H → Datum H.Object
  | some d => .present d
  | none => .absent elem

/-- Options that hold an item, except for a quarter of the random ones; empty at
the structural depth. -/
def optionOf (elem : ValueType) : Factory H :=
  ofChannel (.option elem) fun c => do
    if ← Program.atStructuralDepth then
      pure (some (.absent elem))
    else
      let skip ← match c with
        | .random => Program.draw (Random.Engine.chance 0.25)
        | _ => pure false
      if skip then
        pure (some (.absent elem))
      else
        let item ← Program.createFitting elem c
        pure (some (optionDatum elem item))

/-- The beans of a blueprint, all properties of one channel. -/
def ofBlueprint (b : Blueprint H) : Factory H :=
  ofChannel b.type fun c => .bean b c Program.ofResult

end Factory
end BeanContract
