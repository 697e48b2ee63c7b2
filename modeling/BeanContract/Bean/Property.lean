/-
Properties and models.

A property has a name and a type, the switches that say how it is tested, what is
known about its absence, and the accessors declared for it.  Reading and writing
keep to the type: a value of another type is a type mismatch.
-/
import BeanContract.Bean.Adapter
import BeanContract.Bean.Response

namespace BeanContract

structure Flags where
  ignored : Bool := false
  notNull : Bool := false
  significant : Bool := true
  nullable : Bool := false
  deriving DecidableEq, Repr

/-- What a bean showed when a property was absent: a substitute or an error. -/
inductive Evidence (H : Host) where
  | value (v : Value H)
  | error (e : AccessError)

structure Finding (H : Host) where
  response : Option Response := none
  declared : Bool := false
  evidence : Option (Evidence H) := none

structure Property (H : Host) where
  name : String
  type : ValueType
  flags : Flags := {}
  onNull : Finding H := {}
  onOmit : Finding H := {}
  getter : Option (H.Object → Adapter H (Value H)) := none
  setter : Option (H.Object → Value H → Adapter H H.Object) := none

variable {H : Host}

namespace Finding

def declaration (f : Finding H) : Option Response := if f.declared then f.response else none

/-- What an absent property may read back as. -/
def allows (f : Finding H) (actual : Value H) : Bool :=
  match f.response, f.evidence with
  | none, _ => actual.isNone
  | some .null, _ => actual.isNone
  | some .value, some (.value substitute) => actual.same substitute
  | some .value, _ => actual.isSome
  | some .varying, _ => actual.isSome
  | some _, _ => true

def expectation? (f : Finding H) : Except Panic String :=
  match f.response, f.evidence with
  | some .value, some (.value substitute) => do pure ("VALUE " ++ (← substitute.show?))
  | some r, _ => pure r.name
  | none, _ => pure "null"

def error? (f : Finding H) : Option AccessError :=
  match f.evidence with
  | some (.error e) => some e
  | _ => none

end Finding

namespace Property

def isReadable (p : Property H) : Bool := p.getter.isSome

def isWritable (p : Property H) : Bool := p.setter.isSome

def read (p : Property H) (o : H.Object) : Access H (Value H) :=
  match p.getter with
  | some get => do
    let v ← guarded (get o)
    Effect.ofExcept id (v.cast p.type)
  | none => throw (.notReadable p.name)

def write (p : Property H) (o : H.Object) (v : Value H) : Access H H.Object :=
  match p.setter with
  | some set => do
    let v ← Effect.ofExcept id (v.cast p.type)
    guarded (set o v)
  | none => throw (.rejected s!"property `{p.name}` has no setter")

def finding (p : Property H) : Absence → Finding H
  | .omitted => p.onOmit
  | .setToNull => p.onNull

def setFinding (p : Property H) (op : Absence) (f : Finding H) : Property H :=
  match op with
  | .omitted => { p with onOmit := f }
  | .setToNull => { p with onNull := f }

end Property

/-- Properties in the order of their first declaration, one for each name. -/
structure Model (H : Host) where
  properties : List (Property H)

namespace Model

def empty : Model H := ⟨[]⟩

def get? (m : Model H) (name : String) : Option (Property H) :=
  m.properties.find? (fun p => p.name = name)

def contains (m : Model H) (name : String) : Bool := (m.get? name).isSome

def names (m : Model H) : List String := m.properties.map (·.name)

def add (m : Model H) (p : Property H) : Model H := ⟨m.properties ++ [p]⟩

def update (m : Model H) (name : String) (f : Property H → Property H) : Model H :=
  ⟨m.properties.map (fun p => if p.name = name then f p else p)⟩

end Model
end BeanContract
