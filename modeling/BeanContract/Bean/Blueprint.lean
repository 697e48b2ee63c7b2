/-
Blueprints: how beans of one type are built and accessed.

A blueprint has two models, the parameters of the constructor or builder and the
properties with a getter or setter.  A name that both have is one property.
-/
import BeanContract.Bean.Property

namespace BeanContract

structure Blueprint (H : Host) where
  name : String
  path : String
  creator : Model H
  bean : Model H
  construct : Args H → Adapter H H.Object
  builderText : Option (Args H → Adapter H String)

namespace Blueprint

variable {H : Host}

def type (b : Blueprint H) : ValueType := .object b.path

def hasBuilder (b : Blueprint H) : Bool := b.builderText.isSome

def propertyNames (b : Blueprint H) : List String :=
  b.creator.names ++ b.bean.names.filter (fun n => !b.creator.contains n)

/-- The property of a name, as the accessors declare it if they do. -/
def property? (b : Blueprint H) (name : String) : Option (Property H) :=
  b.bean.get? name <|> b.creator.get? name

def isParameter (b : Blueprint H) (name : String) : Bool := b.creator.contains name

def isReadable (b : Blueprint H) (name : String) : Bool :=
  (b.bean.get? name).any Property.isReadable

def isWritable (b : Blueprint H) (name : String) : Bool :=
  (b.bean.get? name).any Property.isWritable

def isNullable (b : Blueprint H) (name : String) : Bool :=
  (b.property? name).any (·.flags.nullable)

def isSignificant (b : Blueprint H) (name : String) : Bool :=
  (b.property? name).any (·.flags.significant)

/-- A property is tested when a value can reach the bean and it is not ignored. -/
def isTestable (b : Blueprint H) (name : String) : Bool :=
  (b.property? name).any (fun p => !p.flags.ignored) && (b.isParameter name || b.isWritable name)

def testable (b : Blueprint H) : List String := b.propertyNames.filter b.isTestable

/-- The properties that get a value: every parameter, since the constructor may
need even an ignored one, and the tested properties. -/
def staged (b : Blueprint H) : List String :=
  b.propertyNames.filter (fun n => b.isParameter n || b.isTestable n)

def build (b : Blueprint H) (args : Args H) : Access H H.Object := guarded (b.construct args)

def object? (b : Blueprint H) (name : String) : Value H → Except AccessError H.Object
  | none => .error (.rejected s!"cannot read `{name}` from null")
  | some (.object path o) =>
    if path = b.path then .ok o
    else .error (.typeMismatch b.type.name (ValueType.object path).name)
  | some d => .error (.typeMismatch b.type.name d.type.name)

def read (b : Blueprint H) (bean : Value H) (name : String) : Access H (Value H) :=
  match b.bean.get? name with
  | none => throw (.notReadable name)
  | some p => do
    let o ← Effect.ofExcept id (b.object? name bean)
    p.read o

end Blueprint
end BeanContract
