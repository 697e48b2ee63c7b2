/-
Staging: computations that change a draft within a context.

Where values have to be created, the creation is a parameter (`Creator`): it is the
context's own `create` at the top, and the nested one inside a factory.
-/
import BeanContract.Context.Basic

namespace BeanContract

abbrev Stage (H : Host) := EStateM Halt (Draft H × Context H)

/-- A way to create values: the context's creation at some depth. -/
abbrev Creator (H : Host) := Factory H → Channel → Run H (Value H)

namespace Stage

variable {H : Host} {α : Type}

def ofRun (x : Run H α) : Stage H α := Effect.zoom Prod.snd (fun s c => (s.1, c)) x

instance : MonadLift (Run H) (Stage H) := ⟨ofRun⟩

def draft : Stage H (Draft H) := do pure (← get).1

def context : Stage H (Context H) := do pure (← get).2

def change (f : Draft H → Draft H) : Stage H Unit := modify fun s => (f s.1, s.2)

def probe (f : Draft H → Probe H α) : Stage H α := do
  let d ← draft
  Stage.ofRun (Run.ofProbe (f d))

end Stage

namespace Draft

variable {H : Host}

def propertyType (d : Draft H) (name : String) : Except Failure ValueType :=
  match d.blueprint.property? name with
  | some p => .ok p.type
  | none => .error (.configuration (.noProperty d.beanName name) [])

def factory (d : Draft H) (name : String) : Run H (Factory H) := do
  let t ← Run.ofResult (d.propertyType name)
  let c ← get
  Run.ofResult (c.registry.forProperty d.type name t)

def draw (create : Creator H) (d : Draft H) (name : String) (channel : Channel) :
    Run H (Value H) := do
  let f ← d.factory name
  create f channel

def drawPrimary (create : Creator H) (d : Draft H) :
    List String → Table String (Value H) → Run H (Table String (Value H))
  | [], values => pure values
  | name :: names, values => do
    let v ← d.draw create name .primary
    drawPrimary create d names (values.insert name v)

end Draft

namespace Stage

variable {H : Host}

/-- Go back to the primary values, drawing them the first time. -/
def reset (create : Creator H) : Stage H Unit := do
  let d ← draft
  match d.initial with
  | some values => change fun d => { d with expected := values }
  | none =>
    let values ← Stage.ofRun (d.drawPrimary create d.blueprint.staged .empty)
    change fun d => { d with initial := some values, expected := values }

/-- The value to stage for a property: null where nesting has to stop or, if nulls
are wanted, by chance, and only for a nullable property; otherwise a drawn one. -/
def valueFor (create : Creator H) (channel : Channel) (nulls : Bool) (d : Draft H)
    (name : String) : Run H (Value H) := do
  let c ← get
  if d.blueprint.isNullable name then
    if c.atStructuralDepth then
      pure none
    else if nulls then
      if ← Run.chance c.settings.nullProbability then pure none
      else d.draw create name channel
    else d.draw create name channel
  else d.draw create name channel

def setAll (create : Creator H) (channel : Channel) (nulls : Bool) : Stage H Unit := do
  let d ← draft
  Effect.each (fun name => do
    let d ← draft
    let v ← Stage.ofRun (valueFor create channel nulls d name)
    change (·.put name v)) d.blueprint.staged

/-- Stage a value and tell whether that changed the bean, as far as the property's
getter shows; without a getter, whether it changed what is staged. -/
def setProperty (name : String) (v : Value H) : Stage H Bool := do
  let d ← draft
  if d.blueprint.isReadable name then
    let before ← probe (·.readActual name)
    change (·.put name v)
    let after ← probe (·.readActual name)
    pure (!Value.sameOption before after)
  else
    change (·.put name v)
    pure (!Value.sameOption (d.expected.get? name) (some v))

end Stage
end BeanContract
