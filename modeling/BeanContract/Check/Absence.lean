/-
How a bean responds to the absence of each property.

Each parameter is left out of construction in turn, and each writable property set
to null through its setter, all other properties keeping their primary values.  One
draft serves for all of them, in which what was staged is put back each time.
What the bean did becomes known (`infer`); a declared response is checked against
it instead.  `validate` compares what is known with the flags.
-/
import BeanContract.Context.Create
import BeanContract.Draft.Candidates

namespace BeanContract

variable {H : Host}

structure Observation (H : Host) where
  response : Response
  evidence : Option (Evidence H)

namespace Observation

def error? (o : Observation H) : Option AccessError :=
  match o.evidence with
  | some (.error e) => some e
  | _ => none

end Observation

namespace Draft

def classify (d : Draft H) (name : String) : Probe H (Observation H) := do
  match ← Probe.attempt d.tryNewBean with
  | .error e => pure ⟨.error, some (.error e)⟩
  | .ok bean =>
    if d.blueprint.isReadable name then
      match ← Probe.attempt (d.tryRead bean name) with
      | .error e => pure ⟨.notReadable, some (.error e)⟩
      | .ok none => pure ⟨.null, none⟩
      | .ok v => pure ⟨.value, some (.value v)⟩
    else pure ⟨.notReadable, none⟩

end Draft

namespace Finding

/-- What is known after an observation: a declared response that accepts it, or the
observation itself.  There is no answer if the declaration does not accept it. -/
def resolve (f : Finding H) (o : Observation H) : Option (Finding H) :=
  match f.declaration with
  | none => some { f with response := some o.response, evidence := o.evidence }
  | some declared =>
    if declared.accepts o.response then
      let kept := declared = .value ∨ declared = .error
      some { f with response := some declared, evidence := if kept then o.evidence else none }
    else none

end Finding

namespace Check

def learn (b : Blueprint H) (p : Property H) (op : Absence) (o : Observation H) :
    Probe H (Finding H) := do
  match (p.finding op).resolve o with
  | some f => pure f
  | none =>
    let declared := (p.finding op).declaration.getD o.response
    throw (.failure (.violation (.response b.name p.name op declared o.response) o.error? []))

def absent (op : Absence) (d : Draft H) (name : String) : Draft H :=
  match op with
  | .omitted => d.leaveOut name
  | .setToNull => d.put name none

/-- Stage the absence of a property, see what becomes of it, and stage what was staged
before. -/
def observe (op : Absence) (name : String) : Stage H (Observation H) := do
  let before := (← Stage.draft).expected.get? name
  Stage.change (absent op · name)
  let o ← Stage.probe (·.classify name)
  Stage.change (·.restore name before)
  pure o

/-- The property with what its absence shows, if it takes part in that kind. -/
def inferProperty (op : Absence) (p : Property H) : Stage H (Property H) :=
  if p.flags.ignored || (op = .setToNull && !p.isWritable) then pure p
  else do
    let o ← observe op p.name
    let f ← Stage.probe fun d => learn d.blueprint p op o
    pure (p.setFinding op f)

/-- Learn from the absence of every property.  One draft serves for all of them; it prefers
the constructor first and then the setters. -/
def inferAll : Stage H (Blueprint H) := do
  let b := (← Stage.draft).blueprint
  Stage.change (·.prefer .creator)
  let creator ← Effect.gather (inferProperty .omitted) b.creator.properties
  Stage.change (·.prefer .setters)
  let bean ← Effect.gather (inferProperty .setToNull) b.bean.properties
  pure { b with creator := ⟨creator⟩, bean := ⟨bean⟩ }

def infer (b : Blueprint H) : Run H (Blueprint H) := fun c =>
  match (Stage.reset Run.create >>= fun _ => inferAll) (.ofBlueprint b, c) with
  | .ok b (_, c) => .ok b c
  | .error e (_, c) => .error e c

def validateOne (b : Blueprint H) (p : Property H) (op : Absence) : Except Failure Unit :=
  let f := p.finding op
  if p.flags.notNull && f.response = some .null then
    .error (.violation (.nullDespiteNotNull b.name p.name op) none [])
  else if p.flags.nullable && f.response = some .error then
    .error (.violation (.errorDespiteNullable b.name p.name op) f.error? [])
  else .ok ()

def validate (b : Blueprint H) : Except Failure Unit :=
  (b.creator.properties ++ b.bean.properties).forM fun p => do
    if !p.flags.ignored then
      validateOne b p .omitted
      validateOne b p .setToNull

end Check
end BeanContract
