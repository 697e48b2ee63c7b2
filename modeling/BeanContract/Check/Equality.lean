/-
Equality and hash codes follow the properties.

Beans that differ in a significant property are unequal.  Beans that differ in
nothing else are equal and have the same hash code.  The number of comparisons is
the result.
-/
import BeanContract.Draft.Candidates

namespace BeanContract
namespace Check

variable {H : Host}

def maxChanges : Nat := 5

/-- A bean equals itself and a second bean of the same values, and their hash codes
agree. -/
def twins (hashes : Bool) (d : Draft H) : Probe H Unit := do
  let bean ← d.newBean
  unless Value.same bean bean do
    Probe.violation (.selfInequality d.beanName (← Probe.shown bean.show?))
  let fresh ← d.newBean
  unless Value.same bean fresh do
    let first ← Probe.shown bean.show?
    let second ← Probe.shown fresh.show?
    Probe.violation (.twinInequality d.beanName first second)
  if hashes then
    unless bean.hashCode.agrees bean.hashCode do
      Probe.violation (.unstableHash d.beanName (← Probe.shown bean.show?))
    unless bean.hashCode.agrees fresh.hashCode do
      Probe.violation (.twinHash d.beanName (← Probe.shown bean.show?))

/-- Beans apart in one property at most are unequal if it changed and is
significant; otherwise they are equal, with agreeing hash codes. -/
def compare (hashes : Bool) (d : Draft H) (name : String) (changed : Bool)
    (first second : Value H) : Probe H Unit := do
  if changed && d.blueprint.isSignificant name then
    if Value.same first second then
      let a ← Probe.shown first.show?
      let b ← Probe.shown second.show?
      Probe.violation (.missedDifference d.beanName name a b)
  else if !Value.same first second then
    let a ← Probe.shown first.show?
    let b ← Probe.shown second.show?
    Probe.violation (.spuriousDifference d.beanName name changed a b)
  else if hashes && !first.hashCode.agrees second.hashCode then
    let a ← Probe.shown first.show?
    let b ← Probe.shown second.show?
    Probe.violation (.hashDifference d.beanName a b)

def apart (hashes : Bool) (a b : Draft H) (name : String) : Probe H Unit := do
  let first ← a.newBean
  let second ← b.newBean
  if a.blueprint.isReadable name then
    let x ← a.read first name
    let y ← b.read second name
    compare hashes a name (!Value.same x y) first second
  else
    let changed := !Value.sameOption (a.expected.get? name) (b.expected.get? name)
    compare hashes a name changed first second

def candidatePairs (hashes : Bool) (d : Draft H) (name : String) (values : List (Value H)) :
    Probe H Nat :=
  Effect.tally (fun (v, i) =>
    Effect.tally (fun (w, j) =>
      if i = j then pure 0
      else do
        apart hashes (d.put name v) (d.put name w) name
        pure 1) values.zipIdx) values.zipIdx

/-- Test the candidates of one property, then stage what was staged before. -/
def property (hashes : Bool) (name : String) : Stage H Nat := do
  let d ← Stage.draft
  let values ← Stage.ofRun (d.candidates name (d.blueprint.isNullable name))
  let n ← Effect.tally (fun v => do
    Stage.change (·.put name v)
    Stage.probe (twins hashes)
    pure 1) values
  let m ← Stage.probe (candidatePairs hashes · name values)
  Stage.change (·.restore name (d.expected.get? name))
  pure (n + m)

def randomValue (name : String) : Stage H (Value H) := do
  let d ← Stage.draft
  let c ← Stage.context
  let null ← if d.blueprint.isNullable name then
      Stage.ofRun (Run.chance c.settings.nullProbability)
    else pure false
  if null then pure none else Stage.ofRun (d.draw Run.create name .random)

/-- Stage random values for a property until one changes the bean, `n` at most. -/
def changeWithin (name : String) : Nat → Stage H Bool
  | 0 => pure false
  | n + 1 => do
    let v ← randomValue name
    if ← Stage.setProperty name v then pure true else changeWithin name n

def equalityTrial (hashes : Bool) (names : List String) (previous : Value H) :
    Stage H (Value H) := do
  let i ← Stage.ofRun (Run.below names.length)
  let name := names.getD i ""
  let changed ← changeWithin name maxChanges
  let current ← Stage.probe Draft.newBean
  Stage.probe (compare hashes · name changed previous current)
  pure current

def equalityTrials (hashes : Bool) (names : List String) : Nat → Value H → Stage H Nat
  | 0, _ => pure 0
  | n + 1, previous => do
    let current ← equalityTrial hashes names previous
    let m ← equalityTrials hashes names n current
    pure (1 + m)

def equality : Stage H Nat := do
  let settings := (← Stage.context).settings
  Stage.reset Run.create
  let names := (← Stage.draft).blueprint.testable
  let n ← Effect.tally (property settings.testHashCode) names
  if names.isEmpty then pure n
  else do
    let previous ← Stage.probe Draft.newBean
    let m ← equalityTrials settings.testHashCode names settings.trials previous
    pure (n + m)

end Check
end BeanContract
