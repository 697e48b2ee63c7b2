/-
Drafts: beans in the making.

A draft holds the value staged for each property of a blueprint.  It builds a bean
from them whenever one is asked for and reads properties back; staging a value
never touches a bean built before.  `tryNewBean` and `tryRead` fail as the host's
code does, `newBean` and `read` turn that into a violation.
-/
import BeanContract.Bean.Blueprint
import BeanContract.Failure.Basic
import BeanContract.Text.Sorted

namespace BeanContract

/-- How a property that is both a parameter and writable gets its value: through
the constructor, or through the setter of a bean constructed with its initial
value. -/
inductive Preference where
  | creator
  | setters
  deriving DecidableEq, Repr

structure Draft (H : Host) where
  blueprint : Blueprint H
  expected : Table String (Value H) := .empty
  /-- The values that a reset goes back to, once there was one. -/
  initial : Option (Table String (Value H)) := none
  preference : Preference := .creator

/-- Computations that call the host's code and may find a violation. -/
abbrev Probe (H : Host) := EStateM Halt H.World

namespace Probe

variable {H : Host} {α : Type}

def shown (text : Except Panic String) : Probe H String := Effect.ofExcept Halt.panic text

def attempt (x : Access H α) : Probe H (Except AccessError α) := Effect.reify x

def violation (v : Violation) : Probe H α := throw (.violation v)

def violationBecause (v : Violation) (cause : AccessError) : Probe H α :=
  throw (.violationBecause v cause)

end Probe

namespace Draft

variable {H : Host}

def ofBlueprint (b : Blueprint H) : Draft H := { blueprint := b }

def beanName (d : Draft H) : String := d.blueprint.name

def type (d : Draft H) : ValueType := d.blueprint.type

def put (d : Draft H) (name : String) (v : Value H) : Draft H :=
  { d with expected := d.expected.insert name v }

def leaveOut (d : Draft H) (name : String) : Draft H :=
  { d with expected := d.expected.erase name }

/-- Stage what was staged before: a value or nothing. -/
def restore (d : Draft H) (name : String) (before : Option (Value H)) : Draft H :=
  { d with expected := d.expected.put? name before }

def prefer (d : Draft H) (p : Preference) : Draft H := { d with preference := p }

/-- The argument for a parameter, if it gets one. -/
def arg? (d : Draft H) (name : String) : Option (Value H) :=
  if d.preference = .setters ∧ d.blueprint.isWritable name then
    d.initial.bind (·.get? name) <|> d.expected.get? name
  else d.expected.get? name

def args (d : Draft H) : Args H :=
  d.blueprint.creator.names.foldl (fun args name => match d.arg? name with
    | some v => args.insert name v
    | none => args) .empty

/-- Whether a property reaches a constructed bean through its setter. -/
def viaSetter (d : Draft H) (p : Property H) : Bool :=
  p.isWritable && !p.flags.ignored &&
    !(d.preference = .creator && d.blueprint.isParameter p.name)

def writeAll (d : Draft H) : List (Property H) → H.Object → Access H H.Object
  | [], o => pure o
  | p :: ps, o =>
    if d.viaSetter p then
      match d.expected.get? p.name with
      | some v => do
        let o ← p.write o v
        writeAll d ps o
      | none => writeAll d ps o
    else writeAll d ps o

def tryNewBean (d : Draft H) : Access H (Value H) := do
  let o ← d.blueprint.build d.args
  let o ← d.writeAll d.blueprint.bean.properties o
  pure (some (.object d.blueprint.path o))

def tryRead (d : Draft H) (bean : Value H) (name : String) : Access H (Value H) :=
  d.blueprint.read bean name

def stateParts? (d : Draft H) : List String → Except Panic (List String)
  | [] => pure []
  | name :: names =>
    match d.expected.get? name with
    | none => stateParts? d names
    | some v => do
      let text ← v.show?
      let rest ← stateParts? d names
      pure ((name ++ "=" ++ text) :: rest)

/-- The staged values as text, in alphabetical order. -/
def stateText? (d : Draft H) : Except Panic String := do
  let parts ← d.stateParts? d.blueprint.propertyNames
  pure ("\x7b" ++ ", ".intercalate (Text.sortTexts parts) ++ "\x7d")

def newBean (d : Draft H) : Probe H (Value H) := do
  match ← Probe.attempt d.tryNewBean with
  | .ok bean => pure bean
  | .error cause =>
    let state ← Probe.shown d.stateText?
    Probe.violationBecause (.construction d.beanName state) cause

def read (d : Draft H) (bean : Value H) (name : String) : Probe H (Value H) := do
  match ← Probe.attempt (d.tryRead bean name) with
  | .ok v => pure v
  | .error cause =>
    let text ← Probe.shown bean.show?
    Probe.violationBecause (.reading d.beanName name text) cause

/-- Build a bean and read a property of it, provided it has a getter. -/
def readActual (d : Draft H) (name : String) : Probe H (Option (Value H)) :=
  if d.blueprint.isReadable name then do
    let bean ← d.newBean
    let v ← d.read bean name
    pure (some v)
  else pure none

/-- What is known about the absence of a property: leaving it out counts when the
constructor is what did not get a value. -/
def absence (d : Draft H) (name : String) (omitted : Bool) : Absence × Finding H :=
  let parameter :=
    if omitted || d.preference = .creator then d.blueprint.creator.get? name else none
  match parameter, d.blueprint.bean.get? name with
  | some p, _ => (.omitted, p.onOmit)
  | none, some p => (.setToNull, p.onNull)
  | none, none => (.setToNull, {})

def nullResponse (d : Draft H) (name : String) : Option Response :=
  (d.absence name false).2.response

def checkAbsent (d : Draft H) (name : String) (omitted : Bool) (actual : Value H) :
    Probe H Unit :=
  let (op, finding) := d.absence name omitted
  if finding.allows actual then pure ()
  else do
    let expected ← Probe.shown finding.expectation?
    let text ← Probe.shown actual.show?
    Probe.violation (.absence d.beanName name op expected text)

def verify (d : Draft H) (name : String) : Probe H Unit :=
  if d.blueprint.isReadable name then do
    let bean ← d.newBean
    let actual ← d.read bean name
    match d.expected.get? name with
    | some (some x) =>
      if Value.same actual (some x) then pure ()
      else do
        let expected ← Probe.shown x.show?
        let text ← Probe.shown actual.show?
        Probe.violation (.readBack d.beanName name expected text)
    | some none => d.checkAbsent name false actual
    | none => d.checkAbsent name true actual
  else pure ()

def verifyAll (d : Draft H) : Probe H Unit := Effect.each d.verify d.blueprint.testable

end Draft
end BeanContract
