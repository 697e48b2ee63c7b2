/-
Failures of a verification.

A violation says that a bean breaks its contract, a misconfiguration that the
verification could not be set up.  Both are kept as causes; their wording is in
`Violation.message` and `Misconfiguration.message`.  Values appear in them by
their text, since showing a value may panic and is done where the failure arises.
-/
import BeanContract.Bean.Response
import BeanContract.Channel
import BeanContract.Failure.Access
import BeanContract.Value.Type

namespace BeanContract

inductive Violation where
  /-- Reported by the code of a factory. -/
  | stated (message : String)
  | construction (bean state : String)
  | reading (bean property shown : String)
  | readBack (bean property expected actual : String)
  | absence (bean property : String) (op : Absence) (expected actual : String)
  | response (bean property : String) (op : Absence) (declared observed : Response)
  | nullDespiteNotNull (bean property : String) (op : Absence)
  | errorDespiteNullable (bean property : String) (op : Absence)
  | formatting (bean : String)
  | emptyText (bean : String)
  | builderFormatting (bean : String)
  | emptyBuilderText (bean : String)
  | selfInequality (bean shown : String)
  | twinInequality (bean first second : String)
  | unstableHash (bean shown : String)
  | twinHash (bean shown : String)
  | missedDifference (bean property first second : String)
  | spuriousDifference (bean property : String) (changed : Bool) (first second : String)
  | hashDifference (bean first second : String)
  deriving DecidableEq, Repr

namespace Violation

def message : Violation → String
  | stated m => m
  | construction b state => s!"{b}: construction failed for {state}"
  | reading b p shown => s!"{b}.{p}: could not read property of {shown}"
  | readBack b p expected actual => s!"{b}.{p}: set to {expected} but read back {actual}"
  | absence b p op expected actual =>
    s!"{b}.{p}: {op.phrase} should give {expected} but read back {actual}"
  | response b p op declared observed =>
    s!"{b}.{p} {op.phrase}: expected {declared.name} but observed {observed.name}"
  | nullDespiteNotNull b p op => s!"{b}.{p} is not-null but reads back null when {op.phrase}"
  | errorDespiteNullable b p op => s!"{b}.{p} is nullable but fails when {op.phrase}"
  | formatting b => s!"{b}: formatting failed"
  | emptyText b => s!"{b}: formats as empty text"
  | builderFormatting b => s!"{b}: builder formatting failed"
  | emptyBuilderText b => s!"{b}: builder formats as empty text"
  | selfInequality b shown => s!"{b}: {shown} is not equal to itself"
  | twinInequality b first second =>
    s!"{b}: beans built from the same values are unequal: {first} and {second}"
  | unstableHash b shown => s!"{b}: hash code of {shown} is not stable"
  | twinHash b shown => s!"{b}: equal beans {shown} have different hash codes"
  | missedDifference b p first second => s!"{b}.{p} is significant but {first} equals {second}"
  | spuriousDifference b p changed first second =>
    let reason := if changed then "is not significant" else "did not change"
    s!"{b}.{p} {reason} but {first} does not equal {second}"
  | hashDifference b first second =>
    s!"{b}: equal beans {first} and {second} have different hash codes"

end Violation

inductive DeclarationFault where
  | secondConstructor
  | noConstructor
  | secondParameter (property : String)
  | secondGetter (property : String)
  | secondSetter (property : String)
  | twoTypes (property : String) (first second : ValueType)
  | parameterType (property : String) (parameter bean : ValueType)
  deriving DecidableEq, Repr

namespace DeclarationFault

def message : DeclarationFault → String
  | secondConstructor => "more than one constructor or builder"
  | noConstructor => "no constructor or builder"
  | secondParameter p => s!"creator parameter `{p}` declared twice"
  | secondGetter p => s!"getter for `{p}` declared twice"
  | secondSetter p => s!"setter for `{p}` declared twice"
  | twoTypes p t u => s!"`{p}` declared as both {t.name} and {u.name}"
  | parameterType p t u => s!"`{p}` is a {t.name} parameter but a {u.name} property"

end DeclarationFault

inductive Misconfiguration where
  /-- Reported by the code of a factory. -/
  | stated (message : String)
  | noFactory (type : ValueType)
  | tooDeep (type : ValueType) (depth : Nat)
  | nullDrawn (type : ValueType) (channel : Channel)
  | wrongTypeDrawn (type actual : ValueType) (channel : Channel)
  | equalFixedValues (type : ValueType) (shown : String)
  | unfitValue (type : ValueType) (error : AccessError)
  | noProperty (bean property : String)
  | unknownProperty (customisation bean property : String)
  | unfitFactory (type : ValueType) (bean property : String)
  | description (bean : String) (faults : List DeclarationFault)
  deriving DecidableEq, Repr

namespace Misconfiguration

def message : Misconfiguration → String
  | stated m => m
  | noFactory t => s!"no value factory registered for {t.name}"
  | tooDeep t depth =>
    s!"generating {t.name} exceeded depth {depth}; the type graph does not terminate " ++
      "(mark a recursive property nullable or make its factory depth-aware)"
  | nullDrawn t c => s!"factory for {t.name} produced null on the {c.name} channel"
  | wrongTypeDrawn t a c => s!"factory for {t.name} produced a {a.name} on the {c.name} channel"
  | equalFixedValues t shown =>
    s!"factory for {t.name} has equal PRIMARY and SECONDARY values: {shown}"
  | unfitValue t e => s!"factory for {t.name}: {e.message}"
  | noProperty b p => s!"{b} has no property `{p}`"
  | unknownProperty c b p => s!"customisation {c} names unknown property {b}.{p}"
  | unfitFactory t b p => s!"factory for {t.name} cannot supply {b}.{p}"
  | description b faults =>
    let list := "; ".intercalate (faults.map DeclarationFault.message)
    s!"cannot describe {b}: {list}"

end Misconfiguration

/-- A failed verification; notes added later follow the message. -/
inductive Failure where
  | violation (what : Violation) (cause : Option AccessError) (notes : List String)
  | configuration (what : Misconfiguration) (notes : List String)
  deriving DecidableEq, Repr

namespace Failure

def withNotes (message : String) (notes : List String) : String :=
  notes.foldl (fun m note => s!"{m} ({note})") message

def message : Failure → String
  | violation v _ notes => withNotes v.message notes
  | configuration c notes => "configuration error: " ++ withNotes c.message notes

def cause : Failure → Option AccessError
  | violation _ cause _ => cause
  | configuration _ _ => none

def isViolation : Failure → Bool
  | violation _ _ _ => true
  | configuration _ _ => false

def annotate (note : String) : Failure → Failure
  | violation v cause notes => violation v cause (notes ++ [note])
  | configuration c notes => configuration c (notes ++ [note])

end Failure

/-- Why a computation stopped: it failed, or host code panicked. -/
inductive Halt where
  | failure (f : Failure)
  | panic (p : Panic)
  deriving DecidableEq, Repr

namespace Halt

def violation (v : Violation) : Halt := failure (.violation v none [])

def violationBecause (v : Violation) (cause : AccessError) : Halt :=
  failure (.violation v (some cause) [])

def configuration (c : Misconfiguration) : Halt := failure (.configuration c [])

end Halt
end BeanContract
