/-
The host's own code, as this library calls it.

Raw code (`Adapter`) acts on the host's world and may report an error or panic.
Every call goes through `guarded`, after which a panic is an error like any other
(`Access`).
-/
import BeanContract.Effect
import BeanContract.Table
import BeanContract.Value.Basic

namespace BeanContract

inductive Fault where
  | error (e : AccessError)
  | panic (p : Panic)

abbrev Adapter (H : Host) := EStateM Fault H.World

/-- Code of the host whose panics are caught. -/
abbrev Access (H : Host) := EStateM AccessError H.World

def Fault.caught : Fault → AccessError
  | error e => e
  | panic p => .panicked p.text

def guarded {H : Host} {α : Type} (x : Adapter H α) : Access H α := fun w =>
  match x w with
  | .ok a w => .ok a w
  | .error f w => .error f.caught w

/-- The values handed to a constructor or builder; a parameter without an entry
was left out. -/
abbrev Args (H : Host) := Table String (Value H)

namespace Args

variable {H : Host}

/-- A parameter as a value of type `t`; one left out is null. -/
def value (a : Args H) (t : ValueType) (name : String) : Except AccessError (Value H) :=
  match a.get? name with
  | some v => v.cast t
  | none => .ok none

def require (a : Args H) (t : ValueType) (name : String) : Except AccessError (Datum H.Object) :=
  match a.value t name with
  | .ok (some d) => .ok d
  | .ok none => .error (.missingParameter name)
  | .error e => .error e

end Args
end BeanContract
