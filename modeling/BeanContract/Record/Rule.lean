/-
Rules: the code of records.

A rule is a condition and an action.  Of the rules of a setter, getter, parameter or
constructor the first whose condition holds acts; where none does, a value is stored
or read as it is.  A constant in a rule is made anew each time the rule needs it, so
that a constant bean is a new construction each time.
-/
import BeanContract.Record.Basic

namespace BeanContract
namespace Record

abbrev Constant (H : Host) := Adapter H (Value H)

/-- What a rule does.  In a setter an action that says what to give stores the value as it
is; in a getter an action that says where to store gives what is stored. -/
inductive Action (H : Host) where
  | store
  | ignore
  /-- Give null. -/
  | giveNull
  /-- Store or give a constant. -/
  | const (c : Constant H)
  /-- Store or give the next count; null when `nullEvery` divides it. -/
  | count (nullEvery : Option Nat)
  /-- Store in another field. -/
  | divert (field : String)
  /-- Store in another field, and then where it belongs. -/
  | copy (field : String)
  /-- Give what another field holds. -/
  | take (field : String)
  | fail (f : Fault)

structure Rule (H : Host) where
  condition : Condition (Constant H)
  action : Action H

/-- A parameter of a constructor: how its argument is looked at, and where it goes. -/
inductive Reading where
  | value
  | required
  | presence
  | text

structure Parameter (H : Host) where
  name : String
  type : ValueType
  reading : Reading
  field : String
  rules : List (Rule H)

variable {H : Host}

def Test.made : Test (Constant H) → Adapter H (Test (Value H))
  | isNull => pure .isNull
  | isNotNull => pure .isNotNull
  | equals c => do pure (.equals (← c))
  | differs c => do pure (.differs (← c))
  | below n => pure (.below n)
  | above n => pure (.above n)
  | longer n => pure (.longer n)

def Condition.made (c : Condition (Constant H)) : Adapter H (Condition (Value H)) := do
  pure { field := c.field, tests := ← Effect.gather Test.made c.tests }

/-- What the first rule that applies does. -/
def actionFor (r : Record H.Object) (v : Value H) : List (Rule H) → Adapter H (Action H)
  | [] => pure .store
  | rule :: rules => do
    let c ← rule.condition.made
    if c.holds r v then pure rule.action else actionFor r v rules

def counted (t : ValueType) (nullEvery : Option Nat) (n : Nat) : Value H :=
  if nullEvery.any (fun k => k ≠ 0 && n % k = 0) then none
  else match t with
    | .int k => some (.int k (k.wrap n))
    | .string => some (.string ("gen-" ++ toString n))
    | _ => none

/-- Store a value in a field, by the rules; `tick` takes the next count. -/
def store (tick : Adapter H Nat) (rules : List (Rule H)) (t : ValueType) (field : String)
    (r : Record H.Object) (v : Value H) : Adapter H (Record H.Object) := do
  match ← actionFor r v rules with
  | .ignore => pure r
  | .const c => do pure (r.set field (← c))
  | .count k => do pure (r.set field (counted t k (← tick)))
  | .divert f => pure (r.set f v)
  | .copy f => pure ((r.set f v).set field v)
  | .fail f => throw f
  | .store | .giveNull | .take _ => pure (r.set field v)

def read (tick : Adapter H Nat) (rules : List (Rule H)) (t : ValueType) (field : String)
    (r : Record H.Object) : Adapter H (Value H) := do
  match ← actionFor r (r.get field) rules with
  | .giveNull => pure none
  | .const c => c
  | .count k => do pure (counted t k (← tick))
  | .take f => pure (r.get f)
  | .fail f => throw f
  | _ => pure (r.get field)

def check (rules : List (Rule H)) (r : Record H.Object) : Adapter H Unit := do
  match ← actionFor r none rules with
  | .fail f => throw f
  | _ => pure ()

namespace Parameter

def incoming (p : Parameter H) (args : Args H) : Adapter H (Value H) :=
  match p.reading with
  | .value => Effect.ofExcept Fault.error (args.value p.type p.name)
  | .required => do pure (some (← Effect.ofExcept Fault.error (args.require p.type p.name)))
  | .presence => pure (some (.bool (args.contains p.name)))
  | .text =>
    match args.get? p.name with
    | none => pure none
    | some v => do pure (some (.string (← Effect.ofExcept Fault.panic (Value.show? v))))

end Parameter

def takeIn (tick : Adapter H Nat) (args : Args H) :
    List (Parameter H) → Record H.Object → Adapter H (Record H.Object)
  | [], r => pure r
  | p :: ps, r => do
    let v ← p.incoming args
    let r ← store tick p.rules p.type p.field r v
    takeIn tick args ps r

/-- Construct a record: start from `fresh`, take in the parameters, then check. -/
def construct (fresh : Adapter H (Record H.Object)) (tick : Adapter H Nat)
    (parameters : List (Parameter H)) (rules : List (Rule H)) (args : Args H) :
    Adapter H (Record H.Object) := do
  let r ← fresh
  let r ← takeIn tick args parameters r
  check rules r
  pure r

end Record
end BeanContract
