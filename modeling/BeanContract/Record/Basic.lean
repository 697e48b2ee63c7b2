/-
Records: beans that are data.

A record has named fields and laws that say how it is compared, hashed and shown.
The laws need not be lawful: a record may equal nothing, or hash differently at
every call.  The operations here are those of one record, given the host that the
values of its fields belong to.
-/
import BeanContract.Bean.Adapter

namespace BeanContract
namespace Record

inductive Test (C : Type) where
  | isNull
  | isNotNull
  | equals (c : C)
  | differs (c : C)
  | below (n : Int)
  | above (n : Int)
  | longer (n : Nat)

/-- Tests that all have to hold, of a field or of the value at hand. -/
structure Condition (C : Type) where
  field : Option String
  tests : List (Test C)

/-- When two records are equal. -/
inductive EqualityLaw where
  | allFields
  | fields (names : List String)
  | never
  | always
  /-- They are the same construction. -/
  | sameSerial
  /-- The integer in a field is not above the other's; null is below all integers. -/
  | notAbove (field : String)

inductive HashPart (O : Type) where
  | field (name : String)
  | conditions (cs : List (Condition (Option (Datum O))))

/-- What a record feeds to its hash. -/
inductive HashLaw (O : Type) where
  | allFields
  | parts (ps : List (HashPart O))
  | serial
  | unstable

/-- How a record is shown: as a short list of its fields, with a line of members, as
nothing, or not at all. -/
inductive TextLaw where
  | fields
  | members
  | empty
  | panic (p : Panic)

structure Laws (O : Type) where
  name : String
  equality : EqualityLaw
  hash : HashLaw O
  text : TextLaw
  builderText : TextLaw

end Record

structure Record (O : Type) where
  laws : Record.Laws O
  serial : Nat
  fields : List (String × Option (Datum O))

namespace Record

/-- A record that is nothing but its members: they are compared and fed to the hash in
order, and shown on one line. -/
def ofMembers {O : Type} (name : String) (members : List (String × Option (Datum O))) :
    Record O where
  laws := ⟨name, .allFields, .parts (members.map fun m => .field m.1), .members, .empty⟩
  serial := 0
  fields := members

variable {H : Host}

def int? : Value H → Option Int
  | some (.int _ n) => some n
  | _ => none

/-- The value of the first field of a name, null if there is none. -/
def get (r : Record H.Object) (name : String) : Value H := (r.fields.lookup name).getD none

def getOf (t : ValueType) (r : Record H.Object) (name : String) : Value H :=
  match (r.get name : Value H) with
  | some d => if d.type = t then some d else none
  | none => none

def setField (name : String) (v : Value H) : List (String × Value H) → List (String × Value H)
  | [] => [(name, v)]
  | f :: fs => if f.1 = name then (name, v) :: fs else f :: setField name v fs

def set (r : Record H.Object) (name : String) (v : Value H) : Record H.Object :=
  { r with fields := setField name v r.fields }

/-- Whether a test holds of a value; it is the constant that is asked for equality. -/
def Test.holds (v : Value H) : Test (Value H) → Bool
  | isNull => v.isNone
  | isNotNull => v.isSome
  | equals w => Value.same w v
  | differs w => !Value.same w v
  | below n => (int? v).any (· < n)
  | above n => (int? v).any (· > n)
  | longer n =>
    match v with
    | some (.string s) => s.length > n
    | _ => false

def Condition.holds (r : Record H.Object) (v : Value H) (c : Condition (Value H)) : Bool :=
  match c.field with
  | some f => c.tests.all (Test.holds (r.get f))
  | none => c.tests.all (Test.holds v)

def notAbove : Option Int → Option Int → Bool
  | none, _ => true
  | some _, none => false
  | some a, some b => a ≤ b

def sameFields : List (String × Value H) → List (String × Value H) → Bool
  | [], [] => true
  | f :: fs, g :: gs => f.1 = g.1 && Value.same f.2 g.2 && sameFields fs gs
  | _, _ => false

def same (a b : Record H.Object) : Bool :=
  match a.laws.equality with
  | .allFields => sameFields a.fields b.fields
  | .fields names => names.all fun n => Value.same (a.get n) (b.get n)
  | .never => false
  | .always => true
  | .sameSerial => a.serial = b.serial
  | .notAbove f => notAbove (int? (a.get f)) (int? (b.get f))

def HashPart.digest (r : Record H.Object) : HashPart H.Object → Digest
  | field n => (Value.hashCode (r.get n)).digest
  | conditions cs => .ofNat 1 (cs.all (Condition.holds r none)).toNat

def fieldDigest (f : String × Value H) : Digest :=
  Digest.ofString f.1 ++ (Value.hashCode f.2).digest

/-- What a record feeds to its hash; all fields are fed after their number. -/
def digest (r : Record H.Object) : Digest :=
  match r.laws.hash with
  | .allFields => .ofNat 8 r.fields.length ++ r.fields.flatMap (fieldDigest (H := H))
  | .parts ps => ps.flatMap (HashPart.digest r)
  | .serial => .ofNat 8 r.serial
  | .unstable => [.fleeting]

def fieldTexts? (mark : String) : List (String × Value H) → Except Panic (List String)
  | [] => pure []
  | f :: fs => do
    let text ← Value.show? f.2
    let rest ← fieldTexts? mark fs
    pure ((f.1 ++ mark ++ text) :: rest)

def TextLaw.show? (name : String) (fields : List (String × Value H)) :
    TextLaw → Except Panic String
  | .fields => do
    let parts ← fieldTexts? "=" fields
    pure (name ++ "\x7b" ++ ", ".intercalate parts ++ "\x7d")
  | .members => do
    let parts ← fieldTexts? ": " fields
    pure (name ++ " \x7b " ++ ", ".intercalate parts ++ " \x7d")
  | .empty => pure ""
  | .panic p => throw p

def show? (r : Record H.Object) : Except Panic String := r.laws.text.show? r.laws.name r.fields

/-- The text of a record that a builder is still working on. -/
def builderText? (r : Record H.Object) : Except Panic String :=
  r.laws.builderText.show? (r.laws.name ++ "Builder") r.fields

end Record
end BeanContract
