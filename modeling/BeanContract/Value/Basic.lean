/-
Values: what properties hold.

A value is null or a datum of some type.  Objects of the host program are part of
the data; the host supplies their equality, what they feed to a hash, and their
text, which may panic.  Equality of values (`Value.same`) never relates values of
different types, and is no more lawful than the host's.
-/
import BeanContract.Failure.Access
import BeanContract.Text.Quoted
import BeanContract.Value.Digest
import BeanContract.Value.Type

namespace BeanContract

/-- A program whose objects are put to the test: its objects, the state outside
them that its code may read and change, and the operations every object has. -/
structure Host where
  Object : Type
  World : Type
  same : Object → Object → Bool
  digest : Object → Digest
  show? : Object → Except Panic String

inductive Datum (O : Type) where
  | bool (b : Bool)
  | char (c : Char)
  | int (kind : IntType) (n : Int)
  | string (s : String)
  | unit
  | list (elem : ValueType) (items : List (Datum O))
  | absent (elem : ValueType)
  | present (item : Datum O)
  | object (path : String) (o : O)

abbrev Value (H : Host) := Option (Datum H.Object)

namespace Datum

def type {O : Type} : Datum O → ValueType
  | bool _ => .bool
  | char _ => .char
  | int k _ => .int k
  | string _ => .string
  | unit => .unit
  | list t _ => .list t
  | absent t => .option t
  | present d => .option d.type
  | object p _ => .object p

variable {H : Host}

mutual
def same : Datum H.Object → Datum H.Object → Bool
  | bool a, bool b => a = b
  | char a, char b => a = b
  | int k a, int l b => k = l ∧ a = b
  | string a, string b => a = b
  | unit, unit => true
  | list t xs, list u ys => t = u && sameAll xs ys
  | absent t, absent u => t = u
  | present a, present b => same a b
  | object p a, object q b => p = q && H.same a b
  | _, _ => false
def sameAll : List (Datum H.Object) → List (Datum H.Object) → Bool
  | [], [] => true
  | x :: xs, y :: ys => same x y && sameAll xs ys
  | _, _ => false
end

mutual
def digest : Datum H.Object → Digest
  | bool b => .ofNat 1 b.toNat
  | char c => .ofNat 4 c.toNat
  | int k n => .ofNat (k.bits / 8) (n % k.modulus).toNat
  | string s => .ofString s
  | unit => []
  | list _ xs => .ofNat 8 xs.length ++ digestAll xs
  | absent _ => .ofNat 8 0
  | present d => .ofNat 8 1 ++ digest d
  | object _ o => H.digest o
def digestAll : List (Datum H.Object) → Digest
  | [] => []
  | x :: xs => digest x ++ digestAll xs
end

mutual
def show? : Datum H.Object → Except Panic String
  | bool b => pure (if b then "true" else "false")
  | char c => pure (Text.quotedChar c)
  | int _ n => pure (toString n)
  | string s => pure (Text.quotedString s)
  | unit => pure "()"
  | list _ xs => do pure ("[" ++ ", ".intercalate (← showAll? xs) ++ "]")
  | absent _ => pure "None"
  | present d => do pure ("Some(" ++ (← show? d) ++ ")")
  | object _ o => H.show? o
def showAll? : List (Datum H.Object) → Except Panic (List String)
  | [] => pure []
  | x :: xs => do pure ((← show? x) :: (← showAll? xs))
end

end Datum

namespace Value

variable {H : Host}

def type? (v : Value H) : Option ValueType := v.map Datum.type

/-- Equality of values: both null, or data that are the same. -/
def same : Value H → Value H → Bool
  | none, none => true
  | some a, some b => a.type = b.type && a.same b
  | _, _ => false

def hashCode (v : Value H) : HashCode := v.map Datum.digest

def show? : Value H → Except Panic String
  | none => pure "null"
  | some d => d.show?

/-- The value, provided it is null or of type `t`. -/
def cast (t : ValueType) (v : Value H) : Except AccessError (Value H) :=
  match v with
  | none => .ok none
  | some d => if d.type = t then .ok v else .error (.typeMismatch t.name d.type.name)

def sameOption : Option (Value H) → Option (Value H) → Bool
  | none, none => true
  | some a, some b => a.same b
  | _, _ => false

/-- How many values a hash set keeps of a list: a value is left out when one kept
before it has an agreeing hash code and equals it. -/
def distinctCount (vs : List (Value H)) : Nat :=
  (vs.foldl (fun kept v =>
    if kept.any (fun k => v.hashCode.agrees k.hashCode && v.same k) then kept else v :: kept)
    []).length

end Value
end BeanContract
