/-
The types of property values.

A type is shown by its short name (`ValueType.name`): paths are cut down to their
last name, which only the types of objects have.
-/
import BeanContract.Text.TypeName

namespace BeanContract

/-- An integer type: its word width and sign, or the size type of the machine. -/
inductive IntType where
  | unsigned (bits : Nat)
  | signed (bits : Nat)
  | size
  deriving DecidableEq, Repr

namespace IntType

def bits : IntType → Nat
  | unsigned n => n
  | signed n => n
  | size => 64

def name : IntType → String
  | unsigned n => "u" ++ toString n
  | signed n => "i" ++ toString n
  | size => "usize"

def modulus (t : IntType) : Nat := 1 <<< t.bits

/-- The number of the type that agrees with `i` modulo its width. -/
def wrap (t : IntType) (i : Int) : Int :=
  match t with
  | signed _ => i.bmod t.modulus
  | _ => i % t.modulus

end IntType

inductive ValueType where
  | bool
  | char
  | int (kind : IntType)
  | string
  | unit
  | list (elem : ValueType)
  | option (elem : ValueType)
  | object (path : String)
  deriving DecidableEq, Repr

namespace ValueType

def path : ValueType → String
  | bool => "bool"
  | char => "char"
  | int k => k.name
  | string => "String"
  | unit => "()"
  | list t => "Vec<" ++ t.path ++ ">"
  | option t => "Option<" ++ t.path ++ ">"
  | object p => p

def name (t : ValueType) : String := Text.shortTypeName t.path

end ValueType
end BeanContract
