/-
Reading type names.

`ValueType.ofName` finds the type that a short name stands for.  A name that no
other type has is the name of an object type.
-/
import BeanContract.Value.Type

namespace BeanContract
namespace ValueType

def plain : List ValueType :=
  [bool, char, string, unit, int .size] ++
    [8, 16, 32, 64].flatMap fun n => [int (.unsigned n), int (.signed n)]

def enclosed? (opening : String) (cs : List Char) : Option (List Char) :=
  if opening.toList.isPrefixOf cs && cs.getLast? = some '>' then
    some (cs.drop opening.length).dropLast
  else none

/-- Read a name with at most `n` type constructors around its innermost part. -/
def ofChars : Nat → List Char → ValueType
  | 0, cs => object (String.ofList cs)
  | n + 1, cs =>
    match plain.find? (fun t => t.path.toList = cs) with
    | some t => t
    | none =>
      match enclosed? "Vec<" cs, enclosed? "Option<" cs with
      | some inner, _ => list (ofChars n inner)
      | none, some inner => option (ofChars n inner)
      | none, none => object (String.ofList cs)

def ofName (s : String) : ValueType := ofChars (s.length + 1) s.toList

end ValueType
end BeanContract
