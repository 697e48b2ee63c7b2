/-
How a bean responds when a property is left out or set to null.

A declared response need not be the observed one: `accepts` says which
observations a declaration allows.
-/
namespace BeanContract

/-- What happens to a property without a value: it reads back null, reads back a
substitute, makes the bean fail or can no longer be read.  The last two are only
ever declared: a substitute that varies from bean to bean, and one that may also
be null. -/
inductive Response where
  | null
  | value
  | error
  | notReadable
  | varying
  | varyingNullable
  deriving DecidableEq, Repr

namespace Response

def name : Response → String
  | null => "NULL"
  | value => "VALUE"
  | error => "ERROR"
  | notReadable => "NOT_READABLE"
  | varying => "VARIABLE"
  | varyingNullable => "VARIABLE_NULLABLE"

def all : List Response := [null, value, error, notReadable, varying, varyingNullable]

def isVarying : Response → Bool
  | varying | varyingNullable => true
  | _ => false

/-- A declared response allows itself; the variable ones also allow a substitute,
and the nullable one null. -/
def accepts (declared observed : Response) : Bool :=
  declared = observed ||
    match declared, observed with
    | varying, value => true
    | varyingNullable, value => true
    | varyingNullable, null => true
    | _, _ => false

end Response

/-- The two ways in which a property ends up without a value. -/
inductive Absence where
  | omitted
  | setToNull
  deriving DecidableEq, Repr

namespace Absence

def phrase : Absence → String
  | omitted => "omitted"
  | setToNull => "set to null"

end Absence
end BeanContract
