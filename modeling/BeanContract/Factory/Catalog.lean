/-
The catalog: factories of the simple types.

The fixed values are small and easy to spot in messages.  Random numbers range
over the whole type; random characters and texts keep to letters and digits.
-/
import BeanContract.Factory.Registry

namespace BeanContract
namespace Catalog

open BeanContract.Random (Engine)

variable {H : Host}

def alphabet : List Char :=
  "abcdefghijklmnopqrstuvwxyzABCDEFGHIJKLMNOPQRSTUVWXYZ0123456789".toList

def maxTextLength : Nat := 12

def randomChar (e : Engine) : Char × Engine :=
  let (i, e) := e.below alphabet.length
  (alphabet.getD i 'a', e)

def randomText (e : Engine) : String × Engine :=
  let (n, e) := e.below maxTextLength
  let (cs, e) := e.take randomChar (n + 1)
  (String.ofList cs, e)

/-- A number from the whole range of an integer type: one word, or two when the
type is wider than one. -/
def randomInt (k : IntType) (e : Engine) : Int × Engine :=
  if k.bits ≤ 32 then
    let (w, e) := e.word32
    (k.wrap w.toNat, e)
  else
    let (w, e) := e.word64
    (k.wrap w.toNat, e)

/-- A random datum of a simple type; the types of lists, options and objects give a fixed
one. -/
def random : ValueType → Program H (Datum H.Object)
  | .bool => Program.draw fun e => e.coin.map .bool id
  | .char => Program.draw fun e => (randomChar e).map .char id
  | .int k => Program.draw fun e => (randomInt k e).map (.int k) id
  | .string => Program.draw fun e => (randomText e).map .string id
  | .list t => pure (.list t [])
  | .option t => pure (.absent t)
  | .unit | .object _ => pure .unit

def bools : Factory H := (Factory.fixed (.bool true) (.bool false) (random .bool)).asLowCardinality

def chars : Factory H := .fixed (.char 'p') (.char 's') (random .char)

def ints (k : IntType) : Factory H := .fixed (.int k 1) (.int k 2) (random (.int k))

def texts : Factory H := .fixed (.string "primary") (.string "secondary") (random .string)

def intTypes : List IntType :=
  [.unsigned 8, .signed 32, .signed 64, .unsigned 32, .unsigned 64, .size]

def factories : List (Factory H) := [bools, chars] ++ intTypes.map ints ++ [texts]

def registry : Registry H := factories.foldl Registry.register .empty

end Catalog
end BeanContract
