/-
The seeded random engine.

An engine reads one keystream word by word, block after block.  Every draw is a
function of the words it takes: a 64-bit word is two words, low half first, and a
bounded number is the high part of a product whose low part falls in the
acceptance zone, so that all bounds are hit equally often.
-/
import BeanContract.Random.ChaCha

namespace BeanContract
namespace Random

/-- A place in a keystream: `pending` holds the unread words of the last block,
`counter` numbers the next one. -/
structure Engine where
  key : Key
  stream : UInt64
  counter : UInt64
  pending : List UInt32

namespace Engine

def nextSeed (s : UInt64) : UInt64 := s * 6364136223846793005 + 11634580027462260723

def keyWord (s : UInt64) : UInt32 :=
  let x := (((s >>> 18) ^^^ s) >>> 27).toUInt32
  let r := (s >>> 59).toUInt32
  (x >>> r) ||| (x <<< (32 - r))

def keyWords : Nat → UInt64 → List UInt32
  | 0, _ => []
  | n + 1, s => keyWord (nextSeed s) :: keyWords n (nextSeed s)

def keyOfSeed (seed : UInt64) : Key := ⟨(keyWords 8 seed).toArray, rfl⟩

def ofSeed (seed stream : UInt64) : Engine := ⟨keyOfSeed seed, stream, 0, []⟩

def word32 (e : Engine) : UInt32 × Engine :=
  match e.pending with
  | w :: ws => (w, { e with pending := ws })
  | [] =>
    let words := ChaCha.block e.key e.counter e.stream
    (words[0], { e with counter := e.counter + 1, pending := words.toList.tail })

def word64 (e : Engine) : UInt64 × Engine :=
  let (low, e) := e.word32
  let (high, e) := e.word32
  (high.toUInt64 <<< 32 ||| low.toUInt64, e)

def take {α : Type} (step : Engine → α × Engine) : Nat → Engine → List α × Engine
  | 0, e => ([], e)
  | n + 1, e =>
    let (a, e) := step e
    let (as, e) := take step n e
    (a :: as, e)

def unit (e : Engine) : Float × Engine :=
  let (w, e) := e.word64
  ((w >>> 11).toFloat / 9007199254740992.0, e)

def chance (p : Float) (e : Engine) : Bool × Engine :=
  let (u, e) := e.unit
  (u < p, e)

def coin (e : Engine) : Bool × Engine :=
  let (w, e) := e.word32
  (w >>> 31 = 1, e)

/-- The largest low part for which a 64-bit word decides a number below `n`. -/
def zone (n : Nat) : Nat := n <<< (63 - n.log2) - 1

/-- Draw words until one decides a number below `n`, at most `attempts` times.
Each word decides with probability over one half. -/
def belowWithin (n : Nat) : Nat → Engine → Nat × Engine
  | 0, e => (0, e)
  | attempts + 1, e =>
    let (w, e) := e.word64
    let product := w.toNat * n
    if product % UInt64.size ≤ zone n then (product / UInt64.size, e)
    else belowWithin n attempts e

def below (n : Nat) (e : Engine) : Nat × Engine := belowWithin n 4096 e

/-- An engine split off: its seed is the next word, `stream` its stream. -/
def split (stream : UInt64) (e : Engine) : Engine × Engine :=
  let (w, e) := e.word64
  (ofSeed w stream, e)

end Engine
end Random
end BeanContract
