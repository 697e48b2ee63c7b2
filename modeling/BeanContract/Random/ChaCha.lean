/-
The ChaCha8 keystream.

A block of sixteen words is a function of the key, the block counter and the
stream number (`ChaCha.block`): eight rounds over a fixed layout of constants,
key, counter and stream, then a wordwise sum with that layout.
-/
namespace BeanContract
namespace Random

abbrev Key := Vector UInt32 8

namespace ChaCha

abbrev State := Vector UInt32 16

def rotateLeft (x : UInt32) (n : UInt32) : UInt32 := (x <<< n) ||| (x >>> (32 - n))

def quarterRound (s : State) (a b c d : Fin 16) : State :=
  let s := s.set a (s[a] + s[b])
  let s := s.set d (rotateLeft (s[d] ^^^ s[a]) 16)
  let s := s.set c (s[c] + s[d])
  let s := s.set b (rotateLeft (s[b] ^^^ s[c]) 12)
  let s := s.set a (s[a] + s[b])
  let s := s.set d (rotateLeft (s[d] ^^^ s[a]) 8)
  let s := s.set c (s[c] + s[d])
  s.set b (rotateLeft (s[b] ^^^ s[c]) 7)

/-- One round over the columns, then one over the diagonals. -/
def doubleRound (s : State) : State :=
  let s := quarterRound s 0 4 8 12
  let s := quarterRound s 1 5 9 13
  let s := quarterRound s 2 6 10 14
  let s := quarterRound s 3 7 11 15
  let s := quarterRound s 0 5 10 15
  let s := quarterRound s 1 6 11 12
  let s := quarterRound s 2 7 8 13
  quarterRound s 3 4 9 14

/-- The text `expand 32-byte k` as four little-endian words. -/
def constants : Vector UInt32 4 := #v[0x61707865, 0x3320646e, 0x79622d32, 0x6b206574]

def low (w : UInt64) : UInt32 := w.toUInt32

def high (w : UInt64) : UInt32 := (w >>> 32).toUInt32

def layout (key : Key) (counter stream : UInt64) : State :=
  constants ++ key ++ #v[low counter, high counter, low stream, high stream]

def block (key : Key) (counter stream : UInt64) : State :=
  let start := layout key counter stream
  let mixed := doubleRound (doubleRound (doubleRound (doubleRound start)))
  Vector.zipWith (· + ·) mixed start

end ChaCha
end Random
end BeanContract
