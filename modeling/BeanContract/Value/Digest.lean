/-
What a value feeds to a hash, and when two hash codes agree.

Hash codes are taken to agree exactly when the same things were fed: a code stands
for its digest.  An atom that changes at every call makes its code agree with no
code, not even itself.
-/
namespace BeanContract

/-- One thing fed to a hash: a byte, the code of a digest, the code of null, or
something that no other call feeds. -/
inductive HashAtom where
  | byte (b : UInt8)
  | code (inner : List HashAtom)
  | fleeting

abbrev Digest := List HashAtom

namespace HashAtom

mutual
def agrees : HashAtom → HashAtom → Bool
  | byte a, byte b => a = b
  | code xs, code ys => agreesAll xs ys
  | _, _ => false
def agreesAll : List HashAtom → List HashAtom → Bool
  | [], [] => true
  | x :: xs, y :: ys => agrees x y && agreesAll xs ys
  | _, _ => false
end

end HashAtom

namespace Digest

/-- The `n` low bytes of a number, lowest first. -/
def ofNat : Nat → Nat → Digest
  | 0, _ => []
  | n + 1, x => .byte x.toUInt8 :: ofNat n (x / 256)

/-- The encoded bytes of a text and an end mark that no text contains. -/
def ofString (s : String) : Digest := s.toUTF8.toList.map .byte ++ [.byte 255]

end Digest

/-- A hash code: that of a digest, or the zero code of null. -/
abbrev HashCode := Option Digest

namespace HashCode

def agrees : HashCode → HashCode → Bool
  | none, none => true
  | some a, some b => HashAtom.agreesAll a b
  | _, _ => false

def digest : HashCode → Digest
  | none => .ofNat 8 0
  | some d => [.code d]

end HashCode
end BeanContract
