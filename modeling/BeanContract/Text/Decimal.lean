/-
Exact decimal texts of floats.

A finite float is an integer times a power of two, so its decimal expansion ends:
`m * 2 ^ -k` is `m * 5 ^ k` shifted by `k` places.
-/
namespace BeanContract
namespace Text

def scientific (digits places : Nat) : String := toString digits ++ "e-" ++ toString places

/-- The exact size of the finite float that has these bits, whatever its sign. -/
def magnitude (bits : Nat) : String :=
  let exponent := (bits >>> 52) % (1 <<< 11)
  let fraction := bits % (1 <<< 52)
  let significand := (1 <<< 52) + fraction
  if exponent = 0 then scientific (fraction * Nat.pow 5 1074) 1074
  else if exponent < 1075 then
    scientific (significand * Nat.pow 5 (1075 - exponent)) (1075 - exponent)
  else scientific (significand <<< (exponent - 1075)) 0

def decimal (x : Float) : String :=
  let bits := x.toBits.toNat
  if bits < 1 <<< 63 then magnitude bits else "-" ++ magnitude bits

end Text
end BeanContract
