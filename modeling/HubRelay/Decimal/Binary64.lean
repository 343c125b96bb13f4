/-!
Contract: finite floating-point numbers of 64 bits, as exact multiples of powers of two.

Owns: the type of finite values, its sign, magnitude and scale, and the comparison of a value
with a decimal number in exact integer arithmetic.

Does not own: which decimal is written for a value, or how a decimal is read.
-/

namespace HubRelay.Decimal

def exponentField (bits : UInt64) : Nat :=
  ((bits >>> 52) &&& 0x7FF).toNat

/-- A finite floating-point value of 64 bits. -/
structure Binary64 where
  bits : UInt64
  finite : exponentField bits ≠ 0x7FF
deriving DecidableEq, Repr

namespace Binary64

/-- The value of a bit pattern, unless it is infinite or no number. -/
def ofBits? (bits : UInt64) : Option Binary64 :=
  if finite : exponentField bits ≠ 0x7FF then some ⟨bits, finite⟩ else none

/-- Whether the sign bit is set, as it also is for negative zero. -/
def isNegative (value : Binary64) : Bool :=
  value.bits >>> 63 == 1

def fractionField (value : Binary64) : Nat :=
  (value.bits &&& 0xFFFFFFFFFFFFF).toNat

/-- The integer `m` of the magnitude `m * 2 ^ q`. -/
def mantissa (value : Binary64) : Nat :=
  if exponentField value.bits = 0 then value.fractionField else 0x10000000000000 + value.fractionField

/-- The integer `q` of the magnitude `m * 2 ^ q`. -/
def scale (value : Binary64) : Int :=
  if exponentField value.bits = 0 then -1074 else (exponentField value.bits : Int) - 1075

/-- Whether the gap to the next smaller magnitude is half the gap to the next larger one. -/
def isNarrowBelow (value : Binary64) : Bool :=
  value.fractionField == 0 && 1 < exponentField value.bits

end Binary64

/-- The decimal number `digits * 10 ^ exponent`. -/
structure Number where
  digits : Nat
  exponent : Int
deriving DecidableEq, Repr

/-- Compare `n * 10 ^ i` with `m * 2 ^ j`. -/
def compareScaled (n : Nat) (i : Int) (m : Nat) (j : Int) : Ordering :=
  compare (n * Nat.pow 10 i.toNat * Nat.pow 2 (-j).toNat)
    (m * Nat.pow 2 j.toNat * Nat.pow 10 (-i).toNat)

namespace Binary64

/-- Whether a decimal lies among the reals that round to the magnitude of this value.

Those reals reach half-way to either neighbour, the ends included when the mantissa is even. -/
def isNearest (value : Binary64) (decimal : Number) : Bool :=
  let low := if value.isNarrowBelow then 4 * value.mantissa - 1 else 4 * value.mantissa - 2
  let high := 4 * value.mantissa + 2
  let closed := value.mantissa % 2 == 0
  let againstLow := compareScaled decimal.digits decimal.exponent low (value.scale - 2)
  let againstHigh := compareScaled decimal.digits decimal.exponent high (value.scale - 2)
  (againstLow == .gt || (closed && againstLow == .eq)) &&
    (againstHigh == .lt || (closed && againstHigh == .eq))

end Binary64

end HubRelay.Decimal
