import HubRelay.Decimal.Binary64

/-!
Contract: the shortest decimal number that reads back as a given floating-point value.

Owns: the decimal order of magnitude of a value, and the search through grids of one, two, …
digits for a point that reads back, the nearer one where two do.

Does not own: where the point or an exponent is written.
-/

namespace HubRelay.Decimal

/-- Whether the magnitude of a value is below `10 ^ power`. -/
def isBelowPower (value : Binary64) (power : Int) : Bool :=
  compareScaled 1 power value.mantissa value.scale == .gt

/-- The least power of ten above the magnitude of a value that is not zero.

A binary logarithm gives the power up to two steps. -/
def leastPowerAbove (value : Binary64) : Int :=
  let guess := ((value.mantissa.log2 : Int) + value.scale) * 30103 / 100000
  if isBelowPower value guess then guess
  else if isBelowPower value (guess + 1) then guess + 1
  else guess + 2

/-- The whole number of steps of `10 ^ step` in the magnitude of a value. -/
def stepsBelow (value : Binary64) (step : Int) : Nat :=
  (value.mantissa * Nat.pow 2 value.scale.toNat * Nat.pow 10 (-step).toNat) /
    (Nat.pow 10 step.toNat * Nat.pow 2 (-value.scale).toNat)

/-- Of two neighbouring grid points, the nearer one; half-way between them, the even one. -/
def nearerPoint (value : Binary64) (low : Nat) (step : Int) : Number :=
  match compareScaled (2 * low + 1) step value.mantissa (value.scale + 1) with
  | .gt => ⟨low, step⟩
  | .lt => ⟨low + 1, step⟩
  | .eq => if low % 2 = 0 then ⟨low, step⟩ else ⟨low + 1, step⟩

/-- The point of one grid that reads back as the value, if there is one. -/
def pointOn (value : Binary64) (step : Int) : Option Number :=
  let low := stepsBelow value step
  match value.isNearest ⟨low, step⟩, value.isNearest ⟨low + 1, step⟩ with
  | true, true => some (nearerPoint value low step)
  | true, false => some ⟨low, step⟩
  | false, true => some ⟨low + 1, step⟩
  | false, false => none

/-- Search grids that get finer by one digit at a time. -/
def searchFrom (value : Binary64) (step : Int) : Nat → Option Number
  | 0 => none
  | grids + 1 => (pointOn value step).or (searchFrom value (step - 1) grids)

/-- Write trailing zeros into the exponent; the fuel bounds their number. -/
def stripZeros : Nat → Number → Number
  | 0, decimal => decimal
  | fuel + 1, decimal =>
    if decimal.digits ≠ 0 ∧ decimal.digits % 10 = 0 then
      stripZeros fuel ⟨decimal.digits / 10, decimal.exponent + 1⟩
    else decimal

def exactDecimal (value : Binary64) : Number :=
  ⟨value.mantissa * Nat.pow 2 value.scale.toNat * Nat.pow 5 (-value.scale).toNat,
    -((-value.scale).toNat : Int)⟩

/-- The decimal with the fewest digits that reads back as the magnitude of a value; of those
with equally few digits the nearest.

Seventeen digits always suffice; the exact value stands in if a search ever ran dry. -/
def shortest (value : Binary64) : Number :=
  if value.mantissa = 0 then ⟨0, 0⟩
  else
    let found := (searchFrom value (leastPowerAbove value - 1) 17).getD (exactDecimal value)
    stripZeros 20 found

end HubRelay.Decimal
