import HubRelay.Decimal.Shortest

/-!
Contract: how the digits of a floating-point value are laid out as text.

Owns: the digits of a natural number, the record of layout decisions, and the text that a layout
gives to a value.

Does not own: which layout a notation uses.
-/

namespace HubRelay.Decimal

def digitsOf (number : Nat) : List Char :=
  Nat.toDigits 10 number

/-- Where a layout stops writing a value in positions and starts writing an exponent. -/
structure Layout where
  /-- The least exponent of the first digit that is written in positions. -/
  positionalFrom : Int
  /-- The greatest exponent of the first digit that is written in positions. -/
  positionalTo : Int
  /-- Whether a whole number ends in `.0`. -/
  keepsPoint : Bool
  /-- Whether an exponent that is not negative has a plus sign. -/
  signsExponent : Bool

namespace Layout

/-- Digits around a point, the first digit standing at the given power of ten. -/
def positional (layout : Layout) (digits : List Char) (power : Int) : List Char :=
  if power < 0 then
    '0' :: '.' :: (List.replicate (-power - 1).toNat '0' ++ digits)
  else
    let whole := power.toNat + 1
    if digits.length ≤ whole then
      digits ++ List.replicate (whole - digits.length) '0' ++
        (if layout.keepsPoint then ['.', '0'] else [])
    else
      digits.take whole ++ '.' :: digits.drop whole

/-- Digits with the point after the first one and an exponent. -/
def scientific (layout : Layout) (digits : List Char) (power : Int) : List Char :=
  let fraction := match digits.drop 1 with
    | [] => []
    | more => '.' :: more
  let sign := if power < 0 then ['-'] else if layout.signsExponent then ['+'] else []
  digits.take 1 ++ fraction ++ 'e' :: (sign ++ digitsOf power.natAbs)

/-- The text of a floating-point value: its shortest digits, laid out. -/
def write (layout : Layout) (value : Binary64) : List Char :=
  let decimal := shortest value
  let digits := digitsOf decimal.digits
  let power := decimal.exponent + (digits.length : Int) - 1
  let magnitude :=
    if layout.positionalFrom ≤ power ∧ power ≤ layout.positionalTo then
      layout.positional digits power
    else
      layout.scientific digits power
  if value.isNegative then '-' :: magnitude else magnitude

end Layout

end HubRelay.Decimal
