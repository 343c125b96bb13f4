import HubRelay.Text.Hex

/-!
Contract: the ids of connections and registrations.

Owns: the id of a serial number, and that different serial numbers have different ids.

Does not own: who has which id.
-/

namespace HubRelay

namespace Identifier

def head : List Char :=
  ['b', '7', '4', 'e', '0', 'd', '9', '5', '2', 'a', 'c', '8', '6', 'f', '3', '1']

/-- Zeros in front of digits, up to sixteen digits in all. -/
def pad (digits : List Char) : List Char :=
  List.replicate (16 - digits.length) '0' ++ digits

/-- The id of a serial number: 32 hexadecimal digits, more only past `16 ^ 16`. -/
def ofSerial (serial : Nat) : String :=
  String.ofList (head ++ pad (Text.Hex.digits serial))

/-- Zeros in front of digits do not change the number that they stand for. -/
theorem number?_pad (digits : List Char) :
    Text.Hex.number? (pad digits) = Text.Hex.number? digits := by
  have zeros (count : Nat) :
      Text.Hex.number? (List.replicate count '0' ++ digits) = Text.Hex.number? digits := by
    induction count with
    | zero => rfl
    | succ count inductionHypothesis => exact inductionHypothesis
  exact zeros _

/-- Different serial numbers have different ids. -/
theorem ofSerial_injective {left right : Nat} (same : ofSerial left = ofSerial right) :
    left = right := by
  have rows := List.append_cancel_left (String.ofList_injective same)
  have numbers := congrArg Text.Hex.number? rows
  simp only [number?_pad, Text.Hex.number?_digits, Option.some.injEq] at numbers
  exact numbers

end Identifier

end HubRelay
