/-!
Contract: hexadecimal digits.

Owns: the value of a digit in either case, the lower-case digit of a value, and the digits of a
natural number, with the law that they stand for it.

Does not own: the notations that escape characters by such digits.
-/

namespace HubRelay.Text.Hex

/-- The value of a hexadecimal digit in either case. -/
def value? (character : Char) : Option Nat :=
  if '0' ≤ character ∧ character ≤ '9' then some (character.toNat - '0'.toNat)
  else if 'a' ≤ character ∧ character ≤ 'f' then some (character.toNat - 'a'.toNat + 10)
  else if 'A' ≤ character ∧ character ≤ 'F' then some (character.toNat - 'A'.toNat + 10)
  else none

def digit (value : Nat) : Char :=
  if value < 10 then Char.ofNat ('0'.toNat + value) else Char.ofNat ('a'.toNat + (value - 10))

/-- The number that a row of digits stands for, when all of them are digits. -/
def number? (digits : List Char) : Option Nat :=
  digits.foldlM (fun total character => (value? character).map (total * 16 + ·)) 0

/-- The last digits of a natural number, as many as asked for. -/
def lastDigits : Nat → Nat → List Char
  | 0, _ => []
  | width + 1, number => lastDigits width (number / 16) ++ [digit (number % 16)]

/-- The digits of a natural number without leading zeros. -/
def digits (number : Nat) : List Char :=
  Nat.toDigits 16 number

/-- The digit of a value below sixteen has that value. -/
theorem value?_digitChar (value : Nat) (small : value < 16) :
    value? value.digitChar = some value := by
  have all : ∀ value : Fin 16, value? value.val.digitChar = some value.val := by decide
  exact all ⟨value, small⟩

/-- The digits of a number stand for it. -/
theorem number?_digits (number : Nat) : number? (digits number) = some number := by
  induction number using Nat.strongRecOn with
  | ind number inductionHypothesis =>
    rcases Nat.lt_or_ge number 16 with small | large
    · simp [number?, digits, Nat.toDigits_of_lt_base small, value?_digitChar number small]
    · have earlier := inductionHypothesis (number / 16) (by omega)
      simp only [number?, digits] at earlier ⊢
      rw [Nat.toDigits_of_base_le (by decide) large, List.foldlM_append, earlier]
      simp only [List.foldlM_cons, List.foldlM_nil,
        value?_digitChar (number % 16) (Nat.mod_lt _ (by decide))]
      simp only [Option.map_some, Option.bind_eq_bind, Option.bind_some, Option.pure_def,
        Option.some.injEq]
      omega

def bytes? : List Char → Option (List UInt8)
  | [] => some []
  | high :: low :: rest => do
    let upper ← value? high
    let lower ← value? low
    let bytes ← bytes? rest
    some (UInt8.ofNat (upper * 16 + lower) :: bytes)
  | [_] => none

def ofBytes (bytes : List UInt8) : List Char :=
  bytes.flatMap fun byte => lastDigits 2 byte.toNat

end HubRelay.Text.Hex
