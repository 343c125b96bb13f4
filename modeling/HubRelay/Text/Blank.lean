/-!
Contract: white space as the Unicode property defines it, and trimming by it.

Owns: the ranges of the property `White_Space`, and cutting white space off both ends of a text.

Does not own: the narrower white space of a particular notation.
-/

namespace HubRelay.Text.Blank

/-- The inclusive code point ranges of the property `White_Space`. -/
def ranges : List (Nat × Nat) :=
  [(0x09, 0x0D), (0x20, 0x20), (0x85, 0x85), (0xA0, 0xA0), (0x1680, 0x1680), (0x2000, 0x200A),
    (0x2028, 0x2029), (0x202F, 0x202F), (0x205F, 0x205F), (0x3000, 0x3000)]

def isBlank (character : Char) : Bool :=
  ranges.any fun (low, high) => low ≤ character.toNat && character.toNat ≤ high

/-- A text without the white space at its two ends. -/
def trimChars (text : List Char) : List Char :=
  (((text.dropWhile isBlank).reverse).dropWhile isBlank).reverse

/-- A string without the white space at its two ends. -/
def trim (text : String) : String :=
  String.ofList (trimChars text.toList)

/-- Whether a string holds nothing but white space. -/
def isAllBlank (text : String) : Bool :=
  text.toList.all isBlank

/-- Every white space character of the core library has the property. -/
theorem isBlank_of_isWhitespace {character : Char} (whitespace : character.isWhitespace = true) :
    isBlank character = true := by
  simp only [Char.isWhitespace, Bool.or_eq_true, decide_eq_true_eq] at whitespace
  rcases whitespace with ((rfl | rfl) | rfl) | rfl <;> decide

end HubRelay.Text.Blank
