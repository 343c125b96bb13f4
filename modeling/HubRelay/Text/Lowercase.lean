import HubRelay.Text.CaseTable

/-!
Contract: texts in lower case, by the full Unicode mapping.

Owns: the lower-case characters of a character, and the sigma that ends a word.

Does not own: the tables of case properties.
-/

namespace HubRelay.Text

def isWithin (ranges : List (Nat × Nat)) (character : Char) : Bool :=
  ranges.any fun (low, high) => low ≤ character.toNat && character.toNat ≤ high

namespace CaseRun

def contains (run : CaseRun) (code : Nat) : Bool :=
  run.first ≤ code && code ≤ run.last && (code - run.first) % run.step == 0

end CaseRun

namespace Lowercase

/-- The lower-case characters of a character, whatever stands around it.

Only the capital I with a dot has two of them. -/
def ofChar (character : Char) : List Char :=
  if character = '\u0130' then ['i', '\u0307']
  else match lowercaseRuns.find? (·.contains character.toNat) with
    | some run => [Char.ofNat ((character.toNat : Int) + run.offset).toNat]
    | none => [character]

/-- Whether a cased character comes first among those that case does not ignore. -/
def startsCased (text : List Char) : Bool :=
  match text.dropWhile (isWithin caseIgnorableRanges) with
  | [] => false
  | character :: _ => isWithin casedRanges character

/-- Lower the rest of a text, given what stands before it in reverse.

A capital sigma that ends a word becomes the final small sigma. -/
def lower (before : List Char) : List Char → List Char
  | [] => []
  | character :: rest =>
    (if character = 'Σ' then
      if startsCased before && !startsCased rest then ['ς'] else ['σ']
    else ofChar character) ++ lower (character :: before) rest

end Lowercase

def lowercase (text : String) : String :=
  String.ofList (Lowercase.lower [] text.toList)

end HubRelay.Text
