/-!
Contract: texts cut at a separator.

Owns: the pieces of a text between separators.

Does not own: what a piece is.
-/

namespace HubRelay.Text

/-- The pieces of a text between separators; a text without a separator is its own only piece. -/
def pieces (separator : Char) : List Char → List (List Char)
  | [] => [[]]
  | character :: rest =>
    if character = separator then [] :: pieces separator rest
    else match pieces separator rest with
      | [] => [[character]]
      | piece :: others => (character :: piece) :: others

end HubRelay.Text
