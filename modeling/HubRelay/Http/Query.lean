import HubRelay.Envelope.Interest
import HubRelay.Text.Percent

/-!
Contract: queries of requests.

Owns: cutting a query into fields, and what a backend says about itself in a query.

Does not own: what is done with it.
-/

namespace HubRelay.Http.Query

/-- The name and the value of one field, which has an empty value where nothing is assigned. -/
def field (text : List Char) : String × String :=
  (Text.Percent.decodeFormPart (text.takeWhile (· ≠ '=')),
    Text.Percent.decodeFormPart ((text.dropWhile (· ≠ '=')).drop 1))

/-- The fields of a query, in the order in which they are written. -/
def fields (query : List Char) : List (String × String) :=
  ((Text.pieces '&' query).filter fun text => !text.isEmpty).map field

/-- Read fields; one that is repeated is refused. -/
def readFields (draft : Interest.Draft) : List (String × String) → Option Interest.Draft
  | [] => some draft
  | (name, value) :: more =>
    match name with
    | "events" => if draft.events.isSome then none
        else readFields { draft with events := some value } more
    | "name" => if draft.name.isSome then none
        else readFields { draft with name := some (some value) } more
    | _ => readFields draft more

def interest? (query : List Char) : Option Interest :=
  (readFields Interest.record.blank (fields query)).bind Interest.record.complete?

end HubRelay.Http.Query
