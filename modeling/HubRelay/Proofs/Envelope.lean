import HubRelay.Proofs.Listing

/-!
Contract: messages come back from what is written for them.

Owns: that bodies, contexts, events and decisions come back from their trees and from their texts,
and what follows for texts that were written by others.

Does not own: commands, which are never written.

What is written for a message is among the values that tell it, and it is read from all of these.  A
message may be written only if the numbers in it are integers and it does not nest too deep.
-/

namespace HubRelay

open Json Document

/-! ## Trees -/

namespace Json

/-- The values that texts can carry: all numbers are integers, and nothing nests deeper than a
whole text may. -/
structure Plain (value : Json) : Prop where
  integral : value.isIntegral = true
  shallow : value.nesting ≤ 127

end Json

namespace Payload

/-- Every body comes back from its tree, where it may nest as deep as it does. -/
theorem read_toJson (payload : Payload) {origin : Origin}
    (allows : origin.Allows payload.toJson.nesting) :
    Payload.read origin (ofValue payload.toJson) = .ok payload :=
  read_of_tells payload.tells_toJson allows

end Payload

namespace Context

/-- Every context comes back from its tree, where it may nest as deep as it does. -/
theorem read_toJson (context : Context) {origin : Origin}
    (allows : origin.Allows context.toJson.nesting) :
    Context.read origin (ofValue context.toJson) = .ok context :=
  read_of_tells context.tells_toJson allows

theorem areIntegral_texts (entries : List (String × String)) :
    areIntegralMembers (entries.map fun (name, value) => (name, .string value)) = true := by
  induction entries with
  | nil => rfl
  | cons entry entries inductionHypothesis => exact inductionHypothesis

theorem nesting_texts (entries : List (String × String)) :
    nestingMembers (entries.map fun (name, value) => (name, .string value)) = 0 := by
  induction entries with
  | nil => rfl
  | cons entry entries inductionHypothesis =>
    exact (Nat.zero_max _).trans inductionHypothesis

/-- There are no numbers in a context. -/
theorem isIntegral_toJson (context : Context) : context.toJson.isIntegral = true := by
  obtain ⟨headers, userId⟩ := context
  have texts := areIntegral_texts headers.entries
  cases userId <;> simp [toJson, headersJson, isIntegral, areIntegralMembers, texts]

theorem nesting_toJson (context : Context) : context.toJson.nesting = 2 := by
  obtain ⟨headers, userId⟩ := context
  have texts := nesting_texts headers.entries
  cases userId <;> simp [toJson, headersJson, nesting, nestingMembers, texts]

theorem plain_toJson (context : Context) : context.toJson.Plain :=
  ⟨context.isIntegral_toJson, by rw [context.nesting_toJson]; decide⟩

end Context

namespace Event

/-- Every event comes back from its tree, where it may nest as deep as it does. -/
theorem read_toJson (event : Event) {origin : Origin}
    (allows : origin.Allows event.toJson.nesting) :
    Event.read origin (ofValue event.toJson) = .ok event :=
  read_of_tells event.tells_toJson allows

end Event

namespace Decision

/-- Every decision comes back from its tree, where it may nest as deep as it does. -/
theorem read_toJson (decision : Decision) {origin : Origin}
    (allows : origin.Allows decision.toJson.nesting) :
    Decision.read origin (ofValue decision.toJson) = .ok decision :=
  read_of_tells decision.tells_toJson allows

/-- There are no numbers in a decision. -/
theorem isIntegral_toJson (decision : Decision) : decision.toJson.isIntegral = true := by
  cases decision with
  | approve subProtocol => cases subProtocol <;> rfl
  | reject reason => rfl

theorem nesting_toJson (decision : Decision) : decision.toJson.nesting = 2 := by
  cases decision with
  | approve subProtocol => cases subProtocol <;> rfl
  | reject reason => rfl

theorem plain_toJson (decision : Decision) : decision.toJson.Plain :=
  ⟨decision.isIntegral_toJson, by rw [decision.nesting_toJson]; decide⟩

end Decision

namespace Approval

/-- Every message about a connection comes back from its tree, where it may nest as deep as it
does. -/
theorem read_toJson (approval : Approval) {origin : Origin}
    (allows : origin.Allows approval.toJson.nesting) :
    Approval.read origin (ofValue approval.toJson) = .ok approval :=
  read_of_tells approval.tells_toJson allows

theorem plain_toJson (approval : Approval) : approval.toJson.Plain := by
  have integral : (approval.decision.toJson.isIntegral && true) = true := by
    rw [approval.decision.isIntegral_toJson]
    rfl
  have shallow : max 0 (max approval.decision.toJson.nesting 0) + 1 ≤ 127 := by
    rw [approval.decision.nesting_toJson]
    decide
  exact ⟨integral, shallow⟩

end Approval

/-! ## Texts -/

namespace Json

/-- What a reader makes of a text, written again. -/
def writeAgain {α : Type} (toJson : α → Json) (reader : Reader α) (text : String) :
    Except Fault String :=
  (reader.readText text.toList).map fun value => (toJson value).text

/-- Messages survive being written and read. -/
structure RoundTrips {α : Type} (toJson : α → Json) (reader : Reader α) : Prop where
  /-- A message comes back from its text. -/
  comesBack : ∀ value, (toJson value).Plain →
    reader.readText (toJson value).text.toList = .ok value
  /-- Different messages have different texts. -/
  tellsApart : ∀ one other, (toJson one).Plain → (toJson other).Plain →
    (toJson one).text = (toJson other).text → one = other
  /-- Whoever wrote a text, once it has been written again it stays as it is. -/
  settles : ∀ text value, reader.readText text.toList = .ok value → (toJson value).Plain →
    writeAgain toJson reader text = .ok (toJson value).text ∧
      reader.readText (toJson value).text.toList = .ok value ∧
      writeAgain toJson reader (toJson value).text = .ok (toJson value).text

/-- Messages that come back from their trees survive. -/
theorem RoundTrips.of_read {α : Type} {toJson : α → Json} {reader : Reader α}
    (reads : ∀ value, Origin.whole.Allows (toJson value).nesting →
      reader .whole (ofValue (toJson value)) = .ok value) : RoundTrips toJson reader := by
  have comesBack (value : α) (plain : (toJson value).Plain) :
      reader.readText (toJson value).text.toList = .ok value := by
    rw [Reader.readText_isText reader (isText_print _ plain.integral)]
    exact reads value plain.shallow
  refine ⟨comesBack, fun one other onePlain otherPlain same => ?_,
    fun text value read plain => ⟨?_, comesBack value plain, ?_⟩⟩
  · have first := comesBack one onePlain
    rw [same, comesBack other otherPlain] at first
    exact (Except.ok.inj first).symm
  · rw [writeAgain, read]
    rfl
  · rw [writeAgain, comesBack value plain]
    rfl

end Json

/-- Every message comes back from its text, as long as the JSON in it holds integers for numbers and
nests no deeper than texts may.  Contexts and decisions always do. -/
theorem wire_roundTrips :
    RoundTrips Event.toJson Event.read ∧ RoundTrips Payload.toJson Payload.read ∧
      (RoundTrips Context.toJson Context.read ∧ ∀ context : Context, context.toJson.Plain) ∧
      (RoundTrips Decision.toJson Decision.read ∧ ∀ decision : Decision, decision.toJson.Plain) ∧
      RoundTrips Approval.toJson Approval.read ∧ ∀ approval : Approval, approval.toJson.Plain :=
  ⟨.of_read fun event => event.read_toJson, .of_read fun payload => payload.read_toJson,
    ⟨.of_read fun context => context.read_toJson, Context.plain_toJson⟩,
    ⟨.of_read fun decision => decision.read_toJson, Decision.plain_toJson⟩,
    .of_read fun approval => approval.read_toJson, Approval.plain_toJson⟩

-- A body that says nothing is not a body that is missing.
example :
    Event.read.readText (Event.user "chat" "ada" .empty (.json (.of .null))).toJson.text.toList =
      .ok (.user "chat" "ada" .empty (.json (.of .null))) := by
  decide +kernel

end HubRelay
