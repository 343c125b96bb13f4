import HubRelay.Proofs.Base64.Standard
import HubRelay.Proofs.Listing

/-!
Contract: a binary body has one text.

Owns: which JSON values tell that a text is that of a binary body; and that the body is read from
each of these exactly if the text is the standard one of some bytes, which are the body then.

Does not own: which texts are standard.
-/

namespace HubRelay

open Json Document

namespace Payload

/-- A value tells that a text is that of a binary body: an object with the tag and the text in any
order and with other members among them, or a list of the two. -/
inductive TellsBinary (text : String) : Json → Prop
  | object {members : List (String × Json)}
      (lists : Lists record.names [("type", .string "binary"), ("data", .string text)] members) :
      TellsBinary text (.object members)
  | list : TellsBinary text (.array [.string "binary", .string text])

/-- What is read under the tag of binary bodies. -/
theorem toOption_readBody_binary (origin : Origin) (text : String) :
    (readBody .binary origin (.string (.text text))).toOption =
      (Base64.decode text.toList).map .binary := by
  simp only [readBody, asText, bind, Except.bind]
  cases Base64.decode text.toList <;> rfl

/-- Whatever way it is told, a binary body is what its text decodes to. -/
theorem toOption_read_of_tells {text : String} {written : Json} (tells : TellsBinary text written)
    {origin : Origin} (allows : origin.Allows written.nesting) :
    (Payload.read origin (ofValue written)).toOption =
      (Base64.decode text.toList).map .binary := by
  cases tells with
  | object lists =>
    obtain ⟨inner, enters, -⟩ := allows.enter
    obtain ⟨extra, same, unknown⟩ := lists
    have tag : record.step inner .blank (.text "type", .string (.text "binary")) =
        some (.tagged .binary) := rfl
    have body : record.step inner (.tagged .binary) (.text "data", .string (.text text)) =
        ((Base64.decode text.toList).map .binary).map .complete := by
      rw [step_data, ← toOption_readBody_binary inner text]
    show (record.read origin (ofValue (.object _))).toOption = _
    rw [orderless_record.read_listed same unknown, ofValue, Record.toOption_read_object, enters]
    show ((record.step inner .blank (.text "type", .string (.text "binary"))).bind fun draft =>
      (record.step inner draft (.text "data", .string (.text text))).bind some).bind
        record.complete? = _
    rw [tag, Option.bind_some, body]
    cases Base64.decode text.toList <;> rfl
  | list =>
    obtain ⟨inner, enters, -⟩ := allows.enter
    show (listRecord.readArray origin
      [.string (.text "binary"), .string (.text text)] true).toOption = _
    have tag : readLeadingTag inner (.string (.text "binary")) = .ok .binary := by
      cases inner <;> rfl
    rw [← toOption_readBody_binary inner text, Record.readArray, enters]
    show (((readLeadingTag inner (.string (.text "binary"))).map Draft.tagged >>= fun draft =>
      listRecord.readItems inner true draft ["data"] [.string (.text text)]) >>=
        listRecord.complete).toOption = _
    rw [tag]
    show (((readBody .binary inner (.string (.text text))).map Draft.complete >>= fun draft =>
      listRecord.readItems inner true draft [] []) >>= listRecord.complete).toOption = _
    cases readBody .binary inner (.string (.text text)) <;> rfl

/-- From a value that tells a text, a body is read exactly if the text is the standard one. -/
theorem read_eq_ok_iff_of_tells {text : String} {written : Json} (tells : TellsBinary text written)
    {origin : Origin} (allows : origin.Allows written.nesting) {payload : Payload} :
    Payload.read origin (ofValue written) = .ok payload ↔
      ∃ body, payload = .binary body ∧ Base64.IsStandard body text.toList := by
  rw [← toOption_eq_some_iff, toOption_read_of_tells tells allows, Option.map_eq_some_iff]
  refine exists_congr fun body => ?_
  rw [Base64.decode_eq_some_iff, Base64.isStandard_iff, and_comm, eq_comm]

theorem toJson_binary_of_isStandard {text : String} {body : List UInt8}
    (standard : Base64.IsStandard body text.toList) :
    (Payload.binary body).toJson = written "binary" (.string text) := by
  rw [toJson, ← Base64.isStandard_iff.1 standard, String.ofList_toList]

/-- A text of a binary body is the standard text of its bytes, and nothing else is. -/
structure BinaryText (text : String) : Prop where
  /-- From a value that tells the text, a binary body is read exactly if the text is the standard
  one of its bytes, and nothing else is read. -/
  reads : ∀ {written origin payload}, TellsBinary text written → origin.Allows written.nesting →
    (Payload.read origin (ofValue written) = .ok payload ↔
      ∃ body, payload = .binary body ∧ Base64.IsStandard body text.toList)
  /-- The same is read from every text of such a value. -/
  readsText : ∀ {written spelled payload}, TellsBinary text written → written.nesting ≤ 127 →
    IsText written spelled →
      (Payload.read.readText spelled = .ok payload ↔
        ∃ body, payload = .binary body ∧ Base64.IsStandard body text.toList) ∧
      (Payload.read.readFront spelled = .ok payload ↔
        ∃ body, payload = .binary body ∧ Base64.IsStandard body text.toList)
  /-- The text is that of some bytes exactly if it has the digits, the padding and the unused bits
  that it should. -/
  rules : (∃ body, Base64.IsStandard body text.toList) ↔ Base64.IsWellFormed text.toList
  /-- The text is that of no other bytes. -/
  oneBody : ∀ {body other}, Base64.IsStandard body text.toList →
    Base64.IsStandard other text.toList → body = other
  /-- What is written for the body is the text again. -/
  writesBack : ∀ {body}, Base64.IsStandard body text.toList →
    (Payload.binary body).toJson = written "binary" (.string text)
  /-- The same body is not read from a value that tells another text. -/
  apart : ∀ {other one again origin inner payload}, TellsBinary text one →
    TellsBinary other again → origin.Allows one.nesting → inner.Allows again.nesting →
    Payload.read origin (ofValue one) = .ok payload →
    Payload.read inner (ofValue again) = .ok payload → text = other

/-- Every text is the text of one binary body or of none, and the standard texts are the texts of
one. -/
theorem binaryText (text : String) : BinaryText text := by
  constructor
  case reads => exact fun tells allows => read_eq_ok_iff_of_tells tells allows
  case readsText =>
    intro written spelled payload tells shallow spells
    have whole : Origin.whole.Allows written.nesting := shallow
    rw [Reader.readText_isText _ spells, Reader.readFront_isText _ spells]
    exact ⟨read_eq_ok_iff_of_tells tells whole, read_eq_ok_iff_of_tells tells whole⟩
  case rules => exact Base64.exists_isStandard_iff
  case oneBody =>
    intro body other standard standardOther
    have decodes := Base64.decode_eq_some_iff.2 (Base64.isStandard_iff.1 standard)
    have decodesOther := Base64.decode_eq_some_iff.2 (Base64.isStandard_iff.1 standardOther)
    exact Option.some.inj (decodes.symm.trans decodesOther)
  case writesBack => exact toJson_binary_of_isStandard
  case apart =>
    intro other one again origin inner payload tells tellsOther allows allowsOther read readOther
    obtain ⟨body, rfl, standard⟩ := (read_eq_ok_iff_of_tells tells allows).1 read
    obtain ⟨_, same, standardOther⟩ :=
      (read_eq_ok_iff_of_tells tellsOther allowsOther).1 readOther
    obtain rfl := Payload.binary.inj same
    exact String.toList_injective (standard.unique standardOther)

-- Padding left out, a space, a digit of another alphabet, and a bit after the last byte.
example : ["aGk=", "aGk", "aGk =", "-_8=", "aGl="].map (Base64.decode ·.toList) =
    [some [0x68, 0x69], none, none, none, none] := by
  decide +kernel

end Payload

end HubRelay
