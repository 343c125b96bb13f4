import HubRelay.Envelope.Approval
import HubRelay.Envelope.Event
import HubRelay.Proofs.Base64
import HubRelay.Proofs.Json.Canonical
import HubRelay.Proofs.Json.Grammar
import HubRelay.Proofs.Json.Order

/-!
Contract: messages are read from their members in whatever order these come.

Owns: which JSON values tell a body, a context, an event, a decision and an approval, with the
members of every object in any order and others of unknown names among them; that each message is
read from every tree of such a value; and that none is read if a member that it knows is repeated.

Does not own: commands, and what of this holds of texts.

A body that comes before its tag is held back as a value and read later.  What is read then is what
would have been read at once, so the tag may come late.
-/

namespace HubRelay

open Json Document

/-! ## Bodies -/

theorem Json.toOption_readHeld {α : Type} (reader : Reader α) (value : Json) :
    (reader.readHeld value).toOption = (reader .held (ofValue value)).toOption := by
  rw [Reader.readHeld]
  cases reader .held (ofValue value) <;> rfl

theorem Json.eq_string_of_asText {document : Document} {text : String}
    (read : document.asText = .ok text) : document = .string (.text text) := by
  cases document with
  | string spelling =>
    cases spelling with
    | text found =>
      obtain rfl := Except.ok.inj read
      rfl
    | unpaired => cases read
  | broken | null | boolean _ | number _ | array _ _ | object _ _ => cases read

/-- Only the tree of a text has the value of a text. -/
theorem Json.asText_held (origin : Origin) (document : Document) :
    document.asText.toOption =
      (document.value origin).toOption.bind fun value => (ofValue value).asText.toOption := by
  cases found : document.value origin with
  | ok value =>
    rw [eq_ofValue_of_value document found]
    rfl
  | error fault =>
    refine toOption_eq_none_iff.2 fun text read => ?_
    rw [eq_string_of_asText read] at found
    cases found

namespace Payload

/-- A body that was held back is read as it would have been read at once. -/
theorem readBody_held (tag : Tag) (origin : Origin) (document : Document) :
    (readBody tag origin document).toOption = (document.value origin).toOption.bind fun value =>
      ((readBody tag).readHeld value).toOption := by
  cases tag with
  | text =>
    simp only [toOption_readHeld, readBody, toOption_map]
    rw [asText_held origin, Option.map_bind]
    rfl
  | json =>
    have back (value : Json) : (ofValue value).value .held = .ok value :=
      value_ofValue value trivial
    simp only [toOption_readHeld, readBody, toOption_map, back]
    cases document.value origin <;> rfl
  | binary =>
    simp only [toOption_readHeld, readBody, toOption_bind]
    rw [asText_held origin, Option.bind_assoc]

/-- What a tag makes of a draft. -/
theorem step_type (origin : Origin) (draft : Draft) (document : Document) :
    record.step origin draft (.text "type", document) =
      match draft with
      | .blank => (readName Tag.ofName? origin document).toOption.map .tagged
      | .held body => (readName Tag.ofName? origin document).toOption.bind fun tag =>
          ((readBody tag).readHeld body).toOption.map .complete
      | .tagged _ | .complete _ => none := by
  cases draft with
  | blank =>
    refine (Record.step_vacant rfl).trans ?_
    rw [readTag, toOption_bind]
    exact Option.map_eq_bind.symm
  | held body =>
    refine (Record.step_vacant rfl).trans ?_
    rw [readTag, toOption_bind]
    simp only [toOption_map]
  | tagged _ | complete _ => exact Record.step_filled rfl

/-- What a body makes of a draft. -/
theorem step_data (origin : Origin) (draft : Draft) (document : Document) :
    record.step origin draft (.text "data", document) =
      match draft with
      | .blank => (document.value origin).toOption.map .held
      | .tagged tag => (readBody tag origin document).toOption.map .complete
      | .held _ | .complete _ => none := by
  cases draft with
  | blank => exact (Record.step_vacant rfl).trans (toOption_map _ _)
  | tagged tag => exact (Record.step_vacant rfl).trans (toOption_map _ _)
  | held _ | complete _ => exact Record.step_filled rfl

theorem slot_unknown {name : String} (unknown : name ∉ ["type", "data"]) (draft : Draft) :
    record.slot draft name = .unknown := by
  simp only [List.mem_cons, List.not_mem_nil, or_false, not_or] at unknown
  cases draft <;> simp [record, unknown]

/-- It does not matter which of the tag and the body comes first. -/
theorem step_swap (origin : Origin) (draft : Draft) (tag body : Document) :
    (record.step origin draft (.text "type", tag)).bind
        (record.step origin · (.text "data", body)) =
      (record.step origin draft (.text "data", body)).bind
        (record.step origin · (.text "type", tag)) := by
  simp only [step_type, step_data]
  cases draft with
  | blank =>
    simp only [Option.bind_map, Function.comp_def, readBody_held]
    cases (readName Tag.ofName? origin tag).toOption with
    | none => cases (body.value origin).toOption <;> rfl
    | some known => cases (body.value origin).toOption <;> rfl
  | tagged known =>
    simp only [Option.bind_map, Function.comp_def, Option.bind_none, Option.bind_fun_none]
  | held held =>
    simp only [Option.bind_assoc, Option.bind_map, Function.comp_def, Option.bind_none,
      Option.bind_fun_none]
  | complete payload => rfl

/-- A body is read whichever of its members comes first. -/
theorem orderless_record : record.Orderless ["type", "data"] := by
  refine .of_known ?swaps ?once fun name unknown draft => slot_unknown unknown draft
  case swaps =>
    intro one knowsOne other knowsOther differ origin draft document again
    simp only [List.mem_cons, List.not_mem_nil, or_false] at knowsOne knowsOther
    rcases knowsOne with rfl | rfl <;> rcases knowsOther with rfl | rfl
    · exact absurd rfl differ
    · exact step_swap origin draft document again
    · exact (step_swap origin draft again document).symm
    · exact absurd rfl differ
  case once =>
    intro name knows origin draft document again
    simp only [List.mem_cons, List.not_mem_nil, or_false] at knows
    rcases knows with rfl | rfl
    · simp only [step_type]
      cases draft <;> simp [Option.bind_map, Option.bind_assoc]
    · simp only [step_data]
      cases draft <;> simp [Option.bind_map]

end Payload

/-! ## Fields -/

theorem Context.hasFields : Context.record.HasFields [
    ⟨"headers", _, Context.readHeaders, (·.headers), fun found draft =>
      { draft with headers := some found }⟩,
    ⟨"user_id", _, readOption readText, (·.userId), fun found draft =>
      { draft with userId := some found }⟩] where
  slot draft name := by
    simp only [Context.record]
    split
    · rfl
    · rfl
    · next noHeaders noUser => simp [Ne.symm noHeaders, Ne.symm noUser]
  kept := by simp
  apart := by simp [Field.apart_iff]

theorem Event.hasFields : Event.record.HasFields [
    ⟨"kind", _, EventKind.read, (·.kind), fun found draft => { draft with kind := some found }⟩,
    ⟨"connection_id", _, readText, (·.connectionId), fun found draft =>
      { draft with connectionId := some found }⟩,
    ⟨"hub", _, readText, (·.hub), fun found draft => { draft with hub := some found }⟩,
    ⟨"context", _, Context.read, (·.context), fun found draft =>
      { draft with context := some found }⟩,
    ⟨"payload", _, readOption Payload.read, (·.payload), fun found draft =>
      { draft with payload := some found }⟩] where
  slot draft name := by
    simp only [Event.record]
    split
    · rfl
    · rfl
    · rfl
    · rfl
    · rfl
    · next noKind noId noHub noContext noPayload =>
      simp [Ne.symm noKind, Ne.symm noId, Ne.symm noHub, Ne.symm noContext, Ne.symm noPayload]
  kept := by simp
  apart := by simp [Field.apart_iff]

theorem Decision.hasFields_approval : Decision.approvalRecord.HasFields [
    ⟨"sub_protocol", _, readOption readText, id, fun found _ => some found⟩] where
  slot draft name := by
    simp only [Decision.approvalRecord]
    split
    · rfl
    · next noProtocol => simp [Ne.symm noProtocol]
  kept := by simp
  apart := by simp

theorem Decision.hasFields_rejection : Decision.rejectionRecord.HasFields [
    ⟨"reason", _, readText, id, fun found _ => some found⟩] where
  slot draft name := by
    simp only [Decision.rejectionRecord]
    split
    · rfl
    · next noReason => simp [Ne.symm noReason]
  kept := by simp
  apart := by simp

theorem Approval.hasFields : Approval.record.HasFields [
    ⟨"connection_id", _, readText, (·.connectionId), fun found draft =>
      { draft with connectionId := some found }⟩,
    ⟨"result", _, Decision.read, (·.decision), fun found draft =>
      { draft with decision := some found }⟩] where
  slot draft name := by
    simp only [Approval.record]
    split
    · rfl
    · rfl
    · next noId noResult => simp [Ne.symm noId, Ne.symm noResult]
  kept := by simp
  apart := by simp [Field.apart_iff]

/-! ## Contexts -/

namespace Json

/-- A value tells a text. -/
def TellsText (text : String) (written : Json) : Prop :=
  written = .string text

/-- A value tells what may be missing: it is `null` if it is. -/
inductive TellsOption {α : Type} (tells : α → Json → Prop) : Option α → Json → Prop
  | none : TellsOption tells none .null
  | some {value : α} {written : Json} (told : tells value written) :
      TellsOption tells (some value) written

theorem readOption_text {text : Option String} {written : Json}
    (tells : TellsOption TellsText text written) (origin : Origin) :
    readOption readText origin (ofValue written) = .ok text := by
  cases tells with
  | none => rfl
  | some told =>
    obtain rfl := told
    rfl

end Json

namespace Context

/-- An object of texts tells headers; of several members of one name the last one counts. -/
def TellsHeaders (headers : Dictionary String) (written : Json) : Prop :=
  ∃ entries, written = .object (entries.map fun (name, value) => (name, .string value)) ∧
    Dictionary.ofList entries = headers

/-- A value tells a context. -/
inductive Tells : Context → Json → Prop
  | mk {headers : Dictionary String} {userId : Option String}
      {headerFields userFields members : List (String × Json)}
      (headersGiven : Given "headers" .empty TellsHeaders headers headerFields)
      (userGiven : Given "user_id" none (TellsOption TellsText) userId userFields)
      (lists : Lists record.names (headerFields ++ userFields) members) :
      Tells ⟨headers, userId⟩ (.object members)

theorem readHeaderMembers_entries (entries : List (String × String))
    (headers : Dictionary String) :
    readHeaderMembers headers (ofMembers (entries.map fun (name, value) => (name, .string value))) =
      .ok (entries.foldl (fun headers entry => headers.insert entry.1 entry.2) headers) := by
  induction entries generalizing headers with
  | nil => rfl
  | cons entry entries inductionHypothesis => exact inductionHypothesis _

theorem readHeaders_of_tells {headers : Dictionary String} {written : Json}
    (tells : TellsHeaders headers written) {origin : Origin}
    (allows : origin.Allows written.nesting) :
    readHeaders origin (ofValue written) = .ok headers := by
  obtain ⟨entries, rfl, rfl⟩ := tells
  obtain ⟨inner, enters, -⟩ := allows.enter
  have reads := readHeaderMembers_entries entries .empty
  show (origin.enter >>= fun _ => readHeaderMembers .empty _ >>= fun headers =>
    if true then Except.ok headers else _) = _
  rw [enters]
  show (readHeaderMembers .empty _ >>= fun headers => Except.ok headers) = _
  rw [reads]
  rfl

/-- A context is read from every value that tells it, where this may nest as deep as it does. -/
theorem read_of_tells {origin : Origin} {context : Context} {written : Json}
    (tells : context.Tells written) (allows : origin.Allows written.nesting) :
    Context.read origin (ofValue written) = .ok context := by
  cases tells with
  | @mk headers userId headerFields userFields members headersGiven userGiven lists =>
    obtain ⟨inner, enters, within⟩ := allows.enter
    refine hasFields.orderless.read_ok lists ?_
    have deeper {name : String} {written : Json}
        (among : (name, written) ∈ headerFields ++ userFields) : inner.Allows written.nesting :=
      within.mono (nesting_le_of_mem name (lists.mem among))
    obtain ⟨foundHeaders, rfl, first⟩ := record.readMembers_given (⟨·, none⟩) headersGiven rfl
      (fun written among tells =>
        readHeaders_of_tells tells (deeper (List.mem_append_left _ among))) userFields
    obtain ⟨foundUser, rfl, second⟩ := record.readMembers_given (⟨foundHeaders, ·⟩) userGiven rfl
      (fun written _ tells => readOption_text tells inner) []
    rw [List.append_nil] at second
    exact Record.read_object enters (first.trans second) rfl

theorem tells_toJson (context : Context) : context.Tells context.toJson := by
  obtain ⟨headers, userId⟩ := context
  have headersGiven :
      Given "headers" .empty TellsHeaders headers [("headers", headersJson headers)] :=
    .written ⟨headers.entries, rfl, headers.ofList_entries⟩
  cases userId with
  | none => exact .mk headersGiven .leftOut (.of_fields _ _)
  | some user => exact .mk headersGiven (.written (.some rfl)) (.of_fields _ _)

/-- A value of a context in which a known member is repeated. -/
inductive Repeats : Document → Prop
  | own {members : List (StringSpelling × Document)} {closed : Bool}
      (repeats : Json.Repeats record.names members) : Repeats (.object members closed)

theorem not_read_of_repeats {document : Document} (repeats : Repeats document) (origin : Origin)
    (context : Context) : Context.read origin document ≠ .ok context := by
  cases repeats with
  | own repeats => exact hasFields.orderless.not_read_of_repeats repeats origin _ context

end Context

/-! ## Bodies of messages -/

namespace Payload

/-- A tag and a value tell a body. -/
inductive TellsBody : Payload → String → Json → Prop
  | text (body : String) : TellsBody (.text body) "text" (.string body)
  | json (body : Json) : TellsBody (.json (.of body)) "json" body
  | binary {text : String} {body : List UInt8} (decodes : Base64.decode text.toList = some body) :
      TellsBody (.binary body) "binary" (.string text)

/-- A value tells the body of a message. -/
inductive Tells : Payload → Json → Prop
  | mk {payload : Payload} {tag : String} {body : Json} {members : List (String × Json)}
      (tells : TellsBody payload tag body)
      (lists : Lists record.names [("type", .string tag), ("data", body)] members) :
      Tells payload (.object members)

theorem readBody_of_tells {payload : Payload} {tag : String} {body : Json}
    (tells : TellsBody payload tag body) {origin : Origin} (allows : origin.Allows body.nesting) :
    ∃ known, Tag.ofName? tag = some known ∧ readBody known origin (ofValue body) = .ok payload := by
  cases tells with
  | text => exact ⟨.text, rfl, rfl⟩
  | json =>
    refine ⟨.json, rfl, ?_⟩
    rw [readBody, value_ofValue body allows]
    rfl
  | binary decodes =>
    refine ⟨.binary, rfl, ?_⟩
    simp only [readBody, ofValue, asText, bind, Except.bind, decodes]

/-- A body is read from every value that tells it, where this may nest as deep as it does. -/
theorem read_of_tells {origin : Origin} {payload : Payload} {written : Json}
    (tells : payload.Tells written) (allows : origin.Allows written.nesting) :
    Payload.read origin (ofValue written) = .ok payload := by
  cases tells with
  | @mk tag body members tells lists =>
    obtain ⟨inner, enters, within⟩ := allows.enter
    have deep := within.mono (nesting_le_of_mem "data" (lists.mem (List.mem_of_mem_getLast? rfl)))
    obtain ⟨known, knows, bodyRead⟩ := readBody_of_tells tells deep
    have tagRead : readTag none inner (.string (.text tag)) = .ok (.tagged known) := by
      rw [readTag, readName, knows]
      rfl
    have reads : record.readMembers inner record.blank
        [(.text "type", .string (.text tag)), (.text "data", ofValue body)] =
          .ok (.complete payload) := by
      rw [Record.readMembers_vacant rfl tagRead, Record.readMembers_vacant rfl]
      · rfl
      · show (readBody known inner (ofValue body)).map Draft.complete = _
        rw [bodyRead]
        rfl
    exact orderless_record.read_ok lists (Record.read_object enters reads rfl)

theorem tells_toJson (payload : Payload) : payload.Tells payload.toJson := by
  cases payload with
  | text body => exact .mk (.text body) (.of_fields _ _)
  | json body =>
    have tells := TellsBody.json body.value
    rw [Canonical.of_value] at tells
    exact .mk tells (.of_fields _ _)
  | binary body =>
    refine .mk (.binary ?_) (.of_fields _ _)
    rw [String.toList_ofList, Base64.decode_encode]

/-- A value of a body in which a known member is repeated. -/
inductive Repeats : Document → Prop
  | own {members : List (StringSpelling × Document)} {closed : Bool}
      (repeats : Json.Repeats record.names members) : Repeats (.object members closed)

theorem not_read_of_repeats {document : Document} (repeats : Repeats document) (origin : Origin)
    (payload : Payload) : Payload.read origin document ≠ .ok payload := by
  cases repeats with
  | own repeats => exact orderless_record.not_read_of_repeats repeats origin _ payload

/-- A body that repeats a member is not missing. -/
theorem not_readOption_of_repeats {document : Document} (repeats : Repeats document)
    (origin : Origin) (payload : Option Payload) :
    readOption Payload.read origin document ≠ .ok payload := by
  intro read
  have refused := not_read_of_repeats repeats origin
  cases repeats with
  | own repeats =>
    obtain ⟨body, ok, -⟩ := Option.map_eq_some_iff.1
      ((toOption_map _ _).symm.trans (toOption_eq_some_iff.2 read))
    exact refused body (toOption_eq_some_iff.1 ok)

theorem readOption_of_tells {payload : Option Payload} {written : Json}
    (tells : TellsOption Payload.Tells payload written) {origin : Origin}
    (allows : origin.Allows written.nesting) :
    readOption Payload.read origin (ofValue written) = .ok payload := by
  cases tells with
  | none => rfl
  | some told =>
    have read := read_of_tells told allows
    cases told with
    | mk tells lists =>
      show (Payload.read origin (ofValue (.object _))).map some = _
      rw [read]
      rfl

end Payload

/-! ## Events -/

namespace Event

/-- A value tells an event. -/
inductive Tells : Event → Json → Prop
  | mk {kind : EventKind} {connectionId hub : String} {context : Context} {payload : Option Payload}
      {contextFields payloadFields members : List (String × Json)}
      (contextGiven : Given "context" .empty Context.Tells context contextFields)
      (payloadGiven : Given "payload" none (TellsOption Payload.Tells) payload payloadFields)
      (lists : Lists record.names (("kind", .string kind.name) ::
        ("connection_id", .string connectionId) :: ("hub", .string hub) ::
          (contextFields ++ payloadFields)) members) :
      Tells ⟨kind, connectionId, hub, context, payload⟩ (.object members)

/-- An event is read from every value that tells it, where this may nest as deep as it does. -/
theorem read_of_tells {origin : Origin} {event : Event} {written : Json}
    (tells : event.Tells written) (allows : origin.Allows written.nesting) :
    Event.read origin (ofValue written) = .ok event := by
  cases tells with
  | @mk kind connectionId hub context payload contextFields payloadFields members contextGiven
      payloadGiven lists =>
    obtain ⟨inner, enters, within⟩ := allows.enter
    have deeper {name : String} {written : Json}
        (among : (name, written) ∈ contextFields ++ payloadFields) :
        inner.Allows written.nesting :=
      within.mono (nesting_le_of_mem name (lists.mem
        (List.mem_cons_of_mem _ (List.mem_cons_of_mem _ (List.mem_cons_of_mem _ among)))))
    have kindRead : EventKind.read inner (.string (.text kind.name)) = .ok kind := by
      cases kind <;> rfl
    have idRead : readText inner (.string (.text connectionId)) = .ok connectionId := rfl
    have hubRead : readText inner (.string (.text hub)) = .ok hub := rfl
    obtain ⟨foundContext, rfl, fourth⟩ := record.readMembers_given
      (⟨some kind, some connectionId, some hub, ·, none⟩) contextGiven rfl
      (fun written among tells =>
        Context.read_of_tells tells (deeper (List.mem_append_left _ among))) payloadFields
    obtain ⟨foundPayload, rfl, fifth⟩ := record.readMembers_given
      (⟨some kind, some connectionId, some hub, foundContext, ·⟩) payloadGiven rfl
      (fun written among tells =>
        Payload.readOption_of_tells tells (deeper (List.mem_append_right _ among))) []
    rw [List.append_nil] at fifth
    have reads : record.readMembers inner record.blank ((.text "kind", .string (.text kind.name)) ::
        (.text "connection_id", .string (.text connectionId)) ::
          (.text "hub", .string (.text hub)) :: ofMembers (contextFields ++ payloadFields)) =
        .ok ⟨some kind, some connectionId, some hub, foundContext, foundPayload⟩ := by
      rw [Record.readMembers_field rfl kindRead, Record.readMembers_field rfl idRead,
        Record.readMembers_field rfl hubRead]
      exact fourth.trans fifth
    exact hasFields.orderless.read_ok lists (Record.read_object enters reads rfl)

theorem tells_toJson (event : Event) : event.Tells event.toJson := by
  obtain ⟨kind, connectionId, hub, context, payload⟩ := event
  have contextGiven : Given "context" .empty Context.Tells context [("context", context.toJson)] :=
    .written context.tells_toJson
  cases payload with
  | none => exact .mk contextGiven .leftOut (.of_fields _ _)
  | some payload => exact .mk contextGiven (.written (.some payload.tells_toJson)) (.of_fields _ _)

/-- A value of an event in which a known member is repeated, or one of its context or its body. -/
inductive Repeats : Document → Prop
  | own {members : List (StringSpelling × Document)} {closed : Bool}
      (repeats : Json.Repeats record.names members) : Repeats (.object members closed)
  | context {members : List (StringSpelling × Document)} {closed : Bool} {document : Document}
      (among : (.text "context", document) ∈ members) (repeats : Context.Repeats document) :
      Repeats (.object members closed)
  | payload {members : List (StringSpelling × Document)} {closed : Bool} {document : Document}
      (among : (.text "payload", document) ∈ members) (repeats : Payload.Repeats document) :
      Repeats (.object members closed)

theorem not_read_of_repeats {document : Document} (repeats : Repeats document) (origin : Origin)
    (event : Event) : Event.read origin document ≠ .ok event := by
  intro read
  cases repeats with
  | own repeats => exact hasFields.orderless.not_read_of_repeats repeats origin _ event read
  | context among repeats =>
    obtain ⟨inner, context, contextRead⟩ :=
      hasFields.orderless.reads_field read among rfl
    exact Context.not_read_of_repeats repeats inner context contextRead
  | payload among repeats =>
    obtain ⟨inner, payload, payloadRead⟩ :=
      hasFields.orderless.reads_field read among rfl
    exact Payload.not_readOption_of_repeats repeats inner payload payloadRead

end Event

/-! ## Decisions -/

namespace Json

variable {α : Type} {readers : String → Option (Reader α)} {origin inner : Origin} {found : α}

/-- The reader that the name of the only member chooses reads its value. -/
theorem readCarrier_sole {reader : Reader α} {name : String} {document : Document}
    (enters : origin.enter = .ok inner) (knows : readers name = some reader)
    (read : reader inner document = .ok found) :
    readCarrier readers origin (.object [(.text name, document)] true) = .ok found := by
  simp only [readCarrier, readSole, nameText, bind, Except.bind, enters, knows, read]
  rfl

/-- Nothing else is read. -/
theorem sole_of_readCarrier {members : List (StringSpelling × Document)} {closed : Bool}
    (read : readCarrier readers origin (.object members closed) = .ok found) :
    ∃ inner name document reader, members = [(.text name, document)] ∧
      readers name = some reader ∧ reader inner document = .ok found := by
  obtain ⟨inner, -, read⟩ := eq_ok_of_bind read
  cases members with
  | nil => cases read
  | cons member more =>
    obtain ⟨spelling, document⟩ := member
    obtain ⟨name, named, read⟩ := eq_ok_of_bind read
    cases knows : readers name with
    | none =>
      rw [knows] at read
      cases read
    | some reader =>
      rw [knows] at read
      obtain ⟨value, valueRead, ends⟩ := eq_ok_of_bind read
      cases spelling with
      | unpaired => cases named
      | text own =>
      obtain rfl : own = name := Except.ok.inj named
      cases more with
      | cons other more => cases ends
      | nil =>
      cases closed with
      | false => cases ends
      | true =>
        obtain rfl : value = found := Except.ok.inj ends
        exact ⟨inner, own, document, reader, rfl, knows, valueRead⟩

end Json

namespace Decision

/-- A value tells a decision. -/
inductive Tells : Decision → Json → Prop
  | approve {subProtocol : Option String} {fields members : List (String × Json)}
      (given : Given "sub_protocol" none (TellsOption TellsText) subProtocol fields)
      (lists : Lists approvalRecord.names fields members) :
      Tells (.approve subProtocol) (.object [("success", .object members)])
  | reject {reason : String} {members : List (String × Json)}
      (lists : Lists rejectionRecord.names [("reason", .string reason)] members) :
      Tells (.reject reason) (.object [("failure", .object members)])

/-- A decision is read from every value that tells it, where this may nest as deep as it does. -/
theorem read_of_tells {origin : Origin} {decision : Decision} {written : Json}
    (tells : decision.Tells written) (allows : origin.Allows written.nesting) :
    Decision.read origin (ofValue written) = .ok decision := by
  cases tells with
  | approve given lists =>
    obtain ⟨inner, enters, within⟩ := allows.enter
    obtain ⟨deeper, entersRecord, -⟩ :=
      (within.mono (nesting_le_of_mem "success" List.mem_cons_self)).enter
    obtain ⟨found, rfl, reads⟩ := approvalRecord.readMembers_given id given rfl
      (fun written _ tells => readOption_text tells deeper) []
    rw [List.append_nil] at reads
    exact readCarrier_sole enters rfl (hasFields_approval.orderless.read_ok lists
      (Record.read_object entersRecord reads rfl))
  | reject lists =>
    obtain ⟨inner, enters, within⟩ := allows.enter
    obtain ⟨deeper, entersRecord, -⟩ :=
      (within.mono (nesting_le_of_mem "failure" List.mem_cons_self)).enter
    exact readCarrier_sole enters rfl (hasFields_rejection.orderless.read_ok lists
      (Record.read_object entersRecord rfl rfl))

theorem tells_toJson (decision : Decision) : decision.Tells decision.toJson := by
  cases decision with
  | approve subProtocol =>
    cases subProtocol with
    | none => exact .approve .leftOut (.of_fields _ _)
    | some protocol => exact .approve (.written (.some rfl)) (.of_fields _ _)
  | reject reason => exact .reject (.of_fields _ _)

/-- A value of a decision in which an outcome or a member that it knows is repeated. -/
inductive Repeats : Document → Prop
  | own {members : List (StringSpelling × Document)} {closed : Bool}
      (repeats : Json.Repeats ["success", "failure"] members) : Repeats (.object members closed)
  | success {outcomes members : List (StringSpelling × Document)} {closed inner : Bool}
      (among : (.text "success", .object members inner) ∈ outcomes)
      (repeats : Json.Repeats approvalRecord.names members) : Repeats (.object outcomes closed)
  | failure {outcomes members : List (StringSpelling × Document)} {closed inner : Bool}
      (among : (.text "failure", .object members inner) ∈ outcomes)
      (repeats : Json.Repeats rejectionRecord.names members) : Repeats (.object outcomes closed)

theorem not_read_of_repeats {document : Document} (repeats : Repeats document) (origin : Origin)
    (decision : Decision) : Decision.read origin document ≠ .ok decision := by
  intro read
  cases repeats with
  | own repeats =>
    obtain ⟨_, _, _, _, sole, _⟩ := sole_of_readCarrier read
    obtain ⟨name, -, twice⟩ := repeats
    have two := (List.duplicate_iff_sublist.1 twice).length_le
    have one := congrArg List.length sole
    rw [List.length_singleton] at one
    rw [List.length_map, one] at two
    exact absurd two (Nat.not_succ_le_self 1)
  | success among repeats =>
    obtain ⟨inner, name, document, reader, sole, knows, outcomeRead⟩ := sole_of_readCarrier read
    obtain ⟨rfl, rfl⟩ : name = "success" ∧ document = _ := by
      simpa [sole, eq_comm] using among
    obtain rfl := Option.some.inj knows
    exact hasFields_approval.orderless.not_read_of_repeats repeats inner _ decision outcomeRead
  | failure among repeats =>
    obtain ⟨inner, name, document, reader, sole, knows, outcomeRead⟩ := sole_of_readCarrier read
    obtain ⟨rfl, rfl⟩ : name = "failure" ∧ document = _ := by
      simpa [sole, eq_comm] using among
    obtain rfl := Option.some.inj knows
    exact hasFields_rejection.orderless.not_read_of_repeats repeats inner _ decision outcomeRead

end Decision

/-! ## Approvals -/

namespace Approval

/-- A value tells an approval. -/
inductive Tells : Approval → Json → Prop
  | mk {connectionId : String} {decision : Decision} {result : Json}
      {members : List (String × Json)} (tells : decision.Tells result)
      (lists : Lists record.names
        [("connection_id", .string connectionId), ("result", result)] members) :
      Tells ⟨connectionId, decision⟩ (.object members)

/-- An approval is read from every value that tells it, where this may nest as deep as it does. -/
theorem read_of_tells {origin : Origin} {approval : Approval} {written : Json}
    (tells : approval.Tells written) (allows : origin.Allows written.nesting) :
    Approval.read origin (ofValue written) = .ok approval := by
  cases tells with
  | @mk connectionId decision result members tells lists =>
    obtain ⟨inner, enters, within⟩ := allows.enter
    have idRead : readText inner (.string (.text connectionId)) = .ok connectionId := rfl
    have decisionRead := Decision.read_of_tells tells
      (within.mono (nesting_le_of_mem "result" (lists.mem (List.mem_of_mem_getLast? rfl))))
    have reads : record.readMembers inner record.blank
        [(.text "connection_id", .string (.text connectionId)), (.text "result", ofValue result)] =
          .ok ⟨some connectionId, some decision⟩ := by
      rw [Record.readMembers_field rfl idRead, Record.readMembers_field rfl decisionRead]
      rfl
    exact hasFields.orderless.read_ok lists (Record.read_object enters reads rfl)

theorem tells_toJson (approval : Approval) : approval.Tells approval.toJson :=
  .mk approval.decision.tells_toJson (.of_fields _ _)

/-- A value of an approval in which a known member is repeated, or one of its decision. -/
inductive Repeats : Document → Prop
  | own {members : List (StringSpelling × Document)} {closed : Bool}
      (repeats : Json.Repeats record.names members) : Repeats (.object members closed)
  | decision {members : List (StringSpelling × Document)} {closed : Bool} {document : Document}
      (among : (.text "result", document) ∈ members) (repeats : Decision.Repeats document) :
      Repeats (.object members closed)

theorem not_read_of_repeats {document : Document} (repeats : Repeats document) (origin : Origin)
    (approval : Approval) : Approval.read origin document ≠ .ok approval := by
  intro read
  cases repeats with
  | own repeats => exact hasFields.orderless.not_read_of_repeats repeats origin _ approval read
  | decision among repeats =>
    obtain ⟨inner, decision, decisionRead⟩ :=
      hasFields.orderless.reads_field read among rfl
    exact Decision.not_read_of_repeats repeats inner decision decisionRead

end Approval

end HubRelay
