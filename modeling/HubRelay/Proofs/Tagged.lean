import HubRelay.Envelope.Command
import HubRelay.Proofs.Listing

/-!
Contract: a command is what its members say but for its tag, wherever the tag stands.

Owns:
- that a command is read from an object exactly if the object has one tag and the other members,
  held back, are what the tag says;
- which JSON values tell a command, and which repeat a member of one;
- that every message is read from every text of every value that tells it, and that no message is
  read from a text that repeats a member.

Does not own: commands that are written as arrays.

The members are kept the latest first, so that in the end the order that they have is that of the
object without the tag.
-/

namespace HubRelay

open Json Document

/-! ## What stands beside the tag -/

theorem Broadcast.hasFields : Broadcast.record.HasFields [
    ⟨"payload", _, Payload.read, id, fun found _ => some found⟩] where
  slot draft name := by
    simp only [Broadcast.record]
    split
    · rfl
    · next noPayload => simp [Ne.symm noPayload]
  kept := by simp
  apart := by simp

theorem Command.hasFields_send : Command.sendRecord.HasFields [
    ⟨"connection_id", _, readText, (·.connectionId), fun found draft =>
      { draft with connectionId := some found }⟩,
    ⟨"payload", _, Payload.read, (·.payload), fun found draft =>
      { draft with payload := some found }⟩] where
  slot draft name := by
    simp only [Command.sendRecord]
    split
    · rfl
    · rfl
    · next noId noPayload => simp [Ne.symm noId, Ne.symm noPayload]
  kept := by simp
  apart := by simp [Field.apart_iff]

namespace Command

/-- The name of a kind of commands. -/
def Tag.name : Tag → String
  | .approve => "approve"
  | .sendToAll => "send_to_all"
  | .sendToConnection => "send_to_connection"

theorem Tag.ofName?_eq_some_iff {name : String} {tag : Tag} :
    Tag.ofName? name = some tag ↔ name = tag.name := by
  constructor
  · intro knows
    unfold Tag.ofName? at knows
    split at knows
    · obtain rfl := Option.some.inj knows
      rfl
    · obtain rfl := Option.some.inj knows
      rfl
    · obtain rfl := Option.some.inj knows
      rfl
    · cases knows
  · rintro rfl
    cases tag <;> rfl

/-- A value tells a command of which the kind is known. -/
inductive TellsAs : Tag → Command → Json → Prop
  | approve {approval : Approval} {written : Json} (tells : approval.Tells written) :
      TellsAs .approve (.approve approval) written
  | sendToAll {payload : Payload} {body : Json} {members : List (String × Json)}
      (tells : payload.Tells body)
      (lists : Lists Broadcast.record.names [("payload", body)] members) :
      TellsAs .sendToAll (.sendToAll payload) (.object members)
  | sendToConnection {connectionId : String} {payload : Payload} {body : Json}
      {members : List (String × Json)} (tells : payload.Tells body)
      (lists : Lists sendRecord.names
        [("connection_id", .string connectionId), ("payload", body)] members) :
      TellsAs .sendToConnection (.sendToConnection connectionId payload) (.object members)

/-- A command of a known kind is read from every value that tells it, where this may nest as deep as
it does. -/
theorem readBody_of_tells {origin : Origin} {tag : Tag} {command : Command} {written : Json}
    (tells : TellsAs tag command written) (allows : origin.Allows written.nesting) :
    readBody tag origin (ofValue written) = .ok command := by
  cases tells with
  | approve tells =>
    rw [readBody, Approval.read_of_tells tells allows]
    rfl
  | @sendToAll payload body members tells lists =>
    obtain ⟨inner, enters, within⟩ := allows.enter
    have payloadRead := Payload.read_of_tells tells
      (within.mono (nesting_le_of_mem "payload" (lists.mem List.mem_cons_self)))
    have reads : Broadcast.record.readMembers inner Broadcast.record.blank
        [(.text "payload", ofValue body)] = .ok (some payload) := by
      rw [Record.readMembers_field rfl payloadRead]
      rfl
    have read := Broadcast.hasFields.orderless.read_ok lists (Record.read_object enters reads rfl)
    rw [readBody, Broadcast.read, read]
    rfl
  | @sendToConnection connectionId payload body members tells lists =>
    obtain ⟨inner, enters, within⟩ := allows.enter
    have idRead : readText inner (.string (.text connectionId)) = .ok connectionId := rfl
    have payloadRead := Payload.read_of_tells tells
      (within.mono (nesting_le_of_mem "payload" (lists.mem (List.mem_of_mem_getLast? rfl))))
    have reads : sendRecord.readMembers inner sendRecord.blank
        [(.text "connection_id", .string (.text connectionId)), (.text "payload", ofValue body)] =
          .ok ⟨some connectionId, some payload⟩ := by
      rw [Record.readMembers_field rfl idRead, Record.readMembers_field rfl payloadRead]
      rfl
    exact hasFields_send.orderless.read_ok lists (Record.read_object enters reads rfl)

/-- A tree in which a member is repeated that a command of a kind knows, or one of its decision or
its body. -/
inductive RepeatsAs : Tag → Document → Prop
  | approve {document : Document} (repeats : Approval.Repeats document) :
      RepeatsAs .approve document
  | sendToAll {members : List (StringSpelling × Document)} {closed : Bool}
      (repeats : Json.Repeats Broadcast.record.names members) :
      RepeatsAs .sendToAll (.object members closed)
  | bodyToAll {members : List (StringSpelling × Document)} {closed : Bool} {body : Document}
      (among : (.text "payload", body) ∈ members) (repeats : Payload.Repeats body) :
      RepeatsAs .sendToAll (.object members closed)
  | sendToConnection {members : List (StringSpelling × Document)} {closed : Bool}
      (repeats : Json.Repeats sendRecord.names members) :
      RepeatsAs .sendToConnection (.object members closed)
  | bodyToConnection {members : List (StringSpelling × Document)} {closed : Bool} {body : Document}
      (among : (.text "payload", body) ∈ members) (repeats : Payload.Repeats body) :
      RepeatsAs .sendToConnection (.object members closed)

theorem not_readBody_of_repeats {tag : Tag} {document : Document} (repeats : RepeatsAs tag document)
    (origin : Origin) (command : Command) : readBody tag origin document ≠ .ok command := by
  intro read
  cases repeats with
  | approve repeats =>
    rw [readBody, ← toOption_eq_some_iff, toOption_map] at read
    obtain ⟨approval, approvalRead, -⟩ := Option.map_eq_some_iff.1 read
    exact Approval.not_read_of_repeats repeats origin approval (toOption_eq_some_iff.1 approvalRead)
  | sendToAll repeats =>
    rw [readBody, ← toOption_eq_some_iff, toOption_map] at read
    obtain ⟨request, requestRead, -⟩ := Option.map_eq_some_iff.1 read
    exact Broadcast.hasFields.orderless.not_read_of_repeats repeats origin _ request
      (toOption_eq_some_iff.1 requestRead)
  | bodyToAll among repeats =>
    rw [readBody, ← toOption_eq_some_iff, toOption_map] at read
    obtain ⟨request, requestRead, -⟩ := Option.map_eq_some_iff.1 read
    obtain ⟨inner, payload, payloadRead⟩ := Broadcast.hasFields.orderless.reads_field
      (toOption_eq_some_iff.1 requestRead) among rfl
    exact Payload.not_read_of_repeats repeats inner payload payloadRead
  | sendToConnection repeats =>
    exact hasFields_send.orderless.not_read_of_repeats repeats origin _ command read
  | bodyToConnection among repeats =>
    obtain ⟨inner, payload, payloadRead⟩ :=
      hasFields_send.orderless.reads_field read among rfl
    exact Payload.not_read_of_repeats repeats inner payload payloadRead

/-! ## The tag -/

variable {origin : Origin}

/-- What a tag makes of a draft. -/
theorem step_type (draft : Draft) (document : Document) :
    record.step origin draft (.text "type", document) =
      match draft.tag with
      | some _ => none
      | none => (readTag origin document).toOption.map fun tag =>
          { draft with tag := some tag } := by
  obtain ⟨tag, held⟩ := draft
  cases tag with
  | some tag => exact Record.step_filled rfl
  | none => exact (Record.step_vacant rfl).trans (toOption_map _ _)

/-- What any other member makes of a draft. -/
theorem step_other {name : String} (other : name ≠ "type") (draft : Draft) (document : Document) :
    record.step origin draft (.text name, document) =
      (document.value origin).toOption.map fun value =>
        { draft with members := (name, value) :: draft.members } :=
  (Record.step_vacant (if_neg other)).trans (toOption_map _ _)

theorem readTag_eq_ok_iff {document : Document} {tag : Tag} :
    readTag origin document = .ok tag ↔ document = .string (.text tag.name) := by
  constructor
  · intro read
    obtain ⟨name, textRead, known⟩ := eq_ok_of_bind read
    cases knows : Tag.ofName? name with
    | none =>
      rw [knows] at known
      cases known
    | some found =>
      rw [knows] at known
      obtain rfl := Except.ok.inj known
      obtain rfl := Tag.ofName?_eq_some_iff.1 knows
      exact eq_string_of_asText textRead
  · rintro rfl
    have knows := Tag.ofName?_eq_some_iff.2 (rfl : tag.name = tag.name)
    show (match Tag.ofName? tag.name with
      | some tag => .ok tag
      | none => .error .data : Except Fault Tag) = _
    rw [knows]

/-- Members that are no tags are held back. -/
theorem steps_others {members : List (String × Json)} (own : ∀ member ∈ members, member.1 ≠ "type")
    (allows : ∀ member ∈ members, origin.Allows member.2.nesting) (tag : Option Tag)
    (held : List (String × Json)) :
    (ofMembers members).foldlM (record.step origin) ⟨tag, held⟩ =
      some ⟨tag, members.reverse ++ held⟩ := by
  induction members generalizing held with
  | nil => rfl
  | cons member members inductionHypothesis =>
    obtain ⟨name, value⟩ := member
    rw [ofMembers, List.foldlM_cons, step_other (own _ List.mem_cons_self),
      value_ofValue value (allows _ List.mem_cons_self)]
    have goesOn := inductionHypothesis (fun other among => own other (List.mem_cons_of_mem _ among))
      (fun other among => allows other (List.mem_cons_of_mem _ among)) ((name, value) :: held)
    rw [List.reverse_cons, List.append_assoc]
    exact goesOn

/-- Whatever is held back beside a tag is the tree of a value, and no tag. -/
theorem others_of_steps {members : List (StringSpelling × Document)} {held : List (String × Json)}
    {tag : Tag} {next : Draft}
    (steps : members.foldlM (record.step origin) ⟨some tag, held⟩ = some next) :
    ∃ others, members = ofMembers others ∧ (∀ member ∈ others, member.1 ≠ "type") ∧
      next = ⟨some tag, others.reverse ++ held⟩ := by
  induction members generalizing held with
  | nil => exact ⟨[], rfl, nofun, (Option.some.inj steps).symm⟩
  | cons member members inductionHypothesis =>
    obtain ⟨spelling, document⟩ := member
    rw [List.foldlM_cons] at steps
    obtain ⟨draft, step, goesOn⟩ := Option.bind_eq_some_iff.1 steps
    cases spelling with
    | unpaired => cases step
    | text name =>
    by_cases isTag : name = "type"
    · subst isTag
      rw [step_type] at step
      cases step
    · rw [step_other isTag] at step
      obtain ⟨found, valueRead, rfl⟩ := Option.map_eq_some_iff.1 step
      obtain rfl := eq_ofValue_of_value document (toOption_eq_some_iff.1 valueRead)
      obtain ⟨others, rfl, own, rfl⟩ := inductionHypothesis goesOn
      refine ⟨(name, found) :: others, rfl, List.forall_mem_cons.2 ⟨isTag, own⟩, ?_⟩
      rw [List.reverse_cons, List.append_assoc]
      rfl

/-- A draft with a tag has come from one tag among other members. -/
theorem tagged_of_steps {members : List (StringSpelling × Document)} {held : List (String × Json)}
    {tag : Tag} {next : Draft}
    (steps : members.foldlM (record.step origin) ⟨none, held⟩ = some next)
    (tagged : next.tag = some tag) :
    ∃ before after, members = ofMembers (before ++ ("type", .string tag.name) :: after) ∧
      (∀ member ∈ before ++ after, member.1 ≠ "type") ∧
      next.members = (before ++ after).reverse ++ held := by
  induction members generalizing held with
  | nil =>
    obtain rfl := Option.some.inj steps
    cases tagged
  | cons member members inductionHypothesis =>
    obtain ⟨spelling, document⟩ := member
    rw [List.foldlM_cons] at steps
    obtain ⟨draft, step, goesOn⟩ := Option.bind_eq_some_iff.1 steps
    cases spelling with
    | unpaired => cases step
    | text name =>
    by_cases isTag : name = "type"
    · subst isTag
      rw [step_type] at step
      obtain ⟨found, tagRead, rfl⟩ := Option.map_eq_some_iff.1 step
      obtain ⟨others, rfl, own, rfl⟩ := others_of_steps goesOn
      obtain rfl := Option.some.inj tagged
      obtain rfl := readTag_eq_ok_iff.1 (toOption_eq_some_iff.1 tagRead)
      exact ⟨[], others, rfl, own, rfl⟩
    · rw [step_other isTag] at step
      obtain ⟨found, valueRead, rfl⟩ := Option.map_eq_some_iff.1 step
      obtain rfl := eq_ofValue_of_value document (toOption_eq_some_iff.1 valueRead)
      obtain ⟨before, after, rfl, own, kept⟩ := inductionHypothesis goesOn
      refine ⟨(name, found) :: before, after, rfl, List.forall_mem_cons.2 ⟨isTag, own⟩, ?_⟩
      rw [kept, List.cons_append, List.reverse_cons, List.append_assoc]
      rfl

theorem toOption_read (members : List (StringSpelling × Document)) :
    (Command.read origin (.object members true)).toOption =
      origin.enter.toOption.bind fun inner =>
        (members.foldlM (record.step inner) record.blank).bind fun draft =>
          draft.tag.bind fun tag =>
            (readBody tag .held (ofValue (.object draft.members.reverse))).toOption := by
  show (record.read origin (.object members true) >>= fun draft =>
    _ : Except Fault Command).toOption = _
  rw [toOption_bind, Record.toOption_read_object, Option.bind_assoc]
  refine congrArg _ (funext fun inner => ?_)
  rw [Option.bind_assoc]
  refine congrArg _ (funext fun draft => ?_)
  obtain ⟨tag, held⟩ := draft
  cases tag with
  | none => rfl
  | some tag => exact toOption_readHeld (readBody tag) _

theorem nestingMembers_tagged (before after : List (String × Json)) (name text : String) :
    nestingMembers (before ++ (name, .string text) :: after) =
      nestingMembers (before ++ after) := by
  induction before with
  | nil => exact Nat.zero_max _
  | cons member before inductionHypothesis => exact congrArg (max _) inductionHypothesis

/-- A tagged object is read as its other members are once they have been held back. -/
theorem toOption_read_tagged {before after : List (String × Json)}
    (own : ∀ member ∈ before ++ after, member.1 ≠ "type")
    (allows : origin.Allows (Json.object (before ++ after)).nesting) (tag : Tag) :
    (Command.read origin
        (ofValue (.object (before ++ ("type", .string tag.name) :: after)))).toOption =
      (readBody tag .held (ofValue (.object (before ++ after)))).toOption := by
  obtain ⟨inner, enters, within⟩ := allows.enter
  have deep (member : String × Json) (among : member ∈ before ++ after) :
      inner.Allows member.2.nesting :=
    within.mono (nesting_le_of_mem member.1 among)
  have tagRead : readTag inner (ofValue (.string tag.name)) = .ok tag := readTag_eq_ok_iff.2 rfl
  have first := steps_others (fun member among => own member (List.mem_append_left _ among))
    (fun member among => deep member (List.mem_append_left _ among)) none []
  have second := steps_others (fun member among => own member (List.mem_append_right _ among))
    (fun member among => deep member (List.mem_append_right _ among)) (some tag)
    (before.reverse ++ [])
  have steps : (ofMembers (before ++ ("type", .string tag.name) :: after)).foldlM
      (record.step inner) record.blank = some ⟨some tag, (before ++ after).reverse⟩ := by
    rw [ofMembers_append, List.foldlM_append]
    show ((ofMembers before).foldlM (record.step inner) ⟨none, []⟩).bind _ = _
    rw [first, Option.bind_some, ofMembers, List.foldlM_cons, step_type, tagRead]
    refine second.trans ?_
    rw [List.append_nil, List.reverse_append]
  rw [ofValue, toOption_read, enters]
  show Option.bind (List.foldlM _ _ _) _ = _
  rw [steps]
  show (readBody tag .held (ofValue (.object (before ++ after).reverse.reverse))).toOption = _
  rw [List.reverse_reverse]

/-- An object from which a command is read has one tag, and the command is that of its other
members. -/
theorem tagged_of_read {members : List (StringSpelling × Document)} {closed : Bool}
    {command : Command} (read : Command.read origin (.object members closed) = .ok command) :
    ∃ before after tag, members = ofMembers (before ++ ("type", .string tag.name) :: after) ∧
      closed = true ∧ (∀ member ∈ before ++ after, member.1 ≠ "type") ∧
      readBody tag .held (ofValue (.object (before ++ after))) = .ok command := by
  obtain ⟨_, recordRead, -⟩ := eq_ok_of_bind read
  have closes : closed = true := @Record.closed_of_read _ _ record _ _ _ _ recordRead
  subst closes
  rw [← toOption_eq_some_iff, toOption_read] at read
  obtain ⟨inner, -, draftRead⟩ := Option.bind_eq_some_iff.1 read
  obtain ⟨draft, steps, chosen⟩ := Option.bind_eq_some_iff.1 draftRead
  obtain ⟨tag, tagged, bodyRead⟩ := Option.bind_eq_some_iff.1 chosen
  obtain ⟨before, after, same, own, kept⟩ := tagged_of_steps steps tagged
  rw [kept, List.append_nil, List.reverse_reverse] at bodyRead
  exact ⟨before, after, tag, same, rfl, own, toOption_eq_some_iff.1 bodyRead⟩

/-! ## Commands -/

/-- A value tells a command. -/
inductive Tells : Command → Json → Prop
  | mk {command : Command} {tag : Tag} {before after : List (String × Json)}
      (tells : TellsAs tag command (.object (before ++ after)))
      (own : ∀ member ∈ before ++ after, member.1 ≠ "type") :
      Tells command (.object (before ++ ("type", .string tag.name) :: after))

/-- A command is read from every value that tells it, where this may nest as deep as it does. -/
theorem read_of_tells {command : Command} {written : Json} (tells : command.Tells written)
    (allows : origin.Allows written.nesting) :
    Command.read origin (ofValue written) = .ok command := by
  cases tells with
  | @mk tag before after tells own =>
    have deep : origin.Allows (Json.object (before ++ after)).nesting := by
      rw [Json.nesting, nestingMembers_tagged] at allows
      exact allows
    rw [← toOption_eq_some_iff, toOption_read_tagged own deep, toOption_eq_some_iff]
    exact readBody_of_tells tells trivial

/-- Every command can be told with the tag in front. -/
theorem exists_tells (command : Command) : ∃ written, command.Tells written := by
  cases command with
  | approve approval =>
    have tells : Tells (.approve approval) (.object ([] ++
        ("type", .string (Tag.name .approve)) ::
          [("connection_id", .string approval.connectionId),
            ("result", approval.decision.toJson)])) :=
      .mk (.approve approval.tells_toJson) (by simp)
    exact ⟨_, tells⟩
  | sendToAll payload =>
    have tells : Tells (.sendToAll payload) (.object ([] ++
        ("type", .string (Tag.name .sendToAll)) :: [("payload", payload.toJson)])) :=
      .mk (.sendToAll payload.tells_toJson (.of_fields _ _)) (by simp)
    exact ⟨_, tells⟩
  | sendToConnection connectionId payload =>
    have tells : Tells (.sendToConnection connectionId payload) (.object ([] ++
        ("type", .string (Tag.name .sendToConnection)) ::
          [("connection_id", .string connectionId), ("payload", payload.toJson)])) :=
      .mk (.sendToConnection payload.tells_toJson (.of_fields _ _)) (by simp)
    exact ⟨_, tells⟩

/-- A tree of a command in which the tag is repeated or a member that commands of its kind know. -/
inductive Repeats : Document → Prop
  | tag {members : List (StringSpelling × Document)} {closed : Bool}
      (repeats : Json.Repeats ["type"] members) : Repeats (.object members closed)
  | body {tag : Tag} {before after : List (StringSpelling × Document)} {closed : Bool}
      (repeats : RepeatsAs tag (.object (before ++ after) closed)) :
      Repeats (.object (before ++ (.text "type", .string (.text tag.name)) :: after) closed)

theorem not_read_of_repeats {document : Document} (repeats : Repeats document) (origin : Origin)
    (command : Command) : Command.read origin document ≠ .ok command := by
  intro read
  have otherwise {members : List (String × Json)} (own : ∀ member ∈ members, member.1 ≠ "type") :
      .text "type" ∉ (ofMembers members).map (·.1) := by
    rw [ofMembers_eq_map, List.map_map]
    intro among
    obtain ⟨member, within, named⟩ := List.mem_map.1 among
    exact own member within (StringSpelling.text.inj named)
  cases repeats with
  | tag repeats =>
    obtain ⟨before, after, tag, rfl, rfl, own, -⟩ := tagged_of_read read
    obtain ⟨name, knows, twice⟩ := repeats
    obtain rfl := List.mem_singleton.1 knows
    have once := List.count_eq_zero_of_not_mem (otherwise own)
    rw [ofMembers_append, List.map_append, List.count_append] at once
    rw [List.duplicate_iff_two_le_count, ofMembers_append, List.map_append, List.count_append,
      ofMembers, List.map_cons, List.count_cons_self] at twice
    omega
  | @body tag before after closed repeats =>
    obtain ⟨first, last, other, same, rfl, own, bodyRead⟩ := tagged_of_read read
    have absent {members : List (String × Json)} (own : ∀ member ∈ members, member.1 ≠ "type") :
        (.text "type", .string (.text tag.name)) ∉ ofMembers members :=
      fun among => otherwise own (List.mem_map_of_mem among)
    rw [ofMembers_append] at same
    obtain ⟨rfl, tags, rfl⟩ := (List.append_cons_inj_of_notMem
      (absent fun member among => own member (List.mem_append_left _ among))
      (absent fun member among => own member (List.mem_append_right _ among))).1 same.symm
    obtain rfl : other = tag := by
      rw [← Option.some.injEq, ← Tag.ofName?_eq_some_iff.2 rfl, Tag.ofName?_eq_some_iff]
      simpa [ofValue] using tags
    rw [← ofMembers_append] at repeats
    exact not_readBody_of_repeats repeats .held command bodyRead

end Command

/-! ## Texts -/

/-- The members of a message may come in any order, with others among them, but none of those that
the message knows may come twice. -/
structure Json.Unordered {α : Type} (reader : Reader α) (tells : α → Json → Prop)
    (repeats : Document → Prop) : Prop where
  /-- Every message can be told. -/
  told : ∀ value, ∃ written, tells value written
  /-- A message is read from every text of every value that tells it. -/
  decodes : ∀ value written text, tells value written → written.nesting ≤ 127 →
    IsText written text → reader.readText text = .ok value ∧ reader.readFront text = .ok value
  /-- None is read from a text of a value that repeats a member. -/
  refuses : ∀ value written text, repeats (ofValue written) → IsText written text →
    reader.readText text ≠ .ok value ∧ reader.readFront text ≠ .ok value
  /-- None is read from any other text whose tree does, whatever its members are. -/
  refusesTree : ∀ value text, repeats (ofText text).1 →
    reader.readText text ≠ .ok value ∧ reader.readFront text ≠ .ok value

/-- What holds of trees holds of texts. -/
theorem Json.Unordered.of_read {α : Type} {reader : Reader α} {tells : α → Json → Prop}
    {repeats : Document → Prop} (told : ∀ value, ∃ written, tells value written)
    (reads : ∀ {value written}, tells value written → Origin.whole.Allows written.nesting →
      reader .whole (ofValue written) = .ok value)
    (refuses : ∀ {document}, repeats document → ∀ origin value,
      reader origin document ≠ .ok value) :
    Unordered reader tells repeats := by
  have refusesTree (value : α) (text : List Char) (twice : repeats (ofText text).1) :
      reader.readText text ≠ .ok value ∧ reader.readFront text ≠ .ok value := by
    refine ⟨fun read => ?_, refuses twice .whole value⟩
    obtain ⟨found, treeRead, -⟩ := eq_ok_of_bind read
    exact refuses twice .whole found treeRead
  refine ⟨told, fun value written text tells shallow spelled => ?_,
    fun value written text twice spelled => ?_, refusesTree⟩
  · rw [Reader.readText_isText reader spelled, Reader.readFront_isText reader spelled]
    exact ⟨reads tells shallow, reads tells shallow⟩
  · rw [Reader.readText_isText reader spelled, Reader.readFront_isText reader spelled]
    exact ⟨refuses twice .whole value, refuses twice .whole value⟩

/-- Every message is read whatever the order of its members is and whatever other members stand
among them, at every level of records, and is refused if a member that it knows is repeated. -/
theorem messages_unordered :
    Unordered Event.read Event.Tells Event.Repeats ∧
      Unordered Approval.read Approval.Tells Approval.Repeats ∧
      Unordered Payload.read Payload.Tells Payload.Repeats ∧
      Unordered Command.read Command.Tells Command.Repeats :=
  ⟨.of_read (fun event => ⟨_, event.tells_toJson⟩) Event.read_of_tells Event.not_read_of_repeats,
    .of_read (fun approval => ⟨_, approval.tells_toJson⟩) Approval.read_of_tells
      Approval.not_read_of_repeats,
    .of_read (fun payload => ⟨_, payload.tells_toJson⟩) Payload.read_of_tells
      Payload.not_read_of_repeats,
    .of_read Command.exists_tells Command.read_of_tells Command.not_read_of_repeats⟩

-- The digits of a binary body are told from its tag alone, which may come later.
example : Payload.read.readText
    (Json.object [("data", .string "aGk="), ("type", .string "binary")]).text.toList =
      .ok (.binary [0x68, 0x69]) := by
  decide +kernel

end HubRelay
