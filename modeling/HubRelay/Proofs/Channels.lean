import HubRelay.Http.Service
import HubRelay.Proofs.Tagged
import HubRelay.Proofs.Utf8

/-!
Contract: an approval means the same as the body of a request and as a command.

Owns:
- that records and named alternatives make the same of a value whether it is read at once or held
  back first, if the readers of their fields do;
- that an approval is read from the text of an object exactly if the command to approve is read from
  every text of the object with the tag of the command among its members.

Does not own: what an approval does once it has been read.

Only values that nest too deep are read when they have been held back and not when they are read at
once, and those are no values of the texts that either channel takes.
-/

namespace HubRelay

open Json Document

/-! ## Values that were held back -/

namespace Json

/-- A reader makes the same of a value whether it is read at once or held back first. -/
def Reader.Uniform {α : Type} (reader : Reader α) : Prop :=
  ∀ (origin : Origin) (written : Json), origin.Allows written.nesting →
    (reader origin (ofValue written)).toOption = (reader .held (ofValue written)).toOption

theorem uniform_readText : Reader.Uniform readText :=
  fun _ _ _ => rfl

theorem Reader.Uniform.map {α β : Type} {reader : Reader α} (uniform : reader.Uniform)
    (change : α → β) :
    Reader.Uniform fun origin document => (reader origin document).map change := by
  intro origin written allows
  simp only [toOption_map, uniform origin written allows]

theorem Reader.Uniform.option {α : Type} {reader : Reader α} (uniform : reader.Uniform) :
    Reader.Uniform (readOption reader) := by
  intro origin written allows
  cases written with
  | null => rfl
  | boolean _ | number _ | string _ | array _ | object _ => exact uniform.map some origin _ allows

/-- A value that goes with a name is read alike if every reader chosen by a name does. -/
theorem uniform_readCarrier {α : Type} {readers : String → Option (Reader α)}
    (uniform : ∀ name reader, readers name = some reader → reader.Uniform) :
    Reader.Uniform (readCarrier readers) := by
  intro origin written allows
  cases written with
  | null | boolean _ | number _ | string _ | array _ => rfl
  | object members =>
    obtain ⟨inner, enters, within⟩ := allows.enter
    have heldEnters : Origin.held.enter = .ok .held := rfl
    simp only [readCarrier, readSole, ofValue, enters, heldEnters, toOption_bind, toOption_ok,
      Option.bind_some]
    cases members with
    | nil => rfl
    | cons member members =>
      obtain ⟨name, value⟩ := member
      cases chosen : readers name with
      | none =>
        simp only [ofMembers, nameText, toOption_bind, toOption_ok, Option.bind_some, chosen]
      | some reader =>
        have same := uniform name reader chosen inner value (within.mono (Nat.le_max_left _ _))
        simp only [ofMembers, nameText, toOption_bind, toOption_ok, Option.bind_some, chosen, same]

namespace Record

variable {σ α : Type} {record : Record σ α} {origin : Origin}
  (slots : ∀ draft name reader, record.slot draft name = .vacant reader → reader.Uniform)

include slots

theorem step_uniform (draft : σ) (name : String) {written : Json}
    (allows : origin.Allows written.nesting) :
    record.step origin draft (.text name, ofValue written) =
      record.step .held draft (.text name, ofValue written) := by
  cases slot : record.slot draft name with
  | unknown => rw [step_unknown slot, step_unknown slot]
  | filled => rw [step_filled slot, step_filled slot]
  | vacant reader =>
    rw [step_vacant slot, step_vacant slot]
    exact slots draft name reader slot origin written allows

theorem steps_uniform {members : List (String × Json)}
    (allows : origin.Allows (nestingMembers members)) (draft : σ) :
    (ofMembers members).foldlM (record.step origin) draft =
      (ofMembers members).foldlM (record.step .held) draft := by
  induction members generalizing draft with
  | nil => rfl
  | cons member members inductionHypothesis =>
    obtain ⟨name, written⟩ := member
    rw [ofMembers, List.foldlM_cons, List.foldlM_cons,
      step_uniform slots draft name (allows.mono (Nat.le_max_left _ _))]
    exact congrArg _ (funext (inductionHypothesis (allows.mono (Nat.le_max_right _ _))))

theorem readItems_uniform {items : List Json} (allows : origin.Allows (nestingItems items))
    (names : List String) (draft : σ) :
    (record.readItems origin true draft names (ofValues items)).toOption =
      (record.readItems .held true draft names (ofValues items)).toOption := by
  induction items generalizing names draft with
  | nil => cases names <;> rfl
  | cons item items inductionHypothesis =>
    cases names with
    | nil => rfl
    | cons name names =>
      simp only [ofValues, readItems]
      cases slot : record.slot draft name with
      | unknown | filled => rfl
      | vacant reader =>
        have same := slots draft name reader slot origin item (allows.mono (Nat.le_max_left _ _))
        have later := inductionHypothesis (allows.mono (Nat.le_max_right _ _)) names
        simp only [toOption_bind, same, later]

/-- A record is read alike if its fields are. -/
theorem uniform_read : Reader.Uniform record.read := by
  intro origin written allows
  cases written with
  | null | boolean _ | number _ | string _ => rfl
  | object members =>
    obtain ⟨inner, enters, within⟩ := allows.enter
    rw [ofValue, toOption_read_object, toOption_read_object, enters]
    exact congrArg (Option.bind · record.complete?) (steps_uniform slots within record.blank)
  | array items =>
    obtain ⟨inner, enters, within⟩ := allows.enter
    have same := readItems_uniform slots within record.names record.blank
    have heldEnters : Origin.held.enter = .ok .held := rfl
    simp only [Record.read, readArray, ofValue, toOption_bind, enters, heldEnters, toOption_ok,
      Option.bind_some]
    exact congrArg (Option.bind · _) same

end Record

theorem Record.HasFields.uniform_read {σ α : Type} {record : Record σ α} {fields : List (Field σ)}
    (table : record.HasFields fields) (uniform : ∀ field ∈ fields, field.reader.Uniform) :
    Reader.Uniform record.read := by
  refine Record.uniform_read fun draft name reader vacant => ?_
  rw [table.slot] at vacant
  cases found : fields.find? (·.name == name) with
  | none =>
    rw [found] at vacant
    cases vacant
  | some field =>
    rw [found] at vacant
    simp only [Slot.of] at vacant
    cases kept : field.get draft with
    | some value =>
      rw [kept] at vacant
      cases vacant
    | none =>
      rw [kept] at vacant
      obtain rfl := Slot.vacant.inj vacant
      exact (uniform field (List.mem_of_find?_eq_some found)).map _

end Json

theorem Decision.uniform_read : Reader.Uniform Decision.read := by
  have approvals : Reader.Uniform approvalRecord.read :=
    hasFields_approval.uniform_read (List.forall_mem_singleton.2 uniform_readText.option)
  have rejections : Reader.Uniform rejectionRecord.read :=
    hasFields_rejection.uniform_read (List.forall_mem_singleton.2 uniform_readText)
  refine uniform_readCarrier fun name reader chosen => ?_
  unfold readerOf at chosen
  split at chosen
  · exact Option.some.inj chosen ▸ approvals
  · exact Option.some.inj chosen ▸ rejections
  · cases chosen

theorem Approval.uniform_read : Reader.Uniform Approval.read :=
  hasFields.uniform_read
    (List.forall_mem_cons.2 ⟨uniform_readText, List.forall_mem_singleton.2 Decision.uniform_read⟩)

/-! ## Both channels -/

/-- A text is read from the bytes that spell it. -/
theorem Http.Service.jsonText_encode (text : List Char) :
    Http.Service.jsonText (Text.Utf8.encode text) = text := by
  rw [jsonText, Text.Utf8.pieces_encode, List.flatMap_map]
  exact List.flatMap_singleton' text

/-- The command to approve is read from a tagged object as the approval is from the object. -/
theorem Command.toOption_read_approve {before after : List (String × Json)}
    (own : ∀ member ∈ before ++ after, member.1 ≠ "type") {origin : Origin}
    (allows : origin.Allows (Json.object (before ++ after)).nesting) :
    (Command.read origin
        (ofValue (.object (before ++ ("type", .string "approve") :: after)))).toOption =
      (Approval.read origin (ofValue (.object (before ++ after)))).toOption.map .approve := by
  rw [Approval.uniform_read origin _ allows, ← toOption_map]
  exact toOption_read_tagged own allows .approve

/-- A request that says that it carries JSON is read from its body. -/
theorem Http.Service.readBody_eq_ok_iff {α : Type} {reader : Reader α} {request : Http.Request}
    {text : List Char} (announces : Http.MediaType.announcesJson request = true)
    (carries : request.body = Text.Utf8.encode text) (fits : request.body.length ≤ bodyLimit)
    (value : α) : readBody reader request = .ok value ↔ reader.readFront text = .ok value := by
  rw [readBody, announces, if_neg (by decide), if_neg (Nat.not_lt.2 fits), carries, jsonText_encode]
  cases reader.readFront text with
  | ok found => rw [Except.ok.injEq, Except.ok.injEq]
  | error fault => exact ⟨nofun, nofun⟩

/-- The text of an object without a tag says the same, as the body of a request to approve, as every
text of the object says as a command that has the tag of approvals anywhere among its members. -/
theorem approval_alike_on_channels {before after : List (String × Json)} {text tagged : List Char}
    (own : ∀ member ∈ before ++ after, member.1 ≠ "type")
    (shallow : (Json.object (before ++ after)).nesting ≤ 127)
    (spelled : IsText (.object (before ++ after)) text)
    (spelledTagged : IsText (.object (before ++ ("type", .string "approve") :: after)) tagged)
    (approval : Approval) :
    (Approval.read.readText text = .ok approval ↔
        Command.read.readText tagged = .ok (.approve approval)) ∧
      ∀ request : Http.Request, Http.MediaType.announcesJson request = true →
        request.body = Text.Utf8.encode text → request.body.length ≤ Http.Service.bodyLimit →
          (Http.Service.readBody Approval.read request = .ok approval ↔
            Command.read.readText tagged = .ok (.approve approval)) := by
  have same : (Command.read .whole
        (ofValue (.object (before ++ ("type", .string "approve") :: after)))).toOption =
      (Approval.read .whole (ofValue (.object (before ++ after)))).toOption.map .approve :=
    Command.toOption_read_approve own shallow
  have alike : Approval.read .whole (ofValue (.object (before ++ after))) = .ok approval ↔
      Command.read.readText tagged = .ok (.approve approval) := by
    rw [Reader.readText_isText Command.read spelledTagged, ← toOption_eq_some_iff,
      ← toOption_eq_some_iff, same, Option.map_eq_some_iff]
    simp only [Command.approve.injEq, exists_eq_right]
  refine ⟨?_, fun request announces carries fits => ?_⟩
  · rw [Reader.readText_isText Approval.read spelled]
    exact alike
  · rw [Http.Service.readBody_eq_ok_iff announces carries fits,
      Reader.readFront_isText Approval.read spelled]
    exact alike

/-- An approval whose decision comes first, sent with the tag between its members, and posted. -/
theorem approval_alike_with_tag_between :
    Command.read.readText (Json.object [("result", .object [("success", .object [])]),
        ("type", .string "approve"), ("connection_id", .string "ada")]).text.toList =
          .ok (.approve ⟨"ada", .approve none⟩) ∧
      Http.Service.readBody Approval.read ⟨"POST", "/api/v1/hubs/chat/approvals",
        [⟨"content-type", Text.Utf8.encode "application/json".toList⟩],
        Text.Utf8.encode (Json.object [("result", .object [("success", .object [])]),
          ("connection_id", .string "ada")]).text.toList⟩ = .ok ⟨"ada", .approve none⟩ := by
  have spelled := isText_print (.object ([("result", .object [("success", .object [])])] ++
    [("connection_id", .string "ada")])) rfl
  have spelledTagged := isText_print (.object ([("result", .object [("success", .object [])])] ++
    ("type", .string "approve") :: [("connection_id", .string "ada")])) rfl
  obtain ⟨alike, posted⟩ := approval_alike_on_channels (by decide) (by decide) spelled spelledTagged
    ⟨"ada", .approve none⟩
  have sent := alike.1 (by decide +kernel)
  exact ⟨sent, (posted _ (by decide +kernel) rfl (by decide +kernel)).2 sent⟩

end HubRelay
