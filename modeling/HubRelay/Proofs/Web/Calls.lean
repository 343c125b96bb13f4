import HubRelay.Gateway
import HubRelay.Proofs.Isolation.Confinement
import HubRelay.Proofs.Switchboard.Naming

/-!
Contract: what comes from a backend or an operator is a call of the switchboard.

Owns: the call of a command, the calls of a stream up to its end, that nothing else in a stream has
an effect and that no call leaves its hub; what a request that decides about a client or sends to
all of them does, and that an id of blanks is nobody's.

Does not own: when a stream is looked at.
-/

namespace HubRelay

open Switchboard

/-! ## Commands -/

/-- What a command asks of the switchboard. -/
def Command.request (hub : String) : Command → Switchboard.Request
  | .approve approval => .acknowledge hub approval
  | .sendToAll payload => .broadcast hub payload
  | .sendToConnection connectionId payload => .sendToConnection hub connectionId payload

namespace Switchboard

variable {board : Switchboard}

theorem applyCommand_eq (board : Switchboard) (hub : String) (command : Command) :
    board.applyCommand hub command = board.perform (command.request hub) := by
  cases command <;> rfl

theorem hub?_request (board : Switchboard) (hub : String) (command : Command) :
    (command.request hub).hub? board = some hub := by
  cases command <;> rfl

theorem tidy_command (tidy : Tidy board) (hub : String) (command : Command) :
    Tidy (board.perform (command.request hub)) := by
  have stays : (command.request hub).changesBooks = false := by cases command <;> rfl
  have keeps : (command.request hub).takes = false := by cases command <;> rfl
  exact tidy.of_traffic (traffic_perform board stays keeps)

/-- Whatever a backend calls stays in its hub, and leaves the books in order. -/
theorem confined_commands (tidy : Tidy board) (hub : String) (commands : List Command) :
    Confined hub board ((commands.map (·.request hub)).foldl perform board) ∧
      Lasting board ((commands.map (·.request hub)).foldl perform board) ∧
      Tidy ((commands.map (·.request hub)).foldl perform board) := by
  induction commands generalizing board with
  | nil => exact ⟨.refl board, .refl board, tidy⟩
  | cons command commands inductionHypothesis =>
    have first := confined_perform tidy.zoned (hub?_request board hub command)
    have lasts := board.lasting_perform (command.request hub)
    obtain ⟨confined, lasting, tidyThen⟩ := inductionHypothesis (tidy_command tidy hub command)
    exact ⟨first.trans confined, lasts.trans lasting, tidyThen⟩

end Switchboard

namespace SocketInput

/-- The command that comes over a socket, if what comes is a text that is one. -/
def command? : SocketInput → Option Command
  | .message (.text body) => (Command.read.readText body.toList).toOption
  | _ => none

/-- Whether a stream ends. -/
def ends : SocketInput → Bool
  | .failure | .message .close => true
  | _ => false

end SocketInput

namespace Gateway

/-- The commands in what came over a socket, up to the end of the stream. -/
def commands (received : List SocketInput) : List Command :=
  (received.takeWhile (!·.ends)).filterMap (·.command?)

/-- What the backend of a hub calls. -/
def calls (hub : String) (received : List SocketInput) : List Switchboard.Request :=
  (commands received).map (·.request hub)

variable (board : Switchboard) (hub : String)

/-- What came over a socket is carried out call by call, up to the end of the stream. -/
theorem receiveCommands_eq (received : List SocketInput) :
    receiveCommands board hub received =
      (received.any (·.ends), (calls hub received).foldl Switchboard.perform board) := by
  induction received generalizing board with
  | nil => rfl
  | cons input received inductionHypothesis =>
    cases input with
    | failure => rfl
    | message message =>
      cases message with
      | close => rfl
      | binary body => exact inductionHypothesis board
      | ping => exact inductionHypothesis board
      | text body =>
        cases read : Command.read.readText body.toList with
        | error fault =>
          have skipped : calls hub (.message (.text body) :: received) = calls hub received := by
            simp [calls, commands, SocketInput.ends, SocketInput.command?, read,
              Except.toOption]
          rw [receiveCommands, read, skipped]
          exact inductionHypothesis board
        | ok command =>
          have called : calls hub (.message (.text body) :: received) =
              command.request hub :: calls hub received := by
            simp [calls, commands, SocketInput.ends, SocketInput.command?, read,
              Except.toOption]
          rw [receiveCommands, read, called, List.foldl_cons, ← applyCommand_eq]
          exact inductionHypothesis _

/-- It does not matter whether a stream is looked at once or bit by bit, and nothing counts that
comes after its end. -/
theorem receiveCommands_append (earlier later : List SocketInput) :
    receiveCommands board hub (earlier ++ later) =
      if (receiveCommands board hub earlier).1 then receiveCommands board hub earlier
      else receiveCommands (receiveCommands board hub earlier).2 hub later := by
  induction earlier generalizing board with
  | nil => rfl
  | cons input earlier inductionHypothesis =>
    cases input with
    | failure => rfl
    | message message =>
      cases message with
      | close => rfl
      | binary body => exact inductionHypothesis board
      | ping => exact inductionHypothesis board
      | text body =>
        rw [List.cons_append, receiveCommands, receiveCommands]
        split <;> exact inductionHypothesis _

/-- What is neither a command nor the end of a stream might as well not have come. -/
theorem receiveCommands_skip {input : SocketInput} (useless : input.command? = none)
    (goesOn : input.ends = false) (earlier later : List SocketInput) :
    receiveCommands board hub (earlier ++ input :: later) =
      receiveCommands board hub (earlier ++ later) := by
  have skips (board : Switchboard) :
      receiveCommands board hub (input :: later) = receiveCommands board hub later := by
    have same : commands (input :: later) = commands later := by
      simp [commands, goesOn, useless]
    rw [receiveCommands_eq, receiveCommands_eq, calls, calls, same, List.any_cons, goesOn,
      Bool.false_or]
  rw [receiveCommands_append, receiveCommands_append, skips]

end Gateway

/-! ## Requests -/

/-- An id of blanks is not given out. -/
theorem Identifier.isAllBlank_ofSerial (serial : Nat) :
    Text.Blank.isAllBlank (ofSerial serial) = false := by
  rw [Text.Blank.isAllBlank, ofSerial, String.toList_ofList, List.all_append]
  have visible : head.all Text.Blank.isBlank = false := by decide
  rw [visible, Bool.false_and]

/-- Nobody is named by blanks. -/
theorem Switchboard.Sound.named?_of_blank {board : Switchboard} {held : ClientKey → Bool}
    (sound : Sound board held none) (hub : String) {id : String}
    (blank : Text.Blank.isAllBlank id = true) : board.named? hub id = none := by
  refine sound.named?_eq_none_iff.2 fun key client _ found _ called => ?_
  obtain ⟨serials, ids, -⟩ := sound.ids
  have listed : client.id ∈ board.clients.map (·.id) :=
    List.mem_map_of_mem (List.mem_of_getElem? found)
  rw [ids] at listed
  obtain ⟨serial, -, same⟩ := List.mem_map.1 listed
  rw [← called, ← same, Identifier.isAllBlank_ofSerial] at blank
  contradiction

namespace Http

namespace Request

/-- The hub and the decision that a request is about which decides about a client. -/
def approves? (request : Request) : Option (String × Approval) :=
  match request.method, Resource.ofPath? request.path with
  | "POST", some (.approvals hub) => (Service.readPost Approval.read hub request).toOption
  | _, _ => none

/-- The hub and the payload that a request is about which sends to all clients. -/
def broadcasts? (request : Request) : Option (String × Payload) :=
  match request.method, Resource.ofPath? request.path with
  | "POST", some (.broadcast hub) =>
    ((Service.readPost Broadcast.read hub request).toOption).map fun (hub, content) =>
      (hub, content.payload)
  | _, _ => none

end Request

namespace Service

variable {exchange : Exchange} {request : Request} {hub : String} {held : ClientKey → Bool}

/-- What is answered to a request that decides about a client: only an id of blanks is refused. -/
def approvalAnswer (requestId : String) (approval : Approval) : Response :=
  if Text.Blank.isAllBlank approval.connectionId then
    .failure (.validation "connection_id must not be empty") requestId
  else .bare 202

/-- What is answered to a request that sends to all clients: how many there were. -/
def broadcastAnswer (sent : Nat) : Response :=
  ⟨202, some (.object [("sent", ((Json.Number.ofNat? sent).map .number).getD .null)])⟩

theorem handle_of_approves {approval : Approval}
    (approves : request.approves? = some (hub, approval)) (exchange : Exchange)
    (circumstances : Circumstances) :
    handle exchange circumstances request =
      (.answered (approve exchange circumstances.requestId hub approval).1,
        (approve exchange circumstances.requestId hub approval).2) := by
  unfold Request.approves? at approves
  split at approves
  · next segment posts named =>
    cases read : readPost Approval.read segment request with
    | error status =>
      rw [read] at approves
      contradiction
    | ok found =>
      rw [read] at approves
      obtain rfl := Option.some.inj approves
      simp [handle, posts, named, Resource.admits, serve, read]
  · contradiction

/-- A decision that is requested is applied as one that is called for, also where the request is
refused: whoever it is about then is nobody. -/
theorem approve_eq (sound : Sound exchange.board held none) (requestId hub : String)
    (approval : Approval) :
    approve exchange requestId hub approval = (approvalAnswer requestId approval,
      { exchange with board := exchange.board.acknowledge hub approval }) := by
  rw [approve, approvalAnswer]
  by_cases blank : Text.Blank.isAllBlank approval.connectionId = true
  · have nobody := tryAcknowledge_of_unnamed (sound.named?_of_blank hub blank)
    rw [if_pos blank, if_pos blank, acknowledge, nobody]
  · rw [if_neg blank, if_neg blank]

/-- What is requested to be sent to all is sent as what is called for, and counted. -/
theorem handle_of_broadcasts {payload : Payload}
    (broadcasts : request.broadcasts? = some (hub, payload)) (exchange : Exchange)
    (circumstances : Circumstances) :
    handle exchange circumstances request =
      (.answered (broadcastAnswer (exchange.board.broadcast hub payload).1),
        { exchange with board := (exchange.board.broadcast hub payload).2 }) := by
  unfold Request.broadcasts? at broadcasts
  split at broadcasts
  · next segment posts named =>
    cases read : readPost Broadcast.read segment request with
    | error status =>
      rw [read] at broadcasts
      contradiction
    | ok found =>
      obtain ⟨other, content⟩ := found
      rw [read] at broadcasts
      obtain ⟨rfl, rfl⟩ := Prod.mk.inj (Option.some.inj broadcasts)
      simp [handle, posts, named, Resource.admits, serve, read, broadcast, broadcastAnswer]
  · contradiction

end Service

end Http

end HubRelay
