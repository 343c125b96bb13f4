import HubRelay.Proofs.Channels
import HubRelay.Proofs.Envelope
import HubRelay.Proofs.Exchange.Routing
import HubRelay.Proofs.Web.Addresses
import HubRelay.Proofs.Web.Sockets

/-!
Contract: whoever commands a hub over the web calls the switchboard, and does nothing else.

Owns: that the socket of a backend goes on serving its hub; that what a backend sends is carried out
call by call up to the end of its stream; that decisions and payloads that are posted do what those
do that are sent over a socket, and are answered, unless they come in too long a body; and that all
this stays in the hub.

Does not own: what the calls do to clients.

A command over a socket may be as long as a message can be, and a body may not.  So the same
decision can be spelled so long that it is applied over the one and refused in the other.
-/

namespace HubRelay

open Switchboard

namespace Gateway

variable {gateway : Gateway} {key : SocketKey} {backend : BackendKey} {hub : String}
  {received : List SocketInput}

theorem lasting_foldl (exchange : Exchange) (actions : List Action) :
    Lasting exchange.board (actions.foldl Exchange.perform exchange).board := by
  induction actions generalizing exchange with
  | nil => exact .refl exchange.board
  | cons action actions inductionHypothesis =>
    exact (exchange.lasting_perform action).trans (inductionHypothesis _)

theorem lasting_perform (gateway : Gateway) (step : Step) :
    Lasting gateway.exchange.board (gateway.perform step).exchange.board := by
  rw [exchange_perform]
  exact lasting_foldl _ _

/-! ## The socket of a backend -/

/-- A socket serves a backend of a hub, unless it is over. -/
def Serves (gateway : Gateway) (key : SocketKey) (hub : String) : Prop :=
  ∃ socket, gateway.socket? key = some socket ∧
    (socket.use = .over ∨ ∃ backend received, socket.use = .serving backend received ∧
      gateway.exchange.board.backendHub? backend = some hub)

/-- A socket that serves a hub goes on to do so, whatever happens. -/
theorem Serves.perform (serves : gateway.Serves key hub) (step : Step) :
    (gateway.perform step).Serves key hub := by
  obtain ⟨socket, found, use⟩ := serves
  obtain ⟨later, news, ⟨left, after⟩, -, turn⟩ := turns_perform found step
  refine ⟨_, after, ?_⟩
  have goesOn {backend : BackendKey}
      (home : gateway.exchange.board.backendHub? backend = some hub) :
      (gateway.perform step).exchange.board.backendHub? backend = some hub :=
    (gateway.lasting_perform step).backendHub? home
  rcases use with idle | ⟨backend, received, serving, home⟩
  · rw [idle] at turn
    cases turn with
    | rest | sever => exact Or.inl rfl
  · rw [serving] at turn
    cases turn with
    | rest | serve => exact Or.inr ⟨backend, _, rfl, goesOn home⟩
    | stop | sever => exact Or.inl rfl

theorem hubOf_of_home (home : gateway.exchange.board.backendHub? backend = some hub) :
    gateway.hubOf backend = hub := by
  rw [hubOf, ← backendHub?, home]
  rfl

/-- A switchboard after what came from a backend was carried out: the calls were made, and the
backend was dropped if its stream has ended. -/
def carriedOut (board : Switchboard) (hub : String) (backend : BackendKey)
    (received : List SocketInput) : Switchboard :=
  if (receiveCommands board hub received).1 then
    (receiveCommands board hub received).2.dropBackend backend
  else (receiveCommands board hub received).2

theorem exchange_receive (serves : gateway.use? key = some (.serving backend received))
    (home : gateway.exchange.board.backendHub? backend = some hub) :
    (gateway.perform (.receive key)).exchange = { gateway.exchange with
      board := carriedOut gateway.exchange.board hub backend received } := by
  have same := hubOf_of_home home
  rw [hubOf] at same
  rw [perform, settleCommands, serves, carriedOut]
  simp only [same]
  split <;> rfl

/-- Where the connection of a backend fails, what it has sent before is carried out. -/
theorem exchange_cut (serves : gateway.use? key = some (.serving backend received))
    (home : gateway.exchange.board.backendHub? backend = some hub) :
    (gateway.perform (.cut key)).exchange = { gateway.exchange with
      board := carriedOut gateway.exchange.board hub backend (received ++ [.failure]) } := by
  obtain ⟨socket, found, same⟩ := Option.map_eq_some_iff.1 serves
  have serving := use?_of_socket? (socket?_updateSocket_self found
    (.serving backend (received ++ [.failure])) [])
  rw [perform, Gateway.cut, serves]
  exact exchange_receive serving home

/-- What a backend sends waits in order until it is carried out. -/
theorem use?_sends (serves : gateway.use? key = some (.serving backend received))
    (messages : List SocketMessage) :
    ((messages.map (Step.send key)).foldl perform gateway).use? key =
        some (.serving backend (received ++ messages.map .message)) ∧
      ((messages.map (Step.send key)).foldl perform gateway).exchange = gateway.exchange := by
  induction messages generalizing gateway received with
  | nil => exact ⟨by simpa using serves, rfl⟩
  | cons message messages inductionHypothesis =>
    obtain ⟨socket, found, same⟩ := Option.map_eq_some_iff.1 serves
    have sent : gateway.perform (.send key message) =
        gateway.updateSocket key (.serving backend (received ++ [.message message])) [] := by
      rw [perform, send, serves]
    have waits := use?_of_socket? (socket?_updateSocket_self found
      (.serving backend (received ++ [.message message])) [])
    have rest := inductionHypothesis waits
    rw [List.map_cons, List.foldl_cons, sent, List.map_cons]
    rw [List.append_assoc] at rest
    exact rest

/-- Nothing that a backend sends has an effect outside its hub. -/
theorem confined_receiveCommands {board : Switchboard} (tidy : Tidy board) (hub : String)
    (received : List SocketInput) : Confined hub board (receiveCommands board hub received).2 := by
  rw [receiveCommands_eq]
  exact (confined_commands tidy hub (commands received)).1

theorem confined_carriedOut {board : Switchboard} (tidy : Tidy board)
    (home : board.backendHub? backend = some hub) (received : List SocketInput) :
    Confined hub board (carriedOut board hub backend received) := by
  rw [carriedOut, receiveCommands_eq]
  obtain ⟨confined, lasting, tidyThen⟩ := confined_commands tidy hub (commands received)
  split
  · exact confined.trans (confined_dropBackend tidyThen.zoned (lasting.backendHub? home))
  · exact confined

/-- What the socket of somebody who asks to listen is used for, from whether registering came
about. -/
def useOf : Option BackendKey → SocketUse
  | some backend => .serving backend []
  | none => .over

/-- Whoever asks to listen is registered, and served if that came about. -/
theorem use?_connect (gateway : Gateway) {request : Http.Request} {interest : Interest}
    (listens : request.received.listens? = some (hub, interest)) (requestId : String) (uptime : Nat)
    (peer : Option SocketAddress) :
    let registered := gateway.exchange.board.tryRegister hub
      ((interest.name.or (peer.map (·.text))).getD "unknown") interest.eventNames
    (gateway.perform (.connect requestId uptime peer request)).use? gateway.sockets.length =
        some (useOf registered.1) ∧
      (gateway.perform (.connect requestId uptime peer request)).exchange.board = registered.2 := by
  have handled := Http.Service.handle_of_listens listens gateway.exchange ⟨requestId, uptime⟩
  intro registered
  have opened (sockets : List Socket) (socket : Socket) :
      ((sockets ++ [socket])[sockets.length]?).map (·.use) = some socket.use := by
    rw [List.getElem?_concat_length]
    rfl
  simp only [perform, Gateway.connect, handled, use?, socket?, registered]
  cases gateway.exchange.board.tryRegister hub
      ((interest.name.or (peer.map (·.text))).getD "unknown") interest.eventNames with
  | mk backend board => cases backend <;> exact ⟨opened _ _, rfl⟩

/-- The socket of a backend that listens on a hub serves the hub. -/
theorem serves_connect {held : ClientKey → Bool} (sound : Sound gateway.exchange.board held none)
    {request : Http.Request} {interest : Interest}
    (listens : request.received.listens? = some (hub, interest)) (requestId : String) (uptime : Nat)
    (peer : Option SocketAddress) :
    (gateway.perform (.connect requestId uptime peer request)).Serves
      gateway.sockets.length hub := by
  obtain ⟨used, board⟩ := gateway.use?_connect listens requestId uptime peer
  obtain ⟨socket, found, same⟩ := Option.map_eq_some_iff.1 used
  refine ⟨socket, found, ?_⟩
  rw [same, board]
  cases registered : (gateway.exchange.board.tryRegister hub
      ((interest.name.or (peer.map (·.text))).getD "unknown") interest.eventNames).1 with
  | none => exact Or.inl rfl
  | some backend =>
    obtain ⟨entry, there, home, -⟩ := backend?_tryRegister sound registered
    exact Or.inr ⟨backend, [], rfl, (backendHub?_of_found there).trans (congrArg some home)⟩

end Gateway

/-! ## Posts -/

namespace Http

open Service

variable {request : Request} {kind : List Char → Resource} {hub : String} {text : List Char}

/-- What is read from a post says what its body says, if the body is not too long. -/
theorem Request.Posts.readPost_of_fits {α : Type} {reader : Json.Reader α} {value : α}
    (posts : request.Posts kind hub text) (reads : reader.readFront text = .ok value)
    (fits : request.body.length ≤ bodyLimit) :
    ∃ segment, Resource.ofPath? request.path = some (kind segment) ∧
      readPost reader segment request = .ok (hub, value) := by
  obtain ⟨segment, has, path, decoded⟩ := posts.addressed
  refine ⟨segment, Resource.ofPath?_eq_some_iff.2 ⟨has, path⟩, ?_⟩
  rw [readPost, decoded]
  simp only [(readBody_eq_ok_iff posts.announces posts.carries fits value).2 reads]
  rfl

theorem Request.Posts.approves?_of_fits {approval : Approval}
    (posts : request.Posts .approvals hub text)
    (reads : Approval.read.readFront text = .ok approval)
    (fits : request.body.length ≤ bodyLimit) : request.approves? = some (hub, approval) := by
  obtain ⟨segment, named, read⟩ := posts.readPost_of_fits reads fits
  simp only [approves?, posts.posts, named, read]
  rfl

theorem Request.Posts.broadcasts?_of_fits {content : Broadcast}
    (posts : request.Posts .broadcast hub text)
    (reads : Broadcast.read.readFront text = .ok content)
    (fits : request.body.length ≤ bodyLimit) :
    request.broadcasts? = some (hub, content.payload) := by
  obtain ⟨segment, named, read⟩ := posts.readPost_of_fits reads fits
  simp only [broadcasts?, posts.posts, named, read]
  rfl

theorem Request.Posts.readPost_of_long {α : Type} (reader : Json.Reader α)
    (posts : request.Posts kind hub text) (long : bodyLimit < request.body.length) :
    ∃ segment, Resource.ofPath? request.path = some (kind segment) ∧
      readPost reader segment request = .error 413 := by
  obtain ⟨segment, has, path, decoded⟩ := posts.addressed
  refine ⟨segment, Resource.ofPath?_eq_some_iff.2 ⟨has, path⟩, ?_⟩
  rw [readPost, decoded]
  simp only [readBody, posts.announces, if_pos long]
  rfl

/-- A body that is too long is refused before it is read. -/
theorem Service.handle_of_long
    (posts : request.Posts .approvals hub text ∨ request.Posts .broadcast hub text)
    (long : bodyLimit < request.body.length) (exchange : Exchange) (circumstances : Circumstances) :
    handle exchange circumstances request = (.answered (.bare 413), exchange) := by
  rcases posts with posts | posts
  · obtain ⟨segment, named, read⟩ := posts.readPost_of_long Approval.read long
    simp [handle, posts.posts, named, Resource.admits, serve, read]
  · obtain ⟨segment, named, read⟩ := posts.readPost_of_long Broadcast.read long
    simp [handle, posts.posts, named, Resource.admits, serve, read]

end Http

namespace Journal

/-- A request opens no socket: it is answered, and leaves a switchboard behind. -/
structure Answered (journal : Journal) (requestId : String) (uptime : Nat)
    (peer : Option SocketAddress) (request : Http.Request) (board : Switchboard)
    (response : Http.Response) : Prop where
  exchange : (journal.take (.connect requestId uptime peer request)).gateway.exchange =
    { journal.gateway.exchange with board := board }
  told : (journal.take (.connect requestId uptime peer request)).told
    journal.gateway.sockets.length =
      [.answered response (journal.gateway.origins.allowed request.received.headers)]

/-- What the backend of a hub may do over its socket: its commands are called for, and that is
all. -/
structure Listens (journal : Journal) (hub : String) : Prop where
  /-- Whoever listens on the hub is served by a socket for it, until the socket is over, -/
  serves : ∀ requestId uptime peer (request : Http.Request) interest more,
    request.received.listens? = some (hub, interest) →
      ((journal.take (.connect requestId uptime peer request)).run more).gateway.Serves
        journal.gateway.sockets.length hub
  /-- and it is served from then on if it could be registered. -/
  begins : ∀ requestId uptime peer (request : Http.Request) interest backend,
    request.received.listens? = some (hub, interest) →
      (journal.gateway.exchange.board.tryRegister hub
        ((interest.name.or (peer.map (·.text))).getD "unknown") interest.eventNames).1 =
          some backend →
        (journal.take (.connect requestId uptime peer request)).gateway.use?
          journal.gateway.sockets.length = some (.serving backend [])
  /-- What is sent over such a socket waits in order, -/
  sent : ∀ key backend received (messages : List SocketMessage),
    journal.gateway.use? key = some (.serving backend received) →
      (journal.run (messages.map (.send key))).gateway.use? key =
          some (.serving backend (received ++ messages.map .message)) ∧
        (journal.run (messages.map (.send key))).gateway.exchange = journal.gateway.exchange
  /-- and is carried out when somebody looks, or when the connection fails: -/
  received : ∀ key backend received, journal.gateway.use? key = some (.serving backend received) →
    journal.gateway.exchange.board.backendHub? backend = some hub →
      (journal.take (.receive key)).gateway.exchange = { journal.gateway.exchange with
        board := Gateway.carriedOut journal.gateway.exchange.board hub backend received } ∧
      (journal.take (.cut key)).gateway.exchange = { journal.gateway.exchange with
        board := Gateway.carriedOut journal.gateway.exchange.board hub backend
          (received ++ [.failure]) }
  /-- the commands in it are called for, in order, up to the end of the stream; -/
  called : ∀ received, Gateway.receiveCommands journal.gateway.exchange.board hub received =
    (received.any (·.ends),
      (Gateway.calls hub received).foldl Switchboard.perform journal.gateway.exchange.board)
  /-- what is neither a command nor the end of the stream has no effect, and does not end it; -/
  skipped : ∀ (earlier : List SocketInput) (input : SocketInput) (later : List SocketInput),
    input.command? = none → input.ends = false →
      Gateway.receiveCommands journal.gateway.exchange.board hub (earlier ++ input :: later) =
        Gateway.receiveCommands journal.gateway.exchange.board hub (earlier ++ later)
  /-- and nothing changes outside the hub. -/
  confined : ∀ backend received,
    journal.gateway.exchange.board.backendHub? backend = some hub →
      Confined hub journal.gateway.exchange.board
          (Gateway.receiveCommands journal.gateway.exchange.board hub received).2 ∧
        Confined hub journal.gateway.exchange.board
          (Gateway.carriedOut journal.gateway.exchange.board hub backend received)

/-- Whatever way a hub is commanded over the web, that is what is called for. -/
structure Fronts (journal : Journal) (hub : String) : Prop where
  listens : journal.Listens hub
  /-- A text that is a command is carried out as the call that it is. -/
  commands : ∀ (body : String) command, Command.read.readText body.toList = .ok command →
    Gateway.receiveCommands journal.gateway.exchange.board hub [.message (.text body)] =
      (false, journal.gateway.exchange.board.applyCommand hub command)
  /-- A decision that is posted in a body that is not too long is applied as it is by the command,
  also if the request is refused because its id is blank. -/
  approves : ∀ requestId uptime peer (request : Http.Request) text approval,
    request.received.Posts .approvals hub text → Approval.read.readFront text = .ok approval →
      request.body.length ≤ Http.Service.bodyLimit →
        journal.Answered requestId uptime peer request
          (journal.gateway.exchange.board.applyCommand hub (.approve approval))
          (Http.Service.approvalAnswer requestId approval)
  /-- A payload that is posted in such a body is sent to all as it is by the command, and it is
  answered to how many. -/
  broadcasts : ∀ requestId uptime peer (request : Http.Request) text content,
    request.received.Posts .broadcast hub text → Broadcast.read.readFront text = .ok content →
      request.body.length ≤ Http.Service.bodyLimit →
        journal.Answered requestId uptime peer request
          (journal.gateway.exchange.board.applyCommand hub (.sendToAll content.payload))
          (Http.Service.broadcastAnswer
            (journal.gateway.exchange.board.broadcast hub content.payload).1)
  /-- A body that is too long is refused, whatever it says, and nothing is done. -/
  tooLong : ∀ requestId uptime peer (request : Http.Request) text,
    request.received.Posts .approvals hub text ∨ request.received.Posts .broadcast hub text →
      Http.Service.bodyLimit < request.body.length →
        journal.Answered requestId uptime peer request journal.gateway.exchange.board (.bare 413)

variable (settings : Settings) (origins : List String) (steps : List Gateway.Step)

theorem tidy_of : Tidy (of settings origins steps).gateway.exchange.board := by
  obtain ⟨actions, same⟩ := course_of settings origins steps
  rw [← (of settings origins steps).same, same]
  exact ⟨⟨_, (Course.orderly_of settings actions).sound⟩, Course.homed_of settings actions⟩

variable {settings origins steps} {journal : Journal} {hub : String}

theorem Serves.run (journal : Journal) {key : SocketKey}
    (serves : journal.gateway.Serves key hub) (more : List Gateway.Step) :
    (journal.run more).gateway.Serves key hub :=
  induction (motive := fun later => later.gateway.Serves key hub) serves
    (fun _ step known => known.perform step) more

theorem listens_of (tidy : Tidy journal.gateway.exchange.board) (hub : String) :
    journal.Listens hub := by
  obtain ⟨held, sound⟩ := tidy.sound
  constructor
  case serves =>
    intro requestId uptime peer request interest more listens
    have first := Gateway.serves_connect sound listens requestId uptime peer
    exact Serves.run (journal.take _) first more
  case begins =>
    intro requestId uptime peer request interest backend listens registered
    have used := (journal.gateway.use?_connect listens requestId uptime peer).1
    rw [registered] at used
    exact used
  case sent =>
    intro key backend received messages serves
    rw [gateway_run]
    exact Gateway.use?_sends serves messages
  case received =>
    intro key backend received serves home
    exact ⟨Gateway.exchange_receive serves home, Gateway.exchange_cut serves home⟩
  case called => exact Gateway.receiveCommands_eq _ hub
  case skipped =>
    exact fun _ _ _ useless goesOn => Gateway.receiveCommands_skip _ hub useless goesOn _ _
  case confined =>
    intro backend received home
    exact ⟨Gateway.confined_receiveCommands tidy hub received,
      Gateway.confined_carriedOut tidy home received⟩

/-- What is answered is told to whoever asked. -/
theorem answered_of_handle {requestId : String} {uptime : Nat} {request : Http.Request}
    {response : Http.Response} {board : Switchboard}
    (fresh : journal.told journal.gateway.sockets.length = [])
    (handled : Http.Service.handle journal.gateway.exchange ⟨requestId, uptime⟩ request.received =
      (.answered response, { journal.gateway.exchange with board := board }))
    (peer : Option SocketAddress) :
    journal.Answered requestId uptime peer request board response := by
  have performed := Gateway.perform_of_answered handled peer
  constructor
  case exchange => exact congrArg (·.exchange) performed
  case told =>
    have opened := congrArg (·.sockets) performed
    rw [told_take, fresh, Gateway.tells_connect opened]
    rfl

/-- A text that is a command is carried out as the call that it is. -/
theorem receiveCommands_text {body : String} {command : Command}
    (read : Command.read.readText body.toList = .ok command) (board : Switchboard) (hub : String) :
    Gateway.receiveCommands board hub [.message (.text body)] =
      (false, board.applyCommand hub command) := by
  rw [Gateway.receiveCommands, read]
  rfl

/-- After every journal, whatever way a hub is commanded over the web, that is what is called
for. -/
theorem commands_faithful (settings : Settings) (origins : List String)
    (steps : List Gateway.Step) (hub : String) : (of settings origins steps).Fronts hub := by
  have tidy := tidy_of settings origins steps
  have fresh := told_of_missing settings origins steps (Nat.le_refl _)
  obtain ⟨held, sound⟩ := tidy.sound
  constructor
  case listens => exact listens_of tidy hub
  case commands => exact fun body command read => receiveCommands_text read _ hub
  case approves =>
    intro requestId uptime peer request text approval posts decodes fits
    have handled := Http.Service.handle_of_approves (posts.approves?_of_fits decodes fits)
      (of settings origins steps).gateway.exchange ⟨requestId, uptime⟩
    rw [Http.Service.approve_eq sound] at handled
    exact answered_of_handle fresh handled peer
  case broadcasts =>
    intro requestId uptime peer request text content posts decodes fits
    have handled := Http.Service.handle_of_broadcasts (posts.broadcasts?_of_fits decodes fits)
      (of settings origins steps).gateway.exchange ⟨requestId, uptime⟩
    exact answered_of_handle fresh handled peer
  case tooLong =>
    intro requestId uptime peer request text posts long
    exact answered_of_handle fresh (Http.Service.handle_of_long posts long _ _) peer

/-- A backend takes connections, and a client waits to be decided about. -/
def waiting : List Gateway.Step :=
  [.elsewhere (.request (.register "chat" "bot" [connectEvent])),
    .elsewhere (.request (.route "chat" ⟨.empty, none⟩ connectEvent))]

/-- The decision to let the client in. -/
def letIn : Approval :=
  ⟨Identifier.ofSerial 1, .approve none⟩

theorem hubStats_letIn :
    (of .standard [] waiting).gateway.exchange.board.hubStats "chat" = some ⟨1, 1, 0⟩ ∧
      ((of .standard [] waiting).gateway.exchange.board.applyCommand "chat"
        (.approve letIn)).hubStats "chat" = some ⟨1, 1, 1⟩ := by
  decide +kernel

/-- It is posted to where the client waits, and there it is let in. -/
theorem letIn_posted :
    (of .standard [] waiting).Answered "r" 0 none
        (.toPost .approvals "chat" letIn.toJson.text.toList)
        ((of .standard [] waiting).gateway.exchange.board.applyCommand "chat" (.approve letIn))
        (.bare 202) ∧
      ((of .standard [] waiting).gateway.exchange.board.applyCommand "chat"
        (.approve letIn)).hubStats "chat" = some ⟨1, 1, 1⟩ := by
  have posts := Http.Request.posts_toPost (Or.inl rfl) "chat" letIn.toJson.text.toList
  refine ⟨?_, hubStats_letIn.2⟩
  exact (commands_faithful .standard [] waiting "chat").approves "r" 0 none _ _ letIn posts
    (by decide +kernel) (by decide +kernel)

/-- The decision once more, after so many blanks that no body has room for it. -/
def letInLong : List Char :=
  List.replicate Http.Service.bodyLimit ' ' ++ letIn.toJson.text.toList

theorem readText_letInLong : Approval.read.readText letInLong = .ok letIn := by
  have spelled := Json.isText_print letIn.toJson letIn.plain_toJson.integral
  have blank : Json.Gap (List.replicate Http.Service.bodyLimit ' ') := by
    intro character among
    rw [List.eq_of_mem_replicate among]
    rfl
  rw [letInLong, Json.Reader.readText_isText _ (spelled.prepend blank)]
  exact letIn.read_toJson letIn.plain_toJson.shallow

theorem bodyLimit_lt_letInLong : Http.Service.bodyLimit < (Text.Utf8.encode letInLong).length := by
  have some : 0 < letIn.toJson.text.toList.length := by decide +kernel
  have all : letInLong.length = Http.Service.bodyLimit + letIn.toJson.text.toList.length := by
    rw [letInLong, List.length_append, List.length_replicate]
  have longer := Text.Utf8.length_le_length_encode letInLong
  omega

/-- The same decision does more as a command than it does in a post. -/
theorem long_post_refused : ¬ ∀ (settings : Settings) (origins : List String)
    (steps : List Gateway.Step) (requestId : String) (uptime : Nat) (peer : Option SocketAddress)
    (request : Http.Request) (hub : String) (text : List Char) (approval : Approval),
      request.received.Posts .approvals hub text → Approval.read.readText text = .ok approval →
        ((of settings origins steps).take
            (.connect requestId uptime peer request)).gateway.exchange.board =
          (of settings origins steps).gateway.exchange.board.applyCommand hub
            (.approve approval) := by
  intro alike
  have posts := Http.Request.posts_toPost (Or.inl rfl) "chat" letInLong
  have applied := alike .standard [] waiting "r" 0 none _ "chat" letInLong letIn posts
    readText_letInLong
  have refused := Http.Service.handle_of_long (Or.inl posts) bodyLimit_lt_letInLong
    (of .standard [] waiting).gateway.exchange ⟨"r", 0⟩
  have fresh := told_of_missing .standard [] waiting (Nat.le_refl _)
  rw [(answered_of_handle fresh refused none).exchange] at applied
  obtain ⟨before, after⟩ := hubStats_letIn
  have same := before.symm.trans ((congrArg (·.hubStats "chat") applied).trans after)
  exact absurd same (by decide)

end Journal

end HubRelay
