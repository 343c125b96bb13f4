import HubRelay.Proofs.Exchange.Story

/-!
Contract: what backends get to hear about every connection.

Owns: that the events of a connection go to one backend, in the order of its story, and that nothing
is heard about a connection that was never opened.

Does not own: what clients get to see.

A queue only knows ids.  The ids of clients are distinct, and so are the clients of relays, so what
relays put in about one id is what one relay put in.
-/

namespace HubRelay

namespace Client

theorem connectionId_of_script {client : Client} {said : List Payload} {left : Bool} {event : Event}
    (told : event ∈ client.script said left) : event.connectionId = client.id := by
  rcases List.mem_cons.1 told with rfl | later
  · rfl
  · rcases List.mem_append.1 later with spoken | gone
    · obtain ⟨payload, -, rfl⟩ := List.mem_map.1 spoken
      rfl
    · split at gone
      · rw [List.mem_singleton.1 gone]
        rfl
      · exact absurd gone List.not_mem_nil

end Client

namespace Course

/-- What is heard about the client of a relay: one backend is asked, and then hears what the client
says and that it has left; and it hears more than the question only if the client was let in. -/
structure Heard (course : Course) (key : RelayKey) (relay : Relay) (client : Client)
    (said : List Payload) (left : Bool) : Prop where
  found : course.exchange.board.client? relay.connection.client = some client
  opened : course.Opened key relay.connection client
  own : course.relayed relay.connection.backend client.id = client.script said left
  elsewhere : ∀ backend ≠ relay.connection.backend, course.relayed backend client.id = []
  approved : said ≠ [] ∨ left = true → client.handshake.state.isApproved = true
  spoken : said <+: (course.conversation key).1

/-- What backends hear from relays: about the client of each relay that was opened, its story, and
about nobody else anything; and every queue gives out in order what it took in. -/
structure Streams (course : Course) : Prop where
  relays : ∀ {key relay}, course.exchange.relay? key = some relay →
    ∃ client said left, course.Heard key relay client said left
  strangers : ∀ {id}, (∀ {key relay client}, course.exchange.relay? key = some relay →
    course.exchange.board.client? relay.connection.client = some client → client.id ≠ id) →
      ∀ backend, course.relayed backend id = []
  order : ∀ backend, (course.accepted backend).map (·.2) =
    course.taken backend ++ course.exchange.board.waiting backend

variable {course : Course} {key : RelayKey} {relay : Relay} {client : Client}
  {said : List Payload} {left : Bool} {backend : BackendKey} {event : Event}

/-- What a relay puts into a queue is what the queue took in from it. -/
theorem made_eq (course : Course) (key : RelayKey) (backend : BackendKey) :
    course.made key backend =
      ((course.accepted backend).filter (·.1 == some key)).map (·.2) := by
  rw [accepted, made, List.filter_flatMap, List.map_flatMap]
  refine congrArg (List.flatMap · course.past) (funext fun moment => ?_)
  by_cases own : moment.author = some key
  · rw [if_pos own, List.filter_eq_self.2, List.map_map]
    · exact (List.map_id _).symm
    · intro row member
      obtain ⟨event, -, rfl⟩ := List.mem_map.1 member
      exact beq_iff_eq.2 own
  · rw [if_neg own, List.filter_eq_nil_iff.2]
    · rfl
    · intro row member
      obtain ⟨event, -, rfl⟩ := List.mem_map.1 member
      exact fun same => own (beq_iff_eq.1 same)

theorem mem_made (accepted : (some key, event) ∈ course.accepted backend) :
    event ∈ course.made key backend := by
  rw [made_eq]
  refine List.mem_map.2 ⟨(some key, event), List.mem_filter.2 ⟨accepted, ?_⟩, rfl⟩
  exact beq_self_eq_true _

/-- What a queue takes in from a relay is about the client of that relay. -/
theorem author_of_accepted {settings : Settings} {actions : List Action}
    (accepted : (some key, event) ∈ (of settings actions).accepted backend) :
    ∃ relay client, (of settings actions).exchange.relay? key = some relay ∧
      (of settings actions).exchange.board.client? relay.connection.client = some client ∧
      event.connectionId = client.id := by
  have made := mem_made accepted
  cases present : (of settings actions).exchange.relay? key with
  | none =>
    rw [(fresh_of settings actions).made present] at made
    contradiction
  | some relay =>
    obtain ⟨client, said, left, story⟩ := story_of settings actions present
    refine ⟨relay, client, rfl, story.found, ?_⟩
    by_cases here : backend = relay.connection.backend
    · rw [here, story.made] at made
      exact Client.connectionId_of_script made
    · rw [story.elsewhere backend here] at made
      contradiction

theorem relayed_eq_made {settings : Settings} {actions : List Action}
    (present : (of settings actions).exchange.relay? key = some relay)
    (found : (of settings actions).exchange.board.client? relay.connection.client = some client)
    (backend : BackendKey) : (of settings actions).relayed backend client.id =
      (of settings actions).made key backend := by
  have orderly := orderly_of settings actions
  rw [made_eq, relayed]
  refine congrArg _ (List.filter_congr fun (author, event) accepted => ?_)
  cases author with
  | none => rfl
  | some other =>
    obtain ⟨otherRelay, otherClient, presentOther, foundOther, about⟩ := author_of_accepted accepted
    by_cases same : other = key
    · subst same
      obtain rfl : otherRelay = relay := Option.some.inj (presentOther.symm.trans present)
      obtain rfl : otherClient = client := Option.some.inj (foundOther.symm.trans found)
      simp [about]
    · have different : event.connectionId ≠ client.id := by
        intro agree
        have clients := orderly.sound.client_of_id found foundOther (about.symm.trans agree)
        exact same (orderly.exclusive.distinct present presentOther clients)
      show (true && event.connectionId == client.id) = (some other == some key)
      rw [beq_eq_false_iff_ne.2 different,
        beq_eq_false_iff_ne.2 fun agree => same (Option.some.inj agree)]
      rfl

theorem Story.approved (story : course.Story key relay client said left)
    (more : said ≠ [] ∨ left = true) : client.handshake.state.isApproved = true := by
  rcases more with spoke | gone
  · exact story.stands.approved spoke
  · have ended := story.gone gone
    have stands := story.stands
    cases phase : relay.phase with
    | ended result sink =>
      rw [phase] at stands
      exact Stopped.approved stands
    | _ =>
      rw [phase] at ended
      contradiction

/-- Along every course, backends hear from relays what they should, and in order. -/
theorem streams_inOrder (settings : Settings) (actions : List Action) :
    (of settings actions).Streams where
  relays := by
    intro key relay present
    obtain ⟨client, said, left, story⟩ := story_of settings actions present
    refine ⟨client, said, left, story.found, story.opened, ?_, fun backend far => ?_,
      story.approved, story.stands.told⟩
    · rw [relayed_eq_made present story.found, story.made]
    · rw [relayed_eq_made present story.found, story.elsewhere backend far]
  strangers := by
    intro id stranger backend
    rw [relayed, List.filter_eq_nil_iff.2]
    · rfl
    · intro (author, event) accepted about
      cases author with
      | none => contradiction
      | some key =>
        obtain ⟨relay, client, present, found, same⟩ := author_of_accepted accepted
        refine stranger present found (same.symm.trans ?_)
        simpa using about
  order := accepted_eq settings actions

end Course

end HubRelay
