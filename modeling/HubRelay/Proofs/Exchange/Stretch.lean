import HubRelay.Proofs.Exchange.Course

/-!
Contract: what is done at a stretch is done one action after the other.

Owns: the actions that somebody has to take who holds a relay, and those that go on without; and
that settling, the passing of time and waiting for a handshake are made of the latter, so that they
are parts of courses.

Does not own: what holds along courses.

A relay that settles takes steps until there is nothing to do.  The induction is on the fuel that
bounds the steps, and the relay is found running again after each step that does not stop it.
-/

namespace HubRelay

/-- Whether a relay goes on by itself in an action.  The others take somebody who holds the
relay. -/
def RelayAction.isOwn : RelayAction → Bool
  | .settle | .step _ | .finish => true
  | .await | .run _ _ _ | .feed _ | .endSource | .drop => false

/-- Whether an action is a request, or a relay goes on by itself. -/
def Action.isOwn : Action → Bool
  | .request _ => true
  | .relay _ action => action.isOwn
  | .release _ | .openRelay _ _ => false

namespace Exchange

/-- An exchange gets to another one by some requests, and by relays that go on by themselves. -/
def Reaches (exchange later : Exchange) : Prop :=
  ∃ actions : List Action, (∀ action ∈ actions, action.isOwn = true) ∧
    actions.foldl perform exchange = later

namespace Reaches

variable {first second third : Exchange}

theorem refl (exchange : Exchange) : exchange.Reaches exchange :=
  ⟨[], fun _ among => absurd among List.not_mem_nil, rfl⟩

theorem trans (one : first.Reaches second) (two : second.Reaches third) : first.Reaches third := by
  obtain ⟨actions, own, rfl⟩ := one
  obtain ⟨more, ownMore, rfl⟩ := two
  refine ⟨actions ++ more, fun action among => ?_, List.foldl_append⟩
  exact (List.mem_append.1 among).elim (own action) (ownMore action)

theorem perform (exchange : Exchange) (action : Action) (own : action.isOwn = true) :
    exchange.Reaches (exchange.perform action) :=
  ⟨[action], fun _ among => List.mem_singleton.1 among ▸ own, rfl⟩

theorem foldl {α : Type} {change : Exchange → α → Exchange}
    (each : ∀ (exchange : Exchange) (item : α), exchange.Reaches (change exchange item))
    (items : List α) (exchange : Exchange) : exchange.Reaches (items.foldl change exchange) := by
  induction items generalizing exchange with
  | nil => exact refl exchange
  | cons item items inductionHypothesis =>
    exact (each exchange item).trans (inductionHypothesis (change exchange item))

end Reaches

variable {exchange : Exchange} {key : RelayKey} {connection : Connection} {loop : Loop}

theorem goOn_goOn (exchange : Exchange) (key : RelayKey)
    (first second : Switchboard × Loop.Outcome) :
    (exchange.goOn key first).goOn key second = exchange.goOn key second := by
  simp only [goOn, setPhase, List.modify_modify_eq]
  rfl

theorem goOn_self (found : exchange.relay? key = some ⟨connection, .running loop⟩) :
    exchange.goOn key (exchange.board, .running loop) = exchange :=
  setPhase_self found

theorem relay?_goOn_running (found : exchange.relay? key = some ⟨connection, .running loop⟩)
    (board : Switchboard) (later : Loop) :
    (exchange.goOn key (board, .running later)).relay? key =
      some ⟨connection, .running later⟩ :=
  getElem?_modify_of_some _ found

theorem reaches_step {branch : Loop.Branch} {result : Switchboard × Loop.Outcome}
    (found : exchange.relay? key = some ⟨connection, .running loop⟩)
    (stepped : Loop.step exchange.board connection loop branch = some result) :
    exchange.Reaches (exchange.goOn key result) := by
  have acts : exchange.perform (.relay key (.step branch)) = exchange.goOn key result := by
    simp only [perform, performRelay, stepRelay, found, stepped]
  exact acts ▸ Reaches.perform exchange _ rfl

theorem branch_of_next {board : Switchboard} {result : Switchboard × Loop.Outcome}
    (next : (Loop.stepStop board connection loop).or ((Loop.stepOutbound board connection loop).or
      (Loop.stepInbound board connection loop)) = some result) :
    ∃ branch, Loop.step board connection loop branch = some result := by
  rcases Option.or_eq_some_iff.1 next with stops | ⟨-, rest⟩
  · exact ⟨.stop, stops⟩
  · rcases Option.or_eq_some_iff.1 rest with writes | ⟨-, reads⟩
    · exact ⟨.outbound, writes⟩
    · exact ⟨.inbound, reads⟩

/-- The steps of a relay that settles are actions. -/
theorem reaches_goOn_settle (fuel : Nat) {exchange : Exchange} {loop : Loop}
    (found : exchange.relay? key = some ⟨connection, .running loop⟩) :
    exchange.Reaches (exchange.goOn key
      (Loop.settle fuel exchange.board connection loop)) := by
  induction fuel generalizing exchange loop with
  | zero => exact (goOn_self found).symm ▸ Reaches.refl exchange
  | succ fuel inductionHypothesis =>
    rw [Loop.settle]
    split
    · exact (goOn_self found).symm ▸ Reaches.refl exchange
    · next board later next =>
      obtain ⟨branch, stepped⟩ := branch_of_next next
      have rest := inductionHypothesis (relay?_goOn_running found board later)
      rw [goOn_goOn] at rest
      exact (reaches_step found stepped).trans rest
    · next board result sink next =>
      obtain ⟨branch, stepped⟩ := branch_of_next next
      exact reaches_step found stepped

theorem reaches_settleRelay (exchange : Exchange) (key : RelayKey) :
    exchange.Reaches (exchange.settleRelay key) := by
  unfold settleRelay
  split
  · next connection loop found =>
    exact (reaches_goOn_settle _ found).trans (Reaches.perform _ (.relay key .finish) rfl)
  · exact .refl exchange

/-- Letting everything run is made of actions. -/
theorem reaches_settle (exchange : Exchange) : exchange.Reaches exchange.settle := by
  have handshakes := Reaches.foldl (fun exchange key =>
    Reaches.perform exchange (.request (.lookAfter key)) rfl)
    (List.range exchange.board.clients.length) exchange
  have awaiting := Reaches.foldl fun exchange key =>
    Reaches.perform exchange (.relay key .settle) rfl
  have running := Reaches.foldl reaches_settleRelay
  exact handshakes.trans ((awaiting _ _).trans (running _ _))

theorem reaches_advance (exchange : Exchange) (milliseconds : Nat) :
    exchange.Reaches (exchange.advance milliseconds) :=
  (Reaches.perform exchange (.request (.pass milliseconds)) rfl).trans (reaches_settle _)

theorem reaches_waitFor (exchange : Exchange) (key : ClientKey) :
    exchange.Reaches (exchange.waitFor key).2.2 := by
  have watching : exchange.Reaches (exchange.watch key).settle :=
    (Reaches.perform exchange (.request (.watch key)) rfl).trans (reaches_settle _)
  have unwatching (later : Exchange) : later.Reaches (later.unwatch key) :=
    Reaches.perform later (.request (.unwatch key)) rfl
  unfold waitFor
  simp only
  split
  · exact watching.trans (unwatching _)
  · exact watching.trans ((reaches_advance _ _).trans (unwatching _))

end Exchange

theorem Course.exchange_foldl_take (course : Course) (actions : List Action) :
    (actions.foldl take course).exchange = actions.foldl Exchange.perform course.exchange := by
  induction actions generalizing course with
  | nil => rfl
  | cons action actions inductionHypothesis => exact inductionHypothesis (course.take action)

/-- What is reached from the end of a course is at the end of a longer one. -/
theorem Course.of_reaches {settings : Settings} {actions : List Action} {later : Exchange}
    (reaches : (of settings actions).exchange.Reaches later) :
    ∃ more, (of settings (actions ++ more)).exchange = later := by
  obtain ⟨more, -, rfl⟩ := reaches
  refine ⟨more, ?_⟩
  rw [of, List.foldl_append]
  exact exchange_foldl_take _ more

end HubRelay
