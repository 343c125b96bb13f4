import HubRelay.Proofs.Isolation.Actions
import HubRelay.Proofs.Exchange.Bookkeeping

/-!
Contract: a hub does not notice the others.

Owns: what is left of a course when all that is about other hubs is taken out, the numbers that
everything gets then, and that a hub goes through the same with and without the others.

Does not own: what is the same about single actions.

The numbers are given once, for the whole course, and fit all of its beginnings.  Serial numbers of
ids are not kept with the hub that they were given to, so they are told from the moments at which
they were given out.
-/

namespace HubRelay

open Switchboard

variable {settings : Settings} {actions earlier : List Action} {action : Action} {hub : String}
  {numbers : Renumbering}

namespace Moment

/-- Whether a moment is left when all that is about other hubs is taken out. -/
def isFor (hub : String) (moment : Moment) : Bool :=
  moment.action.isFor moment.before hub

/-- What is answered at a moment. -/
def reply (moment : Moment) : Reply :=
  moment.before.reply moment.action

/-- For each id that is given out at a moment, whether the hub is given it. -/
def grants (hub : String) (moment : Moment) : List Bool :=
  let all := moment.after.board.issued - moment.before.board.issued
  let own := moment.after.board.issuedIn hub - moment.before.board.issuedIn hub
  List.replicate own true ++ List.replicate (all - own) false

end Moment

namespace Course

/-- For each id that was given out, whether the hub was given it. -/
def grants (course : Course) (hub : String) : List Bool :=
  course.past.flatMap (Moment.grants hub)

/-- The actions that are left when all that is about other hubs is taken out, under other
numbers. -/
def remaining (course : Course) (hub : String) (numbers : Renumbering) : List Action :=
  (course.past.filter (·.isFor hub)).map (·.action.renumbered numbers)

/-- The numbers that the things of a hub get where there is nothing else. -/
def numbersIn (course : Course) (hub : String) : Renumbering where
  serial := ⟨_, placeAmong_injective (course.grants hub) id⟩
  registry := ⟨_, placeAmong_injective course.exchange.board.registries (·.hub == hub)⟩
  backend := ⟨_, placeAmong_injective course.exchange.board.backends (·.hub == hub)⟩
  client := ⟨_, placeAmong_injective course.exchange.board.clients (·.hub == hub)⟩
  relay := ⟨_, placeAmong_injective course.exchange.relays (course.exchange.hasRelay hub)⟩

/-! ## Things get numbers that fit -/

theorem tidy_of (settings : Settings) (actions : List Action) :
    (of settings actions).exchange.Tidy := by
  have board (actions : List Action) : (of settings actions).exchange.board.Tidy :=
    ⟨⟨_, (orderly_of settings actions).sound⟩, homed_of settings actions⟩
  refine induction (motive := fun course => course.exchange.Tidy) settings
    ⟨board [], List.forall_mem_nil _⟩ (fun earlier action tidy => ?_) actions
  have last := board (earlier ++ [action])
  rw [of_concat] at last
  exact tidy.perform last

/-- Numbers that fit the end of a course fit all of its beginnings. -/
theorem placed_of_prefix (begins : earlier <+: actions)
    (placed : (of settings actions).exchange.Placed hub numbers) :
    (of settings earlier).exchange.Placed hub numbers := by
  obtain ⟨rest, rfl⟩ := begins
  induction rest using List.reverseRecOn with
  | nil => rwa [List.append_nil] at placed
  | append_singleton more action inductionHypothesis =>
    rw [← List.append_assoc, of_concat] at placed
    exact inductionHypothesis (placed.of_perform (tidy_of settings (earlier ++ more)))

theorem placed_numbersIn (settings : Settings) (actions : List Action) (hub : String) :
    (of settings actions).exchange.Placed hub ((of settings actions).numbersIn hub) :=
  ⟨⟨fits_placeAmong _ _, fits_placeAmong _ _, fits_placeAmong _ _⟩, fits_placeAmong _ _⟩

end Course

/-! ## Ids get numbers that fit -/

/-- Of the ids that are given out, so many are given to a hub. -/
theorem Switchboard.Lasting.issuedIn {first second : Switchboard} (lasting : Lasting first second)
    (hub : String) : ∃ own others, second.issuedIn hub = first.issuedIn hub + own ∧
      second.issued = first.issued + own + others := by
  obtain ⟨moreBackends, backends, -⟩ := lasting.backends
  obtain ⟨moreClients, clients, -⟩ := lasting.clients
  have issued := lasting.issued
  have backendCount : second.backends.countP (·.hub == hub) =
      first.backends.countP (·.hub == hub) + moreBackends.countP (·.hub == hub) := by
    have counted := congrArg (List.countP (·.hub == hub)) backends
    rwa [List.countP_append, List.countP_map, List.countP_map] at counted
  have clientCount : second.clients.countP (·.hub == hub) =
      first.clients.countP (·.hub == hub) + moreClients.countP (·.hub == hub) := by
    have counted := congrArg (List.countP (·.hub == hub)) clients
    rwa [List.countP_append, List.countP_map, List.countP_map] at counted
  have backendLength := congrArg List.length backends
  have clientLength := congrArg List.length clients
  rw [List.length_append, List.length_map, List.length_map] at backendLength clientLength
  have fewerBackends : moreBackends.countP (·.hub == hub) ≤ moreBackends.length :=
    List.countP_le_length
  have fewerClients : moreClients.countP (·.hub == hub) ≤ moreClients.length :=
    List.countP_le_length
  refine ⟨moreBackends.countP (·.hub == hub) + moreClients.countP (·.hub == hub),
    moreBackends.length - moreBackends.countP (·.hub == hub) +
      (moreClients.length - moreClients.countP (·.hub == hub)), ?_, ?_⟩
  · rw [Switchboard.issuedIn, Switchboard.issuedIn, backendCount, clientCount]
    omega
  · omega

namespace Moment

variable (moment : Moment) (hub : String)

/-- Every id that is given out is counted, and those of the hub are marked. -/
theorem grants_count :
    moment.before.board.issued + (moment.grants hub).length = moment.after.board.issued ∧
      moment.before.board.issuedIn hub + (moment.grants hub).countP id =
        moment.after.board.issuedIn hub := by
  obtain ⟨own, others, ownCount, allCount⟩ :=
    (moment.before.lasting_perform moment.action).issuedIn hub
  rw [grants, after, ownCount, allCount]
  constructor
  · simp only [List.length_append, List.length_replicate]
    omega
  · simp only [List.countP_append, List.countP_replicate, id_eq, if_true, Bool.false_eq_true,
      if_false]
    omega

/-- If the hub is given an id then it is given the first. -/
theorem grants_first
    (grows : moment.before.board.issuedIn hub < moment.after.board.issuedIn hub) :
    ∃ rest, moment.grants hub = true :: rest := by
  obtain ⟨own, positive⟩ := Nat.exists_eq_add_of_lt grows
  have many : moment.after.board.issuedIn hub - moment.before.board.issuedIn hub = own + 1 := by
    omega
  rw [grants, many, List.replicate_succ]
  exact ⟨_, rfl⟩

end Moment

namespace Course

theorem grants_concat (settings : Settings) (earlier : List Action) (action : Action)
    (hub : String) : (of settings (earlier ++ [action])).grants hub =
      (of settings earlier).grants hub ++
        Moment.grants hub ⟨(of settings earlier).exchange, action⟩ := by
  rw [of_concat, grants, take, List.flatMap_append, List.flatMap_singleton]
  rfl

/-- All ids that were given out are counted, and those of the hub are marked. -/
theorem grants_count (settings : Settings) (actions : List Action) (hub : String) :
    ((of settings actions).grants hub).length = (of settings actions).exchange.board.issued ∧
      ((of settings actions).grants hub).countP id =
        (of settings actions).exchange.board.issuedIn hub := by
  induction actions using List.reverseRecOn with
  | nil => exact ⟨rfl, rfl⟩
  | append_singleton earlier action inductionHypothesis =>
    obtain ⟨all, own⟩ := inductionHypothesis
    obtain ⟨allThen, ownThen⟩ := Moment.grants_count ⟨(of settings earlier).exchange, action⟩ hub
    rw [grants_concat, List.length_append, List.countP_append, all, own, of_concat]
    exact ⟨allThen, ownThen⟩

theorem grants_prefix (settings : Settings) (begins : earlier <+: actions) (hub : String) :
    (of settings earlier).grants hub <+: (of settings actions).grants hub := by
  obtain ⟨rest, rfl⟩ := begins
  induction rest using List.reverseRecOn with
  | nil => simp only [List.append_nil, List.prefix_rfl]
  | append_singleton more action inductionHypothesis =>
    rw [← List.append_assoc, grants_concat]
    exact inductionHypothesis.trans (List.prefix_append _ _)

/-- An id that the hub is given gets the number that it is given where there is nothing else. -/
theorem named_of (begins : earlier ++ [action] <+: actions) :
    Named (of settings earlier).exchange.board
      ((of settings earlier).exchange.perform action).board hub
      ((of settings actions).numbersIn hub) := by
  intro grows
  obtain ⟨given, first⟩ := Moment.grants_first ⟨(of settings earlier).exchange, action⟩ hub grows
  obtain ⟨more, whole⟩ := grants_prefix settings begins hub
  rw [grants_concat, first, List.append_assoc] at whole
  obtain ⟨all, own⟩ := grants_count settings earlier hub
  have fits := fits_placeAmong ((of settings actions).grants hub) id
  rw [← whole] at fits
  have place : ((of settings actions).numbersIn hub).serial
      ((of settings earlier).exchange.board.issued) =
        (of settings earlier).exchange.board.issuedIn hub := by
    show placeAmong ((of settings actions).grants hub) id _ = _
    rw [← all, ← whole, fits _ true (List.getElem?_append_right (Nat.le_refl _) ▸ by simp) rfl,
      rank_append (Nat.le_refl _), rank_length, ← List.countP_eq_length_filter, own]
  exact (Renumbering.name_ofSerial _ _).trans (congrArg Identifier.ofSerial place)

end Course

/-! ## One thing more happens -/

namespace Course

variable {course : Course}

theorem past_take_own (own : action.isFor course.exchange hub = true) :
    (course.take action).past.filter (·.isFor hub) =
      course.past.filter (·.isFor hub) ++ [⟨course.exchange, action⟩] := by
  have stays : Moment.isFor hub ⟨course.exchange, action⟩ = true := own
  rw [take, List.filter_append, List.filter_cons_of_pos stays]
  rfl

theorem past_take_other (other : action.isFor course.exchange hub = false) :
    (course.take action).past.filter (·.isFor hub) = course.past.filter (·.isFor hub) := by
  have goes : ¬ Moment.isFor hub ⟨course.exchange, action⟩ = true := Bool.eq_false_iff.1 other
  rw [take, List.filter_append, List.filter_cons_of_neg goes]
  exact List.append_nil _

theorem remaining_take_own (numbers : Renumbering)
    (own : action.isFor course.exchange hub = true) :
    (course.take action).remaining hub numbers =
      course.remaining hub numbers ++ [action.renumbered numbers] := by
  rw [remaining, past_take_own own, List.map_append]
  rfl

theorem remaining_take_other (numbers : Renumbering)
    (other : action.isFor course.exchange hub = false) :
    (course.take action).remaining hub numbers = course.remaining hub numbers := by
  rw [remaining, past_take_other other, remaining]

end Course

/-! ## A hub goes through the same -/

/-- What a hub goes through among others, and where there is nothing else: it comes to the same
state, everything that is asked for is answered the same, and in between nothing shows. -/
structure Isolated (whole alone : Course) (hub : String) (numbers : Renumbering) : Prop where
  exchange : alone.exchange = whole.exchange.within hub numbers
  replies : alone.past.map Moment.reply =
    (whole.past.filter (·.isFor hub)).map (·.reply.renumbered numbers)
  stats : alone.exchange.board.hubStats hub = whole.exchange.board.hubStats hub
  others : ∀ moment ∈ whole.past, moment.isFor hub = false →
    moment.after.within hub numbers = moment.before.within hub numbers

namespace Isolated

variable {whole alone : Course}

/-- The hub has the same statistics where there is nothing else. -/
theorem stats_of (same : alone.exchange = whole.exchange.within hub numbers)
    (tidy : whole.exchange.Tidy) (placed : whole.exchange.Placed hub numbers) :
    alone.exchange.board.hubStats hub = whole.exchange.board.hubStats hub := by
  rw [same]
  exact placed.board.hubStats tidy.board.zoned

/-- What happens for others is left out. -/
theorem take_other (isolated : Isolated whole alone hub numbers) (tidy : whole.exchange.Tidy)
    (tidyThen : (whole.take action).exchange.Tidy)
    (placed : (whole.take action).exchange.Placed hub numbers)
    (other : action.isFor whole.exchange hub = false) :
    Isolated (whole.take action) alone hub numbers := by
  have unseen : (whole.take action).exchange.within hub numbers =
      whole.exchange.within hub numbers :=
    Exchange.within_perform_of_other tidy other
  have same : alone.exchange = (whole.take action).exchange.within hub numbers :=
    isolated.exchange.trans unseen.symm
  refine ⟨same, (Course.past_take_other other).symm ▸ isolated.replies,
    stats_of same tidyThen placed, ?_⟩
  · intro later among elsewhere
    rcases List.mem_append.1 among with before | last
    · exact isolated.others later before elsewhere
    · rw [List.mem_singleton.1 last]
      exact unseen

/-- What happens for the hub comes to the same where there is nothing else. -/
theorem take_own (isolated : Isolated whole alone hub numbers) (tidy : whole.exchange.Tidy)
    (tidyThen : (whole.take action).exchange.Tidy)
    (placed : (whole.take action).exchange.Placed hub numbers)
    (named : Named whole.exchange.board (whole.exchange.perform action).board hub numbers)
    (own : action.isFor whole.exchange hub = true) :
    Isolated (whole.take action) (alone.take (action.renumbered numbers)) hub numbers := by
  obtain ⟨answered, after⟩ := placed.perform tidy named own
  rw [← isolated.exchange] at answered after
  refine ⟨after, ?_, stats_of after tidyThen placed, ?_⟩
  · rw [Course.past_take_own own, List.map_append, ← isolated.replies, Course.take, List.map_append]
    exact congrArg (_ ++ [·]) answered
  · intro later among elsewhere
    rcases List.mem_append.1 among with before | last
    · exact isolated.others later before elsewhere
    · rw [List.mem_singleton.1 last] at elsewhere
      exact absurd own (Bool.eq_false_iff.1 elsewhere)

end Isolated

namespace Course

/-- A hub goes through the same with and without the others.

Take any course, and take all actions out of it that are about other hubs; the passing of time and
the shutdown, which are about all hubs, stay.  Then there are other numbers for ids and for keys, no
two the same, under which what remains comes to the part of the whole that belongs to the hub, with
all of its backends, queues, clients and selections, and with the same answers to everything that
was asked for; and no action that was taken out changed that part. -/
theorem hubs_isolated (settings : Settings) (actions : List Action) (hub : String) :
    ∃ numbers : Renumbering, ∀ earlier, earlier <+: actions →
      Isolated (of settings earlier)
        (of settings ((of settings earlier).remaining hub numbers)) hub numbers := by
  let numbers := (of settings actions).numbersIn hub
  refine ⟨numbers, fun earlier begins => ?_⟩
  induction earlier using List.reverseRecOn with
  | nil => exact ⟨rfl, rfl, rfl, fun _ among => nomatch among⟩
  | append_singleton earlier action inductionHypothesis =>
    have isolated := inductionHypothesis ((List.prefix_append earlier [action]).trans begins)
    have tidy := tidy_of settings earlier
    have tidyThen := tidy_of settings (earlier ++ [action])
    have placed := placed_of_prefix begins (placed_numbersIn settings actions hub)
    rw [of_concat] at tidyThen placed ⊢
    cases shows : action.isFor (of settings earlier).exchange hub with
    | true =>
      rw [remaining_take_own numbers shows, of_concat]
      exact isolated.take_own tidy tidyThen placed (named_of begins) shows
    | false =>
      rw [remaining_take_other numbers shows]
      exact isolated.take_other tidy tidyThen placed shows

end Course

end HubRelay
