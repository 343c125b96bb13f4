import HubRelay.Proofs.Exchange.Admission

/-!
Contract: the life of hubs along every course.

Owns: that a hub is there exactly as long as somebody has a registration or a client in it, unless a
registration broke off in it; that its counts are the numbers of these, and that it starts afresh
when it comes again.

Does not own: the books that this rests on, and which settings let registrations break off.
-/

namespace HubRelay

namespace Course

/-- Somebody has a registration in a hub, or holds a client of it. -/
def Peopled (course : Course) (hub : String) : Prop :=
  (∃ key ∈ course.registrations, course.exchange.board.backendIn hub key = true) ∨
    ∃ key ∈ course.holdings.clients, course.exchange.board.clientIn hub key = true

/-- What is known of hubs after a course, from who holds what. -/
structure HubsAccounted (course : Course) : Prop where
  /-- The names of hubs ascend strictly. -/
  ascending : course.exchange.board.hubNames.Pairwise (· < ·)
  /-- Nobody is counted twice, and whoever is counted is there. -/
  registrationsOnce : course.registrations.Nodup
  clientsOnce : course.holdings.clients.Nodup
  registrationsFound : ∀ key ∈ course.registrations,
    ∃ backend, course.exchange.board.backend? key = some backend
  clientsFound : ∀ key ∈ course.holdings.clients,
    ∃ client, course.exchange.board.client? key = some client
  /-- A hub is named while somebody has a registration or a client in it, and from when a
  registration broke off in it. -/
  named : ∀ hub, hub ∈ course.exchange.board.hubNames ↔
    course.Peopled hub ∨ hub ∈ course.stranded
  /-- No registration breaks off if the settings allow for backends, and if they do not nobody is
  ever in any hub. -/
  admitted : course.exchange.board.settings.Admits → course.stranded = []
  deserted : ¬ course.exchange.board.settings.Admits → ∀ hub, ¬ course.Peopled hub
  /-- Nothing is counted in any other hub. -/
  absent : ∀ hub, hub ∉ course.exchange.board.hubNames → course.exchange.board.hubStats hub = none
  counted : ∀ hub ∈ course.exchange.board.hubNames, course.exchange.board.hubStats hub = some
    { backends := course.registrations.countP (course.exchange.board.backendIn hub)
      clients := course.holdings.clients.countP (course.exchange.board.clientIn hub)
      approvedClients := course.holdings.clients.countP fun key =>
        course.exchange.board.clientIn hub key && course.exchange.board.isApproved key }
  /-- All counts together are those of each hub, in the order of the names. -/
  together : course.exchange.board.stats.map (·.1) = course.exchange.board.hubNames ∧
    ∀ hub stats, (hub, stats) ∈ course.exchange.board.stats ↔
      course.exchange.board.hubStats hub = some stats
  /-- Closing a backend once more changes nothing; dropping it after that is dropping it, and
  changes nothing more but what waits for it. -/
  closedOnce : ∀ key, let closed := course.exchange.board.closeBackend key
    closed.closeBackend key = closed ∧
      closed.dropBackend key = course.exchange.board.dropBackend key ∧
      (closed.dropBackend key).closeBackend key = closed.dropBackend key ∧
      (closed.dropBackend key).hubNames = closed.hubNames ∧
      (closed.dropBackend key).stats = closed.stats ∧
      (∀ hub, (closed.dropBackend key).hubStats hub = closed.hubStats hub) ∧
      Switchboard.SameBooks closed (closed.dropBackend key)
  /-- In a hub that nobody had, a backend that is admitted finds a registry that there was not, and
  nobody else in it, and is the first to be picked. -/
  fresh : ∀ hub identity events, hub ∉ course.exchange.board.hubNames →
    course.exchange.board.settings.Admits →
    let registered := course.exchange.board.tryRegister hub identity events
    registered.2.hubStats hub = some ⟨1, 0, 0⟩ ∧
      ∃ key backend, registered.1 = some backend ∧
        course.exchange.board.registryOf? key = none ∧ registered.2.hub? hub = some key ∧
        registered.2.registryOf? key = some
          { Registry.start hub course.exchange.board.settings.selection
              course.exchange.board.settings.queueCapacity
              course.exchange.board.settings.handshakeTimeout with
            backends := [backend] }
  /-- A backend that is not admitted leaves the hub open, and nobody in it. -/
  brokenOff : ∀ hub identity events, hub ∉ course.exchange.board.hubNames →
    ¬ course.exchange.board.settings.Admits →
    let registered := course.exchange.board.tryRegister hub identity events
    registered.1 = none ∧ registered.2.hubStats hub = some ⟨0, 0, 0⟩

variable {course : Course}

/-- The clients that are held are those of which the books know that they are held. -/
theorem Orderly.clients_perm (orderly : course.Orderly) :
    course.holdings.clients.Perm
      (indices course.exchange.board.clients fun key _ => course.holdings.holds key) := by
  refine (List.perm_ext_iff_of_nodup orderly.exclusive.nodup_clients (nodup_indices _ _)).2 ?_
  intro key
  rw [← List.contains_iff_mem, mem_indices]
  constructor
  · intro held
    have within : key < course.exchange.board.clients.length := orderly.exclusive.lt_of_holds held
    exact ⟨_, List.getElem?_eq_getElem within, held⟩
  · rintro ⟨-, -, held⟩
    exact held

theorem Orderly.not_peopled (orderly : course.Orderly)
    (barren : course.exchange.board.Barren) (hub : String) : ¬ course.Peopled hub := by
  rintro (⟨key, among, -⟩ | ⟨key, -, inHub⟩)
  · rw [orderly.registered, barren.backends] at among
    cases among
  · rw [Switchboard.clientIn, barren.client? key] at inHub
    contradiction

variable (settings : Settings) (actions : List Action)

theorem named_iff (hub : String) : hub ∈ (of settings actions).exchange.board.hubNames ↔
    (of settings actions).Peopled hub ∨ hub ∈ (of settings actions).stranded := by
  have orderly := orderly_of settings actions
  by_cases admits : settings.Admits
  · rw [stranded_of_admits actions admits, or_iff_left List.not_mem_nil,
      orderly.sound.mem_hubNames_iff
        (fun found => (admits_registry_iff settings actions found).2 admits) hub,
      Peopled, orderly.registered]
    simp only [orderly.clients_perm.mem_iff]
  · have deserted := deserted_of_not_admits actions admits
    rw [deserted.named hub, or_iff_right (orderly.not_peopled deserted.barren hub)]

/-- Along every course a hub is there exactly as long as somebody has a registration or a client in
it, or from when a registration broke off in it; its counts are the numbers of these, closing is
done once, and a hub that comes again starts afresh. -/
theorem hubs_accounted : (of settings actions).HubsAccounted where
  ascending := (of settings actions).exchange.board.hubs.ascending_names
  registrationsOnce := by
    rw [(orderly_of settings actions).registered]
    exact nodup_indices _ _
  clientsOnce := (orderly_of settings actions).exclusive.nodup_clients
  registrationsFound := by
    intro key member
    rw [(orderly_of settings actions).registered] at member
    obtain ⟨backend, found, -⟩ := mem_indices.1 member
    exact ⟨backend, found⟩
  clientsFound := by
    intro key member
    obtain ⟨client, found, -⟩ := mem_indices.1
      ((orderly_of settings actions).clients_perm.mem_iff.1 member)
    exact ⟨client, found⟩
  named := named_iff settings actions
  admitted := by
    rw [settings_of]
    exact stranded_of_admits actions
  deserted := by
    rw [settings_of]
    intro refuses
    exact (orderly_of settings actions).not_peopled (deserted_of_not_admits actions refuses).barren
  absent := by
    intro hub notNamed
    rw [Switchboard.hubStats, Switchboard.hub?_of_absent notNamed]
    rfl
  counted := by
    intro hub named
    have orderly := orderly_of settings actions
    rw [orderly.sound.hubStats_of_mem named, orderly.registered]
    simp only [orderly.clients_perm.countP_eq]
  together := ⟨(orderly_of settings actions).sound.names_stats, Switchboard.mem_stats_iff _⟩
  closedOnce := by
    intro key closed
    refine ⟨Switchboard.closeBackend_closeBackend _ key,
      Switchboard.dropBackend_closeBackend _ key, Switchboard.closeBackend_dropBackend _ key, ?_⟩
    have dropped : closed.dropBackend key = { closed with
        backends := (closed.dropBackend key).backends } := by
      rw [Switchboard.dropBackend, Switchboard.closeBackend_closeBackend]
      rfl
    have books := Switchboard.sameBooks_dropBackend closed key
    rw [Switchboard.closeBackend_closeBackend] at books
    refine ⟨(congrArg Switchboard.hubNames dropped).trans rfl, ?_, fun hub => ?_, books⟩
    · exact (congrArg Switchboard.stats dropped).trans rfl
    · exact (congrArg (Switchboard.hubStats · hub) dropped).trans rfl
  fresh := by
    intro hub identity events notNamed admits registered
    obtain ⟨key, mapped, found⟩ := Switchboard.tryRegister_of_absent notNamed admits identity events
    refine ⟨?_, _, _, key, List.getElem?_eq_none (Nat.le_refl _), mapped, found⟩
    rw [Switchboard.hubStats, show registered.2.hub? hub = _ from mapped, Option.bind_some,
      show registered.2.registryOf? _ = _ from found]
    rfl
  brokenOff := by
    intro hub identity events notNamed refuses registered
    obtain ⟨nobody, mapped, found⟩ :=
      Switchboard.tryRegister_of_absent_of_not_admits notNamed refuses identity events
    refine ⟨nobody, ?_⟩
    rw [Switchboard.hubStats, show registered.2.hub? hub = _ from mapped, Option.bind_some,
      show registered.2.registryOf? _ = _ from found]
    rfl

/-- A registration that breaks off leaves its hub named though nobody is in it. -/
theorem stranded_hub_named : ¬ ∀ (settings : Settings) (actions : List Action) (hub : String),
    hub ∈ (of settings actions).exchange.board.hubNames ↔ (of settings actions).Peopled hub := by
  intro always
  let registering : List Action := [.request (.register "chat" "bot" [connectEvent])]
  have refuses : ¬ Settings.oversized.Admits := by decide
  have barren := (deserted_of_not_admits registering refuses).barren
  exact (orderly_of .oversized registering).not_peopled barren "chat"
    ((always .oversized registering "chat").1 (by decide))

end Course

end HubRelay
