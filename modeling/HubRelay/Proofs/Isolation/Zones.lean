import HubRelay.Proofs.Exchange.Lasting

/-!
Contract: to which hub everything belongs.

Owns: the hubs of backends, clients and registries by their keys, that they never change, and that
whatever leads from one thing to another stays within a hub.

Does not own: what is done to a hub.
-/

namespace HubRelay

namespace Switchboard

/-- The hub of a backend. -/
def backendHub? (board : Switchboard) (key : BackendKey) : Option String :=
  (board.backend? key).map (·.hub)

/-- The hub of a client. -/
def clientHub? (board : Switchboard) (key : ClientKey) : Option String :=
  (board.client? key).map (·.hub)

/-- The hub of a registry. -/
def registryHub? (board : Switchboard) (key : RegistryKey) : Option String :=
  (board.registryOf? key).map (·.hub)

variable {board first second : Switchboard} {hub : String} {key : Nat}

theorem backendHub?_of_found {backend : Backend} (found : board.backend? key = some backend) :
    board.backendHub? key = some backend.hub := by
  rw [backendHub?, found, Option.map_some]

theorem clientHub?_of_found {client : Client} (found : board.client? key = some client) :
    board.clientHub? key = some client.hub := by
  rw [clientHub?, found, Option.map_some]

theorem registryHub?_of_found {registry : Registry}
    (found : board.registryOf? key = some registry) :
    board.registryHub? key = some registry.hub := by
  rw [registryHub?, found, Option.map_some]

/-! ## Hubs do not change -/

theorem Lasting.backendHub? (lasting : Lasting first second)
    (known : first.backendHub? key = some hub) : second.backendHub? key = some hub :=
  lasting.backends.view (fun one other same =>
    show one.hub = other.hub from congrArg (·.hub) same) known

theorem Lasting.clientHub? (lasting : Lasting first second)
    (known : first.clientHub? key = some hub) : second.clientHub? key = some hub :=
  lasting.clients.view (fun one other same =>
    show one.hub = other.hub from congrArg (·.hub) same) known

theorem Lasting.registryHub? (lasting : Lasting first second)
    (known : first.registryHub? key = some hub) : second.registryHub? key = some hub :=
  lasting.registries.view (fun one other same =>
    show one.hub = other.hub from congrArg (·.hub) same) known

/-! ## Nothing leads out of a hub -/

/-- Whatever leads from one thing to another stays within a hub. -/
structure Zoned (board : Switchboard) : Prop where
  mapped : ∀ {hub key}, board.hub? hub = some key → board.registryHub? key = some hub
  listedBackends : ∀ {key registry}, board.registryOf? key = some registry →
    ∀ listed ∈ registry.backends, board.backendHub? listed = some registry.hub
  listedClients : ∀ {key registry}, board.registryOf? key = some registry →
    ∀ listed ∈ registry.clients, board.clientHub? listed = some registry.hub
  backendHome : ∀ {key backend}, board.backend? key = some backend →
    board.registryHub? backend.registry = some backend.hub
  clientHome : ∀ {key client}, board.client? key = some client →
    board.registryHub? client.registry = some client.hub

/-- If the books are in order and everybody has a home, nothing leads out of a hub. -/
theorem zoned_of_sound {held : ClientKey → Bool} {spare : Option RegistryKey}
    (sound : Sound board held spare) (homed : Homed board) : Zoned board := by
  have hubOf {key : RegistryKey} {registry : Registry}
      (home : (board.registries.map Registry.asOpened)[key]? = some registry) :
      board.registryHub? key = some registry.hub := by
    rw [List.getElem?_map] at home
    obtain ⟨entry, found, same⟩ := Option.map_eq_some_iff.1 home
    rw [registryHub?_of_found found, ← same]
    rfl
  have backendHome {key : BackendKey} {backend : Backend}
      (found : board.backend? key = some backend) :
      board.registryHub? backend.registry = some backend.hub := by
    obtain ⟨registry, home, named, -⟩ := homed.backends _
      (List.mem_map_of_mem (List.mem_of_getElem? found))
    exact (hubOf home).trans (congrArg some named)
  have clientHome {key : ClientKey} {client : Client}
      (found : board.client? key = some client) :
      board.registryHub? client.registry = some client.hub := by
    obtain ⟨registry, home, named⟩ := homed.clients _
      (List.mem_map_of_mem (List.mem_of_getElem? found))
    exact (hubOf home).trans (congrArg some named)
  constructor
  case mapped =>
    intro hub key mapped
    obtain ⟨registry, found, named, -⟩ := sound.mapped mapped
    rw [registryHub?_of_found found, named]
  case listedBackends =>
    intro key registry found listed among
    rw [sound.backends found] at among
    obtain ⟨backend, here, isListed⟩ := mem_indices.1 among
    simp only [Backend.isListed, Bool.and_eq_true, beq_iff_eq] at isListed
    have home := backendHome here
    rw [isListed.2, registryHub?_of_found found] at home
    exact (backendHub?_of_found here).trans home.symm
  case listedClients =>
    intro key registry found listed among
    rw [sound.clients found] at among
    obtain ⟨client, here, isListed⟩ := mem_indices.1 among
    simp only [Client.isListed, Bool.and_eq_true, beq_iff_eq] at isListed
    have home := clientHome here
    rw [isListed.2, registryHub?_of_found found] at home
    exact (clientHub?_of_found here).trans home.symm
  case backendHome => exact backendHome
  case clientHome => exact clientHome

/-- The books are in order, and everybody has a home. -/
structure Tidy (board : Switchboard) : Prop where
  sound : ∃ held, Sound board held none
  homed : Homed board

theorem Tidy.zoned (tidy : Tidy board) : Zoned board := by
  obtain ⟨held, sound⟩ := tidy.sound
  exact zoned_of_sound sound tidy.homed

theorem Tidy.of_traffic {touched : Option ClientKey} (tidy : Tidy first)
    (traffic : Traffic touched first second) : Tidy second := by
  obtain ⟨held, sound⟩ := tidy.sound
  exact ⟨⟨held, sound.of_sameBooks traffic.books⟩,
    tidy.homed.of_lasting (lasting_of_traffic traffic)⟩

/-- After a client was routed the books are in order for whoever is given it. -/
theorem Tidy.of_route (tidy : Tidy first) {context : Context} {event : String}
    {route : BackendKey × ClientKey}
    (routed : first.route hub context event = (.ok route, second)) :
    Tidy second := by
  obtain ⟨held, sound⟩ := tidy.sound
  have lasting := lasting_route first hub context event
  rw [routed] at lasting
  exact ⟨⟨_, (sound.route_ok routed).2.2.2⟩, tidy.homed.of_lasting lasting⟩

end Switchboard

end HubRelay
