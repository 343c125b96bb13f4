import HubRelay.Proofs.Exchange.Course
import Mathlib.Logic.Embedding.Basic

/-!
Contract: keys and ids under other numbers.

Owns: renumberings, what they make of ids and of everything that holds keys or ids, and that queues
and selections do not look at them.

Does not own: which numbers are given to what.

Only ids that were given out are renumbered.  A text that is none stays as it is, and no two texts
become the same, so looking for an id leads to the same entry under either name.
-/

namespace HubRelay

namespace Identifier

/-- The serial number of a text that is an id. -/
def serial? (text : String) : Option Nat :=
  (Text.Hex.number? (text.toList.drop head.length)).filter fun serial => ofSerial serial = text

theorem serial?_ofSerial (serial : Nat) : serial? (ofSerial serial) = some serial := by
  have digits : Text.Hex.number? ((ofSerial serial).toList.drop head.length) = some serial := by
    rw [ofSerial, String.toList_ofList, List.drop_left, number?_pad, Text.Hex.number?_digits]
  rw [serial?, digits, Option.filter_some, if_pos (decide_eq_true rfl)]

theorem ofSerial_of_serial? {text : String} {serial : Nat} (found : serial? text = some serial) :
    ofSerial serial = text :=
  of_decide_eq_true (Option.filter_eq_some_iff.1 found).2

end Identifier

/-- Other numbers for all keys and for the serial numbers of ids. -/
structure Renumbering where
  serial : Nat ↪ Nat
  registry : RegistryKey ↪ RegistryKey
  backend : BackendKey ↪ BackendKey
  client : ClientKey ↪ ClientKey
  relay : RelayKey ↪ RelayKey

variable (numbers : Renumbering)

namespace Renumbering

/-- A text under its other name, which is the same unless it is an id. -/
def name (text : String) : String :=
  match Identifier.serial? text with
  | some serial => Identifier.ofSerial (numbers.serial serial)
  | none => text

theorem name_ofSerial (serial : Nat) :
    numbers.name (Identifier.ofSerial serial) =
      Identifier.ofSerial (numbers.serial serial) := by
  rw [name, Identifier.serial?_ofSerial]

theorem name_of_none {text : String} (noId : Identifier.serial? text = none) :
    numbers.name text = text := by
  rw [name, noId]

theorem name_injective : Function.Injective numbers.name := by
  intro one other same
  cases isOne : Identifier.serial? one with
  | none =>
    rw [numbers.name_of_none isOne] at same
    cases isOther : Identifier.serial? other with
    | none => rw [same, numbers.name_of_none isOther]
    | some serial =>
      rw [← Identifier.ofSerial_of_serial? isOther, name_ofSerial] at same
      rw [same, Identifier.serial?_ofSerial] at isOne
      contradiction
  | some serial =>
    rw [← Identifier.ofSerial_of_serial? isOne, name_ofSerial] at same
    cases isOther : Identifier.serial? other with
    | none =>
      rw [numbers.name_of_none isOther] at same
      rw [← same, Identifier.serial?_ofSerial] at isOther
      contradiction
    | some serialOther =>
      rw [← Identifier.ofSerial_of_serial? isOther, name_ofSerial] at same
      rw [← Identifier.ofSerial_of_serial? isOne, ← Identifier.ofSerial_of_serial? isOther,
        numbers.serial.injective (Identifier.ofSerial_injective same)]

end Renumbering

/-! ## Everything that holds keys or ids -/

def Event.renumbered (event : Event) : Event :=
  { event with connectionId := numbers.name event.connectionId }

def EventQueue.renumbered (queue : EventQueue) : EventQueue :=
  { queue with
    waiting := queue.waiting.map (·.renumbered numbers)
    within := by rw [List.length_map]; exact queue.within }

def EventQueue.Received.renumbered : EventQueue.Received → EventQueue.Received
  | .event taken => .event (taken.renumbered numbers)
  | .empty => .empty
  | .finished => .finished

def Backend.renumbered (backend : Backend) : Backend :=
  { backend with
    id := numbers.name backend.id
    registry := numbers.registry backend.registry
    queue := backend.queue.renumbered numbers }

def Client.renumbered (client : Client) : Client :=
  { client with
    id := numbers.name client.id
    registry := numbers.registry client.registry
    backendId := numbers.name client.backendId }

def Registry.renumbered (registry : Registry) : Registry :=
  { registry with
    backends := registry.backends.map numbers.backend
    clients := registry.clients.map numbers.client }

def Approval.renumbered (approval : Approval) : Approval :=
  { approval with connectionId := numbers.name approval.connectionId }

def Connection.renumbered (connection : Connection) : Connection :=
  ⟨numbers.client connection.client, numbers.backend connection.backend⟩

def Relay.renumbered (relay : Relay) : Relay :=
  { relay with connection := relay.connection.renumbered numbers }

/-! ## Queues do not look at ids -/

namespace EventQueue

variable (queue : EventQueue)

theorem enqueue_renumbered (event : Event) :
    (queue.renumbered numbers).enqueue (event.renumbered numbers) =
      (queue.enqueue event).map (renumbered numbers) := by
  have count : (queue.renumbered numbers).waiting.length = queue.waiting.length := List.length_map _
  unfold enqueue
  by_cases closed : queue.closed = true
  · rw [if_pos closed, if_pos (show (queue.renumbered numbers).closed = true from closed)]
    rfl
  · rw [if_neg closed, if_neg (show ¬ (queue.renumbered numbers).closed = true from closed)]
    by_cases room : queue.waiting.length < queue.capacity
    · rw [dif_pos room, dif_pos (show (queue.renumbered numbers).waiting.length <
        (queue.renumbered numbers).capacity from count ▸ room)]
      simp [renumbered, Except.map]
    · rw [dif_neg room, dif_neg (show ¬ (queue.renumbered numbers).waiting.length <
        (queue.renumbered numbers).capacity from count ▸ room)]
      rfl

theorem receive_renumbered :
    (queue.renumbered numbers).receive =
      (queue.receive.1.renumbered numbers, queue.receive.2.renumbered numbers) := by
  obtain ⟨capacity, waiting, closed, positive, within⟩ := queue
  cases waiting with
  | nil => cases closed <;> rfl
  | cons event rest => rfl

theorem writeOut_renumbered (events : List Event) (outcomes : List WriteOutcome) :
    writeOut (events.map (·.renumbered numbers)) outcomes =
      ((writeOut events outcomes).1, (writeOut events outcomes).2.1.map (·.renumbered numbers),
        (writeOut events outcomes).2.2.map (·.renumbered numbers)) := by
  induction events generalizing outcomes with
  | nil => rfl
  | cons event events inductionHypothesis =>
    cases outcomes with
    | nil => rfl
    | cons outcome outcomes =>
      cases outcome with
      | written =>
        rw [List.map_cons, writeOut, inductionHypothesis outcomes]
        rfl
      | failed error => rfl
      | stalled => rfl

theorem write_renumbered (outcomes : List WriteOutcome) :
    (queue.renumbered numbers).write outcomes =
      ((queue.write outcomes).1, (queue.write outcomes).2.1.map (·.renumbered numbers),
        (queue.write outcomes).2.2.renumbered numbers) := by
  have written := writeOut_renumbered numbers queue.waiting outcomes
  simp only [write, renumbered, keep, written]

theorem flush_renumbered (outcomes : List WriteOutcome) :
    (queue.renumbered numbers).flush outcomes =
      ((queue.flush outcomes).1, (queue.flush outcomes).2.1.map (·.renumbered numbers),
        (queue.flush outcomes).2.2.renumbered numbers) := by
  simp only [flush, write_renumbered, List.length_map]

theorem drain_renumbered (outcomes : List WriteOutcome) :
    (queue.renumbered numbers).drain outcomes =
      ((queue.drain outcomes).1, (queue.drain outcomes).2.1.map (·.renumbered numbers),
        (queue.drain outcomes).2.2.renumbered numbers) := by
  have closed : ((queue.write outcomes).2.2.renumbered numbers).closed =
      (queue.write outcomes).2.2.closed := rfl
  simp only [drain, write_renumbered, closed]

end EventQueue

/-! ## Selections do not look at keys -/

theorem Selection.choose_map {α β : Type} (selection : Selection) (candidates : List α)
    (rename : α → β) :
    selection.choose (candidates.map rename) =
      ((selection.choose candidates).1.map rename, (selection.choose candidates).2) := by
  simp only [choose, List.length_map]
  refine Prod.ext ?_ rfl
  cases (selection.pick candidates.length).1 with
  | none => rfl
  | some index => exact List.getElem?_map

end HubRelay
