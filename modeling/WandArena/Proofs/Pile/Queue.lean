import WandArena.Pile.Rack
import WandArena.Proofs.Run.View

/-! Rings are queues with a limit.

A `Queue` is a list that may grow up to a capacity, and a `Shelf` keeps queues by position as a rack
keeps rings. Whatever is asked of a rack, its rings answer like the queues of the same items, and go
on holding the same items (`Rack.answer_seen`). -/
namespace WandArena
variable {α : Type}

/-! ### Requests -/

/-- What is asked of a collection of piles by position. -/
inductive PileRequest (α : Type)
  | push (i : Nat) (item : α)
  | pushMany (i : Nat) (items : List α)
  | pop (i : Nat)
  | clear (i : Nat)
  | items (i : Nat)
  | isFull (i : Nat)
  /-- Everything in pile `i` is moved behind the items of pile `k`. -/
  | pour (i k : Nat)

inductive PileAnswer (α : Type)
  | done
  | front (item : Option α)
  | items (items : List α)
  | full (isFull : Bool)

namespace Rack

/-- A rack of empty rings. -/
def ofCapacities (capacities : List Nat) : Rack α := ⟨(capacities.map Ring.empty).toArray⟩

/-- Does what a request asks for. -/
def answer : PileRequest α → Run (Rack α) (PileAnswer α)
  | .push i item => do
    push i item
    return .done
  | .pushMany i items => do
    pushMany i items
    return .done
  | .pop i => return .front (← pop? i)
  | .clear i => do
    clear i
    return .done
  | .items i => return .items (← ring i).toList
  | .isFull i => return .full (← ring i).isFull
  | .pour i k => do
    pour i k
    return .done

end Rack

/-! ### Queues -/

/-- A list that grows at the back and shrinks at the front, up to a number of items. -/
structure Queue (α : Type) where
  capacity : Nat
  items : List α

def Queue.room (q : Queue α) : Nat := q.capacity - q.items.length

structure Shelf (α : Type) where
  queues : Array (Queue α)

namespace Shelf

/-- A shelf of empty queues. -/
def ofCapacities (capacities : List Nat) : Shelf α :=
  ⟨(capacities.map fun capacity => (⟨capacity, []⟩ : Queue α)).toArray⟩

/-- The queue at a position. -/
def queue (i : Nat) : Run (Shelf α) (Queue α) := do
  Run.found .noPlace (← get).queues[i]?

def replace (shelf : Shelf α) (i : Nat) (q : Queue α) : Shelf α :=
  ⟨shelf.queues.setIfInBounds i q⟩

/-- Puts an item behind all others. A queue at its limit stays as it is. -/
def push (i : Nat) (item : α) : Run (Shelf α) Unit := do
  let q ← queue i
  if q.items.length = q.capacity then throw (.pileFull q.capacity)
  else modify (replace · i { q with items := q.items ++ [item] })

/-- Puts the first items behind all others, as many as fit. -/
def pushMany (i : Nat) (items : List α) : Run (Shelf α) Unit := do
  let q ← queue i
  modify (replace · i { q with items := q.items ++ items.take q.room })
  if q.room < items.length then throw (.pileFull q.capacity)

/-- Takes the first item off. -/
def pop? (i : Nat) : Run (Shelf α) (Option α) := do
  let q ← queue i
  match q.items with
  | [] => return none
  | item :: rest =>
    modify (replace · i { q with items := rest })
    return some item

def clear (i : Nat) : Run (Shelf α) Unit := do
  let q ← queue i
  modify (replace · i { q with items := [] })

/-- Moves the items of queue `i` behind those of queue `k` if they all fit. If not, queue `i` stays
as it is, and only as many of its items as fit are put behind those of queue `k`. -/
def pour (i k : Nat) : Run (Shelf α) Unit := do
  let source ← queue i
  let q ← queue k
  if source.items.length ≤ q.room then
    modify (replace · k { q with items := q.items ++ source.items })
    modify (replace · i { source with items := [] })
  else
    modify (replace · k { q with items := q.items ++ source.items.take q.room })
    throw (.pileFull q.capacity)

/-- Does what a request asks for. -/
def answer : PileRequest α → Run (Shelf α) (PileAnswer α)
  | .push i item => do
    push i item
    return .done
  | .pushMany i items => do
    pushMany i items
    return .done
  | .pop i => return .front (← pop? i)
  | .clear i => do
    clear i
    return .done
  | .items i => return .items (← queue i).items
  | .isFull i => do
    let q ← queue i
    return .full (q.items.length == q.capacity)
  | .pour i k => do
    pour i k
    return .done

variable {shelf : Shelf α} {i : Nat} {q : Queue α}

theorem queue_of_some (h : shelf.queues[i]? = some q) : queue i shelf = .ok q shelf :=
  congrArg (fun q => Run.found .noPlace q shelf) h

theorem queue_of_none (h : shelf.queues[i]? = none) : queue i shelf = .error .noPlace shelf :=
  congrArg (fun q => Run.found .noPlace q shelf) h

theorem getElem?_replace (shelf : Shelf α) (i k : Nat) (q : Queue α) :
    (shelf.replace i q).queues[k]? =
      if i = k then shelf.queues[k]?.map fun _ => q else shelf.queues[k]? := by
  rw [replace, Array.getElem?_setIfInBounds]
  by_cases h : i = k
  · subst h
    by_cases hi : i < shelf.queues.size <;> simp [hi]
  · simp [h]

theorem replace_self (h : shelf.queues[i]? = some q) : shelf.replace i q = shelf := by
  refine congrArg mk (Array.ext_getElem? fun k => ?_)
  refine (shelf.getElem?_replace i k q).trans ?_
  by_cases hk : i = k
  · subst hk
    simp [h]
  · simp [hk]

/-- To push one item is to push a list of one, as long as the queue is within its limit. -/
theorem pushMany_singleton (item : α)
    (hfits : ∀ q, shelf.queues[i]? = some q → q.items.length ≤ q.capacity) :
    pushMany i [item] shelf = push i item shelf := by
  unfold pushMany push
  cases h : shelf.queues[i]? with
  | none =>
    rw [Run.bind_apply_of_error (queue_of_none h), Run.bind_apply_of_error (queue_of_none h)]
  | some q =>
    rw [Run.bind_apply_of_ok (queue_of_some h), Run.bind_apply_of_ok (queue_of_some h)]
    have hle := hfits q h
    by_cases hfull : q.items.length = q.capacity
    · have hroom : q.room < [item].length := by
        simp [Queue.room, hfull]
      have hsame : { q with items := q.items ++ [item].take q.room } = q := by
        simp [Queue.room, hfull]
      rw [if_pos hfull, if_pos hroom, hsame]
      exact congrArg (EStateM.Result.error _) (replace_self h)
    · have hroom : [item].length ≤ q.room := by
        rw [Queue.room, List.length_singleton]
        omega
      rw [if_neg hfull, if_neg (Nat.not_lt.mpr hroom), List.take_of_length_le hroom]
      rfl

/-- To pour is to push all items of one queue onto the other and then to clear the first. -/
theorem pour_eq (i k : Nat) : (pour i k : Run (Shelf α) Unit) =
    (queue i >>= fun source => pushMany k source.items >>= fun _ => clear i) := by
  unfold pour pushMany clear
  simp only [bind_assoc]
  funext shelf
  cases hi : shelf.queues[i]? with
  | none =>
    rw [Run.bind_apply_of_error (queue_of_none hi), Run.bind_apply_of_error (queue_of_none hi)]
  | some source =>
    rw [Run.bind_apply_of_ok (queue_of_some hi), Run.bind_apply_of_ok (queue_of_some hi)]
    cases hk : shelf.queues[k]? with
    | none =>
      rw [Run.bind_apply_of_error (queue_of_none hk), Run.bind_apply_of_error (queue_of_none hk)]
    | some q =>
      rw [Run.bind_apply_of_ok (queue_of_some hk), Run.bind_apply_of_ok (queue_of_some hk)]
      by_cases hfits : source.items.length ≤ q.room
      · have htake : source.items.take q.room = source.items := List.take_of_length_le hfits
        rw [if_pos hfits, if_neg (Nat.not_lt.mpr hfits), htake]
        have hend : ∃ q', (shelf.replace k { q with items := q.items ++ source.items }).queues[i]? =
            some q' ∧ q'.capacity = source.capacity := by
          rw [getElem?_replace, hi]
          by_cases hki : k = i
          · subst hki
            cases hi.symm.trans hk
            simp
          · simp [hki]
        obtain ⟨q', hq', hcapacity⟩ := hend
        refine Eq.trans ?_ (Run.bind_apply_of_ok (queue_of_some hq') _).symm
        rw [hcapacity]
        rfl
      · rw [if_neg hfits, if_pos (by omega)]
        rfl

end Shelf

/-! ### Rings as queues -/

/-- What is in a ring, and how much could be. -/
def Ring.queue (r : Ring α) : Queue α := ⟨r.capacity, r.toList⟩

/-- What is in the rings of a rack. -/
def Rack.shelf (rack : Rack α) : Shelf α := ⟨rack.rings.map Ring.queue⟩

namespace Ring

theorem room_queue (r : Ring α) : r.queue.room = r.capacity - r.used := by
  rw [Queue.room, queue, length_toList]

theorem queue_clear (r : Ring α) : r.clear.queue = { r.queue with items := [] } := by
  rw [queue, toList_clear, capacity_clear]
  rfl

theorem queue_pushMany (r : Ring α) (items : List α) :
    (r.pushMany items).1.queue =
      { r.queue with items := r.queue.items ++ items.take r.queue.room } := by
  obtain ⟨hlist, hcapacity, -⟩ := r.pushMany_eq items
  rw [queue, hlist, hcapacity, room_queue]
  rfl

/-- Items are left over exactly if there are more than fit. -/
theorem isEmpty_rest_iff (r : Ring α) (items : List α) :
    (r.pushMany items).2.isEmpty = true ↔ ¬ r.queue.room < items.length := by
  rw [(r.pushMany_eq items).2.2, List.isEmpty_iff, List.drop_eq_nil_iff, room_queue, Nat.not_lt]

theorem isFull_eq (r : Ring α) : r.isFull = (r.queue.items.length == r.queue.capacity) := by
  rw [queue, length_toList]
  rfl

end Ring

namespace Rack

theorem shelf_ofCapacities (capacities : List Nat) :
    (ofCapacities capacities : Rack α).shelf = .ofCapacities capacities := by
  have hempty (n : Nat) : (Ring.empty n : Ring α).queue = ⟨n, []⟩ := by
    rw [Ring.queue, Ring.toList_empty, Ring.capacity_empty]
  simp only [shelf, ofCapacities, Shelf.ofCapacities, List.map_toArray, List.map_map,
    Function.comp_def, hempty]

theorem shelf_replace (rack : Rack α) (i : Nat) (r : Ring α) :
    (rack.replace i r).shelf = rack.shelf.replace i r.queue := by
  simp only [shelf, replace, Shelf.replace, Array.map_setIfInBounds]

theorem ring_of_some {rack : Rack α} {i : Nat} {r : Ring α} (h : rack.rings[i]? = some r) :
    ring i rack = .ok r rack :=
  congrArg (fun r => Run.found .noPlace r rack) h

theorem ring_of_none {rack : Rack α} {i : Nat} (h : rack.rings[i]? = none) :
    ring i rack = .error .noPlace rack :=
  congrArg (fun r => Run.found .noPlace r rack) h

/-- A ring that is looked up is seen as its queue. -/
theorem ring_bind_seen {β : Type} {f : Ring α → Run (Rack α) β} {f' : Queue α → Run (Shelf α) β}
    (h : ∀ r rack, Run.SeenAt shelf rack (f r) (f' r.queue)) :
    Run.Seen shelf (ring i >>= f) (Shelf.queue i >>= f') := by
  intro rack
  have hfind : rack.shelf.queues[i]? = rack.rings[i]?.map Ring.queue := Array.getElem?_map
  unfold Run.SeenAt
  cases hr : rack.rings[i]? with
  | none =>
    rw [hr] at hfind
    rw [Run.bind_apply_of_error (ring_of_none hr),
      Run.bind_apply_of_error (Shelf.queue_of_none hfind)]
    rfl
  | some r =>
    rw [hr] at hfind
    rw [Run.bind_apply_of_ok (ring_of_some hr), Run.bind_apply_of_ok (Shelf.queue_of_some hfind)]
    exact h r rack

theorem pushMany_seen (i : Nat) (items : List α) :
    Run.Seen shelf (pushMany i items) (Shelf.pushMany i items) := by
  apply ring_bind_seen
  intro r rack
  have hfilled : rack.shelf.replace i { r.queue with
      items := r.queue.items ++ items.take r.queue.room } =
        (rack.replace i (r.pushMany items).1).shelf := by
    rw [shelf_replace, Ring.queue_pushMany]
  refine (Run.SeenAt.modify hfilled).bind fun _ t _ => ?_
  by_cases h : r.queue.room < items.length
  · rw [if_pos h, if_neg (mt (r.isEmpty_rest_iff items).mp (not_not_intro h))]
    exact .throw _
  · rw [if_neg h, if_pos ((r.isEmpty_rest_iff items).mpr h)]
    exact .pure _

theorem push_seen (i : Nat) (item : α) : Run.Seen shelf (push i item) (Shelf.push i item) := by
  intro rack
  have hfits (q : Queue α) (hq : rack.shelf.queues[i]? = some q) : q.items.length ≤ q.capacity := by
    rw [shelf, Array.getElem?_map] at hq
    obtain ⟨r, -, rfl⟩ := Option.map_eq_some_iff.mp hq
    rw [Ring.queue, Ring.length_toList]
    exact r.used_le_capacity
  exact (Shelf.pushMany_singleton item hfits).symm.trans (pushMany_seen i [item] rack)

theorem pop?_seen (i : Nat) : Run.Seen (shelf (α := α)) (pop? i) (Shelf.pop? i) := by
  apply ring_bind_seen
  intro r rack
  cases hpop : r.pop? with
  | none =>
    have hitems : r.queue.items = [] := r.pop?_eq_none_iff.mp hpop
    rw [hitems]
    exact .pure none
  | some popped =>
    obtain ⟨item, rest⟩ := popped
    obtain ⟨hitems, hcapacity⟩ := Ring.toList_pop? hpop
    have hqueue : r.queue = ⟨rest.capacity, item :: rest.toList⟩ := by
      rw [Ring.queue, hitems, hcapacity]
    rw [hqueue]
    exact Run.SeenAt.bind (.modify (shelf_replace rack i rest).symm) fun _ _ _ => .pure _

theorem clear_seen (i : Nat) : Run.Seen (shelf (α := α)) (clear i) (Shelf.clear i) := by
  apply ring_bind_seen
  intro r rack
  apply Run.SeenAt.modify
  rw [shelf_replace, Ring.queue_clear]

theorem pour_seen (i k : Nat) : Run.Seen (shelf (α := α)) (pour i k) (Shelf.pour i k) := by
  rw [Shelf.pour_eq]
  apply ring_bind_seen
  intro r rack
  exact (pushMany_seen k r.toList rack).bind fun _ t _ => clear_seen i t

/-- The rings of a rack answer like the queues of a shelf. -/
theorem answer_seen (request : PileRequest α) :
    Run.Seen shelf (answer request) (Shelf.answer request) := by
  cases request with
  | push i item => exact (push_seen i item).bind fun _ => .pure _
  | pushMany i items => exact (pushMany_seen i items).bind fun _ => .pure _
  | pop i => exact (pop?_seen i).bind fun _ => .pure _
  | clear i => exact (clear_seen i).bind fun _ => .pure _
  | items i => exact ring_bind_seen fun _ _ => .pure _
  | isFull i =>
    apply ring_bind_seen
    intro r rack
    rw [Ring.isFull_eq]
    exact .pure _
  | pour i k => exact (pour_seen i k).bind fun _ => .pure _

end Rack
end WandArena
