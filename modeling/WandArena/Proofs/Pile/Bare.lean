import Mathlib.Data.List.FinRange
import WandArena.Proofs.Pile.Queue

/-! Rings of which nothing is known.

A `BareRing` is what is stored of a ring, and no more: a row of slots and two numbers. Its
operations check what those of a ring take for granted, and each check that fails is a
`SlotFault`: a count around the end of a row without slots, a slot beyond the end, an empty slot
where an item should be. On the rings of a rack no check ever fails, whatever was asked of it
before (`Rack.answers_like_queues`). -/
namespace WandArena
variable {α : Type}

/-! ### Checked operations -/

inductive SlotFault
  /-- Counting around the end of a row without slots. -/
  | noSlots
  | noSlot
  | emptySlot

structure BareRing (α : Type) where
  slots : Array (Option α)
  start : Nat
  used : Nat

namespace BareRing

/-- The slot at a place, counted around the end. -/
def around (b : BareRing α) (place : Nat) : Except SlotFault Nat :=
  if b.slots.size = 0 then .error .noSlots else .ok (place % b.slots.size)

/-- The item in a slot. -/
def item (b : BareRing α) (i : Nat) : Except SlotFault α :=
  match b.slots[i]? with
  | none => .error .noSlot
  | some none => .error .emptySlot
  | some (some item) => .ok item

/-- The slots with one of them filled or emptied. -/
def store (b : BareRing α) (i : Nat) (content : Option α) :
    Except SlotFault (Array (Option α)) :=
  if i < b.slots.size then .ok (b.slots.setIfInBounds i content) else .error .noSlot

def toList (b : BareRing α) : Except SlotFault (List α) :=
  (List.finRange b.used).mapM fun offset : Fin b.used => do
    b.item (← b.around (b.start + offset))

def push? (b : BareRing α) (item : α) : Except SlotFault (Option (BareRing α)) :=
  if b.used = b.slots.size then return none
  else do
    let slots ← b.store (← b.around (b.start + b.used)) (some item)
    return some { b with slots, used := b.used + 1 }

def pop? (b : BareRing α) : Except SlotFault (Option (α × BareRing α)) :=
  if b.used = 0 then return none
  else do
    let item ← b.item b.start
    let slots ← b.store b.start none
    let start ← b.around (b.start + 1)
    return some (item, { slots, start, used := b.used - 1 })

/-- The slots are not scrubbed. -/
def clear (b : BareRing α) : BareRing α := { b with start := 0, used := 0 }

variable {b : BareRing α} {i : Nat}

theorem around_of_pos (h : 0 < b.slots.size) (place : Nat) :
    b.around place = .ok (place % b.slots.size) :=
  if_neg (Nat.ne_of_gt h)

theorem store_of_lt (h : i < b.slots.size) (content : Option α) :
    b.store i content = .ok (b.slots.setIfInBounds i content) :=
  if_pos h

end BareRing

/-! ### Rings without their proofs -/

namespace Ring

/-- What is stored of a ring. -/
def bare (r : Ring α) : BareRing α := ⟨r.slots, r.start, r.used⟩

/-- The front slot is a slot of the row, or the first one of a row without slots. -/
def Settled (r : Ring α) : Prop := r.start < r.capacity ∨ r.start = 0

variable {r : Ring α}

theorem capacity_pos {i : Nat} (hi : i < r.used) : 0 < r.slots.size :=
  Nat.lt_of_lt_of_le (Nat.zero_lt_of_lt hi) r.used_le

theorem isSome_slotBehind (r : Ring α) (i : Fin r.used) :
    (slotBehind r.slots r.start i).isSome = true :=
  r.filled i i.isLt

/-- The item at a place of the list. -/
def item (r : Ring α) (i : Fin r.used) : α :=
  (slotBehind r.slots r.start i).get (r.isSome_slotBehind i)

/-- A slot of the used part holds the item that the list has at its place. -/
theorem bare_item (i : Fin r.used) :
    r.bare.item ((r.start + i) % r.slots.size) = .ok (r.item i) := by
  have hlt : (r.start + i) % r.slots.size < r.slots.size := Nat.mod_lt _ (capacity_pos i.isLt)
  obtain ⟨item, hitem⟩ := Option.isSome_iff_exists.mp (r.isSome_slotBehind i)
  have hslot : r.slots[(r.start + i) % r.slots.size]? = some (some item) := by
    rw [slotBehind, Array.getElem?_eq_getElem hlt] at hitem
    rw [Array.getElem?_eq_getElem hlt]
    exact congrArg some hitem
  simp only [BareRing.item, bare, hslot, Ring.item, hitem, Option.get_some]

theorem bare_toList (r : Ring α) : r.bare.toList = .ok r.toList := by
  have hread (i : Fin r.used) : (do r.bare.item (← r.bare.around (r.bare.start + i))) =
      Except.ok (r.item i) := by
    rw [BareRing.around_of_pos (capacity_pos i.isLt)]
    exact bare_item i
  calc r.bare.toList
      = (List.finRange r.used).mapM fun i : Fin r.used => Except.ok (r.item i) :=
        congrArg (List.mapM · (List.finRange r.used)) (funext hread)
    _ = .ok ((List.finRange r.used).map r.item) := List.mapM_pure
    _ = .ok r.toList := congrArg Except.ok List.ofFn_eq_map.symm

theorem bare_push? (r : Ring α) (item : α) :
    r.bare.push? item = .ok ((r.push? item).map bare) := by
  by_cases hfull : r.used = r.slots.size
  · rw [(r.push?_eq_none_iff item).mpr hfull]
    exact if_pos hfull
  · have hlt : r.used < r.slots.size := Nat.lt_of_le_of_ne r.used_le hfull
    have hpos : 0 < r.slots.size := Nat.zero_lt_of_lt hlt
    have haround : r.bare.around (r.bare.start + r.bare.used) =
        .ok ((r.start + r.used) % r.slots.size) := BareRing.around_of_pos hpos _
    have hstore : r.bare.store ((r.start + r.used) % r.slots.size) (some item) =
        .ok (r.slots.setIfInBounds ((r.start + r.used) % r.slots.size) (some item)) :=
      BareRing.store_of_lt (Nat.mod_lt _ hpos) _
    have hpush : r.bare.push? item = do
        let slots ← r.bare.store (← r.bare.around (r.bare.start + r.bare.used)) (some item)
        return some { r.bare with slots, used := r.bare.used + 1 } := if_neg hfull
    rw [hpush, haround, Ring.push?, dif_pos hlt]
    show (r.bare.store ((r.start + r.used) % r.slots.size) (some item) >>= _) = _
    rw [hstore]
    rfl

theorem bare_pop? (h : r.Settled) :
    r.bare.pop? = .ok (r.pop?.map fun popped => (popped.1, popped.2.bare)) := by
  by_cases hnone : r.used = 0
  · have hpop : r.pop? = none := by
      rw [pop?_eq_none_iff, ← List.length_eq_zero_iff, length_toList, hnone]
    rw [hpop]
    exact if_pos hnone
  · have hpos : 0 < r.used := Nat.pos_of_ne_zero hnone
    have hsize : 0 < r.slots.size := capacity_pos hpos
    have hstart : r.start < r.slots.size := h.elim id fun h => by rwa [h]
    -- The front slot is read where it stands: counting around the end would change nothing.
    have hfront : (r.start + 0) % r.slots.size = r.start := Nat.mod_eq_of_lt hstart
    have hitem : r.bare.item r.start = .ok (r.item ⟨0, hpos⟩) :=
      (congrArg r.bare.item hfront).symm.trans (bare_item ⟨0, hpos⟩)
    have hstore : r.bare.store r.start none = .ok (r.slots.setIfInBounds r.start none) :=
      BareRing.store_of_lt hstart _
    have haround : r.bare.around (r.start + 1) = .ok ((r.start + 1) % r.slots.size) :=
      BareRing.around_of_pos hsize _
    have hpop : r.bare.pop? = do
        let item ← r.bare.item r.start
        let slots ← r.bare.store r.start none
        let start ← r.bare.around (r.start + 1)
        return some (item, ⟨slots, start, r.used - 1⟩) := if_neg hnone
    rw [hpop, hitem, hstore, haround]
    simp only [Ring.pop?, dif_pos hpos, hfront]
    rfl

/-- No check on the stored ring fails, and what is done to it is what is done to the ring. -/
structure Sound (r : Ring α) : Prop where
  toList : r.bare.toList = .ok r.toList
  push? : ∀ item, r.bare.push? item = .ok ((r.push? item).map bare)
  pop? : r.bare.pop? = .ok (r.pop?.map fun popped => (popped.1, popped.2.bare))
  clear : r.bare.clear = r.clear.bare

namespace Settled

theorem sound (h : r.Settled) : r.Sound := ⟨bare_toList r, bare_push? r, bare_pop? h, rfl⟩

theorem empty (n : Nat) : (Ring.empty n : Ring α).Settled := .inr rfl

theorem clear (r : Ring α) : r.clear.Settled := .inr rfl

theorem push? {r' : Ring α} {item : α} (h : r.Settled) (hpush : r.push? item = some r') :
    r'.Settled := by
  have hstart : r'.start = r.start := by
    rw [Ring.push?] at hpush
    split at hpush
    · cases hpush
      rfl
    · cases hpush
  rwa [Settled, hstart, (toList_push? hpush).2]

theorem pop? {r' : Ring α} {item : α} (hpop : r.pop? = some (item, r')) : r'.Settled := by
  have hcapacity := (toList_pop? hpop).2
  rw [Ring.pop?] at hpop
  split at hpop
  case isFalse => cases hpop
  case isTrue hpos =>
    rw [Settled, hcapacity]
    cases hpop
    exact .inl (Nat.mod_lt _ (capacity_pos hpos))

theorem pushMany (h : r.Settled) (items : List α) : (r.pushMany items).1.Settled := by
  induction items generalizing r with
  | nil => exact h
  | cons item rest ih =>
    unfold Ring.pushMany
    cases hpush : r.push? item with
    | none => exact h
    | some r' => exact ih (h.push? hpush)

end Settled
end Ring

/-! ### Sessions on racks -/

namespace Rack

def Settled (rack : Rack α) : Prop := ∀ r ∈ rack.rings, r.Settled

/-- Rings that are settled stay settled. -/
def staysSettled : Run.Frame (Rack α) :=
  ⟨fun s t => s.Settled → t.Settled, fun _ => id, fun h h' => h' ∘ h⟩

theorem settled_ofCapacities (capacities : List Nat) :
    (ofCapacities capacities : Rack α).Settled := by
  intro r hr
  obtain ⟨n, -, rfl⟩ := List.mem_map.mp (List.mem_toArray.mp hr)
  exact .empty n

theorem Settled.replace {rack : Rack α} {r : Ring α} (h : rack.Settled) (i : Nat)
    (hr : r.Settled) : (rack.replace i r).Settled := by
  intro r' hr'
  rcases Array.mem_or_eq_of_mem_setIfInBounds hr' with hmem | rfl
  · exact h r' hmem
  · exact hr

variable {i : Nat}

theorem ring_bind_keeps {β : Type} {f : Ring α → Run (Rack α) β}
    (h : ∀ r rack, (rack.Settled → r.Settled) → Run.KeepsAt staysSettled rack (f r)) :
    Run.Keeps staysSettled (ring i >>= f) := by
  intro rack
  cases hr : rack.rings[i]? with
  | none =>
    rw [Run.KeepsAt, Run.bind_apply_of_error (ring_of_none hr)]
    exact id
  | some r =>
    rw [Run.KeepsAt, Run.bind_apply_of_ok (ring_of_some hr)]
    exact h r rack fun hrack => hrack r (Array.mem_of_getElem? hr)

theorem pushMany_keeps (i : Nat) (items : List α) : Run.Keeps staysSettled (pushMany i items) := by
  apply ring_bind_keeps
  intro r rack hr
  apply Run.KeepsAt.modify_bind
  · intro hrack
    exact hrack.replace i ((hr hrack).pushMany items)
  · split
    · exact .pure _
    · exact .throw _

theorem pop?_keeps (i : Nat) : Run.Keeps (staysSettled (α := α)) (pop? i) := by
  apply ring_bind_keeps
  intro r rack hr
  cases hpop : r.pop? with
  | none => exact .pure none
  | some popped =>
    apply Run.KeepsAt.modify_bind
    · intro hrack
      exact hrack.replace i (.pop? hpop)
    · exact .pure _

theorem clear_keeps (i : Nat) : Run.Keeps (staysSettled (α := α)) (clear i) :=
  ring_bind_keeps fun r _ _ hrack => hrack.replace i (.clear r)

theorem pour_keeps (i k : Nat) : Run.Keeps (staysSettled (α := α)) (pour i k) :=
  ring_bind_keeps fun r rack _ =>
    ((pushMany_keeps k r.toList).bind fun _ => clear_keeps i) rack

theorem answer_keeps (request : PileRequest α) : Run.Keeps staysSettled (answer request) := by
  cases request with
  | push i item => exact (pushMany_keeps i [item]).bind fun _ => .pure _
  | pushMany i items => exact (pushMany_keeps i items).bind fun _ => .pure _
  | pop i => exact (pop?_keeps i).bind fun _ => .pure _
  | clear i => exact (clear_keeps i).bind fun _ => .pure _
  | items i => exact ring_bind_keeps fun _ _ _ => .pure _
  | isFull i => exact ring_bind_keeps fun _ _ _ => .pure _
  | pour i k => exact (pour_keeps i k).bind fun _ => .pure _

/-- Whatever is asked of rings of any capacities, they answer like queues and end up with the same
items, and all of them stay sound. -/
theorem answers_like_queues (capacities : List Nat) (requests : List (PileRequest α)) :
    let ofRack := Run.each Rack.answer requests (Rack.ofCapacities capacities)
    let ofShelf := Run.each Shelf.answer requests (Shelf.ofCapacities capacities)
    ofRack.1 = ofShelf.1 ∧ ofRack.2.shelf = ofShelf.2 ∧
      ∀ r ∈ ofRack.2.rings, r.used = r.toList.length ∧
        (r.isFull = true ↔ r.toList.length = r.capacity) ∧ r.Sound := by
  intro ofRack ofShelf
  have hseen : ofShelf = (ofRack.1, ofRack.2.shelf) := by
    have := Run.each_seen answer_seen requests (ofCapacities capacities)
    rwa [shelf_ofCapacities] at this
  have hsettled : ofRack.2.Settled :=
    Run.each_keeps answer_keeps requests (ofCapacities capacities) (settled_ofCapacities capacities)
  refine ⟨by rw [hseen], by rw [hseen], fun r hr => ?_⟩
  refine ⟨r.length_toList.symm, ?_, (hsettled r hr).sound⟩
  rw [Ring.isFull, beq_iff_eq, Ring.length_toList]

end Rack
end WandArena
