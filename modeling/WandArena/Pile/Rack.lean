import WandArena.Fault
import WandArena.Pile.Ring

/-! Racks: rings by position.

An operation names its ring by position, so that one ring can be poured into another or
into itself. Pouring reads the source as it was before anything was pushed, and empties
it only if everything fit. A position with no ring is a fault. -/
namespace WandArena

/-- A ring with the given number of slots. -/
def Ring.ofCapacity {α : Type} (capacity : Int) : Except Fault (Ring α) :=
  if capacity < 0 then .error (.negativeCapacity capacity)
  else (room capacity).map Ring.empty

structure Rack (α : Type) where
  rings : Array (Ring α)

namespace Rack
variable {α : Type}

/-- The ring at a position. -/
def ring (i : Nat) : Run (Rack α) (Ring α) := do
  Run.found .noPlace (← get).rings[i]?

def replace (rack : Rack α) (i : Nat) (r : Ring α) : Rack α := ⟨rack.rings.setIfInBounds i r⟩

/-- Pushes items onto ring `i` as long as they fit; an item left over is a fault. -/
def pushMany (i : Nat) (items : List α) : Run (Rack α) Unit := do
  let r ← ring i
  let (filled, rest) := r.pushMany items
  modify fun rack => rack.replace i filled
  unless rest.isEmpty do throw (.pileFull r.capacity)

def push (i : Nat) (item : α) : Run (Rack α) Unit := pushMany i [item]

def pop? (i : Nat) : Run (Rack α) (Option α) := do
  match (← ring i).pop? with
  | none => return none
  | some (item, rest) =>
    modify fun rack => rack.replace i rest
    return some item

def clear (i : Nat) : Run (Rack α) Unit := do
  let r ← ring i
  modify fun rack => rack.replace i r.clear

/-- Moves everything in ring `i` behind the items of ring `k`. -/
def pour (i k : Nat) : Run (Rack α) Unit := do
  let source ← ring i
  pushMany k source.toList
  clear i

end Rack

/-- A ring as text: its items and its capacity. -/
def Ring.describe {α : Type} (item : α → String) (r : Ring α) : String :=
  s!"CircularBuffer({bracketed (r.toList.map item)}, capacity={r.capacity})"

end WandArena
