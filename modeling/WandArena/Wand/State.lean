import WandArena.Wand.Definition
import WandArena.Wand.Piles

/-! The state of a wand in the hands of its holder.

While no cast is running, every card dealt is in exactly one of the piles. -/
namespace WandArena

structure WandState (α : Type) where
  piles : Piles
  mana : α
  /-- Ticks until the deck may be dealt anew, counted up by the cards paid for. -/
  rechargeDelay : Int

namespace WandState
variable {α : Type}

/-- Puts every card back into the deck in declared order. -/
def reset (wand : Wand α) : Run (WandState α) Unit := do
  modify fun s => {
    piles := ⟨s.piles.deck.clear, s.piles.hand.clear, s.piles.discarded.clear⟩
    mana := s.mana
    rechargeDelay := wand.rechargeDelay }
  Run.within (·.piles.deck) (fun deck s => { s with piles := { s.piles with deck } })
    (Piles.pushAll (Piles.deal wand.cards))

/-- Moves the hand onto the discard pile. -/
def discardHand : Run (WandState α) Unit := do
  let s ← get
  Run.within (·.piles.discarded) (fun discarded s => { s with piles := { s.piles with discarded } })
    (Piles.pushAll s.piles.hand.toList)
  modify fun s => { s with piles := { s.piles with hand := s.piles.hand.clear } }

/-- A full deck and full mana, for a wand whose cards fit into piles of the given capacity. -/
def fresh [Quantity α] (wand : Wand α) (capacity : Int) : Except Fault (WandState α) :=
  if capacity < wand.cards.length then
    .error (.config (.deckTooLarge wand.id wand.cards.length capacity))
  else
    match room capacity with
    | .error fault => .error fault
    | .ok slots =>
      let start : WandState α := ⟨.empty slots, Quantity.whole wand.maxMana, 0⟩
      match reset wand start with
      | .ok _ s => .ok s
      | .error fault _ => .error fault

end WandState
end WandArena
