import WandArena.Fault
import WandArena.Pile.Ring

/-! The three piles of a wand and how a card is drawn.

A drawn card goes from the deck into the hand and stays there until the cast ends. A deck
that runs dry wraps: the discard pile goes back into it in the declared order of its cards. -/
namespace WandArena

/-- A card in a pile, tagged with its place in the wand's declared order. -/
structure CardRef where
  id : String
  index : Int
  deriving DecidableEq, Repr

structure Piles where
  deck : Ring CardRef
  hand : Ring CardRef
  discarded : Ring CardRef

/-- What drawing a card leaves and yields. -/
structure Drawn (σ : Type) where
  rest : σ
  /-- Whether the discard pile went back into the deck. -/
  wrapped : Bool
  card : Except Fault (Option CardRef)

/-- Something a cast can draw its cards from, one at a time. -/
class CardSource (σ : Type) where
  draw : σ → Drawn σ

namespace Piles

/-- Three empty piles of one capacity. -/
def empty (capacity : Nat) : Piles := ⟨.empty capacity, .empty capacity, .empty capacity⟩

/-- Pushes cards onto a pile; a card left over is a fault. -/
def pushAll (cards : List CardRef) : Run (Ring CardRef) Unit := do
  let pile ← get
  let (filled, rest) := pile.pushMany cards
  set filled
  unless rest.isEmpty do throw (.pileFull pile.capacity)

/-- The cards of a pile in declared order; cards with one index keep their order. -/
def inDeclaredOrder (cards : List CardRef) : List CardRef :=
  cards.mergeSort fun a b => a.index ≤ b.index

/-- Moves the front card of the deck into the hand. -/
def take (piles : Piles) (wrapped : Bool) : Drawn Piles :=
  match piles.deck.pop? with
  | none => ⟨piles, wrapped, .ok none⟩
  | some (card, deck) =>
    match piles.hand.push? card with
    | some hand => ⟨{ piles with deck, hand }, wrapped, .ok (some card)⟩
    | none => ⟨{ piles with deck }, wrapped, .error (.pileFull piles.hand.capacity)⟩

/-- Draws a card. Nothing is drawn only if the deck and the discard pile are both empty. -/
def draw (piles : Piles) : Drawn Piles :=
  if !piles.deck.isEmpty || piles.discarded.isEmpty then piles.take false
  else
    let cards := inDeclaredOrder piles.discarded.toList
    let (deck, rest) := piles.deck.pushMany cards
    let piles := { piles with deck, discarded := piles.discarded.clear }
    if rest.isEmpty then piles.take true
    else ⟨piles, false, .error (.pileFull deck.capacity)⟩

instance : CardSource Piles := ⟨draw⟩

/-- Deals the cards of a wand into the deck in declared order. -/
def deal (cards : List String) : List CardRef :=
  cards.mapIdx fun i id => ⟨id, i⟩

end Piles
end WandArena
