import WandArena.Cast.Basic
import WandArena.Registry
import WandArena.Wand.State

/-! Resolving a cast.

`Caster.resolve` draws one card and plays it, drawing again for whatever the card asks: a
modifier stacks its stats and draws on, a multicast draws once under each of its offsets, and
a projectile with a payload draws the payload from the same deck into a cast of its own. A card
that cannot be paid for is skipped.

Nested draws are counted twice over. `depth` is checked against the limit of the settings
whenever a draw yields a card. `stack` is the room left for nested draws; it bounds the
recursion, and running out of it is a fault of its own. -/
namespace WandArena

/-- Something a cast tells whoever follows it closely. -/
inductive CastNote (α : Type)
  | drew (card : String)
  | tooCostly (card : String)
  /-- A projectile was launched that never expires by itself. -/
  | endless
  | remainingMana (mana : α)
  | recharge

/-- The state of a cast while it is being resolved. -/
structure Casting (σ α : Type) where
  source : σ
  mana : α
  rechargeDelay : Int
  cast : Cast α
  notes : Array (CastNote α)

/-- What a cast goes by. -/
structure Caster (α : Type) where
  /-- The wand that messages name. -/
  wand : String
  cards : Registry (Card α)
  rules : MergeRules
  maxDepth : Int

namespace Casting
variable {σ α : Type}

def note (n : CastNote α) : Run (Casting σ α) Unit :=
  modify fun s => { s with notes := s.notes.push n }

def setTransform (t : Transform α) : Run (Casting σ α) Unit :=
  modify fun s => { s with cast := { s.cast with transform := t } }

/-- Draws a card. A wrap forces a recharge once the cast is over. -/
def draw [CardSource σ] : Run (Casting σ α) (Option CardRef) := do
  let s ← get
  let drawn := CardSource.draw s.source
  set { s with
    source := drawn.rest
    cast := { s.cast with forceRecharge := s.cast.forceRecharge || drawn.wrapped } }
  match drawn.card with
  | .ok card => return card
  | .error fault => throw fault

variable [Scalar α]

/-- Stacks stats onto the cast. -/
def stack (rules : MergeRules) (stats : Stats α) : Run (Casting σ α) Unit :=
  Run.within (·.cast.stats) (fun stats s => { s with cast := { s.cast with stats } })
    (EStateM.adaptExcept Fault.ofMerge (Stats.absorb rules stats))

/-- Pays for a card. -/
def pay (card : Card α) : Run (Casting σ α) Unit :=
  modify fun s => { s with
    mana := s.mana - Quantity.whole card.manaCost
    rechargeDelay := s.rechargeDelay + card.rechargeDelay
    cast := { s.cast with castDelay := s.cast.castDelay + card.castDelay } }

/-- Emits a projectile. -/
def emit (shot : Shot α (Cast α)) : Run (Casting σ α) Unit :=
  modify fun s => { s with cast := { s.cast with shots := s.cast.shots ++ [shot] } }

/-- Draws under an offset. The transform is put back once the draws are done. -/
def branch (next : Run (Casting σ α) Unit) (offset : Transform α) : Run (Casting σ α) Unit := do
  let saved := (← get).cast.transform
  setTransform (← Run.number (saved.compose offset))
  next
  setTransform saved

/-- Draws into a cast of its own, which is returned. A wrap in there still forces the
outer cast to recharge. -/
def payload (next : Run (Casting σ α) Unit) : Run (Casting σ α) (Cast α) := fun s =>
  match next { s with cast := .fresh } with
  | .ok _ t =>
    .ok t.cast { t with
      cast := { s.cast with forceRecharge := s.cast.forceRecharge || t.cast.forceRecharge } }
  | .error fault t => .error fault { t with cast := s.cast }

/-- What a projectile of a kind carries, its payload drawn by `next`. -/
def continuation (next : Run (Casting σ α) Unit) :
    ShotKind → Run (Casting σ α) (Continuation (Cast α))
  | .normal => return .normal
  | .trigger => return .trigger (some (← payload next))
  | .timer delay => return .timer delay (some (← payload next))

/-- Does one thing a card says; `next` draws whatever it asks for. -/
def apply (rules : MergeRules) (next : Run (Casting σ α) Unit) : Effect α → Run (Casting σ α) Unit
  | .modifier stats => do
    stack rules stats
    next
  | .multicast formation => formation.forM (branch next)
  | .projectile blueprint kind => do
    let transform := (← get).cast.transform
    let carried ← continuation next kind
    emit ⟨blueprint, transform.position, transform.direction, carried⟩

end Casting

namespace Caster
variable {σ α : Type} [Scalar α]

/-- Plays a drawn card: it is paid for and does all it says, or it is skipped and one more card
is drawn. `next` makes the draws that the card asks for. -/
def play (c : Caster α) (next : Run (Casting σ α) Unit) (ref : CardRef) :
    Run (Casting σ α) Unit := do
  let card ← Run.found (.config (.unknownCard ref.id)) (c.cards.get? ref.id)
  Casting.note (.drew card.name)
  if (← get).mana < Quantity.whole card.manaCost then
    Casting.note (.tooCostly card.name)
    next
  else
    Casting.pay card
    card.effects.forM (Casting.apply c.rules next)

variable [CardSource σ]

/-- Draws one card and plays it, with room for `stack` nested draws. -/
def resolve (c : Caster α) : Nat → Int → Run (Casting σ α) Unit
  | 0, _ => throw (.config (.outOfStack c.wand c.maxDepth))
  | stack + 1, depth => do
    match ← Casting.draw with
    | none => return
    | some ref =>
      if c.maxDepth < depth then throw (.config (.tooDeep c.wand c.maxDepth))
      else c.play (c.resolve stack (depth + 1)) ref

/-- The room for nested draws in any cast. It stands for the limit of the host on nested calls, which
casting does not fix, and of which callers, draws and notes take up parts. What depends on it asks
for enough of it (`RoomFor`), or for fewer cards than it has room for; what is said of `resolve` holds
for every stack. -/
def stackSize : Nat := 900

end Caster

/-- What resolving a cast on a wand leaves, whether it succeeded or not. -/
structure Resolved (α : Type) where
  fault : Option Fault
  wand : WandState α
  cast : Cast α
  notes : Array (CastNote α)

/-- Resolves a draw on a wand, continuing the given cast. -/
def Caster.resolveOn {α : Type} [Scalar α] (c : Caster α) (depth : Int) (wand : WandState α)
    (cast : Cast α) : Resolved α :=
  let close (fault : Option Fault) (s : Casting Piles α) : Resolved α :=
    ⟨fault, ⟨s.source, s.mana, s.rechargeDelay⟩, s.cast, s.notes⟩
  match c.resolve stackSize depth ⟨wand.piles, wand.mana, wand.rechargeDelay, cast, #[]⟩ with
  | .ok _ s => close none s
  | .error fault s => close (some fault) s

end WandArena
