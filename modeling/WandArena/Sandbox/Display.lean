import WandArena.Sandbox.Basic
import WandArena.Screen.Scene

/-! The display: the arena and, below it, what there is to know about the inspected turret. -/
namespace WandArena.Sandbox
variable {α : Type} [Scalar α]

/-- The first characters of a text; a negative count leaves out that many at the end. -/
def leading (count : Int) (text : String) : String :=
  let chars := text.toList
  String.ofList (chars.take (if 0 ≤ count then count.toNat else chars.length - (-count).toNat))

/-- A text filled up with spaces on the left. -/
def padded (width : Nat) (text : String) : String :=
  String.ofList (text.toList.leftpad width ' ')

/-- The line of state: frame rate, pause, tick and population. -/
def statusLine (b : Sandbox α) : String :=
  let status := s!" TICK:{b.sim.tick}  ENTITIES:{b.sim.world.population} "
  let status := if b.paused then " PAUSED " ++ status else status
  if b.showRate then s!" FPS:{Scalar.decimal 0 b.rate} {status}" else status

/-- The line of pile sizes. -/
def pileLine (state : WandState α) : String :=
  s!"DECK:{state.piles.deck.used} HAND:{state.piles.hand.used} " ++
    s!"DISCARD:{state.piles.discarded.used}  RECHARGE:{state.rechargeDelay}"

/-- Draws the symbols of the cards to come, as far as they fit. -/
def drawDeck (cards : Registry (Card α)) (y x : Int) : List CardRef → Run Canvas Unit
  | [] => return
  | ref :: rest => do
    let card ← Run.found (.undefinedName ref.id) (cards.get? ref.id)
    let width := (← get).width
    if width ≤ x + card.symbol.length then return
    else do
      modify fun c => c.putText x y card.symbol Palette.cyan
      drawDeck cards y (x + card.symbol.length + 1) rest

/-- Draws the mana, the piles and the coming cards of a wand. -/
def drawWand (b : Sandbox α) (turret : Int) (wand : Wand α) (state : WandState α) :
    Run Canvas Unit := do
  let row := b.canvas.arenaHeight
  let fill : Int := (b.sim.world.get? .manaBar turret).getD (0 : Int)
  let mana := s!"{padded 5 (Scalar.decimal 1 state.mana)}/{wand.maxMana}"
  let piles := pileLine state
  modify fun c => c.putText 1 (row + 2) "MANA " Palette.gray
  Canvas.bar 6 (row + 2) 20 fill Palette.mana Palette.darkerGray
  modify fun c =>
    let c := c.putText 28 (row + 2) mana Palette.white
    c.putText 1 (row + 3) piles Palette.gray
  drawDeck b.sim.catalog.cards (row + 3) (piles.length + 3) state.piles.deck.toList
  let notes := if b.sim.traced then "DEBUG LOGS ON" else ""
  modify fun c => c.putText (c.width - notes.length - 1) (row + 1) notes Palette.red

/-- Draws the rows below the arena. -/
def drawDisplay (b : Sandbox α) (turret : Int) (wandId : String) : Run Canvas Unit := do
  let row := b.canvas.arenaHeight
  let width := b.canvas.width
  let status := statusLine b
  Canvas.putRow 0 row width Palette.darkGray '='
  modify fun c =>
    let c := c.putText 2 row " WANDCRAFT " Palette.magenta
    c.putText (width - status.length - 1) row status Palette.yellow
  let wand ← Run.found (.undefinedName wandId) (b.sim.catalog.wands.get? wandId)
  modify fun c => c.putText 1 (row + 1) s!"[{b.selected + 1}] {wand.name}" Palette.cyan
  match b.sim.world.get? .holder turret with
  | none =>
    let reason := (b.sim.halted[turret]?).getD "no wand"
    modify fun c => c.putText 1 (row + 2) (leading (width - 2) s!"HALTED: {reason}") Palette.red
  | some holder => drawWand b turret wand holder.state

/-- Draws the arena, the inspected turret once more in its own colour, and the display. -/
def drawFrame (b : Sandbox α) : Run Canvas Unit := do
  modify fun c => c.clear.box 0 0 c.width c.arenaHeight Palette.darkGray "#"
  Canvas.paintAll b.sim.world
  let (turret, wandId) ← Run.found .noPlace b.inspected?
  match b.sim.world.get? .position turret with
  | some position =>
    let x ← Run.number (Scalar.nearest position.x)
    let y ← Run.number (Scalar.nearest position.y)
    modify fun c => c.put x y "Ψ" Palette.yellow
  | none => pure ()
  drawDisplay b turret wandId

/-- Draws a frame and returns the cells that changed on the screen. -/
def render : Run (Sandbox α) (List Change) := do
  let b ← get
  Run.within (·.canvas) (fun canvas b => { b with canvas }) (drawFrame b)
  modifyGet fun b =>
    let (changes, canvas) := b.canvas.flush
    (changes, { b with canvas })

end WandArena.Sandbox
