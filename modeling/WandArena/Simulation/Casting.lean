import WandArena.Simulation.Launch

/-! Wands in use: attaching a wand, casting it and keeping it charged. -/
namespace WandArena.Stage
variable {α : Type} [Scalar α]

/-- A full state for a wand that gets attached. -/
def freshState (wandId : String) : Run (Stage α) (WandState α) := do
  let wand ← findWand wandId
  Run.lift (WandState.fresh wand (← get).settings.maxDeckSize)

/-- Schedules the next cast of a holder. -/
def scheduleCast (delay holder : Int) : Run (Stage α) Unit :=
  scheduleIn delay (.shootWand holder)

/-- Attaches a wand to an entity, to a new one if none is given, and schedules its first cast.
Everything is checked before anything changes. -/
def spawnWand (wandId : String) (holder : Option Int) : Run (Stage α) Int := do
  let wand ← findWand wandId
  Run.lift ((← get).catalog.checkWand wand)
  let state ← freshState wandId
  let id ← match holder with
    | some id => pure id
    | none => modifyGet fun s =>
      let (id, world) := s.world.create []
      (id, { s with world })
  onWorld (World.attach id ⟨.holder, ({ wand := wandId, state } : Holder α)⟩)
  onWorld (World.attach id ⟨.manaBar, (255 : Int)⟩)
  scheduleCast wand.castDelay id
  return id

/-- Resolves a draw on the wand that an entity holds, continuing the given cast. Returns the
cast as it stands, and the fault if there was one. -/
def resolveDraw (holder : Int) (depth : Int) (cast : Cast α) :
    Run (Stage α) (Cast α × Option Fault) := do
  let held ← holderOf holder
  let wand ← findWand held.wand
  let resolved := ((← get).caster wand).resolveOn depth held.state cast
  onWand holder (set resolved.wand)
  noteAll resolved.notes
  return (resolved.cast, resolved.fault)

/-- Ends a cast: the next one is scheduled, after a recharge if the deck ran out or has wrapped. -/
def rearm (wand : Wand α) (cast : Cast α) (holder : Int) : Run (Stage α) Unit := do
  let state := (← holderOf holder).state
  note (.remainingMana state.mana)
  if state.piles.deck.isEmpty || cast.forceRecharge then
    note .recharge
    scheduleCast (max (max 1 cast.castDelay) state.rechargeDelay) holder
    onWand holder (WandState.reset wand)
  else
    scheduleCast cast.castDelay holder

/-- Runs one full cast of the wand that an entity holds. -/
def castWand (holder : Int) : Run (Stage α) (Cast α) := do
  let wand ← findWand (← holderOf holder).wand
  let start : Cast α := { Cast.fresh with castDelay := wand.castDelay }
  let (cast, fault) ← resolveDraw holder 0 start
  match fault with
  | some fault => throw fault
  | none =>
    onWand holder WandState.discardHand
    let _ ← launch wand cast holder
    rearm wand cast holder
    return cast

/-- Regains the mana of one tick on one wand. -/
def regainOne (holder : Int) : Run (Stage α) Unit := do
  let wand ← findWand (← holderOf holder).wand
  onWand holder (modify fun s => { s with
    mana := Quantity.least (s.mana + wand.manaRecharge) (Quantity.whole wand.maxMana) })

/-- Regains the mana of one tick on every wand that is held. -/
def regainMana : Run (Stage α) Unit := do
  ((← get).world.query [.holder]).forM regainOne

/-- How full a mana bar is shown. -/
def fillOf (wand : Wand α) (mana : α) : Except NumberFault Int :=
  if wand.maxMana ≤ 0 then .ok 0
  else Scalar.floor (Quantity.whole 255 * mana / Quantity.whole wand.maxMana)

/-- Shows one holder's mana in its bar. -/
def showManaOne (holder : Int) : Run (Stage α) Unit := do
  let held ← holderOf holder
  let wand ← findWand held.wand
  let fill ← Run.number (fillOf wand held.state.mana)
  modify fun s => { s with world := s.world.put .manaBar holder (fill : Int) }

/-- Shows every holder's mana in its bar. -/
def showMana : Run (Stage α) Unit := do
  ((← get).world.query [.holder, .manaBar]).forM showManaOne

end WandArena.Stage
