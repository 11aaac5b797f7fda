import WandArena.Screen.Canvas
import WandArena.Simulation.Tick

/-! The sandbox: a row of spinning turrets, each casting one of the standard wands.

A restart builds a fresh simulation with one turret per wand; what the user chose in the
sandbox (the turret inspected, the pause, the notes on casts) stays. -/
namespace WandArena

structure Sandbox (α : Type) where
  canvas : Canvas
  wandIds : List String
  /-- The seed of every run. -/
  seed : Option Int
  /-- The seed of the next run, where no seed is given. -/
  spareSeed : Int
  debugCasts : Bool
  running : Bool
  paused : Bool
  /-- The place of the turret that is inspected. -/
  selected : Int
  showRate : Bool
  /-- Frames per second, as last measured. -/
  rate : α
  sim : Simulation α
  /-- The turrets in the order of their wands. -/
  turrets : List Int

namespace Sandbox
variable {α : Type}

/-- Runs an operation on the simulation. -/
def onSim {β : Type} (act : Run (Simulation α) β) : Run (Sandbox α) β :=
  Run.within (·.sim) (fun sim b => { b with sim }) act

/-- Runs an operation on the stage of the simulation. -/
def onStage {β : Type} (act : Run (Stage α) β) : Run (Sandbox α) β :=
  onSim (Simulation.onStage act)

variable [Scalar α]

/-- A sandbox without a simulation yet. -/
def blank (canvas : Canvas) (wandIds : List String) (seed : Option Int) (spareSeed : Int)
    (debugCasts : Bool) : Sandbox α where
  canvas := canvas
  wandIds := wandIds
  seed := seed
  spareSeed := spareSeed
  debugCasts := debugCasts
  running := true
  paused := false
  selected := 0
  showRate := false
  rate := 60.0
  sim := .start .standard {} {} (.ofSeed 0) false
  turrets := []

/-- How far a turret turns in a tick; neighbours turn in opposite directions. -/
def turretSpin (place : Nat) : α := if place % 2 = 0 then 0.025 else -0.025

/-- Where a turret stands: turrets stand in a row, evenly spaced. -/
def turretPosition (settings : Settings) (count place : Nat) : Except NumberFault (Vec α) := do
  let x ← Scalar.ratio (settings.arenaWidth * (place + 1)) (count + 1)
  let y ← Scalar.ratio settings.arenaHeight 2
  return ⟨x, y⟩

/-- The components of a turret. -/
def turretComponents (position : Vec α) (place : Nat) : List (Component α) :=
  [⟨.position, position⟩, ⟨.rotation, (Quantity.zero : α)⟩,
    ⟨.angularVelocity, (turretSpin place : α)⟩,
    ⟨.look, { glyph := "Ψ", color := Palette.white, layer := 10 }⟩, ⟨.turretTag, ()⟩]

/-- Builds one turret and gives it its wand. -/
def addTurret (count : Nat) (wandId : String) (place : Nat) : Run (Sandbox α) Unit := do
  let id ← onStage do
    let position ← Run.number (turretPosition (← get).settings count place)
    let id ← modifyGet fun s =>
      let (id, world) := s.world.create (turretComponents position place)
      (id, { s with world })
    Stage.spawnWand wandId (some id)
  modify fun b => { b with turrets := b.turrets ++ [id] }

/-- Puts a fresh simulation in place of the old one. The journal and the merge rules go on. -/
def renew : Run (Sandbox α) Unit :=
  modify fun b =>
    let settings : Settings :=
      { arenaWidth := b.canvas.width, arenaHeight := b.canvas.arenaHeight }
    let dice := Twister.ofSeed (b.seed.getD b.spareSeed)
    let sim := Simulation.start .standard b.sim.rules settings dice b.debugCasts
    { b with
      spareSeed := b.spareSeed + 1
      sim := { sim with journal := b.sim.journal }
      turrets := [] }

/-- Builds a fresh simulation with one turret per wand. -/
def restart : Run (Sandbox α) Unit := do
  renew
  let ids := (← get).wandIds
  ids.zipIdx.forM fun (id, place) => addTurret ids.length id place
  modify fun b => { b with selected := min b.selected (ids.length - 1) }
  onStage (Stage.log (.sandboxStarted ids (← get).seed))

/-- A blank canvas for a screen of the given size. -/
def canvasFor (width height : Int) : Except Fault Canvas :=
  Canvas.ofSize width (height - Canvas.displayRows)

/-- A running sandbox. -/
def start (canvas : Canvas) (wandIds : List String) (seed : Option Int) (spareSeed : Int)
    (debugCasts : Bool) : Except Fault (Sandbox α) :=
  match restart (blank canvas wandIds seed spareSeed debugCasts) with
  | .ok _ b => .ok b
  | .error fault _ => .error fault

/-- Lets a tick pass, unless the sandbox is paused. -/
def update : Run (Sandbox α) Unit := do
  if (← get).paused then return else onSim Simulation.step

/-- Lets some ticks pass. -/
def updateMany : Nat → Run (Sandbox α) Unit
  | 0 => return
  | ticks + 1 => do
    update
    updateMany ticks

/-- The turret that is inspected and its wand. -/
def inspected? (b : Sandbox α) : Option (Int × String) :=
  if b.selected < 0 then none
  else do return (← b.turrets[b.selected.toNat]?, ← b.wandIds[b.selected.toNat]?)

end Sandbox
end WandArena
