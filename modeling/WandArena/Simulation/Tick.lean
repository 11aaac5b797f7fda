import WandArena.Simulation.Dispatch
import WandArena.World.Motion

/-! The tick loop.

A tick dispatches what is due, then lets time pass: wands regain mana, entities turn, move and
bounce, projectiles that left the arena are despawned, bars are drawn from mana, and marked
entities are removed. What a handler schedules for this tick or a past one is dispatched in the
next tick, since the due tasks are taken off before the first of them runs. -/
namespace WandArena.Simulation
variable {α : Type}

/-- Starts the next tick and takes off what is due in it. -/
def beginTick : Run (Simulation α) (List Action) :=
  modifyGet fun sim =>
    let tick := sim.tick + 1
    let (due, agenda) := sim.agenda.popDue tick
    (due, { sim with tick, agenda })

variable [Scalar α]

/-- Despawns the projectiles that left the arena. -/
def expire : Run (Simulation α) Unit := do
  let settings := (← get).settings
  let expired ← onStage (Stage.onWorld (World.bounce settings.arenaWidth settings.arenaHeight))
  expired.forM fun id => handle (.despawnEntity id)

/-- Advances one tick. -/
def step : Run (Simulation α) Unit := do
  let due ← beginTick
  due.forM handle
  onStage Stage.regainMana
  onStage (Stage.onWorld World.turn)
  modify fun sim => { sim with world := sim.world.move Quantity.one }
  expire
  onStage Stage.showMana
  modify fun sim => { sim with world := sim.world.removeMarked }

/-- Advances some ticks. -/
def run : Nat → Run (Simulation α) Unit
  | 0 => return
  | ticks + 1 => do
    step
    run ticks

end WandArena.Simulation
