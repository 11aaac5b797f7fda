import WandArena.Catalog.Standard
import WandArena.Dice.Twister
import WandArena.Journal
import WandArena.Schedule.Agenda
import WandArena.World.Basic

/-! The stage: everything that a cast can see and change.

Tasks that wait for an event are not part of it, so nothing a cast does can touch them. -/
namespace WandArena

/-- Limits shared by every wand, and the size of the arena. -/
structure Settings where
  /-- The capacity of every pile. -/
  maxDeckSize : Int := 64
  /-- How deep draws may nest in one cast. -/
  maxCastDepth : Int := 256
  arenaWidth : Int := 80
  arenaHeight : Int := 24
  deriving DecidableEq, Repr

structure Stage (α : Type) where
  world : World α
  agenda : Agenda Action
  tick : Int
  catalog : Catalog α
  rules : MergeRules
  settings : Settings
  dice : Twister
  /-- Whether casts are followed closely in the journal. -/
  traced : Bool
  /-- Why a wand was stopped, by the holder's id. -/
  halted : Table String
  journal : Array (Record α)

namespace Stage
variable {α : Type}

/-- A stage at its start, with a generator for all its rolls. -/
def start (catalog : Catalog α) (rules : MergeRules) (settings : Settings) (dice : Twister)
    (traced : Bool) : Stage α :=
  ⟨.empty, .empty, 0, catalog, rules, settings, dice, traced, ∅, #[]⟩

def log (record : Record α) : Run (Stage α) Unit :=
  modify fun s => { s with journal := s.journal.push record }

/-- Notes about a cast, which the journal takes only while casts are followed closely. -/
def noteAll (notes : Array (CastNote α)) : Run (Stage α) Unit :=
  modify fun s => if s.traced then { s with journal := s.journal ++ notes.map .cast } else s

def note (n : CastNote α) : Run (Stage α) Unit := noteAll #[n]

/-- Runs an operation on the world. -/
def onWorld {β : Type} (act : Run (World α) β) : Run (Stage α) β :=
  Run.within (·.world) (fun world s => { s with world }) act

def findWand (id : String) : Run (Stage α) (Wand α) := do
  Run.lift ((← get).catalog.wand id)

def findBlueprint (id : String) : Run (Stage α) (Blueprint α) := do
  Run.lift ((← get).catalog.blueprint id)

/-- Schedules an action some ticks from now. -/
def scheduleIn (delay : Int) (action : Action) : Run (Stage α) Unit :=
  modify fun s => { s with agenda := s.agenda.schedule (s.tick + delay) action }

/-- The wand that an entity holds. -/
def holderOf (id : Int) : Run (Stage α) (Holder α) := do
  Run.found (.noWand id) ((← get).world.get? .holder id)

/-- Runs an operation on the state of the wand that an entity holds. -/
def onWand {β : Type} (id : Int) (act : Run (WandState α) β) : Run (Stage α) β := do
  let holder ← holderOf id
  Run.within (fun _ => holder.state)
    (fun state s =>
      { s with world := s.world.put .holder id ({ holder with state } : Holder α) }) act

/-- What a cast of the given wand goes by. -/
def caster (s : Stage α) (wand : Wand α) : Caster α :=
  ⟨wand.id, s.catalog.cards, s.rules, s.settings.maxCastDepth⟩

variable [Scalar α]

/-- The next roll between two bounds. -/
def rollBetween (low high : α) : Run (Stage α) α := do
  let s ← get
  let (roll, dice) := s.dice.roll
  set { s with dice }
  return between low high roll

end Stage
end WandArena
