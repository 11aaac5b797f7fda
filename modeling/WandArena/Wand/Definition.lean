import WandArena.Geometry
import WandArena.Stats.Basic

/-! Cards, blueprints and wands, as they are defined once and shared by every holder. -/
namespace WandArena

/-- What happens when a projectile ends. -/
inductive ShotKind
  | normal
  /-- Casts its payload when the projectile hits something. -/
  | trigger
  /-- Casts its payload once some ticks have passed. -/
  | timer (delay : Int)
  deriving DecidableEq, Repr

/-- One thing a card does when it is paid for. -/
inductive Effect (α : Type)
  /-- Stacks stats onto every card drawn after it in the branch. -/
  | modifier (stats : Stats α)
  /-- Draws once for each offset, under that offset. -/
  | multicast (formation : List (Transform α))
  /-- Emits one projectile. -/
  | projectile (blueprint : String) (kind : ShotKind)
  deriving Repr

/-- A spell card. -/
structure Card (α : Type) where
  id : String
  name : String
  manaCost : Int := 0
  /-- Added to the time until the next cast. -/
  castDelay : Int := 0
  /-- Added to the time until the deck is dealt anew. -/
  rechargeDelay : Int := 0
  effects : List (Effect α) := []
  symbol : String := "?"
  deriving Repr

/-- Base stats and look of a projectile. -/
structure Blueprint (α : Type) where
  id : String
  stats : Stats α := {}
  glyph : String := "*"
  color : Int := 255
  deriving Repr

/-- A loadout of cards with base timing and mana. -/
structure Wand (α : Type) where
  id : String
  name : String
  cards : List String := []
  maxMana : Int := 100
  /-- Mana regained per tick. -/
  manaRecharge : α
  castDelay : Int := 10
  rechargeDelay : Int := 30
  /-- Radians of jitter. -/
  spread : α
  deriving Repr

end WandArena
