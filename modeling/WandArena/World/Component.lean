import Std.Data.ExtTreeMap
import Std.Data.ExtTreeSet
import WandArena.Cast.Basic
import WandArena.Wand.State

/-! Components: what an entity can carry.

An entity has at most one component of each kind. `ComponentKind.Value` says what a
component of a kind is. -/
namespace WandArena

/-- How an entity is drawn. -/
structure Look where
  glyph : String := "?"
  color : Int := 7
  /-- Higher layers are drawn on top. -/
  layer : Int := 0
  visible : Bool := true
  deriving DecidableEq, Repr

/-- The flight data of a launched projectile. -/
structure Projectile (α : Type) where
  damage : α
  bounces : Int
  owner : Int
  blueprint : Option String
  continuation : Continuation (Cast α)

/-- A wand and its state in the hands of an entity. -/
structure Holder (α : Type) where
  wand : String
  state : WandState α

inductive ComponentKind
  | position
  | velocity
  /-- The facing angle. -/
  | rotation
  /-- Radians added to the facing angle every tick. -/
  | angularVelocity
  | look
  /-- How full the holder's mana is shown, up to 255. -/
  | manaBar
  | projectileTag
  | turretTag
  | projectile
  | holder
  deriving DecidableEq, Repr

namespace ComponentKind

def all : List ComponentKind :=
  [position, velocity, rotation, angularVelocity, look, manaBar, projectileTag, turretTag,
    projectile, holder]

theorem mem_all (k : ComponentKind) : k ∈ all := by
  cases k <;> decide

/-- What a component of a kind is. -/
abbrev Value (α : Type) : ComponentKind → Type
  | position => Vec α
  | velocity => Vec α
  | rotation => α
  | angularVelocity => α
  | look => Look
  | manaBar => Int
  | projectileTag => Unit
  | turretTag => Unit
  | projectile => Projectile α
  | holder => Holder α

end ComponentKind

/-- A component of any kind. -/
structure Component (α : Type) where
  kind : ComponentKind
  value : kind.Value α

/-- Things found by the id of an entity. -/
abbrev Table (β : Type) := Std.ExtTreeMap Int β compare

end WandArena
