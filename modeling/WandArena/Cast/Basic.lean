import WandArena.Geometry
import WandArena.Stats.Basic

/-! What a cast accumulates: a tree of projectiles and their payloads.

A projectile with a trigger or a timer carries the cast that its payload resolved to, so
casts nest as deep as payloads do. -/
namespace WandArena

/-- What a projectile carries for its end; `κ` is the type of payloads. -/
inductive Continuation (κ : Type)
  | normal
  | trigger (payload : Option κ)
  | timer (delay : Int) (payload : Option κ)

instance {κ : Type} : Inhabited (Continuation κ) := ⟨.normal⟩

/-- A projectile that waits to be launched, placed relative to the caster. -/
structure Shot (α κ : Type) where
  blueprint : String
  position : Vec α
  direction : α
  continuation : Continuation κ

/-- The accumulator of one cast, also the payload of a projectile. -/
structure Cast (α : Type) where
  transform : Transform α
  stats : Stats α
  /-- The projectiles in the order they were emitted. -/
  shots : List (Shot α (Cast α))
  forceRecharge : Bool
  castDelay : Int

namespace Cast
variable {α : Type} [Scalar α]

/-- A cast with nothing in it yet. -/
def fresh : Cast α := ⟨.identity, {}, [], false, 0⟩

instance : Inhabited (Cast α) := ⟨fresh⟩

end Cast
end WandArena
