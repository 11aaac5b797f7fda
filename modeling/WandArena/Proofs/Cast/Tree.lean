import Mathlib.Algebra.Ring.Int.Defs
import WandArena.Cast.Basic
import WandArena.Wand.Definition

/-! The tree of a cast: the cast itself and every payload its projectiles carry, however deep.

Emitting a projectile adds it and what it carries to the tree (`allShots_emit`, `allDelays_emit`);
nothing else that happens to a cast changes the projectiles in it (`allShots_congr`). -/
namespace WandArena
variable {α κ : Type}

namespace Continuation

/-- The kind of projectile that carries this. -/
def kind : Continuation κ → ShotKind
  | .normal => .normal
  | .trigger _ => .trigger
  | .timer delay _ => .timer delay

/-- A trigger and a timer carry a payload. -/
def Loaded : Continuation κ → Prop
  | .normal => True
  | .trigger payload => payload.isSome
  | .timer _ payload => payload.isSome

end Continuation

namespace Cast

mutual

/-- A cast and every cast in its payloads, outer ones first. -/
def tree : Cast α → List (Cast α)
  | ⟨transform, stats, shots, forceRecharge, castDelay⟩ =>
    ⟨transform, stats, shots, forceRecharge, castDelay⟩ :: treesOf shots

/-- The payloads of some projectiles with everything in them. -/
def treesOf : List (Shot α (Cast α)) → List (Cast α)
  | [] => []
  | shot :: rest => treeOf shot ++ treesOf rest

/-- The payload of a projectile with everything in it. -/
def treeOf : Shot α (Cast α) → List (Cast α)
  | ⟨_, _, _, carried⟩ => treeIn carried

def treeIn : Continuation (Cast α) → List (Cast α)
  | .normal | .trigger none | .timer _ none => []
  | .trigger (some payload) | .timer _ (some payload) => payload.tree

end

/-- The projectiles of a cast and of all its payloads. -/
def allShots (cast : Cast α) : List (Shot α (Cast α)) := cast.tree.flatMap (·.shots)

/-- The delays of a cast and of all its payloads together. -/
def allDelays (cast : Cast α) : Int := (cast.tree.map (·.castDelay)).sum

/-- The cast with one more projectile. -/
def emit (cast : Cast α) (shot : Shot α (Cast α)) : Cast α :=
  { cast with shots := cast.shots ++ [shot] }

theorem tree_eq (cast : Cast α) : cast.tree = cast :: treesOf cast.shots := by
  cases cast
  rfl

theorem treesOf_append (shots others : List (Shot α (Cast α))) :
    treesOf (shots ++ others) = treesOf shots ++ treesOf others := by
  induction shots with
  | nil => rfl
  | cons shot rest ih => simp only [List.cons_append, treesOf, ih, List.append_assoc]

theorem treesOf_emit (cast : Cast α) (shot : Shot α (Cast α)) :
    treesOf (cast.emit shot).shots = treesOf cast.shots ++ treeOf shot := by
  simp only [emit, treesOf_append, treesOf, List.append_nil]

theorem allShots_eq (cast : Cast α) :
    cast.allShots = cast.shots ++ (treesOf cast.shots).flatMap (·.shots) := by
  rw [allShots, tree_eq, List.flatMap_cons]

theorem allDelays_eq (cast : Cast α) :
    cast.allDelays = cast.castDelay + ((treesOf cast.shots).map (·.castDelay)).sum := by
  rw [allDelays, tree_eq, List.map_cons, List.sum_cons]

/-- The projectiles in a tree are those of the cast and of their payloads. -/
theorem allShots_congr {cast other : Cast α} (h : cast.shots = other.shots) :
    cast.allShots = other.allShots := by
  rw [allShots_eq, allShots_eq, h]

theorem allShots_emit (cast : Cast α) (shot : Shot α (Cast α)) :
    (cast.emit shot).allShots.Perm
      (cast.allShots ++ shot :: (treeOf shot).flatMap (·.shots)) := by
  have hshots : (cast.emit shot).shots = cast.shots ++ [shot] := rfl
  rw [allShots_eq, allShots_eq, treesOf_emit, hshots, List.flatMap_append, List.append_assoc,
    List.append_assoc, List.singleton_append]
  exact List.perm_middle.symm.append_left _

theorem allDelays_emit (cast : Cast α) (shot : Shot α (Cast α)) :
    (cast.emit shot).allDelays = cast.allDelays + ((treeOf shot).map (·.castDelay)).sum := by
  have hdelay : (cast.emit shot).castDelay = cast.castDelay := rfl
  rw [allDelays_eq, allDelays_eq, treesOf_emit, hdelay, List.map_append, List.sum_append]
  omega

end Cast
end WandArena
