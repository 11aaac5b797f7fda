import WandArena.Number.Scalar

/-! Plane geometry: vectors, angles and offsets relative to a caster.

The horizontal axis points right and the vertical axis points down the rows of the
arena. Angles are in radians; `normalizeAngle` brings one into half a turn on either
side of zero. -/
namespace WandArena

/-- A point or a displacement in the plane. -/
structure Vec (α : Type) where
  x : α
  y : α
  deriving BEq, Repr

/-- An offset: a position and a facing direction. -/
structure Transform (α : Type) where
  position : Vec α
  direction : α
  deriving BEq, Repr

/-- One of the two axes of the plane. -/
inductive Axis
  | x
  | y
  deriving DecidableEq, Repr

namespace Vec
variable {α : Type}

/-- The coordinate on an axis. -/
def on (v : Vec α) : Axis → α
  | .x => v.x
  | .y => v.y

/-- The vector with another coordinate on an axis. -/
def setOn (v : Vec α) (value : α) : Axis → Vec α
  | .x => { v with x := value }
  | .y => { v with y := value }

@[simp] theorem on_setOn (v : Vec α) (value : α) (a b : Axis) :
    (v.setOn value a).on b = if b = a then value else v.on b := by
  cases a <;> cases b <;> rfl

end Vec

variable {α : Type} [Scalar α]

namespace Vec

def zero : Vec α := ⟨Quantity.zero, Quantity.zero⟩

/-- The vector turned by an angle. -/
def rotate (v : Vec α) (angle : α) : Except NumberFault (Vec α) := do
  let cos ← Scalar.cos angle
  let sin ← Scalar.sin angle
  return ⟨v.x * cos - v.y * sin, v.x * sin + v.y * cos⟩

end Vec

namespace Transform

def identity : Transform α := ⟨Vec.zero, Quantity.zero⟩

/-- The child, an offset in the frame of `t`, seen from the frame that `t` is in. -/
def compose (t child : Transform α) : Except NumberFault (Transform α) := do
  let cos ← Scalar.cos t.direction
  let sin ← Scalar.sin t.direction
  let offset := child.position
  return {
    position := ⟨t.position.x + offset.x * cos - offset.y * sin,
      t.position.y + offset.x * sin + offset.y * cos⟩
    direction := t.direction + child.direction }

/-- Composes offsets from the outermost to the innermost. -/
def composeAll (t : Transform α) (children : List (Transform α)) :
    Except NumberFault (Transform α) :=
  children.foldlM compose t

end Transform

/-- The same angle above minus half a turn and up to half a turn. -/
def normalizeAngle (angle : α) : Except NumberFault α := do
  let turn : α := Quantity.whole 2 * Scalar.pi
  let rest ← Scalar.remainder angle turn
  return if rest ≤ -Scalar.pi then rest + turn
    else if Scalar.pi < rest then rest - turn
    else rest

/-- The line character closest to an angle. -/
def aimGlyph (angle : α) : Except NumberFault String := do
  let rest ← normalizeAngle angle
  let octant ← Scalar.nearest (rest / (Scalar.pi / Quantity.whole 4))
  return match (octant % 4).toNat with
    | 0 => "-"
    | 1 => "\\"
    | 2 => "|"
    | _ => "/"

end WandArena
