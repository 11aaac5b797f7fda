import WandArena.Screen.Canvas
import WandArena.World.Basic

/-! The scene: every visible entity drawn into the arena, lower layers first.

Within a layer the entity created later is drawn on top. One that holds a wand shows in the
neighbouring cell which way it aims. -/
namespace WandArena

namespace World
variable {α : Type}

/-- The visible entities in the order they are drawn. -/
def paintOrder (w : World α) : List (Int × Vec α × Look) :=
  let visible := (w.query [.position, .look]).filterMap fun id =>
    match w.get? .position id, w.get? .look id with
    | some position, some look => if look.visible then some (id, position, look) else none
    | _, _ => none
  visible.mergeSort fun a b => a.2.2.layer ≤ b.2.2.layer

end World

namespace Canvas
variable {α : Type} [Scalar α]

/-- Draws the aim of an entity in the cell ahead of it. -/
def paintAim (x y : Int) (angle : α) (color : Int) : Run Canvas Unit := do
  let across : α ← Run.number (Scalar.cos angle)
  let ax := x + (← Run.number (Scalar.nearest across))
  let down : α ← Run.number (Scalar.sin angle)
  let ay := y + (← Run.number (Scalar.nearest down))
  let glyph ← Run.number (aimGlyph angle)
  modify fun c => c.putInArena ax ay glyph color

/-- Draws one entity. -/
def paint (w : World α) (id : Int) (position : Vec α) (look : Look) : Run Canvas Unit := do
  let x ← Run.number (Scalar.nearest position.x)
  let y ← Run.number (Scalar.nearest position.y)
  modify fun c => c.putInArena x y look.glyph look.color
  match w.get? .rotation id with
  | some angle => if w.has .holder id then paintAim x y (angle : α) look.color else return
  | none => return

/-- Draws every visible entity. -/
def paintAll (w : World α) : Run Canvas Unit :=
  w.paintOrder.forM fun (id, position, look) => paint w id position look

end Canvas
end WandArena
