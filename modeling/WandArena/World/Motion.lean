import WandArena.World.Basic

/-! Motion: how entities move, turn and bounce within a tick. -/
namespace WandArena.World
variable {α : Type} [Scalar α]

/-- Moves one entity along its velocity for a stretch of time. -/
def moveOne (dt : α) (w : World α) (id : Int) : World α :=
  match w.get? .position id, w.get? .velocity id with
  | some position, some velocity =>
    w.put .position id (⟨position.x + velocity.x * dt, position.y + velocity.y * dt⟩ : Vec α)
  | _, _ => w

/-- Moves every entity that has a position and a velocity. -/
def move (w : World α) (dt : α) : World α :=
  (w.query [.position, .velocity]).foldl (moveOne dt) w

/-- Turns one entity by its angular velocity. -/
def turnOne (id : Int) : Run (World α) Unit := do
  let w ← get
  match w.get? .rotation id, w.get? .angularVelocity id with
  | some angle, some spin =>
    let angle : α ← Run.number (normalizeAngle (angle + spin))
    set (w.put .rotation id angle)
  | _, _ => return

/-- Turns every entity that has a facing angle and an angular velocity. -/
def turn : Run (World α) Unit := do
  ((← get).query [.rotation, .angularVelocity]).forM turnOne

/-- Whether a coordinate lies outside `0 … size - 1`. -/
def outside (size : Int) (x : α) : Bool :=
  x < Quantity.zero || Quantity.whole (size - 1) < x

/-- The closest coordinate inside `0 … size - 1`. -/
def clampInside (size : Int) (x : α) : Except NumberFault α := do
  let far ← Scalar.real size
  return Quantity.least (Quantity.greatest x Quantity.zero) (far - Quantity.one)

/-- Turns one entity around at the walls of one axis and puts it back onto the wall. -/
def reflect (axis : Axis) (size id : Int) : Run (World α) Unit := do
  modify fun w => w.change .velocity id fun (v : Vec α) => v.setOn (-v.on axis) axis
  match (← get).get? .position id with
  | some position =>
    let x ← Run.number (clampInside size (position.on axis))
    modify fun w => w.put .position id (position.setOn x axis)
  | none => return

/-- Bounces one projectile off the walls of an arena. One bounce is spent even in a corner.
Returns whether the projectile lies outside with no bounce left. -/
def bounceOne (width height id : Int) : Run (World α) Bool := do
  let w ← get
  match w.get? .position id, w.get? .velocity id, w.get? .projectile id with
  | some position, some _, some projectile =>
    let beside := outside width position.x
    let above := outside height position.y
    if !beside && !above then return false
    else if projectile.bounces ≤ 0 then return true
    else do
      let spent : Projectile α := { projectile with bounces := projectile.bounces - 1 }
      set (w.put .projectile id spent)
      if beside then reflect .x width id
      if above then reflect .y height id
      modify fun w =>
        match w.get? .velocity id with
        | some v => w.change .rotation id fun _ => Scalar.atan2 v.y v.x
        | none => w
      return false
  | _, _, _ => return false

/-- Bounces every projectile off the walls, and returns those that left the arena with no
bounce left. -/
def bounce (width height : Int) : Run (World α) (List Int) := do
  ((← get).query [.position, .velocity, .projectile]).filterM (bounceOne width height)

end WandArena.World
