import WandArena.Simulation.Stage

/-! Launching the projectiles of a cast.

Every projectile takes two rolls, one for its direction and one for its lifetime, even if
there is nothing to choose between. Payloads stay with their projectiles. -/
namespace WandArena.Stage
variable {α : Type} [Scalar α]

/-- Where projectiles start, which way their caster faces and who that is. -/
structure Muzzle (α : Type) where
  owner : Int
  origin : Vec α
  facing : α

/-- The muzzle of an entity: the corner of the arena, facing along the rows, where nothing else
is known. -/
def muzzleOf (w : World α) (owner : Int) : Muzzle α where
  owner := owner
  origin := (w.get? .position owner).getD Vec.zero
  facing := (w.get? .rotation owner).getD (Quantity.zero : α)

/-- The stats a projectile flies with: those of the cast, its blueprint's on top, then defaults. -/
def flightStats (rules : MergeRules) (cast : Stats α) (blueprint : Blueprint α) :
    Except Fault (FullStats α) :=
  match Stats.merge rules cast blueprint.stats with
  | .ok stats => .ok stats.resolve
  | .error fault => .error (.ofMerge fault)

/-- Schedules the end of a projectile, unless it never expires by itself. -/
def scheduleEnd (id lifetime : Int) : Run (Stage α) Unit :=
  if lifetime = -1 then note .endless else scheduleIn lifetime (.despawnEntity id)

/-- The components of a new projectile. -/
def shotComponents (muzzle : Muzzle α) (blueprint : Blueprint α) (stats : FullStats α)
    (position velocity : Vec α) (direction : α) (continuation : Continuation (Cast α)) :
    List (Component α) :=
  [⟨.position, position⟩, ⟨.velocity, velocity⟩, ⟨.rotation, direction⟩,
    ⟨.look, { glyph := blueprint.glyph, color := blueprint.color, layer := 8 }⟩,
    ⟨.projectile, {
      damage := stats.damage, bounces := stats.bounces, owner := muzzle.owner
      blueprint := some blueprint.id, continuation }⟩,
    ⟨.projectileTag, ()⟩]

/-- Launches one projectile and returns its id. -/
def launchOne (muzzle : Muzzle α) (spread : α) (castStats : Stats α) (shot : Shot α (Cast α)) :
    Run (Stage α) Int := do
  let blueprint ← findBlueprint shot.blueprint
  let stats ← Run.lift (flightStats (← get).rules castStats blueprint)
  let offset ← Run.number (shot.position.rotate muzzle.facing)
  let jitter := Quantity.greatest Quantity.zero (spread + stats.spread)
  let deviation ← rollBetween (-jitter) jitter
  let direction : α ← Run.number (normalizeAngle (muzzle.facing + shot.direction + deviation))
  let position : Vec α := ⟨muzzle.origin.x + offset.x, muzzle.origin.y + offset.y⟩
  let along : α ← Run.number (Scalar.cos direction)
  let across : α ← Run.number (Scalar.sin direction)
  let velocity : Vec α := ⟨along * stats.speed, across * stats.speed⟩
  let components :=
    shotComponents muzzle blueprint stats position velocity direction shot.continuation
  let id ← modifyGet fun s =>
    let (id, world) := s.world.create components
    (id, { s with world })
  let (low, high) ← Run.found .tooManyEnds stats.lifetime.ends?
  let lifetime ← Run.number (Scalar.floor (← rollBetween low high))
  scheduleEnd id lifetime
  return id

/-- Launches the projectiles of a cast in order and returns their ids. -/
def launch (wand : Wand α) (cast : Cast α) (holder : Int) : Run (Stage α) (List Int) := do
  let muzzle := muzzleOf (← get).world holder
  cast.shots.mapM (launchOne muzzle wand.spread cast.stats)

end WandArena.Stage
