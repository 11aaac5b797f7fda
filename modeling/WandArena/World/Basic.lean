import WandArena.World.Component

/-! The world: entities and their components.

Entities are numbered in the order of their creation and a number is never used again.
The components lie in one table per kind. Destruction is deferred: an entity is first
marked, and from then on it counts as dead and no query finds it, and its components go
away when the marked entities are removed. -/
namespace WandArena

structure World (α : Type) where
  nextId : Int
  existing : Std.ExtTreeSet Int compare
  /-- The entities marked for removal. -/
  marked : Std.ExtTreeSet Int compare
  positions : Table (Vec α)
  velocities : Table (Vec α)
  rotations : Table α
  angularVelocities : Table α
  looks : Table Look
  manaBars : Table Int
  projectileTags : Table Unit
  turretTags : Table Unit
  projectiles : Table (Projectile α)
  holders : Table (Holder α)

namespace World
variable {α : Type}

def empty : World α := ⟨0, ∅, ∅, ∅, ∅, ∅, ∅, ∅, ∅, ∅, ∅, ∅, ∅⟩

/-- The components of one kind. -/
def table (w : World α) : (k : ComponentKind) → Table (k.Value α)
  | .position => w.positions
  | .velocity => w.velocities
  | .rotation => w.rotations
  | .angularVelocity => w.angularVelocities
  | .look => w.looks
  | .manaBar => w.manaBars
  | .projectileTag => w.projectileTags
  | .turretTag => w.turretTags
  | .projectile => w.projectiles
  | .holder => w.holders

/-- The world with other components of one kind. -/
def setTable (w : World α) : (k : ComponentKind) → Table (k.Value α) → World α
  | .position, t => { w with positions := t }
  | .velocity, t => { w with velocities := t }
  | .rotation, t => { w with rotations := t }
  | .angularVelocity, t => { w with angularVelocities := t }
  | .look, t => { w with looks := t }
  | .manaBar, t => { w with manaBars := t }
  | .projectileTag, t => { w with projectileTags := t }
  | .turretTag, t => { w with turretTags := t }
  | .projectile, t => { w with projectiles := t }
  | .holder, t => { w with holders := t }

@[simp] theorem table_setTable (w : World α) (k : ComponentKind) (t : Table (k.Value α)) :
    (w.setTable k t).table k = t := by
  cases k <;> rfl

theorem table_setTable_of_ne (w : World α) {j k : ComponentKind} (t : Table (k.Value α))
    (h : j ≠ k) : (w.setTable k t).table j = w.table j := by
  cases j <;> cases k <;> simp_all [table, setTable]

@[simp] theorem existing_setTable (w : World α) (k : ComponentKind) (t : Table (k.Value α)) :
    (w.setTable k t).existing = w.existing := by
  cases k <;> rfl

@[simp] theorem marked_setTable (w : World α) (k : ComponentKind) (t : Table (k.Value α)) :
    (w.setTable k t).marked = w.marked := by
  cases k <;> rfl

@[simp] theorem nextId_setTable (w : World α) (k : ComponentKind) (t : Table (k.Value α)) :
    (w.setTable k t).nextId = w.nextId := by
  cases k <;> rfl

/-- The component of a kind that an entity carries. -/
def get? (w : World α) (k : ComponentKind) (id : Int) : Option (k.Value α) := (w.table k)[id]?

def has (w : World α) (k : ComponentKind) (id : Int) : Bool := (w.table k).contains id

/-- Gives an entity a component, in place of one of the same kind. -/
def put (w : World α) (k : ComponentKind) (id : Int) (value : k.Value α) : World α :=
  w.setTable k ((w.table k).insert id value)

/-- Takes a component away. -/
def drop (w : World α) (k : ComponentKind) (id : Int) : World α :=
  w.setTable k ((w.table k).erase id)

/-- Changes the component of a kind that an entity carries, if it carries one. -/
def change (w : World α) (k : ComponentKind) (id : Int) (f : k.Value α → k.Value α) : World α :=
  match w.get? k id with
  | some value => w.put k id (f value)
  | none => w

/-- After a put, the entity carries the new component and every other what it carried before. -/
theorem get?_put (w : World α) (k : ComponentKind) (id other : Int) (value : k.Value α) :
    (w.put k id value).get? k other = if other = id then some value else w.get? k other := by
  simp only [put, get?, table_setTable, Std.ExtTreeMap.getElem?_insert,
    Std.LawfulEqCmp.compare_eq_iff_eq]
  simp only [eq_comm]

/-- A put of one kind leaves the components of every other kind alone. -/
theorem get?_put_of_ne (w : World α) {j k : ComponentKind} (h : j ≠ k) (id other : Int)
    (value : k.Value α) : (w.put k id value).get? j other = w.get? j other := by
  simp only [put, get?, table_setTable_of_ne w _ h]

/-- After a drop, the entity carries nothing of the kind and every other what it carried
before. -/
theorem get?_drop (w : World α) (k : ComponentKind) (id other : Int) :
    (w.drop k id).get? k other = if other = id then none else w.get? k other := by
  simp only [drop, get?, table_setTable, Std.ExtTreeMap.getElem?_erase,
    Std.LawfulEqCmp.compare_eq_iff_eq]
  simp only [eq_comm]

/-- A drop of one kind leaves the components of every other kind alone. -/
theorem get?_drop_of_ne (w : World α) {j k : ComponentKind} (h : j ≠ k) (id other : Int) :
    (w.drop k id).get? j other = w.get? j other := by
  simp only [drop, get?, table_setTable_of_ne w _ h]

/-- Whether an entity exists and is not marked for removal. -/
def isAlive (w : World α) (id : Int) : Bool := w.existing.contains id && !w.marked.contains id

/-- The number of entities alive. -/
def population (w : World α) : Int := (w.existing.size : Int) - w.marked.size

/-- A new entity with some components. -/
def create (w : World α) (components : List (Component α)) : Int × World α :=
  let id := w.nextId
  let born := { w with nextId := id + 1, existing := w.existing.insert id }
  (id, components.foldl (fun w c => w.put c.kind id c.value) born)

/-- Marks an entity for removal. -/
def destroy (w : World α) (id : Int) : World α :=
  if w.existing.contains id then { w with marked := w.marked.insert id } else w

/-- Removes one entity with all its components. -/
def remove (w : World α) (id : Int) : World α :=
  ComponentKind.all.foldl (fun w k => w.drop k id) { w with existing := w.existing.erase id }

/-- Removes every marked entity. -/
def removeMarked (w : World α) : World α :=
  { w.marked.toList.foldl remove w with marked := ∅ }

/-- Gives a component to an entity, which has to exist. -/
def attach (id : Int) (c : Component α) : Run (World α) Unit := do
  let w ← get
  if w.existing.contains id then set (w.put c.kind id c.value) else throw (.noEntity id)

/-- The kind with the fewest components, the earlier one of two that have equally many. -/
def rarest (w : World α) (first : ComponentKind) (others : List ComponentKind) : ComponentKind :=
  others.foldl (fun best k => if (w.table k).size < (w.table best).size then k else best) first

/-- The living entities that carry components of all the given kinds, in order of creation.
Only the table of the rarest kind is walked. -/
def query (w : World α) : List ComponentKind → List Int
  | [] => []
  | first :: others =>
    (w.table (w.rarest first others)).keys.filter fun id =>
      !w.marked.contains id && (first :: others).all (w.has · id)

/-- Everybody whom a query finds, with the components that were asked for. -/
def rows (w : World α) (kinds : List ComponentKind) : List (Int × List (Component α)) :=
  (w.query kinds).map fun id => (id, kinds.filterMap fun k => (w.get? k id).map (⟨k, ·⟩))

end World
end WandArena
