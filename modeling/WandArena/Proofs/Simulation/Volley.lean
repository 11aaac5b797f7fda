import WandArena.Proofs.Simulation.Misfire
import WandArena.Proofs.Simulation.Progress

/-! What launching the shots of a cast does to a stage.

Every projectile gets the next number and takes two rolls, whatever its stats are, so which rolls
it gets and what dice are left depend on nothing but its place in the cast (`Volley.aloft`,
`Volley.dice`). A projectile carries what projectiles carry and nothing else (`shotKinds`), and what
was there before is as it was (`launch_brings`). -/
namespace WandArena
variable {α : Type}

namespace Twister

/-- The dice after some rolls. -/
def after (dice : Twister) : Nat → Twister
  | 0 => dice
  | n + 1 => (dice.after n).fraction.2

theorem after_add (dice : Twister) (m n : Nat) : dice.after (m + n) = (dice.after m).after n := by
  induction n with
  | zero => rfl
  | succ n ih => exact congrArg (·.fraction.2) ih

/-- The roll that comes up after so many others, which have no influence on it. -/
def rollAt [Scalar α] (dice : Twister) (n : Nat) : α := (dice.after n).roll.1

end Twister

/-- The kinds of components that a projectile is launched with. -/
def shotKinds : List ComponentKind :=
  [.position, .velocity, .rotation, .look, .projectile, .projectileTag]

namespace Stage
variable [Scalar α] {muzzle : Muzzle α} {spread : α} {castStats : Stats α}
  {shot : Shot α (Cast α)} {shots : List (Shot α (Cast α))} {f : Flight α}
  {flights : List (Flight α)} {s t : Stage α}

/-! ### One launch -/

theorem kinds_components (f : Flight α) (muzzle : Muzzle α) (shot : Shot α (Cast α)) :
    (f.components muzzle shot).map (·.kind) = shotKinds := rfl

theorem dice_launched (f : Flight α) : (s.launched muzzle shot f).dice = s.dice.after 2 := by
  unfold launched scheduleEnd
  split
  · show (if s.traced = true then _ else _ : Stage α).dice = _
    split <;> rfl
  · rfl

/-- A projectile goes by its number, the content, the rules and the dice. -/
theorem Flies.of_same (h : s.Flies muzzle spread castStats shot f)
    (hnext : t.world.nextId = s.world.nextId) (hbackdrop : t.backdrop = s.backdrop)
    (hdice : t.dice = s.dice) : t.Flies muzzle spread castStats shot f where
  id := h.id.trans hnext.symm
  blueprint := by
    have hcatalog : t.catalog = s.catalog := congrArg Backdrop.catalog hbackdrop
    rw [hcatalog]
    exact h.blueprint
  stats := by
    have hrules : t.rules = s.rules := congrArg Backdrop.rules hbackdrop
    rw [hrules]
    exact h.stats
  offset := h.offset
  direction := by rw [hdice]; exact h.direction
  along := h.along
  across := h.across
  ends := h.ends
  lifetime := by rw [hdice]; exact h.lifetime

/-! ### One after another -/

/-- What a projectile finds when some were launched before it: as many numbers are given out, and
each of them took two rolls. -/
def inLine (s : Stage α) (place : Nat) : Stage α :=
  { s with
    world := { s.world with nextId := s.world.nextId + place }
    dice := s.dice.after (2 * place) }

namespace Volley

/-- Two rolls for each projectile, whatever becomes of them. -/
theorem dice (h : Volley muzzle spread castStats shots s flights t) :
    t.dice = s.dice.after (2 * shots.length) := by
  induction h with
  | nil => rfl
  | cons _ _ ih =>
    rw [ih, dice_launched, ← Twister.after_add]
    congr 1
    exact Nat.add_comm _ _

/-- Components of other kinds than those of projectiles are the same as before. -/
theorem kinds (h : Volley muzzle spread castStats shots s flights t) {k : ComponentKind}
    (hk : k ∉ shotKinds) (id : Int) : t.world.get? k id = s.world.get? k id := by
  induction h with
  | nil => rfl
  | @cons shot _ s _ f _ _ _ ih =>
    rw [ih, world_launched]
    exact s.world.get?_create_of_kind hk id

end Volley

/-- Projectile number `place` of a cast that is launched from `s`, once all of them are. -/
structure Aloft (s : Stage α) (muzzle : Muzzle α) (spread : α) (castStats : Stats α) (place : Nat)
    (shot : Shot α (Cast α)) (f : Flight α) (t : Stage α) : Prop where
  flies : (s.inLine place).Flies muzzle spread castStats shot f
  /-- Of its two rolls, the first one is for the direction. -/
  direction :
    let jitter := Quantity.greatest Quantity.zero (spread + f.stats.spread)
    normalizeAngle (muzzle.facing + shot.direction +
      between (-jitter) jitter (s.dice.rollAt (2 * place))) = .ok f.direction
  lifetime : Scalar.floor (between f.low f.high (s.dice.rollAt (2 * place + 1))) = .ok f.lifetime
  carries : ∀ c ∈ f.components muzzle shot, t.world.get? c.kind f.id = some c.value
  projectile : t.world.get? .projectile f.id = some {
    damage := f.stats.damage, bounces := f.stats.bounces, owner := muzzle.owner
    blueprint := some f.blueprint.id, continuation := shot.continuation }
  /-- A new entity of a sound world carries nothing else; and worlds stay sound, as
  `Simulation.Later.sound` says. -/
  exact : s.world.Sound → ∀ k, t.world.has k f.id = true ↔ k ∈ shotKinds

theorem Volley.carries (h : Volley muzzle spread castStats shots s flights t) {place : Nat}
    (hshot : shots[place]? = some shot) (hf : flights[place]? = some f) :
    (s.inLine place).Flies muzzle spread castStats shot f ∧
      ∀ c ∈ f.components muzzle shot, t.world.get? c.kind f.id = some c.value := by
  induction h generalizing place with
  | nil => cases hshot
  | @cons first _ s _ g _ hflies hrest ih =>
    cases place with
    | zero =>
      cases hshot
      cases hf
      exact ⟨hflies.of_same (Int.add_zero _) rfl rfl, carries_of_launched hflies hrest.wears⟩
    | succ place =>
      obtain ⟨hlater, hcarries⟩ := ih hshot hf
      refine ⟨hlater.of_same ?_ (backdrop_launched s muzzle first g).1.symm ?_, hcarries⟩
      · show s.world.nextId + ((place + 1 : Nat) : Int) =
          (s.launched muzzle first g).world.nextId + place
        rw [nextId_launched]
        omega
      · show s.dice.after (2 * (place + 1)) = (s.launched muzzle first g).dice.after (2 * place)
        rw [dice_launched, ← Twister.after_add]
        congr 1
        omega

theorem Volley.aloft (h : Volley muzzle spread castStats shots s flights t) {place : Nat}
    (hshot : shots[place]? = some shot) (hf : flights[place]? = some f) :
    s.Aloft muzzle spread castStats place shot f t := by
  obtain ⟨hflies, hcarries⟩ := h.carries hshot hf
  refine ⟨hflies, hflies.direction, hflies.lifetime, hcarries,
    hcarries _ (f.projectile_mem_components muzzle shot), fun hs k => ?_⟩
  constructor
  · intro hhas
    by_contra hk
    rw [World.has_eq, h.kinds hk, ← World.has_eq] at hhas
    have hborn := hs.numbered (hs.owned hhas)
    have hid : f.id = s.world.nextId + place := hflies.id
    omega
  · intro hk
    rw [← kinds_components f muzzle shot] at hk
    obtain ⟨c, hc, rfl⟩ := List.mem_map.1 hk
    exact World.has_of_get? (hcarries c hc)

/-! ### The projectiles of a cast -/

/-- What launching a cast brings to a stage, if this is worked out for its projectiles. -/
structure Brings (s : Stage α) (wand : Wand α) (cast : Cast α) (holder : Int)
    (flights : List (Flight α)) (t : Stage α) : Prop where
  /-- Only the shots of the cast itself are launched, none of those in their payloads. -/
  count : flights.length = cast.shots.length
  ids : flights.map (·.id) =
    (List.range cast.shots.length).map fun (i : Nat) => s.world.nextId + i
  aloft : ∀ place shot f, cast.shots[place]? = some shot → flights[place]? = some f →
    s.Aloft (muzzleOf s.world holder) wand.spread cast.stats place shot f t
  /-- The dice that are left depend on nothing but how many shots there are. -/
  dice : t.dice = s.dice.after (2 * cast.shots.length)
  /-- An end for each projectile that expires by itself. -/
  agenda : t.agenda = s.agenda.scheduleAll (flights.flatMap (Flight.due s.tick))
  nextId : t.world.nextId = s.world.nextId + cast.shots.length
  existing : ∀ id, t.world.existing.contains id = true ↔
    s.world.existing.contains id = true ∨ id ∈ flights.map (·.id)
  marked : t.world.marked = s.world.marked
  others : ∀ id, id ∉ flights.map (·.id) → ∀ k, t.world.get? k id = s.world.get? k id
  holders : t.world.holders = s.world.holders
  tick : t.tick = s.tick
  backdrop : t.backdrop = s.backdrop

/-- **Launching a cast brings one projectile for each of its shots, and each takes its own two
rolls.** The projectiles get the numbers that come next, in the order of the shots, and the
components of projectiles, with their owner, their blueprint and the payload that they carry. Every
one of them takes two rolls, for its direction and for its lifetime. An end is scheduled for those
that expire by themselves, in the same order, and whatever was there before is left alone. -/
theorem launch_brings {wand : Wand α} {cast : Cast α} {holder : Int} {ids : List Int}
    (h : launch wand cast holder s = .ok ids t) :
    ∃ flights, ids = flights.map (·.id) ∧ s.Brings wand cast holder flights t := by
  obtain ⟨flights, hvolley, hids⟩ := launched_mapM h
  obtain ⟨⟨hholders, hmarked, -, hexisting, -, -⟩, -⟩ := (launch_keeps wand cast holder).of_ok h
  exact ⟨flights, hids, {
    count := hvolley.length
    ids := hvolley.ids
    aloft := fun _ _ _ => hvolley.aloft
    dice := hvolley.dice
    agenda := hvolley.schedules
    nextId := hvolley.nextId
    existing := fun id => (hexisting id).trans (or_congr_right hvolley.mem_ids.symm)
    marked := hmarked
    others := fun _ => hvolley.others
    holders := hholders
    tick := hvolley.backdrop.2
    backdrop := hvolley.backdrop.1 }⟩

/-! Two sparks, the first of which carries a third one. -/

section Salvo

/-- Numbers that turn by a hexagon. -/
local instance hexagon : Scalar Rat := level

def salvo : Cast Rat :=
  let inner : Shot Rat (Cast Rat) := ⟨"spark", ⟨0, 0⟩, 0, .normal⟩
  { Cast.fresh with
    shots := [⟨"spark", ⟨1, 0⟩, 0, .trigger (some { Cast.fresh with shots := [inner] })⟩,
      ⟨"spark", ⟨2, 0⟩, 0, .normal⟩] }

theorem launch_brings_salvo : ∃ t flights, launch early salvo 0 (wielding early) = .ok [1, 2] t ∧
    (wielding early).Brings early salvo 0 flights t ∧ t.world.nextId = 3 ∧
    t.dice = (wielding early).dice.after 4 ∧
    t.agenda.entries = [(10, .despawnEntity 1), (10, .despawnEntity 2)] := by
  have hlaunch : launch early salvo 0 (wielding early) =
      .ok [1, 2] (Run.left (launch early salvo 0 (wielding early))) :=
    Run.eq_ok_of_value? (by decide +kernel)
  obtain ⟨flights, -, hbrings⟩ := launch_brings hlaunch
  exact ⟨_, flights, hlaunch, hbrings, hbrings.nextId, hbrings.dice, by decide +kernel⟩

end Salvo

end Stage
end WandArena
