import WandArena.Number.Scalar

/-! Stats of a projectile.

A block of stats carries only the fields somebody set. `Stats.resolve` fills the
others with defaults, which leaves a block with every field present. -/
namespace WandArena

/-- A range of lifetimes in ticks: two ends, and whatever was strung on behind them. -/
structure Span (α : Type) where
  low : α
  high : α
  rest : List α := []
  deriving BEq, Repr

namespace Span
variable {α : Type}

/-- All bounds in order. -/
def bounds (span : Span α) : List α := span.low :: span.high :: span.rest

/-- One range strung on behind another. -/
def append (a b : Span α) : Span α := ⟨a.low, a.high, a.rest ++ b.bounds⟩

theorem bounds_append (a b : Span α) : (a.append b).bounds = a.bounds ++ b.bounds := rfl

def mapM {β : Type} {m : Type → Type} [Monad m] (f : α → m β) (span : Span α) : m (Span β) := do
  return ⟨← f span.low, ← f span.high, ← span.rest.mapM f⟩

/-- The two ends of a range, if there is nothing behind them. -/
def ends? (span : Span α) : Option (α × α) :=
  if span.rest.isEmpty then some (span.low, span.high) else none

end Span

/-- The fields of a block, in the order they are declared and merged. -/
inductive Stat
  | damage
  | speed
  | spread
  | bounces
  | lifetime
  deriving DecidableEq, Repr

namespace Stat

def all : List Stat := [.damage, .speed, .spread, .bounces, .lifetime]

def name : Stat → String
  | .damage => "damage"
  | .speed => "speed"
  | .spread => "spread"
  | .bounces => "bounces"
  | .lifetime => "lifetime"

end Stat

/-- Stats as cards and blueprints give them: a field may be absent. -/
structure Stats (α : Type) where
  damage : Option α := none
  speed : Option α := none
  /-- Radians of extra jitter. -/
  spread : Option α := none
  bounces : Option Int := none
  lifetime : Option (Span α) := none
  deriving BEq, Repr

/-- Stats with every field present, as a projectile flies with them. -/
structure FullStats (α : Type) where
  damage : α
  speed : α
  spread : α
  bounces : Int
  lifetime : Span α
  deriving Repr

namespace Stats

/-- Goes through the amounts of a block in order. -/
def mapM {α β : Type} {m : Type → Type} [Monad m] (f : α → m β) (s : Stats α) : m (Stats β) := do
  return {
    damage := ← s.damage.mapM f
    speed := ← s.speed.mapM f
    spread := ← s.spread.mapM f
    bounces := s.bounces
    lifetime := ← s.lifetime.mapM (Span.mapM f) }

/-- The block with every amount replaced. -/
def map {α β : Type} (f : α → β) (s : Stats α) : Stats β :=
  (s.mapM fun a => (pure (f a) : Id β)).run

variable {α : Type} [Quantity α]

/-- The lifetime range of a projectile that never expires by itself. -/
def endless : Span α := { low := Quantity.whole (-1), high := Quantity.whole (-1) }

def isEndless (span : Span α) : Bool := span == endless

/-- Every absent field takes its default: one second of lifetime, nothing of all else. -/
def resolve (s : Stats α) : FullStats α where
  damage := s.damage.getD (Quantity.whole 0)
  speed := s.speed.getD Quantity.zero
  spread := s.spread.getD Quantity.zero
  bounces := s.bounces.getD 0
  lifetime := s.lifetime.getD { low := Quantity.whole 60, high := Quantity.whole 60 }

end Stats

/-- The block in which each field is present. -/
def FullStats.toStats {α : Type} (s : FullStats α) : Stats α :=
  ⟨some s.damage, some s.speed, some s.spread, some s.bounces, some s.lifetime⟩

end WandArena
