import WandArena.Number.Scalar

/-! The frame clock: how real time turns into ticks.

Time that has passed is added to a backlog, at most five frames of it at once, and each frame
works off at most four ticks. The rate is measured over half a second and more. -/
namespace WandArena

structure FrameClock (α : Type) where
  /-- The last reading. -/
  last : α
  /-- Time that no tick has used up yet. -/
  backlog : α
  /-- Time since the rate was last measured. -/
  measured : α
  /-- Ticks since the rate was last measured. -/
  ticks : Nat

namespace FrameClock
variable {α : Type} [Scalar α]

/-- The length of a tick: a sixtieth of a second. -/
def frameTime : α := Quantity.one / Quantity.whole 60

/-- A clock that starts at a reading. -/
def start (now : α) : FrameClock α := ⟨now, Quantity.zero, Quantity.zero, 0⟩

/-- Adds the time up to a reading. -/
def advance (c : FrameClock α) (now : α) : FrameClock α :=
  let delta := Quantity.least (now - c.last) (frameTime * Quantity.whole 5)
  { c with last := now, backlog := c.backlog + delta, measured := c.measured + delta }

/-- Works off the backlog, at most so many ticks of it. Returns how many there were. -/
def workOff : Nat → FrameClock α → Nat × FrameClock α
  | 0, c => (0, c)
  | limit + 1, c =>
    if frameTime ≤ c.backlog then
      let (count, c) :=
        workOff limit { c with backlog := c.backlog - frameTime, ticks := c.ticks + 1 }
      (count + 1, c)
    else (0, c)

/-- The ticks of one frame. -/
def takeTicks (c : FrameClock α) : Nat × FrameClock α := workOff 4 c

/-- The rate, once there is half a second to measure it by. -/
def measure (c : FrameClock α) : Option α × FrameClock α :=
  if (0.5 : α) ≤ c.measured then
    (some (Quantity.whole c.ticks / c.measured),
      { c with measured := Quantity.zero, ticks := 0 })
  else (none, c)

/-- How long to sleep at a reading in the frame that started at the last one. -/
def sleep? (c : FrameClock α) (now : α) : Option α :=
  let rest := frameTime - (now - c.last)
  if (0.001 : α) < rest then some (rest * 0.9) else none

end FrameClock
end WandArena
