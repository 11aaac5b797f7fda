/-! Tasks that wait for an event.

A waiting list keeps pairs of an event and a task in the order of registration.
Releasing an event takes out its tasks, in that order, and touches no other event. -/
namespace WandArena

structure Waiting (ε τ : Type) where
  entries : List (ε × τ)

namespace Waiting
variable {ε τ : Type}

def empty : Waiting ε τ := ⟨[]⟩

def register (waiting : Waiting ε τ) (event : ε) (task : τ) : Waiting ε τ :=
  ⟨waiting.entries ++ [(event, task)]⟩

variable [DecidableEq ε]

/-- The tasks that wait for an event, in the order of registration. -/
def tasksOf (waiting : Waiting ε τ) (event : ε) : List τ :=
  (waiting.entries.filter (·.1 = event)).map (·.2)

/-- Takes out the tasks that wait for an event. -/
def release (waiting : Waiting ε τ) (event : ε) : List τ × Waiting ε τ :=
  (waiting.tasksOf event, ⟨waiting.entries.filter (·.1 ≠ event)⟩)

/-- No task is lost: those released and those that still wait are all there were. -/
theorem length_release (waiting : Waiting ε τ) (event : ε) :
    (waiting.release event).1.length + (waiting.release event).2.entries.length =
      waiting.entries.length := by
  unfold release tasksOf
  rw [List.length_map]
  induction waiting.entries with
  | nil => rfl
  | cons entry rest ih =>
    by_cases h : entry.1 = event
    · simp [h] at ih ⊢
      omega
    · simp [h] at ih ⊢
      omega

end Waiting
end WandArena
