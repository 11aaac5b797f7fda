import WandArena.Schedule.Agenda
import WandArena.Schedule.Waiting

/-! The scheduler: an agenda of ticks beside a list of tasks that wait for events.

Neither side ever touches the other: ticks come and go without releasing an event,
and an event releases its tasks whatever is due. -/
namespace WandArena

structure Scheduler (ε τ : Type) where
  agenda : Agenda τ
  waiting : Waiting ε τ

namespace Scheduler
variable {ε τ : Type}

def empty : Scheduler ε τ := ⟨.empty, .empty⟩

def schedule (s : Scheduler ε τ) (tick : Int) (task : τ) : Scheduler ε τ :=
  { s with agenda := s.agenda.schedule tick task }

def popDue (s : Scheduler ε τ) (tick : Int) : List τ × Scheduler ε τ :=
  let (due, agenda) := s.agenda.popDue tick
  (due, { s with agenda })

def scheduleOn (s : Scheduler ε τ) (event : ε) (task : τ) : Scheduler ε τ :=
  { s with waiting := s.waiting.register event task }

def trigger [DecidableEq ε] (s : Scheduler ε τ) (event : ε) : List τ × Scheduler ε τ :=
  let (tasks, waiting) := s.waiting.release event
  (tasks, { s with waiting })

end Scheduler
end WandArena
