import WandArena.Schedule.Scheduler
import WandArena.Simulation.Casting

/-! Dispatching actions.

Despawning an entity first releases the tasks that wait for it, which may despawn others or
the same one again, and only then marks the entity. The open work is a list of jobs. A job is
replaced by those it calls for, and the work ends because every released task has left the
waiting list for good: each job makes `Simulation.load` smaller (`load_run_lt`). -/
namespace WandArena

/-- A stage with the tasks that wait for an event. -/
structure Simulation (α : Type) extends Stage α where
  waiting : Waiting Action Action

/-- A piece of open work. -/
inductive Job
  | act (action : Action)
  /-- Marks an entity for removal, once everything that waited for its end is done. -/
  | bury (id : Int)

namespace Stage
variable {α : Type} [Scalar α]

/-- Stops the wand of an entity for good. -/
def halt (holder : Int) (fault : ConfigFault) : Run (Stage α) Unit := do
  log (.halting holder)
  modify fun s => { s with
    world := s.world.drop .holder holder
    halted := s.halted.insert holder fault.message }

/-- Casts the wand of an entity, if it still holds one. A fault in the wand's content or limits
stops that wand and nothing else. -/
def shoot (holder : Int) : Run (Stage α) Unit := fun s =>
  if s.world.isAlive holder && s.world.has .holder holder then
    match castWand holder s with
    | .ok _ s => .ok () s
    | .error (.config fault) s => halt holder fault s
    | .error fault s => .error fault s
  else log (.dropping holder) s

end Stage

namespace Simulation
variable {α : Type}

/-- A simulation at its start: nothing in the world and nothing scheduled. -/
def start (catalog : Catalog α) (rules : MergeRules) (settings : Settings) (dice : Twister)
    (traced : Bool) : Simulation α :=
  ⟨.start catalog rules settings dice traced, .empty⟩

/-- Everything that is scheduled or waits. -/
def scheduler (sim : Simulation α) : Scheduler Action Action := ⟨sim.agenda, sim.waiting⟩

/-- Runs an operation on the stage. It cannot touch the tasks that wait. -/
def onStage {β : Type} (act : Run (Stage α) β) : Run (Simulation α) β :=
  Run.within (·.toStage) (fun stage sim => { sim with toStage := stage }) act

/-- Lets a task wait for an event. -/
def scheduleOn (event task : Action) : Run (Simulation α) Unit :=
  modify fun sim => { sim with waiting := sim.waiting.register event task }

/-- Takes out the tasks that wait for an event. -/
def release (event : Action) : Run (Simulation α) (List Action) :=
  modifyGet fun sim =>
    let (tasks, waiting) := sim.waiting.release event
    (tasks, { sim with waiting })

/-- The weight of open work. -/
def weight : List Job → Nat
  | [] => 0
  | .act _ :: rest => 2 + weight rest
  | .bury _ :: rest => 1 + weight rest

/-- What bounds the work still to come: open jobs and waiting tasks. -/
def load (jobs : List Job) (sim : Simulation α) : Nat :=
  2 * sim.waiting.entries.length + weight jobs

@[simp] theorem weight_append (a b : List Job) : weight (a ++ b) = weight a + weight b := by
  induction a with
  | nil => simp [weight]
  | cons job rest ih => cases job <;> simp [weight, ih] <;> omega

@[simp] theorem weight_map_act (tasks : List Action) :
    weight (tasks.map .act) = 2 * tasks.length := by
  induction tasks with
  | nil => rfl
  | cons _ _ ih =>
    simp only [List.map_cons, weight, ih, List.length_cons]
    omega

variable [Scalar α]

/-- Does one job and says what it calls for next. -/
def runJob : Job → Run (Simulation α) (List Job)
  | .bury id => do
    onStage (modify fun s => { s with world := s.world.destroy id })
    return []
  | .act action =>
    match action.kind with
    | .shootWand => do
      onStage (Stage.shoot action.entity)
      return []
    | .despawnEntity => do
      if (← get).world.isAlive action.entity then
        let tasks ← release (.onDespawn action.entity)
        return tasks.map .act ++ [.bury action.entity]
      else return []
    | .debugLog => do
      onStage (Stage.log (.debugLog action.message))
      return []
    | .onDespawn | .other _ => do
      onStage (Stage.log (.unknownAction action))
      return []

omit [Scalar α] in
/-- An operation on the stage leaves the waiting tasks alone. -/
theorem waiting_onStage {β : Type} {act : Run (Stage α) β} {sim sim' : Simulation α} {b : β}
    (h : onStage act sim = .ok b sim') : sim'.waiting = sim.waiting := by
  unfold onStage Run.within at h
  split at h <;> cases h
  rfl

omit [Scalar α] in
private theorem waiting_of_stage_job {act : Run (Stage α) Unit} {sim sim' : Simulation α}
    {jobs : List Job} (h : (do onStage act; return []) sim = .ok jobs sim') :
    jobs = [] ∧ sim'.waiting = sim.waiting := by
  cases hact : onStage act sim with
  | ok _ mid =>
    have hstep : (do onStage act; return ([] : List Job)) sim = .ok [] mid := by
      simp [bind, EStateM.bind, hact, pure, EStateM.pure]
    rw [hstep] at h
    cases h
    exact ⟨rfl, waiting_onStage hact⟩
  | error fault mid =>
    have hstep : (do onStage act; return ([] : List Job)) sim = .error fault mid := by
      simp [bind, EStateM.bind, hact]
    rw [hstep] at h
    cases h

/-- Despawning a living entity takes out the tasks that wait for its end and puts its removal
behind them; despawning any other does nothing. -/
theorem runJob_despawnEntity {action : Action} (h : action.kind = .despawnEntity)
    (sim : Simulation α) :
    runJob (.act action) sim =
      if sim.world.isAlive action.entity then
        .ok ((sim.waiting.release (.onDespawn action.entity)).1.map .act ++ [.bury action.entity])
          { sim with waiting := (sim.waiting.release (.onDespawn action.entity)).2 }
      else .ok [] sim := by
  simp only [runJob, h]
  change (if sim.world.isAlive action.entity then _ else _ : Run _ _) sim = _
  cases sim.world.isAlive action.entity <;> rfl

/-- Doing a job leaves less to do. -/
theorem load_run_lt {job : Job} {rest more : List Job} {sim sim' : Simulation α}
    (h : runJob job sim = .ok more sim') : load (more ++ rest) sim' < load (job :: rest) sim := by
  have hnone {act : Run (Stage α) Unit} (hpos : 0 < weight [job])
      (h : (do onStage act; return []) sim = .ok more sim') :
      load (more ++ rest) sim' < load (job :: rest) sim := by
    obtain ⟨rfl, hwait⟩ := waiting_of_stage_job h
    have hsplit : weight (job :: rest) = weight [job] + weight rest :=
      weight_append [job] rest
    simp only [load, hwait, List.nil_append]
    omega
  cases job with
  | bury id => exact hnone (by simp [weight]) h
  | act action =>
    have hpos : 0 < weight [.act action] := by simp [weight]
    cases hkind : action.kind with
    | shootWand =>
      simp only [runJob, hkind] at h
      exact hnone hpos h
    | despawnEntity =>
      rw [runJob_despawnEntity hkind] at h
      split at h <;> cases h
      · have hkeep := sim.waiting.length_release (.onDespawn action.entity)
        simp only [load, weight, weight_append, weight_map_act]
        omega
      · simp only [load, weight, List.nil_append]
        omega
    | onDespawn | debugLog | other =>
      simp only [runJob, hkind] at h
      exact hnone hpos h

/-- Does all open work, the first job first. A fault leaves the rest undone. -/
def perform (jobs : List Job) : Run (Simulation α) Unit := fun sim =>
  match jobs with
  | [] => .ok () sim
  | job :: rest =>
    match _h : runJob job sim with
    | .ok more sim' => perform (more ++ rest) sim'
    | .error fault sim' => .error fault sim'
termination_by sim => load jobs sim
decreasing_by exact load_run_lt ‹_›

/-- Acts on an action and on everything it sets off. -/
def handle (action : Action) : Run (Simulation α) Unit := perform [.act action]

/-- Acts on every task that waits for an event. -/
def trigger (event : Action) : Run (Simulation α) Unit := do
  let tasks ← release event
  perform (tasks.map .act)

end Simulation
end WandArena
