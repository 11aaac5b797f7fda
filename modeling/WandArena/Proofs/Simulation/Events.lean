import WandArena.Proofs.Simulation.Progress

/-! Events: what the end of an entity sets off.

The dispatcher calls itself for every task that an event releases, also for an entity whose end is
being dispatched already and which counts as alive until that is done. `Works` counts the jobs that
are done until it ends; there are never more than the waiting tasks allow, whoever waits for whom.
`Calls` writes down every call with the event that caused it, and every dispatch that ends well is
of this kind (`calls_iff`). Once released, a task does not wait any more, so each is called once and
in its turn (`Calls.released`). -/
namespace WandArena

/-- Everybody alive has a number that was given out. -/
def World.Numbered {α : Type} (w : World α) : Prop := ∀ id, w.isAlive id = true → id < w.nextId

theorem World.Ages.numbered {α : Type} {v w : World α} (h : Ages v w) (hv : v.Numbered) :
    w.Numbered := by
  intro id halive
  rcases h.alive id halive with hbefore | ⟨_, hborn⟩
  · exact Int.lt_of_lt_of_le (hv id hbefore) h.nextId
  · exact hborn

namespace Waiting
variable {ε τ : Type} [DecidableEq ε]

/-- Released tasks do not wait any more, and all others do. -/
theorem tasksOf_release (waiting : Waiting ε τ) (event other : ε) :
    (waiting.release event).2.tasksOf other =
      if other = event then [] else waiting.tasksOf other := by
  unfold release tasksOf
  dsimp only
  rw [List.filter_filter]
  split
  case isTrue hsame =>
    subst hsame
    simp
  case isFalse hne =>
    congr 1
    refine List.filter_congr fun entry _ => ?_
    by_cases hentry : entry.1 = other <;> simp [hentry, hne]

theorem tasksOf_eq_nil_of_sublist {waiting later : Waiting ε τ}
    (h : later.entries.Sublist waiting.entries) {event : ε} (hnone : waiting.tasksOf event = []) :
    later.tasksOf event = [] := by
  have hsub : (later.tasksOf event).Sublist (waiting.tasksOf event) := (h.filter _).map _
  rw [hnone] at hsub
  exact List.sublist_nil.1 hsub

end Waiting

namespace Simulation
variable {α : Type} [Scalar α]

/-! ### Every dispatch ends -/

/-- So many jobs are done one after another, and this is how it ends. -/
inductive Works : Nat → List Job → Simulation α → EStateM.Result Fault (Simulation α) Unit → Prop
  | done {sim : Simulation α} : Works 0 [] sim (.ok () sim)
  | job {n : Nat} {job : Job} {more rest : List Job} {sim mid : Simulation α}
    {ending : EStateM.Result Fault (Simulation α) Unit} (hrun : runJob job sim = .ok more mid)
    (hrest : Works n (more ++ rest) mid ending) : Works (n + 1) (job :: rest) sim ending
  | fault {job : Job} {rest : List Job} {sim mid : Simulation α} {fault : Fault}
    (hrun : runJob job sim = .error fault mid) : Works 1 (job :: rest) sim (.error fault mid)

/-- All open work ends after no more jobs than the load allows. -/
theorem works_perform (jobs : List Job) (sim : Simulation α) :
    ∃ n ≤ load jobs sim, Works n jobs sim (perform jobs sim) := by
  induction jobs, sim using perform.induct with
  | case1 sim =>
    rw [perform_nil]
    exact ⟨0, Nat.zero_le _, .done⟩
  | case2 sim job rest more mid hrun ih =>
    obtain ⟨n, hn, hworks⟩ := ih
    have hless : load (more ++ rest) mid < load (job :: rest) sim := load_run_lt hrun
    rw [perform_cons_of_ok hrun]
    exact ⟨n + 1, by omega, .job hrun hworks⟩
  | case3 sim job rest fault mid hrun =>
    rw [perform_cons_of_error hrun]
    refine ⟨1, ?_, .fault hrun⟩
    cases job <;> simp only [load, weight] <;> omega

/-! ### The dispatcher as it calls itself -/

/-- Two stretches of open work are done one after the other. -/
theorem perform_append (jobs later : List Job) (sim : Simulation α) :
    perform (jobs ++ later) sim = (perform jobs >>= fun _ => perform later) sim := by
  induction jobs, sim using perform.induct with
  | case1 sim => rw [List.nil_append, Run.bind_apply_of_ok (perform_nil sim)]
  | case2 sim job rest more mid hrun ih =>
    rw [List.cons_append, perform_cons_of_ok hrun, ← List.append_assoc, ih]
    show EStateM.bind _ _ mid = EStateM.bind _ _ sim
    simp only [EStateM.bind, perform_cons_of_ok hrun]
  | case3 sim job rest fault mid hrun =>
    rw [List.cons_append, perform_cons_of_error hrun,
      Run.bind_apply_of_error (perform_cons_of_error hrun rest)]

/-- Actions in a row are handled one after another. -/
theorem perform_acts (actions : List Action) (sim : Simulation α) :
    perform (actions.map .act) sim = actions.forM handle sim := by
  induction actions generalizing sim with
  | nil => exact perform_nil sim
  | cons action rest ih =>
    show perform ([.act action] ++ rest.map .act) sim = _
    rw [perform_append]
    exact congrFun (bind_congr fun _ => funext ih) sim

/-- Handling actions one after another ends, whatever they are and however it ends. -/
theorem works_forM (actions : List Action) (sim : Simulation α) :
    ∃ n ≤ 2 * sim.waiting.entries.length + 2 * actions.length,
      Works n (actions.map .act) sim (actions.forM handle sim) := by
  rw [← perform_acts, ← weight_map_act]
  exact works_perform _ sim

theorem handle_of_dead {action : Action} {sim : Simulation α}
    (hkind : action.kind = .despawnEntity) (hdead : sim.world.isAlive action.entity = false) :
    handle action sim = .ok () sim := by
  refine perform_of_done ?_
  rw [runJob_despawnEntity hkind, hdead]
  rfl

/-- What becomes of an entity that is alive when its end is dispatched: all that waits for it is
dispatched, and then the entity is marked. -/
theorem handle_of_alive {action : Action} {sim : Simulation α}
    (hkind : action.kind = .despawnEntity) (halive : sim.world.isAlive action.entity = true) :
    handle action sim = (trigger (.onDespawn action.entity) >>= fun _ =>
      modify fun sim => { sim with world := sim.world.destroy action.entity }) sim := by
  have hrun := runJob_despawnEntity hkind sim
  rw [if_pos halive] at hrun
  have hbury : (perform [.bury action.entity] : Run (Simulation α) Unit) =
      modify fun sim => { sim with world := sim.world.destroy action.entity } :=
    funext fun mid => perform_of_done rfl
  rw [handle, perform_cons_of_ok hrun, List.append_nil, perform_append, hbury]
  rfl

theorem trigger_eq (event : Action) (sim : Simulation α) :
    trigger event sim = (sim.waiting.tasksOf event).forM handle
      { sim with waiting := (sim.waiting.release event).2 } :=
  perform_acts _ _

/-- Only the end of an entity takes tasks off the waiting list. -/
theorem waiting_handle {action : Action} {sim mid : Simulation α}
    (hkind : action.kind ≠ .despawnEntity) (h : handle action sim = .ok () mid) :
    mid.waiting = sim.waiting := by
  by_cases hshot : action.kind = .shootWand
  · obtain ⟨stage, -, rfl⟩ := handle_shootWand hshot h
    rfl
  · obtain ⟨record, hlog⟩ := handle_other sim hshot hkind
    cases hlog.symm.trans h
    rfl

/-! ### Calls -/

/-- One call of the dispatcher. -/
structure Call where
  /-- The event that released the task, if it was one that waited. -/
  cause : Option Action
  action : Action
  /-- The entity that it despawns, if that is alive by then. -/
  ends : Option Int := none

/-- These actions are handled one after another, all for the same cause, and these are the calls of
the dispatcher, including all that they set off, in the order in which they are made. -/
inductive Calls : Option Action → List Action → Simulation α → List Call → Simulation α → Prop
  | nil {cause : Option Action} {sim : Simulation α} : Calls cause [] sim [] sim
  | other {cause : Option Action} {action : Action} {rest : List Action}
    {sim mid sim' : Simulation α} {calls : List Call} (hkind : action.kind ≠ .despawnEntity)
    (hhandle : handle action sim = .ok () mid) (hrest : Calls cause rest mid calls sim') :
    Calls cause (action :: rest) sim ({ cause, action } :: calls) sim'
  /-- Nobody dies twice. -/
  | stale {cause : Option Action} {action : Action} {rest : List Action}
    {sim sim' : Simulation α} {calls : List Call} (hkind : action.kind = .despawnEntity)
    (hdead : sim.world.isAlive action.entity = false) (hrest : Calls cause rest sim calls sim') :
    Calls cause (action :: rest) sim ({ cause, action } :: calls) sim'
  | ending {cause : Option Action} {action : Action} {rest : List Action}
    {sim mid sim' : Simulation α} {inner calls : List Call} (hkind : action.kind = .despawnEntity)
    (halive : sim.world.isAlive action.entity = true)
    (hinner : Calls (some (.onDespawn action.entity))
      (sim.waiting.tasksOf (.onDespawn action.entity))
      { sim with waiting := (sim.waiting.release (.onDespawn action.entity)).2 } inner mid)
    (hrest : Calls cause rest { mid with world := mid.world.destroy action.entity } calls sim') :
    Calls cause (action :: rest) sim
      ({ cause, action, ends := some action.entity } :: (inner ++ calls)) sim'

section Reading
variable {cause : Option Action} {actions : List Action} {sim sim' : Simulation α}
  {calls : List Call}

theorem Calls.forM (h : Calls cause actions sim calls sim') :
    actions.forM handle sim = .ok () sim' := by
  induction h with
  | nil => rfl
  | other _ hhandle _ ih => exact (Run.bind_apply_of_ok hhandle _).trans ih
  | stale hkind hdead _ ih => exact (Run.bind_apply_of_ok (handle_of_dead hkind hdead) _).trans ih
  | @ending _ action _ sim mid _ _ _ hkind halive _ _ ihinner ih =>
    have hhandle : handle action sim =
        .ok () { mid with world := mid.world.destroy action.entity } := by
      rw [handle_of_alive hkind halive]
      exact Run.bind_apply_of_ok ((trigger_eq _ sim).trans ihinner) _
    exact (Run.bind_apply_of_ok hhandle _).trans ih

/-- Every dispatch that ends well has its calls. The induction is on the work that is open, which
both parts of a despawn make smaller: the tasks that are released leave the waiting list, and what
comes after them finds no more waiting than there was. -/
theorem calls_of_ok (cause : Option Action) (h : actions.forM handle sim = .ok () sim') :
    ∃ calls, Calls cause actions sim calls sim' := by
  induction hload : load (actions.map .act) sim using Nat.strong_induction_on
    generalizing actions sim sim' cause with
  | _ n ih =>
    cases actions with
    | nil =>
      cases h
      exact ⟨[], .nil⟩
    | cons action rest =>
      obtain ⟨_, mid, hhandle, hrest⟩ := Run.bind_eq_ok.1 h
      have hfewer := ((handle_proceeds action).of_ok hhandle).2.length_le
      simp only [load, weight_map_act, List.length_cons] at hload
      obtain ⟨calls, hcalls⟩ := ih _ (by simp only [load, weight_map_act]; omega) cause hrest rfl
      by_cases hkind : action.kind = .despawnEntity
      · cases halive : sim.world.isAlive action.entity with
        | false =>
          cases (handle_of_dead hkind halive).symm.trans hhandle
          exact ⟨_, .stale hkind halive hcalls⟩
        | true =>
          rw [handle_of_alive hkind halive] at hhandle
          obtain ⟨_, released, htrigger, hbury⟩ := Run.bind_eq_ok.1 hhandle
          cases hbury
          rw [trigger_eq] at htrigger
          have hkept := sim.waiting.length_release (.onDespawn action.entity)
          let freed : Simulation α :=
            { sim with waiting := (sim.waiting.release (.onDespawn action.entity)).2 }
          have hless :
              load ((sim.waiting.release (.onDespawn action.entity)).1.map .act) freed < n := by
            simp only [load, weight_map_act, freed]
            omega
          obtain ⟨inner, hinner⟩ := ih _ hless (some (.onDespawn action.entity)) htrigger rfl
          exact ⟨_, .ending hkind halive hinner hcalls⟩
      · exact ⟨_, .other hkind hhandle hcalls⟩

theorem calls_iff (cause : Option Action) :
    actions.forM handle sim = .ok () sim' ↔ ∃ calls, Calls cause actions sim calls sim' :=
  ⟨calls_of_ok cause, fun ⟨_, hcalls⟩ => hcalls.forM⟩

theorem Calls.proceeds (h : Calls cause actions sim calls sim') : proceeding.Allows sim sim' :=
  (Run.Keeps.forM handle_proceeds actions).of_ok h.forM

/-- Every call but the first ones is for a task that does not wait any more. -/
theorem Calls.count (h : Calls cause actions sim calls sim') :
    calls.length + sim'.waiting.entries.length = actions.length + sim.waiting.entries.length := by
  induction h with
  | nil => rfl
  | other hkind hhandle _ ih =>
    rw [waiting_handle hkind hhandle] at ih
    simp only [List.length_cons]
    omega
  | stale _ _ _ ih =>
    simp only [List.length_cons]
    omega
  | @ending _ action _ sim _ _ _ _ _ _ _ _ ihinner ih =>
    have hkept := sim.waiting.length_release (.onDespawn action.entity)
    have htasks : (sim.waiting.release (.onDespawn action.entity)).1 =
        sim.waiting.tasksOf (.onDespawn action.entity) := rfl
    rw [htasks] at hkept
    simp only [List.length_cons, List.length_append] at ihinner ih ⊢
    omega

/-- The actions that were called for one cause. -/
def calledFor (cause : Option Action) (calls : List Call) : List Action :=
  (calls.filter (·.cause = cause)).map (·.action)

omit [Scalar α] in
theorem calledFor_append (cause : Option Action) (calls later : List Call) :
    calledFor cause (calls ++ later) = calledFor cause calls ++ calledFor cause later := by
  rw [calledFor, List.filter_append, List.map_append]
  rfl

omit [Scalar α] in
theorem calledFor_cons (cause : Option Action) (call : Call) (calls : List Call) :
    calledFor cause (call :: calls) =
      (if call.cause = cause then [call.action] else []) ++ calledFor cause calls := by
  by_cases hcause : call.cause = cause <;> simp [calledFor, hcause]

/-- What waited for an event was called because of it, in the order of registration, or it waits
still. If the actions are handled because of that very event, nothing waits for it any more, and
these actions are all that is called because of it. -/
theorem Calls.released (h : Calls cause actions sim calls sim')
    (hgone : ∀ event, cause = some event → sim.waiting.tasksOf event = []) (event : Action) :
    calledFor (some event) calls ++ sim'.waiting.tasksOf event =
      (if cause = some event then actions else []) ++ sim.waiting.tasksOf event := by
  induction h with
  | nil => simp [calledFor]
  | @other cause action _ _ _ _ _ hkind hhandle _ ih =>
    have hwaiting := waiting_handle hkind hhandle
    rw [calledFor_cons, List.append_assoc, ih (hwaiting ▸ hgone), hwaiting]
    by_cases hcause : cause = some event <;> simp [hcause]
  | @stale cause action _ _ _ _ _ _ _ ih =>
    rw [calledFor_cons, List.append_assoc, ih hgone]
    by_cases hcause : cause = some event <;> simp [hcause]
  | @ending cause action rest sim mid sim' inner calls hkind _ hinner hrest ihinner ih =>
    -- The tasks that are released come back as the calls for the end of this entity.
    have hfreed : calledFor (some event) inner ++ mid.waiting.tasksOf event =
        sim.waiting.tasksOf event := by
      refine (ihinner fun other hother => ?_).trans ?_
      · cases hother
        rw [Waiting.tasksOf_release, if_pos rfl]
      · rw [Waiting.tasksOf_release]
        by_cases hsame : event = .onDespawn action.entity
        · rw [hsame, if_pos rfl, if_pos rfl, List.append_nil]
        · rw [if_neg fun h => hsame (Option.some.inj h).symm, if_neg hsame, List.nil_append]
    have hquiet (other : Action) (hother : cause = some other) :
        mid.waiting.tasksOf other = [] :=
      Waiting.tasksOf_eq_nil_of_sublist (hinner.proceeds.2.trans List.filter_sublist)
        (hgone other hother)
    have hlater := ih hquiet
    rw [calledFor_cons, calledFor_append, List.append_assoc, List.append_assoc, hlater]
    by_cases hcause : cause = some event
    · have hnone := hgone event hcause
      rw [hnone] at hfreed ⊢
      obtain ⟨hinnerNone, hmidNone⟩ := List.append_eq_nil_iff.1 hfreed
      rw [if_pos hcause, if_pos hcause, if_pos hcause, hinnerNone]
      simp [hquiet event hcause]
    · rw [if_neg hcause, if_neg hcause, if_neg hcause]
      simpa using hfreed

/-- Once the end of a living entity is dispatched, nothing waits for it any more. -/
theorem Calls.exhausted (h : Calls cause actions sim calls sim') {call : Call}
    (hcall : call ∈ calls) {id : Int} (hends : call.ends = some id) :
    sim'.waiting.tasksOf (.onDespawn id) = [] := by
  induction h with
  | nil => cases hcall
  | other _ _ _ ih | stale _ _ _ ih =>
    rcases List.mem_cons.1 hcall with rfl | hcall
    · cases hends
    · exact ih hcall
  | @ending _ action _ sim _ _ _ _ _ _ hinner hrest ihinner ih =>
    have hkept := hrest.proceeds.2
    rcases List.mem_cons.1 hcall with rfl | hcall
    · cases hends
      refine Waiting.tasksOf_eq_nil_of_sublist (hkept.trans hinner.proceeds.2) ?_
      rw [Waiting.tasksOf_release, if_pos rfl]
    · rcases List.mem_append.1 hcall with hcall | hcall
      · exact Waiting.tasksOf_eq_nil_of_sublist hkept (ihinner hcall)
      · exact ih hcall

/-- Whatever is called because of an event is called because of the end of a living entity. -/
theorem Calls.caused (h : Calls cause actions sim calls sim') {call : Call} (hcall : call ∈ calls) :
    call.cause = cause ∨ ∃ last ∈ calls, ∃ id, last.ends = some id ∧
      call.cause = some (.onDespawn id) := by
  induction h with
  | nil => cases hcall
  | other _ _ _ ih | stale _ _ _ ih =>
    rcases List.mem_cons.1 hcall with rfl | hcall
    · exact .inl rfl
    · obtain hsame | ⟨last, hlast, hcaused⟩ := ih hcall
      · exact .inl hsame
      · exact .inr ⟨last, List.mem_cons_of_mem _ hlast, hcaused⟩
  | @ending _ action _ _ _ _ _ _ _ _ _ _ ihinner ih =>
    rcases List.mem_cons.1 hcall with rfl | hcall
    · exact .inl rfl
    · rcases List.mem_append.1 hcall with hcall | hcall
      · obtain hsame | ⟨last, hlast, hcaused⟩ := ihinner hcall
        · exact .inr ⟨_, List.mem_cons_self, action.entity, rfl, hsame⟩
        · exact .inr ⟨last, List.mem_cons_of_mem _ (List.mem_append_left _ hlast), hcaused⟩
      · obtain hsame | ⟨last, hlast, hcaused⟩ := ih hcall
        · exact .inl hsame
        · exact .inr ⟨last, List.mem_cons_of_mem _ (List.mem_append_right _ hlast), hcaused⟩

/-- What is called for no cause is what was handed in. -/
theorem Calls.uncaused (h : Calls none actions sim calls sim') :
    calledFor none calls = actions := by
  generalize hcause : (none : Option Action) = cause at h
  induction h with
  | nil => rfl
  | other _ _ _ ih | stale _ _ _ ih =>
    rw [calledFor_cons, if_pos rfl, ih hcause, List.singleton_append]
  | @ending cause action rest _ _ _ inner _ _ _ hinner _ _ ih =>
    have hnone : calledFor cause inner = [] := by
      refine List.map_eq_nil_iff.2 (List.filter_eq_nil_iff.2 fun call hcall hsame => ?_)
      rw [decide_eq_true_iff, ← hcause] at hsame
      rcases hinner.caused hcall with hsome | ⟨_, _, _, _, hsome⟩
      · cases hsame.symm.trans hsome
      · cases hsame.symm.trans hsome
    rw [calledFor_cons, calledFor_append, if_pos rfl, hnone, ih hcause]
    rfl

/-- Whoever is alive when its end is dispatched is dead afterwards. -/
theorem Calls.dead (h : Calls cause actions sim calls sim') (hworld : sim.world.Numbered)
    {call : Call} (hcall : call ∈ calls) {id : Int} (hends : call.ends = some id) :
    id < sim'.world.nextId ∧ sim'.world.isAlive id = false := by
  induction h with
  | nil => cases hcall
  | @other _ action _ _ mid _ _ hkind hhandle _ ih =>
    rcases List.mem_cons.1 hcall with rfl | hcall
    · cases hends
    · exact ih (((handle_proceeds action).of_ok hhandle).1.world.numbered hworld) hcall
  | stale _ _ _ ih =>
    rcases List.mem_cons.1 hcall with rfl | hcall
    · cases hends
    · exact ih hworld hcall
  | @ending _ action _ sim mid sim' _ _ _ halive hinner hrest ihinner ih =>
    have hinside := hinner.proceeds.1.world
    have hmarked := World.ages_destroy mid.world action.entity
    have hafter := World.aging.trans hmarked hrest.proceeds.1.world
    rcases List.mem_cons.1 hcall with rfl | hcall
    · cases hends
      have hborn : action.entity < mid.world.nextId :=
        Int.lt_of_lt_of_le (hworld _ halive) hinside.nextId
      have hdies := World.isAlive_destroy_self mid.world action.entity
      exact ⟨Int.lt_of_lt_of_le hborn hafter.nextId,
        hrest.proceeds.1.world.dead (Int.lt_of_lt_of_le hborn hmarked.nextId) hdies⟩
    · rcases List.mem_append.1 hcall with hcall | hcall
      · obtain ⟨hborn, hdead⟩ := ihinner hworld hcall
        exact ⟨Int.lt_of_lt_of_le hborn hafter.nextId, hafter.dead hborn hdead⟩
      · exact ih (hmarked.numbered (hinside.numbered hworld)) hcall

end Reading

/-! ### Afterwards -/

/-- What may come of a simulation, however each operation ends: actions are handled, the parts of
ticks take place, wands are spawned and new tasks wait for events. -/
inductive Later (sim : Simulation α) : Simulation α → Prop
  | refl : Later sim sim
  | begin {mid : Simulation α} (h : Later sim mid) : Later sim (Run.left (beginTick mid))
  | handle {mid : Simulation α} (h : Later sim mid) (action : Action) :
    Later sim (Run.left (handle action mid))
  | drift {mid : Simulation α} (h : Later sim mid) : Later sim (Run.left (drift mid))
  | settle {mid : Simulation α} (h : Later sim mid) (gone : List Int) :
    Later sim (Run.left (settle gone mid))
  | remove {mid : Simulation α} (h : Later sim mid) :
    Later sim { mid with world := mid.world.removeMarked }
  | spawn {mid : Simulation α} (h : Later sim mid) (wandId : String) (target : Option Int) :
    Later sim (Run.left (onStage (Stage.spawnWand wandId target) mid))
  | wait {mid : Simulation α} (h : Later sim mid) (event task : Action) :
    Later sim (Run.left (scheduleOn event task mid))

theorem Later.trans {sim mid later : Simulation α} (h : Later sim mid) (h' : Later mid later) :
    Later sim later := by
  induction h' with
  | refl => exact h
  | begin _ ih => exact ih.begin
  | handle _ action ih => exact ih.handle action
  | drift _ ih => exact ih.drift
  | settle _ gone ih => exact ih.settle gone
  | remove _ ih => exact ih.remove
  | spawn _ wandId target ih => exact ih.spawn wandId target
  | wait _ event task ih => exact ih.wait event task

/-- A whole tick is made of these, however it ends. -/
theorem Later.step {sim mid : Simulation α} (h : Later sim mid) :
    Later sim (Run.left (step mid)) := by
  let aftermath : Run.Frame (Simulation α) := ⟨Later, fun _ => .refl, Later.trans⟩
  have hhandle (action : Action) : Run.Keeps aftermath (Simulation.handle (α := α) action) :=
    fun _ => .handle .refl action
  have hdrift : Run.Keeps aftermath (Simulation.drift (α := α)) := fun _ => .drift .refl
  have hsettle (gone : List Int) : Run.Keeps aftermath (Simulation.settle (α := α) gone) :=
    fun _ => .settle .refl gone
  have hstep : Run.Keeps aftermath (Simulation.step (α := α)) := by
    rw [step_eq]
    exact .bind (fun _ => .begin .refl) fun due => .bind (.forM hhandle due) fun _ =>
      .bind hdrift hsettle
  exact h.trans (hstep mid)

/-- Whoever is alive later was alive before or has come since. -/
theorem Later.ages {sim later : Simulation α} (h : Later sim later) :
    World.Ages sim.world later.world := by
  induction h with
  | refl => exact World.aging.refl _
  | begin _ ih => exact ih
  | handle _ action ih => exact World.aging.trans ih (handle_proceeds action _).1.world
  | drift _ ih => exact World.aging.trans ih (drift_proceeds _).1.world
  | settle _ gone ih => exact World.aging.trans ih (settle_proceeds gone _).1.world
  | remove _ ih => exact World.aging.trans ih (World.ages_removeMarked _)
  | spawn _ wandId target ih =>
    exact World.aging.trans ih (onStage_proceeds (Stage.spawnWand_proceeds wandId target) _).1.world
  | wait _ _ _ ih => exact ih

/-- What the calls tell of a dispatch that ended well. -/
structure Released (action : Action) (sim : Simulation α) (calls : List Call)
    (sim' : Simulation α) : Prop where
  /-- Each call but the first is for a task that does not wait any more. -/
  count : calls.length + sim'.waiting.entries.length = 1 + sim.waiting.entries.length
  /-- Every task that waited for an event was called for it once, in the order of registration, or
  it waits still. -/
  once : ∀ event,
    calledFor (some event) calls ++ sim'.waiting.tasksOf event = sim.waiting.tasksOf event
  /-- Nothing releases a task but the end of the living entity that it waits for. -/
  caused : ∀ call ∈ calls, ∀ event, call.cause = some event →
    ∃ last ∈ calls, ∃ id, last.ends = some id ∧ event = .onDespawn id
  /-- The end of a living entity releases all that wait for it. -/
  all : ∀ call ∈ calls, ∀ id, call.ends = some id →
    calledFor (some (.onDespawn id)) calls = sim.waiting.tasksOf (.onDespawn id)
  /-- That entity is dead from then on, and no later call for its end does anything. -/
  gone : sim.world.Numbered → ∀ call ∈ calls, ∀ id, call.ends = some id →
    ∀ later, Later sim' later → later.world.isAlive id = false ∧
      ∀ again : Action, again.kind = .despawnEntity → again.entity = id →
        handle again later = .ok () later
  /-- If the action itself is for the end of a living entity, it is the first call of this kind. -/
  first : action.kind = .despawnEntity → sim.world.isAlive action.entity = true →
    ∃ more, calls = { cause := none, action, ends := some action.entity } :: more
  /-- Whoever's end the action is for is not alive afterwards. -/
  dead : action.kind = .despawnEntity → sim'.world.isAlive action.entity = false

theorem Calls.settled {action : Action} {sim sim' : Simulation α} {calls : List Call}
    (h : Calls none [action] sim calls sim') : Released action sim calls sim' := by
  have honce := h.released nofun
  refine ⟨h.count, honce, fun call hcall event hcause => ?_, fun call hcall id hends => ?_,
    fun hworld call hcall id hends later hlater => ?_, fun hkind halive => ?_, fun hkind => ?_⟩
  · rcases h.caused hcall with hnone | ⟨last, hlast, id, hends, hcaused⟩
    · cases hcause.symm.trans hnone
    · exact ⟨last, hlast, id, hends, Option.some.inj (hcause.symm.trans hcaused)⟩
  · have hall := honce (.onDespawn id)
    rwa [h.exhausted hcall hends, List.append_nil] at hall
  · obtain ⟨hborn, hdead⟩ := h.dead hworld hcall hends
    have hstays := hlater.ages.dead hborn hdead
    exact ⟨hstays, fun again hkind hid => handle_of_dead hkind (hid ▸ hstays)⟩
  · cases h with
    | other hother => exact absurd hkind hother
    | stale _ hdead => exact absurd (halive.symm.trans hdead) nofun
    | ending => exact ⟨_, rfl⟩
  · cases h with
    | other hother => exact absurd hkind hother
    | stale _ hdead hrest =>
      cases hrest
      exact hdead
    | ending _ _ _ hrest =>
      cases hrest
      exact World.isAlive_destroy_self _ _

/-- **Every dispatch ends, and the end of an entity releases what waits for it once.** Whatever
waits for whatever, also in circles, a dispatch ends after no more jobs than twice the waiting tasks
and two more, and lets no task wait that did not. If it ends well, its calls tell all that was set
off: whenever the end of a living entity is dispatched, every task that waits for it is dispatched
once, in the order of registration, the entity is dead from then on, and no further despawn of it,
inside the dispatch or ever after, releases anything. -/
theorem dispatch_releases_once (sim : Simulation α) (action : Action) :
    (∃ n ≤ 2 * sim.waiting.entries.length + 2, Works n [.act action] sim (handle action sim)) ∧
      (Run.left (handle action sim)).waiting.entries.Sublist sim.waiting.entries ∧
      ∀ sim', handle action sim = .ok () sim' →
        (∃ calls, Calls none [action] sim calls sim') ∧
          ∀ calls, Calls none [action] sim calls sim' → Released action sim calls sim' := by
  refine ⟨?_, (handle_proceeds action sim).2, fun sim' h => ⟨?_, fun _ => Calls.settled⟩⟩
  · exact works_perform [.act action] sim
  · exact calls_of_ok none (Run.forM_singleton_apply h)

/-- Two entities whose ends wait for each other, and one of them for its own. -/
def entwined : Simulation Amount :=
  { start ⟨.empty, .empty, .empty⟩ {} {} ⟨.replicate 624 0, 624⟩ false with
    world := ((World.empty.create []).2.create []).2
    waiting := ⟨[(.onDespawn 0, .despawnEntity 1), (.onDespawn 1, .despawnEntity 0),
      (.onDespawn 0, .despawnEntity 0), (.onDespawn 1, .shootWand 0)]⟩ }

theorem dispatch_releases_once_entwined :
    ∃ calls sim', handle (.despawnEntity 0) entwined = .ok () sim' ∧
      Released (.despawnEntity 0) entwined calls sim' ∧
      calls.map (·.action) = [.despawnEntity 0, .despawnEntity 1, .despawnEntity 0, .shootWand 0,
        .despawnEntity 0] ∧ sim'.waiting.entries = [] := by
  have hcalls : Calls none [.despawnEntity 0] entwined _ _ :=
    .ending rfl (by decide +kernel)
      (.ending rfl (by decide +kernel)
        (.ending rfl (by decide +kernel) .nil
          (.other nofun (handle_shot rfl rfl) .nil))
        (.stale rfl (by decide +kernel) .nil)) .nil
  obtain ⟨_, _, hhandle, hend⟩ := Run.bind_eq_ok.1 hcalls.forM
  cases hend
  obtain ⟨-, -, hreleased⟩ := dispatch_releases_once entwined (.despawnEntity 0)
  exact ⟨_, _, hhandle, (hreleased _ hhandle).2 _ hcalls, rfl, rfl⟩

end Simulation
end WandArena
