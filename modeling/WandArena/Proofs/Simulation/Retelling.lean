import WandArena.Proofs.Run.View
import WandArena.Proofs.Simulation.Dispatch
import WandArena.Simulation.Tick

/-! Runs whose journal is told in another way.

A `Telling` tells the journal of a run in another way: with other flags and in other words, but so
that all that is not a note on a cast is taken over record by record. Nothing that happens on a
stage depends on the flag or on the journal, so every operation does the same whichever way it is
told (`Seen` through `Telling.stage`), up to a whole tick (`Telling.step_seen`). -/
namespace WandArena
variable {α β : Type}

/-- Whether the record is a note on a cast. -/
def Record.isNote : Record α → Bool
  | .cast _ => true
  | _ => false

structure Telling (α : Type) where
  flag : Bool → Bool
  words : Array (Record α) → Array (Record α)
  /-- What is no note on a cast is taken over. -/
  record : ∀ journal {record : Record α}, record.isNote = false →
    words (journal.push record) = (words journal).push record
  /-- Notes on casts are taken over as the flag says. -/
  notes : ∀ traced journal (notes : Array (CastNote α)),
    words (if traced then journal ++ notes.map .cast else journal) =
      if flag traced then words journal ++ notes.map .cast else words journal

namespace Telling
variable (T : Telling α)

/-- The stage as it is told. -/
def stage (s : Stage α) : Stage α :=
  { s with traced := T.flag s.traced, journal := T.words s.journal }

open Run Stage

/-! ### Casting -/

theorem findWand_seen (id : String) : Seen T.stage (findWand id) (findWand id) :=
  .get_bind fun s => Seen.lift _ s

theorem findBlueprint_seen (id : String) : Seen T.stage (findBlueprint id) (findBlueprint id) :=
  .get_bind fun s => Seen.lift _ s

theorem holderOf_seen (id : Int) : Seen T.stage (holderOf id) (holderOf id) :=
  .get_bind fun s => Seen.found _ _ s

theorem log_seen {record : Record α} (h : record.isNote = false) :
    Seen T.stage (log record) (log record) :=
  .modify fun s => congrArg (fun journal => { T.stage s with journal }) (T.record s.journal h).symm

theorem noteAll_seen (notes : Array (CastNote α)) :
    Seen T.stage (noteAll notes) (noteAll notes) := by
  refine .modify fun s => ?_
  have hwords :
      T.stage (if s.traced then { s with journal := s.journal ++ notes.map .cast } else s) =
        { T.stage s with
          journal := if T.flag s.traced then T.words s.journal ++ notes.map .cast
            else T.words s.journal } := by
    rw [← T.notes]
    split <;> rfl
  rw [hwords]
  show (if T.flag s.traced = true then _ else _ : Stage α) = _
  split <;> rfl

theorem onWorld_seen (act : Run (World α) β) : Seen T.stage (onWorld act) (onWorld act) :=
  .within (.refl act) (fun _ => rfl) fun _ _ => rfl

theorem onWand_seen (id : Int) (act : Run (WandState α) β) :
    Seen T.stage (onWand id act) (onWand id act) :=
  .bind (T.holderOf_seen id) fun _ => .within (.refl act) (fun _ => rfl) fun _ _ => rfl

theorem scheduleIn_seen (delay : Int) (action : Action) :
    Seen T.stage (scheduleIn delay action) (scheduleIn delay action) :=
  .modify fun _ => rfl

theorem rearm_seen (wand : Wand α) (cast : Cast α) (holder : Int) :
    Seen T.stage (rearm wand cast holder) (rearm wand cast holder) := by
  refine .bind (T.holderOf_seen _) fun held => .bind (T.noteAll_seen _) fun _ => ?_
  split
  · refine .bind (T.noteAll_seen _) fun _ => .bind (T.scheduleIn_seen _ _) fun _ => ?_
    exact T.onWand_seen _ _
  · exact T.scheduleIn_seen _ _

theorem halt_seen (holder : Int) (fault : ConfigFault) :
    Seen T.stage (halt holder fault) (halt holder fault) :=
  .bind (T.log_seen rfl) fun _ => .modify fun _ => rfl

variable [Scalar α]

theorem rollBetween_seen (low high : α) :
    Seen T.stage (rollBetween low high) (rollBetween low high) := fun _ => rfl

theorem launchOne_seen (muzzle : Muzzle α) (spread : α) (castStats : Stats α)
    (shot : Shot α (Cast α)) :
    Seen T.stage (launchOne muzzle spread castStats shot)
      (launchOne muzzle spread castStats shot) := by
  refine .bind (T.findBlueprint_seen _) fun blueprint => .get_bind fun s =>
    Seen.bind (.lift _) (fun stats => ?_) s
  refine .bind (.number _) fun offset => .bind (T.rollBetween_seen _ _) fun deviation => ?_
  refine .bind (.number _) fun direction => .bind (.number _) fun along => ?_
  refine .bind (.number _) fun across => .bind (.modifyGet fun s => rfl) fun id => ?_
  refine .bind (.found _ _) fun ends => .bind (T.rollBetween_seen _ _) fun roll => ?_
  refine .bind (.number _) fun lifetime => .bind ?_ fun _ => .pure _
  unfold scheduleEnd
  split
  · exact T.noteAll_seen _
  · exact T.scheduleIn_seen _ _

theorem launch_seen (wand : Wand α) (cast : Cast α) (holder : Int) :
    Seen T.stage (launch wand cast holder) (launch wand cast holder) :=
  .get_bind fun s => Seen.mapM (T.launchOne_seen _ _ _) _ s

theorem resolveDraw_seen (holder depth : Int) (cast : Cast α) :
    Seen T.stage (resolveDraw holder depth cast) (resolveDraw holder depth cast) := by
  refine .bind (T.holderOf_seen _) fun held => .bind (T.findWand_seen _) fun wand => ?_
  refine .get_bind fun s => Seen.bind (T.onWand_seen _ _) (fun _ => ?_) s
  exact .bind (T.noteAll_seen _) fun _ => .pure _

theorem castWand_seen (holder : Int) : Seen T.stage (castWand holder) (castWand holder) := by
  refine .bind (T.holderOf_seen _) fun held => .bind (T.findWand_seen _) fun wand => ?_
  refine .bind (T.resolveDraw_seen _ _ _) fun (cast, fault) => ?_
  cases fault with
  | some fault => exact .throw fault
  | none =>
    refine .bind (T.onWand_seen _ _) fun _ => .bind (T.launch_seen _ _ _) fun _ => ?_
    exact .bind (T.rearm_seen _ _ _) fun _ => .pure _

theorem shoot_seen (holder : Int) : Seen T.stage (shoot holder) (shoot holder) := by
  intro s
  have hcast : castWand holder (T.stage s) = through T.stage (castWand holder s) :=
    T.castWand_seen holder s
  show (if s.world.isAlive holder && s.world.has .holder holder then _ else _) =
    through T.stage (if s.world.isAlive holder && s.world.has .holder holder then _ else _)
  split
  · rw [hcast]
    cases castWand holder s with
    | ok cast t => rfl
    | error fault t =>
      cases fault with
      | config fault => exact T.halt_seen holder fault t
      | _ => rfl
  · exact T.log_seen rfl s

theorem spawnWand_seen (wandId : String) (target : Option Int) :
    Seen T.stage (spawnWand wandId target) (spawnWand wandId target) := by
  refine .bind (T.findWand_seen _) fun wand => .get_bind fun s =>
    Seen.bind (.lift _) (fun _ => ?_) s
  refine .bind ?_ fun state => ?_
  · exact .bind (T.findWand_seen _) fun wand => .get_bind fun s => Seen.lift _ s
  · have hhold (id : Int) : Seen T.stage (hold id ⟨wandId, state⟩ wand.castDelay)
        (hold id ⟨wandId, state⟩ wand.castDelay) := by
      refine .bind (T.onWorld_seen _) fun _ => .bind (T.onWorld_seen _) fun _ => ?_
      exact .bind (T.scheduleIn_seen _ _) fun _ => .pure _
    cases target with
    | some id => exact .bind (.pure id) hhold
    | none => exact .bind (.modifyGet fun _ => rfl) hhold

theorem regainMana_seen : Seen T.stage (regainMana (α := α)) regainMana := by
  refine .get_bind fun s => Seen.forM (fun id => ?_) _ s
  refine .bind (T.holderOf_seen _) fun held => .bind (T.findWand_seen _) fun wand => ?_
  exact T.onWand_seen _ _

theorem showMana_seen : Seen T.stage (showMana (α := α)) showMana := by
  refine .get_bind fun s => Seen.forM (fun id => ?_) _ s
  refine .bind (T.holderOf_seen _) fun held => .bind (T.findWand_seen _) fun wand => ?_
  exact .bind (.number _) fun fill => .modify fun _ => rfl

/-! ### Dispatching -/

open Simulation

/-- The simulation as it is told. -/
def simulation (sim : Simulation α) : Simulation α := { sim with toStage := T.stage sim.toStage }

omit [Scalar α] in
theorem onStage_seen {act : Run (Stage α) β} (h : Seen T.stage act act) :
    Seen T.simulation (onStage act) (onStage act) :=
  .within h (fun _ => rfl) fun _ _ => rfl

theorem runJob_seen (job : Job) : Seen T.simulation (runJob (α := α) job) (runJob job) := by
  have hstage {act : Run (Stage α) Unit} (h : Seen T.stage act act) :
      Seen T.simulation (do onStage act; return ([] : List Job)) (do onStage act; return []) :=
    .bind (T.onStage_seen h) fun _ => .pure _
  have hlog {record : Record α} (h : record.isNote = false) := hstage (T.log_seen h)
  cases job with
  | bury id => exact hstage (.modify fun _ => rfl)
  | act action =>
    cases hkind : action.kind with
    | shootWand =>
      simp only [runJob, hkind]
      exact hstage (T.shoot_seen _)
    | despawnEntity =>
      intro sim
      unfold SeenAt
      rw [runJob_despawnEntity hkind, runJob_despawnEntity hkind]
      show (if sim.world.isAlive action.entity then _ else _) = through T.simulation _
      split <;> rfl
    | debugLog =>
      simp only [runJob, hkind]
      exact hlog rfl
    | onDespawn | other =>
      simp only [runJob, hkind]
      exact hlog rfl

/-- However much an action sets off, all of it is the same however it is told. -/
theorem perform_seen (jobs : List Job) :
    Seen T.simulation (perform (α := α) jobs) (perform jobs) := by
  intro sim
  show perform jobs (T.simulation sim) = through T.simulation (perform jobs sim)
  induction jobs, sim using Simulation.perform.induct with
  | case1 sim =>
    rw [perform_nil, perform_nil]
    rfl
  | case2 sim job rest more mid hrun ih =>
    have htold : runJob job (T.simulation sim) = .ok more (T.simulation mid) :=
      (T.runJob_seen job sim).trans (congrArg (through T.simulation) hrun)
    rw [perform_cons_of_ok htold, perform_cons_of_ok hrun]
    exact ih
  | case3 sim job rest fault mid hrun =>
    have htold : runJob job (T.simulation sim) = .error fault (T.simulation mid) :=
      (T.runJob_seen job sim).trans (congrArg (through T.simulation) hrun)
    rw [perform_cons_of_error htold, perform_cons_of_error hrun]
    rfl

theorem handle_seen (action : Action) :
    Seen T.simulation (handle (α := α) action) (handle action) :=
  T.perform_seen _

omit [Scalar α] in
theorem beginTick_seen : Seen T.simulation (beginTick (α := α)) beginTick :=
  .modifyGet fun _ => rfl

theorem expire_seen : Seen T.simulation (expire (α := α)) expire :=
  .get_bind fun sim => Seen.bind (T.onStage_seen (T.onWorld_seen _))
    (fun expired => .forM (fun _ => T.handle_seen _) expired) sim

/-- A tick is the same however it is told. -/
theorem step_seen : Seen T.simulation (step (α := α)) step := by
  refine .bind T.beginTick_seen fun due => .bind (.forM T.handle_seen due) fun _ => ?_
  refine .bind (T.onStage_seen T.regainMana_seen) fun _ => ?_
  refine .bind (T.onStage_seen (T.onWorld_seen _)) fun _ => .bind (.modify fun _ => rfl) fun _ => ?_
  refine .bind T.expire_seen fun _ => .bind (T.onStage_seen T.showMana_seen) fun _ => ?_
  exact .modify fun _ => rfl

end Telling
end WandArena
