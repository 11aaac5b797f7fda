import WandArena.Proofs.Simulation.Course
import WandArena.Proofs.World.Store

/-! What no operation does between the starts of two ticks.

Only the start of a tick takes tasks off the agenda and moves the clock. Whatever else happens to a
stage, it `Proceeds`: tasks are scheduled, and whoever is alive was alive before or is new. Nothing
that is dispatched lets a task wait for an event, so the tasks that wait are always some of those
that waited before, in the same order. All of this holds however an operation ends
(`handle_proceeds`, `drift_proceeds`, `settle_proceeds`), and so of all that a tick does once the due
tasks are taken off (`workOff_proceeds`).

The terms of a simulation, which are its content, its rules and limits and how closely casts are
followed, are altered by no tick at all (`step_unaltered`). -/
namespace WandArena
variable {α β : Type}

namespace Stage

/-- Some tasks are scheduled, and whoever is alive was alive before or is new. -/
structure Proceeds (s t : Stage α) : Prop where
  tick : t.tick = s.tick
  agenda : ∃ posted, t.agenda = s.agenda.scheduleAll posted
  world : World.Ages s.world t.world

section Frames
variable {s t : Stage α}

theorem Proceeds.of_world (hworld : World.Ages s.world t.world) (htick : t.tick = s.tick)
    (hagenda : t.agenda = s.agenda) : Proceeds s t :=
  ⟨htick, ⟨[], hagenda⟩, hworld⟩

theorem Proceeds.of_census (hcensus : t.world.census = s.world.census) (htick : t.tick = s.tick)
    (hagenda : t.agenda = s.agenda) : Proceeds s t :=
  .of_world (.of_census hcensus) htick hagenda

/-- The frame of `Proceeds`. -/
def proceeding : Run.Frame (Stage α) where
  Allows := Proceeds
  refl _ := .of_census rfl rfl rfl
  trans h h' := by
    obtain ⟨posted, hposted⟩ := h.agenda
    obtain ⟨later, hlater⟩ := h'.agenda
    refine ⟨h'.tick.trans h.tick, ⟨posted ++ later, ?_⟩, World.aging.trans h.world h'.world⟩
    rw [hlater, hposted, Agenda.scheduleAll_append]

theorem Proceeds.schedule (s : Stage α) (tick : Int) (action : Action) :
    Proceeds s { s with agenda := s.agenda.schedule tick action } :=
  ⟨rfl, ⟨[(tick, action)], rfl⟩, World.aging.refl _⟩

/-- A wand that is attached is scheduled. -/
theorem Proceeds.armed (s : Stage α) (id : Int) (held : Holder α) (delay : Int) :
    Proceeds s (s.armed id held delay) :=
  ⟨rfl, ⟨[(s.tick + delay, .shootWand id)], rfl⟩,
    World.aging.trans (World.ages_setTable s.world .holder _) (World.ages_setTable _ .manaBar _)⟩

theorem Proceeds.toHold (s : Stage α) (target : Option Int) : Proceeds s (s.toHold target) := by
  cases target with
  | none => exact .of_world (World.ages_create s.world _) rfl rfl
  | some id => exact .of_census rfl rfl rfl

theorem Proceeds.put (s : Stage α) (k : ComponentKind) (id : Int) (value : k.Value α) :
    Proceeds s { s with world := s.world.put k id value } :=
  .of_world (World.ages_setTable s.world k _) rfl rfl

theorem letsLaunch_proceeding : LetsLaunch (proceeding (α := α)) where
  journal := fun _ _ => Proceeds.of_census rfl rfl rfl
  dice := fun _ _ => Proceeds.of_census rfl rfl rfl
  create := fun s _ _ => Proceeds.of_world (World.ages_create s.world _) rfl rfl
  schedule := fun s tick action _ => Proceeds.schedule s tick action

theorem letsCast_proceeding (holder : Int) : LetsCast (proceeding (α := α)) holder where
  journal := letsLaunch_proceeding.journal
  hold := fun s held _ => Proceeds.put s .holder holder held
  arm := fun s tick => Proceeds.schedule s tick _

theorem halt_proceeds (holder : Int) (fault : ConfigFault) :
    Run.Keeps proceeding (halt holder fault : Run (Stage α) Unit) :=
  .bind (letsLaunch_proceeding.log _) fun _ => .modify fun s =>
    .of_world (World.ages_setTable s.world .holder _) rfl rfl

end Frames

variable [Scalar α]

theorem shoot_proceeds (holder : Int) :
    Run.Keeps proceeding (shoot holder : Run (Stage α) Unit) :=
  shoot_keeps ((letsCast_proceeding holder).castWand fun _ _ => letsLaunch_proceeding.launch _ _ _)
    (halt_proceeds holder) letsLaunch_proceeding.log

theorem regainMana_proceeds : Run.Keeps proceeding (regainMana : Run (Stage α) Unit) :=
  regainMana_keeps_of fun s id _ _ _ => Proceeds.put s .holder id _

theorem showMana_proceeds : Run.Keeps proceeding (showMana : Run (Stage α) Unit) :=
  showMana_keeps_of fun s id fill _ => Proceeds.put s .manaBar id fill

theorem spawnWand_proceeds (wandId : String) (target : Option Int) :
    Run.Keeps proceeding (spawnWand wandId target : Run (Stage α) Int) := by
  intro s
  show Proceeds s (Run.left (spawnWand wandId target s))
  rcases spawnWand_cases wandId target s with ⟨fault, hend⟩ | ⟨wand, state, -, -, -, -, hend⟩
  · rw [hend]
    exact proceeding.refl s
  · rw [hend]
    exact proceeding.trans (.toHold s target) (.armed _ _ _ _)

end Stage

/-! ### Dispatching -/

namespace Simulation
open Stage

/-- The stage proceeds, and no task starts to wait for an event. -/
def proceeding : Run.Frame (Simulation α) where
  Allows sim sim' :=
    sim.Proceeds sim'.toStage ∧ sim'.waiting.entries.Sublist sim.waiting.entries
  refl _ := ⟨Stage.proceeding.refl _, List.Sublist.refl _⟩
  trans h h' := ⟨Stage.proceeding.trans h.1 h'.1, h'.2.trans h.2⟩

theorem onStage_proceeds {act : Run (Stage α) β} (hact : Run.Keeps Stage.proceeding act) :
    Run.Keeps proceeding (onStage act) :=
  hact.within fun _ _ hstage => ⟨hstage, List.Sublist.refl _⟩

variable [Scalar α]

/-- When this work is done, the turn comes to a job, and this is what it finds. -/
inductive ComesTo : List Job → Simulation α → Job → Simulation α → Prop
  | now {job : Job} {rest : List Job} {sim : Simulation α} : ComesTo (job :: rest) sim job sim
  | later {first job : Job} {more rest : List Job} {sim mid found : Simulation α}
    (hrun : runJob first sim = .ok more mid) (h : ComesTo (more ++ rest) mid job found) :
    ComesTo (first :: rest) sim job found

/-- All open work keeps to what each job that it comes to keeps to, from what that job finds. -/
theorem perform_keepsAt {F : Run.Frame (Simulation α)} {jobs : List Job} {sim : Simulation α}
    (hjobs : ∀ job found, ComesTo jobs sim job found → Run.KeepsAt F found (runJob job)) :
    Run.KeepsAt F sim (perform jobs) := by
  induction jobs, sim using perform.induct with
  | case1 sim =>
    show F.Allows sim (Run.left (perform [] sim))
    rw [perform_nil]
    exact F.refl sim
  | case2 sim job rest more mid hrun ih =>
    have hfirst : F.Allows sim (Run.left (runJob job sim)) := hjobs job sim .now
    rw [hrun] at hfirst
    show F.Allows sim (Run.left (perform (job :: rest) sim))
    rw [perform_cons_of_ok hrun]
    exact F.trans hfirst (ih fun later found h => hjobs later found (.later hrun h))
  | case3 sim job rest fault mid hrun =>
    have hfirst : F.Allows sim (Run.left (runJob job sim)) := hjobs job sim .now
    rw [hrun] at hfirst
    show F.Allows sim (Run.left (perform (job :: rest) sim))
    rw [perform_cons_of_error hrun]
    exact hfirst

/-- All open work keeps to what each job keeps to. -/
theorem perform_keeps {F : Run.Frame (Simulation α)} (hjob : ∀ job, Run.Keeps F (runJob job))
    (jobs : List Job) : Run.Keeps F (perform jobs) :=
  fun _ => perform_keepsAt fun job found _ => hjob job found

/-- A job keeps to what marking an entity, releasing tasks and what is done on the stage keep to. -/
theorem runJob_keeps {F : Run.Frame (Simulation α)}
    (hbury : ∀ sim id, F.Allows sim { sim with world := sim.world.destroy id })
    (hrelease : ∀ sim event, F.Allows sim { sim with waiting := (sim.waiting.release event).2 })
    (hshoot : ∀ holder, Run.Keeps F (onStage (shoot holder)))
    (hlog : ∀ record, Run.Keeps F (onStage (log record))) (job : Job) :
    Run.Keeps F (runJob job) := by
  cases job with
  | bury id =>
    have hmark : Run.Keeps F (onStage (modify fun s : Stage α =>
      { s with world := s.world.destroy id })) := fun sim => hbury sim id
    exact .bind hmark fun _ => .pure _
  | act action =>
    cases hkind : action.kind with
    | shootWand =>
      simp only [runJob, hkind]
      exact .bind (hshoot _) fun _ => .pure _
    | despawnEntity =>
      intro sim
      show F.Allows sim (Run.left (runJob (.act action) sim))
      rw [runJob_despawnEntity hkind]
      split
      · exact hrelease sim _
      · exact F.refl sim
    | onDespawn | debugLog | other =>
      simp only [runJob, hkind]
      exact .bind (hlog _) fun _ => .pure _

theorem runJob_proceeds : ∀ job, Run.Keeps proceeding (runJob (α := α) job) :=
  runJob_keeps
    (fun sim id => ⟨.of_world (World.ages_destroy sim.world id) rfl rfl, List.Sublist.refl _⟩)
    (fun _ _ => ⟨Stage.proceeding.refl _, List.filter_sublist⟩)
    (fun holder => onStage_proceeds (shoot_proceeds holder))
    (fun record => onStage_proceeds (letsLaunch_proceeding.log record))

theorem perform_proceeds (jobs : List Job) : Run.Keeps proceeding (perform (α := α) jobs) :=
  perform_keeps runJob_proceeds jobs

theorem handle_proceeds (action : Action) : Run.Keeps proceeding (handle (α := α) action) :=
  perform_proceeds _

theorem drift_proceeds : Run.Keeps proceeding (drift (α := α)) := by
  rw [drift_eq]
  refine .bind (onStage_proceeds regainMana_proceeds) fun _ => coast_keeps fun _ _ hsame => ?_
  exact ⟨.of_census (congrArg Prod.fst hsame) rfl rfl, List.Sublist.refl _⟩

theorem settle_proceeds (gone : List Int) : Run.Keeps proceeding (settle (α := α) gone) := by
  refine .bind (.forM (fun id => handle_proceeds (.despawnEntity id)) gone) fun _ => ?_
  refine .bind (onStage_proceeds showMana_proceeds) fun _ => .modify fun sim => ?_
  exact ⟨.of_world (World.ages_removeMarked sim.world) rfl rfl, List.Sublist.refl _⟩

/-- Once the due tasks are taken off, a tick only proceeds. -/
theorem workOff_proceeds (due : List Action) :
    Run.Keeps proceeding (due.forM handle >>= fun _ => drift (α := α) >>= settle) :=
  .bind (.forM handle_proceeds due) fun _ => .bind drift_proceeds settle_proceeds

end Simulation

/-! ### Terms -/

namespace Stage

/-- What casts go by, and whether the journal follows them closely. -/
def terms (s : Stage α) : Catalog α × MergeRules × Settings × Bool :=
  (s.catalog, s.rules, s.settings, s.traced)

/-- The frame in which the terms stay the same. -/
abbrev unaltered : Run.Frame (Stage α) := .same terms

theorem letsLaunch_unaltered : LetsLaunch (unaltered (α := α)) where
  journal _ _ := rfl
  dice _ _ := rfl
  create _ _ _ := rfl
  schedule _ _ _ _ := rfl

theorem letsCast_unaltered (holder : Int) : LetsCast (unaltered (α := α)) holder where
  journal _ _ := rfl
  hold _ _ _ := rfl
  arm _ _ := rfl

variable [Scalar α]

theorem shoot_unaltered (holder : Int) :
    Run.Keeps unaltered (shoot holder : Run (Stage α) Unit) :=
  shoot_keeps ((letsCast_unaltered holder).castWand fun _ _ => letsLaunch_unaltered.launch _ _ _)
    (fun _ => .bind (letsLaunch_unaltered.log _) fun _ => .modify fun _ => rfl)
    letsLaunch_unaltered.log

end Stage

namespace Simulation
open Stage

theorem onStage_unaltered {act : Run (Stage α) β} (hact : Run.Keeps Stage.unaltered act) :
    Run.Keeps (.same fun sim : Simulation α => sim.terms) (onStage act) :=
  hact.within fun _ _ hstage => hstage

variable [Scalar α]

theorem handle_unaltered (action : Action) :
    Run.Keeps (.same fun sim : Simulation α => sim.terms) (handle action) :=
  perform_keeps (runJob_keeps (fun _ _ => rfl) (fun _ _ => rfl)
    (fun holder => onStage_unaltered (shoot_unaltered holder))
    fun record => onStage_unaltered (letsLaunch_unaltered.log record)) _

/-- However a tick ends, it does not alter the terms. -/
theorem step_unaltered : Run.Keeps (.same fun sim : Simulation α => sim.terms) step := by
  have hbegin : Run.Keeps (.same fun sim : Simulation α => sim.terms) beginTick :=
    .modifyGet fun _ => rfl
  have hdrift : Run.Keeps (.same fun sim : Simulation α => sim.terms) drift := by
    rw [drift_eq]
    exact .bind (onStage_unaltered (regainMana_keeps_of fun _ _ _ _ _ => rfl)) fun _ =>
      coast_keeps fun _ _ _ => rfl
  have hsettle (gone : List Int) :
      Run.Keeps (.same fun sim : Simulation α => sim.terms) (settle gone) :=
    .bind (.forM (fun id => handle_unaltered (.despawnEntity id)) gone) fun _ =>
      .bind (onStage_unaltered (showMana_keeps_of fun _ _ _ _ => rfl)) fun _ => .modify fun _ => rfl
  rw [step_eq]
  exact .bind hbegin fun due => .bind (.forM handle_unaltered due) fun _ => .bind hdrift hsettle

end Simulation
end WandArena
