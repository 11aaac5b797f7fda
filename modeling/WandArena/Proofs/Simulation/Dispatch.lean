import WandArena.Proofs.Simulation.Casting

/-! What dispatching an action does while no task waits for an event.

No action sets off another one then, so dispatching is a single step on the stage: it casts a wand,
marks an entity, or leaves everybody as they are (`handle_eq_ok`). -/
namespace WandArena
variable {α β : Type} [Scalar α]

/-- What one action does to a stage. -/
inductive Stage.Acted (action : Action) (s : Stage α) : Stage α → Prop
  | shot {t : Stage α} (hkind : action.kind = .shootWand)
    (hshoot : shoot action.entity s = .ok () t) : Acted action s t
  | destroyed (hkind : action.kind ≠ .shootWand) :
    Acted action s { s with world := s.world.destroy action.entity }
  | kept {t : Stage α} (hkind : action.kind ≠ .shootWand) (hkept : Kept whoHolds s t) :
    Acted action s t

namespace Simulation

omit [Scalar α] in
theorem onStage_eq_ok {act : Run (Stage α) β} {sim sim' : Simulation α} {b : β} :
    onStage act sim = .ok b sim' ↔
      ∃ stage, act sim.toStage = .ok b stage ∧ sim' = { sim with toStage := stage } :=
  Run.within_eq_ok

theorem perform_nil (sim : Simulation α) : perform [] sim = .ok () sim := by
  rw [perform]

/-- Once a job is done, what it calls for comes before the other jobs. -/
theorem perform_cons_of_ok {job : Job} {more : List Job} {sim mid : Simulation α}
    (hrun : runJob job sim = .ok more mid) (rest : List Job) :
    perform (job :: rest) sim = perform (more ++ rest) mid := by
  rw [perform]
  split
  case h_1 hmore =>
    rw [hrun] at hmore
    cases hmore
    rfl
  case h_2 hmore =>
    rw [hrun] at hmore
    cases hmore

/-- A job that calls for nothing is all that is done. -/
theorem perform_of_done {job : Job} {sim mid : Simulation α} (hrun : runJob job sim = .ok [] mid) :
    perform [job] sim = .ok () mid :=
  (perform_cons_of_ok hrun []).trans (perform_nil mid)

theorem perform_cons_of_error {job : Job} {fault : Fault} {sim mid : Simulation α}
    (hrun : runJob job sim = .error fault mid) (rest : List Job) :
    perform (job :: rest) sim = .error fault mid := by
  rw [perform]
  split
  case h_1 hmore =>
    rw [hrun] at hmore
    cases hmore
  case h_2 hmore =>
    rw [hrun] at hmore
    cases hmore
    rfl

/-- A job on the stage is all that is done. -/
theorem perform_stageJob {job : Job} {act : Run (Stage α) Unit} (sim : Simulation α)
    (hjob : runJob job = (do onStage act; return [])) : perform [job] sim = onStage act sim := by
  have hrun : runJob job sim = (onStage act >>= fun _ => pure []) sim := congrFun hjob sim
  cases hact : onStage act sim with
  | ok _ mid => exact perform_of_done (hrun.trans (Run.bind_apply_of_ok hact _))
  | error fault mid => exact perform_cons_of_error (hrun.trans (Run.bind_apply_of_error hact _)) []

omit [Scalar α] in
/-- While nothing waits, no event sets anything off. -/
theorem release_of_idle {sim : Simulation α} (hidle : sim.waiting.entries = []) (event : Action) :
    sim.waiting.release event = ([], sim.waiting) := by
  obtain ⟨stage, ⟨entries⟩⟩ := sim
  cases hidle
  rfl

/-- A shot sets nothing off, however it ends. -/
theorem handle_eq_shoot {action : Action} (hkind : action.kind = .shootWand)
    (sim : Simulation α) : handle action sim = onStage (Stage.shoot action.entity) sim :=
  perform_stageJob sim (by simp only [runJob, hkind])

theorem handle_shot {action : Action} {sim : Simulation α} {stage : Stage α}
    (hkind : action.kind = .shootWand)
    (hshoot : Stage.shoot action.entity sim.toStage = .ok () stage) :
    handle action sim = .ok () { sim with toStage := stage } :=
  (handle_eq_shoot hkind sim).trans (onStage_eq_ok.2 ⟨stage, hshoot, rfl⟩)

/-- While nothing waits, the end of an entity marks it if it is alive. -/
theorem handle_despawnEntity {action : Action} {sim : Simulation α}
    (hidle : sim.waiting.entries = []) (hkind : action.kind = .despawnEntity) :
    handle action sim = .ok () { sim with
      world := if sim.world.isAlive action.entity then sim.world.destroy action.entity
        else sim.world } := by
  have hrun := runJob_despawnEntity hkind sim
  rw [release_of_idle hidle] at hrun
  split at hrun
  case isTrue halive =>
    rw [handle, perform_cons_of_ok hrun, if_pos halive, List.append_nil]
    exact perform_of_done rfl
  case isFalse hdead =>
    rw [if_neg hdead]
    exact perform_of_done hrun

/-- Any other action leaves no more than a record. -/
theorem handle_other {action : Action} (sim : Simulation α) (hshot : action.kind ≠ .shootWand)
    (hend : action.kind ≠ .despawnEntity) :
    ∃ record, handle action sim =
      .ok () { sim with toStage := Run.left (Stage.log record sim.toStage) } := by
  have hlogged (record : Record α)
      (hjob : runJob (α := α) (.act action) = (do onStage (Stage.log record); return [])) :
      ∃ record, handle action sim =
        .ok () { sim with toStage := Run.left (Stage.log record sim.toStage) } :=
    ⟨record, perform_stageJob sim hjob⟩
  cases hkind : action.kind with
  | shootWand => exact absurd hkind hshot
  | despawnEntity => exact absurd hkind hend
  | debugLog => exact hlogged (.debugLog action.message) (by simp only [runJob, hkind])
  | onDespawn | other => exact hlogged (.unknownAction action) (by simp only [runJob, hkind])

theorem handle_shootWand {action : Action} {sim sim' : Simulation α}
    (hkind : action.kind = .shootWand) (h : handle action sim = .ok () sim') :
    ∃ stage, Stage.shoot action.entity sim.toStage = .ok () stage ∧
      sim' = { sim with toStage := stage } :=
  onStage_eq_ok.1 ((handle_eq_shoot hkind sim).symm.trans h)

theorem handle_eq_ok {action : Action} {sim sim' : Simulation α}
    (hidle : sim.waiting.entries = []) (h : handle action sim = .ok () sim') :
    sim'.waiting = sim.waiting ∧ sim.Acted action sim'.toStage := by
  by_cases hshot : action.kind = .shootWand
  · obtain ⟨stage, hshoot, rfl⟩ := handle_shootWand hshot h
    exact ⟨rfl, .shot hshot hshoot⟩
  by_cases hend : action.kind = .despawnEntity
  · cases (handle_despawnEntity hidle hend).symm.trans h
    refine ⟨rfl, ?_⟩
    dsimp only
    split
    · exact .destroyed hshot
    · exact .kept hshot ((Stage.kept _).refl _)
  · obtain ⟨record, hlog⟩ := handle_other sim hshot hend
    cases hlog.symm.trans h
    exact ⟨rfl, .kept hshot (Stage.log_keeps record _)⟩

end Simulation
end WandArena
