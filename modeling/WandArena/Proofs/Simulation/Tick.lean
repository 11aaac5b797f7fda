import WandArena.Proofs.Simulation.Armed
import WandArena.Number.Amount

/-! One cast ahead of every held wand, from tick to tick.

A tick takes off what is due and dispatches it, so the casts that are due at its start are what is
outstanding beside the agenda (`InOrder.beginTick`), and none is left when time has passed
(`InOrder.step`). Spawning a wand arms its holder (`InOrder.armed`). What a run keeps follows by
induction on its operations (`Running.inOrder`). -/
namespace WandArena.Simulation
variable {α β : Type} {sim sim' : Simulation α} {given : List Int} {due : List Action}

/-- Every wand stands as it should, and no task waits for an event. -/
structure InOrder (sim : Simulation α) (given : List Int) (due : List Action) : Prop where
  armed : sim.toStage.Armed given due
  idle : sim.waiting.entries = []

namespace InOrder

theorem of_kept {stage : Stage α} (h : sim.InOrder given due)
    (hkept : Stage.Kept Stage.whoHolds sim.toStage stage) :
    InOrder { sim with toStage := stage } given due :=
  ⟨h.armed.of_kept hkept, h.idle⟩

theorem onStage {act : Run (Stage α) β} {b : β} (h : sim.InOrder given due)
    (hact : Run.Keeps (Stage.kept Stage.whoHolds) act) (hrun : onStage act sim = .ok b sim') :
    sim'.InOrder given due := by
  obtain ⟨stage, hend, rfl⟩ := onStage_eq_ok.1 hrun
  exact h.of_kept (hact.of_ok hend)

/-- What comes due when a tick begins was outstanding before. -/
theorem beginTick (h : sim.InOrder given []) (hrun : beginTick sim = .ok due sim') :
    sim'.InOrder given due := by
  cases hrun
  refine ⟨fun id => (h.armed id).of_same (Int.le_refl _) .inl (fun _ hh => hh) (fun hh => hh)
    (fun _ hh => hh) rfl ?_, h.idle⟩
  have hcount := sim.agenda.pending_popDue (sim.tick + 1) (Action.casts id)
  simp only [Stage.outstanding, Stage.casts, List.countP_nil, Nat.zero_add]
  exact hcount

/-- At the end of a tick only the dead go away. -/
theorem removeMarked (h : sim.InOrder given due) :
    InOrder { sim with world := sim.world.removeMarked } given due := by
  have hholder (id : Int) := sim.world.holder_removeMarked id
  refine ⟨fun id => (h.armed id).of_same (Int.le_of_eq (sim.world.nextId_removeMarked).symm)
    (fun hh => .inl ((sim.world.existing_removeMarked id).1 hh).2)
    (fun _ hh => (sim.world.isAlive_removeMarked id).symm.trans hh) (fun hh => ?_)
    (fun hlives hh => ?_) rfl rfl, h.idle⟩
  · rw [World.has_eq, hholder] at hh
    rw [World.has_eq]
    split at hh
    · cases hh
    · exact hh
  · rw [World.isAlive_removeMarked, World.isAlive, Bool.and_eq_true, Bool.not_eq_true'] at hlives
    rw [World.has_eq] at hh ⊢
    rw [hholder, hlives.2]
    exact hh

/-- Actions that cast nothing may be added to what is due. -/
theorem withDue (h : sim.InOrder given due) {actions : List Action}
    (hnone : ∀ action ∈ actions, action.kind ≠ .shootWand) :
    sim.InOrder given (actions ++ due) := by
  refine ⟨fun id => ?_, h.idle⟩
  have hcount : actions.countP (Action.casts id) = 0 := by
    refine List.countP_eq_zero.2 fun action haction hcasts => ?_
    rw [Action.casts_of_kind (hnone action haction)] at hcasts
    cases hcasts
  refine (h.armed id).of_same (Int.le_refl _) .inl (fun _ hh => hh) (fun hh => hh)
    (fun _ hh => hh) rfl ?_
  rw [Stage.outstanding, Stage.outstanding, List.countP_append, hcount, Nat.zero_add]

variable [Scalar α]

theorem handle {action : Action} {rest : List Action} (h : sim.InOrder given (action :: rest))
    (hrun : handle action sim = .ok () sim') : sim'.InOrder given rest := by
  obtain ⟨hwaiting, hact⟩ := handle_eq_ok h.idle hrun
  exact ⟨h.armed.acted hact, by rw [hwaiting]; exact h.idle⟩

/-- Once the first actions are dispatched, the others are still outstanding. -/
theorem handleFirst {first rest : List Action} (h : sim.InOrder given (first ++ rest))
    (hrun : first.forM Simulation.handle sim = .ok () sim') : sim'.InOrder given rest := by
  induction first generalizing sim with
  | nil =>
    cases hrun
    exact h
  | cons action more ih =>
    obtain ⟨_, mid, haction, hmore⟩ := Run.bind_eq_ok.1 hrun
    exact ih (h.handle haction) hmore

/-- Once all that was due is dispatched, only what is scheduled is outstanding. -/
theorem handleAll (h : sim.InOrder given due)
    (hrun : due.forM Simulation.handle sim = .ok () sim') : sim'.InOrder given [] :=
  handleFirst (by rwa [List.append_nil]) hrun

theorem expire (h : sim.InOrder given []) (hrun : expire sim = .ok () sim') :
    sim'.InOrder given [] := by
  unfold Simulation.expire at hrun
  rw [Run.bind_apply_of_ok (Run.get_apply sim)] at hrun
  obtain ⟨expired, mid, hbounce, hdespawning⟩ := Run.bind_eq_ok.1 hrun
  have hmid := h.onStage (Stage.onWorld_keeps (World.bounce_keeps _ _)) hbounce
  have hdue : mid.InOrder given (expired.map Action.despawnEntity ++ []) := by
    refine hmid.withDue fun action haction => ?_
    obtain ⟨id, -, rfl⟩ := List.mem_map.1 haction
    exact nofun
  rw [List.append_nil] at hdue
  have hsame : (expired.map Action.despawnEntity).forM Simulation.handle =
      (expired.forM fun id => Simulation.handle (.despawnEntity id) : Run (Simulation α) Unit) :=
    List.forM_map
  exact hdue.handleAll ((congrFun hsame mid).trans hdespawning)

/-- A tick leaves every wand standing as it should. -/
theorem step (h : sim.InOrder given []) (hrun : step sim = .ok () sim') :
    sim'.InOrder given [] := by
  obtain ⟨due, begun, hbegin, hhandling⟩ := Run.bind_eq_ok.1 hrun
  obtain ⟨_, handled, hhandle, hregaining⟩ := Run.bind_eq_ok.1 hhandling
  have hhandled := (h.beginTick hbegin).handleAll hhandle
  obtain ⟨_, regained, hregain, hturning⟩ := Run.bind_eq_ok.1 hregaining
  have hregained := hhandled.onStage Stage.regainMana_keeps hregain
  obtain ⟨_, turned, hturn, hmoving⟩ := Run.bind_eq_ok.1 hturning
  have hturned := hregained.onStage (Stage.onWorld_keeps World.turn_keeps) hturn
  obtain ⟨_, moved, hmove, hexpiring⟩ := Run.bind_eq_ok.1 hmoving
  have hmoved : moved.InOrder given [] := by
    cases hmove
    exact hturned.of_kept (.of_census (World.census_move _ _) rfl rfl rfl)
  obtain ⟨_, expired, hexpire, hshowing⟩ := Run.bind_eq_ok.1 hexpiring
  have hexpired := hmoved.expire hexpire
  obtain ⟨_, shown, hshow, hremoving⟩ := Run.bind_eq_ok.1 hshowing
  have hshown := hexpired.onStage Stage.showMana_keeps hshow
  cases hremoving
  exact hshown.removeMarked

end InOrder

/-! ### Runs -/

section Runs
variable [Scalar α]

/-- A simulation after any number of operations, with the entities that were given a wand. -/
inductive Running : List Int → Simulation α → Prop
  | start (catalog : Catalog α) (rules : MergeRules) (settings : Settings) (dice : Twister)
    (traced : Bool) : Running [] (.start catalog rules settings dice traced)
  /-- A new entity gets a wand, or a living one that never had one. -/
  | spawn {given : List Int} {sim : Simulation α} {stage : Stage α} {wandId : String}
    {target : Option Int} {id : Int} (hbefore : Running given sim)
    (hnew : ∀ id, target = some id → sim.world.isAlive id = true ∧ id ∉ given)
    (hspawn : Stage.spawnWand wandId target sim.toStage = .ok id stage) :
    Running (id :: given) { sim with toStage := stage }
  /-- The wand does not pass its check. -/
  | refused {given : List Int} {sim : Simulation α} {stage : Stage α} {wandId : String}
    {target : Option Int} {fault : Fault} (hbefore : Running given sim)
    (hspawn : Stage.spawnWand wandId target sim.toStage = .error fault stage) :
    Running given { sim with toStage := stage }
  /-- The cards, wands and blueprints are edited. -/
  | edit {given : List Int} {sim : Simulation α} (catalog : Catalog α)
    (hbefore : Running given sim) : Running given { sim with catalog }
  /-- A new entity comes in without a wand. -/
  | create {given : List Int} {sim : Simulation α} {components : List (Component α)}
    (hbefore : Running given sim) (hnone : ∀ c ∈ components, c.kind ≠ .holder) :
    Running given { sim with world := (sim.world.create components).2 }
  /-- What entities carry beside their wands is changed. -/
  | dress {given : List Int} {sim : Simulation α} {world : World α} (hbefore : Running given sim)
    (hcensus : world.census = sim.world.census) : Running given { sim with world }
  | step {given : List Int} {sim sim' : Simulation α} (hbefore : Running given sim)
    (hstep : step sim = .ok () sim') : Running given sim'

omit [Scalar α] in
theorem inOrder_start (catalog : Catalog α) (rules : MergeRules) (settings : Settings)
    (dice : Twister) (traced : Bool) :
    InOrder (.start catalog rules settings dice traced) [] [] := by
  refine ⟨fun id => ?_, rfl⟩
  exact {
    numbered := by
      rintro (hgiven | hthere)
      · cases hgiven
      · exact absurd hthere Bool.false_ne_true
    once := Nat.zero_le _
    bare := fun _ => ⟨rfl, rfl, rfl⟩
    given := nofun }

/-- A wand is spawned on an entity that has none. -/
theorem InOrder.spawn {stage : Stage α} {wandId : String} {target : Option Int} {id : Int}
    (h : sim.InOrder given [])
    (hnew : ∀ id, target = some id → sim.world.isAlive id = true ∧ id ∉ given)
    (hspawn : Stage.spawnWand wandId target sim.toStage = .ok id stage) :
    InOrder { sim with toStage := stage } (id :: given) [] := by
  rcases Stage.spawnWand_cases wandId target sim.toStage with
    ⟨fault, hend⟩ | ⟨wand, state, -, -, -, hexists, hend⟩
  · rw [hend] at hspawn
    cases hspawn
  · rw [hend] at hspawn
    cases hspawn
    have hnever : target.getD sim.world.nextId ∉ given := by
      cases target with
      | some id => exact (hnew id rfl).2
      | none => exact fun hgiven => Int.lt_irrefl _ ((h.armed _).numbered (.inl hgiven))
    exact ⟨(h.armed.of_kept (Stage.toHold_kept _ target)).armed hnever hexists _ _, h.idle⟩

theorem Running.inOrder (h : Running given sim) : sim.InOrder given [] := by
  induction h with
  | start => exact inOrder_start _ _ _ _ _
  | spawn _ hnew hspawn ih => exact ih.spawn hnew hspawn
  | @refused _ sim _ wandId target _ _ hspawn ih =>
    rcases Stage.spawnWand_cases wandId target sim.toStage with
      ⟨fault, hend⟩ | ⟨_, _, -, -, -, -, hend⟩
    · rw [hend] at hspawn
      cases hspawn
      exact ih
    · rw [hend] at hspawn
      cases hspawn
  | edit catalog _ ih =>
    refine ⟨fun id => (ih.armed id).of_same (Int.le_refl _) .inl (fun _ hh => hh) (fun hh => hh)
      (fun _ hh => hh) rfl rfl, ih.idle⟩
  | create _ hnone ih => exact ih.of_kept (Stage.create_kept _ hnone).of_whole
  | dress _ hcensus ih => exact ih.of_kept (.of_census hcensus rfl rfl rfl)
  | step _ hstep ih => exact ih.step hstep

end Runs

/-! A wand without mana and without any delay, in the tick after it was spawned. -/

def idle : Simulation Amount :=
  let pause : Card Amount := { id := "pause", name := "Pause" }
  let pulse : Wand Amount :=
    { id := "pulse", name := "Pulse", cards := ["pause", "pause"], maxMana := 0
      manaRecharge := .whole 1, castDelay := 0, spread := .whole 0 }
  .start ⟨.ofList [("pause", pause)], .ofList [("pulse", pulse)], .empty⟩ {} {}
    ⟨.replicate 624 0, 624⟩ false

def spawned : Simulation Amount :=
  { idle with toStage := Run.left (Stage.spawnWand "pulse" none idle.toStage) }

/-- The tick has begun. -/
def begun : Simulation Amount := Run.left (beginTick spawned)

theorem step_spawned :
    Run.value? (step spawned) = some () ∧ (Run.left (step spawned)).world.isAlive 0 = true ∧
      (Run.left (step spawned)).world.has .holder 0 = true := by
  have hbegin : beginTick spawned = .ok [.shootWand 0] begun :=
    Run.eq_ok_of_value? (by decide +kernel)
  have hshoot : Stage.shoot 0 begun.toStage = .ok () (Run.left (Stage.shoot 0 begun.toStage)) :=
    Run.eq_ok_of_value? (by decide +kernel)
  unfold step
  rw [Run.bind_apply_of_ok hbegin,
    Run.bind_apply_of_ok (Run.forM_singleton_apply (handle_shot rfl hshoot))]
  decide +kernel

end WandArena.Simulation
