import WandArena.Proofs.Simulation.Course
import WandArena.Proofs.Simulation.Stacking

/-! What the wand of an entity is spared while no cast of it is due.

Whatever else is cast and whoever comes or goes, the wand of an entity keeps its cards where they
are, and no cast of it is scheduled or taken off (`Spares`). So a tick in which no cast of an entity
is due leaves its wand alone (`step_spares`), even if a fault ends it early. A wand that was just
attached waits for its first cast then, unless a cast of the wand it replaced comes first
(`Reached.first_cast_waits`). -/
namespace WandArena
variable {α β : Type}

namespace Stage
variable {id holder : Int} {s t : Stage α}

/-- The wand of an entity keeps its cards where they are, if the entity goes on to hold it, and its
casts stay scheduled for the same ticks. -/
structure Spares (id : Int) (s t : Stage α) : Prop where
  tick : t.tick = s.tick
  casts : t.agenda.ticks (Action.casts id) = s.agenda.ticks (Action.casts id)
  wand : ∀ left, t.world.get? .holder id = some left → ∃ held, s.world.get? .holder id = some held ∧
    left.wand = held.wand ∧ left.state.piles = held.state.piles
  nextId : s.world.nextId ≤ t.world.nextId
  /-- Whoever is new has a number that was given out. -/
  existing : ∀ other, t.world.existing.contains other = true →
    s.world.existing.contains other = true ∨ other < t.world.nextId

theorem Spares.of_holder (hholder : t.world.get? .holder id = s.world.get? .holder id)
    (htick : t.tick = s.tick)
    (hcasts : t.agenda.ticks (Action.casts id) = s.agenda.ticks (Action.casts id))
    (hnext : t.world.nextId = s.world.nextId) (hexisting : t.world.existing = s.world.existing) :
    Spares id s t where
  tick := htick
  casts := hcasts
  wand := fun left hleft => ⟨left, hholder ▸ hleft, rfl, rfl⟩
  nextId := Int.le_of_eq hnext.symm
  existing := fun _ hthere => .inl (hexisting ▸ hthere)

theorem Spares.of_census (hcensus : t.world.census = s.world.census) (htick : t.tick = s.tick)
    (hagenda : t.agenda = s.agenda) : Spares id s t := by
  obtain ⟨hnext, hexisting, -, hholders⟩ := Census.mk.inj hcensus
  exact .of_holder (congrArg (·[id]?) hholders) htick (by rw [hagenda]) hnext hexisting

theorem Spares.trans {u : Stage α} (h : Spares id s t) (h' : Spares id t u) : Spares id s u where
  tick := h'.tick.trans h.tick
  casts := h'.casts.trans h.casts
  wand := fun left hleft => by
    obtain ⟨between, hbetween, hwand', hpiles'⟩ := h'.wand left hleft
    obtain ⟨held, hheld, hwand, hpiles⟩ := h.wand between hbetween
    exact ⟨held, hheld, hwand'.trans hwand, hpiles'.trans hpiles⟩
  nextId := Int.le_trans h.nextId h'.nextId
  existing := fun other hthere => by
    have hle := h'.nextId
    rcases h'.existing other hthere with hbefore | hlt
    · exact (h.existing other hbefore).imp_right fun hlt => by omega
    · exact .inr hlt

/-- It does not matter which tick it is. -/
theorem Spares.retime (h : Spares id s t) (now : Int) :
    Spares id { s with tick := now } { t with tick := now } :=
  ⟨rfl, h.casts, h.wand, h.nextId, h.existing⟩

/-- The frame of `Spares`. -/
def spares (id : Int) : Run.Frame (Stage α) :=
  ⟨Spares id, fun _ => .of_census rfl rfl rfl, .trans⟩

/-- Scheduling anything but a cast of the wand spares it. -/
theorem Spares.schedule (s : Stage α) (tick : Int) {action : Action}
    (h : action.casts id = false) :
    Spares id s { s with agenda := s.agenda.schedule tick action } :=
  .of_holder rfl rfl (s.agenda.ticks_schedule_of_not tick h) rfl rfl

/-- What another entity is given to hold spares the wand. -/
theorem Spares.put (s : Stage α) (hne : holder ≠ id) (held : Holder α) :
    Spares id s { s with world := s.world.put .holder holder held } := by
  refine .of_holder ?_ rfl rfl rfl rfl
  rw [World.get?_put, if_neg (Ne.symm hne)]

theorem Spares.create (s : Stage α) {components : List (Component α)}
    (h : ∀ c ∈ components, c.kind ≠ .holder) :
    Spares id s { s with world := (s.world.create components).2 } := by
  obtain ⟨hnext, hexisting, -, hholders⟩ := Census.mk.inj (s.world.census_create h)
  have hnext' : (s.world.create components).2.nextId = s.world.nextId + 1 := hnext
  refine ⟨rfl, rfl, fun left hleft => ⟨left, ?_, rfl, rfl⟩, ?_, fun other hthere => ?_⟩
  · rw [← hleft]
    exact congrArg (·[id]?) hholders.symm
  · show s.world.nextId ≤ (s.world.create components).2.nextId
    omega
  · have hthere' : (s.world.existing.insert s.world.nextId).contains other = true :=
      (congrArg (·.contains other) hexisting).symm.trans hthere
    rw [Std.ExtTreeSet.contains_insert, Bool.or_eq_true, beq_iff_eq,
      Std.LawfulEqCmp.compare_eq_iff_eq] at hthere'
    rcases hthere' with rfl | hbefore
    · refine .inr ?_
      show s.world.nextId < (s.world.create components).2.nextId
      omega
    · exact .inl hbefore

theorem letsLaunch_spares : LetsLaunch (spares (α := α) id) where
  journal := fun _ _ => Spares.of_census rfl rfl rfl
  dice := fun _ _ => Spares.of_census rfl rfl rfl
  create := fun s _ h => Spares.create s h
  schedule := fun s tick _ h => Spares.schedule s tick (Action.casts_of_kind h id)

theorem letsCast_spares (hne : holder ≠ id) : LetsCast (spares (α := α) id) holder where
  journal := fun _ _ => Spares.of_census rfl rfl rfl
  hold := fun s held _ => Spares.put s hne held
  arm := fun s tick => Spares.schedule s tick (by
    rw [Action.casts_shootWand, decide_eq_false hne])

theorem halt_spares (holder : Int) (fault : ConfigFault) :
    Run.Keeps (spares id) (halt holder fault : Run (Stage α) Unit) := by
  refine .bind (letsLaunch_spares.log _) fun _ => .modify fun s => ?_
  refine ⟨rfl, rfl, fun left hleft => ⟨left, ?_, rfl, rfl⟩, Int.le_refl _, fun _ => .inl⟩
  change (s.world.drop .holder holder).get? .holder id = some left at hleft
  rw [World.get?_drop] at hleft
  split at hleft
  · cases hleft
  · exact hleft

theorem Spares.destroy (s : Stage α) (other : Int) :
    Spares id s { s with world := s.world.destroy other } := by
  obtain ⟨hnext, hexisting, -, hholders⟩ := Census.mk.inj (s.world.census_destroy other)
  exact .of_holder (congrArg (·[id]?) hholders) rfl rfl hnext hexisting

theorem Spares.removeMarked (s : Stage α) :
    Spares id s { s with world := s.world.removeMarked } := by
  refine ⟨rfl, rfl, fun left hleft => ⟨left, ?_, rfl, rfl⟩,
    Int.le_of_eq s.world.nextId_removeMarked.symm,
    fun other hthere => .inl ((s.world.existing_removeMarked other).1 hthere).2⟩
  rw [World.holder_removeMarked] at hleft
  split at hleft
  · cases hleft
  · exact hleft

/-- Whatever mana a wand gets, this wand is spared. -/
theorem Spares.recharge (s : Stage α) {held : Holder α}
    (hget : s.world.get? .holder holder = some held) (mana : α) :
    Spares id s { s with
      world := s.world.put .holder holder { held with state := { held.state with mana } } } := by
  refine ⟨rfl, rfl, fun left hleft => ?_, Int.le_refl _, fun _ => .inl⟩
  change (s.world.put .holder holder _).get? .holder id = some left at hleft
  rw [World.get?_put] at hleft
  split at hleft
  case isTrue hsame =>
    cases hleft
    exact ⟨held, hsame ▸ hget, rfl, rfl⟩
  case isFalse => exact ⟨left, hleft, rfl, rfl⟩

variable [Scalar α]

theorem shoot_spares (hne : holder ≠ id) :
    Run.Keeps (spares id) (shoot holder : Run (Stage α) Unit) :=
  shoot_keeps ((letsCast_spares hne).castWand fun _ _ => letsLaunch_spares.launch _ _ _)
    (halt_spares holder) letsLaunch_spares.log

theorem regainMana_spares : Run.Keeps (spares id) (regainMana : Run (Stage α) Unit) :=
  regainMana_keeps_of fun s _ _ _ hget => Spares.recharge s hget _

theorem showMana_spares : Run.Keeps (spares id) (showMana : Run (Stage α) Unit) :=
  showMana_keeps_of fun _ _ _ _ => Spares.of_census (World.census_put _ (by decide) _ _) rfl rfl

omit [Scalar α] in
/-- A wand in the hands of another entity spares the wand. -/
theorem Spares.armed (s : Stage α) (hne : holder ≠ id) (held : Holder α) (delay : Int) :
    Spares id s (s.armed holder held delay) := by
  let given : Stage α := { s with world := s.world.put .holder holder held }
  let shown : Stage α := { given with world := given.world.put .manaBar holder (255 : Int) }
  have hshown : Spares id given shown :=
    .of_census (World.census_put given.world (k := .manaBar) (by decide) holder _) rfl rfl
  have hnot : (Action.shootWand holder).casts id = false := by
    rw [Action.casts_shootWand, decide_eq_false hne]
  exact ((Spares.put s hne held).trans hshown).trans (.schedule shown (s.tick + delay) hnot)

omit [Scalar α] in
theorem Spares.toHold (s : Stage α) (target : Option Int) : Spares id s (s.toHold target) := by
  cases target with
  | none => exact Spares.create s nofun
  | some other => exact (spares id).refl s

omit [Scalar α] in
/-- Attaching a wand schedules one more cast. -/
theorem ticks_armed (s : Stage α) (target : Option Int) (id : Int) (held : Holder α) (delay : Int) :
    (((s.toHold target).armed id held delay).agenda.ticks (Action.casts id)).Perm
      ((s.tick + delay) :: s.agenda.ticks (Action.casts id)) := by
  have hcasts : (Action.shootWand id).casts id = true := by
    rw [Action.casts_shootWand, decide_eq_true rfl]
  have hhold : Spares id s (s.toHold target) := Spares.toHold s target
  have hscheduled := (s.toHold target).agenda.ticks_schedule (s.tick + delay) (.shootWand id)
    (Action.casts id)
  rw [hcasts, if_pos rfl, hhold.casts] at hscheduled
  show (((s.toHold target).agenda.schedule ((s.toHold target).tick + delay) _).ticks _).Perm _
  rw [hhold.tick]
  exact hscheduled

/-- A wand that is spawned on another entity spares the wand. -/
theorem spawnWand_spares {target : Option Int} (wandId : String)
    (hne : target.getD s.world.nextId ≠ id) :
    Run.KeepsAt (spares id) s (spawnWand wandId target) := by
  show Spares id s (Run.left (spawnWand wandId target s))
  rcases spawnWand_cases wandId target s with ⟨fault, hend⟩ | ⟨wand, state, -, -, -, -, hend⟩
  · rw [hend]
    exact (spares id).refl s
  · rw [hend]
    exact (Spares.toHold s target).trans (.armed _ hne _ _)

end Stage

/-! ### Ticks -/

namespace Simulation
open Stage
variable {id : Int} {sim sim' : Simulation α}

/-- While nothing waits for an event, nothing starts to, and the wand of an entity is spared. -/
def leaves (id : Int) : Run.Frame (Simulation α) where
  Allows := fun sim sim' => sim.waiting.entries = [] →
    sim'.waiting.entries = [] ∧ Spares id sim.toStage sim'.toStage
  refl := fun _ hidle => ⟨hidle, (spares id).refl _⟩
  trans := fun h h' hidle => by
    obtain ⟨hquiet, hspares⟩ := h hidle
    obtain ⟨hquiet', hspares'⟩ := h' hquiet
    exact ⟨hquiet', hspares.trans hspares'⟩

theorem onStage_leaves {act : Run (Stage α) β} (hact : Run.Keeps (spares id) act) :
    Run.Keeps (leaves id) (onStage act) :=
  hact.within fun _ _ hspares hidle => ⟨hidle, hspares⟩

variable [Scalar α]

/-- An action that casts no wand of the entity leaves its wand alone. -/
theorem handle_leaves {action : Action} (hnot : action.casts id = false) :
    Run.Keeps (leaves (α := α) id) (handle action) := by
  intro sim hidle
  by_cases hshot : action.kind = .shootWand
  · have hne : action.entity ≠ id := by
      rw [casts_of_shot hshot, decide_eq_false_iff_not] at hnot
      exact hnot
    rw [handle_eq_shoot hshot]
    exact onStage_leaves (shoot_spares hne) sim hidle
  by_cases hend : action.kind = .despawnEntity
  · rw [handle_despawnEntity hidle hend]
    refine ⟨hidle, ?_⟩
    dsimp only [Run.left]
    split
    · exact Spares.destroy sim.toStage action.entity
    · exact (spares id).refl _
  · obtain ⟨record, hlog⟩ := handle_other sim hshot hend
    rw [hlog]
    exact ⟨hidle, letsLaunch_spares.log record sim.toStage⟩

theorem drift_leaves : Run.Keeps (leaves (α := α) id) drift := by
  rw [drift_eq]
  refine .bind (onStage_leaves regainMana_spares) fun _ => coast_keeps fun _ _ hsame hidle => ?_
  exact ⟨hidle, .of_census (congrArg Prod.fst hsame) rfl rfl⟩

theorem settle_leaves (gone : List Int) : Run.Keeps (leaves (α := α) id) (settle gone) := by
  refine .bind (.forM (fun other => ?_) gone) fun _ => ?_
  · have hkind : (Action.despawnEntity other).kind ≠ .shootWand := nofun
    exact handle_leaves (Action.casts_of_kind hkind id)
  · refine .bind (onStage_leaves showMana_spares) fun _ => .modify fun sim hidle => ?_
    exact ⟨hidle, Spares.removeMarked sim.toStage⟩

/-- A tick in which no cast of an entity is due leaves its wand alone, however it ends. -/
theorem step_spares (hidle : sim.waiting.entries = [])
    (hlater : ∀ T ∈ sim.agenda.ticks (Action.casts id), sim.tick + 1 < T) :
    (∀ due begun, beginTick sim = .ok due begun → ∀ action ∈ due, action.casts id = false) ∧
      (Run.left (step sim)).waiting.entries = [] ∧
      Spares id { sim.toStage with tick := sim.tick + 1 } (Run.left (step sim)).toStage := by
  have hnone : ∀ action ∈ (sim.agenda.popDue (sim.tick + 1)).1, action.casts id = false := by
    have hcount := sim.agenda.countP_popDue (sim.tick + 1) (Action.casts id)
    have hzero : ((sim.agenda.ticks (Action.casts id)).countP fun t => decide (t ≤ sim.tick + 1)) =
        0 := by
      refine List.countP_eq_zero.2 fun T hT hdue => ?_
      have hlate := hlater T hT
      rw [decide_eq_true_iff] at hdue
      omega
    rw [hzero] at hcount
    exact fun action haction => Bool.eq_false_iff.2 (List.countP_eq_zero.1 hcount action haction)
  have hkeep : (sim.agenda.popDue (sim.tick + 1)).2.ticks (Action.casts id) =
      sim.agenda.ticks (Action.casts id) := by
    rw [sim.agenda.ticks_popDue]
    exact List.filter_eq_self.2 fun T hT => decide_eq_true (hlater T hT)
  have hrest : Run.Keeps (leaves (α := α) id) ((sim.agenda.popDue (sim.tick + 1)).1.forM handle >>=
      fun _ => drift >>= settle) :=
    .bind (.forM_of_mem fun action haction => handle_leaves (hnone action haction)) fun _ =>
      .bind drift_leaves settle_leaves
  let begun : Simulation α :=
    { sim with tick := sim.tick + 1, agenda := (sim.agenda.popDue (sim.tick + 1)).2 }
  have hbegin : beginTick sim = .ok (sim.agenda.popDue (sim.tick + 1)).1 begun := rfl
  have hbegun : Spares id { sim.toStage with tick := sim.tick + 1 } begun.toStage :=
    .of_holder rfl rfl hkeep rfl rfl
  obtain ⟨hquiet, hspares⟩ := hrest begun hidle
  refine ⟨fun due mid hmid => ?_, ?_⟩
  · cases hbegin.symm.trans hmid
    exact hnone
  · rw [step_eq, Run.bind_apply_of_ok hbegin]
    exact ⟨hquiet, hbegun.trans hspares⟩

/-! ### Runs -/

/-- A simulation goes on by any number of spawns, on targets that are allowed, and of ticks, however
they end. -/
inductive Operated (allowed : Option Int → Prop) (sim : Simulation α) : Simulation α → Prop
  | refl : Operated allowed sim sim
  | spawn {sim' : Simulation α} {target : Option Int} (wandId : String)
    (hbefore : Operated allowed sim sim') (hallowed : allowed target) :
    Operated allowed sim
      { sim' with toStage := Run.left (Stage.spawnWand wandId target sim'.toStage) }
  | step {sim' : Simulation α} (hbefore : Operated allowed sim sim') :
    Operated allowed sim (Run.left (step sim'))

/-- A simulation after any number of operations from its start. -/
def Reached (sim : Simulation α) : Prop :=
  ∃ catalog rules settings dice traced,
    Operated (fun _ => True) (.start catalog rules settings dice traced) sim

/-- Nothing waits for an event, and no cast is scheduled for a number that was not given out. -/
structure Accounted (sim : Simulation α) : Prop where
  idle : sim.waiting.entries = []
  existing : ∀ id, sim.world.existing.contains id = true → id < sim.world.nextId
  uncalled : ∀ id, sim.world.nextId ≤ id → sim.agenda.ticks (Action.casts id) = []

omit [Scalar α] in
theorem accounted_start (catalog : Catalog α) (rules : MergeRules) (settings : Settings)
    (dice : Twister) (traced : Bool) : Accounted (.start catalog rules settings dice traced) where
  idle := rfl
  existing := fun id hthere => by
    rw [show (Simulation.start catalog rules settings dice traced).world.existing.contains id =
      false from Std.ExtTreeSet.contains_empty] at hthere
    cases hthere
  uncalled := fun _ _ => rfl

/-- However a tick ends, it is the next one, and whoever is to cast a wand is there. -/
theorem Accounted.step (h : Accounted sim) :
    Accounted (Run.left (step sim)) ∧ (Run.left (Simulation.step sim)).tick = sim.tick + 1 ∧
      sim.world.nextId ≤ (Run.left (Simulation.step sim)).world.nextId := by
  have hnever (id : Int) (hid : sim.world.nextId ≤ id) :
      ∀ T ∈ sim.agenda.ticks (Action.casts id), sim.tick + 1 < T := by
    rw [h.uncalled id hid]
    exact fun T hT => absurd hT List.not_mem_nil
  obtain ⟨-, hquiet, hspares⟩ := step_spares h.idle (hnever _ (Int.le_refl _))
  refine ⟨⟨hquiet, fun id hthere => ?_, fun id hid => ?_⟩, hspares.tick, hspares.nextId⟩
  · rcases hspares.existing id hthere with hbefore | hlt
    · exact Int.lt_of_lt_of_le (h.existing id hbefore) hspares.nextId
    · exact hlt
  · have hfresh : sim.world.nextId ≤ id := Int.le_trans hspares.nextId hid
    obtain ⟨-, -, hspares'⟩ := step_spares h.idle (hnever id hfresh)
    exact hspares'.casts.trans (h.uncalled id hfresh)

/-- However a spawn ends, whoever is to cast a wand is there. -/
theorem Accounted.spawn (h : Accounted sim) (wandId : String) (target : Option Int) :
    Accounted { sim with toStage := Run.left (Stage.spawnWand wandId target sim.toStage) } := by
  rcases spawnWand_cases wandId target sim.toStage with
    ⟨fault, hend⟩ | ⟨wand, state, -, -, -, hexists, hend⟩
  · rw [hend]
    exact h
  · rw [hend]
    let stage : Stage α := (sim.toHold target).armed (target.getD sim.world.nextId)
      ⟨wandId, state⟩ wand.castDelay
    have hspares {id : Int} (hne : target.getD sim.world.nextId ≠ id) :
        Spares id sim.toStage stage := (Spares.toHold _ target).trans (.armed _ hne _ _)
    have hold := hspares (Int.ne_of_lt (Int.lt_succ (target.getD sim.world.nextId)))
    have hthere (id : Int) (hid : stage.world.existing.contains id = true) :
        id < stage.world.nextId := by
      rcases hold.existing id hid with hbefore | hlt
      · exact Int.lt_of_lt_of_le (h.existing id hbefore) hold.nextId
      · exact hlt
    refine ⟨h.idle, hthere, fun id hid => ?_⟩
    have hne : target.getD sim.world.nextId ≠ id :=
      Int.ne_of_lt (Int.lt_of_lt_of_le (hthere _ hexists) hid)
    exact (hspares hne).casts.trans (h.uncalled id (Int.le_trans hold.nextId hid))

theorem Reached.accounted (h : Reached sim) : Accounted sim := by
  obtain ⟨catalog, rules, settings, dice, traced, hbefore⟩ := h
  induction hbefore with
  | refl => exact accounted_start _ _ _ _ _
  | spawn wandId _ _ ih => exact ih.spawn wandId _
  | step _ ih => exact ih.step.1

/-- Until the first of its casts comes due, whatever is done elsewhere leaves a wand alone. -/
theorem Operated.spares {limit : Int} (h : Accounted sim) (hid : id < sim.world.nextId)
    (hlater : sim.tick + 1 < limit → ∀ T ∈ sim.agenda.ticks (Action.casts id), limit ≤ T)
    (hthen : Operated (· ≠ some id) sim sim') :
    Accounted sim' ∧ sim.tick ≤ sim'.tick ∧ id < sim'.world.nextId ∧
      (sim'.tick < limit →
        Spares id { sim.toStage with tick := sim'.tick } sim'.toStage) := by
  induction hthen with
  | refl => exact ⟨h, Int.le_refl _, hid, fun _ => (Stage.spares id).refl _⟩
  | @spawn before target wandId _ hallowed ih =>
    obtain ⟨haccounted, htick, hid', hspares⟩ := ih
    have hne : target.getD before.world.nextId ≠ id := by
      cases target with
      | none => exact Ne.symm (Int.ne_of_lt hid')
      | some other => exact fun hsame => hallowed (congrArg some hsame)
    have hspawn : Spares id before.toStage _ := spawnWand_spares wandId hne
    refine ⟨haccounted.spawn wandId target, hspawn.tick.symm ▸ htick,
      Int.lt_of_lt_of_le hid' hspawn.nextId, fun hlimit => ?_⟩
    rw [hspawn.tick] at hlimit ⊢
    exact (hspares hlimit).trans hspawn
  | @step before _ ih =>
    obtain ⟨haccounted, htick, hid', hspares⟩ := ih
    obtain ⟨haccounted', htick', hnext⟩ := haccounted.step
    refine ⟨haccounted', by omega, Int.lt_of_lt_of_le hid' hnext, fun hlimit => ?_⟩
    rw [htick'] at hlimit ⊢
    have hbefore := hspares (by omega)
    have hnever : ∀ T ∈ before.agenda.ticks (Action.casts id), before.tick + 1 < T := by
      intro T hT
      have hlate := hlater (by omega) T (hbefore.casts ▸ hT)
      omega
    exact (hbefore.retime (before.tick + 1)).trans (step_spares haccounted.idle hnever).2.2

/-- Attaching a wand schedules one cast of a holder who has all its cards in the deck. A new entity
has no other cast to come. -/
theorem Accounted.attached {stage : Stage α} {wandId : String} {target : Option Int}
    {wand : Wand α} (h : Accounted sim) (hdefined : sim.catalog.wand wandId = .ok wand)
    (hspawn : Stage.spawnWand wandId target sim.toStage = .ok id stage) :
    stage.tick = sim.tick ∧
      (stage.agenda.ticks (Action.casts id)).Perm
        ((sim.tick + wand.castDelay) :: sim.agenda.ticks (Action.casts id)) ∧
      (∀ T ∈ sim.agenda.ticks (Action.casts id), ∃ holder, target = some holder ∧
        T ∈ sim.agenda.ticks (Action.casts holder)) ∧
      ∃ state, WandState.fresh wand sim.settings.maxDeckSize = .ok state ∧
        stage.world.get? .holder id = some ⟨wandId, state⟩ ∧ id < stage.world.nextId := by
  have haccounted := h.spawn wandId target
  rw [hspawn] at haccounted
  rcases spawnWand_cases wandId target sim.toStage with
    ⟨_, hend⟩ | ⟨found, state, hfound, -, hfresh, hexists, hend⟩
  · cases hend.symm.trans hspawn
  cases hend.symm.trans hspawn
  cases hfound.symm.trans hdefined
  have hhold : Spares 0 sim.toStage (sim.toHold target) := Spares.toHold _ target
  refine ⟨hhold.tick, ticks_armed _ _ _ _ _, fun T hT => ?_, state, hfresh,
    (wields_armed hdefined _ _).holds, haccounted.existing _ hexists⟩
  cases target with
  | none =>
    rw [Option.getD_none, h.uncalled _ (Int.le_refl _)] at hT
    cases hT
  | some holder => exact ⟨holder, rfl, hT⟩

/-- **A wand that was just attached waits for its first cast.** It was spawned on a new entity, or
on one that was there with no cast of an earlier wand still to come before its own first one.
Whatever other wands are spawned and however ticks end: until then its first cast stays scheduled,
it has all its cards in the deck, and no tick dispatches a cast of it. -/
theorem Reached.first_cast_waits {stage : Stage α} {wandId : String} {target : Option Int}
    {wand : Wand α} (h : Reached sim) (hdefined : sim.catalog.wand wandId = .ok wand)
    (hspawn : Stage.spawnWand wandId target sim.toStage = .ok id stage)
    (hearlier : ∀ holder, target = some holder →
      ∀ T ∈ sim.agenda.ticks (Action.casts holder), sim.tick + max 1 wand.castDelay ≤ T)
    (hthen : Operated (· ≠ some id) { sim with toStage := stage } sim')
    (hbefore : sim'.tick < sim.tick + max 1 wand.castDelay) :
    sim.tick + wand.castDelay ∈ sim'.agenda.ticks (Action.casts id) ∧
      (∀ held, sim'.world.get? .holder id = some held → held.wand = wandId ∧
        held.state.piles.deck.toList = Piles.deal wand.cards ∧
        held.state.piles.hand.toList = [] ∧ held.state.piles.discarded.toList = []) ∧
      (sim'.tick + 1 < sim.tick + max 1 wand.castDelay → sim'.waiting.entries = [] ∧
        ∀ due begun, beginTick sim' = .ok due begun →
          ∀ action ∈ due, action.casts id = false) := by
  have haccounted := h.accounted
  have hattached := haccounted.spawn wandId target
  rw [hspawn] at hattached
  obtain ⟨htick, hcasts, hold, state, hfresh, hholds, hid⟩ := haccounted.attached hdefined hspawn
  have hothers : ∀ T ∈ sim.agenda.ticks (Action.casts id), sim.tick + max 1 wand.castDelay ≤ T := by
    intro T hT
    obtain ⟨holder, htarget, hT'⟩ := hold T hT
    exact hearlier holder htarget T hT'
  have hlater : stage.tick + 1 < sim.tick + max 1 wand.castDelay →
      ∀ T ∈ stage.agenda.ticks (Action.casts id), sim.tick + max 1 wand.castDelay ≤ T := by
    intro hlong T hT
    rcases List.mem_cons.1 (hcasts.mem_iff.1 hT) with rfl | hother
    · omega
    · exact hothers T hother
  obtain ⟨haccounted', hsince, -, hspares⟩ := hthen.spares hattached hid hlater
  have hsince' : stage.tick ≤ sim'.tick := hsince
  have hspared := hspares hbefore
  have hstill : ∀ T, T ∈ sim'.agenda.ticks (Action.casts id) ↔
      T = sim.tick + wand.castDelay ∨ T ∈ sim.agenda.ticks (Action.casts id) := by
    intro T
    rw [hspared.casts]
    exact hcasts.mem_iff.trans List.mem_cons
  refine ⟨(hstill _).2 (.inl rfl), fun left hleft => ?_, fun hnext => ?_⟩
  · obtain ⟨held, hheld, hwand, hpiles⟩ := hspared.wand left hleft
    cases hholds.symm.trans hheld
    obtain ⟨slots, mana, hreset⟩ := WandState.fresh_eq_ok hfresh
    obtain ⟨hdeck, hhand, hdiscarded, -⟩ := WandState.reset_eq_ok hreset
    rw [hpiles]
    exact ⟨hwand, hdeck, hhand, hdiscarded⟩
  · have hstep := step_spares haccounted'.idle fun T hT => by
      rcases (hstill T).1 hT with rfl | hother
      · omega
      · have hlate := hothers T hother
        omega
    exact ⟨haccounted'.idle, hstep.1⟩

/-! Two wands that one entity is given one after the other. -/

section Replaced

/-- Numbers that turn by a hexagon. -/
local instance steady : Scalar Rat := Stage.level

def quick : Wand Rat :=
  { id := "quick", name := "Quick", cards := [], manaRecharge := 1, castDelay := 3, spread := 0 }

def slow : Wand Rat :=
  { id := "slow", name := "Slow", cards := ["bolt", "bolt"], manaRecharge := 1, castDelay := 50
    spread := 0 }

def shop : Simulation Rat :=
  .start ⟨Stage.armory.catalog.cards, .ofList [("quick", quick), ("slow", slow)],
    Stage.armory.catalog.blueprints⟩ {} {} ⟨.replicate 624 0, 0⟩ false

/-- The simulation after one of the wands was spawned. -/
def attach (wandId : String) (target : Option Int) (sim : Simulation Rat) : Simulation Rat :=
  { sim with toStage := Run.left (Stage.spawnWand wandId target sim.toStage) }

theorem reached_attach (wandId : String) : Reached (attach wandId none shop) :=
  ⟨_, _, _, _, _, .spawn wandId .refl trivial⟩

theorem first_cast_waits_quick :
    ∃ sim : Simulation Rat,
      Operated (· ≠ some 0) (attach "quick" (some 0) (attach "slow" none shop)) sim ∧
      sim.tick = 1 ∧ 3 ∈ sim.agenda.ticks (Action.casts 0) ∧
      (∀ held, sim.world.get? .holder 0 = some held → held.wand = "quick") ∧
      ∀ due begun, beginTick sim = .ok due begun → ∀ action ∈ due, action.casts 0 = false := by
  let sim : Simulation Rat := attach "slow" none shop
  have hspawn : Stage.spawnWand "quick" (some 0) sim.toStage =
      .ok 0 (attach "quick" (some 0) sim).toStage := Run.eq_ok_of_value? (by decide +kernel)
  have hcasts : sim.agenda.ticks (Action.casts 0) = [50] := by decide +kernel
  have hearlier : ∀ holder, some (0 : Int) = some holder →
      ∀ T ∈ sim.agenda.ticks (Action.casts holder), sim.tick + max 1 quick.castDelay ≤ T := by
    rintro holder ⟨⟩ T hT
    rw [hcasts] at hT
    cases List.mem_singleton.1 hT
    decide +kernel
  have htick : (Run.left (step (attach "quick" (some 0) sim))).tick = 1 := by decide +kernel
  have hthen : Operated (· ≠ some 0) (attach "quick" (some 0) sim)
      (Run.left (step (attach "quick" (some 0) sim))) := .step .refl
  have hbefore : (Run.left (step (attach "quick" (some 0) sim))).tick <
      sim.tick + max 1 quick.castDelay := by
    rw [htick]
    decide +kernel
  obtain ⟨hfirst, hwand, hnone⟩ :=
    (reached_attach "slow").first_cast_waits rfl hspawn hearlier hthen hbefore
  refine ⟨_, hthen, htick, hfirst, fun held hheld => (hwand held hheld).1, ?_⟩
  exact (hnone (by rw [htick]; decide +kernel)).2

/-- Two ticks after the quick wand was replaced by the slow one. -/
def hasty : Simulation Rat :=
  Run.left (step (Run.left (step (attach "slow" (some 0) (attach "quick" none shop)))))

/-- The third tick has begun. -/
def drawn : Simulation Rat := Run.left (beginTick hasty)

/-- The stage once the wand was cast. -/
def loosed : Stage Rat := Run.left (Stage.shoot 0 drawn.toStage)

theorem step_hasty :
    Run.value? (step hasty) = some () ∧
      ((Run.left (step hasty)).world.get? .projectile 1).map (·.owner) = some 0 := by
  have hbegin : beginTick hasty = .ok [.shootWand 0] drawn :=
    Run.eq_ok_of_value? (by decide +kernel)
  have hshoot : Stage.shoot 0 drawn.toStage = .ok () loosed :=
    Run.eq_ok_of_value? (by decide +kernel)
  rw [step_of_shot hbegin hshoot]
  decide +kernel

/-- A cast that was scheduled for the replaced wand casts the new one, long before its delay has
passed. -/
theorem first_cast_early :
    ∃ (sim sim' begun : Simulation Rat) (stage : Stage Rat) (cast : Cast Rat) (t : Stage Rat),
      Reached sim ∧ sim.world.isAlive 0 = true ∧ sim.catalog.wand "slow" = .ok slow ∧
      Stage.spawnWand "slow" (some 0) sim.toStage = .ok 0 stage ∧
      Operated (· ≠ some 0) { sim with toStage := stage } sim' ∧
      beginTick sim' = .ok [.shootWand 0] begun ∧
      begun.tick < sim.tick + max 1 slow.castDelay ∧
      (begun.world.get? .holder 0).map (·.wand) = some "slow" ∧
      Stage.castWand 0 begun.toStage = .ok cast t ∧
      Run.value? (step sim') = some () ∧
      ((Run.left (step sim')).world.get? .projectile 1).map (·.owner) = some 0 := by
  have hspawn : Stage.spawnWand "slow" (some 0) (attach "quick" none shop).toStage =
      .ok 0 (attach "slow" (some 0) (attach "quick" none shop)).toStage :=
    Run.eq_ok_of_value? (by decide +kernel)
  have hvalue : (Run.value? (Stage.castWand 0 drawn.toStage)).isSome = true := by decide +kernel
  obtain ⟨cast, hcast⟩ := Option.isSome_iff_exists.1 hvalue
  obtain ⟨hstep, hshot⟩ := step_hasty
  exact ⟨attach "quick" none shop, hasty, drawn, _, cast, _, reached_attach "quick",
    by decide +kernel, rfl, hspawn, .step (.step .refl), Run.eq_ok_of_value? (by decide +kernel),
    by decide +kernel, by decide +kernel, Run.eq_ok_of_value? hcast, hstep, hshot⟩

end Replaced

end Simulation
end WandArena
