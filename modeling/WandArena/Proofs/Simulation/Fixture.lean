import WandArena.Proofs.Simulation.Progress
import WandArena.Proofs.Simulation.Roster

/-! Entities that stay where they are.

An entity that has a place, is no projectile and whose end is not scheduled is a `Fixture`. Casts
schedule no end but those of the projectiles they launch, motion gives nobody what they lack, and
nobody leaves the arena but projectiles. So however a tick ends, a fixture is alive and in its place
as long as no task waits for an event (`step_stands`). -/
namespace WandArena
variable {α β : Type}

namespace World

/-- The census stays the same, and everybody keeps having what they have. -/
abbrev outfitted : Run.Frame (World α) := .same fun w => (w.census, w.has)

theorem letsMove_outfitted : LetsMove (outfitted (α := α)) := by
  intro w k id value hk _ hhas
  refine Prod.ext (census_put w hk id value) (funext₂ fun j other => ?_)
  by_cases hkind : j = k
  · subst hkind
    exact has_put_of_has hhas other value
  · show (w.put k id value).has j other = w.has j other
    rw [has_eq, has_eq, get?_put_of_ne w hkind]

theorem isAlive_put (w : World α) (k : ComponentKind) (id other : Int) (value : k.Value α) :
    (w.put k id value).isAlive other = w.isAlive other := by
  simp only [isAlive, put, existing_setTable, marked_setTable]

theorem isAlive_destroy_of_ne (w : World α) {id other : Int} (h : other ≠ id) :
    (w.destroy id).isAlive other = w.isAlive other := by
  have hnot : (compare id other == .eq) = false := by
    rw [beq_eq_false_iff_ne, ne_eq, Std.LawfulEqCmp.compare_eq_iff_eq]
    exact Ne.symm h
  unfold destroy
  split
  · simp only [isAlive, Std.ExtTreeSet.contains_insert, hnot, Bool.false_or]
  · rfl

/-- Whoever leaves the arena is a projectile. -/
theorem has_of_mem_bounce [Scalar α] {w w' : World α} {width height id : Int} {gone : List Int}
    (h : bounce width height w = .ok gone w') (hid : id ∈ gone) : w.has .projectile id = true :=
  has_of_mem_query (Run.mem_of_filterM h hid) (by decide)

end World

/-! ### On a stage -/

/-- The entity has a place, is no projectile, and its end is not scheduled. -/
structure Stage.Fixture (s : Stage α) (id : Int) : Prop where
  alive : s.world.isAlive id = true
  numbered : id < s.world.nextId
  placed : s.world.has .position id = true
  grounded : s.world.has .projectile id = false
  endless : s.agenda.ticks (Action.despawns id) = []

namespace Stage
variable {s t : Stage α} {id holder : Int}

namespace Fixture

theorem of_same (h : s.Fixture id) (halive : t.world.isAlive id = s.world.isAlive id)
    (hnext : s.world.nextId ≤ t.world.nextId)
    (hhas : ∀ k, k ≠ .holder → k ≠ .manaBar → t.world.has k id = s.world.has k id)
    (hends : t.agenda.ticks (Action.despawns id) = s.agenda.ticks (Action.despawns id)) :
    t.Fixture id where
  alive := halive.trans h.alive
  numbered := Int.lt_of_lt_of_le h.numbered hnext
  placed := (hhas .position nofun nofun).trans h.placed
  grounded := (hhas .projectile nofun nofun).trans h.grounded
  endless := hends.trans h.endless

theorem of_world (h : s.Fixture id) (hworld : t.world = s.world)
    (hagenda : t.agenda = s.agenda) : t.Fixture id :=
  h.of_same (by rw [hworld]) (by rw [hworld]) (fun _ _ _ => by rw [hworld]) (by rw [hagenda])

theorem of_outfitted (h : s.Fixture id) {world : World α}
    (hworld : World.outfitted.Allows s.world world) : Fixture { s with world } id := by
  obtain ⟨hcensus, hhas⟩ := Prod.mk.inj hworld
  obtain ⟨hnext, hexisting, hmarked, -⟩ := Census.mk.inj hcensus
  refine h.of_same ?_ (Int.le_of_eq hnext.symm) (fun k _ _ => congrFun₂ hhas k id) rfl
  simp only [World.isAlive, hexisting, hmarked]

/-- Wands and mana bars are nothing to a fixture. -/
theorem put (h : s.Fixture id) {k : ComponentKind} (hk : k = .holder ∨ k = .manaBar) (other : Int)
    (value : k.Value α) : Fixture { s with world := s.world.put k other value } id := by
  refine h.of_same (s.world.isAlive_put k other id value)
    (Int.le_of_eq (s.world.nextId_setTable k _).symm) (fun j hh hb => ?_) rfl
  have hne : j ≠ k := by
    rcases hk with rfl | rfl
    · exact hh
    · exact hb
  rw [World.has_eq, World.has_eq, World.get?_put_of_ne _ hne]

/-- A new entity is another one. -/
theorem create (h : s.Fixture id) {components : List (Component α)}
    (hnone : ∀ c ∈ components, c.kind ≠ .holder) :
    Fixture { s with world := (s.world.create components).2 } id := by
  have hne : id ≠ s.world.nextId := Int.ne_of_lt h.numbered
  have hjoins := joins_create s hnone
  refine h.of_same ?_ ?_ (fun k _ _ => ?_) rfl
  · show (_ && !_) = (_ && !_)
    exact congrArg₂ (· && !·) (hjoins.existing_of_ne hne)
      (congrArg (·.contains id) hjoins.marked)
  · have hnext : (s.world.create components).2.nextId = s.world.nextId + 1 := hjoins.nextId
    show _ ≤ (s.world.create components).2.nextId
    omega
  · rw [World.has_eq, World.has_eq, World.get?_create_of_ne _ _ _ hne]

theorem schedule (h : s.Fixture id) (tick : Int) {action : Action}
    (hnot : action.despawns id = false) :
    Fixture { s with agenda := s.agenda.schedule tick action } id :=
  h.of_same rfl (Int.le_refl _) (fun _ _ _ => rfl) (s.agenda.ticks_schedule_of_not tick hnot)

theorem drop (h : s.Fixture id) (other : Int) :
    Fixture { s with world := s.world.drop .holder other } id := by
  refine h.of_same rfl (Int.le_refl _) (fun k hk _ => ?_) rfl
  rw [World.has_eq, World.has_eq, World.get?_drop_of_ne _ hk]

theorem destroy (h : s.Fixture id) {other : Int} (hne : id ≠ other) :
    Fixture { s with world := s.world.destroy other } id := by
  obtain ⟨hnext, -, -, -⟩ := Census.mk.inj (s.world.census_destroy other)
  refine h.of_same (s.world.isAlive_destroy_of_ne hne) (Int.le_of_eq hnext.symm) (fun k _ _ => ?_)
    rfl
  rw [World.has_eq, World.has_eq, World.get?_destroy]

theorem removeMarked (h : s.Fixture id) :
    Fixture { s with world := s.world.removeMarked } id := by
  refine h.of_same (s.world.isAlive_removeMarked id) (Int.le_of_eq s.world.nextId_removeMarked.symm)
    (fun k _ _ => ?_) rfl
  rw [World.has_eq, World.has_eq, World.get?_removeMarked, World.marked_of_isAlive h.alive,
    if_neg Bool.false_ne_true]

end Fixture

/-- The frame in which a fixture stays. -/
abbrev standing (id : Int) : Run.Frame (Stage α) := .keeping (·.Fixture id)

theorem scheduleEnd_stands {other : Int} (hne : other ≠ id) (lifetime : Int) :
    Run.Keeps (standing id) (scheduleEnd other lifetime : Run (Stage α) Unit) := by
  unfold scheduleEnd
  split
  · exact noteAll_keeps_of (fun _ _ h => h.of_world rfl rfl) _
  · refine .modify fun s h => h.schedule _ ?_
    rw [Action.despawns_despawnEntity, decide_eq_false hne]

theorem letsCast_standing (holder : Int) : LetsCast (standing (α := α) id) holder where
  journal := fun _ _ h => h.of_world rfl rfl
  hold := fun _ held _ h => h.put (.inl rfl) holder held
  arm := fun _ tick h => h.schedule tick (Action.despawns_shootWand holder id)

theorem halt_stands (fault : ConfigFault) :
    Run.Keeps (standing id) (halt holder fault : Run (Stage α) Unit) :=
  .bind ((letsCast_standing holder).log _) fun _ =>
    .modify fun _ h => (h.drop holder).of_world rfl rfl

variable [Scalar α]

/-- A projectile has a number of its own, and so has the end that is scheduled. -/
theorem launchOne_stands (muzzle : Muzzle α) (spread : α) (castStats : Stats α)
    (shot : Shot α (Cast α)) :
    Run.Keeps (standing id) (launchOne muzzle spread castStats shot) := by
  have hroll (low high : α) : Run.Keeps (standing id) (rollBetween low high) :=
    .get_bind fun s => .set_bind (fun h => h.of_world rfl rfl) (.pure _)
  refine .bind (findBlueprint_keeps _) fun blueprint => .get_bind fun s =>
    Run.Keeps.bind (.lift _) (fun stats => ?_) s
  refine .bind (.number _) fun offset => .bind (hroll _ _) fun deviation => ?_
  refine .bind (.number _) fun direction => .bind (.number _) fun along => ?_
  refine .bind (.number _) fun across => fun s h => ?_
  have hne : s.world.nextId ≠ id := Int.ne_of_gt h.numbered
  have hrest (stats : FullStats α) : Run.Keeps (standing id) (do
      let ends ← Run.found .tooManyEnds stats.lifetime.ends?
      let lifetime ← Run.number (Scalar.floor (← rollBetween ends.1 ends.2))
      scheduleEnd s.world.nextId lifetime
      return s.world.nextId : Run (Stage α) Int) :=
    .bind (.found _ _) fun ends => .bind (hroll _ _) fun roll => .bind (.number _) fun lifetime =>
      .bind (scheduleEnd_stands hne _) fun _ => .pure _
  exact hrest stats _ (h.create shotComponents_kind)

theorem shoot_stands (holder : Int) :
    Run.Keeps (standing id) (shoot holder : Run (Stage α) Unit) :=
  shoot_keeps
    ((letsCast_standing holder).castWand fun _ _ => .get_bind fun s => Run.Keeps.mapM
      (launchOne_stands _ _ _) _ s)
    halt_stands (letsCast_standing holder).log

theorem regainMana_stands : Run.Keeps (standing id) (regainMana : Run (Stage α) Unit) :=
  regainMana_keeps_of fun _ holder _ _ _ h => h.put (.inl rfl) holder _

theorem showMana_stands : Run.Keeps (standing id) (showMana : Run (Stage α) Unit) :=
  showMana_keeps_of fun _ holder fill _ h => h.put (.inr rfl) holder fill

end Stage

/-! ### Through a tick -/

namespace Simulation
open Stage
variable {sim sim' : Simulation α} {id : Int}

/-- No task waits for an event, and the entity is a fixture. -/
structure Holds (sim : Simulation α) (id : Int) : Prop where
  idle : sim.waiting.entries = []
  fixture : sim.Fixture id

/-- The frame in which a fixture stays while nothing waits for an event. -/
abbrev standing (id : Int) : Run.Frame (Simulation α) := .keeping (·.Holds id)

theorem onStage_stands {act : Run (Stage α) β} (hact : Run.Keeps (Stage.standing id) act) :
    Run.Keeps (standing id) (onStage act) :=
  hact.within fun _ _ hstage h => ⟨h.idle, hstage h.fixture⟩

variable [Scalar α]

/-- Only its own end does anything to a fixture. -/
theorem handle_stands {action : Action} (hnot : action.despawns id = false) :
    Run.Keeps (standing (α := α) id) (handle action) := by
  intro sim h
  by_cases hshot : action.kind = .shootWand
  · rw [handle_eq_shoot hshot]
    exact onStage_stands (shoot_stands action.entity) sim h
  by_cases hend : action.kind = .despawnEntity
  · rw [handle_despawnEntity h.idle hend]
    have hne : id ≠ action.entity := by
      rintro rfl
      rw [Action.despawns, hend, beq_self_eq_true, beq_self_eq_true] at hnot
      cases hnot
    refine ⟨h.idle, ?_⟩
    dsimp only [Run.left]
    split
    · exact h.fixture.destroy hne
    · exact h.fixture
  · obtain ⟨record, hlog⟩ := handle_other sim hshot hend
    rw [hlog]
    exact ⟨h.idle, h.fixture.of_world rfl rfl⟩

omit [Scalar α] in
theorem onWorld_stands {act : Run (World α) β} (hact : Run.Keeps World.outfitted act) :
    Run.Keeps (standing id) (onStage (Stage.onWorld act)) :=
  onStage_stands (hact.within fun _ _ houtfit h => h.of_outfitted houtfit)

theorem move_stands : Run.Keeps (standing (α := α) id)
    (modify fun sim => { sim with world := sim.world.move Quantity.one }) :=
  .modify fun sim h => ⟨h.idle, h.fixture.of_outfitted (World.letsMove_outfitted.move sim.world _)⟩

theorem coast_stands : Run.Keeps (standing (α := α) id) coast :=
  coast_keeps_of World.letsMove_outfitted fun _ _ houtfit h =>
    ⟨h.idle, h.fixture.of_outfitted houtfit⟩

/-- Whoever leaves the arena is no fixture. -/
theorem not_mem_of_coast {gone : List Int} (h : sim.Holds id)
    (hcoast : coast sim = .ok gone sim') : id ∉ gone := by
  intro hgone
  obtain ⟨_, turned, hturned, hmoving⟩ := Run.bind_eq_ok.1 hcoast
  obtain ⟨_, moved, hmoved, hbouncing⟩ := Run.bind_eq_ok.1 hmoving
  obtain ⟨_, _, hget, hbounced⟩ := Run.bind_eq_ok.1 hbouncing
  cases hget
  have hmid : moved.Holds id :=
    move_stands.of_ok hmoved ((onWorld_stands World.letsMove_outfitted.turn).of_ok hturned h)
  obtain ⟨stage, hstage, -⟩ := onStage_eq_ok.1 hbounced
  obtain ⟨world, hbounce, -⟩ := Run.within_eq_ok.1 hstage
  have hflies := World.has_of_mem_bounce hbounce hgone
  rw [hmid.fixture.grounded] at hflies
  cases hflies

theorem settle_stands {gone : List Int} (hnot : id ∉ gone) :
    Run.Keeps (standing (α := α) id) (settle gone) := by
  refine .bind (.forM_of_mem fun other hother => handle_stands ?_) fun _ => ?_
  · rw [Action.despawns_despawnEntity, decide_eq_false_iff_not]
    rintro rfl
    exact hnot hother
  · refine .bind (onStage_stands showMana_stands) fun _ => .modify fun sim h => ?_
    exact ⟨h.idle, h.fixture.removeMarked⟩

theorem coast_settle_stands : Run.Keeps (standing (α := α) id) (coast >>= settle) := by
  intro sim h
  cases hend : coast sim with
  | ok gone mid =>
    rw [Run.bind_apply_of_ok hend]
    exact settle_stands (not_mem_of_coast h hend) mid (coast_stands.of_ok hend h)
  | error fault mid =>
    rw [Run.bind_apply_of_error hend]
    exact coast_stands.of_error hend h

/-- However a tick ends, a fixture stays. -/
theorem step_stands (id : Int) : Run.Keeps (standing (α := α) id) step := by
  intro sim h
  have hnone : ∀ action ∈ (sim.agenda.popDue (sim.tick + 1)).1, action.despawns id = false := by
    have hcount := sim.agenda.countP_popDue (sim.tick + 1) (Action.despawns id)
    rw [h.fixture.endless, List.countP_nil] at hcount
    exact fun action haction => Bool.eq_false_iff.2 (List.countP_eq_zero.1 hcount action haction)
  have hrest : Run.Keeps (standing (α := α) id)
      ((sim.agenda.popDue (sim.tick + 1)).1.forM handle >>= fun _ => drift >>= settle) := by
    rw [drift_eq, bind_assoc]
    exact .bind (.forM_of_mem fun action haction => handle_stands (hnone action haction)) fun _ =>
      .bind (onStage_stands regainMana_stands) fun _ => coast_settle_stands
  let begun : Simulation α :=
    { sim with tick := sim.tick + 1, agenda := (sim.agenda.popDue (sim.tick + 1)).2 }
  have hbegin : beginTick sim = .ok (sim.agenda.popDue (sim.tick + 1)).1 begun := rfl
  have hbegun : begun.Holds id := by
    refine ⟨h.idle, h.fixture.of_same rfl (Int.le_refl _) (fun _ _ _ => rfl) ?_⟩
    show (sim.agenda.popDue (sim.tick + 1)).2.ticks (Action.despawns id) = _
    rw [sim.agenda.ticks_popDue, h.fixture.endless]
    rfl
  rw [step_eq, Run.bind_apply_of_ok hbegin]
  exact hrest begun hbegun

end Simulation
end WandArena
