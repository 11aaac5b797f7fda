import WandArena.Proofs.Simulation.Course

/-! Projectiles on the roster.

Of a projectile one has to know when it was launched, how long it may fly and whether it left the
arena: that settles for when its end is scheduled and until when it is alive (`Roster.Stands`).
Launching, dispatching an end and beginning a tick all keep to that. Whatever else happens on a
stage leaves the roster as it is (`drift_calm`). -/
namespace WandArena
variable {α : Type}

/-- The time of a projectile that was launched in one tick is up in another. -/
def Flight.Ended (f : Flight α) (tick now : Int) : Prop :=
  f.lifetime ≠ -1 ∧ tick + max 1 f.lifetime ≤ now

instance (f : Flight α) (tick now : Int) : Decidable (f.Ended tick now) :=
  inferInstanceAs (Decidable (_ ∧ _))

theorem Flight.not_ended_iff {f : Flight α} {tick now : Int} :
    ¬ f.Ended tick now ↔ f.lifetime = -1 ∨ now < tick + max 1 f.lifetime := by
  unfold Ended
  omega

theorem Flight.not_ended_launched (f : Flight α) (tick : Int) : ¬ f.Ended tick tick := by
  unfold Ended
  omega

/-- The ticks for which the end of a projectile is scheduled. -/
def Flight.ends (f : Flight α) (tick now : Int) : List Int :=
  if f.lifetime = -1 ∨ tick + max 1 f.lifetime ≤ now then [] else [tick + f.lifetime]

theorem Flight.ends_launched (f : Flight α) (tick : Int) :
    f.ends tick tick = if f.lifetime = -1 then [] else [tick + f.lifetime] := by
  have hup : ¬ tick + max 1 f.lifetime ≤ tick := by omega
  simp only [ends, hup, or_false]

/-- The time of a projectile is up in this very tick. -/
def Flight.Ending (f : Flight α) (tick now : Int) : Prop :=
  f.lifetime ≠ -1 ∧ now = tick + max 1 f.lifetime

instance (f : Flight α) (tick now : Int) : Decidable (f.Ending tick now) :=
  inferInstanceAs (Decidable (_ ∧ _))

theorem Flight.ended_succ_iff (f : Flight α) (tick now : Int) :
    f.Ended tick (now + 1) ↔ f.Ended tick now ∨ f.Ending tick (now + 1) := by
  unfold Ended Ending
  omega

theorem Flight.Ending.not_ended {f : Flight α} {tick now : Int} (h : f.Ending tick (now + 1)) :
    ¬ f.Ended tick now := by
  unfold Ended
  unfold Ending at h
  omega

/-- What is left of the schedule when a tick begins. -/
theorem Flight.filter_ends (f : Flight α) {tick now : Int} (h : tick ≤ now) :
    (f.ends tick now).filter (fun t => decide (now + 1 < t)) = f.ends tick (now + 1) := by
  unfold ends
  by_cases hnone : f.lifetime = -1 ∨ tick + max 1 f.lifetime ≤ now + 1
  · rw [if_pos hnone]
    split
    case isTrue => rfl
    case isFalse => exact List.filter_cons_of_neg (by rw [decide_eq_true_iff]; omega)
  · rw [if_neg hnone, if_neg (by omega)]
    exact List.filter_cons_of_pos (by rw [decide_eq_true_iff]; omega)

/-- What comes due when a tick begins. -/
theorem Flight.countP_ends (f : Flight α) {tick now : Int} (h : tick ≤ now) :
    ((f.ends tick now).countP fun t => decide (t ≤ now + 1)) =
      if f.Ending tick (now + 1) then 1 else 0 := by
  unfold ends
  by_cases hlast : f.Ending tick (now + 1)
  · rw [if_pos hlast]
    unfold Ending at hlast
    rw [if_neg (by omega)]
    exact List.countP_cons_of_pos (by rw [decide_eq_true_iff]; omega)
  · rw [if_neg hlast]
    unfold Ending at hlast
    split
    case isTrue => rfl
    case isFalse => exact List.countP_cons_of_neg (by rw [decide_eq_true_iff]; omega)

/-- The tasks that wait to be dispatched and end an entity. -/
abbrev calls (due : List Action) (id : Int) : Nat := due.countP (Action.despawns id)

theorem calls_cons_self {action : Action} (h : action.kind = .despawnEntity) (rest : List Action) :
    calls (action :: rest) action.entity = calls rest action.entity + 1 := by
  refine List.countP_cons_of_pos ?_
  rw [Action.despawns, h, beq_self_eq_true, beq_self_eq_true]
  rfl

theorem calls_cons_of_not {action : Action} {id : Int}
    (h : action.kind ≠ .despawnEntity ∨ action.entity ≠ id) (rest : List Action) :
    calls (action :: rest) id = calls rest id := by
  refine List.countP_cons_of_neg fun hcalls => ?_
  rw [Action.despawns, Bool.and_eq_true, beq_iff_eq, beq_iff_eq] at hcalls
  exact h.elim (· hcalls.1) (· hcalls.2)

/-! ### One projectile -/

namespace Stage.Roster
variable {r r' : Roster} {due : List Action} {expired : List (Int × Int)} {tick id : Int}
  {f : Flight α}

def isAlive (r : Roster) (id : Int) : Bool := r.existing.contains id && !r.marked.contains id

/-- A projectile that was launched in a tick. Its end is scheduled once until its time is up, and it
is alive until then unless it left the arena. When its time is up, its end may be waiting to be
dispatched. -/
structure Stands (r : Roster) (due : List Action) (expired : List (Int × Int)) (tick : Int)
    (f : Flight α) : Prop where
  born : tick ≤ r.tick
  numbered : f.id < r.nextId
  ends : r.ends f.id = f.ends tick r.tick
  called : calls due f.id = 0 ∨ calls due f.id = 1 ∧ f.Ended tick r.tick
  alive : r.isAlive f.id = true ↔
    (¬ f.Ended tick r.tick ∨ calls due f.id = 1) ∧ ∀ T, tick ≤ T → (T, f.id) ∉ expired

/-- Nobody has been given this number yet. -/
structure Unborn (r : Roster) (due : List Action) (id : Int) : Prop where
  existing : r.existing.contains id = false
  marked : r.marked.contains id = false
  ends : r.ends id = []
  called : calls due id = 0

/-- What the rest of the stage does is nothing to a projectile. -/
theorem Stands.of_same (h : r.Stands due expired tick f) (htick : r'.tick = r.tick)
    (hnext : r.nextId ≤ r'.nextId) (hends : r'.ends f.id = r.ends f.id)
    (halive : r'.isAlive f.id = r.isAlive f.id) : r'.Stands due expired tick f where
  born := htick ▸ h.born
  numbered := Int.lt_of_lt_of_le h.numbered hnext
  ends := by rw [hends, h.ends, htick]
  called := by rw [htick]; exact h.called
  alive := by rw [halive, htick]; exact h.alive

/-! ### A new entity -/

/-- A new entity joins. -/
structure Joins (r r' : Roster) : Prop where
  nextId : r'.nextId = r.nextId + 1
  existing : r'.existing = r.existing.insert r.nextId
  marked : r'.marked = r.marked
  tick : r'.tick = r.tick
  others : ∀ id, id ≠ r.nextId → r'.ends id = r.ends id

theorem Joins.existing_of_ne (h : r.Joins r') (hid : id ≠ r.nextId) :
    r'.existing.contains id = r.existing.contains id := by
  have hnot : (compare r.nextId id == .eq) = false := by
    rw [beq_eq_false_iff_ne, ne_eq, Std.LawfulEqCmp.compare_eq_iff_eq]
    exact Ne.symm hid
  rw [h.existing, Std.ExtTreeSet.contains_insert, hnot, Bool.false_or]

theorem Joins.stands (h : r.Joins r') (hstands : r.Stands due expired tick f) :
    r'.Stands due expired tick f := by
  have hid : f.id ≠ r.nextId := Int.ne_of_lt hstands.numbered
  have hnext := h.nextId
  refine hstands.of_same h.tick (by omega) (h.others f.id hid) ?_
  rw [isAlive, isAlive, h.existing_of_ne hid, h.marked]

theorem Joins.unborn (h : r.Joins r') (hid : id ≠ r.nextId) (hunborn : r.Unborn due id) :
    r'.Unborn due id where
  existing := (h.existing_of_ne hid).trans hunborn.existing
  marked := by rw [h.marked]; exact hunborn.marked
  ends := (h.others id hid).trans hunborn.ends
  called := hunborn.called

/-- A new projectile has all its time ahead. -/
theorem Joins.stands_self (h : r.Joins r') (hid : f.id = r.nextId) (hunborn : r.Unborn due f.id)
    (hends : r'.ends f.id = f.ends r.tick r.tick) (hpast : ∀ e ∈ expired, e.1 < r.tick) :
    r'.Stands due expired r.tick f where
  born := Int.le_of_eq h.tick.symm
  numbered := by
    have hnext := h.nextId
    omega
  ends := by rw [hends, h.tick]
  called := .inl hunborn.called
  alive := by
    have hthere : r'.isAlive f.id = true := by
      rw [isAlive, h.marked, hunborn.marked, h.existing, hid, Std.ExtTreeSet.contains_insert_self]
      rfl
    rw [h.tick]
    refine iff_of_true hthere ⟨.inl (f.not_ended_launched r.tick), fun T hT hgone => ?_⟩
    exact Int.not_lt.2 hT (hpast _ hgone)

/-! ### An end -/

/-- An entity is marked if it is alive. -/
def bury (r : Roster) (id : Int) : Roster :=
  { r with marked := if r.isAlive id then r.marked.insert id else r.marked }

theorem isAlive_bury (r : Roster) (id other : Int) :
    (r.bury id).isAlive other = if other = id then false else r.isAlive other := by
  unfold bury
  cases hlives : r.isAlive id with
  | true =>
    show (r.existing.contains other && !(r.marked.insert id).contains other) = _
    rw [Std.ExtTreeSet.contains_insert]
    by_cases hid : other = id
    · rw [if_pos hid, hid, beq_iff_eq.2 (Std.LawfulEqCmp.compare_eq_iff_eq.2 rfl), Bool.true_or,
        Bool.not_true, Bool.and_false]
    · have hnot : (compare id other == .eq) = false := by
        rw [beq_eq_false_iff_ne, ne_eq, Std.LawfulEqCmp.compare_eq_iff_eq]
        exact Ne.symm hid
      rw [if_neg hid, hnot, Bool.false_or]
      rfl
  | false =>
    show r.isAlive other = _
    split
    case isTrue hid => rw [hid, hlives]
    case isFalse => rfl

theorem Stands.bury_of_ne (h : r.Stands due expired tick f) (hid : f.id ≠ id) :
    (r.bury id).Stands due expired tick f :=
  h.of_same rfl (Int.le_refl _) rfl (by rw [isAlive_bury, if_neg hid])

theorem Unborn.bury (h : r.Unborn due id) (other : Int) : (r.bury other).Unborn due id where
  existing := h.existing
  marked := by
    show (if r.isAlive other then r.marked.insert other else r.marked).contains id = false
    split
    case isTrue hlives =>
      have hid : other ≠ id := by
        rintro rfl
        rw [isAlive, h.existing] at hlives
        cases hlives
      rw [Std.ExtTreeSet.contains_insert, h.marked, Bool.or_false, beq_eq_false_iff_ne, ne_eq,
        Std.LawfulEqCmp.compare_eq_iff_eq]
      exact hid
    case isFalse => exact h.marked
  ends := h.ends
  called := h.called

/-- What waits to be dispatched no longer waits, and it was no end or one of another entity. -/
theorem Stands.skip {action : Action} (h : r.Stands (action :: due) expired tick f)
    (hnot : action.kind ≠ .despawnEntity ∨ action.entity ≠ f.id) :
    r.Stands due expired tick f := by
  have hcalls := calls_cons_of_not hnot due
  exact ⟨h.born, h.numbered, h.ends, hcalls ▸ h.called, hcalls ▸ h.alive⟩

theorem Unborn.skip {action : Action} (h : r.Unborn (action :: due) id) : r.Unborn due id where
  existing := h.existing
  marked := h.marked
  ends := h.ends
  called := Nat.le_zero.1 (h.called ▸ (List.sublist_cons_self action due).countP_le)

/-- When its end is dispatched, a projectile dies. -/
theorem Stands.despawn {action : Action} (h : r.Stands (action :: due) expired tick f)
    (hkind : action.kind = .despawnEntity) : (r.bury action.entity).Stands due expired tick f := by
  by_cases hid : f.id = action.entity
  · have hcalls := calls_cons_self hkind due
    rw [← hid] at hcalls ⊢
    obtain ⟨hnone, hended⟩ : calls due f.id = 0 ∧ f.Ended tick r.tick := by
      rcases h.called with hzero | ⟨hone, hended⟩
      · omega
      · exact ⟨by omega, hended⟩
    refine ⟨h.born, h.numbered, h.ends, .inl hnone, ?_⟩
    rw [isAlive_bury, if_pos rfl]
    refine iff_of_false Bool.false_ne_true fun ⟨hup, _⟩ => ?_
    rcases hup with hup | hone
    · exact hup hended
    · omega
  · exact (h.bury_of_ne hid).skip (.inr (Ne.symm hid))

/-- A projectile that leaves the arena dies. -/
theorem Stands.expire (h : r.Stands due expired tick f) (id : Int) :
    (r.bury id).Stands due (expired ++ [(r.tick, id)]) tick f := by
  by_cases hid : f.id = id
  · subst hid
    refine ⟨h.born, h.numbered, h.ends, h.called, ?_⟩
    rw [isAlive_bury, if_pos rfl]
    refine iff_of_false Bool.false_ne_true fun ⟨_, hstays⟩ => ?_
    exact hstays r.tick h.born (List.mem_append_right _ (List.mem_singleton_self _))
  · have hburied := h.bury_of_ne hid
    refine { hburied with alive := hburied.alive.trans (and_congr_right fun _ => ?_) }
    refine forall_congr' fun T => forall_congr' fun _ => not_congr ?_
    rw [List.mem_append, List.mem_singleton, Prod.mk.injEq]
    exact ⟨.inl, fun hmem => hmem.resolve_right fun hsame => hid hsame.2⟩

/-! ### A new tick -/

/-- A tick begins, and what is due in it is taken off. -/
def begin (r : Roster) : Roster :=
  { r with tick := r.tick + 1, ends := fun id => (r.ends id).filter (r.tick + 1 < ·) }

/-- When its time is up, the end of a projectile comes due. -/
theorem Stands.begin (h : r.Stands [] expired tick f)
    (hdue : calls due f.id = (r.ends f.id).countP fun t => decide (t ≤ r.tick + 1)) :
    (calls due f.id = if f.Ending tick (r.tick + 1) then 1 else 0) ∧
      r.begin.Stands due expired tick f := by
  have hborn := h.born
  have halive : r.isAlive f.id = true ↔
      ¬ f.Ended tick r.tick ∧ ∀ T, tick ≤ T → (T, f.id) ∉ expired := by
    have hnone : calls [] f.id = 0 := rfl
    rw [h.alive, hnone, or_iff_left Nat.zero_ne_one]
  have hsucc := f.ended_succ_iff tick r.tick
  have hcalls : calls due f.id = if f.Ending tick (r.tick + 1) then 1 else 0 := by
    rw [hdue, h.ends, f.countP_ends hborn]
  refine ⟨hcalls, ⟨?_, h.numbered, ?_, ?_, halive.trans (and_congr_left fun _ => ?_)⟩⟩
  · show tick ≤ r.tick + 1
    omega
  · show (r.ends f.id).filter (fun t => decide (r.tick + 1 < t)) = _
    rw [h.ends, f.filter_ends hborn]
    rfl
  · rw [hcalls]
    split
    case isTrue hlast => exact .inr ⟨rfl, hsucc.2 (.inr hlast)⟩
    case isFalse => exact .inl rfl
  · show _ ↔ ¬ f.Ended tick (r.tick + 1) ∨ _
    rw [hcalls, hsucc]
    split
    case isTrue hlast => exact iff_of_true hlast.not_ended (.inr rfl)
    case isFalse hlast =>
      rw [or_iff_left hlast, or_iff_left (by decide)]

theorem Unborn.begin (h : r.Unborn [] id)
    (hdue : calls due id = (r.ends id).countP fun t => decide (t ≤ r.tick + 1)) :
    r.begin.Unborn due id where
  existing := h.existing
  marked := h.marked
  ends := by
    show (r.ends id).filter _ = []
    rw [h.ends]
    rfl
  called := by
    rw [hdue, h.ends]
    rfl

end Stage.Roster

/-! ### Launching -/

namespace Stage
variable {s t : Stage α}

theorem joins_create (s : Stage α) {components : List (Component α)}
    (h : ∀ c ∈ components, c.kind ≠ .holder) :
    s.roster.Joins (roster { s with world := (s.world.create components).2 }) := by
  obtain ⟨hnext, hexisting, hmarked, -⟩ := Census.mk.inj (s.world.census_create h)
  exact ⟨hnext, hexisting, hmarked, rfl, fun _ _ => rfl⟩

variable [Scalar α] {muzzle : Muzzle α} {spread : α} {castStats : Stats α}
  {shot : Shot α (Cast α)} {f : Flight α}

theorem joins_launched (hid : f.id = s.world.nextId) :
    s.roster.Joins (s.launched muzzle shot f).roster := by
  have hcensus : (s.launched muzzle shot f).world.census =
      ⟨s.world.nextId + 1, s.world.existing.insert s.world.nextId, s.world.marked,
        s.world.holders⟩ :=
    (congrArg World.census (world_launched f)).trans (s.world.census_create shotComponents_kind)
  obtain ⟨hnext, hexisting, hmarked, -⟩ := Census.mk.inj hcensus
  refine ⟨hnext, hexisting, hmarked, (backdrop_launched s muzzle shot f).2, fun id hne => ?_⟩
  show (s.launched muzzle shot f).agenda.ticks _ = s.agenda.ticks _
  rw [agenda_launched]
  split
  case isTrue => rfl
  case isFalse =>
    refine s.agenda.ticks_schedule_of_not _ ?_
    rw [Action.despawns_despawnEntity, decide_eq_false_iff_not, hid]
    exact Ne.symm hne

/-- The end of a new projectile is scheduled. -/
theorem ends_launched (hnone : s.roster.ends f.id = []) :
    (s.launched muzzle shot f).roster.ends f.id = f.ends s.tick s.tick := by
  show (s.launched muzzle shot f).agenda.ticks _ = _
  rw [agenda_launched, f.ends_launched]
  split
  case isTrue => exact hnone
  case isFalse =>
    have hscheduled := s.agenda.ticks_schedule (s.tick + f.lifetime) (.despawnEntity f.id)
      (Action.despawns f.id)
    have hself : (Action.despawnEntity f.id).despawns f.id = true := by
      rw [Action.despawns_despawnEntity, decide_eq_true rfl]
    rw [hself, if_pos rfl, show s.agenda.ticks (Action.despawns f.id) = [] from hnone]
      at hscheduled
    exact List.perm_singleton.1 hscheduled

end Stage

/-! ### What ticks do -/

namespace Simulation
open Stage

section Calm
variable [Scalar α] {β : Type} {sim sim' : Simulation α}

omit [Scalar α] in
theorem onStage_calm {act : Run (Stage α) β} {b : β} (hact : Run.Keeps calm act)
    (h : onStage act sim = .ok b sim') :
    sim'.roster = sim.roster ∧ sim'.waiting = sim.waiting := by
  obtain ⟨stage, hend, rfl⟩ := onStage_eq_ok.1 h
  exact ⟨hact.of_ok hend, rfl⟩

omit [Scalar α] in
theorem roster_of_census {world : World α} (s : Stage α) (h : world.census = s.world.census) :
    roster { s with world } = s.roster := by
  obtain ⟨hnext, hexisting, hmarked, -⟩ := Census.mk.inj h
  simp only [roster, hnext, hexisting, hmarked]

theorem regainMana_calm : Run.Keeps calm (regainMana : Run (Stage α) Unit) :=
  regainMana_keeps_of fun s id _ _ hget => (letsCast_calm id).hold s _ (World.has_of_get? hget)

theorem showMana_calm : Run.Keeps calm (showMana : Run (Stage α) Unit) :=
  showMana_keeps_of fun _ _ _ _ => rfl

/-- Between two dispatches nobody comes or goes. -/
theorem drift_calm {gone : List Int} (h : drift sim = .ok gone sim') :
    sim'.roster = sim.roster ∧ sim'.waiting = sim.waiting := by
  rw [drift_eq] at h
  obtain ⟨_, regained, hregain, hcoasting⟩ := Run.bind_eq_ok.1 h
  have hcoast : Run.Keeps (.same fun sim : Simulation α => (sim.roster, sim.waiting)) coast :=
    coast_keeps fun sim world hsame => congrArg (·, sim.waiting)
      (roster_of_census sim.toStage (congrArg Prod.fst hsame))
  obtain ⟨hroster, hwaiting⟩ := onStage_calm regainMana_calm hregain
  obtain ⟨hcoasted, hwaited⟩ := Prod.mk.inj (hcoast.of_ok hcoasting)
  exact ⟨hcoasted.trans hroster, hwaited.trans hwaiting⟩

end Calm

/-- Whoever's end is dispatched gets marked if alive. -/
theorem roster_despawn [Scalar α] {action : Action} {sim sim' : Simulation α}
    (hidle : sim.waiting.entries = []) (hkind : action.kind = .despawnEntity)
    (h : handle action sim = .ok () sim') : sim'.roster = sim.roster.bury action.entity := by
  cases (handle_despawnEntity hidle hkind).symm.trans h
  unfold Roster.bury
  by_cases hlives : sim.world.isAlive action.entity = true
  · have hthere : sim.world.existing.contains action.entity = true :=
      (Bool.and_eq_true_iff.1 hlives).1
    have hroster : sim.roster.isAlive action.entity = true := hlives
    rw [if_pos hroster]
    simp only [if_pos hlives, World.destroy, if_pos hthere]
    rfl
  · have hroster : ¬ sim.roster.isAlive action.entity = true := hlives
    rw [if_neg hroster]
    simp only [if_neg hlives]

end Simulation
end WandArena
