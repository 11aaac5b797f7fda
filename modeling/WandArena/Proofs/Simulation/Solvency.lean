import Mathlib.Algebra.Order.Field.Basic
import Mathlib.Data.Rat.Floor
import Mathlib.Tactic.Linarith
import Mathlib.Tactic.Positivity
import WandArena.Proofs.Simulation.Mana
import WandArena.Proofs.Simulation.Stacking

/-! The mana of a wand over whole runs.

A wand whose definition stays as it is may be spawned any number of times, and ticks may end as they
will: whoever holds it has mana that passes any test which spending and regaining keep up
(`Unaltered.charged`), at every point that a tick passes through (`Passes.charged`). Once a tick
ends well, everybody alive who holds the wand has just regained mana and shows what there is of it
(`step_shows`). Over exact numbers this bounds both the mana and the bar
(`Unaltered.mana_bounded`). -/
namespace WandArena
variable {α β : Type}

namespace Simulation
open Stage
variable [Scalar α] {wandId : String} {wand : Wand α} {test : α → Bool} {sim sim' : Simulation α}

/-! ### What keeps wands charged -/

/-- The frame in which wands stay charged. -/
abbrev charging (wandId : String) (wand : Wand α) (test : α → Bool) : Run.Frame (Simulation α) :=
  .keeping fun sim => Charged wandId wand test sim.toStage

omit [Scalar α] in
theorem onStage_charged {act : Run (Stage α) β}
    (hact : Run.Keeps (Stage.charging wandId wand test) act) :
    Run.Keeps (charging wandId wand test) (onStage act) :=
  hact.within fun _ _ hstage h => hstage h

theorem handle_charged (haffords : Caster.Affords test) (action : Action) :
    Run.Keeps (charging wandId wand test) (handle action) := by
  refine perform_keeps (runJob_keeps (fun sim id h => ?_) (fun _ _ h => h) (fun holder => ?_)
    fun record => onStage_charged (letsLaunch_charging.log record)) _
  · refine h.of_fewer rfl (fun hget => ?_) fun {other} _ hbar => ?_
    · rwa [World.get?_destroy] at hget
    · rw [World.has_eq, World.get?_destroy, ← World.has_eq]
      exact hbar
  · exact onStage_charged (shoot_charged haffords holder)

theorem drift_charged (hwand : wand.Sustains test) :
    Run.Keeps (charging wandId wand test) drift := by
  rw [drift_eq]
  refine .bind (onStage_charged (regainMana_charged hwand)) fun _ => ?_
  exact coast_keeps fun _ _ hgauged h => h.of_gauged rfl hgauged

theorem settle_charged (haffords : Caster.Affords test) (gone : List Int) :
    Run.Keeps (charging wandId wand test) (settle gone) := by
  refine .bind (.forM (fun id => handle_charged haffords _) gone) fun _ => ?_
  refine .bind (onStage_charged showMana_charged) fun _ => .modify fun sim h => ?_
  refine h.of_fewer rfl (fun hget => ?_) fun {id} hholds hbar => ?_
  · rw [World.get?_removeMarked] at hget
    split at hget
    case isTrue => cases hget
    case isFalse => exact hget
  · obtain ⟨hmarked, -⟩ := World.has_of_removeMarked hholds
    rw [World.has_eq, World.get?_removeMarked, hmarked, if_neg Bool.false_ne_true, ← World.has_eq]
    exact hbar

/-- However a tick ends, the wands that are held stay charged. -/
theorem step_charged (hwand : wand.Sustains test) : Run.Keeps (charging wandId wand test) step := by
  rw [step_eq]
  refine .bind (.modifyGet fun _ h => h.of_world rfl rfl) fun due => ?_
  refine .bind (.forM (handle_charged hwand.affords) due) fun _ => ?_
  exact .bind (drift_charged hwand) (settle_charged hwand.affords)

/-! ### The end of a tick -/

omit [Scalar α] in
theorem idle_of_proceeds (h : proceeding.Allows sim sim') (hidle : sim.waiting.entries = []) :
    sim'.waiting.entries = [] :=
  List.sublist_nil.1 (hidle ▸ h.2)

theorem drift_replenishes {gone : List Int} (h : sim.Charged wandId wand test)
    (hwand : wand.Sustains test) (hdrift : drift sim = .ok gone sim') {id : Int}
    (hmarked : sim'.world.marked.contains id = false) :
    Replenished wandId wand test id sim'.toStage := by
  rw [drift_eq] at hdrift
  obtain ⟨_, mid, hregain, hcoast⟩ := Run.bind_eq_ok.1 hdrift
  obtain ⟨regained, hregained, rfl⟩ := onStage_eq_ok.1 hregain
  have hcounts : Run.Keeps (.same (·.world.census)) (coast (α := α)) :=
    coast_keeps fun _ _ hgauged => congrArg Prod.fst hgauged
  obtain ⟨-, -, hmarks, hholders⟩ := Census.mk.inj (hcounts.of_ok hcoast)
  intro held hget
  exact h.regained hwand hregained (hmarks ▸ hmarked) held
    ((congrArg (·[id]?) hholders).symm.trans hget)

/-- While nothing waits for an event, nobody's wand changes, though somebody may be marked. -/
def burying : Run.Frame (Simulation α) where
  Allows sim sim' := sim.waiting.entries = [] → sim'.waiting.entries = [] ∧
    (∀ id, sim'.world.get? .holder id = sim.world.get? .holder id) ∧
    ∀ id, sim'.world.marked.contains id = false → sim.world.marked.contains id = false
  refl _ hidle := ⟨hidle, fun _ => rfl, fun _ => id⟩
  trans h h' hidle := by
    obtain ⟨hmid, hheld, hmarked⟩ := h hidle
    obtain ⟨hidle', hheld', hmarked'⟩ := h' hmid
    exact ⟨hidle', fun id => (hheld' id).trans (hheld id),
      fun id hid => hmarked id (hmarked' id hid)⟩

theorem despawn_buries (id : Int) :
    Run.Keeps burying (handle (α := α) (.despawnEntity id)) := by
  intro sim hidle
  rw [handle_despawnEntity hidle rfl]
  refine ⟨hidle, fun other => ?_, fun other hother => ?_⟩
  · dsimp only [Run.left]
    split
    · exact World.get?_destroy _ _ _ _
    · rfl
  · dsimp only [Run.left] at hother
    split at hother
    · exact World.marked_of_destroy hother
    · exact hother

/-- Once a tick ends well, everybody alive who holds the wand has just regained mana and shows what
there is of it. -/
theorem step_shows (h : sim.Charged wandId wand test) (hwand : wand.Sustains test)
    (hidle : sim.waiting.entries = []) (hstep : step sim = .ok () sim') {id : Int}
    {held : Holder α} (halive : sim'.world.isAlive id = true)
    (hheld : sim'.world.get? .holder id = some held) (hsame : held.wand = wandId) :
    (∃ mana, test mana = true ∧ held.state.mana = wand.regained mana) ∧
      ∃ fill, fillOf wand held.state.mana = .ok fill ∧
        sim'.world.get? .manaBar id = some fill := by
  rw [step_eq] at hstep
  obtain ⟨due, begun, hbegin, hdispatching⟩ := Run.bind_eq_ok.1 hstep
  obtain ⟨_, handled, hdispatch, hdrifting⟩ := Run.bind_eq_ok.1 hdispatching
  obtain ⟨gone, drifted, hdrift, hsettle⟩ := Run.bind_eq_ok.1 hdrifting
  obtain ⟨_, buried, hbury, hshowing⟩ := Run.bind_eq_ok.1 hsettle
  obtain ⟨_, _, hshow, hremove⟩ := Run.bind_eq_ok.1 hshowing
  obtain ⟨shown, hshown, rfl⟩ := onStage_eq_ok.1 hshow
  cases hremove
  have hbegun : begun.Charged wandId wand test ∧ begun.waiting.entries = [] := by
    cases hbegin
    exact ⟨h.of_world rfl rfl, hidle⟩
  have hhandled : handled.Charged wandId wand test :=
    (Run.Keeps.forM (handle_charged hwand.affords) due).of_ok hdispatch hbegun.1
  have hdrifted := (drift_charged hwand).of_ok hdrift hhandled
  have hquiet : drifted.waiting.entries = [] := by
    have hproceeds : Run.Keeps proceeding (due.forM handle >>= fun _ => drift (α := α)) :=
      .bind (.forM handle_proceeds due) fun _ => drift_proceeds
    exact idle_of_proceeds (hproceeds.of_ok (Run.bind_eq_ok.2 ⟨_, _, hdispatch, hdrift⟩)) hbegun.2
  have hburying : Run.Keeps burying (gone.forM fun id => handle (α := α) (.despawnEntity id)) :=
    .forM despawn_buries gone
  obtain ⟨-, hkept, hmarks⟩ := hburying.of_ok hbury hquiet
  have hburied : buried.Charged wandId wand test :=
    (Run.Keeps.forM (fun id => handle_charged hwand.affords _) gone).of_ok hbury hdrifted
  obtain ⟨hcensus, hbars⟩ := hburied.shown hshown
  obtain ⟨-, -, hmarked, hholders⟩ := Census.mk.inj hcensus
  -- Whoever is alive is not marked, and so has been met by every loop of the tick.
  have hspared : shown.world.marked.contains id = false :=
    World.marked_of_isAlive ((World.isAlive_removeMarked _ _).symm.trans halive)
  have hholds : shown.world.get? .holder id = some held := by
    rwa [World.get?_removeMarked, hspared, if_neg Bool.false_ne_true] at hheld
  have hbefore : drifted.world.get? .holder id = some held :=
    (hkept id).symm.trans ((congrArg (·[id]?) hholders).symm.trans hholds)
  refine ⟨drift_replenishes hhandled hwand hdrift (hmarks id (hmarked ▸ hspared)) held hbefore
    hsame, ?_⟩
  obtain ⟨fill, hfill, hbar⟩ := hbars hspared held hholds hsame
  refine ⟨fill, hfill, ?_⟩
  rwa [World.get?_removeMarked, hspared, if_neg Bool.false_ne_true]

/-! ### Whole runs -/

/-- While nothing waits for an event, nothing starts to. -/
theorem step_idle : Run.Keeps (.keeping fun sim : Simulation α => sim.waiting.entries = []) step := by
  have hproceeds {γ : Type} {act : Run (Simulation α) γ} (h : Run.Keeps proceeding act) :
      Run.Keeps (.keeping fun sim => sim.waiting.entries = []) act :=
    h.mono fun _ _ => idle_of_proceeds
  rw [step_eq]
  refine .bind (.modifyGet fun _ h => h) fun due => .bind (hproceeds (.forM handle_proceeds due))
    fun _ => .bind (hproceeds drift_proceeds) fun gone => hproceeds (settle_proceeds gone)

/-- A simulation in which this wand was not held and nothing waited for an event, after any number
of spawns and ticks, however they ended, and of edits that left the definition of the wand alone. -/
inductive Unaltered (wandId : String) (wand : Wand α) : Simulation α → Prop
  | start {sim : Simulation α} (hdefined : sim.catalog.wand wandId = .ok wand)
    (hidle : sim.waiting.entries = [])
    (hunheld : ∀ id held, sim.world.get? .holder id = some held → held.wand ≠ wandId)
    (hbarred : ∀ id, sim.world.has .holder id = true → sim.world.has .manaBar id = true) :
    Unaltered wandId wand sim
  | edit {sim : Simulation α} {catalog : Catalog α} (hbefore : Unaltered wandId wand sim)
    (hdefined : catalog.wand wandId = .ok wand) : Unaltered wandId wand { sim with catalog }
  | spawn {sim : Simulation α} (spawned : String) (target : Option Int)
    (hbefore : Unaltered wandId wand sim) :
    Unaltered wandId wand
      { sim with toStage := Run.left (Stage.spawnWand spawned target sim.toStage) }
  | step {sim : Simulation α} (hbefore : Unaltered wandId wand sim) :
    Unaltered wandId wand (Run.left (Simulation.step sim))

theorem Unaltered.charged (h : Unaltered wandId wand sim) (hwand : wand.Sustains test) :
    sim.Charged wandId wand test ∧ sim.waiting.entries = [] := by
  induction h with
  | start hdefined hidle hunheld hbarred =>
    exact ⟨⟨hdefined, fun hget hsame => absurd hsame (hunheld _ _ hget), hbarred _⟩, hidle⟩
  | edit _ hdefined ih => exact ⟨⟨hdefined, ih.1.mana, ih.1.barred⟩, ih.2⟩
  | spawn spawned target _ ih => exact ⟨Stage.spawnWand_charged hwand spawned target _ ih.1, ih.2⟩
  | @step sim _ ih => exact ⟨step_charged hwand sim ih.1, step_idle sim ih.2⟩

/-- A tick passes through this stage, before or after one of the actions that are due, or while
mana is regained, before or after one of the holders. -/
inductive Passes (sim : Simulation α) : Stage α → Prop
  | dispatching {due before after : List Action} {begun mid : Simulation α}
    (hbegin : beginTick sim = .ok due begun) (hdue : due = before ++ after)
    (hbefore : before.forM handle begun = .ok () mid) : Passes sim mid.toStage
  | regaining {due : List Action} {before after : List Int} {begun handled : Simulation α}
    {stage : Stage α} (hbegin : beginTick sim = .ok due begun)
    (hdispatch : due.forM handle begun = .ok () handled)
    (hholders : handled.world.query [.holder] = before ++ after)
    (hbefore : before.forM regainOne handled.toStage = .ok () stage) : Passes sim stage

theorem Passes.charged {stage : Stage α} (hpasses : sim.Passes stage)
    (h : sim.Charged wandId wand test) (hwand : wand.Sustains test) :
    stage.Charged wandId wand test := by
  have hhandles {actions : List Action} {begun mid : Simulation α}
      (hbegin : beginTick sim = .ok actions begun) {some : List Action}
      (hhandle : some.forM handle begun = .ok () mid) : mid.Charged wandId wand test := by
    have hbegun : begun.Charged wandId wand test := by
      cases hbegin
      exact h.of_world rfl rfl
    exact (Run.Keeps.forM (handle_charged hwand.affords) some).of_ok hhandle hbegun
  cases hpasses with
  | dispatching hbegin _ hbefore => exact hhandles hbegin hbefore
  | @regaining _ before _ _ _ _ hbegin hdispatch _ hbefore =>
    exact (Run.Keeps.forM (regainOne_charged hwand) before).of_ok hbefore
      (hhandles hbegin hdispatch)

end Simulation

/-! ### Exact numbers -/

namespace Wand

/-- The mana is not below zero. -/
def unowed (mana : Rat) : Bool := decide (0 ≤ mana)

/-- The mana of a wand and what its bar shows are within bounds. -/
structure Within (wand : Wand Rat) (mana : Rat) (fill : Int) : Prop where
  nonneg : 0 ≤ mana
  most : mana ≤ wand.maxMana
  fill_nonneg : 0 ≤ fill
  fill_most : fill ≤ 255
  full : 0 < wand.maxMana → (fill = 255 ↔ mana = wand.maxMana)
  none : wand.maxMana = 0 → fill = 0

/-- The share of 255 that some mana is of its limit. -/
theorem floor_share {mana limit : Rat} (hlimit : 0 < limit) (hmana : 0 ≤ mana)
    (hmost : mana ≤ limit) :
    0 ≤ (255 * mana / limit).floor ∧ (255 * mana / limit).floor ≤ 255 ∧
      ((255 * mana / limit).floor = 255 ↔ mana = limit) := by
  have hnonneg : 0 ≤ 255 * mana / limit := by positivity
  have hle : 255 * mana / limit ≤ 255 := by
    rw [div_le_iff₀ hlimit]
    linarith
  have hfloor : (255 * mana / limit).floor ≤ 255 := by
    have hbelow := Rat.floor_le (255 * mana / limit)
    exact_mod_cast hbelow.trans hle
  refine ⟨Rat.le_floor_iff.2 (by exact_mod_cast hnonneg), hfloor, fun hfull => ?_, ?_⟩
  · have hreach : ((255 : Int) : Rat) ≤ 255 * mana / limit := Rat.le_floor_iff.1 hfull.ge
    rw [le_div_iff₀ hlimit] at hreach
    push_cast at hreach
    linarith
  · rintro rfl
    refine le_antisymm hfloor (Rat.le_floor_iff.2 ?_)
    rw [le_div_iff₀ hlimit]
    push_cast
    exact le_refl _

variable (circle : Circle) {wand : Wand Rat}

/-- What is regained leads up to the limit at most. -/
theorem regained_exact (mana : Rat) :
    letI : Scalar Rat := Exact.scalar circle
    wand.regained mana = min (mana + wand.manaRecharge) wand.maxMana := by
  rw [min_comm, min_def_lt]
  rfl

theorem sustains_unowed (hmax : 0 ≤ wand.maxMana) (hrecharge : 0 ≤ wand.manaRecharge) :
    letI : Scalar Rat := Exact.scalar circle
    wand.Sustains unowed := by
  let : Scalar Rat := Exact.scalar circle
  have hlimit : (0 : Rat) ≤ wand.maxMana := Int.cast_nonneg hmax
  refine ⟨decide_eq_true hlimit, fun mana card _ hcost => ?_, fun mana hmana => ?_⟩
  · have hpaid : (card.manaCost : Rat) ≤ mana := not_lt.1 hcost
    exact decide_eq_true (sub_nonneg.2 hpaid)
  · have hsum := add_nonneg (of_decide_eq_true hmana) hrecharge
    rw [regained_exact circle]
    exact decide_eq_true (le_min hsum hlimit)

/-- Mana that was just regained is within bounds, and so is its bar. -/
theorem within_regained (hmax : 0 ≤ wand.maxMana) (hrecharge : 0 ≤ wand.manaRecharge)
    {before mana : Rat} {fill : Int} (hbefore : unowed before = true) :
    letI : Scalar Rat := Exact.scalar circle
    mana = wand.regained before → Stage.fillOf wand mana = .ok fill → wand.Within mana fill := by
  let : Scalar Rat := Exact.scalar circle
  intro hmana hfill
  have hsustains := sustains_unowed circle hmax hrecharge
  have hnonneg : 0 ≤ mana := of_decide_eq_true (hmana ▸ hsustains.regains before hbefore)
  have hmost : mana ≤ wand.maxMana := by
    rw [hmana, regained_exact circle]
    exact min_le_right _ _
  unfold Stage.fillOf at hfill
  split at hfill
  case isTrue hempty =>
    cases hfill
    exact ⟨hnonneg, hmost, le_refl _, by decide, fun hpos => absurd hpos (not_lt.2 hempty),
      fun _ => rfl⟩
  case isFalse hpos =>
    obtain rfl : (255 * mana / wand.maxMana).floor = fill := Except.ok.inj hfill
    have hlimit : (0 : Rat) < wand.maxMana := Int.cast_pos.2 (not_le.1 hpos)
    obtain ⟨hlow, hhigh, hfull⟩ := floor_share hlimit hnonneg hmost
    exact ⟨hnonneg, hmost, hlow, hhigh, fun _ => hfull, fun hempty => absurd hempty.le hpos⟩

end Wand

namespace Simulation
open Stage

/-- **Mana is bounded.** Over exact numbers, however cards are priced, whoever holds a wand whose
definition stays as it is never has mana below zero: not between two operations, not between two
actions of a tick or two holders that regain mana, and not at any point of a cast. Once a tick ends
well, everybody alive who holds the wand has no more mana than it allows for, and a bar from 0 up to
255 that is full just when the mana is, or empty if the wand allows for none. -/
theorem Unaltered.mana_bounded (circle : Circle) {wandId : String} {wand : Wand Rat}
    (hmax : 0 ≤ wand.maxMana) (hrecharge : 0 ≤ wand.manaRecharge) :
    letI : Scalar Rat := Exact.scalar circle
    ∀ {sim : Simulation Rat}, Unaltered wandId wand sim →
      sim.Solvent wandId wand Wand.unowed ∧
      (∀ stage, sim.Passes stage → stage.Solvent wandId wand Wand.unowed) ∧
      ∀ sim', Simulation.step sim = .ok () sim' → ∀ id held, sim'.world.isAlive id = true →
        sim'.world.get? .holder id = some held → held.wand = wandId →
          ∃ fill, sim'.world.get? .manaBar id = some fill ∧ wand.Within held.state.mana fill := by
  let : Scalar Rat := Exact.scalar circle
  intro sim h
  have hwand := Wand.sustains_unowed circle hmax hrecharge
  obtain ⟨hcharged, hidle⟩ := h.charged hwand
  refine ⟨hcharged.solvent hwand.affords, fun stage hpasses => ?_, ?_⟩
  · exact (hpasses.charged hcharged hwand).solvent hwand.affords
  · intro sim' hstep id held halive hheld hsame
    obtain ⟨⟨before, hbefore, hmana⟩, fill, hfill, hbar⟩ :=
      step_shows hcharged hwand hidle hstep halive hheld hsame
    exact ⟨fill, hbar, Wand.within_regained circle hmax hrecharge hbefore hmana hfill⟩

/-! A wand that has spent four of its ten mana in a tick and regained one half. -/

section Well

/-- Numbers that turn by a hexagon. -/
local instance placid : Scalar Rat := Stage.level

def well : Wand Rat :=
  { id := "well", name := "Well", cards := ["gulp", "gulp"], maxMana := 10
    manaRecharge := 1 / 2, castDelay := 1, spread := 0 }

def brimming : Simulation Rat :=
  let gulp : Card Rat := { id := "gulp", name := "Gulp", manaCost := 4 }
  let catalog : Catalog Rat := ⟨.ofList [("gulp", gulp)], .ofList [("well", well)], .empty⟩
  .start catalog {} {} ⟨.replicate 624 0, 624⟩ false

def filled : Simulation Rat :=
  { brimming with toStage := Run.left (Stage.spawnWand "well" none brimming.toStage) }

/-- The first tick has begun. -/
def tapped : Simulation Rat := Run.left (beginTick filled)

theorem step_filled :
    Run.value? (step filled) = some () ∧ (Run.left (step filled)).world.isAlive 0 = true ∧
      ((Run.left (step filled)).world.get? .holder 0).map (fun held : Holder Rat =>
        (held.wand, held.state.mana)) = some ("well", 13 / 2) ∧
      (Run.left (step filled)).world.get? .manaBar 0 = some (165 : Int) := by
  have hbegin : beginTick filled = .ok [.shootWand 0] tapped :=
    Run.eq_ok_of_value? (by decide +kernel)
  have hshoot : Stage.shoot 0 tapped.toStage = .ok () (Run.left (Stage.shoot 0 tapped.toStage)) :=
    Run.eq_ok_of_value? (by decide +kernel)
  rw [step_of_shot hbegin hshoot]
  decide +kernel

theorem mana_bounded_well :
    ∃ sim : Simulation Rat, Unaltered "well" well filled ∧ step filled = .ok () sim ∧
      ∃ held, sim.world.get? .holder 0 = some held ∧ held.state.mana = 13 / 2 ∧
        well.Within held.state.mana 165 := by
  have hstart : Unaltered "well" well brimming :=
    .start rfl rfl (fun _ _ hget => by cases hget) fun _ hhas => by cases hhas
  have hfilled : Unaltered "well" well filled := hstart.spawn "well" none
  obtain ⟨hvalue, hlives, hholds, hbar⟩ := step_filled
  have hstep : step filled = .ok () (Run.left (step filled)) := Run.eq_ok_of_value? hvalue
  obtain ⟨held, hheld, hmap⟩ := Option.map_eq_some_iff.1 hholds
  obtain ⟨hname, hmana⟩ := Prod.mk.inj hmap
  have hmax : 0 ≤ well.maxMana := by decide
  obtain ⟨-, -, hbounds⟩ := Unaltered.mana_bounded _ hmax (by decide +kernel) hfilled
  obtain ⟨fill, hfill, hwithin⟩ := hbounds _ hstep 0 held hlives hheld hname
  cases hfill.symm.trans hbar
  exact ⟨_, hfilled, hstep, held, hheld, hmana, hwithin⟩

end Well

end Simulation
end WandArena
