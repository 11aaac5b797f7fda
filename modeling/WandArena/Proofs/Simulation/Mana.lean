import WandArena.Proofs.Cast.Mana
import WandArena.Proofs.Simulation.Progress

/-! The mana of wands that are held.

If a test on mana is passed by a full wand and goes on to be passed when cards are paid for and when
mana is regained (`Wand.Sustains`), whoever holds the wand has mana that passes it, whatever happens
on the stage and however it ends (`Stage.Charged`, and `Stage.Solvent` for every point of a cast).
Regaining mana and showing it meet every holder that is not marked for removal (`Charged.regained`,
`Charged.shown`). -/
namespace WandArena
variable {α β : Type}

namespace Wand
variable [Scalar α]

/-- What the mana of a wand is one tick later. -/
def regained (wand : Wand α) (mana : α) : α :=
  Quantity.least (mana + wand.manaRecharge) (Quantity.whole wand.maxMana)

/-- Full, spent on cards or regained, the mana of a wand passes the test. -/
structure Sustains (wand : Wand α) (test : α → Bool) : Prop where
  full : test (Quantity.whole wand.maxMana) = true
  affords : Caster.Affords test
  regains : ∀ mana, test mana = true → test (wand.regained mana) = true

end Wand

namespace Stage

/-- The wand is defined like this, all who hold it have mana that passes the test, and all who hold
any wand have a bar to show mana in. -/
structure Charged (wandId : String) (wand : Wand α) (test : α → Bool) (s : Stage α) : Prop where
  defined : s.catalog.wand wandId = .ok wand
  mana : ∀ {id held}, s.world.get? .holder id = some held → held.wand = wandId →
    test held.state.mana = true
  barred : ∀ {id}, s.world.has .holder id = true → s.world.has .manaBar id = true

/-- The frame in which wands stay charged. -/
abbrev charging (wandId : String) (wand : Wand α) (test : α → Bool) : Run.Frame (Stage α) :=
  .keeping (Charged wandId wand test)

variable {wandId : String} {wand : Wand α} {test : α → Bool} {s t : Stage α}

namespace Charged

/-- Some may lose their wands, and bars may be shown anew. -/
theorem of_fewer (h : s.Charged wandId wand test) (hcatalog : t.catalog = s.catalog)
    (hheld : ∀ {id held}, t.world.get? .holder id = some held →
      s.world.get? .holder id = some held)
    (hbars : ∀ {id}, t.world.has .holder id = true → s.world.has .manaBar id = true →
      t.world.has .manaBar id = true) : t.Charged wandId wand test where
  defined := hcatalog ▸ h.defined
  mana := fun hget => h.mana (hheld hget)
  barred := fun {id} hholds => by
    obtain ⟨held, hget⟩ := World.has_iff.1 hholds
    exact hbars hholds (h.barred (World.has_of_get? (hheld hget)))

theorem of_world (h : s.Charged wandId wand test) (hcatalog : t.catalog = s.catalog)
    (hworld : t.world = s.world) : t.Charged wandId wand test :=
  h.of_fewer hcatalog (hworld ▸ id) fun _ => hworld ▸ id

theorem of_gauged (h : s.Charged wandId wand test) (hcatalog : t.catalog = s.catalog)
    (hgauged : World.gauged.Allows s.world t.world) : t.Charged wandId wand test := by
  obtain ⟨hcensus, hbars⟩ := Prod.mk.inj hgauged
  obtain ⟨-, -, -, hholders⟩ := Census.mk.inj hcensus
  refine h.of_fewer hcatalog (fun {id held} hget => ?_) fun {id} _ hbar => ?_
  · exact (congrArg (·[id]?) hholders).symm.trans hget
  · exact (congrArg (·.contains id) hbars).trans hbar

/-- A holder may hold its wand in another state, with mana that passes the test. -/
theorem holding (h : s.Charged wandId wand test) {id : Int} {held : Holder α}
    (hheld : s.world.get? .holder id = some held) {state : WandState α}
    (hmana : held.wand = wandId → test state.mana = true) :
    (s.holding id { held with state }).Charged wandId wand test where
  defined := h.defined
  mana := fun {other found} hget hwand => by
    rw [Stage.holding, World.get?_put] at hget
    split at hget
    case isTrue =>
      cases hget
      exact hmana hwand
    case isFalse => exact h.mana hget hwand
  barred := fun {other} hholds => by
    have hhas : s.world.has .holder id = true := World.has_of_get? hheld
    exact World.has_put_of_mem (h.barred ((World.has_put_of_has hhas other _).symm.trans hholds))

/-- An entity gets a wand, with mana that passes the test, and a bar. -/
theorem armed (h : s.Charged wandId wand test) (id : Int) {held : Holder α}
    (hmana : held.wand = wandId → test held.state.mana = true) (delay : Int) :
    (s.armed id held delay).Charged wandId wand test where
  defined := h.defined
  mana := fun {other found} hget hwand => by
    rw [get?_armed] at hget
    split at hget
    case isTrue =>
      cases hget
      exact hmana hwand
    case isFalse => exact h.mana hget hwand
  barred := fun {other} hholds => by
    show ((s.world.put .holder id held).put .manaBar id (255 : Int)).has .manaBar other = true
    rw [World.has_put]
    split
    case isTrue => rfl
    case isFalse hother =>
      refine World.has_put_of_mem (h.barred ?_)
      rwa [has_armed, if_neg hother] at hholds

end Charged

/-! ### Casts -/

theorem letsLaunch_charging : LetsLaunch (charging wandId wand test) where
  journal := fun _ _ h => h.of_world rfl rfl
  dice := fun _ _ h => h.of_world rfl rfl
  create := fun s components hnone h => by
    have hholders : (s.world.create components).2.holders = s.world.holders :=
      (create_kept s hnone).holders
    refine h.of_fewer rfl (fun {id held} hget => ?_) fun _ hbar => World.has_create_of_mem hbar _
    exact (congrArg (·[id]?) hholders).symm.trans hget
  schedule := fun _ _ _ _ h => h.of_world rfl rfl

/-- What is done with a wand that is held keeps to a frame if it does so from where it is wielded. -/
theorem wielding_keeps {F : Run.Frame (Stage α)} {id : Int}
    {act : Holder α → Wand α → Run (Stage α) β}
    (hact : ∀ {s wand held}, s.Wields id wand held → Run.KeepsAt F s (act held wand)) :
    Run.Keeps F (holderOf id >>= fun held => findWand held.wand >>= fun wand => act held wand) := by
  intro s
  unfold Run.KeepsAt
  cases hheld : s.world.get? .holder id with
  | none =>
    rw [Run.bind_apply_of_error (holderOf_eq_error hheld)]
    exact F.refl s
  | some held =>
    rw [Run.bind_apply_of_ok (holderOf_eq_ok.2 ⟨hheld, rfl⟩)]
    cases hdefined : s.catalog.wand held.wand with
    | error fault =>
      have hfind : findWand held.wand s = .error fault s := Run.lift_eq_error.2 ⟨hdefined, rfl⟩
      rw [Run.bind_apply_of_error hfind]
      exact F.refl s
    | ok wand =>
      rw [Run.bind_apply_of_ok (findWand_eq_ok.2 ⟨hdefined, rfl⟩)]
      exact hact ⟨hheld, hdefined⟩

/-- Whoever wields the wand wields it as it is defined. -/
theorem Charged.wand_eq (h : s.Charged wandId wand test) {id : Int} {found : Wand α}
    {held : Holder α} (hwields : s.Wields id found held) (hwand : held.wand = wandId) :
    found = wand := by
  have hdefined := hwields.defined
  rw [hwand, h.defined] at hdefined
  exact (Except.ok.inj hdefined).symm

variable [Scalar α]

/-- Resolving a draw pays for cards from the mana there is. -/
theorem resolveDraw_charged (haffords : Caster.Affords test) (holder depth : Int) (cast : Cast α) :
    Run.Keeps (charging wandId wand test) (resolveDraw holder depth cast) := by
  refine wielding_keeps fun {s found held} hwields h => ?_
  let resolved := (s.caster found).resolveOn depth held.state cast
  have hset : onWand holder (set resolved.wand) s =
      .ok () (s.holding holder { held with state := resolved.wand }) := hwields.onWand_of_ok rfl
  have hleft : (s.holding holder { held with state := resolved.wand }).Charged wandId wand test :=
    h.holding hwields.holds fun hwand =>
      Caster.mana_resolveOn haffords _ _ _ _ (h.mana hwields.holds hwand)
  have hnote : Run.Keeps (charging wandId wand test)
      (do noteAll resolved.notes; return (resolved.cast, resolved.fault)) :=
    .bind (letsLaunch_charging.noteAll _) fun _ => .pure _
  rw [Run.bind_apply_of_ok (Run.get_apply s), Run.bind_apply_of_ok hset]
  exact hnote _ hleft

omit [Scalar α] in
/-- What leaves the mana of a wand alone. -/
theorem onWand_charged {id : Int} {act : Run (WandState α) β}
    (hact : Run.Keeps (.same (·.mana)) act) : Run.Keeps (charging wandId wand test)
      (onWand id act) :=
  onWand_keeps_within hact fun _ _ _ hget hmana h =>
    h.holding hget fun hwand => (congrArg test hmana).trans (h.mana hget hwand)

omit [Scalar α] in
theorem discardHand_mana : Run.Keeps (.same (·.mana)) (WandState.discardHand (α := α)) := by
  refine .get_bind fun s => Run.Keeps.bind ?_ (fun _ => .modify fun _ => rfl) s
  have hpush : Run.Keeps .any (Piles.pushAll s.piles.hand.toList) := fun _ => trivial
  exact hpush.within fun _ _ _ => rfl

omit [Scalar α] in
theorem reset_mana (wand : Wand α) : Run.Keeps (.same (·.mana)) (WandState.reset wand) := by
  have hpush : Run.Keeps .any (Piles.pushAll (Piles.deal wand.cards)) := fun _ => trivial
  exact .bind (.modify fun _ => rfl) fun _ => hpush.within fun _ _ _ => rfl

omit [Scalar α] in
theorem rearm_charged (found : Wand α) (cast : Cast α) (holder : Int) :
    Run.Keeps (charging wandId wand test) (rearm found cast holder) := by
  have hschedule (delay : Int) :
      Run.Keeps (charging wandId wand test) (scheduleCast delay holder : Run (Stage α) Unit) :=
    .modify fun _ h => h.of_world rfl rfl
  have hnote (n : CastNote α) : Run.Keeps (charging wandId wand test) (note n) :=
    letsLaunch_charging.noteAll _
  refine .bind (holderOf_keeps _) fun held => .bind (hnote _) fun _ => ?_
  split
  · refine .bind (hnote _) fun _ => .bind (hschedule _) fun _ => ?_
    exact onWand_charged (reset_mana found)
  · exact hschedule _

/-- However a cast ends, the wands that are held stay charged. -/
theorem castWand_charged (haffords : Caster.Affords test) (holder : Int) :
    Run.Keeps (charging wandId wand test) (castWand holder) := by
  refine .bind (holderOf_keeps _) fun held => .bind (findWand_keeps _) fun found => ?_
  refine .bind (resolveDraw_charged haffords _ _ _) fun (cast, fault) => ?_
  cases fault with
  | some fault => exact .throw fault
  | none =>
    refine .bind (onWand_charged discardHand_mana) fun _ => ?_
    refine .bind (letsLaunch_charging.launch _ _ _) fun _ => ?_
    exact .bind (rearm_charged _ _ _) fun _ => .pure _

omit [Scalar α] in
theorem halt_charged (holder : Int) (fault : ConfigFault) :
    Run.Keeps (charging wandId wand test) (halt holder fault) := by
  refine .bind (letsLaunch_charging.log _) fun _ => .modify fun s h => ?_
  refine h.of_fewer rfl (fun {id held} hget => ?_) fun {id} _ hbar => ?_
  · rw [World.get?_drop] at hget
    split at hget
    case isTrue => cases hget
    case isFalse => exact hget
  · rw [World.has_eq, World.get?_drop_of_ne _ (by decide), ← World.has_eq]
    exact hbar

theorem shoot_charged (haffords : Caster.Affords test) (holder : Int) :
    Run.Keeps (charging wandId wand test) (shoot holder) :=
  shoot_keeps (castWand_charged haffords holder) (halt_charged holder) letsLaunch_charging.log

/-- However a spawn ends, the wands that are held stay charged. -/
theorem spawnWand_charged (hwand : wand.Sustains test) (spawned : String) (target : Option Int) :
    Run.Keeps (charging wandId wand test) (spawnWand spawned target) := by
  intro s h
  rcases spawnWand_cases spawned target s with
    ⟨fault, hend⟩ | ⟨found, state, hdefined, -, hfresh, -, hend⟩
  · rw [hend]
    exact h
  · have htoHold : (s.toHold target).Charged wandId wand test := by
      cases target with
      | none => exact letsLaunch_charging.create s nofun h
      | some id => exact h
    rw [hend]
    refine htoHold.armed _ (fun hsame => ?_) _
    obtain rfl : found = wand := by
      rw [show spawned = wandId from hsame, h.defined] at hdefined
      exact (Except.ok.inj hdefined).symm
    rw [show state.mana = Quantity.whole found.maxMana from WandState.mana_of_fresh hfresh]
    exact hwand.full

/-- The state in which the next cast of a held wand begins. -/
def castStart (wand : Wand α) (held : Holder α) : Casting Piles α :=
  ⟨held.state.piles, held.state.mana, held.state.rechargeDelay,
    { Cast.fresh with castDelay := wand.castDelay }, #[]⟩

/-- Whoever holds the wand has mana that passes the test, and would have it all through a cast. -/
structure Solvent (wandId : String) (wand : Wand α) (test : α → Bool) (s : Stage α) : Prop where
  mana : ∀ {id held}, s.world.get? .holder id = some held → held.wand = wandId →
    test held.state.mana = true
  /-- While the wand is cast, no look at the mana raises an alarm, whatever the alarm is. -/
  casting : ∀ {id held}, s.world.get? .holder id = some held → held.wand = wandId →
    ∀ alarm, (s.caster wand).watch test alarm Caster.stackSize 0 (castStart wand held) =
      (s.caster wand).resolve Caster.stackSize 0 (castStart wand held)
  /-- However the cast of anybody's wand ends. -/
  left : ∀ caster {id held}, (Run.left (castWand caster s)).world.get? .holder id = some held →
    held.wand = wandId → test held.state.mana = true

theorem Charged.solvent (h : s.Charged wandId wand test) (haffords : Caster.Affords test) :
    s.Solvent wandId wand test where
  mana := h.mana
  casting := fun {_ held} hget hsame alarm =>
    (Caster.watch_agrees haffords _ alarm _ _ (castStart wand held) (h.mana hget hsame)).1
  left := fun caster => (castWand_charged haffords caster s h).mana

/-! ### Mana and bars -/

/-- The holder of a wand, with the mana of one tick regained. -/
def recharged (wand : Wand α) (held : Holder α) : Holder α :=
  { held with state := { held.state with mana := wand.regained held.state.mana } }

theorem Wields.regainOne_apply {id : Int} {held : Holder α} (h : s.Wields id wand held) :
    regainOne id s = .ok () (s.holding id (recharged wand held)) := by
  unfold regainOne
  rw [Run.bind_apply_of_ok (holderOf_eq_ok.2 ⟨h.holds, rfl⟩),
    Run.bind_apply_of_ok (findWand_eq_ok.2 ⟨h.defined, rfl⟩)]
  exact h.onWand_of_ok (Run.modify_apply _ _)

theorem Charged.recharge (h : s.Charged wandId wand test) (hwand : wand.Sustains test) {id : Int}
    {found : Wand α} {held : Holder α} (hwields : s.Wields id found held) :
    (s.holding id (recharged found held)).Charged wandId wand test :=
  h.holding hwields.holds fun hheld => by
    rw [h.wand_eq hwields hheld]
    exact hwand.regains _ (h.mana hwields.holds hheld)

theorem regainOne_charged (hwand : wand.Sustains test) (id : Int) :
    Run.Keeps (charging wandId wand test) (regainOne id) :=
  wielding_keeps fun hwields h => by
    rw [hwields.onWand_of_ok (Run.modify_apply _ _)]
    exact h.recharge hwand hwields

theorem regainMana_charged (hwand : wand.Sustains test) :
    Run.Keeps (charging wandId wand test) regainMana :=
  .get_bind fun s => Run.Keeps.forM (regainOne_charged hwand) _ s

theorem regainOne_eq_ok {id : Int} (h : regainOne id s = .ok () t) :
    ∃ found held, s.Wields id found held ∧ t = s.holding id (recharged found held) := by
  obtain ⟨held, _, hheld, hfinding⟩ := Run.bind_eq_ok.1 h
  obtain ⟨hget, rfl⟩ := holderOf_eq_ok.1 hheld
  obtain ⟨found, _, hfind, -⟩ := Run.bind_eq_ok.1 hfinding
  obtain ⟨hdefined, rfl⟩ := findWand_eq_ok.1 hfind
  have hwields : Wields _ id found held := ⟨hget, hdefined⟩
  cases hwields.regainOne_apply.symm.trans h
  exact ⟨found, held, hwields, rfl⟩

/-- If this entity holds the wand, it has just regained mana. -/
def Replenished (wandId : String) (wand : Wand α) (test : α → Bool) (id : Int) (s : Stage α) :
    Prop :=
  ∀ held, s.world.get? .holder id = some held → held.wand = wandId →
    ∃ mana, test mana = true ∧ held.state.mana = wand.regained mana

theorem Charged.replenish (h : s.Charged wandId wand test) {id : Int} {found : Wand α}
    {held : Holder α} (hwields : s.Wields id found held) :
    Replenished wandId wand test id (s.holding id (recharged found held)) ∧
      ∀ other, Replenished wandId wand test other s →
        Replenished wandId wand test other (s.holding id (recharged found held)) := by
  have hself : Replenished wandId wand test id (s.holding id (recharged found held)) := by
    intro after hget hafter
    rw [Stage.holding, World.get?_put, if_pos rfl] at hget
    cases hget
    exact ⟨_, h.mana hwields.holds hafter, by rw [h.wand_eq hwields hafter]; rfl⟩
  refine ⟨hself, fun other hbefore => ?_⟩
  by_cases hother : other = id
  · exact hother ▸ hself
  · intro after hget
    rw [Stage.holding, World.get?_put, if_neg hother] at hget
    exact hbefore after hget

/-- When mana has been regained, nobody who is not marked has been missed. -/
theorem Charged.regained (h : s.Charged wandId wand test) (hwand : wand.Sustains test)
    (hregain : regainMana s = .ok () t) {id : Int} (hmarked : t.world.marked.contains id = false) :
    Replenished wandId wand test id t := by
  have hround (id : Int) (s t : Stage α) (hs : s.Charged wandId wand test)
      (hone : regainOne id s = .ok () t) : t.Charged wandId wand test ∧
        Replenished wandId wand test id t ∧
          ∀ other, Replenished wandId wand test other s →
            Replenished wandId wand test other t := by
    obtain ⟨found, held, hwields, rfl⟩ := regainOne_eq_ok hone
    exact ⟨hs.recharge hwand hwields, hs.replenish hwields⟩
  obtain ⟨-, hall, -⟩ := Run.forM_each hround h hregain
  have hkept : Kept whoHolds s t := regainMana_keeps.of_ok hregain
  intro held hget
  have hholds : s.world.has .holder id = true := by
    have hwho : t.world.has .holder id = s.world.has .holder id := congrFun hkept.holders id
    exact hwho.symm.trans (World.has_of_get? hget)
  refine hall id (World.mem_query_of_has (by decide) ?_ fun k hk => ?_) held hget
  · exact hkept.marked ▸ hmarked
  · cases List.mem_singleton.1 hk
    exact hholds

/-! ### Bars -/

omit [Scalar α] in
/-- A bar may show anything. -/
theorem Charged.barring (h : s.Charged wandId wand test) (id fill : Int) :
    Charged wandId wand test { s with world := s.world.put .manaBar id (fill : Int) } :=
  h.of_fewer rfl (fun hget => by rwa [World.get?_put_of_ne _ (by decide)] at hget)
    fun _ hbar => World.has_put_of_mem hbar

theorem showMana_charged : Run.Keeps (charging wandId wand test) showMana :=
  showMana_keeps_of fun _ id fill _ h => h.barring id fill

theorem showManaOne_eq_ok {id : Int} (h : showManaOne id s = .ok () t) :
    ∃ found held fill, s.Wields id found held ∧ fillOf found held.state.mana = .ok fill ∧
      t = { s with world := s.world.put .manaBar id (fill : Int) } := by
  obtain ⟨held, _, hheld, hfinding⟩ := Run.bind_eq_ok.1 h
  obtain ⟨hget, rfl⟩ := holderOf_eq_ok.1 hheld
  obtain ⟨found, _, hfind, hfilling⟩ := Run.bind_eq_ok.1 hfinding
  obtain ⟨hdefined, rfl⟩ := findWand_eq_ok.1 hfind
  obtain ⟨fill, _, hnumber, hput⟩ := Run.bind_eq_ok.1 hfilling
  obtain ⟨hfill, rfl⟩ := Run.number_eq_ok.1 hnumber
  cases hput
  exact ⟨found, held, fill, ⟨hget, hdefined⟩, hfill, rfl⟩

/-- If this entity holds the wand, its bar shows its mana. -/
def Shown (wandId : String) (wand : Wand α) (id : Int) (s : Stage α) : Prop :=
  ∀ held, s.world.get? .holder id = some held → held.wand = wandId →
    ∃ fill, fillOf wand held.state.mana = .ok fill ∧ s.world.get? .manaBar id = some fill

theorem Charged.show (h : s.Charged wandId wand test) {id fill : Int} {found : Wand α}
    {held : Holder α} (hwields : s.Wields id found held)
    (hfill : fillOf found held.state.mana = .ok fill) :
    let shown : Stage α := { s with world := s.world.put .manaBar id (fill : Int) }
    Shown wandId wand id shown ∧
      ∀ other, Shown wandId wand other s → Shown wandId wand other shown := by
  intro shown
  have hholders (other : Int) : shown.world.get? .holder other = s.world.get? .holder other :=
    World.get?_put_of_ne _ (by decide) _ _ _
  have hself : Shown wandId wand id shown := by
    intro after hget hafter
    cases hwields.holds.symm.trans ((hholders id).symm.trans hget)
    refine ⟨fill, h.wand_eq hwields hafter ▸ hfill, ?_⟩
    rw [World.get?_put, if_pos rfl]
  refine ⟨hself, fun other hbefore => ?_⟩
  by_cases hother : other = id
  · exact hother ▸ hself
  · intro after hget hafter
    obtain ⟨before, hshown, hbar⟩ := hbefore after ((hholders other).symm.trans hget) hafter
    refine ⟨before, hshown, ?_⟩
    rw [World.get?_put, if_neg hother]
    exact hbar

/-- When bars have been shown anew, nobody who is not marked has been missed. -/
theorem Charged.shown (h : s.Charged wandId wand test) (hshow : showMana s = .ok () t) :
    t.world.census = s.world.census ∧
      ∀ {id}, t.world.marked.contains id = false → Shown wandId wand id t := by
  let inv (u : Stage α) : Prop := u.Charged wandId wand test ∧ u.world.census = s.world.census
  have hround (id : Int) (u v : Stage α) (hu : inv u) (hone : showManaOne id u = .ok () v) :
      inv v ∧ Shown wandId wand id v ∧
        ∀ other, Shown wandId wand other u → Shown wandId wand other v := by
    obtain ⟨found, held, fill, hwields, hfill, rfl⟩ := showManaOne_eq_ok hone
    have hcensus := World.census_put u.world (k := .manaBar) (by decide) id fill
    exact ⟨⟨hu.1.barring id fill, hcensus.trans hu.2⟩, hu.1.show hwields hfill⟩
  obtain ⟨⟨-, hcensus⟩, hall, -⟩ := Run.forM_each hround (show inv s from ⟨h, rfl⟩) hshow
  refine ⟨hcensus, fun {id} hmarked held hget => ?_⟩
  obtain ⟨-, -, hmarks, hholders⟩ := Census.mk.inj hcensus
  have hholds : s.world.has .holder id = true := by
    have hbefore : s.world.get? .holder id = some held :=
      (congrArg (·[id]?) hholders).symm.trans hget
    exact World.has_of_get? hbefore
  refine hall id (World.mem_query_of_has (by decide) (hmarks ▸ hmarked) fun k hk => ?_) held hget
  rcases List.mem_cons.1 hk with rfl | hk
  · exact hholds
  · cases List.mem_singleton.1 hk
    exact h.barred hholds

end Stage
end WandArena
