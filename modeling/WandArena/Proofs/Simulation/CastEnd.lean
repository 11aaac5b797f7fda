import WandArena.Proofs.Simulation.Casting

/-! How a full cast ends, well or not.

`CastEnd` lists the ways in which casting a wielded wand can end, each with the state in which it
leaves the wand (`castWand_ends`). Whichever it is, nothing else that casts go by has changed
(`Beside`), and before the wand is rearmed no cast is scheduled (`Aside`). -/
namespace WandArena
variable {α β : Type}

/-- What casts go by and cannot change. -/
structure Backdrop (α : Type) where
  catalog : Catalog α
  rules : MergeRules
  settings : Settings
  halted : Table String

namespace Stage

def backdrop (s : Stage α) : Backdrop α := ⟨s.catalog, s.rules, s.settings, s.halted⟩

/-- The ticks for which casts of an entity are scheduled. -/
def castTicks (s : Stage α) (id : Int) : List Int := s.agenda.ticks (Action.casts id)

/-- The stage with a wand in the hands of an entity. -/
def holding (s : Stage α) (id : Int) (held : Holder α) : Stage α :=
  { s with world := s.world.put .holder id held }

/-! ### What a cast leaves alone -/

/-- Beside the wand of one holder, nothing that casts go by changes. -/
structure Beside (holder : Int) (s t : Stage α) : Prop where
  backdrop : t.backdrop = s.backdrop
  tick : t.tick = s.tick
  others : ∀ id, id ≠ holder → t.world.get? .holder id = s.world.get? .holder id

/-- Moreover the same casts are scheduled. -/
structure Aside (holder : Int) (s t : Stage α) : Prop extends Beside holder s t where
  castTicks : ∀ id, (t.castTicks id).Perm (s.castTicks id)

variable {holder : Int} {s t u : Stage α}

theorem Beside.refl (s : Stage α) : Beside holder s s := ⟨rfl, rfl, fun _ _ => rfl⟩

theorem Beside.trans (h : Beside holder s t) (h' : Beside holder t u) : Beside holder s u where
  backdrop := h'.backdrop.trans h.backdrop
  tick := h'.tick.trans h.tick
  others := fun id hid => (h'.others id hid).trans (h.others id hid)

theorem Beside.catalog (h : Beside holder s t) : t.catalog = s.catalog :=
  congrArg Backdrop.catalog h.backdrop

/-- The frame of `Beside`. -/
def beside (holder : Int) : Run.Frame (Stage α) := ⟨Beside holder, .refl, .trans⟩

/-- The frame of `Aside`. -/
def aside (holder : Int) : Run.Frame (Stage α) where
  Allows := Aside holder
  refl := fun s => ⟨.refl s, fun _ => .refl _⟩
  trans := fun h h' =>
    ⟨h.toBeside.trans h'.toBeside, fun id => (h'.castTicks id).trans (h.castTicks id)⟩

theorem Aside.of_agenda (h : Beside holder s t) (hagenda : t.agenda = s.agenda) :
    Aside holder s t :=
  ⟨h, fun id => .of_eq (by rw [Stage.castTicks, Stage.castTicks, hagenda])⟩

theorem Aside.holding (s : Stage α) (holder : Int) (held : Holder α) :
    Aside holder s (s.holding holder held) := by
  refine .of_agenda ⟨rfl, rfl, fun id hid => ?_⟩ rfl
  rw [Stage.holding, World.get?_put, if_neg hid]

theorem letsLaunch_aside (holder : Int) : LetsLaunch (aside (α := α) holder) where
  journal := fun _ _ => .of_agenda ⟨rfl, rfl, fun _ _ => rfl⟩ rfl
  dice := fun _ _ => .of_agenda ⟨rfl, rfl, fun _ _ => rfl⟩ rfl
  create := fun s components h => by
    have hholders : (s.world.create components).2.holders = s.world.holders :=
      (create_kept s h).holders
    refine .of_agenda ⟨rfl, rfl, fun id _ => ?_⟩ rfl
    exact congrArg (·[id]?) hholders
  schedule := fun s tick action h => by
    refine ⟨⟨rfl, rfl, fun _ _ => rfl⟩, fun id => ?_⟩
    have hticks := s.agenda.ticks_schedule tick action (Action.casts id)
    rwa [Action.casts_of_kind h] at hticks

theorem beside_scheduleIn (delay : Int) (action : Action) :
    Run.Keeps (beside holder : Run.Frame (Stage α)) (scheduleIn delay action) :=
  .modify fun _ => ⟨rfl, rfl, fun _ _ => rfl⟩

theorem castTicks_scheduleCast {delay : Int} (h : scheduleCast delay holder s = .ok () t) :
    (t.castTicks holder).Perm ((s.tick + delay) :: s.castTicks holder) := by
  cases h
  have hticks := s.agenda.ticks_schedule (s.tick + delay) (.shootWand holder) (Action.casts holder)
  rwa [Action.casts_shootWand, if_pos (decide_eq_true rfl)] at hticks

/-! ### The steps of a cast -/

variable {wand : Wand α} {held : Holder α}

theorem Wields.holding (h : s.Wields holder wand held) (state : WandState α) :
    (s.holding holder { held with state }).Wields holder wand { held with state } where
  holds := by rw [Stage.holding, World.get?_put, if_pos rfl]
  defined := h.defined

theorem Wields.onWand_of_ok (h : s.Wields holder wand held) {act : Run (WandState α) β} {b : β}
    {state : WandState α} (hact : act held.state = .ok b state) :
    onWand holder act s = .ok b (s.holding holder { held with state }) :=
  onWand_eq_ok.2 ⟨held, state, h.holds, hact, rfl⟩

theorem Wields.onWand_of_error (h : s.Wields holder wand held) {act : Run (WandState α) β}
    {fault : Fault} {state : WandState α} (hact : act held.state = .error fault state) :
    onWand holder act s = .error fault (s.holding holder { held with state }) :=
  Run.bind_eq_error.2 (.inr ⟨held, s, holderOf_eq_ok.2 ⟨h.holds, rfl⟩,
    Run.within_eq_error.2 ⟨state, hact, rfl⟩⟩)

variable [Scalar α]

/-- Resolving a draw of a wielded wand goes through, and tells of the fault there was. -/
theorem Wields.resolveDraw_apply (h : s.Wields holder wand held) (depth : Int) (cast : Cast α) :
    ∃ t, resolveDraw holder depth cast s =
        .ok (((s.caster wand).resolveOn depth held.state cast).cast,
          ((s.caster wand).resolveOn depth held.state cast).fault) t ∧
      t.Wields holder wand
        { held with state := ((s.caster wand).resolveOn depth held.state cast).wand } ∧
      Aside holder s t := by
  let resolved := (s.caster wand).resolveOn depth held.state cast
  let left := s.holding holder { held with state := resolved.wand }
  have hleft : left.Wields holder wand { held with state := resolved.wand } := h.holding _
  have hset : onWand holder (set resolved.wand) s = .ok () left := h.onWand_of_ok rfl
  have hnote : noteAll resolved.notes left = .ok () (Run.left (noteAll resolved.notes left)) := rfl
  refine ⟨_, ?_, hleft.of_kept (noteAll_keeps _) hnote,
    (aside holder).trans (.holding s holder _) (((letsLaunch_aside holder).noteAll _).of_ok hnote)⟩
  unfold resolveDraw
  rw [Run.bind_apply_of_ok (holderOf_eq_ok.2 ⟨h.holds, rfl⟩),
    Run.bind_apply_of_ok (findWand_eq_ok.2 ⟨h.defined, rfl⟩),
    Run.bind_apply_of_ok (Run.get_apply s), Run.bind_apply_of_ok hset]
  exact Run.bind_apply_of_ok hnote _

/-- How long it is until the next cast. -/
def delayAfter (state : WandState α) (cast : Cast α) : Int :=
  if (state.piles.deck.isEmpty || cast.forceRecharge) = true then
    max (max 1 cast.castDelay) state.rechargeDelay
  else cast.castDelay

omit [Scalar α] in
/-- Rearming schedules the next cast, and then resets the wand if it has to. -/
theorem Wields.rearm_apply (h : s.Wields holder wand held) (cast : Cast α) :
    ∃ t, t.Wields holder wand held ∧ Beside holder s t ∧
      (t.castTicks holder).Perm ((s.tick + delayAfter held.state cast) :: s.castTicks holder) ∧
      rearm wand cast holder s =
        (if (held.state.piles.deck.isEmpty || cast.forceRecharge) = true then
          onWand holder (WandState.reset wand)
        else pure () : Run (Stage α) Unit) t := by
  have hnotes (n : CastNote α) {u : Stage α} (hu : u.Wields holder wand held) :
      ∃ v, note n u = .ok () v ∧ v.Wields holder wand held ∧ Aside holder u v :=
    ⟨_, rfl, hu.of_kept (noteAll_keeps _) rfl, ((letsLaunch_aside holder).noteAll _).of_ok rfl⟩
  have hschedule (delay : Int) {u : Stage α} (hu : u.Wields holder wand held)
      (haside : Aside holder s u) :
      ∃ v, scheduleCast delay holder u = .ok () v ∧ v.Wields holder wand held ∧ Beside holder s v ∧
        (v.castTicks holder).Perm ((s.tick + delay) :: s.castTicks holder) := by
    refine ⟨_, rfl, hu.of_lives ((scheduleIn_lives _ _).of_ok rfl),
      haside.toBeside.trans ((beside_scheduleIn _ _).of_ok rfl), ?_⟩
    refine (castTicks_scheduleCast rfl).trans ?_
    rw [haside.tick]
    exact (haside.castTicks holder).cons _
  obtain ⟨noted, hnote, hnoted, haside⟩ := hnotes (.remainingMana held.state.mana) h
  unfold rearm delayAfter
  rw [Run.bind_apply_of_ok (holderOf_eq_ok.2 ⟨h.holds, rfl⟩), Run.bind_apply_of_ok hnote]
  split
  case isTrue hrecharge =>
    obtain ⟨again, hagain, hwields, haside'⟩ := hnotes .recharge hnoted
    obtain ⟨t, hend, hleft, hbeside, hticks⟩ := hschedule
      (max (max 1 cast.castDelay) held.state.rechargeDelay) hwields
      ((aside holder).trans haside haside')
    refine ⟨t, hleft, hbeside, hticks, ?_⟩
    rw [Run.bind_apply_of_ok hagain, Run.bind_apply_of_ok hend]
  case isFalse hkeep =>
    obtain ⟨t, hend, hleft, hbeside, hticks⟩ := hschedule cast.castDelay hnoted haside
    exact ⟨t, hleft, hbeside, hticks, hend⟩

/-! ### The endings -/

/-- The ways in which the cast of a wielded wand ends. -/
inductive CastEnd (s : Stage α) (holder : Int) (wand : Wand α) (held : Holder α) :
    EStateM.Result Fault (Stage α) (Cast α) → Prop
  /-- The draws met a fault, and what was drawn stays in the hand. -/
  | unresolved {fault : Fault} {t : Stage α}
    (hfault : (s.resolution wand held).fault = some fault)
    (hleft : t.Wields holder wand { held with state := (s.resolution wand held).wand })
    (haside : Aside holder s t) : CastEnd s holder wand held (.error fault t)
  /-- The discard pile had no room for the hand. -/
  | overfull {fault : Fault} {state : WandState α} {t : Stage α}
    (hdiscard : WandState.discardHand (s.resolution wand held).wand = .error fault state) :
    CastEnd s holder wand held (.error fault t)
  /-- Not all projectiles could be launched. -/
  | unlaunched {fault : Fault} {discarded : WandState α} {t u : Stage α}
    (hfault : (s.resolution wand held).fault = none)
    (hdiscard : WandState.discardHand (s.resolution wand held).wand = .ok () discarded)
    (hlaunch : launch wand (s.resolution wand held).cast holder t = .error fault u)
    (haside : Aside holder s t)
    (hleft : u.Wields holder wand { held with state := discarded })
    (haside' : Aside holder s u) : CastEnd s holder wand held (.error fault u)
  /-- The deck had no room for the cards of the wand. -/
  | undealt {fault : Fault} {discarded state : WandState α} {t : Stage α}
    (hdiscard : WandState.discardHand (s.resolution wand held).wand = .ok () discarded)
    (hreset : WandState.reset wand discarded = .error fault state) :
    CastEnd s holder wand held (.error fault t)
  /-- The wand is rearmed, and dealt anew if it has to be. -/
  | rearmed {discarded final : WandState α} {t : Stage α}
    (hfault : (s.resolution wand held).fault = none)
    (hdiscard : WandState.discardHand (s.resolution wand held).wand = .ok () discarded)
    (hfinal : if (s.resolution wand held).recharges = true then
        WandState.reset wand discarded = .ok () final
      else final = discarded)
    (hleft : t.Wields holder wand { held with state := final }) (hbeside : Beside holder s t)
    (hticks : (t.castTicks holder).Perm
      ((s.tick + delayAfter discarded (s.resolution wand held).cast) :: s.castTicks holder)) :
    CastEnd s holder wand held (.ok (s.resolution wand held).cast t)

/-- What becomes of a cast that gets to rearm its wand. -/
theorem CastEnd.of_rearm {discarded : WandState α} (hfault : (s.resolution wand held).fault = none)
    (hdiscard : WandState.discardHand (s.resolution wand held).wand = .ok () discarded)
    (hwields : t.Wields holder wand { held with state := discarded })
    (haside : Aside holder s t) :
    CastEnd s holder wand held ((rearm wand (s.resolution wand held).cast holder >>= fun _ =>
      pure (s.resolution wand held).cast) t) := by
  obtain ⟨u, hleft, hbeside, hticks, hrearm⟩ := hwields.rearm_apply (s.resolution wand held).cast
  have hbeside' := haside.toBeside.trans hbeside
  have hticks' := hticks.trans ((haside.castTicks holder).cons _)
  rw [haside.tick] at hticks'
  have hrecharges : (discarded.piles.deck.isEmpty || (s.resolution wand held).cast.forceRecharge) =
      (s.resolution wand held).recharges := by
    obtain ⟨-, -, hdeck, -⟩ := WandState.discardHand_eq_ok hdiscard
    rw [hdeck]
    rfl
  dsimp only at hrearm
  rw [hrecharges] at hrearm
  by_cases hrecharge : (s.resolution wand held).recharges = true
  · rw [if_pos hrecharge] at hrearm
    cases hreset : WandState.reset wand discarded with
    | error fault state =>
      rw [Run.bind_apply_of_error (hrearm.trans (hleft.onWand_of_error hreset))]
      exact .undealt hdiscard hreset
    | ok _ final =>
      rw [Run.bind_apply_of_ok (hrearm.trans (hleft.onWand_of_ok hreset))]
      refine .rearmed hfault hdiscard (by rw [if_pos hrecharge]; exact hreset)
        (hleft.holding final) (hbeside'.trans (Aside.holding u holder _).toBeside) hticks'
  · rw [if_neg hrecharge] at hrearm
    rw [Run.bind_apply_of_ok hrearm]
    exact .rearmed hfault hdiscard (by rw [if_neg hrecharge]) hleft hbeside' hticks'

/-- Casting a wielded wand ends in one of these ways. -/
theorem Wields.castWand_ends (h : s.Wields holder wand held) :
    CastEnd s holder wand held (castWand holder s) := by
  obtain ⟨resolved, hresolve, hresolved, haside⟩ : ∃ resolved,
      resolveDraw holder 0 { Cast.fresh with castDelay := wand.castDelay } s =
        .ok ((s.resolution wand held).cast, (s.resolution wand held).fault) resolved ∧
      resolved.Wields holder wand { held with state := (s.resolution wand held).wand } ∧
      Aside holder s resolved := h.resolveDraw_apply 0 _
  unfold castWand
  rw [Run.bind_apply_of_ok (holderOf_eq_ok.2 ⟨h.holds, rfl⟩),
    Run.bind_apply_of_ok (findWand_eq_ok.2 ⟨h.defined, rfl⟩), Run.bind_apply_of_ok hresolve]
  cases hfault : (s.resolution wand held).fault with
  | some fault => exact .unresolved hfault hresolved haside
  | none =>
    dsimp only
    cases hdiscard : WandState.discardHand (s.resolution wand held).wand with
    | error fault state =>
      rw [Run.bind_apply_of_error (hresolved.onWand_of_error hdiscard)]
      exact .overfull hdiscard
    | ok _ discarded =>
      rw [Run.bind_apply_of_ok (hresolved.onWand_of_ok hdiscard)]
      have hemptied := hresolved.holding discarded
      have haside' := (aside holder).trans haside
        (.holding resolved holder { held with state := discarded })
      have hkept := launch_keeps wand (s.resolution wand held).cast holder
      have hlaunching := (letsLaunch_aside holder).launch wand (s.resolution wand held).cast holder
      cases hlaunch : launch wand (s.resolution wand held).cast holder
          (resolved.holding holder { held with state := discarded }) with
      | error fault u =>
        rw [Run.bind_apply_of_error hlaunch]
        exact .unlaunched hfault hdiscard hlaunch haside'
          (hemptied.of_lives (hkept.of_error hlaunch).toLives)
          ((aside holder).trans haside' (hlaunching.of_error hlaunch))
      | ok _ u =>
        rw [Run.bind_apply_of_ok hlaunch]
        exact .of_rearm hfault hdiscard (hemptied.of_kept hkept hlaunch)
          ((aside holder).trans haside' (hlaunching.of_ok hlaunch))

end Stage
end WandArena
