import WandArena.Proofs.Simulation.Frame
import WandArena.Proofs.Wand.Rotation

/-! What a full cast does to the stage.

A cast that ends well resolves, discards the hand and recharges if it has to (`castWand_eq_ok`), and
schedules exactly one more cast of its holder (`castWand_rearms`). One that is stopped by the wand's
content or limits is stopped before it schedules any (`castWand_stopped`). -/
namespace WandArena.Stage
variable {α β : Type} [Scalar α]

/-- What the next cast of a held wand resolves to. -/
def resolution (s : Stage α) (wand : Wand α) (held : Holder α) : Resolved α :=
  (s.caster wand).resolveOn 0 held.state { Cast.fresh with castDelay := wand.castDelay }

/-- The cards that the next cast of a held wand pays for. -/
def paidNext (s : Stage α) (wand : Wand α) (held : Holder α) : List (Card α) :=
  (s.caster wand).paid held.state.mana
    ((s.resolution wand held).wand.piles.hand.toList.drop held.state.piles.hand.used)

/-- The wand that is held, as it is defined. -/
structure Wields (s : Stage α) (holder : Int) (wand : Wand α) (held : Holder α) : Prop where
  holds : s.world.get? .holder holder = some held
  defined : s.catalog.wand held.wand = .ok wand

omit [Scalar α] in
theorem findWand_eq_ok {id : String} {s t : Stage α} {wand : Wand α} :
    findWand id s = .ok wand t ↔ s.catalog.wand id = .ok wand ∧ t = s :=
  Run.lift_eq_ok

omit [Scalar α] in
theorem Wields.unique {s : Stage α} {holder : Int} {wand wand' : Wand α} {held held' : Holder α}
    (h : s.Wields holder wand held) (h' : s.Wields holder wand' held') :
    wand = wand' ∧ held = held' := by
  have hheld : held = held' := Option.some.inj (h.holds.symm.trans h'.holds)
  subst hheld
  exact ⟨Except.ok.inj (h.defined.symm.trans h'.defined), rfl⟩

omit [Scalar α] in
/-- What keeps the holders and the catalog keeps what is wielded. -/
theorem Wields.of_lives {s t : Stage α} {holder : Int} {wand : Wand α} {held : Holder α}
    (h : s.Wields holder wand held) (hlives : Lives whole s t) : t.Wields holder wand held where
  holds := by
    have hholders : t.world.holders = s.world.holders := hlives.holders
    show t.world.holders[holder]? = _
    rw [hholders]
    exact h.holds
  defined := by rw [hlives.catalog]; exact h.defined

omit [Scalar α] in
theorem Wields.of_kept {s t : Stage α} {holder : Int} {wand : Wand α} {held : Holder α} {b : β}
    {act : Run (Stage α) β} (h : s.Wields holder wand held) (hact : Run.Keeps (kept whole) act)
    (hend : act s = .ok b t) : t.Wields holder wand held :=
  h.of_lives (hact.of_ok hend).toLives

omit [Scalar α] in
/-- An operation on the state of a wielded wand. -/
theorem Wields.of_onWand {s t : Stage α} {holder : Int} {wand : Wand α} {held : Holder α} {b : β}
    {act : Run (WandState α) β} (h : s.Wields holder wand held)
    (hact : onWand holder act s = .ok b t) :
    ∃ state, act held.state = .ok b state ∧ t.Wields holder wand { held with state } := by
  obtain ⟨held', state, hheld, hstate, rfl⟩ := onWand_eq_ok.1 hact
  obtain rfl : held' = held := Option.some.inj (hheld.symm.trans h.holds)
  refine ⟨state, hstate, ?_, h.defined⟩
  rw [World.get?_put, if_pos rfl]

/-- Resolving a draw leaves the wand as the resolution left it. -/
theorem resolveDraw_eq_ok {holder depth : Int} {cast cast' : Cast α} {fault : Option Fault}
    {s t : Stage α} {wand : Wand α} {held : Holder α} (h : s.Wields holder wand held)
    (hdraw : resolveDraw holder depth cast s = .ok (cast', fault) t) :
    let resolved := (s.caster wand).resolveOn depth held.state cast
    cast' = resolved.cast ∧ fault = resolved.fault ∧
      t.Wields holder wand { held with state := resolved.wand } := by
  intro resolved
  obtain ⟨_, _, hheld, hfinding⟩ := Run.bind_eq_ok.1 hdraw
  obtain ⟨hget, rfl⟩ := holderOf_eq_ok.1 hheld
  obtain ⟨_, _, hwand, hresolving⟩ := Run.bind_eq_ok.1 hfinding
  obtain ⟨hdefined, rfl⟩ := findWand_eq_ok.1 hwand
  obtain ⟨rfl, rfl⟩ := h.unique ⟨hget, hdefined⟩
  obtain ⟨_, _, hcaster, hsetting⟩ := Run.bind_eq_ok.1 hresolving
  cases hcaster
  obtain ⟨_, left, hset, hnoting⟩ := Run.bind_eq_ok.1 hsetting
  obtain ⟨state, hstate, hleft⟩ := h.of_onWand hset
  cases hstate
  obtain ⟨_, _, hnote, hpure⟩ := Run.bind_eq_ok.1 hnoting
  cases hpure
  exact ⟨rfl, rfl, hleft.of_kept (noteAll_keeps _) hnote⟩

omit [Scalar α] in
/-- Rearming resets the wand if the deck ran out or has wrapped, and leaves it alone otherwise. -/
theorem rearm_eq_ok {holder : Int} {cast : Cast α} {s t : Stage α} {wand : Wand α}
    {held : Holder α} (h : s.Wields holder wand held)
    (hrearm : rearm wand cast holder s = .ok () t) :
    ∃ state, t.Wields holder wand { held with state } ∧
      if (held.state.piles.deck.isEmpty || cast.forceRecharge) = true then
        WandState.reset wand held.state = .ok () state
      else state = held.state := by
  obtain ⟨_, _, hheld, hnoting⟩ := Run.bind_eq_ok.1 hrearm
  obtain ⟨hget, rfl⟩ := holderOf_eq_ok.1 hheld
  obtain rfl := Option.some.inj (hget.symm.trans h.holds)
  obtain ⟨_, noted, hnote, hrest⟩ := Run.bind_eq_ok.1 hnoting
  have hnoted := h.of_kept (noteAll_keeps _) hnote
  split at hrest
  case isTrue hrecharge =>
    obtain ⟨_, recharging, hnote', hscheduling⟩ := Run.bind_eq_ok.1 hrest
    have hrecharging := hnoted.of_kept (noteAll_keeps _) hnote'
    obtain ⟨_, scheduled, hschedule, hreset⟩ := Run.bind_eq_ok.1 hscheduling
    have hscheduled := hrecharging.of_lives ((scheduleIn_lives _ _).of_ok hschedule)
    obtain ⟨state, hstate, hfinal⟩ := hscheduled.of_onWand hreset
    refine ⟨state, hfinal, ?_⟩
    rw [if_pos hrecharge]
    exact hstate
  case isFalse hkeep =>
    refine ⟨_, hnoted.of_lives ((scheduleIn_lives _ _).of_ok hrest), ?_⟩
    rw [if_neg hkeep]

/-- A cast that ends well resolves, discards the hand and recharges if it has to. -/
theorem castWand_eq_ok {holder : Int} {cast : Cast α} {s t : Stage α} {wand : Wand α}
    {held : Holder α} (h : s.Wields holder wand held) (hcast : castWand holder s = .ok cast t) :
    ∃ discarded final, t.Wields holder wand { held with state := final } ∧
      (s.resolution wand held).fault = none ∧
      WandState.discardHand (s.resolution wand held).wand = .ok () discarded ∧
      if (s.resolution wand held).recharges = true then
        WandState.reset wand discarded = .ok () final
      else final = discarded := by
  obtain ⟨_, _, hheld, hfinding⟩ := Run.bind_eq_ok.1 hcast
  obtain ⟨hget, rfl⟩ := holderOf_eq_ok.1 hheld
  obtain ⟨_, _, hwand, hresolving⟩ := Run.bind_eq_ok.1 hfinding
  obtain ⟨hdefined, rfl⟩ := findWand_eq_ok.1 hwand
  obtain ⟨rfl, rfl⟩ := h.unique ⟨hget, hdefined⟩
  obtain ⟨⟨cast', fault⟩, resolved, hresolve, hending⟩ := Run.bind_eq_ok.1 hresolving
  obtain ⟨hcast', hfault, hresolved⟩ := resolveDraw_eq_ok h hresolve
  cases fault with
  | some fault => cases hending
  | none =>
    obtain ⟨_, emptied, hdiscard, hlaunching⟩ := Run.bind_eq_ok.1 hending
    obtain ⟨discarded, hdiscarded, hemptied⟩ := hresolved.of_onWand hdiscard
    obtain ⟨_, launched, hlaunch, hrearming⟩ := Run.bind_eq_ok.1 hlaunching
    have hlaunched := hemptied.of_kept (launch_keeps _ _ _) hlaunch
    obtain ⟨_, rearmed, hrearm, hpure⟩ := Run.bind_eq_ok.1 hrearming
    cases hpure
    obtain ⟨final, hfinal, hstate⟩ := rearm_eq_ok hlaunched hrearm
    refine ⟨discarded, final, hfinal, hfault.symm, hdiscarded, ?_⟩
    obtain ⟨-, -, hdeck, -, -, -⟩ := WandState.discardHand_eq_ok hdiscarded
    dsimp only at hstate
    rw [hdeck, hcast'] at hstate
    exact hstate

/-! ### Rearming -/

section Rearming
variable {holder : Int} {cast : Cast α} {wand : Wand α} {s t : Stage α}

theorem resolveDraw_keeps (holder depth : Int) (cast : Cast α) :
    Run.Keeps (kept whoHolds) (resolveDraw holder depth cast) := by
  refine .bind (holderOf_keeps _) fun held => .bind (findWand_keeps _) fun wand => ?_
  refine .get_bind fun s => Run.Keeps.bind (onWand_keeps _ _) (fun _ => ?_) s
  exact .bind (noteAll_keeps _) fun _ => .pure _

/-- A cast meets a fault without having touched who holds a wand or what is scheduled, or it gets
to rearm its wand. -/
theorem castWand_cases (holder : Int) (s : Stage α) :
    (∃ fault t, castWand holder s = .error fault t ∧ Kept whoHolds s t) ∨
      ∃ wand cast t, Kept whoHolds s t ∧
        castWand holder s = (rearm wand cast holder >>= fun _ => pure cast) t := by
  let P (ending : EStateM.Result Fault (Stage α) (Cast α)) : Prop :=
    (∃ fault t, ending = .error fault t ∧ Kept whoHolds s t) ∨
      ∃ wand cast t, Kept whoHolds s t ∧ ending = (rearm wand cast holder >>= fun _ => pure cast) t
  have hstop (fault : Fault) (t : Stage α) (h : Kept whoHolds s t) : P (.error fault t) :=
    .inl ⟨fault, t, rfl, h⟩
  refine Run.Keeps.bind_or (P := P) (holderOf_keeps _) ((kept whoHolds).refl s) hstop ?_
  intro held t h
  refine Run.Keeps.bind_or (findWand_keeps _) h hstop fun wand t h => ?_
  refine Run.Keeps.bind_or (resolveDraw_keeps _ _ _) h hstop fun resolved t h => ?_
  obtain ⟨cast, fault⟩ := resolved
  cases fault with
  | some fault => exact hstop fault t h
  | none =>
    refine Run.Keeps.bind_or (onWand_keeps _ _) h hstop fun _ t h => ?_
    refine Run.Keeps.bind_or ((launch_keeps _ _ _).mono fun _ _ => Kept.of_whole) h hstop
      fun _ t h => ?_
    exact .inr ⟨wand, cast, t, h, rfl⟩

omit [Scalar α] in
/-- No wand's content or limits stop a wand from being rearmed. -/
theorem rearm_ne_config {fault : ConfigFault} :
    rearm wand cast holder s ≠ .error (.config fault) t := by
  intro h
  rcases Run.bind_eq_error.1 h with hheld | ⟨held, _, -, hnoting⟩
  · obtain ⟨-, hfault, -⟩ := Run.found_eq_error.1 hheld
    cases hfault
  rcases Run.bind_eq_error.1 hnoting with hnote | ⟨_, _, -, hrest⟩
  · cases hnote
  split at hrest
  case isTrue =>
    rcases Run.bind_eq_error.1 hrest with hnote | ⟨_, _, -, hscheduling⟩
    · cases hnote
    rcases Run.bind_eq_error.1 hscheduling with hschedule | ⟨_, _, -, hreset⟩
    · cases hschedule
    rcases Run.bind_eq_error.1 hreset with hheld | ⟨held, _, -, hwithin⟩
    · obtain ⟨-, hfault, -⟩ := Run.found_eq_error.1 hheld
      cases hfault
    · obtain ⟨_, hstate, -⟩ := Run.within_eq_error.1 hwithin
      obtain ⟨capacity, hfault⟩ := WandState.reset_eq_error hstate
      cases hfault
  case isFalse => cases hrest

omit [Scalar α] in
theorem rearm_lives (wand : Wand α) (cast : Cast α) (holder : Int) :
    Run.Keeps (lives whoHolds) (rearm wand cast holder) := by
  have hkept {β : Type} {act : Run (Stage α) β} (h : Run.Keeps (kept whoHolds) act) :
      Run.Keeps (lives whoHolds) act := h.mono fun _ _ => Kept.toLives
  refine .bind (hkept (holderOf_keeps _)) fun held => .bind (hkept (noteAll_keeps _)) fun _ => ?_
  split
  · refine .bind (hkept (noteAll_keeps _)) fun _ => .bind (scheduleIn_lives _ _) fun _ => ?_
    exact hkept (onWand_keeps _ _)
  · exact scheduleIn_lives _ _

omit [Scalar α] in
theorem casts_scheduleCast {delay : Int} (h : scheduleCast delay holder s = .ok () t) (id : Int) :
    t.casts id = s.casts id + if holder = id then 1 else 0 := by
  cases h
  rw [casts_scheduleIn, Action.casts_shootWand]
  simp only [decide_eq_true_iff]

omit [Scalar α] in
/-- Rearming schedules one more cast. -/
theorem casts_rearm (h : rearm wand cast holder s = .ok () t) (id : Int) :
    t.casts id = s.casts id + if holder = id then 1 else 0 := by
  obtain ⟨_, _, hheld, hnoting⟩ := Run.bind_eq_ok.1 h
  obtain ⟨-, rfl⟩ := holderOf_eq_ok.1 hheld
  obtain ⟨_, noted, hnote, hrest⟩ := Run.bind_eq_ok.1 hnoting
  have hnoted : Kept whoHolds _ noted := (noteAll_keeps _).of_ok hnote
  split at hrest
  case isTrue =>
    obtain ⟨_, recharging, hnote', hscheduling⟩ := Run.bind_eq_ok.1 hrest
    have hrecharging : Kept whoHolds noted recharging := (noteAll_keeps _).of_ok hnote'
    obtain ⟨_, scheduled, hschedule, hreset⟩ := Run.bind_eq_ok.1 hscheduling
    rw [((onWand_keeps _ _).of_ok hreset).casts, casts_scheduleCast hschedule, hrecharging.casts,
      hnoted.casts]
  case isFalse => rw [casts_scheduleCast hrest, hnoted.casts]

/-- A cast that is stopped by the wand's content or limits has scheduled no other. -/
theorem castWand_stopped {fault : ConfigFault} (h : castWand holder s = .error (.config fault) t) :
    Kept whoHolds s t := by
  rcases castWand_cases holder s with ⟨_, _, hend, hkept⟩ | ⟨wand, cast, mid, hkept, hend⟩
  · rw [hend] at h
    cases h
    exact hkept
  · rw [hend] at h
    rcases Run.bind_eq_error.1 h with hrearm | ⟨_, _, _, hpure⟩
    · exact absurd hrearm rearm_ne_config
    · cases hpure

/-- A cast that ends well has scheduled exactly one more. -/
theorem castWand_rearms (h : castWand holder s = .ok cast t) :
    Lives whoHolds s t ∧ ∀ id, t.casts id = s.casts id + if holder = id then 1 else 0 := by
  rcases castWand_cases holder s with ⟨_, _, hend, hkept⟩ | ⟨wand, cast', mid, hkept, hend⟩
  · rw [hend] at h
    cases h
  · rw [hend] at h
    obtain ⟨_, _, hrearm, hpure⟩ := Run.bind_eq_ok.1 h
    cases hpure
    refine ⟨hkept.toLives.trans ((rearm_lives _ _ _).of_ok hrearm), fun id => ?_⟩
    rw [casts_rearm hrearm, hkept.casts]

end Rearming

/-! ### Spawning -/

omit [Scalar α] in
theorem onWorld_attach_apply {id : Int} {s : Stage α} (c : Component α)
    (h : s.world.existing.contains id = true) :
    onWorld (World.attach id c) s = .ok () { s with world := s.world.put c.kind id c.value } := by
  have hattach : World.attach id c s.world = .ok () (s.world.put c.kind id c.value) := by
    show (if s.world.existing.contains id = true then set _ else throw _ : Run _ Unit) s.world = _
    rw [if_pos h]
    rfl
  unfold onWorld Run.within
  rw [hattach]

omit [Scalar α] in
theorem onWorld_attach_apply_of_not {id : Int} {s : Stage α} (c : Component α)
    (h : ¬ s.world.existing.contains id = true) :
    onWorld (World.attach id c) s = .error (.noEntity id) s := by
  have hattach : World.attach id c s.world = .error (.noEntity id) s.world := by
    show (if s.world.existing.contains id = true then set _ else throw _ : Run _ Unit) s.world = _
    rw [if_neg h]
    rfl
  unfold onWorld Run.within
  rw [hattach]

/-- The stage on which a wand is attached: a new entity comes first if none is given. -/
def toHold (s : Stage α) : Option Int → Stage α
  | some _ => s
  | none => { s with world := (s.world.create []).2 }

/-- The stage after an entity that is there was given a wand. -/
def armed (s : Stage α) (id : Int) (held : Holder α) (delay : Int) : Stage α :=
  { s with
    world := (s.world.put .holder id held).put .manaBar id (255 : Int)
    agenda := s.agenda.schedule (s.tick + delay) (.shootWand id) }

omit [Scalar α] in
theorem get?_armed (s : Stage α) (id : Int) (held : Holder α) (delay other : Int) :
    (s.armed id held delay).world.get? .holder other =
      if other = id then some held else s.world.get? .holder other := by
  show ((s.world.put .holder id held).put .manaBar id (255 : Int)).get? .holder other = _
  rw [World.get?_put_of_ne _ (by decide), World.get?_put]

omit [Scalar α] in
theorem wields_armed {s : Stage α} {target : Option Int} {wand : Wand α} {held : Holder α}
    (hdefined : s.catalog.wand held.wand = .ok wand) (id delay : Int) :
    ((s.toHold target).armed id held delay).Wields id wand held where
  holds := by
    show (((s.toHold target).world.put .holder id held).put .manaBar id (255 : Int)).get? .holder id
      = _
    rw [World.get?_put_of_ne _ (by decide), World.get?_put, if_pos rfl]
  defined := by cases target <;> exact hdefined

/-- What spawning does once the wand is checked and there is an entity to hold it. -/
def hold (id : Int) (held : Holder α) (delay : Int) : Run (Stage α) Int := do
  onWorld (World.attach id ⟨.holder, held⟩)
  onWorld (World.attach id ⟨.manaBar, (255 : Int)⟩)
  scheduleCast delay id
  return id

omit [Scalar α] in
theorem hold_apply {s : Stage α} {id : Int} (h : s.world.existing.contains id = true)
    (held : Holder α) (delay : Int) : hold id held delay s = .ok id (s.armed id held delay) := by
  let holding : Stage α := { s with world := s.world.put .holder id held }
  have hstill : holding.world.existing.contains id = true := h
  unfold hold
  rw [Run.bind_apply_of_ok (onWorld_attach_apply _ h)]
  exact Run.bind_apply_of_ok (onWorld_attach_apply ⟨.manaBar, (255 : Int)⟩ hstill) _

omit [Scalar α] in
theorem hold_apply_of_not {s : Stage α} {id : Int} (h : ¬ s.world.existing.contains id = true)
    (held : Holder α) (delay : Int) : hold id held delay s = .error (.noEntity id) s :=
  Run.bind_apply_of_error (onWorld_attach_apply_of_not _ h) _

theorem freshState_apply {wandId : String} {s : Stage α} {wand : Wand α}
    (hdefined : s.catalog.wand wandId = .ok wand) :
    freshState wandId s = Run.lift (WandState.fresh wand s.settings.maxDeckSize) s :=
  Run.bind_apply_of_ok (findWand_eq_ok.2 ⟨hdefined, rfl⟩) _

/-- Where there is somebody to hold it, a wand that passes its check is spawned fresh. -/
theorem spawnWand_apply {wandId : String} {target : Option Int} {s : Stage α} {wand : Wand α}
    {state : WandState α} (hdefined : s.catalog.wand wandId = .ok wand)
    (hcheck : s.catalog.checkWand wand = .ok ())
    (hfresh : WandState.fresh wand s.settings.maxDeckSize = .ok state) :
    spawnWand wandId target s = hold (target.getD s.world.nextId) ⟨wandId, state⟩ wand.castDelay
      (s.toHold target) := by
  have hmade : freshState wandId s = .ok state s := by
    rw [freshState_apply hdefined, hfresh]
    rfl
  unfold spawnWand
  rw [Run.bind_apply_of_ok (findWand_eq_ok.2 ⟨hdefined, rfl⟩),
    Run.bind_apply_of_ok (Run.get_apply s), hcheck,
    Run.bind_apply_of_ok (Run.lift_eq_ok.2 ⟨rfl, rfl⟩), Run.bind_apply_of_ok hmade]
  cases target <;> rfl

theorem spawnWand_of_unmade {wandId : String} {target : Option Int} {s : Stage α} {wand : Wand α}
    {fault : Fault} (hdefined : s.catalog.wand wandId = .ok wand)
    (hcheck : s.catalog.checkWand wand = .ok ())
    (hfresh : WandState.fresh wand s.settings.maxDeckSize = .error fault) :
    spawnWand wandId target s = .error fault s := by
  have hunmade : freshState wandId s = .error fault s := by
    rw [freshState_apply hdefined, hfresh]
    rfl
  unfold spawnWand
  rw [Run.bind_apply_of_ok (findWand_eq_ok.2 ⟨hdefined, rfl⟩),
    Run.bind_apply_of_ok (Run.get_apply s), hcheck,
    Run.bind_apply_of_ok (Run.lift_eq_ok.2 ⟨rfl, rfl⟩)]
  exact Run.bind_apply_of_error hunmade _

/-- A wand that passes its check is spawned fresh, on the entity given or on the next one. If there
is anything wrong with it or with the entity, nothing changes. -/
theorem spawnWand_cases (wandId : String) (target : Option Int) (s : Stage α) :
    (∃ fault, spawnWand wandId target s = .error fault s) ∨
      ∃ wand state, s.catalog.wand wandId = .ok wand ∧ s.catalog.checkWand wand = .ok () ∧
        WandState.fresh wand s.settings.maxDeckSize = .ok state ∧
        (s.toHold target).world.existing.contains (target.getD s.world.nextId) = true ∧
        spawnWand wandId target s = .ok (target.getD s.world.nextId)
          ((s.toHold target).armed (target.getD s.world.nextId) ⟨wandId, state⟩
            wand.castDelay) := by
  cases hdefined : s.catalog.wand wandId with
  | error fault =>
    exact .inl ⟨fault, Run.bind_apply_of_error (Run.lift_eq_error.2 ⟨hdefined, rfl⟩) _⟩
  | ok wand =>
    have hfind := findWand_eq_ok.2 ⟨hdefined, rfl⟩
    cases hcheck : s.catalog.checkWand wand with
    | error fault =>
      refine .inl ⟨fault, (Run.bind_apply_of_ok hfind _).trans ?_⟩
      rw [Run.bind_apply_of_ok (Run.get_apply s), hcheck]
      exact Run.bind_apply_of_error (Run.lift_eq_error.2 ⟨rfl, rfl⟩) _
    | ok _ =>
      cases hfresh : WandState.fresh wand s.settings.maxDeckSize with
      | error fault => exact .inl ⟨fault, spawnWand_of_unmade hdefined hcheck hfresh⟩
      | ok state =>
        rw [spawnWand_apply hdefined hcheck hfresh]
        by_cases hexists :
            (s.toHold target).world.existing.contains (target.getD s.world.nextId) = true
        · exact .inr ⟨wand, state, rfl, hcheck, hfresh, hexists, hold_apply hexists _ _⟩
        · cases target with
          | none => exact absurd Std.ExtTreeSet.contains_insert_self hexists
          | some id => exact .inl ⟨_, hold_apply_of_not hexists _ _⟩

/-- A wand that was spawned passed its check, and its holder was there or is new. -/
theorem spawnWand_eq_ok {wandId : String} {target : Option Int} {id : Int} {s t : Stage α}
    (h : spawnWand wandId target s = .ok id t) :
    ∃ wand state, s.catalog.wand wandId = .ok wand ∧ s.catalog.checkWand wand = .ok () ∧
      WandState.fresh wand s.settings.maxDeckSize = .ok state ∧
      (s.toHold target).world.existing.contains id = true ∧
      t = (s.toHold target).armed id ⟨wandId, state⟩ wand.castDelay := by
  rcases spawnWand_cases wandId target s with
    ⟨fault, hend⟩ | ⟨wand, state, hdefined, hcheck, hfresh, hexists, hend⟩
  · rw [hend] at h
    cases h
  · rw [hend] at h
    cases h
    exact ⟨wand, state, hdefined, hcheck, hfresh, hexists, rfl⟩

/-- Where no wand was spawned, nothing changed. -/
theorem spawnWand_eq_error {wandId : String} {target : Option Int} {fault : Fault} {s t : Stage α}
    (h : spawnWand wandId target s = .error fault t) : t = s := by
  rcases spawnWand_cases wandId target s with ⟨_, hend⟩ | ⟨_, _, -, -, -, -, hend⟩
  · rw [hend] at h
    cases h
    rfl
  · rw [hend] at h
    cases h

/-- Whoever a wand was spawned on wields it in a fresh state. -/
theorem wields_of_spawn {wandId : String} {target : Option Int} {holder : Int} {s t : Stage α}
    {wand : Wand α} (hdefined : s.catalog.wand wandId = .ok wand)
    (hspawn : spawnWand wandId target s = .ok holder t) :
    ∃ state, WandState.fresh wand s.settings.maxDeckSize = .ok state ∧
      t.Wields holder wand ⟨wandId, state⟩ := by
  obtain ⟨found, state, hfound, -, hfresh, -, rfl⟩ := spawnWand_eq_ok hspawn
  obtain rfl := Except.ok.inj (hfound.symm.trans hdefined)
  exact ⟨state, hfresh, wields_armed hfound _ _⟩

end WandArena.Stage
