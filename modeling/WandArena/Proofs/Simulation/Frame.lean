import WandArena.Proofs.Schedule.Pending
import WandArena.Proofs.World.Census
import WandArena.Simulation.Dispatch

/-! What the operations on a stage leave alone.

`Stage.Lives` says that nobody who was there dies, nobody is halted and whatever one sees of the
holders stays as it was; `Stage.Kept` adds that no cast is scheduled or taken off. Launching keeps
every holder as it is. Whatever runs on the state of a wand still keeps who holds one. -/
namespace WandArena
variable {α β γ : Type}

/-- The action casts the wand of this entity. -/
def Action.casts (id : Int) (action : Action) : Bool :=
  action.kind == .shootWand && action.entity == id

theorem Action.casts_shootWand (holder id : Int) :
    (Action.shootWand holder).casts id = decide (holder = id) := by
  rw [Bool.eq_iff_iff, decide_eq_true_iff]
  simp [Action.casts, Action.shootWand]

theorem Action.casts_of_kind {action : Action} (h : action.kind ≠ .shootWand) (id : Int) :
    action.casts id = false := by
  rw [Action.casts, beq_eq_false_iff_ne.2 h, Bool.false_and]

/-- The frame in which nothing about the state of a wand changes but its mana. -/
def WandState.paying : Run.Frame (WandState α) where
  Allows state state' := ∃ mana, state' = { state with mana }
  refl _ := ⟨_, rfl⟩
  trans := by
    rintro _ _ _ ⟨_, rfl⟩ ⟨mana, rfl⟩
    exact ⟨mana, rfl⟩

namespace Stage

/-- The number of scheduled casts of an entity. -/
def casts (s : Stage α) (id : Int) : Nat := s.agenda.pending (Action.casts id)

/-- Everybody there lives on with whatever `view` sees of the holders. -/
structure Lives (view : Table (Holder α) → β) (s t : Stage α) : Prop where
  holders : view t.world.holders = view s.world.holders
  marked : t.world.marked = s.world.marked
  nextId : s.world.nextId ≤ t.world.nextId
  /-- The new entities have the numbers that came next. -/
  existing : ∀ id, t.world.existing.contains id = true ↔
    s.world.existing.contains id = true ∨ s.world.nextId ≤ id ∧ id < t.world.nextId
  halted : t.halted = s.halted
  catalog : t.catalog = s.catalog

/-- Moreover no cast is scheduled or taken off. -/
structure Kept (view : Table (Holder α) → β) (s t : Stage α) : Prop extends Lives view s t where
  casts : ∀ id, t.casts id = s.casts id

/-- All there is to see of the holders. -/
abbrev whole (holders : Table (Holder α)) : Table (Holder α) := holders

/-- Who holds a wand, whatever its state. -/
abbrev whoHolds (holders : Table (Holder α)) (id : Int) : Bool := holders.contains id

section Frames
variable {view : Table (Holder α) → β} {s t u : Stage α}

theorem Lives.of_census (hcensus : t.world.census = s.world.census) (hhalted : t.halted = s.halted)
    (hcatalog : t.catalog = s.catalog) : Lives view s t := by
  obtain ⟨hnext, hexisting, hmarked, hholders⟩ := Census.mk.inj hcensus
  refine ⟨congrArg view hholders, hmarked, Int.le_of_eq hnext.symm, fun id => ?_, hhalted, hcatalog⟩
  rw [hexisting, hnext]
  constructor
  · exact .inl
  · rintro (h | ⟨hle, hlt⟩)
    · exact h
    · omega

theorem Lives.trans (h : Lives view s t) (h' : Lives view t u) : Lives view s u where
  holders := h'.holders.trans h.holders
  marked := h'.marked.trans h.marked
  nextId := Int.le_trans h.nextId h'.nextId
  existing := fun id => by
    have hle := h.nextId
    have hle' := h'.nextId
    rw [h'.existing, h.existing, or_assoc]
    refine or_congr_right ?_
    omega
  halted := h'.halted.trans h.halted
  catalog := h'.catalog.trans h.catalog

/-- The frame of `Lives`. -/
def lives (view : Table (Holder α) → β) : Run.Frame (Stage α) :=
  ⟨Lives view, fun _ => .of_census rfl rfl rfl, .trans⟩

/-- The frame of `Kept`. -/
def kept (view : Table (Holder α) → β) : Run.Frame (Stage α) where
  Allows := Kept view
  refl := fun _ => ⟨.of_census rfl rfl rfl, fun _ => rfl⟩
  trans := fun h h' => ⟨h.toLives.trans h'.toLives, fun id => (h'.casts id).trans (h.casts id)⟩

/-- Steps that neither touch the census nor the agenda. -/
theorem Kept.of_census (hcensus : t.world.census = s.world.census) (hhalted : t.halted = s.halted)
    (hcatalog : t.catalog = s.catalog) (hagenda : t.agenda = s.agenda) : Kept view s t :=
  ⟨.of_census hcensus hhalted hcatalog, fun id => by rw [Stage.casts, Stage.casts, hagenda]⟩

/-- Keeping the holders as they are keeps whatever there is to see of them. -/
theorem Kept.of_whole (h : Kept whole s t) : Kept view s t :=
  ⟨⟨congrArg view h.holders, h.marked, h.nextId, h.existing, h.halted, h.catalog⟩, h.casts⟩

end Frames

/-! ### Launching -/

/-- What launching projectiles does to a stage lies within the frame. -/
structure LetsLaunch (F : Run.Frame (Stage α)) : Prop where
  journal : ∀ s journal, F.Allows s { s with journal }
  dice : ∀ s dice, F.Allows s { s with dice }
  /-- The new entities hold no wand. -/
  create : ∀ s {components : List (Component α)}, (∀ c ∈ components, c.kind ≠ .holder) →
    F.Allows s { s with world := (s.world.create components).2 }
  /-- No cast is scheduled. -/
  schedule : ∀ s tick {action : Action}, action.kind ≠ .shootWand →
    F.Allows s { s with agenda := s.agenda.schedule tick action }

section Reading
variable {F : Run.Frame (Stage α)}

theorem findWand_keeps (id : String) : Run.Keeps F (findWand id) :=
  .get_bind fun s => Run.Keeps.lift _ s

theorem findBlueprint_keeps (id : String) : Run.Keeps F (findBlueprint id) :=
  .get_bind fun s => Run.Keeps.lift _ s

theorem holderOf_keeps (id : Int) : Run.Keeps F (holderOf id) :=
  .get_bind fun s => Run.Keeps.found _ _ s

/-- Notes only go into the journal. -/
theorem noteAll_keeps_of (hF : ∀ s journal, F.Allows s { s with journal })
    (notes : Array (CastNote α)) : Run.Keeps F (noteAll notes) := by
  refine .modify fun s => ?_
  split
  · exact hF s _
  · exact F.refl s

end Reading

theorem shotComponents_kind {muzzle : Muzzle α} {blueprint : Blueprint α} {stats : FullStats α}
    {position velocity : Vec α} {direction : α} {continuation : Continuation (Cast α)} :
    ∀ c ∈ shotComponents muzzle blueprint stats position velocity direction continuation,
      c.kind ≠ .holder := by
  simp [shotComponents]

namespace LetsLaunch
variable {F : Run.Frame (Stage α)}

theorem log (hF : LetsLaunch F) (record : Record α) : Run.Keeps F (log record) :=
  .modify fun s => hF.journal s _

theorem noteAll (hF : LetsLaunch F) (notes : Array (CastNote α)) : Run.Keeps F (noteAll notes) :=
  noteAll_keeps_of hF.journal notes

theorem rollBetween [Scalar α] (hF : LetsLaunch F) (low high : α) :
    Run.Keeps F (rollBetween low high) :=
  .get_bind fun s => .set_bind (hF.dice s _) (.pure _)

theorem scheduleIn (hF : LetsLaunch F) (delay : Int) {action : Action}
    (h : action.kind ≠ .shootWand) : Run.Keeps F (scheduleIn delay action) :=
  .modify fun s => hF.schedule s _ h

theorem scheduleEnd (hF : LetsLaunch F) (id lifetime : Int) :
    Run.Keeps F (scheduleEnd id lifetime) := by
  unfold Stage.scheduleEnd
  split
  · exact hF.noteAll _
  · exact hF.scheduleIn _ nofun

variable [Scalar α]

theorem launchOne (hF : LetsLaunch F) (muzzle : Muzzle α) (spread : α) (castStats : Stats α)
    (shot : Shot α (Cast α)) : Run.Keeps F (launchOne muzzle spread castStats shot) := by
  refine .bind (findBlueprint_keeps _) fun blueprint => .get_bind fun s =>
    Run.Keeps.bind (.lift _) (fun stats => ?_) s
  refine .bind (.number _) fun offset => .bind (hF.rollBetween _ _) fun deviation => ?_
  refine .bind (.number _) fun direction => .bind (.number _) fun along => ?_
  refine .bind (.number _) fun across => ?_
  refine .bind (.modifyGet fun s => hF.create s shotComponents_kind) fun id => ?_
  refine .bind (.found _ _) fun ends => .bind (hF.rollBetween _ _) fun roll => ?_
  exact .bind (.number _) fun lifetime => .bind (hF.scheduleEnd _ _) fun _ => .pure _

theorem launch (hF : LetsLaunch F) (wand : Wand α) (cast : Cast α) (holder : Int) :
    Run.Keeps F (launch wand cast holder) :=
  .get_bind fun s => Run.Keeps.mapM (hF.launchOne _ _ _) _ s

end LetsLaunch

/-! ### Journal, dice and agenda -/

section Steps
variable {view : Table (Holder α) → β}

theorem casts_scheduleIn (s : Stage α) (delay : Int) (action : Action) (id : Int) :
    ({ s with agenda := s.agenda.schedule (s.tick + delay) action } : Stage α).casts id =
      s.casts id + if action.casts id then 1 else 0 :=
  Agenda.pending_schedule _ _ _ _

/-- Scheduling anything keeps everybody alive. -/
theorem scheduleIn_lives (delay : Int) (action : Action) :
    Run.Keeps (lives view) (scheduleIn delay action) :=
  .modify fun _ => .of_census rfl rfl rfl

/-- A new entity without a wand leaves everybody as they are. -/
theorem create_kept (s : Stage α) {components : List (Component α)}
    (h : ∀ c ∈ components, c.kind ≠ .holder) :
    Kept whole s { s with world := (s.world.create components).2 } := by
  obtain ⟨hnext, hexisting, hmarked, hholders⟩ := Census.mk.inj (s.world.census_create h)
  refine ⟨⟨hholders, hmarked, ?_, fun id => ?_, rfl, rfl⟩, fun _ => rfl⟩
  · show s.world.nextId ≤ (s.world.create components).2.nextId
    omega
  · show (s.world.create components).2.existing.contains id = true ↔
      _ ∨ _ ∧ id < (s.world.create components).2.nextId
    rw [hexisting, hnext, Std.ExtTreeSet.contains_iff_mem, Std.ExtTreeSet.mem_insert,
      Std.LawfulEqCmp.compare_eq_iff_eq, ← Std.ExtTreeSet.contains_iff_mem, or_comm]
    refine or_congr_right ?_
    omega

theorem letsLaunch_kept : LetsLaunch (kept view) where
  journal := fun _ _ => .of_census rfl rfl rfl rfl
  dice := fun _ _ => .of_census rfl rfl rfl rfl
  create := fun s _ h => (create_kept s h).of_whole
  schedule := fun s tick action h => by
    refine ⟨.of_census rfl rfl rfl, fun id => ?_⟩
    have hpending := s.agenda.pending_schedule tick action (Action.casts id)
    rwa [Action.casts_of_kind h] at hpending

theorem log_keeps (record : Record α) : Run.Keeps (kept view) (log record) :=
  letsLaunch_kept.log record

theorem noteAll_keeps (notes : Array (CastNote α)) : Run.Keeps (kept view) (noteAll notes) :=
  letsLaunch_kept.noteAll notes

theorem launch_keeps [Scalar α] (wand : Wand α) (cast : Cast α) (holder : Int) :
    Run.Keeps (kept whole) (launch wand cast holder) :=
  letsLaunch_kept.launch wand cast holder

/-- An operation on the world that does not change the census. -/
theorem onWorld_keeps {act : Run (World α) γ} (hact : Run.Keeps World.counted act) :
    Run.Keeps (kept view) (onWorld act) :=
  hact.within fun _ _ hworld => .of_census hworld rfl rfl rfl

end Steps

variable [Scalar α]

/-! ### Wands -/

omit [Scalar α] in
theorem holderOf_eq_ok {id : Int} {s t : Stage α} {held : Holder α} :
    holderOf id s = .ok held t ↔ s.world.get? .holder id = some held ∧ t = s :=
  Run.found_eq_ok

omit [Scalar α] in
theorem holderOf_eq_error {id : Int} {s : Stage α} (h : s.world.get? .holder id = none) :
    holderOf id s = .error (.noWand id) s := by
  show Run.found _ (s.world.get? .holder id) s = _
  rw [h]
  rfl

omit [Scalar α] in
/-- An operation on the state of a held wand leaves its holder with the state in which it ends. -/
theorem onWand_eq_ok {id : Int} {act : Run (WandState α) γ} {s t : Stage α} {b : γ} :
    onWand id act s = .ok b t ↔
      ∃ held state, s.world.get? .holder id = some held ∧ act held.state = .ok b state ∧
        t = { s with world := s.world.put .holder id ({ held with state } : Holder α) } := by
  constructor
  · intro h
    obtain ⟨held, _, hheld, hwithin⟩ := Run.bind_eq_ok.1 h
    obtain ⟨hget, rfl⟩ := holderOf_eq_ok.1 hheld
    obtain ⟨state, hact, rfl⟩ := Run.within_eq_ok.1 hwithin
    exact ⟨held, state, hget, hact, rfl⟩
  · rintro ⟨held, state, hget, hact, rfl⟩
    exact Run.bind_eq_ok.2
      ⟨held, s, holderOf_eq_ok.2 ⟨hget, rfl⟩, Run.within_eq_ok.2 ⟨state, hact, rfl⟩⟩

omit [Scalar α] in
/-- Putting another wand into the hands of a holder leaves who holds one. -/
theorem put_holder_kept {s : Stage α} {id : Int} (h : s.world.has .holder id = true)
    (held : Holder α) :
    Kept whoHolds s { s with world := s.world.put .holder id held } := by
  refine ⟨⟨?_, rfl, Int.le_refl _, fun other => ?_, rfl, rfl⟩, fun _ => rfl⟩
  · funext other
    exact World.has_put_of_has h other held
  · constructor
    · exact .inl
    · rintro (hother | ⟨hle, hlt⟩)
      · exact hother
      · exact absurd hle (Int.not_le.2 hlt)

omit [Scalar α] in
/-- What is done with a wand that is held has to keep to the frame for whatever wand that is. -/
theorem holderOf_bind_keeps {F : Run.Frame (Stage α)} {id : Int} {f : Holder α → Run (Stage α) γ}
    (h : ∀ s held, s.world.get? .holder id = some held → Run.KeepsAt F s (f held)) :
    Run.Keeps F (holderOf id >>= f) := by
  intro s
  show F.Allows s (Run.left ((holderOf id >>= f) s))
  cases hget : s.world.get? .holder id with
  | none =>
    rw [Run.bind_apply_of_error (holderOf_eq_error hget)]
    exact F.refl s
  | some held =>
    rw [Run.bind_apply_of_ok (holderOf_eq_ok.2 ⟨hget, rfl⟩)]
    exact h s held hget

omit [Scalar α] in
/-- What keeps to a frame of the state of a wand keeps to a frame of the stage that lets its holder
hold the wand in any state that the former allows. -/
theorem onWand_keeps_within {F : Run.Frame (Stage α)} {G : Run.Frame (WandState α)} {id : Int}
    {act : Run (WandState α) γ} (hact : Run.Keeps G act)
    (h : ∀ s held state, s.world.get? .holder id = some held → G.Allows held.state state →
      F.Allows s { s with world := s.world.put .holder id ({ held with state } : Holder α) }) :
    Run.Keeps F (onWand id act) := by
  refine holderOf_bind_keeps fun s held hget => ?_
  show Run.KeepsAt F s (Run.within _ _ act)
  exact .within hact fun state hstate => h s held state hget hstate

omit [Scalar α] in
/-- Whatever is done to the state of a wand keeps to a frame that lets its holder hold the wand in
any other state. -/
theorem onWand_keeps_held {F : Run.Frame (Stage α)} {id : Int}
    (h : ∀ s held state, s.world.get? .holder id = some held →
      F.Allows s { s with world := s.world.put .holder id ({ held with state } : Holder α) })
    (act : Run (WandState α) γ) : Run.Keeps F (onWand id act) := by
  have hact : Run.Keeps .any act := fun _ => trivial
  exact onWand_keeps_within hact fun s held state hget _ => h s held state hget

omit [Scalar α] in
/-- Whatever is done to the state of a wand keeps to a frame that lets its holder hold any other. -/
theorem onWand_keeps_of {F : Run.Frame (Stage α)} {id : Int}
    (h : ∀ s held, s.world.has .holder id = true →
      F.Allows s { s with world := s.world.put .holder id held }) (act : Run (WandState α) γ) :
    Run.Keeps F (onWand id act) := by
  exact onWand_keeps_held
    (fun s held state hget => h s { held with state } (World.has_of_get? hget)) act

omit [Scalar α] in
/-- Whatever is done to the state of a wand, its holder goes on to hold it. -/
theorem onWand_keeps (id : Int) (act : Run (WandState α) γ) :
    Run.Keeps (kept whoHolds) (onWand id act) :=
  onWand_keeps_of (fun _ held hhas => put_holder_kept hhas held) act

/-- Regaining mana keeps to a frame that lets holders have their wands with any mana. -/
theorem regainMana_keeps_of {F : Run.Frame (Stage α)}
    (h : ∀ s id held mana, s.world.get? .holder id = some held → F.Allows s { s with
      world := s.world.put .holder id { held with state := { held.state with mana } } }) :
    Run.Keeps F (regainMana : Run (Stage α) Unit) := by
  refine .get_bind fun s => Run.Keeps.forM (fun id => ?_) _ s
  refine .bind (holderOf_keeps _) fun held => .bind (findWand_keeps _) fun wand => ?_
  have hpay : Run.Keeps WandState.paying
      (modify fun state : WandState α => { state with
        mana := Quantity.least (state.mana + wand.manaRecharge) (Quantity.whole wand.maxMana) }) :=
    .modify fun _ => ⟨_, rfl⟩
  refine onWand_keeps_within hpay fun t held state hget hstate => ?_
  obtain ⟨mana, rfl⟩ := hstate
  exact h t id held mana hget

/-- Showing mana keeps to a frame that lets the bars of holders show anything. -/
theorem showMana_keeps_of {F : Run.Frame (Stage α)}
    (h : ∀ s id (fill : Int), s.world.has .holder id = true →
      F.Allows s { s with world := s.world.put .manaBar id fill }) :
    Run.Keeps F (showMana : Run (Stage α) Unit) := by
  refine .get_bind fun s => Run.Keeps.forM (fun id => ?_) _ s
  refine holderOf_bind_keeps fun t held hget => ?_
  show Run.KeepsAt F t (Run.lift (t.catalog.wand held.wand) >>= _)
  refine .lift_bind fun wand => .number_bind fun fill => ?_
  exact h t id fill (World.has_of_get? hget)

theorem regainMana_keeps : Run.Keeps (kept whoHolds) (regainMana : Run (Stage α) Unit) :=
  regainMana_keeps_of fun _ _ _ _ hget => put_holder_kept (World.has_of_get? hget) _

theorem showMana_keeps : Run.Keeps (kept whoHolds) (showMana : Run (Stage α) Unit) :=
  showMana_keeps_of fun _ _ _ _ => .of_census (World.census_put _ (by decide) _ _) rfl rfl rfl

/-- A shot keeps to what a cast, a halt and a record in the journal keep to. -/
theorem shoot_keeps {F : Run.Frame (Stage α)} {holder : Int}
    (hcast : Run.Keeps F (castWand holder)) (hhalt : ∀ fault, Run.Keeps F (halt holder fault))
    (hlog : ∀ record, Run.Keeps F (log record)) :
    Run.Keeps F (shoot holder : Run (Stage α) Unit) := by
  intro s
  unfold Run.KeepsAt Stage.shoot
  split
  case isTrue =>
    split
    case h_1 cast t hend => exact hcast.of_ok hend
    case h_2 fault t hend => exact F.trans (hcast.of_error hend) (hhalt fault t)
    case h_3 fault t _ hend => exact hcast.of_error hend
  case isFalse => exact hlog _ s

end Stage
end WandArena
