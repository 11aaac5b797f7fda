import WandArena.Proofs.Simulation.Fixture
import WandArena.Proofs.Simulation.Validated
import WandArena.Sandbox.Keys

/-! Sandboxes in service.

A sandbox is `InService` while each of its wands is in the hands of a turret that stands in its
place, one of the turrets is selected, and the notes on casts are on or off as the sandbox shows.
A restart puts any sandbox that is equipped for it into service (`restart_safeAt`), and no key and
no tick takes it out of service. None of them stops for anything but arithmetic (`pressAll_safe`,
`update_safe`). -/
namespace WandArena
variable {α : Type}

/-! ### Turrets on a stage -/

namespace Stage
variable {s t : Stage α} {turrets : List Int} {wandId : String}

/-- Nobody is about to go: nobody is marked, there are no projectiles and no end is scheduled. -/
structure Calm (s : Stage α) : Prop where
  unmarked : ∀ id, s.world.marked.contains id = false
  grounded : ∀ id, s.world.has .projectile id = false
  endless : ∀ id, s.agenda.ticks (Action.despawns id) = []

theorem calm_start (catalog : Catalog α) (rules : MergeRules) (settings : Settings)
    (dice : Twister) (traced : Bool) : (start catalog rules settings dice traced).Calm :=
  ⟨fun _ => Std.ExtTreeSet.contains_empty, fun _ => Std.ExtTreeMap.contains_empty, fun _ => rfl⟩

namespace Calm

theorem create (h : s.Calm) {components : List (Component α)}
    (hnone : ∀ c ∈ components, c.kind ≠ .holder)
    (hgrounded : ComponentKind.projectile ∉ components.map (·.kind)) :
    Calm { s with world := (s.world.create components).2 } where
  unmarked id := (congrArg (·.contains id) (joins_create s hnone).marked).trans (h.unmarked id)
  grounded id := by
    rw [World.has_eq, World.get?_create_of_kind _ hgrounded, ← World.has_eq]
    exact h.grounded id
  endless := h.endless

theorem armed (h : s.Calm) (id : Int) (held : Holder α) (delay : Int) :
    (s.armed id held delay).Calm where
  unmarked := h.unmarked
  grounded other := by
    show ((s.world.put .holder id held).put .manaBar id (255 : Int)).has .projectile other = false
    rw [World.has_eq, World.get?_put_of_ne _ (by decide), World.get?_put_of_ne _ (by decide),
      ← World.has_eq]
    exact h.grounded other
  endless other :=
    (s.agenda.ticks_schedule_of_not _ (Action.despawns_shootWand id other)).trans (h.endless other)

/-- A new entity that has a place and is no projectile is a fixture. -/
theorem fixture_create (h : s.Calm) {components : List (Component α)}
    (hnone : ∀ c ∈ components, c.kind ≠ .holder)
    (hgrounded : ComponentKind.projectile ∉ components.map (·.kind))
    (hkinds : (components.map (·.kind)).Nodup) {c : Component α} (hc : c ∈ components)
    (hplace : c.kind = .position) :
    Fixture { s with world := (s.world.create components).2 } s.world.nextId := by
  have hcalm := h.create hnone hgrounded
  have hjoins := joins_create s hnone
  refine ⟨?_, ?_, ?_, hcalm.grounded _, hcalm.endless _⟩
  · have hthere : (s.world.create components).2.existing.contains s.world.nextId = true :=
      (congrArg (·.contains s.world.nextId) hjoins.existing).trans
        Std.ExtTreeSet.contains_insert_self
    have hunmarked : (s.world.create components).2.marked.contains s.world.nextId = false :=
      hcalm.unmarked _
    show (s.world.create components).2.isAlive s.world.nextId = true
    rw [World.isAlive, hthere, hunmarked]
    rfl
  · have hnext : (s.world.create components).2.nextId = s.world.nextId + 1 := hjoins.nextId
    show s.world.nextId < (s.world.create components).2.nextId
    omega
  · rw [← hplace]
    exact World.has_of_get? (s.world.get?_create_self components hkinds hc)

end Calm

theorem Fixture.armed {id : Int} (h : s.Fixture id) (other : Int) (held : Holder α) (delay : Int) :
    (s.armed other held delay).Fixture id :=
  ((h.put (.inl rfl) other held).put (.inr rfl) other (255 : Int)).schedule _
    (Action.despawns_shootWand other id)

variable [Scalar α]

/-- The turrets stand in their places with sound wands from the standard catalog. -/
structure Staffed (turrets : List Int) (s : Stage α) : Prop where
  catalog : s.catalog = .standard
  meets : s.Meets .validated turrets
  fixtures : ∀ id ∈ turrets, s.Fixture id

theorem Staffed.of_same (h : s.Staffed turrets) (hbackdrop : t.backdrop = s.backdrop)
    (hworld : t.world = s.world) (hagenda : t.agenda = s.agenda) : t.Staffed turrets where
  catalog := (congrArg Backdrop.catalog hbackdrop).trans h.catalog
  meets := h.meets.of_census hbackdrop (by rw [hworld])
  fixtures id hid := (h.fixtures id hid).of_world hworld hagenda

/-- Whatever is in the deck of a turret is a card of the catalog. -/
theorem Staffed.deck_known (h : s.Staffed turrets) {id : Int} {held : Holder α}
    (hget : s.world.get? .holder id = some held) {ref : CardRef}
    (href : ref ∈ held.state.piles.deck.toList) : s.catalog.cards.contains ref.id = true := by
  obtain ⟨wand, slots, -, hsound, -, hstock⟩ := h.meets.held hget
  have hdealt : ref ∈ Piles.deal wand.cards := by
    refine hstock.cards.mem_iff.1 ?_
    exact List.mem_append_left _ (List.mem_append_left _ href)
  obtain ⟨card, hcard, -⟩ :=
    Catalog.checkWand_eq_ok_iff.1 hsound.checked ref.id (Piles.id_mem_of_mem_deal hdealt)
  exact Option.isSome_iff_exists.2 ⟨card, hcard⟩

/-- Turrets are being built, and nothing else has happened. -/
structure Founding (turrets : List Int) (s : Stage α) : Prop
    extends s.Staffed turrets, s.Calm where
  depth : 5 ≤ s.settings.maxCastDepth
  slots : s.settings.maxDeckSize = 64

theorem founding_start {settings : Settings} (hdepth : 5 ≤ settings.maxCastDepth)
    (hslots : settings.maxDeckSize = 64) (dice : Twister) (traced : Bool)
    (journal : Array (Record α)) :
    Founding [] { start (.standard : Catalog α) {} settings dice traced with journal } where
  catalog := rfl
  meets :=
    ((Simulation.Governed.start (Policy.validated_start_standard settings) dice traced).meets
      Policy.validated_keeps).of_census rfl rfl
  fixtures := nofun
  toCalm := { calm_start .standard {} settings dice traced with }
  depth := hdepth
  slots := hslots

/-- There is a fresh sound state for every standard wand. -/
theorem Founding.fresh (h : s.Founding turrets)
    (hknown : (Catalog.standardWands : Registry (Wand α)).contains wandId = true) :
    ∃ wand state, s.catalog.wand wandId = .ok wand ∧ s.catalog.checkWand wand = .ok () ∧
      WandState.fresh wand s.settings.maxDeckSize = .ok state ∧
      Standard.validated.held s.backdrop ⟨wandId, state⟩ := by
  obtain ⟨wand, hwand⟩ := Option.isSome_iff_exists.1 hknown
  have hfound : s.catalog.wands.get? wandId = some wand := by
    rw [h.catalog]
    exact hwand
  have hdefined : s.catalog.wand wandId = .ok wand := by
    unfold Catalog.wand
    rw [hfound]
  have hcheck : s.catalog.checkWand wand = .ok () := by
    rw [h.catalog]
    exact Catalog.checkWand_standard hwand
  have hfew : wand.cards.length ≤ 6 :=
    Catalog.length_cards_standard (by rw [← h.catalog]; exact hdefined)
  have hroom : room s.settings.maxDeckSize = .ok 64 := by
    rw [h.slots]
    rfl
  have hfits : (wand.cards.length : Int) ≤ s.settings.maxDeckSize := by
    rw [h.slots]
    omega
  obtain ⟨state, hfresh, -⟩ := WandState.fresh_of_fits hroom hfits
  let sim : Simulation α := ⟨s, .empty⟩
  have hspawn : Policy.validated.spawn [] sim none wand :=
    Policy.validated_spawn_standard h.catalog h.depth hdefined
  have hbackdrop : Standard.validated.backdrop sim.backdrop := h.meets.backdrop
  exact ⟨wand, state, hdefined, hcheck, hfresh,
    Policy.validated_keeps.spawn hbackdrop hspawn hdefined hcheck hfresh⟩

/-- A new turret gets its wand and takes its place behind the others. -/
theorem Founding.turret (h : s.Founding turrets)
    (hknown : (Catalog.standardWands : Registry (Wand α)).contains wandId = true)
    (position : Vec α) (place : Nat) :
    ∃ t, spawnWand wandId (some s.world.nextId)
        { s with world := (s.world.create (Sandbox.turretComponents position place)).2 } =
          .ok s.world.nextId t ∧
      t.Founding (turrets ++ [s.world.nextId]) ∧ t.terms = s.terms := by
  let created : Stage α :=
    { s with world := (s.world.create (Sandbox.turretComponents position place)).2 }
  have hnone : ∀ c ∈ Sandbox.turretComponents position place, c.kind ≠ .holder := by
    simp [Sandbox.turretComponents]
  have hgrounded :
      ComponentKind.projectile ∉ (Sandbox.turretComponents position place).map (·.kind) := by
    simp [Sandbox.turretComponents]
  have hkinds : ((Sandbox.turretComponents position place).map (·.kind)).Nodup := by
    simp [Sandbox.turretComponents]
  obtain ⟨wand, state, hdefined, hcheck, hfresh, hheld⟩ := h.fresh hknown
  have hfixture : created.Fixture s.world.nextId :=
    h.toCalm.fixture_create hnone hgrounded hkinds List.mem_cons_self rfl
  have hexists : created.world.existing.contains s.world.nextId = true :=
    (Bool.and_eq_true_iff.1 hfixture.alive).1
  have hspawn : spawnWand wandId (some s.world.nextId) created =
      hold s.world.nextId ⟨wandId, state⟩ wand.castDelay created :=
    spawnWand_apply hdefined hcheck hfresh
  refine ⟨_, hspawn.trans (hold_apply hexists _ _), ?_, rfl⟩
  exact {
    catalog := h.catalog
    meets := ((h.meets.create hnone).armed hexists hheld _).of_keepers fun id hid =>
      (List.perm_append_singleton _ _).mem_iff.1 hid
    fixtures := fun id hid => by
      refine Fixture.armed ?_ _ _ _
      rcases List.mem_append.1 hid with hbefore | hnew
      · exact (h.fixtures id hbefore).create hnone
      · rw [List.mem_singleton.1 hnew]
        exact hfixture
    toCalm := (h.toCalm.create hnone hgrounded).armed _ _ _
    depth := h.depth
    slots := h.slots }

end Stage

/-! ### Building turrets -/

namespace Sandbox
variable [Scalar α] {wandIds : List String} {width : Int} {b c : Sandbox α}

/-- The sandbox is for these wands and for a screen of this width, and it goes by the usual
rules. -/
structure Equipped (wandIds : List String) (width : Int) (b : Sandbox α) : Prop where
  wands : b.wandIds = wandIds
  spans : b.canvas.width = width
  rules : b.sim.rules = {}
  selected : 0 ≤ b.selected

/-- So many turrets have been built. -/
structure Building (wandIds : List String) (width : Int) (count : Nat) (b : Sandbox α) : Prop
    extends b.Equipped wandIds width where
  idle : b.sim.waiting.entries = []
  notes : b.debugCasts = b.sim.traced
  founding : b.sim.Founding b.turrets
  count : b.turrets.length = count

theorem addTurret_safeAt {built : Nat} {wandId : String} (h : b.Building wandIds width built)
    (hknown : (Catalog.standardWands : Registry (Wand α)).contains wandId = true)
    (count place : Nat) :
    Run.SafeAt (Building wandIds width (built + 1)) Fault.Numeric b
      (addTurret count wandId place) := by
  cases hposition : (turretPosition b.sim.settings count place : Except NumberFault (Vec α)) with
  | error fault =>
    have hadd : addTurret count wandId place b = .error (.number fault) b := by
      refine Run.bind_apply_of_error (Run.within_eq_error.2 ⟨_, Run.within_eq_error.2
        ⟨b.sim.toStage, (Run.bind_apply_of_ok (Run.get_apply _) _).trans ?_, rfl⟩, rfl⟩) _
      rw [hposition]
      rfl
    unfold Run.SafeAt
    rw [hadd]
    exact .number fault
  | ok position =>
    obtain ⟨t, hspawn, hfounding, hterms⟩ := h.founding.turret hknown position place
    have hadd : addTurret count wandId place b = .ok () { b with
        sim := { b.sim with toStage := t }
        turrets := b.turrets ++ [b.sim.world.nextId] } := by
      refine Run.bind_apply_of_ok (Run.within_eq_ok.2 ⟨_, Run.within_eq_ok.2
        ⟨t, (Run.bind_apply_of_ok (Run.get_apply _) _).trans ?_, rfl⟩, rfl⟩) _
      rw [hposition]
      exact hspawn
    unfold Run.SafeAt
    rw [hadd]
    exact {
      wands := h.wands
      spans := h.spans
      rules := (congrArg (·.2.1) hterms).trans h.rules
      selected := h.selected
      idle := h.idle
      notes := h.notes.trans (congrArg (·.2.2.2) hterms).symm
      founding := hfounding
      count := by rw [List.length_append, h.count]; rfl }

theorem addTurrets_safeAt {built : Nat} (h : b.Building wandIds width built) (count : Nat)
    {places : List (String × Nat)}
    (hknown : ∀ place ∈ places,
      (Catalog.standardWands : Registry (Wand α)).contains place.1 = true) :
    Run.SafeAt (Building wandIds width (built + places.length)) Fault.Numeric b
      (places.forM fun (id, place) => addTurret count id place) := by
  induction places generalizing built b with
  | nil => exact h
  | cons place rest ih =>
    obtain ⟨hfirst, hrest⟩ := List.forall_mem_cons.1 hknown
    refine (addTurret_safeAt h hfirst count place.2).bind_of fun _ c hc => ?_
    rw [List.length_cons, Nat.add_comm rest.length, ← Nat.add_assoc]
    exact ih hc hrest

theorem renew_safeAt (h : b.Equipped wandIds width) :
    Run.SafeAt (Building wandIds width 0) Fault.Numeric b renew where
  wands := h.wands
  spans := h.spans
  rules := h.rules
  selected := h.selected
  idle := rfl
  notes := rfl
  founding := by
    dsimp only
    rw [h.rules]
    exact Stage.founding_start (show (5 : Int) ≤ 256 by decide) rfl _ _ _
  count := rfl

/-! ### Staying in service -/

/-- Each wand has its turret, a turret is selected, and the notes on casts are as shown. -/
structure InService (wandIds : List String) (width : Int) (b : Sandbox α) : Prop
    extends b.Equipped wandIds width where
  idle : b.sim.waiting.entries = []
  notes : b.debugCasts = b.sim.traced
  staffed : b.sim.Staffed b.turrets
  full : b.turrets.length = wandIds.length
  chosen : b.selected < wandIds.length

theorem InService.of_stage (h : b.InService wandIds width) (stage : Stage α)
    (hbackdrop : stage.backdrop = b.sim.backdrop) (hworld : stage.world = b.sim.world)
    (hagenda : stage.agenda = b.sim.agenda) {notes : Bool} (hnotes : notes = stage.traced) :
    InService wandIds width
      { b with sim := { b.sim with toStage := stage }, debugCasts := notes } where
  wands := h.wands
  spans := h.spans
  rules := (congrArg Backdrop.rules hbackdrop).trans h.rules
  selected := h.selected
  idle := h.idle
  notes := hnotes
  staffed := h.staffed.of_same hbackdrop hworld hagenda
  full := h.full
  chosen := h.chosen

theorem log_safe (record : Record α) :
    Run.Safe (InService wandIds width) Fault.Numeric (onStage (Stage.log record)) :=
  fun b h => h.of_stage { b.sim.toStage with journal := b.sim.journal.push record } rfl rfl rfl
    h.notes

/-- A restart puts a sandbox into service. -/
theorem restart_safeAt (hsome : wandIds ≠ [])
    (hknown : ∀ id ∈ wandIds, (Catalog.standardWands : Registry (Wand α)).contains id = true)
    (h : b.Equipped wandIds width) :
    Run.SafeAt (InService wandIds width) Fault.Numeric b restart := by
  unfold restart
  refine (renew_safeAt h).bind_of fun _ c hc => Run.SafeAt.get_bind ?_
  rw [hc.wands]
  have hplaces : ∀ place ∈ wandIds.zipIdx,
      (Catalog.standardWands : Registry (Wand α)).contains place.1 = true :=
    fun place hplace => hknown _ (List.fst_mem_of_mem_zipIdx hplace)
  refine (addTurrets_safeAt hc _ hplaces).bind_of fun _ d hd => ?_
  have hlength := List.length_pos_iff.2 hsome
  have hselect : Run.SafeAt (InService wandIds width) Fault.Numeric d
      (modify fun b => { b with selected := min b.selected (wandIds.length - 1) }) := {
    wands := hd.wands
    spans := hd.spans
    rules := hd.rules
    selected := by
      have := hd.selected
      dsimp only
      omega
    idle := hd.idle
    notes := hd.notes
    staffed := hd.founding.toStaffed
    full := by
      rw [hd.count, List.length_zipIdx, Nat.zero_add]
    chosen := by
      dsimp only
      omega }
  exact hselect.bind_of fun _ e he => Run.SafeAt.get_bind (log_safe _ e he)

/-- The notes on casts and what the sandbox shows of them are turned on or off together. -/
theorem toggleNotes_safe : Run.Safe (InService wandIds width) Fault.Numeric
    (toggleNotes : Run (Sandbox α) Unit) := by
  intro b h
  let on := !b.sim.traced
  exact h.of_stage { b.sim.toStage with
    traced := on
    journal := b.sim.journal.push (.castLogs on) } rfl rfl rfl rfl

section Service
variable (hsome : wandIds ≠ [])
  (hknown : ∀ id ∈ wandIds, (Catalog.standardWands : Registry (Wand α)).contains id = true)
include hsome hknown

theorem press_safe (key : Key) :
    Run.Safe (InService wandIds width) Fault.Numeric (press key : Run (Sandbox α) Unit) := by
  unfold press
  split
  case h_1 place hplace =>
    refine .modify fun b h => ?_
    split
    case isTrue hlt =>
      exact { h with
        selected := Int.natCast_nonneg place
        chosen := Int.ofNat_lt.2 (h.full ▸ hlt) }
    case isFalse => exact h
  case h_2 =>
    split
    · exact .modify fun b h => { h with }
    · exact toggleNotes_safe
    · exact .modify fun b h => { h with }
    · exact fun b h => restart_safeAt hsome hknown h.toEquipped
    · exact .pure _

/-- **No key takes a sandbox out of service**, and none stops it but by arithmetic. -/
theorem pressAll_safe (keys : List Key) :
    Run.Safe (InService wandIds width) Fault.Numeric (pressAll keys : Run (Sandbox α) Unit) := by
  induction keys with
  | nil => exact .pure _
  | cons key rest ih =>
    unfold pressAll
    split
    · exact .pure _
    split
    · exact .modify fun b h => { h with }
    · exact .bind (press_safe hsome hknown key) fun _ => ih

end Service

/-- A tick leaves the turrets in their places with their wands. -/
theorem step_safeAt {sim : Simulation α} {turrets : List Int} (hsome : turrets ≠ [])
    (hidle : sim.waiting.entries = []) (h : sim.Staffed turrets) :
    Run.SafeAt (fun sim' => sim'.waiting.entries = [] ∧ sim'.terms = sim.terms ∧
      sim'.Staffed turrets) Fault.Numeric sim Simulation.step := by
  have hstands (id : Int) (hid : id ∈ turrets) : sim.Holds id := ⟨hidle, h.fixtures id hid⟩
  have hmeets : Run.SafeAt (fun sim' : Simulation α => sim'.Meets .validated turrets)
      Fault.Numeric sim Simulation.step := Standard.validated_lasts.step sim h.meets
  unfold Run.SafeAt at hmeets ⊢
  cases hstep : Simulation.step sim with
  | error fault sim' =>
    rw [hstep] at hmeets
    exact hmeets
  | ok _ sim' =>
    rw [hstep] at hmeets
    have hterms : sim'.terms = sim.terms := Simulation.step_unaltered.of_ok hstep
    have hstood (id : Int) (hid : id ∈ turrets) : sim'.Holds id :=
      (Simulation.step_stands id).of_ok hstep (hstands id hid)
    obtain ⟨id, hid⟩ := List.exists_mem_of_ne_nil turrets hsome
    exact ⟨(hstood id hid).idle, hterms, (congrArg (·.1) hterms).trans h.catalog, hmeets,
      fun id hid => (hstood id hid).fixture⟩

/-- **No tick takes a sandbox out of service**, and none stops it but by arithmetic. -/
theorem update_safe (hsome : wandIds ≠ []) :
    Run.Safe (InService wandIds width) Fault.Numeric (update : Run (Sandbox α) Unit) := by
  refine .get_bind fun b h => ?_
  split
  · exact h
  have hturrets : b.turrets ≠ [] := by
    rw [← List.length_pos_iff, h.full, List.length_pos_iff]
    exact hsome
  refine .within (step_safeAt hturrets h.idle h.staffed) fun sim hsim => ?_
  obtain ⟨hidle, hterms, hstaffed⟩ := hsim
  exact { h with
    rules := (congrArg (·.2.1) hterms).trans h.rules
    idle := hidle
    notes := h.notes.trans (congrArg (·.2.2.2) hterms).symm
    staffed := hstaffed }

/-- Where a sandbox starts, it starts in service. -/
theorem start_inService (hsome : wandIds ≠ [])
    (hknown : ∀ id ∈ wandIds, (Catalog.standardWands : Registry (Wand α)).contains id = true)
    {canvas : Canvas} {seed : Option Int} {spareSeed : Int} {debugCasts : Bool}
    (h : start canvas wandIds seed spareSeed debugCasts = .ok b) :
    b.InService wandIds canvas.width := by
  have hblank : Equipped wandIds canvas.width
      (blank canvas wandIds seed spareSeed debugCasts : Sandbox α) := ⟨rfl, rfl, rfl, Int.le_refl 0⟩
  have hrestart := restart_safeAt hsome hknown hblank
  unfold start at h
  split at h
  case h_1 b' hend =>
    cases h
    exact hrestart.of_ok hend
  case h_2 => cases h

end Sandbox
end WandArena
