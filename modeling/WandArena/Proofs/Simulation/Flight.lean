import WandArena.Proofs.Simulation.Launch

/-! What becomes of a projectile that is launched.

`Stage.Flies` says what is worked out for a projectile, and `launched` what that makes of the stage.
A cast resolves and discards its hand (`prepare`), launches its projectiles one after another
(`Volley`) and rearms its wand. The projectiles get the numbers that come next (`Volley.ids`) and
their ends are scheduled (`Volley.schedules`); beside them, nobody comes or goes (`calm`) or carries
anything else than before (`Volley.others`). What a projectile is launched with it still carries
when the cast is over (`carries_of_launched`). -/
namespace WandArena
variable {α β : Type}

/-- The end of an entity. -/
def Action.despawns (id : Int) (action : Action) : Bool :=
  action.kind == .despawnEntity && action.entity == id

theorem Action.despawns_despawnEntity (id other : Int) :
    (Action.despawnEntity id).despawns other = decide (id = other) := by
  rw [Bool.eq_iff_iff, decide_eq_true_iff]
  simp [Action.despawns, Action.despawnEntity]

theorem Action.despawns_of_kind {action : Action} (h : action.kind ≠ .despawnEntity) (id : Int) :
    action.despawns id = false := by
  rw [Action.despawns, beq_eq_false_iff_ne.2 h, Bool.false_and]

theorem Action.despawns_shootWand (holder id : Int) :
    (Action.shootWand holder).despawns id = false :=
  despawns_of_kind (show ActionKind.shootWand ≠ .despawnEntity from nofun) id

/-- Tasks of other sorts do not count. -/
theorem Agenda.ticks_schedule_of_not {τ : Type} (agenda : Agenda τ) (tick : Int) {task : τ}
    {sort : τ → Bool} (h : sort task = false) :
    (agenda.schedule tick task).ticks sort = agenda.ticks sort := by
  have hinsert (entries : List (Int × τ)) :
      (insertEntry tick task entries).filter (fun entry => sort entry.2) =
        entries.filter fun entry => sort entry.2 := by
    induction entries with
    | nil => simp only [insertEntry, List.filter_cons, h, Bool.false_eq_true, if_false]
    | cons entry rest ih =>
      unfold insertEntry
      split
      · rw [List.filter_cons, List.filter_cons, ih]
      · simp only [List.filter_cons, h, Bool.false_eq_true, if_false]
  exact congrArg (List.map _) (hinsert agenda.entries)

namespace World

theorem get?_put_other (w : World α) (j k : ComponentKind) {id other : Int} (h : other ≠ id)
    (value : j.Value α) : (w.put j id value).get? k other = w.get? k other := by
  by_cases hkind : k = j
  · subst hkind
    rw [get?_put, if_neg h]
  · exact get?_put_of_ne w hkind id other value

/-- A new entity changes nothing for the others. -/
theorem get?_create_of_ne (w : World α) (components : List (Component α)) (k : ComponentKind)
    {other : Int} (h : other ≠ w.nextId) :
    (w.create components).2.get? k other = w.get? k other := by
  have hputs (v : World α) :
      (components.foldl (fun v c => v.put c.kind w.nextId c.value) v).get? k other =
        v.get? k other := by
    induction components generalizing v with
    | nil => rfl
    | cons c rest ih => rw [List.foldl_cons, ih, get?_put_other v c.kind k h]
  exact hputs _

/-- Many puts leave the components of every other kind alone. -/
theorem get?_putAll_of_kind (components : List (Component α)) (v : World α) (id other : Int)
    {k : ComponentKind} (h : k ∉ components.map (·.kind)) :
    (components.foldl (fun v c => v.put c.kind id c.value) v).get? k other = v.get? k other := by
  induction components generalizing v with
  | nil => rfl
  | cons c rest ih =>
    rw [List.map_cons, List.mem_cons, not_or] at h
    exact (ih _ h.2).trans (get?_put_of_ne v h.1 _ _ _)

/-- A new entity brings in components of its own kinds only. -/
theorem get?_create_of_kind (w : World α) {components : List (Component α)} {k : ComponentKind}
    (h : k ∉ components.map (·.kind)) (other : Int) :
    (w.create components).2.get? k other = w.get? k other :=
  (get?_putAll_of_kind components _ w.nextId other h).trans (by cases k <;> rfl)

/-- A new entity carries what it was created with. -/
theorem get?_create_self (w : World α) (components : List (Component α))
    (hkinds : (components.map (·.kind)).Nodup) {c : Component α} (hc : c ∈ components) :
    (w.create components).2.get? c.kind w.nextId = some c.value := by
  have hputs (v : World α) :
      (components.foldl (fun v c => v.put c.kind w.nextId c.value) v).get? c.kind w.nextId =
        some c.value := by
    induction components generalizing v with
    | nil => cases hc
    | cons d rest ih =>
      rw [List.map_cons, List.nodup_cons] at hkinds
      rcases List.mem_cons.1 hc with rfl | hrest
      · refine (get?_putAll_of_kind rest _ _ _ hkinds.1).trans ?_
        rw [get?_put, if_pos rfl]
      · exact ih hkinds.2 hrest _
  exact hputs _

end World

/-! ### Launching one projectile -/

/-- What is worked out for a projectile when it is launched. -/
structure Flight (α : Type) where
  id : Int
  blueprint : Blueprint α
  stats : FullStats α
  /-- Where it starts, seen from its caster. -/
  offset : Vec α
  direction : α
  along : α
  across : α
  low : α
  high : α
  /-- The ticks until its end, or -1 if it never expires by itself. -/
  lifetime : Int

/-- What is scheduled for a projectile that is launched at a tick. -/
def Flight.due (tick : Int) (f : Flight α) : List (Int × Action) :=
  if f.lifetime = -1 then [] else [(tick + f.lifetime, .despawnEntity f.id)]

namespace Flight
variable [Scalar α]

/-- What a projectile is created with. -/
def components (f : Flight α) (muzzle : Stage.Muzzle α) (shot : Shot α (Cast α)) :
    List (Component α) :=
  Stage.shotComponents muzzle f.blueprint f.stats
    ⟨muzzle.origin.x + f.offset.x, muzzle.origin.y + f.offset.y⟩
    ⟨f.along * f.stats.speed, f.across * f.stats.speed⟩ f.direction shot.continuation

variable (f : Flight α) (muzzle : Stage.Muzzle α) (shot : Shot α (Cast α))

theorem nodup_components : ((f.components muzzle shot).map (·.kind)).Nodup := by
  show [ComponentKind.position, .velocity, .rotation, .look, .projectile, .projectileTag].Nodup
  decide

theorem projectile_mem_components :
    (⟨.projectile, {
      damage := f.stats.damage, bounces := f.stats.bounces, owner := muzzle.owner
      blueprint := some f.blueprint.id, continuation := shot.continuation }⟩ : Component α) ∈
      f.components muzzle shot := by
  simp only [components, Stage.shotComponents, List.mem_cons, true_or, or_true]

end Flight

namespace Stage
variable [Scalar α]

/-- This is worked out for a projectile of a cast that is launched from this stage. -/
structure Flies (s : Stage α) (muzzle : Muzzle α) (spread : α) (castStats : Stats α)
    (shot : Shot α (Cast α)) (f : Flight α) : Prop where
  id : f.id = s.world.nextId
  blueprint : s.catalog.blueprint shot.blueprint = .ok f.blueprint
  stats : flightStats s.rules castStats f.blueprint = .ok f.stats
  offset : shot.position.rotate muzzle.facing = .ok f.offset
  direction :
    let jitter := Quantity.greatest Quantity.zero (spread + f.stats.spread)
    normalizeAngle (muzzle.facing + shot.direction + between (-jitter) jitter s.dice.roll.1) =
      .ok f.direction
  along : Scalar.cos f.direction = .ok f.along
  across : Scalar.sin f.direction = .ok f.across
  ends : f.stats.lifetime.ends? = some (f.low, f.high)
  lifetime : Scalar.floor (between f.low f.high (s.dice.roll (α := α)).2.roll.1) = .ok f.lifetime

/-- The stage with the new projectile, before its end is scheduled. -/
def bearing (s : Stage α) (muzzle : Muzzle α) (shot : Shot α (Cast α)) (f : Flight α) : Stage α :=
  { s with
    world := (s.world.create (f.components muzzle shot)).2
    dice := ((s.dice.roll : α × Twister).2.roll : α × Twister).2 }

/-- The stage after a projectile was launched. -/
def launched (s : Stage α) (muzzle : Muzzle α) (shot : Shot α (Cast α)) (f : Flight α) : Stage α :=
  Run.left (scheduleEnd f.id f.lifetime (s.bearing muzzle shot f))

variable {muzzle : Muzzle α} {spread : α} {castStats : Stats α} {shot : Shot α (Cast α)}
  {s t u : Stage α}

omit [Scalar α] in
theorem findBlueprint_eq_ok {id : String} {blueprint : Blueprint α} :
    findBlueprint id s = .ok blueprint t ↔ s.catalog.blueprint id = .ok blueprint ∧ t = s :=
  Run.lift_eq_ok

/-- A projectile that is launched flies. -/
theorem launchOne_eq_ok {id : Int} (h : launchOne muzzle spread castStats shot s = .ok id t) :
    ∃ f, s.Flies muzzle spread castStats shot f ∧ id = f.id ∧ t = s.launched muzzle shot f := by
  obtain ⟨blueprint, _, hfind, hmerging⟩ := Run.bind_eq_ok.1 h
  obtain ⟨hblueprint, rfl⟩ := findBlueprint_eq_ok.1 hfind
  obtain ⟨_, _, hget, hlifting⟩ := Run.bind_eq_ok.1 hmerging
  cases hget
  obtain ⟨stats, _, hflight, hrotating⟩ := Run.bind_eq_ok.1 hlifting
  obtain ⟨hstats, rfl⟩ := Run.lift_eq_ok.1 hflight
  obtain ⟨offset, _, hrotate, hrolling⟩ := Run.bind_eq_ok.1 hrotating
  obtain ⟨hoffset, rfl⟩ := Run.number_eq_ok.1 hrotate
  obtain ⟨deviation, _, hroll, hturning⟩ := Run.bind_eq_ok.1 hrolling
  cases hroll
  obtain ⟨direction, _, hturn, hmoving⟩ := Run.bind_eq_ok.1 hturning
  obtain ⟨hdirection, rfl⟩ := Run.number_eq_ok.1 hturn
  obtain ⟨along, _, hcos, hcrossing⟩ := Run.bind_eq_ok.1 hmoving
  obtain ⟨halong, rfl⟩ := Run.number_eq_ok.1 hcos
  obtain ⟨across, _, hsin, hcreating⟩ := Run.bind_eq_ok.1 hcrossing
  obtain ⟨hacross, rfl⟩ := Run.number_eq_ok.1 hsin
  obtain ⟨_, _, hcreate, hending⟩ := Run.bind_eq_ok.1 hcreating
  cases hcreate
  obtain ⟨⟨low, high⟩, _, hfound, hrolling'⟩ := Run.bind_eq_ok.1 hending
  obtain ⟨hends, rfl⟩ := Run.found_eq_ok.1 hfound
  obtain ⟨roll, _, hroll', hrounding⟩ := Run.bind_eq_ok.1 hrolling'
  cases hroll'
  obtain ⟨lifetime, _, hfloor, hscheduling⟩ := Run.bind_eq_ok.1 hrounding
  obtain ⟨hlifetime, rfl⟩ := Run.number_eq_ok.1 hfloor
  obtain ⟨_, last, hend, hpure⟩ := Run.bind_eq_ok.1 hscheduling
  cases hpure
  refine ⟨⟨_, blueprint, stats, offset, direction, along, across, low, high, lifetime⟩,
    ⟨rfl, hblueprint, hstats, hoffset, hdirection, halong, hacross, hends, hlifetime⟩, rfl, ?_⟩
  exact (congrArg Run.left hend).symm

omit [Scalar α] in
theorem scheduleEnd_apply (id lifetime : Int) (s : Stage α) :
    scheduleEnd id lifetime s = .ok () (Run.left (scheduleEnd id lifetime s)) := by
  unfold scheduleEnd
  split <;> rfl

/-- A projectile that flies is launched. -/
theorem Flies.launchOne {f : Flight α} (h : s.Flies muzzle spread castStats shot f) :
    launchOne muzzle spread castStats shot s = .ok f.id (s.launched muzzle shot f) := by
  obtain ⟨_, blueprint, stats, offset, direction, along, across, low, high, lifetime⟩ := f
  obtain ⟨hid, hblueprint, hstats, hoffset, hdirection, halong, hacross, hends, hlifetime⟩ := h
  cases hid
  refine Run.bind_eq_ok.2 ⟨_, _, findBlueprint_eq_ok.2 ⟨hblueprint, rfl⟩, ?_⟩
  refine Run.bind_eq_ok.2 ⟨_, _, rfl, ?_⟩
  refine Run.bind_eq_ok.2 ⟨_, _, Run.lift_eq_ok.2 ⟨hstats, rfl⟩, ?_⟩
  refine Run.bind_eq_ok.2 ⟨_, _, Run.number_eq_ok.2 ⟨hoffset, rfl⟩, ?_⟩
  refine Run.bind_eq_ok.2 ⟨_, _, rfl, ?_⟩
  refine Run.bind_eq_ok.2 ⟨_, _, Run.number_eq_ok.2 ⟨hdirection, rfl⟩, ?_⟩
  refine Run.bind_eq_ok.2 ⟨_, _, Run.number_eq_ok.2 ⟨halong, rfl⟩, ?_⟩
  refine Run.bind_eq_ok.2 ⟨_, _, Run.number_eq_ok.2 ⟨hacross, rfl⟩, ?_⟩
  refine Run.bind_eq_ok.2 ⟨_, _, rfl, ?_⟩
  refine Run.bind_eq_ok.2 ⟨_, _, Run.found_eq_ok.2 ⟨hends, rfl⟩, ?_⟩
  refine Run.bind_eq_ok.2 ⟨_, _, rfl, ?_⟩
  refine Run.bind_eq_ok.2 ⟨_, _, Run.number_eq_ok.2 ⟨hlifetime, rfl⟩, ?_⟩
  exact Run.bind_eq_ok.2 ⟨(), _, scheduleEnd_apply _ _ _, rfl⟩

/-- Content stops a projectile from being launched before anything has changed. -/
theorem launchOne_stopped {fault : ConfigFault}
    (h : launchOne muzzle spread castStats shot s = .error (.config fault) t) : t = s := by
  cases hblueprint : s.catalog.blueprint shot.blueprint with
  | error missing =>
    have hfind : findBlueprint shot.blueprint s = .error missing s :=
      Run.lift_eq_error.2 ⟨hblueprint, rfl⟩
    cases (Run.bind_apply_of_error hfind _).symm.trans h
    rfl
  | ok blueprint =>
    cases hstats : flightStats s.rules castStats blueprint with
    | error unmerged =>
      have hfind : findBlueprint shot.blueprint s = .ok blueprint s :=
        findBlueprint_eq_ok.2 ⟨hblueprint, rfl⟩
      have hlift : Run.lift (flightStats s.rules castStats blueprint) s = .error unmerged s :=
        Run.lift_eq_error.2 ⟨hstats, rfl⟩
      unfold launchOne at h
      rw [Run.bind_apply_of_ok hfind, Run.bind_apply_of_ok (Run.get_apply s),
        Run.bind_apply_of_error hlift] at h
      cases h
      rfl
    | ok stats =>
      have hsafe : Run.SafeAt (fun _ => True) (· ≠ .config fault) s
          (launchOne muzzle spread castStats shot) := by
        refine launchOne_safeAt (fun _ => nofun) (fun _ hmissing => ?_) (fun _ _ hfound hfail => ?_)
          fun _ _ _ _ _ => nofun
        · cases hblueprint.symm.trans hmissing
        · cases hblueprint.symm.trans hfound
          cases hstats.symm.trans hfail
      exact absurd rfl (hsafe.of_error h)

/-! ### Launching one projectile after another -/

/-- These projectiles are launched in a row, and fly like this. -/
inductive Volley (muzzle : Muzzle α) (spread : α) (castStats : Stats α) :
    List (Shot α (Cast α)) → Stage α → List (Flight α) → Stage α → Prop
  | nil {s : Stage α} : Volley muzzle spread castStats [] s [] s
  | cons {shot : Shot α (Cast α)} {shots : List (Shot α (Cast α))} {s t : Stage α} {f : Flight α}
    {flights : List (Flight α)} (hflies : s.Flies muzzle spread castStats shot f)
    (hrest : Volley muzzle spread castStats shots (s.launched muzzle shot f) flights t) :
    Volley muzzle spread castStats (shot :: shots) s (f :: flights) t

theorem launched_mapM {shots : List (Shot α (Cast α))} {ids : List Int}
    (h : shots.mapM (launchOne muzzle spread castStats) s = .ok ids t) :
    ∃ flights, Volley muzzle spread castStats shots s flights t ∧ ids = flights.map (·.id) := by
  induction shots generalizing s ids with
  | nil =>
    cases h
    exact ⟨[], .nil, rfl⟩
  | cons shot rest ih =>
    rw [List.mapM_cons] at h
    obtain ⟨id, mid, hone, hrest⟩ := Run.bind_eq_ok.1 h
    obtain ⟨more, last, hmore, hpure⟩ := Run.bind_eq_ok.1 hrest
    cases hpure
    obtain ⟨f, hflies, rfl, rfl⟩ := launchOne_eq_ok hone
    obtain ⟨flights, hvolley, rfl⟩ := ih hmore
    exact ⟨f :: flights, .cons hflies hvolley, rfl⟩

theorem Volley.mapM {shots : List (Shot α (Cast α))} {flights : List (Flight α)}
    (h : Volley muzzle spread castStats shots s flights t) :
    shots.mapM (Stage.launchOne muzzle spread castStats) s = .ok (flights.map (·.id)) t := by
  induction h with
  | nil => rfl
  | cons hflies _ ih =>
    rw [List.mapM_cons, Run.bind_apply_of_ok hflies.launchOne, Run.bind_apply_of_ok ih]
    rfl

/-- Where content stops the launching, those before the projectile that it stops are on their
way. -/
theorem mapM_stopped_at {shots : List (Shot α (Cast α))} {fault : ConfigFault}
    (h : shots.mapM (launchOne muzzle spread castStats) s = .error (.config fault) t) :
    ∃ sent shot rest flights, shots = sent ++ shot :: rest ∧
      Volley muzzle spread castStats sent s flights t ∧
      launchOne muzzle spread castStats shot t = .error (.config fault) t := by
  induction shots generalizing s with
  | nil => cases h
  | cons shot rest ih =>
    rw [List.mapM_cons] at h
    rcases Run.bind_eq_error.1 h with hone | ⟨id, mid, hone, hrest⟩
    · obtain rfl := launchOne_stopped hone
      exact ⟨[], shot, rest, [], rfl, .nil, hone⟩
    · rcases Run.bind_eq_error.1 hrest with hmore | ⟨_, _, _, hpure⟩
      · obtain ⟨f, hflies, -, rfl⟩ := launchOne_eq_ok hone
        obtain ⟨sent, stopped, rest', flights, rfl, hvolley, hstopped⟩ := ih hmore
        exact ⟨shot :: sent, stopped, rest', f :: flights, rfl, .cons hflies hvolley, hstopped⟩
      · cases hpure

/-- Where content stops the launching, some projectiles are on their way already. -/
theorem launched_mapM_stopped {shots : List (Shot α (Cast α))} {fault : ConfigFault}
    (h : shots.mapM (launchOne muzzle spread castStats) s = .error (.config fault) t) :
    ∃ sent flights, sent <+: shots ∧ Volley muzzle spread castStats sent s flights t := by
  obtain ⟨sent, shot, rest, flights, rfl, hvolley, -⟩ := mapM_stopped_at h
  exact ⟨sent, flights, List.prefix_append _ _, hvolley⟩

/-! ### Casting around a launch -/

/-- What a cast does before it launches anything: it resolves, and the hand is discarded. -/
def prepare (holder : Int) : Run (Stage α) (Wand α × Cast α) := do
  let wand ← findWand (← holderOf holder).wand
  let (cast, fault) ← resolveDraw holder 0 { Cast.fresh with castDelay := wand.castDelay }
  match fault with
  | some fault => throw fault
  | none =>
    onWand holder WandState.discardHand
    return (wand, cast)

/-- A cast is prepared, launched and rearmed. -/
theorem castWand_eq (holder : Int) :
    (castWand holder : Run (Stage α) (Cast α)) = (prepare holder >>= fun prepared =>
      launch prepared.1 prepared.2 holder >>= fun _ =>
        rearm prepared.1 prepared.2 holder >>= fun _ => pure prepared.2) := by
  unfold castWand prepare
  simp only [bind_assoc]
  refine bind_congr fun held => bind_congr fun wand => bind_congr fun resolved => ?_
  obtain ⟨cast, fault⟩ := resolved
  cases fault with
  | some fault => rfl
  | none => simp only [bind_assoc, pure_bind]

/-- Until it launches anything, a cast writes into the journal and changes the state of the wand
that is cast. -/
theorem prepare_keeps {F : Run.Frame (Stage α)} {holder : Int}
    (hjournal : ∀ s journal, F.Allows s { s with journal })
    (hhold : ∀ s held state, s.world.get? .holder holder = some held →
      F.Allows s (s.holding holder { held with state })) :
    Run.Keeps F (prepare holder : Run (Stage α) (Wand α × Cast α)) := by
  refine .bind (holderOf_keeps _) fun held => .bind (findWand_keeps _) fun wand => ?_
  refine .bind ?_ fun (cast, fault) => ?_
  · refine .bind (holderOf_keeps _) fun held => .bind (findWand_keeps _) fun wand => ?_
    refine .get_bind fun s => Run.Keeps.bind (onWand_keeps_held hhold _) (fun _ => ?_) s
    exact .bind (noteAll_keeps_of hjournal _) fun _ => .pure _
  · cases fault with
    | some fault => exact .throw fault
    | none => exact .bind (onWand_keeps_held hhold _) fun _ => .pure _

/-- What casting a wand does to a stage beside launching lies within the frame. -/
structure LetsCast (F : Run.Frame (Stage α)) (holder : Int) : Prop where
  journal : ∀ s journal, F.Allows s { s with journal }
  /-- The holder may hold its wand in another state. -/
  hold : ∀ s held, s.world.has .holder holder = true →
    F.Allows s { s with world := s.world.put .holder holder held }
  /-- The next cast may be scheduled. -/
  arm : ∀ s tick,
    F.Allows s { s with agenda := s.agenda.schedule tick (.shootWand holder) }

namespace LetsCast
variable {F : Run.Frame (Stage α)} {holder : Int}

omit [Scalar α] in
theorem log (hF : LetsCast F holder) (record : Record α) : Run.Keeps F (log record) :=
  .modify fun s => hF.journal s _

omit [Scalar α] in
theorem noteAll (hF : LetsCast F holder) (notes : Array (CastNote α)) :
    Run.Keeps F (noteAll notes) :=
  noteAll_keeps_of hF.journal notes

omit [Scalar α] in
theorem rearm (hF : LetsCast F holder) (wand : Wand α) (cast : Cast α) :
    Run.Keeps F (rearm wand cast holder) := by
  have hschedule (delay : Int) : Run.Keeps F (scheduleCast delay holder : Run (Stage α) Unit) :=
    .modify fun s => hF.arm s _
  refine .bind (holderOf_keeps _) fun held => .bind (hF.noteAll _) fun _ => ?_
  split
  · refine .bind (hF.noteAll _) fun _ => .bind (hschedule _) fun _ => ?_
    exact onWand_keeps_of hF.hold _
  · exact hschedule _

theorem prepare (hF : LetsCast F holder) :
    Run.Keeps F (prepare holder : Run (Stage α) (Wand α × Cast α)) :=
  prepare_keeps hF.journal fun s _ _ hget =>
    hF.hold s _ (World.has_of_get? hget)

theorem castWand (hF : LetsCast F holder)
    (hlaunch : ∀ wand cast, Run.Keeps F (launch wand cast holder)) :
    Run.Keeps F (castWand holder) := by
  rw [castWand_eq]
  refine .bind hF.prepare fun (wand, cast) => .bind (hlaunch _ _) fun _ => ?_
  exact .bind (hF.rearm _ _) fun _ => .pure _

end LetsCast

/-! ### The stage after a launch -/

theorem world_launched (f : Flight α) :
    (s.launched muzzle shot f).world = (s.world.create (f.components muzzle shot)).2 := by
  unfold launched scheduleEnd
  split
  · show (if s.traced = true then _ else _ : Stage α).world = _
    split <;> rfl
  · rfl

theorem agenda_launched (f : Flight α) :
    (s.launched muzzle shot f).agenda =
      if f.lifetime = -1 then s.agenda
      else s.agenda.schedule (s.tick + f.lifetime) (.despawnEntity f.id) := by
  unfold launched scheduleEnd
  split
  · show (if s.traced = true then _ else _ : Stage α).agenda = _
    split <;> rfl
  · rfl

/-- What is scheduled for a projectile that is launched. -/
theorem schedules_launched (f : Flight α) :
    (s.launched muzzle shot f).agenda = s.agenda.scheduleAll (f.due s.tick) := by
  rw [agenda_launched, Flight.due]
  split <;> rfl

/-- What goes for all that is launched. -/
theorem backdrop_launched (s : Stage α) (muzzle : Muzzle α) (shot : Shot α (Cast α))
    (f : Flight α) : (s.launched muzzle shot f).backdrop = s.backdrop ∧
      (s.launched muzzle shot f).tick = s.tick := by
  unfold launched scheduleEnd
  split
  · show (if s.traced = true then _ else _ : Stage α).backdrop = _ ∧
      (if s.traced = true then _ else _ : Stage α).tick = _
    split <;> exact ⟨rfl, rfl⟩
  · exact ⟨rfl, rfl⟩

theorem nextId_launched (f : Flight α) :
    (s.launched muzzle shot f).world.nextId = s.world.nextId + 1 := by
  rw [world_launched]
  exact (Census.mk.inj (s.world.census_create shotComponents_kind)).1

/-- Whoever was there before carries the same as before, apart from wands. -/
structure Wears (s t : Stage α) : Prop where
  nextId : s.world.nextId ≤ t.world.nextId
  same : ∀ id k, id < s.world.nextId → k ≠ .holder → t.world.get? k id = s.world.get? k id

omit [Scalar α] in
theorem Wears.of_world (h : t.world = s.world) : Wears s t :=
  ⟨Int.le_of_eq (by rw [h]), fun _ _ _ _ => by rw [h]⟩

/-- The frame of `Wears`. -/
def wears : Run.Frame (Stage α) where
  Allows := Wears
  refl := fun _ => .of_world rfl
  trans := fun h h' => ⟨Int.le_trans h.nextId h'.nextId, fun id k hid hk =>
    (h'.same id k (Int.lt_of_lt_of_le hid h.nextId) hk).trans (h.same id k hid hk)⟩

omit [Scalar α] in
theorem letsCast_wears (holder : Int) : LetsCast (wears (α := α)) holder where
  journal := fun _ _ => Wears.of_world rfl
  hold := fun s held _ => ⟨Int.le_refl _, fun _ _ _ hk => s.world.get?_put_of_ne hk holder _ held⟩
  arm := fun _ _ => Wears.of_world rfl

namespace Volley
variable {shots : List (Shot α (Cast α))} {flights : List (Flight α)}

/-- A launch goes on alongside what it goes by. -/
theorem backdrop (h : Volley muzzle spread castStats shots s flights t) :
    t.backdrop = s.backdrop ∧ t.tick = s.tick := by
  induction h with
  | nil => exact ⟨rfl, rfl⟩
  | @cons shot _ s _ f _ _ _ ih =>
    obtain ⟨hbackdrop, htick⟩ := backdrop_launched s muzzle shot f
    exact ⟨ih.1.trans hbackdrop, ih.2.trans htick⟩

theorem wears (h : Volley muzzle spread castStats shots s flights t) : Wears s t := by
  induction h with
  | nil => exact .of_world rfl
  | @cons shot _ s _ f _ _ _ ih =>
    refine Stage.wears.trans (t := s.launched muzzle shot f) ⟨?_, fun id k hid _ => ?_⟩ ih
    · rw [nextId_launched]
      omega
    · rw [world_launched]
      exact s.world.get?_create_of_ne _ k (Int.ne_of_lt hid)

theorem nextId (h : Volley muzzle spread castStats shots s flights t) :
    t.world.nextId = s.world.nextId + shots.length := by
  induction h with
  | nil => exact (Int.add_zero _).symm
  | cons _ _ ih =>
    rw [ih, nextId_launched, List.length_cons]
    omega

theorem length (h : Volley muzzle spread castStats shots s flights t) :
    flights.length = shots.length := by
  induction h with
  | nil => rfl
  | cons _ _ ih => exact congrArg (· + 1) ih

theorem ids (h : Volley muzzle spread castStats shots s flights t) :
    flights.map (·.id) = (List.range shots.length).map fun (i : Nat) => s.world.nextId + i := by
  induction h with
  | nil => rfl
  | cons hflies _ ih =>
    rw [List.map_cons, ih, List.length_cons, List.range_succ_eq_map, List.map_cons, List.map_map,
      hflies.id, nextId_launched]
    refine congrArg₂ List.cons (Int.add_zero _).symm (List.map_congr_left fun i _ => ?_)
    show _ + 1 + (i : Int) = _ + ((i + 1 : Nat) : Int)
    omega

theorem nodup_ids (h : Volley muzzle spread castStats shots s flights t) :
    (flights.map (·.id)).Nodup := by
  rw [h.ids]
  refine List.Pairwise.map _ (fun i j hother hsame => hother ?_) List.nodup_range
  omega

/-- The numbers of the projectiles are those that came next. -/
theorem mem_ids (h : Volley muzzle spread castStats shots s flights t) {id : Int} :
    id ∈ flights.map (·.id) ↔ s.world.nextId ≤ id ∧ id < t.world.nextId := by
  rw [h.ids, h.nextId, List.mem_map]
  constructor
  · rintro ⟨i, hi, rfl⟩
    rw [List.mem_range] at hi
    omega
  · rintro ⟨hle, hlt⟩
    exact ⟨(id - s.world.nextId).toNat, List.mem_range.2 (by omega), by omega⟩

/-- The ends of the projectiles are scheduled in the order in which they are launched. -/
theorem schedules (h : Volley muzzle spread castStats shots s flights t) :
    t.agenda = s.agenda.scheduleAll (flights.flatMap (Flight.due s.tick)) := by
  induction h with
  | nil => rfl
  | @cons shot _ s _ f _ _ _ ih =>
    rw [ih, (backdrop_launched s muzzle shot f).2, schedules_launched, List.flatMap_cons,
      Agenda.scheduleAll_append]

/-- Whoever gets none of the new numbers carries the same as before. -/
theorem others (h : Volley muzzle spread castStats shots s flights t) {id : Int}
    (hid : id ∉ flights.map (·.id)) (k : ComponentKind) :
    t.world.get? k id = s.world.get? k id := by
  induction h with
  | nil => rfl
  | @cons shot _ s _ f _ hflies _ ih =>
    rw [List.map_cons, List.mem_cons, not_or, hflies.id] at hid
    rw [ih hid.2, world_launched]
    exact s.world.get?_create_of_ne _ k hid.1

/-- The launches before one projectile, its own, and those after it. -/
theorem split {before after : List (Shot α (Cast α))}
    (h : Volley muzzle spread castStats (before ++ shot :: after) s flights t) :
    ∃ u f earlier later, Volley muzzle spread castStats before s earlier u ∧
      u.Flies muzzle spread castStats shot f ∧
      Volley muzzle spread castStats after (u.launched muzzle shot f) later t := by
  induction before generalizing s flights with
  | nil =>
    cases h with
    | cons hflies hrest => exact ⟨s, _, [], _, .nil, hflies, hrest⟩
  | cons first rest ih =>
    cases h with
    | cons hfirst hrest =>
      obtain ⟨u, f, earlier, later, hbefore, hflies, hafter⟩ := ih hrest
      exact ⟨u, f, _, later, .cons hfirst hbefore, hflies, hafter⟩

end Volley

/-- When all is launched, a projectile carries what it was created with. -/
theorem carries_of_launched {f : Flight α} (hflies : s.Flies muzzle spread castStats shot f)
    (hwears : Wears (s.launched muzzle shot f) t) :
    ∀ c ∈ f.components muzzle shot, t.world.get? c.kind f.id = some c.value := by
  intro c hc
  have hid : f.id < (s.launched muzzle shot f).world.nextId := by
    rw [nextId_launched, hflies.id]
    omega
  rw [hwears.same f.id c.kind hid (shotComponents_kind c hc), world_launched, hflies.id]
  exact s.world.get?_create_self _ (f.nodup_components muzzle shot) hc

/-! ### A full cast -/

variable {holder : Int} {wand : Wand α} {cast : Cast α} {held : Holder α}

/-- A cast that ends well was prepared, launched and rearmed. -/
theorem castWand_launches (h : castWand holder s = .ok cast t) :
    ∃ wand u v flights, prepare holder s = .ok (wand, cast) u ∧
      Volley (muzzleOf u.world holder) wand.spread cast.stats cast.shots u flights v ∧
      rearm wand cast holder v = .ok () t := by
  rw [castWand_eq] at h
  obtain ⟨⟨wand, prepared⟩, u, hprepare, hlaunching⟩ := Run.bind_eq_ok.1 h
  obtain ⟨ids, v, hlaunch, hrearming⟩ := Run.bind_eq_ok.1 hlaunching
  obtain ⟨_, w, hrearm, hpure⟩ := Run.bind_eq_ok.1 hrearming
  cases hpure
  obtain ⟨flights, hvolley, -⟩ := launched_mapM hlaunch
  exact ⟨wand, u, v, flights, hprepare, hvolley, hrearm⟩

/-- A cast that content or limits stop is stopped while it is prepared or while it launches. -/
theorem castWand_config {fault : ConfigFault} (h : castWand holder s = .error (.config fault) t) :
    prepare holder s = .error (.config fault) t ∨
      ∃ wand cast u, prepare holder s = .ok (wand, cast) u ∧
        launch wand cast holder u = .error (.config fault) t := by
  rw [castWand_eq] at h
  rcases Run.bind_eq_error.1 h with hprepare | ⟨⟨wand, cast⟩, u, hprepare, hlaunching⟩
  · exact .inl hprepare
  rcases Run.bind_eq_error.1 hlaunching with hlaunch | ⟨_, _, _, hrearming⟩
  · exact .inr ⟨wand, cast, u, hprepare, hlaunch⟩
  rcases Run.bind_eq_error.1 hrearming with hrearm | ⟨_, _, _, hpure⟩
  · exact absurd hrearm rearm_ne_config
  · cases hpure

/-- A wielded wand is prepared as its cast resolves. -/
theorem Wields.prepare_eq_ok (h : s.Wields holder wand held) {found : Wand α}
    (hprepare : prepare holder s = .ok (found, cast) t) :
    found = wand ∧ cast = (s.resolution wand held).cast ∧ (s.resolution wand held).fault = none ∧
      Aside holder s t := by
  obtain ⟨resolved, hresolve, hwields, haside⟩ :=
    h.resolveDraw_apply 0 { Cast.fresh with castDelay := wand.castDelay }
  unfold prepare at hprepare
  rw [Run.bind_apply_of_ok (holderOf_eq_ok.2 ⟨h.holds, rfl⟩),
    Run.bind_apply_of_ok (findWand_eq_ok.2 ⟨h.defined, rfl⟩),
    Run.bind_apply_of_ok hresolve] at hprepare
  change (match (s.resolution wand held).fault with | some fault => _ | none => _ : Run _ _) _ = _
    at hprepare
  cases hfault : (s.resolution wand held).fault with
  | some fault =>
    rw [hfault] at hprepare
    cases hprepare
  | none =>
    rw [hfault] at hprepare
    obtain ⟨_, emptied, hdiscard, hpure⟩ := Run.bind_eq_ok.1 hprepare
    cases hpure
    obtain ⟨holding, state, hheld, -, rfl⟩ := onWand_eq_ok.1 hdiscard
    exact ⟨rfl, rfl, rfl, (aside holder).trans haside (.holding resolved holder _)⟩

/-! ### Who comes and goes -/

/-- Who is there, what time it is and for when ends are scheduled. -/
structure Roster where
  nextId : Int
  existing : Std.ExtTreeSet Int compare
  marked : Std.ExtTreeSet Int compare
  tick : Int
  ends : Int → List Int

def roster (s : Stage α) : Roster :=
  ⟨s.world.nextId, s.world.existing, s.world.marked, s.tick,
    fun id => s.agenda.ticks (Action.despawns id)⟩

/-- Nobody comes or goes, and nobody's end is scheduled. -/
abbrev calm : Run.Frame (Stage α) := .same roster

omit [Scalar α] in
theorem roster_schedule (s : Stage α) (tick holder : Int) :
    roster { s with agenda := s.agenda.schedule tick (.shootWand holder) } = s.roster := by
  have hends : (fun id => (s.agenda.schedule tick (.shootWand holder)).ticks (Action.despawns id)) =
      fun id => s.agenda.ticks (Action.despawns id) := by
    funext id
    exact s.agenda.ticks_schedule_of_not tick (Action.despawns_shootWand holder id)
  simp only [roster, hends]

omit [Scalar α] in
theorem letsCast_calm (holder : Int) : LetsCast (calm (α := α)) holder where
  journal := fun _ _ => rfl
  hold := fun _ _ _ => rfl
  arm := fun s tick => roster_schedule s tick holder

end Stage
end WandArena
