import WandArena.Proofs.Simulation.Flight
import WandArena.Proofs.Simulation.Tick

/-! Runs with a log of who came and who left the arena.

A shot launches some projectiles (`Stage.Shoots`), a tick those of all its shots, and it finds some
projectiles outside the arena (`Ticks`). Every tick that ends well is of this kind (`step_iff`).
`Onward` follows a simulation through spawns and ticks and writes down who was spawned, what was
launched when, and who left when; a `Course` is such a run from the start. -/
namespace WandArena
variable {α : Type} [Scalar α]

/-! ### Shots -/

namespace Stage
variable {holder : Int} {s t : Stage α} {flights : List (Flight α)}

/-- What becomes of a shot, with the projectiles it launches. -/
inductive Shoots (holder : Int) (s : Stage α) : List (Flight α) → Stage α → Prop
  /-- The entity is dead or holds no wand. -/
  | dropped {t : Stage α}
    (hnot : ¬ (s.world.isAlive holder = true ∧ s.world.has .holder holder = true))
    (hlog : log (.dropping holder) s = .ok () t) : Shoots holder s [] t
  | cast {wand : Wand α} {cast : Cast α} {flights : List (Flight α)} {u v t : Stage α}
    (hprepare : prepare holder s = .ok (wand, cast) u)
    (hvolley : Volley (muzzleOf u.world holder) wand.spread cast.stats cast.shots u flights v)
    (hrearm : rearm wand cast holder v = .ok () t) : Shoots holder s flights t
  /-- The cast is halted before anything is launched. -/
  | unprepared {fault : ConfigFault} {u t : Stage α}
    (hprepare : prepare holder s = .error (.config fault) u)
    (hhalt : halt holder fault u = .ok () t) : Shoots holder s [] t
  /-- The cast is halted when some projectiles are on their way. -/
  | stopped {wand : Wand α} {cast : Cast α} {sent : List (Shot α (Cast α))}
    {flights : List (Flight α)} {fault : ConfigFault} {u v t : Stage α}
    (hprepare : prepare holder s = .ok (wand, cast) u) (hsent : sent <+: cast.shots)
    (hvolley : Volley (muzzleOf u.world holder) wand.spread cast.stats sent u flights v)
    (hlaunch : launch wand cast holder u = .error (.config fault) v)
    (hhalt : halt holder fault v = .ok () t) : Shoots holder s flights t

/-- Every shot that ends well is accounted for. -/
theorem shoots_of_ok (h : shoot holder s = .ok () t) : ∃ flights, Shoots holder s flights t := by
  unfold shoot at h
  split at h
  case isFalse hnot =>
    rw [Bool.and_eq_true] at hnot
    exact ⟨[], .dropped hnot h⟩
  case isTrue =>
    split at h
    case h_1 cast u hcast =>
      cases h
      obtain ⟨wand, u, v, flights, hprepare, hvolley, hrearm⟩ := castWand_launches hcast
      exact ⟨flights, .cast hprepare hvolley hrearm⟩
    case h_2 fault u hcast =>
      rcases castWand_config hcast with hprepare | ⟨wand, cast, v, hprepare, hlaunch⟩
      · exact ⟨[], .unprepared hprepare h⟩
      · obtain ⟨sent, flights, hsent, hvolley⟩ := launched_mapM_stopped hlaunch
        exact ⟨flights, .stopped hprepare hsent hvolley hlaunch h⟩
    case h_3 => cases h

omit [Scalar α] in
theorem halt_calm (holder : Int) (fault : ConfigFault) :
    Run.Keeps calm (halt holder fault : Run (Stage α) Unit) :=
  .bind ((letsCast_calm holder).log _) fun _ => .modify fun _ => rfl

/-- But for its projectiles, nobody comes or goes with a shot. -/
theorem Shoots.volley (h : Shoots holder s flights t) :
    ∃ (muzzle : Muzzle α) (spread : α) (stats : Stats α) (shots : List (Shot α (Cast α)))
      (u v : Stage α), Volley muzzle spread stats shots u flights v ∧ u.roster = s.roster ∧
        t.roster = v.roster := by
  cases h with
  | dropped _ hlog =>
    exact ⟨muzzleOf s.world holder, Quantity.zero, {}, [], s, s, .nil, rfl,
      ((letsCast_calm holder).log _).of_ok hlog⟩
  | cast hprepare hvolley hrearm =>
    exact ⟨_, _, _, _, _, _, hvolley, (letsCast_calm _).prepare.of_ok hprepare,
      ((letsCast_calm _).rearm _ _).of_ok hrearm⟩
  | @unprepared _ u _ hprepare hhalt =>
    exact ⟨muzzleOf u.world holder, Quantity.zero, {}, [], u, u, .nil,
      (letsCast_calm _).prepare.of_error hprepare, (halt_calm _ _).of_ok hhalt⟩
  | stopped hprepare _ hvolley _ hhalt =>
    exact ⟨_, _, _, _, _, _, hvolley, (letsCast_calm _).prepare.of_ok hprepare,
      (halt_calm _ _).of_ok hhalt⟩

end Stage

namespace Simulation

/-! ### Ticks -/

/-- The projectiles that an action launches. Only a shot launches any. -/
inductive Sends (action : Action) (sim mid : Simulation α) : List (Flight α) → Prop
  | shot {flights : List (Flight α)} (hkind : action.kind = .shootWand)
    (hshoots : Stage.Shoots action.entity sim.toStage flights mid.toStage) :
    Sends action sim mid flights
  | none (hkind : action.kind ≠ .shootWand) : Sends action sim mid []

/-- These actions are dispatched one after another, and all of them together launch these
projectiles. -/
inductive Dispatches : List Action → Simulation α → List (Flight α) → Simulation α → Prop
  | nil {sim : Simulation α} : Dispatches [] sim [] sim
  | cons {action : Action} {rest : List Action} {sim mid sim' : Simulation α}
    {flights more : List (Flight α)} (hhandle : handle action sim = .ok () mid)
    (hsends : Sends action sim mid flights) (hrest : Dispatches rest mid more sim') :
    Dispatches (action :: rest) sim (flights ++ more) sim'

/-- What time does between two dispatches: wands regain mana, and entities turn, move and bounce.
Returns who left the arena. -/
def drift : Run (Simulation α) (List Int) := do
  onStage Stage.regainMana
  onStage (Stage.onWorld World.turn)
  modify fun sim => { sim with world := sim.world.move Quantity.one }
  let settings := (← get).settings
  onStage (Stage.onWorld (World.bounce settings.arenaWidth settings.arenaHeight))

/-- Once mana is regained, entities turn, move and bounce. Returns who left the arena. -/
def coast : Run (Simulation α) (List Int) := do
  onStage (Stage.onWorld World.turn)
  modify fun sim => { sim with world := sim.world.move Quantity.one }
  let settings := (← get).settings
  onStage (Stage.onWorld (World.bounce settings.arenaWidth settings.arenaHeight))

theorem drift_eq : drift (α := α) = (onStage Stage.regainMana >>= fun _ => coast) := rfl

/-- Coasting keeps to a frame that lets the world change like motion does. -/
theorem coast_keeps_of {P : Run.Frame (World α)} (hP : World.LetsMove P)
    {F : Run.Frame (Simulation α)} (h : ∀ (sim : Simulation α) world, P.Allows sim.world world →
      F.Allows sim { sim with world }) : Run.Keeps F (coast (α := α)) := by
  have hworld {β : Type} {act : Run (World α) β} (hact : Run.Keeps P act) :
      Run.Keeps F (onStage (Stage.onWorld act)) := fun sim => by
    have hstage : Run.Keeps (F.pull fun stage => { sim with toStage := stage })
        (Stage.onWorld act) :=
      hact.within fun stage world hsame => h { sim with toStage := stage } world hsame
    exact Run.KeepsAt.within hstage fun _ hallowed => hallowed
  refine .bind (hworld hP.turn) fun _ => .bind (.modify fun sim => h sim _ (hP.move sim.world _))
    fun _ => ?_
  exact .get_bind fun sim => hworld (hP.bounce _ _) sim

/-- Coasting keeps to a frame that lets the world change, as long as holders, mana bars and who is
there stay the same. -/
theorem coast_keeps {F : Run.Frame (Simulation α)}
    (h : ∀ (sim : Simulation α) world, World.gauged.Allows sim.world world →
      F.Allows sim { sim with world }) : Run.Keeps F (coast (α := α)) :=
  coast_keeps_of World.letsMove_gauged h

/-- The end of a tick: those who left are despawned, and all marked entities are removed. -/
def settle (gone : List Int) : Run (Simulation α) Unit := do
  gone.forM fun id => handle (.despawnEntity id)
  onStage Stage.showMana
  modify fun sim => { sim with world := sim.world.removeMarked }

/-- A tick that ends well launches these projectiles and despawns those who left the arena. -/
inductive Ticks (sim : Simulation α) : List (Flight α) → List Int → Simulation α → Prop
  | intro {due : List Action} {born : List (Flight α)} {gone : List Int}
    {begun handled drifted sim' : Simulation α} (hbegin : beginTick sim = .ok due begun)
    (hdispatch : Dispatches due begun born handled) (hdrift : drift handled = .ok gone drifted)
    (hsettle : settle gone drifted = .ok () sim') : Ticks sim born gone sim'

theorem step_eq :
    (step : Run (Simulation α) Unit) = (beginTick >>= fun due => due.forM handle >>= fun _ =>
      drift >>= settle) := by
  simp only [step, drift, expire, bind_assoc]
  rfl

/-- A tick in which one shot is due and nothing else. -/
theorem step_of_shot {sim begun : Simulation α} {stage : Stage α} {holder : Int}
    (hbegin : beginTick sim = .ok [.shootWand holder] begun)
    (hshoot : Stage.shoot holder begun.toStage = .ok () stage) :
    step sim = (drift >>= settle) { begun with toStage := stage } := by
  have hhandle : handle (.shootWand holder) begun = .ok () { begun with toStage := stage } :=
    handle_shot rfl hshoot
  rw [step_eq, Run.bind_apply_of_ok hbegin, Run.bind_apply_of_ok (Run.forM_singleton_apply hhandle)]

theorem dispatches_of_ok {due : List Action} {sim sim' : Simulation α}
    (h : due.forM handle sim = .ok () sim') : ∃ born, Dispatches due sim born sim' := by
  induction due generalizing sim with
  | nil =>
    cases h
    exact ⟨[], .nil⟩
  | cons action rest ih =>
    obtain ⟨_, mid, hhandle, hrest⟩ := Run.bind_eq_ok.1 h
    obtain ⟨more, hmore⟩ := ih hrest
    by_cases hkind : action.kind = .shootWand
    · obtain ⟨stage, hshoot, rfl⟩ := handle_shootWand hkind hhandle
      obtain ⟨flights, hshoots⟩ := Stage.shoots_of_ok hshoot
      exact ⟨flights ++ more, .cons hhandle (.shot hkind hshoots) hmore⟩
    · exact ⟨[] ++ more, .cons hhandle (.none hkind) hmore⟩

theorem Dispatches.forM {due : List Action} {born : List (Flight α)} {sim sim' : Simulation α}
    (h : Dispatches due sim born sim') : due.forM handle sim = .ok () sim' := by
  induction h with
  | nil => rfl
  | cons hhandle _ _ ih => exact (Run.bind_apply_of_ok hhandle _).trans ih

/-- A tick ends well if and only if it is one of these. -/
theorem step_iff {sim sim' : Simulation α} :
    step sim = .ok () sim' ↔ ∃ born gone, Ticks sim born gone sim' := by
  rw [step_eq]
  constructor
  · intro h
    obtain ⟨due, begun, hbegin, hdispatching⟩ := Run.bind_eq_ok.1 h
    obtain ⟨_, handled, hhandle, hdrifting⟩ := Run.bind_eq_ok.1 hdispatching
    obtain ⟨gone, drifted, hdrift, hsettle⟩ := Run.bind_eq_ok.1 hdrifting
    obtain ⟨born, hdispatch⟩ := dispatches_of_ok hhandle
    exact ⟨born, gone, .intro hbegin hdispatch hdrift hsettle⟩
  · rintro ⟨born, gone, hbegin, hdispatch, hdrift, hsettle⟩
    rw [Run.bind_apply_of_ok hbegin, Run.bind_apply_of_ok hdispatch.forM,
      Run.bind_apply_of_ok hdrift]
    exact hsettle

/-! ### Runs -/

/-- Who came and who left the arena, in order. -/
structure Log (α : Type) where
  /-- The new entities that were spawned with a wand. -/
  spawned : List Int := []
  /-- The projectiles, with the ticks in which they were launched. -/
  births : List (Int × Flight α) := []
  /-- Who was found outside the arena with no bounce left, and in which tick. -/
  expired : List (Int × Int) := []

namespace Log
omit [Scalar α]

/-- The numbers of all entities that came. -/
def numbers (log : Log α) : List Int := log.spawned ++ log.births.map (·.2.id)

/-- A wand is spawned. -/
def spawn (log : Log α) (target : Option Int) (id : Int) : Log α :=
  if target = none then { log with spawned := log.spawned ++ [id] } else log

/-- Projectiles are launched in a tick. -/
def launch (log : Log α) (tick : Int) (flights : List (Flight α)) : Log α :=
  { log with births := log.births ++ flights.map (tick, ·) }

/-- Some leave the arena in a tick. -/
def expire (log : Log α) (tick : Int) (gone : List Int) : Log α :=
  { log with expired := log.expired ++ gone.map (tick, ·) }

theorem launch_nil (log : Log α) (tick : Int) : log.launch tick [] = log := by
  rw [launch, List.map_nil, List.append_nil]

theorem launch_append (log : Log α) (tick : Int) (a b : List (Flight α)) :
    log.launch tick (a ++ b) = (log.launch tick a).launch tick b := by
  rw [launch, launch, launch, List.map_append, List.append_assoc]

theorem expire_nil (log : Log α) (tick : Int) : log.expire tick [] = log := by
  rw [expire, List.map_nil, List.append_nil]

theorem expire_cons (log : Log α) (tick id : Int) (gone : List Int) :
    log.expire tick (id :: gone) = (log.expire tick [id]).expire tick gone := by
  rw [expire, expire, expire, List.append_assoc]
  rfl

end Log

/-- A simulation goes on from a state and a log by any number of spawns and ticks, all of which end
well. -/
inductive Onward (log : Log α) (sim : Simulation α) : Log α → Simulation α → Prop
  | refl : Onward log sim log sim
  | spawn {log' : Log α} {sim' : Simulation α} {stage : Stage α} {wandId : String}
    {target : Option Int} {id : Int} (hbefore : Onward log sim log' sim')
    (hspawn : Stage.spawnWand wandId target sim'.toStage = .ok id stage) :
    Onward log sim (log'.spawn target id) { sim' with toStage := stage }
  | step {log' : Log α} {sim' sim'' : Simulation α} {born : List (Flight α)} {gone : List Int}
    (hbefore : Onward log sim log' sim') (hticks : Ticks sim' born gone sim'') :
    Onward log sim ((log'.launch sim''.tick born).expire sim''.tick gone) sim''

/-- A run from the start. -/
def Course (log : Log α) (sim : Simulation α) : Prop :=
  ∃ catalog rules settings dice traced,
    Onward {} (.start catalog rules settings dice traced) log sim

end Simulation
end WandArena
