import WandArena.Proofs.Simulation.Roster
import WandArena.Proofs.Simulation.Stacking

/-! How long projectiles live.

The log of a run says of every projectile when it was launched and whether it left the arena, and so
how it stands on the roster (`Logged`). Shots, ticks and spawns keep to that, so whole runs do
(`Course.inLog`). Numbers are given out once, and nobody who is dead is brought back
(`InLog.dead_onward`, `dead_of_dispatched`). -/
namespace WandArena.Simulation
open Stage
variable {α : Type}

/-- The numbers are those up to the next one, each given out once. -/
def Log.Numbered (log : Log α) (next : Int) : Prop :=
  ∃ n : Nat, next = n ∧ log.numbers.Perm ((List.range n).map Nat.cast)

theorem Log.Numbered.succ {log log' : Log α} {next : Int} (h : log.Numbered next)
    (hperm : log'.numbers.Perm (log.numbers ++ [next])) : log'.Numbered (next + 1) := by
  obtain ⟨n, rfl, hnumbers⟩ := h
  refine ⟨n + 1, (Int.natCast_succ n).symm, hperm.trans ?_⟩
  rw [List.range_succ, List.map_append]
  exact hnumbers.append_right _

theorem Log.numbers_spawn (log : Log α) (id : Int) :
    (log.spawn none id).numbers.Perm (log.numbers ++ [id]) := by
  rw [Log.spawn, if_pos rfl, numbers, numbers, List.append_assoc, List.append_assoc]
  exact List.perm_append_comm.append_left _

theorem Log.numbers_launch (log : Log α) (tick : Int) (f : Flight α) :
    (log.launch tick [f]).numbers = log.numbers ++ [f.id] := by
  rw [Log.launch, numbers, numbers, List.map_append, List.append_assoc]
  rfl

/-- All who came are as the log says, and whatever number is next is fresh. -/
structure Logged (log : Log α) (due : List Action) (r : Roster) : Prop where
  stands : ∀ tick f, (tick, f) ∈ log.births → r.Stands due log.expired tick f
  unborn : ∀ id, r.nextId ≤ id → r.Unborn due id
  numbers : log.Numbered r.nextId

namespace Logged
variable {log : Log α} {due rest : List Action} {r r' : Roster}

/-- A new entity with a wand joins. -/
theorem spawned (h : Logged log due r) (hjoins : r.Joins r') :
    Logged (log.spawn none r.nextId) due r' where
  stands := fun tick f hborn => hjoins.stands (h.stands tick f hborn)
  unborn := fun id hid => by
    rw [hjoins.nextId] at hid
    exact hjoins.unborn (by omega) (h.unborn id (by omega))
  numbers := hjoins.nextId ▸ h.numbers.succ (log.numbers_spawn _)

/-- A projectile joins. -/
theorem launched {f : Flight α} (h : Logged log due r) (hjoins : r.Joins r')
    (hid : f.id = r.nextId) (hends : r'.ends f.id = f.ends r.tick r.tick)
    (hpast : ∀ e ∈ log.expired, e.1 < r.tick) : Logged (log.launch r.tick [f]) due r' where
  stands := fun tick g hborn => by
    rcases List.mem_append.1 hborn with hborn | hself
    · exact hjoins.stands (h.stands tick g hborn)
    · cases List.mem_singleton.1 hself
      exact hjoins.stands_self hid (h.unborn f.id (Int.le_of_eq hid.symm)) hends hpast
  unborn := fun id hnext => by
    rw [hjoins.nextId] at hnext
    exact hjoins.unborn (by omega) (h.unborn id (by omega))
  numbers := by
    rw [hjoins.nextId]
    exact h.numbers.succ (.of_eq ((log.numbers_launch _ f).trans (by rw [hid])))

/-- An action that is no end has been dispatched. -/
theorem skip {action : Action} (h : Logged log (action :: rest) r)
    (hkind : action.kind ≠ .despawnEntity) : Logged log rest r where
  stands := fun tick f hborn => (h.stands tick f hborn).skip (.inl hkind)
  unborn := fun id hid => (h.unborn id hid).skip
  numbers := h.numbers

theorem despawn {action : Action} (h : Logged log (action :: rest) r)
    (hkind : action.kind = .despawnEntity) : Logged log rest (r.bury action.entity) where
  stands := fun tick f hborn => (h.stands tick f hborn).despawn hkind
  unborn := fun id hid => ((h.unborn id hid).skip).bury _
  numbers := h.numbers

theorem expire (h : Logged log due r) (id : Int) :
    Logged (log.expire r.tick [id]) due (r.bury id) where
  stands := fun tick f hborn => (h.stands tick f hborn).expire id
  unborn := fun other hid => (h.unborn other hid).bury id
  numbers := h.numbers

theorem begin (h : Logged log [] r)
    (hdue : ∀ id, calls due id = (r.ends id).countP fun t => decide (t ≤ r.tick + 1)) :
    Logged log due r.begin where
  stands := fun tick f hborn => ((h.stands tick f hborn).begin (hdue f.id)).2
  unborn := fun id hid => (h.unborn id hid).begin (hdue id)
  numbers := h.numbers

variable [Scalar α]

/-- Projectiles join one after another. -/
theorem volley {muzzle : Muzzle α} {spread : α} {castStats : Stats α}
    {shots : List (Shot α (Cast α))} {flights : List (Flight α)} {s t : Stage α}
    (h : Logged log due s.roster) (hvolley : Volley muzzle spread castStats shots s flights t)
    (hpast : ∀ e ∈ log.expired, e.1 < s.tick) :
    Logged (log.launch s.tick flights) due t.roster := by
  induction hvolley generalizing log with
  | nil => exact (log.launch_nil _).symm ▸ h
  | @cons shot _ s _ f flights hflies _ ih =>
    have htick : (s.launched muzzle shot f).tick = s.tick := (backdrop_launched s muzzle shot f).2
    have hunborn := h.unborn f.id (Int.le_of_eq hflies.id.symm)
    have hjoins : s.roster.Joins (s.launched muzzle shot f).roster := joins_launched hflies.id
    have hone := h.launched hjoins hflies.id (ends_launched hunborn.ends) hpast
    have hrest := ih hone (by rw [htick]; exact hpast)
    rw [htick] at hrest
    rw [show f :: flights = [f] ++ flights from rfl, Log.launch_append]
    exact hrest

variable {sim mid sim' : Simulation α}

/-- One action is dispatched, with what it launches. -/
theorem handle {action : Action} {flights : List (Flight α)}
    (h : Logged log (action :: rest) sim.roster) (hidle : sim.waiting.entries = [])
    (hpast : ∀ e ∈ log.expired, e.1 < sim.tick)
    (hhandle : Simulation.handle action sim = .ok () mid) (hsends : Sends action sim mid flights) :
    Logged (log.launch sim.tick flights) rest mid.roster ∧ mid.tick = sim.tick := by
  cases hsends with
  | shot hkind hshoots =>
    obtain ⟨muzzle, spread, stats, shots, u, v, hvolley, hbefore, hafter⟩ := hshoots.volley
    have htick : u.tick = sim.tick := congrArg Roster.tick hbefore
    have hshot : Logged log rest u.roster := hbefore ▸ h.skip (by rw [hkind]; exact nofun)
    refine ⟨?_, (congrArg Roster.tick hafter).trans (hvolley.backdrop.2.trans htick)⟩
    rw [hafter, ← htick]
    exact hshot.volley hvolley (htick ▸ hpast)
  | none hkind =>
    rw [Log.launch_nil]
    by_cases hend : action.kind = .despawnEntity
    · have hroster := roster_despawn hidle hend hhandle
      exact ⟨hroster ▸ h.despawn hend, congrArg Roster.tick hroster⟩
    · obtain ⟨record, hlog⟩ := handle_other sim hkind hend
      cases hlog.symm.trans hhandle
      exact ⟨h.skip hend, rfl⟩

/-- All actions that are due are dispatched, with what they launch. -/
theorem dispatched {born : List (Flight α)} (h : Logged log due sim.roster)
    (hidle : sim.waiting.entries = []) (hpast : ∀ e ∈ log.expired, e.1 < sim.tick)
    (hdispatch : Dispatches due sim born sim') :
    Logged (log.launch sim.tick born) [] sim'.roster ∧ sim'.waiting.entries = [] ∧
      sim'.tick = sim.tick := by
  induction hdispatch generalizing log with
  | nil => exact ⟨(log.launch_nil _).symm ▸ h, hidle, rfl⟩
  | @cons action rest sim mid _ flights more hhandle hsends _ ih =>
    obtain ⟨hmid, htick⟩ := h.handle hidle hpast hhandle hsends
    have hidle' : mid.waiting.entries = [] := (handle_eq_ok hidle hhandle).1 ▸ hidle
    obtain ⟨hrest, hquiet, hlast⟩ := ih hmid hidle' (htick ▸ hpast)
    rw [htick] at hrest hlast
    exact ⟨Log.launch_append _ _ _ _ ▸ hrest, hquiet, hlast⟩

/-- Those who left the arena are despawned. -/
theorem expired {gone : List Int} (h : Logged log [] sim.roster)
    (hidle : sim.waiting.entries = [])
    (hgone : (gone.forM fun id => Simulation.handle (.despawnEntity id)) sim = .ok () sim') :
    Logged (log.expire sim.tick gone) [] sim'.roster ∧ sim'.waiting.entries = [] ∧
      sim'.tick = sim.tick := by
  induction gone generalizing log sim with
  | nil =>
    cases hgone
    exact ⟨(log.expire_nil _).symm ▸ h, hidle, rfl⟩
  | cons id rest ih =>
    obtain ⟨_, mid, hhandle, hrest⟩ := Run.bind_eq_ok.1 hgone
    have hroster : mid.roster = sim.roster.bury id := roster_despawn hidle rfl hhandle
    have htick : mid.tick = sim.tick := congrArg Roster.tick hroster
    have hidle' : mid.waiting.entries = [] := (handle_eq_ok hidle hhandle).1 ▸ hidle
    obtain ⟨hall, hquiet, hlast⟩ := ih (hroster ▸ h.expire id) hidle' hrest
    rw [htick] at hall hlast
    exact ⟨Log.expire_cons log sim.tick id rest ▸ hall, hquiet, hlast⟩

omit [Scalar α] in
/-- At the end of a tick only the dead go away. -/
theorem removeMarked (h : Logged log [] sim.roster) :
    Logged log [] (roster { sim.toStage with world := sim.world.removeMarked }) where
  stands := fun tick f hborn => (h.stands tick f hborn).of_same rfl
    (Int.le_of_eq sim.world.nextId_removeMarked.symm) rfl (sim.world.isAlive_removeMarked f.id)
  unborn := fun id hid => by
    have hunborn := h.unborn id (Int.le_trans (Int.le_of_eq sim.world.nextId_removeMarked.symm) hid)
    refine ⟨?_, Std.ExtTreeSet.contains_empty, hunborn.ends, hunborn.called⟩
    rw [Bool.eq_false_iff]
    intro hthere
    have hbefore := ((sim.world.existing_removeMarked id).1 hthere).2
    exact Bool.eq_false_iff.1 hunborn.existing hbefore
  numbers := by
    show log.Numbered sim.world.removeMarked.nextId
    rw [sim.world.nextId_removeMarked]
    exact h.numbers

end Logged

/-! ### Whole runs -/

section Runs
variable {log log' : Log α} {sim sim' : Simulation α}

/-- Between two operations, all who came are as the log says, and nothing waits for an event. -/
structure InLog (log : Log α) (sim : Simulation α) : Prop where
  logged : Logged log [] sim.roster
  idle : sim.waiting.entries = []
  past : ∀ e ∈ log.expired, e.1 ≤ sim.tick

theorem inLog_start (catalog : Catalog α) (rules : MergeRules) (settings : Settings)
    (dice : Twister) (traced : Bool) : InLog {} (.start catalog rules settings dice traced) where
  logged := {
    stands := fun _ _ hborn => absurd hborn List.not_mem_nil
    unborn := fun _ _ => ⟨Std.ExtTreeSet.contains_empty, Std.ExtTreeSet.contains_empty, rfl, rfl⟩
    numbers := ⟨0, rfl, .nil⟩ }
  idle := rfl
  past := fun _ hgone => absurd hgone List.not_mem_nil

variable [Scalar α]

omit [Scalar α] in
/-- Giving a wand to an entity that is there changes nothing for projectiles. -/
theorem roster_armed (s : Stage α) (id : Int) (held : Holder α) (delay : Int) :
    (s.armed id held delay).roster = s.roster :=
  roster_schedule s (s.tick + delay) id

theorem InLog.spawn {stage : Stage α} {wandId : String} {target : Option Int} {id : Int}
    (h : InLog log sim) (hspawn : Stage.spawnWand wandId target sim.toStage = .ok id stage) :
    InLog (log.spawn target id) { sim with toStage := stage } := by
  rcases Stage.spawnWand_cases wandId target sim.toStage with
    ⟨fault, hend⟩ | ⟨wand, state, -, -, -, -, hend⟩
  · rw [hend] at hspawn
    cases hspawn
  · rw [hend] at hspawn
    cases hspawn
    refine ⟨?_, h.idle, ?_⟩
    · show Logged _ [] (Stage.armed _ _ _ _).roster
      rw [roster_armed]
      cases target with
      | none => exact h.logged.spawned (joins_create sim.toStage nofun)
      | some other => exact h.logged
    · cases target <;> exact h.past

omit [Scalar α] in
theorem InLog.begin {due : List Action} (h : InLog log sim)
    (hbegin : beginTick sim = .ok due sim') :
    Logged log due sim'.roster ∧ sim'.waiting.entries = [] ∧ sim'.tick = sim.tick + 1 := by
  cases hbegin
  have hroster : roster { sim.toStage with
      tick := sim.tick + 1, agenda := (sim.agenda.popDue (sim.tick + 1)).2 } =
      sim.roster.begin := by
    simp only [roster, Agenda.ticks_popDue]
    rfl
  refine ⟨?_, h.idle, rfl⟩
  show Logged log _ (roster { sim.toStage with
      tick := sim.tick + 1, agenda := (sim.agenda.popDue (sim.tick + 1)).2 })
  rw [hroster]
  exact h.logged.begin fun id => sim.agenda.countP_popDue _ _

/-- A tick launches and despawns as it is logged. -/
theorem InLog.step {born : List (Flight α)} {gone : List Int} (h : InLog log sim)
    (hticks : Ticks sim born gone sim') :
    InLog ((log.launch sim'.tick born).expire sim'.tick gone) sim' ∧ sim'.tick = sim.tick + 1 := by
  cases hticks with
  | @intro due _ _ begun handled drifted _ hbegin hdispatch hdrift hsettle =>
    obtain ⟨hbegun, hquiet, htick⟩ := h.begin hbegin
    have hpast : ∀ e ∈ log.expired, e.1 < begun.tick := fun e he => by
      rw [htick]
      exact Int.lt_add_one_of_le (h.past e he)
    obtain ⟨hhandled, hquiet', htick'⟩ := hbegun.dispatched hquiet hpast hdispatch
    obtain ⟨hroster, hwaiting⟩ := drift_calm hdrift
    obtain ⟨_, buried, hgone, hshowing⟩ := Run.bind_eq_ok.1 hsettle
    obtain ⟨_, shown, hshow, hremove⟩ := Run.bind_eq_ok.1 hshowing
    obtain ⟨hburied, hquiet'', htick''⟩ :=
      Logged.expired (hroster ▸ hhandled) (hwaiting ▸ hquiet') hgone
    obtain ⟨hroster', hwaiting'⟩ := onStage_calm showMana_calm hshow
    have hdrifted : drifted.tick = handled.tick := congrArg Roster.tick hroster
    have hshown : shown.tick = buried.tick := congrArg Roster.tick hroster'
    cases hremove
    have hnow : shown.tick = begun.tick := by rw [hshown, htick'', hdrifted, htick']
    have hdrift : drifted.tick = begun.tick := hdrifted.trans htick'
    rw [hdrift, ← hroster'] at hburied
    show InLog ((log.launch shown.tick born).expire shown.tick gone) _ ∧ shown.tick = sim.tick + 1
    rw [hnow]
    refine ⟨⟨hburied.removeMarked, hwaiting' ▸ hquiet'', fun e he => ?_⟩, htick⟩
    show e.1 ≤ shown.tick
    rcases List.mem_append.1 he with hbefore | hleft
    · exact hnow ▸ Int.le_of_lt (hpast e hbefore)
    · obtain ⟨id, -, rfl⟩ := List.mem_map.1 hleft
      exact Int.le_of_eq hnow.symm

theorem Onward.inLog (h : InLog log sim) (honward : Onward log sim log' sim') :
    InLog log' sim' := by
  induction honward with
  | refl => exact h
  | spawn _ hspawn ih => exact ih.spawn hspawn
  | step _ hticks ih => exact (ih.step hticks).1

theorem Course.inLog (h : Course log sim) : InLog log sim := by
  obtain ⟨catalog, rules, settings, dice, traced, hbefore⟩ := h
  exact hbefore.inLog (inLog_start _ _ _ _ _)

/-- What is logged stays logged, and time does not go back. -/
theorem Onward.grows (h : InLog log sim) (honward : Onward log sim log' sim') :
    (∀ b ∈ log.births, b ∈ log'.births) ∧ (∀ e ∈ log.expired, e ∈ log'.expired) ∧
      sim.tick ≤ sim'.tick := by
  induction honward with
  | refl => exact ⟨fun _ hb => hb, fun _ he => he, Int.le_refl _⟩
  | @spawn _ before _ wandId target _ _ hspawn ih =>
    obtain ⟨hbirths, hexpired, htick⟩ := ih
    rcases Stage.spawnWand_cases wandId target before.toStage with
      ⟨_, hend⟩ | ⟨_, _, -, -, -, -, hend⟩
    · cases hend.symm.trans hspawn
    · cases hend.symm.trans hspawn
      cases target <;> exact ⟨hbirths, hexpired, htick⟩
  | step hbefore hticks ih =>
    obtain ⟨hbirths, hexpired, htick⟩ := ih
    have hnext := ((hbefore.inLog h).step hticks).2
    exact ⟨fun b hb => List.mem_append_left _ (hbirths b hb),
      fun e he => List.mem_append_left _ (hexpired e he), by omega⟩

/-- Once dead, a projectile is dead for good. -/
theorem InLog.dead_onward {tick : Int} {f : Flight α} (h : InLog log sim)
    (hborn : (tick, f) ∈ log.births) (hdead : sim.world.isAlive f.id = false)
    (honward : Onward log sim log' sim') : sim'.world.isAlive f.id = false := by
  obtain ⟨hbirths, hexpired, htick⟩ := honward.grows h
  have hbefore := (h.logged.stands tick f hborn).alive
  have hafter := ((honward.inLog h).logged.stands tick f (hbirths _ hborn)).alive
  rw [Bool.eq_false_iff] at hdead ⊢
  intro hlives
  obtain ⟨hup, hstays⟩ := hafter.1 hlives
  refine hdead (hbefore.2 ⟨.inl fun hended => ?_, fun T hT hgone => ?_⟩)
  · rcases hup with hup | hone
    · exact hup ⟨hended.1, Int.le_trans hended.2 htick⟩
    · cases hone
  · exact hstays T hT (hexpired _ hgone)

end Runs

/-! ### The dead -/

section Dead
variable [Scalar α] {sim sim' : Simulation α} {id : Int}

/-- An action brings nobody back who was there before. -/
theorem dead_of_acted {action : Action} {s t : Stage α} (h : s.Acted action t)
    (hlt : id < s.world.nextId) (hdead : s.world.isAlive id = false) :
    id < t.world.nextId ∧ t.world.isAlive id = false := by
  have hlives {u : Stage α} (hlives : Lives whoHolds s u) :
      id < u.world.nextId ∧ u.world.isAlive id = false := by
    refine ⟨Int.lt_of_lt_of_le hlt hlives.nextId, Bool.eq_false_iff.2 fun halive => ?_⟩
    rw [hlives.isAlive hlt halive] at hdead
    cases hdead
  cases h with
  | shot _ hshoot =>
    rcases Stage.shoot_eq_ok hshoot with ⟨-, hkept⟩ | ⟨-, ⟨cast, hcast⟩ | ⟨fault, u, hcast, hhalt⟩⟩
    · exact hlives hkept.toLives
    · exact hlives (castWand_rearms hcast).1
    · rw [(halt_eq_ok hhalt).1]
      exact hlives (castWand_stopped hcast).toLives
  | destroyed =>
    obtain ⟨hnext, -, -, -⟩ := Census.mk.inj (s.world.census_destroy action.entity)
    refine ⟨hnext.symm ▸ hlt, Bool.eq_false_iff.2 fun halive => ?_⟩
    rw [isAlive_destroy halive] at hdead
    cases hdead
  | kept _ hkept => exact hlives hkept.toLives

/-- Nobody is brought back while actions are dispatched. -/
theorem dead_of_dispatched {actions : List Action} (h : actions.forM handle sim = .ok () sim')
    (hidle : sim.waiting.entries = []) (hlt : id < sim.world.nextId)
    (hdead : sim.world.isAlive id = false) :
    sim'.waiting.entries = [] ∧ sim'.world.isAlive id = false := by
  induction actions generalizing sim with
  | nil =>
    cases h
    exact ⟨hidle, hdead⟩
  | cons action rest ih =>
    obtain ⟨_, mid, hhandle, hrest⟩ := Run.bind_eq_ok.1 h
    obtain ⟨hwaiting, hacted⟩ := handle_eq_ok hidle hhandle
    obtain ⟨hnext, hdead'⟩ := dead_of_acted hacted hlt hdead
    exact ih hrest (hwaiting ▸ hidle) hnext hdead'

/-- A task for somebody who is dead leaves no more than a record. -/
theorem handle_stale {action : Action} (hidle : sim.waiting.entries = [])
    (hkind : action.kind = .despawnEntity ∨ action.kind = .shootWand)
    (hdead : sim.world.isAlive action.entity = false) :
    ∃ journal, handle action sim = .ok () { sim with journal } := by
  rcases hkind with hend | hshot
  · refine ⟨sim.journal, (handle_despawnEntity hidle hend).trans ?_⟩
    rw [hdead]
    rfl
  · have hdropped : Stage.shoot action.entity sim.toStage =
        Stage.log (.dropping action.entity) sim.toStage := by
      unfold Stage.shoot
      rw [hdead, Bool.false_and]
      rfl
    exact ⟨_, handle_shot hshot hdropped⟩

/-- **How long projectiles live.** Through any spawns and ticks from the start that end well, every
tick is logged, and the numbers of all entities that came are those up to the next one, each given
out once. A projectile that was launched in a tick with a lifetime other than -1 has its end
scheduled once, a lifetime later, until the tick in which its time is up, and in that tick this one
task comes due; with -1 it has none. It is alive until its time is up, unless it left the arena in
some tick since. Once dead it is dead for good, and whatever task comes due for it leaves no more
than a record. -/
theorem Course.lifetime {log : Log α} (h : Course log sim) :
    (∀ sim', step sim = .ok () sim' ↔ ∃ born gone, Ticks sim born gone sim') ∧
    (∃ n : Nat, sim.world.nextId = n ∧ log.numbers.Perm ((List.range n).map Nat.cast)) ∧
    ∀ tick f, (tick, f) ∈ log.births →
      (sim.agenda.ticks (Action.despawns f.id) =
        if f.lifetime = -1 ∨ tick + max 1 f.lifetime ≤ sim.tick then []
        else [tick + f.lifetime]) ∧
      (∀ due begun, beginTick sim = .ok due begun → due.countP (Action.despawns f.id) =
        if f.lifetime ≠ -1 ∧ sim.tick + 1 = tick + max 1 f.lifetime then 1 else 0) ∧
      (sim.world.isAlive f.id = true ↔
        (f.lifetime = -1 ∨ sim.tick < tick + max 1 f.lifetime) ∧
          ∀ T, tick ≤ T → (T, f.id) ∉ log.expired) ∧
      (sim.world.isAlive f.id = false →
        (∀ log' sim', Onward log sim log' sim' → sim'.world.isAlive f.id = false) ∧
        ∀ due begun (before : List Action) mid action, beginTick sim = .ok due begun →
          before.forM handle begun = .ok () mid → action.entity = f.id →
          action.kind = .despawnEntity ∨ action.kind = .shootWand →
          ∃ journal, handle action mid = .ok () { mid with journal }) := by
  have hlog := h.inLog
  refine ⟨fun _ => step_iff, hlog.logged.numbers, fun tick f hborn => ?_⟩
  have hstands := hlog.logged.stands tick f hborn
  refine ⟨hstands.ends, fun due begun hbegin => ?_, ?_, fun hdead => ⟨?_, ?_⟩⟩
  · cases hbegin
    exact (hstands.begin (sim.agenda.countP_popDue _ _)).1
  · have hnone : calls [] f.id = 0 := rfl
    rw [← Flight.not_ended_iff]
    refine hstands.alive.trans ?_
    rw [hnone, or_iff_left Nat.zero_ne_one]
    rfl
  · exact fun log' sim' => hlog.dead_onward hborn hdead
  · intro due begun before mid action hbegin hbefore hid hkind
    cases hbegin
    obtain ⟨hquiet, hstays⟩ := dead_of_dispatched hbefore hlog.idle hstands.numbered hdead
    exact handle_stale hquiet hkind (hid ▸ hstays)

end Dead

/-! A projectile in the tick in which it was launched, ten ticks before its time is up. -/

section Spark

/-- Numbers that turn by a hexagon. -/
local instance even : Scalar Rat := Stage.level

def unarmed : Simulation Rat := ⟨Stage.armory, .empty⟩

/-- The simulation after the wand was spawned. -/
def poised : Simulation Rat :=
  { unarmed with toStage := Run.left (Stage.spawnWand "early" none unarmed.toStage) }

/-- The first tick has begun. -/
def aiming : Simulation Rat := Run.left (beginTick poised)

/-- The stage once the wand was cast. -/
def sparking : Stage Rat := Run.left (Stage.shoot 0 aiming.toStage)

theorem step_poised :
    Run.value? (step poised) = some () ∧ (Run.left (step poised)).tick = 1 ∧
      (Run.left (step poised)).world.nextId = 2 ∧
      (Run.left (step poised)).world.isAlive 1 = true ∧
      (Run.left (step poised)).agenda.ticks (Action.despawns 1) = [11] := by
  have hbegin : beginTick poised = .ok [.shootWand 0] aiming :=
    Run.eq_ok_of_value? (by decide +kernel)
  have hshoot : Stage.shoot 0 aiming.toStage = .ok () sparking :=
    Run.eq_ok_of_value? (by decide +kernel)
  rw [step_of_shot hbegin hshoot]
  decide +kernel

theorem lifetime_spark :
    ∃ (log : Log Rat) (sim : Simulation Rat) (f : Flight Rat),
      Course log sim ∧ (1, f) ∈ log.births ∧ f.id = 1 ∧ f.lifetime = 10 ∧
        sim.agenda.ticks (Action.despawns 1) = [11] ∧ ∀ T, 1 ≤ T → (T, 1) ∉ log.expired := by
  have hspawn : Stage.spawnWand "early" none unarmed.toStage = .ok 0 poised.toStage :=
    Run.eq_ok_of_value? (by decide +kernel)
  have hpoised : Onward ({} : Log Rat) unarmed ⟨[0], [], []⟩ poised := .spawn .refl hspawn
  obtain ⟨hvalue, htick, hnext, hlives, hends⟩ := step_poised
  have hstep : step poised = .ok () (Run.left (step poised)) := Run.eq_ok_of_value? hvalue
  obtain ⟨born, gone, hticks⟩ := step_iff.1 hstep
  have hcourse : Course _ (Run.left (step poised)) := ⟨_, _, _, _, _, hpoised.step hticks⟩
  obtain ⟨-, ⟨n, hn, hnumbers⟩, hborn⟩ := hcourse.lifetime
  obtain rfl : n = 2 := by omega
  change (0 :: (born.map _).map _ : List Int).Perm [0, 1] at hnumbers
  have hlength := hnumbers.length_eq
  rw [List.length_cons, List.length_map, List.length_map] at hlength
  obtain ⟨f, rfl⟩ := List.length_eq_one_iff.1 (Nat.succ.inj hlength)
  have hid : f.id = 1 := List.singleton_perm_singleton.1 (List.perm_cons 0 |>.1 hnumbers)
  have hmem : (1, f) ∈ (((⟨[0], [], []⟩ : Log Rat).launch (Run.left (step poised)).tick [f]).expire
      (Run.left (step poised)).tick gone).births := by
    rw [htick]
    exact List.mem_singleton_self _
  obtain ⟨hsome, -, halive, -⟩ := hborn 1 f hmem
  rw [hid, hends] at hsome
  rw [hid] at halive
  refine ⟨_, _, f, hcourse, hmem, hid, ?_, hends, (halive.1 hlives).2⟩
  split at hsome
  case isTrue => cases hsome
  case isFalse =>
    have hlast := (List.cons.inj hsome).1
    omega

end Spark

end WandArena.Simulation
