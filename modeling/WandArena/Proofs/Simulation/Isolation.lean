import WandArena.Proofs.Simulation.Events
import WandArena.Proofs.Simulation.Volley

/-! Halting a wand is nobody else's business.

A shot that content or limits stop takes the wand away from its holder and puts down why. The cast
may have launched some projectiles by then; apart from them and their ends nothing has changed
(`Halts`). From then on nothing that goes on in the arena gives the holder a wand again: no job
arms anybody (`runJob_disarms`), and so no tick does (`step_disarms`). Whatever still shoots it is
dropped (`halting_isolates`). -/
namespace WandArena
variable {α : Type}

namespace World

/-- The entity has come between two states of a world. In a sound world it was not there before. -/
def Newcomer (v w : World α) (id : Int) : Prop := v.nextId ≤ id ∧ id < w.nextId

/-- A drop takes nothing away but one component of one entity. -/
theorem get?_drop_other (w : World α) {j k : ComponentKind} {id other : Int}
    (h : k ≠ j ∨ other ≠ id) : (w.drop j id).get? k other = w.get? k other := by
  by_cases hkind : k = j
  · subst hkind
    rw [get?_drop, if_neg (h.resolve_left fun hne => hne rfl)]
  · exact w.get?_drop_of_ne hkind id other

end World

namespace Stage
variable [Scalar α] {holder : Int} {fault : ConfigFault} {s t u : Stage α}

/-! ### The shot -/

theorem castWand_of_bare (h : s.world.has .holder holder = false) :
    castWand holder s = .error (.noWand holder) s := by
  have hnone : s.world.get? .holder holder = none := by
    rwa [World.has_eq, Option.isSome_eq_false_iff, Option.isNone_iff_eq_none] at h
  exact Run.bind_apply_of_error (holderOf_eq_error hnone) _

theorem shoot_of_bare (h : s.world.has .holder holder = false) :
    shoot holder s = log (.dropping holder) s := by
  unfold shoot
  rw [h, Bool.and_false, if_neg Bool.false_ne_true]

theorem shoot_eq_halt (halive : s.world.isAlive holder = true)
    (hcast : castWand holder s = .error (.config fault) u) :
    shoot holder s = halt holder fault u := by
  have hholds : s.world.has .holder holder = true := by
    rw [← Bool.not_eq_false]
    intro hbare
    cases (castWand_of_bare hbare).symm.trans hcast
  unfold shoot
  rw [halive, hholds, Bool.and_self, if_pos rfl, hcast]

/-- Where content or limits stop a cast, its wand was touched, and then some projectiles were
launched. -/
theorem castWand_leaves (h : castWand holder s = .error (.config fault) t) :
    ∃ (muzzle : Muzzle α) (spread : α) (castStats : Stats α) (sent : List (Shot α (Cast α)))
      (flights : List (Flight α)) (u : Stage α),
      Untouched holder s u ∧ Volley muzzle spread castStats sent u flights t := by
  rcases castWand_config h with hprepare | ⟨wand, cast, u, hprepare, hlaunch⟩
  · exact ⟨muzzleOf t.world holder, Quantity.zero, {}, [], [], t,
      (prepare_untouched holder).of_error hprepare, .nil⟩
  · obtain ⟨sent, flights, -, hvolley⟩ := launched_mapM_stopped hlaunch
    exact ⟨_, _, _, sent, flights, u, (prepare_untouched holder).of_ok hprepare, hvolley⟩

omit [Scalar α] in
theorem mem_due {f : Flight α} {tick : Int} {entry : Int × Action} (h : entry ∈ f.due tick) :
    entry = (tick + f.lifetime, .despawnEntity f.id) := by
  unfold Flight.due at h
  split at h
  · cases h
  · exact List.mem_singleton.1 h

end Stage

namespace Simulation
open Stage

/-- The wand of an entity was halted for a fault. Beside its projectiles and their ends, all is as
it was for everybody else. -/
structure Halts (holder : Int) (fault : ConfigFault) (sim sim' : Simulation α) : Prop where
  alive : sim'.world.isAlive holder = true
  bare : sim'.world.has .holder holder = false
  halted : ∀ id, sim'.halted[id]? = if id = holder then some fault.message else sim.halted[id]?
  existing : ∀ id, sim'.world.existing.contains id = true ↔
    sim.world.existing.contains id = true ∨ sim.world.Newcomer sim'.world id
  marked : sim'.world.marked = sim.world.marked
  components : ∀ k id, ¬ sim.world.Newcomer sim'.world id → (k ≠ .holder ∨ id ≠ holder) →
    sim'.world.get? k id = sim.world.get? k id
  /-- No projectile comes with a wand. -/
  holders : ∀ id, id ≠ holder → sim'.world.get? .holder id = sim.world.get? .holder id
  /-- What was scheduled is still there, and nothing came but the ends of new entities. -/
  agenda : ∃ ends, sim'.agenda = sim.agenda.scheduleAll ends ∧ ∀ entry ∈ ends,
    ∃ id, entry.2 = .despawnEntity id ∧ sim.world.Newcomer sim'.world id
  casts : ∀ id, sim'.casts id = sim.casts id
  waiting : sim'.waiting = sim.waiting
  tick : sim'.tick = sim.tick
  terms : sim'.terms = sim.terms

variable [Scalar α] {holder : Int} {sim sim' : Simulation α}

theorem halts_of_castWand {fault : ConfigFault} {u : Stage α}
    (halive : sim.world.isAlive holder = true)
    (hcast : castWand holder sim.toStage = .error (.config fault) u) :
    handle (.shootWand holder) sim =
        .ok () { sim with toStage := Run.left (halt holder fault u) } ∧
      Halts holder fault sim { sim with toStage := Run.left (halt holder fault u) } := by
  have hhandle : handle (.shootWand holder) sim =
      .ok () { sim with toStage := Run.left (halt holder fault u) } :=
    handle_shot rfl (shoot_eq_halt halive hcast)
  obtain ⟨muzzle, spread, castStats, sent, flights, v, huntouched, hvolley⟩ :=
    castWand_leaves hcast
  have hkept := castWand_stopped hcast
  have hnew (id : Int) : id ∈ flights.map (·.id) ↔ sim.world.Newcomer u.world id := by
    rw [hvolley.mem_ids, huntouched.nextId, World.Newcomer]
  refine ⟨hhandle, ?_⟩
  exact {
    alive := by
      obtain ⟨hthere, hunmarked⟩ := Bool.and_eq_true_iff.1 halive
      refine Bool.and_eq_true_iff.2 ⟨(hkept.existing holder).2 (.inl hthere), ?_⟩
      show (!u.world.marked.contains holder) = true
      rw [hkept.marked]
      exact hunmarked
    bare := by
      show (u.world.drop .holder holder).has .holder holder = false
      rw [World.has_drop, if_pos rfl]
    halted := fun id => by
      show (u.halted.insert holder fault.message)[id]? = _
      rw [Std.ExtTreeMap.getElem?_insert, hkept.halted]
      simp only [Std.LawfulEqCmp.compare_eq_iff_eq]
      simp only [eq_comm]
    existing := hkept.existing
    marked := hkept.marked
    components := fun k id hold hother => by
      rw [← huntouched.components k id hother, ← hvolley.others (mt (hnew id).1 hold) k]
      exact u.world.get?_drop_other hother
    holders := fun id hid => by
      rw [← huntouched.components .holder id (.inr hid), ← hvolley.kinds (by decide) id]
      exact u.world.get?_drop_other (.inr hid)
    agenda := by
      refine ⟨flights.flatMap (Flight.due v.tick), ?_, fun entry hentry => ?_⟩
      · show u.agenda = _
        rw [hvolley.schedules, huntouched.agenda]
      · obtain ⟨f, hf, hdue⟩ := List.mem_flatMap.1 hentry
        exact ⟨f.id, congrArg Prod.snd (mem_due hdue), (hnew f.id).1 (List.mem_map_of_mem hf)⟩
    casts := hkept.casts
    waiting := rfl
    tick := hvolley.backdrop.2.trans huntouched.tick
    terms := (handle_unaltered (.shootWand holder)).of_ok hhandle }

end Simulation

/-! ### Nobody is armed by what goes on -/

namespace Stage

/-- The frame in which whoever holds a wand held one before. -/
def disarming : Run.Frame (Stage α) where
  Allows s t := ∀ id, t.world.has .holder id = true → s.world.has .holder id = true
  refl _ _ h := h
  trans h h' id hhas := h id (h' id hhas)

theorem Lives.disarms {s t : Stage α} (h : Lives whoHolds s t) : disarming.Allows s t :=
  fun id hhas => (h.has id).symm.trans hhas

theorem Kept.disarms {s t : Stage α} (h : Kept whoHolds s t) : disarming.Allows s t :=
  h.toLives.disarms

theorem halt_disarms (holder : Int) (fault : ConfigFault) :
    Run.Keeps disarming (halt holder fault : Run (Stage α) Unit) :=
  .bind (.modify fun _ _ hhas => hhas) fun _ => .modify fun _ _ hhas => (World.has_of_drop hhas).1

theorem letsCast_lives (holder : Int) : LetsCast (lives (α := α) whoHolds) holder where
  journal _ _ := .of_census rfl rfl rfl
  hold _ held hhas := (put_holder_kept hhas held).toLives
  arm _ _ := .of_census rfl rfl rfl

variable [Scalar α]

theorem castWand_lives (holder : Int) :
    Run.Keeps (lives whoHolds) (castWand holder : Run (Stage α) (Cast α)) :=
  (letsCast_lives holder).castWand fun _ _ =>
    (launch_keeps _ _ _).mono fun _ _ (hkept : Kept whole _ _) => hkept.of_whole.toLives

theorem shoot_disarms (holder : Int) : Run.Keeps disarming (shoot holder : Run (Stage α) Unit) :=
  shoot_keeps ((castWand_lives holder).mono fun _ _ => Lives.disarms) (halt_disarms holder)
    fun _ => .modify fun _ _ hhas => hhas

end Stage

namespace Simulation
open Stage
variable [Scalar α] {holder : Int} {sim sim' : Simulation α}

/-- The frame in which whoever holds a wand held one before. -/
abbrev disarming : Run.Frame (Simulation α) := Stage.disarming.pull (·.toStage)

omit [Scalar α] in
theorem onStage_disarms {β : Type} {act : Run (Stage α) β} (hact : Run.Keeps Stage.disarming act) :
    Run.Keeps disarming (onStage act) :=
  hact.within fun _ _ hstage => hstage

theorem runJob_disarms : ∀ job, Run.Keeps disarming (runJob (α := α) job) :=
  runJob_keeps
    (fun sim marked id hhas => by
      rwa [World.has_eq, World.get?_destroy, ← World.has_eq] at hhas)
    (fun _ _ _ hhas => hhas) (fun holder => onStage_disarms (shoot_disarms holder))
    (fun _ => onStage_disarms (.modify fun _ _ hhas => hhas))

theorem handle_disarms (action : Action) : Run.Keeps disarming (handle (α := α) action) :=
  perform_keeps runJob_disarms _

theorem drift_disarms : Run.Keeps disarming (drift (α := α)) := by
  rw [drift_eq]
  refine .bind (onStage_disarms (regainMana_keeps.mono fun _ _ => Kept.disarms)) fun _ => ?_
  refine coast_keeps fun sim world hsame => ?_
  exact Lives.disarms (.of_census (congrArg Prod.fst hsame) rfl rfl)

theorem settle_disarms (gone : List Int) : Run.Keeps disarming (settle (α := α) gone) := by
  refine .bind (.forM (fun id => handle_disarms (.despawnEntity id)) gone) fun _ => ?_
  refine .bind (onStage_disarms (showMana_keeps.mono fun _ _ => Kept.disarms)) fun _ => ?_
  refine .modify fun sim id hhas => ?_
  rw [World.has_eq, World.holder_removeMarked] at hhas
  split at hhas
  · cases hhas
  · rwa [World.has_eq]

/-- Once the due tasks are taken off, a tick gives nobody a wand. -/
theorem workOff_disarms (due : List Action) :
    Run.Keeps disarming (due.forM handle >>= fun _ => drift (α := α) >>= settle) :=
  .bind (.forM handle_disarms due) fun _ => .bind drift_disarms settle_disarms

/-- However a tick ends, nobody comes by a wand in it. -/
theorem step_disarms : Run.Keeps disarming (step (α := α)) := by
  rw [step_eq]
  exact .bind (.modifyGet fun _ _ hhas => hhas) workOff_disarms

/-! ### Ever after -/

/-- The next tick comes to a job, and this is what the job finds: what is due is acted on at the
start of the tick, and those who left the arena are despawned at its end. -/
inductive Undertakes (sim : Simulation α) (job : Job) (found : Simulation α) : Prop
  | due {actions : List Action} {begun : Simulation α} (hbegin : beginTick sim = .ok actions begun)
    (h : ComesTo (actions.map .act) begun job found) : Undertakes sim job found
  | gone {actions : List Action} {left : List Int} {begun handled drifted : Simulation α}
    (hbegin : beginTick sim = .ok actions begun) (hdue : actions.forM handle begun = .ok () handled)
    (hdrift : drift handled = .ok left drifted)
    (h : ComesTo (left.map fun id => .act (.despawnEntity id)) drifted job found) :
    Undertakes sim job found

theorem ComesTo.disarms {jobs : List Job} {job : Job} {found : Simulation α}
    (h : ComesTo jobs sim job found) : disarming.Allows sim found := by
  induction h with
  | now => exact disarming.refl _
  | later hrun _ ih => exact disarming.trans ((runJob_disarms _).of_ok hrun) ih

theorem Undertakes.disarms {job : Job} {found : Simulation α} (h : Undertakes sim job found) :
    disarming.Allows sim found := by
  cases h with
  | due hbegin h =>
    cases hbegin
    exact h.disarms
  | gone hbegin hdue hdrift h =>
    cases hbegin
    have hhandled := (Run.Keeps.forM handle_disarms _).of_ok hdue
    exact disarming.trans hhandled (disarming.trans (drift_disarms.of_ok hdrift) h.disarms)

/-- A simulation goes on and nobody gives this entity a wand: ticks take place, however they end,
and in between anything may be changed from outside. -/
inductive Disarmed (holder : Int) (sim : Simulation α) : Simulation α → Prop
  | refl : Disarmed holder sim sim
  | step {mid : Simulation α} (h : Disarmed holder sim mid) :
    Disarmed holder sim (Run.left (step mid))
  | meanwhile {mid later : Simulation α} (h : Disarmed holder sim mid)
    (hnone : later.world.has .holder holder = true → mid.world.has .holder holder = true) :
    Disarmed holder sim later

theorem Disarmed.bare {later : Simulation α} (h : Disarmed holder sim later)
    (hbare : sim.world.has .holder holder = false) : later.world.has .holder holder = false := by
  rw [← Bool.not_eq_true] at hbare ⊢
  induction h with
  | refl => exact hbare
  | step _ ih => exact mt (step_disarms _ holder) ih
  | meanwhile _ hnone ih => exact mt hnone ih

/-- Whatever a tick does to an entity without a wand, it does not cast it. -/
theorem Undertakes.dropped {action : Action} {found : Simulation α}
    (h : Undertakes sim (.act action) found) (hkind : action.kind = .shootWand)
    (hbare : sim.world.has .holder action.entity = false) :
    runJob (.act action) found =
      .ok [] { found with journal := found.journal.push (.dropping action.entity) } := by
  rw [← Bool.not_eq_true] at hbare
  have hfound : found.world.has .holder action.entity = false :=
    Bool.eq_false_iff.2 (mt (h.disarms action.entity) hbare)
  have hdrop : onStage (shoot action.entity) found =
      .ok () { found with journal := found.journal.push (.dropping action.entity) } :=
    onStage_eq_ok.2 ⟨_, shoot_of_bare hfound, rfl⟩
  simp only [runJob, hkind]
  exact Run.bind_apply_of_ok hdrop _

/-- **A wand that is halted is halted alone and for good.** If content or limits stop the cast of a
living entity, shooting it is no fault: the entity lives on without a wand, the reason is put down,
and beside the projectiles that were launched before the cast was stopped everything is as it was.
However the simulation goes on, as long as nobody gives the entity another wand it has none, and
every tick drops what still shoots it. -/
theorem halting_isolates {fault : ConfigFault} {u : Stage α}
    (halive : sim.world.isAlive holder = true)
    (hcast : castWand holder sim.toStage = .error (.config fault) u) :
    ∃ sim', handle (.shootWand holder) sim = .ok () sim' ∧ Halts holder fault sim sim' ∧
      ∀ later, Disarmed holder sim' later → later.world.has .holder holder = false ∧
        ∀ action found, Undertakes later (.act action) found → action.kind = .shootWand →
          action.entity = holder → runJob (.act action) found =
            .ok [] { found with journal := found.journal.push (.dropping holder) } := by
  obtain ⟨hhandle, hhalts⟩ := halts_of_castWand halive hcast
  refine ⟨_, hhandle, hhalts, fun later hlater => ?_⟩
  have hbare := hlater.bare hhalts.bare
  refine ⟨hbare, fun action found hfound hkind hentity => ?_⟩
  subst hentity
  exact hfound.dropped hkind hbare

/-! The card with two projectiles, the second of which is not known any more. -/

section Ghosts

/-- Numbers that turn by a hexagon. -/
local instance sixfold : Scalar Rat := level

theorem halting_isolates_haunted :
    ∃ sim' : Simulation Rat, handle (.shootWand 0) ⟨haunted, .empty⟩ = .ok () sim' ∧
      Halts 0 (.unknownBlueprint "ghost") ⟨haunted, .empty⟩ sim' ∧
      sim'.world.isAlive 1 = true ∧
      sim'.agenda.entries = [(1, .shootWand 0), (10, .despawnEntity 1)] ∧
      (∃ found, Undertakes sim' (.act (.shootWand 0)) found ∧ runJob (.act (.shootWand 0)) found =
        .ok [] { found with journal := found.journal.push (.dropping 0) }) ∧
      (Run.left (step sim')).world.has .holder 0 = false := by
  have halive : haunted.world.isAlive 0 = true := by decide +kernel
  let sim : Simulation Rat := ⟨haunted, .empty⟩
  obtain ⟨sim', hhandle, hhalts, hlater⟩ :=
    halting_isolates (show sim.world.isAlive 0 = true from halive) castWand_haunted
  have hend : handle (.shootWand 0) sim = .ok () (Run.left (handle (.shootWand 0) sim)) :=
    Run.eq_ok_of_value? (by decide +kernel)
  obtain rfl := (EStateM.Result.ok.inj (hend.symm.trans hhandle)).2
  have hbegin : beginTick (Run.left (handle (.shootWand 0) sim)) = .ok [.shootWand 0] _ :=
    Run.eq_ok_of_value? (by decide +kernel)
  have hdue := Undertakes.due hbegin .now
  exact ⟨_, hhandle, hhalts, by decide +kernel, by decide +kernel,
    ⟨_, hdue, (hlater _ .refl).2 _ _ hdue rfl rfl⟩, (hlater _ (.step .refl)).1⟩

end Ghosts

end Simulation
end WandArena
