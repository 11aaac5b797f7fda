import WandArena.Proofs.Simulation.Isolation

/-! Every cast that is due has its turn.

A tick that ends well acts on all that is due, so it comes to every cast among it (`exists_turn`).
Whoever is owed that cast and outlives the tick is alive and holds a wand when it comes to it. So
the wand is cast, and either its next cast is scheduled or the wand is halted (`Serves`). Nothing
that is scheduled in a tick is taken off in it, and nobody comes by a wand, so that is how the wand
stands when the tick is over (`InOrder.serves`). -/
namespace WandArena
variable {α : Type}

namespace Stage
variable {s t : Stage α} {id : Int}

/-- No cast that is scheduled is lost. -/
theorem Proceeds.casts_le (h : Proceeds s t) (id : Int) : s.casts id ≤ t.casts id := by
  obtain ⟨posted, hposted⟩ := h.agenda
  have hall := (s.agenda.scheduleAll_perm posted).countP_eq fun entry => Action.casts id entry.2
  rw [List.countP_append] at hall
  rw [Stage.casts, Stage.casts, hposted, Agenda.pending, Agenda.pending, hall]
  exact Nat.le_add_right _ _

/-- Nobody comes to life who had a number. -/
theorem Proceeds.isAlive (h : Proceeds s t) (hlt : id < s.world.nextId)
    (hlives : t.world.isAlive id = true) : s.world.isAlive id = true :=
  (h.world.alive id hlives).resolve_right fun hnew => Int.not_le.2 hlt hnew.1

end Stage

namespace Simulation
variable {given : List Int} {sim sim' found left : Simulation α} {id : Int}

/-! ### How a wand stands between two ticks -/

namespace InOrder

/-- A living entity with a cast ahead of it holds its wand and has no other. -/
theorem ready (h : sim.InOrder given []) (hgiven : id ∈ given)
    (hlives : sim.world.isAlive id = true) (hcasts : 1 ≤ sim.casts id) :
    sim.world.has .holder id = true ∧ sim.casts id = 1 := by
  rcases (h.armed id).given hgiven hlives with hready | hstopped
  · exact ⟨hready.holds, (sim.outstanding_nil id).symm.trans hready.once⟩
  · have hnever := hstopped.never
    rw [sim.outstanding_nil] at hnever
    omega

/-- A living entity whose cast is due holds its wand and has no cast scheduled. -/
theorem owed {action : Action} {rest : List Action} (h : sim.InOrder given (action :: rest))
    (hkind : action.kind = .shootWand) (hgiven : action.entity ∈ given)
    (hlives : sim.world.isAlive action.entity = true) :
    sim.world.has .holder action.entity = true ∧ sim.casts action.entity = 0 := by
  have howed := sim.outstanding_shot rest hkind
  rcases (h.armed _).given hgiven hlives with hready | hstopped
  · have honce := hready.once
    rw [howed, Stage.outstanding] at honce
    exact ⟨hready.holds, by omega⟩
  · have hnever := hstopped.never
    omega

/-- A living entity that lost its wand was halted. -/
theorem stopped (h : sim.InOrder given []) (hgiven : id ∈ given)
    (hlives : sim.world.isAlive id = true) (hlost : sim.world.has .holder id = false) :
    sim.halted.contains id = true := by
  rcases (h.armed id).given hgiven hlives with hready | hstopped
  · cases hlost.symm.trans hready.holds
  · exact hstopped.halted

end InOrder

variable [Scalar α]

/-! ### Turns -/

/-- In a tick that ends well, the turn comes to a cast of an entity. This is what it finds, and this
is what it leaves. -/
inductive Turn (id : Int) (sim found left sim' : Simulation α) : Prop
  | intro {before after : List Action} {action : Action} {begun : Simulation α}
    (hcasts : action.casts id = true)
    (hbegin : beginTick sim = .ok (before ++ action :: after) begun)
    (hbefore : before.forM handle begun = .ok () found)
    (hhandle : handle action found = .ok () left)
    (hafter : (after.forM handle >>= fun _ => drift >>= settle) left = .ok () sim')

/-- What a tick does for an entity that holds a wand and outlives the tick. -/
inductive Serves (id : Int) (sim sim' : Simulation α) : Prop
  /-- Its cast is not due yet. -/
  | waits (hlater : (sim.agenda.popDue (sim.tick + 1)).1.countP (Action.casts id) = 0)
    (hholds : sim'.world.has .holder id = true) (honce : sim'.casts id = 1)
  /-- Its cast is made, and the next one is scheduled, of which there was none before. -/
  | casts {found left : Simulation α} {cast : Cast α} (hturn : Turn id sim found left sim')
    (hspent : found.casts id = 0)
    (hcast : Stage.castWand id found.toStage = .ok cast left.toStage)
    (hrearmed : left.casts id = 1) (hholds : sim'.world.has .holder id = true)
    (honce : sim'.casts id = 1)
  /-- Content or limits stop its cast, and its wand is halted. -/
  | halts {found left : Simulation α} {fault : ConfigFault} {stopped : Stage α}
    (hturn : Turn id sim found left sim')
    (hcast : Stage.castWand id found.toStage = .error (.config fault) stopped)
    (hhalt : Stage.halt id fault stopped = .ok () left.toStage)
    (hlost : sim'.world.has .holder id = false) (hhalted : sim'.halted.contains id = true)

/-- A tick that ends well comes to every cast that is due. -/
theorem exists_turn {action : Action} (h : step sim = .ok () sim')
    (hdue : action ∈ (sim.agenda.popDue (sim.tick + 1)).1) (hcasts : action.casts id = true) :
    ∃ found left, Turn id sim found left sim' := by
  rw [step_eq] at h
  obtain ⟨due, begun, hbegin, hdispatching⟩ := Run.bind_eq_ok.1 h
  obtain ⟨before, after, hsplit⟩ := List.append_of_mem hdue
  obtain rfl : due = before ++ action :: after := by
    cases hbegin
    exact hsplit
  have hforM : (before ++ action :: after).forM handle =
      (before.forM handle >>= fun _ => handle action >>= fun _ => after.forM handle :
        Run (Simulation α) Unit) := List.forM_append
  rw [hforM, bind_assoc] at hdispatching
  obtain ⟨_, found, hbefore, hrest⟩ := Run.bind_eq_ok.1 hdispatching
  rw [bind_assoc] at hrest
  obtain ⟨_, left, hhandle, hafter⟩ := Run.bind_eq_ok.1 hrest
  exact ⟨found, left, .intro hcasts hbegin hbefore hhandle hafter⟩

namespace Turn

theorem proceeds (h : Turn id sim found left sim') : left.Proceeds sim'.toStage := by
  cases h with
  | intro _ _ _ _ hafter => exact ((workOff_proceeds _).of_ok hafter).1

theorem disarms (h : Turn id sim found left sim') : disarming.Allows left sim' := by
  cases h with
  | intro _ _ _ _ hafter => exact (workOff_disarms _).of_ok hafter

/-- When its turn comes, a wand is cast or halted. -/
theorem serves (h : Turn id sim found left sim') (horder : sim.InOrder given [])
    (hend : sim'.InOrder given []) (hgiven : id ∈ given)
    (hlives : sim'.world.isAlive id = true) : Serves id sim sim' := by
  have hturn := h
  obtain @⟨before, after, action, begun, hcasts, hbegin, hbefore, hhandle, -⟩ := h
  obtain ⟨hkind, rfl⟩ : action.kind = .shootWand ∧ action.entity = id := by
    simpa [Action.casts] using hcasts
  have hfound : found.InOrder given (action :: after) :=
    (horder.beginTick hbegin).handleFirst hbefore
  have halive : found.world.isAlive action.entity = true := by
    have hmore : found.Proceeds left.toStage := ((handle_proceeds action).of_ok hhandle).1
    exact (Stage.proceeding.trans hmore hturn.proceeds).isAlive
      ((hfound.armed _).numbered (.inl hgiven)) hlives
  obtain ⟨hholds, hspent⟩ := hfound.owed hkind hgiven halive
  obtain ⟨stage, hshoot, rfl⟩ := handle_shootWand hkind hhandle
  rcases Stage.shoot_eq_ok hshoot with
    ⟨hnot, -⟩ | ⟨-, ⟨cast, hcast⟩ | ⟨fault, stopped, hcast, hhalt⟩⟩
  · exact absurd ⟨halive, hholds⟩ hnot
  · have hrearmed : stage.casts action.entity = 1 := by
      rw [(Stage.castWand_rearms hcast).2, hspent, if_pos rfl]
    have hmore := hturn.proceeds.casts_le action.entity
    obtain ⟨hholds', honce⟩ := hend.ready hgiven hlives (Nat.le_trans hrearmed.ge hmore)
    exact .casts hturn hspent hcast hrearmed hholds' honce
  · have hlost : stage.world.has .holder action.entity = false := by
      rw [(Stage.halt_eq_ok hhalt).1, World.has_drop, if_pos rfl]
    have hlost' : sim'.world.has .holder action.entity = false := by
      rw [Bool.eq_false_iff] at hlost ⊢
      exact mt (hturn.disarms action.entity) hlost
    exact .halts hturn hcast hhalt hlost' (hend.stopped hgiven hlives hlost')

end Turn

/-- Whoever holds a wand and outlives a tick is served by it. -/
theorem InOrder.serves (h : sim.InOrder given []) (hstep : Simulation.step sim = .ok () sim')
    (hgiven : id ∈ given) (hholds : sim.world.has .holder id = true)
    (hlives : sim'.world.isAlive id = true) : Serves id sim sim' := by
  have hend := h.step hstep
  by_cases hdue : ∃ action ∈ (sim.agenda.popDue (sim.tick + 1)).1, action.casts id = true
  · obtain ⟨action, haction, hcasts⟩ := hdue
    obtain ⟨found, left, hturn⟩ := exists_turn hstep haction hcasts
    exact hturn.serves h hend hgiven hlives
  · have hlater : (sim.agenda.popDue (sim.tick + 1)).1.countP (Action.casts id) = 0 :=
      List.countP_eq_zero.2 fun action haction hcasts => hdue ⟨action, haction, hcasts⟩
    rw [step_eq] at hstep
    obtain ⟨due, begun, hbegin, hworking⟩ := Run.bind_eq_ok.1 hstep
    obtain ⟨hproceeds, -⟩ := (workOff_proceeds due).of_ok hworking
    cases hbegin
    have halive : sim.world.isAlive id = true :=
      hproceeds.isAlive ((h.armed id).numbered (.inl hgiven)) hlives
    have honce : sim.casts id = 1 := by
      rcases (h.armed id).given hgiven halive with hready | hstopped
      · exact (sim.outstanding_nil id).symm.trans hready.once
      · cases hholds.symm.trans hstopped.lost
    have hleft := sim.agenda.pending_popDue (sim.tick + 1) (Action.casts id)
    rw [hlater, Nat.zero_add] at hleft
    obtain ⟨hholds', honce'⟩ := hend.ready hgiven hlives
      (Nat.le_trans (hleft.trans honce).ge (hproceeds.casts_le id))
    exact .waits hlater hholds' honce'

/-- **A wand that is held has exactly one cast ahead of it.** Between any two operations, a living
entity that was given a wand holds it and has one cast scheduled, or was halted and has none. So no
tick casts a wand twice: of what is due in the next one, at most one action casts any wand, and
nothing waits that could be released to cast another. And no wand that is held stops casting: a tick
that ends well comes to its cast if that is due, and the cast schedules the next one unless the wand
is halted for it. -/
theorem Running.one_cast_each (h : Running given sim) :
    (∀ id ∈ given, sim.world.isAlive id = true →
      (sim.world.has .holder id = true ∧ sim.halted.contains id = false ∧ sim.casts id = 1) ∨
        (sim.world.has .holder id = false ∧ sim.halted.contains id = true ∧ sim.casts id = 0)) ∧
      (∀ id, (sim.agenda.popDue (sim.tick + 1)).1.countP (Action.casts id) ≤ 1) ∧
      sim.waiting.entries = [] ∧
      ∀ sim', Simulation.step sim = .ok () sim' → ∀ id ∈ given, sim.world.has .holder id = true →
        sim'.world.isAlive id = true → Serves id sim sim' := by
  have horder := h.inOrder
  refine ⟨fun id hgiven hlives => ?_, fun id => ?_, horder.idle,
    fun sim' hstep id hgiven hholds hlives => horder.serves hstep hgiven hholds hlives⟩
  · have hcount := sim.outstanding_nil id
    rcases (horder.armed id).given hgiven hlives with hready | hstopped
    · exact .inl ⟨hready.holds, hready.running, hcount.symm.trans hready.once⟩
    · exact .inr ⟨hstopped.lost, hstopped.halted, hcount.symm.trans hstopped.never⟩
  · have honce := (horder.armed id).once
    have hdue := sim.agenda.pending_popDue (sim.tick + 1) (Action.casts id)
    rw [sim.outstanding_nil, Stage.casts] at honce
    omega

theorem one_cast_each_spawned :
    ∃ (sim found left : Simulation Amount) (cast : Cast Amount), Running [0] sim ∧
      Turn 0 spawned found left sim ∧ Stage.castWand 0 found.toStage = .ok cast left.toStage ∧
      sim.world.isAlive 0 = true ∧ sim.world.has .holder 0 = true ∧
      sim.halted.contains 0 = false ∧ sim.casts 0 = 1 := by
  have hspawn : Stage.spawnWand "pulse" none idle.toStage = .ok 0 spawned.toStage :=
    Run.eq_ok_of_value? (by decide +kernel)
  obtain ⟨hstep, hlives, hholds⟩ := step_spawned
  have hrunning : Running [0] spawned :=
    (Running.start _ _ _ _ _).spawn (fun _ hnone => by cases hnone) hspawn
  have hnext : Running [0] (Run.left (step spawned)) := hrunning.step (Run.eq_ok_of_value? hstep)
  have hbefore : spawned.world.has .holder 0 = true := by decide +kernel
  have hserves := hrunning.one_cast_each.2.2.2 _ (Run.eq_ok_of_value? hstep) 0 List.mem_cons_self
    hbefore hlives
  cases hserves with
  | waits hlater =>
    have hdue : (spawned.agenda.popDue (spawned.tick + 1)).1.countP (Action.casts 0) = 1 := by
      decide +kernel
    cases hlater.symm.trans hdue
  | halts _ _ _ hlost => cases hlost.symm.trans hholds
  | @casts found left cast hturn _ hcast =>
    refine ⟨_, found, left, cast, hnext, hturn, hcast, hlives, ?_⟩
    rcases hnext.one_cast_each.1 0 List.mem_cons_self hlives with hready | ⟨hlost, -, -⟩
    · exact hready
    · cases hlost.symm.trans hholds

end Simulation
end WandArena
