import Mathlib.Order.Bounds.Defs
import WandArena.Proofs.Schedule.History
import WandArena.Proofs.Simulation.Events

/-! Rounds: which tasks each tick dispatches.

An almanac notes which tasks were scheduled and in which tick that was, and which calls of the
dispatcher each tick made. A task has its turn in the first tick that begins after it was scheduled
and is not before its own (`Posting.turn`). All that is due is taken off before the first task runs,
and whatever a handler schedules has its turn later, so each tick dispatches exactly the tasks whose
turn it is, sorted by tick and otherwise as they were scheduled (`Almanac.Exact`). -/
namespace WandArena

/-- A task that was scheduled. -/
structure Posting where
  /-- The last tick that had begun by then. -/
  now : Int
  tick : Int
  task : Action

namespace Posting

/-- The tick in which the task is due to be dispatched. -/
def turn (p : Posting) : Int := max (p.now + 1) p.tick

def entry (p : Posting) : Int × Action := (p.tick, p.task)

/-- The turn is the first tick that begins later and is not before the one that was asked for. -/
theorem isLeast_turn (p : Posting) : IsLeast {T | p.now < T ∧ p.tick ≤ T} p.turn := by
  refine ⟨⟨?_, ?_⟩, fun T hT => ?_⟩
  · exact Int.lt_of_lt_of_le (Int.lt_succ _) (Int.le_max_left _ _)
  · exact Int.le_max_right _ _
  · exact Int.max_le.2 ⟨hT.1, hT.2⟩

theorem lt_turn (p : Posting) : p.now < p.turn := p.isLeast_turn.1.1

/-- What is scheduled for the running tick or a past one has its turn in the next tick. -/
theorem turn_of_late {p : Posting} (h : p.tick ≤ p.now) : p.turn = p.now + 1 :=
  Int.max_eq_left (by omega)

theorem isDue_entry (p : Posting) (tick : Int) :
    Agenda.isDue tick p.entry = true ↔ p.tick ≤ tick :=
  decide_eq_true_iff

end Posting

open Simulation (Call calledFor)

/-- What was scheduled, and which calls of the dispatcher each tick made for what was due. -/
structure Almanac where
  posted : List Posting := []
  rounds : List (Int × List Call) := []

namespace Almanac

/-- Some tasks are scheduled. -/
def post (almanac : Almanac) (now : Int) (entries : List (Int × Action)) : Almanac :=
  { almanac with posted := almanac.posted ++ entries.map fun entry => ⟨now, entry.1, entry.2⟩ }

/-- A tick dispatches what is due. -/
def round (almanac : Almanac) (tick : Int) (calls : List Call) : Almanac :=
  { almanac with rounds := almanac.rounds ++ [(tick, calls)] }

/-- The entries of the tasks whose turns are among these, as they were scheduled. -/
def entriesOf (almanac : Almanac) (turns : Int → Prop) [DecidablePred turns] :
    List (Int × Action) :=
  (almanac.posted.filter fun p => turns p.turn).map Posting.entry

/-- Of some entries, those that pass a check are the ones of other turns. -/
theorem filter_entriesOf (almanac : Almanac) {turns turns' : Int → Prop} [DecidablePred turns]
    [DecidablePred turns'] {check : Int × Action → Bool}
    (h : ∀ p ∈ almanac.posted, turns' p.turn ↔ turns p.turn ∧ check p.entry = true) :
    (almanac.entriesOf turns).filter check = almanac.entriesOf turns' := by
  unfold entriesOf
  rw [List.filter_map, List.filter_filter]
  refine congrArg _ (List.filter_congr fun p hp => ?_)
  rw [Bool.eq_iff_iff, Bool.and_eq_true, decide_eq_true_iff, decide_eq_true_iff, h p hp, and_comm]
  rfl

/-- What is scheduled comes last among the entries of all later turns. -/
theorem entriesOf_post_later (almanac : Almanac) (now : Int) (entries : List (Int × Action)) :
    (almanac.post now entries).entriesOf (now < ·) =
      almanac.entriesOf (now < ·) ++ entries := by
  have hall : (entries.map fun entry => (⟨now, entry.1, entry.2⟩ : Posting)).filter
      (fun p => now < p.turn) = entries.map fun entry => ⟨now, entry.1, entry.2⟩ := by
    refine List.filter_eq_self.2 fun p hp => ?_
    obtain ⟨entry, -, rfl⟩ := List.mem_map.1 hp
    exact decide_eq_true (Posting.lt_turn _)
  unfold entriesOf post
  rw [List.filter_append, hall, List.map_append, List.map_map]
  exact congrArg _ (List.map_id entries)

/-- Nothing that is scheduled has its turn in the running tick or a past one. -/
theorem entriesOf_post_past (almanac : Almanac) {now turn : Int} (h : turn ≤ now)
    (entries : List (Int × Action)) :
    (almanac.post now entries).entriesOf (· = turn) = almanac.entriesOf (· = turn) := by
  have hnone : (entries.map fun entry => (⟨now, entry.1, entry.2⟩ : Posting)).filter
      (fun p => p.turn = turn) = [] := by
    refine List.filter_eq_nil_iff.2 fun p hp hturn => ?_
    obtain ⟨entry, -, rfl⟩ := List.mem_map.1 hp
    exact absurd (of_decide_eq_true hturn) (Int.ne_of_gt (Int.lt_of_le_of_lt h (Posting.lt_turn _)))
  unfold entriesOf post
  rw [List.filter_append, hnone, List.append_nil]

/-- The tasks that were dispatched because they were due. -/
def dispatched (almanac : Almanac) : List Action := almanac.rounds.flatMap (calledFor none ·.2)

/-- Each tick dispatched exactly the tasks whose turn it was, and all others are scheduled. -/
structure Exact (first : Int) (almanac : Almanac) (now : Int) (agenda : Agenda Action) : Prop where
  /-- There was one round for each tick. -/
  ticks : almanac.rounds.map (·.1) =
    (List.range almanac.rounds.length).map fun (n : Nat) => first + 1 + n
  now_eq : now = first + almanac.rounds.length
  /-- Nothing was scheduled in the future. -/
  past : ∀ p ∈ almanac.posted, p.now ≤ now
  /-- In each round come those whose turn it is, sorted by tick and otherwise as scheduled. -/
  round : ∀ round ∈ almanac.rounds, calledFor none round.2 =
    (Agenda.inOrder (almanac.entriesOf (· = round.1))).map (·.2)
  pending : agenda.entries = Agenda.inOrder (almanac.entriesOf (now < ·))
  /-- Every task was dispatched once or is still scheduled. -/
  once : (almanac.dispatched ++ agenda.entries.map (·.2)).Perm (almanac.posted.map (·.task))

namespace Exact
variable {first now : Int} {almanac : Almanac} {agenda : Agenda Action}

theorem start (first : Int) (hempty : agenda.entries = []) : Exact first {} first agenda where
  ticks := rfl
  now_eq := (Int.add_zero first).symm
  past := nofun
  round := nofun
  pending := hempty.trans List.mergeSort_nil.symm
  once := by rw [hempty]; exact .refl _

theorem round_le (h : Exact first almanac now agenda) {round : Int × List Call}
    (hround : round ∈ almanac.rounds) : round.1 ≤ now := by
  have hmem : round.1 ∈ almanac.rounds.map (·.1) := List.mem_map_of_mem hround
  rw [h.ticks] at hmem
  obtain ⟨n, hn, heq⟩ := List.mem_map.1 hmem
  have hlt := List.mem_range.1 hn
  have hnow := h.now_eq
  omega

/-- What is scheduled now has its turn later, behind what is scheduled for the same tick. -/
theorem post (h : Exact first almanac now agenda) (entries : List (Int × Action)) :
    Exact first (almanac.post now entries) now (agenda.scheduleAll entries) where
  ticks := h.ticks
  now_eq := h.now_eq
  past := fun p hp => by
    rcases List.mem_append.1 hp with hp | hp
    · exact h.past p hp
    · obtain ⟨entry, -, rfl⟩ := List.mem_map.1 hp
      exact Int.le_refl now
  round := fun round hround => by
    rw [almanac.entriesOf_post_past (h.round_le hround)]
    exact h.round round hround
  pending := by
    rw [almanac.entriesOf_post_later]
    exact Agenda.entries_scheduleAll h.pending entries
  once := by
    have htasks : (almanac.post now entries).posted.map (·.task) =
        almanac.posted.map (·.task) ++ entries.map (·.2) := by
      rw [Almanac.post, List.map_append, List.map_map]
      rfl
    have hadded := (agenda.scheduleAll_perm entries).map (·.2)
    rw [htasks]
    refine (hadded.append_left almanac.dispatched).trans ?_
    rw [List.map_append, ← List.append_assoc]
    exact h.once.append_right _

/-- The next tick takes off exactly those whose turn it is. -/
theorem begin (h : Exact first almanac now agenda) {calls : List Call}
    (hcalls : calledFor none calls = (agenda.popDue (now + 1)).1) :
    Exact first (almanac.round (now + 1) calls) (now + 1) (agenda.popDue (now + 1)).2 := by
  have hnow := h.now_eq
  -- Whatever is scheduled was so before this tick, so its own tick alone tells whether it is due.
  have hdue : (almanac.entriesOf (now < ·)).filter (Agenda.isDue (now + 1)) =
      almanac.entriesOf (· = now + 1) := by
    refine almanac.filter_entriesOf fun p hp => ?_
    have hpast := h.past p hp
    rw [p.isDue_entry, Posting.turn]
    omega
  have hleft : (almanac.entriesOf (now < ·)).filter (!Agenda.isDue (now + 1) ·) =
      almanac.entriesOf (now + 1 < ·) := by
    refine almanac.filter_entriesOf fun p hp => ?_
    have hpast := h.past p hp
    rw [Bool.not_eq_true', Bool.eq_false_iff, ne_eq, p.isDue_entry, Posting.turn]
    omega
  obtain ⟨htaken, hrest⟩ := agenda.popDue_eq_filter (now + 1)
  rw [h.pending, Agenda.filter_inOrder] at htaken hrest
  rw [hdue] at htaken
  rw [hleft] at hrest
  refine ⟨?_, ?_, fun p hp => ?_, fun round hround => ?_, hrest, ?_⟩
  · show (almanac.rounds ++ [_]).map _ = (List.range (almanac.rounds ++ [_]).length).map _
    rw [List.map_append, h.ticks, List.length_append, List.length_singleton, List.range_succ,
      List.map_append, hnow]
    refine congrArg (_ ++ [·]) ?_
    show first + (almanac.rounds.length : Int) + 1 = first + 1 + (almanac.rounds.length : Int)
    omega
  · show _ = first + ((almanac.rounds ++ [_]).length : Int)
    rw [List.length_append, List.length_singleton]
    omega
  · have := h.past p hp
    omega
  · rcases List.mem_append.1 hround with hround | hround
    · exact h.round round hround
    · cases List.mem_singleton.1 hround
      exact hcalls.trans htaken
  · show ((almanac.rounds ++ [_]).flatMap _ ++ _).Perm _
    rw [List.flatMap_append, List.flatMap_singleton, hcalls, List.append_assoc,
      agenda.tasks_popDue]
    exact h.once

end Exact
end Almanac

namespace Simulation
variable {α : Type} [Scalar α]

/-- A run from the tick `first` on, with its almanac. At the start nothing is scheduled. Between two
ticks anything may happen that only schedules tasks, and every tick ends well: it takes off what is
due, makes these calls for it, and lets time pass. -/
inductive Rounds (first : Int) : Almanac → Simulation α → Prop
  | start {sim : Simulation α} (htick : sim.tick = first) (hempty : sim.agenda.entries = []) :
    Rounds first {} sim
  | meanwhile {almanac : Almanac} {sim sim' : Simulation α} {entries : List (Int × Action)}
    (hbefore : Rounds first almanac sim) (htick : sim'.tick = sim.tick)
    (hagenda : sim'.agenda = sim.agenda.scheduleAll entries) :
    Rounds first (almanac.post sim.tick entries) sim'
  | tick {almanac : Almanac} {sim begun handled drifted sim' : Simulation α} {due : List Action}
    {calls : List Call} {gone : List Int} {entries : List (Int × Action)}
    (hbefore : Rounds first almanac sim) (hstep : step sim = .ok () sim')
    (hbegin : beginTick sim = .ok due begun) (hcalls : Calls none due begun calls handled)
    (hdrift : drift handled = .ok gone drifted) (hsettle : settle gone drifted = .ok () sim')
    (hagenda : sim'.agenda = begun.agenda.scheduleAll entries) :
    Rounds first ((almanac.round begun.tick calls).post begun.tick entries) sim'

section Runs
variable {first : Int} {almanac : Almanac} {sim sim' : Simulation α}

/-- A tick takes off what is due, calls the dispatcher for it and lets time pass. Once the due tasks
are taken off, it only schedules tasks. -/
theorem step_schedules (h : step sim = .ok () sim') :
    ∃ due begun calls handled gone drifted entries, beginTick sim = .ok due begun ∧
      Calls none due begun calls handled ∧ drift handled = .ok gone drifted ∧
      settle gone drifted = .ok () sim' ∧ sim'.tick = begun.tick ∧
      sim'.agenda = begun.agenda.scheduleAll entries := by
  rw [step_eq] at h
  obtain ⟨due, begun, hbegin, hdispatching⟩ := Run.bind_eq_ok.1 h
  obtain ⟨_, handled, hhandle, hdrifting⟩ := Run.bind_eq_ok.1 hdispatching
  obtain ⟨gone, drifted, hdrift, hsettle⟩ := Run.bind_eq_ok.1 hdrifting
  obtain ⟨calls, hcalls⟩ := calls_of_ok none hhandle
  obtain ⟨hproceeds, -⟩ := (workOff_proceeds due).of_ok hdispatching
  obtain ⟨entries, hentries⟩ := hproceeds.agenda
  exact ⟨due, begun, calls, handled, gone, drifted, entries, hbegin, hcalls, hdrift, hsettle,
    hproceeds.tick, hentries⟩

theorem Rounds.exact (h : Rounds first almanac sim) :
    almanac.Exact first sim.tick sim.agenda := by
  induction h with
  | start htick hempty => exact htick ▸ .start _ hempty
  | meanwhile _ htick hagenda ih =>
    rw [htick, hagenda]
    exact ih.post _
  | tick _ hstep hbegin hcalls _ _ hagenda ih =>
    obtain ⟨_, _, _, _, _, _, _, hbegin', _, _, _, htick, _⟩ := step_schedules hstep
    cases hbegin.symm.trans hbegin'
    rw [htick, hagenda]
    cases hbegin
    exact (ih.begin hcalls.uncaused).post _

/-- What happens between two ticks only schedules tasks. -/
theorem Rounds.proceed (h : Rounds first almanac sim) (hproceeds : sim.Proceeds sim'.toStage) :
    ∃ entries, Rounds first (almanac.post sim.tick entries) sim' := by
  obtain ⟨entries, hentries⟩ := hproceeds.agenda
  exact ⟨entries, h.meanwhile hproceeds.tick hentries⟩

/-- **Dispatch is exact.** In any run whose ticks end well, whatever is scheduled when and for when,
each tick dispatches exactly the tasks whose turn it is, sorted by tick and otherwise as they were
scheduled, and a task has its turn in the first tick that begins after it was scheduled and is not
before its own. So what a handler schedules for the running tick or a past one waits for the next,
and working off what is due ends. The run goes on with any tick that ends well. -/
theorem Rounds.dispatch_exact (h : Rounds first almanac sim) :
    almanac.Exact first sim.tick sim.agenda ∧
      (∀ p ∈ almanac.posted, IsLeast {T | p.now < T ∧ p.tick ≤ T} p.turn ∧
        (p.tick ≤ p.now → p.turn = p.now + 1)) ∧
      (∀ due begun, beginTick sim = .ok due begun →
        ∃ n ≤ 2 * begun.waiting.entries.length + 2 * due.length,
          Works n (due.map .act) begun (due.forM handle begun)) ∧
      ∀ sim', step sim = .ok () sim' → ∃ calls entries,
        Rounds first ((almanac.round (sim.tick + 1) calls).post (sim.tick + 1) entries) sim' := by
  refine ⟨h.exact, fun p _ => ⟨p.isLeast_turn, Posting.turn_of_late⟩,
    fun due begun _ => works_forM due begun, fun sim' hstep => ?_⟩
  obtain ⟨due, begun, calls, handled, gone, drifted, entries, hbegin, hcalls, hdrift, hsettle, -,
    hagenda⟩ := step_schedules hstep
  have hnext := h.tick hstep hbegin hcalls hdrift hsettle hagenda
  cases hbegin
  exact ⟨calls, entries, hnext⟩

end Runs

/-- A wand without any delay: its first cast is scheduled for the tick that is over already, and
that cast schedules the next one for the tick that is running. -/
theorem dispatch_exact_spawned :
    ∃ (almanac : Almanac) (sim : Simulation Amount), Rounds 0 almanac sim ∧
      almanac.posted = [⟨0, 0, .shootWand 0⟩, ⟨1, 1, .shootWand 0⟩] ∧
      almanac.dispatched = [.shootWand 0] ∧ sim.agenda.entries = [(1, .shootWand 0)] := by
  have hbegin : beginTick spawned = .ok [.shootWand 0] begun :=
    Run.eq_ok_of_value? (by decide +kernel)
  have hshoot : Stage.shoot 0 begun.toStage = .ok () (Run.left (Stage.shoot 0 begun.toStage)) :=
    Run.eq_ok_of_value? (by decide +kernel)
  have hstep : step spawned = .ok () (Run.left (step spawned)) :=
    Run.eq_ok_of_value? step_spawned.1
  have hfirst : spawned.agenda = idle.agenda.scheduleAll [(0, .shootWand 0)] :=
    Agenda.eq_of_entries (by decide +kernel)
  have hnext : (Run.left (step spawned)).agenda = begun.agenda.scheduleAll [(1, .shootWand 0)] := by
    refine Agenda.eq_of_entries ?_
    rw [step_of_shot hbegin hshoot]
    decide +kernel
  have hidle : Rounds 0 {} idle := .start rfl rfl
  have hspawned : Rounds 0 (Almanac.post {} 0 [(0, .shootWand 0)]) spawned :=
    hidle.meanwhile rfl hfirst
  obtain ⟨gone, drifted, hdrift, hsettle⟩ :=
    Run.bind_eq_ok.1 ((step_of_shot hbegin hshoot).symm.trans hstep)
  have hcalls : Calls none [.shootWand 0] begun _ _ := .other nofun (handle_shot rfl hshoot) .nil
  have hrounds := hspawned.tick hstep hbegin hcalls hdrift hsettle hnext
  obtain ⟨hexact, -⟩ := hrounds.dispatch_exact
  have hpending := hexact.pending
  have hnow : (Run.left (step spawned)).tick = 1 := hexact.now_eq
  rw [hnow] at hpending
  exact ⟨_, _, hrounds, rfl, rfl, hpending.trans (List.mergeSort_singleton _)⟩

end Simulation
end WandArena
