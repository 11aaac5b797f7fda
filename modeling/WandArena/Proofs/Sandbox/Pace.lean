import Mathlib.Algebra.Order.Archimedean.Basic
import Mathlib.Algebra.Order.Field.Basic
import Mathlib.Data.List.Induction
import Mathlib.Data.Rat.Floor
import Mathlib.Tactic.Linarith
import WandArena.Number.Exact
import WandArena.Proofs.Run
import WandArena.Proofs.Sandbox.Display
import WandArena.Sandbox.Session

/-! How far a session falls behind the clock.

A frame adds at most five ticks of time to the backlog and works off at most four. So the backlog
stays below one tick as long as frames take four ticks or less, and may grow by one with every frame
that takes longer: it is bounded by the number of slow frames and by nothing less
(`Frames.backlog_bounded`, `backlog_unbounded`). -/
namespace WandArena

namespace FrameClock
variable {α : Type} [Scalar α]

/-- What a frame that begins at a reading makes of the clock. -/
def turn (c : FrameClock α) (now : α) : FrameClock α := (c.advance now).takeTicks.2.measure.2

theorem backlog_measure (c : FrameClock α) : c.measure.2.backlog = c.backlog := by
  unfold measure
  split <;> rfl

theorem last_measure (c : FrameClock α) : c.measure.2.last = c.last := by
  unfold measure
  split <;> rfl

theorem last_workOff (limit : Nat) (c : FrameClock α) : (workOff limit c).2.last = c.last := by
  induction limit generalizing c with
  | zero => rfl
  | succ limit ih =>
    unfold workOff
    split
    · exact ih _
    · rfl

theorem last_turn (c : FrameClock α) (now : α) : (c.turn now).last = now :=
  (last_measure _).trans (last_workOff 4 _)

end FrameClock

namespace Session
variable {α : Type} [Scalar α] {term : Terminal} {s t u : Session α}

/-- `Frames term s readings t`: frames that begin at these readings lead from `s` to `t`, whatever
keys are pressed. -/
inductive Frames (term : Terminal) (s : Session α) : List α → Session α → Prop
  | start : Frames term s [] s
  | frame {readings : List α} {t u : Session α} {now : α} {keys : List Key} {printed : String} :
    Frames term s readings t → Session.frame term now keys t = .ok printed u →
      Frames term s (readings ++ [now]) u

omit [Scalar α] in
/-- Neither keys nor ticks nor drawing touch the clock. -/
theorem onSandbox_clock {β : Type} (act : Run (Sandbox α) β) :
    Run.Keeps (.same (·.clock)) (onSandbox act) :=
  Run.Keeps.within (P := .any) (fun _ => trivial) fun _ _ _ => rfl

theorem clock_frame {now : α} {keys : List Key} {printed : String}
    (h : Session.frame term now keys s = .ok printed t) : t.clock = s.clock.turn now := by
  unfold Session.frame at h
  obtain ⟨_, advanced, hadvance, h⟩ := Run.bind_eq_ok.1 h
  obtain ⟨_, pressed, hpress, h⟩ := Run.bind_eq_ok.1 h
  obtain ⟨ticks, ticked, htake, h⟩ := Run.bind_eq_ok.1 h
  obtain ⟨_, updated, hupdate, h⟩ := Run.bind_eq_ok.1 h
  obtain ⟨_, rendered, hrender, h⟩ := Run.bind_eq_ok.1 h
  obtain ⟨_, measured, hmeasure, h⟩ := Run.bind_eq_ok.1 h
  have hadvance : advanced.clock = s.clock.advance now := by
    cases hadvance
    rfl
  have hpress : pressed.clock = advanced.clock := (onSandbox_clock _).of_ok hpress
  have htake : ticked.clock = pressed.clock.takeTicks.2 := by
    cases htake
    rfl
  have hupdate : updated.clock = ticked.clock := (onSandbox_clock _).of_ok hupdate
  have hrender : rendered.clock = updated.clock := (onSandbox_clock _).of_ok hrender
  have hmeasure : measured.clock = rendered.clock.measure.2 := by
    cases hmeasure
    dsimp only
    obtain ⟨_ | _, _⟩ := rendered.clock.measure <;> rfl
  cases h
  rw [hmeasure, hrender, hupdate, htake, hpress, hadvance]
  rfl

/-- After some frames the clock is what their readings make of it. -/
theorem Frames.clock {readings : List α} (h : Frames term s readings t) :
    t.clock = readings.foldl FrameClock.turn s.clock := by
  induction h with
  | start => rfl
  | frame _ hframe ih =>
    rw [List.foldl_append, ← ih]
    exact clock_frame hframe

end Session

/-! ### Exact time -/

namespace FrameClock

/-- How many frames took more than four ticks of time. -/
def slowFrames (last : Rat) : List Rat → Nat
  | [] => 0
  | now :: rest => (if 4 * (1 / 60) < now - last then 1 else 0) + slowFrames now rest

section Exact
variable (circle : Circle)

theorem frameTime_exact :
    letI : Scalar Rat := Exact.scalar circle
    (frameTime : Rat) = 1 / 60 := by
  show (1.0 : Rat) / ((60 : Int) : Rat) = 1 / 60
  norm_num

theorem backlog_start (first : Rat) :
    letI : Scalar Rat := Exact.scalar circle
    (start first).backlog = 0 := by
  show (0.0 : Rat) = 0
  norm_num

/-- Ticks are worked off as far as the backlog and the limit go. -/
theorem workOff_exact (limit : Nat) {c : FrameClock Rat} (h : 0 ≤ c.backlog) :
    letI : Scalar Rat := Exact.scalar circle
    let left := (workOff limit c).2.backlog
    0 ≤ left ∧ c.backlog - limit * (1 / 60) ≤ left ∧
      (left < 1 / 60 ∨ left = c.backlog - limit * (1 / 60)) := by
  let : Scalar Rat := Exact.scalar circle
  induction limit generalizing c with
  | zero =>
    show 0 ≤ c.backlog ∧ c.backlog - (0 : Nat) * (1 / 60) ≤ c.backlog ∧
      (c.backlog < 1 / 60 ∨ c.backlog = c.backlog - (0 : Nat) * (1 / 60))
    rw [Nat.cast_zero, zero_mul, sub_zero]
    exact ⟨h, le_refl _, .inr rfl⟩
  | succ limit ih =>
    have hlimit : c.backlog - (limit + 1 : Nat) * (1 / 60) =
        c.backlog - 1 / 60 - limit * (1 / 60) := by
      push_cast
      ring
    unfold workOff
    rw [frameTime_exact circle, hlimit]
    split
    case isTrue hdue =>
      exact ih (c := { c with backlog := c.backlog - 1 / 60, ticks := c.ticks + 1 })
        (sub_nonneg.2 hdue)
    case isFalse hdue =>
      have hrest : 0 ≤ (limit : Rat) * (1 / 60) := by positivity
      exact ⟨h, by linarith, .inl (not_le.1 hdue)⟩

/-- What a frame leaves of the backlog. -/
theorem backlog_turn {c : FrameClock Rat} {now : Rat} (h : 0 ≤ c.backlog) (hnow : c.last ≤ now) :
    letI : Scalar Rat := Exact.scalar circle
    let elapsed := min (now - c.last) (5 * (1 / 60))
    let left := (c.turn now).backlog
    0 ≤ left ∧ c.backlog + elapsed - 4 * (1 / 60) ≤ left ∧
      (left < 1 / 60 ∨ left = c.backlog + elapsed - 4 * (1 / 60)) := by
  let : Scalar Rat := Exact.scalar circle
  have hdelta : Quantity.least (now - c.last) (frameTime * Quantity.whole 5) =
      min (now - c.last) (5 * (1 / 60)) := by
    rw [frameTime_exact circle, mul_comm, min_comm, min_def_lt]
    rfl
  have hadvance : (c.advance now).backlog = c.backlog + min (now - c.last) (5 * (1 / 60)) :=
    congrArg (c.backlog + ·) hdelta
  have helapsed : 0 ≤ min (now - c.last) (5 * (1 / 60)) :=
    le_min (sub_nonneg.2 hnow) (by norm_num)
  have hleft := workOff_exact circle 4 (hadvance ▸ add_nonneg h helapsed)
  rw [hadvance] at hleft
  unfold turn
  rw [backlog_measure]
  exact hleft

/-- A slow frame lets the backlog grow by one tick at most, any other one does not. -/
theorem backlog_turns {c : FrameClock Rat} {readings : List Rat} {slow : Nat}
    (h : 0 ≤ c.backlog) (hmost : c.backlog < (slow + 1) * (1 / 60))
    (hsorted : (c.last :: readings).IsChain (· ≤ ·)) :
    letI : Scalar Rat := Exact.scalar circle
    let left := (readings.foldl turn c).backlog
    0 ≤ left ∧ left < (slow + slowFrames c.last readings + 1 : Nat) * (1 / 60) := by
  let : Scalar Rat := Exact.scalar circle
  induction readings generalizing c slow with
  | nil => exact ⟨h, by simpa [slowFrames] using hmost⟩
  | cons now rest ih =>
    obtain ⟨hnow, hrest⟩ := List.isChain_cons_cons.1 hsorted
    obtain ⟨hleft, -, hend⟩ := backlog_turn circle h hnow
    have hlast : (c.turn now).last = now := c.last_turn now
    rw [← hlast] at hrest
    have hslow : (0 : Rat) ≤ slow := Nat.cast_nonneg slow
    have hmin := min_le_left (now - c.last) (5 * (1 / 60))
    have hmin' := min_le_right (now - c.last) (5 * (1 / 60))
    unfold slowFrames
    split
    case isTrue =>
      have hgrown : (c.turn now).backlog < ((slow + 1 : Nat) + 1) * (1 / 60) := by
        push_cast
        rcases hend with hend | hend <;> linarith
      have hturns := ih hleft hgrown hrest
      rwa [hlast, Nat.add_assoc slow 1] at hturns
    case isFalse hquick =>
      have hkept : (c.turn now).backlog < (slow + 1) * (1 / 60) := by
        rcases hend with hend | hend <;> linarith
      have hturns := ih hleft hkept hrest
      rwa [hlast, ← Nat.zero_add (slowFrames now rest)] at hturns

/-- Frames that take one tick of time each work off three ticks of the backlog each. -/
theorem backlog_calm {c : FrameClock Rat} {readings : List Rat} (h : 0 ≤ c.backlog)
    (hcalm : (c.last :: readings).IsChain fun before now => before ≤ now ∧ now ≤ before + 1 / 60) :
    letI : Scalar Rat := Exact.scalar circle
    let left := (readings.foldl turn c).backlog
    left < 1 / 60 ∨ left ≤ c.backlog - 3 * readings.length * (1 / 60) := by
  let : Scalar Rat := Exact.scalar circle
  induction readings generalizing c with
  | nil => exact .inr (by simp)
  | cons now rest ih =>
    obtain ⟨⟨hnow, hsoon⟩, hrest⟩ := List.isChain_cons_cons.1 hcalm
    obtain ⟨hleft, -, hend⟩ := backlog_turn circle h hnow
    have hmin := min_le_left (now - c.last) (5 * (1 / 60))
    rw [← c.last_turn now] at hrest
    rcases ih hleft hrest with hless | hworked
    · exact .inl hless
    · have hrounds : (0 : Rat) ≤ 3 * rest.length * (1 / 60) := by positivity
      rcases hend with hend | hend
      · exact .inl (hworked.trans_lt (by linarith))
      · refine .inr (hworked.trans ?_)
        rw [List.length_cons]
        push_cast
        linarith

theorem exists_late (count : Nat) (first : Rat) :
    ∃ readings : List Rat, readings.length = count ∧
      (first :: readings).IsChain fun before now => now = before + 5 * (1 / 60) := by
  induction count generalizing first with
  | zero => exact ⟨[], rfl, .singleton _⟩
  | succ count ih =>
    obtain ⟨rest, hlength, hrest⟩ := ih (first + 5 * (1 / 60))
    exact ⟨_ :: rest, congrArg (· + 1) hlength, List.isChain_cons_cons.2 ⟨rfl, hrest⟩⟩

/-- Frames that take five ticks of time each add one of them to the backlog. -/
theorem backlog_late {c : FrameClock Rat} {readings : List Rat} (h : 0 ≤ c.backlog)
    (hlate : (c.last :: readings).IsChain fun before now => now = before + 5 * (1 / 60)) :
    letI : Scalar Rat := Exact.scalar circle
    c.backlog + readings.length * (1 / 60) ≤ (readings.foldl turn c).backlog := by
  let : Scalar Rat := Exact.scalar circle
  induction readings generalizing c with
  | nil => simp
  | cons now rest ih =>
    obtain ⟨hnow, hrest⟩ := List.isChain_cons_cons.1 hlate
    have hsorted : c.last ≤ now := by linarith
    obtain ⟨hleft, hleast, -⟩ := backlog_turn circle h hsorted
    rw [min_eq_right (by linarith)] at hleast
    rw [← c.last_turn now] at hrest
    have hturns := ih hleft hrest
    rw [List.length_cons]
    push_cast
    rw [List.foldl_cons]
    linarith

end Exact

end FrameClock

/-! ### Frames in which nothing happens -/

theorem Sandbox.InService.pause {α : Type} [Scalar α] {wandIds : List String} {width : Int}
    {b : Sandbox α} (h : b.InService wandIds width) :
    InService wandIds width { b with paused := true } := { h with }

theorem Sandbox.updateMany_paused {α : Type} [Scalar α] {b : Sandbox α} (h : b.paused = true)
    (ticks : Nat) : updateMany ticks b = .ok () b := by
  induction ticks with
  | zero => rfl
  | succ ticks ih =>
    have hupdate : update b = .ok () b := by
      unfold update
      rw [Run.bind_apply_of_ok (Run.get_apply b), if_pos h]
      rfl
    exact (Run.bind_apply_of_ok hupdate _).trans ih

namespace Session
open FrameClock

/-- Over exact time, a frame of a paused sandbox in service goes by. -/
theorem frame_paused (circle : Circle) :
    letI : Scalar Rat := Exact.scalar circle
    ∀ {wandIds : List String} {width : Int} {s : Session Rat},
      (∀ id ∈ wandIds, (Catalog.standardWands : Registry (Wand Rat)).contains id = true) →
      (∃ columns, room width = .ok columns) → s.sandbox.InService wandIds width →
      s.sandbox.paused = true → ∀ (term : Terminal) (now : Rat),
        ∃ printed t, Session.frame term now [] s = .ok printed t ∧
          t.sandbox.InService wandIds width ∧ t.sandbox.paused = true := by
  let : Scalar Rat := Exact.scalar circle
  intro wandIds width s hknown hroom hservice hpaused term now
  obtain ⟨changes, b, hrender, hb⟩ := Sandbox.render_exact circle hknown hroom hservice
  have hpaused' : b.paused = true :=
    (congrArg (·.paused) (congrFun (Sandbox.render_keeps.of_ok hrender) b.canvas)).trans hpaused
  let begun : Session Rat := { s with clock := s.clock.advance now }
  let ticked : Session Rat := { s with clock := begun.clock.takeTicks.2 }
  let drawn : Session Rat := { ticked with sandbox := b }
  have hpress : onSandbox (Sandbox.pressAll []) begun = .ok () begun := rfl
  have htick : onSandbox (Sandbox.updateMany begun.clock.takeTicks.1) ticked = .ok () ticked :=
    Run.within_eq_ok.2 ⟨_, Sandbox.updateMany_paused hpaused _, rfl⟩
  have hdraw : onSandbox Sandbox.render ticked = .ok changes drawn :=
    Run.within_eq_ok.2 ⟨_, hrender, rfl⟩
  have hframe : ∃ rate clock, Session.frame term now [] s =
      .ok (term.writeAll changes) ⟨{ b with rate }, clock⟩ := by
    unfold Session.frame
    rw [Run.bind_apply_of_ok (Run.modify_apply _ s), Run.bind_apply_of_ok hpress]
    obtain ⟨rate, clock, hmeasure⟩ : ∃ rate? clock, drawn.clock.measure = (rate?, clock) :=
      ⟨_, _, rfl⟩
    refine ⟨rate.getD b.rate, clock, ?_⟩
    refine (Run.bind_apply_of_ok htick _).trans ((Run.bind_apply_of_ok hdraw _).trans ?_)
    refine (Run.bind_apply_of_ok (Run.modify_apply _ drawn) _).trans ?_
    rw [hmeasure]
    cases rate <;> rfl
  obtain ⟨rate, clock, hframe⟩ := hframe
  exact ⟨_, _, hframe, { hb with }, hpaused'⟩

/-- Over exact time, a paused sandbox in service lets frames pass, whenever they begin. -/
theorem frames_paused (circle : Circle) :
    letI : Scalar Rat := Exact.scalar circle
    ∀ {wandIds : List String} {width : Int} {b : Sandbox Rat},
      (∀ id ∈ wandIds, (Catalog.standardWands : Registry (Wand Rat)).contains id = true) →
      (∃ columns, room width = .ok columns) → b.InService wandIds width → b.paused = true →
      ∀ (term : Terminal) (clock : FrameClock Rat) (readings : List Rat),
        ∃ t, Frames term ⟨b, clock⟩ readings t ∧ t.sandbox.InService wandIds width ∧
          t.sandbox.paused = true := by
  let : Scalar Rat := Exact.scalar circle
  intro wandIds width b hknown hroom hservice hpaused term clock readings
  induction readings using List.reverseRecOn with
  | nil => exact ⟨_, .start, hservice, hpaused⟩
  | append_singleton readings now ih =>
    obtain ⟨t, hframes, ht, hstill⟩ := ih
    obtain ⟨printed, u, hframe, hu, hstill'⟩ := frame_paused circle hknown hroom ht hstill term now
    exact ⟨u, hframes.frame hframe, hu, hstill'⟩

/-! ### How far the backlog goes -/

/-- **The backlog is bounded by the slow frames.** Over exact time, however long a session runs and
whatever keys are pressed: the backlog is less than one tick for every frame that took longer than
four ticks, and one more. It is below one tick again once there were a third as many frames that
took no longer than one tick each. -/
theorem Frames.backlog_bounded (circle : Circle) :
    letI : Scalar Rat := Exact.scalar circle
    ∀ {term : Terminal} {sandbox : Sandbox Rat} {first : Rat} {readings : List Rat}
      {t : Session Rat}, (first :: readings).IsChain (· ≤ ·) →
      Frames term ⟨sandbox, .start first⟩ readings t →
      0 ≤ t.clock.backlog ∧
      t.clock.backlog < (slowFrames first readings + 1 : Nat) * frameTime ∧
      ∀ {calm : List Rat} {u : Session Rat},
        (t.clock.last :: calm).IsChain (fun before now => before ≤ now ∧ now ≤ before + frameTime) →
        Frames term t calm u → slowFrames first readings ≤ 3 * calm.length →
        u.clock.backlog < frameTime := by
  let : Scalar Rat := Exact.scalar circle
  intro term sandbox first readings t hsorted hframes
  have hzero : (FrameClock.start first).backlog = 0 := backlog_start circle first
  have hstart : (FrameClock.start first).backlog < ((0 : Nat) + 1) * (1 / 60) := by
    rw [hzero]
    norm_num
  have hturns := backlog_turns circle (c := .start first) hzero.ge hstart hsorted
  rw [← hframes.clock, Nat.zero_add] at hturns
  obtain ⟨hleft, hmost⟩ : 0 ≤ t.clock.backlog ∧
    t.clock.backlog < (slowFrames first readings + 1 : Nat) * (1 / 60) := hturns
  rw [frameTime_exact circle]
  refine ⟨hleft, hmost, fun {calm u} hcalm hrest henough => ?_⟩
  rcases backlog_calm circle hleft hcalm with hless | hworked
  · rwa [hrest.clock]
  · rw [hrest.clock]
    have henough : (slowFrames first readings : Rat) ≤ 3 * calm.length := by exact_mod_cast henough
    push_cast at hmost
    exact hworked.trans_lt (by linarith)

section Paused

local instance ticking : Scalar Rat := Exact.scalar Sandbox.corners

/-- The sandbox has two starter wands on the smallest screen, and no tick passes. -/
def Rests (b : Sandbox Rat) : Prop := b.InService ["starter", "starter"] 60 ∧ b.paused = true

theorem exists_rests : ∃ b : Sandbox Rat, Rests b :=
  ⟨{ Sandbox.opened with paused := true }, Sandbox.opened_inService.pause, rfl⟩

theorem Rests.frames {b : Sandbox Rat} (h : Rests b) (clock : FrameClock Rat)
    (readings : List Rat) : ∃ t, Frames .ansi ⟨b, clock⟩ readings t ∧ Rests t.sandbox :=
  have hroom : ∃ columns, room 60 = .ok columns := ⟨60, rfl⟩
  frames_paused Sandbox.corners Sandbox.known_pair hroom h.1 h.2 .ansi clock readings

theorem backlog_bounded_late :
    ∃ (b : Sandbox Rat) (t u : Session Rat), Frames .ansi ⟨b, .start 0⟩ [1 / 12] t ∧
      Frames .ansi t [1 / 10] u ∧ slowFrames 0 [1 / 12] = 1 ∧ 0 ≤ t.clock.backlog ∧
      t.clock.backlog < (2 : Nat) * frameTime ∧ u.clock.backlog < frameTime := by
  obtain ⟨b, hb⟩ := exists_rests
  obtain ⟨t, ht, hrests⟩ := hb.frames (.start 0) [1 / 12]
  obtain ⟨u, hu, -⟩ := hrests.frames t.clock [1 / 10]
  have hslow : slowFrames 0 [1 / 12] = 1 := by
    decide +kernel
  have hsorted : ([0, 1 / 12] : List Rat).IsChain (· ≤ ·) := by
    decide +kernel
  have hlast : t.clock.last = 1 / 12 := by
    rw [ht.clock]
    exact last_turn _ _
  have hcalm : [t.clock.last, 1 / 10].IsChain
      (fun before now => before ≤ now ∧ now ≤ before + frameTime) := by
    rw [hlast, frameTime_exact Sandbox.corners]
    decide +kernel
  obtain ⟨hleft, hmost, hworked⟩ := ht.backlog_bounded Sandbox.corners hsorted
  rw [hslow] at hmost hworked
  exact ⟨b, t, u, ht, hu, hslow, hleft, hmost, hworked hcalm hu (by decide)⟩

/-- There is no bound for all sessions: where every frame takes five ticks of time, each adds one to
the backlog. -/
theorem backlog_unbounded :
    ¬ ∃ bound : Rat, ∀ {b : Sandbox Rat} {first : Rat} {readings : List Rat} {t : Session Rat},
      (first :: readings).IsChain (· ≤ ·) → Frames .ansi ⟨b, .start first⟩ readings t →
        t.clock.backlog < bound * frameTime := by
  rintro ⟨bound, hbound⟩
  obtain ⟨count, hcount⟩ := exists_nat_gt bound
  obtain ⟨readings, hlength, hlate⟩ := exists_late count 0
  obtain ⟨b, hb⟩ := exists_rests
  obtain ⟨t, ht, -⟩ := hb.frames (.start 0) readings
  have hsorted : ((0 : Rat) :: readings).IsChain (· ≤ ·) :=
    hlate.imp fun before now (hnow : now = before + 5 * (1 / 60)) => by linarith
  have hless := hbound hsorted ht
  have hzero : (FrameClock.start (0 : Rat)).backlog = 0 := backlog_start Sandbox.corners 0
  have hmore := backlog_late Sandbox.corners (c := .start 0) hzero.ge hlate
  rw [← ht.clock, hzero, hlength, zero_add] at hmore
  rw [frameTime_exact Sandbox.corners] at hless
  linarith

end Paused

end Session
end WandArena
