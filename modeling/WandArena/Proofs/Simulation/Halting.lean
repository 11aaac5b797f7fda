import WandArena.Proofs.Simulation.Conservation
import WandArena.Proofs.Simulation.Policy

/-! A fault in the content or the limits of a wand halts that wand alone.

As long as every wand that is held is defined and its cards fit its piles, a shot that such a fault
stops costs its own holder the wand and nobody else anything (`shoot_contained`), whatever has
become of the cards and blueprints. Nothing but values can stop a tick then
(`Standard.fitting_lasts`), and everybody who still holds a wand goes on to cast it. Without that
proviso the fault of one wand can stop the tick for everybody: regaining mana looks up the wand of
each holder, and nothing catches what it meets there. -/
namespace WandArena
variable {α : Type} [Scalar α]

/-- Every wand that is held is defined, and the cards of its definition fit its piles. Whoever goes
without the wand they were given was halted. -/
def Standard.fitting : Standard α where
  backdrop _ := True
  held b held := ∃ wand slots, b.catalog.wand held.wand = .ok wand ∧ wand.cards.length ≤ slots ∧
    held.state.piles.Fit slots
  excused b id := b.halted.contains id = true

namespace Stage
variable {keepers : List Int} {holder : Int} {s t : Stage α}

/-- A shot leaves all other holders alone. It takes away the wand that is shot only for a fault in
its content or limits, which is recorded. -/
structure Contained (holder : Int) (s t : Stage α) : Prop where
  others : ∀ id, id ≠ holder → t.world.get? .holder id = s.world.get? .holder id
  running : ∀ id, id ≠ holder → t.halted.contains id = s.halted.contains id
  own : s.world.has .holder holder = true → t.world.has .holder holder = true ∨
    ∃ fault u, castWand holder s = .error (.config fault) u ∧
      t.halted[holder]? = some fault.message

theorem Contained.of_beside (h : Beside holder s t) (hlives : Lives whoHolds s t) :
    Contained holder s t where
  others := h.others
  running := fun id _ => congrArg (·.halted.contains id) h.backdrop
  own := fun hholds => .inl ((hlives.has holder).trans hholds)

theorem Contained.of_halt {fault : ConfigFault}
    (hcast : castWand holder s = .error (.config fault) t) (hbeside : Beside holder s t) :
    Contained holder s (Run.left (halt holder fault t)) where
  others := fun id hid => by
    refine Eq.trans ?_ (hbeside.others id hid)
    show (t.world.drop .holder holder).get? .holder id = _
    rw [World.get?_drop, if_neg hid]
  running := fun id hid => by
    have hhalted : t.halted = s.halted := congrArg Backdrop.halted hbeside.backdrop
    show (t.halted.insert holder fault.message).contains id = _
    rw [Std.ExtTreeMap.contains_insert, hhalted, Bool.or_eq_right_iff_imp]
    intro hsame
    exact absurd (Std.LawfulEqCmp.compare_eq_iff_eq.1 (beq_iff_eq.1 hsame)) (Ne.symm hid)
  own := fun _ => .inr ⟨fault, t, hcast, Std.ExtTreeMap.getElem?_insert_self⟩

omit [Scalar α] in
/-- Halting a wand excuses its holder. -/
theorem Meets.halted (h : s.Meets Standard.fitting keepers) (holder : Int) (fault : ConfigFault) :
    (Run.left (halt holder fault s)).Meets Standard.fitting keepers where
  backdrop := trivial
  held := by
    intro id held hget
    change (s.world.drop .holder holder).get? .holder id = some held at hget
    rw [World.get?_drop] at hget
    split at hget
    · cases hget
    · exact h.held hget
  numbered := h.numbered
  kept := by
    intro id hid hlives
    show (s.world.drop .holder holder).has .holder id = true ∨
      (s.halted.insert holder fault.message).contains id = true
    rw [World.has_drop, Std.ExtTreeMap.contains_insert, Bool.or_eq_true]
    split
    case isTrue hsame =>
      subst hsame
      exact .inr (.inl (beq_iff_eq.2 (Std.LawfulEqCmp.compare_eq_iff_eq.2 rfl)))
    case isFalse => exact (h.kept id hid hlives).imp_right .inr

/-- However a cast of a wand that is defined and fits ends, nobody else's wand changes, and if
everybody lives on, all wands still are defined and fit. Only content, limits and values can stop
it. -/
theorem castWand_fitting (hs : s.Meets Standard.fitting keepers)
    (hholds : s.world.has .holder holder = true) :
    Beside holder s (Run.left (castWand holder s)) ∧
      (Lives whoHolds s (Run.left (castWand holder s)) →
        (Run.left (castWand holder s)).Meets Standard.fitting keepers) ∧
      ∀ fault t, castWand holder s = .error fault t → Fault.OfCast fault := by
  obtain ⟨held, hget⟩ := World.has_iff.1 hholds
  obtain ⟨wand, slots, hdefined, hfits, hfit⟩ := hs.held hget
  have hwields : s.Wields holder wand held := ⟨hget, hdefined⟩
  obtain ⟨hbeside, hmeets⟩ := hs.castWand hwields hfit.stock hfits fun state hstocked =>
    ⟨wand, slots, hdefined, hfits, hstocked.elim Piles.Stock.fit Piles.Stock.fit⟩
  exact ⟨hbeside, hmeets, fun _ _ => hwields.castWand_faults hfit.stock hfits⟩

/-- Where all wands that are held are defined and fit, a shot is contained, and only values can
stop it. -/
theorem shoot_contained (hs : s.Meets Standard.fitting keepers) (holder : Int) :
    Run.SafeAt (fun t => t.Meets Standard.fitting keepers ∧ Contained holder s t) Fault.OfValues s
      (shoot holder) := by
  unfold Run.SafeAt shoot
  split
  case isFalse =>
    exact ⟨hs.of_census rfl rfl, .of_beside ⟨rfl, rfl, fun _ _ => rfl⟩ (.of_census rfl rfl rfl)⟩
  case isTrue hholds =>
    obtain ⟨hbeside, hmeets, hfaults⟩ := castWand_fitting hs (Bool.and_eq_true_iff.1 hholds).2
    cases hcast : castWand holder s with
    | ok cast t =>
      rw [hcast] at hbeside hmeets
      have hlives := (castWand_rearms hcast).1
      exact ⟨hmeets hlives, .of_beside hbeside hlives⟩
    | error fault t =>
      rw [hcast] at hbeside hmeets
      cases hfaults fault t hcast with
      | config fault =>
        have hleft := hmeets (castWand_stopped hcast).toLives
        exact ⟨hleft.halted holder fault, .of_halt hcast hbeside⟩
      | values hvalues =>
        cases hvalues with
        | number fault => exact .number fault
        | notRange rule whole => exact .notRange rule whole
        | tooManyEnds => exact .tooManyEnds

end Stage

/-- Wands that are held stay defined and fit their piles through ticks, which only values can
stop. -/
theorem Standard.fitting_lasts : (Standard.fitting : Standard α).Lasts Fault.OfValues where
  number := .number
  defined := by
    rintro b held ⟨wand, slots, hdefined, -⟩
    exact ⟨wand, hdefined⟩
  mana := by
    rintro b held mana ⟨wand, slots, hdefined, hfits, hfit⟩
    exact ⟨wand, slots, hdefined, hfits, hfit⟩
  shoot := fun id keepers s hs => (Stage.shoot_contained hs id).mono (fun _ h => h.1) fun _ h => h

/-- Wands are spawned on new entities and on living ones that never had one. The catalog is edited
as one likes, as long as every wand that is held is defined and its cards fit its piles. -/
def Policy.fitting : Policy α where
  start _ _ _ := True
  spawn given sim target _ := ∀ id, target = some id → sim.world.isAlive id = true ∧ id ∉ given
  edit sim catalog := ∀ id held, sim.world.get? .holder id = some held →
    ∃ wand, catalog.wand held.wand = .ok wand ∧ wand.cards.length ≤ held.state.piles.deck.capacity

theorem Policy.fitting_keeps :
    (Policy.fitting : Policy α).Keeps Standard.fitting Fault.OfValues where
  toLasts := Standard.fitting_lasts
  start := fun _ => trivial
  spawn := by
    intro given sim target wandId wand state _ _ hdefined _ hfresh
    obtain ⟨slots, -, hfits, hstock⟩ := WandState.stock_of_fresh hfresh
    exact ⟨wand, slots, hdefined, hfits, hstock.fit⟩
  edit := by
    intro given sim catalog hmeets hallowed
    exact {
      backdrop := trivial
      held := fun {id held} hget => by
        obtain ⟨_, slots, -, -, hfit⟩ := hmeets.held hget
        obtain ⟨wand, hdefined, hfits⟩ := hallowed id held hget
        exact ⟨wand, slots, hdefined, hfit.deck ▸ hfits, hfit⟩
      numbered := hmeets.numbered
      kept := hmeets.kept }

namespace Simulation

/-- Cards and blueprints may be edited in any way. -/
theorem Governed.edit_cards {given : List Int} {sim : Simulation α} {catalog : Catalog α}
    (h : Governed Policy.fitting given sim) (hwands : catalog.wands = sim.catalog.wands) :
    Governed Policy.fitting given { sim with catalog } := by
  refine h.edit fun id held hget => ?_
  obtain ⟨wand, slots, hdefined, hfits, hfit⟩ := (h.meets Policy.fitting_keeps).held hget
  refine ⟨wand, ?_, hfit.deck.symm ▸ hfits⟩
  rw [Catalog.wand, hwands]
  exact hdefined

/-- **A faulty wand is halted alone.** However the cards and blueprints were edited, a tick is
stopped by nothing but values. Everybody alive who was given a wand holds it and has one cast ahead,
or was halted and has none; and a shot takes away no wand but its own, for a fault in its content or
limits that is recorded. -/
theorem Governed.halts_alone {given : List Int} {sim : Simulation α}
    (h : Governed Policy.fitting given sim) :
    (∀ fault sim', Simulation.step sim = .error fault sim' → Fault.OfValues fault) ∧
      (∀ id ∈ given, sim.world.isAlive id = true → sim.Ready [] id ∨ sim.Stopped [] id) ∧
      ∀ holder t, Stage.shoot holder sim.toStage = .ok () t →
        Stage.Contained holder sim.toStage t := by
  have horder := (h.running fun hallowed => hallowed).inOrder
  have hshot (holder : Int) := Stage.shoot_contained (h.meets Policy.fitting_keeps) holder
  exact ⟨fun _ _ => h.step_stops Policy.fitting_keeps, fun id => (horder.armed id).given,
    fun holder t hshoot => ((hshot holder).of_ok hshoot).2⟩

/-! Two wands without mana or delays, one of them without cards, in the tick after all cards were
taken out of the catalog. -/

def pair : Simulation Amount :=
  let pause : Card Amount := { id := "pause", name := "Pause" }
  let pulse : Wand Amount :=
    { id := "pulse", name := "Pulse", cards := ["pause", "pause"], maxMana := 0
      manaRecharge := .whole 1, castDelay := 0, spread := .whole 0 }
  let blank : Wand Amount := { pulse with id := "blank", name := "Blank", cards := [] }
  .start ⟨.ofList [("pause", pause)], .ofList [("pulse", pulse), ("blank", blank)], .empty⟩ {} {}
    ⟨.replicate 624 0, 624⟩ false

/-- The simulation after the first wand was spawned. -/
def pulsing : Simulation Amount :=
  { pair with toStage := Run.left (Stage.spawnWand "pulse" none pair.toStage) }

/-- The simulation after the second wand was spawned. -/
def paired : Simulation Amount :=
  { pulsing with toStage := Run.left (Stage.spawnWand "blank" none pulsing.toStage) }

/-- The simulation after all cards were taken out of the catalog. -/
def plundered : Simulation Amount :=
  { paired with catalog := { paired.catalog with cards := .empty } }

/-- The next tick has begun. -/
def plunderedBegun : Simulation Amount := Run.left (beginTick plundered)

/-- The first wand was shot. -/
def plunderedOnce : Simulation Amount :=
  { plunderedBegun with toStage := Run.left (Stage.shoot 0 plunderedBegun.toStage) }

theorem step_plundered :
    Run.value? (step plundered) = some () ∧
      (Run.left (step plundered)).world.isAlive 0 = true ∧
      (Run.left (step plundered)).world.has .holder 0 = false ∧
      (Run.left (step plundered)).world.isAlive 1 = true ∧
      (Run.left (step plundered)).world.has .holder 1 = true := by
  have hbegin : beginTick plundered = .ok [.shootWand 0, .shootWand 1] plunderedBegun :=
    Run.eq_ok_of_value? (by decide +kernel)
  have hfirst : handle (.shootWand 0) plunderedBegun = .ok () plunderedOnce :=
    handle_shot rfl (Run.eq_ok_of_value? (by decide +kernel))
  have hsecond : handle (.shootWand 1) plunderedOnce = .ok ()
      { plunderedOnce with toStage := Run.left (Stage.shoot 1 plunderedOnce.toStage) } :=
    handle_shot rfl (Run.eq_ok_of_value? (by decide +kernel))
  have hall : [Action.shootWand 0, .shootWand 1].forM handle plunderedBegun = .ok ()
      { plunderedOnce with toStage := Run.left (Stage.shoot 1 plunderedOnce.toStage) } :=
    (Run.bind_apply_of_ok hfirst _).trans (Run.forM_singleton_apply hsecond)
  unfold step
  rw [Run.bind_apply_of_ok hbegin, Run.bind_apply_of_ok hall]
  decide +kernel

theorem halts_alone_plundered :
    ∃ sim : Simulation Amount, Governed .fitting [1, 0] sim ∧ sim.Stopped [] 0 ∧ sim.Ready [] 1 ∧
      ∀ fault sim', Simulation.step sim = .error fault sim' → Fault.OfValues fault := by
  have hpulse : Stage.spawnWand "pulse" none pair.toStage = .ok 0 pulsing.toStage :=
    Run.eq_ok_of_value? (by decide +kernel)
  have hblank : Stage.spawnWand "blank" none pulsing.toStage = .ok 1 paired.toStage :=
    Run.eq_ok_of_value? (by decide +kernel)
  have hpair : Governed .fitting [] pair := .start trivial _ _
  have hpulsing : Governed .fitting [0] pulsing :=
    hpair.spawn rfl (fun _ hnone => by cases hnone) hpulse
  have hpaired : Governed .fitting [1, 0] paired :=
    hpulsing.spawn rfl (fun _ hnone => by cases hnone) hblank
  have hplundered : Governed .fitting [1, 0] plundered := hpaired.edit_cards rfl
  obtain ⟨hstep, hlives, hlost, hlives', hholds⟩ := step_plundered
  have hgoverned := hplundered.step (Run.eq_ok_of_value? hstep)
  obtain ⟨hstops, hstands, -⟩ := hgoverned.halts_alone
  refine ⟨_, hgoverned, ?_, ?_, hstops⟩
  · refine (hstands 0 (by decide) hlives).resolve_left fun hready => ?_
    exact Bool.false_ne_true (hlost.symm.trans hready.holds)
  · refine (hstands 1 (by decide) hlives').resolve_right fun hstopped => ?_
    exact Bool.false_ne_true (hstopped.lost.symm.trans hholds)

/-! A wand that is not defined any more, in a tick in which it is not even cast. -/

/-- The simulation after a wand was spawned and all wands were taken out of the catalog. -/
def orphaned : Simulation Amount :=
  ⟨{ Stage.focused with catalog := { Stage.focused.catalog with wands := .empty } }, .empty⟩

theorem step_orphaned :
    ∃ sim sim' : Simulation Amount, Running [0] sim ∧
      Simulation.step sim = .error (.config (.unknownWand "focus")) sim' := by
  have hspawn : Stage.spawnWand "focus" none Stage.still = .ok 0 Stage.focused :=
    Run.eq_ok_of_value? (by decide +kernel)
  have hstill : Running [] (⟨Stage.still, .empty⟩ : Simulation Amount) := .start _ _ _ _ _
  have hfocused : Running [0] (⟨Stage.focused, .empty⟩ : Simulation Amount) :=
    hstill.spawn (fun _ hnone => by cases hnone) hspawn
  have hstops : Run.fault? (Simulation.step orphaned) = some (.config (.unknownWand "focus")) := by
    decide +kernel
  exact ⟨orphaned, _, hfocused.edit _, Run.eq_error_of_fault? hstops⟩

end Simulation
end WandArena
