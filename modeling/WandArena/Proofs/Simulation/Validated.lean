import WandArena.Number.Exact
import WandArena.Proofs.Catalog.Standard
import WandArena.Proofs.Simulation.Conservation
import WandArena.Proofs.Simulation.Policy

/-! Wands that passed their check are never halted.

The check of a wand is made once, when it is spawned. Under the usual rules, where every lifetime is
a pair of ends and the catalog is left alone while wands are held, it holds for good: the cards in
the piles are those of the wand, so every card a cast can come to is offered
(`Wields.castWand_numeric`). No cast is stopped by content or limits then, and nothing but
arithmetic can stop a tick (`Policy.validated_keeps`). -/
namespace WandArena
variable {α : Type} [Scalar α]

namespace Backdrop

/-- What a cast of the given wand goes by. -/
def caster (b : Backdrop α) (wand : Wand α) : Caster α :=
  ⟨wand.id, b.catalog.cards, b.rules, b.settings.maxCastDepth⟩

/-- The wand passed its check, it has no more cards than draws may nest, and there is room for as
many nested draws as they take. -/
structure Sound (b : Backdrop α) (wand : Wand α) : Prop where
  checked : b.catalog.checkWand wand = .ok ()
  few : (wand.cards.length : Int) ≤ b.settings.maxCastDepth + 1
  room : (b.caster wand).RoomFor (Piles.deal wand.cards)

end Backdrop

/-- The usual rules hold, lifetimes are pairs, nobody was halted, and every wand that is held is
sound and has all its cards in its piles. Everybody keeps the wand they were given. -/
def Standard.validated : Standard α where
  backdrop b := b.rules = {} ∧ b.catalog.Paired ∧ b.halted = ∅
  held b held := ∃ wand slots, b.catalog.wand held.wand = .ok wand ∧ b.Sound wand ∧
    wand.cards.length ≤ slots ∧ held.state.piles.Stock slots (Piles.deal wand.cards)
  excused _ _ := False

namespace Stage
variable {holder : Int} {wand : Wand α} {held : Holder α} {s t : Stage α} {slots : Nat}

/-- Under the usual rules, a cast of a sound wand is stopped by nothing but arithmetic. -/
theorem Wields.castWand_numeric (h : s.Wields holder wand held) (hrules : s.rules = {})
    (hpaired : s.catalog.Paired) (hsound : s.backdrop.Sound wand)
    (hfits : wand.cards.length ≤ slots)
    (hstock : held.state.piles.Stock slots (Piles.deal wand.cards)) {fault : Fault}
    (hcast : castWand holder s = .error fault t) : Fault.Numeric fault := by
  have hoffered : ∀ ref ∈ held.state.piles.row.cards, s.catalog.Offers ref.id := by
    intro ref href
    have hdealt : ref ∈ Piles.deal wand.cards := hstock.mem_row href
    refine Catalog.checkWand_eq_ok_iff.1 hsound.checked ref.id ?_
    exact Piles.id_mem_of_mem_deal hdealt
  have hlimit : (0 : Int) + held.state.piles.row.cards.length ≤
      (s.caster wand).maxDepth + 1 := by
    have hrow := hstock.length_row_le
    have hfew : (wand.cards.length : Int) ≤ (s.caster wand).maxDepth + 1 := hsound.few
    rw [Piles.length_deal] at hrow
    omega
  have hfresh : ({ Cast.fresh with castDelay := wand.castDelay } : Cast α).shots = [] := rfl
  obtain ⟨hdraws, hprovided⟩ :=
    Caster.resolveOn_provided hstock.fit rfl hrules hpaired hoffered hlimit hfresh .empty
  refine h.castWand_stops hstock hfits (fun fault hfault => ?_) (fun hnone t haside => ?_) hcast
  · cases hdraws fault hfault with
    | number fault => exact .number fault
    | outOfStack => exact absurd hfault (hsound.room _ _ _ hstock)
  · obtain ⟨hshots, hstats⟩ := hprovided hnone
    have hcatalog : t.catalog = s.catalog := haside.toBeside.catalog
    have hrules' : t.rules = s.rules := congrArg Backdrop.rules haside.backdrop
    refine launch_provided wand holder ?_ ?_ hstats ?_
    · rw [hrules', hrules]
    · rw [hcatalog]
      exact hpaired
    · rw [hcatalog]
      exact hshots

end Stage

namespace Standard
open Stage

/-- Where all content is validated, no cast is stopped by anything but arithmetic. -/
theorem castWand_validated {keepers : List Int} {s : Stage α} {id : Int}
    (hs : s.Meets Standard.validated keepers) (hholds : s.world.has .holder id = true) :
    Run.SafeAt (Meets Standard.validated keepers) Fault.Numeric s (castWand id) := by
  obtain ⟨held, hget⟩ := World.has_iff.1 hholds
  obtain ⟨wand, slots, hdefined, hsound, hfits, hstock⟩ := hs.held hget
  have hwields : s.Wields id wand held := ⟨hget, hdefined⟩
  have hmeets := (hs.castWand hwields hstock hfits fun state hstocked =>
    ⟨wand, slots, hdefined, hsound, hfits, or_self_iff.1 hstocked⟩).2
  unfold Run.SafeAt
  cases hcast : castWand id s with
  | error fault t =>
    exact hwields.castWand_numeric hs.backdrop.1 hs.backdrop.2.1 hsound hfits hstock hcast
  | ok cast t =>
    rw [hcast] at hmeets
    exact hmeets (castWand_rearms hcast).1

/-- Validated content stays as it is through ticks, which nothing but arithmetic can stop. -/
theorem validated_lasts : (Standard.validated : Standard α).Lasts Fault.Numeric where
  number := .number
  defined := by
    rintro b held ⟨wand, slots, hdefined, -⟩
    exact ⟨wand, hdefined⟩
  mana := by
    rintro b held mana ⟨wand, slots, hdefined, hsound, hfits, hstock⟩
    exact ⟨wand, slots, hdefined, hsound, hfits, hstock⟩
  shoot := by
    intro id keepers s hs
    unfold Run.SafeAt Stage.shoot
    split
    case isTrue hholds =>
      have hsafe := castWand_validated hs (Bool.and_eq_true_iff.1 hholds).2
      unfold Run.SafeAt at hsafe
      cases hcast : castWand id s with
      | ok cast t =>
        rw [hcast] at hsafe
        exact hsafe
      | error fault t =>
        rw [hcast] at hsafe
        cases hsafe with
        | number fault => exact .number fault
    case isFalse => exact hs.of_census rfl rfl

end Standard

/-- The simulation starts with the usual rules and a catalog in which every lifetime is a pair. The
wands that are spawned have no more cards than draws may nest, and there is room for as many nested
draws. The catalog is only edited while nobody holds a wand. -/
def Policy.validated : Policy α where
  start catalog rules _ := rules = {} ∧ catalog.Paired
  spawn _ sim _ wand := (wand.cards.length : Int) ≤ sim.settings.maxCastDepth + 1 ∧
    (sim.caster wand).RoomFor (Piles.deal wand.cards)
  edit sim catalog := (∀ id, sim.world.has .holder id = false) ∧ catalog.Paired

/-- Under the policy of validation all content is validated. -/
theorem Policy.validated_keeps :
    (Policy.validated : Policy α).Keeps Standard.validated Fault.Numeric where
  toLasts := Standard.validated_lasts
  start := fun h => ⟨h.1, h.2, rfl⟩
  spawn := by
    intro given sim target wandId wand state _ hallowed hdefined hcheck hfresh
    obtain ⟨slots, -, hfits, hstock⟩ := WandState.stock_of_fresh hfresh
    exact ⟨wand, slots, hdefined, ⟨hcheck, hallowed.1, hallowed.2⟩, hfits, hstock⟩
  edit := by
    intro given sim catalog hmeets hallowed
    have hnone (id : Int) : sim.world.get? .holder id = none := by
      have hlost := hallowed.1 id
      rw [World.has_eq] at hlost
      exact Option.isNone_iff_eq_none.1 (Option.isSome_eq_false_iff.1 hlost)
    exact {
      backdrop := ⟨hmeets.backdrop.1, hallowed.2, hmeets.backdrop.2.2⟩
      held := fun {id held} hget => by
        rw [hnone id] at hget
        cases hget
      numbered := hmeets.numbered
      kept := hmeets.kept }

/-- The simulation may start with the standard catalog. -/
theorem Policy.validated_start_standard (settings : Settings) :
    (Policy.validated : Policy α).start .standard {} settings :=
  ⟨rfl, Catalog.standard_paired⟩

/-- Every standard wand may be spawned, unless draws may hardly nest at all. -/
theorem Policy.validated_spawn_standard {given : List Int} {sim : Simulation α}
    {target : Option Int} {wandId : String} {wand : Wand α} (hcatalog : sim.catalog = .standard)
    (hlimit : 5 ≤ sim.settings.maxCastDepth) (hdefined : sim.catalog.wand wandId = .ok wand) :
    Policy.validated.spawn given sim target wand := by
  rw [hcatalog] at hdefined
  have hfew := Catalog.length_cards_standard hdefined
  refine ⟨by omega, Caster.roomFor_of_lt ?_⟩
  rw [Piles.length_deal]
  exact Nat.lt_of_le_of_lt hfew (by decide)

namespace Simulation

/-- **Validated content never halts.** Whatever wands were spawned and however many ticks have
passed, nobody was halted, everybody alive still holds the wand they were given, and neither a cast
nor a tick can be stopped by anything but arithmetic. -/
theorem Governed.never_halts {given : List Int} {sim : Simulation α}
    (h : Governed Policy.validated given sim) :
    sim.halted = ∅ ∧
      (∀ id ∈ given, sim.world.isAlive id = true → sim.world.has .holder id = true) ∧
      (∀ id fault t, sim.world.has .holder id = true →
        Stage.castWand id sim.toStage = .error fault t → Fault.Numeric fault) ∧
      ∀ fault sim', Simulation.step sim = .error fault sim' → Fault.Numeric fault := by
  have hmeets := h.meets Policy.validated_keeps
  refine ⟨hmeets.backdrop.2.2,
    fun id hid hlives => (hmeets.kept id hid hlives).resolve_right not_false,
    fun id fault t hholds hcast => ?_, fun _ _ => h.step_stops Policy.validated_keeps⟩
  exact (Standard.castWand_validated hmeets hholds).of_error hcast

/-! The standard starter wand in the hands of a new entity, up to the tick of its first cast. -/

section Starter

/-- Numbers that turn by a square circle. -/
local instance square : Scalar Rat :=
  Exact.scalar ⟨4, fun _ => 0, fun _ => 1, fun _ _ => 0, by decide⟩

def arena : Simulation Rat := .start .standard {} {} ⟨.replicate 624 0, 0⟩ false

/-- The simulation after the wand was spawned. -/
def started : Simulation Rat :=
  { arena with toStage := Run.left (Stage.spawnWand "starter" none arena.toStage) }

/-- The simulation five ticks later. -/
def ready : Simulation Rat := Run.left (run 5 started)

/-- The sixth tick has begun. -/
def drawing : Simulation Rat := Run.left (beginTick ready)

/-- The stage once the wand was cast. -/
def fired : Stage Rat := Run.left (Stage.shoot 0 drawing.toStage)

theorem step_ready :
    Run.value? (step ready) = some () ∧ (Run.left (step ready)).world.isAlive 0 = true ∧
      (Run.left (step ready)).world.has .projectile 1 = true := by
  have hbegin : beginTick ready = .ok [.shootWand 0] drawing :=
    Run.eq_ok_of_value? (by decide +kernel)
  have hshoot : Stage.shoot 0 drawing.toStage = .ok () fired :=
    Run.eq_ok_of_value? (by decide +kernel)
  have hhandle : handle (.shootWand 0) drawing = .ok () { drawing with toStage := fired } :=
    handle_shot rfl hshoot
  unfold step
  rw [Run.bind_apply_of_ok hbegin, Run.bind_apply_of_ok (Run.forM_singleton_apply hhandle)]
  decide +kernel

theorem never_halts_starter :
    ∃ sim : Simulation Rat, Governed .validated [0] sim ∧ sim.world.has .projectile 1 = true ∧
      sim.halted = ∅ ∧ sim.world.has .holder 0 = true ∧
      ∀ fault sim', Simulation.step sim = .error fault sim' → Fault.Numeric fault := by
  have hstart : Governed .validated [] arena := .start (Policy.validated_start_standard _) _ _
  have hspawn : Stage.spawnWand "starter" none arena.toStage = .ok 0 started.toStage :=
    Run.eq_ok_of_value? (by decide +kernel)
  have hdefined : (arena.catalog.wand "starter").toBool = true := by decide +kernel
  cases hwand : arena.catalog.wand "starter" with
  | error fault =>
    rw [hwand] at hdefined
    cases hdefined
  | ok wand =>
    have hstarted : Governed .validated [0] started :=
      hstart.spawn hwand (Policy.validated_spawn_standard rfl (by decide) hwand) hspawn
    have hready : run 5 started = .ok () ready := Run.eq_ok_of_value? (by decide +kernel)
    obtain ⟨hstep, hlives, hshot⟩ := step_ready
    have hgoverned := (hstarted.run hready).step (Run.eq_ok_of_value? hstep)
    obtain ⟨hhalted, hholds, -, hstops⟩ := hgoverned.never_halts
    exact ⟨_, hgoverned, hshot, hhalted, hholds 0 List.mem_cons_self hlives, hstops⟩

end Starter

end Simulation
end WandArena
