import WandArena.Proofs.Catalog
import WandArena.Proofs.Simulation.Flight
import WandArena.Proofs.Wand.Stock
import WandArena.Proofs.World.Store

/-! Spawning a wand does all it has to do, or nothing.

Content, limits and the entity can all stand in the way of a wand (`Stage.Refused`), and so can piles
with more slots than any row can have. All of it is looked at before anything changes. So either
there is something in the way and the stage stays as it was, or there is nothing and the wand is in
the hands of its holder as it was declared, with its first cast scheduled
(`spawnWand_all_or_nothing`). -/
namespace WandArena
variable {α : Type}

namespace Catalog

theorem wand_eq_ok {catalog : Catalog α} {id : String} {wand : Wand α} :
    catalog.wand id = .ok wand ↔ catalog.wands.get? id = some wand := by
  unfold Catalog.wand
  cases catalog.wands.get? id <;> simp

theorem mem_blueprintIds_iff {card : Card α} {blueprint : String} :
    blueprint ∈ card.blueprintIds ↔ ∃ kind, .projectile blueprint kind ∈ card.effects := by
  refine ⟨fun h => ?_, fun ⟨_, h⟩ => mem_blueprintIds h⟩
  obtain ⟨effect, heffect, hnames⟩ := List.mem_filterMap.1 h
  cases effect with
  | projectile named kind =>
    cases hnames
    exact ⟨kind, heffect⟩
  | modifier | multicast => cases hnames

end Catalog

/-! ### Fresh wands -/

namespace WandState

/-- A wand as it is declared: all its cards in the deck, in order, and full mana. -/
structure Dealt [Quantity α] (wand : Wand α) (state : WandState α) : Prop where
  deck : state.piles.deck.toList = Piles.deal wand.cards
  hand : state.piles.hand.toList = []
  discarded : state.piles.discarded.toList = []
  mana : state.mana = Quantity.whole wand.maxMana
  rechargeDelay : state.rechargeDelay = wand.rechargeDelay

variable [Quantity α] {wand : Wand α} {capacity : Int}

theorem dealt_of_fresh {state : WandState α} (h : fresh wand capacity = .ok state) :
    Dealt wand state := by
  obtain ⟨slots, hreset⟩ := reset_of_fresh h
  obtain ⟨hdeck, hhand, hdiscarded, -, -, hdelay⟩ := reset_eq_ok hreset
  exact ⟨hdeck, hhand, hdiscarded, mana_of_fresh h, hdelay⟩

/-- A fresh state takes piles that are large enough, and room for them. -/
theorem fresh_eq_ok_iff : (∃ state, fresh wand capacity = .ok state) ↔
    (wand.cards.length : Int) ≤ capacity ∧ ∃ slots, room capacity = .ok slots := by
  constructor
  · rintro ⟨state, h⟩
    unfold fresh at h
    split at h
    case isTrue => cases h
    case isFalse hfits =>
      refine ⟨Int.not_lt.1 hfits, ?_⟩
      cases hroom : room capacity with
      | ok slots => exact ⟨slots, rfl⟩
      | error fault =>
        rw [hroom] at h
        cases h
  · rintro ⟨hfits, slots, hroom⟩
    obtain ⟨state, hfresh, -⟩ := fresh_of_fits hroom hfits
    exact ⟨state, hfresh⟩

theorem fresh_eq_error {fault : Fault} (hfits : (wand.cards.length : Int) ≤ capacity)
    (hroom : room capacity = .error fault) : fresh wand capacity = .error fault := by
  unfold fresh
  rw [if_neg (Int.not_lt.2 hfits), hroom]

end WandState

namespace Stage
variable {wandId : String} {target : Option Int} {s t : Stage α}

/-! ### What stands in the way of a wand -/

/-- Something is wrong with a wand or with the entity it is meant for. -/
inductive Refused (s : Stage α) (wandId : String) (target : Option Int) : Prop
  | unknownWand (hwand : s.catalog.wands.get? wandId = none)
  | unknownCard {wand : Wand α} {id : String} (hwand : s.catalog.wands.get? wandId = some wand)
    (hid : id ∈ wand.cards) (hcard : s.catalog.cards.get? id = none)
  | unknownBlueprint {wand : Wand α} {id blueprint : String} {card : Card α} {kind : ShotKind}
    (hwand : s.catalog.wands.get? wandId = some wand) (hid : id ∈ wand.cards)
    (hcard : s.catalog.cards.get? id = some card)
    (heffect : .projectile blueprint kind ∈ card.effects)
    (hblueprint : s.catalog.blueprints.get? blueprint = none)
  | tooLarge {wand : Wand α} (hwand : s.catalog.wands.get? wandId = some wand)
    (hcards : s.settings.maxDeckSize < wand.cards.length)
  | nobody {id : Int} (htarget : target = some id)
    (hmissing : s.world.existing.contains id = false)

/-- A wand that nothing is wrong with is known with all its cards, which fit its piles, and there is
an entity to hold it. -/
theorem not_refused_iff : ¬ s.Refused wandId target ↔
    ∃ wand, s.catalog.wands.get? wandId = some wand ∧ s.catalog.checkWand wand = .ok () ∧
      (wand.cards.length : Int) ≤ s.settings.maxDeckSize ∧
      ∀ id, target = some id → s.world.existing.contains id = true := by
  constructor
  · intro hnot
    cases hwand : s.catalog.wands.get? wandId with
    | none => exact absurd (.unknownWand hwand) hnot
    | some wand =>
      refine ⟨wand, rfl, Catalog.checkWand_eq_ok_iff.2 fun id hid => ?_, ?_, fun id htarget => ?_⟩
      · cases hcard : s.catalog.cards.get? id with
        | none => exact absurd (.unknownCard hwand hid hcard) hnot
        | some card =>
          refine ⟨card, hcard, fun blueprint hnamed => ?_⟩
          obtain ⟨kind, heffect⟩ := Catalog.mem_blueprintIds_iff.1 hnamed
          cases hblueprint : s.catalog.blueprints.get? blueprint with
          | none => exact absurd (.unknownBlueprint hwand hid hcard heffect hblueprint) hnot
          | some found => exact congrArg Option.isSome hblueprint
      · exact Int.not_lt.1 fun hcards => hnot (.tooLarge hwand hcards)
      · exact Bool.not_eq_false _ ▸ fun hmissing => hnot (.nobody htarget hmissing)
  · rintro ⟨wand, hwand, hcheck, hfits, hthere⟩ hrefused
    have hoffers := Catalog.checkWand_eq_ok_iff.1 hcheck
    cases hrefused with
    | unknownWand hnone => cases hwand.symm.trans hnone
    | unknownCard hwand' hid hnone =>
      cases hwand.symm.trans hwand'
      obtain ⟨card, hcard, -⟩ := hoffers _ hid
      cases hcard.symm.trans hnone
    | unknownBlueprint hwand' hid hcard heffect hnone =>
      cases hwand.symm.trans hwand'
      obtain ⟨card, hcard', hall⟩ := hoffers _ hid
      cases hcard.symm.trans hcard'
      have hfound := hall _ (Catalog.mem_blueprintIds heffect)
      rw [Registry.contains, hnone] at hfound
      cases hfound
    | tooLarge hwand' hcards =>
      cases hwand.symm.trans hwand'
      exact Int.not_lt.2 hfits hcards
    | nobody htarget hmissing => cases (hthere _ htarget).symm.trans hmissing

/-! ### What a spawned wand brings -/

section Brought
variable [Quantity α]

/-- The stage with a wand in the hands of an entity, which is new if no target is given. Nothing but
the world and the agenda has changed. -/
structure Spawned (s : Stage α) (wandId : String) (wand : Wand α) (target : Option Int) (id : Int)
    (t : Stage α) : Prop where
  holds : ∃ state, t.world.get? .holder id = some ⟨wandId, state⟩ ∧ state.Dealt wand
  shows : t.world.get? .manaBar id = some (255 : Int)
  others : ∀ k other, (k ≠ .holder ∧ k ≠ .manaBar ∨ other ≠ id) →
    t.world.get? k other = s.world.get? k other
  existing : ∀ other, t.world.existing.contains other = true ↔
    s.world.existing.contains other = true ∨ target = none ∧ other = id
  marked : t.world.marked = s.world.marked
  nextId : t.world.nextId = s.world.nextId + if target = none then 1 else 0
  agenda : t.agenda = s.agenda.schedule (s.tick + wand.castDelay) (.shootWand id)
  rest : t = { s with world := t.world, agenda := t.agenda }

omit [Quantity α] in
theorem get?_toHold (s : Stage α) (target : Option Int) (k : ComponentKind) (id : Int) :
    (s.toHold target).world.get? k id = s.world.get? k id := by
  cases target with
  | some _ => rfl
  | none => exact s.world.get?_create_of_kind List.not_mem_nil id

theorem spawned_armed {wand : Wand α} {state : WandState α} (h : state.Dealt wand) :
    Spawned s wandId wand target (target.getD s.world.nextId)
      ((s.toHold target).armed (target.getD s.world.nextId) ⟨wandId, state⟩ wand.castDelay) where
  holds := ⟨state, by rw [get?_armed, if_pos rfl], h⟩
  shows := by
    show (World.put _ .manaBar _ _).get? .manaBar _ = _
    rw [World.get?_put, if_pos rfl]
  others := fun k other hother => by
    rw [← get?_toHold s target k other]
    show (World.put (World.put _ .holder _ _) .manaBar _ _).get? k other = _
    rcases hother with ⟨hholder, hbar⟩ | hid
    · rw [World.get?_put_of_ne _ hbar, World.get?_put_of_ne _ hholder]
    · rw [World.get?_put_other _ .manaBar k hid, World.get?_put_other _ .holder k hid]
  existing := fun other => by
    cases target with
    | some _ => exact ⟨.inl, fun hthere => hthere.resolve_right nofun⟩
    | none =>
      refine (World.contains_born s.world other).trans ?_
      rw [or_comm]
      exact or_congr_right ⟨fun hid => ⟨rfl, hid⟩, And.right⟩
  marked := by cases target <;> rfl
  nextId := by cases target <;> simp [toHold, armed, World.create, World.put]
  agenda := by cases target <;> rfl
  rest := by cases target <;> rfl

end Brought

variable [Scalar α]

/-- **A wand is spawned with everything it needs, or nothing changes.** If the wand, one of its
cards or one of their blueprints is unknown, if there are more cards than fit a pile, if the entity
that is to hold the wand does not exist, or if no row can have as many slots as a pile, there is a
fault and the stage stays as it was. Otherwise the entity, or a new one, holds the wand with all its
cards in the deck, its first cast is scheduled, and nothing else has changed. -/
theorem spawnWand_all_or_nothing (wandId : String) (target : Option Int) (s : Stage α) :
    ((s.Refused wandId target ∨ 0x1000000000000000 ≤ s.settings.maxDeckSize) ∧
        ∃ fault, spawnWand wandId target s = .error fault s ∧
          (¬ s.Refused wandId target → fault =
            if s.settings.maxDeckSize < 0x8000000000000000 then .noMemory else .uncountable)) ∨
      (¬ s.Refused wandId target ∧ s.settings.maxDeckSize < 0x1000000000000000) ∧
        ∃ wand t, s.catalog.wands.get? wandId = some wand ∧
          spawnWand wandId target s = .ok (target.getD s.world.nextId) t ∧
          s.Spawned wandId wand target (target.getD s.world.nextId) t := by
  by_cases hrefused : s.Refused wandId target
  · refine .inl ⟨.inl hrefused, ?_⟩
    rcases spawnWand_cases wandId target s with
      ⟨fault, hend⟩ | ⟨wand, state, hdefined, hcheck, hfresh, hexists, -⟩
    · exact ⟨fault, hend, absurd hrefused⟩
    · obtain ⟨hfits, -⟩ := WandState.fresh_eq_ok_iff.1 ⟨state, hfresh⟩
      have hwand := Catalog.wand_eq_ok.1 hdefined
      refine absurd hrefused (not_refused_iff.2 ⟨wand, hwand, hcheck, hfits, fun id htarget => ?_⟩)
      subst htarget
      exact hexists
  · obtain ⟨wand, hwand, hcheck, hfits, hthere⟩ := not_refused_iff.1 hrefused
    have hdefined := Catalog.wand_eq_ok.2 hwand
    have hleast : 0 ≤ s.settings.maxDeckSize := Int.le_trans (Int.natCast_nonneg _) hfits
    by_cases hslots : s.settings.maxDeckSize < 0x1000000000000000
    · obtain ⟨state, hfresh⟩ :=
        WandState.fresh_eq_ok_iff.2 ⟨hfits, (exists_room_iff hleast).2 hslots⟩
      have hexists :
          (s.toHold target).world.existing.contains (target.getD s.world.nextId) = true := by
        cases target with
        | none => exact Std.ExtTreeSet.contains_insert_self
        | some id => exact hthere id rfl
      refine .inr ⟨⟨hrefused, hslots⟩, wand, _, hwand, ?_,
        spawned_armed (WandState.dealt_of_fresh hfresh)⟩
      rw [spawnWand_apply hdefined hcheck hfresh, hold_apply hexists]
    · have hmany := Int.not_lt.1 hslots
      have hunmade := WandState.fresh_eq_error hfits (room_eq_error hmany)
      exact .inl ⟨.inr hmany, _, spawnWand_of_unmade hdefined hcheck hunmade, fun _ => rfl⟩

/-! Piles of so many slots that they cannot even be counted. -/

section Boundless

def blank : Wand Amount :=
  { id := "blank", name := "Blank", cards := [], manaRecharge := .whole 1, castDelay := 5
    spread := .whole 0 }

/-- A stage that sets no sensible limit to the size of a pile. -/
def boundless : Stage Amount :=
  .start ⟨.empty, .ofList [("blank", blank)], .empty⟩ {} { maxDeckSize := 0x8000000000000000 }
    ⟨.replicate 624 0, 624⟩ false

/-- A wand may be refused though nothing is wrong with it or its holder. -/
theorem spawnWand_boundless : ¬ boundless.Refused "blank" none ∧
    spawnWand "blank" none boundless = .error .uncountable boundless := by
  refine ⟨not_refused_iff.2 ⟨blank, rfl, rfl, ?_, nofun⟩, ?_⟩
  · show (0 : Int) ≤ 0x8000000000000000
    decide
  · have hstops : Run.fault? (spawnWand "blank" none boundless) = some .uncountable := by
      decide +kernel
    have hend := Run.eq_error_of_fault? hstops
    rwa [spawnWand_eq_error hend] at hend

end Boundless

end Stage
end WandArena
