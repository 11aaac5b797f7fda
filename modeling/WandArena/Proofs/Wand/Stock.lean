import WandArena.Proofs.Cast.Faults
import WandArena.Proofs.Wand.State

/-! No card of a wand is lost or doubled.

`Piles.Stock` says that the piles have one capacity, which is enough for all their cards, and that
these are the cards of one lot in any order. Drawing keeps it wherever it stops
(`Stock.resolveOn`). With it discarding and dealing find the room they need, so neither of them
meets a full pile. -/
namespace WandArena
variable {α : Type}

namespace Piles

/-- The cards in all three piles. -/
def cards (piles : Piles) : List CardRef :=
  piles.deck.toList ++ piles.hand.toList ++ piles.discarded.toList

/-- The piles have one capacity and room for all their cards, which are those of the lot. -/
structure Stock (capacity : Nat) (lot : List CardRef) (piles : Piles) : Prop where
  fit : piles.Fit capacity
  cards : piles.cards.Perm lot

theorem length_cards (piles : Piles) :
    piles.cards.length = piles.deck.used + piles.hand.used + piles.discarded.used := by
  simp only [cards, List.length_append, Ring.length_toList]

theorem Fit.of_slots {piles before : Piles} {capacity : Nat} (h : before.Fit capacity)
    (hslots : piles.SameSlots before) (htotal : piles.cards.length ≤ capacity) :
    piles.Fit capacity where
  deck := hslots.deck.trans h.deck
  hand := hslots.hand.trans h.hand
  discarded := hslots.discarded.trans h.discarded
  total := by rwa [← length_cards]

/-- Piles with room hold the lot of their own cards. -/
theorem Fit.stock {piles : Piles} {capacity : Nat} (h : piles.Fit capacity) :
    piles.Stock capacity piles.cards :=
  ⟨h, .refl _⟩

/-- The row of some piles lists their deck and their discard pile. -/
theorem row_perm (piles : Piles) :
    piles.row.cards.Perm (piles.deck.toList ++ piles.discarded.toList) :=
  (List.mergeSort_perm _ _).append_left _

theorem cards_perm_row (piles : Piles) :
    piles.cards.Perm (piles.row.cards ++ piles.hand.toList) := by
  have hrow := piles.row_perm.append_right piles.hand.toList
  refine List.Perm.trans ?_ hrow.symm
  rw [cards, List.append_assoc, List.append_assoc]
  exact List.perm_append_comm.append_left _

/-- What is left of the row is what the deck and the discard pile hold. -/
theorem DrawnAlike.left_perm {start piles : Piles} {row : Row} (h : DrawnAlike start piles row) :
    (piles.deck.toList ++ piles.discarded.toList).Perm row.cards := by
  rcases Nat.lt_or_ge start.deck.used row.taken with hbeyond | hin
  · obtain ⟨hdeck, hdiscarded⟩ := h.beyond hbeyond
    rw [hdeck, hdiscarded, List.append_nil]
  · obtain ⟨hdeck, hdiscarded⟩ := h.inDeck hin
    rw [hdeck, hdiscarded, h.cards, drop_row start hin]
    exact (List.mergeSort_perm _ _).symm.append_left _

/-- Drawing moves cards between the piles and nothing else. -/
theorem DrawnAlike.cards_perm {start piles : Piles} {row : Row} (h : DrawnAlike start piles row) :
    piles.cards.Perm start.cards :=
  calc
    List.Perm piles.cards (piles.deck.toList ++ piles.discarded.toList ++ piles.hand.toList) :=
      piles.cards_perm_row.trans (piles.row_perm.append_right _)
    List.Perm _ (row.cards ++ piles.hand.toList) := h.left_perm.append_right _
    List.Perm _ (start.row.cards.take row.taken ++ row.cards ++ start.hand.toList) := by
      rw [h.hand, List.append_assoc]
      refine List.perm_append_comm.trans ?_
      rw [List.append_assoc]
      exact List.perm_append_comm.trans (.of_eq (List.append_assoc _ _ _))
    List.Perm _ start.cards := by
      rw [h.cards, List.take_append_drop]
      exact start.cards_perm_row.symm

namespace Stock
variable {piles before : Piles} {capacity : Nat} {lot : List CardRef}

theorem of_perm (h : before.Stock capacity lot) (hslots : piles.SameSlots before)
    (hcards : piles.cards.Perm before.cards) : piles.Stock capacity lot := by
  refine ⟨h.fit.of_slots hslots ?_, hcards.trans h.cards⟩
  rw [hcards.length_eq, length_cards]
  exact h.fit.total

theorem of_dealt (h : before.Fit capacity) (hslots : piles.SameSlots before)
    (hcards : piles.cards = lot) (hroom : lot.length ≤ capacity) : piles.Stock capacity lot :=
  ⟨h.of_slots hslots (by rwa [hcards]), .of_eq hcards⟩

theorem row_perm (h : piles.Stock capacity lot) :
    (piles.row.cards ++ piles.hand.toList).Perm lot :=
  piles.cards_perm_row.symm.trans h.cards

theorem mem_row (h : piles.Stock capacity lot) {ref : CardRef} (href : ref ∈ piles.row.cards) :
    ref ∈ lot :=
  h.row_perm.mem_iff.1 (List.mem_append_left _ href)

theorem length_row_le (h : piles.Stock capacity lot) : piles.row.cards.length ≤ lot.length := by
  rw [← h.row_perm.length_eq, List.length_append]
  exact Nat.le_add_right _ _

theorem used_le (h : piles.Stock capacity lot) :
    piles.deck.used ≤ capacity ∧ piles.hand.used ≤ capacity ∧ piles.discarded.used ≤ capacity := by
  have := h.fit.total
  omega

/-- Wherever a resolution stops, the cards are still there. -/
theorem resolveOn [Scalar α] {state : WandState α} (h : state.piles.Stock capacity lot)
    (c : Caster α) (depth : Int) (cast : Cast α) :
    (c.resolveOn depth state cast).wand.piles.Stock capacity lot := by
  obtain ⟨ending, hending, -, -, hpiles⟩ := c.resolveOn_ending depth state cast
  have hmatched := c.resolve_row Caster.stackSize depth
    (s := ⟨state.piles, state.mana, state.rechargeDelay, cast, #[]⟩) h.fit
  rw [← hending] at hmatched
  have halike := hmatched.outcome_eq.2
  rw [hpiles]
  exact h.of_perm halike.slots halike.cards_perm

end Stock

/-- Cards that fit are all pushed. -/
theorem pushAll_of_fits {cards : List CardRef} {pile : Ring CardRef}
    (h : pile.used + cards.length ≤ pile.capacity) :
    pushAll cards pile = .ok () (pile.pushMany cards).1 := by
  rw [pushAll_apply, (Ring.pushMany_of_fits h).2]
  rfl

theorem length_deal (cards : List String) : (deal cards).length = cards.length :=
  List.length_mapIdx

/-- Only cards of the wand are dealt. -/
theorem id_mem_of_mem_deal {cards : List String} {ref : CardRef} (h : ref ∈ deal cards) :
    ref.id ∈ cards := by
  obtain ⟨place, hplace, rfl⟩ := List.mem_mapIdx.1 h
  exact List.getElem_mem hplace

end Piles

namespace WandState
open Piles
variable {s : WandState α} {wand : Wand α} {capacity : Nat} {lot : List CardRef}

/-- There is room on the discard pile for the hand. -/
theorem discardHand_of_stock (h : s.piles.Stock capacity lot) :
    ∃ t, discardHand s = .ok () t ∧ t.piles.Stock capacity lot := by
  have hroom : s.piles.discarded.used + s.piles.hand.toList.length ≤
      s.piles.discarded.capacity := by
    have htotal := h.fit.total
    rw [Ring.length_toList, h.fit.discarded]
    omega
  have hdiscard : discardHand s = .ok () { s with
      piles := {
        deck := s.piles.deck
        hand := s.piles.hand.clear
        discarded := (s.piles.discarded.pushMany s.piles.hand.toList).1 } } := by
    unfold discardHand
    rw [Run.bind_apply_of_ok (Run.get_apply s)]
    exact Run.bind_eq_ok.2 ⟨_, _, Run.within_eq_ok.2 ⟨_, pushAll_of_fits hroom, rfl⟩, rfl⟩
  obtain ⟨hdiscarded, hhand, hdeck, hslots, -, -⟩ := discardHand_eq_ok hdiscard
  refine ⟨_, hdiscard, h.of_perm hslots ?_⟩
  rw [Piles.cards, hdiscarded, hhand, hdeck, List.append_nil, Piles.cards, List.append_assoc]
  exact List.perm_append_comm.append_left _

/-- Piles that are large enough for a wand can be dealt its cards. -/
theorem reset_of_fit (h : s.piles.Fit capacity) (hfits : wand.cards.length ≤ capacity) :
    ∃ t, reset wand s = .ok () t ∧ t.piles.Stock capacity (deal wand.cards) := by
  let cleared : Piles := ⟨s.piles.deck.clear, s.piles.hand.clear, s.piles.discarded.clear⟩
  have hroom : cleared.deck.used + (deal wand.cards).length ≤ cleared.deck.capacity := by
    have hcapacity : cleared.deck.capacity = capacity := h.deck
    have hempty : cleared.deck.used = 0 := rfl
    rw [length_deal, hcapacity, hempty]
    omega
  have hreset : reset wand s = .ok () {
      piles := { cleared with deck := (cleared.deck.pushMany (deal wand.cards)).1 }
      mana := s.mana
      rechargeDelay := wand.rechargeDelay } := by
    unfold reset
    rw [Run.bind_apply_of_ok (Run.modify_apply _ s)]
    exact Run.within_eq_ok.2 ⟨_, pushAll_of_fits hroom, rfl⟩
  obtain ⟨hdeck, hhand, hdiscarded, hslots, -, -⟩ := reset_eq_ok hreset
  refine ⟨_, hreset, .of_dealt h hslots ?_ ?_⟩
  · rw [Piles.cards, hdeck, hhand, hdiscarded, List.append_nil, List.append_nil]
  · rwa [length_deal]

/-- Where the cards fit and there is room for the piles, a fresh state holds the cards. -/
theorem fresh_of_fits [Quantity α] {limit : Int} {slots : Nat} (hroom : room limit = .ok slots)
    (hfits : (wand.cards.length : Int) ≤ limit) :
    ∃ t, fresh wand limit = .ok t ∧ t.piles.Stock slots (deal wand.cards) := by
  obtain rfl := roomOf_eq_ok hroom
  have hempty : (Piles.empty limit.toNat).Fit limit.toNat :=
    ⟨Ring.capacity_empty _, Ring.capacity_empty _, Ring.capacity_empty _, Nat.zero_le _⟩
  let start : WandState α := ⟨.empty limit.toNat, Quantity.whole wand.maxMana, 0⟩
  obtain ⟨t, hreset, hstock⟩ : ∃ t, reset wand start = .ok () t ∧
      t.piles.Stock limit.toNat (deal wand.cards) := reset_of_fit hempty (by omega)
  refine ⟨t, ?_, hstock⟩
  unfold fresh
  rw [if_neg (by omega), hroom]
  dsimp only
  rw [hreset]

/-- A fresh state holds the cards of its wand, which the piles have room for. -/
theorem stock_of_fresh [Quantity α] {limit : Int} {t : WandState α}
    (h : fresh wand limit = .ok t) :
    ∃ slots : Nat, limit = slots ∧ wand.cards.length ≤ slots ∧
      t.piles.Stock slots (deal wand.cards) := by
  have hmade := h
  unfold fresh at hmade
  split at hmade
  case isTrue => cases hmade
  case isFalse hroomy =>
    cases hroom : room limit with
    | error fault =>
      rw [hroom] at hmade
      cases hmade
    | ok slots =>
      obtain ⟨dealt, hdealt, hstock⟩ := fresh_of_fits hroom (Int.not_lt.1 hroomy)
      obtain rfl := Except.ok.inj (hdealt.symm.trans h)
      obtain rfl := roomOf_eq_ok hroom
      exact ⟨limit.toNat, by omega, by omega, hstock⟩

end WandState

/-! ### Room for nested draws -/

namespace Caster
variable [Scalar α] {capacity : Nat} {lot : List CardRef} {c : Caster α}

/-- However the cards of a lot are laid out in the piles, a cast does not run out of room for
nested draws. -/
def RoomFor (c : Caster α) (lot : List CardRef) : Prop :=
  ∀ (state : WandState α) (cast : Cast α) (capacity : Nat), state.piles.Stock capacity lot →
    (c.resolveOn 0 state cast).fault ≠ some (.config (.outOfStack c.wand c.maxDepth))

/-- Fewer cards than there is room never run out of it. -/
theorem roomFor_of_lt (h : lot.length < stackSize) : c.RoomFor lot := by
  intro state cast capacity hstock hfault
  have hshort := (resolveOn_faults hstock.fit hfault).2 _ _ rfl
  have hrow := hstock.length_row_le
  omega

end Caster
end WandArena
