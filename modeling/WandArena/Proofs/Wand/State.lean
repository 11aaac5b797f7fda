import WandArena.Proofs.Run
import WandArena.Proofs.Wand.Draw
import WandArena.Wand.State

/-! What dealing and discarding leave in the piles, when they meet no fault. -/
namespace WandArena
variable {α : Type}

theorem Piles.pushAll_apply (cards : List CardRef) (pile : Ring CardRef) :
    pushAll cards pile =
      if (pile.pushMany cards).2.isEmpty then .ok () (pile.pushMany cards).1
      else .error (.pileFull pile.capacity) (pile.pushMany cards).1 := by
  unfold pushAll
  rw [Run.bind_apply_of_ok (Run.get_apply pile)]
  dsimp only
  rw [Run.bind_apply_of_ok (Run.set_apply pile _)]
  split <;> rfl

/-- Cards that are all pushed come behind those in the pile. -/
theorem Piles.pushAll_eq_ok {cards : List CardRef} {pile filled : Ring CardRef}
    (h : pushAll cards pile = .ok () filled) :
    filled.toList = pile.toList ++ cards ∧ filled.capacity = pile.capacity := by
  obtain ⟨hlist, hcapacity, hover⟩ := Ring.pushMany_eq pile cards
  rw [pushAll_apply] at h
  split at h
  case isTrue hrest =>
    cases h
    rw [List.isEmpty_iff, hover, List.drop_eq_nil_iff] at hrest
    rw [hlist, List.take_of_length_le hrest]
    exact ⟨rfl, hcapacity⟩
  case isFalse => cases h

/-- Cards that are not all pushed meet a full pile. -/
theorem Piles.pushAll_eq_error {cards : List CardRef} {pile filled : Ring CardRef} {fault : Fault}
    (h : pushAll cards pile = .error fault filled) : ∃ capacity, fault = .pileFull capacity := by
  rw [pushAll_apply] at h
  split at h
  case isTrue => cases h
  case isFalse =>
    cases h
    exact ⟨_, rfl⟩

namespace WandState

/-- A reset deals every card of the wand, and starts the recharge delay anew. -/
theorem reset_eq_ok {wand : Wand α} {s t : WandState α} (h : reset wand s = .ok () t) :
    t.piles.deck.toList = Piles.deal wand.cards ∧ t.piles.hand.toList = [] ∧
      t.piles.discarded.toList = [] ∧ t.piles.SameSlots s.piles ∧ t.mana = s.mana ∧
      t.rechargeDelay = wand.rechargeDelay := by
  obtain ⟨_, _, hmodify, h⟩ := Run.bind_eq_ok.1 h
  cases hmodify
  obtain ⟨deck, hpush, rfl⟩ := Run.within_eq_ok.1 h
  obtain ⟨hdeck, hcapacity⟩ := Piles.pushAll_eq_ok hpush
  refine ⟨?_, Ring.toList_clear _, Ring.toList_clear _, ⟨hcapacity, rfl, rfl⟩, rfl, rfl⟩
  rw [hdeck, Ring.toList_clear, List.nil_append]

theorem reset_eq_error {wand : Wand α} {s t : WandState α} {fault : Fault}
    (h : reset wand s = .error fault t) : ∃ capacity, fault = .pileFull capacity := by
  rcases Run.bind_eq_error.1 h with hmodify | ⟨_, _, -, hwithin⟩
  · cases hmodify
  · obtain ⟨_, hpush, -⟩ := Run.within_eq_error.1 hwithin
    exact Piles.pushAll_eq_error hpush

/-- Discarding puts the hand behind the discard pile. -/
theorem discardHand_eq_ok {s t : WandState α} (h : discardHand s = .ok () t) :
    t.piles.discarded.toList = s.piles.discarded.toList ++ s.piles.hand.toList ∧
      t.piles.hand.toList = [] ∧ t.piles.deck = s.piles.deck ∧ t.piles.SameSlots s.piles ∧
      t.mana = s.mana ∧ t.rechargeDelay = s.rechargeDelay := by
  unfold discardHand at h
  rw [Run.bind_apply_of_ok (Run.get_apply s)] at h
  obtain ⟨_, _, hwithin, hmodify⟩ := Run.bind_eq_ok.1 h
  obtain ⟨discarded, hpush, rfl⟩ := Run.within_eq_ok.1 hwithin
  cases hmodify
  obtain ⟨hdiscarded, hcapacity⟩ := Piles.pushAll_eq_ok hpush
  exact ⟨hdiscarded, Ring.toList_clear _, rfl, ⟨rfl, rfl, hcapacity⟩, rfl, rfl⟩

/-- A fresh state is one that was just dealt, in piles of one capacity and with full mana. -/
theorem reset_of_fresh [Quantity α] {wand : Wand α} {capacity : Int} {t : WandState α}
    (h : fresh wand capacity = .ok t) :
    ∃ slots : Nat, reset wand ⟨.empty slots, Quantity.whole wand.maxMana, 0⟩ = .ok () t := by
  unfold fresh at h
  split at h
  · cases h
  · cases hroom : room capacity with
    | error fault =>
      rw [hroom] at h
      cases h
    | ok slots =>
      rw [hroom] at h
      dsimp only at h
      cases hreset : reset wand ⟨.empty slots, Quantity.whole wand.maxMana, 0⟩ with
      | error fault s =>
        rw [hreset] at h
        cases h
      | ok _ s =>
        rw [hreset] at h
        cases h
        exact ⟨slots, hreset⟩

theorem fresh_eq_ok [Quantity α] {wand : Wand α} {capacity : Int} {t : WandState α}
    (h : fresh wand capacity = .ok t) :
    ∃ (slots : Nat) (mana : α), reset wand ⟨.empty slots, mana, 0⟩ = .ok () t := by
  obtain ⟨slots, hreset⟩ := reset_of_fresh h
  exact ⟨slots, _, hreset⟩

theorem mana_of_fresh [Quantity α] {wand : Wand α} {capacity : Int} {t : WandState α}
    (h : fresh wand capacity = .ok t) : t.mana = Quantity.whole wand.maxMana := by
  obtain ⟨slots, hreset⟩ := reset_of_fresh h
  obtain ⟨-, -, -, -, hmana, -⟩ := reset_eq_ok hreset
  exact hmana

end WandState
end WandArena
