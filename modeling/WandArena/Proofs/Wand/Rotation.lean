import WandArena.Proofs.Cast.Accounting
import WandArena.Proofs.Cast.Row
import WandArena.Proofs.Wand.State

/-! How the deck of a wand goes round.

Between casts the hand is empty, and the discard pile followed by the deck is the wand in declared
order (`Rotated`). A cast that does not recharge has taken no more than the deck had, so discarding
what it took keeps the order (`Rotated.discarded`). A cast that took more has wrapped, and after a
recharge the deck is dealt anew (`Rotated.of_reset`). -/
namespace WandArena
variable {α : Type}

/-- Whether the deck is to be dealt anew after a cast that resolved like this. -/
def Resolved.recharges (r : Resolved α) : Bool := r.wand.piles.deck.isEmpty || r.cast.forceRecharge

/-- A wand on which a draw resolved without a fault is what the resolution left. -/
theorem Caster.resolveOn_eq_ok [Scalar α] {c : Caster α} {depth : Int} {s : WandState α}
    {cast : Cast α} (h : (c.resolveOn depth s cast).fault = none) :
    ∃ t, c.resolve stackSize depth ⟨s.piles, s.mana, s.rechargeDelay, cast, #[]⟩ = .ok () t ∧
      c.resolveOn depth s cast = ⟨none, ⟨t.source, t.mana, t.rechargeDelay⟩, t.cast, t.notes⟩ := by
  unfold resolveOn at h ⊢
  cases hend : c.resolve stackSize depth ⟨s.piles, s.mana, s.rechargeDelay, cast, #[]⟩ with
  | ok _ t => exact ⟨t, rfl, rfl⟩
  | error fault t =>
    rw [hend] at h
    cases h

namespace WandState

/-- A wand between two casts, with the cards paid for since its deck was last dealt. -/
structure Rotated (wand : Wand α) (paid : List (Card α)) (state : WandState α) : Prop where
  fit : ∃ capacity, state.piles.Fit capacity
  hand : state.piles.hand.toList = []
  declared : state.piles.discarded.toList ++ state.piles.deck.toList = Piles.deal wand.cards
  deck : state.piles.deck.toList = [] → wand.cards = []
  rechargeDelay : state.rechargeDelay = wand.rechargeDelay + (paid.map (·.rechargeDelay)).sum

namespace Rotated
variable {wand : Wand α} {paid : List (Card α)} {s t : WandState α}

/-- However the cards of a wand are laid out, piles that had room for them have it. -/
theorem fit_of_declared {piles before : Piles} {cards : List CardRef} {capacity : Nat}
    (hfit : before.Fit capacity) (hslots : piles.SameSlots before)
    (hhand : piles.hand.toList = [])
    (hcards : piles.discarded.toList ++ piles.deck.toList = cards)
    (hroom : cards.length ≤ capacity) : piles.Fit capacity where
  deck := hslots.deck.trans hfit.deck
  hand := hslots.hand.trans hfit.hand
  discarded := hslots.discarded.trans hfit.discarded
  total := by
    have hlength := congrArg List.length hcards
    have hnone := congrArg List.length hhand
    simp only [List.length_append, Ring.length_toList, List.length_nil] at hlength hnone
    omega

/-- Nothing but the piles and the recharge delay matters. -/
theorem of_same (h : Rotated wand paid s) (hpiles : t.piles = s.piles)
    (hdelay : t.rechargeDelay = s.rechargeDelay) : Rotated wand paid t where
  fit := by rw [hpiles]; exact h.fit
  hand := by rw [hpiles]; exact h.hand
  declared := by rw [hpiles]; exact h.declared
  deck := by rw [hpiles]; exact h.deck
  rechargeDelay := by rw [hdelay]; exact h.rechargeDelay

/-- Right after a reset every card is in the deck. -/
theorem of_reset {before : Piles} {capacity : Nat} (hfit : before.Fit capacity)
    (hslots : s.piles.SameSlots before) (h : reset wand s = .ok () t) : Rotated wand [] t := by
  obtain ⟨hdeck, hhand, hdiscarded, hkept, -, hdelay⟩ := reset_eq_ok h
  have hdeclared : t.piles.discarded.toList ++ t.piles.deck.toList = Piles.deal wand.cards := by
    rw [hdiscarded, hdeck, List.nil_append]
  have hroom : (Piles.deal wand.cards).length ≤ capacity := by
    rw [← hdeck, Ring.length_toList, ← hfit.deck, ← hslots.deck, ← hkept.deck]
    exact Ring.used_le_capacity _
  refine ⟨⟨capacity, fit_of_declared hfit (hkept.trans hslots) hhand hdeclared hroom⟩, hhand,
    hdeclared, fun hempty => ?_, hdelay.trans (Int.add_zero _).symm⟩
  rw [hdeck, Piles.deal] at hempty
  exact List.mapIdx_eq_nil_iff.1 hempty

/-- A fresh wand. -/
theorem of_fresh [Quantity α] {capacity : Int} (h : fresh wand capacity = .ok t) :
    Rotated wand [] t := by
  obtain ⟨slots, mana, hreset⟩ := fresh_eq_ok h
  have hfit : (Piles.empty slots).Fit slots :=
    ⟨Ring.capacity_empty _, Ring.capacity_empty _, Ring.capacity_empty _, Nat.zero_le _⟩
  exact of_reset hfit (.refl _) hreset

variable [Scalar α] {c : Caster α} {depth : Int} {cast : Cast α}

/-- A cast that does not recharge takes its cards from the front of the deck, and discarding puts
them behind the others. -/
theorem discarded (h : Rotated wand paid s) (hok : (c.resolveOn depth s cast).fault = none)
    (hdiscard : discardHand (c.resolveOn depth s cast).wand = .ok () t)
    (hkeep : (c.resolveOn depth s cast).recharges = false) :
    Rotated wand
      (paid ++ c.paid s.mana (c.resolveOn depth s cast).wand.piles.hand.toList) t := by
  obtain ⟨capacity, hfit⟩ := h.fit
  obtain ⟨u, hresolve, hend⟩ := Caster.resolveOn_eq_ok hok
  rw [hend] at hdiscard hkeep ⊢
  obtain ⟨hdiscarded, hhand, hdeck, hslots, -, hdelay⟩ := discardHand_eq_ok hdiscard
  obtain ⟨hnonempty, hunforced⟩ := Bool.or_eq_false_iff.1 hkeep
  obtain ⟨row, halike, hforced⟩ := Caster.resolve_ok_row hfit hresolve
  -- No more than the deck was taken, since the cast would have to recharge otherwise.
  have hle : row.taken ≤ s.piles.deck.used := by
    refine Nat.le_of_not_lt fun hlt => ?_
    rw [hforced.2 (.inr hlt)] at hunforced
    cases hunforced
  obtain ⟨hleft, hkept⟩ := halike.inDeck hle
  have htaken : u.source.hand.toList = s.piles.deck.toList.take row.taken := by
    rw [halike.hand, h.hand, List.nil_append]
    exact List.take_append_of_le_length (by rwa [Ring.length_toList])
  have hdeclared : t.piles.discarded.toList ++ t.piles.deck.toList = Piles.deal wand.cards := by
    rw [hdiscarded, hdeck, List.append_assoc]
    show u.source.discarded.toList ++ (u.source.hand.toList ++ u.source.deck.toList) = _
    rw [hkept, htaken, hleft, List.take_append_drop]
    exact h.declared
  obtain ⟨drawn, hspent⟩ := (Caster.does_of_resolve hresolve).spent
  have hdrawn : u.source.hand.toList = drawn := by
    rw [hspent.hand, h.hand, List.nil_append]
  have hroom : (Piles.deal wand.cards).length ≤ capacity := by
    have htotal := hfit.total
    rw [← h.declared, List.length_append, Ring.length_toList, Ring.length_toList]
    omega
  refine ⟨⟨capacity, fit_of_declared hfit (hslots.trans halike.slots) hhand hdeclared hroom⟩, hhand,
    hdeclared, fun hempty => ?_, ?_⟩
  · rw [(Ring.isEmpty_iff _).2 (hdeck ▸ hempty)] at hnonempty
    cases hnonempty
  · rw [hdelay, hdrawn, List.map_append, List.sum_append, ← Int.add_assoc, ← h.rechargeDelay]
    exact hspent.rechargeDelay

/-- A cast that recharges leaves piles of the same capacity, so that the deck can be dealt anew. -/
theorem recharged {dealt : WandState α} (h : Rotated wand paid s)
    (hok : (c.resolveOn depth s cast).fault = none)
    (hdiscard : discardHand (c.resolveOn depth s cast).wand = .ok () t)
    (hreset : reset wand t = .ok () dealt) : Rotated wand [] dealt := by
  obtain ⟨capacity, hfit⟩ := h.fit
  obtain ⟨u, hresolve, hend⟩ := Caster.resolveOn_eq_ok hok
  rw [hend] at hdiscard
  obtain ⟨-, -, -, hslots, -, -⟩ := discardHand_eq_ok hdiscard
  obtain ⟨row, halike, -⟩ := Caster.resolve_ok_row hfit hresolve
  exact of_reset hfit (hslots.trans halike.slots) hreset

end Rotated
end WandState
end WandArena
