import WandArena.Proofs.Wand.Rotation
import WandArena.Proofs.Wand.Stock

/-! What a cast draws from a wand that is at rest.

The cards are drawn off a row that lists every card of the wand once, those discarded behind those
in the deck. So no card comes twice in one cast, a card that was discarded comes only once the deck
has wrapped, and then the wand has to recharge. -/
namespace WandArena
variable {α : Type} [Scalar α]

omit [Scalar α] in
/-- Every card is dealt once. -/
theorem Piles.nodup_deal (cards : List String) : (deal cards).Nodup := by
  refine List.pairwise_iff_getElem.2 fun i j hi hj hlt heq => ?_
  have hindex := congrArg CardRef.index heq
  simp only [deal, List.getElem_mapIdx] at hindex
  omega

namespace Caster
variable {c : Caster α} {depth : Int} {s : WandState α} {cast : Cast α} {capacity : Nat}

/-- A draw finds no card, or it puts one into the hand. -/
theorem Does.draws {s t : Casting Piles α} (h : c.Does depth .draw s t) :
    (CardSource.draw s.source).card = .ok none ∨ s.source.hand.used < t.source.hand.used := by
  have hgrows {ref : CardRef} {drawn : List CardRef}
      (hdraw : (CardSource.draw s.source).card = .ok (some ref))
      (hhand : t.source.hand.toList = s.drawn.source.hand.toList ++ drawn) :
      s.source.hand.used < t.source.hand.used := by
    rw [Spent.hand_drawn hdraw] at hhand
    have hlength := congrArg List.length hhand
    simp only [List.length_append, Ring.length_toList, Option.toList_some,
      List.length_singleton] at hlength
    omega
  cases h with
  | exhausted hdraw => exact .inl hdraw
  | skipped hdraw _ _ _ hnext =>
    obtain ⟨drawn, hspent⟩ := hnext.spent
    exact .inr (hgrows hdraw hspent.hand)
  | played hdraw _ _ _ heffects =>
    obtain ⟨drawn, hspent⟩ := heffects.spent
    exact .inr (hgrows hdraw hspent.hand)

/-- A cast that ends well took cards off the row of the piles, and has to recharge if it took more
than the deck had. -/
theorem resolveOn_row (hfit : s.piles.Fit capacity)
    (hok : (c.resolveOn depth s cast).fault = none) :
    ∃ row, s.piles.DrawnAlike (c.resolveOn depth s cast).wand.piles row ∧
      ((c.resolveOn depth s cast).cast.forceRecharge = true ↔
        cast.forceRecharge = true ∨ s.piles.deck.used < row.taken) := by
  obtain ⟨t, hresolve, hend⟩ := resolveOn_eq_ok hok
  rw [hend]
  exact resolve_ok_row hfit hresolve

/-- A cast that does not have to recharge took no more than the deck had. -/
theorem resolveOn_row_of_keep (hfit : s.piles.Fit capacity)
    (hok : (c.resolveOn depth s cast).fault = none)
    (hkeep : (c.resolveOn depth s cast).recharges = false) :
    ∃ row, s.piles.DrawnAlike (c.resolveOn depth s cast).wand.piles row ∧
      row.taken ≤ s.piles.deck.used := by
  obtain ⟨row, halike, hforced⟩ := resolveOn_row hfit hok
  refine ⟨row, halike, Nat.le_of_not_lt fun hlt => ?_⟩
  rw [(Bool.or_eq_false_iff.1 hkeep).2] at hforced
  exact absurd (hforced.2 (.inr hlt)) Bool.false_ne_true

/-- With a card in the deck, a cast that ends well draws at least one. -/
theorem resolveOn_draws (hfit : s.piles.Fit capacity) (hdeck : s.piles.deck.toList ≠ [])
    (hok : (c.resolveOn depth s cast).fault = none) :
    s.piles.hand.used < (c.resolveOn depth s cast).wand.piles.hand.used := by
  obtain ⟨t, hresolve, hend⟩ := resolveOn_eq_ok hok
  rw [hend]
  refine (does_of_resolve hresolve).draws.resolve_left fun hnothing => ?_
  obtain ⟨card, rest, hfront⟩ := List.exists_cons_of_ne_nil hdeck
  have hroom : s.piles.hand.used < s.piles.hand.capacity := by
    have htotal := hfit.total
    have hused := congrArg List.length hfront
    rw [Ring.length_toList, List.length_cons] at hused
    rw [hfit.hand]
    omega
  obtain ⟨left, hdraw, -⟩ := Piles.draw_front hfront hroom
  change s.piles.draw.card = .ok none at hnothing
  rw [hdraw] at hnothing
  cases hnothing

end Caster

namespace WandState.Rotated
variable {c : Caster α} {wand : Wand α} {paid : List (Card α)} {s t : WandState α} {depth : Int}
  {cast : Cast α}

omit [Scalar α] in
theorem used_hand (h : Rotated wand paid s) : s.piles.hand.used = 0 := by
  rw [← Ring.length_toList, h.hand]
  rfl

omit [Scalar α] in
/-- No card lies in both the deck and the discard pile, or twice in one of them. -/
theorem nodup (h : Rotated wand paid s) :
    (s.piles.discarded.toList ++ s.piles.deck.toList).Nodup := by
  rw [h.declared]
  exact Piles.nodup_deal _

/-- The hand after a cast is what was taken off the row. -/
theorem hand_resolved (h : Rotated wand paid s) {row : Row}
    (halike : s.piles.DrawnAlike (c.resolveOn depth s cast).wand.piles row) :
    (c.resolveOn depth s cast).wand.piles.hand.toList = s.piles.row.cards.take row.taken := by
  rw [halike.hand, h.hand, List.nil_append]

/-- No card is drawn twice in one cast. -/
theorem nodup_hand (h : Rotated wand paid s) (hok : (c.resolveOn depth s cast).fault = none) :
    (c.resolveOn depth s cast).wand.piles.hand.toList.Nodup := by
  obtain ⟨capacity, hfit⟩ := h.fit
  obtain ⟨row, halike, -⟩ := Caster.resolveOn_row hfit hok
  rw [h.hand_resolved halike]
  have hrow : s.piles.row.cards.Nodup :=
    (s.piles.row_perm.trans List.perm_append_comm).nodup_iff.2 h.nodup
  exact hrow.sublist (List.take_sublist _ _)

/-- A cast that draws a card from the discard pile has wrapped. -/
theorem recharges_of_redraw (h : Rotated wand paid s)
    (hok : (c.resolveOn depth s cast).fault = none) {ref : CardRef}
    (hdrawn : ref ∈ (c.resolveOn depth s cast).wand.piles.hand.toList)
    (hdiscarded : ref ∈ s.piles.discarded.toList) :
    (c.resolveOn depth s cast).recharges = true := by
  obtain ⟨capacity, hfit⟩ := h.fit
  obtain ⟨row, halike, hforced⟩ := Caster.resolveOn_row hfit hok
  rw [h.hand_resolved halike] at hdrawn
  refine Bool.or_eq_true_iff.2 (.inr (hforced.2 (.inr (Nat.lt_of_not_le fun hle => ?_))))
  -- Otherwise the card would come from the deck.
  have hdeck : ref ∈ s.piles.deck.toList := by
    have htake : s.piles.row.cards.take row.taken = s.piles.deck.toList.take row.taken :=
      List.take_append_of_le_length (by rwa [Ring.length_toList])
    rw [htake] at hdrawn
    exact List.mem_of_mem_take hdrawn
  exact (List.nodup_append.1 h.nodup).2.2 ref hdiscarded ref hdeck rfl

/-- A cast that does not recharge has left the discard pile alone. -/
theorem discarded_kept (h : Rotated wand paid s) (hok : (c.resolveOn depth s cast).fault = none)
    (hkeep : (c.resolveOn depth s cast).recharges = false) :
    (c.resolveOn depth s cast).wand.piles.discarded = s.piles.discarded := by
  obtain ⟨capacity, hfit⟩ := h.fit
  obtain ⟨row, halike, hin⟩ := Caster.resolveOn_row_of_keep hfit hok hkeep
  exact (halike.inDeck hin).2

/-- A cast that does not recharge has drawn at least one card. -/
theorem draws_of_keep (h : Rotated wand paid s) (hok : (c.resolveOn depth s cast).fault = none)
    (hkeep : (c.resolveOn depth s cast).recharges = false) :
    (c.resolveOn depth s cast).wand.piles.hand.toList ≠ [] := by
  obtain ⟨capacity, hfit⟩ := h.fit
  obtain ⟨row, halike, hin⟩ := Caster.resolveOn_row_of_keep hfit hok hkeep
  have hleft := (Bool.or_eq_false_iff.1 hkeep).1
  have hdeck : s.piles.deck.toList ≠ [] := by
    intro hempty
    have hnone := (halike.inDeck hin).1
    rw [hempty, List.drop_nil, ← Ring.isEmpty_iff, hleft] at hnone
    cases hnone
  have hdraws := Caster.resolveOn_draws hfit hdeck hok
  intro hempty
  rw [h.used_hand, ← Ring.length_toList, hempty] at hdraws
  exact Nat.lt_irrefl 0 hdraws

/-- The recharge delay that a cast comes to counts every card paid for since the deck was dealt. -/
theorem rechargeDelay_resolved (h : Rotated wand paid s)
    (hok : (c.resolveOn depth s cast).fault = none) :
    (c.resolveOn depth s cast).wand.rechargeDelay = wand.rechargeDelay +
      ((paid ++ c.paid s.mana (c.resolveOn depth s cast).wand.piles.hand.toList).map
        (·.rechargeDelay)).sum := by
  obtain ⟨u, hresolve, hend⟩ := Caster.resolveOn_eq_ok hok
  obtain ⟨drawn, hspent⟩ := (Caster.does_of_resolve hresolve).spent
  have hdrawn : u.source.hand.toList = drawn := by
    rw [hspent.hand, h.hand, List.nil_append]
  rw [hend, List.map_append, List.sum_append, ← Int.add_assoc, ← h.rechargeDelay, hdrawn]
  exact hspent.rechargeDelay

end WandState.Rotated
end WandArena
