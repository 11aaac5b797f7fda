import WandArena.Proofs.Cast.Derivation
import WandArena.Proofs.Cast.Sources
import WandArena.Proofs.Wand.Draw
import WandArena.Number.Amount

/-! Casting from piles is casting from one row of cards.

The row of some piles is their deck followed by the discard pile in declared order, and a draw takes
its head. Piles that hold no more than each of them has room for are drawn from exactly like their
row (`resolve_row`): where the row is after `k` draws says what is in each pile, and the cast is
forced to recharge once the draws, however deep in payloads, have gone past the deck. -/
namespace WandArena
variable {α : Type}

/-- Cards laid out in the order in which they are drawn. -/
structure Row where
  cards : List CardRef
  /-- How many cards were taken off the front. -/
  taken : Nat
  /-- How many of the cards lay in the deck at first. -/
  deckSize : Nat

namespace Row

/-- A draw takes the head of the row. The first card from behind the deck counts as a wrap. -/
def draw (row : Row) : Drawn Row :=
  match row.cards with
  | [] => ⟨row, false, .ok none⟩
  | card :: rest =>
    ⟨{ row with cards := rest, taken := row.taken + 1 }, row.taken == row.deckSize, .ok (some card)⟩

instance : CardSource Row := ⟨draw⟩

end Row

namespace Piles

/-- The deck, then the discard pile in declared order. -/
def row (piles : Piles) : Row :=
  ⟨piles.deck.toList ++ inDeclaredOrder piles.discarded.toList, 0, piles.deck.used⟩

/-- The piles and the row that `start` and its row come to when the same number of cards is drawn
from both. -/
structure DrawnAlike (start piles : Piles) (row : Row) : Prop where
  deckSize : row.deckSize = start.deck.used
  taken_le : row.taken ≤ start.row.cards.length
  cards : row.cards = start.row.cards.drop row.taken
  hand : piles.hand.toList = start.hand.toList ++ start.row.cards.take row.taken
  /-- Until the deck is used up, nothing happens to the discard pile. -/
  inDeck : row.taken ≤ start.deck.used →
    piles.deck.toList = start.deck.toList.drop row.taken ∧ piles.discarded = start.discarded
  /-- After that, all that is left lies in the deck. -/
  beyond : start.deck.used < row.taken →
    piles.deck.toList = row.cards ∧ piles.discarded.toList = []
  slots : SameSlots piles start

namespace DrawnAlike
variable {start : Piles}

theorem length_row (start : Piles) :
    start.row.cards.length = start.deck.used + start.discarded.used := by
  simp only [row, List.length_append, length_inDeclaredOrder, Ring.length_toList]

theorem refl (start : Piles) : DrawnAlike start start start.row where
  deckSize := rfl
  taken_le := Nat.zero_le _
  cards := rfl
  hand := (List.append_nil _).symm
  inDeck := fun _ => ⟨rfl, rfl⟩
  beyond := fun h => absurd h (Nat.not_lt_zero _)
  slots := .refl start

theorem drop_row (start : Piles) {k : Nat} (h : k ≤ start.deck.used) :
    start.row.cards.drop k =
      start.deck.toList.drop k ++ inDeclaredOrder start.discarded.toList := by
  refine List.drop_append_of_le_length ?_
  rwa [Ring.length_toList]

variable {piles : Piles} {row : Row} {card : CardRef} {rest : List CardRef}

/-- The row one card further on. -/
theorem next_row (h : DrawnAlike start piles row) (hcards : row.cards = card :: rest) :
    row.taken < start.row.cards.length ∧ rest = start.row.cards.drop (row.taken + 1) ∧
      start.row.cards.take (row.taken + 1) = start.row.cards.take row.taken ++ [card] := by
  have hdrop : start.row.cards.drop row.taken = card :: rest := h.cards.symm.trans hcards
  have hlt : row.taken < start.row.cards.length := by
    refine Nat.lt_of_not_le fun hle => ?_
    rw [List.drop_eq_nil_iff.2 hle] at hdrop
    cases hdrop
  rw [List.drop_eq_getElem_cons hlt] at hdrop
  obtain ⟨hcard, hrest⟩ := List.cons.inj hdrop
  refine ⟨hlt, hrest.symm, ?_⟩
  rw [List.take_succ_eq_append_getElem hlt, hcard]

/-- While there are cards in the row, there is room in the hand. -/
theorem hand_room {capacity : Nat} (hfit : start.Fit capacity) (h : DrawnAlike start piles row)
    (hlt : row.taken < start.row.cards.length) : piles.hand.used < piles.hand.capacity := by
  have hused : piles.hand.used = start.hand.used + row.taken := by
    rw [← Ring.length_toList, h.hand, List.length_append, Ring.length_toList, List.length_take]
    omega
  have hcapacity := h.slots.hand.trans hfit.hand
  have htotal := hfit.total
  rw [length_row] at hlt
  omega

theorem row_draw_nil (hcards : row.cards = []) : row.draw = ⟨row, false, .ok none⟩ := by
  unfold Row.draw
  rw [hcards]

theorem row_draw_cons (hcards : row.cards = card :: rest) :
    row.draw =
      ⟨⟨rest, row.taken + 1, row.deckSize⟩, row.taken == row.deckSize, .ok (some card)⟩ := by
  unfold Row.draw
  rw [hcards]

/-- Piles and row go on alike when the piles are left as the row says. -/
theorem step {left : Piles} (h : DrawnAlike start piles row) (hcards : row.cards = card :: rest)
    (hhand : left.hand.toList = piles.hand.toList ++ [card])
    (hin : row.taken < start.deck.used →
      left.deck.toList = start.deck.toList.drop (row.taken + 1) ∧ left.discarded = start.discarded)
    (hbeyond : start.deck.used ≤ row.taken → left.deck.toList = rest ∧ left.discarded.toList = [])
    (hslots : SameSlots left piles) :
    DrawnAlike start left ⟨rest, row.taken + 1, row.deckSize⟩ := by
  obtain ⟨hlt, hrest, htake⟩ := h.next_row hcards
  exact {
    deckSize := h.deckSize
    taken_le := hlt
    cards := hrest
    hand := by rw [hhand, h.hand, htake, List.append_assoc]
    inDeck := fun hle => hin hle
    beyond := fun hgt => hbeyond (Nat.le_of_lt_succ hgt)
    slots := hslots.trans h.slots }

/-- Piles with room and their row yield the same draws. -/
theorem sameDraws {capacity : Nat} (hfit : start.Fit capacity) :
    Casting.SameDraws (DrawnAlike start) := by
  intro piles row h
  show piles.draw.card = row.draw.card ∧ piles.draw.wrapped = row.draw.wrapped ∧
    DrawnAlike start piles.draw.rest row.draw.rest
  rcases Nat.lt_trichotomy row.taken start.deck.used with hin | hend | hbeyond
  · -- The deck is not used up: its front is the head of the row.
    obtain ⟨hdeck, hdiscarded⟩ := h.inDeck (Nat.le_of_lt hin)
    have hlt : row.taken < start.deck.toList.length := by rwa [Ring.length_toList]
    have hfront := List.drop_eq_getElem_cons hlt
    have hcards : row.cards = start.deck.toList[row.taken] ::
        (start.deck.toList.drop (row.taken + 1) ++ inDeclaredOrder start.discarded.toList) := by
      rw [h.cards, drop_row start (Nat.le_of_lt hin), hfront, List.cons_append]
    obtain ⟨left, hdraw, hd, hh, hdis, hslots⟩ :=
      draw_front (hdeck.trans hfront) (hand_room hfit h (h.next_row hcards).1)
    have hwrapped : (row.taken == row.deckSize) = false := by
      rw [h.deckSize, beq_eq_false_iff_ne]
      omega
    rw [hdraw, row_draw_cons hcards]
    exact ⟨rfl, hwrapped.symm,
      h.step hcards hh (fun _ => ⟨hd, hdis.trans hdiscarded⟩) (fun hge => by omega) hslots⟩
  · -- The deck was just used up: the discard pile is what is left of the row.
    obtain ⟨hdeck, hdiscarded⟩ := h.inDeck (Nat.le_of_eq hend)
    have hnil : piles.deck.toList = [] := by
      rw [hdeck, hend, ← Ring.length_toList, List.drop_length]
    have hrow : row.cards = inDeclaredOrder piles.discarded.toList := by
      rw [h.cards, drop_row start (Nat.le_of_eq hend), ← hdeck, hnil, List.nil_append, hdiscarded]
    have hlength := length_inDeclaredOrder piles.discarded.toList
    rw [← hrow] at hlength
    cases hcards : row.cards with
    | nil =>
      rw [hcards] at hlength
      rw [draw_nothing hnil (List.length_eq_zero_iff.1 hlength.symm), row_draw_nil hcards]
      exact ⟨rfl, rfl, h⟩
    | cons card rest =>
      have htotal := hfit.total
      have hcapacity := h.slots.deck.trans hfit.deck
      obtain ⟨left, hdraw, hd, hh, hdis, hslots⟩ := draw_wrap hnil (hrow.symm.trans hcards)
        (by rw [hdiscarded]; omega) (hand_room hfit h (h.next_row hcards).1)
      have hwrapped : (row.taken == row.deckSize) = true := by
        rw [h.deckSize, beq_iff_eq]
        exact hend
      rw [hdraw, row_draw_cons hcards]
      exact ⟨rfl, hwrapped.symm,
        h.step hcards hh (fun hlt => by omega) (fun _ => ⟨hd, hdis⟩) hslots⟩
  · -- The draws have wrapped: the deck is what is left of the row.
    obtain ⟨hdeck, hdiscarded⟩ := h.beyond hbeyond
    cases hcards : row.cards with
    | nil =>
      rw [hcards] at hdeck
      rw [draw_nothing hdeck hdiscarded, row_draw_nil hcards]
      exact ⟨rfl, rfl, h⟩
    | cons card rest =>
      obtain ⟨left, hdraw, hd, hh, hdis, hslots⟩ :=
        draw_front (hdeck.trans hcards) (hand_room hfit h (h.next_row hcards).1)
      have hwrapped : (row.taken == row.deckSize) = false := by
        rw [h.deckSize, beq_eq_false_iff_ne]
        omega
      rw [hdraw, row_draw_cons hcards]
      refine ⟨rfl, hwrapped.symm, h.step hcards hh (fun hlt => by omega) (fun _ => ⟨hd, ?_⟩) hslots⟩
      rw [hdis]
      exact hdiscarded

end DrawnAlike

/-- What is in the piles when `k` cards have been drawn from `start`. -/
structure After (start : Piles) (k : Nat) (left : Piles) : Prop where
  hand : left.hand.toList = start.hand.toList ++ start.row.cards.take k
  /-- The deck was enough. -/
  inDeck : k ≤ start.deck.used →
    left.deck.toList = start.deck.toList.drop k ∧ left.discarded = start.discarded
  /-- The deck was not enough. -/
  beyond : start.deck.used < k →
    left.deck.toList = start.row.cards.drop k ∧ left.discarded.toList = []

theorem DrawnAlike.after {start piles : Piles} {row : Row} (h : DrawnAlike start piles row) :
    start.After row.taken piles where
  hand := h.hand
  inDeck := h.inDeck
  beyond := fun hgt => by
    rw [← h.cards]
    exact h.beyond hgt

end Piles

/-! ### The forced recharge -/

/-- From `s` to `t` cards were taken off the row, and the cast of `t` has to recharge if that of `s`
had to, or the cards in between went past the deck. -/
structure WrapsBetween (s t : Casting Row α) : Prop where
  deckSize : t.source.deckSize = s.source.deckSize
  taken_le : s.source.taken ≤ t.source.taken
  forced : t.cast.forceRecharge = true ↔ s.cast.forceRecharge = true ∨
    s.source.taken ≤ s.source.deckSize ∧ s.source.deckSize < t.source.taken

namespace WrapsBetween

/-- Steps that neither draw nor touch the flag. -/
theorem of_eq {s t : Casting Row α} (hsource : t.source = s.source)
    (hforced : t.cast.forceRecharge = s.cast.forceRecharge) : WrapsBetween s t where
  deckSize := by rw [hsource]
  taken_le := Nat.le_of_eq (by rw [hsource])
  forced := by
    rw [hsource, hforced]
    constructor
    · exact .inl
    · rintro (h | ⟨hle, hlt⟩)
      · exact h
      · omega

theorem trans {s t u : Casting Row α} (h : WrapsBetween s t) (h' : WrapsBetween t u) :
    WrapsBetween s u where
  deckSize := h'.deckSize.trans h.deckSize
  taken_le := Nat.le_trans h.taken_le h'.taken_le
  forced := by
    have hle := h.taken_le
    have hle' := h'.taken_le
    rw [h'.forced, h.forced, h.deckSize]
    constructor
    · rintro ((hs | ⟨hbefore, hafter⟩) | ⟨hbefore, hafter⟩)
      · exact .inl hs
      · exact .inr ⟨hbefore, by omega⟩
      · exact .inr ⟨by omega, hafter⟩
    · rintro (hs | ⟨hbefore, hafter⟩)
      · exact .inl (.inl hs)
      · rcases Nat.lt_or_ge s.source.deckSize t.source.taken with hmid | hmid
        · exact .inl (.inr ⟨hbefore, hmid⟩)
        · exact .inr ⟨hmid, hafter⟩

/-- The same from a state that such a step leads on from. -/
theorem before {s t u : Casting Row α} (h : WrapsBetween t u) (hsource : t.source = s.source)
    (hforced : t.cast.forceRecharge = s.cast.forceRecharge) : WrapsBetween s u :=
  (of_eq hsource hforced).trans h

theorem drawn (s : Casting Row α) : WrapsBetween s s.drawn := by
  have hdrawn : s.drawn = { s with
      source := s.source.draw.rest
      cast := { s.cast with
        forceRecharge := s.cast.forceRecharge || s.source.draw.wrapped } } := rfl
  cases hcards : s.source.cards with
  | nil =>
    rw [Piles.DrawnAlike.row_draw_nil hcards] at hdrawn
    rw [hdrawn]
    exact .of_eq rfl (Bool.or_false _)
  | cons card rest =>
    rw [Piles.DrawnAlike.row_draw_cons hcards] at hdrawn
    rw [hdrawn]
    refine ⟨rfl, Nat.le_succ _, ?_⟩
    simp only [Bool.or_eq_true, beq_iff_eq]
    constructor
    · rintro (hs | heq)
      · exact .inl hs
      · exact .inr (by omega)
    · rintro (hs | hcross)
      · exact .inl hs
      · exact .inr (by omega)

variable [Scalar α]

/-- A wrap in a payload counts for the outer cast. -/
theorem resume {s t : Casting Row α} (h : WrapsBetween s.aside t) :
    WrapsBetween s (t.resume s.cast) where
  deckSize := h.deckSize
  taken_le := h.taken_le
  forced := by
    have hinner : t.cast.forceRecharge = true ↔
        s.source.taken ≤ s.source.deckSize ∧ s.source.deckSize < t.source.taken := by
      rw [h.forced]
      simp [Casting.aside, Cast.fresh]
    simp only [Casting.resume, Bool.or_eq_true, hinner]

end WrapsBetween

variable [Scalar α]

/-- However deep the draws are, the cast has to recharge if they go past the deck. -/
theorem Caster.Does.wrapsBetween {c : Caster α} {depth : Int} {work : Work α} {s t : Casting Row α}
    (h : c.Does depth work s t) : WrapsBetween s t := by
  induction h with
  | exhausted _ => exact .drawn _
  | skipped _ _ _ _ _ ih => exact (WrapsBetween.drawn _).trans (ih.before rfl rfl)
  | played _ _ _ _ _ ih => exact (WrapsBetween.drawn _).trans (ih.before rfl rfl)
  | done => exact .of_eq rfl rfl
  | modifier _ _ _ ihnext ihrest => exact (ihnext.trans ihrest).before rfl rfl
  | gathered _ ih => exact ih
  | branch _ _ _ ihnext ihrest => exact (ihnext.trans (ihrest.before rfl rfl)).before rfl rfl
  | plain _ ih => exact ih.before rfl rfl
  | loaded _ _ _ ihpayload ihrest => exact ihpayload.resume.trans (ihrest.before rfl rfl)

/-! ### Piles and their row -/

namespace Casting
variable {σ τ : Type}

omit [Scalar α] in
theorem Matched.outcome_eq {Q : σ → τ → Prop} {ending : EStateM.Result Fault (Casting σ α) Unit}
    {ending' : EStateM.Result Fault (Casting τ α) Unit} (h : Matched Q ending ending') :
    outcome ending = outcome ending' ∧ Q (sourceLeft ending) (sourceLeft ending') := by
  cases h with
  | ok h => exact ⟨rfl, h⟩
  | error h => exact ⟨rfl, h⟩

end Casting

namespace Caster

/-- From piles with room and from their row, a resolution ends alike. -/
theorem resolve_row {capacity : Nat} (c : Caster α) (stack : Nat) (depth : Int)
    {s : Casting Piles α} (hfit : s.source.Fit capacity) :
    Casting.Matched s.source.DrawnAlike (c.resolve stack depth s)
      (c.resolve stack depth (s.onto s.source.row)) :=
  resolve_inStep (Piles.DrawnAlike.sameDraws hfit) c stack depth s s.source.row (.refl _)

/-- A resolution on a row that meets no fault forces a recharge if it goes past the deck. -/
theorem forceRecharge_resolve {c : Caster α} {stack : Nat} {depth : Int} {s t : Casting Row α}
    (hstart : s.source.taken = 0) (h : c.resolve stack depth s = .ok () t) :
    t.cast.forceRecharge = true ↔
      s.cast.forceRecharge = true ∨ s.source.deckSize < t.source.taken := by
  rw [(does_of_resolve h).wrapsBetween.forced, hstart]
  simp

/-- A resolution from piles with room that meets no fault took cards off their row, and forces a
recharge if it took more than the deck had. -/
theorem resolve_ok_row {capacity : Nat} {c : Caster α} {stack : Nat} {depth : Int}
    {s t : Casting Piles α} (hfit : s.source.Fit capacity)
    (h : c.resolve stack depth s = .ok () t) :
    ∃ row, s.source.DrawnAlike t.source row ∧
      (t.cast.forceRecharge = true ↔
        s.cast.forceRecharge = true ∨ s.source.deck.used < row.taken) := by
  have halike := resolve_row c stack depth hfit
  rw [h] at halike
  generalize hending : c.resolve stack depth (s.onto s.source.row) = ending at halike
  cases halike with
  | @ok _ _ row hdrawn => exact ⟨row, hdrawn, forceRecharge_resolve rfl hending⟩

/-- **Piles are drawn from like one row of cards.** Resolving on piles with room ends like resolving
on the deck followed by the discard pile in declared order: the same fault or none, the same cast
with all its payloads, the same mana and recharge delay. How many cards the row is short of in the
end says what is in each pile, and whether the cast has to recharge. -/
theorem resolve_refines_row {capacity : Nat} (c : Caster α) (stack : Nat) (depth : Int)
    (s : Casting Piles α) (hfit : s.source.Fit capacity) :
    let ending := c.resolve stack depth s
    let ending' := c.resolve stack depth (s.onto s.source.row)
    Casting.outcome ending = Casting.outcome ending' ∧
      ∃ k ≤ s.source.row.cards.length,
        (Casting.sourceLeft ending').cards = s.source.row.cards.drop k ∧
        s.source.After k (Casting.sourceLeft ending) ∧
        ((Casting.outcome ending).fault = none →
          ((Casting.outcome ending).cast.forceRecharge = true ↔
            s.cast.forceRecharge = true ∨ s.source.deck.used < k)) := by
  intro ending ending'
  have halike : Casting.Matched s.source.DrawnAlike ending ending' := resolve_row c stack depth hfit
  obtain ⟨houtcome, hleft⟩ := halike.outcome_eq
  refine ⟨houtcome, (Casting.sourceLeft ending').taken, hleft.taken_le, hleft.cards, hleft.after,
    ?_⟩
  intro hnone
  rw [houtcome] at hnone ⊢
  cases hending : ending' with
  | ok _ t => exact forceRecharge_resolve rfl hending
  | error fault t =>
    rw [hending] at hnone
    cases hnone

/-! A trigger whose payload takes all that the discard pile holds. -/

def sparkCaster : Caster Amount where
  wand := "spark chain"
  cards := .ofList [
    ("trigger", { id := "trigger", name := "Trigger", manaCost := 2
                  effects := [.projectile "spark" .trigger] }),
    ("bouncy", { id := "bouncy", name := "Bouncy", effects := [.modifier { bounces := some 2 }] }),
    ("bolt", { id := "bolt", name := "Bolt", manaCost := 3
               effects := [.projectile "spark" .normal] })]
  rules := {}
  maxDepth := 256

def beforeWrap : Casting Piles Amount where
  source := {
    deck := ((Ring.empty 3).pushMany [⟨"trigger", 2⟩]).1
    hand := .empty 3
    discarded := ((Ring.empty 3).pushMany [⟨"bolt", 1⟩, ⟨"bouncy", 0⟩]).1 }
  mana := .whole 9
  rechargeDelay := 0
  cast := .fresh
  notes := #[]

def rowBeforeWrap : Row := ⟨[⟨"trigger", 2⟩, ⟨"bouncy", 0⟩, ⟨"bolt", 1⟩], 0, 1⟩

theorem row_beforeWrap : beforeWrap.source.row = rowBeforeWrap := by
  have hsort : Piles.inDeclaredOrder [⟨"bolt", 1⟩, ⟨"bouncy", 0⟩] =
      [⟨"bouncy", 0⟩, ⟨"bolt", 1⟩] := by
    simp [Piles.inDeclaredOrder, List.mergeSort]
  show (⟨[⟨"trigger", 2⟩] ++ Piles.inDeclaredOrder [⟨"bolt", 1⟩, ⟨"bouncy", 0⟩], 0, 1⟩ : Row) = _
  rw [hsort]
  rfl

theorem resolve_wraps_in_payload :
    beforeWrap.source.Fit 3 ∧
      Casting.outcome (sparkCaster.resolve 9 0 beforeWrap) =
        Casting.outcome (sparkCaster.resolve 9 0 (beforeWrap.onto rowBeforeWrap)) ∧
      beforeWrap.source.After 3 (Casting.sourceLeft (sparkCaster.resolve 9 0 beforeWrap)) ∧
      (Casting.outcome (sparkCaster.resolve 9 0 beforeWrap)).cast.forceRecharge = true := by
  have hfit : beforeWrap.source.Fit 3 := ⟨rfl, rfl, rfl, by decide⟩
  have hends : (Casting.outcome (sparkCaster.resolve 9 0 (beforeWrap.onto rowBeforeWrap))).fault =
      none := by decide +kernel
  have hempty : (Casting.sourceLeft
      (sparkCaster.resolve 9 0 (beforeWrap.onto rowBeforeWrap))).cards = [] := by decide +kernel
  obtain ⟨houtcome, k, hle, hcards, hafter, hforced⟩ :=
    resolve_refines_row sparkCaster 9 0 beforeWrap hfit
  rw [row_beforeWrap] at houtcome hle hcards
  have hk : k = 3 := by
    have hall : 3 ≤ k := List.drop_eq_nil_iff.1 (hcards.symm.trans hempty)
    exact Nat.le_antisymm hle hall
  subst hk
  rw [houtcome] at hforced ⊢
  exact ⟨hfit, rfl, hafter, (hforced hends).2 (.inr (by decide))⟩

end Caster
end WandArena
