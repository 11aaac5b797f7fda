import WandArena.Wand.Piles

/-! What a draw does to the contents of the piles.

`draw_front`, `draw_nothing` and `draw_wrap` say it for piles that have room (`Fit`), one for each
state of the deck and the discard pile. Without room a draw still puts the card it yields behind
those in the hand (`hand_draw`). -/
namespace WandArena.Piles

/-- The piles have one capacity and hold no more than that together. -/
structure Fit (capacity : Nat) (piles : Piles) : Prop where
  deck : piles.deck.capacity = capacity
  hand : piles.hand.capacity = capacity
  discarded : piles.discarded.capacity = capacity
  total : piles.deck.used + piles.hand.used + piles.discarded.used ≤ capacity

/-- Piles with the same slots as others. -/
structure SameSlots (piles others : Piles) : Prop where
  deck : piles.deck.capacity = others.deck.capacity
  hand : piles.hand.capacity = others.hand.capacity
  discarded : piles.discarded.capacity = others.discarded.capacity

theorem SameSlots.refl (piles : Piles) : SameSlots piles piles := ⟨rfl, rfl, rfl⟩

theorem SameSlots.trans {a b c : Piles} (h : SameSlots a b) (h' : SameSlots b c) : SameSlots a c :=
  ⟨h.deck.trans h'.deck, h.hand.trans h'.hand, h.discarded.trans h'.discarded⟩

theorem length_inDeclaredOrder (cards : List CardRef) :
    (inDeclaredOrder cards).length = cards.length :=
  List.length_mergeSort _

theorem take_nothing {piles : Piles} (wrapped : Bool) (h : piles.deck.toList = []) :
    piles.take wrapped = ⟨piles, wrapped, .ok none⟩ := by
  have hpop : piles.deck.pop? = none := (Ring.pop?_eq_none_iff _).2 h
  unfold take
  rw [hpop]

/-- Taking a card moves the front of the deck behind the hand. -/
theorem take_front {piles : Piles} (wrapped : Bool) {card : CardRef} {rest : List CardRef}
    (h : piles.deck.toList = card :: rest) (hroom : piles.hand.used < piles.hand.capacity) :
    ∃ left : Piles, piles.take wrapped = ⟨left, wrapped, .ok (some card)⟩ ∧
      left.deck.toList = rest ∧ left.hand.toList = piles.hand.toList ++ [card] ∧
      left.discarded = piles.discarded ∧ SameSlots left piles := by
  cases hpop : piles.deck.pop? with
  | none =>
    rw [(Ring.pop?_eq_none_iff _).1 hpop] at h
    cases h
  | some popped =>
    obtain ⟨front, deck⟩ := popped
    obtain ⟨hlist, hdeck⟩ := Ring.toList_pop? hpop
    rw [h] at hlist
    cases hlist
    cases hpush : piles.hand.push? card with
    | none =>
      have := (Ring.push?_eq_none_iff _ _).1 hpush
      omega
    | some hand =>
      obtain ⟨hcards, hhand⟩ := Ring.toList_push? hpush
      refine ⟨{ piles with deck, hand }, ?_, rfl, hcards, rfl, hdeck, hhand, rfl⟩
      unfold take
      simp only [hpop, hpush]

/-- The piles after the discard pile went back into the deck. -/
def rewound (piles : Piles) : Piles :=
  { piles with
    deck := (piles.deck.pushMany (inDeclaredOrder piles.discarded.toList)).1
    discarded := piles.discarded.clear }

theorem draw_eq (piles : Piles) :
    piles.draw =
      if !piles.deck.isEmpty || piles.discarded.isEmpty then piles.take false
      else if (piles.deck.pushMany (inDeclaredOrder piles.discarded.toList)).2.isEmpty then
        piles.rewound.take true
      else ⟨piles.rewound, false, .error (.pileFull piles.rewound.deck.capacity)⟩ := rfl

/-- With cards in the deck, a draw takes the front one. -/
theorem draw_front {piles : Piles} {card : CardRef} {rest : List CardRef}
    (h : piles.deck.toList = card :: rest) (hroom : piles.hand.used < piles.hand.capacity) :
    ∃ left : Piles, piles.draw = ⟨left, false, .ok (some card)⟩ ∧
      left.deck.toList = rest ∧ left.hand.toList = piles.hand.toList ++ [card] ∧
      left.discarded = piles.discarded ∧ SameSlots left piles := by
  have hdeck : piles.deck.isEmpty = false := by
    rw [Bool.eq_false_iff, ne_eq, Ring.isEmpty_iff, h]
    simp
  have hdraw : piles.draw = piles.take false := by
    rw [draw_eq, hdeck]
    rfl
  rw [hdraw]
  exact take_front false h hroom

/-- With no cards in the deck and the discard pile, a draw yields nothing. -/
theorem draw_nothing {piles : Piles} (h : piles.deck.toList = [])
    (h' : piles.discarded.toList = []) : piles.draw = ⟨piles, false, .ok none⟩ := by
  have hdiscarded : piles.discarded.isEmpty = true := (Ring.isEmpty_iff _).2 h'
  have hdraw : piles.draw = piles.take false := by
    rw [draw_eq, hdiscarded, Bool.or_true]
    rfl
  rw [hdraw]
  exact take_nothing false h

/-- With no cards in the deck alone, a draw takes the first of the discard pile in declared order,
and the others make up the deck. -/
theorem draw_wrap {piles : Piles} {card : CardRef} {rest : List CardRef}
    (h : piles.deck.toList = []) (hsort : inDeclaredOrder piles.discarded.toList = card :: rest)
    (hfit : piles.discarded.used ≤ piles.deck.capacity)
    (hroom : piles.hand.used < piles.hand.capacity) :
    ∃ left : Piles, piles.draw = ⟨left, true, .ok (some card)⟩ ∧
      left.deck.toList = rest ∧ left.hand.toList = piles.hand.toList ++ [card] ∧
      left.discarded.toList = [] ∧ SameSlots left piles := by
  have hlength := length_inDeclaredOrder piles.discarded.toList
  rw [hsort, List.length_cons, Ring.length_toList] at hlength
  have hdeck : piles.deck.isEmpty = true := (Ring.isEmpty_iff _).2 h
  have hdiscarded : piles.discarded.isEmpty = false := by
    rw [Bool.eq_false_iff, ne_eq, Ring.isEmpty, beq_iff_eq]
    omega
  have hused : piles.deck.used = 0 := by
    rw [← Ring.length_toList, h]
    rfl
  have hfits : piles.deck.used + (inDeclaredOrder piles.discarded.toList).length ≤
      piles.deck.capacity := by
    rw [hsort, List.length_cons]
    omega
  obtain ⟨hpushed, hleft⟩ := Ring.pushMany_of_fits hfits
  rw [h, List.nil_append, hsort] at hpushed
  have hdraw : piles.draw = piles.rewound.take true := by
    rw [draw_eq, hdeck, hdiscarded, hleft]
    rfl
  have hslots : SameSlots piles.rewound piles :=
    ⟨(Ring.pushMany_eq piles.deck _).2.1, rfl, Ring.capacity_clear _⟩
  have hdeck' : piles.rewound.deck.toList = card :: rest := by
    unfold rewound
    rw [hsort]
    exact hpushed
  obtain ⟨left, htake, hd, hh, hdis, hslots'⟩ := take_front true hdeck' hroom
  refine ⟨left, hdraw.trans htake, hd, hh, ?_, hslots'.trans hslots⟩
  rw [hdis]
  exact Ring.toList_clear _

theorem hand_take {piles : Piles} {wrapped : Bool} {card : Option CardRef}
    (h : (piles.take wrapped).card = .ok card) :
    (piles.take wrapped).rest.hand.toList = piles.hand.toList ++ card.toList := by
  unfold take at h ⊢
  cases hpop : piles.deck.pop? with
  | none =>
    simp only [hpop, Except.ok.injEq] at h ⊢
    subst h
    exact (List.append_nil _).symm
  | some popped =>
    cases hpush : piles.hand.push? popped.1 with
    | none => simp [hpop, hpush] at h
    | some hand =>
      simp only [hpop, hpush, Except.ok.injEq] at h ⊢
      subst h
      exact (Ring.toList_push? hpush).1

/-- Whatever a draw yields without a fault is behind the cards in the hand, which stay. -/
theorem hand_draw {piles : Piles} {card : Option CardRef} (h : piles.draw.card = .ok card) :
    piles.draw.rest.hand.toList = piles.hand.toList ++ card.toList := by
  rw [draw_eq] at h ⊢
  split
  case isTrue hdirect =>
    rw [if_pos hdirect] at h
    exact hand_take h
  case isFalse hindirect =>
    rw [if_neg hindirect] at h
    split
    case isTrue hfits =>
      rw [if_pos hfits] at h
      exact hand_take h
    case isFalse hover =>
      rw [if_neg hover] at h
      cases h

end WandArena.Piles
