import WandArena.Proofs.Simulation.CastEnd
import WandArena.Proofs.Simulation.Rotation
import WandArena.Proofs.Wand.Redraw

/-! Nothing is drawn again for free.

`Played` follows a holder's wand through casts that end well and writes down each of them as a
`Turn`. Between two casts the discard pile is what was drawn since the deck was last dealt
(`Played.resting`), so drawing one of those cards again takes a wrap, and with it a recharge. Every
turn that does not recharge takes a card off the deck and leaves one in it, which bounds how many of
them there can be in a row. -/
namespace WandArena
variable {α : Type}

/-- What one cast drew, what of it was paid for, and whether the deck was dealt anew. -/
structure Turn (α : Type) where
  drawn : List CardRef
  paid : List (Card α)
  reset : Bool

/-- The turns since the deck was last dealt, oldest first. The last turn comes first in `turns`. -/
def sinceReset (turns : List (Turn α)) : List (Turn α) :=
  (turns.takeWhile fun turn => !turn.reset).reverse

theorem sinceReset_of_reset {turn : Turn α} (h : turn.reset = true) (turns : List (Turn α)) :
    sinceReset (turn :: turns) = [] := by
  rw [sinceReset, List.takeWhile_cons, h]
  rfl

theorem sinceReset_of_keep {turn : Turn α} (h : turn.reset = false) (turns : List (Turn α)) :
    sinceReset (turn :: turns) = sinceReset turns ++ [turn] := by
  rw [sinceReset, List.takeWhile_cons, h]
  exact List.reverse_cons

/-- Turns without a reset, up to the last one, are no more than there are since the last reset. -/
theorem length_le_sinceReset {window turns : List (Turn α)} (h : window <+: turns)
    (hkeep : ∀ turn ∈ window, turn.reset = false) : window.length ≤ (sinceReset turns).length := by
  obtain ⟨earlier, rfl⟩ := h
  have hall : ∀ turn ∈ window, (!turn.reset) = true := fun turn hturn => by
    rw [hkeep turn hturn]
    rfl
  have htake : (window ++ earlier).takeWhile (fun turn => !turn.reset) =
      window ++ earlier.takeWhile fun turn => !turn.reset := List.takeWhile_append_of_pos hall
  rw [sinceReset, List.length_reverse, htake, List.length_append]
  exact Nat.le_add_right _ _

/-- A wand between two turns. -/
structure WandState.Resting (wand : Wand α) (turns : List (Turn α)) (state : WandState α) :
    Prop where
  rotated : state.Rotated wand ((sinceReset turns).flatMap (·.paid))
  discarded : state.piles.discarded.toList = (sinceReset turns).flatMap (·.drawn)
  drew : ∀ turn ∈ sinceReset turns, turn.drawn ≠ []

/-- There are fewer turns since the last reset than cards, if there are cards. -/
theorem WandState.Resting.few {wand : Wand α} {turns : List (Turn α)} {state : WandState α}
    (h : state.Resting wand turns) : (sinceReset turns).length < max 1 wand.cards.length := by
  have hdrawn (since : List (Turn α)) (hdrew : ∀ turn ∈ since, turn.drawn ≠ []) :
      since.length ≤ (since.flatMap (·.drawn)).length := by
    induction since with
    | nil => exact Nat.zero_le _
    | cons turn rest ih =>
      have hfirst := List.length_pos_iff.2 (hdrew turn List.mem_cons_self)
      have hrest := ih fun other hother => hdrew other (List.mem_cons_of_mem _ hother)
      rw [List.flatMap_cons, List.length_append, List.length_cons]
      omega
  have hfew := hdrawn _ h.drew
  rw [← h.discarded, Ring.length_toList] at hfew
  have hcards := congrArg List.length h.rotated.declared
  rw [List.length_append, Ring.length_toList, Ring.length_toList, Piles.length_deal] at hcards
  rcases Nat.eq_zero_or_pos state.piles.deck.used with hnone | hsome
  · have hempty := h.rotated.deck (List.length_eq_zero_iff.1 (by rw [Ring.length_toList, hnone]))
    rw [hempty, List.length_nil] at hcards
    omega
  · omega

namespace Stage
variable [Scalar α]

/-- The turn that the next cast of a held wand is, if it ends well. -/
def turn (s : Stage α) (wand : Wand α) (held : Holder α) : Turn α where
  drawn := (s.resolution wand held).wand.piles.hand.toList.drop held.state.piles.hand.used
  paid := s.paidNext wand held
  reset := (s.resolution wand held).recharges

/-- A holder's wand through its casts, with its turns so far, the last one first. -/
inductive Played (wand : Wand α) (holder : Int) : List (Turn α) → Stage α → Prop
  | spawned {wandId : String} {target : Option Int} {s t : Stage α}
    (hdefined : s.catalog.wand wandId = .ok wand)
    (hspawn : spawnWand wandId target s = .ok holder t) :
    Played wand holder [] t
  | cast {turns : List (Turn α)} {s t : Stage α} {held : Holder α} {cast : Cast α}
    (hbefore : Played wand holder turns s) (hheld : s.world.get? .holder holder = some held)
    (hcast : castWand holder s = .ok cast t) :
    Played wand holder (s.turn wand held :: turns) t
  /-- The wand is left alone, but its mana may change. -/
  | meanwhile {turns : List (Turn α)} {s t : Stage α} {held held' : Holder α}
    (hbefore : Played wand holder turns s) (hheld : s.world.get? .holder holder = some held)
    (hheld' : t.world.get? .holder holder = some held')
    (hdefined : t.catalog.wand held'.wand = .ok wand)
    (hpiles : held'.state.piles = held.state.piles)
    (hdelay : held'.state.rechargeDelay = held.state.rechargeDelay) :
    Played wand holder turns t

variable {wand : Wand α} {holder : Int} {turns : List (Turn α)} {s t : Stage α} {held : Holder α}
  {cast : Cast α}

/-- A wand that rests between two turns comes to rest after the next one. -/
theorem resting_cast (hwields : s.Wields holder wand held) (hrest : held.state.Resting wand turns)
    (hcast : castWand holder s = .ok cast t) :
    ∃ final, t.Wields holder wand { held with state := final } ∧
      final.Resting wand (s.turn wand held :: turns) := by
  obtain ⟨final, hleft, hrotated⟩ := rotated_cast hwields hrest.rotated hcast
  obtain ⟨discarded, other, hother, hfault, hdiscard, hfinal⟩ := castWand_eq_ok hwields hcast
  obtain rfl : other = final := congrArg Holder.state (hother.unique hleft).2
  refine ⟨other, hleft, ?_⟩
  have hdrawn : (s.turn wand held).drawn = (s.resolution wand held).wand.piles.hand.toList := by
    rw [turn, hrest.rotated.used_hand, List.drop_zero]
  by_cases hreset : (s.resolution wand held).recharges = true
  · rw [if_pos hreset] at hfinal hrotated
    obtain ⟨-, -, hempty, -⟩ := WandState.reset_eq_ok hfinal
    have hsince : sinceReset (s.turn wand held :: turns) = [] := sinceReset_of_reset hreset turns
    exact ⟨by rwa [hsince], by rw [hsince, hempty]; rfl, by rw [hsince]; exact nofun⟩
  · rw [if_neg hreset] at hfinal hrotated
    rw [Bool.not_eq_true] at hreset
    subst hfinal
    obtain ⟨hdiscarded, -⟩ := WandState.discardHand_eq_ok hdiscard
    have hsince : sinceReset (s.turn wand held :: turns) = sinceReset turns ++ [s.turn wand held] :=
      sinceReset_of_keep hreset turns
    refine ⟨?_, ?_, ?_⟩
    · rw [hsince, List.flatMap_append, List.flatMap_singleton]
      exact hrotated
    · have hkept : (s.resolution wand held).wand.piles.discarded = held.state.piles.discarded :=
        hrest.rotated.discarded_kept hfault hreset
      rw [hsince, List.flatMap_append, List.flatMap_singleton, hdrawn, ← hrest.discarded,
        hdiscarded, hkept]
    · intro turn hturn
      rw [hsince] at hturn
      rcases List.mem_append.1 hturn with hold | hnew
      · exact hrest.drew turn hold
      · rw [List.mem_singleton.1 hnew, hdrawn]
        exact hrest.rotated.draws_of_keep hfault hreset

/-- Between casts the wand rests. -/
theorem Played.resting (h : Played wand holder turns s) :
    ∃ held, s.Wields holder wand held ∧ held.state.Resting wand turns := by
  induction h with
  | spawned hdefined hspawn =>
    obtain ⟨state, hfresh, hwields⟩ := wields_of_spawn hdefined hspawn
    obtain ⟨slots, mana, hreset⟩ := WandState.fresh_eq_ok hfresh
    exact ⟨_, hwields, .of_fresh hfresh, (WandState.reset_eq_ok hreset).2.2.1, nofun⟩
  | cast _ hheld hcast ih =>
    obtain ⟨held, hwields, hrest⟩ := ih
    obtain rfl := Option.some.inj (hheld.symm.trans hwields.holds)
    obtain ⟨final, hleft, hrests⟩ := resting_cast hwields hrest hcast
    exact ⟨_, hleft, hrests⟩
  | meanwhile _ hheld hheld' hdefined hpiles hdelay ih =>
    obtain ⟨held, hwields, hrest⟩ := ih
    obtain rfl := Option.some.inj (hheld.symm.trans hwields.holds)
    refine ⟨_, ⟨hheld', hdefined⟩, ?_, by rw [hpiles]; exact hrest.discarded, hrest.drew⟩
    exact hrest.rotated.of_same hpiles hdelay

/-- As many turns in a row as the wand has cards deal the deck anew at least once. -/
theorem Played.window_resets (h : Played wand holder turns s) :
    ∀ window, window <:+: turns → max 1 wand.cards.length ≤ window.length →
      ∃ turn ∈ window, turn.reset = true := by
  -- A window that ends with the last turn is no longer than what there is since the last reset.
  have hlast {turns : List (Turn α)} {window : List (Turn α)} {state : WandState α}
      (hrest : state.Resting wand turns) (hfront : window <+: turns)
      (hlong : max 1 wand.cards.length ≤ window.length) : ∃ turn ∈ window, turn.reset = true := by
    refine Decidable.byContradiction fun hnone => ?_
    have hkeep : ∀ turn ∈ window, turn.reset = false := fun turn hturn =>
      Bool.eq_false_iff.2 fun hreset => hnone ⟨turn, hturn, hreset⟩
    have hle := length_le_sinceReset hfront hkeep
    have hfew := hrest.few
    omega
  induction h with
  | spawned _ _ =>
    intro window hwithin hlong
    have hlength := hwithin.length_le
    rw [List.length_nil] at hlength
    omega
  | cast hbefore hheld hcast ih =>
    intro window hwithin hlong
    rcases List.infix_cons_iff.1 hwithin with hfront | hearlier
    · obtain ⟨_, -, hrest⟩ := (hbefore.cast hheld hcast).resting
      exact hlast hrest hfront hlong
    · exact ih window hearlier hlong
  | meanwhile _ _ _ _ _ _ ih => exact ih

/-- What a turn draws and whether it resets the wand. -/
theorem Resting.turn_drawn (hwields : s.Wields holder wand held)
    (hrest : held.state.Resting wand turns) (hcast : castWand holder s = .ok cast t) :
    (s.turn wand held).drawn.Nodup ∧
      ((∃ ref ∈ (s.turn wand held).drawn, ∃ earlier ∈ sinceReset turns, ref ∈ earlier.drawn) →
        (s.turn wand held).reset = true) := by
  obtain ⟨-, -, -, hfault, -⟩ := castWand_eq_ok hwields hcast
  have hdrawn : (s.turn wand held).drawn = (s.resolution wand held).wand.piles.hand.toList := by
    rw [turn, hrest.rotated.used_hand, List.drop_zero]
  rw [hdrawn]
  refine ⟨hrest.rotated.nodup_hand hfault, ?_⟩
  rintro ⟨ref, hagain, earlier, hearlier, href⟩
  refine hrest.rotated.recharges_of_redraw hfault hagain ?_
  rw [hrest.discarded]
  exact List.mem_flatMap.2 ⟨earlier, hearlier, href⟩

/-- A turn that resets the wand deals all its cards, and schedules the next cast for no earlier than
the recharge delays of all cards paid for allow. -/
theorem Resting.turn_reset (hwields : s.Wields holder wand held)
    (hrest : held.state.Resting wand turns) (hcast : castWand holder s = .ok cast t)
    (hreset : (s.turn wand held).reset = true) :
    (∃ held', t.world.get? .holder holder = some held' ∧
      held'.state.piles.deck.toList = Piles.deal wand.cards ∧
      held'.state.piles.hand.toList = [] ∧ held'.state.piles.discarded.toList = [] ∧
      held'.state.rechargeDelay = wand.rechargeDelay) ∧
    ∃ delay, max 1 (wand.rechargeDelay +
        (((sinceReset turns ++ [s.turn wand held]).flatMap (·.paid)).map (·.rechargeDelay)).sum) ≤
          delay ∧
      (t.castTicks holder).Perm ((s.tick + delay) :: s.castTicks holder) := by
  have hends := hwields.castWand_ends
  rw [hcast] at hends
  cases hends with
  | @rearmed discarded final _ hfault hdiscard hfinal hleft hbeside hticks =>
    obtain ⟨-, -, hdeck, -, -, hdelay⟩ := WandState.discardHand_eq_ok hdiscard
    have hrecharges : (s.resolution wand held).recharges = true := hreset
    rw [if_pos hrecharges] at hfinal
    obtain ⟨hdealt, hhand, hempty, -, -, hanew⟩ := WandState.reset_eq_ok hfinal
    refine ⟨⟨_, hleft.holds, hdealt, hhand, hempty, hanew⟩, _, ?_, hticks⟩
    have hcharged : discarded.rechargeDelay = wand.rechargeDelay +
        (((sinceReset turns ++ [s.turn wand held]).flatMap (·.paid)).map
          (·.rechargeDelay)).sum := by
      rw [hdelay, List.flatMap_append, List.flatMap_singleton, turn, paidNext,
        hrest.rotated.used_hand, List.drop_zero]
      exact hrest.rotated.rechargeDelay_resolved hfault
    rw [← hcharged, delayAfter, hdeck]
    have hanyway : ((s.resolution wand held).wand.piles.deck.isEmpty ||
        (s.resolution wand held).cast.forceRecharge) = true := hrecharges
    rw [if_pos hanyway]
    omega

/-- **Nothing is drawn again for free.** Within one cast no card is drawn twice. A cast that draws a
card drawn already since the deck was last dealt ends by dealing it anew; and a cast that ends so
has the next one wait for at least one tick, and for the recharge delays of the wand and of all
cards paid for since the deck was last dealt. Among as many casts in a row as the wand has cards,
one at least ends so. -/
theorem Played.no_free_redraw (h : Played wand holder turns s) :
    (∀ held cast t, s.world.get? .holder holder = some held → castWand holder s = .ok cast t →
      (s.turn wand held).drawn.Nodup ∧
      ((∃ ref ∈ (s.turn wand held).drawn, ∃ earlier ∈ sinceReset turns, ref ∈ earlier.drawn) →
        (s.turn wand held).reset = true) ∧
      ((s.turn wand held).reset = true →
        (∃ held', t.world.get? .holder holder = some held' ∧
          held'.state.piles.deck.toList = Piles.deal wand.cards ∧
          held'.state.piles.hand.toList = [] ∧ held'.state.piles.discarded.toList = [] ∧
          held'.state.rechargeDelay = wand.rechargeDelay) ∧
        ∃ delay, max 1 (wand.rechargeDelay +
            (((sinceReset turns ++ [s.turn wand held]).flatMap (·.paid)).map
              (·.rechargeDelay)).sum) ≤ delay ∧
          (t.castTicks holder).Perm ((s.tick + delay) :: s.castTicks holder))) ∧
    ∀ window, window <:+: turns → max 1 wand.cards.length ≤ window.length →
      ∃ turn ∈ window, turn.reset = true := by
  refine ⟨fun held cast t hheld hcast => ?_, h.window_resets⟩
  obtain ⟨other, hwields, hrest⟩ := h.resting
  obtain rfl := Option.some.inj (hheld.symm.trans hwields.holds)
  obtain ⟨hnodup, hredraw⟩ := Resting.turn_drawn hwields hrest hcast
  exact ⟨hnodup, hredraw, Resting.turn_reset hwields hrest hcast⟩

/-! The second cast of a wand with two cards. -/

/-- The stage after the first cast. -/
def focusedOnce : Stage Amount := Run.left (castWand 0 focused)

def focusHolderOnce : Holder Amount := (focusedOnce.world.get? .holder 0).get (by decide +kernel)

theorem no_free_redraw_focus :
    ∃ turns cast t, Played focus 0 turns focusedOnce ∧ turns.length = 1 ∧
      castWand 0 focusedOnce = .ok cast t ∧
      (focusedOnce.turn focus focusHolderOnce).drawn = [⟨"pause", 1⟩] ∧
      ∃ delay, 38 ≤ delay ∧
        (t.castTicks 0).Perm ((focusedOnce.tick + delay) :: focusedOnce.castTicks 0) := by
  have hspawn : spawnWand "focus" none still = .ok 0 focused :=
    Run.eq_ok_of_value? (by decide +kernel)
  have hholds : focused.world.get? .holder 0 = some focusHolder := (Option.some_get _).symm
  have hvalue : (Run.value? (castWand 0 focused)).isSome = true := by decide +kernel
  obtain ⟨cast, hcast⟩ := Option.isSome_iff_exists.1 hvalue
  have hplayed : Played focus 0 [focused.turn focus focusHolder] focusedOnce :=
    .cast (.spawned rfl hspawn) hholds (Run.eq_ok_of_value? hcast)
  have hholds' : focusedOnce.world.get? .holder 0 = some focusHolderOnce :=
    (Option.some_get _).symm
  have hvalue' : (Run.value? (castWand 0 focusedOnce)).isSome = true := by decide +kernel
  obtain ⟨cast', hcast'⟩ := Option.isSome_iff_exists.1 hvalue'
  have hagain := Run.eq_ok_of_value? hcast'
  obtain ⟨-, -, hreset⟩ := hplayed.no_free_redraw.1 _ _ _ hholds' hagain
  obtain ⟨-, delay, hle, hticks⟩ := hreset (by decide +kernel)
  have hcharges : max 1 (focus.rechargeDelay +
      (((sinceReset [focused.turn focus focusHolder] ++
        [focusedOnce.turn focus focusHolderOnce]).flatMap (·.paid)).map (·.rechargeDelay)).sum) =
      38 := by decide +kernel
  rw [hcharges] at hle
  exact ⟨_, _, _, hplayed, rfl, hagain, by decide +kernel, delay, hle, hticks⟩

end Stage
end WandArena
