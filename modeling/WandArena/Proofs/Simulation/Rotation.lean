import WandArena.Proofs.Simulation.Casting
import WandArena.Number.Amount

/-! How the deck of a held wand goes round from cast to cast.

`Rotating` follows one holder from the spawning of its wand through any number of casts that end
well. Whatever else happens to the stage between two casts, as long as it leaves the definition of
the wand, its piles and its recharge delay alone, the wand is at rest after every one of them. -/
namespace WandArena.Stage
variable {α : Type} [Scalar α]

/-- A holder's wand through its casts, with the cards paid for since its deck was last dealt. -/
inductive Rotating (wand : Wand α) (holder : Int) : List (Card α) → Stage α → Prop
  | spawned {wandId : String} {target : Option Int} {s t : Stage α}
    (hdefined : s.catalog.wand wandId = .ok wand)
    (hspawn : spawnWand wandId target s = .ok holder t) :
    Rotating wand holder [] t
  | cast {paid : List (Card α)} {s t : Stage α} {held : Holder α} {cast : Cast α}
    (hbefore : Rotating wand holder paid s) (hheld : s.world.get? .holder holder = some held)
    (hcast : castWand holder s = .ok cast t) :
    Rotating wand holder
      (if (s.resolution wand held).recharges = true then [] else paid ++ s.paidNext wand held) t
  /-- The wand is left alone, but its mana may change. -/
  | meanwhile {paid : List (Card α)} {s t : Stage α} {held held' : Holder α}
    (hbefore : Rotating wand holder paid s) (hheld : s.world.get? .holder holder = some held)
    (hheld' : t.world.get? .holder holder = some held')
    (hdefined : t.catalog.wand held'.wand = .ok wand)
    (hpiles : held'.state.piles = held.state.piles)
    (hdelay : held'.state.rechargeDelay = held.state.rechargeDelay) :
    Rotating wand holder paid t

/-- A wielded wand that is at rest comes to rest again when it is cast. -/
theorem rotated_cast {wand : Wand α} {holder : Int} {paid : List (Card α)} {s t : Stage α}
    {held : Holder α} {cast : Cast α} (hwields : s.Wields holder wand held)
    (hrest : held.state.Rotated wand paid) (hcast : castWand holder s = .ok cast t) :
    ∃ final, t.Wields holder wand { held with state := final } ∧ final.Rotated wand
      (if (s.resolution wand held).recharges = true then [] else paid ++ s.paidNext wand held) := by
  obtain ⟨discarded, final, hfinal, hfault, hdiscard, hend⟩ := castWand_eq_ok hwields hcast
  refine ⟨final, hfinal, ?_⟩
  split at hend
  case isTrue hrecharge =>
    rw [if_pos hrecharge]
    exact hrest.recharged hfault hdiscard hend
  case isFalse hkeep =>
    have hempty : held.state.piles.hand.used = 0 := by
      rw [← Ring.length_toList, hrest.hand]
      rfl
    rw [if_neg hkeep, hend, paidNext, hempty, List.drop_zero]
    exact hrest.discarded hfault hdiscard (Bool.eq_false_iff.2 hkeep)

/-- Between casts the wand is at rest. -/
theorem Rotating.rotated {wand : Wand α} {holder : Int} {paid : List (Card α)} {s : Stage α}
    (h : Rotating wand holder paid s) :
    ∃ held, s.Wields holder wand held ∧ held.state.Rotated wand paid := by
  induction h with
  | spawned hdefined hspawn =>
    obtain ⟨state, hfresh, hwields⟩ := wields_of_spawn hdefined hspawn
    exact ⟨_, hwields, .of_fresh hfresh⟩
  | cast _ hheld hcast ih =>
    obtain ⟨held, hwields, hrest⟩ := ih
    obtain rfl := Option.some.inj (hheld.symm.trans hwields.holds)
    obtain ⟨final, hfinal, hrotated⟩ := rotated_cast hwields hrest hcast
    exact ⟨_, hfinal, hrotated⟩
  | meanwhile _ hheld hheld' hdefined hpiles hdelay ih =>
    obtain ⟨held, hwields, hrest⟩ := ih
    obtain rfl := Option.some.inj (hheld.symm.trans hwields.holds)
    exact ⟨_, ⟨hheld', hdefined⟩, hrest.of_same hpiles hdelay⟩

/-- **The deck goes round in declared order.** After the spawn and after every cast the hand is
empty, the discard pile followed by the deck is the wand in declared order, and the deck has run out
only if the wand has no cards. The recharge delay is that of the wand with those of the cards paid
for since the deck was last dealt. -/
theorem Rotating.declared_order {wand : Wand α} {holder : Int} {paid : List (Card α)} {s : Stage α}
    (h : Rotating wand holder paid s) :
    ∃ held, s.world.get? .holder holder = some held ∧ held.state.piles.hand.toList = [] ∧
      held.state.piles.discarded.toList ++ held.state.piles.deck.toList = Piles.deal wand.cards ∧
      (held.state.piles.deck.toList = [] → wand.cards = []) ∧
      held.state.rechargeDelay = wand.rechargeDelay + (paid.map (·.rechargeDelay)).sum := by
  obtain ⟨held, hwields, hrest⟩ := h.rotated
  exact ⟨held, hwields.holds, hrest.hand, hrest.declared, hrest.deck, hrest.rechargeDelay⟩

/-! A wand with two cards, cast once. -/

def focus : Wand Amount :=
  { id := "focus", name := "Focus", cards := ["pause", "pause"], manaRecharge := .whole 1
    spread := .whole 0 }

def pause : Card Amount := { id := "pause", name := "Pause", manaCost := 3, rechargeDelay := 4 }

def still : Stage Amount :=
  let catalog : Catalog Amount := ⟨.ofList [("pause", pause)], .ofList [("focus", focus)], .empty⟩
  .start catalog {} {} ⟨.replicate 624 0, 624⟩ false

/-- The stage after the wand was spawned. -/
def focused : Stage Amount := Run.left (spawnWand "focus" none still)

def focusHolder : Holder Amount := (focused.world.get? .holder 0).get (by decide +kernel)

theorem declared_order_focus :
    ∃ paid t, Rotating focus 0 paid t ∧ paid.map (·.rechargeDelay) = [4] ∧
      ∃ held, t.world.get? .holder 0 = some held ∧ held.state.piles.hand.toList = [] ∧
        held.state.piles.discarded.toList ++ held.state.piles.deck.toList =
          [⟨"pause", 0⟩, ⟨"pause", 1⟩] ∧
        held.state.piles.deck.toList ≠ [] ∧ held.state.rechargeDelay = 34 := by
  have hspawn : spawnWand "focus" none still = .ok 0 focused :=
    Run.eq_ok_of_value? (by decide +kernel)
  have hspawned : Rotating focus 0 [] focused := .spawned rfl hspawn
  have hholds : focused.world.get? .holder 0 = some focusHolder := (Option.some_get _).symm
  have hvalue : (Run.value? (castWand 0 focused)).isSome = true := by decide +kernel
  obtain ⟨cast, hcast⟩ := Option.isSome_iff_exists.1 hvalue
  have hrotating := hspawned.cast hholds (Run.eq_ok_of_value? hcast)
  obtain ⟨held, hheld, hhand, hdeclared, hdeck, hdelay⟩ := hrotating.declared_order
  refine ⟨_, _, hrotating, by decide +kernel, held, hheld, hhand, hdeclared,
    fun hempty => absurd (hdeck hempty) (by decide), hdelay.trans (by decide +kernel)⟩

end WandArena.Stage
