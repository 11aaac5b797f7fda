import WandArena.Proofs.Simulation.Launch
import WandArena.Proofs.Simulation.Rotation
import WandArena.Proofs.Wand.Stock

/-! No card of a held wand is lost or doubled, whatever its casts meet.

A cast that is stopped leaves what it drew in the hand, and the next one goes on from there. However
it ends, the cards in the piles are those it started with or the wand dealt anew
(`Wields.castWand_stocked`), and no pile is ever too full for what is pushed onto it
(`Wields.castWand_faults`). -/
namespace WandArena.Stage
variable {α : Type} [Scalar α] {holder : Int} {wand : Wand α} {held : Holder α} {s t : Stage α}
  {slots : Nat} {lot : List CardRef}

/-- However a cast ends, the holder still wields the wand, with the cards it had or dealt anew, and
nothing else that casts go by has changed. -/
theorem Wields.castWand_stocked (h : s.Wields holder wand held)
    (hstock : held.state.piles.Stock slots lot) (hfits : wand.cards.length ≤ slots) :
    ∃ state, (Run.left (castWand holder s)).Wields holder wand { held with state } ∧
      (state.piles.Stock slots lot ∨ state.piles.Stock slots (Piles.deal wand.cards)) ∧
      Beside holder s (Run.left (castWand holder s)) := by
  have hresolved : (s.resolution wand held).wand.piles.Stock slots lot := hstock.resolveOn _ _ _
  obtain ⟨emptied, hdiscards, hemptied⟩ := WandState.discardHand_of_stock hresolved
  have hends := h.castWand_ends
  generalize castWand holder s = ending at hends
  cases hends with
  | unresolved hfault hleft haside => exact ⟨_, hleft, .inl hresolved, haside.toBeside⟩
  | overfull hdiscard =>
    rw [hdiscards] at hdiscard
    cases hdiscard
  | unlaunched hfault hdiscard hlaunch haside hleft haside' =>
    rw [hdiscards] at hdiscard
    cases hdiscard
    exact ⟨_, hleft, .inl hemptied, haside'.toBeside⟩
  | undealt hdiscard hreset =>
    rw [hdiscards] at hdiscard
    cases hdiscard
    obtain ⟨dealt, hdeals, -⟩ := WandState.reset_of_fit hemptied.fit hfits
    rw [hdeals] at hreset
    cases hreset
  | rearmed hfault hdiscard hfinal hleft hbeside hticks =>
    rw [hdiscards] at hdiscard
    cases hdiscard
    split at hfinal
    · obtain ⟨dealt, hdeals, hdealt⟩ := WandState.reset_of_fit hemptied.fit hfits
      rw [hdeals] at hfinal
      cases hfinal
      exact ⟨_, hleft, .inr hdealt, hbeside⟩
    · subst hfinal
      exact ⟨_, hleft, .inl hemptied, hbeside⟩

/-- A cast meets no fault but those of its draws and of launching what they came to. -/
theorem Wields.castWand_stops {stops : Fault → Prop} (h : s.Wields holder wand held)
    (hstock : held.state.piles.Stock slots lot) (hfits : wand.cards.length ≤ slots)
    (hdraws : ∀ fault, (s.resolution wand held).fault = some fault → stops fault)
    (hlaunch : (s.resolution wand held).fault = none → ∀ t, Aside holder s t →
      Run.SafeAt (fun _ => True) stops t (launch wand (s.resolution wand held).cast holder))
    {fault : Fault} (hcast : castWand holder s = .error fault t) : stops fault := by
  have hresolved : (s.resolution wand held).wand.piles.Stock slots lot := hstock.resolveOn _ _ _
  obtain ⟨emptied, hdiscards, hemptied⟩ := WandState.discardHand_of_stock hresolved
  have hends := h.castWand_ends
  rw [hcast] at hends
  cases hends with
  | unresolved hfault hleft haside => exact hdraws fault hfault
  | overfull hdiscard =>
    rw [hdiscards] at hdiscard
    cases hdiscard
  | unlaunched hfault hdiscard hend haside hleft haside' =>
    exact (hlaunch hfault _ haside).of_error hend
  | undealt hdiscard hreset =>
    rw [hdiscards] at hdiscard
    cases hdiscard
    obtain ⟨dealt, hdeals, -⟩ := WandState.reset_of_fit hemptied.fit hfits
    rw [hdeals] at hreset
    cases hreset

/-- A cast from piles with room stops for nothing but content, limits and values. -/
theorem Wields.castWand_faults (h : s.Wields holder wand held)
    (hstock : held.state.piles.Stock slots lot) (hfits : wand.cards.length ≤ slots)
    {fault : Fault} (hcast : castWand holder s = .error fault t) : Fault.OfCast fault :=
  h.castWand_stops hstock hfits
    (fun _ hfault => (Caster.resolveOn_faults hstock.fit hfault).1)
    (fun _ t _ => launch_safe _ _ _ t trivial) hcast

/-- A holder's wand from its spawning on, through casts that end well or not. The piles were made
for `limit` cards. Whatever else happens to the stage leaves the definition of the wand and its
piles alone. -/
inductive Handled (wand : Wand α) (limit holder : Int) : Stage α → Prop
  | spawned {wandId : String} {target : Option Int} {s t : Stage α}
    (hlimit : s.settings.maxDeckSize = limit) (hdefined : s.catalog.wand wandId = .ok wand)
    (hspawn : spawnWand wandId target s = .ok holder t) : Handled wand limit holder t
  | cast {s : Stage α} (hbefore : Handled wand limit holder s) :
    Handled wand limit holder (Run.left (castWand holder s))
  | meanwhile {s t : Stage α} {held held' : Holder α} (hbefore : Handled wand limit holder s)
    (hheld : s.world.get? .holder holder = some held)
    (hheld' : t.world.get? .holder holder = some held')
    (hdefined : t.catalog.wand held'.wand = .ok wand)
    (hpiles : held'.state.piles = held.state.piles) : Handled wand limit holder t

/-- After spawning and after every cast, the piles hold the cards of the wand. -/
theorem Handled.stocked {limit : Int} (h : Handled wand limit holder s) :
    ∃ (held : Holder α) (slots : Nat), s.Wields holder wand held ∧ limit = slots ∧
      wand.cards.length ≤ slots ∧ held.state.piles.Stock slots (Piles.deal wand.cards) := by
  induction h with
  | spawned hlimit hdefined hspawn =>
    obtain ⟨state, hfresh, hwields⟩ := wields_of_spawn hdefined hspawn
    obtain ⟨slots, hslots, hfits, hstock⟩ := WandState.stock_of_fresh hfresh
    exact ⟨_, slots, hwields, hlimit.symm.trans hslots, hfits, hstock⟩
  | cast _ ih =>
    obtain ⟨held, slots, hwields, hlimit, hfits, hstock⟩ := ih
    obtain ⟨state, hleft, hstocked, -⟩ := hwields.castWand_stocked hstock hfits
    exact ⟨_, slots, hleft, hlimit, hfits, hstocked.elim id id⟩
  | meanwhile _ hheld hheld' hdefined hpiles ih =>
    obtain ⟨held, slots, hwields, hlimit, hfits, hstock⟩ := ih
    obtain rfl := Option.some.inj (hheld.symm.trans hwields.holds)
    exact ⟨_, slots, ⟨hheld', hdefined⟩, hlimit, hfits, hpiles ▸ hstock⟩

/-- **No card is lost or doubled.** After the spawn and after every cast, well ended or not, deck,
hand and discard pile together hold each card of the wand once, none of them more than the piles
were made for, and the next cast will find no pile too full. -/
theorem Handled.conserves {limit : Int} (h : Handled wand limit holder s) :
    (∃ held, s.world.get? .holder holder = some held ∧
      (held.state.piles.deck.toList ++ held.state.piles.hand.toList ++
        held.state.piles.discarded.toList).Perm (Piles.deal wand.cards) ∧
      (held.state.piles.deck.used : Int) ≤ limit ∧ (held.state.piles.hand.used : Int) ≤ limit ∧
      (held.state.piles.discarded.used : Int) ≤ limit) ∧
    ∀ capacity t, castWand holder s ≠ .error (.pileFull capacity) t := by
  obtain ⟨held, slots, hwields, rfl, hfits, hstock⟩ := h.stocked
  obtain ⟨hdeck, hhand, hdiscarded⟩ := hstock.used_le
  refine ⟨⟨held, hwields.holds, hstock.cards, by omega, by omega, by omega⟩, ?_⟩
  intro capacity t hcast
  cases hwields.castWand_faults hstock hfits hcast with
  | values hvalues => cases hvalues

/-! A cast that is stopped by its first card, which nobody defines any more. -/

/-- The stage after a wand was spawned and all cards were taken out of the catalog. -/
def bereft : Stage Amount := { focused with catalog := { focused.catalog with cards := .empty } }

theorem conserves_bereft :
    ∃ s, Handled focus 64 0 s ∧ ∃ held, s.world.get? .holder 0 = some held ∧
      held.state.piles.hand.used = 1 ∧
      (held.state.piles.deck.toList ++ held.state.piles.hand.toList ++
        held.state.piles.discarded.toList).Perm [⟨"pause", 0⟩, ⟨"pause", 1⟩] ∧
      ∀ capacity t, castWand 0 s ≠ .error (.pileFull capacity) t := by
  have hspawn : spawnWand "focus" none still = .ok 0 focused :=
    Run.eq_ok_of_value? (by decide +kernel)
  have hholds : focused.world.get? .holder 0 = some focusHolder := (Option.some_get _).symm
  have hbereft : Handled focus 64 0 bereft :=
    .meanwhile (.spawned rfl rfl hspawn) hholds hholds rfl rfl
  have hhand : ((Run.left (castWand 0 bereft)).world.get? .holder 0).map
      (·.state.piles.hand.used) = some 1 := by decide +kernel
  obtain ⟨⟨held, hheld, hcards, -⟩, hroom⟩ := hbereft.cast.conserves
  rw [hheld] at hhand
  exact ⟨_, hbereft.cast, held, hheld, Option.some.inj hhand, hcards, hroom⟩

end WandArena.Stage
