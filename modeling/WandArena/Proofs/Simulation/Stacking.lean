import WandArena.Proofs.Cast.History
import WandArena.Proofs.Simulation.Flight
import WandArena.Number.Exact

/-! The stats that projectiles are launched with.

Stats are stacked onto the cast as a whole, and the cast is launched when it is over. So whatever
was stacked before a projectile was emitted and whatever was stacked after it make up its stats
together with its blueprint; where nothing was stacked after it, they are what was stacked before
(`Wields.castWand_stacks`). -/
namespace WandArena.Stage
variable {α : Type} [Scalar α] {holder : Int} {wand : Wand α} {held : Holder α} {cast : Cast α}
  {s t : Stage α}

/-- The state of the next cast of a held wand before its first draw. -/
def opening (wand : Wand α) (held : Holder α) : Casting Piles α where
  source := held.state.piles
  mana := held.state.mana
  rechargeDelay := held.state.rechargeDelay
  cast := { Cast.fresh with castDelay := wand.castDelay }
  notes := #[]

/-- A cast that resolves has a history. -/
theorem tells_of_resolution (h : (s.resolution wand held).fault = none) :
    ∃ history final, (s.caster wand).Tells 0 .draw (opening wand held) history final ∧
      final.cast = (s.resolution wand held).cast := by
  obtain ⟨final, hresolve, hend⟩ := Caster.resolveOn_eq_ok h
  obtain ⟨history, htells⟩ := (Caster.does_of_resolve hresolve).tells
  exact ⟨history, final, htells, (congrArg Resolved.cast hend).symm⟩

/-- **All stats of a cast go into each of its projectiles.** A cast that ends well has one history.
For every projectile emitted in it, one is launched, in the order of emission; it carries the stats
that its blueprint and all blocks stacked in the cast come to. If none was stacked after it was
emitted, those are exactly the blocks stacked before. -/
theorem Wields.castWand_stacks (h : s.Wields holder wand held)
    (hcast : castWand holder s = .ok cast t) :
    (∃ history final, (s.caster wand).Tells 0 .draw (opening wand held) history final ∧
      final.cast = cast) ∧
    ∀ history final, (s.caster wand).Tells 0 .draw (opening wand held) history final →
      ∀ before shot after, history = before ++ .emitted shot :: after →
        ∃ (u : Stage α) (muzzle : Muzzle α) (f : Flight α) (stats : Stats α),
          u.Flies muzzle wand.spread cast.stats shot f ∧
          f.id = s.world.nextId + (Happening.shots before).length ∧
          (∀ c ∈ f.components muzzle shot, t.world.get? c.kind f.id = some c.value) ∧
          flightStats s.rules stats f.blueprint = .ok f.stats ∧
          Stats.absorbAll s.rules (Happening.absorbed before ++ Happening.absorbed after) {} =
            .ok () stats ∧
          (Happening.absorbed after = [] →
            Stats.absorbAll s.rules (Happening.absorbed before) {} = .ok () stats) := by
  obtain ⟨found, prepared, launched, flights, hprepare, hvolley, hrearm⟩ := castWand_launches hcast
  obtain ⟨rfl, rfl, hfault, haside⟩ := h.prepare_eq_ok hprepare
  obtain ⟨history, final, htells, hfinal⟩ := tells_of_resolution hfault
  refine ⟨⟨history, final, htells, hfinal⟩, fun history' final' htells' => ?_⟩
  obtain ⟨rfl, rfl⟩ := htells.unique htells'
  rintro before shot after rfl
  have hshots := htells.shots
  rw [hfinal, Happening.shots_append, Happening.shots_emitted] at hshots
  change _ = [] ++ _ at hshots
  rw [List.nil_append] at hshots
  rw [hshots] at hvolley
  obtain ⟨u, f, earlier, later, hbefore, hflies, hafter⟩ := hvolley.split
  have hstats := htells.stats
  rw [Happening.absorbed_append, Happening.absorbed_emitted, hfinal] at hstats
  change Stats.absorbAll s.rules _ {} = _ at hstats
  refine ⟨u, _, f, _, hflies, ?_, ?_, ?_, hstats, fun hnone => ?_⟩
  · have hcalm : prepared.roster = s.roster := (letsCast_calm holder).prepare.of_ok hprepare
    have hnext : prepared.world.nextId = s.world.nextId := congrArg Roster.nextId hcalm
    rw [hflies.id, hbefore.nextId, hnext]
  · have hrearmed := ((letsCast_wears holder).rearm _ _).of_ok hrearm
    exact carries_of_launched hflies (wears.trans hafter.wears hrearmed)
  · have hrules : u.rules = s.rules :=
      congrArg Backdrop.rules (hbefore.backdrop.1.trans haside.backdrop)
    rw [← hrules]
    exact hflies.stats
  · rw [hnone, List.append_nil] at hstats
    exact hstats

/-! Two wands with a bolt that deals one point of damage and a card that adds five: one draws the
card before the bolt, the other draws it in the branch after the bolt. -/

section Sharpening

/-- Numbers that turn by a hexagon. -/
local instance level : Scalar Rat :=
  Exact.scalar ⟨3, fun _ => 0, fun _ => 1, fun _ _ => 0, by decide⟩

def spark : Blueprint Rat :=
  { id := "spark", stats := { damage := some 1, lifetime := some { low := 10, high := 10 } } }

def edge : Stats Rat := { damage := some 5 }

def early : Wand Rat :=
  { id := "early", name := "Early", cards := ["sharpen", "bolt"], manaRecharge := 1, castDelay := 1
    spread := 0 }

def late : Wand Rat :=
  { id := "late", name := "Late", cards := ["twin", "bolt", "sharpen"], manaRecharge := 1
    castDelay := 1, spread := 0 }

def armory : Stage Rat :=
  let cards : Registry (Card Rat) := .ofList [
    ("twin", { id := "twin", name := "Twin", effects := [.multicast [.identity, .identity]] }),
    ("bolt", { id := "bolt", name := "Bolt", effects := [.projectile "spark" .normal] }),
    ("sharpen", { id := "sharpen", name := "Sharpen", effects := [.modifier edge] })]
  .start ⟨cards, .ofList [("early", early), ("late", late)], .ofList [("spark", spark)]⟩ {} {}
    ⟨.replicate 624 0, 0⟩ false

/-- A wand with all its cards in the deck. -/
def loaded (wand : Wand Rat) : Holder Rat :=
  ⟨wand.id, ⟨⟨((Ring.empty 4).pushMany (Piles.deal wand.cards)).1, .empty 4, .empty 4⟩, 100, 0⟩⟩

/-- The stage with the wand in the hands of a new entity. -/
def wielding (wand : Wand Rat) : Stage Rat :=
  { armory with world := (armory.world.create [⟨.holder, loaded wand⟩]).2 }

theorem wields_wielding {wand : Wand Rat} (h : armory.catalog.wand wand.id = .ok wand) :
    (wielding wand).Wields 0 wand (loaded wand) where
  holds := armory.world.get?_create_self [⟨.holder, loaded wand⟩]
    (List.nodup_cons.2 ⟨nofun, .nil⟩) (List.mem_singleton_self _)
  defined := h

theorem tells_early : ∃ history final shot, ((wielding early).caster early).Tells 0 .draw
    (opening early (loaded early)) history final ∧ shot.blueprint = "spark" ∧
      history = [.stacked edge] ++ .emitted shot :: [] := by
  have hmerge : Stats.absorb {} edge {} = .ok () edge := rfl
  refine ⟨_, _, _, .played rfl ?_ rfl ?_ (.modifier hmerge (.played rfl ?_ rfl ?_ (.plain .done))
    .done), rfl, rfl⟩ <;> decide +kernel

/-- The second branch stacks after the first one has emitted. -/
theorem tells_late : ∃ history final shot, ((wielding late).caster late).Tells 0 .draw
    (opening late (loaded late)) history final ∧ shot.blueprint = "spark" ∧
      history = [] ++ .emitted shot :: [.stacked edge] := by
  have hmerge : Stats.absorb {} edge {} = .ok () edge := rfl
  refine ⟨_, _, _, .played rfl ?_ rfl ?_ (.branch rfl (.played rfl ?_ rfl ?_ (.plain .done))
    (.branch rfl (.played rfl ?_ rfl ?_ (.modifier hmerge (.exhausted rfl) .done))
      (.gathered .done))), rfl, rfl⟩ <;> decide +kernel

/-- The cast of one of the wands ends well. -/
theorem castWand_wielding (wand : Wand Rat)
    (h : (Run.value? (castWand 0 (wielding wand))).isSome = true) :
    ∃ cast, castWand 0 (wielding wand) = .ok cast (Run.left (castWand 0 (wielding wand))) := by
  obtain ⟨cast, hcast⟩ := Option.isSome_iff_exists.1 h
  exact ⟨cast, Run.eq_ok_of_value? hcast⟩

theorem castWand_stacks_early :
    ∃ (cast : Cast Rat) (t : Stage Rat) (stats : Stats Rat) (f : Flight Rat),
      castWand 0 (wielding early) = .ok cast t ∧ Stats.absorbAll {} [edge] {} = .ok () stats ∧
      flightStats {} stats f.blueprint = .ok f.stats ∧
      (t.world.get? .projectile 1).map (·.damage) = some f.stats.damage := by
  obtain ⟨cast, hcast⟩ := castWand_wielding early (by decide +kernel)
  obtain ⟨history, final, shot, htells, -, hhistory⟩ := tells_early
  obtain ⟨u, muzzle, f, stats, -, hid, hcarries, hflight, -, hbefore⟩ :=
    ((wields_wielding rfl).castWand_stacks hcast).2 history final htells _ shot _ hhistory
  have hcarried := hcarries _ (f.projectile_mem_components muzzle shot)
  have hone : f.id = 1 := hid.trans rfl
  rw [hone] at hcarried
  exact ⟨cast, _, stats, f, hcast, hbefore rfl, hflight, congrArg (Option.map _) hcarried⟩

/-- Stats may reach a projectile that was emitted before they were stacked. -/
theorem castWand_late :
    ∃ (cast : Cast Rat) (t : Stage Rat) (history : List (Happening Rat))
      (final : Casting Piles Rat) (shot : Shot Rat (Cast Rat)),
      castWand 0 (wielding late) = .ok cast t ∧
      ((wielding late).caster late).Tells 0 .draw (opening late (loaded late)) history final ∧
      history = [] ++ .emitted shot :: [.stacked edge] ∧
      (wielding late).catalog.blueprint shot.blueprint = .ok spark ∧
      ∀ stats full, Stats.absorbAll {} (Happening.absorbed []) {} = .ok () stats →
        flightStats {} stats spark = .ok full →
        (t.world.get? .projectile 1).map (·.damage) ≠ some full.damage := by
  obtain ⟨cast, hcast⟩ := castWand_wielding late (by decide +kernel)
  obtain ⟨history, final, shot, htells, hblueprint, hhistory⟩ := tells_late
  refine ⟨cast, _, history, final, shot, hcast, htells, hhistory, ?_,
    fun stats full hstats hfull => ?_⟩
  · rw [hblueprint]
    rfl
  · have hsix : ((Run.left (castWand 0 (wielding late))).world.get? .projectile 1).map (·.damage) =
        some 6 := by decide +kernel
    cases hstats
    cases hfull
    rw [hsix]
    decide +kernel

end Sharpening

end WandArena.Stage
