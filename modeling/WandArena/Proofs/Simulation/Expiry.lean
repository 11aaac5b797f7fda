import WandArena.Proofs.Screen.Drawing
import WandArena.Proofs.Simulation.Volley
import WandArena.Proofs.Stats.Lifetime

/-! When projectiles expire, over exact numbers.

Nothing stops a launch there if the content knows the blueprints of the shots and their lifetimes
are proper (`volley_exact`). The modifiers of the cast are stacked first and the blueprint of a
projectile last; what that comes to is rolled for and rounded down, and an end is scheduled unless
the ticks are one below zero. By `Stats.lasts_of_roll` that is how the endless come out and no
others do, so no end is scheduled for them and one for each of the others (`launch_expires`). -/
namespace WandArena

/-- Rolls are from zero up to, not including, one. -/
theorem Twister.rollAt_exact (circle : Circle) (dice : Twister) (n : Nat) :
    letI : Scalar Rat := Exact.scalar circle
    (0 : Rat) ≤ dice.rollAt n ∧ dice.rollAt n < (1 : Rat) := by
  let : Scalar Rat := Exact.scalar circle
  have hcount : (dice.after n).fraction.1 < fractions := fraction_lt _
  have hpos : (0 : Rat) < ((fractions : Int) : Rat) := by norm_num [fractions]
  show (0 : Rat) ≤ (((dice.after n).fraction.1 : Int) : Rat) / ((fractions : Int) : Rat) ∧
    (((dice.after n).fraction.1 : Int) : Rat) / ((fractions : Int) : Rat) < 1
  constructor
  · apply div_nonneg _ hpos.le
    exact_mod_cast Nat.zero_le _
  · rw [div_lt_one hpos]
    exact_mod_cast hcount

/-- Under the usual rules, blocks are stacked in place as they are stacked anew. -/
theorem Stats.absorbAll_eq_stack {α : Type} [Quantity α] (blocks : List (Stats α))
    (acc : Stats α) : absorbAll {} blocks acc = .ok () (blocks.foldl stack acc) := by
  induction blocks generalizing acc with
  | nil => rfl
  | cons b rest ih =>
    show EStateM.bind (absorb {} b) (fun _ => absorbAll {} rest) acc = _
    rw [EStateM.bind, absorb_eq_stack]
    exact ih _

namespace Flight
variable {α : Type}

theorem filter_due (tick : Int) (f : Flight α) (id : Int) :
    (f.due tick).filter (fun entry => entry.2.despawns id) =
      if f.id = id then f.due tick else [] := by
  unfold due
  by_cases hlast : f.lifetime = -1
  · simp [hlast]
  · simp [hlast, List.filter_cons, Action.despawns_despawnEntity]

/-- Among projectiles with different numbers, each has no ends but its own. -/
theorem filter_flatMap_due {flights : List (Flight α)} (h : (flights.map (·.id)).Nodup)
    (tick : Int) {f : Flight α} (hf : f ∈ flights) :
    (flights.flatMap (due tick)).filter (fun entry => entry.2.despawns f.id) = f.due tick := by
  induction flights with
  | nil => cases hf
  | cons g rest ih =>
    rw [List.map_cons, List.nodup_cons] at h
    rw [List.flatMap_cons, List.filter_append, filter_due]
    rcases List.mem_cons.1 hf with rfl | hrest
    · have hnone : (rest.flatMap (due tick)).filter (fun entry => entry.2.despawns f.id) = [] := by
        rw [List.filter_flatMap, List.flatMap_eq_nil_iff]
        intro g hg
        rw [filter_due, if_neg]
        intro hid
        exact h.1 (hid ▸ List.mem_map_of_mem hg)
      rw [if_pos rfl, hnone, List.append_nil]
    · have hother : g.id ≠ f.id := fun hid => h.1 (hid ▸ List.mem_map_of_mem hrest)
      rw [if_neg hother, List.nil_append, ih h.2 hrest]

end Flight

namespace Stage

/-- The content knows the blueprint of a shot, and its lifetime is proper. -/
def Stocked (s : Stage Rat) (shot : Shot Rat (Cast Rat)) : Prop :=
  ∃ blueprint, s.catalog.blueprint shot.blueprint = .ok blueprint ∧ blueprint.stats.Proper

section Exactly
variable (circle : Circle) {mods : List (Stats Rat)} {spread : Rat} {shot : Shot Rat (Cast Rat)}
  {shots : List (Shot Rat (Cast Rat))} {f : Flight Rat} {s t : Stage Rat}

/-- The blueprint of a projectile is stacked last. -/
theorem flightStats_exact (mods : List (Stats Rat)) (blueprint : Blueprint Rat) :
    letI : Scalar Rat := Exact.scalar circle
    flightStats {} (mods.foldl Stats.stack {}) blueprint =
      .ok ((mods ++ [blueprint.stats]).foldl Stats.stack {}).resolve := by
  let : Scalar Rat := Exact.scalar circle
  unfold flightStats
  rw [Stats.merge_eq_stack, List.foldl_append]
  rfl

theorem proper_concat (hmods : ∀ m ∈ mods, m.Proper) {blueprint : Blueprint Rat}
    (hblueprint : blueprint.stats.Proper) : ∀ b ∈ mods ++ [blueprint.stats], b.Proper := by
  intro b hb
  rcases List.mem_append.1 hb with hmod | hlast
  · exact hmods b hmod
  · rw [List.mem_singleton.1 hlast]
    exact hblueprint

theorem flies_exact (hmods : ∀ m ∈ mods, m.Proper) (hrules : s.rules = {})
    (hshot : s.Stocked shot) :
    letI : Scalar Rat := Exact.scalar circle
    ∀ (muzzle : Muzzle Rat) (spread : Rat),
      ∃ f, s.Flies muzzle spread (mods.foldl Stats.stack {}) shot f := by
  let : Scalar Rat := Exact.scalar circle
  intro muzzle spread
  obtain ⟨blueprint, hblueprint, hproper⟩ := hshot
  have hstats := flightStats_exact circle mods blueprint
  obtain ⟨low, high, hends, hrolls⟩ := Stats.lasts_of_roll circle (proper_concat hmods hproper)
  generalize ((mods ++ [blueprint.stats]).foldl Stats.stack {}).resolve = full at hstats hends
  let jitter := Quantity.greatest Quantity.zero (spread + full.spread)
  obtain ⟨direction, hdirection⟩ := normalizeAngle_exact circle
    (muzzle.facing + shot.direction + between (-jitter) jitter s.dice.roll.1)
  obtain ⟨hnonneg, hlt⟩ := Twister.rollAt_exact circle s.dice 1
  obtain ⟨lifetime, hlifetime, -⟩ := hrolls _ hnonneg hlt
  exact ⟨⟨_, blueprint, full, _, direction, circle.cos direction, circle.sin direction, low, high,
    lifetime⟩, rfl, hblueprint, hrules ▸ hstats, rfl, hdirection, rfl, rfl, hends, hlifetime⟩

/-- Nothing stops a launch whose shots are stocked. -/
theorem volley_exact (hmods : ∀ m ∈ mods, m.Proper) (hrules : s.rules = {})
    (hshots : ∀ shot ∈ shots, s.Stocked shot) :
    letI : Scalar Rat := Exact.scalar circle
    ∀ (muzzle : Muzzle Rat) (spread : Rat),
      ∃ flights t, Volley muzzle spread (mods.foldl Stats.stack {}) shots s flights t := by
  let : Scalar Rat := Exact.scalar circle
  intro muzzle spread
  induction shots generalizing s with
  | nil => exact ⟨[], s, .nil⟩
  | cons shot rest ih =>
    obtain ⟨f, hflies⟩ :=
      flies_exact circle hmods hrules (hshots shot List.mem_cons_self) muzzle spread
    have hbackdrop := (backdrop_launched s muzzle shot f).1
    have hcatalog : (s.launched muzzle shot f).catalog = s.catalog :=
      congrArg Backdrop.catalog hbackdrop
    obtain ⟨flights, t, hvolley⟩ := ih
      ((congrArg Backdrop.rules hbackdrop).trans hrules) fun shot hshot => by
        unfold Stocked
        rw [hcatalog]
        exact hshots shot (List.mem_cons_of_mem _ hshot)
    exact ⟨f :: flights, t, .cons hflies hvolley⟩

/-- How long a projectile that flies lasts. -/
theorem Flies.lasts (hmods : ∀ m ∈ mods, m.Proper) :
    letI : Scalar Rat := Exact.scalar circle
    ∀ {muzzle : Muzzle Rat}, s.Flies muzzle spread (mods.foldl Stats.stack {}) shot f →
      s.rules = {} → f.blueprint.stats.Proper →
      Stats.Lasts (mods ++ [f.blueprint.stats]) f.lifetime := by
  let : Scalar Rat := Exact.scalar circle
  intro muzzle hflies hrules hproper
  obtain ⟨low, high, hends, hrolls⟩ := Stats.lasts_of_roll circle (proper_concat hmods hproper)
  have hstats := hflies.stats
  rw [hrules, flightStats_exact circle, Except.ok.injEq] at hstats
  rw [hstats, hflies.ends, Option.some.injEq, Prod.mk.injEq] at hends
  obtain ⟨rfl, rfl⟩ := hends
  obtain ⟨hnonneg, hlt⟩ := Twister.rollAt_exact circle s.dice 1
  obtain ⟨ticks, hticks, hlasts⟩ := hrolls _ hnonneg hlt
  have hsame : (.ok f.lifetime : Except NumberFault Int) = .ok ticks :=
    hflies.lifetime.symm.trans hticks
  cases hsame
  exact hlasts

/-- What is scheduled for the end of an entity whose stats come from these blocks. -/
structure Expires (s t : Stage Rat) (blocks : List (Stats Rat)) (id : Int) : Prop where
  /-- Nothing is scheduled exactly if one of the blocks never ends. -/
  endless : (t.agenda.ticks (Action.despawns id)).Perm (s.agenda.ticks (Action.despawns id)) ↔
    ∃ b ∈ blocks, b.NeverEnds
  /-- Otherwise, it is one end, after as many ticks as the blocks last. -/
  ending : (∀ b ∈ blocks, ¬ b.NeverEnds) → ∃ ticks, Stats.Lasts blocks ticks ∧
    (t.agenda.ticks (Action.despawns id)).Perm
      ((s.tick + ticks) :: s.agenda.ticks (Action.despawns id))

theorem expires_of_lasts {blocks : List (Stats Rat)} (hlasts : Stats.Lasts blocks f.lifetime)
    (hagenda : (t.agenda.ticks (Action.despawns f.id)).Perm
      (s.agenda.ticks (Action.despawns f.id) ++ (f.due s.tick).map (·.1))) :
    s.Expires t blocks f.id := by
  by_cases hnever : f.lifetime = -1
  · rw [Flight.due, if_pos hnever, List.map_nil, List.append_nil] at hagenda
    have hany := hlasts.endless.1 hnever
    refine ⟨iff_of_true hagenda hany, fun hnone => ?_⟩
    obtain ⟨b, hb, hend⟩ := hany
    exact absurd hend (hnone b hb)
  · rw [Flight.due, if_neg hnever] at hagenda
    have hone := hagenda.trans List.perm_append_comm
    refine ⟨iff_of_false (fun hsame => ?_) (mt hlasts.endless.2 hnever), fun _ => ?_⟩
    · have hlength := (hsame.symm.trans hone).length_eq
      simp at hlength
    · exact ⟨f.lifetime, hlasts, hone⟩

/-- **Only the endless never expire.** Modifiers with proper lifetimes are stacked onto a cast in
any order. Whatever is rolled, what they and a blueprint come to lasts as its ranges say, and -1
ticks exactly if one of them never ends. Nothing stops a launch of shots that are stocked. After
any launch, no end is scheduled for a projectile whose blueprint has a proper lifetime if that or
one of the modifiers never ends; otherwise one end is, that many ticks later. -/
theorem launch_expires (hmods : ∀ m ∈ mods, m.Proper) :
    letI : Scalar Rat := Exact.scalar circle
    ∃ stacked, Stats.absorbAll {} mods {} = .ok () stacked ∧
      (∀ blueprint : Blueprint Rat, blueprint.stats.Proper → ∃ full low high,
        flightStats {} stacked blueprint = .ok full ∧ full.lifetime.ends? = some (low, high) ∧
        ∀ r : Rat, 0 ≤ r → r < 1 → ∃ ticks, Scalar.floor (between low high r) = .ok ticks ∧
          Stats.Lasts (mods ++ [blueprint.stats]) ticks) ∧
      ∀ (s : Stage Rat) (wand : Wand Rat) (cast : Cast Rat) (holder : Int),
        s.rules = {} → cast.stats = stacked →
        ((∀ shot ∈ cast.shots, s.Stocked shot) → ∃ ids t, launch wand cast holder s = .ok ids t) ∧
        ∀ ids t, launch wand cast holder s = .ok ids t → ids.length = cast.shots.length ∧
          ∀ (place : Nat) shot blueprint id, cast.shots[place]? = some shot →
            ids[place]? = some id → s.catalog.blueprint shot.blueprint = .ok blueprint →
            blueprint.stats.Proper → s.Expires t (mods ++ [blueprint.stats]) id := by
  let : Scalar Rat := Exact.scalar circle
  refine ⟨_, Stats.absorbAll_eq_stack mods {}, fun blueprint hproper => ?_, ?_⟩
  · obtain ⟨low, high, hends, hrolls⟩ := Stats.lasts_of_roll circle (proper_concat hmods hproper)
    exact ⟨_, low, high, flightStats_exact circle mods blueprint, hends, hrolls⟩
  · intro s wand cast holder hrules hstats
    constructor
    · intro hshots
      obtain ⟨flights, t, hvolley⟩ :=
        volley_exact circle hmods hrules hshots (muzzleOf s.world holder) wand.spread
      rw [← hstats] at hvolley
      exact ⟨_, t, hvolley.mapM⟩
    · intro ids t hlaunch
      obtain ⟨flights, hvolley, rfl⟩ := launched_mapM hlaunch
      rw [hstats] at hvolley
      refine ⟨by rw [List.length_map, hvolley.length], ?_⟩
      intro place shot blueprint id hshot hid hblueprint hproper
      rw [List.getElem?_map] at hid
      obtain ⟨f, hf, rfl⟩ := Option.map_eq_some_iff.1 hid
      obtain ⟨hflies, -⟩ := hvolley.carries hshot hf
      obtain rfl : f.blueprint = blueprint :=
        Except.ok.inj (hflies.blueprint.symm.trans hblueprint)
      apply expires_of_lasts (Flies.lasts circle hmods hflies hrules hproper)
      rw [hvolley.schedules, ← Flight.filter_flatMap_due hvolley.nodup_ids s.tick
        (List.mem_of_getElem? hf)]
      exact s.agenda.ticks_scheduleAll _ _

end Exactly

/-! A spark that lasts ten ticks, with a modifier that adds two to five and one that never ends. -/

section Lingering

/-- Numbers that turn by a hexagon. -/
local instance sixfold : Scalar Rat := level

def lingering : Stats Rat := { lifetime := some { low := 2, high := 5 } }

def everlasting : Stats Rat := { lifetime := some { low := -1, high := -1 } }

/-- A cast of one spark. -/
def single (stats : Stats Rat) : Cast Rat :=
  { Cast.fresh with stats, shots := [⟨"spark", ⟨1, 0⟩, 0, .normal⟩] }

theorem proper_lingering : lingering.Proper := by
  rintro span ⟨⟩
  exact .inr ⟨by norm_num, by norm_num, rfl⟩

theorem proper_everlasting : everlasting.Proper := fun _ _ => .inl rfl

theorem proper_spark : spark.stats.Proper := by
  rintro span ⟨⟩
  exact .inr ⟨by norm_num, by norm_num, rfl⟩

theorem stocked_single (stats : Stats Rat) :
    ∀ shot ∈ (single stats).shots, (wielding early).Stocked shot := by
  intro shot hshot
  rw [List.mem_singleton.1 hshot]
  exact ⟨spark, rfl, proper_spark⟩

theorem launch_expires_spark :
    (∃ stacked t id, Stats.absorbAll {} [lingering] {} = .ok () stacked ∧
      launch early (single stacked) 0 (wielding early) = .ok [id] t ∧
      ∃ ticks, 12 ≤ ticks ∧ ticks ≤ 15 ∧ t.agenda.ticks (Action.despawns id) = [ticks]) ∧
    ∃ stacked t id, Stats.absorbAll {} [lingering, everlasting] {} = .ok () stacked ∧
      launch early (single stacked) 0 (wielding early) = .ok [id] t ∧
      t.agenda.ticks (Action.despawns id) = [] := by
  have hsingle (mods : List (Stats Rat)) (hmods : ∀ m ∈ mods, m.Proper) :
      ∃ stacked t id, Stats.absorbAll {} mods {} = .ok () stacked ∧
        launch early (single stacked) 0 (wielding early) = .ok [id] t ∧
        (wielding early).Expires t (mods ++ [spark.stats]) id := by
    obtain ⟨stacked, hstacked, -, hlaunches⟩ :=
      launch_expires ⟨3, fun _ => 0, fun _ => 1, fun _ _ => 0, by decide⟩ hmods
    obtain ⟨hsucceeds, hlaunched⟩ :=
      hlaunches (wielding early) early (single stacked) 0 rfl rfl
    obtain ⟨ids, t, hlaunch⟩ := hsucceeds (stocked_single stacked)
    obtain ⟨hids, hexpires⟩ := hlaunched ids t hlaunch
    obtain ⟨id, rfl⟩ := List.length_eq_one_iff.1 hids
    exact ⟨stacked, t, id, hstacked, hlaunch, hexpires 0 _ spark id rfl rfl rfl proper_spark⟩
  constructor
  · obtain ⟨stacked, t, id, hstacked, hlaunch, hexpires⟩ :=
      hsingle [lingering] (by simpa using proper_lingering)
    have hnone : ∀ b ∈ [lingering] ++ [spark.stats], ¬ b.NeverEnds := by
      norm_num [Stats.NeverEnds, lingering, spark]
    have hleast : (Stats.leastSum ([lingering] ++ [spark.stats])).floor = 12 := by decide +kernel
    have hgreatest : Stats.greatestSum ([lingering] ++ [spark.stats]) = 15 := by decide +kernel
    obtain ⟨ticks, hlasts, hends⟩ := hexpires.ending hnone
    have hlow := hlasts.least hnone
    have hhigh := hlasts.greatest hnone
    rw [hleast] at hlow
    rw [hgreatest] at hhigh
    refine ⟨stacked, t, id, hstacked, hlaunch, ticks, hlow, by exact_mod_cast hhigh, ?_⟩
    rw [List.perm_singleton.1 hends]
    exact congrArg (fun tick => [tick]) (Int.zero_add ticks)
  · obtain ⟨stacked, t, id, hstacked, hlaunch, hexpires⟩ :=
      hsingle [lingering, everlasting] (by simpa using ⟨proper_lingering, proper_everlasting⟩)
    have hends := hexpires.endless.2 ⟨everlasting, by simp, rfl⟩
    exact ⟨stacked, t, id, hstacked, hlaunch, List.perm_nil.1 hends⟩

end Lingering

end Stage
end WandArena
