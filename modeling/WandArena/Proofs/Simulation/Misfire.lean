import WandArena.Proofs.Simulation.Stacking

/-! What a cast leaves behind that is stopped by content or limits.

As long as nothing is launched, a cast touches nothing but the state of the wand that is cast
(`Untouched`): so a cast that is stopped while it resolves leaves no trace. Its projectiles,
however, are looked up one by one while they are launched. One that cannot be launched stops the
cast with all before it on their way (`castWand_misfires`), and nothing calls those back. -/
namespace WandArena
variable {α : Type}

namespace Stage

/-! ### What a cast may not touch -/

/-- Apart from the state of one holder's wand and the journal, everything is the same. -/
structure Untouched (holder : Int) (s t : Stage α) : Prop where
  nextId : t.world.nextId = s.world.nextId
  existing : t.world.existing = s.world.existing
  marked : t.world.marked = s.world.marked
  components : ∀ k id, (k ≠ .holder ∨ id ≠ holder) → t.world.get? k id = s.world.get? k id
  wand : (t.world.get? .holder holder).map (·.wand) = (s.world.get? .holder holder).map (·.wand)
  agenda : t.agenda = s.agenda
  tick : t.tick = s.tick
  dice : t.dice = s.dice
  backdrop : t.backdrop = s.backdrop

variable {holder : Int} {s t u : Stage α}

theorem Untouched.journal (s : Stage α) (journal : Array (Record α)) :
    Untouched holder s { s with journal } :=
  ⟨rfl, rfl, rfl, fun _ _ _ => rfl, rfl, rfl, rfl, rfl, rfl⟩

theorem Untouched.trans (h : Untouched holder s t) (h' : Untouched holder t u) :
    Untouched holder s u where
  nextId := h'.nextId.trans h.nextId
  existing := h'.existing.trans h.existing
  marked := h'.marked.trans h.marked
  components := fun k id hother => (h'.components k id hother).trans (h.components k id hother)
  wand := h'.wand.trans h.wand
  agenda := h'.agenda.trans h.agenda
  tick := h'.tick.trans h.tick
  dice := h'.dice.trans h.dice
  backdrop := h'.backdrop.trans h.backdrop

/-- The frame of `Untouched`. -/
def untouched (holder : Int) : Run.Frame (Stage α) where
  Allows := Untouched holder
  refl := fun s => .journal s s.journal
  trans := .trans

theorem Untouched.holding {held : Holder α} (hget : s.world.get? .holder holder = some held)
    (state : WandState α) : Untouched holder s (s.holding holder { held with state }) where
  nextId := rfl
  existing := rfl
  marked := rfl
  components := fun k id hother => by
    show (s.world.put .holder holder _).get? k id = _
    rcases hother with hkind | hid
    · exact s.world.get?_put_of_ne hkind holder id _
    · exact s.world.get?_put_other .holder k hid _
  wand := by
    show ((s.world.put .holder holder _).get? .holder holder).map (·.wand) = _
    rw [World.get?_put, if_pos rfl, hget]
    rfl
  agenda := rfl
  tick := rfl
  dice := rfl
  backdrop := rfl

variable [Scalar α]

/-- Until it launches anything, a cast touches nothing but the state of its wand. -/
theorem prepare_untouched (holder : Int) :
    Run.Keeps (untouched holder) (prepare holder : Run (Stage α) (Wand α × Cast α)) :=
  prepare_keeps .journal fun _ _ state hget => .holding hget state

/-! ### What a volley leaves behind -/

variable {muzzle : Muzzle α} {spread : α} {castStats : Stats α} {shots : List (Shot α (Cast α))}
  {flights : List (Flight α)}

/-- Whoever was there before carries the same as before. -/
theorem Volley.spares (h : Volley muzzle spread castStats shots s flights t) (k : ComponentKind)
    {id : Int} (hid : id < s.world.nextId) : t.world.get? k id = s.world.get? k id :=
  h.others (fun hnew => Int.not_le.2 hid (h.mem_ids.1 hnew).1) k

/-- What was scheduled before still is, and beside it only the ends of the projectiles. -/
theorem Volley.agenda (h : Volley muzzle spread castStats shots s flights t) :
    t.agenda.entries.Perm (flights.flatMap (Flight.due s.tick) ++ s.agenda.entries) := by
  rw [h.schedules]
  exact (s.agenda.scheduleAll_perm _).trans List.perm_append_comm

/-! ### Casts that are stopped -/

/-- **Only what was launched before the fault is left of a cast that content or limits stop.**
Either it is stopped before it launches anything, and then nothing but the state of its wand has
changed. Or it is stopped at one of its projectiles: those before that one have been launched and
stay, with their ends scheduled, and nothing else has changed; so it leaves no trace exactly if it
is stopped at the very first. -/
theorem castWand_misfires {fault : ConfigFault}
    (h : castWand holder s = .error (.config fault) t) :
    (prepare holder s = .error (.config fault) t ∧ Untouched holder s t) ∨
    ∃ wand cast u sent shot rest flights,
      prepare holder s = .ok (wand, cast) u ∧ Untouched holder s u ∧
      cast.shots = sent ++ shot :: rest ∧
      Volley (muzzleOf u.world holder) wand.spread cast.stats sent u flights t ∧
      launchOne (muzzleOf u.world holder) wand.spread cast.stats shot t =
        .error (.config fault) t ∧
      t.world.nextId = s.world.nextId + sent.length ∧
      (∀ k id, id < s.world.nextId → (k ≠ .holder ∨ id ≠ holder) →
        t.world.get? k id = s.world.get? k id) ∧
      t.agenda.entries.Perm (flights.flatMap (Flight.due s.tick) ++ s.agenda.entries) ∧
      (Untouched holder s t ↔ sent = []) := by
  rw [castWand_eq] at h
  rcases Run.bind_eq_error.1 h with hprepare | ⟨⟨wand, cast⟩, u, hprepare, hlaunching⟩
  · exact .inl ⟨hprepare, (prepare_untouched holder).of_error hprepare⟩
  · have huntouched : Untouched holder s u := (prepare_untouched holder).of_ok hprepare
    rcases Run.bind_eq_error.1 hlaunching with hlaunch | ⟨_, v, _, hrearming⟩
    · obtain ⟨sent, shot, rest, flights, hshots, hvolley, hstopped⟩ := mapM_stopped_at hlaunch
      have hnext : t.world.nextId = s.world.nextId + sent.length := by
        rw [hvolley.nextId, huntouched.nextId]
      refine .inr ⟨wand, cast, u, sent, shot, rest, flights, hprepare, huntouched, hshots, hvolley,
        hstopped, hnext, fun k id hid hother => ?_, ?_, fun hnothing => ?_, ?_⟩
      · rw [← huntouched.nextId] at hid
        rw [hvolley.spares k hid, huntouched.components k id hother]
      · have hagenda := hvolley.agenda
        rwa [huntouched.tick, huntouched.agenda] at hagenda
      · have hcount := hnothing.nextId
        rw [hnext] at hcount
        exact List.length_eq_zero_iff.1 (by omega)
      · rintro rfl
        cases hvolley
        exact huntouched
    · rcases Run.bind_eq_error.1 hrearming with hrearm | ⟨_, _, _, hpure⟩
      · exact absurd hrearm rearm_ne_config
      · cases hpure

/-! A card with two projectiles, the second of which is taken out of the registry once the wand with
the card is held. -/

section Ghost

/-- Numbers that turn by a hexagon. -/
local instance tame : Scalar Rat := level

def double : Wand Rat :=
  { id := "double", name := "Double", cards := ["pair"], manaRecharge := 1, castDelay := 1
    spread := 0 }

/-- The stage before the wand is held. -/
def stocked : Stage Rat :=
  let cards : Registry (Card Rat) := .ofList [("pair",
    { id := "pair", name := "Pair"
      effects := [.projectile "spark" .normal, .projectile "ghost" .normal] })]
  .start ⟨cards, .ofList [("double", double)],
    .ofList [("spark", spark), ("ghost", { spark with id := "ghost" })]⟩ {} {}
    ⟨.replicate 624 0, 0⟩ false

/-- The stage with the wand in the hands of a new entity. -/
def handed : Stage Rat := Run.left (spawnWand "double" none stocked)

/-- The stage without the second blueprint. -/
def haunted : Stage Rat :=
  { handed with
    catalog := { handed.catalog with blueprints := handed.catalog.blueprints.erase "ghost" } }

theorem castWand_haunted : castWand 0 haunted =
    .error (.config (.unknownBlueprint "ghost")) (Run.left (castWand 0 haunted)) :=
  Run.eq_error_of_fault? (by decide +kernel)

theorem castWand_misfires_haunted :
    ∃ (t u : Stage Rat) (wand : Wand Rat) (cast : Cast Rat) (shot : Shot Rat (Cast Rat))
      (flights : List (Flight Rat)),
      castWand 0 haunted = .error (.config (.unknownBlueprint "ghost")) t ∧
      Untouched 0 haunted u ∧
      Volley (muzzleOf u.world 0) wand.spread cast.stats [shot] u flights t ∧
      t.agenda.entries.Perm (flights.flatMap (Flight.due 0) ++ haunted.agenda.entries) ∧
      ¬ Untouched 0 haunted t := by
  have hnext : (Run.left (castWand 0 haunted)).world.nextId = 2 := by decide +kernel
  rcases castWand_misfires castWand_haunted with
    ⟨-, hnothing⟩ |
      ⟨wand, cast, u, sent, -, -, flights, -, huntouched, -, hvolley, -, hcount, -, hagenda, hiff⟩
  · cases hnext.symm.trans hnothing.nextId
  · rw [hnext] at hcount
    change (2 : Int) = 1 + sent.length at hcount
    obtain ⟨shot, rfl⟩ := List.length_eq_one_iff.1 (show sent.length = 1 by omega)
    exact ⟨_, u, wand, cast, shot, flights, castWand_haunted, huntouched, hvolley, hagenda,
      fun h => nomatch hiff.1 h⟩

/-- A cast that content stops may have launched a projectile. -/
theorem castWand_fires_haunted :
    ∃ (s t : Stage Rat), spawnWand "double" none stocked = .ok 0 handed ∧
      handed.catalog.blueprints.without "ghost" = .ok s.catalog.blueprints ∧
      s = { handed with catalog := s.catalog } ∧
      castWand 0 s = .error (.config (.unknownBlueprint "ghost")) t ∧
      s.agenda.entries = [(1, .shootWand 0)] ∧
      t.agenda.entries = [(1, .shootWand 0), (10, .despawnEntity 1)] ∧
      s.world.isAlive 1 = false ∧ t.world.isAlive 1 = true ∧
      (t.world.get? .projectile 1).map (·.owner) = some 0 :=
  ⟨haunted, _, Run.eq_ok_of_value? (by decide +kernel), rfl, rfl, castWand_haunted,
    by decide +kernel, by decide +kernel, by decide +kernel, by decide +kernel, by decide +kernel⟩

end Ghost

end Stage
end WandArena
