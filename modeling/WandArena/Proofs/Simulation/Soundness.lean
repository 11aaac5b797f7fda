import WandArena.Proofs.Simulation.Events

/-! Worlds stay sound, whatever goes on in a simulation.

In a sound world only those who exist carry anything, and everybody who exists has a number that was
given out (`World.Sound`). Casts give nothing to anybody but a holder and new entities, motion gives
nobody what they lack, and wands are only spawned on those who exist. So a world that is sound is
sound ever after (`Simulation.Later.sound`), and the one at the start is. -/
namespace WandArena
variable {α β : Type}

namespace World

/-- The frame in which a sound world stays sound. -/
abbrev keepingSound : Run.Frame (World α) := .keeping Sound

theorem letsMove_keepingSound : LetsMove (keepingSound (α := α)) :=
  fun _ _ _ value _ _ hhas hs => hs.put (hs.owned hhas) value

end World

namespace Stage

/-- The frame in which a sound world stays sound. -/
abbrev keepingSound : Run.Frame (Stage α) := .keeping (·.world.Sound)

theorem letsLaunch_keepingSound : LetsLaunch (keepingSound (α := α)) where
  journal _ _ hs := hs
  dice _ _ hs := hs
  create _ _ _ hs := hs.create _
  schedule _ _ _ _ hs := hs

theorem letsCast_keepingSound (holder : Int) : LetsCast (keepingSound (α := α)) holder where
  journal _ _ hs := hs
  hold _ held hhas hs := hs.put (hs.owned hhas) held
  arm _ _ hs := hs

variable [Scalar α]

theorem shoot_keepsSound (holder : Int) :
    Run.Keeps keepingSound (shoot holder : Run (Stage α) Unit) :=
  shoot_keeps
    ((letsCast_keepingSound holder).castWand fun _ _ => letsLaunch_keepingSound.launch _ _ _)
    (fun _ => .bind (letsLaunch_keepingSound.log _) fun _ => .modify fun _ hs => hs.drop .holder _)
    letsLaunch_keepingSound.log

theorem regainMana_keepsSound : Run.Keeps keepingSound (regainMana : Run (Stage α) Unit) :=
  regainMana_keeps_of fun _ _ _ _ hget hs =>
    hs.put (j := .holder) (hs.owned (World.has_of_get? hget)) _

theorem showMana_keepsSound : Run.Keeps keepingSound (showMana : Run (Stage α) Unit) :=
  showMana_keeps_of fun _ _ fill hhas hs => hs.put (j := .manaBar) (hs.owned hhas) fill

theorem spawnWand_keepsSound (wandId : String) (target : Option Int) :
    Run.Keeps keepingSound (spawnWand wandId target : Run (Stage α) Int) := by
  intro s hs
  rcases spawnWand_cases wandId target s with
    ⟨fault, hend⟩ | ⟨wand, state, -, -, -, hexists, hend⟩
  · rw [hend]
    exact hs
  · rw [hend]
    have hheld : (s.toHold target).world.Sound := by
      cases target with
      | some id => exact hs
      | none => exact hs.create []
    have harmed := hheld.put (j := .holder) hexists ⟨wandId, state⟩
    refine harmed.put (j := .manaBar) ?_ (255 : Int)
    rwa [World.put, World.existing_setTable]

end Stage

namespace Simulation
open Stage

/-- The frame in which a sound world stays sound. -/
abbrev keepingSound : Run.Frame (Simulation α) := .keeping (·.world.Sound)

theorem onStage_keepsSound {act : Run (Stage α) β} (hact : Run.Keeps Stage.keepingSound act) :
    Run.Keeps keepingSound (onStage act) :=
  hact.within fun _ _ hstage => hstage

variable [Scalar α]

theorem handle_keepsSound (action : Action) :
    Run.Keeps keepingSound (handle (α := α) action) :=
  perform_keeps (runJob_keeps (fun _ id hs => hs.destroy id) (fun _ _ hs => hs)
    (fun holder => onStage_keepsSound (shoot_keepsSound holder))
    fun record => onStage_keepsSound (letsLaunch_keepingSound.log record)) _

theorem drift_keepsSound : Run.Keeps keepingSound (drift (α := α)) := by
  rw [drift_eq]
  exact .bind (onStage_keepsSound regainMana_keepsSound) fun _ =>
    coast_keeps_of World.letsMove_keepingSound fun _ _ hworld => hworld

theorem settle_keepsSound (gone : List Int) : Run.Keeps keepingSound (settle (α := α) gone) :=
  .bind (.forM (fun id => handle_keepsSound (.despawnEntity id)) gone) fun _ =>
    .bind (onStage_keepsSound showMana_keepsSound) fun _ => .modify fun _ hs => hs.removeMarked

/-- **A sound world stays sound.** Whatever is dispatched, spawned or left to time, and however each
of these ends, only those who exist carry anything, and they have numbers that were given out. -/
theorem Later.sound {sim later : Simulation α} (h : Later sim later) (hs : sim.world.Sound) :
    later.world.Sound := by
  induction h with
  | refl => exact hs
  | begin _ ih => exact ih
  | handle _ action ih => exact handle_keepsSound action _ ih
  | drift _ ih => exact drift_keepsSound _ ih
  | settle _ gone ih => exact settle_keepsSound gone _ ih
  | remove _ ih => exact ih.removeMarked
  | spawn _ wandId target ih => exact onStage_keepsSound (spawnWand_keepsSound wandId target) _ ih
  | wait _ _ _ ih => exact ih

end Simulation
end WandArena
