import WandArena.Proofs.Cast.Faults
import WandArena.Proofs.Simulation.CastEnd

/-! What launching may stop for.

Launching a projectile looks up its blueprint, merges its stats and takes the two ends of its
lifetime; all else it does is arithmetic (`launchOne_safeAt`). So it stops for nothing but content
and values (`launch_safe`), and for arithmetic alone where all blueprints are defined, the usual
rules hold and lifetimes are pairs (`launch_provided`). -/
namespace WandArena.Stage
variable {α : Type} [Scalar α] {stops : Fault → Prop} {s : Stage α}

/-- Projectiles are launched if there is a reason for whatever goes wrong with their stats. -/
theorem launchOne_safeAt {muzzle : Muzzle α} {spread : α} {castStats : Stats α}
    {shot : Shot α (Cast α)} (hnumber : ∀ fault, stops (.number fault))
    (hblueprint : ∀ fault, s.catalog.blueprint shot.blueprint = .error fault → stops fault)
    (hstats : ∀ blueprint fault, s.catalog.blueprint shot.blueprint = .ok blueprint →
      flightStats s.rules castStats blueprint = .error fault → stops fault)
    (hends : ∀ blueprint stats, s.catalog.blueprint shot.blueprint = .ok blueprint →
      flightStats s.rules castStats blueprint = .ok stats → stats.lifetime.ends? = none →
      stops .tooManyEnds) :
    Run.SafeAt (fun _ => True) stops s (launchOne muzzle spread castStats shot) := by
  have hmodified {β : Type} {f : Stage α → β × Stage α} :
      Run.Safe (fun _ => True) stops (modifyGet f) := .modifyGet fun _ _ => trivial
  have hroll (low high : α) : Run.Safe (fun _ => True) stops (rollBetween low high) :=
    fun _ _ => trivial
  have hend (id lifetime : Int) :
      Run.Safe (fun _ => True) stops (scheduleEnd id lifetime : Run (Stage α) Unit) := by
    unfold scheduleEnd
    split <;> exact fun _ _ => trivial
  refine Run.SafeAt.lift_bind (fun blueprint hfound => ?_) hblueprint
  refine Run.SafeAt.lift_bind (fun stats hflight => ?_) (hstats blueprint · hfound)
  refine Run.Safe.bind (.number hnumber _) (fun offset => ?_) s trivial
  refine .bind (hroll _ _) fun deviation => .bind (.number hnumber _) fun direction => ?_
  refine .bind (.number hnumber _) fun along => .bind (.number hnumber _) fun across => ?_
  refine .bind hmodified fun id t _ => Run.SafeAt.found_bind (fun ends _ => ?_)
    (hends blueprint stats hfound hflight)
  refine Run.Safe.bind (hroll _ _) (fun roll => ?_) t trivial
  exact .bind (.number hnumber _) fun lifetime => .bind (hend _ _) fun _ => .pure _

/-- Whatever its content, a cast is launched or stopped by content or values. -/
theorem launch_safe (wand : Wand α) (cast : Cast α) (holder : Int) :
    Run.Safe (fun _ => True) Fault.OfCast (launch wand cast holder) := by
  refine .get_bind fun s _ => Run.Safe.mapM (fun shot _ t _ => ?_) s trivial
  refine launchOne_safeAt (fun fault => .values (.number fault)) (fun fault hmissing => ?_)
    (fun blueprint fault _ hflight => ?_) fun _ _ _ _ _ => .values .tooManyEnds
  · unfold Catalog.blueprint at hmissing
    split at hmissing <;> cases hmissing
    exact .config _
  · unfold flightStats at hflight
    split at hflight <;> cases hflight
    have hmerge (fault : MergeFault) : Fault.OfDraws True (.ofMerge fault) := .ofMerge fault
    exact (hmerge _).1

/-- Where its blueprint is defined, a projectile is launched or stopped by arithmetic. -/
theorem launchOne_provided {muzzle : Muzzle α} {spread : α} {castStats : Stats α}
    {shot : Shot α (Cast α)} (hrules : s.rules = {}) (hpaired : s.catalog.Paired)
    (hstats : castStats.Paired)
    (hdefined : s.catalog.blueprints.contains shot.blueprint = true) :
    Run.SafeAt (fun _ => True) Fault.Numeric s (launchOne muzzle spread castStats shot) := by
  obtain ⟨blueprint, hblueprint⟩ := Option.isSome_iff_exists.1 hdefined
  have hfound : s.catalog.blueprint shot.blueprint = .ok blueprint := by
    rw [Catalog.blueprint, hblueprint]
  obtain ⟨merged, hmerge, hmerged⟩ := Stats.merge_usual hstats (hpaired.blueprints hblueprint)
  have hflight : flightStats s.rules castStats blueprint = .ok merged.resolve := by
    rw [flightStats, hrules, hmerge]
  refine launchOne_safeAt .number (fun fault hmissing => ?_) (fun found fault hfound' hfail => ?_)
    fun found stats hfound' hflight' hends => ?_
  · rw [hfound] at hmissing
    cases hmissing
  · obtain rfl := Except.ok.inj (hfound.symm.trans hfound')
    rw [hflight] at hfail
    cases hfail
  · obtain rfl := Except.ok.inj (hfound.symm.trans hfound')
    obtain rfl := Except.ok.inj (hflight.symm.trans hflight')
    have hsome := hmerged.ends_resolve
    rw [hends] at hsome
    cases hsome

/-- Where all its blueprints are defined, a cast is launched or stopped by arithmetic. -/
theorem launch_provided (wand : Wand α) {cast : Cast α} (holder : Int) (hrules : s.rules = {})
    (hpaired : s.catalog.Paired) (hstats : cast.stats.Paired)
    (hshots : ∀ shot ∈ cast.shots, s.catalog.blueprints.contains shot.blueprint = true) :
    Run.SafeAt (fun _ => True) Fault.Numeric s (launch wand cast holder) := by
  have hone (shot : Shot α (Cast α)) (hshot : shot ∈ cast.shots) :
      Run.Safe (fun t => t.backdrop = s.backdrop) Fault.Numeric
        (launchOne (muzzleOf s.world holder) wand.spread cast.stats shot) := by
    intro t hsame
    have hcatalog : t.catalog = s.catalog := congrArg Backdrop.catalog hsame
    have hrules' : t.rules = s.rules := congrArg Backdrop.rules hsame
    refine .of_keeps ((letsLaunch_aside holder).launchOne _ _ _ _)
      (fun u haside => haside.backdrop.trans hsame) (launchOne_provided ?_ ?_ hstats ?_)
    · rw [hrules', hrules]
    · rw [hcatalog]
      exact hpaired
    · rw [hcatalog]
      exact hshots shot hshot
  have hall : Run.SafeAt (fun t => t.backdrop = s.backdrop) Fault.Numeric s
      (cast.shots.mapM (launchOne (muzzleOf s.world holder) wand.spread cast.stats)) :=
    Run.Safe.mapM hone s rfl
  unfold launch
  exact .get_bind (hall.mono (fun _ _ => trivial) fun _ h => h)

end WandArena.Stage
