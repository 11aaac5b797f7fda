import WandArena.Proofs.Simulation.Standard
import WandArena.Proofs.Simulation.Tick

/-! Simulations under a policy.

A `Policy` says with what a simulation may start, which wands may be spawned on whom and when the
catalog may be edited. If all it allows keeps to a standard that lasts through ticks (`Keeps`), then
every simulation under it meets the standard between any two operations (`Governed.meets`). -/
namespace WandArena
variable {α : Type}

/-! ### Spawning and creating -/

namespace Stage
variable {S : Standard α} {keepers : List Int} {s : Stage α}

namespace Meets

/-- A new entity comes in without a wand. -/
theorem create (h : s.Meets S keepers) {components : List (Component α)}
    (hnone : ∀ c ∈ components, c.kind ≠ .holder) :
    Meets S keepers { s with world := (s.world.create components).2 } :=
  h.of_whole (create_kept s hnone).toLives rfl

theorem toHold (h : s.Meets S keepers) (target : Option Int) :
    (s.toHold target).Meets S keepers := by
  cases target with
  | none => exact h.create nofun
  | some id => exact h

/-- An entity that is there gets a wand that is as the standard asks. -/
theorem armed (h : s.Meets S keepers) {id : Int} (hexists : s.world.existing.contains id = true)
    {held : Holder α} (hheld : S.held s.backdrop held) (delay : Int) :
    (s.armed id held delay).Meets S (id :: keepers) where
  backdrop := h.backdrop
  held := by
    intro other found hget
    rw [get?_armed] at hget
    split at hget
    · exact Option.some.inj hget ▸ hheld
    · exact h.held hget
  numbered := by
    rintro other (hmem | hthere)
    · rcases List.mem_cons.1 hmem with rfl | hmem
      · exact h.numbered (.inr hexists)
      · exact h.numbered (.inl hmem)
    · exact h.numbered (.inr hthere)
  kept := by
    intro other hmem hlives
    rw [has_armed]
    split
    case isTrue => exact .inl rfl
    case isFalse hother => exact h.kept other (List.mem_of_ne_of_mem hother hmem) hlives

end Meets
end Stage

/-! ### Policies -/

/-- What may be done to a simulation. -/
structure Policy (α : Type) where
  /-- A simulation may start with these. -/
  start : Catalog α → MergeRules → Settings → Prop
  /-- Where these have been given a wand, this one may be spawned on an entity, or on a new one. -/
  spawn : List Int → Simulation α → Option Int → Wand α → Prop
  /-- The catalog may become another. -/
  edit : Simulation α → Catalog α → Prop

namespace Simulation
variable [Scalar α]

/-- A simulation after any number of operations that the policy allows, with the entities that were
given a wand. -/
inductive Governed (P : Policy α) : List Int → Simulation α → Prop
  | start {catalog : Catalog α} {rules : MergeRules} {settings : Settings}
    (hstart : P.start catalog rules settings) (dice : Twister) (traced : Bool) :
    Governed P [] (.start catalog rules settings dice traced)
  | spawn {given : List Int} {sim : Simulation α} {stage : Stage α} {wandId : String}
    {target : Option Int} {wand : Wand α} {id : Int} (hbefore : Governed P given sim)
    (hdefined : sim.catalog.wand wandId = .ok wand) (hallowed : P.spawn given sim target wand)
    (hspawn : Stage.spawnWand wandId target sim.toStage = .ok id stage) :
    Governed P (id :: given) { sim with toStage := stage }
  /-- The wand does not pass its check, or there is nobody to hold it. -/
  | refused {given : List Int} {sim : Simulation α} {stage : Stage α} {wandId : String}
    {target : Option Int} {fault : Fault} (hbefore : Governed P given sim)
    (hspawn : Stage.spawnWand wandId target sim.toStage = .error fault stage) :
    Governed P given { sim with toStage := stage }
  | edit {given : List Int} {sim : Simulation α} {catalog : Catalog α}
    (hbefore : Governed P given sim) (hallowed : P.edit sim catalog) :
    Governed P given { sim with catalog }
  /-- A new entity comes in without a wand. -/
  | create {given : List Int} {sim : Simulation α} {components : List (Component α)}
    (hbefore : Governed P given sim) (hnone : ∀ c ∈ components, c.kind ≠ .holder) :
    Governed P given { sim with world := (sim.world.create components).2 }
  /-- What entities carry beside their wands is changed. -/
  | dress {given : List Int} {sim : Simulation α} {world : World α} (hbefore : Governed P given sim)
    (hcensus : world.census = sim.world.census) : Governed P given { sim with world }
  | step {given : List Int} {sim sim' : Simulation α} (hbefore : Governed P given sim)
    (hstep : step sim = .ok () sim') : Governed P given sim'

/-- Any number of ticks is allowed. -/
theorem Governed.run {P : Policy α} {given : List Int} {ticks : Nat} {sim sim' : Simulation α}
    (h : Governed P given sim) (hrun : Simulation.run ticks sim = .ok () sim') :
    Governed P given sim' := by
  induction ticks generalizing sim with
  | zero =>
    cases hrun
    exact h
  | succ ticks ih =>
    obtain ⟨_, mid, hstep, hrest⟩ := Run.bind_eq_ok.1 hrun
    exact ih (h.step hstep) hrest

/-- Where wands are spawned only on new entities and on living ones that never had one, the run is
an ordinary one. -/
theorem Governed.running {P : Policy α} {given : List Int} {sim : Simulation α}
    (hP : ∀ {given sim target wand}, P.spawn given sim target wand →
      ∀ id, target = some id → sim.world.isAlive id = true ∧ id ∉ given)
    (h : Governed P given sim) : Running given sim := by
  induction h with
  | start _ dice traced => exact .start _ _ _ dice traced
  | spawn _ _ hallowed hspawn ih => exact ih.spawn (hP hallowed) hspawn
  | refused _ hspawn ih => exact ih.refused hspawn
  | edit _ _ ih => exact ih.edit _
  | create _ hnone ih => exact ih.create hnone
  | dress _ hcensus ih => exact ih.dress hcensus
  | step _ hstep ih => exact ih.step hstep

end Simulation

variable [Scalar α]

/-- All that the policy allows keeps to a standard that lasts. -/
structure Policy.Keeps (P : Policy α) (S : Standard α) (stops : Fault → Prop) : Prop
    extends S.Lasts stops where
  start : ∀ {catalog rules settings}, P.start catalog rules settings →
    S.backdrop ⟨catalog, rules, settings, ∅⟩
  spawn : ∀ {given sim target wandId wand state}, S.backdrop sim.backdrop →
    P.spawn given sim target wand → sim.catalog.wand wandId = .ok wand →
    sim.catalog.checkWand wand = .ok () →
    WandState.fresh wand sim.settings.maxDeckSize = .ok state → S.held sim.backdrop ⟨wandId, state⟩
  edit : ∀ {given sim catalog}, sim.Meets S given → P.edit sim catalog →
    Stage.Meets S given { sim.toStage with catalog }

namespace Simulation.Governed
variable {P : Policy α} {S : Standard α} {stops : Fault → Prop} {given : List Int}
  {sim : Simulation α}

/-- Between any two operations that the policy allows, the simulation is as the standard asks. -/
theorem meets (h : Governed P given sim) (hP : P.Keeps S stops) : sim.Meets S given := by
  induction h with
  | start hstart dice traced =>
    exact {
      backdrop := hP.start hstart
      held := nofun
      numbered := by
        rintro id (hmem | hthere)
        · cases hmem
        · exact absurd hthere Bool.false_ne_true
      kept := nofun }
  | @spawn _ _ _ _ target _ _ _ hdefined hallowed hspawn ih =>
    obtain ⟨wand, state, hfound, hcheck, hfresh, hexists, rfl⟩ := Stage.spawnWand_eq_ok hspawn
    obtain rfl := Except.ok.inj (hfound.symm.trans hdefined)
    have hheld := hP.spawn ih.backdrop hallowed hfound hcheck hfresh
    refine (ih.toHold target).armed hexists ?_ _
    cases target <;> exact hheld
  | refused _ hspawn ih =>
    obtain rfl := Stage.spawnWand_eq_error hspawn
    exact ih
  | edit _ hallowed ih => exact hP.edit ih hallowed
  | create _ hnone ih => exact ih.create hnone
  | dress _ hcensus ih => exact ih.of_census rfl hcensus
  | @step _ sim _ _ hstep ih => exact (hP.toLasts.step sim ih).of_ok hstep

/-- Under such a policy, a tick stops for no reason that is not given. -/
theorem step_stops (h : Governed P given sim) (hP : P.Keeps S stops) {fault : Fault}
    {sim' : Simulation α} (hstep : Simulation.step sim = .error fault sim') : stops fault :=
  (hP.toLasts.step sim (h.meets hP)).of_error hstep

end Simulation.Governed
end WandArena
