import WandArena.Proofs.Simulation.Armed
import WandArena.Proofs.Simulation.Conservation
import WandArena.Proofs.World.Motion

/-! Standards that last through ticks.

A `Standard` asks something of what casts go by and of every wand that is held, and says who need
not hold one. If it only asks for wands that are defined, without regard to their mana, and shots
keep to it (`Lasts`), then so does every tick, and the tick stops for no reason that shots and
arithmetic do not give (`Lasts.step`). -/
namespace WandArena
variable {α β : Type}

/-- What is asked of a stage. -/
structure Standard (α : Type) where
  backdrop : Backdrop α → Prop
  held : Backdrop α → Holder α → Prop
  /-- The entity may go without a wand. -/
  excused : Backdrop α → Int → Prop

/-- The stage is as the standard asks, and so is every wand that is held. Those of the entities
`keepers` that are alive hold one, unless they are excused. -/
structure Stage.Meets (S : Standard α) (keepers : List Int) (s : Stage α) : Prop where
  backdrop : S.backdrop s.backdrop
  held : ∀ {id held}, s.world.get? .holder id = some held → S.held s.backdrop held
  numbered : ∀ {id}, id ∈ keepers ∨ s.world.existing.contains id = true → id < s.world.nextId
  kept : ∀ id ∈ keepers, s.world.isAlive id = true →
    s.world.has .holder id = true ∨ S.excused s.backdrop id

namespace Stage.Meets
variable {S : Standard α} {keepers : List Int} {s t : Stage α} {id : Int}

/-- Only the dead lose their wands. -/
theorem of_fewer (h : s.Meets S keepers) (hbackdrop : t.backdrop = s.backdrop)
    (hheld : ∀ id held, t.world.get? .holder id = some held → s.world.get? .holder id = some held)
    (hnext : t.world.nextId = s.world.nextId)
    (hexisting : ∀ id, t.world.existing.contains id = true → s.world.existing.contains id = true)
    (halive : ∀ id, t.world.isAlive id = true → s.world.isAlive id = true)
    (hkept : ∀ id, t.world.isAlive id = true → s.world.has .holder id = true →
      t.world.has .holder id = true) : t.Meets S keepers where
  backdrop := by rw [hbackdrop]; exact h.backdrop
  held := fun hget => by rw [hbackdrop]; exact h.held (hheld _ _ hget)
  numbered := fun hid => by rw [hnext]; exact h.numbered (hid.imp_right (hexisting _))
  kept := fun id hid hlives => by
    rw [hbackdrop]
    exact (h.kept id hid (halive id hlives)).imp_left (hkept id hlives)

/-- Everybody lives on with what they hold, or with a wand that is as the standard asks. -/
theorem of_lives (h : s.Meets S keepers) (hlives : Lives whoHolds s t)
    (hbackdrop : t.backdrop = s.backdrop)
    (hheld : ∀ {id held}, t.world.get? .holder id = some held → S.held s.backdrop held) :
    t.Meets S keepers where
  backdrop := by rw [hbackdrop]; exact h.backdrop
  held := by rw [hbackdrop]; exact hheld
  numbered := by
    rintro id (hid | hthere)
    · exact Int.lt_of_lt_of_le (h.numbered (.inl hid)) hlives.nextId
    · rcases (hlives.existing id).1 hthere with hbefore | ⟨-, hlt⟩
      · exact Int.lt_of_lt_of_le (h.numbered (.inr hbefore)) hlives.nextId
      · exact hlt
  kept := fun id hid halive => by
    rw [hbackdrop, hlives.has]
    exact h.kept id hid (hlives.isAlive (h.numbered (.inl hid)) halive)

/-- One wand may become another that is as the standard asks. -/
theorem of_beside (h : s.Meets S keepers) (hbeside : Beside id s t) (hlives : Lives whoHolds s t)
    (hheld : ∀ held, t.world.get? .holder id = some held → S.held s.backdrop held) :
    t.Meets S keepers := by
  refine h.of_lives hlives hbeside.backdrop fun {other held} hget => ?_
  by_cases hother : other = id
  · subst hother
    exact hheld held hget
  · exact h.held ((hbeside.others other hother).symm.trans hget)

/-- Everybody lives on with what they hold. -/
theorem of_whole (h : s.Meets S keepers) (hlives : Lives whole s t)
    (hbackdrop : t.backdrop = s.backdrop) : t.Meets S keepers := by
  have hholders : t.world.holders = s.world.holders := hlives.holders
  have hwho : Lives whoHolds s t := { hlives with holders := congrArg whoHolds hholders }
  have hget (id : Int) : t.world.get? .holder id = s.world.get? .holder id :=
    congrArg (·[id]?) hholders
  exact h.of_lives hwho hbackdrop fun hheld => h.held ((hget _).symm.trans hheld)

/-- The entities that are looked after may be fewer. -/
theorem of_keepers {keepers' : List Int} (h : s.Meets S keepers)
    (hfewer : ∀ id ∈ keepers', id ∈ keepers) : s.Meets S keepers' where
  backdrop := h.backdrop
  held := h.held
  numbered := fun hid => h.numbered (hid.imp_left (hfewer _))
  kept := fun id hid => h.kept id (hfewer id hid)

theorem of_census (h : s.Meets S keepers) (hbackdrop : t.backdrop = s.backdrop)
    (hcensus : t.world.census = s.world.census) : t.Meets S keepers :=
  h.of_whole (.of_census hcensus (congrArg Backdrop.halted hbackdrop)
    (congrArg Backdrop.catalog hbackdrop)) hbackdrop

theorem holding (h : s.Meets S keepers) {held : Holder α} (hholds : s.world.has .holder id = true)
    (hheld : S.held s.backdrop held) : (s.holding id held).Meets S keepers := by
  refine h.of_beside (Aside.holding s id held).toBeside (put_holder_kept hholds held).toLives
    fun other hother => ?_
  rw [Stage.holding, World.get?_put, if_pos rfl] at hother
  exact Option.some.inj hother ▸ hheld

theorem destroy (h : s.Meets S keepers) (id : Int) :
    Meets S keepers { s with world := s.world.destroy id } := by
  obtain ⟨hnext, hexisting, -, hholders⟩ := Census.mk.inj (s.world.census_destroy id)
  exact h.of_fewer rfl (fun other _ hget => (congrArg (·[other]?) hholders).symm.trans hget) hnext
    (fun other hthere => (congrArg (·.contains other) hexisting).symm.trans hthere)
    (fun _ => isAlive_destroy) fun other _ hhas => (congrArg (·.contains other) hholders).trans hhas

theorem removeMarked (h : s.Meets S keepers) :
    Meets S keepers { s with world := s.world.removeMarked } := by
  refine h.of_fewer rfl (fun id held hget => ?_) s.world.nextId_removeMarked
    (fun id hthere => ((s.world.existing_removeMarked id).1 hthere).2)
    (fun id hlives => (s.world.isAlive_removeMarked id).symm.trans hlives) fun id hlives hhas => ?_
  · change s.world.removeMarked.get? .holder id = some held at hget
    rw [World.holder_removeMarked] at hget
    split at hget
    · cases hget
    · exact hget
  · change s.world.removeMarked.isAlive id = true at hlives
    show s.world.removeMarked.has .holder id = true
    rw [World.isAlive_removeMarked, World.isAlive, Bool.and_eq_true, Bool.not_eq_true'] at hlives
    rw [World.has_eq] at hhas ⊢
    rwa [World.holder_removeMarked, hlives.2, if_neg Bool.false_ne_true]

end Stage.Meets

variable [Scalar α]

/-- However the cast of a held wand ends, nothing beside that wand changes. If everybody lives on
and the standard does not mind which of its cards the wand has drawn, the stage still is as it
asks. -/
theorem Stage.Meets.castWand {S : Standard α} {keepers : List Int} {s : Stage α} {id : Int}
    {wand : Wand α} {held : Holder α} {slots : Nat} {lot : List CardRef} (h : s.Meets S keepers)
    (hwields : s.Wields id wand held) (hstock : held.state.piles.Stock slots lot)
    (hfits : wand.cards.length ≤ slots)
    (hheld : ∀ state : WandState α, state.piles.Stock slots lot ∨
      state.piles.Stock slots (Piles.deal wand.cards) → S.held s.backdrop { held with state }) :
    Beside id s (Run.left (Stage.castWand id s)) ∧
      (Lives whoHolds s (Run.left (Stage.castWand id s)) →
        (Run.left (Stage.castWand id s)).Meets S keepers) := by
  obtain ⟨state, hleft, hstocked, hbeside⟩ := hwields.castWand_stocked hstock hfits
  refine ⟨hbeside, fun hlives => h.of_beside hbeside hlives fun other hother => ?_⟩
  obtain rfl := Option.some.inj (hother.symm.trans hleft.holds)
  exact hheld state hstocked

/-- What it takes for ticks to keep to a standard. -/
structure Standard.Lasts (S : Standard α) (stops : Fault → Prop) : Prop where
  number : ∀ fault, stops (.number fault)
  defined : ∀ {b held}, S.held b held → ∃ wand, b.catalog.wand held.wand = .ok wand
  mana : ∀ {b held} mana, S.held b held → S.held b { held with state := { held.state with mana } }
  shoot : ∀ id keepers, Run.Safe (Stage.Meets S keepers) stops (Stage.shoot id)

namespace Standard.Lasts
open Stage (Meets)
variable {S : Standard α} {stops : Fault → Prop} {keepers : List Int}

/-! ### Wands -/

/-- Whoever holds a wand wields it. -/
theorem wields (hS : S.Lasts stops) {s : Stage α} {id : Int} (h : s.Meets S keepers)
    (hholds : s.world.has .holder id = true) :
    ∃ wand held, s.Wields id wand held ∧ S.held s.backdrop held := by
  obtain ⟨held, hget⟩ := World.has_iff.1 hholds
  obtain ⟨wand, hdefined⟩ := hS.defined (h.held hget)
  exact ⟨wand, held, ⟨hget, hdefined⟩, h.held hget⟩

/-- What is done for each holder in turn keeps to the standard if it does so for one of them and
takes nobody's wand away. -/
theorem forHolders (hS : S.Lasts stops) {kinds : List ComponentKind} (hkinds : .holder ∈ kinds)
    {act : Int → Run (Stage α) Unit}
    (hact : ∀ {id s wand held}, s.Meets S keepers → s.Wields id wand held → S.held s.backdrop held →
      Run.SafeAt (fun t => t.Meets S keepers ∧
        ∀ other, s.world.has .holder other = true → t.world.has .holder other = true)
        stops s (act id)) :
    Run.Safe (Meets S keepers) stops (do ((← get).world.query kinds).forM act) := by
  refine .get_bind fun s hs => ?_
  let inv (t : Stage α) : Prop :=
    t.Meets S keepers ∧ ∀ id ∈ s.world.query kinds, t.world.has .holder id = true
  have hone (id : Int) (hid : id ∈ s.world.query kinds) : Run.Safe inv stops (act id) := by
    rintro t ⟨hmeets, hholds⟩
    obtain ⟨wand, held, hwields, hheld⟩ := hS.wields hmeets (hholds id hid)
    exact (hact hmeets hwields hheld).mono
      (fun u hu => ⟨hu.1, fun other hother => hu.2 other (hholds other hother)⟩) fun _ h => h
  have hstart : inv s := ⟨hs, fun id hid => World.has_of_mem_query hid hkinds⟩
  exact (Run.Safe.forM hone s hstart).mono (fun _ h => h.1) fun _ h => h

theorem regainMana (hS : S.Lasts stops) :
    Run.Safe (Meets S keepers) stops (Stage.regainMana : Run (Stage α) Unit) := by
  refine hS.forHolders List.mem_cons_self fun {id s wand held} hmeets hwields hheld => ?_
  unfold Run.SafeAt Stage.regainOne
  rw [Run.bind_apply_of_ok (Stage.holderOf_eq_ok.2 ⟨hwields.holds, rfl⟩),
    Run.bind_apply_of_ok (Stage.findWand_eq_ok.2 ⟨hwields.defined, rfl⟩),
    hwields.onWand_of_ok (Run.modify_apply _ _)]
  have hholds : s.world.has .holder id = true := World.has_of_get? hwields.holds
  refine ⟨hmeets.holding hholds (hS.mana _ hheld), fun other hother => ?_⟩
  exact (World.has_put_of_has hholds other _).trans hother

theorem showMana (hS : S.Lasts stops) :
    Run.Safe (Meets S keepers) stops (Stage.showMana : Run (Stage α) Unit) := by
  refine hS.forHolders List.mem_cons_self fun {id s wand held} hmeets hwields _ => ?_
  unfold Run.SafeAt Stage.showManaOne
  rw [Run.bind_apply_of_ok (Stage.holderOf_eq_ok.2 ⟨hwields.holds, rfl⟩),
    Run.bind_apply_of_ok (Stage.findWand_eq_ok.2 ⟨hwields.defined, rfl⟩)]
  refine Run.SafeAt.number_bind hS.number fun fill _ => ?_
  have hcensus := World.census_put s.world (k := .manaBar) nofun id fill
  refine ⟨hmeets.of_census rfl hcensus, fun other hother => ?_⟩
  exact (congrArg (·.holders.contains other) hcensus).trans hother

omit [Scalar α] in
/-- An operation on the world that leaves the census as it is. -/
theorem onWorld {act : Run (World α) β}
    (hact : ∀ census, Run.Safe (fun w => w.census = census) stops act) :
    Run.Safe (Meets S keepers) stops (Stage.onWorld act) :=
  fun s hs => .within (hact s.world.census s.world rfl) fun _ hcensus => hs.of_census rfl hcensus

/-! ### Actions -/

omit [Scalar α] in
/-- An operation on the stage that keeps to the standard. -/
theorem onStage {act : Run (Stage α) β} (hact : Run.Safe (Meets S keepers) stops act) :
    Run.Safe (fun sim : Simulation α => sim.Meets S keepers) stops (Simulation.onStage act) :=
  hact.within (fun _ h => h) fun _ _ _ h => h

theorem runJob (hS : S.Lasts stops) (job : Job) :
    Run.Safe (fun sim : Simulation α => sim.Meets S keepers) stops (Simulation.runJob job) := by
  have hdone {act : Run (Simulation α) Unit} (jobs : List Job)
      (hact : Run.Safe (fun sim : Simulation α => sim.Meets S keepers) stops act) :
      Run.Safe (fun sim : Simulation α => sim.Meets S keepers) stops (do act; return jobs) :=
    hact.bind fun _ => .pure jobs
  have hlog (record : Record α) : Run.Safe (fun sim : Simulation α => sim.Meets S keepers) stops
      (Simulation.onStage (Stage.log record)) :=
    onStage (.modify fun _ h => h.of_census rfl rfl)
  cases job with
  | bury id => exact hdone [] (onStage (.modify fun _ h => h.destroy id))
  | act action =>
    cases hkind : action.kind with
    | shootWand =>
      simp only [Simulation.runJob, hkind]
      exact hdone [] (onStage (hS.shoot action.entity keepers))
    | despawnEntity =>
      intro sim hsim
      unfold Run.SafeAt
      rw [Simulation.runJob_despawnEntity hkind]
      split <;> exact hsim
    | debugLog =>
      simp only [Simulation.runJob, hkind]
      exact hdone [] (hlog _)
    | onDespawn | other =>
      simp only [Simulation.runJob, hkind]
      exact hdone [] (hlog _)

/-- However much an action sets off, all of it keeps to the standard. -/
theorem perform (hS : S.Lasts stops) (jobs : List Job) :
    Run.Safe (fun sim : Simulation α => sim.Meets S keepers) stops (Simulation.perform jobs) := by
  intro sim hsim
  induction jobs, sim using Simulation.perform.induct with
  | case1 sim =>
    unfold Run.SafeAt
    rw [Simulation.perform_nil]
    exact hsim
  | case2 sim job rest more mid hrun ih =>
    unfold Run.SafeAt
    rw [Simulation.perform_cons_of_ok hrun]
    exact ih ((hS.runJob job sim hsim).of_ok hrun)
  | case3 sim job rest fault mid hrun =>
    unfold Run.SafeAt
    rw [Simulation.perform_cons_of_error hrun]
    exact (hS.runJob job sim hsim).of_error hrun

/-! ### Ticks -/

theorem expire (hS : S.Lasts stops) :
    Run.Safe (fun sim : Simulation α => sim.Meets S keepers) stops Simulation.expire := by
  refine .get_bind fun sim hsim => ?_
  refine Run.Safe.bind (onStage (onWorld fun _ => World.bounce_safe hS.number _ _ _))
    (fun expired => ?_) sim hsim
  exact .forM fun id _ => hS.perform _

/-- A tick keeps to the standard, unless a shot or some arithmetic gives it a reason to stop. -/
theorem step (hS : S.Lasts stops) :
    Run.Safe (fun sim : Simulation α => sim.Meets S keepers) stops Simulation.step := by
  refine .bind (.modifyGet fun _ h => h.of_census rfl rfl) fun due => ?_
  refine .bind (.forM fun action _ => hS.perform _) fun _ => ?_
  refine .bind (onStage hS.regainMana) fun _ => ?_
  refine .bind (onStage (onWorld fun _ => World.turn_safe hS.number _)) fun _ => ?_
  refine .bind (.modify fun sim h => h.of_census rfl (World.census_move _ _)) fun _ => ?_
  refine .bind hS.expire fun _ => .bind (onStage hS.showMana) fun _ => ?_
  exact .modify fun _ h => h.removeMarked

end Standard.Lasts
end WandArena
