import WandArena.Proofs.Simulation.Dispatch
import WandArena.Simulation.Tick

/-! Every wand that is held has one cast ahead of it.

`Armed` says of every entity how its wand stands: an entity that never got one has none, is not
halted and has no cast scheduled; a living one that did either holds it and has exactly one cast
outstanding, or was halted and has none. A cast that is due counts as outstanding until it is
dispatched, so the invariant goes through a tick action by action. -/
namespace WandArena
variable {α : Type}

namespace Stage

/-- The casts of an entity that are due now or scheduled for later. -/
def outstanding (s : Stage α) (due : List Action) (id : Int) : Nat :=
  due.countP (Action.casts id) + s.casts id

/-- The entity holds its wand and will cast it once. -/
structure Ready (s : Stage α) (due : List Action) (id : Int) : Prop where
  holds : s.world.has .holder id = true
  running : s.halted.contains id = false
  once : s.outstanding due id = 1

/-- The entity has lost its wand and will not cast it. -/
structure Stopped (s : Stage α) (due : List Action) (id : Int) : Prop where
  lost : s.world.has .holder id = false
  halted : s.halted.contains id = true
  never : s.outstanding due id = 0

/-- How the wand of one entity stands, if it is among those that were given one. -/
structure Tracked (s : Stage α) (given : List Int) (due : List Action) (id : Int) : Prop where
  numbered : id ∈ given ∨ s.world.existing.contains id = true → id < s.world.nextId
  once : s.outstanding due id ≤ 1
  bare : id ∉ given → s.world.has .holder id = false ∧ s.halted.contains id = false ∧
    s.outstanding due id = 0
  given : id ∈ given → s.world.isAlive id = true → s.Ready due id ∨ s.Stopped due id

/-- Every wand that was given to somebody stands as it should. -/
def Armed (s : Stage α) (given : List Int) (due : List Action) : Prop :=
  ∀ id, s.Tracked given due id

variable {s t : Stage α} {given : List Int} {due due' rest : List Action} {id : Int}

theorem outstanding_nil (s : Stage α) (id : Int) : s.outstanding [] id = s.casts id := by
  rw [outstanding, List.countP_nil, Nat.zero_add]

theorem outstanding_cons (s : Stage α) (action : Action) (rest : List Action) (id : Int) :
    s.outstanding (action :: rest) id =
      s.outstanding rest id + if action.casts id then 1 else 0 := by
  rw [outstanding, outstanding, List.countP_cons]
  omega

/-! ### Steps that change nothing for an entity -/

/-- An entity that does not come to life, keeps its wand while it lives and is owed as many casts
as before. -/
theorem Tracked.of_same (h : s.Tracked given due id)
    (hnext : s.world.nextId ≤ t.world.nextId)
    (hexists : t.world.existing.contains id = true →
      s.world.existing.contains id = true ∨ id < t.world.nextId)
    (halive : id < s.world.nextId → t.world.isAlive id = true → s.world.isAlive id = true)
    (hgained : t.world.has .holder id = true → s.world.has .holder id = true)
    (hlost : t.world.isAlive id = true → s.world.has .holder id = true →
      t.world.has .holder id = true)
    (hhalted : t.halted.contains id = s.halted.contains id)
    (hout : t.outstanding due' id = s.outstanding due id) : t.Tracked given due' id where
  numbered := by
    rintro (hgiven | hthere)
    · exact Int.lt_of_lt_of_le (h.numbered (.inl hgiven)) hnext
    · rcases hexists hthere with hbefore | hlt
      · exact Int.lt_of_lt_of_le (h.numbered (.inr hbefore)) hnext
      · exact hlt
  once := hout ▸ h.once
  bare := by
    intro hnot
    obtain ⟨hnone, hrunning, hnever⟩ := h.bare hnot
    refine ⟨?_, hhalted.trans hrunning, hout.trans hnever⟩
    rw [Bool.eq_false_iff] at hnone ⊢
    exact fun hhas => hnone (hgained hhas)
  given := by
    intro hgiven hlives
    rcases h.given hgiven (halive (h.numbered (.inl hgiven)) hlives) with hready | hstopped
    · exact .inl ⟨hlost hlives hready.holds, hhalted.trans hready.running, hout.trans hready.once⟩
    · refine .inr ⟨?_, hhalted.trans hstopped.halted, hout.trans hstopped.never⟩
      have hnone := hstopped.lost
      rw [Bool.eq_false_iff] at hnone ⊢
      exact fun hhas => hnone (hgained hhas)

theorem Lives.has {s t : Stage α} (h : Lives whoHolds s t) (id : Int) :
    t.world.has .holder id = s.world.has .holder id :=
  congrFun h.holders id

theorem Lives.isAlive {s t : Stage α} (h : Lives whoHolds s t) (hlt : id < s.world.nextId)
    (hlives : t.world.isAlive id = true) : s.world.isAlive id = true := by
  rw [World.isAlive, Bool.and_eq_true, h.marked, h.existing] at hlives
  obtain ⟨hthere | ⟨hle, -⟩, hunmarked⟩ := hlives
  · rw [World.isAlive, hthere, hunmarked]
    rfl
  · exact absurd hle (Int.not_le.2 hlt)

theorem Tracked.of_lives (h : s.Tracked given due id) (hlives : Lives whoHolds s t)
    (hout : t.outstanding due' id = s.outstanding due id) : t.Tracked given due' id :=
  h.of_same hlives.nextId (fun hthere => ((hlives.existing id).1 hthere).imp_right And.right)
    hlives.isAlive (fun hhas => hlives.has id ▸ hhas) (fun _ hhas => (hlives.has id).trans hhas)
    (by rw [hlives.halted]) hout

theorem Kept.outstanding {s t : Stage α} (h : Kept whoHolds s t) (due : List Action) (id : Int) :
    t.outstanding due id = s.outstanding due id := by
  rw [Stage.outstanding, Stage.outstanding, h.casts]

theorem Armed.of_kept (h : s.Armed given due) (hkept : Kept whoHolds s t) : t.Armed given due :=
  fun id => (h id).of_lives hkept.toLives (hkept.outstanding due id)

/-! ### Acting on what is due -/

/-- What is due for other entities is not counted. -/
theorem outstanding_tail {action : Action} (h : action.casts id = false) :
    s.outstanding rest id = s.outstanding (action :: rest) id := by
  rw [outstanding_cons, h]
  rfl

theorem halt_eq_ok {holder : Int} {fault : ConfigFault} (h : halt holder fault s = .ok () t) :
    t.world = s.world.drop .holder holder ∧ t.halted = s.halted.insert holder fault.message ∧
      t.agenda = s.agenda := by
  obtain ⟨_, _, hlog, hmodify⟩ := Run.bind_eq_ok.1 h
  cases hlog
  cases hmodify
  exact ⟨rfl, rfl, rfl⟩

theorem casts_of_shot {action : Action} (h : action.kind = .shootWand) (id : Int) :
    action.casts id = decide (action.entity = id) := by
  rw [Action.casts, h]
  rfl

theorem outstanding_shot (s : Stage α) {action : Action} (rest : List Action)
    (h : action.kind = .shootWand) :
    s.outstanding (action :: rest) action.entity = s.outstanding rest action.entity + 1 := by
  rw [outstanding_cons, casts_of_shot h, decide_eq_true rfl]
  rfl

theorem isAlive_destroy {w : World α} {marked id : Int} (h : (w.destroy marked).isAlive id = true) :
    w.isAlive id = true := by
  unfold World.destroy at h
  split at h
  · rw [World.isAlive, Bool.and_eq_true, Bool.not_eq_true', Std.ExtTreeSet.contains_insert,
      Bool.or_eq_false_iff] at h
    rw [World.isAlive, h.1, h.2.2]
    rfl
  · exact h

/-- Marking entities only takes some of the living away. -/
theorem Armed.destroyed (h : s.Armed given due) (marked : Int) :
    Armed { s with world := s.world.destroy marked } given due := by
  obtain ⟨hnext, hexisting, -, hholders⟩ := Census.mk.inj (s.world.census_destroy marked)
  have hhas (id : Int) : (s.world.destroy marked).has .holder id = s.world.has .holder id :=
    congrArg (·.contains id) hholders
  have hthere (id : Int) : (s.world.destroy marked).existing.contains id =
      s.world.existing.contains id :=
    congrArg (·.contains id) hexisting
  intro id
  exact (h id).of_same (Int.le_of_eq hnext.symm) (fun hh => .inl ((hthere id).symm.trans hh))
    (fun _ => isAlive_destroy) (fun hh => (hhas id).symm.trans hh)
    (fun _ hh => (hhas id).trans hh) rfl rfl

variable [Scalar α]

/-- A shot either drops the cast, or casts the wand, or halts it. -/
theorem shoot_eq_ok {holder : Int} (h : shoot holder s = .ok () t) :
    (¬ (s.world.isAlive holder = true ∧ s.world.has .holder holder = true) ∧ Kept whoHolds s t) ∨
      s.world.has .holder holder = true ∧
        ((∃ cast, castWand holder s = .ok cast t) ∨ ∃ fault u,
          castWand holder s = .error (.config fault) u ∧ halt holder fault u = .ok () t) := by
  unfold shoot at h
  split at h
  case isTrue hholds =>
    refine .inr ⟨(Bool.and_eq_true_iff.1 hholds).2, ?_⟩
    split at h
    case h_1 cast u hcast =>
      cases h
      exact .inl ⟨cast, hcast⟩
    case h_2 fault u hcast => exact .inr ⟨fault, u, hcast, h⟩
    case h_3 => cases h
  case isFalse hnot =>
    rw [Bool.and_eq_true] at hnot
    exact .inl ⟨hnot, (log_keeps _).of_ok h⟩

omit [Scalar α] in
/-- Whoever is owed a cast that is dropped has died. -/
theorem Armed.dropped {action : Action} (h : s.Armed given (action :: rest))
    (hkind : action.kind = .shootWand)
    (hnot : ¬ (s.world.isAlive action.entity = true ∧ s.world.has .holder action.entity = true))
    (hkept : Kept whoHolds s t) : t.Armed given rest := by
  intro id
  by_cases hid : action.entity = id
  · subst hid
    have howed := outstanding_shot s rest hkind
    have htracked := h action.entity
    have honce := htracked.once
    have hgiven : action.entity ∈ given := by
      refine Decidable.byContradiction fun hnever => ?_
      have hnone := (htracked.bare hnever).2.2
      omega
    have hnumbered := htracked.numbered (.inl hgiven)
    refine {
      numbered := fun _ => Int.lt_of_lt_of_le hnumbered hkept.nextId
      once := by rw [hkept.outstanding]; omega
      bare := fun hnever => absurd hgiven hnever
      given := fun _ hlives => ?_ }
    have hlived := hkept.isAlive hnumbered hlives
    rcases htracked.given hgiven hlived with hready | hstopped
    · exact absurd ⟨hlived, hready.holds⟩ hnot
    · have hnone := hstopped.never
      omega
  · refine (h id).of_lives hkept.toLives ((hkept.outstanding rest id).trans ?_)
    exact outstanding_tail (by rw [casts_of_shot hkind, decide_eq_false hid])

/-- A cast that ends well makes up for the one that was due. -/
theorem Armed.cast {action : Action} {cast : Cast α} (h : s.Armed given (action :: rest))
    (hkind : action.kind = .shootWand) (hcast : castWand action.entity s = .ok cast t) :
    t.Armed given rest := by
  obtain ⟨hlives, hcasts⟩ := castWand_rearms hcast
  intro id
  refine (h id).of_lives hlives ?_
  rw [outstanding_cons, casts_of_shot hkind, outstanding, outstanding, hcasts]
  simp only [decide_eq_true_iff]
  omega

/-- A wand that is halted is lost to its holder, and the cast that was due was the last. -/
theorem Armed.halted {action : Action} {fault : ConfigFault} {u : Stage α}
    (h : s.Armed given (action :: rest)) (hkind : action.kind = .shootWand)
    (hholds : s.world.has .holder action.entity = true)
    (hcast : castWand action.entity s = .error (.config fault) u)
    (hhalt : halt action.entity fault u = .ok () t) : t.Armed given rest := by
  have hkept := castWand_stopped hcast
  obtain ⟨hworld, hhalted, hagenda⟩ := halt_eq_ok hhalt
  have hnext : t.world.nextId = u.world.nextId := by rw [hworld]; rfl
  have hexisting : t.world.existing = u.world.existing := by rw [hworld]; rfl
  have hmarked : t.world.marked = u.world.marked := by rw [hworld]; rfl
  have hout (id : Int) : t.outstanding rest id = u.outstanding rest id := by
    rw [outstanding, outstanding, casts, casts, hagenda]
  intro id
  by_cases hid : action.entity = id
  · subst hid
    have howed := outstanding_shot s rest hkind
    have htracked := h action.entity
    have honce := htracked.once
    have hgiven : action.entity ∈ given := by
      refine Decidable.byContradiction fun hnever => ?_
      rw [(htracked.bare hnever).1] at hholds
      cases hholds
    have hnone : t.outstanding rest action.entity = 0 := by
      rw [hout, hkept.outstanding]
      omega
    have hlost : t.world.has .holder action.entity = false := by
      rw [hworld, World.has_drop, if_pos rfl]
    have hstopped : t.halted.contains action.entity = true := by
      rw [hhalted]
      exact Std.ExtTreeMap.contains_insert_self
    exact {
      numbered := fun _ => by
        rw [hnext]
        exact Int.lt_of_lt_of_le (htracked.numbered (.inl hgiven)) hkept.nextId
      once := by omega
      bare := fun hnever => absurd hgiven hnever
      given := fun _ _ => .inr ⟨hlost, hstopped, hnone⟩ }
  · have hsame : t.world.has .holder id = u.world.has .holder id := by
      rw [hworld, World.has_drop, if_neg (Ne.symm hid)]
    have hrunning : t.halted.contains id = u.halted.contains id := by
      rw [hhalted, Std.ExtTreeMap.contains_insert, Bool.or_eq_right_iff_imp]
      intro heq
      exact absurd (Std.LawfulEqCmp.compare_eq_iff_eq.1 (beq_iff_eq.1 heq)) hid
    have hu : u.Tracked given rest id := by
      refine (h id).of_lives hkept.toLives ((hkept.outstanding rest id).trans ?_)
      exact outstanding_tail (by rw [casts_of_shot hkind, decide_eq_false hid])
    exact hu.of_same (Int.le_of_eq hnext.symm) (fun hh => .inl (hexisting ▸ hh))
      (fun _ hh => by rwa [World.isAlive, hexisting, hmarked] at hh)
      (fun hh => hsame.symm.trans hh) (fun _ hh => hsame.trans hh) hrunning (hout id)

/-- Acting on what is due keeps every wand standing as it should. -/
theorem Armed.acted {action : Action} (h : s.Armed given (action :: rest))
    (hact : s.Acted action t) : t.Armed given rest := by
  have hskip (hkind : action.kind ≠ .shootWand) : s.Armed given rest := fun other =>
    (h other).of_same (Int.le_refl _) .inl (fun _ => id) id (fun _ => id) rfl
      (outstanding_tail (Action.casts_of_kind hkind other))
  cases hact with
  | shot hkind hshoot =>
    rcases shoot_eq_ok hshoot with
      ⟨hnot, hkept⟩ | ⟨hholds, ⟨cast, hcast⟩ | ⟨fault, u, hcast, hhalt⟩⟩
    · exact h.dropped hkind hnot hkept
    · exact h.cast hkind hcast
    · exact h.halted hkind hholds hcast hhalt
  | destroyed hkind => exact (hskip hkind).destroyed _
  | kept hkind hkept => exact (hskip hkind).of_kept hkept

/-! ### Spawning -/

omit [Scalar α] in
theorem toHold_kept (s : Stage α) (target : Option Int) : Kept whoHolds s (s.toHold target) := by
  cases target with
  | none =>
    have hnone : ∀ c ∈ ([] : List (Component α)), c.kind ≠ .holder := nofun
    exact (create_kept s hnone).of_whole
  | some id => exact (kept whoHolds).refl s

omit [Scalar α] in
theorem has_armed (s : Stage α) (id : Int) (held : Holder α) (delay : Int) (other : Int) :
    (s.armed id held delay).world.has .holder other =
      if other = id then true else s.world.has .holder other := by
  show ((s.world.put .holder id held).put .manaBar id (255 : Int)).has .holder other = _
  rw [← World.has_put, World.has_eq, World.get?_put_of_ne _ (by decide), ← World.has_eq]

omit [Scalar α] in
theorem outstanding_armed (s : Stage α) (id : Int) (held : Holder α) (delay : Int)
    (due : List Action) (other : Int) :
    (s.armed id held delay).outstanding due other =
      s.outstanding due other + if id = other then 1 else 0 := by
  have hcasts : (s.armed id held delay).casts other = s.casts other + if id = other then 1 else 0 :=
    casts_scheduleCast rfl other
  rw [outstanding, outstanding, hcasts]
  omega

omit [Scalar α] in
theorem Tracked.of_mem_iff {given' : List Int} (h : s.Tracked given due id)
    (hmem : id ∈ given' ↔ id ∈ given) : s.Tracked given' due id where
  numbered := by rw [hmem]; exact h.numbered
  once := h.once
  bare := by rw [hmem]; exact h.bare
  given := by rw [hmem]; exact h.given

omit [Scalar α] in
/-- An entity that never had a wand and gets one will cast it once. -/
theorem Armed.armed (h : s.Armed given due) (hnew : id ∉ given)
    (hexists : s.world.existing.contains id = true) (held : Holder α) (delay : Int) :
    (s.armed id held delay).Armed (id :: given) due := by
  intro other
  by_cases hother : other = id
  · subst hother
    obtain ⟨-, hrunning, hnever⟩ := (h other).bare hnew
    have hout : (s.armed other held delay).outstanding due other = 1 := by
      rw [outstanding_armed, hnever, if_pos rfl]
    have hholds : (s.armed other held delay).world.has .holder other = true := by
      rw [has_armed, if_pos rfl]
    exact {
      numbered := fun _ => (h other).numbered (.inr hexists)
      once := Nat.le_of_eq hout
      bare := fun hnever => absurd List.mem_cons_self hnever
      given := fun _ _ => .inl ⟨hholds, hrunning, hout⟩ }
  · have hhas : (s.armed id held delay).world.has .holder other = s.world.has .holder other := by
      rw [has_armed, if_neg hother]
    have htracked : (s.armed id held delay).Tracked given due other :=
      (h other).of_same (Int.le_refl _) .inl (fun _ hh => hh) (fun hh => hhas.symm.trans hh)
        (fun _ hh => hhas.trans hh) rfl
        (by rw [outstanding_armed, if_neg (Ne.symm hother), Nat.add_zero])
    exact htracked.of_mem_iff (by rw [List.mem_cons, or_iff_right hother])

end Stage
end WandArena
