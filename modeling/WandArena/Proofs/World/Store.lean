import Mathlib.Data.List.Sort
import WandArena.Proofs.World.Census

/-! The store of entities, whatever is asked of it.

Only an entity that exists is marked or carries anything, and the entities that exist have numbers
that were given out (`Sound`). Whoever is alive was alive before or has a new number (`aging`).
Every request keeps to both, so after any history of requests the dead are dead for good. A query
walks a single table; on a sound world it finds whom a walk past all the living would find
(`query_eq_filter`). -/
namespace WandArena.World
variable {α : Type}

/-! ### The living -/

/-- Everybody alive, in the order of creation. -/
def living (w : World α) : List Int := w.existing.toList.filter w.isAlive

theorem mem_living {w : World α} {id : Int} : id ∈ w.living ↔ w.isAlive id = true := by
  rw [living, List.mem_filter, Std.ExtTreeSet.mem_toList, ← Std.ExtTreeSet.contains_iff_mem,
    isAlive, Bool.and_eq_true, and_self_left]

theorem ascending_living (w : World α) : w.living.Pairwise (· < ·) :=
  (Std.ExtTreeSet.ordered_toList.imp Int.compare_eq_lt.1).filter w.isAlive

theorem marked_of_isAlive {w : World α} {id : Int} (h : w.isAlive id = true) :
    w.marked.contains id = false := by
  rw [isAlive, Bool.and_eq_true, Bool.not_eq_true'] at h
  exact h.2

/-! ### Sound worlds -/

/-- Whoever is marked or carries something exists, and whoever exists has a number that was given
out. -/
structure Sound (w : World α) : Prop where
  marked : ∀ {id}, w.marked.contains id = true → w.existing.contains id = true
  owned : ∀ {k id}, w.has k id = true → w.existing.contains id = true
  numbered : ∀ {id}, w.existing.contains id = true → id < w.nextId

/-- Whoever is alive was alive before or has a number that was given out since. -/
structure Ages (v w : World α) : Prop where
  nextId : v.nextId ≤ w.nextId
  alive : ∀ id, w.isAlive id = true → v.isAlive id = true ∨ v.nextId ≤ id ∧ id < w.nextId

/-- The frame of `Ages`. -/
def aging : Run.Frame (World α) where
  Allows := Ages
  refl _ := ⟨Int.le_refl _, fun _ => .inl⟩
  trans h h' := by
    refine ⟨Int.le_trans h.nextId h'.nextId, fun id halive => ?_⟩
    have hle := h.nextId
    have hle' := h'.nextId
    rcases h'.alive id halive with hbetween | hnew
    · exact (h.alive id hbetween).imp_right fun hborn => by omega
    · exact .inr (by omega)

/-- The dead with a number that was given out stay dead. -/
theorem Ages.dead {v w : World α} (h : Ages v w) {id : Int} (hid : id < v.nextId)
    (hdead : v.isAlive id = false) : w.isAlive id = false := by
  refine Bool.eq_false_iff.2 fun halive => ?_
  rcases h.alive id halive with hbefore | ⟨hborn, _⟩
  · exact Bool.false_ne_true (hdead.symm.trans hbefore)
  · omega

/-- What is alive is told by who exists and who is marked. -/
theorem Ages.of_census {v w : World α} (h : w.census = v.census) : Ages v w := by
  obtain ⟨hnext, hexisting, hmarked, -⟩ := Census.mk.inj h
  refine ⟨Int.le_of_eq hnext.symm, fun id halive => .inl ?_⟩
  rwa [isAlive, hexisting, hmarked] at halive

theorem sound_empty : (empty : World α).Sound where
  marked h := by cases Std.ExtTreeSet.contains_empty.symm.trans h
  owned {k _} h := by cases k <;> cases Std.ExtTreeMap.contains_empty.symm.trans h
  numbered h := by cases Std.ExtTreeSet.contains_empty.symm.trans h

theorem Sound.numbered_of_alive {w : World α} (h : w.Sound) {id : Int}
    (halive : w.isAlive id = true) : id < w.nextId :=
  h.numbered (Bool.and_eq_true_iff.1 halive).1

/-! ### Components -/

section Components
variable {w : World α} {j k : ComponentKind} {id other : Int}

theorem has_of_put {value : j.Value α} (h : (w.put j id value).has k other = true) :
    other = id ∨ w.has k other = true := by
  by_cases hkind : k = j
  · subst hkind
    rw [has_put] at h
    split at h
    case isTrue hother => exact .inl hother
    case isFalse => exact .inr h
  · rw [has_eq, get?_put_of_ne w hkind, ← has_eq] at h
    exact .inr h

theorem has_of_drop (h : (w.drop j id).has k other = true) :
    w.has k other = true ∧ ¬ (k = j ∧ other = id) := by
  by_cases hkind : k = j
  · subst hkind
    rw [has_drop] at h
    split at h
    case isTrue => cases h
    case isFalse hother => exact ⟨h, fun hboth => hother hboth.2⟩
  · rw [has_eq, get?_drop_of_ne w hkind, ← has_eq] at h
    exact ⟨h, fun hboth => hkind hboth.1⟩

/-- Components of one kind may change as long as only those who exist have any. -/
theorem Sound.setTable (hw : w.Sound) {t : Table (j.Value α)}
    (howned : ∀ {k id}, (w.setTable j t).has k id = true → w.existing.contains id = true) :
    (w.setTable j t).Sound := by
  constructor
  · rw [marked_setTable, existing_setTable]
    exact hw.marked
  · rw [existing_setTable]
    exact howned
  · rw [existing_setTable, nextId_setTable]
    exact hw.numbered

theorem Sound.put (hw : w.Sound) (hid : w.existing.contains id = true) (value : j.Value α) :
    (w.put j id value).Sound := by
  refine hw.setTable fun h => ?_
  rcases has_of_put h with rfl | hhas
  · exact hid
  · exact hw.owned hhas

theorem Sound.drop (hw : w.Sound) (j : ComponentKind) (id : Int) : (w.drop j id).Sound :=
  hw.setTable fun h => hw.owned (has_of_drop h).1

theorem ages_setTable (w : World α) (j : ComponentKind) (t : Table (j.Value α)) :
    Ages w (w.setTable j t) := by
  refine ⟨Int.le_of_eq (nextId_setTable w j t).symm, fun id halive => .inl ?_⟩
  rwa [isAlive, existing_setTable, marked_setTable] at halive

end Components

/-! ### Creation -/

section Creation
variable (w : World α) (components : List (Component α))

/-- All components of a new entity go to that entity, which exists by then. -/
theorem sound_putAll {v : World α} {id : Int} (hv : v.Sound)
    (hid : v.existing.contains id = true) :
    (components.foldl (fun v c => v.put c.kind id c.value) v).Sound := by
  induction components generalizing v with
  | nil => exact hv
  | cons c rest ih =>
    exact ih (hv.put hid c.value) ((congrArg (·.contains id) (existing_setTable v _ _)).trans hid)

theorem ages_putAll (v : World α) (id : Int) :
    Ages v (components.foldl (fun v c => v.put c.kind id c.value) v) := by
  induction components generalizing v with
  | nil => exact aging.refl v
  | cons c rest ih => exact aging.trans (ages_setTable v c.kind _) (ih _)

theorem nextId_create : (w.create components).2.nextId = w.nextId + 1 := by
  have hputs (v : World α) :
      (components.foldl (fun v c => v.put c.kind w.nextId c.value) v).nextId = v.nextId := by
    induction components generalizing v with
    | nil => rfl
    | cons c rest ih => exact (ih _).trans (nextId_setTable v c.kind _)
  exact hputs _

theorem contains_born (id : Int) :
    (w.existing.insert w.nextId).contains id = true ↔
      id = w.nextId ∨ w.existing.contains id = true := by
  rw [Std.ExtTreeSet.contains_insert, Bool.or_eq_true, beq_iff_eq,
    Std.LawfulEqCmp.compare_eq_iff_eq, eq_comm]

theorem Sound.create {w : World α} (hw : w.Sound) : (w.create components).2.Sound := by
  refine sound_putAll components ⟨fun h => ?_, fun {k _} h => ?_, fun h => ?_⟩
    ((contains_born w _).2 (.inl rfl))
  · exact (contains_born w _).2 (.inr (hw.marked h))
  · refine (contains_born w _).2 (.inr (hw.owned (k := k) ?_))
    cases k <;> exact h
  · show _ < w.nextId + 1
    rcases (contains_born w _).1 h with rfl | hexists
    · exact Int.lt_succ _
    · exact Int.lt_trans (hw.numbered hexists) (Int.lt_succ _)

theorem ages_create : Ages w (w.create components).2 := by
  refine aging.trans ⟨Int.le_of_lt (Int.lt_succ _), fun id halive => ?_⟩
    (ages_putAll components _ w.nextId)
  obtain ⟨hexists, hmarked⟩ := Bool.and_eq_true_iff.1 halive
  rcases (contains_born w id).1 hexists with rfl | hexists
  · exact .inr ⟨Int.le_refl _, Int.lt_succ _⟩
  · exact .inl (Bool.and_eq_true_iff.2 ⟨hexists, hmarked⟩)

end Creation

/-! ### Destruction -/

section Destruction
variable {w : World α}

theorem Sound.destroy (hw : w.Sound) (id : Int) : (w.destroy id).Sound := by
  unfold World.destroy
  split
  case isTrue hid =>
    refine ⟨fun {other} h => ?_, fun {k _} h => hw.owned (k := k) ?_, hw.numbered⟩
    · rw [Std.ExtTreeSet.contains_insert, Bool.or_eq_true, beq_iff_eq,
        Std.LawfulEqCmp.compare_eq_iff_eq] at h
      rcases h with rfl | hmarked
      · exact hid
      · exact hw.marked hmarked
    · cases k <;> exact h
  case isFalse => exact hw

theorem ages_destroy (w : World α) (id : Int) : Ages w (w.destroy id) := by
  unfold destroy
  split
  case isTrue =>
    refine ⟨Int.le_refl _, fun other halive => .inl ?_⟩
    obtain ⟨hexists, hmarked⟩ := Bool.and_eq_true_iff.1 halive
    rw [Std.ExtTreeSet.contains_insert, Bool.not_or, Bool.and_eq_true] at hmarked
    exact Bool.and_eq_true_iff.2 ⟨hexists, hmarked.2⟩
  case isFalse => exact aging.refl w

theorem isAlive_destroy_self (w : World α) (id : Int) : (w.destroy id).isAlive id = false := by
  unfold destroy
  split
  case isTrue => rw [isAlive, Std.ExtTreeSet.contains_insert_self, Bool.not_true, Bool.and_false]
  case isFalse hnot => rw [isAlive, Bool.eq_false_iff.2 hnot, Bool.false_and]

/-- Only those who are not removed still carry anything. -/
theorem has_of_removeMarked {k : ComponentKind} {id : Int} (h : w.removeMarked.has k id = true) :
    w.marked.contains id = false ∧ w.has k id = true := by
  rw [has_eq, get?_removeMarked] at h
  split at h
  case isTrue => cases h
  case isFalse hnot => exact ⟨Bool.eq_false_iff.2 hnot, by rwa [has_eq]⟩

theorem Sound.removeMarked (hw : w.Sound) : w.removeMarked.Sound := by
  refine ⟨fun h => ?_, fun h => ?_, fun h => ?_⟩
  · cases Std.ExtTreeSet.contains_empty.symm.trans h
  · obtain ⟨hmarked, hhas⟩ := has_of_removeMarked h
    exact (existing_removeMarked w _).2 ⟨hmarked, hw.owned hhas⟩
  · rw [nextId_removeMarked]
    exact hw.numbered ((existing_removeMarked w _).1 h).2

theorem ages_removeMarked (w : World α) : Ages w w.removeMarked :=
  ⟨Int.le_of_eq (nextId_removeMarked w).symm, fun id halive =>
    .inl ((isAlive_removeMarked w id).symm.trans halive)⟩

/-- Those who exist are the living and the marked ones. -/
theorem population_eq_length (hw : w.Sound) :
    w.population = w.living.length := by
  have hdead : (w.existing.toList.filter fun id => !w.isAlive id).Perm w.marked.toList := by
    have hnodup (s : Std.ExtTreeSet Int compare) : s.toList.Nodup :=
      Std.ExtTreeSet.ordered_toList.imp fun h => Int.ne_of_lt (Int.compare_eq_lt.1 h)
    refine (List.perm_ext_iff_of_nodup ((hnodup _).filter _) (hnodup _)).2 fun id => ?_
    rw [List.mem_filter, Std.ExtTreeSet.mem_toList, Std.ExtTreeSet.mem_toList,
      ← Std.ExtTreeSet.contains_iff_mem, ← Std.ExtTreeSet.contains_iff_mem, isAlive]
    constructor
    · rintro ⟨hexists, hdead⟩
      rwa [hexists, Bool.true_and, Bool.not_not] at hdead
    · intro hmarked
      rw [hw.marked hmarked, hmarked]
      exact ⟨rfl, rfl⟩
  have hsplit := (List.filter_append_perm w.isAlive w.existing.toList).length_eq
  rw [List.length_append, hdead.length_eq, Std.ExtTreeSet.length_toList,
    Std.ExtTreeSet.length_toList] at hsplit
  unfold population living
  omega

end Destruction

/-! ### Queries -/

section Queries
variable {w : World α} {kinds : List ComponentKind} {id : Int}

theorem rarest_mem (w : World α) (first : ComponentKind) (others : List ComponentKind) :
    w.rarest first others ∈ first :: others := by
  unfold rarest
  induction others generalizing first with
  | nil => exact List.mem_cons_self
  | cons k rest ih =>
    rw [List.foldl_cons]
    rcases List.mem_cons.1 (ih _) with hbest | hrest
    · rw [hbest]
      split
      · exact List.mem_cons_of_mem _ List.mem_cons_self
      · exact List.mem_cons_self
    · exact List.mem_cons_of_mem _ (List.mem_cons_of_mem _ hrest)

/-- The walk past the rarest kind meets everybody who has all kinds. -/
theorem mem_query_of_has (hkinds : kinds ≠ []) (hmarked : w.marked.contains id = false)
    (hall : ∀ k ∈ kinds, w.has k id = true) : id ∈ w.query kinds := by
  cases kinds with
  | nil => exact absurd rfl hkinds
  | cons first others =>
    rw [query, List.mem_filter, Std.ExtTreeMap.mem_keys, ← Std.ExtTreeMap.contains_iff_mem, hmarked]
    exact ⟨hall _ (rarest_mem w first others), List.all_eq_true.2 hall⟩

theorem mem_query (hw : w.Sound) (hkinds : kinds ≠ []) :
    id ∈ w.query kinds ↔ w.isAlive id = true ∧ kinds.all (w.has · id) = true := by
  constructor
  · intro hid
    cases kinds with
    | nil => exact absurd rfl hkinds
    | cons first others =>
      obtain ⟨-, hfound⟩ := List.mem_filter.1 hid
      obtain ⟨hmarked, hall⟩ := Bool.and_eq_true_iff.1 hfound
      have hexisting := hw.owned (List.all_eq_true.1 hall first List.mem_cons_self)
      exact ⟨Bool.and_eq_true_iff.2 ⟨hexisting, hmarked⟩, hall⟩
  · rintro ⟨halive, hall⟩
    exact mem_query_of_has hkinds (marked_of_isAlive halive) (List.all_eq_true.1 hall)

theorem ascending_query (w : World α) (kinds : List ComponentKind) :
    (w.query kinds).Pairwise (· < ·) := by
  cases kinds with
  | nil => exact .nil
  | cons first others => exact (Std.ExtTreeMap.ordered_keys.imp Int.compare_eq_lt.1).filter _

/-- A query finds whom a walk past all the living finds. -/
theorem query_eq_filter (hw : w.Sound) (hkinds : kinds ≠ []) :
    w.query kinds = w.living.filter fun id => kinds.all (w.has · id) := by
  refine (ascending_query w kinds).eq_of_mem_iff ((ascending_living w).filter _) fun id => ?_
  rw [mem_query hw hkinds, List.mem_filter, mem_living]

/-- A row has a component of each kind that was asked for, and it is the one that is carried. -/
theorem components_of_mem_rows {row : Int × List (Component α)} (h : row ∈ w.rows kinds) :
    row.2.map (·.kind) = kinds ∧ ∀ c ∈ row.2, w.get? c.kind row.1 = some c.value := by
  obtain ⟨id, hid, rfl⟩ := List.mem_map.1 h
  have hfound (ks : List ComponentKind) (hks : ∀ k ∈ ks, w.has k id = true) :
      ((ks.filterMap fun k => (w.get? k id).map (Component.mk k)).map (·.kind)) = ks ∧
        ∀ c ∈ ks.filterMap fun k => (w.get? k id).map (Component.mk k),
          w.get? c.kind id = some c.value := by
    induction ks with
    | nil => exact ⟨rfl, fun c hc => by cases hc⟩
    | cons k rest ih =>
      obtain ⟨hkindsOf, hcarried⟩ := ih fun k hk => hks k (List.mem_cons_of_mem _ hk)
      obtain ⟨value, hvalue⟩ := has_iff.1 (hks k List.mem_cons_self)
      rw [List.filterMap_cons_some (b := ⟨k, value⟩) (by rw [hvalue, Option.map_some])]
      refine ⟨congrArg (k :: ·) hkindsOf, fun c hc => ?_⟩
      rcases List.mem_cons.1 hc with rfl | hc
      · exact hvalue
      · exact hcarried c hc
  exact hfound kinds fun k hk => has_of_mem_query hid hk

end Queries

/-! ### Histories -/

/-- What is asked of a world. -/
inductive Request (α : Type)
  | create (components : List (Component α))
  | destroy (id : Int)
  | removeMarked
  | attach (id : Int) (component : Component α)
  | drop (kind : ComponentKind) (id : Int)

/-- Does what a request asks for, and returns the number of a new entity. A component for an entity
that does not exist is refused. -/
def answer (w : World α) : Request α → Option Int × World α
  | .create components =>
    let (id, next) := w.create components
    (some id, next)
  | .destroy id => (none, w.destroy id)
  | .removeMarked => (none, w.removeMarked)
  | .attach id component => (none, Run.left (attach id component w))
  | .drop kind id => (none, w.drop kind id)

/-- Answers one request after another, and returns the numbers of all new entities. -/
def answerAll (w : World α) : List (Request α) → List Int × World α
  | [] => ([], w)
  | request :: later =>
    let (id?, next) := w.answer request
    let (ids, last) := next.answerAll later
    (id?.toList ++ ids, last)

section Histories
variable {w : World α}

theorem left_attach (w : World α) (id : Int) (c : Component α) :
    Run.left (attach id c w) = if w.existing.contains id then w.put c.kind id c.value else w := by
  show Run.left ((if w.existing.contains id then _ else _ : Run (World α) Unit) w) = _
  split <;> rfl

theorem Sound.answer (hw : w.Sound) (request : Request α) : (w.answer request).2.Sound := by
  cases request with
  | create components => exact hw.create components
  | destroy id => exact hw.destroy id
  | removeMarked => exact hw.removeMarked
  | attach id c =>
    show (Run.left (attach id c w)).Sound
    rw [left_attach]
    split
    case isTrue hid => exact hw.put hid c.value
    case isFalse => exact hw
  | drop k id => exact hw.drop k id

theorem ages_answer (w : World α) (request : Request α) : Ages w (w.answer request).2 := by
  cases request with
  | create components => exact ages_create w components
  | destroy id => exact ages_destroy w id
  | removeMarked => exact ages_removeMarked w
  | attach id c =>
    show Ages w (Run.left (attach id c w))
    rw [left_attach]
    split
    case isTrue => exact ages_setTable w c.kind _
    case isFalse => exact aging.refl w
  | drop k id => exact ages_setTable w k _

/-- The number of a new entity is the next one. -/
theorem mem_id_answer {request : Request α} {id : Int} (h : id ∈ (w.answer request).1) :
    id = w.nextId ∧ (w.answer request).2.nextId = w.nextId + 1 := by
  cases request with
  | create components =>
    cases h
    exact ⟨rfl, nextId_create w components⟩
  | destroy | removeMarked | attach | drop => cases h

theorem Sound.answerAll (hw : w.Sound) (requests : List (Request α)) :
    (w.answerAll requests).2.Sound := by
  induction requests generalizing w with
  | nil => exact hw
  | cons request later ih => exact ih (hw.answer request)

theorem ages_answerAll (w : World α) (requests : List (Request α)) :
    Ages w (w.answerAll requests).2 := by
  induction requests generalizing w with
  | nil => exact aging.refl w
  | cons request later ih => exact aging.trans (ages_answer w request) (ih _)

theorem answerAll_append (w : World α) (requests later : List (Request α)) :
    (w.answerAll (requests ++ later)).2 = ((w.answerAll requests).2.answerAll later).2 := by
  induction requests generalizing w with
  | nil => rfl
  | cons request rest ih => exact ih _

/-- Numbers are given out one after another, from the next one on. -/
theorem ids_answerAll (w : World α) (requests : List (Request α)) :
    (w.answerAll requests).1.Pairwise (· < ·) ∧
      ∀ id ∈ (w.answerAll requests).1, w.nextId ≤ id ∧ id < (w.answerAll requests).2.nextId := by
  induction requests generalizing w with
  | nil => exact ⟨.nil, fun id hid => by cases hid⟩
  | cons request later ih =>
    obtain ⟨hascending, hbounds⟩ := ih (w.answer request).2
    have hfirst := (ages_answer w request).nextId
    have hlater := (ages_answerAll (w.answer request).2 later).nextId
    refine ⟨List.pairwise_append.2 ⟨?_, hascending, fun id hid other hother => ?_⟩,
      fun id hid => ?_⟩
    · cases (w.answer request).1 <;> simp
    · obtain ⟨rfl, hnext⟩ := mem_id_answer (Option.mem_toList.1 hid)
      have := (hbounds other hother).1
      omega
    · show w.nextId ≤ id ∧ id < ((w.answer request).2.answerAll later).2.nextId
      rcases List.mem_append.1 hid with hnew | hlast
      · obtain ⟨rfl, hnext⟩ := mem_id_answer (Option.mem_toList.1 hnew)
        omega
      · have := hbounds id hlast
        omega

/-! ### What a history tells -/

/-- What a history of requests, asked of an empty world, tells of the numbers that were returned and
of the world in the end. -/
structure Orderly (requests : List (Request α)) (ids : List Int) (w : World α) : Prop where
  marked : ∀ id, w.marked.contains id = true → w.existing.contains id = true
  owned : ∀ k id value, w.get? k id = some value → w.existing.contains id = true
  below : ∀ id ∈ ids, id < w.nextId
  /-- No number is returned twice. -/
  once : ids.Nodup
  /-- Whoever was alive and is not any more stays dead, whatever is asked later. -/
  buried : ∀ earlier later id, earlier <+: requests →
    (empty.answerAll earlier).2.isAlive id = true → w.isAlive id = false →
      (w.answerAll later).2.isAlive id = false
  alive : ∀ id, id ∈ w.living ↔ w.isAlive id = true
  ascending : w.living.Pairwise (· < ·)
  population : w.population = w.living.length
  /-- A query finds the living who have all the kinds. -/
  found : ∀ kinds, kinds ≠ [] →
    (w.rows kinds).map (·.1) = w.living.filter fun id => kinds.all (w.has · id)
  /-- It returns exactly the components that they carry. -/
  carried : ∀ kinds, ∀ row ∈ w.rows kinds,
    row.2.map (·.kind) = kinds ∧ ∀ c ∈ row.2, w.get? c.kind row.1 = some c.value

/-- **Every history leaves an orderly world.** Whatever entities are created, marked and removed and
whatever components come and go in between, only existing entities are marked or carry anything,
numbers are never returned again, the dead stay dead, the population counts the living, and every
query finds exactly the living who have all that was asked for, in the order of creation. -/
theorem orderly_answerAll (requests : List (Request α)) :
    let (ids, w) := (empty : World α).answerAll requests
    Orderly requests ids w := by
  have hsound := sound_empty.answerAll requests
  obtain ⟨hascending, hbounds⟩ := ids_answerAll (empty : World α) requests
  refine ⟨fun _ => hsound.marked, fun k id value h => ?_, fun id hid => (hbounds id hid).2,
    hascending.imp Int.ne_of_lt, ?_, fun _ => mem_living, ascending_living _,
    population_eq_length hsound, fun kinds hkinds => ?_, fun _ _ => components_of_mem_rows⟩
  · exact hsound.owned ((has_eq _ k id).trans (congrArg Option.isSome h))
  · rintro earlier later id ⟨between, rfl⟩ halive hdead
    rw [answerAll_append] at hdead ⊢
    have hnumbered := (sound_empty.answerAll earlier).numbered_of_alive halive
    have hgrown := (ages_answerAll (empty.answerAll earlier).2 between).nextId
    exact (ages_answerAll _ later).dead (Int.lt_of_lt_of_le hnumbered hgrown) hdead
  · rw [rows, List.map_map]
    exact (List.map_id _).trans (query_eq_filter hsound hkinds)

end Histories
end WandArena.World
