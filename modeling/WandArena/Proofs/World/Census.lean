import WandArena.Proofs.Run
import WandArena.World.Motion

/-! Who there is in a world and who holds a wand.

The census of a world leaves out everything else that entities carry. Turning, moving and bouncing
do not change it; creating, marking and removing entities change it as `census_create`,
`census_destroy` and the lemmas on `removeMarked` say. -/
namespace WandArena
variable {α : Type}

structure Census (α : Type) where
  nextId : Int
  existing : Std.ExtTreeSet Int compare
  marked : Std.ExtTreeSet Int compare
  holders : Table (Holder α)

namespace World

def census (w : World α) : Census α := ⟨w.nextId, w.existing, w.marked, w.holders⟩

/-- Nothing in the census changes. -/
abbrev counted : Run.Frame (World α) := .same census

/-! ### Components -/

theorem census_put (w : World α) {k : ComponentKind} (hk : k ≠ .holder) (id : Int)
    (value : k.Value α) : (w.put k id value).census = w.census := by
  cases k <;> first | rfl | exact absurd rfl hk

theorem has_eq (w : World α) (k : ComponentKind) (id : Int) :
    w.has k id = (w.get? k id).isSome :=
  Std.ExtTreeMap.contains_eq_isSome_getElem?

theorem has_iff {w : World α} {k : ComponentKind} {id : Int} :
    w.has k id = true ↔ ∃ value, w.get? k id = some value := by
  rw [has_eq, Option.isSome_iff_exists]

theorem has_of_get? {w : World α} {k : ComponentKind} {id : Int} {value : k.Value α}
    (h : w.get? k id = some value) : w.has k id = true :=
  has_iff.2 ⟨value, h⟩

theorem has_drop (w : World α) (k : ComponentKind) (id other : Int) :
    (w.drop k id).has k other = if other = id then false else w.has k other := by
  rw [has_eq, has_eq, get?_drop]
  split <;> rfl

theorem has_put (w : World α) (k : ComponentKind) (id other : Int) (value : k.Value α) :
    (w.put k id value).has k other = if other = id then true else w.has k other := by
  rw [has_eq, has_eq, get?_put]
  split <;> rfl

/-- A put takes nothing away. -/
theorem has_put_of_mem {w : World α} {j k : ComponentKind} {id other : Int} {value : j.Value α}
    (h : w.has k other = true) : (w.put j id value).has k other = true := by
  by_cases hkind : k = j
  · subst hkind
    rw [has_put, h, ite_self]
  · rwa [has_eq, get?_put_of_ne w hkind, ← has_eq]

/-- Putting a component in place of one of its kind leaves who has one. -/
theorem has_put_of_has {w : World α} {k : ComponentKind} {id : Int} (h : w.has k id = true)
    (other : Int) (value : k.Value α) : (w.put k id value).has k other = w.has k other := by
  rw [has_put]
  split
  case isTrue hother => rw [hother, h]
  case isFalse => rfl

/-- Whoever a query finds has all the components that were asked for. -/
theorem has_of_mem_query {w : World α} {kinds : List ComponentKind} {id : Int}
    (h : id ∈ w.query kinds) {k : ComponentKind} (hk : k ∈ kinds) : w.has k id = true := by
  cases kinds with
  | nil => cases hk
  | cons first others =>
    obtain ⟨-, hfound⟩ := List.mem_filter.1 h
    exact List.all_eq_true.1 (Bool.and_eq_true_iff.1 hfound).2 k hk

/-! ### Entities -/

/-- A new entity takes nothing away from others. -/
theorem has_create_of_mem {w : World α} {k : ComponentKind} {id : Int} (h : w.has k id = true)
    (components : List (Component α)) : (w.create components).2.has k id = true := by
  have hfold (v : World α) (hv : v.has k id = true) :
      (components.foldl (fun v c => v.put c.kind w.nextId c.value) v).has k id = true := by
    induction components generalizing v with
    | nil => exact hv
    | cons c rest ih => exact ih _ (has_put_of_mem hv)
  refine hfold _ ?_
  cases k <;> exact h

/-- A new entity without a wand. -/
theorem census_create (w : World α) {components : List (Component α)}
    (h : ∀ c ∈ components, c.kind ≠ .holder) :
    (w.create components).2.census =
      ⟨w.nextId + 1, w.existing.insert w.nextId, w.marked, w.holders⟩ := by
  have hfold (id : Int) (v : World α) :
      (components.foldl (fun w c => w.put c.kind id c.value) v).census = v.census := by
    induction components generalizing v with
    | nil => rfl
    | cons c rest ih =>
      rw [List.foldl_cons, ih fun d hd => h d (List.mem_cons_of_mem _ hd)]
      exact census_put v (h c List.mem_cons_self) id c.value
  exact hfold _ _

theorem census_destroy (w : World α) (id : Int) :
    (w.destroy id).census =
      { w.census with
        marked := if w.existing.contains id then w.marked.insert id else w.marked } := by
  unfold destroy
  split <;> rfl

/-- The marked keep what they carry for now. -/
theorem get?_destroy (w : World α) (k : ComponentKind) (id other : Int) :
    (w.destroy id).get? k other = w.get? k other := by
  unfold destroy
  split
  · cases k <;> rfl
  · rfl

theorem marked_of_destroy {w : World α} {id other : Int}
    (h : (w.destroy id).marked.contains other = false) : w.marked.contains other = false := by
  unfold destroy at h
  split at h
  · rw [Std.ExtTreeSet.contains_insert, Bool.or_eq_false_iff] at h
    exact h.2
  · exact h

/-! ### Removal -/

theorem contains_remove (w : World α) (id other : Int) :
    (w.remove id).existing.contains other = true ↔
      other ≠ id ∧ w.existing.contains other = true := by
  have hexisting : (w.remove id).existing = w.existing.erase id := rfl
  rw [hexisting, Std.ExtTreeSet.contains_iff_mem, Std.ExtTreeSet.mem_erase,
    Std.ExtTreeSet.contains_iff_mem, ne_eq, Std.LawfulEqCmp.compare_eq_iff_eq, eq_comm]

/-- A removed entity carries nothing, of any kind. -/
theorem get?_remove (w : World α) (k : ComponentKind) (id other : Int) :
    (w.remove id).get? k other = if other = id then none else w.get? k other := by
  have hdrops (kinds : List ComponentKind) (v : World α) :
      (kinds.foldl (fun v j => v.drop j id) v).get? k other =
        if k ∈ kinds ∧ other = id then none else v.get? k other := by
    induction kinds generalizing v with
    | nil => rw [if_neg fun hboth => List.not_mem_nil hboth.1]; rfl
    | cons j rest ih =>
      rw [List.foldl_cons, ih]
      by_cases hkind : k = j
      · subst hkind
        rw [get?_drop]
        by_cases hother : other = id <;> simp [hother]
      · rw [get?_drop_of_ne v hkind]
        simp [hkind]
  have hall := hdrops ComponentKind.all { w with existing := w.existing.erase id }
  simp only [k.mem_all, true_and] at hall
  refine hall.trans ?_
  cases k <;> rfl

/-- What is left once some entities are removed. -/
theorem removeAll (ids : List Int) (w : World α) :
    (ids.foldl remove w).nextId = w.nextId ∧
      (∀ id, (ids.foldl remove w).existing.contains id = true ↔
        id ∉ ids ∧ w.existing.contains id = true) ∧
      ∀ k id, (ids.foldl remove w).get? k id = if id ∈ ids then none else w.get? k id := by
  induction ids generalizing w with
  | nil => simp
  | cons removed rest ih =>
    obtain ⟨hnext, hexisting, hcarried⟩ := ih (w.remove removed)
    refine ⟨hnext, fun id => ?_, fun k id => ?_⟩
    · rw [List.foldl_cons, hexisting, contains_remove, List.mem_cons, not_or, and_left_comm,
        and_assoc]
    · rw [List.foldl_cons, hcarried, get?_remove]
      by_cases hrest : id ∈ rest
      · rw [if_pos hrest, if_pos (List.mem_cons_of_mem _ hrest)]
      · simp only [hrest, List.mem_cons, or_false, if_false]

section Removed
variable (w : World α)

theorem nextId_removeMarked : w.removeMarked.nextId = w.nextId := (removeAll _ w).1

theorem existing_removeMarked (id : Int) :
    w.removeMarked.existing.contains id = true ↔
      w.marked.contains id = false ∧ w.existing.contains id = true := by
  have hexisting := (removeAll w.marked.toList w).2.1 id
  rw [Std.ExtTreeSet.mem_toList, ← Std.ExtTreeSet.contains_iff_mem, Bool.not_eq_true] at hexisting
  exact hexisting

/-- The removal makes nobody die who is not dead already. -/
theorem isAlive_removeMarked (id : Int) : w.removeMarked.isAlive id = w.isAlive id := by
  have hmarked : w.removeMarked.marked.contains id = false := Std.ExtTreeSet.contains_empty
  rw [Bool.eq_iff_iff, isAlive, isAlive, hmarked, Bool.not_false, Bool.and_true,
    existing_removeMarked, Bool.and_eq_true, Bool.not_eq_true', and_comm]

/-- The marked lose all they carry, and everybody else keeps it. -/
theorem get?_removeMarked (k : ComponentKind) (id : Int) :
    w.removeMarked.get? k id = if w.marked.contains id = true then none else w.get? k id := by
  have hmem : id ∈ w.marked.toList ↔ w.marked.contains id = true := Std.ExtTreeSet.mem_toList
  have hcarried : w.removeMarked.get? k id = (w.marked.toList.foldl remove w).get? k id := by
    cases k <;> rfl
  rw [hcarried, (removeAll w.marked.toList w).2.2 k id]
  by_cases hmarked : w.marked.contains id = true
  · rw [if_pos (hmem.2 hmarked), if_pos hmarked]
  · rw [if_neg fun h => hmarked (hmem.1 h), if_neg hmarked]

theorem holder_removeMarked (id : Int) :
    w.removeMarked.get? .holder id =
      if w.marked.contains id = true then none else w.get? .holder id :=
  w.get?_removeMarked .holder id

end Removed

/-! ### Motion -/

/-- What motion does to a world lies within the frame: entities get other positions, velocities,
facing angles and flight data in place of those they have. -/
def LetsMove (F : Run.Frame (World α)) : Prop :=
  ∀ (w : World α) (k : ComponentKind) (id : Int) (value : k.Value α),
    k ≠ .holder → k ≠ .manaBar → w.has k id = true → F.Allows w (w.put k id value)

theorem letsMove_counted : LetsMove (counted (α := α)) :=
  fun w _ id value hk _ _ => census_put w hk id value

/-- Neither the census nor what mana bars show changes. -/
abbrev gauged : Run.Frame (World α) := .same fun w => (w.census, w.manaBars)

theorem letsMove_gauged : LetsMove (gauged (α := α)) := fun w k id value hk hbar _ => by
  refine Prod.ext (census_put w hk id value) ?_
  exact table_setTable_of_ne w ((w.table k).insert id value) (Ne.symm hbar)

namespace LetsMove
variable {F : Run.Frame (World α)}

theorem change (hF : LetsMove F) (w : World α) {k : ComponentKind} (hk : k ≠ .holder)
    (hbar : k ≠ .manaBar) (id : Int) (f : k.Value α → k.Value α) :
    F.Allows w (w.change k id f) := by
  unfold World.change
  split
  case h_1 hvalue => exact hF w k id _ hk hbar (has_of_get? hvalue)
  case h_2 => exact F.refl w

variable [Scalar α]

theorem move (hF : LetsMove F) (w : World α) (dt : α) : F.Allows w (w.move dt) := by
  have hone (v : World α) (id : Int) : F.Allows v (moveOne dt v id) := by
    unfold moveOne
    split
    case h_1 hposition _ =>
      exact hF v .position id _ (by decide) (by decide) (has_of_get? hposition)
    case h_2 => exact F.refl v
  have hall (ids : List Int) (v : World α) : F.Allows v (ids.foldl (moveOne dt) v) := by
    induction ids generalizing v with
    | nil => exact F.refl v
    | cons id rest ih => exact F.trans (hone v id) (ih _)
  exact hall _ w

theorem turn (hF : LetsMove F) : Run.Keeps F (turn : Run (World α) Unit) := by
  refine .get_bind fun w => Run.Keeps.forM (fun id => .get_bind fun w => ?_) _ w
  split
  case h_1 hangle _ =>
    exact .number_bind fun turned =>
      .set (hF w .rotation id turned (by decide) (by decide) (has_of_get? hangle))
  case h_2 => exact .pure ()

theorem reflect (hF : LetsMove F) (axis : Axis) (size id : Int) :
    Run.Keeps F (reflect axis size id : Run (World α) Unit) := by
  refine .bind (.modify fun w => hF.change w (by decide) (by decide) id _) fun _ =>
    .get_bind fun w => ?_
  split
  case h_1 hposition =>
    exact .number_bind fun x => hF w .position id _ (by decide) (by decide) (has_of_get? hposition)
  case h_2 => exact .pure ()

theorem bounceOne (hF : LetsMove F) (width height id : Int) :
    Run.Keeps F (bounceOne width height id : Run (World α) Bool) := by
  refine .get_bind fun w => ?_
  split
  case h_1 hprojectile =>
    dsimp only
    split
    · exact .pure _
    · split
      · exact .pure _
      · refine .set_bind
          (hF w .projectile id _ (by decide) (by decide) (has_of_get? hprojectile)) ?_
        split <;> split
        -- Up to two reflections, and then the entity faces where it goes.
        all_goals
          repeat refine .bind (hF.reflect _ _ _) fun _ => ?_
          refine .bind (.modify fun v => ?_) fun _ => .pure _
          split
          · exact hF.change v (by decide) (by decide) id _
          · exact F.refl v
  case h_2 => exact .pure _

theorem bounce (hF : LetsMove F) (width height : Int) :
    Run.Keeps F (bounce width height : Run (World α) (List Int)) :=
  .get_bind fun w => Run.Keeps.filterM (hF.bounceOne width height) _ w

end LetsMove

section Motion
variable [Scalar α]

theorem census_move (w : World α) (dt : α) : (w.move dt).census = w.census :=
  letsMove_counted.move w dt

theorem turn_keeps : Run.Keeps counted (turn : Run (World α) Unit) := letsMove_counted.turn

theorem bounce_keeps (width height : Int) :
    Run.Keeps counted (bounce width height : Run (World α) (List Int)) :=
  letsMove_counted.bounce width height

end Motion
end World
end WandArena
