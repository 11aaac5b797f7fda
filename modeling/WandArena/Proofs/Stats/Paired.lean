import WandArena.Proofs.Run
import WandArena.Stats.Merge

/-! Stats under the usual rules.

Where nobody names another rule, amounts add up and ranges add up end by end. Such a merge never
fails (`merge_usual`, `absorb_usual`), and if every lifetime that goes into it is a pair of ends, so
is the one that comes out. -/
namespace WandArena.Stats
variable {α : Type}

/-- A lifetime that is present has two ends and nothing behind them. -/
def Paired (stats : Stats α) : Prop := ∀ span, stats.lifetime = some span → span.rest = []

theorem Paired.empty : ({} : Stats α).Paired := nofun

theorem Paired.ends_resolve [Quantity α] {stats : Stats α} (h : stats.Paired) :
    stats.resolve.lifetime.ends?.isSome = true := by
  unfold resolve
  cases hspan : stats.lifetime with
  | none => rfl
  | some span =>
    show span.ends?.isSome = true
    unfold Span.ends?
    rw [h span hspan]
    rfl

variable [Quantity α] {a b dst : Stats α}

theorem combine_add {β : Type} [Add β] (field : Stat) (isWhole : β → Bool) (x y : Option β) :
    ∃ z, combine (MergeRule.add.onAmounts field isWhole) x y = .ok z := by
  cases x <;> cases y <;> exact ⟨_, rfl⟩

/-- Two pairs add up to a pair. -/
theorem combine_sum {x y : Option (Span α)} (hx : ∀ span, x = some span → span.rest = [])
    (hy : ∀ span, y = some span → span.rest = []) :
    ∃ z, combine (MergeRule.range .sum).onSpans x y = .ok z ∧
      ∀ span, z = some span → span.rest = [] := by
  cases x with
  | none => cases y <;> exact ⟨_, rfl, hy⟩
  | some low =>
    cases y with
    | none => exact ⟨_, rfl, hx⟩
    | some high =>
      refine ⟨_, rfl, fun span hspan => ?_⟩
      cases hspan
      unfold RangeRule.apply
      dsimp only
      split <;> rfl

theorem mergeField_usual (ha : a.Paired) (hb : b.Paired) (hdst : dst.Paired) (field : Stat) :
    ∃ merged, mergeField {} a b dst field = .ok merged ∧ merged.Paired := by
  cases field with
  | damage =>
    obtain ⟨z, hz⟩ := combine_add .damage Quantity.isWhole a.damage b.damage
    exact ⟨{ dst with damage := z }, congrArg (· >>= _) hz, hdst⟩
  | speed =>
    obtain ⟨z, hz⟩ := combine_add .speed Quantity.isWhole a.speed b.speed
    exact ⟨{ dst with speed := z }, congrArg (· >>= _) hz, hdst⟩
  | spread =>
    obtain ⟨z, hz⟩ := combine_add .spread Quantity.isWhole a.spread b.spread
    exact ⟨{ dst with spread := z }, congrArg (· >>= _) hz, hdst⟩
  | bounces =>
    obtain ⟨z, hz⟩ := combine_add .bounces (fun _ => true) a.bounces b.bounces
    exact ⟨{ dst with bounces := z }, congrArg (· >>= _) hz, hdst⟩
  | lifetime =>
    obtain ⟨z, hz, hpair⟩ := combine_sum ha hb
    exact ⟨{ dst with lifetime := z }, congrArg (· >>= _) hz, hpair⟩

/-- Blocks merge without a fault. -/
theorem merge_usual (ha : a.Paired) (hb : b.Paired) :
    ∃ merged, merge {} a b = .ok merged ∧ merged.Paired := by
  have hfields (fields : List Stat) (dst : Stats α) (hdst : dst.Paired) :
      ∃ merged, fields.foldlM (mergeField {} a b) dst = .ok merged ∧ merged.Paired := by
    induction fields generalizing dst with
    | nil => exact ⟨dst, rfl, hdst⟩
    | cons field rest ih =>
      obtain ⟨next, hnext, hpaired⟩ := mergeField_usual ha hb hdst field
      obtain ⟨merged, hmerged, hend⟩ := ih next hpaired
      refine ⟨merged, ?_, hend⟩
      rw [List.foldlM_cons, hnext]
      exact hmerged
  exact hfields _ _ Paired.empty

/-- A block is merged onto the accumulated one without a fault. -/
theorem absorb_usual {acc : Stats α} (hacc : acc.Paired) (hb : b.Paired) :
    ∃ merged, absorb {} b acc = .ok () merged ∧ merged.Paired := by
  unfold absorb
  generalize Stat.all = fields
  induction fields generalizing acc with
  | nil => exact ⟨acc, rfl, hacc⟩
  | cons field rest ih =>
    obtain ⟨next, hnext, hpaired⟩ := mergeField_usual hacc hb hacc field
    obtain ⟨merged, hmerged, hend⟩ := ih hpaired
    refine ⟨merged, ?_, hend⟩
    rw [← hmerged]
    have hget : (EStateM.get : EStateM MergeFault _ _) acc = .ok acc acc := rfl
    show EStateM.bind (EStateM.bind EStateM.get _) _ acc = _
    simp only [EStateM.bind, hget, hnext]
    rfl

end WandArena.Stats
