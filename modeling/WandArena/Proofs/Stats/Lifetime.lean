import Mathlib.Algebra.Order.BigOperators.Group.List
import Mathlib.Data.Rat.Floor
import Mathlib.Tactic.Linarith
import WandArena.Dice.Twister
import WandArena.Proofs.Stats.Order

/-! How long stacked stats last, over exact numbers.

The endless range is written as two numbers that no ranges from zero up can add up to. So stacked
blocks come to the endless range exactly if one of them has it, and otherwise to the sums of what
they have (`lifetime_exact`). Whatever is rolled, the first is one tick below zero and the second is
not below zero at all; so the ticks tell which of the two it was (`lasts_of_roll`). A cast stacks
its blocks in place, which comes to the same (`absorb_eq_stack`). -/
namespace WandArena.Stats

section InPlace
variable {α : Type} [Quantity α]

/-! ### Stacking in place -/

/-- Merges one field onto the accumulated block. -/
def absorbOne (rules : MergeRules) (b : Stats α) (field : Stat) :
    EStateM MergeFault (Stats α) Unit := do
  let acc ← get
  match mergeField rules acc b acc field with
  | .ok merged => set merged
  | .error fault => throw fault

theorem absorb_eq (rules : MergeRules) (b : Stats α) :
    (absorb rules b : EStateM MergeFault (Stats α) Unit) = Stat.all.forM (absorbOne rules b) := rfl

/-- A field that merges is merged, and the others follow. -/
theorem absorb_cons {rules : MergeRules} {acc b merged : Stats α} {field : Stat}
    (h : mergeField rules acc b acc field = .ok merged) (rest : List Stat) :
    (field :: rest).forM (absorbOne rules b) acc = rest.forM (absorbOne rules b) merged := by
  have hone : absorbOne rules b field acc = .ok () merged := by
    show (match mergeField rules acc b acc field with
      | .ok merged => _ | .error fault => _ : EStateM MergeFault (Stats α) Unit) acc = _
    rw [h]
    rfl
  show EStateM.bind (absorbOne rules b field) (fun _ => rest.forM (absorbOne rules b)) acc = _
  rw [EStateM.bind, hone]

/-- Under the usual rules a block is stacked in place as it is stacked anew. -/
theorem absorb_eq_stack (acc b : Stats α) : absorb {} b acc = .ok () (stack acc b) := by
  have hamount {field : Stat} (x y : Option α) : combine (MergeRule.add.onQuantities field) x y =
      .ok (Option.merge (· + ·) x y) := combine_ok _ x y
  have hcount (x y : Option Int) : combine (MergeRule.add.onCounts .bounces) x y =
      .ok (Option.merge (· + ·) x y) := combine_ok _ x y
  have hspan (x y : Option (Span α)) : combine (MergeRule.range .sum).onSpans x y =
      .ok (Option.merge RangeRule.sum.apply x y) := combine_ok _ x y
  rw [absorb_eq]
  calc Stat.all.forM (absorbOne {} b) acc
      = [Stat.speed, .spread, .bounces, .lifetime].forM (absorbOne {} b)
          { acc with damage := Option.merge (· + ·) acc.damage b.damage } :=
        absorb_cons (congrArg (· >>= _) (hamount _ _)) _
    _ = [Stat.spread, .bounces, .lifetime].forM (absorbOne {} b) _ :=
        absorb_cons (congrArg (· >>= _) (hamount _ _)) _
    _ = [Stat.bounces, .lifetime].forM (absorbOne {} b) _ :=
        absorb_cons (congrArg (· >>= _) (hamount _ _)) _
    _ = [Stat.lifetime].forM (absorbOne {} b) _ := absorb_cons (congrArg (· >>= _) (hcount _ _)) _
    _ = .ok () (stack acc b) := absorb_cons (congrArg (· >>= _) (hspan _ _)) _

end InPlace

/-- The lifetime never ends. -/
def NeverEnds (s : Stats Rat) : Prop := s.lifetime = some { low := -1, high := -1 }

/-- The lifetime is absent, or never ends, or is a range from zero up. -/
def Proper (s : Stats Rat) : Prop :=
  ∀ span, s.lifetime = some span →
    s.NeverEnds ∨ (0 ≤ span.low ∧ span.low ≤ span.high ∧ span.rest = [])

/-- The lifetimes that are present, or the default if none is. -/
def ranges (blocks : List (Stats Rat)) : List (Span Rat) :=
  if blocks.filterMap (·.lifetime) = [] then [{ low := 60, high := 60 }]
  else blocks.filterMap (·.lifetime)

def leastSum (blocks : List (Stats Rat)) : Rat := ((ranges blocks).map (·.low)).sum

def greatestSum (blocks : List (Stats Rat)) : Rat := ((ranges blocks).map (·.high)).sum

/-- How many ticks a projectile with these blocks may get; one below zero is for those that never
expire. -/
structure Lasts (blocks : List (Stats Rat)) (ticks : Int) : Prop where
  endless : ticks = -1 ↔ ∃ b ∈ blocks, b.NeverEnds
  least : (∀ b ∈ blocks, ¬ b.NeverEnds) → (leastSum blocks).floor ≤ ticks
  greatest : (∀ b ∈ blocks, ¬ b.NeverEnds) → (ticks : Rat) ≤ greatestSum blocks

section Sums
variable (circle : Circle) {blocks : List (Stats Rat)}

theorem endless_exact :
    letI : Scalar Rat := Exact.scalar circle
    (endless : Span Rat) = { low := -1, high := -1 } := by
  let : Scalar Rat := Exact.scalar circle
  show ({ low := ((-1 : Int) : Rat), high := ((-1 : Int) : Rat) } : Span Rat) = _
  norm_num

theorem neverEnds_iff {b : Stats Rat} :
    letI : Scalar Rat := Exact.scalar circle
    b.NeverEnds ↔ b.lifetime = some endless := by
  let : Scalar Rat := Exact.scalar circle
  rw [endless_exact circle]
  rfl

theorem sum_spans (circle : Circle) (hrest : ∀ b ∈ blocks, ∀ span ∈ b.lifetime, span.rest = []) :
    letI : Scalar Rat := Exact.scalar circle
    let present := blocks.filterMap (·.lifetime)
    lifetimeSum blocks = if present = [] then none else
      some { low := (present.map (·.low)).sum, high := (present.map (·.high)).sum } := by
  let : Scalar Rat := Exact.scalar circle
  induction blocks using List.reverseRecOn with
  | nil => rfl
  | append_singleton blocks b ih =>
    have hbelow := ih fun b hb => hrest b (List.mem_append_left _ hb)
    have htop := hrest b (List.mem_append_right _ (List.mem_singleton_self b))
    dsimp only
    rw [lifetimeSum_concat, hbelow, List.filterMap_append]
    cases hlifetime : b.lifetime with
    | none => simp [hlifetime]
    | some span =>
      obtain ⟨low, high, rest⟩ := span
      obtain rfl : rest = [] := htop _ hlifetime
      by_cases hnone : blocks.filterMap (·.lifetime) = []
      · simp [hnone, hlifetime]
      · simp [hnone, hlifetime, Span.plus]

theorem Proper.paired {b : Stats Rat} (h : b.Proper) : ∀ span ∈ b.lifetime, span.rest = [] := by
  intro span hspan
  rcases h span hspan with hnever | ⟨-, -, hrest⟩
  · cases hspan.symm.trans hnever
    rfl
  · exact hrest

/-- What blocks that end come to. -/
theorem sums_nonneg (h : ∀ b ∈ blocks, b.Proper) (hends : ∀ b ∈ blocks, ¬ b.NeverEnds) :
    0 ≤ leastSum blocks ∧ leastSum blocks ≤ greatestSum blocks := by
  have hranges : ∀ span ∈ ranges blocks, 0 ≤ span.low ∧ span.low ≤ span.high := by
    intro span hspan
    unfold ranges at hspan
    split at hspan
    · cases List.mem_singleton.1 hspan
      norm_num
    · obtain ⟨b, hb, hlifetime⟩ := List.mem_filterMap.1 hspan
      obtain ⟨hlow, hhigh, -⟩ := (h b hb span hlifetime).resolve_left (hends b hb)
      exact ⟨hlow, hhigh⟩
  unfold leastSum greatestSum
  constructor
  · exact List.sum_nonneg (List.forall_mem_map.2 fun span hspan => (hranges span hspan).1)
  · exact List.sum_le_sum fun span hspan => (hranges span hspan).2

/-- **What lifetimes come to.** Proper blocks come to the endless range if one of them has it, and
otherwise to the sums of those that are present. -/
theorem lifetime_exact (h : ∀ b ∈ blocks, b.Proper) :
    letI : Scalar Rat := Exact.scalar circle
    ((∃ b ∈ blocks, b.NeverEnds) → (blocks.foldl stack {}).resolve.lifetime =
      { low := -1, high := -1 }) ∧
    ((∀ b ∈ blocks, ¬ b.NeverEnds) → (blocks.foldl stack {}).resolve.lifetime =
      { low := leastSum blocks, high := greatestSum blocks }) := by
  let : Scalar Rat := Exact.scalar circle
  have hendless := endless_exact circle
  obtain ⟨hends, hsums⟩ := lifetime_stack blocks
  constructor
  · rintro ⟨b, hb, hnever⟩
    have hcomes : ComesToEndless blocks := .inl ⟨b, hb, (neverEnds_iff circle).1 hnever⟩
    rw [resolve, hends hcomes, ← hendless]
    rfl
  · intro hnever
    have hsettled : ¬ ComesToEndless blocks := by
      rintro (⟨b, hb, hlifetime⟩ | ⟨first, hfirst, hsum⟩)
      · exact hnever b hb ((neverEnds_iff circle).2 hlifetime)
      · have hfrom : ∀ b ∈ first, ∀ span ∈ b.lifetime, 0 ≤ span.low := by
          intro b hb span hspan
          have hb := hfirst.subset hb
          exact ((h b hb span hspan).resolve_left (hnever b hb)).1
        have hlow := low_lifetimeSum_nonneg circle hfrom endless hsum
        rw [hendless] at hlow
        norm_num at hlow
    rw [resolve, hsums hsettled, sum_spans circle fun b hb => (h b hb).paired]
    unfold leastSum greatestSum ranges
    split
    · have hdefault : (Quantity.whole 60 : Rat) = 60 := show ((60 : Int) : Rat) = 60 by norm_num
      simp [hdefault]
    · rfl

/-! ### Rolls -/

/-- What is rolled between two ends and rounded down. -/
theorem floor_between {low high r : Rat} (hlow : low ≤ high) (hr : 0 ≤ r) (hr' : r < 1) :
    low.floor ≤ (low + (high - low) * r).floor ∧ ((low + (high - low) * r).floor : Rat) ≤ high := by
  have hpart : 0 ≤ (high - low) * r := mul_nonneg (sub_nonneg.2 hlow) hr
  have hwhole : (high - low) * r ≤ high - low :=
    mul_le_of_le_one_right (sub_nonneg.2 hlow) hr'.le
  constructor
  · exact Rat.floor_monotone (by linarith)
  · exact (Rat.floor_le _).trans (by linarith)

/-- **Rolls tell the endless from the others.** -/
theorem lasts_of_roll (h : ∀ b ∈ blocks, b.Proper) :
    letI : Scalar Rat := Exact.scalar circle
    ∃ low high, (blocks.foldl stack {}).resolve.lifetime.ends? = some (low, high) ∧
      ∀ r : Rat, 0 ≤ r → r < 1 →
        ∃ ticks, Scalar.floor (between low high r) = .ok ticks ∧ Lasts blocks ticks := by
  let : Scalar Rat := Exact.scalar circle
  obtain ⟨hnever, hends⟩ := lifetime_exact circle h
  by_cases hany : ∃ b ∈ blocks, b.NeverEnds
  · rw [hnever hany]
    refine ⟨-1, -1, rfl, fun r _ _ => ⟨_, rfl, ?_⟩⟩
    have hroll : (-1 + (-1 - -1) * r).floor = -1 := by
      rw [sub_self, zero_mul, add_zero]
      exact Rat.floor_intCast (-1)
    show Lasts blocks (-1 + (-1 - -1) * r).floor
    rw [hroll]
    exact ⟨iff_of_true rfl hany, fun hnone => absurd hany (by simpa using hnone),
      fun hnone => absurd hany (by simpa using hnone)⟩
  · have hnone : ∀ b ∈ blocks, ¬ b.NeverEnds := fun b hb hb' => hany ⟨b, hb, hb'⟩
    obtain ⟨hleast, hmost⟩ := sums_nonneg h hnone
    rw [hends hnone]
    refine ⟨_, _, rfl, fun r hr hr' => ⟨_, rfl, ?_⟩⟩
    have hfloor : 0 ≤ (leastSum blocks).floor := Rat.le_floor_iff.2 hleast
    obtain ⟨hlow, hhigh⟩ := floor_between hmost hr hr'
    show Lasts blocks (leastSum blocks + (greatestSum blocks - leastSum blocks) * r).floor
    generalize (leastSum blocks + (greatestSum blocks - leastSum blocks) * r).floor = ticks
      at hlow hhigh ⊢
    exact ⟨iff_of_false (by omega) hany, fun _ => hlow, fun _ => hhigh⟩

end Sums
end WandArena.Stats
