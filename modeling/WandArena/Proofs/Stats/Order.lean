import Mathlib.Algebra.Order.Ring.Rat
import Mathlib.Data.List.Induction
import Mathlib.Data.List.Perm.Subperm
import Mathlib.Tactic.NormNum
import WandArena.Number.Exact
import WandArena.Stats.Merge

/-! The order in which stats are stacked.

Where amounts add up in any order, blocks may be stacked in any order too, as far as damage, speed,
spread and bounces go. Lifetimes add up end by end, but the endless range is written as two numbers
that other ranges may add up to, and what has become endless stays so. So the lifetime hangs on the
order exactly if one order comes to the endless range on its way and the other does not; grouping
the blocks in another way is one such change of order (`stack_order`). -/
namespace WandArena
variable {α : Type} [Quantity α]

/-- The ends of two ranges added up, whether they are endless or not. -/
def Span.plus (a b : Span α) : Span α := { low := a.low + b.low, high := a.high + b.high }

namespace Stats

/-- What the lifetimes of some blocks add up to. -/
def lifetimeSum (blocks : List (Stats α)) : Option (Span α) :=
  (blocks.map (·.lifetime)).foldl (Option.merge Span.plus) none

/-- Stacked in this order, the blocks come to the endless range on the way: one of them has it, or
the first ones add up to it. -/
def ComesToEndless (blocks : List (Stats α)) : Prop :=
  (∃ b ∈ blocks, b.lifetime = some endless) ∨
    ∃ first, first <+: blocks ∧ lifetimeSum first = some endless

/-- One block has the endless range, or none of them, however chosen, add up to it. -/
def Settled (blocks : List (Stats α)) : Prop :=
  (∃ b ∈ blocks, b.lifetime = some endless) ∨
    ∀ chosen, chosen.Subperm blocks → lifetimeSum chosen ≠ some endless

/-- How the stats that some blocks come to compare with what they come to in another order. -/
structure Reordered (blocks blocks' : List (Stats α)) (s s' : Stats α) : Prop where
  others : s' = { s with lifetime := s'.lifetime }
  same_iff : s' = s ↔ (ComesToEndless blocks ↔ ComesToEndless blocks')
  settled : Settled blocks → s' = s

/-! ### Blocks on top of each other -/

/-- What two blocks come to under the usual rules. -/
def stack (a b : Stats α) : Stats α where
  damage := Option.merge (· + ·) a.damage b.damage
  speed := Option.merge (· + ·) a.speed b.speed
  spread := Option.merge (· + ·) a.spread b.spread
  bounces := Option.merge (· + ·) a.bounces b.bounces
  lifetime := Option.merge RangeRule.sum.apply a.lifetime b.lifetime

/-- A rule that never fails merges two values if both are there. -/
theorem combine_ok {β ε : Type} (f : β → β → β) (a b : Option β) :
    combine (fun a b => (.ok (f a b) : Except ε β)) a b = .ok (Option.merge f a b) := by
  cases a <;> cases b <;> rfl

theorem merge_eq_stack (a b : Stats α) : merge {} a b = .ok (stack a b) := by
  have hamount (field : Stat) (x y : Option α) : combine (MergeRule.add.onQuantities field) x y =
      .ok (Option.merge (· + ·) x y) := combine_ok _ x y
  have hcount (field : Stat) (x y : Option Int) : combine (MergeRule.add.onCounts field) x y =
      .ok (Option.merge (· + ·) x y) := combine_ok _ x y
  have hspan (x y : Option (Span α)) : combine (MergeRule.range .sum).onSpans x y =
      .ok (Option.merge RangeRule.sum.apply x y) := combine_ok _ x y
  unfold merge Stat.all stack
  simp only [List.foldlM_cons, List.foldlM_nil, mergeField, hamount, hcount, hspan]
  rfl

theorem foldlM_merge (blocks : List (Stats α)) (acc : Stats α) :
    blocks.foldlM (merge {}) acc = .ok (blocks.foldl stack acc) := by
  induction blocks generalizing acc with
  | nil => rfl
  | cons b rest ih =>
    rw [List.foldlM_cons, merge_eq_stack]
    exact ih _

theorem empty_stack (a : Stats α) : stack {} a = a := by
  unfold stack
  simp only [Option.merge_none_left]

theorem foldl_stack {β : Type} (field : Stats α → Option β) {f : β → β → β}
    (h : ∀ a b, field (stack a b) = Option.merge f (field a) (field b))
    (blocks : List (Stats α)) (acc : Stats α) :
    field (blocks.foldl stack acc) = (blocks.map field).foldl (Option.merge f) (field acc) := by
  induction blocks generalizing acc with
  | nil => rfl
  | cons b rest ih =>
    rw [List.foldl_cons, ih, h]
    rfl

theorem lifetimeSum_concat (blocks : List (Stats α)) (b : Stats α) :
    lifetimeSum (blocks ++ [b]) = Option.merge Span.plus (lifetimeSum blocks) b.lifetime := by
  unfold lifetimeSum
  rw [List.map_append, List.foldl_append]
  rfl

theorem lifetime_concat (blocks : List (Stats α)) (b : Stats α) :
    ((blocks ++ [b]).foldl stack {}).lifetime =
      Option.merge RangeRule.sum.apply (blocks.foldl stack {}).lifetime b.lifetime := by
  rw [List.foldl_append]
  rfl

theorem comesToEndless_concat {blocks : List (Stats α)} {b : Stats α} :
    ComesToEndless (blocks ++ [b]) ↔
      (ComesToEndless blocks ∨ b.lifetime = some endless) ∨
        lifetimeSum (blocks ++ [b]) = some endless := by
  unfold ComesToEndless
  simp only [List.mem_append, List.mem_singleton, or_and_right, exists_or, exists_eq_left,
    List.prefix_concat_iff]
  grind

/-- Settled blocks come to the endless range in every order or in none. -/
theorem Settled.comesToEndless_iff {blocks blocks' : List (Stats α)} (h : Settled blocks)
    (hperm : blocks.Perm blocks') : ComesToEndless blocks ↔ ComesToEndless blocks' := by
  rcases h with ⟨b, hb, hendless⟩ | hnone
  · exact iff_of_true (.inl ⟨b, hb, hendless⟩) (.inl ⟨b, hperm.mem_iff.1 hb, hendless⟩)
  · have hnot {order : List (Stats α)} (horder : order.Perm blocks) : ¬ComesToEndless order := by
      rintro (⟨b, hb, hendless⟩ | ⟨first, hfirst, hsum⟩)
      · refine hnone [b] (List.singleton_subperm_iff.2 (horder.mem_iff.1 hb)) ?_
        exact (lifetimeSum_concat [] b).trans (congrArg (Option.merge Span.plus none) hendless)
      · exact hnone first (hfirst.sublist.subperm.trans horder.subperm) hsum
    exact iff_of_false (hnot (.refl _)) (hnot hperm.symm)

/-! ### Endless ranges -/

section Endless
variable [LawfulBEq α]

theorem isEndless_iff {span : Span α} : isEndless span = true ↔ span = endless := by
  obtain ⟨low, high, rest⟩ := span
  have hends : isEndless (⟨low, high, rest⟩ : Span α) =
      (low == Quantity.whole (-1) && (high == Quantity.whole (-1) && rest == [])) := rfl
  rw [hends]
  simp [endless]

theorem merge_of_endless {x y : Option (Span α)} (h : x = some endless ∨ y = some endless) :
    Option.merge RangeRule.sum.apply x y = some endless := by
  have hself : isEndless (endless : Span α) = true := isEndless_iff.2 rfl
  rcases h with rfl | rfl
  · cases y with
    | none => rfl
    | some span => exact congrArg some (if_pos (by rw [hself, Bool.true_or]))
  · cases x with
    | none => rfl
    | some span => exact congrArg some (if_pos (by rw [hself, Bool.or_true]))

theorem merge_of_not_endless {x y : Option (Span α)} (hx : x ≠ some endless)
    (hy : y ≠ some endless) :
    Option.merge RangeRule.sum.apply x y = Option.merge Span.plus x y := by
  cases x with
  | none => cases y <;> rfl
  | some a =>
    cases y with
    | none => rfl
    | some b =>
      refine congrArg some (if_neg ?_)
      rw [Bool.or_eq_true, isEndless_iff, isEndless_iff]
      exact fun h => h.elim (fun h => hx (congrArg some h)) fun h => hy (congrArg some h)

/-- Blocks that are stacked in order come to the endless range for good, or to the sum of all. -/
theorem lifetime_stack (blocks : List (Stats α)) :
    (ComesToEndless blocks → (blocks.foldl stack {}).lifetime = some endless) ∧
      (¬ComesToEndless blocks → (blocks.foldl stack {}).lifetime = lifetimeSum blocks) := by
  induction blocks using List.reverseRecOn with
  | nil =>
    refine ⟨?_, fun _ => rfl⟩
    rintro (⟨b, hb, -⟩ | ⟨first, hfirst, hsum⟩)
    · cases hb
    · rw [List.prefix_nil.1 hfirst] at hsum
      cases hsum
  | append_singleton blocks b ih =>
    rw [comesToEndless_concat, lifetime_concat]
    by_cases hbefore : ComesToEndless blocks ∨ b.lifetime = some endless
    · refine ⟨fun _ => merge_of_endless (hbefore.imp_left ih.1), fun h => absurd (.inl hbefore) h⟩
    · obtain ⟨hblocks, hb⟩ := not_or.1 hbefore
      have hsofar : lifetimeSum blocks ≠ some endless := fun hsum =>
        hblocks (.inr ⟨blocks, List.prefix_rfl, hsum⟩)
      have hmerge : Option.merge RangeRule.sum.apply (blocks.foldl stack {}).lifetime b.lifetime =
          lifetimeSum (blocks ++ [b]) := by
        rw [ih.2 hblocks, lifetimeSum_concat, merge_of_not_endless hsofar hb]
      rw [hmerge]
      exact ⟨fun h => h.resolve_left hbefore, fun _ => rfl⟩

end Endless

/-! ### Other orders -/

theorem foldl_merge_perm {β : Type} {f : β → β → β} [Std.Commutative f] [Std.Associative f]
    {xs ys : List (Option β)} (h : xs.Perm ys) (acc : Option β) :
    xs.foldl (Option.merge f) acc = ys.foldl (Option.merge f) acc := by
  have hcomm : ∀ x y, Option.merge f x y = Option.merge f y x := Std.Commutative.comm
  have hassoc : ∀ x y z, Option.merge f (Option.merge f x y) z =
      Option.merge f x (Option.merge f y z) := Std.Associative.assoc
  refine h.foldl_eq' (fun x _ y _ z => ?_) acc
  rw [hassoc, hcomm x, ← hassoc]

variable {blocks blocks' : List (Stats α)}

theorem field_perm (h : blocks.Perm blocks') {β : Type} (field : Stats α → Option β)
    {f : β → β → β} [Std.Commutative f] [Std.Associative f]
    (hstack : ∀ a b, field (stack a b) = Option.merge f (field a) (field b)) :
    field (blocks'.foldl stack {}) = field (blocks.foldl stack {}) := by
  rw [foldl_stack field hstack, foldl_stack field hstack, foldl_merge_perm (h.map field)]

variable [Std.Commutative (fun a b : α => a + b)]

theorem stack_comm (a b : Stats α) : stack a b = stack b a := by
  have hcomm : ∀ x y : α, x + y = y + x := Std.Commutative.comm
  have hspans : Std.Commutative (RangeRule.sum.apply (α := α)) :=
    ⟨fun x y => by simp only [RangeRule.apply, Bool.or_comm, hcomm]⟩
  unfold stack
  congr 1 <;> exact Std.Commutative.comm _ _

variable [Std.Associative (fun a b : α => a + b)]

instance : Std.Commutative (Span.plus (α := α)) where
  comm a b := by
    have hcomm : ∀ x y : α, x + y = y + x := Std.Commutative.comm
    unfold Span.plus
    rw [hcomm a.low, hcomm a.high]

instance : Std.Associative (Span.plus (α := α)) where
  assoc a b c := by
    have hassoc : ∀ x y z : α, x + y + z = x + (y + z) := Std.Associative.assoc
    unfold Span.plus
    rw [hassoc, hassoc]

theorem lifetimeSum_perm (h : blocks.Perm blocks') : lifetimeSum blocks = lifetimeSum blocks' :=
  foldl_merge_perm (h.map _) none

/-- Only the lifetime may hang on the order. -/
theorem others_perm (h : blocks.Perm blocks') : blocks'.foldl stack {} =
    { blocks.foldl stack {} with lifetime := (blocks'.foldl stack {}).lifetime } := by
  have hdamage := field_perm h (·.damage) fun _ _ => rfl
  have hspeed := field_perm h (·.speed) fun _ _ => rfl
  have hspread := field_perm h (·.spread) fun _ _ => rfl
  have hbounces := field_perm h (·.bounces) fun _ _ => rfl
  dsimp only
  rw [← hdamage, ← hspeed, ← hspread, ← hbounces]

variable [LawfulBEq α]

theorem lifetime_perm (h : blocks.Perm blocks') :
    (blocks'.foldl stack {}).lifetime = (blocks.foldl stack {}).lifetime ↔
      (ComesToEndless blocks ↔ ComesToEndless blocks') := by
  have hsum := lifetimeSum_perm h
  have hwhole {order : List (Stats α)} (hnot : ¬ComesToEndless order) :
      lifetimeSum order ≠ some endless := fun hend => hnot (.inr ⟨order, List.prefix_rfl, hend⟩)
  obtain ⟨hends, hadds⟩ := lifetime_stack blocks
  obtain ⟨hends', hadds'⟩ := lifetime_stack blocks'
  by_cases hcomes : ComesToEndless blocks <;> by_cases hcomes' : ComesToEndless blocks'
  · exact iff_of_true ((hends' hcomes').trans (hends hcomes).symm) (iff_of_true hcomes hcomes')
  · rw [hends hcomes, hadds' hcomes']
    exact iff_of_false (hwhole hcomes') fun h => hcomes' (h.1 hcomes)
  · rw [hends' hcomes', hadds hcomes]
    exact iff_of_false (hwhole hcomes).symm fun h => hcomes (h.2 hcomes')
  · rw [hadds hcomes, hadds' hcomes', hsum]
    exact iff_of_true rfl (iff_of_false hcomes hcomes')

theorem reordered (h : blocks.Perm blocks') :
    Reordered blocks blocks' (blocks.foldl stack {}) (blocks'.foldl stack {}) := by
  have hsame : blocks'.foldl stack {} = blocks.foldl stack {} ↔
      (ComesToEndless blocks ↔ ComesToEndless blocks') := by
    rw [← lifetime_perm h]
    refine ⟨congrArg _, fun hlifetime => ?_⟩
    rw [others_perm h, hlifetime]
  exact ⟨others_perm h, hsame, fun hsettled => hsame.2 (hsettled.comesToEndless_iff h)⟩

/-! ### Exact numbers -/

/-- Ranges that start at zero or later add up to one that does. -/
theorem low_lifetimeSum_nonneg (circle : Circle) :
    letI : Scalar Rat := Exact.scalar circle
    ∀ {blocks : List (Stats Rat)}, (∀ b ∈ blocks, ∀ span ∈ b.lifetime, 0 ≤ span.low) →
      ∀ span ∈ lifetimeSum blocks, 0 ≤ span.low := by
  let : Scalar Rat := Exact.scalar circle
  intro blocks
  induction blocks using List.reverseRecOn with
  | nil => exact fun _ _ => nofun
  | append_singleton blocks b ih =>
    intro h span hspan
    have hbelow := ih fun b hb => h b (List.mem_append_left _ hb)
    have htop := h b (List.mem_append_right _ (List.mem_singleton_self b))
    rw [lifetimeSum_concat] at hspan
    cases hsum : lifetimeSum blocks with
    | none =>
      rw [hsum, Option.merge_none_left] at hspan
      exact htop span hspan
    | some low =>
      rw [hsum] at hspan hbelow
      cases hlifetime : b.lifetime with
      | none =>
        rw [hlifetime, Option.merge_none_right] at hspan
        exact hbelow span hspan
      | some high =>
        rw [hlifetime] at hspan htop
        cases hspan
        exact add_nonneg (hbelow low rfl) (htop high rfl)

/-- Blocks are settled if every range of theirs is endless or starts at zero or later. -/
theorem settled_of_nonneg (circle : Circle) :
    letI : Scalar Rat := Exact.scalar circle
    ∀ {blocks : List (Stats Rat)}, (∀ b ∈ blocks, ∀ span ∈ b.lifetime,
      span = endless ∨ 0 ≤ span.low) → Settled blocks := by
  let : Scalar Rat := Exact.scalar circle
  intro blocks h
  refine or_iff_not_imp_left.2 fun hnone chosen hchosen hsum => ?_
  have hnonneg : ∀ b ∈ chosen, ∀ span ∈ b.lifetime, 0 ≤ span.low := by
    intro b hb span hspan
    refine (h b (hchosen.subset hb) span hspan).resolve_left ?_
    rintro rfl
    exact hnone ⟨b, hchosen.subset hb, hspan⟩
  have hlow : (0 : Rat) ≤ (-1 : Int) := low_lifetimeSum_nonneg circle hnonneg endless hsum
  norm_num at hlow

/-- **Whether the order of stacking matters.** Over exact numbers and under the usual rules, blocks
can be stacked in any order and grouped in any way. All that may differ is the lifetime, and it does
differ exactly if one order comes to the endless range on the way and the other one does not. That
cannot be where a block has the endless range or no choice of blocks adds up to it. -/
theorem stack_order (circle : Circle) :
    letI : Scalar Rat := Exact.scalar circle
    (∀ {blocks blocks' : List (Stats Rat)}, blocks.Perm blocks' →
      ∃ s s', blocks.foldlM (merge {}) {} = .ok s ∧ blocks'.foldlM (merge {}) {} = .ok s' ∧
        Reordered blocks blocks' s s') ∧
    ∀ a b c : Stats Rat, ∃ ab bc s s', merge {} a b = .ok ab ∧ merge {} ab c = .ok s ∧
      merge {} b c = .ok bc ∧ merge {} a bc = .ok s' ∧ Reordered [a, b, c] [b, c, a] s s' := by
  let : Scalar Rat := Exact.scalar circle
  have hcomm : Std.Commutative (fun a b : Rat => a + b) := ⟨Rat.add_comm⟩
  have hassoc : Std.Associative (fun a b : Rat => a + b) := ⟨Rat.add_assoc⟩
  refine ⟨fun h => ⟨_, _, foldlM_merge _ _, foldlM_merge _ _, reordered h⟩, fun a b c => ?_⟩
  refine ⟨_, _, _, _, merge_eq_stack _ _, merge_eq_stack _ _, merge_eq_stack _ _,
    merge_eq_stack _ _, ?_⟩
  -- Putting the two upper blocks on the lowest one is putting it on top of them.
  have hrotated : [a, b, c].Perm [b, c, a] := (List.perm_append_comm : ([a] ++ [b, c]).Perm _)
  have hfolded := reordered hrotated
  simp only [List.foldl_cons, List.foldl_nil, empty_stack] at hfolded
  rwa [stack_comm a (stack b c)]

/-! Short-lived and long-lived blocks, and one that takes away from any lifetime. -/

section Lifetimes

/-- Numbers that turn by a triangle. -/
local instance timed : Scalar Rat :=
  Exact.scalar ⟨3 / 2, fun _ => 0, fun _ => 1, fun _ _ => 0, by decide +kernel⟩

def brief : Stats Rat := { damage := some 2, lifetime := some { low := 1, high := 1 } }

def curse : Stats Rat := { lifetime := some { low := -2, high := -2 } }

def boon : Stats Rat := { speed := some 1, lifetime := some { low := 5, high := 5 } }

theorem stack_order_boon :
    ∃ s s', [brief, {}, boon].foldlM (merge {}) {} = .ok s ∧
      [boon, brief, {}].foldlM (merge {}) {} = .ok s' ∧ s' = s := by
  have hperm : [brief, {}, boon].Perm [boon, brief, {}] :=
    (List.perm_append_comm : ([brief, {}] ++ [boon]).Perm _)
  obtain ⟨s, s', hs, hs', hreordered⟩ := (stack_order _).1 hperm
  refine ⟨s, s', hs, hs', hreordered.settled (settled_of_nonneg _ fun b hb span hspan => .inr ?_)⟩
  simp only [List.mem_cons, List.not_mem_nil, or_false] at hb
  rcases hb with rfl | rfl | rfl <;> cases hspan <;> decide +kernel

/-- What is taken away from the brief block leaves it endless, so nothing can be added any more;
added first, it is used up. -/
theorem stack_order_curse :
    [brief, curse, boon].Perm [brief, boon, curse] ∧
      [brief, curse, boon].foldlM (merge {}) {} ≠ [brief, boon, curse].foldlM (merge {}) {} ∧
      (merge {} brief curse >>= fun s => merge {} s boon) ≠
        (merge {} curse boon >>= fun s => merge {} brief s) := by
  have hdiffer {s s' : Stats Rat} (h : s.lifetime.map isEndless ≠ s'.lifetime.map isEndless) :
      (Except.ok s : Except MergeFault (Stats Rat)) ≠ .ok s' := fun heq =>
    h (congrArg (fun s => s.lifetime.map isEndless) (Except.ok.inj heq))
  refine ⟨.cons _ (.swap _ _ _), ?_, ?_⟩
  · rw [foldlM_merge, foldlM_merge]
    exact hdiffer (by decide +kernel)
  · rw [merge_eq_stack, merge_eq_stack]
    show merge {} (stack brief curse) boon ≠ merge {} brief (stack curse boon)
    rw [merge_eq_stack, merge_eq_stack]
    exact hdiffer (by decide +kernel)

end Lifetimes

end Stats
end WandArena
