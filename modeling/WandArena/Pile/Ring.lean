/-! Ring buffers: the fixed row of slots that a pile of cards lives in.

A ring keeps its items in a row of slots, front item first, wrapping around the end.
Nothing is ever overwritten: pushing onto a full ring is refused. What a ring holds is
the list `Ring.toList`, and each operation is one equation about that list:
`toList_push?`, `pop?_eq_none_iff`, `toList_pop?`, `toList_clear` and `toList_pushMany`.
Slots outside the used part may keep old items; they never reach the list. -/
namespace WandArena

/-- The item `offset` slots behind `start`, wrapping around the end. -/
def slotBehind {α : Type} (slots : Array (Option α)) (start offset : Nat) : Option α :=
  slots[(start + offset) % slots.size]?.join

structure Ring (α : Type) where
  slots : Array (Option α)
  /-- The slot of the front item. -/
  start : Nat
  used : Nat
  used_le : used ≤ slots.size
  filled : ∀ i < used, (slotBehind slots start i).isSome

namespace Ring
variable {α : Type}

def capacity (r : Ring α) : Nat := r.slots.size

def isEmpty (r : Ring α) : Bool := r.used == 0

def isFull (r : Ring α) : Bool := r.used == r.capacity

/-- A ring of empty slots. -/
def empty (capacity : Nat) : Ring α where
  slots := Array.replicate capacity none
  start := 0
  used := 0
  used_le := Nat.zero_le _
  filled := fun _ h => absurd h (Nat.not_lt_zero _)

/-- The items, front first. -/
def toList (r : Ring α) : List α :=
  List.ofFn fun i : Fin r.used => (slotBehind r.slots r.start i).get (r.filled i i.isLt)

/-- Two different offsets below the number of slots name two different slots. -/
private theorem offset_ne {n start i j : Nat} (hi : i < j) (hj : j < n) :
    (start + i) % n ≠ (start + j) % n := by
  intro h
  have hd := Nat.div_add_mod (start + i) n
  have hd' := Nat.div_add_mod (start + j) n
  rw [h] at hd
  have hle : (start + i) / n ≤ (start + j) / n := Nat.div_le_div_right (by omega)
  rcases Nat.lt_or_ge ((start + i) / n) ((start + j) / n) with hlt | hge
  · have := Nat.mul_le_mul_left n (Nat.succ_le_of_lt hlt)
    rw [Nat.succ_eq_add_one, Nat.mul_add] at this
    omega
  · have heq : (start + i) / n = (start + j) / n := Nat.le_antisymm hle hge
    rw [heq] at hd
    omega

private theorem slotBehind_set {slots : Array (Option α)} {start i j : Nat} {item : Option α}
    (hi : i < slots.size) (hj : j < slots.size) :
    slotBehind (slots.setIfInBounds ((start + j) % slots.size) item) start i =
      if i = j then item else slotBehind slots start i := by
  have hpos : 0 < slots.size := by omega
  have hlt := Nat.mod_lt (start + j) hpos
  unfold slotBehind
  rw [Array.size_setIfInBounds, Array.getElem?_setIfInBounds]
  by_cases h : i = j
  · subst h
    simp [hlt]
  · have hne : (start + j) % slots.size ≠ (start + i) % slots.size := by
      rcases Nat.lt_or_gt_of_ne h with h' | h'
      · exact (offset_ne h' hj).symm
      · exact offset_ne h' hi
    simp [hne, h]

private theorem slotBehind_next (slots : Array (Option α)) (start i : Nat) :
    slotBehind slots ((start + 1) % slots.size) i = slotBehind slots start (i + 1) := by
  unfold slotBehind
  rw [Nat.mod_add_mod]
  congr 3
  omega

/-- The ring with one more item at the back, unless it is full. -/
def push? (r : Ring α) (item : α) : Option (Ring α) :=
  if h : r.used < r.slots.size then
    some {
      slots := r.slots.setIfInBounds ((r.start + r.used) % r.slots.size) (some item)
      start := r.start
      used := r.used + 1
      used_le := by rw [Array.size_setIfInBounds]; omega
      filled := by
        intro i hi
        rw [slotBehind_set (by omega) h]
        split
        · rfl
        · exact r.filled i (by omega) }
  else none

/-- The front item and the ring without it, unless there is none. -/
def pop? (r : Ring α) : Option (α × Ring α) :=
  if h : 0 < r.used then
    some ((slotBehind r.slots r.start 0).get (r.filled 0 h), {
      slots := r.slots.setIfInBounds ((r.start + 0) % r.slots.size) none
      start := (r.start + 1) % r.slots.size
      used := r.used - 1
      used_le := by
        have := r.used_le
        rw [Array.size_setIfInBounds]
        omega
      filled := by
        intro i hi
        have := r.used_le
        have hnext :=
          slotBehind_next (r.slots.setIfInBounds ((r.start + 0) % r.slots.size) none) r.start i
        rw [Array.size_setIfInBounds] at hnext
        rw [hnext, slotBehind_set (by omega) (by omega)]
        simpa using r.filled (i + 1) (by omega) })
  else none

/-- The ring without its items. The slots are not scrubbed. -/
def clear (r : Ring α) : Ring α :=
  { r with
    start := 0
    used := 0
    used_le := Nat.zero_le _
    filled := fun _ h => absurd h (Nat.not_lt_zero _) }

/-- Pushes items in order as long as they fit. Also returns the items that are left over. -/
def pushMany (r : Ring α) : List α → Ring α × List α
  | [] => (r, [])
  | item :: rest =>
    match r.push? item with
    | some r' => r'.pushMany rest
    | none => (r, item :: rest)

/-! ### What the operations do to the list -/

private theorem getElem?_toList (r : Ring α) (i : Nat) :
    r.toList[i]? = if i < r.used then slotBehind r.slots r.start i else none := by
  unfold toList
  rw [List.getElem?_ofFn]
  split <;> simp_all

@[simp] theorem length_toList (r : Ring α) : r.toList.length = r.used := by
  simp [toList]

theorem used_le_capacity (r : Ring α) : r.used ≤ r.capacity := r.used_le

@[simp] theorem toList_empty (n : Nat) : (empty n : Ring α).toList = [] := by
  simp [toList, empty]

@[simp] theorem capacity_empty (n : Nat) : (empty n : Ring α).capacity = n := by
  simp [capacity, empty]

@[simp] theorem toList_clear (r : Ring α) : r.clear.toList = [] := by
  simp [toList, clear]

@[simp] theorem capacity_clear (r : Ring α) : r.clear.capacity = r.capacity := rfl

theorem isEmpty_iff (r : Ring α) : r.isEmpty = true ↔ r.toList = [] := by
  rw [isEmpty, beq_iff_eq, ← length_toList, List.length_eq_zero_iff]

/-- A push is refused exactly when the ring is full. -/
theorem push?_eq_none_iff (r : Ring α) (item : α) : r.push? item = none ↔ r.used = r.capacity := by
  have := r.used_le
  unfold push? capacity
  split
  · simp only [reduceCtorEq, false_iff]
    omega
  · simp only [true_iff]
    omega

/-- A push puts the item behind all others. -/
theorem toList_push? {r r' : Ring α} {item : α} (h : r.push? item = some r') :
    r'.toList = r.toList ++ [item] ∧ r'.capacity = r.capacity := by
  unfold push? at h
  split at h
  case isFalse => exact absurd h (by simp)
  case isTrue hlt =>
    cases h
    refine ⟨?_, by simp [capacity]⟩
    apply List.ext_getElem?
    intro i
    rw [getElem?_toList, List.getElem?_append, length_toList, getElem?_toList]
    dsimp only
    rcases Nat.lt_trichotomy i r.used with hi | hi | hi
    · rw [slotBehind_set (by omega) hlt]
      simp [hi, Nat.ne_of_lt hi, Nat.lt_succ_of_lt hi]
    · subst hi
      rw [slotBehind_set hlt hlt]
      simp
    · have : i - r.used ≠ 0 := by omega
      rw [if_neg (by omega), if_neg (by omega)]
      rw [List.getElem?_eq_none]
      simp only [List.length_singleton]
      omega

theorem pop?_eq_none_iff (r : Ring α) : r.pop? = none ↔ r.toList = [] := by
  rw [← List.length_eq_zero_iff, length_toList]
  unfold pop?
  split
  · simp only [reduceCtorEq, false_iff]
    omega
  · simp only [true_iff]
    omega

/-- A pop takes the front item off. -/
theorem toList_pop? {r r' : Ring α} {item : α} (h : r.pop? = some (item, r')) :
    r.toList = item :: r'.toList ∧ r'.capacity = r.capacity := by
  unfold pop? at h
  split at h
  case isFalse => exact absurd h (by simp)
  case isTrue hpos =>
    cases h
    refine ⟨?_, by simp [capacity]⟩
    have hle := r.used_le
    apply List.ext_getElem?
    intro i
    rw [getElem?_toList]
    cases i with
    | zero =>
      rw [if_pos hpos]
      simp
    | succ i =>
      rw [List.getElem?_cons_succ, getElem?_toList]
      dsimp only
      by_cases hi : i < r.used - 1
      · have hnext :=
          slotBehind_next (r.slots.setIfInBounds ((r.start + 0) % r.slots.size) none) r.start i
        rw [Array.size_setIfInBounds] at hnext
        rw [if_pos hi, if_pos (by omega), hnext, slotBehind_set (by omega) (by omega)]
        simp
      · rw [if_neg hi, if_neg (by omega)]

/-- Pushing many items pushes the longest run that fits and leaves the others over. -/
theorem pushMany_eq (r : Ring α) (items : List α) :
    (r.pushMany items).1.toList = r.toList ++ items.take (r.capacity - r.used) ∧
      (r.pushMany items).1.capacity = r.capacity ∧
      (r.pushMany items).2 = items.drop (r.capacity - r.used) := by
  induction items generalizing r with
  | nil => simp [pushMany]
  | cons item rest ih =>
    have hle := r.used_le_capacity
    unfold pushMany
    cases h : r.push? item with
    | none =>
      rw [push?_eq_none_iff] at h
      simp [h]
    | some r' =>
      have hne : r.used ≠ r.capacity := by
        intro hfull
        rw [(push?_eq_none_iff r item).2 hfull] at h
        exact absurd h (by simp)
      obtain ⟨hlist, hcap⟩ := toList_push? h
      have hused : r'.used = r.used + 1 := by
        rw [← length_toList, hlist, List.length_append, length_toList, List.length_singleton]
      obtain ⟨h₁, h₂, h₃⟩ := ih r'
      have hroom : r.capacity - r.used = (r.capacity - (r.used + 1)) + 1 := by omega
      refine ⟨?_, h₂.trans hcap, ?_⟩
      · rw [h₁, hlist, hcap, hused, hroom]
        simp
      · rw [h₃, hcap, hused, hroom]
        simp

/-- Items that fit are all pushed. -/
theorem pushMany_of_fits {r : Ring α} {items : List α} (h : r.used + items.length ≤ r.capacity) :
    (r.pushMany items).1.toList = r.toList ++ items ∧ (r.pushMany items).2 = [] := by
  obtain ⟨h₁, -, h₃⟩ := pushMany_eq r items
  have : items.length ≤ r.capacity - r.used := by omega
  rw [h₁, h₃, List.take_of_length_le this, List.drop_of_length_le this]
  exact ⟨rfl, rfl⟩

end Ring
end WandArena
