import WandArena.Number.Scalar

/-! Samples: quantities that are told apart.

What is not a number differs from everything, even from itself. A sample has a mark beside its
value, and samples with one mark are one sample, whatever its value is. Copying a sample keeps
its mark; a sample that was just computed has none. -/
namespace WandArena

structure Sample (α : Type) where
  value : α
  mark : Option Nat := none
  deriving Repr

namespace Sample
variable {α : Type}

instance [BEq α] : BEq (Sample α) :=
  ⟨fun a b => a.value == b.value || (a.mark.isSome && a.mark == b.mark)⟩

/-- A marked sample equals itself. -/
theorem beq_self [BEq α] (a : Sample α) (h : a.mark.isSome) : (a == a) = true := by
  change (a.value == a.value || (a.mark.isSome && a.mark == a.mark)) = true
  simp [h]

/-- Samples with different marks are equal exactly if their values are. -/
theorem beq_eq_of_ne [BEq α] {a b : Sample α} (h : a.mark ≠ b.mark) :
    (a == b) = (a.value == b.value) := by
  change (a.value == b.value || (a.mark.isSome && a.mark == b.mark)) = _
  simp [h]

instance [Quantity α] : Quantity (Sample α) where
  add := fun a b => { value := a.value + b.value }
  lt := fun a b => a.value < b.value
  ofScientific := fun mantissa sign exponent =>
    { value := OfScientific.ofScientific mantissa sign exponent }
  decidableLT := fun a b => inferInstanceAs (Decidable (a.value < b.value))
  whole := fun n => { value := Quantity.whole n }
  isWhole := fun a => Quantity.isWhole a.value

/-- The sample with a mark, the next one unless it has one. -/
def marked (a : Sample α) : StateM Nat (Sample α) :=
  match a.mark with
  | some _ => pure a
  | none => modifyGet fun next => ({ a with mark := some next }, next + 1)

end Sample
end WandArena
