/-! Rounding a quotient to an integer.

`nearestQuotient` takes the integer nearest to a quotient, a half going to the
even neighbour: it is never more than half a unit away (`nearestQuotient_close`). -/
namespace WandArena

/-- The integer nearest to `num / den`, a half going to the even neighbour. -/
def nearestQuotient (num : Int) (den : Nat) : Int :=
  let below := num / den
  let rest := 2 * (num % den)
  if rest < den then below
  else if (den : Int) < rest then below + 1
  else if below % 2 = 0 then below
  else below + 1

theorem nearestQuotient_nonneg {num : Int} (den : Nat) (h : 0 ≤ num) :
    0 ≤ nearestQuotient num den := by
  have hbelow : 0 ≤ num / (den : Int) := Int.ediv_nonneg h (by omega)
  unfold nearestQuotient
  simp only
  split
  · exact hbelow
  · split
    · omega
    · split <;> omega

theorem nearestQuotient_close (num : Int) (den : Nat) (h : 0 < den) :
    2 * num - den ≤ 2 * (nearestQuotient num den * den) ∧
      2 * (nearestQuotient num den * den) ≤ 2 * num + den := by
  have hdiv : (den : Int) * (num / den) + num % den = num := Int.mul_ediv_add_emod num den
  have hlow : 0 ≤ num % den := Int.emod_nonneg _ (by omega)
  have hhigh : num % den < den := Int.emod_lt_of_pos _ (by omega)
  have hup : (num / den + 1) * den = den * (num / den) + den := by
    rw [Int.add_mul, Int.mul_comm]
    omega
  have hkeep : num / den * den = den * (num / den) := Int.mul_comm _ _
  unfold nearestQuotient
  simp only
  split
  · omega
  · split
    · omega
    · split <;> omega

end WandArena
