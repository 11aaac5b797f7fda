import WandArena.Number.Decimal
import WandArena.Number.Scalar

/-! Exact quantities.

Rational numbers with any circular functions whatever are quantities of the arena.
Nothing is rounded, and only a remainder by zero fails. -/
namespace WandArena

/-- Half a turn and the functions of an angle, which no rational arithmetic fixes. -/
structure Circle where
  pi : Rat
  sin : Rat → Rat
  cos : Rat → Rat
  atan2 : Rat → Rat → Rat
  pi_pos : 0 < pi

namespace Exact

/-- What is left of `x` after whole multiples of `y`, with the sign of `x`. -/
def remainder (x y : Rat) : Except NumberFault Rat :=
  if y = 0 then .error .outOfDomain
  else
    let quotient := x / y
    let whole := if quotient < 0 then quotient.ceil else quotient.floor
    .ok (x - whole * y)

/-- Rational quantities, turning by the given circle. -/
@[reducible] def scalar (circle : Circle) : Scalar Rat where
  decidableLT := inferInstance
  decidableLE := inferInstance
  whole := fun n => n
  isWhole := fun x => x.den == 1
  real := fun n => .ok n
  ratio := fun num den => .ok (mkRat num den)
  pi := circle.pi
  floor := fun x => .ok x.floor
  nearest := fun x => .ok (nearestQuotient x.num x.den)
  remainder := remainder
  sin := fun x => .ok (circle.sin x)
  cos := fun x => .ok (circle.cos x)
  atan2 := circle.atan2
  decimal := fun places x => fixedDecimal places (x < 0) x.num.natAbs x.den

end Exact
end WandArena
