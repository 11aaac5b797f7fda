/-! Numbers the arena is measured in.

Positions, angles, mana and stats are all quantities of one type. `Quantity` lists what
is needed to stack and compare them, `Scalar` what the arena does with them besides:
arithmetic, rounding to an integer, the circular functions and a decimal text. Everything
above this module is written for any such type, so the same definitions run on the
numbers of a machine and are reasoned about over exact numbers.

A quantity may be kept as a count, without a fraction; `Quantity.isWhole` tells. Turning
integers into other quantities, rounding and the circular functions can fail;
`NumberFault` says how. -/
namespace WandArena

/-- Why an operation on numbers has no result. -/
inductive NumberFault
  /-- Rounding something that is not a number. -/
  | notANumber
  /-- Rounding an infinite quantity. -/
  | infinite
  /-- A circular function or a remainder of an infinite quantity. -/
  | outOfDomain
  /-- An integer beyond every real quantity. -/
  | tooLarge
  /-- A quotient of integers beyond every real quantity. -/
  | quotientTooLarge
  deriving DecidableEq, Repr

def NumberFault.message : NumberFault → String
  | .notANumber => "cannot convert float NaN to integer"
  | .infinite => "cannot convert float infinity to integer"
  | .outOfDomain => "math domain error"
  | .tooLarge => "int too large to convert to float"
  | .quotientTooLarge => "integer division result too large for a float"

/-- A type of quantities that can be added up and compared. -/
class Quantity (α : Type) extends Add α, LT α, BEq α, OfScientific α where
  decidableLT : DecidableLT α
  /-- A count, kept as an integer where the type can. -/
  whole : Int → α
  /-- Whether a quantity is kept as an integer. -/
  isWhole : α → Bool

namespace Quantity
variable {α : Type} [Quantity α]

instance : DecidableLT α := decidableLT

def zero : α := 0.0

def one : α := 1.0

/-- The first of two quantities unless the second is below it. -/
def least (a b : α) : α := if b < a then b else a

/-- The first of two quantities unless the second is above it. -/
def greatest (a b : α) : α := if a < b then b else a

end Quantity

/-- A type of quantities that the arena can be measured in. -/
class Scalar (α : Type) extends Quantity α, Sub α, Mul α, Div α, Neg α, LE α where
  decidableLE : DecidableLE α
  /-- The real quantity nearest to an integer. -/
  real : Int → Except NumberFault α
  /-- The real quantity nearest to the quotient of two integers, the second above zero. -/
  ratio : Int → Nat → Except NumberFault α
  /-- Half a turn, in radians. -/
  pi : α
  /-- The greatest integer that is not above. -/
  floor : α → Except NumberFault Int
  /-- The nearest integer, a half going to the even neighbour. -/
  nearest : α → Except NumberFault Int
  /-- What is left of the first after whole multiples of the second, with the sign of the first. -/
  remainder : α → α → Except NumberFault α
  sin : α → Except NumberFault α
  cos : α → Except NumberFault α
  /-- The angle of the vector whose height comes first and whose width comes second. -/
  atan2 : α → α → α
  /-- Decimal text with a fixed number of places, a half going to the even digit. -/
  decimal : Nat → α → String

namespace Scalar
variable {α : Type} [Scalar α]

instance : DecidableLE α := decidableLE

/-- The text a quantity is reported in: nine places, and zero without a sign. -/
def report (x : α) : String :=
  let text := decimal 9 x
  if text = "-0.000000000" then "0.000000000" else text

end Scalar
end WandArena
