import WandArena.Number.Decimal
import WandArena.Number.Scalar

/-! Binary floating point, read exactly.

A finite 64-bit number is an integer times a power of two. `Binary64.read` takes a
number apart into those, and rounding, remainders and decimal text are then exact
integer arithmetic: no intermediate result is rounded. The way back is `ofRatio?`, the number
nearest to a quotient of integers. -/
namespace WandArena.Binary64

/-- The finite number `mantissa * 2 ^ exponent`, negated if `negative`. -/
structure Parts where
  negative : Bool
  mantissa : Nat
  exponent : Int
  deriving DecidableEq, Repr

/-- What the sixty-four bits of a number stand for. -/
inductive Reading
  | notANumber
  | infinite (negative : Bool)
  | finite (parts : Parts)
  deriving DecidableEq, Repr

/-- One sign bit, eleven exponent bits and fifty-two fraction bits. -/
def readBits (bits : UInt64) : Reading :=
  let negative := bits >>> 63 == 1
  let scale := ((bits >>> 52) &&& 0x7ff).toNat
  let fraction := (bits &&& 0xfffffffffffff).toNat
  if scale = 0x7ff then
    if fraction = 0 then .infinite negative else .notANumber
  else if scale = 0 then .finite ⟨negative, fraction, -1074⟩
  else .finite ⟨negative, 0x10000000000000 + fraction, (scale : Int) - 1075⟩

def read (x : Float) : Reading := readBits x.toBits

namespace Parts

/-- The numerator over `den`, a power of two. -/
def num (p : Parts) : Int :=
  let size := p.mantissa <<< p.exponent.toNat
  if p.negative then -(size : Int) else size

/-- The power of two that the numerator is over. -/
def den (p : Parts) : Nat := 1 <<< (-p.exponent).toNat

def floor (p : Parts) : Int := p.num / p.den

def nearest (p : Parts) : Int := nearestQuotient p.num p.den

def decimal (places : Nat) (p : Parts) : String :=
  fixedDecimal places p.negative p.num.natAbs p.den

/-- What is left of `p` after whole multiples of `q`, for a nonzero `q`. -/
def remainder (p q : Parts) : Parts :=
  let scale := min p.exponent q.exponent
  let part (r : Parts) := r.mantissa <<< (r.exponent - scale).toNat
  ⟨p.negative, part p % part q, scale⟩

def toFloat (p : Parts) : Float :=
  let size := (Float.ofNat p.mantissa).scaleB p.exponent
  if p.negative then -size else size

end Parts

def floor (x : Float) : Except NumberFault Int :=
  match read x with
  | .notANumber => .error .notANumber
  | .infinite _ => .error .infinite
  | .finite p => .ok p.floor

def nearest (x : Float) : Except NumberFault Int :=
  match read x with
  | .notANumber => .error .notANumber
  | .infinite _ => .error .infinite
  | .finite p => .ok p.nearest

/-- Taking whole multiples of `y` away from `x` leaves a representable number, so
nothing is rounded. A number smaller than `y` is its own remainder. -/
def remainder (x y : Float) : Except NumberFault Float :=
  match read x, read y with
  | .notANumber, _ => .ok x
  | _, .notANumber => .ok y
  | .infinite _, _ => .error .outOfDomain
  | .finite _, .infinite _ => .ok x
  | .finite p, .finite q =>
    if q.mantissa = 0 then .error .outOfDomain
    else if x.abs < y.abs then .ok x
    else .ok (p.remainder q).toFloat

/-- A circular function has no value at infinity. -/
def circular (f : Float → Float) (x : Float) : Except NumberFault Float :=
  if x.isInf then .error .outOfDomain else .ok (f x)

def decimal (places : Nat) (x : Float) : String :=
  match read x with
  | .notANumber => "nan"
  | .infinite negative => if negative then "-inf" else "inf"
  | .finite p => p.decimal places

/-- The power of two that a positive quotient reaches, from below. -/
def reachedPower (num den : Nat) : Int :=
  let guess := (num.log2 : Int) - den.log2
  if num <<< (-guess).toNat < den <<< guess.toNat then guess - 1 else guess

/-- The finite number nearest to `num / den`, a tie going to the even mantissa. There is none if
the nearest one with an unbounded exponent is too large. -/
def ofRatio? (num : Int) (den : Nat) : Option Parts :=
  let scale := max (reachedPower num.natAbs den - 52) (-1074)
  let mantissa := nearestQuotient (num.natAbs <<< (-scale).toNat : Nat) (den <<< scale.toNat)
  if scale < 971 || (scale = 971 && mantissa < 0x20000000000000) then
    some ⟨num < 0, mantissa.toNat, scale⟩
  else none

/-- The number found is never more than half a unit of its own last place away. -/
theorem ofRatio?_close {num : Int} {den : Nat} {p : Parts} (h : 0 < den)
    (hp : ofRatio? num den = some p) :
    let size := num.natAbs <<< (-p.exponent).toNat
    let unit := den <<< p.exponent.toNat
    2 * size ≤ 2 * (p.mantissa * unit) + unit ∧ 2 * (p.mantissa * unit) ≤ 2 * size + unit := by
  unfold ofRatio? at hp
  simp only at hp
  split at hp
  · cases hp
    simp only
    generalize max (reachedPower num.natAbs den - 52) (-1074) = scale
    have hunit : 0 < den <<< scale.toNat := by
      rw [Nat.shiftLeft_eq]
      exact Nat.mul_pos h (Nat.two_pow_pos _)
    generalize num.natAbs <<< (-scale).toNat = size
    generalize den <<< scale.toNat = unit at hunit
    obtain ⟨hlow, hhigh⟩ := nearestQuotient_close size unit hunit
    have hmantissa : ((nearestQuotient size unit).toNat : Int) = nearestQuotient size unit :=
      Int.toNat_of_nonneg (nearestQuotient_nonneg unit (by omega))
    generalize (nearestQuotient size unit).toNat = mantissa at hmantissa
    rw [← hmantissa] at hlow hhigh
    omega
  · cases hp

/-- The number nearest to `num / den`; an infinite one beyond all finite ones. -/
def ofRatio (num : Int) (den : Nat) : Float :=
  match ofRatio? num den with
  | some p => p.toFloat
  | none => if num < 0 then -1.0 / 0.0 else 1.0 / 0.0

/-- How an integer compares with a number, exactly; not at all with what is not a number. -/
def compareInt (n : Int) (x : Float) : Option Ordering :=
  match read x with
  | .notANumber => none
  | .infinite negative => some (if negative then .gt else .lt)
  | .finite p => some (compare (n * p.den) p.num)

end WandArena.Binary64
