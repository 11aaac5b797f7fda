import WandArena.Number.Binary64

/-! Amounts: the quantities that the arena runs on.

An amount is a whole number, exact however large, or a binary floating-point number. Whole
numbers stay whole under sums, differences and products. Their quotients are real, and so is
everything that a real number takes part in. Amounts are compared by what they stand for:
nothing is rounded before a whole number is held against a real one. -/
namespace WandArena

inductive Amount
  | whole (n : Int)
  | real (x : Float)

namespace Amount

/-- The real number that an amount is closest to. -/
def toFloat : Amount → Float
  | whole n => Binary64.ofRatio n 1
  | real x => x

def isWhole : Amount → Bool
  | whole _ => true
  | real _ => false

/-- Combines whole numbers by one operation and all others by another. -/
def combine (ints : Int → Int → Int) (floats : Float → Float → Float) : Amount → Amount → Amount
  | whole m, whole n => whole (ints m n)
  | a, b => real (floats a.toFloat b.toFloat)

/-- The quotient of whole numbers is rounded once. -/
def quotient : Amount → Amount → Amount
  | whole m, whole n =>
    if 0 < n then real (Binary64.ofRatio m n.toNat)
    else if n < 0 then real (-Binary64.ofRatio m (-n).toNat)
    else real (Binary64.ofRatio m 1 / 0.0)
  | a, b => real (a.toFloat / b.toFloat)

def negate : Amount → Amount
  | whole n => whole (-n)
  | real x => real (-x)

/-- Whether two amounts stand in one of the given orders. What is not a number stands in none. -/
def stand (orders : Ordering → Bool) (floats : Float → Float → Bool) : Amount → Amount → Bool
  | whole m, whole n => orders (compare m n)
  | whole m, real y => (Binary64.compareInt m y).any orders
  | real x, whole n => (Binary64.compareInt n x).any fun order => orders order.swap
  | real x, real y => floats x y

def lt (a b : Amount) : Prop := stand Ordering.isLT (fun x y => decide (x < y)) a b = true

def le (a b : Amount) : Prop := stand Ordering.isLE (fun x y => decide (x ≤ y)) a b = true

instance : Add Amount := ⟨combine (· + ·) (· + ·)⟩

instance : Sub Amount := ⟨combine (· - ·) (· - ·)⟩

instance : Mul Amount := ⟨combine (· * ·) (· * ·)⟩

instance : Div Amount := ⟨quotient⟩

instance : Neg Amount := ⟨negate⟩

instance : BEq Amount := ⟨stand Ordering.isEq (· == ·)⟩

instance : LT Amount := ⟨lt⟩

instance : LE Amount := ⟨le⟩

instance : OfScientific Amount :=
  ⟨fun mantissa sign exponent => real (.ofScientific mantissa sign exponent)⟩

/-- An operation that takes a real number. -/
def onReal {β : Type} (f : Float → Except NumberFault β) (a : Amount) : Except NumberFault β :=
  f a.toFloat

/-- A whole number is next to itself. -/
def rounded (f : Float → Except NumberFault Int) : Amount → Except NumberFault Int
  | whole n => .ok n
  | real x => f x

/-- The real number next to a quotient, unless it is too large. -/
def ratio? (fault : NumberFault) (num : Int) (den : Nat) : Except NumberFault Amount :=
  match Binary64.ofRatio? num den with
  | some p => .ok (real p.toFloat)
  | none => .error fault

instance : Scalar Amount where
  decidableLT := fun a b => inferInstanceAs (Decidable (stand _ _ a b = true))
  decidableLE := fun a b => inferInstanceAs (Decidable (stand _ _ a b = true))
  whole := whole
  isWhole := isWhole
  real := fun n => ratio? .tooLarge n 1
  ratio := ratio? .quotientTooLarge
  pi := real 3.141592653589793
  floor := rounded Binary64.floor
  nearest := rounded Binary64.nearest
  remainder := fun a b => (Binary64.remainder a.toFloat b.toFloat).map real
  sin := onReal fun x => (Binary64.circular Float.sin x).map real
  cos := onReal fun x => (Binary64.circular Float.cos x).map real
  atan2 := fun a b => real (Float.atan2 a.toFloat b.toFloat)
  decimal := fun places a => Binary64.decimal places a.toFloat

end Amount
end WandArena
