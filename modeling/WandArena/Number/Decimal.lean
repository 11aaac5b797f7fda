import WandArena.Number.Rounding

/-! Decimal text with a fixed number of places.

The magnitude `num / den` is rounded once, to the nearest multiple of the last
place, a half going to the even digit. -/
namespace WandArena

/-- Digits before the point and exactly `places` after it; no point if there are none after it. -/
def fixedDigits (places num den : Nat) : List Char :=
  let units := (nearestQuotient (num * Nat.pow 10 places) den).toNat
  let digits := (Nat.toDigits 10 units).leftpad (places + 1) '0'
  let whole := digits.take (digits.length - places)
  if places = 0 then whole else whole ++ '.' :: digits.drop (digits.length - places)

/-- A minus sign stands before every negative number, also before one that rounds to zero. -/
def fixedDecimal (places : Nat) (negative : Bool) (num den : Nat) : String :=
  String.ofList (if negative then '-' :: fixedDigits places num den else fixedDigits places num den)

end WandArena
