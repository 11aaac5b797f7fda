import WandArena.Text.Blank

/-! Numerals: how an integer is read.

Blanks may stand around it, a sign before it and single underscores between its digits. The
digits may be those of any script. -/
namespace WandArena

/-- The zeros of all scripts that have decimal digits; the other nine digits follow each. -/
def digitZeros : List Nat :=
  [0x30, 0x660, 0x6f0, 0x7c0, 0x966, 0x9e6, 0xa66, 0xae6, 0xb66, 0xbe6, 0xc66, 0xce6, 0xd66, 0xde6,
   0xe50, 0xed0, 0xf20, 0x1040, 0x1090, 0x17e0, 0x1810, 0x1946, 0x19d0, 0x1a80, 0x1a90, 0x1b50,
   0x1bb0, 0x1c40, 0x1c50, 0xa620, 0xa8d0, 0xa900, 0xa9d0, 0xa9f0, 0xaa50, 0xabf0, 0xff10, 0x104a0,
   0x10d30, 0x11066, 0x110f0, 0x11136, 0x111d0, 0x112f0, 0x11450, 0x114d0, 0x11650, 0x116c0,
   0x11730, 0x118e0, 0x11950, 0x11c50, 0x11d50, 0x11da0, 0x16a60, 0x16ac0, 0x16b50, 0x1d7ce,
   0x1d7d8, 0x1d7e2, 0x1d7ec, 0x1d7f6, 0x1e140, 0x1e2f0, 0x1e950, 0x1fbf0]

/-- What a decimal digit stands for. -/
def digitValue? (c : Char) : Option Nat :=
  (digitZeros.find? fun start => start ≤ c.toNat && c.toNat < start + 10).map (c.toNat - ·)

namespace Numeral

/-- The most digits that are read. -/
def maxDigits : Nat := 4300

/-- A blank that may stand around a numeral. -/
def isMargin (c : Char) : Bool := isBlank c && !(0x1c ≤ c.toNat && c.toNat ≤ 0x1f)

/-- Digits with single underscores between them; `fresh` says that a digit has to come next. -/
def digits? (fresh : Bool) : List Char → Option (List Nat)
  | [] => if fresh then none else some []
  | c :: rest =>
    if c = '_' then if fresh then none else digits? true rest
    else do return (← digitValue? c) :: (← digits? false rest)

def natural? (text : List Char) : Option Nat := do
  let digits ← digits? true text
  if digits.length ≤ maxDigits then some (digits.foldl (fun n d => 10 * n + d) 0) else none

/-- The integer that a numeral stands for. -/
def integer? (text : String) : Option Int :=
  match trimmed isMargin text.toList with
  | '-' :: rest => (natural? rest).map fun n => -(n : Int)
  | '+' :: rest => (natural? rest).map fun n => (n : Int)
  | rest => (natural? rest).map fun n => (n : Int)

/-- Whether a text is a minus sign before digits, with at most one point that has digits behind
it. -/
def isNegative (text : String) : Bool :=
  match text.toList with
  | '-' :: rest =>
    let isDigit (c : Char) := (digitValue? c).isSome
    let whole := rest.takeWhile isDigit
    let ends (cs : List Char) := cs.isEmpty || cs == ['\n']
    match rest.dropWhile isDigit with
    | '.' :: places => !(places.takeWhile isDigit).isEmpty && ends (places.dropWhile isDigit)
    | others => !whole.isEmpty && ends others
  | _ => false

end Numeral
end WandArena
