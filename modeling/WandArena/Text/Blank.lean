/-! Blank characters and the trimming of text. -/
namespace WandArena

/-- Whether a character is one of the blanks of Unicode, the four separators of ASCII among them. -/
def isBlank (c : Char) : Bool :=
  let n := c.toNat
  (0x9 ≤ n && n ≤ 0xd) || (0x1c ≤ n && n ≤ 0x20) || n == 0x85 || n == 0xa0 || n == 0x1680 ||
    (0x2000 ≤ n && n ≤ 0x200a) || n == 0x2028 || n == 0x2029 || n == 0x202f || n == 0x205f ||
    n == 0x3000

/-- A text without the characters of a class at either end. -/
def trimmed (blank : Char → Bool) (text : List Char) : List Char :=
  ((text.dropWhile blank).reverse.dropWhile blank).reverse

/-- A text without blanks at either end. -/
def trimBlanks (text : String) : String :=
  String.ofList (trimmed isBlank text.toList)

end WandArena
