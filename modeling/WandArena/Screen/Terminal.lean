import WandArena.Screen.Frame

/-! Terminals: how cells are written on a screen. -/
namespace WandArena

/-- The control texts of a terminal. -/
structure Terminal where
  moveTo : Nat → Nat → String
  /-- Ends all colours. -/
  normal : String
  color : Int → String
  home : String
  clear : String

namespace Terminal

/-- The text that writes one cell: its place, its colour and its glyph. -/
def write (t : Terminal) (change : Change) : String :=
  t.moveTo change.x change.y ++ t.normal ++ t.color change.cell.color ++
    (if change.cell.glyph.isEmpty then " " else change.cell.glyph)

def writeAll (t : Terminal) (changes : List Change) : String :=
  String.join (changes.map t.write)

/-- A terminal that follows the escape sequences of ANSI. -/
def ansi : Terminal where
  moveTo := fun x y => s!"\x1b[{y + 1};{x + 1}H"
  normal := "\x1b[0m"
  color := fun c => s!"\x1b[38;5;{c}m"
  home := "\x1b[H"
  clear := "\x1b[2J"

end Terminal
end WandArena
