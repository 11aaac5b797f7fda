import WandArena.Fault
import WandArena.Number.Binary64
import WandArena.Screen.Frame

/-! The canvas: the arena on top and a few rows for the display below it. -/
namespace WandArena

structure Canvas where
  frame : Frame
  arenaHeight : Int

namespace Canvas

/-- The rows below the arena. -/
def displayRows : Int := 4

/-- A blank canvas for an arena of the given size. -/
def blank (width arenaHeight : Int) : Canvas :=
  ⟨.blank width (arenaHeight + displayRows), arenaHeight⟩

/-- A blank canvas, if there is room for the cells of a row, where it has rows. -/
def ofSize (width arenaHeight : Int) : Except Fault Canvas := do
  if 0 < arenaHeight + displayRows then
    let _ ← room width
  return .blank width arenaHeight

def width (c : Canvas) : Int := c.frame.width

def clear (c : Canvas) : Canvas := { c with frame := c.frame.clear }

def flush (c : Canvas) : List Change × Canvas :=
  let (changes, frame) := c.frame.flush
  (changes, { c with frame })

def put (c : Canvas) (x y : Int) (glyph : String) (color : Int) : Canvas :=
  { c with frame := c.frame.put x y ⟨glyph, color⟩ }

/-- Draws only inside the arena. -/
def putInArena (c : Canvas) (x y : Int) (glyph : String) (color : Int) : Canvas :=
  if 0 ≤ x && x < c.width && 0 ≤ y && y < c.arenaHeight then c.put x y glyph color else c

/-- Draws characters side by side. -/
def putChars (c : Canvas) (x y : Int) (color : Int) : List Char → Canvas
  | [] => c
  | char :: rest => (c.put x y char.toString color).putChars (x + 1) y color rest

def putText (c : Canvas) (x y : Int) (text : String) (color : Int) : Canvas :=
  c.putChars x y color text.toList

/-- The integers from `low` up to, not including, `high`. -/
def stretch (low high : Int) : List Int :=
  (List.range (high - low).toNat).map fun (i : Nat) => low + i

/-- Outlines a rectangle. -/
def box (c : Canvas) (x y w h : Int) (color : Int) (glyph : String) : Canvas :=
  let right := x + w - 1
  let bottom := y + h - 1
  let c := (stretch x (x + w)).foldl
    (fun c cx => (c.put cx y glyph color).put cx bottom glyph color) c
  (stretch (y + 1) bottom).foldl (fun c cy => (c.put x cy glyph color).put right cy glyph color) c

/-- How many bytes each character takes in a text that repeats this one. What the text takes beside
its characters is left out. -/
def charBytes (char : Char) : Nat :=
  if char.toNat < 0x100 then 1 else if char.toNat < 0x10000 then 2 else 4

/-- Draws one character over and over, side by side. -/
def putRow (x y count : Int) (color : Int) (char : Char) : Run Canvas Unit := do
  let cells ← Run.lift (roomOf (charBytes char) count)
  modify fun c => c.putChars x y color (List.replicate cells char)

/-- How many of the cells of a bar are filled. The fill runs up to 255. The share of the fill
is a binary number before it is rounded to cells. -/
def filledCells (width fill : Int) : Except NumberFault Int :=
  match Binary64.ofRatio? (width * max 0 (min fill 255)) 255 with
  | some share => .ok share.nearest
  | none => .error .quotientTooLarge

/-- Draws a horizontal bar, its filled part first. -/
def bar (x y width fill : Int) (color emptyColor : Int) : Run Canvas Unit := do
  let filled ← Run.number (filledCells width fill)
  putRow x y filled color '█'
  putRow (x + filled) y (width - filled) emptyColor '░'

end Canvas
end WandArena
