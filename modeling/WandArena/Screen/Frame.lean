import WandArena.Palette

/-! Frames: the cells being drawn beside the cells already on the screen.

Only cells that changed since the last flush are sent to the screen. A flush yields them in
row-major order, makes the drawn cells the shown ones and leaves a blank drawing. -/
namespace WandArena

/-- A character cell. Its glyph may be any text; an empty one shows as a space. -/
structure Cell where
  glyph : String
  color : Int
  deriving DecidableEq, Repr

def Cell.blank : Cell := ⟨" ", Palette.plain⟩

/-- A cell to be written on the screen. -/
structure Change where
  x : Nat
  y : Nat
  cell : Cell
  deriving DecidableEq, Repr

structure Frame where
  width : Int
  height : Int
  shown : Vector Cell (width.toNat * height.toNat)
  drawing : Vector Cell (width.toNat * height.toNat)

namespace Frame

def blank (width height : Int) : Frame :=
  ⟨width, height, Vector.replicate _ .blank, Vector.replicate _ .blank⟩

/-- The frame with nothing drawn. -/
def clear (f : Frame) : Frame := { f with drawing := Vector.replicate _ .blank }

/-- Whether a place lies in the frame. -/
def Holds (f : Frame) (x y : Int) : Prop := (0 ≤ x ∧ x < f.width) ∧ (0 ≤ y ∧ y < f.height)

instance (f : Frame) (x y : Int) : Decidable (f.Holds x y) :=
  inferInstanceAs (Decidable ((0 ≤ x ∧ x < f.width) ∧ (0 ≤ y ∧ y < f.height)))

/-- Where the cell of a place lies, row by row. -/
def place (f : Frame) (x y : Int) : Nat := y.toNat * f.width.toNat + x.toNat

theorem place_lt {f : Frame} {x y : Int} (h : f.Holds x y) :
    f.place x y < f.width.toNat * f.height.toNat := by
  obtain ⟨hx, hy⟩ := h
  have hx' : x.toNat < f.width.toNat := by omega
  have hy' : y.toNat + 1 ≤ f.height.toNat := by omega
  have := Nat.mul_le_mul_left f.width.toNat hy'
  rw [Nat.mul_add, Nat.mul_one, Nat.mul_comm f.width.toNat y.toNat] at this
  unfold place
  omega

/-- Different places have different cells. -/
theorem place_inj {f : Frame} {x y x' y' : Int} (h : f.Holds x y) (h' : f.Holds x' y')
    (heq : f.place x y = f.place x' y') : x = x' ∧ y = y' := by
  obtain ⟨hx, hy⟩ := h
  obtain ⟨hx', hy'⟩ := h'
  have hcol (x y : Int) (hx : 0 ≤ x ∧ x < f.width) : f.place x y % f.width.toNat = x.toNat := by
    rw [place, Nat.mul_add_mod_self_right, Nat.mod_eq_of_lt (by omega)]
  have hrow (x y : Int) (hx : 0 ≤ x ∧ x < f.width) : f.place x y / f.width.toNat = y.toNat := by
    rw [place, Nat.add_comm, Nat.add_mul_div_right _ _ (by omega), Nat.div_eq_of_lt (by omega),
      Nat.zero_add]
  have hcols := hcol x y hx
  have hrows := hrow x y hx
  rw [heq, hcol x' y' hx'] at hcols
  rw [heq, hrow x' y' hx'] at hrows
  omega

/-- The cell drawn at a place of the frame. -/
def drawn? (f : Frame) (x y : Int) : Option Cell :=
  if f.Holds x y then f.drawing[f.place x y]? else none

/-- The cell shown at a place of the frame. -/
def shown? (f : Frame) (x y : Int) : Option Cell :=
  if f.Holds x y then f.shown[f.place x y]? else none

/-- Draws a cell. Outside the frame nothing is drawn. -/
def put (f : Frame) (x y : Int) (cell : Cell) : Frame :=
  if h : f.Holds x y then { f with drawing := f.drawing.set (f.place x y) cell (place_lt h) }
  else f

/-- After drawing a cell, its place shows it and every other place what it showed before. -/
theorem drawn?_put (f : Frame) (x y : Int) (cell : Cell) (x' y' : Int) :
    (f.put x y cell).drawn? x' y' =
      if x' = x ∧ y' = y ∧ f.Holds x y then some cell else f.drawn? x' y' := by
  unfold put
  by_cases h : f.Holds x y
  · rw [dif_pos h]
    by_cases h' : f.Holds x' y'
    · change (if f.Holds x' y' then
        (f.drawing.set _ cell (place_lt h))[f.place x' y']? else none) = _
      rw [if_pos h', Vector.getElem?_set]
      by_cases hsame : x' = x ∧ y' = y
      · obtain ⟨rfl, rfl⟩ := hsame
        simp [h]
      · have hne : f.place x y ≠ f.place x' y' := fun e =>
          hsame ⟨(place_inj h h' e).1.symm, (place_inj h h' e).2.symm⟩
        rw [if_neg hne, if_neg fun e => hsame ⟨e.1, e.2.1⟩, drawn?, if_pos h']
    · have hne : ¬(x' = x ∧ y' = y ∧ f.Holds x y) := by
        rintro ⟨rfl, rfl, hin⟩
        exact h' hin
      change (if f.Holds x' y' then
        (f.drawing.set _ cell (place_lt h))[f.place x' y']? else none) = _
      rw [if_neg hne, drawn?, if_neg h', if_neg h']
  · simp [h]

/-- The cells whose drawing differs from what is shown, row by row. -/
def changes (f : Frame) : List Change :=
  (List.finRange (f.width.toNat * f.height.toNat)).filterMap
    fun (i : Fin (f.width.toNat * f.height.toNat)) =>
      if f.drawing[i] = f.shown[i] then none
      else some ⟨i.val % f.width.toNat, i.val / f.width.toNat, f.drawing[i]⟩

/-- What is drawn becomes what is shown. -/
def flush (f : Frame) : List Change × Frame :=
  (f.changes, { f with shown := f.drawing, drawing := Vector.replicate _ .blank })

/-- The glyphs of each row being drawn. -/
def rows (f : Frame) : List String :=
  (List.range f.height.toNat).map fun y =>
    String.join (((f.drawing.toList.drop (y * f.width.toNat)).take f.width.toNat).map (·.glyph))

end Frame
end WandArena
