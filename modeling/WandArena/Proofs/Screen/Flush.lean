import Mathlib.Data.List.FinRange
import WandArena.Screen.Terminal

/-! What a screen shows that is only told of changes.

A frame remembers what it sent to the screen last, and a flush sends the cells that differ from
that. `Sketch` says without frames or sizes what was drawn since the last flush or clear and what
was flushed last; whatever was put, cleared and flushed, the frame holds both and the screen shows
what was flushed last (`Monitor.Follows`). So a flush shows exactly what was drawn, cell by cell,
and sends no cell that is there already (`Monitor.flush_shows`). -/
namespace WandArena

/-- The cell as it appears: an empty glyph leaves a space. -/
def Cell.seen (c : Cell) : Cell := if c.glyph.isEmpty then { c with glyph := " " } else c

/-- A change is written as it appears. -/
theorem Terminal.write_eq_seen (t : Terminal) (c : Change) :
    t.write c = t.moveTo c.x c.y ++ t.normal ++ t.color c.cell.seen.color ++ c.cell.seen.glyph := by
  unfold Terminal.write Cell.seen
  split <;> rfl

/-- One change comes before another, row by row. -/
def Change.Before (c d : Change) : Prop := c.y < d.y ∨ (c.y = d.y ∧ c.x < d.x)

/-! ### Pictures -/

/-- A cell for every place. -/
abbrev Picture := Int → Int → Cell

namespace Picture

def blank : Picture := fun _ _ => .blank

def put (p : Picture) (x y : Int) (cell : Cell) : Picture := fun x' y' =>
  if x' = x ∧ y' = y then cell else p x' y'

/-- Writes changed cells one after another. -/
def writeAll (p : Picture) (changes : List Change) : Picture :=
  changes.foldl (fun p c => p.put c.x c.y c.cell.seen) p

variable {p : Picture} {changes : List Change} {x y : Int}

theorem writeAll_of_not_mem (h : ∀ c ∈ changes, ¬(x = c.x ∧ y = c.y)) :
    p.writeAll changes x y = p x y := by
  induction changes generalizing p with
  | nil => rfl
  | cons c rest ih =>
    have hrest := ih (p := p.put c.x c.y c.cell.seen) fun d hd => h d (List.mem_cons_of_mem _ hd)
    exact hrest.trans (if_neg (h c List.mem_cons_self))

theorem writeAll_of_mem (h : changes.Pairwise Change.Before) {c : Change} (hc : c ∈ changes) :
    p.writeAll changes c.x c.y = c.cell.seen := by
  induction changes generalizing p with
  | nil => cases hc
  | cons d rest ih =>
    obtain ⟨hlater, hrest⟩ := List.pairwise_cons.1 h
    rcases List.mem_cons.1 hc with rfl | hc
    · have hnot : ∀ e ∈ rest, ¬((c.x : Int) = e.x ∧ (c.y : Int) = e.y) := fun e he hsame => by
        have hbefore := hlater e he
        unfold Change.Before at hbefore
        omega
      exact (writeAll_of_not_mem hnot).trans (if_pos ⟨rfl, rfl⟩)
    · exact ih hrest hc

end Picture

/-! ### Changes of a frame -/

namespace Frame
variable {f : Frame} {x y : Int}

/-- Every cell has its place. -/
theorem holds_of_lt {i : Nat} (h : i < f.width.toNat * f.height.toNat) :
    f.Holds (i % f.width.toNat : Nat) (i / f.width.toNat : Nat) ∧
      f.place (i % f.width.toNat : Nat) (i / f.width.toNat : Nat) = i := by
  have hwidth : 0 < f.width.toNat := Nat.pos_of_mul_pos_right (Nat.zero_lt_of_lt h)
  have hcolumn : i % f.width.toNat < f.width.toNat := Nat.mod_lt i hwidth
  have hrow : i / f.width.toNat < f.height.toNat := Nat.div_lt_of_lt_mul h
  refine ⟨?_, Nat.div_add_mod' i f.width.toNat⟩
  generalize i % f.width.toNat = column at hcolumn ⊢
  generalize i / f.width.toNat = row at hrow ⊢
  exact ⟨⟨by omega, by omega⟩, by omega, by omega⟩

theorem drawn?_of_holds (h : f.Holds x y) :
    f.drawn? x y = some (f.drawing.get ⟨f.place x y, place_lt h⟩) :=
  (if_pos h).trans (Vector.getElem?_eq_getElem _)

theorem shown?_of_holds (h : f.Holds x y) :
    f.shown? x y = some (f.shown.get ⟨f.place x y, place_lt h⟩) :=
  (if_pos h).trans (Vector.getElem?_eq_getElem _)

/-- The changes are the cells that are drawn and not shown yet. -/
theorem mem_changes {c : Change} :
    c ∈ f.changes ↔ f.drawn? c.x c.y = some c.cell ∧ f.shown? c.x c.y ≠ some c.cell := by
  unfold changes
  rw [List.mem_filterMap]
  constructor
  · rintro ⟨i, -, hi⟩
    obtain ⟨hholds, hplace⟩ := holds_of_lt i.isLt
    split at hi
    case isTrue => cases hi
    case isFalse hdiffer =>
      cases hi
      rw [drawn?_of_holds hholds, shown?_of_holds hholds]
      simp only [hplace]
      exact ⟨rfl, fun h => hdiffer (Option.some.inj h).symm⟩
  · rintro ⟨hdrawn, hshown⟩
    have hholds : f.Holds c.x c.y := by
      by_contra hnot
      unfold drawn? at hdrawn
      rw [if_neg hnot] at hdrawn
      cases hdrawn
    rw [drawn?_of_holds hholds] at hdrawn
    rw [shown?_of_holds hholds] at hshown
    refine ⟨⟨_, place_lt hholds⟩, List.mem_finRange _, ?_⟩
    have hcell := Option.some.inj hdrawn
    obtain ⟨hat, hplace⟩ := holds_of_lt (place_lt hholds)
    obtain ⟨hx, hy⟩ := place_inj hat hholds hplace
    rw [if_neg fun h => hshown (congrArg some (h.symm.trans hcell)), Int.ofNat.inj hx,
      Int.ofNat.inj hy]
    exact congrArg (fun cell => some (Change.mk c.x c.y cell)) hcell

theorem before_of_lt {i j width : Nat} (h : i < j) (a b : Cell) :
    Change.Before ⟨i % width, i / width, a⟩ ⟨j % width, j / width, b⟩ := by
  have hrows : i / width ≤ j / width := Nat.div_le_div_right h.le
  have hi := Nat.div_add_mod i width
  have hj := Nat.div_add_mod j width
  rcases hrows.lt_or_eq with hlt | heq
  · exact .inl hlt
  · rw [heq] at hi
    exact .inr ⟨heq, show i % width < j % width by omega⟩

/-- The changes come row by row, so none comes twice. -/
theorem changes_inOrder (f : Frame) : f.changes.Pairwise Change.Before := by
  unfold changes
  refine List.pairwise_filterMap.2 ((List.pairwise_lt_finRange _).imp ?_)
  intro i j hlt c hc d hd
  split at hc
  case isTrue => cases hc
  case isFalse =>
    split at hd
    case isTrue => cases hd
    case isFalse =>
      cases hc
      cases hd
      exact before_of_lt hlt _ _

/-- Drawing outside the frame changes nothing. -/
theorem put_of_not_holds {cell : Cell} (h : ¬f.Holds x y) : f.put x y cell = f := dif_neg h

theorem size_put (f : Frame) (x y : Int) (cell : Cell) :
    (f.put x y cell).width = f.width ∧ (f.put x y cell).height = f.height := by
  unfold put
  split <;> exact ⟨rfl, rfl⟩

theorem shown?_put (f : Frame) (x y : Int) (cell : Cell) : (f.put x y cell).shown? = f.shown? := by
  unfold put
  split <;> rfl

end Frame

/-! ### Frames and the screens they are shown on -/

/-- What may be done with a frame. -/
inductive Stroke
  | put (x y : Int) (cell : Cell)
  | clear
  | flush

/-- What was drawn since the last flush or clear and what was flushed last. -/
structure Sketch where
  drawn : Picture
  shown : Picture

namespace Sketch

def blank : Sketch := ⟨.blank, .blank⟩

def apply (k : Sketch) : Stroke → Sketch
  | .put x y cell => { k with drawn := k.drawn.put x y cell }
  | .clear => { k with drawn := .blank }
  | .flush => ⟨.blank, k.drawn⟩

/-- What strokes leave of a blank sketch. -/
def after (strokes : List Stroke) : Sketch := strokes.foldl apply blank

end Sketch

/-- A frame and a screen that shows what the frame sends. -/
structure Monitor where
  frame : Frame
  screen : Picture

namespace Monitor

def apply (m : Monitor) : Stroke → Monitor
  | .put x y cell => { m with frame := m.frame.put x y cell }
  | .clear => { m with frame := m.frame.clear }
  | .flush => ⟨m.frame.flush.2, m.screen.writeAll m.frame.flush.1⟩

/-- A blank frame of a size and a blank screen, after some strokes. -/
def after (width height : Int) (strokes : List Stroke) : Monitor :=
  strokes.foldl apply ⟨.blank width height, .blank⟩

/-- The frame holds the sketch as far as its size goes, and the screen shows what was flushed
last. -/
structure Follows (m : Monitor) (k : Sketch) : Prop where
  drawn : ∀ {x y}, m.frame.Holds x y → m.frame.drawn? x y = some (k.drawn x y)
  shown : ∀ {x y}, m.frame.Holds x y → m.frame.shown? x y = some (k.shown x y)
  screen : ∀ x y, m.screen x y = if m.frame.Holds x y then (k.shown x y).seen else .blank

variable {m : Monitor} {k : Sketch}

namespace Follows

theorem start (width height : Int) : Follows ⟨.blank width height, .blank⟩ .blank where
  drawn h := by
    rw [Frame.drawn?_of_holds h]
    exact congrArg some (Vector.getElem_replicate _)
  shown h := by
    rw [Frame.shown?_of_holds h]
    exact congrArg some (Vector.getElem_replicate _)
  screen x y := by
    split <;> rfl

theorem mem_changes (h : m.Follows k) {c : Change} : c ∈ m.frame.changes ↔
    m.frame.Holds c.x c.y ∧ c.cell = k.drawn c.x c.y ∧ c.cell ≠ k.shown c.x c.y := by
  refine Frame.mem_changes.trans ?_
  by_cases hholds : m.frame.Holds c.x c.y
  · rw [h.drawn hholds, h.shown hholds, Option.some.injEq, ne_eq, Option.some.injEq]
    exact ⟨fun ⟨hdrawn, hshown⟩ => ⟨hholds, hdrawn.symm, Ne.symm hshown⟩,
      fun ⟨_, hdrawn, hshown⟩ => ⟨hdrawn.symm, Ne.symm hshown⟩⟩
  · refine iff_of_false (fun hdrawn => ?_) fun hin => hholds hin.1
    rw [Frame.drawn?, if_neg hholds] at hdrawn
    cases hdrawn.1

/-- After a flush the screen shows what was drawn. -/
theorem screen_flush (h : m.Follows k) (x y : Int) : (m.apply .flush).screen x y =
    if m.frame.Holds x y then (k.drawn x y).seen else .blank := by
  show m.screen.writeAll m.frame.changes x y = _
  by_cases hsent : ∃ c ∈ m.frame.changes, x = c.x ∧ y = c.y
  · obtain ⟨c, hc, rfl, rfl⟩ := hsent
    obtain ⟨hholds, hdrawn, -⟩ := h.mem_changes.1 hc
    rw [Picture.writeAll_of_mem m.frame.changes_inOrder hc, if_pos hholds, hdrawn]
  · -- A place that nothing is sent for shows what is drawn there already.
    have hnone : ∀ c ∈ m.frame.changes, ¬(x = c.x ∧ y = c.y) := fun c hc hat =>
      hsent ⟨c, hc, hat⟩
    rw [Picture.writeAll_of_not_mem hnone, h.screen]
    by_cases hholds : m.frame.Holds x y
    · rw [if_pos hholds, if_pos hholds]
      by_contra hdiffer
      obtain ⟨column, rfl⟩ := Int.eq_ofNat_of_zero_le hholds.1.1
      obtain ⟨row, rfl⟩ := Int.eq_ofNat_of_zero_le hholds.2.1
      refine hsent ⟨⟨column, row, k.drawn column row⟩, h.mem_changes.2 ⟨hholds, rfl, ?_⟩, rfl, rfl⟩
      exact fun hsame => hdiffer (congrArg Cell.seen hsame.symm)
    · rw [if_neg hholds, if_neg hholds]

theorem apply (h : m.Follows k) (stroke : Stroke) : (m.apply stroke).Follows (k.apply stroke) := by
  cases stroke with
  | put x y cell =>
    obtain ⟨hwidth, hheight⟩ := m.frame.size_put x y cell
    have hholds (x' y' : Int) : (m.frame.put x y cell).Holds x' y' ↔ m.frame.Holds x' y' := by
      unfold Frame.Holds
      rw [hwidth, hheight]
    refine ⟨fun {x' y'} hin => ?_, fun {x' y'} hin => ?_, fun x' y' => ?_⟩
    · have hheld : m.frame.Holds x' y' := (hholds x' y').1 hin
      refine (m.frame.drawn?_put x y cell x' y').trans ?_
      show _ = some (if x' = x ∧ y' = y then cell else k.drawn x' y')
      by_cases hsame : x' = x ∧ y' = y
      · obtain ⟨rfl, rfl⟩ := hsame
        rw [if_pos ⟨rfl, rfl, hheld⟩, if_pos ⟨rfl, rfl⟩]
      · rw [if_neg fun h => hsame ⟨h.1, h.2.1⟩, if_neg hsame, h.drawn hheld]
    · show (m.frame.put x y cell).shown? x' y' = _
      rw [m.frame.shown?_put x y cell]
      exact h.shown ((hholds x' y').1 hin)
    · refine (h.screen x' y').trans ?_
      simp only [Monitor.apply, hholds]
      rfl
  | clear =>
    exact ⟨(start m.frame.width m.frame.height).drawn, h.shown, h.screen⟩
  | flush =>
    exact ⟨(start m.frame.width m.frame.height).drawn, h.drawn, h.screen_flush⟩

end Follows

theorem follows_after (width height : Int) (strokes : List Stroke) :
    (after width height strokes).Follows (.after strokes) := by
  have hall (m : Monitor) (k : Sketch) (h : m.Follows k) :
      (strokes.foldl Monitor.apply m).Follows (strokes.foldl Sketch.apply k) := by
    induction strokes generalizing m k with
    | nil => exact h
    | cons stroke rest ih => exact ih _ _ (h.apply stroke)
  exact hall _ _ (.start width height)

theorem size_after (width height : Int) (strokes : List Stroke) :
    (after width height strokes).frame.width = width ∧
      (after width height strokes).frame.height = height := by
  have hall (m : Monitor) : (strokes.foldl apply m).frame.width = m.frame.width ∧
      (strokes.foldl apply m).frame.height = m.frame.height := by
    induction strokes generalizing m with
    | nil => exact ⟨rfl, rfl⟩
    | cons stroke rest ih =>
      obtain ⟨hwidth, hheight⟩ := ih (m.apply stroke)
      cases stroke with
      | put x y cell =>
        obtain ⟨hwidth', hheight'⟩ := m.frame.size_put x y cell
        exact ⟨hwidth.trans hwidth', hheight.trans hheight'⟩
      | clear => exact ⟨hwidth, hheight⟩
      | flush => exact ⟨hwidth, hheight⟩
  exact hall _

/-- **A flush shows exactly what was drawn.** Whatever is put on a frame, cleared and flushed, with
any places, glyphs and colours: once the frame is flushed, the screen shows what was drawn since the
last flush or clear, as far as the frame goes, and nothing elsewhere. The cells that are sent are
those that differ from what was flushed last, row by row and each once, an empty glyph as a space.
The drawing is blank again, and whatever is put outside the frame changes nothing. -/
theorem flush_shows (width height : Int) (strokes : List Stroke) :
    let m := after width height strokes
    let k := Sketch.after strokes
    let Inside (x y : Int) := (0 ≤ x ∧ x < width) ∧ (0 ≤ y ∧ y < height)
    (∀ x y, Inside x y → (m.apply .flush).screen x y = (k.drawn x y).seen) ∧
    (∀ x y, ¬Inside x y → (m.apply .flush).screen x y = .blank) ∧
    m.frame.flush.1.Pairwise Change.Before ∧
    (∀ c, c ∈ m.frame.flush.1 ↔
      Inside c.x c.y ∧ c.cell = k.drawn c.x c.y ∧ c.cell ≠ k.shown c.x c.y) ∧
    (∀ t : Terminal, t.writeAll m.frame.flush.1 = String.join (m.frame.flush.1.map fun c =>
      t.moveTo c.x c.y ++ t.normal ++ t.color c.cell.seen.color ++ c.cell.seen.glyph)) ∧
    (∀ x y, Inside x y → m.frame.flush.2.drawn? x y = some .blank) ∧
    ∀ x y cell, ¬Inside x y → m.frame.put x y cell = m.frame := by
  intro m k Inside
  have h : m.Follows k := follows_after width height strokes
  obtain ⟨hwidth, hheight⟩ : m.frame.width = width ∧ m.frame.height = height :=
    size_after width height strokes
  have hinside (x y : Int) : m.frame.Holds x y ↔ Inside x y := by
    unfold Frame.Holds
    rw [hwidth, hheight]
  refine ⟨fun x y hin => ?_, fun x y hout => ?_, m.frame.changes_inOrder, fun c => ?_, fun t => ?_,
    fun x y hin => ?_, fun x y cell hout => ?_⟩
  · rw [h.screen_flush, if_pos ((hinside x y).2 hin)]
  · rw [h.screen_flush, if_neg fun hin => hout ((hinside x y).1 hin)]
  · rw [← hinside]
    exact h.mem_changes
  · exact congrArg String.join (List.map_congr_left fun c _ => t.write_eq_seen c)
  · exact (h.apply .flush).drawn ((hinside x y).2 hin)
  · exact Frame.put_of_not_holds fun hin => hout ((hinside x y).1 hin)

/-- One cell is erased, another one drawn with an empty glyph, and one lies outside. -/
theorem flush_shows_erased :
    let strokes : List Stroke := [.put 0 0 ⟨"A", 3⟩, .flush, .put 1 0 ⟨"", 5⟩]
    let m := after 2 1 strokes
    (m.apply .flush).screen 0 0 = .blank ∧ (m.apply .flush).screen 1 0 = ⟨" ", 5⟩ ∧
      (⟨0, 0, .blank⟩ : Change) ∈ m.frame.flush.1 ∧ m.frame.put 2 0 ⟨"B", 1⟩ = m.frame := by
  intro strokes m
  obtain ⟨hscreen, -, -, hsent, -, -, houtside⟩ := flush_shows 2 1 strokes
  refine ⟨(hscreen 0 0 (by decide)).trans (by decide), (hscreen 1 0 (by decide)).trans (by decide),
    (hsent _).2 ⟨by decide, by decide, by decide⟩, houtside 2 0 _ (by decide)⟩

end Monitor
end WandArena
