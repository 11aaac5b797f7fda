import Mathlib.Algebra.Order.Field.Basic
import Mathlib.Data.Rat.Floor
import WandArena.Number.Exact
import WandArena.Proofs.Run.Safe
import WandArena.Proofs.Screen.Flush
import WandArena.Screen.Scene

/-! What drawing on a canvas may stop for.

Whatever is drawn, a canvas stays as wide as it is. Rows of cells are drawn where there is room for
them (`putRow_safe`), and the bar of the display always is (`bar_safe`). Painting entities stops for
nothing but rounding a place or an aim (`paintAll_safe`), which never fails on exact numbers
(`not_ofPainting_exact`). -/
namespace WandArena

/-- Rounding or aiming stops like this for some quantity. -/
inductive Fault.OfPainting (α : Type) [Scalar α] : Fault → Prop
  | nearest {x : α} {fault : NumberFault} (h : Scalar.nearest x = .error fault) :
    OfPainting α (.number fault)
  | cos {x : α} {fault : NumberFault} (h : Scalar.cos x = .error fault) :
    OfPainting α (.number fault)
  | sin {x : α} {fault : NumberFault} (h : Scalar.sin x = .error fault) :
    OfPainting α (.number fault)
  | aim {x : α} {fault : NumberFault} (h : aimGlyph x = .error fault) :
    OfPainting α (.number fault)

/-- Half a turn is not zero, so that every angle can be brought into half a turn. -/
theorem normalizeAngle_exact (circle : Circle) (angle : Rat) :
    letI : Scalar Rat := Exact.scalar circle
    ∃ rest : Rat, normalizeAngle angle = .ok rest := by
  let : Scalar Rat := Exact.scalar circle
  have hturn : ((2 : Int) : Rat) * circle.pi ≠ 0 :=
    mul_ne_zero (Int.cast_ne_zero.2 two_ne_zero) circle.pi_pos.ne'
  obtain ⟨rest, hrest⟩ : ∃ rest : Rat,
      Scalar.remainder angle (Quantity.whole 2 * Scalar.pi) = .ok rest := ⟨_, if_neg hturn⟩
  unfold normalizeAngle
  dsimp only
  rw [hrest]
  exact ⟨_, rfl⟩

/-- On exact numbers nothing goes wrong with rounding and aiming. -/
theorem Fault.not_ofPainting_exact (circle : Circle) (fault : Fault) :
    letI : Scalar Rat := Exact.scalar circle
    ¬ Fault.OfPainting Rat fault := by
  let : Scalar Rat := Exact.scalar circle
  intro h
  cases h with
  | nearest h => cases h
  | cos h => cases h
  | sin h => cases h
  | @aim x _ h =>
    obtain ⟨rest, hrest⟩ := normalizeAngle_exact circle x
    unfold aimGlyph at h
    rw [hrest] at h
    cases h

namespace Canvas
variable {width x y : Int} {stops : Fault → Prop}

/-! ### The width -/

/-- The canvas is that wide. -/
abbrev Spans (width : Int) (c : Canvas) : Prop := c.width = width

namespace Spans
variable {c : Canvas} {color : Int}

theorem put (h : Spans width c) {glyph : String} : Spans width (c.put x y glyph color) :=
  (c.frame.size_put x y ⟨glyph, color⟩).1.trans h

theorem putInArena (h : Spans width c) {glyph : String} :
    Spans width (c.putInArena x y glyph color) := by
  unfold Canvas.putInArena
  split
  · exact h.put
  · exact h

theorem putChars (h : Spans width c) {chars : List Char} :
    Spans width (c.putChars x y color chars) := by
  induction chars generalizing c x with
  | nil => exact h
  | cons char rest ih => exact ih h.put

theorem putText (h : Spans width c) {text : String} : Spans width (c.putText x y text color) :=
  h.putChars

theorem box (h : Spans width c) {w height : Int} {glyph : String} :
    Spans width (c.box x y w height color glyph) := by
  have hfold (places : List Int) (first second : Int → Int × Int) {c : Canvas}
      (h : Spans width c) :
      Spans width (places.foldl (fun c i => (c.put (first i).1 (first i).2 glyph color).put
        (second i).1 (second i).2 glyph color) c) := by
    induction places generalizing c with
    | nil => exact h
    | cons i rest ih => exact ih h.put.put
  exact hfold _ (x, ·) (x + w - 1, ·) (hfold _ (·, y) (·, y + height - 1) h)

end Spans

/-! ### Rows and bars -/

/-- No character of a text takes more bytes than a cell. -/
theorem charBytes_le (char : Char) : charBytes char ≤ 8 := by
  unfold charBytes
  split
  · decide
  · split <;> decide

theorem putRow_safe {count : Int} (h : ∃ cells, room count = .ok cells) (color : Int)
    (char : Char) : Run.Safe (Spans width) stops (putRow x y count color char) := by
  obtain ⟨cells, hcells⟩ := exists_roomOf_of_le (charBytes_le char) h
  intro c hc
  unfold Run.SafeAt putRow
  rw [hcells]
  exact hc.putChars

/-- The filled part of a bar of twenty cells is one of its parts. -/
theorem filledCells_display (fill : Int) :
    ∃ filled, filledCells 20 fill = .ok filled ∧ 0 ≤ filled ∧ filled ≤ 20 := by
  have hall : ∀ k : Fin 256, ∃ share, Binary64.ofRatio? (20 * (k : Nat)) 255 = some share ∧
      0 ≤ share.nearest ∧ share.nearest ≤ 20 := by
    have hsome : ∀ k : Fin 256, ((Binary64.ofRatio? (20 * (k : Nat)) 255).any fun share =>
        decide (0 ≤ share.nearest ∧ share.nearest ≤ 20)) = true := by decide +kernel
    intro k
    obtain ⟨share, hshare, hwithin⟩ := (Option.any_eq_true _ _).1 (hsome k)
    exact ⟨share, hshare, of_decide_eq_true hwithin⟩
  obtain ⟨k, hk⟩ := Int.eq_ofNat_of_zero_le (Int.le_max_left 0 (min fill 255))
  obtain ⟨share, hshare, hwithin⟩ := hall ⟨k, by omega⟩
  refine ⟨share.nearest, ?_, hwithin⟩
  unfold filledCells
  rw [hk, hshare]

theorem bar_safe (fill color emptyColor : Int) :
    Run.Safe (Spans width) stops (bar x y 20 fill color emptyColor) := by
  obtain ⟨filled, hfilled, hleast, hmost⟩ := filledCells_display fill
  have hroom (count : Int) (h : 0 ≤ count ∧ count ≤ 20) : ∃ cells, room count = .ok cells :=
    (exists_room_iff h.1).2 (by omega)
  intro c hc
  refine .number_bind_or (fun found hfound => ?_) fun fault hfault => ?_
  · obtain rfl := Except.ok.inj (hfilled.symm.trans hfound)
    exact Run.Safe.bind (putRow_safe (hroom filled ⟨hleast, hmost⟩) _ _)
      (fun _ => putRow_safe (hroom (20 - filled) (by omega)) _ _) c hc
  · cases hfilled.symm.trans hfault

/-! ### Entities -/

variable {α : Type} [Scalar α] {id : Int} {w : World α}

theorem paintAim_safe (angle : α)
    (color : Int) : Run.Safe (Spans width) (Fault.OfPainting α) (paintAim x y angle color) := by
  intro c hc
  refine .number_bind_or (fun across _ => ?_) fun _ h => .cos h
  refine .number_bind_or (fun ax _ => ?_) fun _ h => .nearest h
  refine .number_bind_or (fun down _ => ?_) fun _ h => .sin h
  refine .number_bind_or (fun ay _ => ?_) fun _ h => .nearest h
  refine .number_bind_or (fun glyph _ => ?_) fun _ h => .aim h
  exact hc.putInArena

theorem paint_safe (position : Vec α)
    (look : Look) : Run.Safe (Spans width) (Fault.OfPainting α) (paint w id position look) := by
  intro c hc
  refine .number_bind_or (fun x _ => ?_) fun _ h => .nearest h
  refine .number_bind_or (fun y _ => ?_) fun _ h => .nearest h
  refine Run.Safe.bind (.modify fun _ hc => hc.putInArena) (fun _ => ?_) c hc
  split
  · split
    · exact paintAim_safe _ _
    · exact .pure _
  · exact .pure _

theorem paintAll_safe (w : World α) :
    Run.Safe (Spans width) (Fault.OfPainting α) (paintAll w) :=
  .forM fun _ _ => paint_safe _ _

end Canvas
end WandArena
