import WandArena.Proofs.Screen.Drawing
import WandArena.Proofs.World.Store

/-! Painting the scene, lower layers first.

A visible entity dabs its glyph onto the cell it is at, and one that aims a wand dabs a marker onto
the cell ahead (`World.Dabs`). Painting is a walk past all dabs from the lowest to the highest
(`paintAll_apply`), so the topmost dab of a cell is what is left there (`Canvas.Painted`); dabs
outside the arena are dropped, also those that would fall on the display below it. -/
namespace WandArena

/-! ### Dabs -/

/-- What an entity paints onto one cell. -/
structure Dab where
  layer : Int
  id : Int
  /-- Whether it marks an aim. -/
  marker : Bool
  x : Int
  y : Int
  cell : Cell
  deriving DecidableEq, Repr

namespace Dab

def At (d : Dab) (x y : Int) : Prop := d.x = x ∧ d.y = y

instance (d : Dab) (x y : Int) : Decidable (d.At x y) := inferInstanceAs (Decidable (_ ∧ _))

/-- Dabs lie by layer and then by entity, the marker of an entity above its own glyph. -/
def Beneath (d e : Dab) : Prop :=
  d.layer < e.layer ∨ d.layer = e.layer ∧
    (d.id < e.id ∨ d.id = e.id ∧ d.marker = false ∧ e.marker = true)

/-- The one dab at a place that lies above all others there. -/
structure Topmost (dabs : Dab → Prop) (x y : Int) (d : Dab) : Prop where
  mem : dabs d
  place : d.At x y
  above : ∀ e, dabs e → e.At x y → e = d ∨ e.Beneath d

end Dab

namespace Canvas

/-- A place that things are drawn at only inside the arena. -/
def InArena (c : Canvas) (x y : Int) : Prop := c.frame.Holds x y ∧ y < c.arenaHeight

instance (c : Canvas) (x y : Int) : Decidable (c.InArena x y) := inferInstanceAs (Decidable (_ ∧ _))

/-- A canvas after dabs were painted onto it, as seen from outside. -/
structure Painted (dabs : Dab → Prop) (c painted : Canvas) : Prop where
  width : painted.frame.width = c.frame.width
  height : painted.frame.height = c.frame.height
  arenaHeight : painted.arenaHeight = c.arenaHeight
  shown : painted.frame.shown? = c.frame.shown?
  /-- In the arena the topmost dab is left, and where there is none, and outside the arena, what was
  there before. -/
  cells : ∀ x y,
    (c.InArena x y ∧ ∃ d, Dab.Topmost dabs x y d ∧ painted.frame.drawn? x y = some d.cell) ∨
    ((c.InArena x y → ∀ d, dabs d → ¬ d.At x y) ∧
      painted.frame.drawn? x y = c.frame.drawn? x y)

def dab (c : Canvas) (d : Dab) : Canvas := c.putInArena d.x d.y d.cell.glyph d.cell.color

section Cells
variable {c painted : Canvas} {d : Dab} {dabs : List Dab} {x y : Int}

theorem dab_eq (c : Canvas) (d : Dab) :
    c.dab d = if c.InArena d.x d.y then { c with frame := c.frame.put d.x d.y d.cell } else c := by
  unfold dab putInArena put
  by_cases hin : c.InArena d.x d.y
  · have hguard : (0 ≤ d.x && d.x < c.width && 0 ≤ d.y && d.y < c.arenaHeight) = true := by
      obtain ⟨⟨⟨hleft, hright⟩, hup, -⟩, hlow⟩ := hin
      simp [hleft, hup, hlow, width, hright]
    rw [if_pos hguard, if_pos hin]
  · rw [if_neg hin]
    split
    case isTrue hguard =>
      simp only [Bool.and_eq_true, decide_eq_true_eq] at hguard
      rw [Frame.put_of_not_holds fun hholds => hin ⟨hholds, hguard.2⟩]
    case isFalse => rfl

/-- A dab takes its place in the arena and no other. -/
theorem drawn?_dab (c : Canvas) (d : Dab) (x y : Int) : (c.dab d).frame.drawn? x y =
    if c.InArena x y ∧ d.At x y then some d.cell else c.frame.drawn? x y := by
  rw [dab_eq]
  by_cases hin : c.InArena d.x d.y
  · rw [if_pos hin, Frame.drawn?_put]
    by_cases hat : d.At x y
    · obtain ⟨rfl, rfl⟩ := hat
      rw [if_pos ⟨rfl, rfl, hin.1⟩, if_pos ⟨hin, rfl, rfl⟩]
    · rw [if_neg fun h => hat ⟨h.1.symm, h.2.1.symm⟩, if_neg fun h => hat h.2]
  · rw [if_neg hin, if_neg]
    rintro ⟨hplace, rfl, rfl⟩
    exact hin hplace

theorem painted_dab (c : Canvas) (d : Dab) : Painted (· = d) c (c.dab d) := by
  refine ⟨?_, ?_, ?_, ?_, fun x y => ?_⟩
  case refine_5 =>
    rw [drawn?_dab]
    by_cases htaken : c.InArena x y ∧ d.At x y
    · rw [if_pos htaken]
      exact .inl ⟨htaken.1, d, ⟨rfl, htaken.2, fun e he _ => .inl he⟩, rfl⟩
    · rw [if_neg htaken]
      refine .inr ⟨fun hin e he hat => htaken ⟨hin, he ▸ hat⟩, rfl⟩
  all_goals
    rw [dab_eq]
    split
    · simp [Frame.size_put, Frame.shown?_put]
    · rfl

theorem painted_none (c : Canvas) {dabs : Dab → Prop} (h : ∀ d, ¬ dabs d) : Painted dabs c c :=
  ⟨rfl, rfl, rfl, rfl, fun _ _ => .inr ⟨fun _ d hd => absurd hd (h d), rfl⟩⟩

theorem Painted.inArena {dabs : Dab → Prop} (h : Painted dabs c painted) :
    painted.InArena x y ↔ c.InArena x y := by
  simp [InArena, Frame.Holds, h.width, h.height, h.arenaHeight]

/-- What is painted later lies on top if it is above all that was painted before. -/
theorem Painted.trans {below above : Dab → Prop} {between : Canvas}
    (h : Painted below c between) (h' : Painted above between painted)
    (hlater : ∀ d e, below d → above e → d.Beneath e) :
    Painted (fun d => below d ∨ above d) c painted := by
  refine ⟨h'.width.trans h.width, h'.height.trans h.height, h'.arenaHeight.trans h.arenaHeight,
    h'.shown.trans h.shown, fun x y => ?_⟩
  rcases h'.cells x y with ⟨hin, d, htop, hcell⟩ | ⟨hnone, hcell⟩
  · refine .inl ⟨h.inArena.1 hin, d, ⟨.inr htop.mem, htop.place, fun e he hat => ?_⟩, hcell⟩
    exact he.elim (fun hbelow => .inr (hlater e d hbelow htop.mem)) fun habove =>
      htop.above e habove hat
  · rcases h.cells x y with ⟨hin, d, htop, hcell'⟩ | ⟨hnone', hcell'⟩
    · refine .inl ⟨hin, d, ⟨.inl htop.mem, htop.place, fun e he hat => ?_⟩, hcell.trans hcell'⟩
      exact he.elim (fun hbelow => htop.above e hbelow hat) fun habove =>
        absurd hat (hnone (h.inArena.2 hin) e habove)
    · refine .inr ⟨fun hin d hd => ?_, hcell.trans hcell'⟩
      exact hd.elim (hnone' hin d) (hnone (h.inArena.2 hin) d)

theorem Painted.congr {dabs dabs' : Dab → Prop} (h : Painted dabs c painted)
    (hsame : ∀ d, dabs d ↔ dabs' d) : Painted dabs' c painted := by
  obtain rfl : dabs = dabs' := funext fun d => propext (hsame d)
  exact h

end Cells
end Canvas

/-! ### Who is painted -/

namespace World
variable {α : Type} {w : World α} {id : Int} {position position' : Vec α} {look look' : Look}

/-- A visible entity that lives, with its place and its look. -/
structure Visible (w : World α) (id : Int) (position : Vec α) (look : Look) : Prop where
  alive : w.isAlive id = true
  lies : w.get? .position id = some position
  looks : w.get? .look id = some look
  shows : look.visible = true

theorem Visible.unique (h : w.Visible id position look) (h' : w.Visible id position' look') :
    position' = position ∧ look' = look :=
  ⟨Option.some.inj (h'.lies.symm.trans h.lies), Option.some.inj (h'.looks.symm.trans h.looks)⟩

/-- An entity is painted before another one. -/
def Lower (a b : Int × Vec α × Look) : Prop :=
  a.2.2.layer < b.2.2.layer ∨ a.2.2.layer = b.2.2.layer ∧ a.1 < b.1

/-- Sorting by layer keeps those of one layer in order. -/
theorem lower_mergeSort {entries : List (Int × Vec α × Look)}
    (h : entries.Pairwise fun a b => a.1 < b.1) :
    (entries.mergeSort fun a b => a.2.2.layer ≤ b.2.2.layer).Pairwise Lower := by
  have htrans (a b c : Int × Vec α × Look) : decide (a.2.2.layer ≤ b.2.2.layer) = true →
      decide (b.2.2.layer ≤ c.2.2.layer) = true → decide (a.2.2.layer ≤ c.2.2.layer) = true := by
    simp only [decide_eq_true_eq]
    exact Int.le_trans
  have htotal (a b : Int × Vec α × Look) : (decide (a.2.2.layer ≤ b.2.2.layer) ||
      decide (b.2.2.layer ≤ a.2.2.layer)) = true := by
    simpa using Int.le_total _ _
  induction entries with
  | nil => simp
  | cons a rest ih =>
    obtain ⟨hlater, hrest⟩ := List.pairwise_cons.1 h
    have hsorted := List.pairwise_mergeSort htrans htotal (a :: rest)
    obtain ⟨before, after, hall, hothers, hbefore⟩ := List.mergeSort_cons htrans htotal a rest
    have hmem (b : Int × Vec α × Look) (hb : b ∈ before ++ after) : a.1 < b.1 := by
      rw [← hothers, List.mem_mergeSort] at hb
      exact hlater b hb
    have hpairs := ih hrest
    rw [hothers] at hpairs
    rw [hall] at hsorted ⊢
    obtain ⟨hbelow, habove, hcross⟩ := List.pairwise_append.1 hpairs
    refine List.pairwise_append.2 ⟨hbelow, List.pairwise_cons.2 ⟨fun b hb => ?_, habove⟩,
      fun b hb c hc => ?_⟩
    · have hlayers := (List.pairwise_cons.1 (List.pairwise_append.1 hsorted).2.1).1 b hb
      have hids := hmem b (List.mem_append_right _ hb)
      rcases Int.lt_or_eq_of_le (of_decide_eq_true hlayers) with hlt | heq
      · exact .inl hlt
      · exact .inr ⟨heq, hids⟩
    · rcases List.mem_cons.1 hc with rfl | hc
      · have hlayers : ¬ c.2.2.layer ≤ b.2.2.layer := by simpa using hbefore b hb
        exact .inl (Int.not_le.1 hlayers)
      · exact hcross b hb c hc

/-- The entry of an entity in the order of painting, if it is painted. -/
theorem entry_eq_some {entry : Int × Vec α × Look} :
    (match w.get? .position id, w.get? .look id with
      | some position, some look => if look.visible then some (id, position, look) else none
      | _, _ => none) = some entry ↔
      id = entry.1 ∧ w.get? .position id = some entry.2.1 ∧ w.get? .look id = some entry.2.2 ∧
        entry.2.2.visible = true := by
  obtain ⟨other, position, look⟩ := entry
  cases w.get? .position id with
  | none => simp
  | some lies =>
    cases w.get? .look id with
    | none => simp
    | some looks =>
      by_cases hshows : looks.visible = true
      · simp only [hshows, if_true, Option.some.injEq, Prod.mk.injEq]
        refine and_congr_right fun _ => and_congr_right fun _ => ⟨?_, And.left⟩
        rintro rfl
        exact ⟨rfl, hshows⟩
      · simp only [hshows, if_false, reduceCtorEq, false_iff, not_and]
        rintro - - ⟨⟩
        exact hshows

/-- The painted entities are the visible ones. -/
theorem mem_paintOrder (hw : w.Sound) {entry : Int × Vec α × Look} :
    entry ∈ w.paintOrder ↔ w.Visible entry.1 entry.2.1 entry.2.2 := by
  rw [paintOrder, List.mem_mergeSort, List.mem_filterMap]
  constructor
  · rintro ⟨id, hid, hentry⟩
    obtain ⟨rfl, hlies, hlooks, hshows⟩ := entry_eq_some.1 hentry
    exact ⟨((mem_query hw (by simp)).1 hid).1, hlies, hlooks, hshows⟩
  · rintro ⟨halive, hlies, hlooks, hshows⟩
    refine ⟨entry.1, (mem_query hw (by simp)).2 ⟨halive, ?_⟩,
      entry_eq_some.2 ⟨rfl, hlies, hlooks, hshows⟩⟩
    simp [has_of_get? hlies, has_of_get? hlooks]

theorem lower_paintOrder (w : World α) : w.paintOrder.Pairwise Lower := by
  refine lower_mergeSort (List.pairwise_filterMap.2 ((ascending_query w _).imp ?_))
  intro a b hlt first hfirst second hsecond
  rw [← (entry_eq_some.1 hfirst).1, ← (entry_eq_some.1 hsecond).1]
  exact hlt

end World

/-! ### What entities paint -/

namespace World
variable {α : Type} [Scalar α]

/-- The cell that a position lies in. -/
def Lies (position : Vec α) (x y : Int) : Prop :=
  Scalar.nearest position.x = .ok x ∧ Scalar.nearest position.y = .ok y

/-- How many cells ahead an angle points, and the glyph that shows it. -/
structure Points (angle : α) (dx dy : Int) (glyph : String) : Prop where
  across : ∃ cos, Scalar.cos angle = .ok cos ∧ Scalar.nearest cos = .ok dx
  down : ∃ sin, Scalar.sin angle = .ok sin ∧ Scalar.nearest sin = .ok dy
  glyph : aimGlyph angle = .ok glyph

/-- Every position can be rounded to a cell, and so can the direction of every angle. -/
structure Finite (w : World α) : Prop where
  positions : ∀ id position, w.get? .position id = some position → ∃ x y, Lies position x y
  angles : ∀ id angle, w.get? .rotation id = some angle → ∃ dx dy glyph, Points angle dx dy glyph

/-- On exact numbers everything can be rounded. -/
theorem finite_exact (circle : Circle) (w : World Rat) :
    letI : Scalar Rat := Exact.scalar circle
    w.Finite := by
  let : Scalar Rat := Exact.scalar circle
  refine ⟨fun id position _ => ⟨_, _, rfl, rfl⟩, fun id angle _ => ?_⟩
  cases hglyph : aimGlyph angle with
  | ok glyph => exact ⟨_, _, glyph, ⟨_, rfl, rfl⟩, ⟨_, rfl, rfl⟩, hglyph⟩
  | error fault => exact absurd (.aim hglyph) (Fault.not_ofPainting_exact circle (.number fault))

/-- The dab that an entity makes where it is. -/
def ownDab (id : Int) (look : Look) (x y : Int) : Dab :=
  ⟨look.layer, id, false, x, y, ⟨look.glyph, look.color⟩⟩

/-- The dab that an entity makes ahead of it, in its own colour. -/
def aimDab (id : Int) (look : Look) (x y : Int) (glyph : String) : Dab :=
  ⟨look.layer, id, true, x, y, ⟨glyph, look.color⟩⟩

/-- What the entities of a world paint. Only who faces somewhere and holds a wand shows an aim. -/
inductive Dabs (w : World α) : Dab → Prop
  | own {id x y : Int} {position : Vec α} {look : Look} (hvisible : w.Visible id position look)
    (hplace : Lies position x y) : Dabs w (ownDab id look x y)
  | aim {id x y dx dy : Int} {position : Vec α} {look : Look} {angle : α} {glyph : String}
    (hvisible : w.Visible id position look) (hplace : Lies position x y)
    (hangle : w.get? .rotation id = some angle) (hholder : w.has .holder id = true)
    (hahead : Points angle dx dy glyph) : Dabs w (aimDab id look (x + dx) (y + dy) glyph)

section Dabs
variable {w : World α} {id x y x' y' : Int} {position position' : Vec α} {look look' : Look}
  {d : Dab}

theorem Lies.unique (h : Lies position x y) (h' : Lies position x' y') : x' = x ∧ y' = y :=
  ⟨Except.ok.inj (h'.1.symm.trans h.1), Except.ok.inj (h'.2.symm.trans h.2)⟩

theorem Points.unique {angle : α} {dx dy dx' dy' : Int} {glyph glyph' : String}
    (h : Points angle dx dy glyph) (h' : Points angle dx' dy' glyph') :
    dx' = dx ∧ dy' = dy ∧ glyph' = glyph := by
  obtain ⟨⟨cos, hcos, hdx⟩, ⟨sin, hsin, hdy⟩, hglyph⟩ := h
  obtain ⟨⟨cos', hcos', hdx'⟩, ⟨sin', hsin', hdy'⟩, hglyph'⟩ := h'
  cases hcos.symm.trans hcos'
  cases hsin.symm.trans hsin'
  exact ⟨Except.ok.inj (hdx'.symm.trans hdx), Except.ok.inj (hdy'.symm.trans hdy),
    Except.ok.inj (hglyph'.symm.trans hglyph)⟩

/-- Somebody visible made every dab, and it lies on their layer. -/
theorem Dabs.visible (h : w.Dabs d) :
    ∃ position look, w.Visible d.id position look ∧ d.layer = look.layer := by
  cases h with
  | own hvisible => exact ⟨_, _, hvisible, rfl⟩
  | aim hvisible => exact ⟨_, _, hvisible, rfl⟩

/-- Without an aim an entity makes one dab. -/
theorem dabs_iff_own (h : w.Visible id position look) (hplace : Lies position x y)
    (hnone : ∀ angle, w.get? .rotation id = some angle → ¬ w.has .holder id = true) :
    w.Dabs d ∧ d.id = id ↔ d = ownDab id look x y := by
  constructor
  · rintro ⟨hd, rfl⟩
    cases hd with
    | own hvisible hplace' =>
      obtain ⟨rfl, rfl⟩ := h.unique hvisible
      obtain ⟨rfl, rfl⟩ := hplace.unique hplace'
      rfl
    | aim _ _ hangle hholder => exact absurd hholder (hnone _ hangle)
  · rintro rfl
    exact ⟨.own h hplace, rfl⟩

/-- With an aim it makes two. -/
theorem dabs_iff_aim (h : w.Visible id position look) (hplace : Lies position x y) {angle : α}
    (hangle : w.get? .rotation id = some angle) (hholder : w.has .holder id = true)
    {dx dy : Int} {glyph : String} (hahead : Points angle dx dy glyph) :
    w.Dabs d ∧ d.id = id ↔
      d = ownDab id look x y ∨ d = aimDab id look (x + dx) (y + dy) glyph := by
  constructor
  · rintro ⟨hd, rfl⟩
    cases hd with
    | own hvisible hplace' =>
      obtain ⟨rfl, rfl⟩ := h.unique hvisible
      obtain ⟨rfl, rfl⟩ := hplace.unique hplace'
      exact .inl rfl
    | aim hvisible hplace' hangle' _ hahead' =>
      obtain ⟨rfl, rfl⟩ := h.unique hvisible
      obtain ⟨rfl, rfl⟩ := hplace.unique hplace'
      cases hangle.symm.trans hangle'
      obtain ⟨rfl, rfl, rfl⟩ := hahead.unique hahead'
      exact .inr rfl
  · rintro (rfl | rfl)
    · exact ⟨.own h hplace, rfl⟩
    · exact ⟨.aim h hplace hangle hholder hahead, rfl⟩

end Dabs

end World

namespace Canvas
variable {α : Type} [Scalar α] {w : World α} {id : Int} {position : Vec α} {look : Look}

/-- The marker goes to the cell ahead. -/
theorem paintAim_apply {x y dx dy : Int} {angle : α} {glyph : String}
    (h : World.Points angle dx dy glyph) (color : Int) (c : Canvas) :
    paintAim x y angle color c = .ok () (c.putInArena (x + dx) (y + dy) glyph color) := by
  obtain ⟨⟨cos, hcos, hdx⟩, ⟨sin, hsin, hdy⟩, hglyph⟩ := h
  unfold paintAim
  rw [hcos, hsin, hglyph]
  show (Run.number (Scalar.nearest cos) >>= fun right => _ : Run Canvas Unit) c = _
  rw [hdx]
  show (Run.number (Scalar.nearest sin) >>= fun down => _ : Run Canvas Unit) c = _
  rw [hdy]
  rfl

/-- One entity paints its own dabs. -/
theorem paint_apply (hfinite : w.Finite) (h : w.Visible id position look) (c : Canvas) :
    ∃ painted, paint w id position look c = .ok () painted ∧
      Painted (fun d => w.Dabs d ∧ d.id = id) c painted := by
  obtain ⟨x, y, hplace⟩ := hfinite.positions id position h.lies
  have hown := painted_dab c (World.ownDab id look x y)
  have hx := hplace.1
  have hy := hplace.2
  unfold paint
  rw [hx, hy]
  cases hangle : w.get? .rotation id with
  | none =>
    refine ⟨c.dab (World.ownDab id look x y), rfl, hown.congr fun d =>
      (World.dabs_iff_own h hplace fun angle hsome => ?_).symm⟩
    cases hangle.symm.trans hsome
  | some angle =>
    show ∃ painted, (if w.has .holder id = true then paintAim x y angle look.color else pure () :
      Run Canvas Unit) (c.dab (World.ownDab id look x y)) = .ok () painted ∧ _
    by_cases hholder : w.has .holder id = true
    · obtain ⟨dx, dy, glyph, hahead⟩ := hfinite.angles id angle hangle
      have haim := painted_dab (c.dab (World.ownDab id look x y))
        (World.aimDab id look (x + dx) (y + dy) glyph)
      rw [if_pos hholder, paintAim_apply hahead]
      refine ⟨_, rfl, (hown.trans haim ?_).congr fun d =>
        (World.dabs_iff_aim h hplace hangle hholder hahead).symm⟩
      rintro _ _ rfl rfl
      exact .inr ⟨rfl, .inr ⟨rfl, rfl, rfl⟩⟩
    · rw [if_neg hholder]
      exact ⟨_, rfl, hown.congr fun d =>
        (World.dabs_iff_own h hplace fun _ _ => hholder).symm⟩

/-- Entities that are painted one after another, the lower ones first. -/
theorem paintEach_apply (hfinite : w.Finite) {entries : List (Int × Vec α × Look)}
    (hvisible : ∀ entry ∈ entries, w.Visible entry.1 entry.2.1 entry.2.2)
    (horder : entries.Pairwise World.Lower) (c : Canvas) :
    ∃ painted, (entries.forM fun (id, position, look) => paint w id position look :
        Run Canvas Unit) c = .ok () painted ∧
      Painted (fun d => w.Dabs d ∧ ∃ entry ∈ entries, d.id = entry.1) c painted := by
  induction entries generalizing c with
  | nil => exact ⟨c, rfl, painted_none c fun d hd => by simpa using hd.2⟩
  | cons entry rest ih =>
    obtain ⟨hlower, hrest⟩ := List.pairwise_cons.1 horder
    have hfirst := hvisible entry List.mem_cons_self
    obtain ⟨between, hpaint, hbetween⟩ := paint_apply hfinite hfirst c
    obtain ⟨painted, hloop, hpainted⟩ :=
      ih (fun other hother => hvisible other (List.mem_cons_of_mem _ hother)) hrest between
    refine ⟨painted, Run.bind_eq_ok.2 ⟨(), between, hpaint, hloop⟩,
      (hbetween.trans hpainted ?_).congr fun d => ?_⟩
    · rintro d e ⟨hd, hid⟩ ⟨he, other, hother, hid'⟩
      -- A dab lies on the layer of who made it, so the entries tell how dabs lie.
      obtain ⟨_, _, hmade, hlayer⟩ := hd.visible
      obtain ⟨_, _, hmade', hlayer'⟩ := he.visible
      rw [hid] at hmade
      rw [hid'] at hmade'
      obtain ⟨-, rfl⟩ := hfirst.unique hmade
      obtain ⟨-, rfl⟩ := (hvisible other (List.mem_cons_of_mem _ hother)).unique hmade'
      unfold Dab.Beneath
      rw [hlayer, hlayer', hid, hid']
      exact (hlower other hother).imp_right fun hsame => ⟨hsame.1, .inl hsame.2⟩
    · simp [← and_or_left]

/-- **The painter's order.** If every position and every direction can be rounded to a cell, the
scene is painted, onto a canvas of any size and with anything on it before. In every cell of the
arena the topmost dab of the entities is left, by layer, by entity and an aim above its own entity;
a cell without any, and every cell outside the arena, is as it was. -/
theorem paintAll_exact (hw : w.Sound) (hfinite : w.Finite) (c : Canvas) :
    ∃ painted, paintAll w c = .ok () painted ∧ Painted w.Dabs c painted := by
  obtain ⟨painted, hloop, hpainted⟩ := paintEach_apply hfinite
    (fun entry hentry => (World.mem_paintOrder hw).1 hentry) (World.lower_paintOrder w) c
  refine ⟨painted, hloop, hpainted.congr fun d => ⟨And.left, fun hd => ⟨hd, ?_⟩⟩⟩
  obtain ⟨position, look, hvisible, -⟩ := hd.visible
  exact ⟨(d.id, position, look), (World.mem_paintOrder hw).2 hvisible, rfl⟩

/-! An entity aims at its neighbour, which was created later and so covers the marker. -/

section Neighbours

/-- Numbers whose angles all point right. -/
def rightward : Circle := ⟨5, fun _ => 0, fun _ => 1, fun _ _ => 0, by decide⟩

local instance facing : Scalar Rat := Exact.scalar rightward

def neighbours : World Rat :=
  let (_, first) := (World.empty : World Rat).create [⟨.position, ⟨0, 0⟩⟩,
    ⟨.look, { glyph := "T" }⟩, ⟨.rotation, 0⟩, ⟨.holder, ⟨"spark", ⟨.empty 1, 9, 0⟩⟩⟩]
  (first.create [⟨.position, ⟨1, 0⟩⟩, ⟨.look, { glyph := "o" }⟩]).2

theorem paintAll_exact_neighbours :
    let c := Canvas.blank 2 1
    neighbours.Sound ∧ neighbours.Finite ∧ neighbours.Dabs ⟨0, 0, true, 1, 0, ⟨"-", 7⟩⟩ ∧
      ∃ painted, paintAll neighbours c = .ok () painted ∧
        painted.frame.drawn? 1 0 = some ⟨"o", 7⟩ ∧ painted.frame.drawn? 1 1 = some .blank := by
  intro c
  have hsound : neighbours.Sound := (World.sound_empty.create _).create _
  have hfinite := World.finite_exact rightward neighbours
  obtain ⟨painted, hrun, hpainted⟩ := paintAll_exact hsound hfinite c
  have hfirst : neighbours.Visible 0 ⟨0, 0⟩ { glyph := "T" } :=
    ⟨by decide +kernel, rfl, rfl, rfl⟩
  have hsecond : neighbours.Visible 1 ⟨1, 0⟩ { glyph := "o" } :=
    ⟨by decide +kernel, rfl, rfl, rfl⟩
  have hstart : World.Lies (⟨0, 0⟩ : Vec Rat) 0 0 := ⟨by decide +kernel, by decide +kernel⟩
  have hangle : neighbours.get? .rotation 0 = some 0 := rfl
  have hahead : World.Points (0 : Rat) 1 0 "-" :=
    ⟨⟨1, rfl, by decide +kernel⟩, ⟨0, rfl, by decide +kernel⟩, by decide +kernel⟩
  have hmarker := World.Dabs.aim hfirst hstart hangle (by decide +kernel) hahead
  have hplace : World.Lies (⟨1, 0⟩ : Vec Rat) 1 0 := ⟨by decide +kernel, by decide +kernel⟩
  have hcover := World.Dabs.own hsecond hplace
  refine ⟨hsound, hfinite, hmarker, painted, hrun, ?_, ?_⟩
  · rcases hpainted.cells 1 0 with ⟨-, d, htop, hcell⟩ | ⟨hnone, -⟩
    · rw [hcell]
      obtain ⟨position, look, hvisible, hlayer⟩ := htop.mem.visible
      have hliving : neighbours.living = [0, 1] := by decide +kernel
      have hid : d.id = 0 ∨ d.id = 1 := by
        simpa [hliving] using World.mem_living.2 hvisible.alive
      rcases hid with hid | hid
      · rw [hid] at hvisible
        obtain ⟨-, rfl⟩ := hfirst.unique hvisible
        rcases htop.above _ hcover ⟨rfl, rfl⟩ with rfl | hbeneath
        · rfl
        · simp [Dab.Beneath, World.ownDab, hid, hlayer] at hbeneath
      · have hown := (World.dabs_iff_own hsecond hplace fun angle hangle => ?_).1 ⟨htop.mem, hid⟩
        · rw [hown]
          rfl
        · cases (rfl : neighbours.get? .rotation 1 = none).symm.trans hangle
    · exact absurd ⟨rfl, rfl⟩ (hnone (by decide) _ hcover)
  · rcases hpainted.cells 1 1 with ⟨hin, -⟩ | ⟨-, hcell⟩
    · exact absurd hin (by decide)
    · exact hcell

end Neighbours

end Canvas
end WandArena
