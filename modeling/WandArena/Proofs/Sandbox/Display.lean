import WandArena.Proofs.Sandbox.Turrets
import WandArena.Proofs.Screen.Drawing
import WandArena.Sandbox.Session

/-! What a sandbox shows is always there.

The display looks up the selected turret, its wand and the cards of its deck without asking whether
they are there. In a sandbox in service they are, so drawing a frame stops for nothing but rounding
and aiming (`render_safe`). A sandbox that was started on a screen that is large enough stays in
service, whatever keys are pressed and however many ticks and frames pass (`Reached.intact`). -/
namespace WandArena.Sandbox
variable {α : Type} [Scalar α] {wandIds : List String} {width : Int} {b : Sandbox α}

/-! ### Parts of the display -/

section Parts
variable {stops : Fault → Prop}

omit [Scalar α] in
/-- The symbols of cards that are defined can be drawn. -/
theorem drawDeck_safe {cards : Registry (Card α)} {refs : List CardRef}
    (hdefined : ∀ ref ∈ refs, cards.contains ref.id = true) (y x : Int) :
    Run.Safe (Canvas.Spans width) stops (drawDeck cards y x refs) := by
  induction refs generalizing x with
  | nil => exact .pure _
  | cons ref rest ih =>
    obtain ⟨hfirst, hrest⟩ := List.forall_mem_cons.1 hdefined
    obtain ⟨card, hcard⟩ := Option.isSome_iff_exists.1 hfirst
    intro c hc
    refine .found_bind (fun found _ => .get_bind ?_) fun hnone => ?_
    · dsimp only
      split
      · exact hc
      · exact Run.Safe.bind (.modify fun _ hc => hc.putText) (fun _ => ih hrest _) c hc
    · cases hnone.symm.trans hcard

theorem drawWand_safe {turret : Int} {wand : Wand α} {state : WandState α}
    (hdefined : ∀ ref ∈ state.piles.deck.toList,
      b.sim.catalog.cards.contains ref.id = true) :
    Run.Safe (Canvas.Spans width) stops (drawWand b turret wand state) := by
  refine .bind (.modify fun _ hc => hc.putText) fun _ => .bind (Canvas.bar_safe _ _ _) fun _ => ?_
  refine .bind (.modify fun _ hc => hc.putText.putText) fun _ => ?_
  exact .bind (drawDeck_safe hdefined _ _) fun _ => .modify fun _ hc => hc.putText

theorem drawDisplay_safe (h : b.InService wandIds width)
    (hroom : ∃ columns, room width = .ok columns) {turret : Int} {wandId : String}
    (hknown : (Catalog.standardWands : Registry (Wand α)).contains wandId = true) :
    Run.Safe (Canvas.Spans width) stops (drawDisplay b turret wandId) := by
  obtain ⟨wand, hwand⟩ := Option.isSome_iff_exists.1 hknown
  have hdefined : b.sim.catalog.wands.get? wandId = some wand := by
    rw [h.staffed.catalog]
    exact hwand
  have hrow : Run.Safe (Canvas.Spans width) stops
      (Canvas.putRow 0 b.canvas.arenaHeight b.canvas.width Palette.darkGray '=') := by
    rw [h.spans]
    exact Canvas.putRow_safe hroom _ _
  refine .bind hrow fun _ => .bind (.modify fun _ hc => hc.putText.putText) fun _ c hc => ?_
  refine .found_bind (fun found _ => ?_) fun hnone => ?_
  · refine Run.Safe.bind (.modify fun _ hc => hc.putText) (fun _ => ?_) c hc
    split
    · exact .modify fun _ hc => hc.putText
    case h_2 held hget =>
      exact drawWand_safe fun ref href => h.staffed.deck_known hget href
  · cases hnone.symm.trans hdefined

end Parts

/-! ### Frames -/

/-- In service, the selected turret is one of the turrets and its wand is one of the wands. -/
theorem InService.inspected (h : b.InService wandIds width) :
    ∃ turret ∈ b.turrets, ∃ wandId ∈ wandIds, b.inspected? = some (turret, wandId) := by
  have hselected := h.selected
  have hchosen := h.chosen
  have hturret : b.selected.toNat < b.turrets.length := by
    rw [h.full]
    omega
  have hwand : b.selected.toNat < wandIds.length := by omega
  refine ⟨_, List.getElem_mem hturret, _, List.getElem_mem hwand, ?_⟩
  unfold inspected?
  rw [if_neg (by omega), List.getElem?_eq_getElem hturret, h.wands,
    List.getElem?_eq_getElem hwand]
  rfl

section Service
variable (hknown : ∀ id ∈ wandIds, (Catalog.standardWands : Registry (Wand α)).contains id = true)
  (hroom : ∃ columns, room width = .ok columns)
include hknown hroom

theorem drawFrame_safe (h : b.InService wandIds width) :
    Run.Safe (Canvas.Spans width) (Fault.OfPainting α) (drawFrame b) := by
  obtain ⟨turret, -, wandId, hwandId, hinspected⟩ := h.inspected
  have hclear {c : Canvas} (hc : c.Spans width) : c.clear.Spans width := hc
  refine .bind (.modify fun _ hc => (hclear hc).box) fun _ => ?_
  refine .bind (Canvas.paintAll_safe _) fun _ c hc => ?_
  refine .found_bind (fun found hfound => ?_) fun hnone => ?_
  · obtain rfl := Option.some.inj (hfound.symm.trans hinspected)
    have hdisplay : Run.Safe (Canvas.Spans width) (Fault.OfPainting α)
        (drawDisplay b turret wandId) := drawDisplay_safe h hroom (hknown wandId hwandId)
    dsimp only
    split
    · refine .number_bind_or (fun x _ => ?_) fun _ hfault => .nearest hfault
      refine .number_bind_or (fun y _ => ?_) fun _ hfault => .nearest hfault
      exact Run.Safe.bind (.modify fun _ hc => hc.put) (fun _ => hdisplay) c hc
    · exact hdisplay c hc
  · cases hnone.symm.trans hinspected

/-- A frame of a sandbox in service stops for nothing but rounding and aiming. -/
theorem render_safe : Run.Safe (InService wandIds width) (Fault.OfPainting α)
    (render : Run (Sandbox α) (List Change)) := by
  refine .get_bind fun b h => ?_
  have hdrawn : Run.SafeAt (InService wandIds width) (Fault.OfPainting α) b
      (Run.within (·.canvas) (fun canvas b => { b with canvas }) (drawFrame b)) :=
    .within (drawFrame_safe hknown hroom h b.canvas h.spans) fun canvas hspans =>
      { h with spans := hspans }
  exact hdrawn.bind fun _ => .modifyGet fun c hc => { hc with }

end Service

/-- Drawing changes nothing but the canvas. -/
theorem render_keeps :
    Run.Keeps (.same fun (b : Sandbox α) (canvas : Canvas) => { b with canvas }) render := by
  refine .get_bind fun b => ?_
  have hdraw : Run.Keeps (.same fun (b : Sandbox α) (canvas : Canvas) => { b with canvas })
      (Run.within (·.canvas) (fun canvas b => { b with canvas }) (drawFrame b)) :=
    Run.Keeps.within (P := .any) (fun _ => trivial) fun _ _ _ => rfl
  refine Run.Keeps.bind hdraw (fun _ => ?_) b
  exact .modifyGet fun _ => rfl

/-- On exact numbers every frame of a sandbox in service is drawn. -/
theorem render_exact (circle : Circle) :
    letI : Scalar Rat := Exact.scalar circle
    ∀ {wandIds : List String} {width : Int} {b : Sandbox Rat},
      (∀ id ∈ wandIds, (Catalog.standardWands : Registry (Wand Rat)).contains id = true) →
      (∃ columns, room width = .ok columns) → b.InService wandIds width →
        ∃ changes b', render b = .ok changes b' ∧ b'.InService wandIds width := by
  let : Scalar Rat := Exact.scalar circle
  intro wandIds width b hknown hroom hb
  have hsafe := render_safe hknown hroom b hb
  cases hend : render b with
  | ok changes b' => exact ⟨changes, b', rfl, hsafe.of_ok hend⟩
  | error fault b' =>
    exact absurd (hsafe.of_error hend) (Fault.not_ofPainting_exact circle fault)

/-! ### All that can be reached -/

/-- The canvas for a screen that is high enough is as wide as the screen, and there is room for its
rows. -/
theorem room_of_canvasFor {height : Int} {canvas : Canvas} (hheight : 0 < height)
    (h : canvasFor width height = .ok canvas) :
    canvas.width = width ∧ ∃ columns, room width = .ok columns := by
  unfold canvasFor Canvas.ofSize at h
  rw [Int.sub_add_cancel, if_pos hheight] at h
  cases hroom : room width with
  | error fault =>
    rw [hroom] at h
    cases h
  | ok columns =>
    rw [hroom] at h
    cases h
    exact ⟨rfl, columns, rfl⟩

/-- A sandbox that was started on a screen that is large enough, after any number of keys, ticks
and frames that ended well. -/
inductive Reached (wandIds : List String) : Sandbox α → Prop
  | started {width height spareSeed : Int} {canvas : Canvas} {seed : Option Int} {debugCasts : Bool}
    {b : Sandbox α} (hwidth : Session.minWidth ≤ width) (hheight : Session.minHeight ≤ height)
    (hcanvas : canvasFor width height = .ok canvas)
    (hstart : start canvas wandIds seed spareSeed debugCasts = .ok b) : Reached wandIds b
  | pressed {b b' : Sandbox α} {keys : List Key} (hbefore : Reached wandIds b)
    (hpress : pressAll keys b = .ok () b') : Reached wandIds b'
  | updated {b b' : Sandbox α} (hbefore : Reached wandIds b) (hupdate : update b = .ok () b') :
    Reached wandIds b'
  | rendered {b b' : Sandbox α} {changes : List Change} (hbefore : Reached wandIds b)
    (hrender : render b = .ok changes b') : Reached wandIds b'
  /-- The frame rate is measured anew. -/
  | measured {b : Sandbox α} (hbefore : Reached wandIds b) (rate : α) :
    Reached wandIds { b with rate }

section Reaching
variable (hsome : wandIds ≠ [])
  (hknown : ∀ id ∈ wandIds, (Catalog.standardWands : Registry (Wand α)).contains id = true)
include hsome hknown

theorem Reached.inService (h : Reached wandIds b) :
    ∃ width, (∃ columns, room width = .ok columns) ∧ b.InService wandIds width := by
  induction h with
  | started _ hheight hcanvas hstart =>
    obtain ⟨rfl, hroom⟩ := room_of_canvasFor (Int.lt_of_lt_of_le (by decide) hheight) hcanvas
    exact ⟨_, hroom, start_inService hsome hknown hstart⟩
  | pressed _ hpress ih =>
    obtain ⟨width, hroom, hb⟩ := ih
    exact ⟨width, hroom, (pressAll_safe hsome hknown _ _ hb).of_ok hpress⟩
  | updated _ hupdate ih =>
    obtain ⟨width, hroom, hb⟩ := ih
    exact ⟨width, hroom, (update_safe hsome _ hb).of_ok hupdate⟩
  | rendered _ hrender ih =>
    obtain ⟨width, hroom, hb⟩ := ih
    exact ⟨width, hroom, (render_safe hknown hroom _ hb).of_ok hrender⟩
  | measured _ rate ih =>
    obtain ⟨width, hroom, hb⟩ := ih
    exact ⟨width, hroom, { hb with }⟩

/-- **A sandbox stays whole.** Whatever keys were pressed and however many ticks and frames have
passed, there is a turret for each wand and one of them is selected, every turret is alive and in
its place, casts are followed as the sandbox shows, and every card that comes up is one of the
catalog. So whatever is looked up for a frame is there, and nothing but rounding and aiming can stop
it; keys and ticks are stopped by nothing but arithmetic. -/
theorem Reached.intact (h : Reached wandIds b) :
    (b.wandIds = wandIds ∧ b.turrets.length = wandIds.length) ∧
      (0 ≤ b.selected ∧ b.selected < b.turrets.length) ∧
      (∀ turret ∈ b.turrets, b.sim.world.isAlive turret = true ∧
        b.sim.world.has .position turret = true) ∧
      b.debugCasts = b.sim.traced ∧
      (∀ turret ∈ b.turrets, ∀ held, b.sim.world.get? .holder turret = some held →
        ∀ ref ∈ held.state.piles.deck.toList, b.sim.catalog.cards.contains ref.id = true) ∧
      (∀ fault b', render b = .error fault b' → Fault.OfPainting α fault) ∧
      (∀ keys fault b', pressAll keys b = .error fault b' → Fault.Numeric fault) ∧
      ∀ fault b', update b = .error fault b' → Fault.Numeric fault := by
  obtain ⟨width, hroom, hb⟩ := h.inService hsome hknown
  refine ⟨⟨hb.wands, hb.full⟩, ⟨hb.selected, hb.full ▸ hb.chosen⟩, fun turret hturret => ?_,
    hb.notes, fun turret _ held hget ref href => hb.staffed.deck_known hget href,
    fun _ _ => (render_safe hknown hroom b hb).of_error,
    fun keys _ _ => (pressAll_safe hsome hknown keys b hb).of_error,
    fun _ _ => (update_safe hsome b hb).of_error⟩
  have hfixture := hb.staffed.fixtures turret hturret
  exact ⟨hfixture.alive, hfixture.placed⟩

end Reaching

/-! Two starter wands on the smallest screen: the second turret is selected, the notes on casts are
turned on, and a tick passes. -/

section Pair

/-- A circle with four corners. -/
def corners : Circle := ⟨4, fun _ => 0, fun _ => 1, fun _ _ => 0, four_pos⟩

local instance roomy : Scalar Rat := Exact.scalar corners

def vacant : Sandbox Rat := blank (.blank 60 12) ["starter", "starter"] (some 7) 0 false

/-- The sandbox once its turrets are built. -/
def opened : Sandbox Rat := Run.left (restart vacant)

/-- The sandbox after two keys. -/
def picked : Sandbox Rat := Run.left (pressAll [.text "2", .text "d"] opened)

theorem start_pair : start (.blank 60 12) ["starter", "starter"] (some 7) 0 false = .ok opened := by
  have hrestart : restart vacant = .ok () opened := Run.eq_ok_of_value? (by decide +kernel)
  unfold start
  rw [show restart (blank (.blank 60 12) ["starter", "starter"] (some 7) 0 false) =
    .ok () opened from hrestart]

theorem known_pair : ∀ id ∈ ["starter", "starter"],
    (Catalog.standardWands : Registry (Wand Rat)).contains id = true := by
  decide +kernel

theorem opened_inService : opened.InService ["starter", "starter"] 60 :=
  start_inService (List.cons_ne_nil _ _) known_pair start_pair

theorem intact_pair :
    ∃ b : Sandbox Rat, Reached ["starter", "starter"] b ∧ b.selected = 1 ∧ b.debugCasts = true ∧
      b.sim.tick = 1 ∧ b.turrets.length = 2 ∧
      (∀ turret ∈ b.turrets, b.sim.world.isAlive turret = true ∧
        b.sim.world.has .position turret = true) ∧
      b.sim.traced = true ∧
      ∀ fault b', render b = .error fault b' → Fault.OfPainting Rat fault := by
  have hcanvas : canvasFor 60 16 = .ok (.blank 60 12) := rfl
  have hpress : pressAll [.text "2", .text "d"] opened = .ok () picked :=
    Run.eq_ok_of_value? (by decide +kernel)
  have hupdate : update picked = .ok () (Run.left (update picked)) :=
    Run.eq_ok_of_value? (by decide +kernel)
  have hreached : Reached ["starter", "starter"] (Run.left (update picked)) :=
    ((Reached.started (show (60 : Int) ≤ 60 by decide) (show (16 : Int) ≤ 16 by decide) hcanvas
      start_pair).pressed hpress).updated hupdate
  have hshown : (Run.left (update picked)).selected = 1 ∧
      (Run.left (update picked)).debugCasts = true ∧
      (Run.left (update picked)).sim.tick = 1 := by
    decide +kernel
  obtain ⟨hselected, hnotes, htick⟩ := hshown
  obtain ⟨⟨-, hlength⟩, -, hstand, hagree, -, hframe, -⟩ :=
    hreached.intact (List.cons_ne_nil _ _) known_pair
  exact ⟨_, hreached, hselected, hnotes, htick, hlength, hstand, hagree.symm.trans hnotes, hframe⟩

end Pair

end WandArena.Sandbox
