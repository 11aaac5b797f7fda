import Mathlib.Algebra.Order.Ring.Rat
import Mathlib.Tactic.Linarith
import WandArena.Number.Exact
import WandArena.Proofs.World.Store

/-! Bouncing off the walls, over exact numbers.

A projectile outside the arena with a bounce left is put back onto every wall it passed, with that
component of its velocity turned around (`Body.rebound`); one that has none left stays as it is and
is returned. Since nobody's turn touches anybody else, a walk past all projectiles does this to each
of them as it was at the start (`Midway`), and a second walk finds nothing left to do
(`bounce_exact`). -/
namespace WandArena

/-- A loop that keeps to an invariant, which knows who has had a turn, filters as it is told. -/
theorem Run.filterM_apply {σ δ : Type} {f : δ → Run σ Bool} {keep : δ → Bool}
    (inv : List δ → σ → Prop) {ds : List δ} {s : σ} (hs : inv [] s)
    (hturn : ∀ done d rest s, ds = done ++ d :: rest → inv done s →
      ∃ t, f d s = .ok (keep d) t ∧ inv (done ++ [d]) t) :
    ∃ t, ds.filterM f s = .ok (ds.filter keep) t ∧ inv ds t := by
  have hloop (rest done : List δ) (s : σ) (hds : ds = done ++ rest) (hs : inv done s) :
      ∃ t, rest.filterAuxM f (done.filter keep).reverse s = .ok (ds.filter keep).reverse t ∧
        inv ds t := by
    induction rest generalizing done s with
    | nil =>
      rw [List.append_nil] at hds
      subst hds
      exact ⟨s, rfl, hs⟩
    | cons d rest ih =>
      obtain ⟨t, hd, ht⟩ := hturn done d rest s hds hs
      obtain ⟨u, hrest, hu⟩ := ih (done ++ [d]) t (by simpa using hds) ht
      refine ⟨u, ?_, hu⟩
      show (f d >>= fun kept => rest.filterAuxM f _) s = _
      rw [bind_apply_of_ok hd, ← hrest, List.filter_append, List.reverse_append]
      cases hkeep : keep d <;> simp [hkeep]
  obtain ⟨t, hall, ht⟩ := hloop ds [] s rfl hs
  refine ⟨t, bind_eq_ok.2 ⟨_, t, hall, ?_⟩, ht⟩
  rw [List.reverse_reverse, pure_apply]

namespace World

/-! ### Bodies -/

/-- A coordinate lies between the walls of an axis. -/
def Within (size : Int) (x : Rat) : Prop := 0 ≤ x ∧ x ≤ size - 1

instance (size : Int) (x : Rat) : Decidable (Within size x) :=
  inferInstanceAs (Decidable (_ ∧ _))

/-- The coordinate of the wall that was passed, or the coordinate itself. -/
def ontoWall (size : Int) (x : Rat) : Rat :=
  if x < 0 then 0 else if size - 1 < x then size - 1 else x

/-- A component of a velocity, turned around if the coordinate lies outside. -/
def turnedBack (size : Int) (x v : Rat) : Rat := if Within size x then v else -v

/-- A component of a velocity leads back from the wall that was passed. -/
def LeadsBack (size : Int) (x v : Rat) : Prop := (x < 0 → 0 < v) ∧ (size - 1 < x → v < 0)

/-- What a projectile has that bouncing reads or changes. -/
structure Body where
  position : Vec Rat
  velocity : Vec Rat
  projectile : Projectile Rat
  facing : Option Rat

namespace Body
variable (circle : Circle) (width height : Int) (b : Body)

/-- The kinds of components that make up a body. -/
def kinds : List ComponentKind := [.position, .velocity, .projectile, .rotation]

def Inside : Prop := Within width b.position.x ∧ Within height b.position.y

instance : Decidable (b.Inside width height) := inferInstanceAs (Decidable (_ ∧ _))

/-- Outside with no bounce left. -/
def Lost : Prop := ¬ b.Inside width height ∧ b.projectile.bounces ≤ 0

instance : Decidable (b.Lost width height) := inferInstanceAs (Decidable (_ ∧ _))

/-- Back on the walls that were passed, for one bounce, and facing the new way. -/
def rebound : Body :=
  let velocity : Vec Rat := ⟨turnedBack width b.position.x b.velocity.x,
    turnedBack height b.position.y b.velocity.y⟩
  { position := ⟨ontoWall width b.position.x, ontoWall height b.position.y⟩
    velocity
    projectile := { b.projectile with bounces := b.projectile.bounces - 1 }
    facing := b.facing.map fun _ => circle.atan2 velocity.y velocity.x }

/-- Outside with a bounce left. -/
def Rebounds : Prop := ¬ b.Inside width height ∧ 0 < b.projectile.bounces

instance : Decidable (b.Rebounds width height) := inferInstanceAs (Decidable (_ ∧ _))

/-- The body after it had its turn. -/
def bounced : Body := if b.Rebounds width height then b.rebound circle width height else b

/-- The body some time later. -/
def moved (dt : Rat) : Body :=
  { b with position := ⟨b.position.x + b.velocity.x * dt, b.position.y + b.velocity.y * dt⟩ }

end Body

/-- The body of an entity, if it has one. -/
def body? (w : World Rat) (id : Int) : Option Body :=
  match w.get? .position id, w.get? .velocity id, w.get? .projectile id with
  | some position, some velocity, some projectile =>
    some ⟨position, velocity, projectile, w.get? .rotation id⟩
  | _, _, _ => none

/-! ### Walls -/

section Walls
variable {size : Int} {x v : Rat}

theorem within_ontoWall (hsize : 1 ≤ size) (x : Rat) : Within size (ontoWall size x) := by
  have hfar : (1 : Rat) ≤ size := by exact_mod_cast hsize
  unfold Within ontoWall
  grind

theorem ontoWall_of_within (h : Within size x) : ontoWall size x = x := by
  unfold Within at h
  unfold ontoWall
  grind

theorem clampInside_exact (circle : Circle) (hsize : 1 ≤ size) (x : Rat) :
    letI : Scalar Rat := Exact.scalar circle
    clampInside size x = .ok (ontoWall size x) := by
  let : Scalar Rat := Exact.scalar circle
  have hfar : (1 : Rat) ≤ size := by exact_mod_cast hsize
  have hzero : (Quantity.zero : Rat) = 0 := show (0.0 : Rat) = 0 by decide +kernel
  have hone : (Quantity.one : Rat) = 1 := show (1.0 : Rat) = 1 by decide +kernel
  show Except.ok
    (Quantity.least (Quantity.greatest x Quantity.zero) ((size : Rat) - Quantity.one)) = _
  unfold Quantity.least Quantity.greatest ontoWall
  rw [hzero, hone]
  congr 1
  grind

theorem outside_exact (circle : Circle) (size : Int) (x : Rat) :
    letI : Scalar Rat := Exact.scalar circle
    outside size x = !decide (Within size x) := by
  let : Scalar Rat := Exact.scalar circle
  have hzero : (Quantity.zero : Rat) = 0 := show (0.0 : Rat) = 0 by decide +kernel
  have hfar : ((size - 1 : Int) : Rat) = size - 1 := by push_cast; rfl
  show (decide (x < Quantity.zero) || decide (((size - 1 : Int) : Rat) < x)) = _
  unfold Within
  rw [hzero, hfar]
  grind

/-- Whoever passed a wall from inside leads back once turned around. -/
theorem leadsBack_turnedBack {dt : Rat} (hdt : 0 < dt) (hx : Within size x) (v : Rat) :
    LeadsBack size (x + v * dt) (turnedBack size (x + v * dt) v) := by
  have hsign {v : Rat} (h : v * dt < 0) : v < 0 := by
    by_contra hnot
    exact absurd (mul_nonneg (not_lt.1 hnot) hdt.le) (not_le.2 h)
  obtain ⟨hlow, hhigh⟩ := hx
  unfold turnedBack
  refine ⟨fun hout => ?_, fun hout => ?_⟩
  · have hv : v < 0 := hsign (by linarith)
    rw [if_neg fun hin => absurd hin.1 (not_le.2 hout)]
    linarith
  · have hv : -v < 0 := hsign (by linarith)
    rwa [if_neg fun hin => absurd hin.2 (not_le.2 hout)]

theorem leadsBack_of_within (h : Within size x) : LeadsBack size x v :=
  ⟨fun hout => absurd h.1 (not_le.2 hout), fun hout => absurd h.2 (not_le.2 hout)⟩

end Walls

/-! ### One turn -/

section Turn
variable {w v : World Rat} {id : Int} {b : Body}

theorem body?_eq_some : w.body? id = some b ↔
    w.get? .position id = some b.position ∧ w.get? .velocity id = some b.velocity ∧
      w.get? .projectile id = some b.projectile ∧ w.get? .rotation id = b.facing := by
  unfold body?
  obtain ⟨position, velocity, projectile, facing⟩ := b
  split
  case h_1 hposition hvelocity hprojectile => simp [hposition, hvelocity, hprojectile]
  case h_2 hmissing =>
    constructor
    · nofun
    · rintro ⟨hposition, hvelocity, hprojectile, -⟩
      exact absurd hprojectile (hmissing _ _ _ hposition hvelocity)

theorem body?_congr {other : Int} (h : ∀ k ∈ Body.kinds, v.get? k id = w.get? k other) :
    v.body? id = w.body? other := by
  simp only [Body.kinds, List.forall_mem_cons, List.not_mem_nil, false_imp_iff, implies_true,
    and_true] at h
  unfold body?
  rw [h.1, h.2.1, h.2.2.1, h.2.2.2]

/-- Nothing changes but the body of one entity. -/
def OnlyBody (id : Int) (w v : World Rat) : Prop :=
  ∀ k other, other ≠ id ∨ k ∉ Body.kinds → v.get? k other = w.get? k other

theorem OnlyBody.put (w : World Rat) {k : ComponentKind} (hk : k ∈ Body.kinds) (id : Int)
    (value : k.Value Rat) : OnlyBody id w (w.put k id value) := by
  intro j other h
  by_cases hkind : j = k
  · subst hkind
    rw [get?_put, if_neg (h.resolve_right (not_not_intro hk))]
  · rw [get?_put_of_ne w hkind]

theorem OnlyBody.trans {u v w : World Rat} (h : OnlyBody id u v) (h' : OnlyBody id v w) :
    OnlyBody id u w :=
  fun k other hother => (h' k other hother).trans (h k other hother)

variable (circle : Circle) {width height : Int}

/-- At a wall of one axis the entity is put onto the wall and turned around. -/
theorem reflect_apply (axis : Axis) {size : Int} (hsize : 1 ≤ size)
    (hbody : w.body? id = some b) :
    letI : Scalar Rat := Exact.scalar circle
    ∃ v, reflect axis size id w = .ok () v ∧ OnlyBody id w v ∧ v.body? id = some { b with
      position := b.position.setOn (ontoWall size (b.position.on axis)) axis
      velocity := b.velocity.setOn (-b.velocity.on axis) axis } := by
  let : Scalar Rat := Exact.scalar circle
  obtain ⟨hposition, hvelocity, hprojectile, hfacing⟩ := body?_eq_some.1 hbody
  let turned := w.put .velocity id (b.velocity.setOn (-b.velocity.on axis) axis)
  have hturned :
      w.change .velocity id (fun (v : Vec Rat) => v.setOn (-v.on axis) axis) = turned := by
    rw [change, hvelocity]
  have hplace : turned.get? .position id = some b.position := by
    rw [get?_put_of_ne w (by decide), hposition]
  refine ⟨turned.put .position id (b.position.setOn (ontoWall size (b.position.on axis)) axis),
    Run.bind_eq_ok.2 ⟨(), turned, ?_, Run.bind_eq_ok.2 ⟨turned, turned, rfl, ?_⟩⟩,
    (OnlyBody.put w (by decide) id _).trans (OnlyBody.put turned (by decide) id _),
    body?_eq_some.2 ⟨?_, ?_, ?_, ?_⟩⟩
  · rw [Run.modify_apply, hturned]
  · rw [hplace]
    have hclamp := clampInside_exact circle hsize (b.position.on axis)
    refine Run.bind_eq_ok.2 ⟨_, turned, Run.number_eq_ok.2 ⟨hclamp, rfl⟩, ?_⟩
    rw [Run.modify_apply]
  · rw [get?_put, if_pos rfl]
  · rw [get?_put_of_ne _ (by decide), get?_put, if_pos rfl]
  · rw [get?_put_of_ne _ (by decide), get?_put_of_ne _ (by decide), hprojectile]
  · rw [get?_put_of_ne _ (by decide), get?_put_of_ne _ (by decide), hfacing]

/-- Inside, the entity is left alone, which puts it where it is. -/
theorem reflect_if_apply {β : Type} (axis : Axis) {size : Int} (hsize : 1 ≤ size)
    (hbody : w.body? id = some b) (rest : Run (World Rat) β) :
    letI : Scalar Rat := Exact.scalar circle
    ∃ v, (do
        if outside size (b.position.on axis) = true then reflect axis size id
        rest) w = rest v ∧ OnlyBody id w v ∧ v.body? id = some { b with
      position := b.position.setOn (ontoWall size (b.position.on axis)) axis
      velocity := b.velocity.setOn
        (turnedBack size (b.position.on axis) (b.velocity.on axis)) axis } := by
  let : Scalar Rat := Exact.scalar circle
  by_cases hin : Within size (b.position.on axis)
  · rw [outside_exact, decide_eq_true hin, ontoWall_of_within hin, turnedBack, if_pos hin]
    refine ⟨w, rfl, fun _ _ _ => rfl, ?_⟩
    cases axis <;> exact hbody
  · obtain ⟨v, hreflect, honly, hv⟩ := reflect_apply circle axis hsize hbody
    rw [outside_exact, decide_eq_false hin, turnedBack, if_neg hin]
    exact ⟨v, Run.bind_apply_of_ok hreflect _, honly, hv⟩

/-- An entity with a facing angle gets another one. -/
theorem body?_face (hbody : w.body? id = some b) (angle : Rat) :
    OnlyBody id w (w.change .rotation id fun _ => angle) ∧
      (w.change .rotation id fun _ => angle).body? id =
        some { b with facing := b.facing.map fun _ => angle } := by
  obtain ⟨position, velocity, projectile, facing⟩ := b
  obtain ⟨hposition, hvelocity, hprojectile, hfacing⟩ := body?_eq_some.1 hbody
  unfold change
  rw [hfacing]
  cases facing with
  | none => exact ⟨fun _ _ _ => rfl, hbody⟩
  | some old =>
    refine ⟨OnlyBody.put w (by decide) id _, body?_eq_some.2 ⟨?_, ?_, ?_, ?_⟩⟩
    · rw [get?_put_of_ne _ (by decide), hposition]
    · rw [get?_put_of_ne _ (by decide), hvelocity]
    · rw [get?_put_of_ne _ (by decide), hprojectile]
    · rw [get?_put, if_pos rfl, Option.map_some]

/-- **One turn.** An entity that is lost is found to be; it and one that is inside keep the world
as it is, and any other rebounds. -/
theorem bounceOne_apply (hwidth : 1 ≤ width) (hheight : 1 ≤ height) (hbody : w.body? id = some b) :
    letI : Scalar Rat := Exact.scalar circle
    ∃ v, bounceOne width height id w = .ok (decide (b.Lost width height)) v ∧ OnlyBody id w v ∧
      v.body? id = some (b.bounced circle width height) ∧ (¬ b.Rebounds width height → v = w) := by
  let : Scalar Rat := Exact.scalar circle
  obtain ⟨hposition, hvelocity, hprojectile, hfacing⟩ := body?_eq_some.1 hbody
  unfold bounceOne
  rw [Run.bind_apply_of_ok (Run.get_apply w), hposition, hvelocity, hprojectile]
  dsimp only
  have hinside : (!outside width b.position.x && !outside height b.position.y) = true ↔
      b.Inside width height := by
    rw [outside_exact, outside_exact]
    simp [Body.Inside]
  unfold Body.bounced
  by_cases hin : b.Inside width height
  · rw [if_pos (hinside.2 hin), if_neg fun hout => hout.1 hin,
      decide_eq_false fun hout => hout.1 hin]
    exact ⟨w, rfl, fun _ _ _ => rfl, hbody, fun _ => rfl⟩
  rw [if_neg (mt hinside.1 hin)]
  by_cases hspent : b.projectile.bounces ≤ 0
  · rw [if_pos hspent, if_neg fun hleft => Int.not_lt.2 hspent hleft.2,
      decide_eq_true ⟨hin, hspent⟩]
    exact ⟨w, rfl, fun _ _ _ => rfl, hbody, fun _ => rfl⟩
  have hmoves : b.Rebounds width height := ⟨hin, Int.not_le.1 hspent⟩
  rw [if_neg hspent, if_pos hmoves, decide_eq_false fun hlost => hspent hlost.2]
  -- The bounce is spent, each axis has its turn, and then the entity faces where it goes.
  let paid : Body :=
    { b with projectile := { b.projectile with bounces := b.projectile.bounces - 1 } }
  have hpaid : (w.put .projectile id paid.projectile).body? id = some paid := by
    refine body?_eq_some.2 ⟨?_, ?_, ?_, ?_⟩
    · rw [get?_put_of_ne _ (by decide), hposition]
    · rw [get?_put_of_ne _ (by decide), hvelocity]
    · rw [get?_put, if_pos rfl]
    · rw [get?_put_of_ne _ (by decide), hfacing]
  rw [Run.bind_apply_of_ok (Run.set_apply w _)]
  obtain ⟨beside, hbeside, honly, hbody'⟩ := reflect_if_apply circle .x hwidth hpaid _
  obtain ⟨above, habove, honly', hbody''⟩ := reflect_if_apply circle .y hheight hbody' _
  obtain ⟨honly'', hfaced⟩ := body?_face hbody''
    (circle.atan2 (b.rebound circle width height).velocity.y
      (b.rebound circle width height).velocity.x)
  refine ⟨_, (hbeside.trans habove).trans ?_,
    (((OnlyBody.put w (by decide) id _).trans honly).trans honly').trans honly'', hfaced, ?_⟩
  · rw [Run.bind_apply_of_ok (Run.modify_apply _ _), (body?_eq_some.1 hbody'').2.1]
    rfl
  · intro hstays
    exact absurd hmoves hstays

end Turn

/-! ### Bodies after their turn -/

namespace Body
variable {circle : Circle} {width height : Int} {b : Body}

theorem inside_rebound (hwidth : 1 ≤ width) (hheight : 1 ≤ height) (b : Body) :
    (b.rebound circle width height).Inside width height :=
  ⟨within_ontoWall hwidth _, within_ontoWall hheight _⟩

/-- Nobody rebounds twice. -/
theorem not_rebounds_bounced (circle : Circle) (b : Body) (hwidth : 1 ≤ width)
    (hheight : 1 ≤ height) : ¬ (b.bounced circle width height).Rebounds width height := by
  unfold bounced
  by_cases h : b.Rebounds width height
  · rw [if_pos h]
    exact fun hagain => hagain.1 (inside_rebound hwidth hheight b)
  · rwa [if_neg h]

/-- Who is lost is lost afterwards, and nobody else is. -/
theorem lost_bounced (circle : Circle) (hwidth : 1 ≤ width) (hheight : 1 ≤ height) :
    (b.bounced circle width height).Lost width height ↔ b.Lost width height := by
  unfold bounced
  by_cases h : b.Rebounds width height
  · rw [if_pos h]
    exact ⟨fun hlost => absurd (inside_rebound hwidth hheight b) hlost.1,
      fun hlost => absurd h.2 (Int.not_lt.2 hlost.2)⟩
  · rw [if_neg h]

/-- Whoever is not lost ends up inside. -/
theorem inside_bounced (hwidth : 1 ≤ width) (hheight : 1 ≤ height)
    (h : ¬ b.Lost width height) : (b.bounced circle width height).Inside width height := by
  have hnot := not_rebounds_bounced circle b hwidth hheight
  have hlost := mt (lost_bounced circle hwidth hheight).1 h
  by_contra hout
  rcases Int.lt_or_le 0 (b.bounced circle width height).projectile.bounces with hleft | hspent
  · exact hnot ⟨hout, hleft⟩
  · exact hlost ⟨hout, hspent⟩

theorem bounces_bounced (h : 0 < b.projectile.bounces) :
    0 ≤ (b.bounced circle width height).projectile.bounces := by
  unfold bounced
  split
  · exact Int.sub_nonneg_of_le h
  · exact Int.le_of_lt h

/-- Whoever was inside, moved out and rebounds is on its way back. -/
theorem leadsBack_bounced {dt : Rat} (hdt : 0 < dt) (hinside : b.Inside width height)
    (hlost : ¬ (b.moved dt).Lost width height) :
    let after := (b.moved dt).bounced circle width height
    LeadsBack width (b.moved dt).position.x after.velocity.x ∧
      LeadsBack height (b.moved dt).position.y after.velocity.y := by
  intro after
  by_cases hmoves : (b.moved dt).Rebounds width height
  · have hafter : after = (b.moved dt).rebound circle width height := if_pos hmoves
    rw [hafter]
    exact ⟨leadsBack_turnedBack hdt hinside.1 _, leadsBack_turnedBack hdt hinside.2 _⟩
  · have hin : (b.moved dt).Inside width height := by
      by_contra hout
      exact hmoves ⟨hout, Int.not_le.1 fun hspent => hlost ⟨hout, hspent⟩⟩
    exact ⟨leadsBack_of_within hin.1, leadsBack_of_within hin.2⟩

end Body

/-! ### All turns -/

section Walk
variable {circle : Circle} {width height : Int} {w v : World Rat} {done ids : List Int}

/-- Some entities had their turn. -/
structure Midway (circle : Circle) (width height : Int) (w : World Rat) (done : List Int)
    (v : World Rat) : Prop where
  bodies : ∀ id ∈ done, v.body? id = (w.body? id).map (·.bounced circle width height)
  others : ∀ k id, id ∉ done ∨ k ∉ Body.kinds → v.get? k id = w.get? k id
  still : (∀ id ∈ done, ∀ b, w.body? id = some b → ¬ b.Rebounds width height) → v = w

theorem Midway.turn (hwidth : 1 ≤ width) (hheight : 1 ≤ height)
    (h : Midway circle width height w done v) {id : Int} (hid : id ∉ done) {b : Body}
    (hbody : w.body? id = some b) :
    letI : Scalar Rat := Exact.scalar circle
    ∃ u, bounceOne width height id v = .ok (decide (b.Lost width height)) u ∧
      Midway circle width height w (done ++ [id]) u := by
  let : Scalar Rat := Exact.scalar circle
  have hturn : v.body? id = some b := (body?_congr fun k _ => h.others k id (.inl hid)).trans hbody
  obtain ⟨u, hu, honly, hbounced, hstill⟩ := bounceOne_apply circle hwidth hheight hturn
  refine ⟨u, hu, fun other hother => ?_, fun k other hother => ?_, fun hrests => ?_⟩
  · by_cases hsame : other = id
    · rw [hsame, hbounced, hbody, Option.map_some]
    · rw [body?_congr fun k _ => honly k other (.inl hsame)]
      exact h.bodies other (by simpa [hsame] using hother)
  · have hneither : (other ∉ done ∧ other ≠ id) ∨ k ∉ Body.kinds := by simpa using hother
    exact (honly k other (hneither.imp_left And.right)).trans
      (h.others k other (hneither.imp_left And.left))
  · have hlast := hstill (hrests id (by simp) b hbody)
    have hbefore := h.still fun other hother => hrests other (List.mem_append_left _ hother)
    exact hlast.trans hbefore

/-- A walk past entities that have bodies gives each of them its turn. -/
theorem walk_apply (circle : Circle) (hwidth : 1 ≤ width) (hheight : 1 ≤ height) (hids : ids.Nodup)
    (hbodies : ∀ id ∈ ids, ∃ b, w.body? id = some b) :
    letI : Scalar Rat := Exact.scalar circle
    ∃ v, ids.filterM (bounceOne width height) w =
        .ok (ids.filter fun id => (w.body? id).any (·.Lost width height)) v ∧
      Midway circle width height w ids v := by
  let : Scalar Rat := Exact.scalar circle
  refine Run.filterM_apply (Midway circle width height w)
    ⟨nofun, fun _ _ _ => rfl, fun _ => rfl⟩ fun done id rest v hsplit hv => ?_
  subst hsplit
  obtain ⟨b, hbody⟩ := hbodies id (by simp)
  have hid : id ∉ done := fun hdone =>
    (List.nodup_append.1 hids).2.2 id hdone id List.mem_cons_self rfl
  rw [hbody, Option.any_some]
  exact hv.turn hwidth hheight hid hbody

end Walk

/-! ### Moving first -/

section Moving
variable (circle : Circle) {w : World Rat} {id : Int} {b : Body} {ids : List Int} (dt : Rat)

theorem onlyBody_moveOne (w : World Rat) (id : Int) :
    letI : Scalar Rat := Exact.scalar circle
    OnlyBody id w (moveOne dt w id) := by
  let : Scalar Rat := Exact.scalar circle
  unfold moveOne
  split
  · exact OnlyBody.put w (by decide) id _
  · exact fun _ _ _ => rfl

theorem body?_moveOne (hbody : w.body? id = some b) :
    letI : Scalar Rat := Exact.scalar circle
    (moveOne dt w id).body? id = some (b.moved dt) := by
  let : Scalar Rat := Exact.scalar circle
  obtain ⟨hposition, hvelocity, hprojectile, hfacing⟩ := body?_eq_some.1 hbody
  unfold moveOne
  rw [hposition, hvelocity]
  refine body?_eq_some.2 ⟨?_, ?_, ?_, ?_⟩
  · exact (get?_put w .position id id _).trans (if_pos rfl)
  · exact (get?_put_of_ne w (by decide) id id _).trans hvelocity
  · exact (get?_put_of_ne w (by decide) id id _).trans hprojectile
  · exact (get?_put_of_ne w (by decide) id id _).trans hfacing

theorem body?_moveAll (hids : ids.Nodup) (hbody : w.body? id = some b) :
    letI : Scalar Rat := Exact.scalar circle
    (ids.foldl (moveOne dt) w).body? id = some (if id ∈ ids then b.moved dt else b) := by
  let : Scalar Rat := Exact.scalar circle
  induction ids generalizing w b with
  | nil => exact hbody
  | cons first rest ih =>
    obtain ⟨hfirst, hrest⟩ := List.nodup_cons.1 hids
    rw [List.foldl_cons]
    by_cases hsame : id = first
    · subst hsame
      rw [ih hrest (body?_moveOne circle dt hbody), if_neg hfirst, if_pos List.mem_cons_self]
    · have hkept := body?_congr fun k _ => onlyBody_moveOne circle dt w first k id (.inl hsame)
      rw [ih hrest (hkept.trans hbody)]
      simp [hsame]

/-- Whoever is not marked moves along with the rest. -/
theorem body?_move (hmarked : w.marked.contains id = false) (hbody : w.body? id = some b) :
    letI : Scalar Rat := Exact.scalar circle
    (w.move dt).body? id = some (b.moved dt) := by
  let : Scalar Rat := Exact.scalar circle
  obtain ⟨hposition, hvelocity, -, -⟩ := body?_eq_some.1 hbody
  have hfound : id ∈ w.query [.position, .velocity] := by
    apply mem_query_of_has (by simp) hmarked
    simp [has_of_get? hposition, has_of_get? hvelocity]
  have hnodup : (w.query [.position, .velocity]).Nodup :=
    (ascending_query w _).imp Int.ne_of_lt
  unfold move
  rw [body?_moveAll circle dt hnodup hbody, if_pos hfound]

end Moving

/-! ### The walls -/

section Bounce
variable {circle : Circle} {width height : Int} {w v : World Rat} {id : Int}

/-- The components that a projectile is found by. -/
abbrev flying : List ComponentKind := [.position, .velocity, .projectile]

theorem has_flying : flying.all (w.has · id) = true ↔ ∃ b, w.body? id = some b := by
  constructor
  · intro hall
    simp only [flying, List.all_cons, List.all_nil, Bool.and_true, Bool.and_eq_true, has_iff]
      at hall
    obtain ⟨⟨position, hposition⟩, ⟨velocity, hvelocity⟩, ⟨projectile, hprojectile⟩⟩ := hall
    exact ⟨⟨position, velocity, projectile, w.get? .rotation id⟩,
      body?_eq_some.2 ⟨hposition, hvelocity, hprojectile, rfl⟩⟩
  · rintro ⟨b, hbody⟩
    obtain ⟨hposition, hvelocity, hprojectile, -⟩ := body?_eq_some.1 hbody
    simp [has_of_get? hposition, has_of_get? hvelocity, has_of_get? hprojectile]

theorem mem_query_flying (hw : w.Sound) :
    id ∈ w.query flying ↔ w.isAlive id = true ∧ ∃ b, w.body? id = some b := by
  rw [mem_query hw (by simp), has_flying]

/-- The living that are outside with no bounce left, in order of creation. -/
def gone (width height : Int) (w : World Rat) : List Int :=
  w.living.filter fun id => (w.body? id).any (·.Lost width height)

theorem filter_query_flying (hw : w.Sound) :
    (w.query flying).filter (fun id => (w.body? id).any (·.Lost width height)) =
      w.gone width height := by
  rw [query_eq_filter hw (by simp), List.filter_filter]
  refine List.filter_congr fun id _ => ?_
  cases hbody : w.body? id with
  | none => rfl
  | some b => rw [has_flying.2 ⟨b, hbody⟩, Bool.and_true]

/-- Everybody alive who has a body has a turn. -/
theorem bounce_apply (circle : Circle) (hwidth : 1 ≤ width) (hheight : 1 ≤ height) (hw : w.Sound) :
    letI : Scalar Rat := Exact.scalar circle
    ∃ v, bounce width height w = .ok (w.gone width height) v ∧ v.census = w.census ∧
      Midway circle width height w (w.query flying) v := by
  let : Scalar Rat := Exact.scalar circle
  obtain ⟨v, hwalk, hmidway⟩ := walk_apply circle hwidth hheight
    ((ascending_query w flying).imp Int.ne_of_lt) fun id hid => ((mem_query_flying hw).1 hid).2
  rw [filter_query_flying hw] at hwalk
  exact ⟨v, hwalk, (bounce_keeps width height).of_ok hwalk, hmidway⟩

namespace Midway
variable (h : Midway circle width height w (w.query flying) v)
include h

theorem body?_eq (hw : w.Sound) (halive : w.isAlive id = true) :
    v.body? id = (w.body? id).map (·.bounced circle width height) := by
  by_cases hid : id ∈ w.query flying
  · exact h.bodies id hid
  · have hnone : w.body? id = none := by
      rw [Option.eq_none_iff_forall_ne_some]
      exact fun b hbody => hid ((mem_query_flying hw).2 ⟨halive, b, hbody⟩)
    rw [body?_congr fun k _ => h.others k id (.inl hid), hnone, Option.map_none]

/-- Only who rebounds is touched. -/
theorem touched (hw : w.Sound) {k : ComponentKind} (hchanged : v.get? k id ≠ w.get? k id) :
    k ∈ Body.kinds ∧ w.isAlive id = true ∧
      ∃ b, w.body? id = some b ∧ b.Rebounds width height := by
  have hid : id ∈ w.query flying := by
    by_contra hnot
    exact hchanged (h.others k id (.inl hnot))
  have hkind : k ∈ Body.kinds := by
    by_contra hnot
    exact hchanged (h.others k id (.inr hnot))
  obtain ⟨halive, b, hbody⟩ := (mem_query_flying hw).1 hid
  refine ⟨hkind, halive, b, hbody, ?_⟩
  by_contra hrests
  have hkept : v.body? id = some b := by
    rw [h.bodies id hid, hbody, Option.map_some, Body.bounced, if_neg hrests]
  obtain ⟨hposition, hvelocity, hprojectile, hfacing⟩ := body?_eq_some.1 hkept
  obtain ⟨hposition', hvelocity', hprojectile', hfacing'⟩ := body?_eq_some.1 hbody
  have hsame : ∀ k ∈ Body.kinds, v.get? k id = w.get? k id := by
    simp [Body.kinds, hposition, hvelocity, hprojectile, hfacing, hposition', hvelocity',
      hprojectile', hfacing']
  exact hchanged (hsame k hkind)

/-- Nobody is touched who does not exist. -/
theorem sound (hw : w.Sound) (hcensus : v.census = w.census) : v.Sound := by
  obtain ⟨hnext, hexisting, hmarked, -⟩ := Census.mk.inj hcensus
  refine ⟨?_, fun {k id} hhas => ?_, ?_⟩
  · rw [hexisting, hmarked]
    exact hw.marked
  · rw [hexisting]
    by_cases hsame : v.get? k id = w.get? k id
    · exact hw.owned (k := k) (by rwa [has_eq, ← hsame, ← has_eq])
    · obtain ⟨-, halive, -⟩ := h.touched hw hsame
      exact (Bool.and_eq_true_iff.1 halive).1
  · rw [hexisting, hnext]
    exact hw.numbered

end Midway

/-- What becomes of a world whose projectiles bounce. -/
structure Bounced (circle : Circle) (width height : Int) (w v : World Rat) : Prop where
  /-- Whoever is outside with a bounce left rebounds. -/
  rebound : ∀ id b, w.isAlive id = true → w.body? id = some b → b.Rebounds width height →
    v.body? id = some (b.rebound circle width height)
  /-- Nothing else changes. -/
  touched : ∀ k id, v.get? k id ≠ w.get? k id → k ∈ Body.kinds ∧ w.isAlive id = true ∧
    ∃ b, w.body? id = some b ∧ b.Rebounds width height
  census : v.census = w.census
  inside : ∀ id b, v.isAlive id = true → v.body? id = some b → id ∉ w.gone width height →
    b.Inside width height
  /-- Nobody who had a bounce left is overdrawn. -/
  bounces : ∀ id b after, w.body? id = some b → v.body? id = some after →
    0 < b.projectile.bounces → 0 ≤ after.projectile.bounces
  /-- If everybody has just moved, then whoever was inside before leads back from every wall that
  was passed. -/
  back : ∀ (before : World Rat) (dt : Rat), 0 < dt →
    (letI : Scalar Rat := Exact.scalar circle; w = before.move dt) →
    ∀ id start b after, w.isAlive id = true → id ∉ w.gone width height →
      before.body? id = some start → w.body? id = some b → v.body? id = some after →
      start.Inside width height →
        LeadsBack width b.position.x after.velocity.x ∧
          LeadsBack height b.position.y after.velocity.y

theorem mem_gone : id ∈ w.gone width height ↔
    w.isAlive id = true ∧ ∃ b, w.body? id = some b ∧ b.Lost width height := by
  simp [gone, List.mem_filter, mem_living, Option.any_eq_true]

theorem Midway.bounced (hwidth : 1 ≤ width) (hheight : 1 ≤ height) (hw : w.Sound)
    (hcensus : v.census = w.census) (h : Midway circle width height w (w.query flying) v) :
    Bounced circle width height w v := by
  obtain ⟨-, hexisting, hmarked, -⟩ := Census.mk.inj hcensus
  have halive (id : Int) : v.isAlive id = w.isAlive id := by
    rw [isAlive, isAlive, hexisting, hmarked]
  refine ⟨fun id b hid hbody hrebounds => ?_, fun k id => h.touched hw, hcensus,
    fun id b hid hbody hgone => ?_, fun id b after hbody hafter hleft => ?_,
    fun before dt hdt hmove id start b after hid hgone hstart hbody hafter hinside => ?_⟩
  · rw [h.body?_eq hw hid, hbody, Option.map_some, Body.bounced, if_pos hrebounds]
  · rw [halive] at hid
    obtain ⟨old, hold, rfl⟩ := Option.map_eq_some_iff.1 ((h.body?_eq hw hid).symm.trans hbody)
    exact Body.inside_bounced hwidth hheight fun hlost => hgone (mem_gone.2 ⟨hid, old, hold, hlost⟩)
  · by_cases hid : w.isAlive id = true
    · rw [h.body?_eq hw hid, hbody] at hafter
      cases hafter
      exact Body.bounces_bounced hleft
    · have hkept : v.body? id = w.body? id := body?_congr fun k _ => by
        by_contra hchanged
        exact hid (h.touched hw hchanged).2.1
      rw [hkept, hbody] at hafter
      cases hafter
      exact Int.le_of_lt hleft
  · let : Scalar Rat := Exact.scalar circle
    subst hmove
    have hunmarked : before.marked.contains id = false := by
      obtain ⟨-, -, hsame, -⟩ := Census.mk.inj (census_move before dt)
      rw [← hsame]
      exact marked_of_isAlive hid
    rw [body?_move circle dt hunmarked hstart] at hbody
    cases hbody
    rw [h.body?_eq hw hid, body?_move circle dt hunmarked hstart] at hafter
    cases hafter
    exact Body.leadsBack_bounced hdt hinside fun hlost =>
      hgone (mem_gone.2 ⟨hid, _, body?_move circle dt hunmarked hstart, hlost⟩)

/-- **Walls.** Over exact numbers, whatever the circle: bouncing succeeds, and it returns the
projectiles that lie outside with no bounce left, in order of creation. All others that lie outside
are put back onto the walls they passed, for one bounce each, and turned around there; nothing else
changes. So whoever is not returned is inside afterwards, a second time returns the same and leaves
the world as it is, no bounces are overdrawn, and whoever was inside before moving out is on the way
back. -/
theorem bounce_exact (circle : Circle) (hw : w.Sound) (hwidth : 1 ≤ width) (hheight : 1 ≤ height) :
    letI : Scalar Rat := Exact.scalar circle
    (w.gone width height).Pairwise (· < ·) ∧
      ∃ v, bounce width height w = .ok (w.gone width height) v ∧
        Bounced circle width height w v ∧
        bounce width height v = .ok (w.gone width height) v := by
  let : Scalar Rat := Exact.scalar circle
  obtain ⟨v, hv, hcensus, hmidway⟩ := bounce_apply circle hwidth hheight hw
  have hsound := hmidway.sound hw hcensus
  obtain ⟨u, hu, -, hagain⟩ := bounce_apply circle hwidth hheight hsound
  have halive (id : Int) : v.isAlive id = w.isAlive id := by
    obtain ⟨-, hexisting, hmarked, -⟩ := Census.mk.inj hcensus
    rw [isAlive, isAlive, hexisting, hmarked]
  have hbounced {id : Int} {b : Body} (hid : w.isAlive id = true) (hbody : v.body? id = some b) :
      ∃ old, w.body? id = some old ∧ old.bounced circle width height = b :=
    Option.map_eq_some_iff.1 ((hmidway.body?_eq hw hid).symm.trans hbody)
  have hstill : u = v := by
    refine hagain.still fun id hid b hbody => ?_
    have hid := (halive id).symm.trans ((mem_query_flying hsound).1 hid).1
    obtain ⟨old, -, rfl⟩ := hbounced hid hbody
    exact Body.not_rebounds_bounced circle old hwidth hheight
  have hgone : v.gone width height = w.gone width height := by
    refine
      ((ascending_living v).filter _).eq_of_mem_iff ((ascending_living w).filter _) fun id => ?_
    refine mem_gone.trans (Iff.trans ?_ mem_gone.symm)
    rw [halive]
    refine and_congr_right fun hid => ?_
    rw [hmidway.body?_eq hw hid]
    simp [Body.lost_bounced circle hwidth hheight]
  refine ⟨(ascending_living w).filter _, v, hv, hmidway.bounced hwidth hheight hw hcensus, ?_⟩
  rw [hu, hstill, hgone]

end Bounce

/-! Two projectiles leave an arena of two cells through a corner, one of them for good. -/

section Corner

/-- Every velocity points the same way. -/
def sideways : Circle := ⟨6, fun _ => 0, fun _ => 1, fun _ _ => 7, by decide⟩

local instance cornering : Scalar Rat := Exact.scalar sideways

/-- A body inside the arena and on its way out. -/
def leaving (bounces : Int) : Body := ⟨⟨0, 0⟩, ⟨-2, 3⟩, ⟨4, bounces, 0, none, .normal⟩, some 5⟩

/-- The components of a body. -/
def shot (b : Body) : List (Component Rat) :=
  [⟨.position, b.position⟩, ⟨.velocity, b.velocity⟩, ⟨.projectile, b.projectile⟩, ⟨.rotation, 5⟩]

def starting : World Rat :=
  (((empty : World Rat).create (shot (leaving 1))).2.create (shot (leaving 0))).2

theorem bounce_exact_cornered :
    let out := (leaving 1).moved 1
    (starting.move 1).Sound ∧ ∃ v : World Rat, bounce 2 1 (starting.move 1) = .ok [1] v ∧
      bounce 2 1 v = .ok [1] v ∧ ∃ after, v.body? 0 = some after ∧
        (after.position.x, after.position.y) = (0, 0) ∧ after.projectile.bounces = 0 ∧
        (after.velocity.x, after.velocity.y) = (2, -3) ∧ after.facing = some 7 ∧
        LeadsBack 2 out.position.x after.velocity.x ∧
        LeadsBack 1 out.position.y after.velocity.y := by
  intro out
  have hmove : LetsMove (.keeping Sound : Run.Frame (World Rat)) :=
    fun w k id value _ _ hhas hsound => hsound.put (hsound.owned hhas) value
  have hsound : (starting.move 1).Sound :=
    hmove.move starting 1 ((sound_empty.create _).create _)
  have hgone : (starting.move 1).gone 2 1 = [1] := by decide +kernel
  have hbody : (starting.move 1).body? 0 = some out :=
    body?_move sideways 1 (by decide +kernel) (rfl : starting.body? 0 = some (leaving 1))
  have halive : (starting.move 1).isAlive 0 = true := by decide +kernel
  obtain ⟨-, v, hv, hbounced, hagain⟩ :=
    bounce_exact sideways hsound (by decide : 1 ≤ (2 : Int)) (by decide : 1 ≤ (1 : Int))
  rw [hgone] at hv hagain
  have hafter := hbounced.rebound 0 out halive hbody (by decide +kernel)
  have hback := hbounced.back starting 1 (by decide +kernel) rfl 0 (leaving 1) out _ halive
    (by rw [hgone]; decide) rfl hbody hafter (by decide +kernel)
  exact ⟨hsound, v, hv, hagain, _, hafter, by decide +kernel, by decide +kernel,
    by decide +kernel, by decide +kernel, hback⟩

end Corner
end World
end WandArena
