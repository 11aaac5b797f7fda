import WandArena.Cast.Resolve
import WandArena.Proofs.Run

/-! The single steps of a cast: where each of them leads, and when there is no fault on the way. -/
namespace WandArena

/-- How a resolution ends, apart from where its cards come from. -/
structure Outcome (α : Type) where
  fault : Option Fault
  mana : α
  rechargeDelay : Int
  cast : Cast α
  notes : Array (CastNote α)

namespace Casting
variable {σ α : Type}

/-- What a resolution leaves of its source. -/
def sourceLeft : EStateM.Result Fault (Casting σ α) Unit → σ
  | .ok _ s => s.source
  | .error _ s => s.source

def outcome : EStateM.Result Fault (Casting σ α) Unit → Outcome α
  | .ok _ s => ⟨none, s.mana, s.rechargeDelay, s.cast, s.notes⟩
  | .error fault s => ⟨some fault, s.mana, s.rechargeDelay, s.cast, s.notes⟩

/-- The state after a draw. -/
def drawn [CardSource σ] (s : Casting σ α) : Casting σ α :=
  let draw := CardSource.draw s.source
  { s with
    source := draw.rest
    cast := { s.cast with forceRecharge := s.cast.forceRecharge || draw.wrapped } }

theorem draw_apply [CardSource σ] (s : Casting σ α) :
    draw s = match (CardSource.draw s.source).card with
      | .ok card => .ok card s.drawn
      | .error fault => .error fault s.drawn := by
  unfold draw drawn
  rw [Run.bind_apply_of_ok (Run.get_apply s), Run.bind_apply_of_ok (Run.set_apply s _)]
  cases (CardSource.draw s.source).card <;> rfl

theorem draw_eq_ok [CardSource σ] {s t : Casting σ α} {card : Option CardRef} :
    draw s = .ok card t ↔ (CardSource.draw s.source).card = .ok card ∧ t = s.drawn := by
  rw [draw_apply]
  cases (CardSource.draw s.source).card <;> simp [eq_comm]

/-- The state with one more note. -/
def noted (s : Casting σ α) (n : CastNote α) : Casting σ α := { s with notes := s.notes.push n }

theorem note_apply (n : CastNote α) (s : Casting σ α) : note n s = .ok () (s.noted n) := rfl

/-- The state under another transform. -/
def under (s : Casting σ α) (t : Transform α) : Casting σ α :=
  { s with cast := { s.cast with transform := t } }

theorem setTransform_apply (t : Transform α) (s : Casting σ α) :
    setTransform t s = .ok () (s.under t) := rfl

/-- The state with one more projectile emitted. -/
def emitted (s : Casting σ α) (shot : Shot α (Cast α)) : Casting σ α :=
  { s with cast := { s.cast with shots := s.cast.shots ++ [shot] } }

theorem emit_apply (shot : Shot α (Cast α)) (s : Casting σ α) :
    emit shot s = .ok () (s.emitted shot) := rfl

/-- The state with the stats of the cast replaced. -/
def withStats (s : Casting σ α) (stats : Stats α) : Casting σ α :=
  { s with cast := { s.cast with stats } }

/-- The state that goes on with `outer` after a payload: what the payload used up stays used up, and
its wrap counts for `outer` too. -/
def resume (s : Casting σ α) (outer : Cast α) : Casting σ α :=
  { s with cast := { outer with forceRecharge := outer.forceRecharge || s.cast.forceRecharge } }

variable [Scalar α]

/-- The state in which a payload is drawn, with nothing in its cast yet. -/
def aside (s : Casting σ α) : Casting σ α := { s with cast := .fresh }

/-- The state after paying for a card. -/
def paid (s : Casting σ α) (card : Card α) : Casting σ α :=
  { s with
    mana := s.mana - Quantity.whole card.manaCost
    rechargeDelay := s.rechargeDelay + card.rechargeDelay
    cast := { s.cast with castDelay := s.cast.castDelay + card.castDelay } }

theorem pay_apply (card : Card α) (s : Casting σ α) : pay card s = .ok () (s.paid card) := rfl

theorem stack_apply (rules : MergeRules) (stats : Stats α) (s : Casting σ α) :
    stack rules stats s =
      match EStateM.adaptExcept Fault.ofMerge (Stats.absorb rules stats) s.cast.stats with
      | .ok _ merged => .ok () (s.withStats merged)
      | .error fault merged => .error fault (s.withStats merged) := by
  unfold stack Run.within withStats
  cases EStateM.adaptExcept Fault.ofMerge (Stats.absorb rules stats) s.cast.stats <;> rfl

variable {next : Run (Casting σ α) Unit}

theorem payload_apply (s : Casting σ α) :
    payload next s = match next s.aside with
      | .ok _ t => .ok t.cast (t.resume s.cast)
      | .error fault t => .error fault { t with cast := s.cast } := rfl

theorem branch_apply (offset : Transform α) (s : Casting σ α) :
    branch next offset s =
      (Run.number (s.cast.transform.compose offset) >>= fun t => setTransform t >>= fun _ =>
        next >>= fun _ => setTransform s.cast.transform) s := rfl

end Casting
end WandArena
