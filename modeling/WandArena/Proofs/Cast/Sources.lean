import WandArena.Proofs.Cast.Steps

/-! Casts that draw from different sources.

A cast learns of its source only what the draws yield. So if a relation between two sources is
kept by draws that yield the same card and wrap alike (`SameDraws`), casts that draw from them go
the same way to the end: they meet the same fault or none, and nothing but their sources tells
them apart (`resolve_inStep`). -/
namespace WandArena
variable {σ τ α β γ : Type}

namespace Casting

/-- The same state of a cast, drawing from another source. -/
def onto (s : Casting σ α) (source : τ) : Casting τ α :=
  ⟨source, s.mana, s.rechargeDelay, s.cast, s.notes⟩

@[simp] theorem source_onto (s : Casting σ α) (source : τ) : (s.onto source).source = source := rfl

/-- Two endings that differ in nothing but their sources, which are related. -/
inductive Matched (Q : σ → τ → Prop) :
    EStateM.Result Fault (Casting σ α) β → EStateM.Result Fault (Casting τ α) β → Prop
  | ok {b : β} {s : Casting σ α} {source : τ} (h : Q s.source source) :
    Matched Q (.ok b s) (.ok b (s.onto source))
  | error {fault : Fault} {s : Casting σ α} {source : τ} (h : Q s.source source) :
    Matched Q (.error fault s) (.error fault (s.onto source))

/-- From states that differ in nothing but related sources, both operations end that way. -/
def InStep (Q : σ → τ → Prop) (m : Run (Casting σ α) β) (m' : Run (Casting τ α) β) : Prop :=
  ∀ (s : Casting σ α) (source : τ), Q s.source source → Matched Q (m s) (m' (s.onto source))

/-- Draws from related sources yield the same, wrap alike and leave related sources. -/
def SameDraws [CardSource σ] [CardSource τ] (Q : σ → τ → Prop) : Prop :=
  ∀ (a : σ) (b : τ), Q a b →
    (CardSource.draw a).card = (CardSource.draw b).card ∧
      (CardSource.draw a).wrapped = (CardSource.draw b).wrapped ∧
      Q (CardSource.draw a).rest (CardSource.draw b).rest

namespace InStep
variable {Q : σ → τ → Prop}

theorem pure (b : β) : InStep (α := α) Q (pure b) (pure b) := fun _ _ h => .ok h

theorem throw (fault : Fault) : InStep (α := α) (β := β) Q (throw fault) (throw fault) :=
  fun _ _ h => .error h

theorem bind {m : Run (Casting σ α) β} {m' : Run (Casting τ α) β}
    {f : β → Run (Casting σ α) γ} {f' : β → Run (Casting τ α) γ}
    (hm : InStep Q m m') (hf : ∀ b, InStep Q (f b) (f' b)) : InStep Q (m >>= f) (m' >>= f') := by
  intro s source h
  have hend := hm s source h
  generalize hs : m s = ending at hend
  generalize ht : m' (s.onto source) = ending' at hend
  cases hend with
  | ok h =>
    rw [Run.bind_apply_of_ok hs, Run.bind_apply_of_ok ht]
    exact hf _ _ _ h
  | error h =>
    rw [Run.bind_apply_of_error hs, Run.bind_apply_of_error ht]
    exact .error h

/-- A change that neither reads nor writes the source. -/
theorem modify {f : Casting σ α → Casting σ α} {f' : Casting τ α → Casting τ α}
    (hsource : ∀ s, (f s).source = s.source)
    (hf : ∀ s source, f' (s.onto source) = (f s).onto source) :
    InStep Q (modify f) (modify f') := by
  intro s source h
  rw [Run.modify_apply, Run.modify_apply, hf]
  exact .ok (by rw [hsource]; exact h)

theorem number (x : Except NumberFault β) :
    InStep (α := α) Q (Run.number x) (Run.number x) := by
  cases x with
  | ok b => exact pure b
  | error fault => exact throw _

theorem found (fault : Fault) (x : Option β) :
    InStep (α := α) Q (Run.found fault x) (Run.found fault x) := by
  cases x with
  | some b => exact pure b
  | none => exact throw _

theorem forM {δ : Type} {f : δ → Run (Casting σ α) Unit} {f' : δ → Run (Casting τ α) Unit}
    (hf : ∀ d, InStep Q (f d) (f' d)) (ds : List δ) : InStep Q (ds.forM f) (ds.forM f') := by
  induction ds with
  | nil => exact pure ()
  | cons d rest ih => exact bind (hf d) fun _ => ih

/-! ### The operations of a cast -/

theorem note (n : CastNote α) : InStep Q (note n) (note n) :=
  modify (fun _ => rfl) fun _ _ => rfl

theorem setTransform (t : Transform α) : InStep Q (setTransform t) (setTransform t) :=
  modify (fun _ => rfl) fun _ _ => rfl

theorem draw [CardSource σ] [CardSource τ] (hQ : SameDraws Q) :
    InStep (α := α) Q draw draw := by
  intro s source h
  obtain ⟨hcard, hwrapped, hrest⟩ := hQ s.source source h
  have hdrawn : (s.onto source).drawn = s.drawn.onto (CardSource.draw source).rest := by
    simp only [drawn, onto, hwrapped]
  rw [draw_apply, draw_apply, source_onto, hdrawn, ← hcard]
  cases (CardSource.draw s.source).card with
  | ok card => exact .ok hrest
  | error fault => exact .error hrest

variable [Scalar α]

theorem stack (rules : MergeRules) (stats : Stats α) :
    InStep Q (stack rules stats) (stack rules stats) := by
  intro s source h
  have hstats : (s.onto source).cast.stats = s.cast.stats := rfl
  rw [stack_apply, stack_apply, hstats]
  cases EStateM.adaptExcept Fault.ofMerge (Stats.absorb rules stats) s.cast.stats with
  | ok b merged => exact .ok h
  | error fault merged => exact .error h

theorem pay (card : Card α) : InStep Q (pay card) (pay card) :=
  modify (fun _ => rfl) fun _ _ => rfl

omit [Scalar α] in
theorem emit (shot : Shot α (Cast α)) : InStep Q (emit shot) (emit shot) :=
  modify (fun _ => rfl) fun _ _ => rfl

variable {next : Run (Casting σ α) Unit} {next' : Run (Casting τ α) Unit}

theorem branch (h : InStep Q next next') (offset : Transform α) :
    InStep Q (branch next offset) (branch next' offset) := by
  intro s source hQ
  have hbody := bind (number (α := α) (s.cast.transform.compose offset)) fun t =>
    bind (setTransform t) fun _ => bind h fun _ => setTransform s.cast.transform
  exact hbody s source hQ

theorem payload (h : InStep Q next next') : InStep Q (payload next) (payload next') := by
  intro s source hQ
  have hend := h s.aside source hQ
  rw [payload_apply, payload_apply]
  change Matched Q (next s.aside) (next' (s.onto source).aside) at hend
  generalize next s.aside = ending at hend
  generalize next' (s.onto source).aside = ending' at hend
  cases hend with
  | ok hQ => exact .ok hQ
  | error hQ => exact .error hQ

theorem continuation (h : InStep Q next next') (kind : ShotKind) :
    InStep Q (continuation next kind) (continuation next' kind) := by
  cases kind with
  | normal => exact pure _
  | trigger => exact bind (payload h) fun _ => pure _
  | timer delay => exact bind (payload h) fun _ => pure _

theorem apply (h : InStep Q next next') (rules : MergeRules) (effect : Effect α) :
    InStep Q (apply rules next effect) (apply rules next' effect) := by
  cases effect with
  | modifier stats => exact bind (stack rules stats) fun _ => h
  | multicast formation => exact forM (branch h) formation
  | projectile blueprint kind =>
    intro s source hQ
    exact bind (continuation h kind) (fun _ => emit _) s source hQ

theorem play (h : InStep Q next next') (c : Caster α) (ref : CardRef) :
    InStep Q (c.play next ref) (c.play next' ref) := by
  refine bind (found _ _) fun card => bind (note _) fun _ => ?_
  intro s source hQ
  show Matched Q ((if s.mana < Quantity.whole card.manaCost then _ else _ : Run _ Unit) s)
    ((if s.mana < Quantity.whole card.manaCost then _ else _ : Run _ Unit) (s.onto source))
  by_cases hmana : s.mana < Quantity.whole card.manaCost
  · rw [if_pos hmana, if_pos hmana]
    exact bind (note _) (fun _ => h) s source hQ
  · rw [if_neg hmana, if_neg hmana]
    exact bind (pay card) (fun _ => forM (apply h c.rules) card.effects) s source hQ

end InStep
end Casting

/-- Resolving goes the same way on sources with the same draws. -/
theorem Caster.resolve_inStep [Scalar α] [CardSource σ] [CardSource τ] {Q : σ → τ → Prop}
    (hQ : Casting.SameDraws Q) (c : Caster α) (stack : Nat) (depth : Int) :
    Casting.InStep Q (c.resolve stack depth) (c.resolve stack depth) := by
  induction stack generalizing depth with
  | zero => exact .throw _
  | succ stack ih =>
    refine .bind (.draw hQ) fun drawn => ?_
    cases drawn with
    | none => exact .pure ()
    | some ref =>
      dsimp only
      split
      · exact .throw _
      · exact .play (ih (depth + 1)) c ref

end WandArena
