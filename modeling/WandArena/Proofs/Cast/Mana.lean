import WandArena.Proofs.Cast.Steps

/-! Mana while a cast is being resolved.

`Caster.watch` resolves a cast like `Caster.resolve`, but looks at the mana all along and raises an
alarm as soon as it fails a test. Where paying for what can be paid for never makes it fail
(`Caster.Affords`), no alarm is ever raised: watched or not, the cast goes the same way, and it
leaves mana that passes the test, however it ends (`watch_agrees`). -/
namespace WandArena
variable {σ α β γ : Type}

/-! ### Looking at the state -/

namespace Run

/-- Does an operation and raises the alarm if what it leads to does not pass the test. -/
def checked (test : σ → Bool) (alarm : Fault) (m : Run σ β) : Run σ β := fun s =>
  if test (left (m s)) then m s else .error alarm (left (m s))

/-- From any state of the invariant both operations do the same and, however they end, lead to such
a state. -/
def Agree (inv : σ → Prop) (m m' : Run σ β) : Prop := ∀ s, inv s → m' s = m s ∧ inv (left (m s))

namespace Agree
variable {inv : σ → Prop} {m m' : Run σ β}

theorem pure (b : β) : Agree inv (pure b) (pure b) := fun _ h => ⟨rfl, h⟩

theorem throw (fault : Fault) : Agree (β := β) inv (throw fault) (throw fault) :=
  fun _ h => ⟨rfl, h⟩

theorem modify {f : σ → σ} (h : ∀ s, inv s → inv (f s)) : Agree inv (modify f) (modify f) :=
  fun s hs => ⟨rfl, h s hs⟩

theorem bind {f f' : β → Run σ γ} (hm : Agree inv m m') (hf : ∀ b, Agree inv (f b) (f' b)) :
    Agree inv (m >>= f) (m' >>= f') := by
  intro s hs
  obtain ⟨hsame, hleft⟩ := hm s hs
  cases hend : m s with
  | ok b t =>
    rw [hend] at hsame hleft
    rw [bind_apply_of_ok hend, bind_apply_of_ok hsame]
    exact hf b t hleft
  | error fault t =>
    rw [hend] at hsame hleft
    rw [bind_apply_of_error hend, bind_apply_of_error hsame]
    exact ⟨rfl, hleft⟩

theorem number (x : Except NumberFault β) : Agree inv (number x) (number x) := by
  cases x with
  | ok b => exact pure b
  | error fault => exact throw _

theorem found (fault : Fault) (x : Option β) : Agree inv (found fault x) (found fault x) := by
  cases x with
  | some b => exact pure b
  | none => exact throw fault

theorem forM {δ : Type} {f f' : δ → Run σ PUnit} (hf : ∀ d, Agree inv (f d) (f' d))
    (ds : List δ) : Agree inv (ds.forM f) (ds.forM f') := by
  induction ds with
  | nil => exact pure _
  | cons d rest ih => exact bind (hf d) fun _ => ih

/-- Where every state of the invariant passes the test, looking changes nothing. -/
theorem checked {test : σ → Bool} (htest : ∀ s, inv s → test s = true) (alarm : Fault)
    (h : Agree inv m m') : Agree inv m (checked test alarm m') := by
  intro s hs
  obtain ⟨hsame, hleft⟩ := h s hs
  refine ⟨?_, hleft⟩
  unfold Run.checked
  rw [hsame, if_pos (htest _ hleft)]

end Agree
end Run

/-! ### A cast that is watched -/

namespace Caster
variable [Scalar α]

/-- An operation of a cast that is followed by a look at the mana. -/
def look (test : α → Bool) (alarm : Fault) (m : Run (Casting σ α) β) : Run (Casting σ α) β :=
  Run.checked (fun s => test s.mana) alarm m

/-- Plays a drawn card like `play`, with a look at the mana after each step. -/
def watchPlay (c : Caster α) (test : α → Bool) (alarm : Fault) (next : Run (Casting σ α) Unit)
    (ref : CardRef) : Run (Casting σ α) Unit := do
  let card ← Run.found (.config (.unknownCard ref.id)) (c.cards.get? ref.id)
  look test alarm (Casting.note (.drew card.name))
  if (← get).mana < Quantity.whole card.manaCost then
    look test alarm (Casting.note (.tooCostly card.name))
    next
  else
    look test alarm (Casting.pay card)
    card.effects.forM fun effect => look test alarm (Casting.apply c.rules next effect)

variable [CardSource σ]

/-- Resolves like `resolve`, with a look at the mana before and after each draw. -/
def watch (c : Caster α) (test : α → Bool) (alarm : Fault) :
    Nat → Int → Run (Casting σ α) Unit
  | 0, _ => throw (.config (.outOfStack c.wand c.maxDepth))
  | stack + 1, depth => do
    look test alarm (pure ())
    match ← look test alarm Casting.draw with
    | none => return
    | some ref =>
      if c.maxDepth < depth then throw (.config (.tooDeep c.wand c.maxDepth))
      else c.watchPlay test alarm (c.watch test alarm stack (depth + 1)) ref

/-- Mana that passes the test still does after paying for a card that it is enough for. -/
def Affords (test : α → Bool) : Prop :=
  ∀ mana (card : Card α), test mana = true → ¬ mana < Quantity.whole card.manaCost →
    test (mana - Quantity.whole card.manaCost) = true

end Caster

/-! ### No alarm is raised -/

namespace Casting

/-- The mana passes the test. -/
def Solvent (test : α → Bool) (s : Casting σ α) : Prop := test s.mana = true

section Steps
variable {test : α → Bool} {next next' : Run (Casting σ α) Unit}

theorem agree_note (n : CastNote α) :
    Run.Agree (Solvent (σ := σ) test) (note n) (note n) :=
  .modify fun _ h => h

theorem agree_setTransform (t : Transform α) :
    Run.Agree (Solvent (σ := σ) test) (setTransform t) (setTransform t) :=
  .modify fun _ h => h

theorem agree_emit (shot : Shot α (Cast α)) :
    Run.Agree (Solvent (σ := σ) test) (emit shot) (emit shot) :=
  .modify fun _ h => h

theorem agree_draw [CardSource σ] : Run.Agree (Solvent (σ := σ) test) draw draw := by
  intro s hs
  refine ⟨rfl, ?_⟩
  rw [draw_apply]
  cases (CardSource.draw s.source).card <;> exact hs

variable [Scalar α]

theorem agree_stack (rules : MergeRules) (stats : Stats α) :
    Run.Agree (Solvent (σ := σ) test) (stack rules stats) (stack rules stats) := by
  intro s hs
  refine ⟨rfl, ?_⟩
  rw [stack_apply]
  cases EStateM.adaptExcept Fault.ofMerge (Stats.absorb rules stats) s.cast.stats <;> exact hs

theorem agree_branch (h : Run.Agree (Solvent test) next next') (offset : Transform α) :
    Run.Agree (Solvent test) (branch next offset) (branch next' offset) := by
  intro s hs
  rw [branch_apply, branch_apply]
  refine Run.Agree.bind (.number _) (fun inner => ?_) s hs
  exact .bind (agree_setTransform inner) fun _ => .bind h fun _ => agree_setTransform _

theorem agree_payload (h : Run.Agree (Solvent test) next next') :
    Run.Agree (Solvent test) (payload next) (payload next') := by
  intro s hs
  obtain ⟨hsame, hleft⟩ := h s.aside hs
  rw [payload_apply, payload_apply, hsame]
  refine ⟨rfl, ?_⟩
  cases hend : next s.aside with
  | ok _ t =>
    rw [hend] at hleft
    exact hleft
  | error fault t =>
    rw [hend] at hleft
    exact hleft

theorem agree_continuation (h : Run.Agree (Solvent test) next next') (kind : ShotKind) :
    Run.Agree (Solvent test) (continuation next kind) (continuation next' kind) := by
  cases kind with
  | normal => exact .pure _
  | trigger => exact .bind (agree_payload h) fun _ => .pure _
  | timer delay => exact .bind (agree_payload h) fun _ => .pure _

theorem agree_apply (h : Run.Agree (Solvent test) next next') (rules : MergeRules)
    (effect : Effect α) :
    Run.Agree (Solvent test) (apply rules next effect) (apply rules next' effect) := by
  cases effect with
  | modifier stats => exact .bind (agree_stack rules stats) fun _ => h
  | multicast formation => exact .forM (agree_branch h) formation
  | projectile blueprint kind =>
    intro s hs
    exact Run.Agree.bind (agree_continuation h kind) (fun _ => agree_emit _) s hs

end Steps
end Casting

namespace Caster
variable [Scalar α] {test : α → Bool} {next next' : Run (Casting σ α) Unit}

omit [Scalar α] in
theorem agree_look {m m' : Run (Casting σ α) β} (alarm : Fault)
    (h : Run.Agree (Casting.Solvent test) m m') :
    Run.Agree (Casting.Solvent test) m (look test alarm m') :=
  h.checked (fun _ hs => hs) alarm

/-- A card is paid for only where the mana is enough for it. -/
theorem agree_play (htest : Affords test) (c : Caster α) (alarm : Fault)
    (h : Run.Agree (Casting.Solvent test) next next') (ref : CardRef) :
    Run.Agree (Casting.Solvent test) (c.play next ref) (c.watchPlay test alarm next' ref) := by
  refine .bind (.found _ _) fun card => .bind (agree_look alarm (Casting.agree_note _)) fun _ => ?_
  intro s hs
  show (ite _ _ _ : Run _ Unit) s = (ite _ _ _ : Run _ Unit) s ∧
    Casting.Solvent test (Run.left ((ite _ _ _ : Run _ Unit) s))
  by_cases hmana : s.mana < Quantity.whole card.manaCost
  · rw [if_pos hmana, if_pos hmana]
    exact Run.Agree.bind (agree_look alarm (Casting.agree_note _)) (fun _ => h) s hs
  · have hpay : Casting.Solvent test (s.paid card) := htest s.mana card hs hmana
    have hlook : look test alarm (Casting.pay card) s = .ok () (s.paid card) := if_pos hpay
    have hpaid : Casting.pay card s = .ok () (s.paid card) := rfl
    rw [if_neg hmana, if_neg hmana, Run.bind_apply_of_ok hlook, Run.bind_apply_of_ok hpaid]
    refine Run.Agree.forM (fun effect => ?_) card.effects (s.paid card) hpay
    exact agree_look alarm (Casting.agree_apply h c.rules effect)

/-- A watched cast goes like any other: no alarm is ever raised, and however the cast ends, it
leaves mana that passes the test. -/
theorem watch_agrees [CardSource σ] (htest : Affords test) (c : Caster α) (alarm : Fault)
    (stack : Nat) (depth : Int) :
    Run.Agree (Casting.Solvent (σ := σ) test) (c.resolve stack depth)
      (c.watch test alarm stack depth) := by
  induction stack generalizing depth with
  | zero => exact .throw _
  | succ stack ih =>
    intro s hs
    have hstart : look test alarm (pure ()) s = .ok () s := if_pos hs
    unfold watch
    rw [Run.bind_apply_of_ok hstart]
    refine Run.Agree.bind (agree_look alarm Casting.agree_draw) (fun drawn => ?_) s hs
    cases drawn with
    | none => exact .pure ()
    | some ref =>
      dsimp only
      split
      · exact .throw _
      · exact agree_play htest c alarm (ih (depth + 1)) ref

/-- Whatever is resolved on a wand leaves mana that passes the test. -/
theorem mana_resolveOn (htest : Affords test) (c : Caster α) (depth : Int) (wand : WandState α)
    (cast : Cast α) (hmana : test wand.mana = true) :
    test (c.resolveOn depth wand cast).wand.mana = true := by
  let s : Casting Piles α := ⟨wand.piles, wand.mana, wand.rechargeDelay, cast, #[]⟩
  have hleft : Casting.Solvent test (Run.left (c.resolve stackSize depth s)) :=
    (watch_agrees htest c .tooManyEnds stackSize depth s hmana).2
  unfold resolveOn
  cases hend : c.resolve stackSize depth s with
  | ok _ t =>
    rw [hend] at hleft
    exact hleft
  | error fault t =>
    rw [hend] at hleft
    exact hleft

end Caster
end WandArena
