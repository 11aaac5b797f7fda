import WandArena.Proofs.Run

/-! Operations as they are seen through a view of the state.

`Seen view act act'` says that whoever sees no more of a state than `view` shows sees the operation
`act` do exactly what `act'` does, values and faults included. This goes through every sequence and
every loop. A session does one operation after another, also after a fault (`each`); where every
operation of it is seen as another, the whole session is (`each_seen`). -/
namespace WandArena.Run
variable {σ τ σ' τ' β γ δ : Type}

/-! ### Views -/

/-- An ending with its state seen through a view. -/
def through (view : σ → τ) : EStateM.Result Fault σ β → EStateM.Result Fault τ β
  | .ok b s => .ok b (view s)
  | .error fault s => .error fault (view s)

/-- From this state, one operation is seen as another. -/
def SeenAt (view : σ → τ) (s : σ) (act : Run σ β) (act' : Run τ β) : Prop :=
  act' (view s) = through view (act s)

/-- From every state, one operation is seen as another. -/
def Seen (view : σ → τ) (act : Run σ β) (act' : Run τ β) : Prop := ∀ s, SeenAt view s act act'

variable {view : σ → τ} {s : σ}

theorem left_through (ending : EStateM.Result Fault σ β) :
    left (through view ending) = view (left ending) := by
  cases ending <;> rfl

namespace SeenAt

theorem pure (b : β) : SeenAt view s (pure b) (pure b) := rfl

theorem throw (fault : Fault) : SeenAt (β := β) view s (throw fault) (throw fault) := rfl

theorem modify {f : σ → σ} {f' : τ → τ} (h : f' (view s) = view (f s)) :
    SeenAt view s (modify f) (modify f') :=
  congrArg (EStateM.Result.ok ()) h

/-- The second operation only has to be seen from where the first one leads. -/
theorem bind {act : Run σ β} {act' : Run τ β} {f : β → Run σ γ} {f' : β → Run τ γ}
    (hact : SeenAt view s act act') (hf : ∀ b t, act s = .ok b t → SeenAt view t (f b) (f' b)) :
    SeenAt view s (act >>= f) (act' >>= f') := by
  unfold SeenAt at hact ⊢
  cases h : act s with
  | ok b t =>
    rw [h] at hact
    rw [bind_apply_of_ok h, bind_apply_of_ok hact]
    exact hf b t h
  | error fault t =>
    rw [h] at hact
    rw [bind_apply_of_error h, bind_apply_of_error hact]
    rfl

end SeenAt

namespace Seen

/-- Whoever sees everything sees every operation do what it does. -/
theorem refl (act : Run σ β) : Seen id act act := by
  intro s
  show act s = through id (act s)
  cases act s <;> rfl

theorem pure (b : β) : Seen view (pure b) (pure b) := fun _ => rfl

theorem throw (fault : Fault) : Seen (β := β) view (throw fault) (throw fault) := fun _ => rfl

theorem modify {f : σ → σ} {f' : τ → τ} (h : ∀ s, f' (view s) = view (f s)) :
    Seen view (modify f) (modify f') :=
  fun s => .modify (h s)

theorem modifyGet {f : σ → β × σ} {f' : τ → β × τ}
    (h : ∀ s, f' (view s) = ((f s).1, view (f s).2)) : Seen view (modifyGet f) (modifyGet f') := by
  intro s
  show EStateM.Result.ok (f' (view s)).1 (f' (view s)).2 = _
  rw [h]
  rfl

theorem bind {act : Run σ β} {act' : Run τ β} {f : β → Run σ γ} {f' : β → Run τ γ}
    (hact : Seen view act act') (hf : ∀ b, Seen view (f b) (f' b)) :
    Seen view (act >>= f) (act' >>= f') :=
  fun s => (hact s).bind fun b t _ => hf b t

/-- What is done may depend on the state, if what is seen of it depends on what is seen. -/
theorem get_bind {f : σ → Run σ β} {f' : τ → Run τ β}
    (h : ∀ s, SeenAt view s (f s) (f' (view s))) :
    Seen view (MonadState.get >>= f) (MonadState.get >>= f') :=
  h

theorem lift (x : Except Fault β) : Seen view (lift x) (lift x) := by
  cases x <;> exact fun _ => rfl

theorem number (x : Except NumberFault β) : Seen view (number x) (number x) := by
  cases x <;> exact fun _ => rfl

theorem found (fault : Fault) (x : Option β) : Seen view (found fault x) (found fault x) := by
  cases x <;> exact fun _ => rfl

/-- An operation on a part is seen as another one on what is seen of the part. -/
theorem within {part : σ → σ'} {replace : σ' → σ → σ} {part' : τ → τ'} {replace' : τ' → τ → τ}
    {view' : σ' → τ'} {act : Run σ' β} {act' : Run τ' β} (hact : Seen view' act act')
    (hpart : ∀ s, part' (view s) = view' (part s))
    (hreplace : ∀ u s, replace' (view' u) (view s) = view (replace u s)) :
    Seen view (within part replace act) (within part' replace' act') := by
  intro s
  have hend : act' (part' (view s)) = through view' (act (part s)) := by
    rw [hpart]
    exact hact (part s)
  unfold SeenAt Run.within
  rw [hend]
  cases act (part s) with
  | ok b u => exact congrArg (EStateM.Result.ok b) (hreplace u s)
  | error fault u => exact congrArg (EStateM.Result.error fault) (hreplace u s)

theorem forM {f : δ → Run σ PUnit} {f' : δ → Run τ PUnit} (hf : ∀ d, Seen view (f d) (f' d))
    (ds : List δ) : Seen view (ds.forM f) (ds.forM f') := by
  induction ds with
  | nil => exact pure _
  | cons d rest ih => exact bind (hf d) fun _ => ih

theorem mapM {f : δ → Run σ β} {f' : δ → Run τ β} (hf : ∀ d, Seen view (f d) (f' d))
    (ds : List δ) : Seen view (ds.mapM f) (ds.mapM f') := by
  induction ds with
  | nil => exact pure _
  | cons d rest ih =>
    rw [List.mapM_cons, List.mapM_cons]
    exact bind (hf d) fun _ => bind ih fun _ => pure _

end Seen

/-! ### Sessions -/

/-- The value or the fault of an ending. -/
def outcome : EStateM.Result Fault σ β → Except Fault β
  | .ok b _ => .ok b
  | .error fault _ => .error fault

theorem outcome_through (ending : EStateM.Result Fault σ β) :
    outcome (through view ending) = outcome ending := by
  cases ending <;> rfl

/-- Does one operation after another, each from where the one before ended, whether it met a fault
or not. Returns all outcomes, and the state in the end. -/
def each (act : δ → Run σ β) : List δ → σ → List (Except Fault β) × σ
  | [], s => ([], s)
  | d :: rest, s =>
    let ending := act d s
    let (outcomes, last) := each act rest (left ending)
    (outcome ending :: outcomes, last)

/-- A session of operations that are seen as others is seen as a session of those. -/
theorem each_seen {act : δ → Run σ β} {act' : δ → Run τ β} (h : ∀ d, Seen view (act d) (act' d))
    (ds : List δ) (s : σ) :
    each act' ds (view s) = ((each act ds s).1, view (each act ds s).2) := by
  induction ds generalizing s with
  | nil => rfl
  | cons d rest ih =>
    have hend : act' d (view s) = through view (act d s) := h d s
    simp only [each, hend, outcome_through, left_through, ih]

/-- A session of operations that keep to a frame keeps to it. -/
theorem each_keeps {F : Frame σ} {act : δ → Run σ β} (h : ∀ d, Keeps F (act d)) (ds : List δ)
    (s : σ) : F.Allows s (each act ds s).2 := by
  induction ds generalizing s with
  | nil => exact F.refl s
  | cons d rest ih => exact F.trans (h d s) (ih _)

end WandArena.Run
