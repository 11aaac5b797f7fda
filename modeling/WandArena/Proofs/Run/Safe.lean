import WandArena.Proofs.Run

/-! What an operation may stop for.

`Safe inv stops` says that from any state of the invariant `inv` an operation leads to another one,
or stops with a fault that `stops` allows. It goes through every sequence and every loop, so what a
long operation may stop for is found at its single steps. -/
namespace WandArena.Run
variable {σ τ β γ δ : Type} {inv inv' : σ → Prop} {stops stops' : Fault → Prop} {s : σ}

/-- The end lies in the invariant, or there is a reason for the fault. -/
def Ends (inv : σ → Prop) (stops : Fault → Prop) : EStateM.Result Fault σ β → Prop
  | .ok _ s => inv s
  | .error fault _ => stops fault

/-- From this state the operation leads into the invariant, or stops for a reason. -/
def SafeAt (inv : σ → Prop) (stops : Fault → Prop) (s : σ) (m : Run σ β) : Prop :=
  Ends inv stops (m s)

/-- The operation does so from every state of the invariant. -/
def Safe (inv : σ → Prop) (stops : Fault → Prop) (m : Run σ β) : Prop :=
  ∀ s, inv s → SafeAt inv stops s m

namespace SafeAt

theorem of_ok {m : Run σ β} {t : σ} {b : β} (hm : SafeAt inv stops s m) (h : m s = .ok b t) :
    inv t := by
  unfold SafeAt at hm
  rwa [h] at hm

theorem of_error {m : Run σ β} {t : σ} {fault : Fault} (hm : SafeAt inv stops s m)
    (h : m s = .error fault t) : stops fault := by
  unfold SafeAt at hm
  rwa [h] at hm

theorem mono {m : Run σ β} (hinv : ∀ t, inv t → inv' t)
    (hstops : ∀ fault, stops fault → stops' fault) (hm : SafeAt inv stops s m) :
    SafeAt inv' stops' s m := by
  unfold SafeAt at hm ⊢
  cases h : m s with
  | ok b t =>
    rw [h] at hm
    exact hinv t hm
  | error fault t =>
    rw [h] at hm
    exact hstops fault hm

/-- Between two operations there may be another invariant. -/
theorem bind_of {m : Run σ β} {f : β → Run σ γ} (hm : SafeAt inv' stops s m)
    (hf : ∀ b t, inv' t → SafeAt inv stops t (f b)) : SafeAt inv stops s (m >>= f) := by
  unfold SafeAt
  cases h : m s with
  | ok b t =>
    rw [bind_apply_of_ok h]
    exact hf b t (hm.of_ok h)
  | error fault t =>
    rw [bind_apply_of_error h]
    exact hm.of_error h

theorem bind {m : Run σ β} {f : β → Run σ γ} (hm : SafeAt inv stops s m)
    (hf : ∀ b, Safe inv stops (f b)) : SafeAt inv stops s (m >>= f) :=
  hm.bind_of hf

/-- An operation that keeps to a frame ends where the frame allows. -/
theorem of_keeps {F : Frame σ} {m : Run σ β} (hm : Keeps F m) (hinv : ∀ t, F.Allows s t → inv t)
    (hstops : SafeAt (fun _ => True) stops s m) : SafeAt inv stops s m := by
  unfold SafeAt at hstops ⊢
  cases hend : m s with
  | ok b t => exact hinv t (hm.of_ok hend)
  | error fault t =>
    rw [hend] at hstops
    exact hstops

/-- What is done may depend on the state that it starts from. -/
theorem get_bind {f : σ → Run σ β} (h : SafeAt inv stops s (f s)) :
    SafeAt inv stops s (MonadState.get >>= f) := h

theorem set_bind {t : σ} {m : Run σ β} (h : inv t) (hm : Safe inv stops m) :
    SafeAt inv stops s (MonadStateOf.set t >>= fun _ => m) := hm t h

/-- Until a value is found the state does not change. -/
theorem lift_bind {x : Except Fault β} {f : β → Run σ γ}
    (hok : ∀ b, x = .ok b → SafeAt inv stops s (f b))
    (herror : ∀ fault, x = .error fault → stops fault) : SafeAt inv stops s (lift x >>= f) := by
  cases x with
  | ok b => exact hok b rfl
  | error fault => exact herror fault rfl

/-- Until a number is known the state does not change. -/
theorem number_bind_or {x : Except NumberFault β} {f : β → Run σ γ}
    (hok : ∀ b, x = .ok b → SafeAt inv stops s (f b))
    (herror : ∀ fault, x = .error fault → stops (.number fault)) :
    SafeAt inv stops s (number x >>= f) := by
  cases x with
  | ok b => exact hok b rfl
  | error fault => exact herror fault rfl

theorem number_bind {x : Except NumberFault β} {f : β → Run σ γ}
    (hstops : ∀ fault, stops (.number fault)) (hok : ∀ b, x = .ok b → SafeAt inv stops s (f b)) :
    SafeAt inv stops s (number x >>= f) :=
  number_bind_or hok fun fault _ => hstops fault

theorem found_bind {fault : Fault} {x : Option β} {f : β → Run σ γ}
    (hsome : ∀ b, x = some b → SafeAt inv stops s (f b)) (hnone : x = none → stops fault) :
    SafeAt inv stops s (found fault x >>= f) := by
  cases x with
  | some b => exact hsome b rfl
  | none => exact hnone rfl

theorem within {P : τ → Prop} {part : σ → τ} {replace : τ → σ → σ} {act : Run τ β}
    (hact : SafeAt P stops (part s) act) (h : ∀ u, P u → inv (replace u s)) :
    SafeAt inv stops s (within part replace act) := by
  unfold SafeAt at hact ⊢
  unfold Run.within
  cases hrun : act (part s) with
  | ok b u =>
    rw [hrun] at hact
    exact h u hact
  | error fault u =>
    rw [hrun] at hact
    exact hact

end SafeAt

namespace Safe

theorem pure (b : β) : Safe inv stops (pure b) := fun _ h => h

theorem throw {fault : Fault} (h : stops fault) : Safe inv stops (throw fault : Run σ β) :=
  fun _ _ => h

theorem modify {f : σ → σ} (h : ∀ s, inv s → inv (f s)) : Safe inv stops (modify f) := h

theorem modifyGet {f : σ → β × σ} (h : ∀ s, inv s → inv (f s).2) :
    Safe inv stops (modifyGet f) := h

theorem bind {m : Run σ β} {f : β → Run σ γ} (hm : Safe inv stops m)
    (hf : ∀ b, Safe inv stops (f b)) : Safe inv stops (m >>= f) :=
  fun s h => (hm s h).bind hf

/-- What is done may depend on the state that it starts from. -/
theorem get_bind {f : σ → Run σ β} (hf : ∀ s, inv s → SafeAt inv stops s (f s)) :
    Safe inv stops (MonadState.get >>= f) := hf

theorem number (hstops : ∀ fault, stops (.number fault)) (x : Except NumberFault β) :
    Safe inv stops (number x) := by
  cases x with
  | ok b => exact pure b
  | error fault => exact throw (hstops fault)

/-- An operation on a part that leads there from one invariant into another. -/
theorem within {P : τ → Prop} {part : σ → τ} {replace : τ → σ → σ} {act : Run τ β}
    (hact : Safe P stops act) (hpart : ∀ s, inv s → P (part s))
    (h : ∀ s u, inv s → P u → inv (replace u s)) : Safe inv stops (within part replace act) :=
  fun s hs => .within (hact (part s) (hpart s hs)) fun u => h s u hs

theorem forM {f : δ → Run σ PUnit} {ds : List δ} (hf : ∀ d ∈ ds, Safe inv stops (f d)) :
    Safe inv stops (ds.forM f) := by
  induction ds with
  | nil => exact pure _
  | cons d rest ih =>
    exact bind (hf d List.mem_cons_self) fun _ => ih fun e he => hf e (List.mem_cons_of_mem _ he)

theorem mapM {f : δ → Run σ β} {ds : List δ} (hf : ∀ d ∈ ds, Safe inv stops (f d)) :
    Safe inv stops (ds.mapM f) := by
  induction ds with
  | nil => exact pure _
  | cons d rest ih =>
    rw [List.mapM_cons]
    refine bind (hf d List.mem_cons_self) fun _ => ?_
    exact bind (ih fun e he => hf e (List.mem_cons_of_mem _ he)) fun _ => pure _

theorem filterM {f : δ → Run σ Bool} (hf : ∀ d, Safe inv stops (f d)) (ds : List δ) :
    Safe inv stops (ds.filterM f) := by
  have hfilter (kept : List δ) : Safe inv stops (ds.filterAuxM f kept) := by
    induction ds generalizing kept with
    | nil => exact pure _
    | cons d rest ih => exact bind (hf d) fun _ => ih _
  exact bind (hfilter []) fun _ => pure _

end Safe
end WandArena.Run
