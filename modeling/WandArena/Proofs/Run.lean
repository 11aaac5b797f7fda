import WandArena.Fault

/-! How an operation on a state ends.

`bind_eq_ok` and `bind_eq_error` take two operations in a row apart, and the equations before
them say where a single operation ends. `Keeps F` says that whether an operation succeeds or meets
a fault, it leads from a state only to one that the frame `F` allows; since frames chain, this goes
through every sequence and every loop. -/
namespace WandArena.Run
variable {σ τ β γ : Type}

@[simp] theorem pure_apply (b : β) (s : σ) : (pure b : Run σ β) s = .ok b s := rfl

@[simp] theorem throw_apply (fault : Fault) (s : σ) :
    (throw fault : Run σ β) s = .error fault s := rfl

@[simp] theorem get_apply (s : σ) : (get : Run σ σ) s = .ok s s := rfl

@[simp] theorem set_apply (s t : σ) : (set t : Run σ Unit) s = .ok () t := rfl

@[simp] theorem modify_apply (f : σ → σ) (s : σ) : (modify f : Run σ Unit) s = .ok () (f s) := rfl

theorem bind_apply_of_ok {m : Run σ β} {s t : σ} {b : β} (h : m s = .ok b t) (f : β → Run σ γ) :
    (m >>= f) s = f b t := by
  change EStateM.bind m f s = _
  simp only [EStateM.bind, h]

theorem bind_apply_of_error {m : Run σ β} {s t : σ} {fault : Fault} (h : m s = .error fault t)
    (f : β → Run σ γ) : (m >>= f) s = .error fault t := by
  change EStateM.bind m f s = _
  simp only [EStateM.bind, h]

/-- Two operations in a row succeed if the first does and the second does from there. -/
theorem bind_eq_ok {m : Run σ β} {f : β → Run σ γ} {s u : σ} {c : γ} :
    (m >>= f) s = .ok c u ↔ ∃ b t, m s = .ok b t ∧ f b t = .ok c u := by
  constructor
  · intro h
    cases hm : m s with
    | ok b t => exact ⟨b, t, rfl, (bind_apply_of_ok hm f).symm.trans h⟩
    | error fault t =>
      rw [bind_apply_of_error hm] at h
      cases h
  · rintro ⟨b, t, hm, h⟩
    exact (bind_apply_of_ok hm f).trans h

/-- Two operations in a row meet a fault if the first does, or else the second from there. -/
theorem bind_eq_error {m : Run σ β} {f : β → Run σ γ} {s u : σ} {fault : Fault} :
    (m >>= f) s = .error fault u ↔
      m s = .error fault u ∨ ∃ b t, m s = .ok b t ∧ f b t = .error fault u := by
  constructor
  · intro h
    cases hm : m s with
    | ok b t => exact .inr ⟨b, t, rfl, (bind_apply_of_ok hm f).symm.trans h⟩
    | error other t =>
      rw [bind_apply_of_error hm] at h
      cases h
      exact .inl rfl
  · rintro (hm | ⟨b, t, hm, h⟩)
    · exact bind_apply_of_error hm f
    · exact (bind_apply_of_ok hm f).trans h

theorem forM_singleton_apply {δ : Type} {f : δ → Run σ PUnit} {d : δ} {s t : σ}
    (h : f d s = .ok () t) : [d].forM f s = .ok () t :=
  bind_apply_of_ok h _

/-- A loop of which each round does its part, and undoes no other, does all parts. -/
theorem forM_each {δ : Type} {f : δ → Run σ PUnit} {inv : σ → Prop} {part : δ → σ → Prop}
    (hround : ∀ d s t, inv s → f d s = .ok () t →
      inv t ∧ part d t ∧ ∀ e, part e s → part e t)
    {ds : List δ} {s t : σ} (hs : inv s) (h : ds.forM f s = .ok () t) :
    inv t ∧ (∀ d ∈ ds, part d t) ∧ ∀ e, part e s → part e t := by
  induction ds generalizing s with
  | nil =>
    cases h
    exact ⟨hs, nofun, fun _ => id⟩
  | cons d rest ih =>
    obtain ⟨_, mid, hfirst, hrest⟩ := bind_eq_ok.1 h
    obtain ⟨hmid, hpart, hkeep⟩ := hround d s mid hs hfirst
    obtain ⟨ht, hparts, hkeep'⟩ := ih hmid hrest
    refine ⟨ht, fun e he => ?_, fun e he => hkeep' e (hkeep e he)⟩
    rcases List.mem_cons.1 he with rfl | he
    · exact hkeep' e hpart
    · exact hparts e he

/-- A filter leaves only what was there. -/
theorem mem_of_filterM {δ : Type} {f : δ → Run σ Bool} {ds kept : List δ} {s t : σ}
    (h : ds.filterM f s = .ok kept t) {d : δ} (hd : d ∈ kept) : d ∈ ds := by
  have hfilter (later before : List δ) (s : σ) {all : List δ} {t : σ}
      (h : later.filterAuxM f before s = .ok all t) : d ∈ all → d ∈ before ∨ d ∈ later := by
    induction later generalizing before s with
    | nil =>
      cases h
      exact .inl
    | cons e rest ih =>
      obtain ⟨keep, mid, -, hrest⟩ := bind_eq_ok.1 h
      intro hall
      rcases ih _ mid hrest hall with hbefore | hlater
      · cases keep with
        | true =>
          rcases List.mem_cons.1 hbefore with rfl | hbefore
          · exact .inr List.mem_cons_self
          · exact .inl hbefore
        | false => exact .inl hbefore
      · exact .inr (List.mem_cons_of_mem _ hlater)
  obtain ⟨found, _, hfound, hpure⟩ := bind_eq_ok.1 h
  cases hpure
  exact (hfilter ds [] s hfound (List.mem_reverse.1 hd)).resolve_left List.not_mem_nil

theorem lift_eq_ok {x : Except Fault β} {s t : σ} {b : β} :
    (lift x : Run σ β) s = .ok b t ↔ x = .ok b ∧ t = s := by
  cases x <;> simp [lift, eq_comm]

theorem lift_eq_error {x : Except Fault β} {s t : σ} {fault : Fault} :
    (lift x : Run σ β) s = .error fault t ↔ x = .error fault ∧ t = s := by
  cases x <;> simp [lift, eq_comm]

theorem number_eq_ok {x : Except NumberFault β} {s t : σ} {b : β} :
    (number x : Run σ β) s = .ok b t ↔ x = .ok b ∧ t = s := by
  cases x <;> simp [number, eq_comm]

theorem found_eq_ok {fault : Fault} {x : Option β} {s t : σ} {b : β} :
    (found fault x : Run σ β) s = .ok b t ↔ x = some b ∧ t = s := by
  cases x <;> simp [found, eq_comm]

theorem found_eq_error {fault other : Fault} {x : Option β} {s t : σ} :
    (found fault x : Run σ β) s = .error other t ↔ x = none ∧ other = fault ∧ t = s := by
  cases x <;> simp [found, eq_comm]

/-- An operation on a part succeeds as it does on the part alone. -/
theorem within_eq_ok {part : σ → τ} {replace : τ → σ → σ} {act : Run τ β} {s t : σ} {b : β} :
    within part replace act s = .ok b t ↔ ∃ u, act (part s) = .ok b u ∧ t = replace u s := by
  unfold within
  cases act (part s) with
  | ok c u => simp [and_assoc, eq_comm]
  | error fault u => simp

theorem within_eq_error {part : σ → τ} {replace : τ → σ → σ} {act : Run τ β} {s t : σ}
    {fault : Fault} :
    within part replace act s = .error fault t ↔
      ∃ u, act (part s) = .error fault u ∧ t = replace u s := by
  unfold within
  cases act (part s) with
  | ok c u => simp
  | error other u => simp [and_assoc, eq_comm]

/-! ### What an operation keeps -/

/-- What may become of a state. -/
structure Frame (σ : Type) where
  Allows : σ → σ → Prop
  refl : ∀ s, Allows s s
  trans : ∀ {s t u}, Allows s t → Allows t u → Allows s u

/-- One view of the state stays the same. -/
def Frame.same (view : σ → τ) : Frame σ :=
  ⟨fun s t => view t = view s, fun _ => rfl, fun h h' => h'.trans h⟩

/-- An invariant is not broken. -/
def Frame.keeping (inv : σ → Prop) : Frame σ :=
  ⟨fun s t => inv s → inv t, fun _ h => h, fun h h' hs => h' (h hs)⟩

/-- What a frame of a larger state lets become of a part. -/
def Frame.pull (F : Frame σ) (whole : τ → σ) : Frame τ :=
  ⟨fun s t => F.Allows (whole s) (whole t), fun s => F.refl (whole s), F.trans⟩

/-- Anything may become of the state. -/
def Frame.any : Frame σ := ⟨fun _ _ => True, fun _ => trivial, fun _ _ => trivial⟩

/-- The state in which an operation ends, with or without a fault. -/
def left : EStateM.Result Fault σ β → σ
  | .ok _ s => s
  | .error _ s => s

/-- The value with which an operation ends, if there is no fault. -/
def value? : EStateM.Result Fault σ β → Option β
  | .ok b _ => some b
  | .error _ _ => none

theorem eq_ok_of_value? {ending : EStateM.Result Fault σ β} {b : β} (h : value? ending = some b) :
    ending = .ok b (left ending) := by
  cases ending with
  | ok c s =>
    cases h
    rfl
  | error fault s => cases h

/-- The fault with which an operation ends, if there is one. -/
def fault? : EStateM.Result Fault σ β → Option Fault
  | .ok _ _ => none
  | .error fault _ => some fault

theorem eq_error_of_fault? {ending : EStateM.Result Fault σ β} {fault : Fault}
    (h : fault? ending = some fault) : ending = .error fault (left ending) := by
  cases ending with
  | ok b s => cases h
  | error other s =>
    cases h
    rfl

/-- From this state the operation keeps to the frame, however it ends. -/
def KeepsAt (F : Frame σ) (s : σ) (m : Run σ β) : Prop := F.Allows s (left (m s))

/-- The operation keeps to the frame from every state. -/
def Keeps (F : Frame σ) (m : Run σ β) : Prop := ∀ s, KeepsAt F s m

variable {F G : Frame σ}

namespace KeepsAt
variable {s : σ}

theorem pure (b : β) : KeepsAt F s (pure b) := F.refl s

theorem set {t : σ} (h : F.Allows s t) : KeepsAt F s (set t) := h

theorem set_bind {t : σ} {m : Run σ β} (h : F.Allows s t) (hm : Keeps F m) :
    KeepsAt F s (MonadStateOf.set t >>= fun _ => m) := F.trans h (hm t)

theorem modify_bind {f : σ → σ} {m : Run σ β} (h : F.Allows s (f s)) (hm : Keeps F m) :
    KeepsAt F s (modify f >>= fun _ => m) := F.trans h (hm (f s))

/-- The state has not changed once a value is looked up. -/
theorem lift_bind {x : Except Fault β} {f : β → Run σ γ} (hf : ∀ b, KeepsAt F s (f b)) :
    KeepsAt F s (lift x >>= f) := by
  cases x with
  | ok b => exact hf b
  | error fault => exact F.refl s

/-- The state has not changed once a number is known. -/
theorem number_bind {x : Except NumberFault β} {f : β → Run σ γ} (hf : ∀ b, KeepsAt F s (f b)) :
    KeepsAt F s (number x >>= f) := by
  cases x with
  | ok b => exact hf b
  | error fault => exact F.refl s

theorem within {P : Frame τ} {part : σ → τ} {replace : τ → σ → σ} {act : Run τ β}
    (hact : Keeps P act) (h : ∀ u, P.Allows (part s) u → F.Allows s (replace u s)) :
    KeepsAt F s (within part replace act) := by
  have hpart : P.Allows (part s) (left (act (part s))) := hact (part s)
  show F.Allows s (left (Run.within part replace act s))
  unfold Run.within
  cases hend : act (part s) with
  | ok b u =>
    rw [hend] at hpart
    exact h u hpart
  | error fault u =>
    rw [hend] at hpart
    exact h u hpart

end KeepsAt

namespace Keeps

theorem of_ok {m : Run σ β} {s t : σ} {b : β} (hm : Keeps F m) (h : m s = .ok b t) :
    F.Allows s t := by
  have hs : F.Allows s (left (m s)) := hm s
  rwa [h] at hs

theorem of_error {m : Run σ β} {s t : σ} {fault : Fault} (hm : Keeps F m)
    (h : m s = .error fault t) : F.Allows s t := by
  have hs : F.Allows s (left (m s)) := hm s
  rwa [h] at hs

theorem mono {m : Run σ β} (hFG : ∀ s t, F.Allows s t → G.Allows s t) (hm : Keeps F m) :
    Keeps G m :=
  fun s => hFG _ _ (hm s)

theorem pure (b : β) : Keeps F (pure b) := F.refl

theorem throw (fault : Fault) : Keeps F (throw fault : Run σ β) := F.refl

theorem modify {f : σ → σ} (h : ∀ s, F.Allows s (f s)) : Keeps F (modify f) := h

theorem modifyGet {f : σ → β × σ} (h : ∀ s, F.Allows s (f s).2) : Keeps F (modifyGet f) := h

theorem bind {m : Run σ β} {f : β → Run σ γ} (hm : Keeps F m) (hf : ∀ b, Keeps F (f b)) :
    Keeps F (m >>= f) := by
  intro s
  show F.Allows s (left ((m >>= f) s))
  cases h : m s with
  | ok b t =>
    rw [bind_apply_of_ok h]
    exact F.trans (hm.of_ok h) (hf b t)
  | error fault t =>
    rw [bind_apply_of_error h]
    exact hm.of_error h

/-- Either the first operation ends it, within the frame, or all depends on what follows. -/
theorem bind_or {m : Run σ β} {f : β → Run σ γ} {s t : σ} {P : EStateM.Result Fault σ γ → Prop}
    (hm : Keeps F m) (h : F.Allows s t)
    (herror : ∀ fault u, F.Allows s u → P (.error fault u))
    (hf : ∀ b u, F.Allows s u → P (f b u)) : P ((m >>= f) t) := by
  cases hend : m t with
  | ok b u =>
    rw [bind_apply_of_ok hend]
    exact hf b u (F.trans h (hm.of_ok hend))
  | error fault u =>
    rw [bind_apply_of_error hend]
    exact herror fault u (F.trans h (hm.of_error hend))

/-- What is done may depend on the state that it starts from. -/
theorem get_bind {f : σ → Run σ β} (hf : ∀ s, KeepsAt F s (f s)) :
    Keeps F (MonadState.get >>= f) := hf

theorem lift (x : Except Fault β) : Keeps F (lift x) := by
  cases x with
  | ok b => exact pure b
  | error fault => exact throw fault

theorem number (x : Except NumberFault β) : Keeps F (number x) := by
  cases x with
  | ok b => exact pure b
  | error fault => exact throw _

theorem found (fault : Fault) (x : Option β) : Keeps F (found fault x) := by
  cases x with
  | some b => exact pure b
  | none => exact throw fault

/-- An operation on a part keeps to a frame of the whole if it keeps to one of the part. -/
theorem within {P : Frame τ} {part : σ → τ} {replace : τ → σ → σ} {act : Run τ β}
    (hact : Keeps P act) (h : ∀ s u, P.Allows (part s) u → F.Allows s (replace u s)) :
    Keeps F (within part replace act) :=
  fun s => KeepsAt.within hact (h s)

variable {δ : Type}

theorem forM_of_mem {f : δ → Run σ PUnit} {ds : List δ} (hf : ∀ d ∈ ds, Keeps F (f d)) :
    Keeps F (ds.forM f) := by
  induction ds with
  | nil => exact pure _
  | cons d rest ih =>
    exact bind (hf d List.mem_cons_self) fun _ => ih fun d hd => hf d (List.mem_cons_of_mem _ hd)

theorem forM {f : δ → Run σ PUnit} (hf : ∀ d, Keeps F (f d)) (ds : List δ) :
    Keeps F (ds.forM f) :=
  forM_of_mem fun d _ => hf d

theorem mapM {f : δ → Run σ β} (hf : ∀ d, Keeps F (f d)) (ds : List δ) : Keeps F (ds.mapM f) := by
  induction ds with
  | nil => exact pure _
  | cons d rest ih =>
    rw [List.mapM_cons]
    exact bind (hf d) fun _ => bind ih fun _ => pure _

theorem filterM {f : δ → Run σ Bool} (hf : ∀ d, Keeps F (f d)) (ds : List δ) :
    Keeps F (ds.filterM f) := by
  have hfilter (kept : List δ) : Keeps F (ds.filterAuxM f kept) := by
    induction ds generalizing kept with
    | nil => exact pure _
    | cons d rest ih => exact bind (hf d) fun _ => ih _
  exact bind (hfilter []) fun _ => pure _

end Keeps
end WandArena.Run
