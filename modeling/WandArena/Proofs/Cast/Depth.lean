import WandArena.Proofs.Cast.Accounting
import WandArena.Proofs.Cast.Faults

/-! Casts end, and the limit of their depth is exact.

`Caster.gauge` resolves like `Caster.resolve` and keeps the depth of every draw that yields a card;
with no limit it never checks the depth. Each such draw takes a card for good, so even without the
check draws nest no deeper than there are cards (`gauge_inStep`), and the room for nested draws does
not matter once it is larger than that. With and without the check a cast goes the same way until
the first draw beyond the limit (`gauge_cut`). -/
namespace WandArena
variable {σ τ α β γ : Type}

/-- A source of cards, beside the depths of the draws that yielded one. -/
structure Gauged (σ : Type) where
  source : σ
  depths : List Int

namespace Gauged

instance [CardSource σ] : CardSource (Gauged σ) where
  draw gauged :=
    let drawn := CardSource.draw gauged.source
    ⟨{ gauged with source := drawn.rest }, drawn.wrapped, drawn.card⟩

/-- A draw at this depth yielded a card. -/
def mark (gauged : Gauged σ) (depth : Int) : Gauged σ :=
  { gauged with depths := gauged.depths ++ [depth] }

/-- Some draw that yielded a card lies beyond the limit. -/
def Beyond (limit : Int) (gauged : Gauged σ) : Prop := ∃ depth ∈ gauged.depths, limit < depth

theorem beyond_mark {limit depth : Int} {gauged : Gauged σ} :
    (gauged.mark depth).Beyond limit ↔ gauged.Beyond limit ∨ limit < depth := by
  simp only [Beyond, mark, List.mem_append, List.mem_singleton]
  constructor
  · rintro ⟨other, hold | rfl, hlt⟩
    · exact .inl ⟨other, hold, hlt⟩
    · exact .inr hlt
  · rintro (⟨other, hold, hlt⟩ | hlt)
    · exact ⟨other, .inl hold, hlt⟩
    · exact ⟨depth, .inr rfl, hlt⟩

end Gauged

/-- The room for nested draws ran out. -/
def Fault.NoRoom (fault : Fault) : Prop :=
  ∃ wand limit, fault = .config (.outOfStack wand limit)

namespace Casting

/-- Keeps the depth of a draw that yielded a card. -/
def mark (depth : Int) : Run (Casting (Gauged σ) α) Unit :=
  modify fun s => { s with source := s.source.mark depth }

/-- The state with the depth of one more draw. -/
def marked (s : Casting (Gauged σ) α) (depth : Int) : Casting (Gauged σ) α :=
  { s with source := s.source.mark depth }

/-- The same cast, with its draws gauged from here on. -/
def gauged (s : Casting σ α) : Casting (Gauged σ) α := s.onto ⟨s.source, []⟩

/-- An ending without the depths. -/
def ungauged : EStateM.Result Fault (Casting (Gauged σ) α) β →
    EStateM.Result Fault (Casting σ α) β
  | .ok b s => .ok b (s.onto s.source.source)
  | .error fault s => .error fault (s.onto s.source.source)

theorem fault?_ungauged (ending : EStateM.Result Fault (Casting (Gauged σ) α) β) :
    Run.fault? (ungauged ending) = Run.fault? ending := by
  cases ending <;> rfl

theorem left_ungauged (ending : EStateM.Result Fault (Casting (Gauged σ) α) β) :
    (Run.left (ungauged ending)).source = (Run.left ending).source.source := by
  cases ending <;> rfl

end Casting

/-- Resolves and keeps the depths. Without a limit, draws may be as deep as they like. -/
def Caster.gauge [Scalar α] [CardSource σ] (c : Caster α) (limit : Option Int) :
    Nat → Int → Run (Casting (Gauged σ) α) Unit
  | 0, _ => throw (.config (.outOfStack c.wand c.maxDepth))
  | stack + 1, depth => do
    match ← Casting.draw with
    | none => return
    | some ref =>
      Casting.mark depth
      if limit.any (· < depth) then throw (.config (.tooDeep c.wand c.maxDepth))
      else c.play (c.gauge limit stack (depth + 1)) ref

namespace Casting
variable {Q Q' : σ → τ → Prop}

theorem Matched.mono (hQ : ∀ a b, Q a b → Q' a b)
    {ending : EStateM.Result Fault (Casting σ α) β}
    {ending' : EStateM.Result Fault (Casting τ α) β}
    (h : Matched Q ending ending') : Matched Q' ending ending' := by
  cases h with
  | ok h => exact .ok (hQ _ _ h)
  | error h => exact .error (hQ _ _ h)

/-- Endings whose sources are equal are equal. -/
theorem Matched.eq {Q : σ → σ → Prop} (hQ : ∀ a b, Q a b → b = a)
    {ending ending' : EStateM.Result Fault (Casting σ α) β} (h : Matched Q ending ending') :
    ending' = ending := by
  cases h with
  | ok h => rw [hQ _ _ h]; rfl
  | error h => rw [hQ _ _ h]; rfl

theorem Matched.left {ending : EStateM.Result Fault (Casting σ α) β}
    {ending' : EStateM.Result Fault (Casting τ α) β} (h : Matched Q ending ending') :
    Q (Run.left ending).source (Run.left ending').source := by
  cases h with
  | ok h => exact h
  | error h => exact h

end Casting

/-! ### Gauging changes nothing -/

namespace Caster
variable [Scalar α]

theorem resolve_inStep_gauge [CardSource σ] (c : Caster α) (stack : Nat) (depth : Int) :
    Casting.InStep (fun (source : σ) gauged => gauged.source = source) (c.resolve stack depth)
      (c.gauge (some c.maxDepth) stack depth) := by
  induction stack generalizing depth with
  | zero => exact .throw _
  | succ stack ih =>
    have hdraws : Casting.SameDraws (fun (source : σ) (gauged : Gauged σ) =>
        gauged.source = source) := by
      rintro source gauged rfl
      exact ⟨rfl, rfl, rfl⟩
    refine .bind (.draw hdraws) fun drawn => ?_
    cases drawn with
    | none => exact .pure ()
    | some ref =>
      intro s gauged hsource
      have hrest : Casting.InStep (fun (source : σ) gauged => gauged.source = source)
          (if c.maxDepth < depth then throw (.config (.tooDeep c.wand c.maxDepth))
            else c.play (c.resolve stack (depth + 1)) ref : Run (Casting σ α) Unit)
          (if (some c.maxDepth).any (· < depth) then throw (.config (.tooDeep c.wand c.maxDepth))
            else c.play (c.gauge (some c.maxDepth) stack (depth + 1)) ref) := by
        simp only [Option.any_some, decide_eq_true_eq]
        split
        · exact .throw _
        · exact .play (ih (depth + 1)) c ref
      exact hrest s (gauged.mark depth) hsource

/-- With the limit of the settings, a cast goes the same way whether or not it is gauged. -/
theorem resolve_eq_gauge [CardSource σ] (c : Caster α) (stack : Nat) (depth : Int)
    (s : Casting σ α) :
    c.resolve stack depth s =
      Casting.ungauged (c.gauge (some c.maxDepth) stack depth s.gauged) := by
  have hmatched := resolve_inStep_gauge c stack depth s ⟨s.source, []⟩ rfl
  change Casting.Matched _ _ (c.gauge _ stack depth s.gauged) at hmatched
  generalize c.resolve stack depth s = ending at hmatched
  generalize c.gauge _ stack depth s.gauged = ending' at hmatched
  cases hmatched with
  | ok h => exact congrArg (EStateM.Result.ok _) (congrArg (Casting.onto _) h.symm)
  | error h => exact congrArg (EStateM.Result.error _) (congrArg (Casting.onto _) h.symm)

end Caster

/-! ### Each draw takes a card -/

/-- Of `total` cards, as many are gone as draws yielded one, and none of these draws was deeper than
the number of cards taken before it. The draws that come next at this depth are no exception, and
there is room for them all. -/
structure Gauged.Roomy (total stack : Nat) (depth : Int) (gauged : Gauged Row) : Prop where
  length : gauged.depths.length + gauged.source.cards.length = total
  below : ∀ depth ∈ gauged.depths, depth < gauged.depths.length
  depth_le : depth ≤ gauged.depths.length
  room : gauged.source.cards.length < stack

namespace Gauged.Roomy
variable {total stack : Nat} {depth : Int} {gauged : Gauged Row} {ref : CardRef}
  {rest : List CardRef}

/-- A draw that yields a card leaves enough room for the draws one deeper. -/
theorem mark (h : gauged.Roomy total (stack + 1) depth) (hcards : gauged.source.cards = ref :: rest)
    {source : Row} (hsource : source.cards = rest) :
    Roomy total stack (depth + 1) (Gauged.mark ⟨source, gauged.depths⟩ depth) := by
  obtain ⟨hlength, hbelow, hdepth, hroom⟩ := h
  rw [hcards, List.length_cons] at hlength hroom
  have hmore : (gauged.depths ++ [depth]).length = gauged.depths.length + 1 := List.length_append
  refine ⟨?_, fun other hother => ?_, ?_, ?_⟩ <;> simp only [Gauged.mark, hsource] at *
  · omega
  · rcases List.mem_append.1 hother with hold | hnew
    · have := hbelow other hold
      omega
    · rw [List.mem_singleton.1 hnew]
      omega
  · omega
  · omega

/-- What there is room for one deeper, there is room for here. -/
theorem shallower (h : gauged.Roomy total stack (depth + 1)) :
    gauged.Roomy total (stack + 1) depth where
  length := h.length
  below := h.below
  depth_le := by
    have := h.depth_le
    omega
  room := Nat.lt_succ_of_lt h.room

end Gauged.Roomy

/-- The source is drawn from like a row, which is counted and leaves room. -/
def Gauged.Follows (Q : σ → Row → Prop) (total stack : Nat) (depth : Int)
    (gauged : Gauged σ) : Prop :=
  ∃ row, Q gauged.source row ∧ Roomy total stack depth ⟨row, gauged.depths⟩

namespace Caster
variable [Scalar α] [CardSource σ]

theorem gauge_succ (c : Caster α) (limit : Option Int) (stack : Nat) (depth : Int)
    (s : Casting (Gauged σ) α) :
    c.gauge limit (stack + 1) depth s =
      match (CardSource.draw s.source.source).card with
      | .error fault => .error fault s.drawn
      | .ok none => .ok () s.drawn
      | .ok (some ref) =>
        if limit.any (· < depth) then
          .error (.config (.tooDeep c.wand c.maxDepth)) (s.drawn.marked depth)
        else c.play (c.gauge limit stack (depth + 1)) ref (s.drawn.marked depth) := by
  have hdraw := Casting.draw_apply s
  cases hcard : (CardSource.draw s.source.source).card with
  | error fault =>
    rw [show (CardSource.draw s.source).card = .error fault from hcard] at hdraw
    exact Run.bind_apply_of_error hdraw _
  | ok card =>
    rw [show (CardSource.draw s.source).card = .ok card from hcard] at hdraw
    refine (Run.bind_apply_of_ok hdraw _).trans ?_
    cases card with
    | none => rfl
    | some ref =>
      dsimp only
      split <;> rfl

variable {Q : σ → Row → Prop} {total stack : Nat} {depth : Int}

omit [Scalar α] in
/-- What a draw yields and leaves goes by the head of the row. -/
theorem draw_follows (hQ : Casting.SameDraws Q) {s : Casting (Gauged σ) α}
    (h : s.source.Follows Q total (stack + 1) depth) :
    ((CardSource.draw s.source.source).card = .ok none ∧
      s.drawn.source.Follows Q total (stack + 1) depth) ∨
    ∃ ref, (CardSource.draw s.source.source).card = .ok (some ref) ∧
      (s.drawn.marked depth).source.Follows Q total stack (depth + 1) := by
  obtain ⟨row, hrow, hroomy⟩ := h
  obtain ⟨hcard, -, hrest⟩ := hQ _ _ hrow
  change _ = row.draw.card at hcard
  change Q _ row.draw.rest at hrest
  cases hcards : row.cards with
  | nil =>
    rw [Piles.DrawnAlike.row_draw_nil hcards] at hcard hrest
    exact .inl ⟨hcard, row, hrest, hroomy⟩
  | cons ref rest =>
    rw [Piles.DrawnAlike.row_draw_cons hcards] at hcard hrest
    exact .inr ⟨ref, hcard, _, hrest, hroomy.mark hcards rfl⟩

omit [CardSource σ] [Scalar α] in
theorem follows_shallower {gauged : Gauged σ} (h : gauged.Follows Q total stack (depth + 1)) :
    gauged.Follows Q total (stack + 1) depth := by
  obtain ⟨row, hrow, hroomy⟩ := h
  exact ⟨row, hrow, hroomy.shallower⟩

/-- Draws nest no deeper than there are cards, so that more room for them changes nothing. -/
theorem gauge_inStep (hQ : Casting.SameDraws Q) (c : Caster α) (limit : Option Int)
    {stack' : Nat} (hle : stack ≤ stack') :
    Casting.InStep (fun a b => b = a ∧ a.Follows Q total stack depth) (c.gauge limit stack depth)
      (c.gauge limit stack' depth) := by
  induction stack generalizing stack' depth with
  | zero =>
    rintro s _ ⟨-, _, -, hroomy⟩
    exact absurd hroomy.room (Nat.not_lt_zero _)
  | succ stack ih =>
    obtain ⟨stack', rfl⟩ := Nat.exists_eq_add_one.2 (Nat.lt_of_lt_of_le stack.succ_pos hle)
    rintro s _ ⟨rfl, hs⟩
    change Casting.Matched _ _ (c.gauge limit (stack' + 1) depth s)
    rw [gauge_succ, gauge_succ]
    rcases draw_follows hQ hs with ⟨hnone, hdrawn⟩ | ⟨ref, hsome, hmarked⟩
    · rw [hnone]
      exact .ok (s := s.drawn) ⟨rfl, hdrawn⟩
    · rw [hsome]
      dsimp only
      split
      · exact .error (s := s.drawn.marked depth) ⟨rfl, follows_shallower hmarked⟩
      · have hplay := Casting.InStep.play (ih (Nat.le_of_succ_le_succ hle)) c ref
          (s.drawn.marked depth) _ ⟨rfl, hmarked⟩
        exact hplay.mono fun a b h => ⟨h.1, follows_shallower h.2⟩

/-- Where there is room for a draw more than there are cards, gauging never runs out of it. -/
theorem gauge_safe (hQ : Casting.SameDraws Q) (c : Caster α) (limit : Option Int) :
    Run.Safe (fun s => s.source.Follows Q total stack depth) (fun fault => ¬ fault.NoRoom)
      (c.gauge limit stack depth : Run (Casting (Gauged σ) α) Unit) := by
  induction stack generalizing depth with
  | zero =>
    rintro s ⟨_, -, hroomy⟩
    exact absurd hroomy.room (Nat.not_lt_zero _)
  | succ stack ih =>
    have hupheld : Casting.Upheld c.rules (fun _ => True)
        (fun s : Casting (Gauged σ) α => s.source.Follows Q total stack (depth + 1))
        (fun fault => ¬ fault.NoRoom) := by
      refine .of_source (fun gauged : Gauged σ => gauged.Follows Q total stack (depth + 1)) ?_ ?_
      · exact fun _ => nofun
      · intro fault
        cases fault <;> exact nofun
    intro s hs
    unfold Run.SafeAt
    rw [gauge_succ]
    rcases draw_follows hQ hs with ⟨hnone, hdrawn⟩ | ⟨ref, hsome, hmarked⟩
    · rw [hnone]
      exact hdrawn
    · rw [hsome]
      dsimp only
      split
      · exact nofun
      · have hplay : Run.Safe (fun s => s.source.Follows Q total stack (depth + 1))
            (fun fault => ¬ fault.NoRoom) (c.play (c.gauge limit stack (depth + 1)) ref) :=
          hupheld.play ih (fun _ => nofun) fun _ _ _ _ => trivial
        exact (hplay _ hmarked).mono (fun _ h => follows_shallower h) fun _ h => h

end Caster

/-! ### Where the limit cuts -/

namespace Casting

/-- From states on this side of the limit, the first operation ends like the second and stays on
this side, or it stops because it is too deep where the second goes beyond the limit. -/
inductive Cut (c : Caster α) (limit : Int) :
    EStateM.Result Fault (Casting (Gauged σ) α) β →
      EStateM.Result Fault (Casting (Gauged σ) α) β → Prop
  | same {ending : EStateM.Result Fault (Casting (Gauged σ) α) β}
    (hwithin : ¬ (Run.left ending).source.Beyond limit)
    (hfault : Run.fault? ending ≠ some (.config (.tooDeep c.wand c.maxDepth))) :
    Cut c limit ending ending
  | tooDeep {s : Casting (Gauged σ) α} {ending : EStateM.Result Fault (Casting (Gauged σ) α) β}
    (hbeyond : (Run.left ending).source.Beyond limit) :
    Cut c limit (.error (.config (.tooDeep c.wand c.maxDepth)) s) ending

theorem Cut.tooDeep_iff {c : Caster α} {limit : Int}
    {ending ending' : EStateM.Result Fault (Casting (Gauged σ) α) β}
    (h : Cut c limit ending ending') :
    Run.fault? ending = some (.config (.tooDeep c.wand c.maxDepth)) ↔
      (Run.left ending').source.Beyond limit := by
  cases h with
  | same hwithin hfault => exact ⟨fun h => absurd h hfault, fun h => absurd h hwithin⟩
  | tooDeep hbeyond => exact ⟨fun _ => hbeyond, fun _ => rfl⟩

theorem Cut.eq {c : Caster α} {limit : Int}
    {ending ending' : EStateM.Result Fault (Casting (Gauged σ) α) β}
    (h : Cut c limit ending ending')
    (hfault : Run.fault? ending ≠ some (.config (.tooDeep c.wand c.maxDepth))) :
    ending = ending' := by
  cases h with
  | same _ _ => rfl
  | tooDeep _ => exact absurd rfl hfault

/-- Beyond the limit there is no way back. -/
def beyondFrame (limit : Int) : Run.Frame (Casting (Gauged σ) α) where
  Allows s t := s.source.Beyond limit → t.source.Beyond limit
  refl _ := id
  trans h h' := h' ∘ h

/-- The first operation is the second one cut at the limit. -/
structure CutAt (c : Caster α) (limit : Int) (m m' : Run (Casting (Gauged σ) α) β) : Prop where
  cut : ∀ s, ¬ s.source.Beyond limit → Cut c limit (m s) (m' s)
  keeps : Run.Keeps (beyondFrame limit) m'

namespace CutAt
variable {c : Caster α} {limit : Int}

/-- An operation that draws no cards is not cut. -/
theorem of_keeps {m : Run (Casting (Gauged σ) α) β} (hm : Run.Keeps (.same (·.source)) m)
    (hfault : ∀ s, Run.fault? (m s) ≠ some (.config (.tooDeep c.wand c.maxDepth))) :
    CutAt c limit m m where
  cut s hs := by
    have hsource : (Run.left (m s)).source = s.source := hm s
    exact .same (by rwa [hsource]) (hfault s)
  keeps := hm.mono fun s t hsource hs => by
    have hsource : t.source = s.source := hsource
    rwa [hsource]

theorem pure (b : β) : CutAt (σ := σ) c limit (pure b) (pure b) :=
  of_keeps (.pure b) fun _ => nofun

theorem bind {m m' : Run (Casting (Gauged σ) α) β}
    {f f' : β → Run (Casting (Gauged σ) α) γ}
    (hm : CutAt c limit m m') (hf : ∀ b, CutAt c limit (f b) (f' b)) :
    CutAt c limit (m >>= f) (m' >>= f') where
  cut s hs := by
    have hcut := hm.cut s hs
    generalize hend : m s = ending at hcut
    generalize hend' : m' s = ending' at hcut
    cases hcut with
    | same hwithin hfault =>
      cases ending with
      | ok b t =>
        rw [Run.bind_apply_of_ok hend, Run.bind_apply_of_ok hend']
        exact (hf b).cut t hwithin
      | error fault t =>
        rw [Run.bind_apply_of_error hend, Run.bind_apply_of_error hend']
        exact .same hwithin hfault
    | tooDeep hbeyond =>
      rw [Run.bind_apply_of_error hend]
      refine .tooDeep ?_
      cases ending' with
      | ok b t =>
        rw [Run.bind_apply_of_ok hend']
        exact (hf b).keeps t hbeyond
      | error fault t =>
        rw [Run.bind_apply_of_error hend']
        exact hbeyond
  keeps := hm.keeps.bind fun b => (hf b).keeps

theorem forM {δ : Type} {f f' : δ → Run (Casting (Gauged σ) α) Unit}
    (hf : ∀ d, CutAt c limit (f d) (f' d)) (ds : List δ) :
    CutAt c limit (ds.forM f) (ds.forM f') := by
  induction ds with
  | nil => exact pure ()
  | cons d rest ih => exact bind (hf d) fun _ => ih

theorem number (x : Except NumberFault β) :
    CutAt (σ := σ) c limit (Run.number x) (Run.number x) := by
  refine of_keeps (.number x) fun s => ?_
  cases x with
  | ok b => exact nofun
  | error fault => exact nofun

theorem modify {f : Casting (Gauged σ) α → Casting (Gauged σ) α}
    (hf : ∀ s, (f s).source = s.source) : CutAt c limit (modify f) (modify f) :=
  of_keeps (.modify hf) fun _ => nofun

variable [Scalar α]

theorem stack (rules : MergeRules) (stats : Stats α) :
    CutAt (σ := σ) c limit (stack rules stats) (stack rules stats) := by
  refine of_keeps (.within (P := .any) (fun _ => trivial) fun _ _ _ => rfl) fun s => ?_
  rw [stack_apply]
  unfold EStateM.adaptExcept
  cases Stats.absorb rules stats s.cast.stats with
  | ok b merged => exact nofun
  | error fault merged => cases fault <;> exact nofun

variable {next next' : Run (Casting (Gauged σ) α) Unit}

theorem branch (h : CutAt c limit next next') (offset : Transform α) :
    CutAt c limit (branch next offset) (branch next' offset) := by
  have hunder (t : Transform α) :
      CutAt (σ := σ) c limit (setTransform t) (setTransform t) := modify fun _ => rfl
  have hbody (s : Casting (Gauged σ) α) := bind (number (s.cast.transform.compose offset)) fun t =>
    bind (hunder t) fun _ => bind h fun _ => hunder s.cast.transform
  exact ⟨fun s hs => (hbody s).cut s hs, fun s => (hbody s).keeps s⟩

theorem payload (h : CutAt c limit next next') :
    CutAt c limit (payload next) (payload next') where
  cut s hs := by
    have hcut := h.cut s.aside hs
    rw [payload_apply, payload_apply]
    generalize next s.aside = ending at hcut
    generalize next' s.aside = ending' at hcut
    cases hcut with
    | same hwithin hfault =>
      cases ending with
      | ok _ t => exact .same hwithin nofun
      | error fault t => exact .same hwithin hfault
    | tooDeep hbeyond =>
      refine .tooDeep ?_
      cases ending' with
      | ok _ t => exact hbeyond
      | error fault t => exact hbeyond
  keeps s hs := by
    have hkept : (Run.left (next' s.aside)).source.Beyond limit := h.keeps s.aside hs
    rw [payload_apply]
    cases hend : next' s.aside with
    | ok _ t => rwa [hend] at hkept
    | error fault t => rwa [hend] at hkept

theorem continuation (h : CutAt c limit next next') (kind : ShotKind) :
    CutAt c limit (continuation next kind) (continuation next' kind) := by
  cases kind with
  | normal => exact pure _
  | trigger => exact bind (payload h) fun _ => pure _
  | timer delay => exact bind (payload h) fun _ => pure _

theorem apply (h : CutAt c limit next next') (rules : MergeRules) (effect : Effect α) :
    CutAt c limit (apply rules next effect) (apply rules next' effect) := by
  cases effect with
  | modifier stats => exact bind (stack rules stats) fun _ => h
  | multicast formation => exact forM (branch h) formation
  | projectile blueprint kind =>
    have hemit (shot : Shot α (Cast α)) :
        CutAt (σ := σ) c limit (emit shot) (emit shot) := modify fun _ => rfl
    have hbody (s : Casting (Gauged σ) α) := bind (continuation h kind) fun carried =>
      hemit ⟨blueprint, s.cast.transform.position, s.cast.transform.direction, carried⟩
    exact ⟨fun s hs => (hbody s).cut s hs, fun s => (hbody s).keeps s⟩

theorem play (h : CutAt c limit next next') (c' : Caster α) (ref : CardRef) :
    CutAt c limit (c'.play next ref) (c'.play next' ref) := by
  have hfound : CutAt (σ := σ) c limit
      (Run.found (.config (.unknownCard ref.id)) (c'.cards.get? ref.id))
      (Run.found (.config (.unknownCard ref.id)) (c'.cards.get? ref.id)) := by
    refine of_keeps (.found _ _) fun s => ?_
    cases c'.cards.get? ref.id with
    | none => exact nofun
    | some card => exact nofun
  refine bind hfound fun card => bind (modify fun _ => rfl) fun _ => ?_
  have hbody (s : Casting (Gauged σ) α) : CutAt c limit
      (if s.mana < Quantity.whole card.manaCost then do note (.tooCostly card.name); next
        else do pay card; card.effects.forM (Casting.apply c'.rules next))
      (if s.mana < Quantity.whole card.manaCost then do note (.tooCostly card.name); next'
        else do pay card; card.effects.forM (Casting.apply c'.rules next')) := by
    split
    · exact bind (modify fun _ => rfl) fun _ => h
    · exact bind (modify fun _ => rfl) fun _ => forM (apply h c'.rules) card.effects
  exact ⟨fun s hs => (hbody s).cut s hs, fun s => (hbody s).keeps s⟩

end CutAt
end Casting

namespace Caster
variable [Scalar α]

/-- A cast with a limit is the cast without one, cut where that first draws beyond the limit. -/
theorem gauge_cut [CardSource σ] (c : Caster α) (hdraw : ∀ (source : σ) (fault : Fault),
      (CardSource.draw source).card = .error fault → fault ≠ .config (.tooDeep c.wand c.maxDepth))
    (stack : Nat) (depth : Int) :
    Casting.CutAt c c.maxDepth (c.gauge (some c.maxDepth) stack depth)
      (c.gauge none stack depth : Run (Casting (Gauged σ) α) Unit) := by
  induction stack generalizing depth with
  | zero => exact .of_keeps (.throw _) fun _ => nofun
  | succ stack ih =>
    have hplay := Casting.CutAt.play (ih (depth + 1)) c
    constructor
    · intro s hs
      rw [gauge_succ, gauge_succ]
      cases hcard : (CardSource.draw s.source.source).card with
      | error fault => exact .same hs fun h => hdraw _ _ hcard (Option.some.inj h)
      | ok card =>
        cases card with
        | none => exact .same hs nofun
        | some ref =>
          simp only [Option.any_some, decide_eq_true_eq, Option.any_none, Bool.false_eq_true,
            if_false]
          split
          case isTrue hlt =>
            exact .tooDeep ((hplay ref).keeps _ (Gauged.beyond_mark.2 (.inr hlt)))
          case isFalse hle =>
            exact (hplay ref).cut _ fun h => (Gauged.beyond_mark.1 h).elim hs hle
    · intro s hs
      rw [gauge_succ]
      cases (CardSource.draw s.source.source).card with
      | error fault => exact hs
      | ok card =>
        cases card with
        | none => exact hs
        | some ref => exact (hplay ref).keeps _ (Gauged.beyond_mark.2 (.inl hs))

end Caster

/-! ### Draws from piles -/

theorem Piles.draw_eq_error {piles : Piles} {fault : Fault} (h : piles.draw.card = .error fault) :
    ∃ capacity, fault = .pileFull capacity := by
  have htake {others : Piles} {wrapped : Bool} (h : (others.take wrapped).card = .error fault) :
      ∃ capacity, fault = .pileFull capacity := by
    unfold Piles.take at h
    split at h
    · cases h
    · split at h
      · cases h
      · cases h
        exact ⟨_, rfl⟩
  rw [Piles.draw_eq] at h
  split at h
  · exact htake h
  · split at h
    · exact htake h
    · cases h
      exact ⟨_, rfl⟩

/-- The row that piles are drawn like is short of a card for each draw that yielded one. -/
theorem Gauged.Follows.drawn {start : Piles} {stack : Nat} {depth : Int} {gauged : Gauged Piles}
    (h : gauged.Follows start.DrawnAlike start.row.cards.length stack depth) :
    gauged.source.hand.toList =
        start.hand.toList ++ start.row.cards.take gauged.depths.length ∧
      gauged.depths.length ≤ start.row.cards.length ∧
      ∀ depth ∈ gauged.depths, depth < gauged.depths.length := by
  obtain ⟨row, hrow, hroomy⟩ := h
  have hlength := hroomy.length
  have htaken := hrow.taken_le
  simp only [hrow.cards, List.length_drop] at hlength
  have hdepths : row.taken = gauged.depths.length := by omega
  rw [← hdepths]
  exact ⟨hrow.hand, htaken, by rw [hdepths]; exact hroomy.below⟩

namespace Caster
variable [Scalar α]

/-- With this much room for nested draws there is an end, and more room does not change it. -/
def EndsWithin {ρ : Type} (run : Nat → EStateM.Result Fault ρ β) (room : Nat) : Prop :=
  (∀ fault, Run.fault? (run room) = some fault → ¬ fault.NoRoom) ∧
    ∀ more, run (room + more) = run room

theorem gauge_ends {capacity room : Nat} (c : Caster α) (limit : Option Int)
    {s : Casting Piles α} (hfit : s.source.Fit capacity)
    (hroom : s.source.deck.used + s.source.discarded.used < room) :
    EndsWithin (fun room => c.gauge limit room 0 s.gauged) room ∧
      (Run.left (c.gauge limit room 0 s.gauged)).source.Follows s.source.DrawnAlike
        s.source.row.cards.length room 0 := by
  have hdraws := Piles.DrawnAlike.sameDraws hfit
  have hstart : s.gauged.source.Follows s.source.DrawnAlike s.source.row.cards.length room 0 := by
    refine ⟨s.source.row, .refl _, Nat.zero_add _, nofun, Int.le_refl 0, ?_⟩
    rwa [Piles.DrawnAlike.length_row]
  have hmatched (more : Nat) := gauge_inStep hdraws c limit (Nat.le_add_right room more)
    s.gauged s.gauged.source ⟨rfl, hstart⟩
  refine ⟨⟨fun fault hfault => ?_, fun more => ?_⟩, (hmatched 0).left.2⟩
  · exact (gauge_safe hdraws c limit s.gauged hstart).of_error (Run.eq_error_of_fault? hfault)
  · exact (hmatched more).eq fun _ _ h => h.1

/-- The same for the cast with the limit of the settings. -/
theorem resolve_ends {capacity room : Nat} (c : Caster α) {s : Casting Piles α}
    (hfit : s.source.Fit capacity)
    (hroom : s.source.deck.used + s.source.discarded.used < room) :
    EndsWithin (fun room => c.resolve room 0 s) room ∧
      ∃ drawn ≤ s.source.row.cards.length, (Run.left (c.resolve room 0 s)).source.hand.toList =
        s.source.hand.toList ++ s.source.row.cards.take drawn := by
  obtain ⟨⟨hroomy, hstable⟩, hfollows⟩ := gauge_ends c (some c.maxDepth) hfit hroom
  obtain ⟨hhand, hfew, -⟩ := hfollows.drawn
  unfold EndsWithin
  simp only [resolve_eq_gauge c _ 0 s, Casting.fault?_ungauged, Casting.left_ungauged]
  exact ⟨⟨hroomy, fun more => congrArg _ (hstable more)⟩, _, hfew, hhand⟩

/-- The cast with the limit is too deep exactly if the one without it draws beyond the limit. -/
theorem resolve_cut (c : Caster α) (room : Nat) (s : Casting Piles α) :
    let free := c.gauge none room 0 s.gauged
    let limited := c.resolve room 0 s
    let tooDeep := some (.config (.tooDeep c.wand c.maxDepth))
    (Run.fault? limited = tooDeep ↔ (Run.left free).source.Beyond c.maxDepth) ∧
      (Run.fault? limited ≠ tooDeep → limited = Casting.ungauged free) := by
  intro free limited tooDeep
  have hcut : Casting.Cut c c.maxDepth (c.gauge (some c.maxDepth) room 0 s.gauged) free := by
    refine (gauge_cut c (fun piles fault hfault => ?_) room 0).cut s.gauged nofun
    obtain ⟨full, rfl⟩ := Piles.draw_eq_error hfault
    exact nofun
  have hlimited : limited = Casting.ungauged (c.gauge (some c.maxDepth) room 0 s.gauged) :=
    resolve_eq_gauge c room 0 s
  rw [hlimited, Casting.fault?_ungauged]
  exact ⟨hcut.tooDeep_iff, fun h => congrArg _ (hcut.eq h)⟩

/-- Where nothing is left to draw, resolving ends well. -/
theorem resolve_nothing (c : Caster α) (stack : Nat) (depth : Int) {s : Casting Piles α}
    (hdeck : s.source.deck.toList = []) (hdiscarded : s.source.discarded.toList = []) :
    c.resolve (stack + 1) depth s = .ok () s := by
  have hnone := Piles.draw_nothing hdeck hdiscarded
  have hdrawn : s.drawn = s := by
    obtain ⟨piles, mana, rechargeDelay,
      ⟨transform, stats, shots, forceRecharge, castDelay⟩, notes⟩ := s
    show (⟨piles.draw.rest, mana, rechargeDelay,
      ⟨transform, stats, shots, forceRecharge || piles.draw.wrapped, castDelay⟩, notes⟩ :
        Casting Piles α) = _
    rw [hnone, Bool.or_false]
  have hdraw : Casting.draw s = .ok none s.drawn := by
    refine Casting.draw_eq_ok.2 ⟨?_, rfl⟩
    show s.source.draw.card = _
    rw [hnone]
  rw [hdrawn] at hdraw
  exact Run.bind_apply_of_ok hdraw _

/-- **Casts end, and the limit of their depth is exact.** From piles that hold no more than they
have room for, a cast ends even if nothing limits its depth, and each of its draws that yields a
card takes the next card of the row. The cast with the limit stops for being too deep exactly if one
of these draws lies beyond the limit, for which there have to be two cards more than the limit; else
it ends like the cast without one. A draw that finds nothing ends well, however deep it is. -/
theorem resolve_limit_exact {capacity room : Nat} (c : Caster α) (s : Casting Piles α)
    (hfit : s.source.Fit capacity)
    (hroom : s.source.deck.used + s.source.discarded.used < room) :
    let cards := s.source.deck.used + s.source.discarded.used
    let free := c.gauge none room 0 s.gauged
    let limited := c.resolve room 0 s
    let depths := (Run.left free).source.depths
    let tooDeep := some (.config (.tooDeep c.wand c.maxDepth))
    EndsWithin (fun room => c.gauge none room 0 s.gauged) room ∧
    EndsWithin (fun room => c.resolve room 0 s) room ∧
    ((Run.left free).source.source.hand.toList =
        s.source.hand.toList ++ s.source.row.cards.take depths.length ∧
      depths.length ≤ cards) ∧
    (∃ drawn ≤ cards, (Run.left limited).source.hand.toList =
      s.source.hand.toList ++ s.source.row.cards.take drawn) ∧
    (Run.fault? limited = tooDeep ↔ ∃ depth ∈ depths, c.maxDepth < depth) ∧
    (Run.fault? limited = tooDeep → c.maxDepth + 2 ≤ cards) ∧
    (Run.fault? limited ≠ tooDeep → limited = Casting.ungauged free) ∧
    ∀ (stack : Nat) (depth : Int) (t : Casting Piles α),
      t.source.deck.toList = [] → t.source.discarded.toList = [] →
        c.resolve (stack + 1) depth t = .ok () t := by
  intro cards free limited depths tooDeep
  have hcards : s.source.row.cards.length = cards := Piles.DrawnAlike.length_row _
  obtain ⟨hfree, hfollows⟩ := gauge_ends c none hfit hroom
  obtain ⟨hhand, hfew, hbelow⟩ := hfollows.drawn
  obtain ⟨hends, drawn, hfew', hhand'⟩ := resolve_ends c hfit hroom
  have hcut := resolve_cut c room s
  have hexact : Run.fault? limited = tooDeep ↔ ∃ depth ∈ depths, c.maxDepth < depth := hcut.1
  refine ⟨hfree, hends, ⟨hhand, hcards ▸ hfew⟩, ⟨drawn, hcards ▸ hfew', hhand'⟩, hexact,
    fun h => ?_, hcut.2, fun stack depth t => resolve_nothing c stack depth⟩
  obtain ⟨depth, hdepth, hlt⟩ := hexact.1 h
  have := hbelow depth hdepth
  omega

/-- A chain of triggers that is cut at the very last of four cards. -/
theorem resolve_limit_exact_bombs :
    beforeBombs.source.Fit 4 ∧
      beforeBombs.source.deck.used + beforeBombs.source.discarded.used < 5 ∧
      ({ bombCaster with maxDepth := 2 } : Caster Amount).maxDepth + 2 = 4 ∧
      Run.fault? (({ bombCaster with maxDepth := 2 } : Caster Amount).resolve 5 0 beforeBombs) =
        some (.config (.tooDeep "bomb chain" 2)) := by
  have hfit : beforeBombs.source.Fit 4 := ⟨rfl, rfl, rfl, by decide⟩
  have hroom : beforeBombs.source.deck.used + beforeBombs.source.discarded.used < 5 := by decide
  obtain ⟨-, -, -, -, hexact, -⟩ :=
    resolve_limit_exact { bombCaster with maxDepth := 2 } beforeBombs hfit hroom
  refine ⟨hfit, hroom, rfl, hexact.2 ⟨3, ?_, by decide⟩⟩
  have hdepths : (Run.left (({ bombCaster with maxDepth := 2 } : Caster Amount).gauge none 5 0
      beforeBombs.gauged)).source.depths = [0, 1, 2, 3] := by decide +kernel
  rw [hdepths]
  decide

end Caster
end WandArena
