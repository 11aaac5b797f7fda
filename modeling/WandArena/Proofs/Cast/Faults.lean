import WandArena.Proofs.Cast.Row
import WandArena.Proofs.Catalog
import WandArena.Proofs.Run.Safe

/-! What a cast may stop for.

A cast whose draws meet no fault stops for nothing but the content and the limits of its wand and
for values that do not go together (`resolve_safe`). Where all cards to be drawn are offered with
their blueprints, lifetimes are pairs, the usual rules hold and there are no more cards than draws
may nest, it stops for arithmetic alone, or because it runs out of room for nested draws
(`resolve_provided`). Both are one induction over the draws: `Upheld` asks of each single step of a
cast what either of them needs. -/
namespace WandArena
variable {σ α : Type}

namespace Fault

/-- Some arithmetic has no result. -/
inductive Numeric : Fault → Prop
  | number (fault : NumberFault) : Numeric (.number fault)

/-- Some values have no result, in arithmetic or because stats are not of the kind needed. -/
inductive OfValues : Fault → Prop
  | number (fault : NumberFault) : OfValues (.number fault)
  | notRange (rule : RangeRule) (whole : Bool) : OfValues (.notRange rule whole)
  | tooManyEnds : OfValues .tooManyEnds

/-- The fault lies in the content or the limits of a wand, or in values. -/
inductive OfCast : Fault → Prop
  | config (fault : ConfigFault) : OfCast (.config fault)
  | values {fault : Fault} (h : OfValues fault) : OfCast fault

/-- What a cast may stop for, which is the room for nested draws only where that is short. -/
def OfDraws (short : Prop) (fault : Fault) : Prop :=
  OfCast fault ∧ ∀ wand limit, fault = .config (.outOfStack wand limit) → short

/-- Some arithmetic has no result, or there is no more room for nested draws. -/
inductive OfRoom {α : Type} (c : Caster α) : Fault → Prop
  | number (fault : NumberFault) : OfRoom c (.number fault)
  | outOfStack : OfRoom c (.config (.outOfStack c.wand c.maxDepth))

theorem OfDraws.ofMerge {short : Prop} (fault : MergeFault) : OfDraws short (.ofMerge fault) := by
  cases fault with
  | noRule => exact ⟨.config _, nofun⟩
  | notRange rule whole => exact ⟨.values (.notRange rule whole), nofun⟩

end Fault

namespace Casting
variable [Scalar α]

/-- Whatever a cast does between two draws leads from `inv` to `inv`, or stops for one of the
reasons `stops`. The effects that may come up are those that `plays` allows. -/
structure Upheld (rules : MergeRules) (plays : Effect α → Prop) (inv : Casting σ α → Prop)
    (stops : Fault → Prop) : Prop where
  number : ∀ fault, stops (.number fault)
  noted : ∀ {s} note, inv s → inv (s.noted note)
  paid : ∀ {s} card, inv s → inv (s.paid card)
  under : ∀ {s} transform, inv s → inv (s.under transform)
  emitted : ∀ {s} {shot : Shot α (Cast α)} kind, plays (.projectile shot.blueprint kind) →
    inv s → inv (s.emitted shot)
  stack : ∀ {stats}, plays (.modifier stats) → Run.Safe inv stops (stack rules stats)
  aside : ∀ {s}, inv s → inv s.aside
  resume : ∀ {s t}, inv s → inv t → inv (t.resume s.cast)

namespace Upheld
variable {rules : MergeRules} {plays : Effect α → Prop} {inv : Casting σ α → Prop}
  {stops : Fault → Prop} {next : Run (Casting σ α) Unit}

theorem branch (h : Upheld rules plays inv stops) (hnext : Run.Safe inv stops next)
    (offset : Transform α) : Run.Safe inv stops (branch next offset) := by
  intro s hs
  unfold Run.SafeAt
  rw [branch_apply]
  have hback (t : Casting σ α) (ht : inv t) :
      Run.SafeAt inv stops t (setTransform s.cast.transform) :=
    h.under s.cast.transform ht
  refine Run.SafeAt.number_bind h.number fun inner _ => ?_
  exact Run.SafeAt.bind (h.under inner hs) fun _ => hnext.bind fun _ => hback

theorem payload (h : Upheld rules plays inv stops) (hnext : Run.Safe inv stops next) :
    Run.Safe inv stops (payload next) := by
  intro s hs
  have hinner := hnext s.aside (h.aside hs)
  unfold Run.SafeAt at hinner ⊢
  rw [payload_apply]
  cases hend : next s.aside with
  | ok _ t =>
    rw [hend] at hinner
    exact h.resume hs hinner
  | error fault t =>
    rw [hend] at hinner
    exact hinner

theorem continuation (h : Upheld rules plays inv stops) (hnext : Run.Safe inv stops next)
    (kind : ShotKind) : Run.Safe inv stops (continuation next kind) := by
  cases kind with
  | normal => exact .pure _
  | trigger => exact (h.payload hnext).bind fun _ => .pure _
  | timer delay => exact (h.payload hnext).bind fun _ => .pure _

theorem apply (h : Upheld rules plays inv stops) (hnext : Run.Safe inv stops next)
    {effect : Effect α} (hplays : plays effect) : Run.Safe inv stops (apply rules next effect) := by
  cases effect with
  | modifier stats => exact (h.stack hplays).bind fun _ => hnext
  | multicast formation => exact .forM fun offset _ => h.branch hnext offset
  | projectile blueprint kind =>
    refine .get_bind fun s hs => (h.continuation hnext kind s hs).bind fun carried t ht => ?_
    exact h.emitted kind hplays ht

/-- A card that is drawn may be unknown, or else its effects are allowed. -/
theorem play {c : Caster α} (h : Upheld c.rules plays inv stops) (hnext : Run.Safe inv stops next)
    {ref : CardRef} (hunknown : c.cards.get? ref.id = none → stops (.config (.unknownCard ref.id)))
    (hplays : ∀ card, c.cards.get? ref.id = some card → ∀ effect ∈ card.effects, plays effect) :
    Run.Safe inv stops (c.play next ref) := by
  intro s hs
  refine Run.SafeAt.found_bind (fun card hcard => ?_) hunknown
  refine Run.SafeAt.bind (h.noted _ hs) fun _ => .get_bind fun t ht => ?_
  split
  · exact Run.SafeAt.bind (h.noted _ ht) fun _ => hnext
  · refine Run.SafeAt.bind (h.paid card ht) fun _ => .forM fun effect heffect => ?_
    exact h.apply hnext (hplays card hcard effect heffect)

end Upheld

omit [Scalar α] in
theorem adaptExcept_safe {τ β : Type} {ε : Type} {name : ε → Fault} {m : EStateM ε τ β}
    {stops : Fault → Prop} (h : ∀ fault, stops (name fault)) :
    Run.Safe (fun _ => True) stops (EStateM.adaptExcept name m) := by
  intro s _
  unfold Run.SafeAt EStateM.adaptExcept
  cases m s with
  | ok _ _ => trivial
  | error fault _ => exact h fault

/-- Between two draws the source stays as it is, and values and merges are all that may fail. -/
theorem Upheld.of_source {rules : MergeRules} (held : σ → Prop) {stops : Fault → Prop}
    (hnumber : ∀ fault, stops (.number fault)) (hmerge : ∀ fault, stops (.ofMerge fault)) :
    Upheld rules (fun _ => True) (fun s : Casting σ α => held s.source) stops where
  number := hnumber
  noted := fun _ h => h
  paid := fun _ h => h
  under := fun _ h => h
  emitted := fun _ _ h => h
  stack := fun _ => (adaptExcept_safe hmerge).within (fun _ _ => trivial) fun _ _ h _ => h
  aside := fun h => h
  resume := fun _ h => h

/-! ### Draws from a row of cards -/

omit [Scalar α] in
/-- A draw takes the head of the row, if there is one. -/
theorem draw_row (s : Casting Row α) : draw s = .ok s.source.cards.head? s.drawn := by
  refine draw_eq_ok.2 ⟨?_, rfl⟩
  show s.source.draw.card = _
  cases hcards : s.source.cards with
  | nil => rw [Piles.DrawnAlike.row_draw_nil hcards]; rfl
  | cons card rest => rw [Piles.DrawnAlike.row_draw_cons hcards]; rfl

omit [Scalar α] in
/-- What is left of the row is its tail. -/
theorem cards_drawn (s : Casting Row α) : s.drawn.source.cards = s.source.cards.tail := by
  show s.source.draw.rest.cards = _
  cases hcards : s.source.cards with
  | nil => rw [Piles.DrawnAlike.row_draw_nil hcards, hcards]; rfl
  | cons card rest => rw [Piles.DrawnAlike.row_draw_cons hcards]; rfl

/-- A cast from a row of offered cards, no more than `left`, in which all is defined. -/
structure Provided (catalog : Catalog α) (left : Nat) (s : Casting Row α) : Prop where
  offered : ∀ ref ∈ s.source.cards, catalog.Offers ref.id
  few : s.source.cards.length ≤ left
  shots : ∀ shot ∈ s.cast.shots, catalog.blueprints.contains shot.blueprint = true
  stats : s.cast.stats.Paired

/-- An effect that a cast of offered cards may come to. -/
def Playable (catalog : Catalog α) : Effect α → Prop
  | .modifier stats => stats.Paired
  | .multicast _ => True
  | .projectile blueprint _ => catalog.blueprints.contains blueprint = true

omit [Scalar α] in
/-- All that an offered card does may be done. -/
theorem playable_of_offers {catalog : Catalog α} (hpaired : catalog.Paired) {id : String}
    {card : Card α} (hoffers : catalog.Offers id) (hcard : catalog.cards.get? id = some card) :
    ∀ effect ∈ card.effects, Playable catalog effect := by
  obtain ⟨found, hfound, hblueprints⟩ := hoffers
  obtain rfl := Option.some.inj (hfound.symm.trans hcard)
  intro effect heffect
  cases effect with
  | modifier stats => exact hpaired.modifiers hcard heffect
  | multicast formation => trivial
  | projectile blueprint kind => exact hblueprints blueprint (Catalog.mem_blueprintIds heffect)

end Casting

namespace Caster
variable [Scalar α]

/-- Resolving on a row goes by the head of the row. -/
theorem resolve_succ_row (c : Caster α) (stack : Nat) (depth : Int) (s : Casting Row α) :
    c.resolve (stack + 1) depth s =
      match s.source.cards.head? with
      | none => .ok () s.drawn
      | some ref =>
        if c.maxDepth < depth then .error (.config (.tooDeep c.wand c.maxDepth)) s.drawn
        else c.play (c.resolve stack (depth + 1)) ref s.drawn := by
  refine (Run.bind_apply_of_ok (Casting.draw_row s) _).trans ?_
  cases s.source.cards.head? with
  | none => rfl
  | some ref =>
    dsimp only
    split <;> rfl

/-- Without any promise about the content, single steps stop for no other reason than a cast may. -/
theorem upheld_any (c : Caster α) (left : Nat) (short : Prop) :
    Casting.Upheld c.rules (fun _ => True) (fun s : Casting Row α => s.source.cards.length ≤ left)
      (Fault.OfDraws short) :=
  .of_source (fun row : Row => row.cards.length ≤ left)
    (fun fault => ⟨.values (.number fault), nofun⟩) .ofMerge

/-- A cast from a row stops for nothing but content, limits and values. If it runs out of room for
nested draws, there were as many cards as there was room. -/
theorem resolve_safe (c : Caster α) {stack left : Nat} {depth : Int} {short : Prop}
    (hshort : stack ≤ left → short) :
    Run.Safe (fun s => s.source.cards.length ≤ left) (Fault.OfDraws short)
      (c.resolve stack depth : Run (Casting Row α) Unit) := by
  induction stack generalizing left depth with
  | zero => exact .throw ⟨.config _, fun _ _ _ => hshort (Nat.zero_le _)⟩
  | succ stack ih =>
    intro s hs
    have htail := Casting.cards_drawn s
    unfold Run.SafeAt
    rw [resolve_succ_row]
    cases hcards : s.source.cards with
    | nil =>
      rw [hcards] at htail
      show s.drawn.source.cards.length ≤ left
      rw [htail]
      exact Nat.zero_le _
    | cons ref rest =>
      rw [hcards] at htail hs
      dsimp only [List.head?_cons]
      split
      · exact ⟨.config _, nofun⟩
      · obtain ⟨fewer, rfl⟩ := Nat.exists_eq_add_one.2 (Nat.lt_of_lt_of_le (Nat.succ_pos _) hs)
        have hplay : Run.Safe (fun s => s.source.cards.length ≤ fewer) (Fault.OfDraws short)
            (c.play (c.resolve stack (depth + 1)) ref : Run (Casting Row α) Unit) :=
          (c.upheld_any fewer short).play (ih fun hle => hshort (by omega))
            (fun _ => ⟨.config _, nofun⟩) (fun _ _ _ _ => trivial)
        have hdrawn : s.drawn.source.cards.length ≤ fewer := by
          rw [htail]
          simp only [List.length_cons] at hs
          simp only [List.tail_cons]
          omega
        exact (hplay s.drawn hdrawn).mono (fun _ hle => by omega) fun _ h => h

/-- Under the usual rules, single steps of a cast in which all is defined stop for arithmetic alone,
and all stays defined. -/
theorem upheld_provided {c : Caster α} {catalog : Catalog α} {stops : Fault → Prop} (left : Nat)
    (hrules : c.rules = {}) (hstops : ∀ fault, stops (.number fault)) :
    Casting.Upheld c.rules (Casting.Playable catalog) (Casting.Provided catalog left) stops where
  number := hstops
  noted := fun _ h => ⟨h.offered, h.few, h.shots, h.stats⟩
  paid := fun _ h => ⟨h.offered, h.few, h.shots, h.stats⟩
  under := fun _ h => ⟨h.offered, h.few, h.shots, h.stats⟩
  emitted := by
    intro s shot _ hdefined h
    refine ⟨h.offered, h.few, fun other hother => ?_, h.stats⟩
    rcases List.mem_append.1 hother with hold | hnew
    · exact h.shots other hold
    · rw [List.mem_singleton.1 hnew]
      exact hdefined
  stack := by
    intro stats hpaired s hs
    obtain ⟨merged, hmerged, hend⟩ := Stats.absorb_usual hs.stats hpaired
    unfold Run.SafeAt
    rw [Casting.stack_apply, hrules, EStateM.adaptExcept, hmerged]
    exact ⟨hs.offered, hs.few, hs.shots, hend⟩
  aside := fun h => ⟨h.offered, h.few, nofun, .empty⟩
  resume := fun h h' => ⟨h'.offered, h'.few, h.shots, h.stats⟩

/-- Where all is provided for, a cast from a row stops for nothing but arithmetic, or because there
is no room for nested draws. -/
theorem resolve_provided {c : Caster α} {catalog : Catalog α} {stack left : Nat} {depth : Int}
    (hcards : c.cards = catalog.cards) (hrules : c.rules = {}) (hpaired : catalog.Paired)
    (hlimit : depth + left ≤ c.maxDepth + 1) :
    Run.Safe (Casting.Provided catalog left) (Fault.OfRoom c)
      (c.resolve stack depth : Run (Casting Row α) Unit) := by
  induction stack generalizing left depth with
  | zero => exact .throw .outOfStack
  | succ stack ih =>
    intro s hs
    have htail := Casting.cards_drawn s
    unfold Run.SafeAt
    rw [resolve_succ_row]
    cases hrow : s.source.cards with
    | nil =>
      rw [hrow] at htail
      exact ⟨by rw [htail]; exact nofun, by rw [htail]; exact Nat.zero_le _, hs.shots, hs.stats⟩
    | cons ref rest =>
      have hfew := hs.few
      have hoffered := hs.offered
      rw [hrow] at htail hfew hoffered
      obtain ⟨fewer, rfl⟩ := Nat.exists_eq_add_one.2 (Nat.lt_of_lt_of_le (Nat.succ_pos _) hfew)
      dsimp only [List.head?_cons]
      rw [if_neg (by omega)]
      have hoffers := hoffered ref List.mem_cons_self
      have hknown : c.cards.get? ref.id ≠ none := by
        obtain ⟨card, hcard, -⟩ := hoffers
        rw [hcards, hcard]
        exact nofun
      have hplay : Run.Safe (Casting.Provided catalog fewer) (Fault.OfRoom c)
          (c.play (c.resolve stack (depth + 1)) ref : Run (Casting Row α) Unit) :=
        (upheld_provided fewer hrules .number).play (ih (by omega))
          (fun hunknown => absurd hunknown hknown)
          (fun card hcard => Casting.playable_of_offers hpaired hoffers (hcards ▸ hcard))
      have hdrawn : s.drawn.Provided catalog fewer := by
        refine ⟨fun other hother => ?_, ?_, hs.shots, hs.stats⟩
        · rw [htail] at hother
          exact hoffered other (List.mem_cons_of_mem _ hother)
        · rw [htail]
          simp only [List.length_cons] at hfew
          simp only [List.tail_cons]
          omega
      refine (hplay s.drawn hdrawn).mono (fun t ht => ?_) fun _ h => h
      exact ⟨ht.offered, Nat.le_trans ht.few (by omega), ht.shots, ht.stats⟩

/-! ### Draws from piles -/

/-- What resolving leaves on a wand, by how it ends. -/
theorem resolveOn_ending (c : Caster α) (depth : Int) (wand : WandState α) (cast : Cast α) :
    ∃ ending, ending =
        c.resolve stackSize depth ⟨wand.piles, wand.mana, wand.rechargeDelay, cast, #[]⟩ ∧
      (c.resolveOn depth wand cast).fault = (Casting.outcome ending).fault ∧
      (c.resolveOn depth wand cast).cast = (Casting.outcome ending).cast ∧
      (c.resolveOn depth wand cast).wand.piles = Casting.sourceLeft ending := by
  refine ⟨_, rfl, ?_⟩
  unfold resolveOn
  cases c.resolve stackSize depth ⟨wand.piles, wand.mana, wand.rechargeDelay, cast, #[]⟩ with
  | ok _ t => exact ⟨rfl, rfl, rfl⟩
  | error fault t => exact ⟨rfl, rfl, rfl⟩

/-- On piles with room, a resolution stops for what it may stop for on their row, and what is left
of the cast is the same. -/
theorem resolveOn_of_safe {c : Caster α} {depth : Int} {wand : WandState α} {cast : Cast α}
    {capacity : Nat} {inv : Casting Row α → Prop} {stops : Fault → Prop}
    (hfit : wand.piles.Fit capacity)
    (hsafe : Run.SafeAt inv stops ⟨wand.piles.row, wand.mana, wand.rechargeDelay, cast, #[]⟩
      (c.resolve stackSize depth)) :
    match (c.resolveOn depth wand cast).fault with
    | some fault => stops fault
    | none => ∃ t, inv t ∧ (c.resolveOn depth wand cast).cast = t.cast := by
  obtain ⟨ending, hending, hfault, hcast, -⟩ := c.resolveOn_ending depth wand cast
  have hmatched := c.resolve_row stackSize depth
    (s := ⟨wand.piles, wand.mana, wand.rechargeDelay, cast, #[]⟩) hfit
  rw [← hending] at hmatched
  rw [hfault, hcast, hmatched.outcome_eq.1]
  change Run.Ends inv stops (c.resolve stackSize depth
    (Casting.onto ⟨wand.piles, wand.mana, wand.rechargeDelay, cast, #[]⟩ wand.piles.row)) at hsafe
  revert hsafe
  cases c.resolve stackSize depth
    (Casting.onto ⟨wand.piles, wand.mana, wand.rechargeDelay, cast, #[]⟩ wand.piles.row) with
  | ok _ t => exact fun h => ⟨t, h, rfl⟩
  | error fault t => exact id

/-- On piles with room, a cast stops for nothing but content, limits and values. If it runs out of
room for nested draws, there were as many cards as there was room. -/
theorem resolveOn_faults {c : Caster α} {depth : Int} {wand : WandState α} {cast : Cast α}
    {capacity : Nat} {fault : Fault} (hfit : wand.piles.Fit capacity)
    (h : (c.resolveOn depth wand cast).fault = some fault) :
    Fault.OfDraws (stackSize ≤ wand.piles.row.cards.length) fault := by
  have hsafe : Run.Safe
      (fun s : Casting Row α => s.source.cards.length ≤ wand.piles.row.cards.length)
      (Fault.OfDraws (stackSize ≤ wand.piles.row.cards.length)) (c.resolve stackSize depth) :=
    c.resolve_safe id
  have hend := resolveOn_of_safe hfit
    (hsafe ⟨wand.piles.row, wand.mana, wand.rechargeDelay, cast, #[]⟩ (Nat.le_refl _))
  rwa [h] at hend

/-- On piles with room, a cast in which all is provided for stops for nothing but arithmetic, or
because there is no room for nested draws. If it ends well, all it came to is defined. -/
theorem resolveOn_provided {c : Caster α} {catalog : Catalog α} {depth : Int}
    {wand : WandState α} {cast : Cast α} {capacity : Nat} (hfit : wand.piles.Fit capacity)
    (hcards : c.cards = catalog.cards) (hrules : c.rules = {}) (hpaired : catalog.Paired)
    (hoffered : ∀ ref ∈ wand.piles.row.cards, catalog.Offers ref.id)
    (hlimit : depth + wand.piles.row.cards.length ≤ c.maxDepth + 1)
    (hshots : cast.shots = []) (hstats : cast.stats.Paired) :
    (∀ fault, (c.resolveOn depth wand cast).fault = some fault → Fault.OfRoom c fault) ∧
      ((c.resolveOn depth wand cast).fault = none →
        (∀ shot ∈ (c.resolveOn depth wand cast).cast.shots,
          catalog.blueprints.contains shot.blueprint = true) ∧
        (c.resolveOn depth wand cast).cast.stats.Paired) := by
  have hstart : Casting.Provided catalog wand.piles.row.cards.length
      ⟨wand.piles.row, wand.mana, wand.rechargeDelay, cast, #[]⟩ :=
    ⟨hoffered, Nat.le_refl _, by rw [hshots]; exact nofun, hstats⟩
  have hend := resolveOn_of_safe hfit (resolve_provided hcards hrules hpaired hlimit _ hstart)
  constructor
  · intro fault hfault
    rwa [hfault] at hend
  · intro hnone
    rw [hnone] at hend
    obtain ⟨t, ht, hcast⟩ := hend
    rw [hcast]
    exact ⟨ht.shots, ht.stats⟩

end Caster
end WandArena
