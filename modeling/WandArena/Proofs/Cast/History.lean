import WandArena.Proofs.Cast.Derivation

/-! What happens in a cast, in order.

`Caster.Tells` is `Caster.Does` with a history: which stats were stacked onto the cast and which
projectiles were emitted, one after the other. What happens in a payload belongs to the history of
that payload. A cast has one history (`Tells.unique`), and all that it comes to can be read off it:
the projectiles are those emitted (`Tells.shots`), and the stats are those stacked, merged in order
(`Tells.stats`). -/
namespace WandArena
variable {σ α : Type}

inductive Happening (α : Type)
  | stacked (stats : Stats α)
  | emitted (shot : Shot α (Cast α))

namespace Happening

/-- The stats that were stacked, in order. -/
def absorbed (history : List (Happening α)) : List (Stats α) :=
  history.filterMap fun
    | .stacked stats => some stats
    | .emitted _ => none

/-- The projectiles that were emitted, in order. -/
def shots (history : List (Happening α)) : List (Shot α (Cast α)) :=
  history.filterMap fun
    | .stacked _ => none
    | .emitted shot => some shot

variable (stats : Stats α) (shot : Shot α (Cast α)) (history later : List (Happening α))

@[simp] theorem absorbed_stacked :
    absorbed (.stacked stats :: history) = stats :: absorbed history := rfl

@[simp] theorem absorbed_emitted : absorbed (.emitted shot :: history) = absorbed history := rfl

@[simp] theorem absorbed_append :
    absorbed (history ++ later) = absorbed history ++ absorbed later :=
  List.filterMap_append

@[simp] theorem shots_stacked : shots (.stacked stats :: history) = shots history := rfl

@[simp] theorem shots_emitted : shots (.emitted shot :: history) = shot :: shots history := rfl

@[simp] theorem shots_append : shots (history ++ later) = shots history ++ shots later :=
  List.filterMap_append

end Happening

/-- Blocks of stats merged one after another onto an accumulated one. -/
def Stats.absorbAll [Quantity α] (rules : MergeRules) (blocks : List (Stats α)) :
    EStateM MergeFault (Stats α) Unit :=
  blocks.forM (absorb rules)

theorem Stats.absorbAll_append [Quantity α] {rules : MergeRules} {blocks : List (Stats α)}
    {a b : Stats α} (h : absorbAll rules blocks a = .ok () b) (more : List (Stats α)) :
    absorbAll rules (blocks ++ more) a = absorbAll rules more b := by
  have happend : absorbAll rules (blocks ++ more) =
      (absorbAll rules blocks >>= fun _ => absorbAll rules more) := List.forM_append
  rw [happend]
  change EStateM.bind _ _ a = _
  simp only [EStateM.bind, h]

namespace Caster
variable [Scalar α] [CardSource σ]

/-- Doing `work` leads from one state of a cast to another, and this happens on the way. -/
inductive Tells (c : Caster α) :
    Int → Work α → Casting σ α → List (Happening α) → Casting σ α → Prop
  | exhausted {depth : Int} {s : Casting σ α} (hdraw : (CardSource.draw s.source).card = .ok none) :
    Tells c depth .draw s [] s.drawn
  | skipped {depth : Int} {s t : Casting σ α} {ref : CardRef} {card : Card α}
    {history : List (Happening α)} (hdraw : (CardSource.draw s.source).card = .ok (some ref))
    (hdepth : depth ≤ c.maxDepth) (hcard : c.cards.get? ref.id = some card)
    (hmana : s.mana < Quantity.whole card.manaCost)
    (hnext : Tells c (depth + 1) .draw
      ((s.drawn.noted (.drew card.name)).noted (.tooCostly card.name)) history t) :
    Tells c depth .draw s history t
  | played {depth : Int} {s t : Casting σ α} {ref : CardRef} {card : Card α}
    {history : List (Happening α)} (hdraw : (CardSource.draw s.source).card = .ok (some ref))
    (hdepth : depth ≤ c.maxDepth) (hcard : c.cards.get? ref.id = some card)
    (hmana : ¬ s.mana < Quantity.whole card.manaCost)
    (heffects : Tells c (depth + 1) (.effects card.effects)
      ((s.drawn.noted (.drew card.name)).paid card) history t) :
    Tells c depth .draw s history t
  | done {depth : Int} {s : Casting σ α} : Tells c depth (.effects []) s [] s
  | modifier {depth : Int} {s t u : Casting σ α} {stats merged : Stats α} {rest : List (Effect α)}
    {history later : List (Happening α)}
    (hmerge : Stats.absorb c.rules stats s.cast.stats = .ok () merged)
    (hnext : Tells c depth .draw (s.withStats merged) history t)
    (hrest : Tells c depth (.effects rest) t later u) :
    Tells c depth (.effects (.modifier stats :: rest)) s (.stacked stats :: history ++ later) u
  | gathered {depth : Int} {s t : Casting σ α} {rest : List (Effect α)}
    {history : List (Happening α)} (hrest : Tells c depth (.effects rest) s history t) :
    Tells c depth (.effects (.multicast [] :: rest)) s history t
  | branch {depth : Int} {s t u : Casting σ α} {offset inner : Transform α}
    {offsets : List (Transform α)} {rest : List (Effect α)} {history later : List (Happening α)}
    (hinner : s.cast.transform.compose offset = .ok inner)
    (hnext : Tells c depth .draw (s.under inner) history t)
    (hrest : Tells c depth (.effects (.multicast offsets :: rest)) (t.under s.cast.transform)
      later u) :
    Tells c depth (.effects (.multicast (offset :: offsets) :: rest)) s (history ++ later) u
  | plain {depth : Int} {s t : Casting σ α} {blueprint : String} {rest : List (Effect α)}
    {history : List (Happening α)}
    (hrest : Tells c depth (.effects rest) (s.emitted (shotAt s blueprint .normal)) history t) :
    Tells c depth (.effects (.projectile blueprint .normal :: rest)) s
      (.emitted (shotAt s blueprint .normal) :: history) t
  /-- The payload has a history of its own. -/
  | loaded {depth : Int} {s t u : Casting σ α} {blueprint : String} {kind : ShotKind}
    {rest : List (Effect α)} {inner history : List (Happening α)} (hkind : kind ≠ .normal)
    (hpayload : Tells c depth .draw s.aside inner t)
    (hrest : Tells c depth (.effects rest)
      ((t.resume s.cast).emitted (shotAt s blueprint (kind.carrying t.cast))) history u) :
    Tells c depth (.effects (.projectile blueprint kind :: rest)) s
      (.emitted (shotAt s blueprint (kind.carrying t.cast)) :: history) u

variable {c : Caster α} {depth : Int} {work : Work α} {s t t' : Casting σ α}
  {history history' : List (Happening α)}

/-- Whatever is done has a history. -/
theorem Does.tells (h : c.Does depth work s t) : ∃ history, c.Tells depth work s history t := by
  induction h with
  | exhausted hdraw => exact ⟨_, .exhausted hdraw⟩
  | skipped hdraw hdepth hcard hmana _ ih =>
    obtain ⟨_, hnext⟩ := ih
    exact ⟨_, .skipped hdraw hdepth hcard hmana hnext⟩
  | played hdraw hdepth hcard hmana _ ih =>
    obtain ⟨_, heffects⟩ := ih
    exact ⟨_, .played hdraw hdepth hcard hmana heffects⟩
  | done => exact ⟨_, .done⟩
  | modifier hmerge _ _ ihnext ihrest =>
    obtain ⟨_, hnext⟩ := ihnext
    obtain ⟨_, hrest⟩ := ihrest
    exact ⟨_, .modifier hmerge hnext hrest⟩
  | gathered _ ih =>
    obtain ⟨_, hrest⟩ := ih
    exact ⟨_, .gathered hrest⟩
  | branch hinner _ _ ihnext ihrest =>
    obtain ⟨_, hnext⟩ := ihnext
    obtain ⟨_, hrest⟩ := ihrest
    exact ⟨_, .branch hinner hnext hrest⟩
  | plain _ ih =>
    obtain ⟨_, hrest⟩ := ih
    exact ⟨_, .plain hrest⟩
  | loaded hkind _ _ ihpayload ihrest =>
    obtain ⟨_, hpayload⟩ := ihpayload
    obtain ⟨_, hrest⟩ := ihrest
    exact ⟨_, .loaded hkind hpayload hrest⟩

namespace Tells

/-- The projectiles of a cast are those that were emitted. -/
theorem shots (h : c.Tells depth work s history t) :
    t.cast.shots = s.cast.shots ++ Happening.shots history := by
  induction h with
  | exhausted _ | done => exact (List.append_nil _).symm
  | skipped _ _ _ _ _ ih | played _ _ _ _ _ ih | gathered _ ih => exact ih
  | modifier _ _ _ ihnext ihrest =>
    rw [ihrest, ihnext, List.append_assoc]
    simp only [List.cons_append, Happening.shots_stacked, Happening.shots_append]
    rfl
  | branch _ _ _ ihnext ihrest =>
    rw [ihrest, Happening.shots_append, ← List.append_assoc]
    exact congrArg (· ++ _) ihnext
  | plain _ ih => exact ih.trans (List.append_assoc _ _ _)
  | loaded _ _ _ _ ih => exact ih.trans (List.append_assoc _ _ _)

/-- The stats of a cast are those that were stacked, merged in order. -/
theorem stats (h : c.Tells depth work s history t) :
    Stats.absorbAll c.rules (Happening.absorbed history) s.cast.stats = .ok () t.cast.stats := by
  induction h with
  | exhausted _ | done => rfl
  | skipped _ _ _ _ _ ih | played _ _ _ _ _ ih | gathered _ ih => exact ih
  | @modifier _ s _ _ stats merged _ _ _ hmerge _ _ ihnext ihrest =>
    have hone : Stats.absorbAll c.rules [stats] s.cast.stats = .ok () merged := by
      show EStateM.bind _ _ s.cast.stats = _
      simp only [EStateM.bind, hmerge]
      rfl
    rw [List.cons_append, Happening.absorbed_stacked, Happening.absorbed_append]
    refine (Stats.absorbAll_append hone _).trans ?_
    exact (Stats.absorbAll_append ihnext _).trans ihrest
  | branch _ _ _ ihnext ihrest =>
    rw [Happening.absorbed_append]
    exact (Stats.absorbAll_append ihnext _).trans ihrest
  | plain _ ih | loaded _ _ _ _ ih => exact ih

/-- There is one way for a cast to go, and so one history. -/
theorem unique (h : c.Tells depth work s history t) (h' : c.Tells depth work s history' t') :
    history' = history ∧ t' = t := by
  induction h generalizing history' t' with
  | exhausted hdraw =>
    cases h' with
    | exhausted _ => exact ⟨rfl, rfl⟩
    | skipped hdraw' => cases hdraw.symm.trans hdraw'
    | played hdraw' => cases hdraw.symm.trans hdraw'
  | skipped hdraw _ hcard hmana _ ih =>
    cases h' with
    | exhausted hdraw' => cases hdraw.symm.trans hdraw'
    | skipped hdraw' _ hcard' _ hnext =>
      cases hdraw.symm.trans hdraw'
      cases hcard.symm.trans hcard'
      exact ih hnext
    | played hdraw' _ hcard' hmana' _ =>
      cases hdraw.symm.trans hdraw'
      cases hcard.symm.trans hcard'
      exact absurd hmana hmana'
  | played hdraw _ hcard hmana _ ih =>
    cases h' with
    | exhausted hdraw' => cases hdraw.symm.trans hdraw'
    | skipped hdraw' _ hcard' hmana' _ =>
      cases hdraw.symm.trans hdraw'
      cases hcard.symm.trans hcard'
      exact absurd hmana' hmana
    | played hdraw' _ hcard' _ heffects =>
      cases hdraw.symm.trans hdraw'
      cases hcard.symm.trans hcard'
      exact ih heffects
  | done =>
    cases h'
    exact ⟨rfl, rfl⟩
  | modifier hmerge _ _ ihnext ihrest =>
    cases h' with
    | modifier hmerge' hnext hrest =>
      cases hmerge.symm.trans hmerge'
      obtain ⟨rfl, rfl⟩ := ihnext hnext
      obtain ⟨rfl, rfl⟩ := ihrest hrest
      exact ⟨rfl, rfl⟩
  | gathered _ ih =>
    cases h' with
    | gathered hrest => exact ih hrest
  | branch hinner _ _ ihnext ihrest =>
    cases h' with
    | branch hinner' hnext hrest =>
      cases hinner.symm.trans hinner'
      obtain ⟨rfl, rfl⟩ := ihnext hnext
      obtain ⟨rfl, rfl⟩ := ihrest hrest
      exact ⟨rfl, rfl⟩
  | plain _ ih =>
    cases h' with
    | plain hrest =>
      obtain ⟨rfl, rfl⟩ := ih hrest
      exact ⟨rfl, rfl⟩
    | loaded hkind => exact absurd rfl hkind
  | loaded hkind _ _ ihpayload ihrest =>
    cases h' with
    | plain _ => exact absurd rfl hkind
    | loaded _ hpayload hrest =>
      obtain ⟨rfl, rfl⟩ := ihpayload hpayload
      obtain ⟨rfl, rfl⟩ := ihrest hrest
      exact ⟨rfl, rfl⟩

end Tells
end Caster
end WandArena
