import WandArena.Proofs.Cast.Steps

/-! Casts that end well, as derivations.

`Caster.Does` lists the rules of resolving one by one: a draw that finds nothing, skips a card or
plays it, and a played card whose effects are done in order, each draw they ask for coming with a
derivation of its own. `does_of_resolve` turns a resolution without a fault into such a derivation,
so what holds of all casts that end well is proved by one induction on the rules, without a look
at the room left for nested draws. -/
namespace WandArena
variable {σ α : Type}

/-- What a projectile of a kind carries when its payload has resolved to a cast. -/
def ShotKind.carrying {κ : Type} (payload : κ) : ShotKind → Continuation κ
  | .normal => .normal
  | .trigger => .trigger (some payload)
  | .timer delay => .timer delay (some payload)

/-- What there is to do: a draw with everything it asks for, or the effects left of a card. -/
inductive Work (α : Type)
  | draw
  | effects (left : List (Effect α))

namespace Caster
variable [Scalar α]

/-- The shot that a projectile effect emits where the cast stands. -/
def shotAt (s : Casting σ α) (blueprint : String) (carried : Continuation (Cast α)) :
    Shot α (Cast α) :=
  ⟨blueprint, s.cast.transform.position, s.cast.transform.direction, carried⟩

variable [CardSource σ]

/-- Doing `work`, whose draws are at `depth`, leads from one state of a cast to another. -/
inductive Does (c : Caster α) : Int → Work α → Casting σ α → Casting σ α → Prop
  /-- There is no card left to draw. -/
  | exhausted {depth : Int} {s : Casting σ α} (hdraw : (CardSource.draw s.source).card = .ok none) :
    Does c depth .draw s s.drawn
  /-- The card cannot be paid for. -/
  | skipped {depth : Int} {s t : Casting σ α} {ref : CardRef} {card : Card α}
    (hdraw : (CardSource.draw s.source).card = .ok (some ref)) (hdepth : depth ≤ c.maxDepth)
    (hcard : c.cards.get? ref.id = some card) (hmana : s.mana < Quantity.whole card.manaCost)
    (hnext : Does c (depth + 1) .draw
      ((s.drawn.noted (.drew card.name)).noted (.tooCostly card.name)) t) :
    Does c depth .draw s t
  | played {depth : Int} {s t : Casting σ α} {ref : CardRef} {card : Card α}
    (hdraw : (CardSource.draw s.source).card = .ok (some ref)) (hdepth : depth ≤ c.maxDepth)
    (hcard : c.cards.get? ref.id = some card) (hmana : ¬ s.mana < Quantity.whole card.manaCost)
    (heffects : Does c (depth + 1) (.effects card.effects)
      ((s.drawn.noted (.drew card.name)).paid card) t) :
    Does c depth .draw s t
  | done {depth : Int} {s : Casting σ α} : Does c depth (.effects []) s s
  | modifier {depth : Int} {s t u : Casting σ α} {stats merged : Stats α} {rest : List (Effect α)}
    (hmerge : Stats.absorb c.rules stats s.cast.stats = .ok () merged)
    (hnext : Does c depth .draw (s.withStats merged) t) (hrest : Does c depth (.effects rest) t u) :
    Does c depth (.effects (.modifier stats :: rest)) s u
  /-- All branches of a multicast are done. -/
  | gathered {depth : Int} {s t : Casting σ α} {rest : List (Effect α)}
    (hrest : Does c depth (.effects rest) s t) :
    Does c depth (.effects (.multicast [] :: rest)) s t
  | branch {depth : Int} {s t u : Casting σ α} {offset inner : Transform α}
    {offsets : List (Transform α)} {rest : List (Effect α)}
    (hinner : s.cast.transform.compose offset = .ok inner)
    (hnext : Does c depth .draw (s.under inner) t)
    (hrest : Does c depth (.effects (.multicast offsets :: rest)) (t.under s.cast.transform) u) :
    Does c depth (.effects (.multicast (offset :: offsets) :: rest)) s u
  | plain {depth : Int} {s t : Casting σ α} {blueprint : String} {rest : List (Effect α)}
    (hrest : Does c depth (.effects rest) (s.emitted (shotAt s blueprint .normal)) t) :
    Does c depth (.effects (.projectile blueprint .normal :: rest)) s t
  /-- The payload is drawn before the projectile is emitted. -/
  | loaded {depth : Int} {s t u : Casting σ α} {blueprint : String} {kind : ShotKind}
    {rest : List (Effect α)} (hkind : kind ≠ .normal) (hpayload : Does c depth .draw s.aside t)
    (hrest : Does c depth (.effects rest)
      ((t.resume s.cast).emitted (shotAt s blueprint (kind.carrying t.cast))) u) :
    Does c depth (.effects (.projectile blueprint kind :: rest)) s u

/-! ### From a resolution to its derivation -/

section Effects
variable {c : Caster α} {depth : Int} {next : Run (Casting σ α) Unit}

omit [CardSource σ] in
/-- A modifier that does not fail has its stats merged and draws on. -/
theorem modifier_eq_ok {stats : Stats α} {s t : Casting σ α}
    (h : Casting.apply c.rules next (.modifier stats) s = .ok () t) :
    ∃ merged, Stats.absorb c.rules stats s.cast.stats = .ok () merged ∧
      next (s.withStats merged) = .ok () t := by
  obtain ⟨_, u, hstack, hnext⟩ := Run.bind_eq_ok.1 h
  rw [Casting.stack_apply, EStateM.adaptExcept] at hstack
  cases hmerge : Stats.absorb c.rules stats s.cast.stats with
  | ok _ merged =>
    rw [hmerge] at hstack
    cases hstack
    exact ⟨merged, rfl, hnext⟩
  | error fault merged =>
    rw [hmerge] at hstack
    cases hstack

omit [CardSource σ] in
theorem branch_eq_ok {offset : Transform α} {s t : Casting σ α}
    (h : Casting.branch next offset s = .ok () t) :
    ∃ inner u, s.cast.transform.compose offset = .ok inner ∧ next (s.under inner) = .ok () u ∧
      t = u.under s.cast.transform := by
  rw [Casting.branch_apply] at h
  obtain ⟨inner, _, hcompose, h⟩ := Run.bind_eq_ok.1 h
  obtain ⟨hinner, rfl⟩ := Run.number_eq_ok.1 hcompose
  rw [Run.bind_apply_of_ok (Casting.setTransform_apply _ _)] at h
  obtain ⟨_, u, hnext, hback⟩ := Run.bind_eq_ok.1 h
  cases hback
  exact ⟨inner, u, hinner, hnext, rfl⟩

omit [CardSource σ] in
theorem payload_eq_ok {s t : Casting σ α} {carried : Cast α}
    (h : Casting.payload next s = .ok carried t) :
    ∃ u, next s.aside = .ok () u ∧ carried = u.cast ∧ t = u.resume s.cast := by
  rw [Casting.payload_apply] at h
  cases hnext : next s.aside with
  | ok _ u =>
    rw [hnext] at h
    cases h
    exact ⟨u, rfl, rfl, rfl⟩
  | error fault u =>
    rw [hnext] at h
    cases h

omit [CardSource σ] in
/-- A projectile that does not fail is emitted as it is, or with the payload it carries. -/
theorem projectile_eq_ok {blueprint : String} {kind : ShotKind} {s t : Casting σ α}
    (h : Casting.apply c.rules next (.projectile blueprint kind) s = .ok () t) :
    kind = .normal ∧ t = s.emitted (shotAt s blueprint .normal) ∨
      kind ≠ .normal ∧ ∃ u, next s.aside = .ok () u ∧
        t = (u.resume s.cast).emitted (shotAt s blueprint (kind.carrying u.cast)) := by
  obtain ⟨_, _, hget, h⟩ := Run.bind_eq_ok.1 h
  cases hget
  obtain ⟨carried, u, hcarried, hemit⟩ := Run.bind_eq_ok.1 h
  cases (Casting.emit_apply _ _).symm.trans hemit
  cases kind with
  | normal =>
    cases hcarried
    exact .inl ⟨rfl, rfl⟩
  | trigger | timer =>
    obtain ⟨payload, _, hpayload, hpure⟩ := Run.bind_eq_ok.1 hcarried
    cases hpure
    obtain ⟨v, hnext, rfl, rfl⟩ := payload_eq_ok hpayload
    exact .inr ⟨nofun, v, hnext, rfl⟩

/-- Effects done one after another have a derivation if the draws they ask for have one. -/
theorem does_effects (hnext : ∀ s t, next s = .ok () t → c.Does depth .draw s t)
    (effects : List (Effect α)) {s t : Casting σ α}
    (h : effects.forM (Casting.apply c.rules next) s = .ok () t) :
    c.Does depth (.effects effects) s t := by
  induction effects generalizing s with
  | nil =>
    cases h
    exact .done
  | cons effect rest ih =>
    obtain ⟨_, u, heffect, hrest⟩ := Run.bind_eq_ok.1 h
    cases effect with
    | modifier stats =>
      obtain ⟨merged, hmerge, hdraw⟩ := modifier_eq_ok heffect
      exact .modifier hmerge (hnext _ _ hdraw) (ih hrest)
    | projectile blueprint kind =>
      rcases projectile_eq_ok heffect with ⟨rfl, rfl⟩ | ⟨hkind, v, hdraw, rfl⟩
      · exact .plain (ih hrest)
      · exact .loaded hkind (hnext _ _ hdraw) (ih hrest)
    | multicast formation =>
      change formation.forM (Casting.branch next) s = .ok () u at heffect
      induction formation generalizing s with
      | nil =>
        cases heffect
        exact .gathered (ih hrest)
      | cons offset offsets ihf =>
        obtain ⟨_, v, hbranch, hbranches⟩ := Run.bind_eq_ok.1 heffect
        obtain ⟨inner, w, hinner, hdraw, rfl⟩ := branch_eq_ok hbranch
        refine .branch hinner (hnext _ _ hdraw) (ihf ?_ hbranches)
        exact Run.bind_eq_ok.2 ⟨_, _, hbranches, hrest⟩

end Effects

/-- A resolution that meets no fault has a derivation. -/
theorem does_of_resolve {c : Caster α} {stack : Nat} {depth : Int} {s t : Casting σ α}
    (h : c.resolve stack depth s = .ok () t) : c.Does depth .draw s t := by
  induction stack generalizing depth s t with
  | zero => cases h
  | succ stack ih =>
    obtain ⟨drawn, u, hdraw, h⟩ := Run.bind_eq_ok.1 h
    obtain ⟨hcard, rfl⟩ := Casting.draw_eq_ok.1 hdraw
    cases drawn with
    | none =>
      cases h
      exact .exhausted hcard
    | some ref =>
      dsimp only at h
      split at h
      case isTrue => cases h
      case isFalse hdepth =>
        obtain ⟨card, _, hfind, h⟩ := Run.bind_eq_ok.1 h
        obtain ⟨hfound, rfl⟩ := Run.found_eq_ok.1 hfind
        rw [Run.bind_apply_of_ok (Casting.note_apply _ _),
          Run.bind_apply_of_ok (Run.get_apply _)] at h
        split at h
        case isTrue hmana =>
          rw [Run.bind_apply_of_ok (Casting.note_apply _ _)] at h
          exact .skipped hcard (by omega) hfound hmana (ih h)
        case isFalse hmana =>
          rw [Run.bind_apply_of_ok (Casting.pay_apply _ _)] at h
          exact .played hcard (by omega) hfound hmana (does_effects (fun _ _ => ih) _ h)

end Caster
end WandArena
