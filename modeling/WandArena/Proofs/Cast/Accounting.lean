import WandArena.Proofs.Cast.Derivation
import WandArena.Proofs.Cast.Tree
import WandArena.Proofs.Wand.Draw
import WandArena.Number.Amount

/-! What a cast costs and what comes of it.

Of the cards a cast draws, those are paid for that the mana is enough for when their turn comes
(`Caster.paid`). `Spent` says that mana, delays and projectiles of a cast and all its payloads are
accounted for by the cards paid for and by nothing else; it is carried from step to step through the
rules of resolving (`Does.spent`). -/
namespace WandArena
variable {α κ : Type}

/-- A projectile without its place: its blueprint and its kind. -/
abbrev Emission := String × ShotKind

def Shot.emission (shot : Shot α κ) : Emission := (shot.blueprint, shot.continuation.kind)

/-- The projectile that an effect emits, if it does. -/
def Effect.emission? : Effect α → Option Emission
  | .projectile blueprint kind => some (blueprint, kind)
  | .modifier _ | .multicast _ => none

/-- The projectiles that a card emits itself. -/
def Card.emissions (card : Card α) : List Emission := card.effects.filterMap Effect.emission?

/-- The projectiles that are still to be emitted by the card that is being played. -/
def Work.emissions : Work α → List Emission
  | .draw => []
  | .effects left => left.filterMap Effect.emission?

/-- The kinds of all projectiles of a cast and its payloads. -/
def Cast.emissions (cast : Cast α) : List Emission := cast.allShots.map Shot.emission

/-- Every trigger and every timer in the tree of a cast carries a payload. -/
def Cast.Loaded (cast : Cast α) : Prop := ∀ shot ∈ cast.allShots, shot.continuation.Loaded

theorem Cast.emissions_congr {cast other : Cast α} (h : cast.shots = other.shots) :
    cast.emissions = other.emissions := by
  rw [emissions, emissions, allShots_congr h]

theorem Cast.loaded_congr {cast other : Cast α} (h : cast.shots = other.shots) :
    cast.Loaded ↔ other.Loaded := by
  rw [Loaded, Loaded, allShots_congr h]

variable [Scalar α]

/-- Mana less the costs of some cards, one after another. -/
def spend (mana : α) (cards : List (Card α)) : α :=
  cards.foldl (fun mana card => mana - Quantity.whole card.manaCost) mana

theorem spend_append (mana : α) (cards others : List (Card α)) :
    spend mana (cards ++ others) = spend (spend mana cards) others :=
  List.foldl_append

namespace Caster
variable {c : Caster α}

/-- The cards paid for among those drawn, in order, starting with some mana. -/
def paid (c : Caster α) : α → List CardRef → List (Card α)
  | _, [] => []
  | mana, ref :: rest =>
    match c.cards.get? ref.id with
    | none => c.paid mana rest
    | some card =>
      if mana < Quantity.whole card.manaCost then c.paid mana rest
      else card :: c.paid (mana - Quantity.whole card.manaCost) rest

theorem paid_cons_of_lt {mana : α} {ref : CardRef} {card : Card α} (rest : List CardRef)
    (hcard : c.cards.get? ref.id = some card) (hmana : mana < Quantity.whole card.manaCost) :
    c.paid mana (ref :: rest) = c.paid mana rest := by
  simp only [paid, hcard, if_pos hmana]

theorem paid_cons_of_not_lt {mana : α} {ref : CardRef} {card : Card α} (rest : List CardRef)
    (hcard : c.cards.get? ref.id = some card) (hmana : ¬ mana < Quantity.whole card.manaCost) :
    c.paid mana (ref :: rest) =
      card :: c.paid (mana - Quantity.whole card.manaCost) rest := by
  simp only [paid, hcard, if_neg hmana]

/-- What is paid for later depends only on the mana left. -/
theorem paid_append (mana : α) (refs others : List CardRef) :
    c.paid mana (refs ++ others) =
      c.paid mana refs ++ c.paid (spend mana (c.paid mana refs)) others := by
  induction refs generalizing mana with
  | nil => rfl
  | cons ref rest ih =>
    rw [List.cons_append]
    cases hcard : c.cards.get? ref.id with
    | none =>
      simp only [paid, hcard]
      exact ih mana
    | some card =>
      by_cases hmana : mana < Quantity.whole card.manaCost
      · rw [paid_cons_of_lt _ hcard hmana, paid_cons_of_lt _ hcard hmana]
        exact ih mana
      · rw [paid_cons_of_not_lt _ hcard hmana, paid_cons_of_not_lt _ hcard hmana, ih,
          List.cons_append]
        rfl

/-- Between two states of a cast, the cards `drawn` were drawn, and those of them that were paid for
account for mana and delays; with `own`, what the card being played emits, they account for the
projectiles too. -/
structure Spent (c : Caster α) (own : List Emission) (drawn : List CardRef)
    (s t : Casting Piles α) : Prop where
  hand : t.source.hand.toList = s.source.hand.toList ++ drawn
  known : ∀ ref ∈ drawn, ∃ card, c.cards.get? ref.id = some card
  mana : t.mana = spend s.mana (c.paid s.mana drawn)
  rechargeDelay :
    t.rechargeDelay = s.rechargeDelay + ((c.paid s.mana drawn).map (·.rechargeDelay)).sum
  castDelay :
    t.cast.allDelays = s.cast.allDelays + ((c.paid s.mana drawn).map (·.castDelay)).sum
  emissions : t.cast.emissions.Perm
    (s.cast.emissions ++ (own ++ (c.paid s.mana drawn).flatMap Card.emissions))
  loaded : s.cast.Loaded → t.cast.Loaded

namespace Spent
variable {own others : List Emission} {drawn later : List CardRef} {s t u : Casting Piles α}

theorem refl (s : Casting Piles α) : Spent c [] [] s s where
  hand := (List.append_nil _).symm
  known := nofun
  mana := rfl
  rechargeDelay := (Int.add_zero _).symm
  castDelay := (Int.add_zero _).symm
  emissions := .of_eq (List.append_nil _).symm
  loaded := id

theorem trans (h : Spent c own drawn s t) (h' : Spent c others later t u) :
    Spent c (own ++ others) (drawn ++ later) s u := by
  have hpaid : c.paid s.mana (drawn ++ later) = c.paid s.mana drawn ++ c.paid t.mana later := by
    rw [paid_append, ← h.mana]
  exact {
    hand := by rw [h'.hand, h.hand, List.append_assoc]
    known := fun ref href => (List.mem_append.1 href).elim (h.known ref) (h'.known ref)
    mana := by rw [hpaid, spend_append, ← h.mana, h'.mana]
    rechargeDelay := by
      rw [hpaid, List.map_append, List.sum_append, h'.rechargeDelay, h.rechargeDelay]
      omega
    castDelay := by
      rw [hpaid, List.map_append, List.sum_append, h'.castDelay, h.castDelay]
      omega
    emissions := by
      refine h'.emissions.trans ((h.emissions.append_right _).trans ?_)
      rw [hpaid, List.flatMap_append, List.perm_iff_count]
      intro emission
      simp only [List.count_append]
      omega
    loaded := fun hs => h'.loaded (h.loaded hs) }

/-- A step that changes nothing that is accounted for. -/
theorem of_eq (hhand : t.source.hand.toList = s.source.hand.toList) (hmana : t.mana = s.mana)
    (hrecharge : t.rechargeDelay = s.rechargeDelay) (hdelay : t.cast.castDelay = s.cast.castDelay)
    (hshots : t.cast.shots = s.cast.shots) : Spent c [] [] s t where
  hand := by rw [hhand, List.append_nil]
  known := nofun
  mana := hmana
  rechargeDelay := by rw [hrecharge]; exact (Int.add_zero _).symm
  castDelay := by
    rw [Cast.allDelays_eq, Cast.allDelays_eq, hshots, hdelay]
    exact (Int.add_zero _).symm
  emissions := by
    rw [Cast.emissions_congr hshots]
    exact .of_eq (List.append_nil _).symm
  loaded := (Cast.loaded_congr hshots).2

/-- The same from a state that such a step leads on from. -/
theorem before (h : Spent c own drawn t u) (hhand : t.source.hand.toList = s.source.hand.toList)
    (hmana : t.mana = s.mana) (hrecharge : t.rechargeDelay = s.rechargeDelay)
    (hdelay : t.cast.castDelay = s.cast.castDelay) (hshots : t.cast.shots = s.cast.shots) :
    Spent c own drawn s u :=
  (of_eq hhand hmana hrecharge hdelay hshots).trans h

omit [Scalar α] in
theorem hand_drawn {ref : Option CardRef}
    (hdraw : (CardSource.draw s.source).card = .ok ref) :
    s.drawn.source.hand.toList = s.source.hand.toList ++ ref.toList :=
  Piles.hand_draw hdraw

/-- Drawing nothing costs nothing. -/
theorem exhausted (hdraw : (CardSource.draw s.source).card = .ok none) :
    Spent c [] [] s s.drawn :=
  of_eq ((hand_drawn hdraw).trans (List.append_nil _)) rfl rfl rfl rfl

/-- A skipped card costs nothing. -/
theorem skipped {ref : CardRef} {card : Card α} {note note' : CastNote α}
    (hdraw : (CardSource.draw s.source).card = .ok (some ref))
    (hcard : c.cards.get? ref.id = some card) (hmana : s.mana < Quantity.whole card.manaCost) :
    Spent c [] [ref] s ((s.drawn.noted note).noted note') := by
  have hpaid : c.paid s.mana [ref] = [] := paid_cons_of_lt [] hcard hmana
  have hshots : ((s.drawn.noted note).noted note').cast.shots = s.cast.shots := rfl
  exact {
    hand := hand_drawn hdraw
    known := fun other hother => ⟨card, List.mem_singleton.1 hother ▸ hcard⟩
    mana := by rw [hpaid]; rfl
    rechargeDelay := by rw [hpaid]; exact (Int.add_zero _).symm
    castDelay := by
      rw [hpaid, Cast.allDelays_eq, Cast.allDelays_eq]
      exact (Int.add_zero _).symm
    emissions := by
      rw [hpaid, Cast.emissions_congr hshots]
      exact .of_eq (List.append_nil _).symm
    loaded := (Cast.loaded_congr hshots).2 }

/-- A card that is played is paid for and owes what it emits itself. -/
theorem played {ref : CardRef} {card : Card α} {note : CastNote α}
    (hdraw : (CardSource.draw s.source).card = .ok (some ref))
    (hcard : c.cards.get? ref.id = some card) (hmana : ¬ s.mana < Quantity.whole card.manaCost)
    (h : Spent c card.emissions later ((s.drawn.noted note).paid card) t) :
    Spent c [] (ref :: later) s t := by
  have hpaid : c.paid s.mana (ref :: later) =
      card :: c.paid (s.mana - Quantity.whole card.manaCost) later :=
    paid_cons_of_not_lt later hcard hmana
  have hshots : ((s.drawn.noted note).paid card).cast.shots = s.cast.shots := rfl
  have hdelays : ((s.drawn.noted note).paid card).cast.allDelays =
      s.cast.allDelays + card.castDelay := by
    rw [Cast.allDelays_eq, Cast.allDelays_eq]
    simp only [Casting.paid, Casting.noted, Casting.drawn]
    omega
  exact {
    hand := by
      refine h.hand.trans ?_
      show s.drawn.source.hand.toList ++ later = _
      rw [hand_drawn hdraw, List.append_assoc]
      rfl
    known := by
      intro other hother
      rcases List.mem_cons.1 hother with rfl | hother
      · exact ⟨card, hcard⟩
      · exact h.known other hother
    mana := by rw [hpaid]; exact h.mana
    rechargeDelay := by
      rw [hpaid, List.map_cons, List.sum_cons, h.rechargeDelay]
      show s.rechargeDelay + card.rechargeDelay + _ = _
      exact Int.add_assoc _ _ _
    castDelay := by
      rw [hpaid, List.map_cons, List.sum_cons, h.castDelay, hdelays]
      exact Int.add_assoc _ _ _
    emissions := by
      rw [hpaid, List.flatMap_cons, ← Cast.emissions_congr hshots]
      exact h.emissions
    loaded := fun hs => h.loaded ((Cast.loaded_congr hshots).2 hs) }

/-- A projectile without a payload is emitted. -/
theorem plain (s : Casting Piles α) (blueprint : String) :
    Spent c [(blueprint, .normal)] [] s (s.emitted (shotAt s blueprint .normal)) where
  hand := (List.append_nil _).symm
  known := nofun
  mana := rfl
  rechargeDelay := (Int.add_zero _).symm
  castDelay := Cast.allDelays_emit s.cast _
  emissions := (Cast.allShots_emit s.cast _).map Shot.emission |>.trans (.of_eq List.map_append)
  loaded := by
    intro hs shot hshot
    rcases List.mem_append.1 ((Cast.allShots_emit s.cast _).mem_iff.1 hshot) with hold | hnew
    · exact hs shot hold
    · rw [List.mem_singleton.1 hnew]
      trivial

/-- A projectile is emitted with the payload that was drawn for it. -/
theorem loaded_shot {blueprint : String} {kind : ShotKind} (hkind : kind ≠ .normal)
    (h : Spent c [] drawn s.aside t) :
    Spent c [(blueprint, kind)] drawn s
      ((t.resume s.cast).emitted (shotAt s blueprint (kind.carrying t.cast))) := by
  generalize hshot : shotAt s blueprint (kind.carrying t.cast) = shot
  have htree : Cast.treeOf shot = t.cast.tree := by
    subst hshot
    cases kind with
    | normal => exact absurd rfl hkind
    | trigger | timer => rfl
  have hemission : shot.emission = (blueprint, kind) := by
    subst hshot
    cases kind <;> rfl
  have hcarried : shot.continuation.Loaded := by
    subst hshot
    cases kind with
    | normal => exact absurd rfl hkind
    | trigger | timer => rfl
  have hkept : (t.resume s.cast).cast.allShots = s.cast.allShots := Cast.allShots_congr rfl
  have hall := Cast.allShots_emit (t.resume s.cast).cast shot
  rw [htree, hkept] at hall
  exact {
    hand := h.hand
    known := h.known
    mana := h.mana
    rechargeDelay := h.rechargeDelay
    castDelay := by
      refine (Cast.allDelays_emit (t.resume s.cast).cast shot).trans ?_
      rw [htree]
      show _ + t.cast.allDelays = _
      rw [h.castDelay]
      have hfresh : s.aside.cast.allDelays = 0 := rfl
      have hsame : (t.resume s.cast).cast.allDelays = s.cast.allDelays := by
        rw [Cast.allDelays_eq, Cast.allDelays_eq]
        rfl
      rw [hfresh, hsame, Int.zero_add]
      rfl
    emissions := by
      have hinner : t.cast.emissions.Perm ((c.paid s.mana drawn).flatMap Card.emissions) :=
        h.emissions
      refine (hall.map Shot.emission).trans ?_
      rw [List.map_append, List.map_cons, hemission]
      exact (hinner.cons _).append_left _
    loaded := by
      intro hs other hother
      rcases List.mem_append.1 (hall.mem_iff.1 hother) with hold | hnew
      · exact hs other hold
      · rcases List.mem_cons.1 hnew with rfl | hinside
        · exact hcarried
        · exact h.loaded nofun other hinside }

end Spent

/-- Whatever a cast does is accounted for. -/
theorem Does.spent {depth : Int} {work : Work α} {s t : Casting Piles α}
    (h : c.Does depth work s t) : ∃ drawn, Spent c work.emissions drawn s t := by
  induction h with
  | exhausted hdraw => exact ⟨[], .exhausted hdraw⟩
  | skipped hdraw _ hcard hmana _ ih =>
    obtain ⟨drawn, hnext⟩ := ih
    exact ⟨_, (Spent.skipped hdraw hcard hmana).trans hnext⟩
  | played hdraw _ hcard hmana _ ih =>
    obtain ⟨drawn, heffects⟩ := ih
    exact ⟨_, .played hdraw hcard hmana heffects⟩
  | done => exact ⟨[], .refl _⟩
  | modifier _ _ _ ihnext ihrest =>
    obtain ⟨drawn, hnext⟩ := ihnext
    obtain ⟨later, hrest⟩ := ihrest
    exact ⟨_, (hnext.trans hrest).before rfl rfl rfl rfl rfl⟩
  | gathered _ ih => exact ih
  | branch _ _ _ ihnext ihrest =>
    obtain ⟨drawn, hnext⟩ := ihnext
    obtain ⟨later, hrest⟩ := ihrest
    exact ⟨_, (hnext.trans (hrest.before rfl rfl rfl rfl rfl)).before rfl rfl rfl rfl rfl⟩
  | plain _ ih =>
    obtain ⟨later, hrest⟩ := ih
    exact ⟨_, (Spent.plain _ _).trans hrest⟩
  | @loaded _ _ _ _ blueprint kind rest hkind _ _ ihpayload ihrest =>
    obtain ⟨drawn, hpayload⟩ := ihpayload
    obtain ⟨later, hrest⟩ := ihrest
    exact ⟨_, (hpayload.loaded_shot hkind).trans hrest⟩

/-- **What a cast costs and emits is what its cards say.** Of the cards that a resolution without a
fault adds to the hand, those paid for account for the mana spent, one after another, for the
recharge delay added, and, over the cast and all its payloads, for the cast delays added and, if
nothing was emitted before, for every projectile. Each trigger and timer carries a payload. -/
theorem resolve_accounts (c : Caster α) (stack : Nat) (depth : Int) (s t : Casting Piles α)
    (hfresh : s.cast.shots = []) (h : c.resolve stack depth s = .ok () t) :
    ∃ drawn : List CardRef, t.source.hand.toList = s.source.hand.toList ++ drawn ∧
      (∀ ref ∈ drawn, ∃ card, c.cards.get? ref.id = some card) ∧
      t.mana = spend s.mana (c.paid s.mana drawn) ∧
      t.rechargeDelay = s.rechargeDelay + ((c.paid s.mana drawn).map (·.rechargeDelay)).sum ∧
      t.cast.allDelays = s.cast.castDelay + ((c.paid s.mana drawn).map (·.castDelay)).sum ∧
      t.cast.emissions.Perm ((c.paid s.mana drawn).flatMap Card.emissions) ∧ t.cast.Loaded := by
  obtain ⟨drawn, hspent⟩ := (does_of_resolve h).spent
  have hdelays : s.cast.allDelays = s.cast.castDelay := by
    rw [Cast.allDelays_eq, hfresh]
    exact Int.add_zero _
  have hshots : s.cast.allShots = [] := by
    rw [Cast.allShots_eq, hfresh]
    rfl
  have hemissions : s.cast.emissions = [] := by
    rw [Cast.emissions, hshots]
    rfl
  have hloaded : s.cast.Loaded := by
    rw [Cast.Loaded, hshots]
    exact nofun
  refine ⟨drawn, hspent.hand, hspent.known, hspent.mana, hspent.rechargeDelay, ?_, ?_,
    hspent.loaded hloaded⟩
  · rw [hspent.castDelay, hdelays]
  · have hall := hspent.emissions
    rwa [hemissions] at hall

/-! A trigger that carries a timer, with a card in between that cannot be paid for. -/

def bombCaster : Caster Amount where
  wand := "bomb chain"
  cards := .ofList [
    ("trigger", { id := "trigger", name := "Trigger", manaCost := 2, castDelay := 1
                  effects := [.projectile "spark" .trigger] }),
    ("nova", { id := "nova", name := "Nova", manaCost := 20, castDelay := 50, rechargeDelay := 50
               effects := [.projectile "nova" .normal] }),
    ("timer", { id := "timer", name := "Timer", manaCost := 3, castDelay := 2, rechargeDelay := 4
                effects := [.projectile "bomb" (.timer 12)] }),
    ("bolt", { id := "bolt", name := "Bolt", manaCost := 1, castDelay := 3, rechargeDelay := -1
               effects := [.projectile "spark" .normal] })]
  rules := {}
  maxDepth := 256

def beforeBombs : Casting Piles Amount where
  source := {
    deck := ((Ring.empty 4).pushMany [⟨"trigger", 0⟩, ⟨"nova", 1⟩, ⟨"timer", 2⟩, ⟨"bolt", 3⟩]).1
    hand := .empty 4
    discarded := .empty 4 }
  mana := .whole 10
  rechargeDelay := 30
  cast := { Cast.fresh with castDelay := 20 }
  notes := #[]

theorem resolve_accounts_bombs :
    ∃ t, bombCaster.resolve 9 0 beforeBombs = .ok () t ∧ t.rechargeDelay = 33 ∧
      t.cast.allDelays = 26 ∧
      t.cast.emissions.Perm [("spark", .trigger), ("bomb", .timer 12), ("spark", .normal)] ∧
      t.cast.Loaded := by
  have hends : (Casting.outcome (bombCaster.resolve 9 0 beforeBombs)).fault = none := by
    decide +kernel
  have hhand : (Casting.sourceLeft (bombCaster.resolve 9 0 beforeBombs)).hand.toList =
      [⟨"trigger", 0⟩, ⟨"nova", 1⟩, ⟨"timer", 2⟩, ⟨"bolt", 3⟩] := by decide +kernel
  cases hend : bombCaster.resolve 9 0 beforeBombs with
  | error fault t =>
    rw [hend] at hends
    cases hends
  | ok _ t =>
    obtain ⟨drawn, hdrawn, -, -, hrecharge, hdelays, hemissions, hloaded⟩ :=
      resolve_accounts bombCaster 9 0 beforeBombs t rfl hend
    rw [hend] at hhand
    have hall : drawn = [⟨"trigger", 0⟩, ⟨"nova", 1⟩, ⟨"timer", 2⟩, ⟨"bolt", 3⟩] :=
      hdrawn.symm.trans hhand
    subst hall
    refine ⟨t, rfl, hrecharge.trans ?_, hdelays.trans ?_, hemissions.trans (.of_eq ?_), hloaded⟩ <;>
      decide +kernel

end Caster
end WandArena
