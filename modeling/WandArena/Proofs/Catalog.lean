import WandArena.Catalog
import WandArena.Proofs.Stats.Paired

/-! What a wand that passes its check can rely on.

A catalog offers a card if the card is defined and so is every blueprint it names. The check of a
wand passes exactly if the catalog offers each of its cards (`checkWand_eq_ok_iff`). -/
namespace WandArena.Catalog
variable {α : Type}

/-- The card of this name is defined with all the blueprints it names. -/
def Offers (catalog : Catalog α) (id : String) : Prop :=
  ∃ card, catalog.cards.get? id = some card ∧
    ∀ blueprint ∈ card.blueprintIds, catalog.blueprints.contains blueprint = true

/-- Every lifetime in a modifier or a blueprint is a pair of ends. -/
structure Paired (catalog : Catalog α) : Prop where
  modifiers : ∀ {id card stats}, catalog.cards.get? id = some card →
    .modifier stats ∈ card.effects → stats.Paired
  blueprints : ∀ {id blueprint}, catalog.blueprints.get? id = some blueprint →
    blueprint.stats.Paired

theorem mem_blueprintIds {card : Card α} {blueprint : String} {kind : ShotKind}
    (h : .projectile blueprint kind ∈ card.effects) : blueprint ∈ card.blueprintIds :=
  List.mem_filterMap.2 ⟨_, h, rfl⟩

theorem checkCard_eq_ok_iff {catalog : Catalog α} {card : Card α} :
    catalog.checkCard card = .ok () ↔
      ∀ blueprint ∈ card.blueprintIds, catalog.blueprints.contains blueprint = true := by
  unfold checkCard
  cases hfind : card.blueprintIds.find? (!catalog.blueprints.contains ·) with
  | none =>
    simp only [List.find?_eq_none, Bool.not_eq_true', Bool.not_eq_false] at hfind
    exact ⟨fun _ => hfind, fun _ => rfl⟩
  | some blueprint =>
    have hmissing := List.find?_some hfind
    rw [Bool.not_eq_true'] at hmissing
    refine ⟨nofun, fun hall => ?_⟩
    rw [hall blueprint (List.mem_of_find?_eq_some hfind)] at hmissing
    cases hmissing

theorem offers_iff {catalog : Catalog α} {id : String} {card : Card α}
    (h : catalog.cards.get? id = some card) :
    catalog.Offers id ↔ catalog.checkCard card = .ok () := by
  rw [checkCard_eq_ok_iff]
  constructor
  · rintro ⟨found, hfound, hall⟩
    obtain rfl := Option.some.inj (hfound.symm.trans h)
    exact hall
  · exact fun hall => ⟨card, h, hall⟩

/-- A wand passes its check exactly if all its cards are offered. -/
theorem checkWand_eq_ok_iff {catalog : Catalog α} {wand : Wand α} :
    catalog.checkWand wand = .ok () ↔ ∀ id ∈ wand.cards, catalog.Offers id := by
  unfold checkWand
  induction wand.cards with
  | nil => exact iff_of_true rfl (List.forall_mem_nil _)
  | cons id rest ih =>
    rw [List.forall_mem_cons, ← ih]
    show bind _ (fun _ => rest.forM _) = Except.ok () ↔ _
    dsimp only
    cases hcard : catalog.cards.get? id with
    | none =>
      constructor
      · intro h
        cases h
      · rintro ⟨⟨card, hfound, -⟩, -⟩
        rw [hcard] at hfound
        cases hfound
    | some card =>
      rw [offers_iff hcard]
      dsimp only
      cases catalog.checkCard card with
      | ok _ => exact ⟨fun h => ⟨rfl, h⟩, And.right⟩
      | error fault =>
        constructor
        · intro h
          cases h
        · rintro ⟨h, -⟩
          cases h

end WandArena.Catalog
