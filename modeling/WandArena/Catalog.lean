import WandArena.Fault
import WandArena.Registry
import WandArena.Wand.Definition

/-! Catalogs: the cards, wands and blueprints that can be looked up, and the check a wand
passes before anybody may hold it. What is in a catalog can be taken out of it. -/
namespace WandArena

namespace Registry
variable {β : Type}

/-- A registry without a name. Only a name that is there can be taken out. -/
def without (r : Registry β) (name : String) : Except Fault (Registry β) :=
  if r.contains name then .ok (r.erase name) else .error (.undefinedName name)

/-- What is left finds nothing under the name and everything else as before. -/
theorem get?_without {r rest : Registry β} {name : String} (h : r.without name = .ok rest)
    (other : String) : rest.get? other = if other = name then none else r.get? other := by
  unfold without at h
  split at h
  · cases h
    exact get?_erase r name other
  · cases h

end Registry

structure Catalog (α : Type) where
  cards : Registry (Card α)
  wands : Registry (Wand α)
  blueprints : Registry (Blueprint α)

namespace Card
variable {α : Type}

/-- The blueprints that a card names, in order. -/
def blueprintIds (card : Card α) : List String :=
  card.effects.filterMap fun
    | .projectile blueprint _ => some blueprint
    | _ => none

end Card

namespace Catalog
variable {α : Type}

def card (catalog : Catalog α) (id : String) : Except Fault (Card α) :=
  match catalog.cards.get? id with
  | some card => .ok card
  | none => .error (.config (.unknownCard id))

def wand (catalog : Catalog α) (id : String) : Except Fault (Wand α) :=
  match catalog.wands.get? id with
  | some wand => .ok wand
  | none => .error (.config (.unknownWand id))

def blueprint (catalog : Catalog α) (id : String) : Except Fault (Blueprint α) :=
  match catalog.blueprints.get? id with
  | some blueprint => .ok blueprint
  | none => .error (.config (.unknownBlueprint id))

/-- Checks that every blueprint of a card is defined. -/
def checkCard (catalog : Catalog α) (card : Card α) : Except Fault Unit :=
  match card.blueprintIds.find? (!catalog.blueprints.contains ·) with
  | some blueprint => .error (.config (.missingBlueprint card.id blueprint))
  | none => .ok ()

/-- Checks that every card a wand lists is defined, and every blueprint of those cards. -/
def checkWand (catalog : Catalog α) (wand : Wand α) : Except Fault Unit :=
  wand.cards.forM fun id =>
    match catalog.cards.get? id with
    | some card => catalog.checkCard card
    | none => .error (.config (.missingCard wand.id id))

end Catalog
end WandArena
