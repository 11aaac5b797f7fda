import WandArena.Catalog.Standard
import WandArena.Proofs.Catalog

/-! The standard catalog keeps to what is asked of catalogs.

What is found in a registry made of a list is in the list, so whatever holds of all entries of a
table holds of what is found in it. The standard tables name pairs for all lifetimes, and only wands
of a few cards. -/
namespace WandArena

namespace Registry
variable {β : Type}

theorem mem_of_get?_puts {entries : List (String × β)} {r : Registry β} {name : String} {thing : β}
    (h : (entries.foldl (fun r (name, thing) => r.put name thing) r).get? name = some thing) :
    thing ∈ entries.map (·.2) ∨ r.get? name = some thing := by
  induction entries generalizing r with
  | nil => exact .inr h
  | cons entry rest ih =>
    rcases ih h with hrest | hput
    · exact .inl (List.mem_cons_of_mem _ hrest)
    · dsimp only at hput
      rw [get?_put] at hput
      split at hput
      · exact .inl (Option.some.inj hput ▸ List.mem_cons_self)
      · exact .inr hput

/-- What is found in a registry made of a list is in the list. -/
theorem mem_of_get?_ofList {entries : List (String × β)} {name : String} {thing : β}
    (h : (ofList entries).get? name = some thing) : thing ∈ entries.map (·.2) :=
  (mem_of_get?_puts h).resolve_right nofun

/-- What holds of all entries of a list holds of what is found in the registry made of it. -/
theorem holds_of_get?_ofList {entries : List (String × β)} {p : β → Bool} {name : String}
    {thing : β} (hall : (entries.map (·.2)).all p = true)
    (h : (ofList entries).get? name = some thing) : p thing = true :=
  List.all_eq_true.1 hall thing (mem_of_get?_ofList h)

end Registry

namespace Stats
variable {α : Type}

/-- Checks that a lifetime that is present has two ends and nothing behind them. -/
def isPaired (stats : Stats α) : Bool := stats.lifetime.all (·.rest.isEmpty)

theorem paired_of_isPaired {stats : Stats α} (h : stats.isPaired = true) : stats.Paired := by
  intro span hspan
  rw [isPaired, hspan] at h
  exact List.isEmpty_iff.1 h

end Stats

namespace Catalog
variable {α : Type} [Scalar α]

/-- Checks that every lifetime that a card sets is a pair. -/
def setsPairs (card : Card α) : Bool :=
  card.effects.all fun
    | .modifier stats => stats.isPaired
    | _ => true

theorem standard_paired : (standard : Catalog α).Paired where
  modifiers := by
    intro id card stats hcard hmodifier
    have hsets : setsPairs card = true := Registry.holds_of_get?_ofList rfl hcard
    exact Stats.paired_of_isPaired (List.all_eq_true.1 hsets _ hmodifier)
  blueprints := by
    intro id blueprint hblueprint
    have hpaired : blueprint.stats.isPaired = true :=
      Registry.holds_of_get?_ofList (p := fun b : Blueprint α => b.stats.isPaired) rfl hblueprint
    exact Stats.paired_of_isPaired hpaired

/-- No standard wand has more than six cards. -/
theorem length_cards_standard {id : String} {wand : Wand α}
    (h : (standard : Catalog α).wand id = .ok wand) : wand.cards.length ≤ 6 := by
  unfold Catalog.wand at h
  split at h
  case h_1 found hfound =>
    cases h
    have hfew : decide (wand.cards.length ≤ 6) = true :=
      Registry.holds_of_get?_ofList (p := fun w : Wand α => decide (w.cards.length ≤ 6)) rfl
        hfound
    exact of_decide_eq_true hfew
  case h_2 => cases h

/-- The standard catalog offers all its cards. -/
theorem offers_standard {id : String} {card : Card α}
    (h : (standard : Catalog α).cards.get? id = some card) : (standard : Catalog α).Offers id := by
  have hnamed : (card.blueprintIds.all (standard : Catalog α).blueprints.contains) = true :=
    Registry.holds_of_get?_ofList
      (p := fun c : Card α => c.blueprintIds.all (standard : Catalog α).blueprints.contains)
      (by simp [standard, standardBlueprints, Registry.ofList, Registry.get?_put,
        Registry.contains, Card.blueprintIds]) h
  exact ⟨card, h, List.all_eq_true.1 hnamed⟩

/-- Every standard wand passes its check. -/
theorem checkWand_standard {id : String} {wand : Wand α}
    (h : (standard : Catalog α).wands.get? id = some wand) :
    (standard : Catalog α).checkWand wand = .ok () := by
  have hlisted : (wand.cards.all (standard : Catalog α).cards.contains) = true :=
    Registry.holds_of_get?_ofList
      (p := fun w : Wand α => w.cards.all (standard : Catalog α).cards.contains)
      (by simp [standard, standardCards, Registry.ofList, Registry.get?_put,
        Registry.contains]) h
  refine checkWand_eq_ok_iff.2 fun card hcard => ?_
  obtain ⟨found, hfound⟩ := Option.isSome_iff_exists.1 (List.all_eq_true.1 hlisted card hcard)
  exact offers_standard hfound

end Catalog
end WandArena
