import WandArena.Number.Exact
import WandArena.Proofs.Cast.Derivation
import WandArena.Proofs.Cast.Tree

/-! Where the projectiles of a cast come to stand.

The branches of multicasts open and close around the draws they ask for, and a payload is a cast
with branches of its own. `Caster.Places` is `Caster.Does` with the offsets of the open branches
beside it: each projectile is recorded with the offsets that were open when it was emitted, and so
are those in its payload. Two facts hold along every such record. What was opened has been closed
again (`Places.transform`), and the projectiles stand where their offsets lead from the transform
that their cast began with (`Places.placed`). -/
namespace WandArena
variable {σ α : Type}

/-- A projectile as it was emitted. -/
structure Placement (α : Type) where
  shot : Shot α (Cast α)
  /-- The offsets of the branches that were open, outermost first. -/
  offsets : List (Transform α)
  /-- What was emitted in its payload. -/
  payload : List (Placement α)

namespace Caster
variable [Scalar α] [CardSource σ]

/-- Doing `work` under the offsets `path` leads from one state of a cast to another, with these
projectiles emitted on the way. -/
inductive Places (c : Caster α) :
    Int → Work α → List (Transform α) → Casting σ α → List (Placement α) → Casting σ α → Prop
  | exhausted {depth : Int} {path : List (Transform α)} {s : Casting σ α}
    (hdraw : (CardSource.draw s.source).card = .ok none) : Places c depth .draw path s [] s.drawn
  | skipped {depth : Int} {path : List (Transform α)} {s t : Casting σ α} {ref : CardRef}
    {card : Card α} {placements : List (Placement α)}
    (hdraw : (CardSource.draw s.source).card = .ok (some ref)) (hdepth : depth ≤ c.maxDepth)
    (hcard : c.cards.get? ref.id = some card) (hmana : s.mana < Quantity.whole card.manaCost)
    (hnext : Places c (depth + 1) .draw path
      ((s.drawn.noted (.drew card.name)).noted (.tooCostly card.name)) placements t) :
    Places c depth .draw path s placements t
  | played {depth : Int} {path : List (Transform α)} {s t : Casting σ α} {ref : CardRef}
    {card : Card α} {placements : List (Placement α)}
    (hdraw : (CardSource.draw s.source).card = .ok (some ref)) (hdepth : depth ≤ c.maxDepth)
    (hcard : c.cards.get? ref.id = some card) (hmana : ¬ s.mana < Quantity.whole card.manaCost)
    (heffects : Places c (depth + 1) (.effects card.effects) path
      ((s.drawn.noted (.drew card.name)).paid card) placements t) :
    Places c depth .draw path s placements t
  | done {depth : Int} {path : List (Transform α)} {s : Casting σ α} :
    Places c depth (.effects []) path s [] s
  | modifier {depth : Int} {path : List (Transform α)} {s t u : Casting σ α}
    {stats merged : Stats α} {rest : List (Effect α)} {placements later : List (Placement α)}
    (hmerge : Stats.absorb c.rules stats s.cast.stats = .ok () merged)
    (hnext : Places c depth .draw path (s.withStats merged) placements t)
    (hrest : Places c depth (.effects rest) path t later u) :
    Places c depth (.effects (.modifier stats :: rest)) path s (placements ++ later) u
  | gathered {depth : Int} {path : List (Transform α)} {s t : Casting σ α}
    {rest : List (Effect α)} {placements : List (Placement α)}
    (hrest : Places c depth (.effects rest) path s placements t) :
    Places c depth (.effects (.multicast [] :: rest)) path s placements t
  /-- The offset is open for as long as its branch is drawn. -/
  | branch {depth : Int} {path : List (Transform α)} {s t u : Casting σ α}
    {offset inner : Transform α} {offsets : List (Transform α)} {rest : List (Effect α)}
    {placements later : List (Placement α)}
    (hinner : s.cast.transform.compose offset = .ok inner)
    (hnext : Places c depth .draw (path ++ [offset]) (s.under inner) placements t)
    (hrest : Places c depth (.effects (.multicast offsets :: rest)) path
      (t.under s.cast.transform) later u) :
    Places c depth (.effects (.multicast (offset :: offsets) :: rest)) path s
      (placements ++ later) u
  | plain {depth : Int} {path : List (Transform α)} {s t : Casting σ α} {blueprint : String}
    {rest : List (Effect α)} {placements : List (Placement α)}
    (hrest : Places c depth (.effects rest) path (s.emitted (shotAt s blueprint .normal))
      placements t) :
    Places c depth (.effects (.projectile blueprint .normal :: rest)) path s
      (⟨shotAt s blueprint .normal, path, []⟩ :: placements) t
  /-- No branch is open yet where a payload begins. -/
  | loaded {depth : Int} {path : List (Transform α)} {s t u : Casting σ α} {blueprint : String}
    {kind : ShotKind} {rest : List (Effect α)} {inner placements : List (Placement α)}
    (hkind : kind ≠ .normal) (hpayload : Places c depth .draw [] s.aside inner t)
    (hrest : Places c depth (.effects rest) path
      ((t.resume s.cast).emitted (shotAt s blueprint (kind.carrying t.cast))) placements u) :
    Places c depth (.effects (.projectile blueprint kind :: rest)) path s
      (⟨shotAt s blueprint (kind.carrying t.cast), path, inner⟩ :: placements) u

/-- Whatever is done can be recorded. -/
theorem Does.places {c : Caster α} {depth : Int} {work : Work α} {s t : Casting σ α}
    (h : c.Does depth work s t) (path : List (Transform α)) :
    ∃ placements, c.Places depth work path s placements t := by
  induction h generalizing path with
  | exhausted hdraw => exact ⟨_, .exhausted hdraw⟩
  | skipped hdraw hdepth hcard hmana _ ih =>
    obtain ⟨_, hnext⟩ := ih path
    exact ⟨_, .skipped hdraw hdepth hcard hmana hnext⟩
  | played hdraw hdepth hcard hmana _ ih =>
    obtain ⟨_, heffects⟩ := ih path
    exact ⟨_, .played hdraw hdepth hcard hmana heffects⟩
  | done => exact ⟨_, .done⟩
  | modifier hmerge _ _ ihnext ihrest =>
    obtain ⟨_, hnext⟩ := ihnext path
    obtain ⟨_, hrest⟩ := ihrest path
    exact ⟨_, .modifier hmerge hnext hrest⟩
  | gathered _ ih =>
    obtain ⟨_, hrest⟩ := ih path
    exact ⟨_, .gathered hrest⟩
  | @branch _ _ _ _ offset _ _ _ hinner _ _ ihnext ihrest =>
    obtain ⟨_, hnext⟩ := ihnext (path ++ [offset])
    obtain ⟨_, hrest⟩ := ihrest path
    exact ⟨_, .branch hinner hnext hrest⟩
  | plain _ ih =>
    obtain ⟨_, hrest⟩ := ih path
    exact ⟨_, .plain hrest⟩
  | loaded hkind _ _ ihpayload ihrest =>
    obtain ⟨_, hpayload⟩ := ihpayload []
    obtain ⟨_, hrest⟩ := ihrest path
    exact ⟨_, .loaded hkind hpayload hrest⟩

end Caster

/-- Where a projectile is, and which way it points. -/
def Shot.stance {κ : Type} (shot : Shot α κ) : Transform α := ⟨shot.position, shot.direction⟩

section Placed
variable [Scalar α]

/-- Projectiles that stand where their offsets lead from `entry`. A payload is back at the identity,
and what was emitted in it stands where its offsets lead from there. -/
inductive Placed : Transform α → List (Placement α) → Prop
  | nil {entry : Transform α} : Placed entry []
  | plain {entry : Transform α} {shot : Shot α (Cast α)} {offsets : List (Transform α)}
    {rest : List (Placement α)} (hstands : entry.composeAll offsets = .ok shot.stance)
    (hcarried : shot.continuation = .normal) (hrest : Placed entry rest) :
    Placed entry (⟨shot, offsets, []⟩ :: rest)
  | loaded {entry : Transform α} {shot : Shot α (Cast α)} {offsets : List (Transform α)}
    {inner rest : List (Placement α)} {kind : ShotKind} {payload : Cast α}
    (hstands : entry.composeAll offsets = .ok shot.stance) (hkind : kind ≠ .normal)
    (hcarried : shot.continuation = kind.carrying payload)
    (hhome : payload.transform = .identity) (hshots : payload.shots = inner.map (·.shot))
    (hinner : Placed .identity inner) (hrest : Placed entry rest) :
    Placed entry (⟨shot, offsets, inner⟩ :: rest)

theorem Placed.append {entry : Transform α} {placements later : List (Placement α)}
    (h : Placed entry placements) (hlater : Placed entry later) :
    Placed entry (placements ++ later) := by
  induction h with
  | nil => exact hlater
  | plain hstands hcarried _ ih => exact .plain hstands hcarried (ih hlater)
  | loaded hstands hkind hcarried hhome hshots hinner _ _ ih =>
    exact .loaded hstands hkind hcarried hhome hshots hinner (ih hlater)

/-- All payloads are back at the identity, those in payloads too. -/
theorem Placed.payloads {entry : Transform α} {placements : List (Placement α)}
    (h : Placed entry placements) :
    ∀ payload ∈ Cast.treesOf (placements.map (·.shot)), payload.transform = .identity := by
  induction h with
  | nil => exact nofun
  | @plain _ shot _ rest _ hcarried _ ih =>
    have htree : Cast.treeOf shot = [] := by
      obtain ⟨blueprint, position, direction, continuation⟩ := shot
      cases hcarried
      rfl
    have htrees : Cast.treesOf (shot :: rest.map (·.shot)) = Cast.treesOf (rest.map (·.shot)) := by
      rw [Cast.treesOf, htree, List.nil_append]
    exact htrees ▸ ih
  | @loaded _ shot _ inner rest kind carried _ hkind hcarried hhome hshots _ _ ihinner ihrest =>
    have htree : Cast.treeOf shot = carried :: Cast.treesOf (inner.map (·.shot)) := by
      obtain ⟨blueprint, position, direction, continuation⟩ := shot
      cases hcarried
      rw [← hshots, ← Cast.tree_eq]
      cases kind with
      | normal => exact absurd rfl hkind
      | trigger | timer => rfl
    intro payload hmem
    rw [List.map_cons, Cast.treesOf, htree, List.cons_append, List.mem_cons, List.mem_append]
      at hmem
    rcases hmem with rfl | hmem | hmem
    · exact hhome
    · exact ihinner payload hmem
    · exact ihrest payload hmem

end Placed

namespace Transform
variable [Scalar α]

/-- One offset more goes on from where the offsets before it lead. -/
theorem composeAll_concat {entry here inner offset : Transform α} {path : List (Transform α)}
    (h : entry.composeAll path = .ok here) (hinner : here.compose offset = .ok inner) :
    entry.composeAll (path ++ [offset]) = .ok inner := by
  unfold composeAll at h ⊢
  rw [List.foldlM_append, h]
  show (here.compose offset >>= pure) = _
  rw [hinner]
  rfl

end Transform

namespace Caster
variable [Scalar α] [CardSource σ] {c : Caster α} {depth : Int} {work : Work α}
  {path : List (Transform α)} {s t : Casting σ α} {placements : List (Placement α)}

namespace Places

/-- The transform of a cast is put back. -/
theorem transform (h : c.Places depth work path s placements t) :
    t.cast.transform = s.cast.transform := by
  induction h with
  | exhausted _ | done => rfl
  | skipped _ _ _ _ _ ih | played _ _ _ _ _ ih | gathered _ ih | plain _ ih => exact ih
  | modifier _ _ _ ihnext ihrest => exact ihrest.trans ihnext
  | branch _ _ _ _ ihrest | loaded _ _ _ _ ihrest => exact ihrest

/-- The projectiles of a cast are those that were emitted. -/
theorem shots (h : c.Places depth work path s placements t) :
    t.cast.shots = s.cast.shots ++ placements.map (·.shot) := by
  induction h with
  | exhausted _ | done => exact (List.append_nil _).symm
  | skipped _ _ _ _ _ ih | played _ _ _ _ _ ih | gathered _ ih => exact ih
  | modifier _ _ _ ihnext ihrest | branch _ _ _ ihnext ihrest =>
    rw [ihrest, List.map_append, ← List.append_assoc]
    exact congrArg (· ++ _) ihnext
  | plain _ ih | loaded _ _ _ _ ih => exact ih.trans (List.append_assoc _ _ _)

/-- If the open offsets lead from `entry` to where the cast is, all that is emitted stands where its
offsets lead from there. -/
theorem placed {entry : Transform α} (h : c.Places depth work path s placements t)
    (hpath : entry.composeAll path = .ok s.cast.transform) : Placed entry placements := by
  induction h generalizing entry with
  | exhausted _ | done => exact .nil
  | skipped _ _ _ _ _ ih | played _ _ _ _ _ ih | gathered _ ih => exact ih hpath
  | modifier _ hnext _ ihnext ihrest =>
    exact (ihnext hpath).append (ihrest (hpath.trans (congrArg _ hnext.transform.symm)))
  | branch hinner _ _ ihnext ihrest =>
    exact (ihnext (Transform.composeAll_concat hpath hinner)).append (ihrest hpath)
  | plain _ ih => exact .plain hpath rfl (ih hpath)
  | loaded hkind hpayload _ ihpayload ihrest =>
    exact .loaded hpath hkind rfl hpayload.transform hpayload.shots (ihpayload rfl) (ihrest hpath)

end Places

/-- **Projectiles stand where the open branches put them, and every branch is closed again.** A
resolution that meets no fault leaves the cast under the transform that it found it under. It has a
record of what it emitted after the projectiles that were there before; and by any such record, each
projectile stands where the offsets that were open when it was emitted lead, outermost first, from
that transform, or, in a payload, from the identity, at which all payloads are left, however
deep. -/
theorem resolve_places {stack : Nat} (h : c.resolve stack depth s = .ok () t) :
    t.cast.transform = s.cast.transform ∧
      (∃ placements, c.Places depth .draw [] s placements t) ∧
      ∀ placements, c.Places depth .draw [] s placements t →
        t.cast.shots = s.cast.shots ++ placements.map (·.shot) ∧
        Placed s.cast.transform placements ∧
        ∀ payload ∈ Cast.treesOf (placements.map (·.shot)), payload.transform = .identity := by
  obtain ⟨record, hrecord⟩ := (does_of_resolve h).places []
  refine ⟨hrecord.transform, ⟨record, hrecord⟩, fun placements hplaces => ?_⟩
  have hplaced : Placed s.cast.transform placements := hplaces.placed rfl
  exact ⟨hplaces.shots, hplaced, hplaced.payloads⟩

section Fan

/-! A fan whose first branch forks under a quarter turn, onto a projectile with a payload. -/

/-- Every angle but zero is a quarter turn. -/
local instance quartered : Scalar Rat :=
  Exact.scalar ⟨2, fun a => if a = 0 then 0 else 1, fun a => if a = 0 then 1 else 0,
    fun _ _ => 0, by decide⟩

def fanCaster : Caster Rat where
  wand := "fan"
  cards := .ofList [
    ("fan", { id := "fan", name := "Fan", effects := [.multicast [⟨⟨1, 0⟩, 1⟩, ⟨⟨0, 2⟩, 0⟩]] }),
    ("fork", { id := "fork", name := "Fork",
               effects := [.multicast [⟨⟨10, 0⟩, 0⟩, ⟨⟨20, 0⟩, 0⟩]] }),
    ("mine", { id := "mine", name := "Mine", effects := [.projectile "mine" .trigger] }),
    ("bolt", { id := "bolt", name := "Bolt", effects := [.projectile "spark" .normal] })]
  rules := {}
  maxDepth := 256

def beforeFan : Casting Piles Rat where
  source := {
    deck := ((Ring.empty 6).pushMany
      [⟨"fan", 0⟩, ⟨"fork", 1⟩, ⟨"mine", 2⟩, ⟨"bolt", 3⟩, ⟨"bolt", 4⟩, ⟨"bolt", 5⟩]).1
    hand := .empty 6
    discarded := .empty 6 }
  mana := 100
  rechargeDelay := 0
  cast := .fresh
  notes := #[]

theorem resolve_places_fan : ∃ t, fanCaster.resolve 9 0 beforeFan = .ok () t ∧
    t.cast.shots.map (fun shot => (shot.position.x, shot.position.y, shot.direction)) =
      [(1, 10, 1), (1, 20, 1), (0, 2, 0)] ∧
    t.cast.transform = .identity ∧
    ∃ placements, fanCaster.Places 0 .draw [] beforeFan placements t ∧
      Placed .identity placements := by
  have hvalue : Run.value? (fanCaster.resolve 9 0 beforeFan) = some () := by decide +kernel
  have hend := Run.eq_ok_of_value? hvalue
  obtain ⟨htransform, ⟨placements, hplaces⟩, hall⟩ := resolve_places hend
  refine ⟨_, hend, ?_, htransform, placements, hplaces, (hall placements hplaces).2.1⟩
  decide +kernel

end Fan
end Caster
end WandArena
