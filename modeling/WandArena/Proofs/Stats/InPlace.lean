import Mathlib.Data.List.Basic
import WandArena.Fault
import WandArena.Number.Exact
import WandArena.Stats.Bank

/-! Merging in place.

`Bank.mergeInto` reads a field of two blocks and writes it into a third before it reads the next
one, and the three may be one and the same. A field is read before it is written, and no other field
is read for it; so until its turn comes every field is as it was at the start, in whichever block
(`Midway.get_block`), and its merged value is that of the blocks at the start. A merge in place
therefore leaves what `Stats.merge` makes of the old blocks, or stops at the first field that has to
be combined and has no rule (`mergeInto_exact`). -/
namespace WandArena
variable {α : Type}

/-- What a block holds in a field that is present. -/
abbrev Stat.Value (α : Type) : Stat → Type
  | .damage => α
  | .speed => α
  | .spread => α
  | .bounces => Int
  | .lifetime => Span α

/-- The rule that the table gives for a field. -/
def MergeRules.rule (rules : MergeRules) : Stat → MergeRule
  | .damage => rules.damage
  | .speed => rules.speed
  | .spread => rules.spread
  | .bounces => rules.bounces
  | .lifetime => rules.lifetime

/-- Every field has a rule for values of its kind, or none that anybody knows. -/
structure MergeRules.Fitting (rules : MergeRules) : Prop where
  amounts : ∀ field, field ≠ .lifetime → ∀ range, rules.rule field ≠ .range range
  lifetime : rules.lifetime ≠ .add

/-- Combines two values of a field by a rule. -/
def MergeRule.on [Quantity α] (rule : MergeRule) :
    (field : Stat) → field.Value α → field.Value α → Except MergeFault (field.Value α)
  | .damage => rule.onQuantities .damage
  | .speed => rule.onQuantities .speed
  | .spread => rule.onQuantities .spread
  | .bounces => rule.onCounts .bounces
  | .lifetime => rule.onSpans

namespace Stats

/-! ### One field at a time -/

def get (s : Stats α) : (field : Stat) → Option (field.Value α)
  | .damage => s.damage
  | .speed => s.speed
  | .spread => s.spread
  | .bounces => s.bounces
  | .lifetime => s.lifetime

def set (s : Stats α) : (field : Stat) → Option (field.Value α) → Stats α
  | .damage, value => { s with damage := value }
  | .speed, value => { s with speed := value }
  | .spread, value => { s with spread := value }
  | .bounces, value => { s with bounces := value }
  | .lifetime, value => { s with lifetime := value }

@[simp] theorem get_set (s : Stats α) (field : Stat) (value : Option (field.Value α)) :
    (s.set field value).get field = value := by
  cases field <;> rfl

theorem get_set_of_ne (s : Stats α) {field other : Stat} (value : Option (field.Value α))
    (h : other ≠ field) : (s.set field value).get other = s.get other := by
  cases field <;> cases other <;> first | rfl | exact absurd rfl h

/-- A field has to be combined, and the table has no usable rule for it. -/
def Lacks (rules : MergeRules) (a b : Stats α) (field : Stat) : Prop :=
  (a.get field).isSome = true ∧ (b.get field).isSome = true ∧
    ∃ name, rules.rule field = .unusable name

variable [Quantity α] {rules : MergeRules} {a b : Stats α} {field : Stat}

/-- What a field of two blocks combines to. -/
def combined (rules : MergeRules) (a b : Stats α) (field : Stat) :
    Except MergeFault (Option (field.Value α)) :=
  combine ((rules.rule field).on field) (a.get field) (b.get field)

theorem mergeField_eq (rules : MergeRules) (a b dst : Stats α) (field : Stat) :
    mergeField rules a b dst field = (combined rules a b field >>= fun value =>
      .ok (dst.set field value)) := by
  cases field <;> rfl

/-- Two values of a field combine unless its rule is unusable. -/
theorem on_eq_error (hrules : rules.Fitting) {x y : field.Value α} {fault : MergeFault} :
    (rules.rule field).on field x y = .error fault ↔
      ∃ name, rules.rule field = .unusable name ∧ fault = .noRule field name := by
  have hamount {β : Type} [Add β] {isWhole : β → Bool} {x y : β} (hfield : field ≠ .lifetime) :
      (rules.rule field).onAmounts field isWhole x y = .error fault ↔
        ∃ name, rules.rule field = .unusable name ∧ fault = .noRule field name := by
    have hrange := hrules.amounts field hfield
    cases hrule : rules.rule field with
    | add => simp [MergeRule.onAmounts]
    | override => simp [MergeRule.onAmounts]
    | range range => exact absurd hrule (hrange range)
    | unusable name => simp [MergeRule.onAmounts, eq_comm]
  cases field with
  | lifetime =>
    have hadd := hrules.lifetime
    show rules.lifetime.onSpans x y = .error fault ↔
      ∃ name, rules.lifetime = .unusable name ∧ fault = .noRule .lifetime name
    cases hrule : rules.lifetime with
    | add => exact absurd hrule hadd
    | override => simp [MergeRule.onSpans]
    | range range => simp [MergeRule.onSpans]
    | unusable name => simp [MergeRule.onSpans, eq_comm]
  | _ => exact hamount nofun

/-- A field does not combine exactly if it lacks a rule. -/
theorem combined_eq_error (hrules : rules.Fitting) {fault : MergeFault} :
    combined rules a b field = .error fault ↔
      Lacks rules a b field ∧ ∃ name, rules.rule field = .unusable name ∧
        fault = .noRule field name := by
  unfold combined Lacks
  cases a.get field with
  | none => cases b.get field <;> simp [combine]
  | some x =>
    cases b.get field with
    | none => simp [combine]
    | some y =>
      have hmap : ((rules.rule field).on field x y).map some = .error fault ↔
          (rules.rule field).on field x y = .error fault := by
        cases (rules.rule field).on field x y <;> simp [Except.map]
      refine hmap.trans ((on_eq_error hrules).trans ⟨fun h => ?_, And.right⟩)
      obtain ⟨name, hname, -⟩ := id h
      exact ⟨⟨rfl, rfl, name, hname⟩, h⟩

/-- Blocks merge to the block of what their fields combine to. -/
theorem merge_of_combined {merged : Stats α}
    (h : ∀ field, combined rules a b field = .ok (merged.get field)) :
    merge rules a b = .ok merged := by
  unfold merge Stat.all
  simp only [List.foldlM_cons, List.foldlM_nil, mergeField_eq, h]
  rfl

end Stats

namespace Bank
variable [Quantity α] {rules : MergeRules} {dst a b : String} {start bank : Bank α}
  {done : List Stat}
open Stats

/-! ### Field after field -/

/-- Writes one field of the merge of two blocks into a third. -/
def mergeOne (rules : MergeRules) (dst a b : String) (field : Stat) :
    EStateM MergeFault (Bank α) Unit := do
  let bank ← get
  match Stats.mergeField rules (bank.block a) (bank.block b) (bank.block dst) field with
  | .ok merged => set (bank.store dst merged)
  | .error fault => throw fault

theorem mergeInto_eq (rules : MergeRules) (dst a b : String) :
    (mergeInto rules dst a b : EStateM MergeFault (Bank α) Unit) =
      Stat.all.forM (mergeOne rules dst a b) := rfl

theorem mergeOne_of_ok {field : Stat} {value : Option (field.Value α)}
    (h : combined rules (bank.block a) (bank.block b) field = .ok value) :
    mergeOne rules dst a b field bank =
      .ok () (bank.store dst ((bank.block dst).set field value)) := by
  have hfield : mergeField rules (bank.block a) (bank.block b) (bank.block dst) field =
      .ok ((bank.block dst).set field value) := by
    rw [mergeField_eq, h]
    rfl
  show (match mergeField rules (bank.block a) (bank.block b) (bank.block dst) field with
    | .ok merged => _ | .error fault => _ : EStateM MergeFault (Bank α) Unit) bank = _
  rw [hfield]
  rfl

theorem mergeOne_of_error {field : Stat} {fault : MergeFault}
    (h : combined rules (bank.block a) (bank.block b) field = .error fault) :
    mergeOne rules dst a b field bank = .error fault bank := by
  have hfield : mergeField rules (bank.block a) (bank.block b) (bank.block dst) field =
      .error fault := by
    rw [mergeField_eq, h]
    rfl
  show (match mergeField rules (bank.block a) (bank.block b) (bank.block dst) field with
    | .ok merged => _ | .error fault => _ : EStateM MergeFault (Bank α) Unit) bank = _
  rw [hfield]
  rfl

/-- Some fields of the two blocks at the start have been merged into the third. -/
structure Midway (rules : MergeRules) (dst a b : String) (start : Bank α) (done : List Stat)
    (bank : Bank α) : Prop where
  others : ∀ name, name ≠ dst → bank.blocks.get? name = start.blocks.get? name
  merged : ∀ field ∈ done, combined rules (start.block a) (start.block b) field =
    .ok ((bank.block dst).get field)
  untouched : ∀ field, field ∉ done → (bank.block dst).get field = (start.block dst).get field

namespace Midway

theorem begin (rules : MergeRules) (dst a b : String) (start : Bank α) :
    Midway rules dst a b start [] start :=
  ⟨fun _ _ => rfl, nofun, fun _ _ => rfl⟩

/-- Whichever block it is looked up in, a field whose turn has not come is as it was. -/
theorem get_block (h : Midway rules dst a b start done bank) {field : Stat} (hfield : field ∉ done)
    (name : String) : (bank.block name).get field = (start.block name).get field := by
  by_cases hname : name = dst
  · rw [hname, h.untouched field hfield]
  · unfold block
    rw [h.others name hname]

/-- So it combines to what it would have combined to at the start. -/
theorem combined_eq (h : Midway rules dst a b start done bank) {field : Stat}
    (hfield : field ∉ done) : combined rules (bank.block a) (bank.block b) field =
      combined rules (start.block a) (start.block b) field := by
  unfold combined
  rw [h.get_block hfield a, h.get_block hfield b]

theorem write (h : Midway rules dst a b start done bank) {field : Stat} (hfield : field ∉ done)
    {value : Option (field.Value α)}
    (hvalue : combined rules (start.block a) (start.block b) field = .ok value) :
    Midway rules dst a b start (done ++ [field])
      (bank.store dst ((bank.block dst).set field value)) := by
  have hblock : (bank.store dst ((bank.block dst).set field value)).block dst =
      (bank.block dst).set field value := by
    rw [block_store, if_pos rfl]
  refine ⟨fun name hname => ?_, fun other hother => ?_, fun other hother => ?_⟩
  · rw [store, Registry.get?_put, if_neg hname]
    exact h.others name hname
  · rw [hblock]
    by_cases hsame : other = field
    · subst hsame
      rw [get_set, hvalue]
    · rw [get_set_of_ne _ _ hsame]
      apply h.merged
      simpa [hsame] using hother
  · have hnot : other ∉ done ∧ other ≠ field := by simpa using hother
    rw [hblock, get_set_of_ne _ _ hnot.2, h.untouched other hnot.1]

end Midway

/-- How a merge in place may end: with all fields merged, or at the first that does not combine. -/
inductive Ending (rules : MergeRules) (dst a b : String) (start : Bank α) :
    EStateM.Result MergeFault (Bank α) Unit → Prop
  | merged {bank : Bank α} (hall : Midway rules dst a b start Stat.all bank) :
    Ending rules dst a b start (.ok () bank)
  | stopped {bank : Bank α} {before after : List Stat} {field : Stat} {fault : MergeFault}
    (hfields : Stat.all = before ++ field :: after)
    (hbefore : Midway rules dst a b start before bank)
    (hfault : combined rules (start.block a) (start.block b) field = .error fault) :
    Ending rules dst a b start (.error fault bank)

/-- What is left of the fields is merged, or the merge stops at one of them. -/
theorem ending_forM (h : Midway rules dst a b start done bank) {rest : List Stat}
    (hfields : Stat.all = done ++ rest) :
    Ending rules dst a b start (rest.forM (mergeOne rules dst a b) bank) := by
  induction rest generalizing done bank with
  | nil =>
    rw [List.append_nil] at hfields
    exact .merged (hfields ▸ h)
  | cons field rest ih =>
    have hnodup : (done ++ field :: rest).Nodup := hfields ▸ (by decide : Stat.all.Nodup)
    have hfield : field ∉ done := fun hdone =>
      (List.nodup_append.1 hnodup).2.2 field hdone field List.mem_cons_self rfl
    have hturn := h.combined_eq hfield
    show Ending rules dst a b start
      (EStateM.bind (mergeOne rules dst a b field) (fun _ => rest.forM _) bank)
    cases hvalue : combined rules (start.block a) (start.block b) field with
    | ok value =>
      rw [EStateM.bind, mergeOne_of_ok (hturn.trans hvalue)]
      exact ih (h.write hfield hvalue) (by simpa using hfields)
    | error fault =>
      rw [EStateM.bind, mergeOne_of_error (hturn.trans hvalue)]
      exact .stopped hfields h hvalue

theorem ending_mergeInto (rules : MergeRules) (dst a b : String) (start : Bank α) :
    Ending rules dst a b start (mergeInto rules dst a b start) := by
  rw [mergeInto_eq]
  exact ending_forM (.begin rules dst a b start) rfl

/-- **A merge in place is a merge, whichever of its blocks coincide.** Under rules that fit their
fields, it stops exactly if some field is present in both blocks, as they were at the start, and
lacks a usable rule. If it does not stop, the destination holds what the old blocks merge to. If it
does, this is the fault of content that its message names; the fields before the first that lacks a
rule are merged, and that one and those after it are as they were. No other block changes in either
case. -/
theorem mergeInto_exact (hrules : rules.Fitting) (dst a b : String) (bank : Bank α) :
    let old := bank.block
    let Others (later : Bank α) :=
      ∀ name, name ≠ dst → later.blocks.get? name = bank.blocks.get? name
    ((∃ fault later, mergeInto rules dst a b bank = .error fault later) ↔
      ∃ field, Lacks rules (old a) (old b) field) ∧
    (∀ later, mergeInto rules dst a b bank = .ok () later →
      merge rules (old a) (old b) = .ok (later.block dst) ∧ Others later) ∧
    ∀ fault later, mergeInto rules dst a b bank = .error fault later →
      ∃ before field after name, Stat.all = before ++ field :: after ∧
        Fault.ofMerge fault = .config (.noMergeRule field name) ∧
        rules.rule field = .unusable name ∧ Lacks rules (old a) (old b) field ∧
        (∀ other ∈ before, ¬ Lacks rules (old a) (old b) other ∧
          combined rules (old a) (old b) other = .ok ((later.block dst).get other)) ∧
        (∀ other ∈ field :: after, (later.block dst).get other = (old dst).get other) ∧
        Others later := by
  intro old Others
  have hlacks {field : Stat} (h : Lacks rules (old a) (old b) field) :
      ∃ fault, combined rules (old a) (old b) field = .error fault := by
    obtain ⟨name, hname⟩ := h.2.2
    exact ⟨_, (combined_eq_error hrules).2 ⟨h, name, hname, rfl⟩⟩
  have hmerged {field : Stat} {value : Option (field.Value α)}
      (h : combined rules (old a) (old b) field = .ok value) :
      ¬ Lacks rules (old a) (old b) field := by
    intro hlack
    obtain ⟨fault, hfault⟩ := hlacks hlack
    cases h.symm.trans hfault
  have hending := ending_mergeInto rules dst a b bank
  cases hend : mergeInto rules dst a b bank with
  | ok _ last =>
    rw [hend] at hending
    cases hending with
    | merged hall =>
      have hfields (field : Stat) : combined rules (old a) (old b) field =
          .ok ((last.block dst).get field) := hall.merged field (by cases field <;> decide)
      refine ⟨⟨nofun, fun ⟨field, hlack⟩ => absurd hlack (hmerged (hfields field))⟩, ?_, nofun⟩
      rintro later ⟨⟩
      exact ⟨merge_of_combined hfields, hall.others⟩
  | error stop last =>
    rw [hend] at hending
    cases hending with
    | @stopped _ before after field _ hfields hbefore hfault =>
      obtain ⟨hlack, name, hname, rfl⟩ := (combined_eq_error hrules).1 hfault
      refine ⟨⟨fun _ => ⟨field, hlack⟩, fun _ => ⟨_, _, rfl⟩⟩, nofun, ?_⟩
      rintro fault later ⟨⟩
      refine ⟨before, field, after, name, hfields, rfl, hname, hlack, fun other hother => ?_,
        fun other hother => ?_, hbefore.others⟩
      · have hvalue := hbefore.merged other hother
        exact ⟨hmerged hvalue, hvalue⟩
      · have hnodup : (before ++ field :: after).Nodup :=
          hfields ▸ (by decide : Stat.all.Nodup)
        exact hbefore.untouched other fun hin =>
          (List.nodup_append.1 hnodup).2.2 other hin other hother rfl

/-! One block is merged with itself into itself, and nobody knows how to combine bounces. -/

section Doubling

/-- Numbers that turn by a pentagon. -/
local instance doubling : Scalar Rat :=
  Exact.scalar ⟨5 / 2, fun _ => 0, fun _ => 1, fun _ _ => 0, by decide +kernel⟩

def doubled : Bank Rat :=
  Bank.empty.store "acc"
    { damage := some 2, bounces := some 3, lifetime := some { low := 1, high := 4 } }

def baffled : MergeRules := { bounces := .unusable (some "multiply") }

theorem mergeInto_exact_doubled :
    ∃ later : Bank Rat, baffled.Fitting ∧
      mergeInto baffled "acc" "acc" "acc" doubled =
        .error (.noRule .bounces (some "multiply")) later ∧
      Lacks baffled (doubled.block "acc") (doubled.block "acc") .bounces ∧
      combined baffled (doubled.block "acc") (doubled.block "acc") .damage =
        .ok ((later.block "acc").damage) ∧
      (later.block "acc").lifetime = (doubled.block "acc").lifetime := by
  have hfitting : baffled.Fitting := by
    refine ⟨fun field hfield range hrange => ?_, nofun⟩
    cases field with
    | lifetime => exact hfield rfl
    | _ => cases hrange
  obtain ⟨later, hrun⟩ : ∃ later : Bank Rat, mergeInto baffled "acc" "acc" "acc" doubled =
      .error (.noRule .bounces (some "multiply")) later := ⟨_, rfl⟩
  obtain ⟨before, field, after, name, hfields, -, hrule, hlacks, hbefore, hafter, -⟩ :=
    (mergeInto_exact hfitting "acc" "acc" "acc" doubled).2.2 _ later hrun
  obtain rfl : field = .bounces := by
    cases field with
    | bounces => rfl
    | _ => cases hrule
  obtain ⟨rfl, -, rfl⟩ := (List.append_cons_inj_of_notMem
    (by decide : Stat.bounces ∉ [.damage, .speed, .spread])
    (by decide : Stat.bounces ∉ [.lifetime])).1 hfields
  exact ⟨later, hfitting, hrun, hlacks, (hbefore .damage List.mem_cons_self).2,
    hafter .lifetime (by decide)⟩

end Doubling

end Bank
end WandArena
