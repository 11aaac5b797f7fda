import WandArena.Stats.Basic

/-! Merging stats.

Two blocks are merged field by field, in the order of `Stat.all`. A field absent on
one side takes the other side's value; a field present on both sides is combined by
the rule that the table gives for it. Any rule can be given for any field. A rule that
nobody knows fails, and so does a rule for ranges on a field that holds one amount, but
only when they are needed: those are the `MergeFault`s. -/
namespace WandArena

/-- How two ranges combine, end by end. -/
inductive RangeRule
  /-- Both ends are added; a range that never ends stays so. -/
  | sum
  /-- The smallest range around both. -/
  | union
  deriving DecidableEq, Repr

/-- How two values of one field combine. -/
inductive MergeRule
  /-- Amounts are added, ranges strung together. -/
  | add
  /-- The second value stays. -/
  | override
  | range (rule : RangeRule)
  /-- No rule goes by this name. -/
  | unusable (name : Option String)
  deriving DecidableEq, Repr

def MergeRule.ofName : Option String → MergeRule
  | some "add" => .add
  | some "override" => .override
  | some "range_add" => .range .sum
  | some "range_union" => .range .union
  | name => .unusable name

/-- The rule of each field. Where nobody says otherwise, stats add up. -/
structure MergeRules where
  damage : MergeRule := .add
  speed : MergeRule := .add
  spread : MergeRule := .add
  bounces : MergeRule := .add
  lifetime : MergeRule := .range .sum
  deriving DecidableEq, Repr

/-- Names the rule of the field with the given name; other names change nothing. -/
def MergeRules.assign (rules : MergeRules) (field : String) (rule : Option String) : MergeRules :=
  match Stat.all.find? (·.name == field) with
  | some .damage => { rules with damage := .ofName rule }
  | some .speed => { rules with speed := .ofName rule }
  | some .spread => { rules with spread := .ofName rule }
  | some .bounces => { rules with bounces := .ofName rule }
  | some .lifetime => { rules with lifetime := .ofName rule }
  | none => rules

/-- Why a field that is present on both sides does not merge. -/
inductive MergeFault
  /-- No usable rule is given for it. -/
  | noRule (field : Stat) (rule : Option String)
  /-- It holds one amount and its rule is for ranges; `whole` says what kind of amount. -/
  | notRange (rule : RangeRule) (whole : Bool)
  deriving DecidableEq, Repr

/-- An absent side leaves the other as it is; two values go through the rule. -/
def combine {β ε : Type} (rule : β → β → Except ε β) : Option β → Option β → Except ε (Option β)
  | a, none => .ok a
  | none, some b => .ok (some b)
  | some a, some b => (rule a b).map some

/-- Combines two ranges end by end. What is strung on behind their ends is left out. -/
def RangeRule.apply {α : Type} [Quantity α] : RangeRule → Span α → Span α → Span α
  | .sum, a, b =>
    if Stats.isEndless a || Stats.isEndless b then Stats.endless
    else { low := a.low + b.low, high := a.high + b.high }
  | .union, a, b =>
    { low := Quantity.least a.low b.low, high := Quantity.greatest a.high b.high }

namespace MergeRule
variable {α β : Type}

/-- Combines two amounts; `isWhole` tells their kinds apart. -/
def onAmounts [Add β] (field : Stat) (isWhole : β → Bool) :
    MergeRule → β → β → Except MergeFault β
  | .add, a, b => .ok (a + b)
  | .override, _, b => .ok b
  | .range rule, a, _ => .error (.notRange rule (isWhole a))
  | .unusable name, _, _ => .error (.noRule field name)

/-- Combines two amounts of the arena. -/
def onQuantities [Quantity α] (field : Stat) : MergeRule → α → α → Except MergeFault α :=
  onAmounts field Quantity.isWhole

/-- Combines two counts. -/
def onCounts (field : Stat) : MergeRule → Int → Int → Except MergeFault Int :=
  onAmounts field fun _ => true

/-- Combines two ranges. -/
def onSpans [Quantity α] : MergeRule → Span α → Span α → Except MergeFault (Span α)
  | .add, a, b => .ok (a.append b)
  | .override, _, b => .ok b
  | .range rule, a, b => .ok (rule.apply a b)
  | .unusable name, _, _ => .error (.noRule .lifetime name)

end MergeRule

namespace Stats
variable {α : Type} [Quantity α]

/-- `dst` with one field replaced by the combination of that field in `a` and in `b`. -/
def mergeField (rules : MergeRules) (a b dst : Stats α) : Stat → Except MergeFault (Stats α)
  | .damage => do
    return { dst with damage := ← combine (rules.damage.onQuantities .damage) a.damage b.damage }
  | .speed => do
    return { dst with speed := ← combine (rules.speed.onQuantities .speed) a.speed b.speed }
  | .spread => do
    return { dst with spread := ← combine (rules.spread.onQuantities .spread) a.spread b.spread }
  | .bounces => do
    return { dst with bounces := ← combine (rules.bounces.onCounts .bounces) a.bounces b.bounces }
  | .lifetime => do
    return { dst with lifetime := ← combine rules.lifetime.onSpans a.lifetime b.lifetime }

/-- A new block: `a`, then `b` on top of it. -/
def merge (rules : MergeRules) (a b : Stats α) : Except MergeFault (Stats α) :=
  Stat.all.foldlM (mergeField rules a b) {}

/-- Merges `b` onto the accumulated block, in place. Fields merged before a fault stay merged. -/
def absorb (rules : MergeRules) (b : Stats α) : EStateM MergeFault (Stats α) Unit :=
  Stat.all.forM fun field => do
    let acc ← get
    match mergeField rules acc b acc field with
    | .ok merged => set merged
    | .error fault => throw fault

end Stats
end WandArena
