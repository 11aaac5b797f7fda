import WandArena.Number.Scalar
import WandArena.Stats.Merge
import WandArena.Text.Quoted

/-! What can stop an operation, and what is said about it.

A fault in a wand's content or limits is a `ConfigFault`: it stops that wand alone.
Every other fault stops the operation that met it. -/
namespace WandArena

/-- A fatal problem with the content or the limits of a wand. -/
inductive ConfigFault
  | unknownCard (card : String)
  | unknownWand (wand : String)
  | unknownBlueprint (blueprint : String)
  /-- A wand is checked and lists a card nobody defined. -/
  | missingCard (wand card : String)
  /-- A wand is checked and one of its cards names a blueprint nobody defined. -/
  | missingBlueprint (card blueprint : String)
  | tooDeep (wand : String) (limit : Int)
  | outOfStack (wand : String) (limit : Int)
  | deckTooLarge (wand : String) (cards : Nat) (capacity : Int)
  | noMergeRule (field : Stat) (rule : Option String)
  deriving DecidableEq, Repr

def ConfigFault.message : ConfigFault → String
  | unknownCard card => s!"Cannot find card {quoted card}"
  | unknownWand wand => s!"Cannot find wand {quoted wand}"
  | unknownBlueprint blueprint => s!"Cannot find projectile blueprint {quoted blueprint}"
  | missingCard wand card => s!"Wand {quoted wand} references unknown card {quoted card}"
  | missingBlueprint card blueprint =>
    s!"Card {quoted card} references unknown blueprint {quoted blueprint}"
  | tooDeep wand limit =>
    s!"Wand {quoted wand} went past {limit} nested draws in a single cast"
  | outOfStack wand limit =>
    s!"Wand {quoted wand} ran out of stack before reaching {limit} nested draws"
  | deckTooLarge wand cards capacity =>
    s!"Wand {quoted wand} holds {cards} cards, piles only fit {capacity}"
  | noMergeRule field rule =>
    s!"No usable merge rule for stat {quoted field.name} (got {quotedOrNone rule})"

inductive Fault
  | config (fault : ConfigFault)
  /-- A push onto a pile without a free slot. -/
  | pileFull (capacity : Nat)
  | negativeCapacity (capacity : Int)
  | number (fault : NumberFault)
  | noEntity (id : Int)
  | noWand (id : Int)
  /-- A name that is looked up and not, or no longer, defined. -/
  | undefinedName (name : String)
  /-- A place in a list that is not there. -/
  | noPlace
  /-- A rule for ranges meets one amount, a whole one or a real one. -/
  | notRange (rule : RangeRule) (whole : Bool)
  /-- A lifetime has more than two ends. -/
  | tooManyEnds
  /-- A count that no row of slots, cells or characters can have. -/
  | uncountable
  /-- A row of slots, cells or characters with more bytes than can be counted. -/
  | noMemory
  /-- The list of wands was given with nothing in it. -/
  | noWandList
  /-- The seed was given with nothing in it. -/
  | noSeed
  deriving DecidableEq, Repr

def Fault.message : Fault → String
  | config fault => fault.message
  | pileFull capacity => s!"Cannot push onto a full buffer (capacity {capacity})"
  | negativeCapacity capacity => s!"Capacity must be non-negative, got {capacity}"
  | number fault => fault.message
  | noEntity id => s!"Entity {id} does not exist"
  | noWand id => s!"Entity {id} holds no wand"
  | undefinedName name => name
  | noPlace => "list index out of range"
  | notRange rule whole =>
    let kind := quoted (if whole then "int" else "float")
    match rule with
    | .sum => s!"{kind} object is not iterable"
    | .union => s!"{kind} object is not subscriptable"
  | tooManyEnds => "too many values to unpack (expected 2)"
  | uncountable =>
    let kind := quoted "int"
    s!"cannot fit {kind} into an index-sized integer"
  | noMemory => ""
  | noWandList =>
    let kind := quoted "list"
    let missing := quoted "split"
    s!"{kind} object has no attribute {missing}"
  | noSeed => "The only supported seed types are: None,\nint, float, str, bytes, and bytearray."

/-- What a merge that fails stops with. Only a missing rule lies in the content. -/
def Fault.ofMerge : MergeFault → Fault
  | .noRule field rule => .config (.noMergeRule field rule)
  | .notRange rule whole => .notRange rule whole

/-- How many items of so many bytes a count asks for in one row. A negative one asks for none.
Neither the items nor their bytes can be more than `0x7fffffffffffffff`. How much memory there is on
a host does not matter. -/
def roomOf (bytes : Nat) (count : Int) : Except Fault Nat :=
  if count < -0x8000000000000000 || 0x7fffffffffffffff < count then .error .uncountable
  else if 0x7fffffffffffffff < bytes * count then .error .noMemory
  else .ok count.toNat

/-- How many slots or cells a count asks for. Each takes eight bytes. -/
def room (count : Int) : Except Fault Nat := roomOf 8 count

section Room
variable {bytes items : Nat} {count : Int}

theorem roomOf_eq_ok (h : roomOf bytes count = .ok items) : items = count.toNat := by
  unfold roomOf at h
  split at h
  · cases h
  · split at h <;> cases h
    rfl

theorem exists_roomOf_iff : (∃ items, roomOf bytes count = .ok items) ↔
    (-0x8000000000000000 ≤ count ∧ count ≤ 0x7fffffffffffffff) ∧
      bytes * count ≤ 0x7fffffffffffffff := by
  unfold roomOf
  split
  case isTrue huncountable =>
    simp only [Bool.or_eq_true, decide_eq_true_eq] at huncountable
    refine ⟨nofun, fun h => ?_⟩
    omega
  case isFalse hcountable =>
    simp only [Bool.or_eq_true, decide_eq_true_eq, not_or, Int.not_lt] at hcountable
    split
    · refine ⟨nofun, fun h => ?_⟩
      omega
    · exact ⟨fun _ => ⟨hcountable, by omega⟩, fun _ => ⟨_, rfl⟩⟩

/-- Where there is room for items, there is room for as many smaller ones. -/
theorem exists_roomOf_of_le {fewer : Nat} (hfewer : fewer ≤ bytes)
    (h : ∃ items, roomOf bytes count = .ok items) : ∃ items, roomOf fewer count = .ok items := by
  obtain ⟨hcountable, hfits⟩ := exists_roomOf_iff.1 h
  refine exists_roomOf_iff.2 ⟨hcountable, ?_⟩
  rcases Int.le_total 0 count with hcount | hcount
  · exact Int.le_trans (Int.mul_le_mul_of_nonneg_right (Int.ofNat_le.2 hfewer) hcount) hfits
  · exact Int.le_trans (Int.mul_nonpos_of_nonneg_of_nonpos (Int.natCast_nonneg fewer) hcount)
      (by decide)

/-- There is room for any number of slots that together take no more bytes than can be counted. -/
theorem exists_room_iff (h : 0 ≤ count) :
    (∃ slots, room count = .ok slots) ↔ count < 0x1000000000000000 := by
  refine exists_roomOf_iff.trans ⟨fun ⟨_, hfits⟩ => ?_, fun hless => ?_⟩ <;> omega

/-- More slots have too many bytes, and from some number on they cannot even be counted. -/
theorem room_eq_error (h : 0x1000000000000000 ≤ count) :
    room count = .error (if count < 0x8000000000000000 then .noMemory else .uncountable) := by
  unfold room roomOf
  split
  case isTrue huncountable =>
    simp only [Bool.or_eq_true, decide_eq_true_eq] at huncountable
    rw [if_neg (by omega)]
  case isFalse hcountable =>
    simp only [Bool.or_eq_true, decide_eq_true_eq, not_or, Int.not_lt] at hcountable
    rw [if_pos (by omega), if_pos (by omega)]

end Room

/-- An operation on a state. A fault leaves the state as it was when the fault arose. -/
abbrev Run (σ β : Type) := EStateM Fault σ β

namespace Run
variable {σ τ β : Type}

/-- The value of an operation that leaves the state alone, or its fault. -/
def lift : Except Fault β → Run σ β
  | .ok b => pure b
  | .error fault => throw fault

/-- The value of a numeric operation, or its fault. -/
def number : Except NumberFault β → Run σ β
  | .ok b => pure b
  | .error fault => throw (.number fault)

/-- The value found, or the fault of not finding it. -/
def found (fault : Fault) : Option β → Run σ β
  | some b => pure b
  | none => throw fault

/-- Runs an operation on one part of a larger state. -/
def within (part : σ → τ) (replace : τ → σ → σ) (act : Run τ β) : Run σ β := fun s =>
  match act (part s) with
  | .ok b t => .ok b (replace t s)
  | .error fault t => .error fault (replace t s)

end Run
end WandArena
