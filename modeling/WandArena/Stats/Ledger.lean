import WandArena.Fault
import WandArena.Stats.Bank
import WandArena.Stats.Sample

/-! A ledger: a bank whose amounts are told apart.

Every amount that is written gets a mark of its own, unless it is a copy of one that is there.
So two blocks are equal where they share what is not a number, and differ where each has its
own. A name that nobody wrote to is a fault. -/
namespace WandArena

structure Ledger (α : Type) where
  bank : Bank (Sample α)
  /-- The next mark. -/
  next : Nat

namespace Ledger
variable {α : Type}

def empty : Ledger α := ⟨.empty, 0⟩

/-- The names written to and their blocks, in the order of the first writing. -/
def blocks (ledger : Ledger α) : List (String × Stats α) :=
  ledger.bank.blocks.entries.map fun (name, stats) => (name, stats.map Sample.value)

/-- Marks the amounts of a block that have no mark. -/
def settle (ledger : Ledger α) (name : String) : Ledger α :=
  let (stats, next) := (ledger.bank.block name).mapM Sample.marked ledger.next
  ⟨ledger.bank.store name stats, next⟩

/-- The block of a name. -/
def find (name : String) : Run (Ledger α) (Stats (Sample α)) := do
  Run.found (.undefinedName name) ((← get).bank.blocks.get? name)

/-- Writes a block. -/
def write (name : String) (stats : Stats (Sample α)) : Run (Ledger α) Unit :=
  modify fun ledger => settle { ledger with bank := ledger.bank.store name stats } name

/-- Enters a block that comes from outside. -/
def enter (name : String) (stats : Stats α) : Run (Ledger α) Unit :=
  write name (stats.map fun value => { value })

variable [Quantity α]

/-- Writes a new block: `a`, then `b` on top of it. -/
def merge (rules : MergeRules) (dst a b : String) : Run (Ledger α) Unit := do
  let below ← find a
  let above ← find b
  match Stats.merge rules below above with
  | .ok merged => write dst merged
  | .error fault => throw (.ofMerge fault)

/-- Writes the merge of block `a` and block `b` into block `dst`, field by field. -/
def mergeInto (rules : MergeRules) (dst a b : String) : Run (Ledger α) Unit := do
  let _ ← find dst
  let _ ← find a
  let _ ← find b
  fun ledger =>
    match Bank.mergeInto rules dst a b ledger.bank with
    | .ok _ bank => .ok () (settle { ledger with bank } dst)
    | .error fault bank => .error (.ofMerge fault) (settle { ledger with bank } dst)

/-- Writes a block with every absent field of another one filled in. -/
def resolve (dst a : String) : Run (Ledger α) Unit := do
  write dst (← find a).resolve.toStats

/-- Whether two names hold equal blocks. -/
def same (a b : String) : Run (Ledger α) Bool := do
  return (← find a) == (← find b)

end Ledger
end WandArena
