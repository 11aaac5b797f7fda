import WandArena.Registry
import WandArena.Stats.Merge

/-! A bank of named stats, merged in place.

`Bank.mergeInto` writes the combination of two blocks into a third, field by field.
The three names may coincide: a field is read from the bank before it is written, and
no field of one kind depends on a field of another. -/
namespace WandArena

structure Bank (α : Type) where
  blocks : Registry (Stats α)

namespace Bank
variable {α : Type}

def empty : Bank α := ⟨.empty⟩

/-- The block of a name; a name never used holds an empty one. -/
def block (bank : Bank α) (name : String) : Stats α := (bank.blocks.get? name).getD {}

def store (bank : Bank α) (name : String) (stats : Stats α) : Bank α := ⟨bank.blocks.put name stats⟩

theorem block_store (bank : Bank α) (name other : String) (stats : Stats α) :
    (bank.store name stats).block other = if other = name then stats else bank.block other := by
  unfold block store
  rw [Registry.get?_put]
  split <;> rfl

variable [Quantity α]

/-- Writes the merge of block `a` and block `b` into block `dst`. -/
def mergeInto (rules : MergeRules) (dst a b : String) : EStateM MergeFault (Bank α) Unit :=
  Stat.all.forM fun field => do
    let bank ← get
    match Stats.mergeField rules (bank.block a) (bank.block b) (bank.block dst) field with
    | .ok merged => set (bank.store dst merged)
    | .error fault => throw fault

end Bank
end WandArena
