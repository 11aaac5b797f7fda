import WandArena.Text.Quoted

/-! Actions: what the scheduler hands out.

An action is also an event: tasks wait for the despawning of an entity and are released
when it goes away. Nobody acts on a kind that is not in the list, but it is kept, so that
it can be waited for and reported. -/
namespace WandArena

inductive ActionKind
  /-- Cast the wand that the entity holds. -/
  | shootWand
  | despawnEntity
  /-- The event right before an entity is despawned. -/
  | onDespawn
  | debugLog
  | other (name : String)
  deriving DecidableEq, Repr

namespace ActionKind

def name : ActionKind → String
  | shootWand => "shoot_wand"
  | despawnEntity => "despawn_entity"
  | onDespawn => "on_despawn"
  | debugLog => "debug_log"
  | other name => name

/-- The kind of a name. Every kind is found again by its name. -/
def ofName : String → ActionKind
  | "shoot_wand" => shootWand
  | "despawn_entity" => despawnEntity
  | "on_despawn" => onDespawn
  | "debug_log" => debugLog
  | name => other name

end ActionKind

structure Action where
  kind : ActionKind
  entity : Int := -1
  message : String := ""
  deriving DecidableEq, Repr

namespace Action

def shootWand (entity : Int) : Action := ⟨.shootWand, entity, ""⟩

def despawnEntity (entity : Int) : Action := ⟨.despawnEntity, entity, ""⟩

def onDespawn (entity : Int) : Action := ⟨.onDespawn, entity, ""⟩

def debugLog (message : String) : Action := ⟨.debugLog, -1, message⟩

/-- An action with all its fields, as the journal shows one that nobody acts on. -/
def describe (a : Action) : String :=
  s!"Action(kind={quoted a.kind.name}, entity_id={a.entity}, message={quoted a.message})"

end Action
end WandArena
