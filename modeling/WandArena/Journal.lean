import WandArena.Action
import WandArena.Cast.Resolve

/-! The journal: what a run reports, record by record.

A record knows its level and the part of the program that speaks. Notes on single casts are
made only while casts are followed closely; the other records are always made. -/
namespace WandArena

inductive Record (α : Type)
  | cast (note : CastNote α)
  /-- A wand was stopped by a fault in its content or limits. -/
  | halting (holder : Int)
  /-- A scheduled cast found no wand to cast. -/
  | dropping (holder : Int)
  | debugLog (message : String)
  | unknownAction (action : Action)
  | sandboxStarted (wands : List String) (seed : Option Int)
  | castLogs (on : Bool)

namespace CastNote

def message {α : Type} [Scalar α] : CastNote α → String
  | drew card => s!"Drew {card}"
  | tooCostly card => s!"Not enough mana to cast {card}"
  | endless => "Infinite wisp!"
  | remainingMana mana => s!"Remaining mana {Scalar.report mana}"
  | recharge => "Recharge!!!"

end CastNote

namespace Record
variable {α : Type}

def level : Record α → String
  | cast _ => "DEBUG"
  | halting _ => "ERROR"
  | dropping _ => "DEBUG"
  | debugLog _ => "INFO"
  | unknownAction _ => "WARNING"
  | sandboxStarted _ _ => "INFO"
  | castLogs _ => "INFO"

/-- The part of the program that speaks. -/
def speaker : Record α → String
  | cast _ => "wandcraft.casting"
  | halting _ | dropping _ | debugLog _ | unknownAction _ => "wandcraft.simulation"
  | sandboxStarted _ _ | castLogs _ => "wandcraft.main"

def message [Scalar α] : Record α → String
  | cast note => note.message
  | halting holder => s!"Halting wand on entity {holder}"
  | dropping holder => s!"Dropping cast for entity {holder}, it no longer holds a wand"
  | debugLog message => s!"Debug log: {message}"
  | unknownAction action => s!"Unknown game action {action.describe}"
  | sandboxStarted wands seed =>
    let seedText := match seed with
      | none => "None"
      | some n => toString n
    s!"Sandbox started with wands {bracketed (wands.map quoted)} (seed={seedText})"
  | castLogs on => if on then "Wand execution logs on" else "Wand execution logs off"

/-- The record as one line: level, speaker and message. -/
def line [Scalar α] (r : Record α) : String := s!"{r.level} {r.speaker}: {r.message}"

end Record
end WandArena
