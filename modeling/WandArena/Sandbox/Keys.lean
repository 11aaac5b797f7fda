import WandArena.Sandbox.Basic

/-! Keys: what the user can press.

Keys that are waiting are taken one after another. Quitting leaves the others unread, and so
does a key without text, which is what a keyboard with nothing more to say gives. -/
namespace WandArena

inductive Key
  /-- A key that types text. -/
  | text (typed : String)
  /-- A key that types nothing and goes by a name. -/
  | named (name : String)
  deriving DecidableEq, Repr

namespace Key

/-- The text a key types, in lower case. -/
def typed : Key → String
  | .text typed => typed.toLower
  | .named _ => ""

/-- Whether there is no key. -/
def isNone (k : Key) : Bool := k = .text ""

def quits (k : Key) : Bool := k.typed = "q" || k = .named "KEY_ESCAPE"

/-- The place that a key with a stretch of the digits one to nine chooses, counted from zero. -/
def place? (k : Key) : Option Nat :=
  let digits := k.typed.toList
  let row := "123456789".toList
  if digits ≠ [] ∧ (List.range row.length).any fun n => digits.isPrefixOf (row.drop n) then
    some (digits.foldl (fun n d => 10 * n + (d.toNat - '0'.toNat)) 0 - 1)
  else none

end Key

namespace Sandbox
variable {α : Type}

/-- Turns the notes on casts on or off. -/
def toggleNotes : Run (Sandbox α) Unit := do
  let on := !(← get).sim.traced
  onStage (modify fun s => { s with traced := on })
  modify fun b => { b with debugCasts := on }
  onStage (Stage.log (.castLogs on))

variable [Scalar α]

/-- What a key does that does not quit. Other keys do nothing. -/
def press (key : Key) : Run (Sandbox α) Unit :=
  match key.place? with
  | some place =>
    modify fun b => if place < b.turrets.length then { b with selected := place } else b
  | none =>
    match key.typed with
    | " " => modify fun b => { b with paused := !b.paused }
    | "d" => toggleNotes
    | "f" => modify fun b => { b with showRate := !b.showRate }
    | "r" => restart
    | _ => return

/-- Takes the keys that are waiting. -/
def pressAll : List Key → Run (Sandbox α) Unit
  | [] => return
  | key :: rest =>
    if key.isNone then return
    else if key.quits then modify fun b => { b with running := false }
    else do
      press key
      pressAll rest

end Sandbox
end WandArena
