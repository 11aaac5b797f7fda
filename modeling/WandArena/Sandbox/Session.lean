import WandArena.CommandLine
import WandArena.Sandbox.Display
import WandArena.Sandbox.FrameClock
import WandArena.Sandbox.Keys
import WandArena.Screen.Terminal

/-! Sessions: the program from its command line to its end.

A session is told what it cannot know by itself: the size of the screen, the keys that wait in
each frame and the readings of a clock. It answers with what it prints and how long it sleeps. -/
namespace WandArena

/-- A sandbox and the clock it runs by. -/
structure Session (α : Type) where
  sandbox : Sandbox α
  clock : FrameClock α

namespace Session
variable {α : Type}

/-- Runs an operation on the sandbox. -/
def onSandbox {β : Type} (act : Run (Sandbox α) β) : Run (Session α) β :=
  Run.within (·.sandbox) (fun sandbox s => { s with sandbox }) act

def running (s : Session α) : Bool := s.sandbox.running

variable [Scalar α]

/-- One frame, up to the point where it may sleep: the keys that wait, the ticks that are due
and what is printed. -/
def frame (term : Terminal) (now : α) (keys : List Key) : Run (Session α) String := do
  modify fun s => { s with clock := s.clock.advance now }
  onSandbox (Sandbox.pressAll keys)
  let ticks ← modifyGet fun s =>
    let (ticks, clock) := s.clock.takeTicks
    (ticks, { s with clock })
  onSandbox (Sandbox.updateMany ticks)
  let changes ← onSandbox Sandbox.render
  modify fun s =>
    match s.clock.measure with
    | (some rate, clock) => { sandbox := { s.sandbox with rate }, clock }
    | (none, clock) => { s with clock }
  return term.writeAll changes

end Session

/-- Readings of a clock; the last one repeats for ever. -/
structure Readings (α : Type) where
  current : α
  rest : List α

namespace Readings
variable {α : Type}

def ofList (first : α) : List α → Readings α
  | [] => ⟨first, []⟩
  | reading :: rest => ⟨reading, rest⟩

/-- The next reading. -/
def next (r : Readings α) : α × Readings α :=
  match r.rest with
  | [] => (r.current, r)
  | reading :: rest => (r.current, ⟨reading, rest⟩)

end Readings

/-- What a session leaves behind. -/
structure Transcript (α : Type) where
  /-- The exit code, if the session ended before its time. -/
  exitCode : Option Nat
  printed : String
  sleeps : List α
  journal : Array (Record α)

namespace Session
variable {α : Type} [Scalar α]

/-- The smallest screen. -/
def minWidth : Int := 60

def minHeight : Int := 16

/-- The most turrets. -/
def maxTurrets : Nat := 9

/-- The wand ids of a comma-separated list. -/
def wandIds (text : String) : List String :=
  (((text.splitOn ",").map trimBlanks).filter (· ≠ "")).take maxTurrets

/-- The complaint about wand ids, if there is something to complain about. -/
def complaint? (known wanted : List String) : Option String :=
  let unknown := wanted.filter (!known.contains ·)
  let complained := if unknown.isEmpty then "(none given)" else ", ".intercalate unknown
  let available := ", ".intercalate known
  if unknown.isEmpty && !wanted.isEmpty then none
  else some s!"Unknown wand ids: {complained}. Available: {available}\n"

/-- The complaint about a screen that is too small. -/
def tooSmall? (width height : Int) : Option String :=
  if width < minWidth || height < minHeight then
    some s!"Terminal too small: {width}x{height}. Minimum: {minWidth}x{minHeight}\n"
  else none

/-- How a session starts. -/
inductive Opening
  /-- It ends at once, with a message and an exit code. -/
  | refused (message : String) (exitCode : Nat)
  | granted (wandIds : List String) (options : CommandLine.Options)

/-- Reads a command line against the known wands and the size of the screen. -/
def opening (known argv : List String) (width height : Int) : Except Fault Opening :=
  match CommandLine.parse (.default known) argv with
  | .error refusal => .ok (.refused "" refusal.exitCode)
  | .ok options =>
    match options.wands with
    | .nothing => .error .noWandList
    | .value text =>
      let wanted := wandIds text
      match complaint? known wanted, tooSmall? width height with
      | some message, _ => .ok (.refused message 2)
      | none, some message => .ok (.refused message 1)
      | none, none => .ok (.granted wanted options)

/-- The sandbox of a session. -/
def openSandbox (width height : Int) (wandIds : List String) (options : CommandLine.Options)
    (spareSeed : Int) : Except Fault (Sandbox α) := do
  let canvas ← Sandbox.canvasFor width height
  match options.seed with
  | .nothing => throw .noSeed
  | .value seed => Sandbox.start canvas wandIds seed spareSeed options.debugCasts

/-- Plays frames until the user quits, and quits once there are no more frames. -/
def play (term : Terminal) : List (List Key) → Readings α → Run (Session α) (String × List α)
  | frames, readings => do
    if (← get).running then
      let (now, readings) := readings.next
      let printed ← frame term now (frames.headD [.text "q"])
      let (later, readings) := readings.next
      let slept := ((← get).clock.sleep? later).toList
      match frames with
      | [] => return (printed, slept)
      | _ :: rest =>
        let (printed', slept') ← play term rest readings
        return (printed ++ printed', slept ++ slept')
    else return ("", [])

/-- A whole session. -/
def perform (term : Terminal) (argv : List String) (width height : Int) (frames : List (List Key))
    (readings : Readings α) (spareSeed : Int) : Except Fault (Transcript α) := do
  match ← opening (Catalog.standardWands : Registry (Wand α)).names argv width height with
  | .refused message exitCode => return ⟨some exitCode, message, [], #[]⟩
  | .granted wands options =>
    let sandbox ← openSandbox width height wands options spareSeed
    let (now, readings) := readings.next
    match play term frames readings ⟨sandbox, .start now⟩ with
    | .error fault _ => .error fault
    | .ok (printed, sleeps) s =>
      .ok ⟨none, term.home ++ term.clear ++ printed ++ term.normal, sleeps, s.sandbox.sim.journal⟩

end Session
end WandArena
