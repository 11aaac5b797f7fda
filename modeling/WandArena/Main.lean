import WandArena.Number.Amount
import WandArena.Sandbox.Session

/-! The program on a real terminal.

The size of the screen comes from `COLUMNS` and `LINES`, keys are read from standard input as they
arrive, and the journal is appended to a file. All that happens in between is a `Session`. -/
namespace WandArena.Program

/-- The keys that typed characters stand for. An escape before a bracket opens a sequence, which
ends at its first letter or tilde and types nothing. -/
def keysOf : List Char → List Key
  | '\x1b' :: '[' :: rest => keysOfSequence rest
  | '\x1b' :: rest => .named "KEY_ESCAPE" :: keysOf rest
  | c :: rest => .text c.toString :: keysOf rest
  | [] => []
where
  keysOfSequence : List Char → List Key
    | c :: rest =>
      if c.isAlpha || c = '~' then .named "KEY_SEQUENCE" :: keysOf rest else keysOfSequence rest
    | [] => [.named "KEY_SEQUENCE"]

/-- Reads keys until one quits or the input ends. -/
partial def readKeys (input : IO.FS.Stream) (waiting : IO.Ref (List Key)) : IO Unit := do
  let bytes ← input.read 64
  let typed := ((String.fromUTF8? bytes).getD "").toList
  let keys := if bytes.isEmpty then [Key.text "q"] else keysOf typed
  waiting.modify (· ++ keys)
  unless keys.any (·.quits) do readKeys input waiting

def seconds : IO Amount := do
  return .real (Float.ofNat (← IO.monoNanosNow) / 1000000000.0)

def sizeFrom (name : String) (other : Int) : IO Int := do
  return ((← IO.getEnv name).bind Numeral.integer?).getD other

/-- A seed nobody gave. -/
def someSeed : IO Int := do
  return (← IO.getRandomBytes 8).foldl (fun n b => 256 * n + (b.toNat : Int)) 0

/-- The file that the journal is appended to, if one is named. -/
def journalFile? : CommandLine.Given String → IO (Option IO.FS.Handle)
  | .value name =>
    if name.isEmpty then return none else return some (← IO.FS.Handle.mk name .append)
  | .nothing => return none

/-- Appends what the journal holds to the file and empties it. -/
def writeJournal (file? : Option IO.FS.Handle) (s : Session Amount) : IO (Session Amount) := do
  if let some file := file? then
    for record in s.sandbox.sim.journal do
      file.putStrLn record.line
    file.flush
  let sim := { s.sandbox.sim with journal := #[] }
  return { s with sandbox := { s.sandbox with sim } }

/-- Runs an operation of the session; a fault ends the program. -/
def step {β : Type} (act : Run (Session Amount) β) (s : Session Amount) :
    IO (β × Session Amount) :=
  match act s with
  | .ok b s => return (b, s)
  | .error fault _ => throw (IO.userError fault.message)

/-- A value that the program cannot go on without. -/
def obtain {β : Type} : Except Fault β → IO β
  | .ok b => return b
  | .error fault => throw (IO.userError fault.message)

/-- Plays frames until the user quits. -/
partial def play (term : Terminal) (file? : Option IO.FS.Handle) (output : IO.FS.Stream)
    (waiting : IO.Ref (List Key)) (s : Session Amount) : IO Unit := do
  let s ← writeJournal file? s
  if s.running then
    let (printed, s) ← step (Session.frame term (← seconds) (← waiting.swap [])) s
    output.putStr printed
    output.flush
    match s.clock.sleep? (← seconds) with
    | some time => IO.sleep (time.toFloat * 1000.0).toUInt32
    | none => pure ()
    play term file? output waiting s

def run (argv : List String) : IO UInt32 := do
  let output ← IO.getStdout
  let width ← sizeFrom "COLUMNS" 80
  let height ← sizeFrom "LINES" 24
  let known := (Catalog.standardWands : Registry (Wand Amount)).names
  match ← obtain (Session.opening known argv width height) with
  | .refused message exitCode =>
    output.putStr message
    return exitCode.toUInt32
  | .granted wands options =>
    let file? ← journalFile? options.logFile
    let sandbox ← obtain (Session.openSandbox width height wands options (← someSeed))
    let s : Session Amount := ⟨sandbox, .start (← seconds)⟩
    let waiting ← IO.mkRef []
    let input ← IO.getStdin
    let reader ← IO.asTask (readKeys input waiting) .dedicated
    let term := Terminal.ansi
    output.putStr (term.home ++ term.clear)
    play term file? output waiting s
    output.putStr term.normal
    output.flush
    IO.cancel reader
    return 0

end WandArena.Program

def main (argv : List String) : IO UInt32 := WandArena.Program.run argv
