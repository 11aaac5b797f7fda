import WandArena.Catalog.Standard
import WandArena.Text.Numeral

/-! The command line.

An option is spelled out, shortened as long as one option alone begins that way, or joined to
its value by an equals sign. Where an option stands twice, the last one counts. A word that
looks like a negative number is a value and not an option. Two dashes alone are never a value:
an option that they are joined to is given with nothing. -/
namespace WandArena.CommandLine

/-- What an option is given with. -/
inductive Given (β : Type)
  | value (b : β)
  | nothing
  deriving DecidableEq, Repr

structure Options where
  seed : Given (Option Int)
  /-- Comma-separated wand ids. -/
  wands : Given String
  debugCasts : Bool
  logFile : Given String
  deriving DecidableEq, Repr

/-- The options that are in force where nobody says otherwise; all the given wands are shown. -/
def Options.default (wands : List String) : Options :=
  ⟨.value none, .value (",".intercalate wands), false, .value "wandcraft.log"⟩

/-- Why the program ends before it starts. -/
inductive Refusal
  /-- Help was asked for. -/
  | help
  /-- The words make no sense. -/
  | usage
  deriving DecidableEq, Repr

def Refusal.exitCode : Refusal → Nat
  | help => 0
  | usage => 2

inductive Flag
  | help
  | seed
  | wands
  | debugCasts
  | logFile
  deriving DecidableEq, Repr

namespace Flag

def all : List Flag := [help, seed, wands, debugCasts, logFile]

def spelling : Flag → String
  | help => "--help"
  | seed => "--seed"
  | wands => "--wands"
  | debugCasts => "--debug-casts"
  | logFile => "--log-file"

end Flag

/-- What a word of the command line is. -/
inductive Word
  | plain (text : String)
  /-- The word after which nothing is an option. -/
  | separator
  /-- An option, with the value joined to it. -/
  | flag (flag : Flag) (value : Option String)
  /-- The short form of help, with what is glued to it. -/
  | shortHelp (glued : List Char)
  | unknown
  deriving DecidableEq, Repr

/-- A word cut at its first equals sign. -/
def cutAtEquals (chars : List Char) : List Char × Option (List Char) :=
  match chars.dropWhile (· != '=') with
  | [] => (chars, none)
  | _ :: value => (chars.takeWhile (· != '='), some value)

/-- What a word that names no option is. -/
def wordOfOther (text : String) : Word :=
  if Numeral.isNegative text || text.toList.contains ' ' then .plain text else .unknown

/-- What a word is; one that may mean two options is refused. -/
def classify (text : String) : Except Refusal Word :=
  match text.toList with
  | '-' :: '-' :: rest =>
    let (name, value) := cutAtEquals ('-' :: '-' :: rest)
    let value := value.map String.ofList
    match Flag.all.find? (·.spelling.toList == name) with
    | some flag => .ok (.flag flag value)
    | none =>
      match Flag.all.filter (name.isPrefixOf ·.spelling.toList) with
      | [] => .ok (wordOfOther text)
      | [flag] => .ok (.flag flag value)
      | _ => .error .usage
  | '-' :: 'h' :: glued => .ok (.shortHelp glued)
  | '-' :: _ :: _ => .ok (wordOfOther text)
  | _ => .ok (.plain text)

/-- The words of a command line. -/
def words : List String → Except Refusal (List Word)
  | [] => .ok []
  | "--" :: rest => .ok (.separator :: rest.map .plain)
  | text :: rest => do return (← classify text) :: (← words rest)

/-- The value that a text stands for, unless it is two dashes alone. -/
def given {β : Type} (read? : String → Option β) (text : String) : Except Refusal (Given β) :=
  if text = "--" then .ok .nothing
  else
    match read? text with
    | some value => .ok (.value value)
    | none => .error .usage

/-- Sets an option that takes a value. -/
def assign (o : Options) (text : String) : Flag → Except Refusal Options
  | .seed => do return { o with seed := ← given (fun s => (Numeral.integer? s).map some) text }
  | .wands => do return { o with wands := ← given some text }
  | .logFile => do return { o with logFile := ← given some text }
  | .help | .debugCasts => .error .usage

/-- Whether the short form of help still asks for help with some letters glued to it. They have
to be its own letter, over and over; an equals sign may stand before them. -/
def asksHelp : List Char → Bool
  | [] => true
  | '=' :: letters => !letters.isEmpty && letters.all (· == 'h')
  | letters => letters.all (· == 'h')

/-- Reads words from left to right; `stray` says that one of them belonged nowhere. -/
def read (o : Options) (stray : Bool) : List Word → Except Refusal Options
  | [] => if stray then .error .usage else .ok o
  | .plain _ :: rest | .separator :: rest | .unknown :: rest => read o true rest
  | .shortHelp glued :: _ =>
    .error (if asksHelp glued then .help else .usage)
  | .flag .help none :: _ => .error .help
  | .flag .debugCasts none :: rest => read { o with debugCasts := true } stray rest
  | .flag flag (some value) :: rest => do read (← assign o value flag) stray rest
  | .flag flag none :: .plain value :: rest => do read (← assign o value flag) stray rest
  | .flag _ none :: _ => .error .usage

/-- Reads a command line. -/
def parse (defaults : Options) (argv : List String) : Except Refusal Options := do
  read defaults false (← words argv)

end WandArena.CommandLine
