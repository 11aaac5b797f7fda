import WandArena.Text.Unprinted

/-! Quoted text, as messages show names.

A name stands in single quotes, or in double quotes if it holds a single quote and
no double one. The quote in use and the backslash are escaped by a backslash, and a
character with no printed form is written as an escape. -/
namespace WandArena

/-- The last `width` hexadecimal digits of a code point. -/
def hexDigits (width code : Nat) : List Char :=
  (Nat.toDigits 16 code).leftpad width '0'

/-- How one character stands between quotes of the given kind. -/
def quotedChar (quote c : Char) : List Char :=
  if c = quote || c = '\\' then ['\\', c]
  else if c = '\n' then ['\\', 'n']
  else if c = '\t' then ['\\', 't']
  else if c = '\r' then ['\\', 'r']
  else if isPrinted c then [c]
  else if c.toNat < 0x100 then '\\' :: 'x' :: hexDigits 2 c.toNat
  else if c.toNat < 0x10000 then '\\' :: 'u' :: hexDigits 4 c.toNat
  else '\\' :: 'U' :: hexDigits 8 c.toNat

def singleQuote : Char := '\x27'

def doubleQuote : Char := '\x22'

/-- Double quotes only where they save escaping a single one. -/
def quoteFor (text : List Char) : Char :=
  if singleQuote ∈ text && !(doubleQuote ∈ text) then doubleQuote else singleQuote

def quoted (text : String) : String :=
  let chars := text.toList
  let quote := quoteFor chars
  String.ofList (quote :: chars.flatMap (quotedChar quote) ++ [quote])

/-- A name that may be missing. -/
def quotedOrNone : Option String → String
  | none => "None"
  | some text => quoted text

/-- Items between brackets, separated by a comma and a space. -/
def bracketed (items : List String) : String :=
  "[" ++ ", ".intercalate items ++ "]"

end WandArena
