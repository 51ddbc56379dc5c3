import Announce.Command.Arguments.Name
import Announce.Command.Invocation
import Announce.Command.Usage

/-!
# Options with their values

What the options of one scope have been found to say.  Every option may be given
once, and its text has to be one of its choices, a number or a path.
-/

namespace Announce.Arguments

/-- The options that one scope has collected. -/
structure Collected where
  format : Option Format := none
  logStyle : Option Log.Style := none
  logLevel : Option Log.Level := none
  maxNeighbors : Option UInt64 := none
  hex : Option String := none
  file : Option String := none
  strict : Bool := false
  extended : Bool := false
  peerIds : List String := []
deriving DecidableEq, Repr

/-- Read an unsigned number of 64 bits: decimal digits, perhaps behind a plus
sign. -/
def readNumber? (text : String) : Option UInt64 :=
  let digits :=
    match text.toList with
    | '+' :: digits => digits
    | digits => digits
  if digits.isEmpty || !digits.all Char.isDigit then
    none
  else
    let value := digits.foldl (fun value digit => value * 10 + (digit.toNat - 48)) 0
    if value < UInt64.size then some (UInt64.ofNat value) else none

/-- Take a value over, or end for the given reason if there is none. -/
def orEnd {α : Type} (reason : UsageEnd) : Option α → Except UsageEnd α
  | some value => .ok value
  | none => .error reason

/-- An option may be given once in a scope. -/
def onlyOnce {α : Type} : Option α → Except UsageEnd Unit
  | some _ => .error .conflict
  | none => .ok ()

namespace Collected

/-- Give an option its value. -/
def assign (collected : Collected) (text : String) :
    Setting → Except UsageEnd Collected
  | .format => do
      onlyOnce collected.format
      let format ← orEnd .invalidValue (Format.ofName? text)
      pure { collected with format := some format }
  | .logFormat => do
      onlyOnce collected.logStyle
      let style ← orEnd .invalidValue (Log.Style.ofName? text)
      pure { collected with logStyle := some style }
  | .logLevel => do
      onlyOnce collected.logLevel
      let level ← orEnd .invalidValue (Log.Level.ofName? text)
      pure { collected with logLevel := some level }
  | .maxNeighbors => do
      onlyOnce collected.maxNeighbors
      let limit ← orEnd .notNumber (readNumber? text)
      pure { collected with maxNeighbors := some limit }
  | .hex => do
      onlyOnce collected.hex
      pure { collected with hex := some text }
  | .file => do
      onlyOnce collected.file
      if text.isEmpty then .error .invalidValue
      else pure { collected with file := some text }

/-- Set a flag.  Help and version end the reading. -/
def raise (collected : Collected) : Flag → Except UsageEnd Collected
  | .help => .error .help
  | .version => .error .version
  | .strict =>
      if collected.strict then .error .conflict
      else pure { collected with strict := true }
  | .extended =>
      if collected.extended then .error .conflict
      else pure { collected with extended := true }

/-- Whether no option has been given. -/
def isEmpty (collected : Collected) : Bool :=
  collected = {}

end Collected

end Announce.Arguments
