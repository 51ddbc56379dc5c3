import Announce.Command.Arguments.Collected
import Announce.Command.Arguments.Word

/-!
# Reading the words of one scope

An option in two words waits for its value, and its value is looked at only
when the next option begins or the words end.  A word that cannot be read at
all is reported at once, so it wins over a bad value in front of it.
-/

namespace Announce.Arguments

/-- What has been read and not yet been looked at. -/
inductive Pending where
  | nothing
  /-- An option, with its value if that has been read. -/
  | setting (name : Setting) (value : Option String)
  /-- Plain words that stand side by side. -/
  | peerIds (texts : List String)
deriving DecidableEq, Repr

/-- A reader on its way through one scope. -/
structure Reader where
  collected : Collected := {}
  pending : Pending := .nothing
  /-- Whether the separator has been read. -/
  separated : Bool := false
deriving DecidableEq, Repr

namespace Reader

/-- Whether the next word is the value of an option. -/
def awaitsValue (reader : Reader) : Bool :=
  match reader.pending with
  | .setting _ none => true
  | _ => false

/-- Look at what is pending. -/
def settle (reader : Reader) : Except UsageEnd Reader :=
  match reader.pending with
  | .nothing => pure reader
  | .setting _ none => .error .invalidValue
  | .setting name (some text) => do
      let collected ← reader.collected.assign text name
      pure { reader with collected, pending := .nothing }
  | .peerIds texts =>
      let collected :=
        { reader.collected with peerIds := reader.collected.peerIds ++ texts }
      pure { reader with collected, pending := .nothing }

/-- Read a plain word that is not the value of an option.  Only the encoder
takes such words.  In the place of a command a plain word should name one, but
no command begins behind the separator. -/
def readPlain (scope : Scope) (reader : Reader) (text : String) :
    Except UsageEnd Reader :=
  match scope with
  | .command .encode =>
      match reader.pending with
      | .peerIds texts => pure { reader with pending := .peerIds (texts ++ [text]) }
      | _ => do
          let settled ← reader.settle
          pure { settled with pending := .peerIds [text] }
  | .general =>
      .error (if isCommandWord text then .unknownArgument else .unknownCommand)
  | _ => .error .unknownArgument

/-- Read a flag. -/
def readFlag (reader : Reader) (flag : Flag) : Except UsageEnd Reader := do
  let settled ← reader.settle
  let collected ← settled.collected.raise flag
  pure { settled with collected }

/-- Read an option by its name. -/
def readLong (scope : Scope) (reader : Reader) (name : String)
    (value : Option String) : Except UsageEnd Reader :=
  match scope.setting? name, scope.flag? name with
  | some setting, _ => do
      let settled ← reader.settle
      match value with
      | none => pure { settled with pending := .setting setting none }
      | some text =>
          let collected ← settled.collected.assign text setting
          pure { settled with collected }
  | none, some flag =>
      if value.isSome then .error .unwantedValue else reader.readFlag flag
  | none, none => .error .unknownArgument

/-- Read one word that does not name a command. -/
def read (scope : Scope) (reader : Reader) (text : String) :
    Except UsageEnd Reader :=
  if reader.separated then
    reader.readPlain scope text
  else
    match Word.of text with
    | .separator => pure { reader with separated := true }
    | .long name value => reader.readLong scope name value
    | .letters first _ =>
        match scope.letterFlag? first with
        | some flag => reader.readFlag flag
        | none => .error .unknownArgument
    | .plain =>
        match reader.pending with
        | .setting name none => pure { reader with pending := .setting name (some text) }
        | _ => reader.readPlain scope text

/-- Read words that do not name a command, and look at all of them. -/
def readAll (scope : Scope) (reader : Reader) : List String → Except UsageEnd Collected
  | [] => do
      let settled ← reader.settle
      pure settled.collected
  | text :: texts => do
      let reader ← reader.read scope text
      reader.readAll scope texts

end Reader

end Announce.Arguments
