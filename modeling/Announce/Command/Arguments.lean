import Announce.Command.Arguments.Reader

/-!
# Reading a command line

The words of a command line are read from the left.  Options in front of the
command are the general ones; behind the name of the command come its own
options and the general ones again.

The rules are those that clap 4 documents for the kinds of options that there
are here.

* A name is matched as a whole and with its case; nothing is abbreviated.
* `--name=text` gives an option any text.  As a word of its own the value of an
  option must not begin with a dash, unless it is a dash alone.
* Behind `--` every word is plain.  Only the encoder takes plain words.
* An option is given at most once in front of the command and at most once
  behind its name.  A general one may be given in both places, and the one
  behind the name counts.
* A value is one of the choices of its option, a number that fits into 64 bits,
  or any text.  A path must not be empty.
* A flag has no value.
* Of the two options that name a payload exactly one is given.
* `-h`, `--help` and the command `help` end the reading with help, and in front
  of the command `-V` and `--version` end it with the version.

A word is a text here.  A path that is not UTF-8 is no text and cannot be given.
-/

namespace Announce

namespace Arguments

/-- A payload comes from exactly one place. -/
def payloadOptions (collected : Collected) : Except UsageEnd PayloadOptions :=
  match collected.hex, collected.file with
  | some _, some _ => .error .conflict
  | none, none => .error .missingOption
  | hex, file => pure ⟨hex, file⟩

/-- The command that the options behind its name describe. -/
def command (name : CommandName) (collected : Collected) :
    Except UsageEnd Command :=
  match name with
  | .encode =>
      let limit := collected.maxNeighbors.getD Neighbors.defaultLimit
      pure (.encode ⟨collected.peerIds, limit, collected.strict⟩)
  | .decode => return .decode (← payloadOptions collected)
  | .inspect => return .inspect (← payloadOptions collected)
  | .version => pure (.version collected.extended)

/-- A request for help may name one command, or help itself. -/
def readHelp : List String → UsageEnd
  | [] => .help
  | [text] => if isCommandWord text then .help else .unknownCommand
  | _ => .unknownCommand

/-- Without a command there is nothing to do. -/
def withoutCommand (reader : Reader) : UsageEnd :=
  match reader.settle with
  | .error reason => reason
  | .ok settled =>
      if settled.collected.isEmpty then .helpForNothing else .missingCommand

/-- Put together a command and the general options in front of it and behind its
name, which win. -/
def assemble (command : Command) (front behind : Collected) : Invocation :=
  { command
    format := behind.format <|> front.format
    logStyle := (behind.logStyle <|> front.logStyle).getD .text
    logLevel := (behind.logLevel <|> front.logLevel).getD .warn }

/-- Read the words from the general scope on.  The words behind the name of a
command are judged before the general options in front of it. -/
def readGeneral (reader : Reader) : List String → Except UsageEnd Invocation
  | [] => .error (withoutCommand reader)
  | text :: texts =>
      if reader.separated || reader.awaitsValue then do
        let reader ← reader.read .general text
        readGeneral reader texts
      else if text = helpWord then
        .error (readHelp texts)
      else
        match CommandName.ofWord? text with
        | some name => do
            let behind ← Reader.readAll (.command name) {} texts
            let command ← command name behind
            let settled ← reader.settle
            pure (assemble command settled.collected behind)
        | none => do
            let reader ← reader.read .general text
            readGeneral reader texts

end Arguments

/-- Read a command line, without the name of the program. -/
def Invocation.parse (arguments : List String) : Except UsageEnd Invocation :=
  Arguments.readGeneral {} arguments

end Announce
