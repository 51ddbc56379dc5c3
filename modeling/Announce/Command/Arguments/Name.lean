/-!
# Names on a command line

The words for commands and options, and which options are known where.
-/

namespace Announce.Arguments

/-- The names of commands. -/
inductive CommandName where
  | encode
  | decode
  | inspect
  | version
deriving DecidableEq, Repr

namespace CommandName

/-- All commands. -/
def all : List CommandName := [.encode, .decode, .inspect, .version]

/-- The word for a command. -/
def word : CommandName → String
  | .encode => "encode"
  | .decode => "decode"
  | .inspect => "inspect"
  | .version => "version"

/-- The command that a word stands for. -/
def ofWord? (text : String) : Option CommandName :=
  all.find? fun command => command.word == text

end CommandName

/-- The word that asks for help in the place of a command. -/
def helpWord : String := "help"

/-- Whether a word means something in the place of a command. -/
def isCommandWord (text : String) : Bool :=
  text == helpWord || (CommandName.ofWord? text).isSome

/-- The part of a command line that options belong to: in front of the command,
or behind its name. -/
inductive Scope where
  | general
  | command (name : CommandName)
deriving DecidableEq, Repr

/-- Options with a value. -/
inductive Setting where
  | format
  | logFormat
  | logLevel
  | maxNeighbors
  | hex
  | file
deriving DecidableEq, Repr

/-- Options without a value. -/
inductive Flag where
  | help
  | version
  | strict
  | extended
deriving DecidableEq, Repr

/-- The name of an option, without the dashes. -/
def Setting.word : Setting → String
  | .format => "format"
  | .logFormat => "log-format"
  | .logLevel => "log-level"
  | .maxNeighbors => "max-neighbors"
  | .hex => "hex"
  | .file => "file"

/-- The name of a flag, without the dashes. -/
def Flag.word : Flag → String
  | .help => "help"
  | .version => "version"
  | .strict => "strict"
  | .extended => "extended"

/-- The one-letter name of a flag, if it has one. -/
def Flag.letter? : Flag → Option Char
  | .help => some 'h'
  | .version => some 'V'
  | _ => none

namespace Scope

/-- The options with a value that a scope knows.  The general ones are known
everywhere. -/
def settings : Scope → List Setting
  | .general | .command .version => [.format, .logFormat, .logLevel]
  | .command .encode => [.maxNeighbors, .format, .logFormat, .logLevel]
  | .command .decode | .command .inspect =>
      [.hex, .file, .format, .logFormat, .logLevel]

/-- The flags that a scope knows. -/
def flags : Scope → List Flag
  | .general => [.help, .version]
  | .command .encode => [.strict, .help]
  | .command .decode | .command .inspect => [.help]
  | .command .version => [.extended, .help]

/-- The option with a value that has the given name. -/
def setting? (scope : Scope) (name : String) : Option Setting :=
  scope.settings.find? fun setting => setting.word == name

/-- The flag that has the given name. -/
def flag? (scope : Scope) (name : String) : Option Flag :=
  scope.flags.find? fun flag => flag.word == name

/-- The flag that has the given letter. -/
def letterFlag? (scope : Scope) (letter : Char) : Option Flag :=
  scope.flags.find? fun flag => flag.letter? == some letter

end Scope

end Announce.Arguments
