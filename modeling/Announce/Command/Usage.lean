/-!
# Ends of a command line that is not run

Reading a command line can end without an invocation: with a request for help
or for the version, or with an error.  What is told apart here is the kind of the
end and its exit code; the text of the help and the wording of the errors are
left out.
-/

namespace Announce

/-- Why a command line is not run. -/
inductive UsageEnd where
  /-- Help was asked for. -/
  | help
  /-- The version was asked for. -/
  | version
  /-- Nothing was given at all, which shows the help. -/
  | helpForNothing
  /-- Options were given and no command. -/
  | missingCommand
  /-- A word stands for a command and is none. -/
  | unknownCommand
  /-- An option is unknown, or a word is one too many. -/
  | unknownArgument
  /-- An option has no value, or one that is not among its choices. -/
  | invalidValue
  /-- A number was asked for and not given. -/
  | notNumber
  /-- Options are repeated or exclude each other. -/
  | conflict
  /-- A flag was given a value. -/
  | unwantedValue
  /-- A required option is missing. -/
  | missingOption
deriving DecidableEq, Repr

/-- Help and version were asked for, so showing them is a success. -/
def UsageEnd.exitCode : UsageEnd → Nat
  | .help | .version => 0
  | _ => 2

end Announce
