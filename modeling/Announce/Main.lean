import Announce.Command.Run

/-!
# The command-line program

This module reads the arguments and the file that they name, and writes what the
run leaves behind.  It writes to a terminal as it does to a file, and its log
lines have no time on them.
-/

namespace Announce

/-- The machine and the system that the program is made for. -/
def hostTarget : String := "x86_64-linux"

/-- The fault behind an error number of the system, which may come negated. -/
def faultOfNumber (number : UInt32) (details : String) : Fault :=
  let magnitude := min number (0 - number)
  if magnitude = 2 then .notFound
  else if magnitude = 13 then .permissionDenied
  else if magnitude = 20 then .notADirectory
  else if magnitude = 21 then .isADirectory
  else if magnitude = 36 then .nameTooLong
  else .ofSystem .other details magnitude.toNat

/-- The fault behind an error that reading a file ended with. -/
def faultOfError : IO.Error → Fault
  | .noFileOrDirectory _ number details => faultOfNumber number details
  | .permissionDenied _ number details => faultOfNumber number details
  | .inappropriateType _ number details => faultOfNumber number details
  | .invalidArgument _ number details => faultOfNumber number details
  | error => ⟨.other, toString error⟩

/-- Read a file, if there is one to read. -/
def readSource (path : Option String) : IO (Except Fault Bytes) := do
  match path with
  | none => pure (.ok [])
  | some path =>
      try
        let content ← IO.FS.readBinFile path
        pure (.ok content.toList)
      catch error =>
        pure (.error (faultOfError error))

end Announce

open Announce in
/-- Run the program on its arguments. -/
def main (arguments : List String) : IO UInt32 := do
  let path :=
    match Invocation.parse arguments with
    | .ok invocation => invocation.command.filePath?
    | .error _ => none
  let content ← readSource path
  let outcome := runProgram ⟨hostTarget, fun _ => content⟩ arguments
  for line in outcome.errorLines do
    IO.eprintln line
  let stdout ← IO.getStdout
  stdout.write ⟨outcome.output.toBytes.toArray⟩
  stdout.flush
  pure (UInt32.ofNat outcome.exitCode)
