import Announce.Hex
import Announce.Neighbors
import Announce.Text.Quoted

/-!
# Failures

A failure ends a command with an exit code and a message.  The code tells the
kind of failure apart: a missing file, a file that may not be read, bad data, a
bad identifier, or anything else that went wrong with a file.
-/

namespace Announce

/-- Kinds of errors of the file system and of input and output. -/
inductive FaultKind where
  | notFound
  | permissionDenied
  | alreadyExists
  | invalidInput
  | invalidData
  | timedOut
  | interrupted
  | unexpectedEof
  | outOfMemory
  | brokenPipe
  | isADirectory
  | notADirectory
  | invalidFilename
  | other
deriving DecidableEq, Repr

/-- The text of an error of which nothing but the kind is known. -/
def FaultKind.description : FaultKind → String
  | .notFound => "entity not found"
  | .permissionDenied => "permission denied"
  | .alreadyExists => "entity already exists"
  | .invalidInput => "invalid input parameter"
  | .invalidData => "invalid data"
  | .timedOut => "timed out"
  | .interrupted => "operation interrupted"
  | .unexpectedEof => "unexpected end of file"
  | .outOfMemory => "out of memory"
  | .brokenPipe => "broken pipe"
  | .isADirectory => "is a directory"
  | .notADirectory => "not a directory"
  | .invalidFilename => "invalid filename"
  | .other => "other error"

/-- An error of the file system or of input and output. -/
structure Fault where
  kind : FaultKind
  text : String
deriving DecidableEq, Repr

namespace Fault

/-- An error of which nothing but the kind is known. -/
def ofKind (kind : FaultKind) : Fault :=
  ⟨kind, kind.description⟩

/-- An error that the system reports with a number. -/
def ofSystem (kind : FaultKind) (text : String) (number : Nat) : Fault :=
  ⟨kind, text ++ " (os error " ++ toString number ++ ")"⟩

/-- The path leads nowhere. -/
def notFound : Fault := ofSystem .notFound "No such file or directory" 2

/-- The file may not be read. -/
def permissionDenied : Fault := ofSystem .permissionDenied "Permission denied" 13

/-- The path goes on behind a file. -/
def notADirectory : Fault := ofSystem .notADirectory "Not a directory" 20

/-- The path leads to a directory. -/
def isADirectory : Fault := ofSystem .isADirectory "Is a directory" 21

/-- The path, or a part of it, is longer than the system allows. -/
def nameTooLong : Fault := ofSystem .invalidFilename "File name too long" 36

end Fault

/-- What ends a command without success. -/
structure Failure where
  code : Nat
  message : String
deriving DecidableEq, Repr

namespace Failure

/-- The code of a file that does not exist. -/
def missingCode : Nat := 1

/-- The code of a file that may not be read. -/
def deniedCode : Nat := 50

/-- The code of data that cannot be used. -/
def dataCode : Nat := 60

/-- The code of an argument that cannot be used. -/
def argumentCode : Nat := 64

/-- The code of all other errors of the file system. -/
def internalCode : Nat := 125

/-- The code of an error of the file system. -/
def faultCode : FaultKind → Nat
  | .permissionDenied => deniedCode
  | .notFound => missingCode
  | _ => internalCode

/-- A cause behind what was being done. -/
def inContext (code : Nat) (context cause : String) : Failure :=
  ⟨code, context ++ ": " ++ cause⟩

/-- An error of the file system. -/
def ofFault (context : String) (fault : Fault) : Failure :=
  inContext (faultCode fault.kind) context fault.text

/-- A neighbor list that does not fit into a record. -/
def ofOversize (context : String) (oversize : Oversize) : Failure :=
  inContext dataCode context (Neighbors.oversizeMessage oversize)

/-- A text that is not an identifier. -/
def ofMalformed (context : String) (malformed : PeerId.Malformed) : Failure :=
  inContext argumentCode context malformed.message

/-- A text that is not hexadecimal.  An octet that is not a digit is shown as the
character with its number. -/
def ofHexError (context : String) (error : Hex.Error) : Failure :=
  inContext dataCode context
    (match error with
    | .oddLength => "Odd number of digits"
    | .notDigit octet position =>
        "Invalid character " ++ Text.quoteChar (Char.ofNat octet.toNat) ++
          " at position " ++ toString position)

end Failure

end Announce
