import Announce.Command.Failure
import Announce.Command.Invocation
import Announce.Text.Blank

/-!
# Where a payload comes from

A payload is given as hexadecimal text, in which blanks and a leading marker do
not count, or as a file.
-/

namespace Announce

/-- What a program may ask of the system that it runs on.  Whether standard output
is a terminal is not among it: results are always written as to a file. -/
structure Host where
  /-- The machine and the system, as the version names them. -/
  target : String
  /-- The bytes of the file with a path. -/
  contents : String → Except Fault Bytes

/-- Leave out the marker of hexadecimal text. -/
def withoutMarker : List Char → List Char
  | '0' :: 'x' :: digits => digits
  | '0' :: 'X' :: digits => digits
  | digits => digits

/-- The characters that count in a payload given as text. -/
def payloadDigits (text : String) : String :=
  String.ofList (withoutMarker (text.toList.filter fun character => !Text.isBlank character))

/-- Read a payload given as text. -/
def readPayloadText (text : String) : Except Failure Bytes :=
  (Hex.decode (payloadDigits text)).mapError (Failure.ofHexError "--hex is not valid hex")

/-- Get a payload from where it comes from.  From nowhere comes an empty one. -/
def PayloadOptions.load (host : Host) (source : PayloadOptions) :
    Except Failure Bytes :=
  match source.hex, source.file with
  | some text, _ => readPayloadText text
  | none, some path =>
      (host.contents path).mapError (Failure.ofFault ("failed reading " ++ path))
  | none, none => .ok []

end Announce
