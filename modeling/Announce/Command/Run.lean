import Announce.Command.Arguments
import Announce.Command.Report
import Announce.Command.Source

/-!
# Running a command

A command reports events on its way and ends with an output or a failure.  What
is shown of the events is decided afterwards, so the choice of a log level never
changes a result.
-/

namespace Announce

open Log (Logged)

/-- End a logged computation early with a failure, or go on with its value. -/
def onSuccess {α β : Type} (result : Except Failure α)
    (next : α → Logged (Except Failure β)) : Logged (Except Failure β) :=
  match result with
  | .ok value => next value
  | .error failure => pure (.error failure)

/-- Refuse texts of which one is not a strict identifier. -/
def requireStrict : List String → Except PeerId.Malformed Unit
  | [] => .ok ()
  | text :: texts => do
      let _ ← PeerId.parse text
      requireStrict texts

/-- Write a neighbor record and read it again for the report. -/
def EncodeOptions.run (options : EncodeOptions) :
    Logged (Except Failure EncodeReport) :=
  let checked := if options.strict then requireStrict options.peerIds else .ok ()
  onSuccess (checked.mapError (Failure.ofMalformed "encode failed")) fun _ => do
    if Record.maxValueSize < Neighbors.maxValueSize options.maxNeighbors then
      Logged.emit (.capExceedsRecord options.maxNeighbors.toNat)
    let encoded ← Neighbors.encode options.peerIds options.maxNeighbors
    onSuccess (encoded.mapError (Failure.ofOversize "encode failed")) fun record => do
      Logged.emit (.recordEncoded options.peerIds.length record.length)
      let neighbors ← Neighbors.decode record
      pure (.ok ⟨neighbors.getD [], record⟩)

/-- Read the neighbors of a payload. -/
def decodeReport (payload : Bytes) : Logged DecodeReport := do
  let neighbors ← Neighbors.decode payload
  match neighbors with
  | some ids => Logged.emit (.recordFound ids.length)
  | none => Logged.emit (.recordAbsent payload.length)
  pure ⟨neighbors⟩

/-- List the records of a payload. -/
def inspectReport (payload : Bytes) : Logged InspectReport := do
  let listing ← Listing.ofPayload payload
  if listing.truncated then
    Logged.emit (.payloadTruncated listing.payloadLength listing.records.length)
  pure ⟨listing⟩

/-- Run a command and write its report in a format. -/
def Command.run (host : Host) (format : Format) :
    Command → Logged (Except Failure Output)
  | .encode options => do
      let report ← options.run
      pure (report.map (·.render format))
  | .decode source =>
      onSuccess (source.load host) fun payload => do
        let report ← decodeReport payload
        pure (.ok (report.render format))
  | .inspect source =>
      onSuccess (source.load host) fun payload => do
        let report ← inspectReport payload
        pure (.ok (report.render format))
  | .version extended => pure (.ok (versionOutput host.target extended))

/-- What is left when a program has ended. -/
structure Outcome where
  exitCode : Nat
  output : Output
  /-- The lines written to standard error. -/
  errorLines : List String
deriving DecidableEq, Repr

namespace Outcome

/-- Show a result and those events that the invocation asks for. -/
def ofResult (invocation : Invocation) (result : Logged (Except Failure Output)) :
    Outcome :=
  let lines := Log.lines invocation.logStyle invocation.logLevel result.events
  match result.value with
  | .ok output => ⟨0, output, lines⟩
  | .error failure => ⟨failure.code, .text "", lines ++ ["error: " ++ failure.message]⟩

/-- End without running a command line.  Of all that is shown then, only the line
for the version is described: the text of the help and the message of a usage
error are left out, and such an end shows nothing here. -/
def ofUsageEnd (reason : UsageEnd) : Outcome :=
  ⟨reason.exitCode, .ofLines (if reason = .version then [versionLine] else []), []⟩

end Outcome

/-- Run an invocation. -/
def Invocation.run (host : Host) (invocation : Invocation) : Outcome :=
  let format := invocation.format.getD Format.default
  .ofResult invocation (invocation.command.run host format)

/-- Run the program on a command line. -/
def runProgram (host : Host) (arguments : List String) : Outcome :=
  match Invocation.parse arguments with
  | .ok invocation => invocation.run host
  | .error reason => .ofUsageEnd reason

end Announce
