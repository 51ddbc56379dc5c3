import Announce.Proofs.EncoderEvents
import Announce.Proofs.Listing

/-!
# What a scan reports

A scanner reports the incomplete record that stops it, and it does so once: when it comes
to this record, and never again, however it is asked to read.  A run that lists a payload
reads all of it, so its log has one line about an incomplete record if there is one.  A run
that looks for neighbors comes to the incomplete record only if no complete one has their
tag, and a run of the encoder never comes to one.
-/

namespace Announce

open Log (Logged Event)

/-- The report of a scan of `length` bytes that stopped at `offset`. -/
def Log.Event.stopAt (offset length : Nat) : Event :=
  .scanStopped offset length (if offset + 1 = length then .shortHeader else .valuePastEnd)

namespace Scanner

/-! ## One reading -/

/-- The report of a scanner that an incomplete record has stopped. -/
def stopReport (scanner : Scanner) : List Event :=
  if scanner.truncated then [.stopAt scanner.position scanner.payloadLength] else []

theorem stopReport_of_clean {scanner : Scanner} (clean : scanner.truncated = false) :
    scanner.stopReport = [] := by
  rw [stopReport, clean]
  rfl

theorem drain_incomplete (position : Nat) {tail : Bytes} (incomplete : Incomplete tail) :
    (⟨position, tail, false⟩ : Scanner).drain =
      ⟨(⟨position, tail, true⟩ : Scanner).stopReport, [], ⟨position, tail, true⟩⟩ := by
  have lone : position + 1 = position + tail.length ↔ tail.length = 1 := by
    rw [Nat.add_left_cancel_iff]
    exact eq_comm
  rw [drain_of_next_eq_none (next_incomplete position incomplete), stopReport, if_pos rfl]
  simp only [Event.stopAt, payloadLength, lone]

/-- A scanner that reads all records reports the incomplete one behind them, unless it has
done so before. -/
theorem events_drain (scanner : Scanner) :
    scanner.drain.events = if scanner.truncated then [] else scanner.drain.value.2.stopReport := by
  rcases scanner with ⟨position, rest, truncated⟩
  cases truncated with
  | true => rw [(Ended.drain_eq rfl : (⟨position, rest, true⟩ : Scanner).drain = _), if_pos rfl]
  | false =>
      rcases Layout.exists_toBytes_eq rest with ⟨layout, rfl⟩
      rw [if_neg Bool.false_ne_true, Layout.toBytes, drain_wireAll_append]
      rcases layout.ending with empty | incomplete
      · rw [empty, drain_of_next_eq_none (next_nil _)]
        rfl
      · rw [drain_incomplete _ incomplete]

theorem payloadLength_drain (scanner : Scanner) :
    scanner.drain.value.2.payloadLength = scanner.payloadLength := by
  rcases scanner with ⟨position, rest, truncated⟩
  cases truncated with
  | true => rw [(Ended.drain_eq rfl : (⟨position, rest, true⟩ : Scanner).drain = _)]
  | false =>
      rcases Layout.exists_toBytes_eq rest with ⟨layout, rfl⟩
      rw [Layout.toBytes, drain_wireAll_append]
      dsimp only
      rw [drain_tail _ layout.ending]
      simp only [payloadLength, List.length_append, Nat.add_assoc]

variable {scanner : Scanner} {index : Nat} {outcome : Logged (Option Record × Scanner)}

theorem Reads.events (reads : scanner.Reads index outcome) :
    outcome.events = if scanner.truncated then [] else outcome.value.2.stopReport := by
  cases reads with
  | found present clean behind => rw [stopReport_of_clean clean, ite_self]
  | missing absent => exact scanner.events_drain

/-- What is there to read decides where reading ends, and the requests do not. -/
theorem Reads.last_eq (reads : scanner.Reads index outcome) :
    outcome.value.2.drain.value.2 = scanner.drain.value.2 := by
  cases reads with
  | found present clean behind => rw [behind]
  | missing absent => rw [(ended_drain scanner).drain_eq]

/-- The scanner that comes as far as a request asks for.  The records that are left are
counted by another scanner, which comes to the end of them. -/
def reader (scanner : Scanner) (request : Step) : Scanner :=
  if request = .remaining then scanner.drain.value.2 else (scanner.step request).value.2

theorem events_step (scanner : Scanner) (request : Step) :
    (scanner.step request).events =
      if scanner.truncated then [] else (scanner.reader request).stopReport := by
  by_cases counts : request = .remaining
  · rw [reader, if_pos counts, counts, ← events_drain]
    change (scanner.drain.events ++ []) ++ [] = scanner.drain.events
    rw [List.append_nil, List.append_nil]
  · rw [reader, if_neg counts]
    rcases scanner.exists_reads_of_step counts with ⟨index, outcome, reads, stepped⟩
    rw [stepped]
    exact reads.events

theorem last_step (scanner : Scanner) (request : Step) :
    (scanner.step request).value.2.drain.value.2 = scanner.drain.value.2 := by
  by_cases reading : request = .remaining
  · rw [reading]
    rfl
  · rcases scanner.exists_reads_of_step reading with ⟨index, outcome, reads, stepped⟩
    rw [stepped]
    exact reads.last_eq

theorem payloadLength_step (scanner : Scanner) (request : Step) :
    (scanner.step request).value.2.payloadLength = scanner.payloadLength := by
  rw [← payloadLength_drain, last_step, payloadLength_drain]

theorem payloadLength_reader (scanner : Scanner) (request : Step) :
    (scanner.reader request).payloadLength = scanner.payloadLength := by
  unfold reader
  split
  · exact scanner.payloadLength_drain
  · exact scanner.payloadLength_step request

theorem ended_of_truncated (stopped : scanner.truncated = true) : scanner.Ended := by
  rw [Ended, next, if_pos stopped]
  rfl

/-- A scanner that has been stopped stays as it is. -/
theorem step_of_truncated (stopped : scanner.truncated = true) (request : Step) :
    (scanner.step request).value.2 = scanner :=
  ((ended_of_truncated stopped).step request).1

/-! ## Many readings -/

/-- The scanner after a series of requests. -/
def after (scanner : Scanner) (requests : List Step) : Scanner :=
  requests.foldl (fun scanner request => (scanner.step request).value.2) scanner

/-- What a scanner itself reports on requests.  What is left is counted by another scanner,
which reports for itself. -/
def reported (scanner : Scanner) : List Step → List Event
  | [] => []
  | request :: requests =>
      (if request = .remaining then [] else (scanner.step request).events) ++
        (scanner.step request).value.2.reported requests

theorem after_cons (request : Step) (requests : List Step) :
    scanner.after (request :: requests) = (scanner.step request).value.2.after requests := rfl

theorem payloadLength_after (scanner : Scanner) (requests : List Step) :
    (scanner.after requests).payloadLength = scanner.payloadLength := by
  induction requests generalizing scanner with
  | nil => rfl
  | cons request requests ih => rw [after_cons, ih, payloadLength_step]

theorem Ended.after_eq (ended : scanner.Ended) (requests : List Step) :
    scanner.after requests = scanner := by
  induction requests with
  | nil => rfl
  | cons request requests ih => rw [after_cons, (ended.step request).1, ih]

theorem after_of_truncated (stopped : scanner.truncated = true) (requests : List Step) :
    scanner.after requests = scanner :=
  (ended_of_truncated stopped).after_eq requests

/-- However many requests there are, a scanner reports once that it was stopped, if it was. -/
theorem reported_eq (scanner : Scanner) (requests : List Step) :
    scanner.reported requests =
      if scanner.truncated then [] else (scanner.after requests).stopReport := by
  induction requests generalizing scanner with
  | nil =>
      cases stopped : scanner.truncated with
      | true => rfl
      | false => exact (stopReport_of_clean stopped).symm
  | cons request requests ih =>
      rw [reported, ih, after_cons]
      by_cases reading : request = .remaining
      · rw [if_pos reading, reading]
        rfl
      · rw [if_neg reading, events_step, reader, if_neg reading]
        cases stopped : scanner.truncated with
        | true => rw [step_of_truncated stopped, stopped]; rfl
        | false =>
            -- The report comes on this request or on a later one.
            cases stops : (scanner.step request).value.2.truncated with
            | true => rw [after_of_truncated stops]; simp
            | false => rw [stopReport_of_clean stops]; rfl

theorem events_run (scanner : Scanner) {requests : List Step}
    (reading : ∀ request ∈ requests, request ≠ .remaining) :
    (scanner.run requests).events = scanner.reported requests := by
  induction requests generalizing scanner with
  | nil => rfl
  | cons request requests ih =>
      rw [reported, if_neg (reading request (.head _)),
        ← ih _ fun later member => reading later (.tail _ member)]
      change _ ++ (_ ++ []) = _
      rw [List.append_nil]

end Scanner

/-! ## Scans of a whole payload -/

theorem payloadLength_start (payload : Bytes) :
    (Scanner.start payload).payloadLength = payload.length :=
  Nat.zero_add _

theorem payloadLength_scan (payload : Bytes) :
    (scan payload).2.payloadLength = payload.length :=
  ((Scanner.start payload).payloadLength_drain).trans (payloadLength_start payload)

theorem stopReport_scan (payload : Bytes) :
    (scan payload).2.stopReport =
      (Listing.ofPayload payload).value.truncatedAt.toList.map
        fun offset => .stopAt offset payload.length := by
  rw [Scanner.stopReport, payloadLength_scan, value_ofPayload, Listing.truncatedAt]
  cases (scan payload).2.truncated <;> rfl

/-- A search reads the whole payload only if it finds nothing. -/
theorem events_findValue (payload : Bytes) (tag : UInt8) :
    (findValue payload tag).events =
      if ∀ record ∈ (scan payload).1, record.tag ≠ tag then (scan payload).2.stopReport
      else [] := by
  have reads := Scanner.reads_seek (fun record => record.tag = tag) (Scanner.start payload)
  have searched : (findValue payload tag).events =
      ((Scanner.start payload).find tag).events := List.append_nil _
  have fresh : ¬(Scanner.start payload).truncated = true := Bool.false_ne_true
  rw [searched, Scanner.find, reads.events, if_neg fresh]
  have missing : (∀ record ∈ (scan payload).1, record.tag ≠ tag) ↔
      (scan payload).1[(scan payload).1.findIdx fun record => record.tag = tag]? = none := by
    rw [← List.find?_eq_getElem?_findIdx, List.find?_eq_none]
    simp only [decide_eq_true_eq]
  generalize (Scanner.start payload).seek _ = outcome at reads
  cases reads with
  | found present clean behind =>
      rw [Scanner.stopReport_of_clean clean, if_neg]
      rw [missing]
      exact fun absent => Option.some_ne_none _ (present.symm.trans absent)
  | missing absent =>
      rw [if_pos (missing.mpr absent)]
      rfl

theorem events_inspectReport (payload : Bytes) :
    (inspectReport payload).events =
      (Listing.ofPayload payload).value.truncatedAt.toList.flatMap fun offset =>
        [.stopAt offset payload.length,
          .payloadTruncated payload.length (Listing.ofPayload payload).value.records.length] := by
  have listed : (Listing.ofPayload payload).events = (scan payload).2.stopReport := by
    change (Scanner.start payload).drain.events ++ [] = _
    rw [List.append_nil, Scanner.events_drain]
    rfl
  rw [inspectReport, Logged.events_bind, listed, stopReport_scan, value_ofPayload,
    Listing.truncatedAt]
  cases (scan payload).2.truncated <;> rfl

/-! ## Lines about scans -/

namespace Log

/-- Whether an event tells of a scan that was stopped. -/
def Event.isStop : Event → Bool
  | .scanStopped .. => true
  | _ => false

/-- How a line about a scan that was stopped begins. -/
def stopOpening : Style → String
  | .text => "TRACE meshannounce_tlv::record: tlv scan stopped"
  | .json => "\x7b\"level\":\"TRACE\",\"message\":\"tlv scan stopped\","

/-- Whether a line tells of a scan that was stopped. -/
def isStopLine (style : Style) (line : String) : Bool :=
  (stopOpening style).toList.isPrefixOf line.toList

theorem toList_stopOpening_json :
    (stopOpening .json).toList = '\x7b' :: ((Json.fieldText ("level", .string "TRACE")).toList ++
      ',' :: ((Json.fieldText ("message", .string "tlv scan stopped")).toList ++ [','])) := by
  decide +kernel

theorem Event.exists_toList_jsonLine (event : Event) :
    ∃ rest, event.jsonLine.toList =
      '\x7b' :: ((Json.fieldText ("level", .string event.level.label)).toList ++
        ',' :: ((Json.fieldText ("message", .string event.message)).toList ++ ',' :: rest)) := by
  rw [Event.jsonLine, ← List.append_nil (String.toList (Json.compact _)),
    Json.toList_compact_map, List.append_assoc, List.cons_append, Json.intercalate_append,
    List.cons_append, Json.behind]
  cases event <;> exact ⟨_, rfl⟩

theorem Event.level_of_isStop {event : Event} (stops : event.isStop = true) :
    event.level = .trace := by
  cases event with
  | scanStopped offset length reason => rfl
  | _ => cases stops

/-- A line about a scan that was stopped names the most verbose level. -/
theorem level_of_isStopLine {style : Style} {event : Event}
    (stops : isStopLine style (event.line style) = true) : event.level = .trace := by
  have opens : (Level.trace.opening style).toList <+: (stopOpening style).toList := by
    rw [← List.isPrefixOf_iff_prefix]
    cases style <;> rfl
  rcases opens.trans (List.isPrefixOf_iff_prefix.mp stops) with ⟨rest, line⟩
  have level := levelOf?_eq_of_opening line.symm
  rw [levelOf?_line] at level
  exact Option.some.inj level

theorem isStopLine_textLine {event : Event} (traces : event.level = .trace) :
    isStopLine .text event.textLine = event.isStop := by
  cases event with
  | scanStopped offset length reason =>
      simp [isStopLine, stopOpening, Event.isStop, Event.textLine, Event.level, Level.label,
        Event.target, Event.message, List.isPrefixOf]
  | fragmentDiscarded length =>
      simp [isStopLine, stopOpening, Event.isStop, Event.textLine, Event.level, Level.label,
        Event.target, Event.message, List.isPrefixOf]
  | _ => cases traces

theorem isStopLine_jsonLine (event : Event) :
    isStopLine .json event.jsonLine = event.isStop := by
  rcases event.exists_toList_jsonLine with ⟨rest, line⟩
  rw [isStopLine, line, toList_stopOpening_json, Bool.eq_iff_iff, List.isPrefixOf_iff_prefix]
  constructor
  · rintro ⟨later, same⟩
    simp only [List.cons_append, List.append_assoc] at same
    rcases Json.fieldText_append_inj (List.cons.inj same).2 with ⟨-, -, behind⟩
    rcases Json.fieldText_append_inj (List.cons.inj behind).2 with ⟨-, message, -⟩
    cases event <;> simp [Event.message, Event.isStop] at message ⊢
  · intro stops
    cases event with
    | scanStopped offset length reason =>
        exact ⟨rest, by simp [Event.level, Level.label, Event.message]⟩
    | _ => cases stops

/-- No other event has a line that begins like the one about a scan that was stopped. -/
theorem isStopLine_line (style : Style) (event : Event) :
    isStopLine style (event.line style) = event.isStop := by
  cases style with
  | json => exact isStopLine_jsonLine event
  | text =>
      by_cases traces : event.level = .trace
      · exact isStopLine_textLine traces
      -- A line that begins like the one about a scan names the level of the scan's event.
      · rw [Bool.eq_iff_iff]
        exact ⟨fun stops => absurd (level_of_isStopLine stops) traces,
          fun stops => absurd (Event.level_of_isStop stops) traces⟩

/-- At the most verbose level the log shows all events. -/
theorem lines_trace (style : Style) (events : List Event) :
    lines style .trace events = events.map (Event.line style) := by
  have all : events.filter (fun event => Level.trace.admits event.level) = events := by
    rw [List.filter_eq_self]
    intro event _
    cases event <;> rfl
  rw [lines, all]

end Log

namespace Outcome

/-- The lines of standard error about scans that were stopped. -/
def stopLines (style : Log.Style) (outcome : Outcome) : List String :=
  outcome.errorLines.filter (Log.isStopLine style)

/-- A line about a failure does not tell of a scan. -/
theorem not_isStopLine_errorMark (style : Log.Style) (message : String) :
    Log.isStopLine style (errorMark ++ message) = false := by
  rw [Log.isStopLine, String.toList_append]
  cases style <;> simp [Log.stopOpening, errorMark, List.isPrefixOf]

variable {invocation : Invocation} {result : Logged (Except Failure Output)}

theorem stopLines_ofResult (verbose : invocation.logLevel = .trace) :
    (ofResult invocation result).stopLines invocation.logStyle =
      (result.events.filter Event.isStop).map (Event.line invocation.logStyle) := by
  have failures : (failureLine? result.value).toList.filter
      (Log.isStopLine invocation.logStyle) = [] := by
    cases result.value with
    | ok output => rfl
    | error failure =>
        rw [failureLine?, Option.toList_some, List.filter_singleton, not_isStopLine_errorMark]
        rfl
  have shown : Log.isStopLine invocation.logStyle ∘ Event.line invocation.logStyle =
      Event.isStop := by
    funext event
    exact Log.isStopLine_line _ event
  rw [stopLines, errorLines_ofResult, verbose, Log.lines_trace, List.filter_append, failures,
    List.append_nil, List.filter_map, shown]

end Outcome

/-! ## Runs -/

namespace EncodeOptions

/-- The encoder reports nothing about a scan. -/
theorem filter_isStop_events_run (options : EncodeOptions) :
    options.run.events.filter Event.isStop = [] := by
  rw [List.filter_eq_nil_iff]
  intro event reported stops
  have traces := Event.level_of_isStop stops
  rw [events_run] at reported
  split at reported
  · rw [List.mem_append, List.mem_append] at reported
    rcases reported with (warning | encoding) | written
    · rw [(mem_limitWarning_iff.mp warning).1] at traces
      cases traces
    · cases traces.symm.trans (Neighbors.level_of_mem_events_encode encoding)
    · cases traces.symm.trans (level_of_mem_writtenReport written)
  · cases reported

end EncodeOptions

theorem filter_isStop_stopReport (scanner : Scanner) :
    scanner.stopReport.filter Event.isStop = scanner.stopReport := by
  unfold Scanner.stopReport
  split <;> rfl

theorem filter_isStop_inspectReport (payload : Bytes) :
    (inspectReport payload).events.filter Event.isStop = (scan payload).2.stopReport := by
  rw [events_inspectReport, stopReport_scan]
  cases (Listing.ofPayload payload).value.truncatedAt <;> rfl

theorem filter_isStop_decodeReport (payload : Bytes) :
    (decodeReport payload).events.filter Event.isStop =
      if ∀ record ∈ (scan payload).1, record.tag ≠ 0x04 then (scan payload).2.stopReport
      else [] := by
  have decoded : (decodeReport payload).events.filter Event.isStop =
      (Neighbors.decode payload).events.filter Event.isStop := by
    rw [decodeReport, Logged.events_bind, List.filter_append]
    cases (Neighbors.decode payload).value <;> exact List.append_nil _
  have searched : (Neighbors.decode payload).events.filter Event.isStop =
      (findValue payload 0x04).events.filter Event.isStop := by
    change (findValue payload 0x04 >>= _).events.filter Event.isStop = _
    rw [Logged.events_bind, List.filter_append]
    cases (findValue payload 0x04).value with
    | none => exact List.append_nil _
    | some octets =>
        dsimp only
        split <;> exact List.append_nil _
  rw [decoded, searched, events_findValue]
  split
  · exact filter_isStop_stopReport _
  · rfl

section

variable {host : Host} {format : Format} {source : PayloadOptions}

theorem events_run_inspect_of_ok {payload : Bytes} (loaded : source.load host = .ok payload) :
    ((Command.inspect source).run host format).events = (inspectReport payload).events := by
  rw [Command.run, loaded]
  exact List.append_nil _

theorem events_run_decode_of_ok {payload : Bytes} (loaded : source.load host = .ok payload) :
    ((Command.decode source).run host format).events = (decodeReport payload).events := by
  rw [Command.run, loaded]
  exact List.append_nil _

/-- Nothing is reported about a payload that cannot be read. -/
theorem events_run_of_error {command : Command} {failure : Failure}
    (refused : source.load host = .error failure)
    (reads : command = .decode source ∨ command = .inspect source) :
    (command.run host format).events = [] := by
  rcases reads with rfl | rfl
  · rw [Command.run, refused]
    rfl
  · rw [Command.run, refused]
    rfl

end

namespace Outcome

/-- What the log of a run at the most verbose level tells of scans that were stopped, and
what else the run tells of them. -/
structure TellsStops (host : Host) (invocation : Invocation) (outcome : Outcome) : Prop where
  /-- The listing says where the scan stopped, and so does the log: on one line, in front of
  the warning, or not at all. -/
  inspected : ∀ source payload, invocation.command = .inspect source →
    source.load host = .ok payload →
    let report := (inspectReport payload).value
    let stopLine := fun offset =>
      (Event.stopAt offset payload.length).line invocation.logStyle
    let warning := (Event.payloadTruncated payload.length report.listing.records.length).line
      invocation.logStyle
    outcome.output = report.render (invocation.format.getD .default) ∧
    report.toJson.field? "truncated" = some (.boolean report.listing.truncated) ∧
    report.toJson.field? "truncated_at" = some (.ofOption .nat report.listing.truncatedAt) ∧
    (report.listing.truncated = true → ∃ offset, report.listing.truncatedAt = some offset ∧
      outcome.errorLines = [stopLine offset, warning] ∧
      outcome.stopLines invocation.logStyle = [stopLine offset]) ∧
    (report.listing.truncated = false → outcome.errorLines = [])
  /-- The log of a search tells of it only if there is no complete record of neighbors. -/
  decoded : ∀ source payload, invocation.command = .decode source →
    source.load host = .ok payload →
    let listing := (inspectReport payload).value.listing
    (∀ offset, listing.truncatedAt = some offset →
      (∀ record ∈ listing.records, record.tag ≠ 0x04) →
      outcome.stopLines invocation.logStyle =
        [(Event.stopAt offset payload.length).line invocation.logStyle]) ∧
    ((listing.truncated = false ∨ ∃ record ∈ listing.records, record.tag = 0x04) →
      outcome.stopLines invocation.logStyle = [])
  /-- A payload that cannot be read is not scanned. -/
  refused : ∀ source failure, source.load host = .error failure →
    (invocation.command = .decode source ∨ invocation.command = .inspect source) →
    outcome.stopLines invocation.logStyle = []
  encoded : ∀ options, invocation.command = .encode options →
    outcome.stopLines invocation.logStyle = []

end Outcome

section

variable {host : Host} {invocation : Invocation} (verbose : invocation.logLevel = .trace)

include verbose

theorem stopLines_run :
    (invocation.run host).stopLines invocation.logStyle =
      ((invocation.command.run host (invocation.format.getD .default)).events.filter
        Event.isStop).map (Event.line invocation.logStyle) :=
  Outcome.stopLines_ofResult verbose

/-- A listing is shown, and all that is reported on the way to it. -/
theorem shows_run_inspect {source : PayloadOptions} {payload : Bytes}
    (inspects : invocation.command = .inspect source) (loaded : source.load host = .ok payload) :
    (invocation.run host).output =
        (inspectReport payload).value.render (invocation.format.getD .default) ∧
      (invocation.run host).errorLines =
        (inspectReport payload).events.map (Event.line invocation.logStyle) := by
  have value : (invocation.command.run host (invocation.format.getD .default)).value =
      .ok ((inspectReport payload).value.render (invocation.format.getD .default)) := by
    rw [inspects, value_run_inspect, loaded]
    rfl
  refine ⟨(Outcome.succeeds_ofResult value).output, ?_⟩
  rw [Invocation.run, Outcome.errorLines_ofResult, verbose, Log.lines_trace, value, inspects,
    events_run_inspect_of_ok loaded]
  exact List.append_nil _

theorem tellsStops_run : (invocation.run host).TellsStops host invocation := by
  constructor
  case inspected =>
    intro source payload inspects loaded report stopLine warning
    rcases shows_run_inspect verbose inspects loaded with ⟨output, lines⟩
    have listed : report.listing = (Listing.ofPayload payload).value :=
      listing_inspectReport payload
    refine ⟨output, rfl, rfl, ?_, ?_⟩
    · intro truncated
      have stops := Listing.truncatedAt_of_truncated truncated
      refine ⟨_, stops, ?_, ?_⟩
      · rw [lines, events_inspectReport, ← listed, stops]
        rfl
      · rw [stopLines_run verbose, inspects, events_run_inspect_of_ok loaded,
          filter_isStop_inspectReport, stopReport_scan, ← listed, stops]
        rfl
    · intro clean
      rw [lines, events_inspectReport, ← listed,
        (Listing.truncatedAt_eq_none_iff _).mpr clean]
      rfl
  case decoded =>
    intro source payload decodes loaded listing
    have listed : listing = (Listing.ofPayload payload).value := listing_inspectReport payload
    have records : listing.records = (scan payload).1 := by rw [listed, value_ofPayload]
    rw [stopLines_run verbose, decodes, events_run_decode_of_ok loaded,
      filter_isStop_decodeReport, stopReport_scan, ← listed, ← records]
    constructor
    · intro offset stops others
      rw [if_pos others, stops]
      rfl
    · rintro (clean | ⟨record, member, tagged⟩)
      · rw [(Listing.truncatedAt_eq_none_iff _).mpr clean, Option.toList_none, List.map_nil,
          ite_self]
        rfl
      · rw [if_neg fun others => others record member tagged]
        rfl
  case refused =>
    intro source failure refused reads
    rw [stopLines_run verbose, events_run_of_error refused reads]
    rfl
  case encoded =>
    intro options encodes
    have events : ((Command.encode options).run host (invocation.format.getD .default)).events =
        options.run.events := List.append_nil _
    rw [stopLines_run verbose, encodes, events, EncodeOptions.filter_isStop_events_run]
    rfl

end

/-- A scanner reports that it was stopped once, on the request on which it comes to the
incomplete record, and it reports where it stands then.  This holds for every series of
requests.  The records that remain are counted by another scanner, which starts where the
first one stands and reports for itself; its report is not among those of the first, and
each time they are counted there is one more.  A run counts no remaining records, and if its
log is shown at the most verbose level it therefore tells of the stop once or not at all. -/
theorem scan_stop_reported_once :
    (∀ (payload : Bytes) (requests : List Scanner.Step),
      let first := Scanner.start payload
      let last := first.after requests
      first.reported requests =
        (if last.truncated then [.stopAt last.position payload.length] else []) ∧
      (∀ request : Scanner.Step,
        let reader := last.reader request
        (last.step request).events =
          if last.truncated = false ∧ reader.truncated = true then
            [.stopAt reader.position payload.length]
          else []) ∧
      ((∀ request ∈ requests, request ≠ .remaining) →
        (first.run requests).events = first.reported requests)) ∧
    ∀ (host : Host) (arguments : List String) (invocation : Invocation),
      Invocation.parse arguments = .ok invocation → invocation.logLevel = .trace →
      (runProgram host arguments).TellsStops host invocation := by
  constructor
  · intro payload requests first last
    have length : last.payloadLength = payload.length := by
      rw [Scanner.payloadLength_after, payloadLength_start]
    refine ⟨?_, ?_, ?_⟩
    · have fresh : ¬first.truncated = true := Bool.false_ne_true
      rw [Scanner.reported_eq, if_neg fresh, Scanner.stopReport, length]
    · intro request reader
      rw [Scanner.events_step, Scanner.stopReport, Scanner.payloadLength_reader, length]
      cases last.truncated <;> simp [reader]
    · intro reading
      exact first.events_run reading
  · intro host arguments invocation accepted verbose
    have ran : runProgram host arguments = invocation.run host := by
      rw [runProgram, accepted]
    rw [ran]
    exact tellsStops_run verbose

/-- Behind a complete record there is one whose value is too short.  The scanner tells of it
when it is asked a second time, and not when it is asked again; the listing tells of it on one
line, in front of the warning. -/
theorem scan_stop_reported_once_short_value :
    let payload : Bytes := [4, 0, 2, 0x20, 0]
    let arguments := ["inspect", "--hex=0400022000", "--log-level=trace", "--log-format", "json"]
    let outcome := runProgram ⟨"x86_64-linux", fun _ => .error .notFound⟩ arguments
    let stop := "\x7b\"level\":\"TRACE\",\"message\":\"tlv scan stopped\"," ++
      "\"offset\":2,\"len\":5," ++
      "\"reason\":\"value past end of buffer\",\"target\":\"meshannounce_tlv::record\"\x7d"
    let warning := "\x7b\"level\":\"WARN\",\"message\":\"payload ends in a truncated record\"," ++
      "\"payload_len\":5,\"records\":1,\"target\":\"meshannounce::cmd::inspect\"\x7d"
    ((Scanner.start payload).run [.next, .next, .next, .nth 3]).events =
      [.scanStopped 2 5 .valuePastEnd] ∧
    Invocation.parse arguments =
      .ok ⟨.inspect ⟨some "0400022000", none⟩, none, .json, .trace⟩ ∧
    outcome.errorLines = [stop, warning] ∧ outcome.stopLines .json = [stop] := by
  intro payload arguments outcome stop warning
  have accepted : Invocation.parse arguments =
      .ok ⟨.inspect ⟨some "0400022000", none⟩, none, .json, .trace⟩ := by decide +kernel
  have loaded : PayloadOptions.load ⟨"x86_64-linux", fun _ => .error .notFound⟩
      ⟨some "0400022000", none⟩ = .ok payload := by decide +kernel
  have scanned : (inspectReport payload).value.listing = ⟨5, [⟨4, 0, []⟩], 2, true⟩ := by
    have layout := scan_toBytes
      ⟨[⟨4, [], by decide⟩], [2, 0x20, 0], .inr (.valuePastEnd 2 0x20 (by decide))⟩
    change scan payload = _ at layout
    rw [listing_inspectReport, value_ofPayload, layout]
    rfl
  rcases scan_stop_reported_once with ⟨scanners, runs⟩
  rcases scanners payload [.next, .next, .next, .nth 3] with ⟨reported, -, same⟩
  have tells := runs ⟨"x86_64-linux", fun _ => .error .notFound⟩ arguments _ accepted rfl
  rcases tells.inspected _ payload rfl loaded with ⟨-, -, -, truncated, -⟩
  rw [scanned] at truncated
  rcases truncated rfl with ⟨offset, two, lines, line⟩
  cases two
  have stopText : (Event.stopAt 2 payload.length).line .json = stop := by decide +kernel
  have warningText : (Event.payloadTruncated payload.length 1).line .json = warning := by
    decide +kernel
  have last : (Scanner.start payload).after [.next, .next, .next, .nth 3] =
      ⟨2, [2, 0x20, 0], true⟩ := by decide +kernel
  rw [last] at reported
  refine ⟨(same (by decide)).trans reported, accepted, ?_, ?_⟩
  · rw [← stopText, ← warningText]
    exact lines
  · rw [← stopText]
    exact line

/-- The remaining records are counted twice, and each count reports the stop. -/
example : ((Scanner.start [4]).run [.remaining, .remaining]).events =
    [.scanStopped 0 1 .shortHeader, .scanStopped 0 1 .shortHeader] := by
  decide +kernel

end Announce
