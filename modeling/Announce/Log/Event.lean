/-!
# Log events

An event is a fact that an operation noticed on its way.  Each kind of event
fixes its level, the component that reports it, its message and the fields that
carry its numbers.
-/

namespace Announce.Log

/-- How important an event is, from the most important down. -/
inductive Level where
  | error
  | warn
  | info
  | debug
  | trace
deriving DecidableEq, Repr

namespace Level

/-- How much a threshold lets through: a larger number lets more events pass. -/
def verbosity : Level → Nat
  | .error => 0
  | .warn => 1
  | .info => 2
  | .debug => 3
  | .trace => 4

/-- A threshold admits the events that are at least as important as itself. -/
def admits (threshold level : Level) : Bool :=
  level.verbosity ≤ threshold.verbosity

/-- The name of a level at the front of a log line. -/
def label : Level → String
  | .error => "ERROR"
  | .warn => "WARN"
  | .info => "INFO"
  | .debug => "DEBUG"
  | .trace => "TRACE"

end Level

/-- What keeps the last record of a payload from being complete. -/
inductive Incompleteness where
  /-- A single byte is left, so there is no length byte. -/
  | shortHeader
  /-- Fewer bytes follow the header than it declares. -/
  | valuePastEnd
deriving DecidableEq, Repr

/-- The wording of an incompleteness. -/
def Incompleteness.message : Incompleteness → String
  | .shortHeader => "short header"
  | .valuePastEnd => "value past end of buffer"

/-- A field of an event holds a number or a short text. -/
inductive Field where
  | number (value : Nat)
  | text (value : String)
deriving DecidableEq, Repr

/-- The facts that operations report. -/
inductive Event where
  /-- A scan met an incomplete record at `offset` of a buffer of `length` bytes. -/
  | scanStopped (offset length : Nat) (reason : Incompleteness)
  /-- Repeated identifiers were left out of a neighbor list. -/
  | duplicatesDropped (duplicates : Nat)
  /-- A neighbor list was cut down to `limit` identifiers. -/
  | listCut (dropped limit : Nat)
  /-- The last `fragment` bytes of a neighbor record do not fill an identifier. -/
  | fragmentDiscarded (fragment : Nat)
  /-- The cap on a neighbor list is larger than one record can hold. -/
  | capExceedsRecord (limit : Nat)
  /-- A neighbor record of `length` bytes was made from `requested` identifiers. -/
  | recordEncoded (requested length : Nat)
  /-- A payload holds a neighbor record with `count` identifiers. -/
  | recordFound (count : Nat)
  /-- A payload of `length` bytes holds no neighbor record. -/
  | recordAbsent (length : Nat)
  /-- A payload of `length` bytes ends in an incomplete record after `records`
  complete ones. -/
  | payloadTruncated (length records : Nat)
deriving DecidableEq, Repr

namespace Event

/-- The level at which a fact is reported. -/
def level : Event → Level
  | .scanStopped .. | .fragmentDiscarded _ => .trace
  | .duplicatesDropped _ | .listCut .. | .recordFound _ | .recordAbsent _ => .debug
  | .recordEncoded .. => .info
  | .capExceedsRecord _ | .payloadTruncated .. => .warn

/-- The component that reports a fact. -/
def target : Event → String
  | .scanStopped .. => "meshannounce_tlv::record"
  | .duplicatesDropped _ | .listCut .. | .fragmentDiscarded _ =>
      "meshannounce_neighbors::codec"
  | .capExceedsRecord _ | .recordEncoded .. => "meshannounce::cmd::encode"
  | .recordFound _ | .recordAbsent _ => "meshannounce::cmd::decode"
  | .payloadTruncated .. => "meshannounce::cmd::inspect"

/-- The sentence that reports a fact. -/
def message : Event → String
  | .scanStopped .. => "tlv scan stopped"
  | .duplicatesDropped _ => "dropped duplicate neighbor ids"
  | .listCut .. => "neighbor list truncated"
  | .fragmentDiscarded _ => "discarding partial neighbor id block"
  | .capExceedsRecord _ =>
      "neighbor cap exceeds a single record; long lists will be rejected"
  | .recordEncoded .. => "encoded direct-neighbor record"
  | .recordFound _ => "direct-neighbor record found"
  | .recordAbsent _ => "no direct-neighbor record in payload"
  | .payloadTruncated .. => "payload ends in a truncated record"

/-- The named fields of a fact, in the order in which they are written. -/
def fields : Event → List (String × Field)
  | .scanStopped offset length reason =>
      [("offset", .number offset), ("len", .number length),
        ("reason", .text reason.message)]
  | .duplicatesDropped duplicates => [("duplicates", .number duplicates)]
  | .listCut dropped limit => [("dropped", .number dropped), ("max", .number limit)]
  | .fragmentDiscarded fragment => [("fragment", .number fragment)]
  | .capExceedsRecord limit => [("max_neighbors", .number limit)]
  | .recordEncoded requested length =>
      [("requested", .number requested), ("record_len", .number length)]
  | .recordFound count => [("count", .number count)]
  | .recordAbsent length => [("payload_len", .number length)]
  | .payloadTruncated length records =>
      [("payload_len", .number length), ("records", .number records)]

end Event

end Announce.Log
