import Announce.Command.Invocation
import Announce.Payload.Listing
import Announce.PeerId.Json
import Announce.Text.Grid

/-!
# Reports

What a command found, and its text in each format.  Every line of a report ends
with a newline; a record written as bare bytes has none.
-/

namespace Announce

/-- What a command writes to standard output. -/
inductive Output where
  | text (content : String)
  | bytes (content : Bytes)
deriving DecidableEq, Repr

namespace Output

/-- The bytes that are written. -/
def toBytes : Output → Bytes
  | .text content => Bytes.ofText content
  | .bytes content => content

/-- Lines of text. -/
def ofLines (lines : List String) : Output :=
  .text (String.join (lines.map (· ++ "\n")))

/-- A JSON value on a line. -/
def ofJson (value : Json) : Output :=
  ofLines [value.compact]

end Output

/-- A tag as a hexadecimal number with a marker. -/
def tagNumeral (tag : UInt8) : String :=
  "0x" ++ Hex.encode [tag]

/-- A table of identifiers with their places in the list. -/
def neighborGrid (ids : List PeerId) : Text.Grid :=
  ⟨["#", "PEER ID"], ids.mapIdx fun index id => [toString index, id.toHex]⟩

/-- What the encoder made: a record and the neighbors that it holds. -/
structure EncodeReport where
  neighbors : List PeerId
  record : Bytes
deriving DecidableEq, Repr

namespace EncodeReport

/-- The report as JSON. -/
def toJson (report : EncodeReport) : Json :=
  .map [("neighbors", .sequence (report.neighbors.map PeerId.toJson)),
    ("record_len", .nat report.record.length),
    ("record", .string (Hex.encode report.record))]

/-- The report in a format. -/
def render (report : EncodeReport) : Format → Output
  | .json => .ofJson report.toJson
  | .table =>
      let grid := neighborGrid report.neighbors
      let rows := grid.rows ++ [["RECORD", Hex.encode report.record]]
      .ofLines [Text.Grid.render { grid with rows }]
  | .pretty =>
      .ofLines ["neighbors=" ++ toString report.neighbors.length ++
        " size=" ++ toString report.record.length ++
        " record=" ++ Hex.encode report.record]
  | .raw => .bytes report.record

end EncodeReport

/-- What the decoder found: the neighbors, or no neighbor record at all. -/
structure DecodeReport where
  neighbors : Option (List PeerId)
deriving DecidableEq, Repr

namespace DecodeReport

/-- The number of neighbors found. -/
def count (report : DecodeReport) : Nat :=
  (report.neighbors.getD []).length

/-- The report as JSON. -/
def toJson (report : DecodeReport) : Json :=
  .map [("found", .boolean report.neighbors.isSome),
    ("count", .nat report.count),
    ("neighbors", .ofOption (fun ids => .sequence (ids.map PeerId.toJson)) report.neighbors)]

/-- The report in a format. -/
def render (report : DecodeReport) : Format → Output
  | .json => .ofJson report.toJson
  | .table =>
      match report.neighbors with
      | some ids => .ofLines [(neighborGrid ids).render]
      | none => .ofLines ["no direct-neighbor record"]
  | .pretty =>
      match report.neighbors with
      | some ids =>
          .ofLines ["found=true count=" ++ toString report.count ++
            " neighbors=[" ++ ", ".intercalate (ids.map PeerId.toHex) ++ "]"]
      | none => .ofLines ["found=false"]
  | .raw => .ofLines ((report.neighbors.getD []).map PeerId.toHex)

end DecodeReport

/-- What the inspector found: a listing of the payload. -/
structure InspectReport where
  listing : Listing
deriving DecidableEq, Repr

namespace InspectReport

/-- A record as JSON. -/
def recordJson (record : Record) : Json :=
  .map [("offset", .nat record.offset), ("tag", .nat record.tag.toNat),
    ("tag_name", .string (Tag.name record.tag)), ("length", .nat record.value.length),
    ("wire_size", .nat record.size), ("value", .string (Hex.encode record.value))]

/-- The report as JSON. -/
def toJson (report : InspectReport) : Json :=
  .map [("payload_len", .nat report.listing.payloadLength),
    ("records", .sequence (report.listing.records.map recordJson)),
    ("truncated", .boolean report.listing.truncated),
    ("truncated_at", .ofOption .nat report.listing.truncatedAt)]

/-- A table of the records. -/
def grid (report : InspectReport) : Text.Grid :=
  ⟨["OFFSET", "TAG", "NAME", "LEN", "VALUE"],
    report.listing.records.map fun record =>
      [toString record.offset, tagNumeral record.tag, Tag.name record.tag,
        toString record.value.length, Hex.encode record.value]⟩

/-- A record as a line of named values. -/
def prettyLine (record : Record) : String :=
  "offset=" ++ toString record.offset ++ " tag=" ++ tagNumeral record.tag ++
    " (" ++ Tag.name record.tag ++ ") len=" ++ toString record.value.length ++
    " value=" ++ Hex.encode record.value

/-- A record as its tag and its value. -/
def rawLine (record : Record) : String :=
  Hex.encode [record.tag] ++ " " ++ Hex.encode record.value

/-- The report in a format. -/
def render (report : InspectReport) : Format → Output
  | .json => .ofJson report.toJson
  | .table =>
      .ofLines (report.grid.render ::
        report.listing.truncatedAt.toList.map fun offset =>
          "scan stopped at a truncated record (offset " ++ toString offset ++ ")")
  | .pretty =>
      .ofLines (report.listing.records.map prettyLine ++
        ["records=" ++ toString report.listing.records.length ++
          " truncated=" ++ toString report.listing.truncated])
  | .raw => .ofLines (report.listing.records.map rawLine)

end InspectReport

/-- The name and the number of this program. -/
def versionLine : String := "meshannounce 0.1.0"

/-- What the program says about itself. -/
def versionOutput (target : String) (extended : Bool) : Output :=
  .ofLines (versionLine ::
    if extended then
      ["target: " ++ target,
        "neighbor_tag: " ++ tagNumeral Tag.directNeighbors,
        "max_neighbors: " ++ toString Neighbors.defaultLimit.toNat,
        "max_value_len: " ++ toString (Neighbors.maxValueSize Neighbors.defaultLimit)]
    else [])

end Announce
