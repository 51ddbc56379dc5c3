import Announce.Log.Line
import Announce.Neighbors

/-!
# Invocations

What a command line asks for: a command with its options, and how results and
events are to be written.
-/

namespace Announce

/-- How results are written. -/
inductive Format where
  /-- One JSON object. -/
  | json
  /-- A table drawn with box characters. -/
  | table
  /-- Lines of named values. -/
  | pretty
  /-- Bare values, or the bytes of a record. -/
  | raw
deriving DecidableEq, Repr

/-- The options of the encoder. -/
structure EncodeOptions where
  peerIds : List String
  maxNeighbors : UInt64
  /-- Whether every text has to be a strict identifier. -/
  strict : Bool
deriving DecidableEq, Repr

/-- Where a payload comes from. -/
structure PayloadOptions where
  /-- The payload itself, as hexadecimal text. -/
  hex : Option String
  /-- The path of a file that holds the payload. -/
  file : Option String
deriving DecidableEq, Repr

/-- A command with its options. -/
inductive Command where
  /-- Write a neighbor record. -/
  | encode (options : EncodeOptions)
  /-- Read the neighbors of a payload. -/
  | decode (source : PayloadOptions)
  /-- List the records of a payload. -/
  | inspect (source : PayloadOptions)
  /-- Name this program. -/
  | version (extended : Bool)
deriving DecidableEq, Repr

/-- The file that a command reads, if any. -/
def Command.filePath? : Command → Option String
  | .decode source | .inspect source => source.file
  | .encode _ | .version _ => none

/-- A whole command line. -/
structure Invocation where
  command : Command
  format : Option Format
  logStyle : Log.Style
  logLevel : Log.Level
deriving DecidableEq, Repr

/-- The format of results that nobody chose one for, where standard output is a
file or a pipe.  A terminal is not described here: on one the choice would fall
on tables, and they would be wrapped to its width. -/
def Format.default : Format := .json

namespace Format

/-- All formats. -/
def all : List Format := [.json, .table, .pretty, .raw]

/-- The name of a format on a command line. -/
def name : Format → String
  | .json => "json"
  | .table => "table"
  | .pretty => "pretty"
  | .raw => "raw"

/-- The format with a name. -/
def ofName? (text : String) : Option Format :=
  all.find? fun format => format.name == text

end Format

namespace Log

/-- All styles of log lines. -/
def Style.all : List Style := [.text, .json]

/-- The name of a style on a command line. -/
def Style.name : Style → String
  | .text => "text"
  | .json => "json"

/-- The style with a name. -/
def Style.ofName? (text : String) : Option Style :=
  Style.all.find? fun style => style.name == text

/-- All levels. -/
def Level.all : List Level := [.error, .warn, .info, .debug, .trace]

/-- The name of a level on a command line. -/
def Level.name : Level → String
  | .error => "error"
  | .warn => "warn"
  | .info => "info"
  | .debug => "debug"
  | .trace => "trace"

/-- The level with a name. -/
def Level.ofName? (text : String) : Option Level :=
  Level.all.find? fun level => level.name == text

end Log

end Announce
