import Announce.Json
import Announce.Log.Event
import Announce.Text.Quoted

/-!
# Log lines

An event is written as one line, either as text or as a JSON object.  A line is
a function of its event alone: the time at which the event was reported, which a
log shows first on every line, is left out, and so are the blanks that bring all
levels to one width in a line of text.
-/

namespace Announce.Log

/-- How log lines are written. -/
inductive Style where
  | text
  | json
deriving DecidableEq, Repr

/-- The value of a field in a line of text. -/
def Field.display : Field → String
  | .number value => toString value
  | .text value => Text.quoteText value

/-- The value of a field in a JSON line. -/
def Field.toJson : Field → Json
  | .number value => .nat value
  | .text value => .string value

namespace Event

/-- An event as a line of text, from its level on. -/
def textLine (event : Event) : String :=
  let fields := event.fields.map fun (name, field) => " " ++ name ++ "=" ++ field.display
  event.level.label ++ " " ++ event.target ++ ": " ++ event.message ++ String.join fields

/-- An event as a JSON object, without the field for its time. -/
def jsonLine (event : Event) : String :=
  let fields := event.fields.map fun (name, field) => (name, field.toJson)
  (Json.map ([("level", .string event.level.label), ("message", .string event.message)] ++
    fields ++ [("target", .string event.target)])).compact

/-- An event as a line in the given style. -/
def line (style : Style) (event : Event) : String :=
  match style with
  | .text => event.textLine
  | .json => event.jsonLine

end Event

/-- The lines of the events that a threshold lets through. -/
def lines (style : Style) (threshold : Level) (events : List Event) : List String :=
  (events.filter fun event => threshold.admits event.level).map (Event.line style)

end Announce.Log
