/-
# FacetSearch.Logging.LogRecord — one record and its lines.

A record is a template with arguments, said by a logger at a level and a time, during a request,
with further fields of any names.  One that is about a failure has a trace: the text of the failure,
of those behind it and of the way they took, which may run over many lines.  A record is written as
a line of JSON or as text.  The JSON line knows four of the further fields, those of an answered
request, and shows each of them unless it is missing or null.
-/
import FacetSearch.Json.Writer
import FacetSearch.Logging.Event
import FacetSearch.Logging.Template
import FacetSearch.Logging.Time
import FacetSearch.Validation.Collection

namespace FacetSearch.Logging

/-- One record. -/
structure LogRecord where
  created : Binary64
  logger : Value
  levelName : Value
  template : Value
  args : Value
  requestId : Option Value
  /-- The trace, if the record has one.  It may be that of no failure at all. -/
  trace : Option Text
  extra : Record

namespace LogRecord

/-- The arguments of a record: a dictionary alone stands for itself. -/
def argsOf : List Value → Value
  | [.dict (e :: rest)] => .dict (e :: rest)
  | args => .tuple args

/-- The text of a value in a line. -/
def shown (v : Value) : Except Failure Text := v.shown.mapError (Failure.ofFault .value)

/-- The message: the template with its arguments filled in; without any it is taken as it is. -/
def message (r : LogRecord) : Except Failure Text := do
  let template ← shown r.template
  if r.args.isFilled then Template.format template r.args else .ok template

/-- The name under which a level of any kind is shown: that of the number, the number of a name, or
else the level itself. -/
def levelNameOf (level : Value) : Except Failure Value :=
  match level.hashFault? with
  | some fault => .error (Failure.ofFault .type fault)
  | none =>
    match Level.named.find? fun (_, n) => level.sameKey (.int n),
      Level.named.find? fun (name, _) => level.sameKey (.text name) with
    | some (_, n), _ => .ok (.text (Level.label n))
    | none, some (_, n) => .ok (.int n)
    | none, none => (Template.format "Level %s" level).map Value.text

/-- The id of a record that was said during no request. -/
def noRequest : Value := "-"

/-- The further fields that a JSON line shows, in order. -/
def accessFields : List String := ["http_method", "path", "status_code", "duration_ms"]

/-- A further field by its name. -/
def extra? (r : LogRecord) (name : Text) : Option Value :=
  (r.extra.find? fun (n, _) => n = name).map Prod.snd

/-- A further field for the JSON line, unless it is missing or null. -/
def accessField (r : LogRecord) (name : String) : Option (String × Value) :=
  match r.extra? (Text.ofString name) with
  | none => none
  | some .null => none
  | some v => some (name, v)

/-- The members of the JSON line. -/
def members (r : LogRecord) : Except Failure (List (String × Value)) := do
  let timestamp ← Time.isoText r.created
  let message ← r.message
  return [("timestamp", .text timestamp), ("level", r.levelName), ("logger", r.logger),
      ("message", .text message), ("request_id", r.requestId.getD noRequest)] ++
    (match r.trace with
      | some trace => [("exc_info", .text trace)]
      | none => []) ++
    accessFields.filterMap r.accessField

/-- The failure of a value that has no JSON text. -/
def ofWriteFault : Json.WriteFault → Failure
  | .badKey k =>
    Failure.ofFault .type ("keys must be str, int, float, bool or None, not " ++ k.kind)
  | .unknownKind v =>
    Failure.ofFault .type ("Object of type " ++ v.kind ++ " is not JSON serializable")
  | .notFinite => Failure.ofFault .value "Out of range float values are not JSON compliant"
  | .tooLong => Failure.ofFault .value Value.tooLong

/-- The record as a line of JSON, without the line end. -/
def toJson (r : LogRecord) : Except Failure Text := do
  let members ← r.members
  (Json.write .logLine (.record members)).mapError ofWriteFault

/-- The record as text: time, level, a place in brackets, the id in brackets, the message, and on
the next line the trace, if there is anything in it. -/
def toText (place : LogRecord → Value) (r : LogRecord) : Except Failure Text := do
  let message ← r.message
  let time ← Time.clockText r.created
  let levelName ← shown r.levelName
  let place ← shown (place r)
  let requestId ← shown (r.requestId.getD noRequest)
  let line := time ++ " " ++ levelName ++ " [" ++ place ++ "] [" ++ requestId ++ "] " ++ message
  match r.trace with
  | none | some [] => return line
  | some trace =>
    let ended := if line.getLast? = some (CodePoint.ofChar '\n') then line else line ++ "\n"
    return ended ++ trace

/-- The figures of an answered request as further fields. -/
def accessExtra (a : Access) : Record :=
  [("http_method", .text a.method), ("path", .text a.path), ("status_code", a.status.toValue),
    ("duration_ms", .float a.duration)]

/-- The record of an entry.  Which trace a failure has depends on the way that it took, of which an
entry knows nothing. -/
def ofEntry (created : Binary64) (trace : Failure → Text) (e : Entry) : LogRecord where
  created := created
  logger := .text e.event.logger
  levelName := .text (Level.label e.event.level)
  template := .text e.event.message
  args := .tuple []
  requestId := some (.text e.requestId)
  trace := e.event.failure.map trace
  extra := (e.event.access.map accessExtra).getD []

end LogRecord

end FacetSearch.Logging
