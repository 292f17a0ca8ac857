/-
# FacetSearch.Logging.Session — saying things while requests come and go.

A session has a logging that is set up and a context that requests enter and leave.  A record is
written under the id that the context has when it is said, whatever its own fields claim.  Further
fields may not take the names that every record has.
-/
import FacetSearch.Http.Context
import FacetSearch.Logging.Config

namespace FacetSearch.Logging

/-- The names that every record has. -/
def reservedNames : List String :=
  ["name", "msg", "args", "levelname", "levelno", "pathname", "filename", "module", "exc_info",
    "exc_text", "stack_info", "lineno", "funcName", "created", "msecs", "relativeCreated", "thread",
    "threadName", "processName", "process", "message", "asctime"]

/-- What is said: by whom, at which level and time, and with what. -/
structure Statement where
  logger : Text
  level : Value
  template : Value
  args : List Value
  created : Binary64
  extra : Record
  trace : Option Text

/-- A logging and the requests that were entered, the latest first. -/
structure Session where
  config : Config
  context : Context
  tokens : List Context.Token

namespace Session

/-- A session outside of any request. -/
def start (config : Config) : Session := ⟨config, .outside, []⟩

/-- Enters a request. -/
def enter (s : Session) (requestId : Text) : Session :=
  let (ctx, token) := s.context.enter requestId
  { s with context := ctx, tokens := token :: s.tokens }

/-- Leaves the latest request. -/
def leave (s : Session) : Session :=
  match s.tokens with
  | [] => s
  | token :: rest => { s with context := s.context.leave token, tokens := rest }

/-- The failure of a further field with a reserved name. -/
def overwriting (name : Text) : Failure :=
  .general .key [.text ("Attempt to overwrite " ++ Quoted.ofText name ++ " in LogRecord")] none

/-- The first further field with a reserved name. -/
def reserved? (extra : Record) : Option Text :=
  (extra.map Prod.fst).find? fun name => reservedNames.any fun r => Text.ofString r = name

/-- The name that the root logger goes by. -/
def loggerName (logger : Text) : Text := if logger.isEmpty then "root" else logger

/-- The level of a statement, which has to be an integer; truth values count as one and zero. -/
def levelOf : Value → Except Failure Level
  | .int n => .ok n
  | .bool b => .ok (if b then 1 else 0)
  | _ => .error (Failure.ofFault .type "level must be an integer")

/-- The record of a statement, under the id of the context. -/
def record (s : Session) (said : Statement) (levelName : Value) : LogRecord where
  created := said.created
  logger := .text (loggerName said.logger)
  levelName := levelName
  template := said.template
  args := LogRecord.argsOf said.args
  requestId := some (.text s.context.requestId)
  trace := said.trace
  extra := said.extra

/-- What is written for a statement, under the names of the handlers. -/
def log (s : Session) (said : Statement) : Except Failure (List (Text × Text)) := do
  let level ← levelOf said.level
  if !s.config.isEnabled level then return []
  let levelName ← LogRecord.levelNameOf said.level
  match reserved? said.extra with
  | some name => throw (overwriting name)
  | none => return s.config.written said.logger level (s.record said levelName)

end Session

end FacetSearch.Logging
