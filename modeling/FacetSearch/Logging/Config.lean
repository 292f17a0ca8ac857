/-
# FacetSearch.Logging.Config — where records go.

Two channels carry the records: the access log takes what `uvicorn.access` and the loggers below it
say, the application log everything else.  Each channel writes to the console and, if asked for,
to a file.  Which file that is from day to day is left to the platform.
-/
import FacetSearch.Logging.LogRecord
import FacetSearch.Signature

namespace FacetSearch.Logging

/-- The two channels. -/
inductive Channel where
  | app
  | access
  deriving DecidableEq, Repr

/-- The two forms of a line. -/
inductive LineForm where
  | json
  | text
  deriving DecidableEq, Repr

/-- What a channel writes to. -/
inductive Sink where
  | console
  | file
  deriving DecidableEq, Repr

/-- The level that is asked for: none at all, a number, or a truth value in place of one or zero. -/
inductive AskedLevel where
  | unset
  | number (level : Level)
  | truth (b : Bool)
  deriving DecidableEq, Repr

/-- A handler writes the records of a channel from a level on to a sink. -/
structure Handler where
  channel : Channel
  sink : Sink
  asked : AskedLevel
  form : LineForm
  deriving DecidableEq, Repr

/-- What is asked of the logging. -/
structure Setup where
  toFile : Bool
  asJson : Bool
  level : Value

/-- The logging as it was set up. -/
structure Config where
  asked : AskedLevel
  toFile : Bool
  form : LineForm
  deriving DecidableEq, Repr

namespace Setup

/-- What setting the logging up takes: options only. -/
def signature : Signature :=
  ⟨"setup_logging", [], [], ["log_to_file", "log_dir", "as_json", "level"]⟩

/-- Reads what is asked from options given by name; the directory of the files is not part of it. -/
def ofOptions (options : Record) : Except Failure Setup := do
  let _ ← signature.bind ⟨[], options⟩
  let option (name : Text) (substitute : Value) : Value :=
    ((options.find? fun (n, _) => n = name).map Prod.snd).getD substitute
  return { toFile := (option "log_to_file" (.bool false)).isFilled,
           asJson := (option "as_json" (.bool true)).isFilled,
           level := option "level" "INFO" }

end Setup

namespace Channel

/-- The word for a channel in the names of its handlers. -/
def label : Channel → Text
  | .app => "app"
  | .access => "access"

/-- The file of a channel. -/
def fileName : Channel → Text
  | .app => "app.log"
  | .access => "access.log"

/-- What stands in the first brackets of a text line. -/
def place : Channel → LogRecord → Value
  | .app => LogRecord.logger
  | .access => fun _ => "access"

/-- The pattern of the text lines of a channel. -/
def pattern : Channel → Text
  | .app => "%(asctime)s %(levelname)s [%(name)s] [%(request_id)s] %(message)s"
  | .access => "%(asctime)s %(levelname)s [access] [%(request_id)s] %(message)s"

/-- The channel of a logger. -/
def ofLogger (logger : Text) : Channel :=
  let root : Text := "uvicorn.access"
  if logger = root ∨ (Text.dropLead? (root ++ ".") logger).isSome then .access else .app

end Channel

namespace AskedLevel

/-- Reads a level: null, a number, a truth value, or the name of a level. -/
def ofValue (v : Value) : Except GeneralFault AskedLevel :=
  match v with
  | .null => .ok .unset
  | .int n => .ok (.number n)
  | .bool b => .ok (.truth b)
  | .text t =>
    match Level.ofName? t with
    | some level => .ok (.number level)
    | none => .error .value
  | _ => .error .type

/-- The level, or another where none is asked for. -/
def getD (asked : AskedLevel) (level : Level) : Level :=
  match asked with
  | .unset => level
  | .number n => n
  | .truth b => if b then 1 else 0

/-- The level as a value, or another where none is asked for. -/
def toValueD (asked : AskedLevel) (level : Level) : Value :=
  match asked with
  | .truth b => .bool b
  | asked => .int (asked.getD level)

end AskedLevel

namespace Handler

/-- The level from which on a handler writes. -/
def level (h : Handler) : Level := h.asked.getD 0

/-- The level of a handler as a value. -/
def levelValue (h : Handler) : Value := h.asked.toValueD 0

/-- The name of a handler. -/
def name (h : Handler) : Text :=
  (match h.sink with
    | .console => Text.ofString "console_"
    | .file => Text.ofString "file_") ++ h.channel.label

/-- The line that a handler writes for a record. -/
def line (h : Handler) (r : LogRecord) : Except Failure Text :=
  match h.form with
  | .json => r.toJson
  | .text => r.toText h.channel.place

/-- What a handler adds to its sink for a record.  A record that cannot be written adds nothing,
and neither does one that a file could not hold. -/
def written (h : Handler) (r : LogRecord) : Option Text :=
  match h.line r with
  | .error _ => none
  | .ok t => if h.sink = .console || t.isScalar then some (t ++ "\n") else none

end Handler

namespace Config

/-- The failure of a level that is none. -/
def badLevel (cause : GeneralFault) : Failure :=
  .general .value ["Unable to configure handler 'console_access'"] (some cause)

/-- Sets the logging up. -/
def ofSetup (s : Setup) : Except Failure Config :=
  match AskedLevel.ofValue s.level with
  | .error cause => .error (badLevel cause)
  | .ok asked => .ok ⟨asked, s.toFile, if s.asJson then .json else .text⟩

/-- The level from which on loggers say anything: those that have none take that of the root, which
is a warning unless it is set. -/
def level (c : Config) : Level := c.asked.getD Level.warning

/-- The level of the root logger as a value. -/
def rootLevelValue (c : Config) : Value := c.asked.toValueD Level.warning

/-- The level of a logger below the root as a value. -/
def loggerLevelValue (c : Config) : Value := c.asked.toValueD 0

/-- The handlers of a channel, the console first. -/
def handlers (c : Config) (channel : Channel) : List Handler :=
  ⟨channel, .console, c.asked, c.form⟩ ::
    (if c.toFile then [⟨channel, .file, c.asked, c.form⟩] else [])

/-- Whether a logger says anything at a level at all. -/
def isEnabled (c : Config) (level : Level) : Bool := decide (0 < level) && decide (c.level ≤ level)

/-- What the handlers write for a record of a logger at a level, each under its name. -/
def written (c : Config) (logger : Text) (level : Level) (r : LogRecord) : List (Text × Text) :=
  if c.isEnabled level then
    ((c.handlers (Channel.ofLogger logger)).filter fun h => h.level ≤ level).filterMap fun h =>
      (h.written r).map fun t => (h.name, t)
  else []

end Config

end FacetSearch.Logging
