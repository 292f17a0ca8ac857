/-
# FacetSearch.Logging.Level — how severe a record is.

A level is a number; six of the numbers have names, and two of those have a second name.
-/
import FacetSearch.Text.Basic

namespace FacetSearch.Logging

/-- The severity of a record. -/
abbrev Level := Int

namespace Level

def debug : Level := 10

def info : Level := 20

def warning : Level := 30

def error : Level := 40

def critical : Level := 50

/-- The names that a level can be given by. -/
def named : List (Text × Level) :=
  [("CRITICAL", critical), ("FATAL", critical), ("ERROR", error), ("WARN", warning),
    ("WARNING", warning), ("INFO", info), ("DEBUG", debug), ("NOTSET", 0)]

/-- The level of a name. -/
def ofName? (t : Text) : Option Level := (named.find? fun (name, _) => name = t).map Prod.snd

/-- The name under which a level is shown; a level without one shows its number. -/
def label (level : Level) : Text :=
  if level = critical then "CRITICAL"
  else if level = error then "ERROR"
  else if level = warning then "WARNING"
  else if level = info then "INFO"
  else if level = debug then "DEBUG"
  else if level = 0 then "NOTSET"
  else "Level " ++ Text.ofInt level

end Level

end FacetSearch.Logging
