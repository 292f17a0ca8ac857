/-
# FacetSearch.Settings.Settings — the settings of the service.

A setting is taken from the first place that has it: what the caller hands over, the environment,
the file of assignments, the default.  The environment and the file may write the names in any
case.
-/
import FacetSearch.Settings.EnvFile

namespace FacetSearch

/-- The settings of the service. -/
structure Settings where
  appName : Text
  debug : Bool
  engineHost : Text
  engineIndex : Text
  logLevel : Text
  logAsJson : Bool
  logToFile : Bool
  logDir : Text
  deriving DecidableEq, Repr

namespace Settings

open Validation

/-- The name that a refusal calls the settings by. -/
def modelName : Text := "Settings"

/-- The settings when nothing is set. -/
def default : Settings where
  appName := "product-search-api"
  debug := false
  engineHost := "http://opensearch:9200"
  engineIndex := "spree"
  logLevel := "INFO"
  logAsJson := true
  logToFile := false
  logDir := "/var/log/app"

/-- Where settings are taken from. -/
structure Sources where
  given : Entries
  environment : List (Text × Text)
  file : Text

/-- The value under a name in any case; of several the last one. -/
def anyCase? {α : Type} (named : List (Text × α)) (name : Text) : Option α :=
  (named.reverse.find? fun (n, _) => n.lower = name.lower).map Prod.snd

/-- The value of a setting, if any source has it. -/
def Sources.value? (s : Sources) (name : Text) : Option Value :=
  match Entries.get? s.given name with
  | some v => some v
  | none =>
    match anyCase? s.environment name with
    | some t => some (.text t)
    | none => ((anyCase? (EnvFile.read s.environment s.file) name).bind id).map .text

/-- Reads one setting. -/
def setting {α : Type} (s : Sources) (name : Text) (read : Value → Checked α) (default : α) :
    Checked α :=
  match s.value? name with
  | some v => Checked.under (.name name) (read v)
  | none => .ok default

/-- Reads all settings. -/
def read (s : Sources) : Checked Settings :=
  .ok Settings.mk
    |> (Checked.ap · (setting s "APP_NAME" (scalar text?) default.appName))
    |> (Checked.ap · (setting s "DEBUG" (scalar bool?) default.debug))
    |> (Checked.ap · (setting s "OPENSEARCH_HOST" (scalar text?) default.engineHost))
    |> (Checked.ap · (setting s "OPENSEARCH_INDEX" (scalar text?) default.engineIndex))
    |> (Checked.ap · (setting s "LOG_LEVEL" (scalar text?) default.logLevel))
    |> (Checked.ap · (setting s "LOG_AS_JSON" (scalar bool?) default.logAsJson))
    |> (Checked.ap · (setting s "LOG_TO_FILE" (scalar bool?) default.logToFile))
    |> (Checked.ap · (setting s "LOG_DIR" (scalar text?) default.logDir))

/-- The settings as a dictionary. -/
def dump (s : Settings) : Value :=
  .record [("APP_NAME", .text s.appName), ("DEBUG", .bool s.debug),
    ("OPENSEARCH_HOST", .text s.engineHost), ("OPENSEARCH_INDEX", .text s.engineIndex),
    ("LOG_LEVEL", .text s.logLevel), ("LOG_AS_JSON", .bool s.logAsJson),
    ("LOG_TO_FILE", .bool s.logToFile), ("LOG_DIR", .text s.logDir)]

end Settings

end FacetSearch
