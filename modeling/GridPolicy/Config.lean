import GridPolicy.Config.LogFilter
import GridPolicy.Dispatch
import GridPolicy.Toml

/-!
# Configuration

What an engine is started with: its own settings and the descriptors of the
policies to invoke. It is read from JSON or from TOML, and a few settings can be
overridden from the environment. In JSON the whole may stand inside the entry for
a plugin of the host, which then also names the instance.
-/
namespace GridPolicy

/-- The environment variables that are looked at. -/
abbrev Environment := (name : String) → Option String

structure EngineConfig where
  instanceName : String := "policy_composition"
  /-- The filter for log messages. -/
  logLevel : String := "info"
  logsDirectory : Option String := none
  deriving DecidableEq, Repr

namespace EngineConfig

/-- The names of the members in order. -/
def memberNames : List (List String) := [["instance_name"], ["log_level"], ["logs_dir"]]

def decode (d : Document) : Option EngineConfig := do
  match ← Decode.members memberNames d with
  | [instanceName, logLevel, logsDirectory] =>
    let missing : EngineConfig := {}
    return {
      instanceName := ← Decode.orElse missing.instanceName Decode.text instanceName
      logLevel := ← Decode.orElse missing.logLevel Decode.text logLevel
      logsDirectory := ← Decode.orElse none (Decode.optional Decode.text) logsDirectory }
  | _ => none

def toDocument (c : EngineConfig) : Document :=
  Document.ofFields
    ([("instance_name", .text c.instanceName), ("log_level", .text c.logLevel)] ++
      PolicyDescriptor.optionalField "logs_dir" (c.logsDirectory.map .text))

end EngineConfig

structure Config where
  engine : EngineConfig := {}
  policies : List PolicyDescriptor := []

/-- What is wrong with a configuration. -/
inductive ConfigError where
  | notJson
  | invalidEngine
  | invalidPolicies
  | notToml
  deriving DecidableEq, Repr

def ConfigError.message : ConfigError → String
  | .notJson => "failed to parse config JSON"
  | .invalidEngine => "invalid engine section"
  | .invalidPolicies => "invalid policies_to_invoke"
  | .notToml => "failed to parse config TOML"

namespace Config

/-- The key of the engine's settings. -/
def engineKey : String := "engine"

/-- The key of the name of the instance. -/
def instanceKey : String := "instance_name"

/-- The key under which the host keeps what belongs to a plugin. -/
def pluginKey : String := "plugin_specific_configuration"

/-- The engine's settings and the policies that a JSON document holds. Other
fields are passed over. -/
def ofDocument (d : Document) : Except ConfigError Config := do
  let body := (d.get? pluginKey).getD d
  let engine ←
    match body.get? engineKey with
    | none => pure ({} : EngineConfig)
    | some part =>
      match EngineConfig.decode part with
      | some engine => pure engine
      | none => throw .invalidEngine
  let engine := match (d.get? instanceKey).bind Document.text? with
    | some name => { engine with instanceName := name }
    | none => engine
  match body.get? Key.policiesToInvoke with
  | none => return { engine }
  | some part =>
    match Decode.list PolicyDescriptor.decode part with
    | some policies => return { engine, policies }
    | none => throw .invalidPolicies

/-- Reads a configuration from JSON. -/
def ofJson (text : String) : Except ConfigError Config :=
  match Document.Reader.parse text with
  | none => .error .notJson
  | some d => ofDocument d

/-- The configuration that a table holds. Settings that stand in an array may be
followed by anything. -/
def ofTable? (d : Document) : Option Config := do
  let engineConfig := Decode.leading EngineConfig.memberNames EngineConfig.decode
  let descriptor := Decode.leading PolicyDescriptor.memberNames PolicyDescriptor.decode
  match ← Decode.members [[engineKey], [Key.policiesToInvoke]] d with
  | [engine, policies] =>
    return {
      engine := ← Decode.orElse {} engineConfig engine
      policies := ← Decode.orElse [] (Decode.list descriptor) policies }
  | _ => none

/-- Reads a configuration from TOML. -/
def ofToml (text : String) : Except ConfigError Config :=
  match (Toml.parse text).bind ofTable? with
  | some config => .ok config
  | none => .error .notToml

/-- The written form; settings without a value are left out. -/
def toDocument (c : Config) : Document :=
  Document.ofFields
    [(engineKey, c.engine.toDocument),
     (Key.policiesToInvoke, .array (c.policies.map PolicyDescriptor.toDocument))]

def levelVariable : String := "POLICY_COMPOSITION_LOG_LEVEL"

def instanceVariable : String := "POLICY_COMPOSITION_INSTANCE_NAME"

def logsVariable : String := "POLICY_COMPOSITION_LOGS_DIR"

def pathVariable : String := "POLICY_COMPOSITION_CONFIG"

/-- Settings of the environment win. A level that is no filter and an empty name
are passed over; an empty directory is taken. -/
def override (c : Config) (environment : Environment) : Config :=
  let level := ((environment levelVariable).filter LogFilter.isFilter).getD c.engine.logLevel
  let name := ((environment instanceVariable).filter fun s => s != "").getD c.engine.instanceName
  let logs := (environment logsVariable).or c.engine.logsDirectory
  { c with engine := ⟨name, level, logs⟩ }

/-- The path of a name in a directory. -/
def joinPath (directory name : String) : String :=
  if directory == "" then name
  else if Text.endsWith directory "/" then directory ++ name
  else directory ++ "/" ++ name

/-- The directory for all that belongs to the engine. -/
def directory (home : String) : String := joinPath home ".policy-composition"

/-- The path of the configuration: the one that the environment names, or the
one in the home directory. -/
def path (environment : Environment) (home : String) : String :=
  (environment pathVariable).getD (joinPath (directory home) "config.toml")

/-- The directory for log files. -/
def logsDirectory (c : Config) (home : String) : String :=
  c.engine.logsDirectory.getD (joinPath (directory home) "logs")

/-- What stands behind the last dot in the name of a file. A dot in front of the
whole name does not count. -/
def extension? (path : String) : Option String := do
  let name ← ((Text.pieces '/' path).filter fun s => s != "" && s != ".").getLast?
  if name == ".." then none
  let (before, after) ← Text.cutLast '.' name.toList
  if before.isEmpty then none else return String.ofList after

/-- Reads a file's contents as JSON if the file is named so, and as TOML otherwise. -/
def ofFile (path contents : String) : Except ConfigError Config :=
  match extension? path with
  | some extension => if Text.sameLetters extension "json" then ofJson contents else ofToml contents
  | none => ofToml contents

end Config

end GridPolicy
