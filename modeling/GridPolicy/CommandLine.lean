import GridPolicy.CommandLine.Arguments
import GridPolicy.Config
import GridPolicy.Event.Classifier
import GridPolicy.Policy.Builtin

/-!
# The command line

One command checks a configuration against the built-in policies, the other
classifies the calls of a trace. A command needs one file at most. It therefore
either ends at once, or names the file and goes on with what was found there.
-/
namespace GridPolicy.CommandLine

/-- How a command ends. -/
structure Ending where
  exitCode : Nat
  output : String
  deriving DecidableEq, Repr

/-- What is found at a path. -/
inductive Found where
  | missing
  | unreadable
  | contents (text : String)

inductive Step where
  | done (ending : Ending)
  | read (path : String) (next : Found → Ending)

def failed (output : String) : Ending := ⟨1, output⟩

/-- The ending when a filter for log messages breaks off its own reading. -/
def brokenOff : Ending := ⟨101, ""⟩

/-- The line for a descriptor. -/
def describe (d : PolicyDescriptor) : String :=
  "  " ++ d.policy ++ " events=[" ++ Text.join ", " d.events ++ "] clauses=[" ++
    Text.join ", " d.clauses ++ "]"

/-- Checks that every descriptor of a configuration can be resolved. -/
def validate (config : Config) : Ending :=
  match Dispatcher.ofDescriptors Registry.builtin config.policies with
  | .error _ => failed ""
  | .ok _ =>
    ⟨0, linesText
      (("configuration valid: " ++ toString config.policies.length ++ " policies_to_invoke") ::
        config.policies.map describe)⟩

/-- Checks a configuration after the environment had its say. Messages are filtered
by the level that results, so that one and the environment's must not break off. -/
def validateIn (environment : Environment) (config : Config) : Ending :=
  let config := config.override environment
  let levels := config.engine.logLevel :: (environment Config.levelVariable).toList
  if levels.any fun level => LogFilter.read level == .broken then brokenOff else validate config

/-- Checks a configuration of which the file was found. -/
def validateFile (environment : Environment) (path contents : String) : Ending :=
  match Config.ofFile path contents with
  | .error _ => failed ""
  | .ok config => validateIn environment config

/-- Goes on with what was found at the path of a configuration. Only a file that
nobody named may be missing. -/
def validateFound (environment : Environment) (path : String) (named : Bool) : Found → Ending
  | .contents text => validateFile environment path text
  | .unreadable => failed ""
  | .missing => if named then failed "" else validateIn environment {}

/-- A line of a trace: the name of the point and the arguments of the call. -/
def traceCall? (line : String) : Option (String × CallArguments) := do
  match ← Decode.members [["pep"], ["arguments"]] (← Document.Reader.parseWritten line) with
  | [point, arguments] =>
    return (← Decode.required Decode.text point, ← Decode.required Decode.callArguments arguments)
  | _ => none

/-- Blank lines and those that begin with a number sign say nothing. -/
def isRemark (line : String) : Bool := line == "" || Text.beginsWith line "#"

/-- The records of the classified calls in order, and whether every line could be
read and classified. A line that cannot be read is the last one looked at. -/
def replay (s : Session) : List String → List String × Bool
  | [] => ([], true)
  | line :: r =>
    let line := Text.trim line
    if isRemark line then replay s r
    else
      match traceCall? line with
      | none => ([], false)
      | some (point, arguments) =>
        match classify s point arguments with
        | (after, .ok events) =>
          let (records, ok) := replay after r
          (events.map (fun item => item.record.toDocument.written) ++ records, ok)
        | (after, .error _) => ((replay after r).1, false)

/-- Classifies the calls of a trace. -/
def classifyTrace (user zone : String) : Found → Ending
  | .contents text =>
    let (records, ok) := replay (Session.start (ClientInfo.forUser user zone)) (Text.lines text)
    ⟨if ok then 0 else 1, linesText records⟩
  | _ => failed ""

/-- Begins a command. -/
def start (environment : Environment) (home : String) : Command → Step
  | .validate (some path) => .read path (validateFound environment path true)
  | .validate none =>
    let path := Config.path environment home
    .read path (validateFound environment path (environment Config.pathVariable).isSome)
  | .classify trace user zone => .read trace (classifyTrace user zone)

/-- Begins what the arguments ask for. Wrong arguments have an exit code of their own. -/
def run (environment : Environment) (home : String) (arguments : List String) : Step :=
  match readArguments arguments with
  | .misuse => .done ⟨2, ""⟩
  | .print text => .done ⟨0, text⟩
  | .run command => start environment home command

end GridPolicy.CommandLine
