import GridPolicy.Text

/-!
# Arguments of the command line

The first argument chooses a command, and options follow. The value of an option
is the next argument or stands behind an equality sign. An option is given at most
once, its value does not begin with a hyphen unless it is nothing but a hyphen, and
a path is not empty. Arguments are taken in order, and the first that asks for help
or is wrong decides.
-/
namespace GridPolicy.CommandLine

inductive Command where
  /-- Checks a configuration: the one named, or the default one. -/
  | validate (config : Option String)
  /-- Classifies the calls of a trace for a user of a zone. -/
  | classify (trace user zone : String)
  deriving DecidableEq, Repr

/-- What the arguments ask for. -/
inductive Request where
  | run (command : Command)
  | print (text : String)
  | misuse
  deriving DecidableEq, Repr

def versionText : String := "policy-composition 0.1.0\n"

def validateSummary : String := "Load a configuration and resolve every policy it names"

def classifySummary : String := "Replay a JSON-lines trace of calls and print the classified events"

def helpSummary : String := "Print this message or the help of the given subcommand(s)"

def linesText (lines : List String) : String := String.join (lines.map (· ++ "\n"))

def helpText : String := linesText
  ["Event correlation and policy dispatch engine for storage-server interception points",
   "",
   "Usage: policy-composition <COMMAND>",
   "",
   "Commands:",
   "  validate  " ++ validateSummary,
   "  classify  " ++ classifySummary,
   "  help      " ++ helpSummary,
   "",
   "Options:",
   "  -h, --help     Print help",
   "  -V, --version  Print version"]

def validateHelp : String := linesText
  [validateSummary,
   "",
   "Usage: policy-composition validate [OPTIONS]",
   "",
   "Options:",
   "      --config <CONFIG>  Config file, TOML or JSON; the default location when omitted",
   "  -h, --help             Print help"]

def classifyHelp : String := linesText
  [classifySummary,
   "",
   "Usage: policy-composition classify [OPTIONS] --trace <TRACE>",
   "",
   "Options:",
   "      --trace <TRACE>  " ++
     "File with one `\x7b\"pep\": ..., \"arguments\": \x7b...\x7d\x7d` object per line",
   "      --user <USER>    Client user for the replayed session [default: rods]",
   "      --zone <ZONE>    Client zone for the replayed session [default: tempZone]",
   "  -h, --help           Print help"]

def helpHelp : String := linesText
  [helpSummary,
   "",
   "Usage: policy-composition help [COMMAND]...",
   "",
   "Arguments:",
   "  [COMMAND]...  Print help for the subcommand(s)"]

/-- An option that a command knows. -/
structure KnownOption where
  name : String
  isPath : Bool
  deriving DecidableEq, Repr

/-- The options given so far, by name. -/
abbrev Given := List (String × String)

def Given.value? (given : Given) (name : String) : Option String :=
  (given.find? fun pair => pair.1 == name).map (·.2)

/-- Whether an argument is taken for an option and not for a value. -/
def looksLikeOption (argument : String) : Bool :=
  Text.beginsWith argument "-" && argument != "-"

/-- Adds an option, if it may be given with this value. -/
def KnownOption.add? (known : KnownOption) (value : String) (given : Given) : Option Given :=
  if (given.value? known.name).isSome || (known.isPath && value == "") then none
  else some (given ++ [(known.name, value)])

/-- A long option's name, and its value if one is attached. -/
def splitLong (body : List Char) : String × Option String :=
  match Text.cutAt ['='] body with
  | some (name, value) => (String.ofList name, some (String.ofList value))
  | none => (String.ofList body, none)

/-- Takes the options of a command in order. -/
def takeOptions (known : List KnownOption) (help : String) :
    List String → Given → Except Request Given
  | [], given => .ok given
  | argument :: r, given =>
    match argument.toList with
    | ['-', '-'] => if r.isEmpty then .ok given else .error .misuse
    | '-' :: '-' :: body =>
      let (name, attached) := splitLong body
      if name == "help" then .error (if attached.isNone then .print help else .misuse)
      else
        match known.find? fun o => o.name == name with
        | none => .error .misuse
        | some o =>
          match attached, r with
          | some value, r =>
            match o.add? value given with
            | some given => takeOptions known help r given
            | none => .error .misuse
          | none, [] => .error .misuse
          | none, value :: r =>
            if looksLikeOption value then .error .misuse
            else
              match o.add? value given with
              | some given => takeOptions known help r given
              | none => .error .misuse
    | '-' :: 'h' :: _ => .error (.print help)
    | _ => .error .misuse

def validateOptions : List KnownOption := [⟨"config", true⟩]

def classifyOptions : List KnownOption := [⟨"trace", true⟩, ⟨"user", false⟩, ⟨"zone", false⟩]

def readValidate (arguments : List String) : Request :=
  match takeOptions validateOptions validateHelp arguments [] with
  | .error request => request
  | .ok given => .run (.validate (given.value? "config"))

def readClassify (arguments : List String) : Request :=
  match takeOptions classifyOptions classifyHelp arguments [] with
  | .error request => request
  | .ok given =>
    match given.value? "trace" with
    | none => .misuse
    | some trace =>
      .run (.classify trace ((given.value? "user").getD "rods")
        ((given.value? "zone").getD "tempZone"))

/-- The help that is asked for by the names of commands. -/
def readHelp : List String → Request
  | [] => .print helpText
  | ["validate"] => .print validateHelp
  | ["classify"] => .print classifyHelp
  | ["help"] => .print helpHelp
  | _ => .misuse

/-- What the arguments ask for. -/
def readArguments : List String → Request
  | [] => .misuse
  | "validate" :: r => readValidate r
  | "classify" :: r => readClassify r
  | "help" :: r => readHelp r
  | "--help" :: _ => .print helpText
  | "--version" :: _ => .print versionText
  | argument :: _ =>
    match argument.toList with
    | '-' :: 'h' :: _ => .print helpText
    | '-' :: 'V' :: _ => .print versionText
    | _ => .misuse

end GridPolicy.CommandLine
