import CitationFile.Configuration

namespace CitationFile.CommandLine

inductive Command where
  | validate (path : String) (strict : Bool)
  | render (path : String) (format : Option Format)
deriving DecidableEq, Repr

structure Invocation where
  configuration : Option String
  command : Command
deriving DecidableEq, Repr

inductive Request where
  | invoke (invocation : Invocation)
  | help
  | version
deriving DecidableEq, Repr

inductive Verb where
  | validate | render
deriving DecidableEq, Repr

def Verb.ofName? : String → Option Verb
  | "validate" => some validate
  | "render" => some render
  | _ => none

/-! Arguments are read from left to right, and the first one that is wrong ends the reading. An
option may be given once; the file of the configuration may be given both before the verb and behind
it, and then the latter counts. -/

structure Given where
  configuration : Option String := none
  strict : Bool := false
  format : Option Format := none
  path : Option String := none

/-- What the arguments so far amount to: more of them, a request that is complete, or a misuse. -/
inductive Reading (α : Type) where
  | more (state : α)
  | complete (request : Request)
  | misuse

def isOption (argument : String) : Bool :=
  match argument.toList with
  | '-' :: _ :: _ => true
  | _ => false

/-- The value of an option; without an equals sign it is the next argument. -/
def Given.setConfiguration (given : Given) (path : String) : Reading Given :=
  if given.configuration.isSome ∨ path = "" then .misuse
  else .more { given with configuration := some path }

def Given.setFormat (given : Given) (name : String) : Reading Given :=
  match given.format, Format.ofName? name with
  | none, some format => .more { given with format := some format }
  | _, _ => .misuse

def Given.setPath (given : Given) (path : String) : Reading Given :=
  if given.path.isSome ∨ path = "" then .misuse else .more { given with path := some path }

def Given.option? (given : Given) (verb : Option Verb) (name : String) :
    Option (String → Reading Given) :=
  if name = "--config" then some given.setConfiguration
  else if name = "--format" ∧ verb = some .render then some given.setFormat
  else none

def splitEquals (argument : String) : String × Option String :=
  let name := argument.toList.takeWhile (· ≠ '=')
  match argument.toList.drop name.length with
  | [] => (argument, none)
  | _ :: value => (String.ofList name, some (String.ofList value))

/-- Flags of one letter may be written together; the first of them decides. -/
def shortFlag (verb : Option Verb) (argument : String) : Reading Given :=
  match argument.toList with
  | '-' :: 'h' :: _ => .complete .help
  | '-' :: 'V' :: _ => if verb = none then .complete .version else .misuse
  | _ => .misuse

def Given.flag (given : Given) (verb : Option Verb) (argument : String) : Reading Given :=
  if argument = "--help" then .complete .help
  else if argument = "--version" ∧ verb = none then .complete .version
  else if argument = "--strict" ∧ verb = some .validate ∧ given.strict = false then
    .more { given with strict := true }
  else shortFlag verb argument

/-- Reads arguments behind a verb, or before it up to the argument that is no option. -/
def Given.read (given : Given) (verb : Option Verb) : List String → Reading (Given × List String)
  | [] => .more (given, [])
  | argument :: rest =>
      if argument = "--" then
        match verb, rest with
        | some _, [path] =>
            match given.setPath path with
            | .more given => .more (given, [])
            | _ => .misuse
        | some _, [] => .more (given, [])
        | _, _ => .misuse
      else if isOption argument then
        let (name, value) := splitEquals argument
        match given.option? verb name, value, rest with
        | some set, some value, rest => onward (set value) rest
        | some set, none, value :: rest =>
            if isOption value then .misuse else onward (set value) rest
        | some _, none, [] => .misuse
        | none, _, rest => onward (given.flag verb argument) rest
      else if verb = none then .more (given, argument :: rest)
      else onward (given.setPath argument) rest
where
  onward (step : Reading Given) (rest : List String) : Reading (Given × List String) :=
    match step with
    | .more given => given.read verb rest
    | .complete request => .complete request
    | .misuse => .misuse

def Given.command? (given : Given) (verb : Verb) : Option Command :=
  given.path.map fun path =>
    match verb with
    | .validate => .validate path given.strict
    | .render => .render path given.format

def isHelpTopic : List String → Bool
  | [] => true
  | [topic] => topic = "help" || (Verb.ofName? topic).isSome
  | _ => false

def Request.ofVerb? (outer : Given) (name : String) (rest : List String) : Option Request :=
  if name = "help" then if isHelpTopic rest then some .help else none
  else do
    let verb ← Verb.ofName? name
    match Given.read {} (some verb) rest with
    | .more (given, _) => do
        let command ← given.command? verb
        return .invoke ⟨given.configuration <|> outer.configuration, command⟩
    | .complete request => some request
    | .misuse => none

def Request.ofArguments? (arguments : List String) : Option Request :=
  match Given.read {} none arguments with
  | .more (_, []) => none
  | .more (outer, name :: rest) => Request.ofVerb? outer name rest
  | .complete request => some request
  | .misuse => none

structure Answer where
  exitCode : Nat
  output : String := ""
  errors : String := ""
deriving DecidableEq, Repr

namespace Answer

def success (output : String) : Answer :=
  ⟨0, output, ""⟩

def failure (doing text : String) (cause : Option String) : Answer :=
  ⟨1, "", "Error: " ++ doing ++ ": " ++ text ++ cause.elim "" (": " ++ ·) ++ "\n"⟩

end Answer

def versionText : String :=
  "impress-cff 0.1.0\n"

def usageText : String :=
  "Usage: impress-cff [OPTIONS] <COMMAND>\n"

def helpText : String :=
  "Validate and render Citation File Format documents\n\n" ++ usageText ++
    "\nCommands:\n" ++
    "  validate  Check that a citation file is well-formed and complete\n" ++
    "  render    Print a formatted citation\n" ++
    "  help      Print this message or the help of the given subcommand(s)\n" ++
    "\nOptions:\n" ++
    "      --config <FILE>  Configuration file " ++
    "(defaults to $IMPRESS_CFF_CONFIG or the user config dir)\n" ++
    "  -h, --help           Print help\n" ++
    "  -V, --version        Print version\n"

def validText (path : String) (validated : Validated) : String :=
  let record := validated.record
  let warnings := validated.warnings.length
  "✓ " ++ path ++ " is valid\n  Title: " ++ record.title ++ "\n  Authors: " ++
    record.authors.length.repr ++ "\n" ++
    (if warnings = 0 then "" else "  Warnings: " ++ warnings.repr ++ "\n")

def validate (configuration : Configuration) (files : Storage.Files) (path : String)
    (strict : Bool) : Answer :=
  let loader : Loader := ⟨configuration.loader.strict || strict⟩
  match loader.loadFile files path with
  | .error error => .failure ("Invalid citation file " ++ path) error.text error.cause?
  | .ok validated => .success (validText path validated)

def render (configuration : Configuration) (files : Storage.Files) (path : String)
    (format : Option Format) : Answer :=
  match configuration.loader.loadFile files path with
  | .error error => .failure ("Failed to load " ++ path) error.text error.cause?
  | .ok validated =>
      .success (validated.record.render (format.getD configuration.render.format)
        configuration.render.authorLimit ++ "\n")

def Invocation.run (invocation : Invocation) (files : Storage.Files)
    (surroundings : Configuration.Surroundings) : Answer :=
  match Configuration.discover files surroundings invocation.configuration with
  | .error error => .failure "Failed to load configuration" error.text error.cause?
  | .ok configuration =>
      match invocation.command with
      | .validate path strict => validate configuration files path strict
      | .render path format => render configuration files path format

def Invocation.paths (invocation : Invocation) (surroundings : Configuration.Surroundings) :
    List String :=
  let path := match invocation.command with
    | .validate path _ => path
    | .render path _ => path
  [invocation.configuration, surroundings.named, surroundings.usual, some path].filterMap id

def run (arguments : List String) (files : Storage.Files)
    (surroundings : Configuration.Surroundings) : Answer :=
  match Request.ofArguments? arguments with
  | none => ⟨2, "", usageText⟩
  | some .help => .success helpText
  | some .version => .success versionText
  | some (.invoke invocation) => invocation.run files surroundings

end CitationFile.CommandLine
