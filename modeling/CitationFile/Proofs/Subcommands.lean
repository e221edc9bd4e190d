import CitationFile.CommandLine
import CitationFile.Proofs.Strictness

/-! Runs of the command line against each other. Rendering a file succeeds exactly where validating
it does, strict validation only where the usual one does and with the same output, and a run that
fails prints nothing. -/

namespace CitationFile

namespace Loader

private theorem validate_of_strict {root : Yaml.Value} {validated : Validated} (loader : Loader)
    (h : Loader.validate ⟨true⟩ root = .ok validated) : loader.validate root = .ok validated := by
  cases hdocument : Validated.ofDocument root with
  | error report => simp [validate, hdocument] at h
  | ok found =>
      rw [validate_strict hdocument] at h
      split at h
      · rename_i hwarnings
        cases h
        cases loader with
        | mk strict =>
            cases strict with
            | true => rw [validate_strict hdocument, if_pos hwarnings]
            | false => exact validate_lenient_eq_ok_iff.mpr hdocument
      · cases h

theorem loadFile_of_strict {files : Storage.Files} {path : String} {validated : Validated}
    (loader : Loader) (h : Loader.loadFile ⟨true⟩ files path = .ok validated) :
    loader.loadFile files path = .ok validated := by
  unfold loadFile loadText at h ⊢
  cases hfile : files path with
  | error fault => simp [hfile] at h
  | ok source =>
      cases hparse : Document.parse source with
      | error failure => simp [hfile, hparse] at h
      | ok root =>
          simp only [hfile, hparse] at h ⊢
          exact validate_of_strict loader h

end Loader

namespace CommandLine

variable {files : Storage.Files} {surroundings : Configuration.Surroundings}

/-- The settings and the document that a command on a file works with. -/
structure Loads (files : Storage.Files) (surroundings : Configuration.Surroundings)
    (configuration : Option String) (path : String) (strict : Bool) (settings : Configuration)
    (validated : Validated) : Prop where
  discovered : Configuration.discover files surroundings configuration = .ok settings
  loaded : Loader.loadFile ⟨settings.loader.strict || strict⟩ files path = .ok validated

section Loads

variable {configuration : Option String} {path : String} {strict : Bool} {format : Option Format}
variable {settings : Configuration} {validated : Validated}

theorem Loads.run_validate
    (h : Loads files surroundings configuration path strict settings validated) :
    Invocation.run ⟨configuration, .validate path strict⟩ files surroundings =
      .success (validText path validated) := by
  simp [Invocation.run, validate, h.discovered, h.loaded]

theorem Loads.run_render
    (h : Loads files surroundings configuration path false settings validated) :
    Invocation.run ⟨configuration, .render path format⟩ files surroundings =
      .success (validated.record.render (format.getD settings.render.format)
        settings.render.authorLimit ++ "\n") := by
  have hloaded := h.loaded
  rw [Bool.or_false] at hloaded
  simp [Invocation.run, render, h.discovered, hloaded]

theorem exists_loads_of_validate
    (h : (Invocation.run ⟨configuration, .validate path strict⟩ files surroundings).exitCode = 0) :
    ∃ settings validated,
      Loads files surroundings configuration path strict settings validated := by
  unfold Invocation.run at h
  cases hdiscover : Configuration.discover files surroundings configuration with
  | error error => simp [hdiscover, Answer.failure] at h
  | ok settings =>
      cases hload : Loader.loadFile ⟨settings.loader.strict || strict⟩ files path with
      | error error => simp [hdiscover, validate, hload, Answer.failure] at h
      | ok validated => exact ⟨settings, validated, hdiscover, hload⟩

theorem exists_loads_of_render
    (h : (Invocation.run ⟨configuration, .render path format⟩ files surroundings).exitCode = 0) :
    ∃ settings validated, Loads files surroundings configuration path false settings validated := by
  unfold Invocation.run at h
  cases hdiscover : Configuration.discover files surroundings configuration with
  | error error => simp [hdiscover, Answer.failure] at h
  | ok settings =>
      cases hload : settings.loader.loadFile files path with
      | error error => simp [hdiscover, render, hload, Answer.failure] at h
      | ok validated => exact ⟨settings, validated, hdiscover, by rwa [Bool.or_false]⟩

theorem Loads.lenient (h : Loads files surroundings configuration path true settings validated) :
    Loads files surroundings configuration path false settings validated := by
  have hloaded := h.loaded
  rw [Bool.or_true] at hloaded
  exact ⟨h.discovered, Loader.loadFile_of_strict _ hloaded⟩

end Loads

private theorem Invocation.output_of_exitCode_ne_zero {invocation : Invocation}
    (h : (invocation.run files surroundings).exitCode ≠ 0) :
    (invocation.run files surroundings).output = "" := by
  obtain ⟨configuration, command⟩ := invocation
  cases hdiscover : Configuration.discover files surroundings configuration with
  | error error => simp [run, hdiscover, Answer.failure]
  | ok settings =>
      cases command with
      | validate path strict =>
          cases hload : Loader.loadFile ⟨settings.loader.strict || strict⟩ files path with
          | error error => simp [run, hdiscover, validate, hload, Answer.failure]
          | ok validated => simp [run, hdiscover, validate, hload, Answer.success] at h
      | render path format =>
          cases hload : settings.loader.loadFile files path with
          | error error => simp [run, hdiscover, render, hload, Answer.failure]
          | ok validated => simp [run, hdiscover, render, hload, Answer.success] at h

theorem output_of_exitCode_ne_zero {arguments : List String}
    (h : (run arguments files surroundings).exitCode ≠ 0) :
    (run arguments files surroundings).output = "" := by
  unfold run at h ⊢
  cases hrequest : Request.ofArguments? arguments with
  | none => rfl
  | some request =>
      rw [hrequest] at h
      cases request with
      | help => simp [Answer.success] at h
      | version => simp [Answer.success] at h
      | invoke invocation => exact Invocation.output_of_exitCode_ne_zero h

/-! Any invocation can be written as arguments. -/

def Verb.name : Verb → String
  | .validate => "validate"
  | .render => "render"

namespace Command

def verb : Command → Verb
  | .validate .. => .validate
  | .render .. => .render

def path : Command → String
  | .validate path _ => path
  | .render path _ => path

def options : Command → List String
  | .validate _ strict => if strict then ["--strict"] else []
  | .render _ format => (format.map ("--format=" ++ ·.name)).toList

end Command

/-- Arguments that make an invocation; the path stands last, where it may look like an option. -/
def Invocation.arguments (invocation : Invocation) : List String :=
  invocation.command.verb.name ::
    ((invocation.configuration.map ("--config=" ++ ·)).toList ++
      (invocation.command.options ++ ["--", invocation.command.path]))

section Reading

variable {given : Given} {path : String}

private theorem read_path (verb : Verb) (hpath : path ≠ "") (hgiven : given.path = none) :
    given.read (some verb) ["--", path] = .more ({ given with path := some path }, []) := by
  simp [Given.read, Given.setPath, hpath, hgiven]

private theorem read_configuration (verb : Verb) (hpath : path ≠ "")
    (hgiven : given.configuration = none) (rest : List String) :
    given.read (some verb) (("--config=" ++ path) :: rest) =
      Given.read { given with configuration := some path } (some verb) rest := by
  have hoption : isOption ("--config=" ++ path) := by simp [isOption]
  have hsplit : splitEquals ("--config=" ++ path) = ("--config", some path) := by
    simp [splitEquals]
  have hdashes : "--config=" ++ path ≠ "--" := by
    intro heq
    simpa using congrArg String.toList heq
  rw [Given.read.eq_def]
  simp [hoption, hsplit, hdashes, Given.option?, Given.setConfiguration, hgiven, hpath,
    Given.read.onward]

private theorem read_strict (hgiven : given.strict = false) (rest : List String) :
    given.read (some .validate) ("--strict" :: rest) =
      Given.read { given with strict := true } (some .validate) rest := by
  have hsplit : splitEquals "--strict" = ("--strict", none) := by decide
  rw [Given.read.eq_def]
  simp [isOption, hsplit, Given.option?, Given.flag, hgiven, Given.read.onward]

private theorem read_format (format : Format) (hgiven : given.format = none) (rest : List String) :
    given.read (some .render) (("--format=" ++ format.name) :: rest) =
      Given.read { given with format := some format } (some .render) rest := by
  have hsplit : splitEquals ("--format=" ++ format.name) = ("--format", some format.name) := by
    cases format <;> decide
  have hoption : isOption ("--format=" ++ format.name) := by cases format <;> decide
  have hdashes : "--format=" ++ format.name ≠ "--" := by cases format <;> decide
  have hname : Format.ofName? format.name = some format := by cases format <;> decide
  rw [Given.read.eq_def]
  simp [hoption, hsplit, hdashes, Given.option?, Given.setFormat, hgiven, hname,
    Given.read.onward]

private theorem read_verb (verb : Verb) (rest : List String) :
    Given.read {} none (verb.name :: rest) = .more ({}, verb.name :: rest) := by
  have hoption : isOption verb.name = false := by cases verb <;> decide
  have hdashes : verb.name ≠ "--" := by cases verb <;> decide
  simp [Given.read, hoption, hdashes]

private theorem exists_read_command {command : Command} (hpath : command.path ≠ "")
    (configuration : Option String) :
    ∃ given, Given.read { configuration } (some command.verb)
        (command.options ++ ["--", command.path]) = .more (given, []) ∧
      given.configuration = configuration ∧ given.command? command.verb = some command := by
  cases command with
  | validate path strict =>
      cases strict with
      | false => exact ⟨_, read_path .validate hpath rfl, rfl, rfl⟩
      | true => exact ⟨_, (read_strict rfl _).trans (read_path .validate hpath rfl), rfl, rfl⟩
  | render path format =>
      cases format with
      | none => exact ⟨_, read_path .render hpath rfl, rfl, rfl⟩
      | some format =>
          exact ⟨_, (read_format format rfl _).trans (read_path .render hpath rfl), rfl, rfl⟩

end Reading

private theorem ofVerb?_of_read {verb : Verb} {rest : List String} {given : Given}
    {command : Command} (hread : Given.read {} (some verb) rest = .more (given, []))
    (hcommand : given.command? verb = some command) :
    Request.ofVerb? {} verb.name rest = some (.invoke ⟨given.configuration, command⟩) := by
  have hname : Verb.ofName? verb.name = some verb := by cases verb <;> rfl
  have hhelp : verb.name ≠ "help" := by cases verb <;> decide
  simp [Request.ofVerb?, hhelp, hname, hread, hcommand]

theorem ofArguments?_arguments {invocation : Invocation} (hpath : invocation.command.path ≠ "")
    (hconfiguration : invocation.configuration ≠ some "") :
    Request.ofArguments? invocation.arguments = some (.invoke invocation) := by
  obtain ⟨configuration, command⟩ := invocation
  obtain ⟨given, hread, hgiven, hcommand⟩ := exists_read_command hpath configuration
  have hverb : ∀ rest, Request.ofArguments? (command.verb.name :: rest) =
      Request.ofVerb? {} command.verb.name rest := by
    intro rest
    rw [Request.ofArguments?, read_verb]
  refine (hverb _).trans ?_
  subst hgiven
  cases hfile : given.configuration with
  | none =>
      rw [hfile] at hread
      have hanswer := ofVerb?_of_read hread hcommand
      rwa [hfile] at hanswer
  | some file =>
      have hname : file ≠ "" := by
        rintro rfl
        exact hconfiguration hfile
      rw [hfile] at hread
      have hanswer :=
        ofVerb?_of_read ((read_configuration command.verb hname rfl _).trans hread) hcommand
      rwa [hfile] at hanswer

theorem run_of_ofArguments? {arguments : List String} {invocation : Invocation}
    (h : Request.ofArguments? arguments = some (.invoke invocation)) :
    run arguments files surroundings = invocation.run files surroundings := by
  rw [run, h]

/-- Whatever the arguments are in which the three commands are given for the same file and the same
configuration, they agree: rendering succeeds where validating does, and prints the record that was
validated; strict validating succeeds only where the other does, with the same output. No run that
fails prints anything. -/
theorem subcommands_agree {validating strictly rendering : List String}
    {configuration : Option String} {path : String} {format : Option Format}
    (hvalidating : Request.ofArguments? validating =
      some (.invoke ⟨configuration, .validate path false⟩))
    (hstrictly : Request.ofArguments? strictly =
      some (.invoke ⟨configuration, .validate path true⟩))
    (hrendering : Request.ofArguments? rendering =
      some (.invoke ⟨configuration, .render path format⟩))
    (files : Storage.Files) (surroundings : Configuration.Surroundings) :
    ((run rendering files surroundings).exitCode = 0 ↔
        (run validating files surroundings).exitCode = 0) ∧
      ((run rendering files surroundings).exitCode = 0 → ∃ settings validated,
        Configuration.discover files surroundings configuration = .ok settings ∧
        settings.loader.loadFile files path = .ok validated ∧
        (run validating files surroundings).output = validText path validated ∧
        (run rendering files surroundings).output =
          validated.record.render (format.getD settings.render.format)
            settings.render.authorLimit ++ "\n") ∧
      ((run strictly files surroundings).exitCode = 0 →
        (run validating files surroundings).exitCode = 0 ∧
        (run validating files surroundings).output = (run strictly files surroundings).output) ∧
      ∀ arguments, (run arguments files surroundings).exitCode ≠ 0 →
        (run arguments files surroundings).output = "" := by
  rw [run_of_ofArguments? hvalidating, run_of_ofArguments? hstrictly,
    run_of_ofArguments? hrendering]
  refine ⟨⟨fun h => ?_, fun h => ?_⟩, fun h => ?_, fun h => ?_, fun _ => output_of_exitCode_ne_zero⟩
  · obtain ⟨settings, validated, hloads⟩ := exists_loads_of_render h
    rw [hloads.run_validate]
    rfl
  · obtain ⟨settings, validated, hloads⟩ := exists_loads_of_validate h
    rw [hloads.run_render]
    rfl
  · obtain ⟨settings, validated, hloads⟩ := exists_loads_of_render h
    have hloaded := hloads.loaded
    rw [Bool.or_false] at hloaded
    exact ⟨settings, validated, hloads.discovered, hloaded,
      congrArg Answer.output hloads.run_validate, congrArg Answer.output hloads.run_render⟩
  · obtain ⟨settings, validated, hloads⟩ := exists_loads_of_validate h
    rw [hloads.run_validate, hloads.lenient.run_validate]
    exact ⟨rfl, rfl⟩

/-- A file that raises a warning, and settings for another format than the usual one. -/
def doubtfulFiles : Storage.Files := fun path =>
  if path = "CITATION.cff" then
    .ok "cff-version: 2.0.0\nmessage: m\ntitle: t\nauthors:\n  - name: X\n"
  else if path = "settings.toml" then .ok "[render]\ndefault_format = \"bibtex\"\n"
  else .error .notFound

def lenientCommand : Invocation := ⟨some "settings.toml", .validate "CITATION.cff" false⟩

def strictCommand : Invocation := ⟨some "settings.toml", .validate "CITATION.cff" true⟩

def renderCommand : Invocation := ⟨some "settings.toml", .render "CITATION.cff" none⟩

theorem doubtfulFiles_subcommands_agree :
    Request.ofArguments? lenientCommand.arguments = some (.invoke lenientCommand) ∧
      Request.ofArguments? strictCommand.arguments = some (.invoke strictCommand) ∧
      Request.ofArguments? renderCommand.arguments = some (.invoke renderCommand) ∧
      (run lenientCommand.arguments doubtfulFiles {}).exitCode = 0 ∧
      (run renderCommand.arguments doubtfulFiles {}).exitCode = 0 ∧
      (∃ settings validated,
        Configuration.discover doubtfulFiles {} (some "settings.toml") = .ok settings ∧
        settings.loader.loadFile doubtfulFiles "CITATION.cff" = .ok validated ∧
        (run lenientCommand.arguments doubtfulFiles {}).output =
          validText "CITATION.cff" validated ∧
        (run renderCommand.arguments doubtfulFiles {}).output =
          validated.record.render (Option.getD none settings.render.format)
            settings.render.authorLimit ++ "\n") ∧
      (run strictCommand.arguments doubtfulFiles {}).exitCode = 1 ∧
      (run strictCommand.arguments doubtfulFiles {}).output = "" := by
  have hlenient : Request.ofArguments? lenientCommand.arguments = some (.invoke lenientCommand) :=
    ofArguments?_arguments (by decide) (by decide)
  have hstrict : Request.ofArguments? strictCommand.arguments = some (.invoke strictCommand) :=
    ofArguments?_arguments (by decide) (by decide)
  have hrender : Request.ofArguments? renderCommand.arguments = some (.invoke renderCommand) :=
    ofArguments?_arguments (by decide) (by decide)
  have hvalid : (run lenientCommand.arguments doubtfulFiles {}).exitCode = 0 := by
    rw [run_of_ofArguments? hlenient]
    decide +kernel
  have hrefused : (run strictCommand.arguments doubtfulFiles {}).exitCode = 1 := by
    rw [run_of_ofArguments? hstrict]
    decide +kernel
  obtain ⟨hiff, hrendered, -, hsilent⟩ :=
    subcommands_agree hlenient hstrict hrender doubtfulFiles {}
  have hdone := hiff.mpr hvalid
  refine ⟨hlenient, hstrict, hrender, hvalid, hdone, hrendered hdone, hrefused, ?_⟩
  exact hsilent strictCommand.arguments (by simp [hrefused])

end CommandLine

end CitationFile
