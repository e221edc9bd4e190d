import CitationFile.Loading
import CitationFile.Render
import CitationFile.Toml.Document
import CitationFile.Toml.Excerpt
import CitationFile.Toml.Typed

namespace CitationFile

structure RenderSettings where
  format : Format := .apa
  authorLimit : Nat := defaultAuthorLimit
deriving DecidableEq, Repr

structure Configuration where
  loader : Loader := {}
  render : RenderSettings := {}
deriving DecidableEq, Repr

inductive ConfigurationError where
  | unreadable (path : String) (fault : Storage.Fault)
  | malformed (message : String)
  | limitOutOfRange
deriving DecidableEq, Repr

namespace ConfigurationError

def text : ConfigurationError → String
  | unreadable path fault => "Failed to read config " ++ path ++ ": " ++ fault.text
  | malformed message => "TOML parse error: " ++ message
  | limitOutOfRange => "Value out of range: render.apa_max_authors must be at least 2"

def cause? : ConfigurationError → Option String
  | unreadable _ fault => some fault.text
  | malformed message => some message
  | limitOutOfRange => none

end ConfigurationError

namespace Configuration

def loaderFields : List (Toml.Field Loader) :=
  [⟨"strict", fun loader span value => do
      return { loader with strict := ← Toml.boolean span value }⟩]

def formats : List (String × Format) :=
  Format.all.map fun format => (format.name, format)

def renderFields : List (Toml.Field RenderSettings) :=
  [⟨"default_format", fun settings span value => do
      return { settings with format := ← Toml.choice formats span value }⟩,
    ⟨"apa_max_authors", fun settings span value => do
      return { settings with authorLimit := ← Toml.natural span value }⟩]

def fields : List (Toml.Field Configuration) :=
  [⟨"loader", fun configuration span value => do
      let loader ← Toml.record "struct LoaderConfig" loaderFields {} span value
      return { configuration with loader }⟩,
    ⟨"render", fun configuration span value => do
      let render ← Toml.record "struct RenderConfig" renderFields {} span value
      return { configuration with render }⟩]

def check (configuration : Configuration) : Except ConfigurationError Unit :=
  if configuration.render.authorLimit < 2 then .error .limitOutOfRange else .ok ()

/-- The flaw takes up the character before which it stands. -/
def flawSpan (rest : List Char) : Toml.Span :=
  ⟨rest.length, rest.length - 1⟩

def ofTable (source : List Char) (root : Toml.Table) : Except ConfigurationError Configuration :=
  let span : Toml.Span := ⟨source.length, 0⟩
  match Toml.record "struct CffConfig" fields {} span root.placed.value with
  | .error (mismatch, span) => .error (.malformed (Toml.messageAt source span mismatch.text))
  | .ok configuration => do
      configuration.check
      return configuration

def ofText (text : String) : Except ConfigurationError Configuration :=
  let source := text.toList
  match Toml.Table.ofText source with
  | .error (flaw, rest) =>
      .error (.malformed (Toml.messageAt source (flawSpan rest) flaw.text))
  | .ok root => ofTable source root

inductive WriteError where
  /-- Integers in TOML have 64 bits, one of which is the sign. -/
  | limitTooLarge
deriving DecidableEq, Repr

def WriteError.text : WriteError → String
  | limitTooLarge => "out-of-range value for u64 type"

def toText (configuration : Configuration) : Except WriteError String :=
  if configuration.render.authorLimit < 0x8000000000000000 then
    .ok ("[loader]\nstrict = " ++ toString configuration.loader.strict ++
      "\n\n[render]\ndefault_format = \"" ++ configuration.render.format.name ++
      "\"\napa_max_authors = " ++ configuration.render.authorLimit.repr ++ "\n")
  else .error .limitTooLarge

def ofFile (files : Storage.Files) (path : String) : Except ConfigurationError Configuration :=
  match files path with
  | .error fault => .error (.unreadable path fault)
  | .ok text => ofText text

structure Surroundings where
  /-- The file that the environment names. -/
  named : Option String := none
  /-- The file that counts if it exists. -/
  usual : Option String := none
deriving DecidableEq, Repr

def path? (files : Storage.Files) (surroundings : Surroundings) (explicit : Option String) :
    Option String :=
  explicit <|> surroundings.named <|> surroundings.usual.filter files.isFile

def discover (files : Storage.Files) (surroundings : Surroundings) (explicit : Option String) :
    Except ConfigurationError Configuration :=
  match path? files surroundings explicit with
  | some path => ofFile files path
  | none => .ok {}

end Configuration

end CitationFile
