import CitationFile.Configuration

namespace CitationFile

structure Session where
  configuration : Configuration := {}
  record : Option Record := none
deriving DecidableEq, Repr

namespace Session

def configure (session : Session) (text : String) : Except ConfigurationError Session :=
  (Configuration.ofText text).map fun configuration => { session with configuration }

/-- Loads a text as the configuration has it; the record replaces the one before. -/
def load (session : Session) (text : String) : Except LoadError (Session × Validated) :=
  (session.configuration.loader.loadText text).map fun validated =>
    ({ session with record := some validated.record }, validated)

def render? (session : Session) (format : Option Format) : Option String :=
  session.record.map fun record =>
    record.render (format.getD session.configuration.render.format)
      session.configuration.render.authorLimit

def entry? (session : Session) : Option Bibtex.Entry :=
  session.record.map Bibtex.Entry.ofRecord

end Session

end CitationFile
