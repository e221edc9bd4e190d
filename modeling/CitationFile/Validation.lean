import CitationFile.Schema.Citation

namespace CitationFile

structure Validated where
  record : Record
  warnings : List Issue
deriving DecidableEq, Repr

namespace Validated

def ofChecked : Schema.Checked Record → Except Report Validated
  | .accepted record cautions => .ok ⟨record, cautions.map Schema.Caution.issue⟩
  | .rejected first others => .error ⟨(first :: others).map Schema.Problem.issue⟩

/-- Lenient validation: warnings do not keep a document from being accepted. -/
def ofDocument (root : Yaml.Value) : Except Report Validated :=
  ofChecked (Schema.document root)

/-- Strictness turns warnings into errors. -/
def demand (strict : Bool) (validated : Validated) : Except Report Validated :=
  if strict ∧ validated.warnings ≠ [] then .error ⟨validated.warnings.map Issue.asError⟩
  else .ok validated

end Validated

end CitationFile
