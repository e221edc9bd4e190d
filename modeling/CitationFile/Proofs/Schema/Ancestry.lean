import CitationFile.Proofs.Schema.Distinct

/-! What a report references. The text of a path tells its steps, so it leads to one place only; a
report references the text exactly if this place is that of an issue, or lies above it. -/

namespace CitationFile

namespace Schema

theorem Path.IsAddress.of_isPrefix {above path : Path} (h : path.IsAddress) (habove : above ≠ [])
    (hleads : above <+: path) : above.IsAddress := by
  obtain ⟨rest, rfl⟩ := hleads
  match above, habove, h with
  | .key name :: inner, _, h => exact fun step hstep => h step (List.mem_append_left rest hstep)

private theorem isBelow_of_isBelow {issue : Issue} {above path : Path} (h : issue.isBelow path.text)
    (habove : above ≠ []) (hleads : above <+: path) : issue.isBelow above.text := by
  obtain ⟨rest, rfl⟩ := hleads
  obtain ⟨tail, htail, heq⟩ := Issue.isBelow_iff.mp h
  rw [Path.toList_text_append habove, List.append_assoc] at heq
  exact Issue.isBelow_iff.mpr ⟨_, opensWithMark_flatMap htail, heq⟩

end Schema

open Schema (Path)

namespace Report

/-- The issues are anchored at the texts of some addresses, one by one. -/
structure IsAt (report : Report) (paths : List Path) : Prop where
  address : ∀ path ∈ paths, path.IsAddress
  anchored : report.issues.map Issue.path = paths.map Path.text

section References

variable {report : Report} {paths : List Path} {above path : Path}

private theorem IsAt.exists_path (h : report.IsAt paths) {issue : Issue}
    (hissue : issue ∈ report.issues) :
    ∃ path ∈ paths, issue.path = path.text := by
  have hmem : issue.path ∈ paths.map Path.text := h.anchored ▸ List.mem_map_of_mem hissue
  obtain ⟨path, hpath, htext⟩ := List.mem_map.mp hmem
  exact ⟨path, hpath, htext.symm⟩

private theorem IsAt.exists_issue (h : report.IsAt paths) (hpath : path ∈ paths) :
    ∃ issue ∈ report.issues, issue.path = path.text := by
  have hmem : path.text ∈ report.issues.map Issue.path := h.anchored ▸ List.mem_map_of_mem hpath
  exact List.mem_map.mp hmem

theorem IsAt.references_text_iff (h : report.IsAt paths) (habove : above.IsAddress) :
    report.references above.text ↔ ∃ path ∈ paths, above <+: path := by
  rw [references, List.any_eq_true]
  constructor
  · rintro ⟨issue, hissue, hbelow⟩
    obtain ⟨path, hpath, htext⟩ := h.exists_path hissue
    have hleads := (Schema.isBelow_text_iff htext (h.address path hpath) habove).mp hbelow
    exact ⟨path, hpath, hleads⟩
  · rintro ⟨path, hpath, hleads⟩
    obtain ⟨issue, hissue, htext⟩ := h.exists_issue hpath
    have hbelow := (Schema.isBelow_text_iff htext (h.address path hpath) habove).mpr hleads
    exact ⟨issue, hissue, hbelow⟩

theorem references_of_isPrefix (h : report.references path.text) (habove : above ≠ [])
    (hleads : above <+: path) : report.references above.text := by
  obtain ⟨issue, hissue, hbelow⟩ := List.any_eq_true.mp h
  exact List.any_eq_true.mpr ⟨issue, hissue, Schema.isBelow_of_isBelow hbelow habove hleads⟩

/-- A report references the addresses of its issues and what lies above them, and nothing else. No
two addresses have the same text, and with an address all that lies above it is referenced. -/
theorem references_iff_leads_to_issue (h : report.IsAt paths) :
    (∀ above : Path, above.IsAddress →
      (report.references above.text ↔ ∃ path ∈ paths, above <+: path)) ∧
      (∀ left right : Path, left.IsAddress → right.IsAddress →
        left.text = right.text → left = right) ∧
      ∀ path above : Path, path.IsAddress → above ≠ [] → above <+: path →
        above.IsAddress ∧ (report.references path.text → report.references above.text) := by
  refine ⟨fun above => h.references_text_iff, fun left right => Schema.Path.text_inj, ?_⟩
  intro path above hpath habove hleads
  exact ⟨hpath.of_isPrefix habove hleads,
    fun hreferences => references_of_isPrefix hreferences habove hleads⟩

end References

end Report

namespace Validated

theorem isAt_of_ofDocument {root : Yaml.Value} {report : Report}
    {entries : List (Yaml.Value × Yaml.Value)} (hroot : root.mapping? = some entries)
    (h : ofDocument root = .error report) :
    report.IsAt ((Schema.record ⟨[], entries⟩).problems.map Schema.Problem.path) := by
  have hissues : report.issues =
      (Schema.record ⟨[], entries⟩).problems.map Schema.Problem.issue := by
    rw [← Schema.document_eq_record hroot, ← errors_ofDocument, h]
    rfl
  constructor
  · intro path hpath
    obtain ⟨problem, hproblem, rfl⟩ := List.mem_map.mp hpath
    exact (Schema.record_isAddress entries).1 problem hproblem
  · rw [hissues, List.map_map, List.map_map]
    rfl

/-- The eleventh author has no name, and the type of the identifier is unknown. -/
def crowdedEntries : List (Yaml.Value × Yaml.Value) :=
  [(.string "cff-version", .string "1.2.0"), (.string "message", .string "M"),
    (.string "title", .string "T"),
    (.string "authors", .sequence
      (List.replicate 10 (.mapping [(.string "name", .string "X")]) ++ [.mapping []])),
    (.string "identifiers", .sequence
      [.mapping [(.string "type", .string "ftp"), (.string "value", .string "V")]])]

def crowdedReport : Report :=
  ⟨[⟨"authors[10]", "must have either `name` or `family-names`", .error⟩,
    ⟨"identifiers[0].type",
      "unknown identifier type 'ftp'; expected one of url, doi, swh, other", .error⟩]⟩

theorem crowdedReport_references :
    ofDocument (.mapping crowdedEntries) = .error crowdedReport ∧
      crowdedReport.IsAt [[.key "authors", .item 10],
        [.key "identifiers", .item 0, .key "type"]] ∧
      crowdedReport.references "authors[10]" ∧ ¬ crowdedReport.references "authors[1]" ∧
      crowdedReport.references "identifiers" ∧ ¬ crowdedReport.references "identifier" := by
  have hreport : ofDocument (.mapping crowdedEntries) = .error crowdedReport := by
    decide +kernel
  have hproblems : (Schema.record ⟨[], crowdedEntries⟩).problems.map Schema.Problem.path =
      [[.key "authors", .item 10], [.key "identifiers", .item 0, .key "type"]] := by
    decide +kernel
  have hat := hproblems ▸ isAt_of_ofDocument rfl hreport
  obtain ⟨hiff, -, -⟩ := Report.references_iff_leads_to_issue hat
  have hauthor := hiff [.key "authors", .item 10] (by decide)
  have hother := hiff [.key "authors", .item 1] (by decide)
  have hlist := hiff [.key "identifiers"] (by decide)
  have hsingular := hiff [.key "identifier"] (by decide)
  exact ⟨hreport, hat, hauthor.mpr (by decide), hother.not.mpr (by decide),
    hlist.mpr (by decide), hsingular.not.mpr (by decide)⟩

end Validated

end CitationFile
