import CitationFile.Configuration
import CitationFile.Proofs.Toml.Range
import CitationFile.Proofs.Toml.WrittenDocument

namespace CitationFile

namespace Toml

private theorem le_of_natural {span : Span} {value : Value} {number : Nat}
    (hranged : value.IsRanged)
    (h : natural span value = .ok number) : (number : Int) ≤ greatestInteger := by
  unfold natural at h
  split at h
  · cases h
    cases hranged with
    | integer hstorable => exact hstorable.2
  · cases h
  · cases h

section Record

variable {expected : String} {fields : List (Field α)} {default : α} {span : Span} {P : α → Prop}

theorem record_nil (origin : Origin) :
    record expected fields default span (.table origin []) = .ok default := rfl

theorem record_cons {origin : Origin} {entry : Key × Placed Value}
    {rest : List (Key × Placed Value)} {field : Field α} {next : α}
    (hfield : fields.find? (·.name = entry.1.text) = some field)
    (hset : ∀ span, field.set default span entry.2.value = .ok next) :
    record expected fields default span (.table origin (entry :: rest)) =
      record expected fields next span (.table origin rest) := by
  simp only [record, List.foldlM_cons, hfield, hset]
  rfl

/-- What each field keeps, whatever its value says, holds of the record that is read. -/
theorem of_record_eq_ok {value : Value} {result : α} (hdefault : P default)
    (hfield : ∀ field ∈ fields, ∀ current, P current → ∀ span value, value.IsRanged →
      ∀ next, field.set current span value = .ok next → P next)
    (hvalue : value.IsRanged) (h : record expected fields default span value = .ok result) :
    P result := by
  have hitems {items : List (Placed Value)} (hranged : ∀ item ∈ items, item.value.IsRanged)
      (hfold : (fields.zip items).foldlM (fun current pair =>
        pair.1.set current (pair.2.span.getD span) pair.2.value) default = .ok result) :
      P result := by
    refine Except.of_foldlM_eq_ok hdefault (fun current hcurrent pair hpair next hnext => ?_) hfold
    obtain ⟨hset, hitem⟩ := List.of_mem_zip hpair
    exact hfield pair.1 hset current hcurrent _ _ (hranged pair.2 hitem) next hnext
  unfold record at h
  split at h
  · cases hvalue with
    | table _ hentries =>
        refine Except.of_foldlM_eq_ok hdefault ?_ h
        intro current hcurrent entry hentry next hnext
        split at hnext
        · rename_i field hfound
          exact hfield field (List.mem_of_find?_eq_some hfound) current hcurrent _ _
            (hentries entry hentry) next hnext
        · cases hnext
          exact hcurrent
  · cases hvalue with
    | array hranged => exact hitems hranged h
  · cases hvalue with
    | tables hranged => exact hitems hranged h
  · cases h
    exact hdefault
  · cases h

end Record

end Toml

namespace Configuration

open Toml

private theorem authorLimit_of_renderFields {settings : RenderSettings} {span : Span}
    {value : Value} (hvalue : value.IsRanged)
    (h : record "struct RenderConfig" renderFields {} span value = .ok settings) :
    (settings.authorLimit : Int) ≤ greatestInteger := by
  refine of_record_eq_ok (P := fun settings : RenderSettings =>
    (settings.authorLimit : Int) ≤ greatestInteger) (by decide) ?_ hvalue h
  intro field hfield current hcurrent span value hranged next hnext
  simp only [renderFields, List.mem_cons, List.not_mem_nil, or_false] at hfield
  obtain rfl | rfl := hfield
  · obtain ⟨format, _, hresult⟩ := Except.bind_eq_ok_iff.mp hnext
    cases hresult
    exact hcurrent
  · obtain ⟨limit, hlimit, hresult⟩ := Except.bind_eq_ok_iff.mp hnext
    cases hresult
    exact le_of_natural hranged hlimit

private theorem authorLimit_of_fields {configuration : Configuration} {span : Span} {value : Value}
    (hvalue : value.IsRanged)
    (h : record "struct CffConfig" fields {} span value = .ok configuration) :
    (configuration.render.authorLimit : Int) ≤ greatestInteger := by
  refine of_record_eq_ok (P := fun configuration : Configuration =>
    (configuration.render.authorLimit : Int) ≤ greatestInteger) (by decide) ?_ hvalue h
  intro field hfield current hcurrent span value hranged next hnext
  simp only [fields, List.mem_cons, List.not_mem_nil, or_false] at hfield
  obtain rfl | rfl := hfield
  · obtain ⟨loader, _, hresult⟩ := Except.bind_eq_ok_iff.mp hnext
    cases hresult
    exact hcurrent
  · obtain ⟨settings, hsettings, hresult⟩ := Except.bind_eq_ok_iff.mp hnext
    cases hresult
    exact authorLimit_of_renderFields hranged hsettings

theorem authorLimit_of_ofText {text : String} {configuration : Configuration}
    (h : ofText text = .ok configuration) :
    2 ≤ configuration.render.authorLimit ∧
      (configuration.render.authorLimit : Int) ≤ greatestInteger := by
  unfold ofText at h
  dsimp only at h
  split at h
  · cases h
  · rename_i root hroot
    unfold ofTable at h
    dsimp only at h
    split at h
    · cases h
    · rename_i read hread
      obtain ⟨_, hcheck, hresult⟩ := Except.bind_eq_ok_iff.mp h
      cases hresult
      refine ⟨?_, authorLimit_of_fields
        (Table.isRanged_placed_iff.mpr (Table.isRanged_ofText hroot)) hread⟩
      unfold check at hcheck
      split at hcheck
      · cases hcheck
      · omega

def loaderGroup (loader : Loader) : Group where
  name := ⟨['l', 'o', 'a', 'd', 'e', 'r'], by decide, by decide⟩
  assignments := [
    { key := ⟨['s', 't', 'r', 'i', 'c', 't'], by decide, by decide⟩
      text := (toString loader.strict).toList
      value := .boolean loader.strict
      written := boolean_isWrittenAs loader.strict }]
  distinct := by simp

private theorem isBasicChar_of_mem_name (format : Format) :
    ∀ c ∈ format.name.toList, isBasicChar c := by
  rw [← List.all_eq_true]
  cases format <;> decide

def renderGroup (settings : RenderSettings)
    (h : (settings.authorLimit : Int) ≤ greatestInteger) : Group where
  name := ⟨['r', 'e', 'n', 'd', 'e', 'r'], by decide, by decide⟩
  assignments := [
    { key := ⟨['d', 'e', 'f', 'a', 'u', 'l', 't', '_', 'f',
        'o', 'r', 'm', 'a', 't'], by decide, by decide⟩
      text := '"' :: (settings.format.name.toList ++ ['"'])
      value := .string (String.ofList settings.format.name.toList)
      written := string_isWrittenAs (isBasicChar_of_mem_name settings.format) },
    { key := ⟨['a', 'p', 'a', '_', 'm', 'a', 'x', '_', 'a',
        'u', 't', 'h', 'o', 'r', 's'], by decide, by decide⟩
      text := settings.authorLimit.repr.toList
      value := .integer settings.authorLimit
      written := natural_isWrittenAs h }]
  distinct := by simp

variable {configuration : Configuration}

def groups (configuration : Configuration)
    (h : (configuration.render.authorLimit : Int) ≤ greatestInteger) : List Group :=
  [loaderGroup configuration.loader, renderGroup configuration.render h]

private theorem toText_of_le (h : (configuration.render.authorLimit : Int) ≤ greatestInteger) :
    configuration.toText = .ok (String.ofList (documentChars (configuration.groups h))) := by
  have hlimit : configuration.render.authorLimit < 0x8000000000000000 := by
    unfold greatestInteger at h
    omega
  rw [toText, if_pos hlimit]
  refine congrArg Except.ok (String.toList_inj.mp ?_)
  simp [documentChars, groups, Group.chars, Assignment.chars, loaderGroup, renderGroup]

theorem exists_toText_iff :
    (∃ text, configuration.toText = .ok text) ↔
      (configuration.render.authorLimit : Int) ≤ greatestInteger := by
  refine ⟨fun ⟨text, htext⟩ => ?_, fun h => ⟨_, toText_of_le h⟩⟩
  unfold toText at htext
  split at htext
  · unfold greatestInteger
    omega
  · cases htext

private theorem record_loader {entries : List (Key × Placed Value)} {loader : Loader}
    (h : Enters Assignment.key Assignment.IsShownBy (loaderGroup loader).assignments entries)
    (span : Span) :
    record "struct LoaderConfig" loaderFields {} span (.table .header entries) = .ok loader := by
  obtain ⟨strict, _, ⟨hkey, hvalue⟩, hrest, rfl⟩ := List.forall₂_cons_left_iff.mp h
  obtain rfl := List.forall₂_nil_left_iff.mp hrest
  calc record "struct LoaderConfig" loaderFields {} span (.table .header [strict])
      = record "struct LoaderConfig" loaderFields loader span (.table .header []) :=
        record_cons (by rw [hkey]; rfl) fun span => by rw [hvalue]; rfl
    _ = .ok loader := record_nil _

private theorem choice_name (format : Format) (span : Span) :
    choice formats span (.string (String.ofList format.name.toList)) = .ok format := by
  cases format <;> rfl

private theorem record_render {entries : List (Key × Placed Value)} {settings : RenderSettings}
    {hlimit : (settings.authorLimit : Int) ≤ greatestInteger}
    (h : Enters Assignment.key Assignment.IsShownBy (renderGroup settings hlimit).assignments
      entries) (span : Span) :
    record "struct RenderConfig" renderFields {} span (.table .header entries) =
      .ok settings := by
  obtain ⟨format, _, ⟨hformatKey, hformat⟩, hfurther, rfl⟩ := List.forall₂_cons_left_iff.mp h
  obtain ⟨limit, _, ⟨hlimitKey, hlimit⟩, hrest, rfl⟩ := List.forall₂_cons_left_iff.mp hfurther
  obtain rfl := List.forall₂_nil_left_iff.mp hrest
  calc record "struct RenderConfig" renderFields {} span (.table .header [format, limit])
      = record "struct RenderConfig" renderFields { format := settings.format } span
          (.table .header [limit]) :=
        record_cons (by rw [hformatKey]; rfl) fun span => by
          rw [hformat]
          exact Except.bind_eq_ok_iff.mpr ⟨_, choice_name settings.format span, rfl⟩
    _ = record "struct RenderConfig" renderFields settings span (.table .header []) :=
        record_cons (by rw [hlimitKey]; rfl) fun span => by rw [hlimit]; rfl
    _ = .ok settings := record_nil _

private theorem record_groups {root : Table}
    {h : (configuration.render.authorLimit : Int) ≤ greatestInteger}
    (hroot : Enters Group.name Group.IsShownBy (configuration.groups h) root.entries)
    (span : Span) :
    record "struct CffConfig" fields {} span root.placed.value = .ok configuration := by
  obtain ⟨origin, entries, _⟩ := root
  obtain ⟨loader, _, ⟨hloaderKey, _, hloader, hloaderShown⟩, hfurther, rfl⟩ :=
    List.forall₂_cons_left_iff.mp hroot
  obtain ⟨render, _, ⟨hrenderKey, _, hrender, hrenderShown⟩, hrest, rfl⟩ :=
    List.forall₂_cons_left_iff.mp hfurther
  obtain rfl := List.forall₂_nil_left_iff.mp hrest
  calc record "struct CffConfig" fields {} span (.table origin [loader, render])
      = record "struct CffConfig" fields { loader := configuration.loader } span
          (.table origin [render]) :=
        record_cons (by rw [hloaderKey]; rfl) fun span => by
          rw [hloader]
          exact Except.bind_eq_ok_iff.mpr ⟨_, record_loader hloaderShown span, rfl⟩
    _ = record "struct CffConfig" fields configuration span (.table origin []) :=
        record_cons (by rw [hrenderKey]; rfl) fun span => by
          rw [hrender]
          exact Except.bind_eq_ok_iff.mpr ⟨_, record_render hrenderShown span, rfl⟩
    _ = .ok configuration := record_nil _

private theorem groups_distinct (h : (configuration.render.authorLimit : Int) ≤ greatestInteger) :
    ((configuration.groups h).map (·.name.chars)).Nodup := by
  simp [groups, loaderGroup, renderGroup]

theorem ofText_toText {text : String} (h : configuration.toText = .ok text) :
    ofText text =
      if 2 ≤ configuration.render.authorLimit then .ok configuration
      else .error .limitOutOfRange := by
  have hlimit := exists_toText_iff.mp ⟨text, h⟩
  obtain rfl : String.ofList (documentChars (configuration.groups hlimit)) = text := by
    rw [toText_of_le hlimit] at h
    cases h
    rfl
  obtain ⟨root, hroot, hentries⟩ := Table.exists_ofText (groups_distinct hlimit)
  rw [ofText, String.toList_ofList]
  simp only [hroot, ofTable, record_groups hentries, check]
  by_cases hleast : 2 ≤ configuration.render.authorLimit
  · rw [if_neg (by omega), if_pos hleast]
    rfl
  · rw [if_pos (by omega), if_neg hleast]
    rfl

/-- Writing and reading agree on all limits from two up to the greatest integer. -/
theorem round_trip (configuration : Configuration) :
    ((∃ text, configuration.toText = .ok text) ↔
        configuration.render.authorLimit ≤ 2 ^ 63 - 1) ∧
      (∀ text, configuration.toText = .ok text →
        ofText text =
          if 2 ≤ configuration.render.authorLimit then .ok configuration
          else .error .limitOutOfRange) ∧
      ∀ text, ofText text = .ok configuration →
        2 ≤ configuration.render.authorLimit ∧ configuration.render.authorLimit ≤ 2 ^ 63 - 1 ∧
          ∃ written, configuration.toText = .ok written ∧ ofText written = .ok configuration := by
  have hgreatest : (configuration.render.authorLimit : Int) ≤ greatestInteger ↔
      configuration.render.authorLimit ≤ 2 ^ 63 - 1 := by
    unfold greatestInteger
    omega
  refine ⟨exists_toText_iff.trans hgreatest, fun text => ofText_toText, fun text hread => ?_⟩
  obtain ⟨hleast, hlimit⟩ := authorLimit_of_ofText hread
  obtain ⟨written, hwritten⟩ := exists_toText_iff.mpr hlimit
  refine ⟨hleast, hgreatest.mp hlimit, written, hwritten, ?_⟩
  rw [ofText_toText hwritten, if_pos hleast]

def roomyConfiguration : Configuration :=
  { loader := { strict := true }, render := { format := .bibtex, authorLimit := 2 ^ 63 - 1 } }

/-- The greatest limit of all, in hexadecimal digits. -/
def roomyText : String :=
  "[render]\napa_max_authors = 0x7FFF_FFFF_FFFF_FFFF # all of them\n" ++
    "default_format = 'bibtex'\n[loader]\nstrict = true\n"

def roomyWritten : String :=
  "[loader]\nstrict = true\n\n[render]\ndefault_format = \"bibtex\"\n" ++
    "apa_max_authors = 9223372036854775807\n"

theorem roomyText_round_trip :
    ofText roomyText = .ok roomyConfiguration ∧
      roomyConfiguration.toText = .ok roomyWritten ∧
      ofText roomyWritten = .ok roomyConfiguration := by
  have hread : ofText roomyText = .ok roomyConfiguration := by decide +kernel
  have hwritten : roomyConfiguration.toText = .ok roomyWritten := by decide +kernel
  have hleast := ((round_trip roomyConfiguration).2.2 roomyText hread).1
  refine ⟨hread, hwritten, ?_⟩
  rw [(round_trip roomyConfiguration).2.1 roomyWritten hwritten, if_pos hleast]

end Configuration

end CitationFile
