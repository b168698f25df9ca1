import Mathlib.Data.List.Basic
import Mathlib.Data.Option.Basic
import ScadText.Proofs.Json.Ascii
import ScadText.Proofs.Report.Append

/-!
# Findings as records

What is written in JSON for several files is ASCII and tells each finding with the path of its file.
Nothing else is in it, so it is the same for the same findings in the same order, and only for
these.

## Main definitions

* `Finding.ofRecord?`: the finding which a record tells.
* `Report.located`: the findings of a file with the text of its path.

## Main statements

* `Finding.ofRecord?_record`: every finding is told by its record.
* `OutputFormat.json_lossless`: what is written for the findings of several files.
-/

namespace ScadText

open Json

/-! ## Reading a finding -/

/-- The text which a record holds under a name. -/
def Json.Record.text? (record : Record) (name : String) : Option String :=
  match record.lookup name.toList with
  | some (.text value) => some (String.ofList value)
  | _ => none

/-- The number which a record holds under a name. -/
def Json.Record.integer? (record : Record) (name : String) : Option Int :=
  match record.lookup name.toList with
  | some (.integer value) => some value
  | _ => none

def Severity.ofName? : String → Option Severity
  | "warning" => some .warning
  | "error" => some .error
  | _ => none

/-- The finding which a record tells, after the text of the path of its file. The record has these
eight fields and no others. -/
def Finding.ofRecord? (record : Record) : Option (String × Finding) := do
  guard (record.length = 8)
  let severity ← Severity.ofName? (← record.text? "severity")
  return (← record.text? "file",
    ⟨severity, ← record.text? "code", ← record.text? "message", ← record.integer? "line",
      ← record.integer? "column", ← record.integer? "end_line", ← record.integer? "end_column"⟩)

theorem Severity.ofName?_name (severity : Severity) : ofName? severity.name = some severity := by
  cases severity <;> rfl

/-- Every finding is told by its record. -/
theorem Finding.ofRecord?_record (path : Path) (finding : Finding) :
    ofRecord? (finding.record path) = some (path.render, finding) := by
  simp [ofRecord?, record, Record.text?, Record.integer?, List.lookup_cons,
    Severity.ofName?_name, guard]

/-! ## Several files -/

/-- The findings of a report, each after the text of the path. -/
def Report.located (report : Report) : List (String × Finding) :=
  report.findings.map fun finding => (report.path.render, finding)

theorem Path.render_relative (name : String) : (Path.mk .relative [name]).render = name := by
  simp [render, Anchor.text]

/-- Of the path of its file a record holds the text alone. -/
theorem Finding.record_eq (path : Path) (finding : Finding) :
    finding.record path = finding.record ⟨.relative, [path.render]⟩ := by
  rw [record, record, Path.render_relative]

theorem Report.records_eq (report : Report) :
    report.records =
      report.located.map fun (name, finding) => finding.record ⟨.relative, [name]⟩ := by
  rw [records, located, List.map_map]
  exact List.map_congr_left fun finding _ => finding.record_eq report.path

theorem Report.map_ofRecord?_records (report : Report) :
    report.records.map Finding.ofRecord? = report.located.map some := by
  simp [records, located, Finding.ofRecord?_record]

variable {reports others : List Report}

/-- The records of several files tell their findings. -/
theorem Report.map_ofRecord?_flatMap_records (reports : List Report) :
    (reports.flatMap records).map Finding.ofRecord? = (reports.flatMap located).map some := by
  simp only [List.map_flatMap, map_ofRecord?_records]

theorem Report.flatMap_records_eq (h : reports.flatMap located = others.flatMap located) :
    reports.flatMap records = others.flatMap records := by
  have hrecords (reports : List Report) : reports.flatMap records =
      (reports.flatMap located).map fun (name, finding) => finding.record ⟨.relative, [name]⟩ := by
    simp only [List.map_flatMap, ← records_eq]
  rw [hrecords, hrecords, h]

/-! ## What is written -/

theorem Json.exists_render_eq (records : List Record) : ∃ body, render records = body ++ [']'] := by
  cases records with
  | nil => exact ⟨['['], rfl⟩
  | cons record records => exact ⟨_, rfl⟩

/-- What is written tells the findings. -/
theorem OutputFormat.located_of_render_eq (h : json.render reports = json.render others) :
    reports.flatMap Report.located = others.flatMap Report.located := by
  have hrecords : some (reports.flatMap Report.records) = some (others.flatMap Report.records) := by
    rw [← read?_render, ← read?_render, h]
  have hread := congrArg (List.map Finding.ofRecord?) (Option.some.inj hrecords)
  rw [Report.map_ofRecord?_flatMap_records, Report.map_ofRecord?_flatMap_records] at hread
  exact List.map_injective_iff.mpr (Option.some_injective _) hread

/-- What is written in JSON for several files is ASCII and ends with one line feed. It reads as an
array with one record for each finding, one file after the other, and the record tells the finding
and the path of its file. It is the same for the same findings at the same paths, and only for
these. -/
theorem OutputFormat.json_lossless :
    (∀ reports : List Report,
      IsAscii (json.render reports).toList ∧
      (∃ body, (json.render reports).toList = body ++ [']', '\n']) ∧
      ∃ records, Json.read? (json.render reports).toList = some records ∧
        records.map Finding.ofRecord? = (reports.flatMap Report.located).map some) ∧
    ∀ reports others : List Report, json.render reports = json.render others ↔
      reports.flatMap Report.located = others.flatMap Report.located := by
  constructor
  · intro reports
    obtain ⟨body, hbody⟩ := Json.exists_render_eq (reports.flatMap Report.records)
    refine ⟨?_, ⟨body, ?_⟩, _, read?_render reports, Report.map_ofRecord?_flatMap_records reports⟩
    · rw [toList_render_json, isAscii_append]
      exact ⟨isAscii_render _, isAscii_cons.mpr ⟨by decide, isAscii_nil⟩⟩
    · rw [toList_render_json, hbody, List.append_assoc]
      rfl
  · intro reports others
    refine ⟨located_of_render_eq, fun h => ?_⟩
    rw [render, render, Report.flatMap_records_eq h]

end ScadText
