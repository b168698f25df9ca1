import ScadText.Finding.Excerpt
import ScadText.Json.Record
import ScadText.Report.Batch

/-!
# What a run writes

Nothing is written to the output unless all files could be read. The exit status tells findings that
count from those that do not, and both from a failure.

## Main definitions

* `Outcome`: the exit status and what is written.
* `Report.text`, `Report.records`: the findings of a file in the two output formats.
* `OutputFormat.render`: the findings of several files.
* `Options.run`: the outcome of one run.
-/

namespace ScadText

structure Written where
  output : String
  errors : String
  deriving DecidableEq, Repr

structure Outcome where
  status : Nat
  written : Written
  deriving DecidableEq, Repr

/-- The line that reports a failure. -/
def errorLine (message : String) : String := "error: " ++ message ++ "\n"

/-- The fields of a finding in a file. -/
def Finding.record (path : Path) (finding : Finding) : Json.Record :=
  [("file".toList, .text path.render.toList),
    ("severity".toList, .text finding.severity.name.toList),
    ("code".toList, .text finding.code.toList),
    ("message".toList, .text finding.message.toList),
    ("line".toList, .integer finding.line),
    ("column".toList, .integer finding.column),
    ("end_line".toList, .integer finding.endLine),
    ("end_column".toList, .integer finding.endColumn)]

namespace Report

/-- The findings beside their source, with an empty line after each. -/
def text (report : Report) : String :=
  String.join
    (report.findings.map fun finding => finding.excerpt report.source report.path.render ++ "\n\n")

/-- The findings as records. -/
def records (report : Report) : List Json.Record :=
  report.findings.map (Finding.record report.path)

end Report

/-- The findings of several files. -/
def OutputFormat.render (reports : List Report) : OutputFormat → String
  | .text => String.join (reports.map Report.text)
  | .json => String.ofList (Json.render (reports.flatMap Report.records)) ++ "\n"

/-- Whether a finding counts as a failure of its file. -/
def Options.counts (options : Options) (finding : Finding) : Bool :=
  options.strict || finding.severity == .error

/-- The outcome for a batch. -/
def Batch.outcome (options : Options) (batch : Batch) : Outcome :=
  let listing := if options.tokens then batch.listing else ""
  match batch.fault with
  | some fault => ⟨2, ⟨"", listing ++ errorLine fault.message⟩⟩
  | none =>
    ⟨if batch.findings.any options.counts then 1 else 0,
      ⟨options.format.render batch.reports, listing⟩⟩

/-- The outcome of one run. -/
def Options.run (options : Options) (disk : Disk) : Outcome :=
  (Batch.ofPaths options disk options.inputs).outcome options

end ScadText
