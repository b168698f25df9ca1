import ScadText.Finding.Lint
import ScadText.Report.Source
import ScadText.Settings.Options
import ScadText.Token.Dump
import ScadText.Token.Lexer

/-!
# Reports on files

Files are read in order until one cannot be read.

## Main definitions

* `Report`: a file that was read and its findings.
* `Batch`: the reports on several files, and the fault at which reading stopped.
-/

namespace ScadText

structure Report where
  path : Path
  source : List Char
  findings : List Finding
  deriving DecidableEq, Repr

/-- The findings of a source whose rules are not ignored. -/
def findingsOf (options : Options) (source : List Char) : List Finding :=
  (lint source).filter fun finding => !(options.ignore.map Rule.code).contains finding.code

/-- The reports on the files before the first that cannot be read, and why it cannot. -/
structure Batch where
  reports : List Report
  fault : Option ReadFault
  deriving DecidableEq, Repr

namespace Batch

/-- The batch with one more report before all others. -/
def cons (report : Report) (batch : Batch) : Batch :=
  { batch with reports := report :: batch.reports }

/-- The batch of several files. -/
def ofPaths (options : Options) (disk : Disk) : List Path → Batch
  | [] => ⟨[], none⟩
  | path :: rest =>
    match readSource disk path with
    | .error fault => ⟨[], some fault⟩
    | .ok source => cons ⟨path, source, findingsOf options source⟩ (ofPaths options disk rest)

/-- After a fault no file is read. -/
theorem ofPaths_append_of_fault {options : Options} {disk : Disk} {xs : List Path}
    {fault : ReadFault} (h : (ofPaths options disk xs).fault = some fault) (ys : List Path) :
    ofPaths options disk (xs ++ ys) = ofPaths options disk xs := by
  induction xs with
  | nil => simp [ofPaths] at h
  | cons path rest ih =>
    simp only [List.cons_append, ofPaths] at h ⊢
    cases hs : readSource disk path with
    | error _ => rfl
    | ok source =>
      simp only [hs, cons] at h
      simp only [ih h]

/-- Two batches in a row, where the first has no fault. -/
theorem ofPaths_append {options : Options} {disk : Disk} {xs : List Path}
    (h : (ofPaths options disk xs).fault = none) (ys : List Path) :
    ofPaths options disk (xs ++ ys) =
      ⟨(ofPaths options disk xs).reports ++ (ofPaths options disk ys).reports,
        (ofPaths options disk ys).fault⟩ := by
  induction xs with
  | nil => rfl
  | cons path rest ih =>
    simp only [List.cons_append, ofPaths] at h ⊢
    cases hs : readSource disk path with
    | error _ => simp [hs] at h
    | ok source =>
      simp only [hs, cons] at h
      simp only [ih h, cons, List.cons_append]

/-- All findings of a batch. -/
def findings (batch : Batch) : List Finding := batch.reports.flatMap Report.findings

/-- The token listings of a batch. -/
def listing (batch : Batch) : String :=
  String.join (batch.reports.map fun report => dumpText (tokenize report.source))

end Batch

end ScadText
