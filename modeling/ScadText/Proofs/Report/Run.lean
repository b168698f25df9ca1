import Mathlib.Tactic.Choose
import ScadText.Command.Program
import ScadText.Disk.Tree
import ScadText.Proofs.Result
import ScadText.Proofs.Text.Quoted
import ScadText.Proofs.Text.Utf8

/-!
# What one run comes to

A run looks at its inputs in order. If there is a source at each of them, their findings are written
and decide the exit status. Otherwise none is written, and the first input without a source is
reported.

## Main definitions

* `Disk.Holds`, `Disk.Lacks`: whether there is a source at a path.
* `Options.reported`, `OutputFormat.written`: the findings that are left, and how they are written.
* `Options.Ends`: how a run ends.

## Main statements

* `exists_holds_or_lacks`: either there is a source at every path, or a first path without one.
* `Options.ends_run`: every run ends in one of the two ways.
* `transcript_of_once`: what the program comes to when it runs once.
-/

namespace ScadText

/-! ## Sources -/

/-- At the path there is a source: a text in UTF-8, with its line ends made line feeds. -/
def Disk.Holds (disk : Disk) (path : Path) (source : List Char) : Prop :=
  ∃ text, disk.read path = .ok (Utf8.encode text) ∧ source = Text.unifyLineEnds text

/-- At the path there is no source: the disk refuses to read it, or the bytes are those of no
text. -/
inductive Disk.Lacks (disk : Disk) (path : Path) : ReadFault → Prop where
  | refused {refusal : Refusal} (read : disk.read path = .error refusal) :
      Lacks disk path (.refused ⟨refusal, path⟩)
  | badEncoding {bytes : List UInt8} {fault : Utf8.Fault} (read : disk.read path = .ok bytes)
      (noText : ∀ text, bytes ≠ Utf8.encode text) (decode : Utf8.decode bytes = .error fault) :
      Lacks disk path (.badEncoding fault)

variable {disk : Disk} {path : Path} {paths : List Path} {source : List Char} {fault : ReadFault}

theorem readSource_eq_ok_iff : readSource disk path = .ok source ↔ disk.Holds path source := by
  rw [readSource, Disk.Holds]
  cases disk.read path with
  | error refusal => simp
  | ok bytes =>
    simp only [sourceOfBytes, mapError_eq_ok, Except.ok.injEq]
    cases htext : Utf8.decode bytes with
    | error fault =>
      have hnone : ∀ text, bytes ≠ Utf8.encode text := by
        intro text h
        cases htext.symm.trans (Utf8.decode_eq_ok_iff.mpr h)
      simp [Except.map, hnone]
    | ok text =>
      rw [Utf8.decode_eq_ok_iff] at htext
      subst htext
      constructor
      · intro h
        exact ⟨text, rfl, (Except.ok.inj h).symm⟩
      · rintro ⟨other, hother, rfl⟩
        have h := Utf8.decode_eq_ok_iff.mpr hother
        rw [Utf8.decode_encode, Except.ok.injEq] at h
        rw [h]
        rfl

theorem readSource_eq_error_iff : readSource disk path = .error fault ↔ disk.Lacks path fault := by
  constructor
  · intro h
    rw [readSource] at h
    cases hread : disk.read path with
    | error refusal =>
      simp only [hread, Except.error.injEq] at h
      exact h ▸ .refused hread
    | ok bytes =>
      simp only [hread, sourceOfBytes, mapError_eq_error] at h
      obtain ⟨fault, hfault, rfl⟩ := h
      cases hdecode : Utf8.decode bytes with
      | ok text => simp [hdecode, Except.map] at hfault
      | error other =>
        simp only [hdecode, Except.map, Except.error.injEq] at hfault
        subst hfault
        refine .badEncoding hread ?_ hdecode
        intro text h
        cases hdecode.symm.trans (Utf8.decode_eq_ok_iff.mpr h)
  · intro h
    cases h with
    | refused read => rw [readSource, read]
    | badEncoding read noText decode =>
      rw [readSource, read]
      dsimp only
      rw [sourceOfBytes, decode]
      rfl

theorem Disk.Holds.not_lacks (h : disk.Holds path source) : ¬ disk.Lacks path fault := by
  intro hlacks
  cases (readSource_eq_ok_iff.mpr h).symm.trans (readSource_eq_error_iff.mpr hlacks)

/-- Either there is a source at every path, or a first path without one. -/
theorem exists_holds_or_lacks (disk : Disk) (paths : List Path) :
    (∃ source : Path → List Char, ∀ p ∈ paths, disk.Holds p (source p)) ∨
    ∃ before path after fault, ∃ source : Path → List Char, paths = before ++ path :: after ∧
      (∀ p ∈ before, disk.Holds p (source p)) ∧ disk.Lacks path fault := by
  have hsplit : (∀ p ∈ paths, ∃ source, disk.Holds p source) ∨
      ∃ before path after fault, paths = before ++ path :: after ∧
        (∀ p ∈ before, ∃ source, disk.Holds p source) ∧ disk.Lacks path fault := by
    induction paths with
    | nil => exact .inl (by simp)
    | cons path paths ih =>
      cases hread : readSource disk path with
      | error fault =>
        exact .inr ⟨[], path, paths, fault, rfl, by simp, readSource_eq_error_iff.mp hread⟩
      | ok source =>
        have hholds : ∃ source, disk.Holds path source := ⟨source, readSource_eq_ok_iff.mp hread⟩
        obtain hall | ⟨before, other, after, fault, rfl, hbefore, hlacks⟩ := ih
        · exact .inl (List.forall_mem_cons.mpr ⟨hholds, hall⟩)
        · exact .inr ⟨path :: before, other, after, fault, rfl,
            List.forall_mem_cons.mpr ⟨hholds, hbefore⟩, hlacks⟩
  obtain hall | ⟨before, path, after, fault, hpaths, hbefore, hlacks⟩ := hsplit
  · choose! source hsource using hall
    exact .inl ⟨source, hsource⟩
  · choose! source hsource using hbefore
    exact .inr ⟨before, path, after, fault, source, hpaths, hsource, hlacks⟩

/-! ## What is written -/

/-- A finding with the file where it is. -/
structure Reported where
  path : Path
  source : List Char
  finding : Finding
  deriving DecidableEq, Repr

/-- The findings of a report with the file where they are. -/
def Report.reported (report : Report) : List Reported :=
  report.findings.map fun finding => ⟨report.path, report.source, finding⟩

variable {options : Options} {sources : Path → List Char}

/-- The findings in files whose rules are not ignored, one file after the other. -/
def Options.reported (options : Options) (sources : Path → List Char) (paths : List Path) :
    List Reported :=
  paths.flatMap fun path =>
    ((lint (sources path)).filter fun finding => ∀ rule ∈ options.ignore, finding.code ≠ rule.code).map
      fun finding => ⟨path, sources path, finding⟩

/-- How findings are written. -/
def OutputFormat.written (reported : List Reported) : OutputFormat → String
  | .text => String.join
      (reported.map fun r => r.finding.excerpt r.source r.path.render ++ "\n\n")
  | .json => String.ofList (Json.render (reported.map fun r => r.finding.record r.path)) ++ "\n"

/-- The token listings of files, if they are asked for. -/
def Options.listing (options : Options) (sources : Path → List Char) (paths : List Path) : String :=
  if options.tokens then String.join (paths.map fun path => dumpText (tokenize (sources path)))
  else ""

/-- Some finding is an error, or there is a finding and each of them counts. -/
def Options.Flags (options : Options) (reported : List Reported) : Prop :=
  (∃ r ∈ reported, r.finding.severity = .error) ∨ options.strict = true ∧ reported ≠ []

/-- How a run ends. Either there is a first input without a source: then no finding is written, and
what is written beside the output are the listings of the inputs before it and one line that reports
it. Or there is a source at every input: then exactly the findings that are left are written, and
they decide the exit status. -/
inductive Options.Ends (options : Options) (disk : Disk) : Outcome → Prop where
  | stopped {before after : List Path} {path : Path} {sources : Path → List Char} {fault : ReadFault}
      (inputs_eq : options.inputs = before ++ path :: after)
      (holds : ∀ p ∈ before, disk.Holds p (sources p)) (lacks : disk.Lacks path fault)
      (oneLine : '\n' ∉ fault.message.toList) :
      Ends options disk
        ⟨2, ⟨"", options.listing sources before ++ "error: " ++ fault.message ++ "\n"⟩⟩
  | completed {sources : Path → List Char} {status : Nat}
      (holds : ∀ p ∈ options.inputs, disk.Holds p (sources p))
      (status_eq_one_iff : status = 1 ↔ options.Flags (options.reported sources options.inputs))
      (status_eq_zero_iff : status = 0 ↔ ¬ options.Flags (options.reported sources options.inputs)) :
      Ends options disk
        ⟨status, ⟨options.format.written (options.reported sources options.inputs),
          options.listing sources options.inputs⟩⟩

/-! ## The batch of a run -/

/-- The reports on files. -/
def Options.reports (options : Options) (sources : Path → List Char) (paths : List Path) :
    List Report :=
  paths.map fun path => ⟨path, sources path, findingsOf options (sources path)⟩

theorem Batch.ofPaths_of_holds (options : Options)
    (h : ∀ p ∈ paths, disk.Holds p (sources p)) :
    Batch.ofPaths options disk paths = ⟨options.reports sources paths, none⟩ := by
  induction paths with
  | nil => rfl
  | cons path paths ih =>
    obtain ⟨hpath, hpaths⟩ := List.forall_mem_cons.mp h
    rw [Batch.ofPaths, readSource_eq_ok_iff.mpr hpath, ih hpaths]
    rfl

theorem Batch.ofPaths_of_lacks {before after : List Path}
    (h : ∀ p ∈ before, disk.Holds p (sources p)) (hlacks : disk.Lacks path fault) :
    Batch.ofPaths options disk (before ++ path :: after) =
      ⟨options.reports sources before, some fault⟩ := by
  have hbefore := Batch.ofPaths_of_holds options h
  have hfault : Batch.ofPaths options disk (path :: after) = ⟨[], some fault⟩ := by
    rw [Batch.ofPaths, readSource_eq_error_iff.mpr hlacks]
  rw [Batch.ofPaths_append (by rw [hbefore]), hbefore, hfault, List.append_nil]

theorem Batch.exists_fault_iff : (∃ fault, (Batch.ofPaths options disk paths).fault = some fault) ↔
    ∃ path ∈ paths, ∃ fault, disk.Lacks path fault := by
  simp only [← readSource_eq_error_iff]
  induction paths with
  | nil => simp [Batch.ofPaths]
  | cons path paths ih =>
    simp only [List.mem_cons, exists_eq_or_imp, ← ih, Batch.ofPaths]
    cases readSource disk path with
    | error fault => simp
    | ok source => simp [Batch.cons]

/-- The findings of a report are those that are not ignored. -/
theorem findingsOf_eq (options : Options) (source : List Char) :
    findingsOf options source =
      (lint source).filter fun finding => ∀ rule ∈ options.ignore, finding.code ≠ rule.code := by
  rw [findingsOf]
  apply List.filter_congr
  intro finding _
  grind

theorem Options.flatMap_reported (options : Options) (sources : Path → List Char)
    (paths : List Path) :
    (options.reports sources paths).flatMap Report.reported = options.reported sources paths := by
  rw [reports, List.flatMap_map, reported]
  simp only [Report.reported, findingsOf_eq]

theorem join_map_join {α : Type} (f : α → List String) (xs : List α) :
    String.join (xs.map fun x => String.join (f x)) = String.join (xs.flatMap f) := by
  induction xs with
  | nil => rfl
  | cons x xs ih =>
    rw [List.map_cons, List.flatMap_cons, String.join_cons, String.join_append, ih]

/-- What is written for reports are their findings, one after the other. -/
theorem OutputFormat.render_eq_written (format : OutputFormat) (reports : List Report) :
    format.render reports = format.written (reports.flatMap Report.reported) := by
  cases format with
  | text =>
    rw [render, written, List.map_flatMap, ← join_map_join]
    simp only [Report.reported, List.map_map]
    rfl
  | json =>
    rw [render, written, List.map_flatMap]
    simp only [Report.reported, List.map_map]
    rfl

theorem Batch.findings_eq (batch : Batch) :
    batch.findings = (batch.reports.flatMap Report.reported).map Reported.finding := by
  have hreport (report : Report) : report.reported.map Reported.finding = report.findings := by
    simp [Report.reported, Function.comp_def]
  simp only [findings, List.map_flatMap, hreport]

theorem any_counts_iff (options : Options) (sources : Path → List Char) (paths : List Path) :
    (Batch.mk (options.reports sources paths) none).findings.any options.counts = true ↔
      options.Flags (options.reported sources paths) := by
  rw [Batch.findings_eq, Options.flatMap_reported, Options.Flags, List.any_map, List.any_eq_true]
  simp only [Function.comp_apply, Options.counts, Bool.or_eq_true, beq_iff_eq]
  constructor
  · rintro ⟨r, hr, hstrict | herror⟩
    · exact .inr ⟨hstrict, List.ne_nil_of_mem hr⟩
    · exact .inl ⟨r, hr, herror⟩
  · rintro (⟨r, hr, herror⟩ | ⟨hstrict, hne⟩)
    · exact ⟨r, hr, .inr herror⟩
    · obtain ⟨r, hr⟩ := List.exists_mem_of_ne_nil _ hne
      exact ⟨r, hr, .inl hstrict⟩

theorem listing_reports (paths : List Path) (fault : Option ReadFault) :
    (if options.tokens then (Batch.mk (options.reports sources paths) fault).listing else "") =
      options.listing sources paths := by
  rw [Options.listing, Batch.listing, Options.reports, List.map_map]
  rfl

/-! ## One run -/

/-- Every run ends in one of the two ways. -/
theorem Options.ends_run (options : Options) (disk : Disk) :
    options.Ends disk (options.run disk) := by
  obtain ⟨sources, hholds⟩ | ⟨before, path, after, fault, sources, hinputs, hholds, hlacks⟩ :=
    exists_holds_or_lacks disk options.inputs
  · have hflags := any_counts_iff options sources options.inputs
    rw [Options.run, Batch.ofPaths_of_holds options hholds, Batch.outcome, listing_reports]
    dsimp only
    rw [OutputFormat.render_eq_written, flatMap_reported]
    refine .completed hholds ?_ ?_
    · rw [← hflags]
      simp
    · rw [← hflags]
      simp
  · rw [Options.run, hinputs, Batch.ofPaths_of_lacks hholds hlacks, Batch.outcome, listing_reports]
    dsimp only
    rw [errorLine, ← String.append_assoc, ← String.append_assoc]
    exact .stopped hinputs hholds hlacks fault.newline_notMem_message

/-- The exit status tells whether there is an input without a source. -/
theorem Options.Ends.status_eq_two_iff {outcome : Outcome} (h : options.Ends disk outcome) :
    outcome.status = 2 ↔ ∃ path ∈ options.inputs, ∃ fault, disk.Lacks path fault := by
  cases h with
  | @stopped before after path _ fault inputs_eq _ lacks _ =>
    have hmem : path ∈ options.inputs := by simp [inputs_eq]
    exact ⟨fun _ => ⟨path, hmem, fault, lacks⟩, fun _ => rfl⟩
  | @completed _ status holds hone hzero =>
    have hstatus : status ≠ 2 := by
      intro h
      have hone' := mt hone.mpr (by omega)
      exact absurd (hzero.mpr hone') (by omega)
    refine ⟨fun h => absurd h hstatus, ?_⟩
    rintro ⟨path, hmem, fault, hlacks⟩
    exact absurd hlacks (holds path hmem).not_lacks

variable {texts : List String} {arguments : Arguments}

theorem transcript_of_resolve (request : Request.ofTexts texts = .ok (.run arguments))
    (resolved : resolve disk arguments = .ok options) (later : List Disk) :
    transcript texts disk later = .ok
      ((if options.watch then Plan.watch options else Plan.once options).transcript disk later) := by
  rw [transcript, plan, request]
  dsimp only
  rw [Arguments.plan, resolved]
  rfl

/-- A program that runs once exits with 2 exactly if there is an input without a source, and it ends
in one of the two ways. -/
theorem transcript_of_once (request : Request.ofTexts texts = .ok (.run arguments))
    (resolved : resolve disk arguments = .ok options) (once : options.watch = false)
    (later : List Disk) :
    ∃ outcome : Outcome, transcript texts disk later = .ok outcome.transcript ∧
      (outcome.status = 2 ↔ ∃ path ∈ options.inputs, ∃ fault, disk.Lacks path fault) ∧
      options.Ends disk outcome := by
  have hends := options.ends_run disk
  refine ⟨options.run disk, ?_, hends.status_eq_two_iff, hends⟩
  rw [transcript_of_resolve request resolved, once]
  rfl

/-- The second of two inputs is missing, and the findings of the first are not written. -/
theorem transcript_of_once_missing :
    ∃ outcome : Outcome,
      transcript ["a.scad", "b.scad", "--tokens"]
        (Tree.empty.write ["a.scad"] (Utf8.encode "x = 5".toList) 0).disk [] =
          .ok outcome.transcript ∧
      outcome.status = 2 ∧ outcome.written.output = "" := by
  have request : Request.ofTexts ["a.scad", "b.scad", "--tokens"] =
      .ok (.run ⟨⟨none, [], none, false, true, false⟩, "a.scad", ["b.scad"]⟩) := rfl
  have resolved : resolve (Tree.empty.write ["a.scad"] (Utf8.encode "x = 5".toList) 0).disk
      ⟨⟨none, [], none, false, true, false⟩, "a.scad", ["b.scad"]⟩ =
      .ok ⟨[.ofString "a.scad", .ofString "b.scad"], [], .text, false, true, false⟩ := rfl
  obtain ⟨outcome, houtcome, hstatus, hends⟩ := transcript_of_once request resolved rfl []
  have htwo := hstatus.mpr ⟨.ofString "b.scad", by simp, _, .refused rfl⟩
  refine ⟨outcome, houtcome, htwo, ?_⟩
  cases hends with
  | stopped => rfl
  | completed holds =>
    exact absurd (.refused rfl) (holds (.ofString "b.scad") (by simp)).not_lacks

end ScadText
