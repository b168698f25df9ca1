import ScadText.Proofs.Report.Run

/-!
# Each option acts on its own channel

Two runs over the same inputs whose options differ in one field, side by side. Which files are read,
and at which one reading stops, depends on none of the options, so the two batches hold the same
sources and the same fault, and each option shows only in what is made of them.

## Main definitions

* `Options.findings`, `Options.dumps`: the findings that a run writes, and the token listings of what
  it has read.
* `Batch.ignoring`: a batch without the findings of some rules.

## Main statements

* `Batch.ofPaths_of_ignore_eq`, `Batch.ofPaths_ignoring`: the batches of two runs.
* `Batch.outcome_eq`: what is made of a batch.
* `Options.run_channels`: the outcomes of two runs.
-/

namespace ScadText

variable {options other : Options} {disk : Disk} {batch : Batch}

/-- The findings of a batch that are written, which are none after a fault. -/
def Batch.written (batch : Batch) : List Reported :=
  match batch.fault with
  | some _ => []
  | none => batch.reports.flatMap Report.reported

/-- The line that reports the fault of a batch, or nothing. -/
def Batch.failure (batch : Batch) : String :=
  match batch.fault with
  | some fault => errorLine fault.message
  | none => ""

/-- The findings which a run writes, in this order. -/
def Options.findings (options : Options) (disk : Disk) : List Reported :=
  (Batch.ofPaths options disk options.inputs).written

/-- The token listings of the inputs before the first one that cannot be read. -/
def Options.dumps (options : Options) (disk : Disk) : String :=
  (Batch.ofPaths options disk options.inputs).listing

/-! ## Two batches -/

theorem Batch.ofPaths_of_ignore_eq (h : other.ignore = options.ignore) (disk : Disk)
    (paths : List Path) : ofPaths other disk paths = ofPaths options disk paths := by
  induction paths with
  | nil => rfl
  | cons path paths ih =>
    have hfindings (source : List Char) : findingsOf other source = findingsOf options source := by
      rw [findingsOf, findingsOf, h]
    simp only [ofPaths, ih, hfindings]

/-- The report without the findings of these rules. -/
def Report.ignoring (rules : List Rule) (report : Report) : Report :=
  { report with
    findings := report.findings.filter fun finding => ∀ rule ∈ rules, finding.code ≠ rule.code }

/-- The batch without the findings of these rules. -/
def Batch.ignoring (rules : List Rule) (batch : Batch) : Batch :=
  { batch with reports := batch.reports.map (Report.ignoring rules) }

/-- To ignore more rules is to leave out their findings. -/
theorem findingsOf_of_subset (h : options.ignore ⊆ other.ignore) (source : List Char) :
    findingsOf other source = (findingsOf options source).filter fun finding =>
      ∀ rule ∈ other.ignore, finding.code ≠ rule.code := by
  rw [findingsOf_eq, findingsOf_eq, List.filter_filter]
  apply List.filter_congr
  intro finding _
  grind

theorem Batch.ofPaths_ignoring (h : options.ignore ⊆ other.ignore) (disk : Disk)
    (paths : List Path) :
    ofPaths other disk paths = (ofPaths options disk paths).ignoring other.ignore := by
  induction paths with
  | nil => rfl
  | cons path paths ih =>
    cases hread : readSource disk path with
    | error fault =>
      simp only [ofPaths, hread]
      rfl
    | ok source =>
      simp only [ofPaths, hread]
      rw [ih, findingsOf_of_subset h]
      rfl

theorem Report.reported_ignoring (rules : List Rule) (report : Report) :
    (report.ignoring rules).reported =
      report.reported.filter fun r => ∀ rule ∈ rules, r.finding.code ≠ rule.code := by
  rw [reported, reported, List.filter_map]
  rfl

theorem Batch.written_ignoring (rules : List Rule) (batch : Batch) :
    (batch.ignoring rules).written =
      batch.written.filter fun r => ∀ rule ∈ rules, r.finding.code ≠ rule.code := by
  obtain ⟨reports, fault⟩ := batch
  cases fault with
  | some fault => rfl
  | none =>
    simp only [written, ignoring, List.filter_flatMap, List.flatMap_map, Report.reported_ignoring]

theorem Batch.listing_ignoring (rules : List Rule) (batch : Batch) :
    (batch.ignoring rules).listing = batch.listing := by
  rw [listing, listing, ignoring, List.map_map]
  rfl

/-! ## What is made of a batch -/

theorem Batch.outcome_eq (options : Options) (batch : Batch) :
    batch.outcome options =
      ⟨if batch.fault.isSome then 2
        else if batch.written.any fun r => options.counts r.finding then 1 else 0,
      ⟨if batch.fault.isSome then "" else options.format.written batch.written,
        (if options.tokens then batch.listing else "") ++ batch.failure⟩⟩ := by
  obtain ⟨reports, fault⟩ := batch
  cases fault with
  | some fault => rfl
  | none =>
    have hcounts : (Batch.mk reports none).findings.any options.counts =
        (Batch.mk reports none).written.any fun r => options.counts r.finding := by
      rw [findings_eq, List.any_map]
      rfl
    rw [outcome, hcounts]
    simp only [OutputFormat.render_eq_written, failure, String.append_empty]
    rfl

theorem Batch.status_eq_two_iff (options : Options) (batch : Batch) :
    (batch.outcome options).status = 2 ↔ batch.fault.isSome = true := by
  rw [outcome_eq]
  dsimp only
  grind

/-- The status does not rise where the fault is the same and no other finding counts. -/
theorem Batch.status_le {more : Batch} (hfault : batch.fault = more.fault)
    (h : ∀ r ∈ batch.written, options.counts r.finding = true →
      r ∈ more.written ∧ other.counts r.finding = true) :
    (batch.outcome options).status ≤ (more.outcome other).status := by
  rw [outcome_eq, outcome_eq, hfault]
  dsimp only
  have hany : (batch.written.any fun r => options.counts r.finding) = true →
      (more.written.any fun r => other.counts r.finding) = true := by
    rw [List.any_eq_true, List.any_eq_true]
    rintro ⟨r, hr, hcounts⟩
    exact ⟨r, h r hr hcounts⟩
  grind

/-! ## Two runs -/

/-- Where the inputs and the ignored rules are the same, the same batch is made something of. -/
theorem Options.run_eq (options other : Options) (hinputs : other.inputs = options.inputs)
    (hignore : other.ignore = options.ignore) (disk : Disk) :
    other.run disk = (Batch.ofPaths options disk options.inputs).outcome other ∧
      other.findings disk = options.findings disk := by
  have hbatch := Batch.ofPaths_of_ignore_eq hignore disk options.inputs
  rw [run, findings, hinputs, hbatch]
  exact ⟨rfl, rfl⟩

/-- What is written to the output are the findings of the run, unless an input cannot be read. -/
theorem Options.output_run (options : Options) (disk : Disk) :
    (options.run disk).written.output =
      if (options.run disk).status = 2 then ""
      else options.format.written (options.findings disk) := by
  simp only [run, Batch.status_eq_two_iff]
  rw [Batch.outcome_eq]
  rfl

theorem Options.run_ignore (hother : other = { options with ignore := other.ignore })
    (hmore : options.ignore ⊆ other.ignore) :
    other.findings disk = ((options.findings disk).filter fun r =>
        ∀ rule ∈ other.ignore, r.finding.code ≠ rule.code) ∧
      (other.run disk).status ≤ (options.run disk).status ∧
      (other.run disk).written.errors = (options.run disk).written.errors ∧
      ((other.run disk).status = 2 ↔ (options.run disk).status = 2) := by
  obtain ⟨more, rfl⟩ : ∃ more, other = { options with ignore := more } := ⟨_, hother⟩
  have hbatch := Batch.ofPaths_ignoring hmore disk options.inputs
  simp only [findings, run, hbatch]
  generalize Batch.ofPaths options disk options.inputs = batch
  refine ⟨Batch.written_ignoring more batch, ?_, ?_, ?_⟩
  · refine Batch.status_le rfl fun r hr hcounts => ?_
    rw [Batch.written_ignoring] at hr
    exact ⟨(List.mem_filter.mp hr).1, hcounts⟩
  · rw [Batch.outcome_eq, Batch.outcome_eq, Batch.listing_ignoring]
    rfl
  · rw [Batch.status_eq_two_iff, Batch.status_eq_two_iff]
    rfl

theorem Options.run_strict (hother : other = { options with strict := true }) :
    (other.run disk).written = (options.run disk).written ∧
      (options.run disk).status ≤ (other.run disk).status ∧
      ((other.run disk).status = 2 ↔ (options.run disk).status = 2) := by
  subst hother
  rw [(run_eq options { options with strict := true } rfl rfl disk).1, run]
  generalize Batch.ofPaths options disk options.inputs = batch
  refine ⟨?_, ?_, ?_⟩
  · rw [Batch.outcome_eq, Batch.outcome_eq]
  · exact Batch.status_le rfl fun r hr _ => ⟨hr, Bool.true_or _⟩
  · rw [Batch.status_eq_two_iff, Batch.status_eq_two_iff]

theorem Options.run_format (hother : other = { options with format := other.format }) :
    (other.run disk).status = (options.run disk).status ∧
      (other.run disk).written.errors = (options.run disk).written.errors ∧
      other.findings disk = options.findings disk := by
  obtain ⟨format, rfl⟩ : ∃ format, other = { options with format } := ⟨_, hother⟩
  obtain ⟨hrun, hfindings⟩ := run_eq options { options with format } rfl rfl disk
  rw [hrun, run]
  refine ⟨?_, ?_, hfindings⟩
  · rw [Batch.outcome_eq, Batch.outcome_eq]
    rfl
  · rw [Batch.outcome_eq, Batch.outcome_eq]

theorem Options.run_tokens (hoff : options.tokens = false)
    (hother : other = { options with tokens := true }) :
    (other.run disk).status = (options.run disk).status ∧
      (other.run disk).written.output = (options.run disk).written.output ∧
      (other.run disk).written.errors =
        options.dumps disk ++ (options.run disk).written.errors := by
  subst hother
  rw [(run_eq options { options with tokens := true } rfl rfl disk).1, run, dumps]
  generalize Batch.ofPaths options disk options.inputs = batch
  rw [Batch.outcome_eq, Batch.outcome_eq, hoff]
  refine ⟨rfl, rfl, ?_⟩
  simp

/-- Each option acts on its own channel. What is written to the output are the findings of the run,
and for two runs whose options differ in one field:
* where more rules are ignored, their findings are left out, and the status does not rise;
* where all findings count, the same is written, and the status does not fall;
* in another format, the same findings are written with the same status;
* where tokens are listed, only the listings are added.
A status of 2 stays in each case. -/
theorem Options.run_channels (options other : Options) (disk : Disk) :
    ((options.run disk).written.output =
      if (options.run disk).status = 2 then ""
      else options.format.written (options.findings disk)) ∧
    (other = { options with ignore := other.ignore } → options.ignore ⊆ other.ignore →
      other.findings disk = ((options.findings disk).filter fun r =>
          ∀ rule ∈ other.ignore, r.finding.code ≠ rule.code) ∧
        (other.run disk).status ≤ (options.run disk).status ∧
        (other.run disk).written.errors = (options.run disk).written.errors ∧
        ((other.run disk).status = 2 ↔ (options.run disk).status = 2)) ∧
    (other = { options with strict := true } →
      (other.run disk).written = (options.run disk).written ∧
        (options.run disk).status ≤ (other.run disk).status ∧
        ((other.run disk).status = 2 ↔ (options.run disk).status = 2)) ∧
    (other = { options with format := other.format } →
      (other.run disk).status = (options.run disk).status ∧
        (other.run disk).written.errors = (options.run disk).written.errors ∧
        other.findings disk = options.findings disk) ∧
    (options.tokens = false → other = { options with tokens := true } →
      (other.run disk).status = (options.run disk).status ∧
        (other.run disk).written.output = (options.run disk).written.output ∧
        (other.run disk).written.errors =
          options.dumps disk ++ (options.run disk).written.errors) :=
  ⟨options.output_run disk, run_ignore, run_strict, run_format, run_tokens⟩

/-- Two rules are broken in the one input; one of them is ignored, or both count, or the findings are
written as records, or the tokens are listed. -/
theorem Options.run_channels_two_findings :
    let disk := (Tree.empty.write ["a.scad"] (Utf8.encode "x = $a".toList) 0).disk
    let options : Options := ⟨[.ofString "a.scad"], [], .text, false, false, false⟩
    (options.findings disk).length = 2 ∧
    ({ options with ignore := [.missingSemicolon] }.findings disk).length = 1 ∧
    ({ options with strict := true }.run disk).written = (options.run disk).written ∧
    ({ options with format := .json }.run disk).status = 0 ∧
    ({ options with tokens := true }.run disk).status = 0 := by
  intro disk options
  have hfindings : (options.findings disk).length = 2 := by decide +kernel
  have hstatus : (options.run disk).status = 0 := by decide +kernel
  have hignore := (run_channels options { options with ignore := [.missingSemicolon] } disk).2.1
    rfl (List.nil_subset _)
  have hstrict := (run_channels options { options with strict := true } disk).2.2.1 rfl
  have hformat := (run_channels options { options with format := .json } disk).2.2.2.1 rfl
  have htokens := (run_channels options { options with tokens := true } disk).2.2.2.2 rfl rfl
  refine ⟨hfindings, ?_, hstrict.1, hformat.1.trans hstatus, htokens.1.trans hstatus⟩
  rw [hignore.1]
  decide +kernel

end ScadText
