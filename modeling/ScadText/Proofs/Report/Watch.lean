import ScadText.Proofs.Report.Run

/-!
# What a watch does at each look

A watch runs at a look if some input is found with another stamp than when it was found last, and
what it writes is then what one run on the disk of that look writes. The table of stamps is the
history of the looks, as far as it matters.

## Main definitions

* `lastStamp?`: the stamp of a path when it was found last.
* `Options.Due`: a look at which a run is due.
* `Options.Looks`: what is written at a look.
* `Stamps.Tracks`: a table of stamps that agrees with earlier looks.

## Main statements

* `Stamps.Tracks.look`, `Stamps.Tracks.look_iff`: a look keeps the table in step, and tells whether a
  run is due.
* `Stamps.Tracks.looks_step`, `exists_step_of_watch`: one look, and every look of a watch.
* `transcript_of_watch`: a whole watch.
-/

namespace ScadText

/-- The stamp of what a path leads to, if it leads anywhere. -/
def Disk.stamp? (disk : Disk) (path : Path) : Option Int :=
  (disk.status path).toOption.map Status.stamp

/-- The stamp of a path at the latest of several looks that found it. -/
def lastStamp? (looks : List Disk) (path : Path) : Option Int :=
  looks.reverse.findSome? fun disk => disk.stamp? path

/-- After earlier looks, some input is found with another stamp than at the latest of them that found
it, or is found for the first time. -/
def Options.Due (options : Options) (earlier : List Disk) (now : Disk) : Prop :=
  ∃ path ∈ options.inputs, ∃ stamp, now.stamp? path = some stamp ∧
    lastStamp? earlier path ≠ some stamp

/-- What is written at a look after earlier ones: nothing if no run is due. Otherwise there is one
run, which writes what a single run writes on this disk; a line that names the inputs follows if all
of them could be read, and the line that reports a failure comes last if not. -/
inductive Options.Looks (options : Options) (earlier : List Disk) (now : Disk) : Written → Prop where
  | idle (notDue : ¬ options.Due earlier now) : Looks options earlier now ⟨"", ""⟩
  | linted {sources : Path → List Char} (due : options.Due earlier now)
      (holds : ∀ p ∈ options.inputs, now.Holds p (sources p)) :
      Looks options earlier now ⟨(options.run now).written.output,
        options.listing sources options.inputs ++ "Linted " ++ options.names ++ "\n"⟩
  | failed {before after : List Path} {path : Path} {sources : Path → List Char} {fault : ReadFault}
      (due : options.Due earlier now) (inputs_eq : options.inputs = before ++ path :: after)
      (holds : ∀ p ∈ before, now.Holds p (sources p)) (lacks : now.Lacks path fault) :
      Looks options earlier now
        ⟨"", options.listing sources before ++ "error: " ++ fault.message ++ "\n"⟩

variable {options : Options} {now : Disk} {earlier : List Disk} {stamps : Stamps}
  {paths : List Path} {path : Path}

/-! ## The history of stamps -/

theorem Disk.stamp?_of_ok {status : Status} (h : now.status path = .ok status) :
    now.stamp? path = some status.stamp := by
  rw [stamp?, h]
  rfl

theorem Disk.stamp?_of_error {refusal : Refusal} (h : now.status path = .error refusal) :
    now.stamp? path = none := by
  rw [stamp?, h]
  rfl

@[simp] theorem lastStamp?_append_singleton (earlier : List Disk) (now : Disk) (path : Path) :
    lastStamp? (earlier ++ [now]) path = (now.stamp? path).or (lastStamp? earlier path) := by
  rw [lastStamp?, List.reverse_append, List.reverse_singleton, List.singleton_append,
    List.findSome?_cons, ← lastStamp?]
  cases now.stamp? path <;> rfl

/-- The table holds for each path the stamp of the latest look that found it. -/
def Stamps.Tracks (stamps : Stamps) (paths : List Path) (earlier : List Disk) : Prop :=
  ∀ path ∈ paths, stamps.lookup path = lastStamp? earlier path

namespace Stamps.Tracks

theorem nil (paths : List Path) : Tracks [] paths [] := fun _ _ => rfl

/-- A look keeps the table in step. -/
theorem look (h : stamps.Tracks paths earlier) (now : Disk) :
    (stamps.look now paths).1.Tracks paths (earlier ++ [now]) := by
  intro path hpath
  rw [lookup_look, if_pos hpath, lastStamp?_append_singleton, ← h path hpath]
  cases hstatus : now.status path with
  | error refusal => rw [Disk.stamp?_of_error hstatus, Option.none_or]
  | ok status => rw [Disk.stamp?_of_ok hstatus, Option.some_or]

end Stamps.Tracks

/-- A look tells whether some path has another stamp than the table says. A path that is given twice
is compared with its own new stamp, after the first comparison has told. -/
theorem Stamps.look_snd_iff (stamps : Stamps) (now : Disk) (paths : List Path) :
    (stamps.look now paths).2 = true ↔
      ∃ path ∈ paths, ∃ stamp, now.stamp? path = some stamp ∧ stamps.lookup path ≠ some stamp := by
  induction paths with
  | nil => simp [look]
  | cons path paths ih =>
    cases hstatus : now.status path with
    | error refusal => simp [look, hstatus, Disk.stamp?_of_error hstatus, ih]
    | ok status =>
      have hstamp := Disk.stamp?_of_ok hstatus
      by_cases hlookup : stamps.lookup path = some status.stamp
      · simp [look, hstatus, hstamp, hlookup, ih]
      · simp [look, hstatus, hstamp, hlookup]

/-- A run is due if the table differs from what is found. -/
theorem Stamps.Tracks.look_iff (h : stamps.Tracks options.inputs earlier) (now : Disk) :
    (stamps.look now options.inputs).2 = true ↔ options.Due earlier now := by
  rw [look_snd_iff, Options.Due]
  apply exists_congr
  intro path
  apply and_congr_right
  intro hpath
  rw [h path hpath]

/-! ## One look -/

theorem Options.rerun_of_holds {sources : Path → List Char}
    (h : ∀ p ∈ options.inputs, now.Holds p (sources p)) :
    options.rerun now = ⟨(options.run now).written.output,
      (options.run now).written.errors ++ "Linted " ++ options.names ++ "\n"⟩ := by
  rw [rerun, run, Batch.ofPaths_of_holds options h]
  rfl

theorem Options.errors_run_of_holds {sources : Path → List Char}
    (h : ∀ p ∈ options.inputs, now.Holds p (sources p)) :
    (options.run now).written.errors = options.listing sources options.inputs := by
  rw [run, Batch.ofPaths_of_holds options h, Batch.outcome, listing_reports]

/-- A run after a change writes what a single run writes. -/
theorem Options.looks_rerun (due : options.Due earlier now) :
    options.Looks earlier now (options.rerun now) := by
  obtain ⟨sources, hholds⟩ | ⟨before, path, after, fault, sources, hinputs, hholds, hlacks⟩ :=
    exists_holds_or_lacks now options.inputs
  · rw [rerun_of_holds hholds, errors_run_of_holds hholds]
    exact .linted due hholds
  · have hrerun : options.rerun now =
        ⟨"", options.listing sources before ++ "error: " ++ fault.message ++ "\n"⟩ := by
      rw [rerun, hinputs, Batch.ofPaths_of_lacks hholds hlacks, Batch.outcome, listing_reports]
      dsimp only
      rw [errorLine, ← String.append_assoc, ← String.append_assoc]
      rfl
    exact hrerun ▸ .failed due hinputs hholds hlacks

namespace Stamps.Tracks

theorem step_of_due (h : stamps.Tracks options.inputs earlier) (due : options.Due earlier now) :
    (options.step stamps now).2 = options.rerun now :=
  if_pos ((h.look_iff now).mpr due)

theorem step_of_not_due (h : stamps.Tracks options.inputs earlier)
    (notDue : ¬ options.Due earlier now) : (options.step stamps now).2 = ⟨"", ""⟩ :=
  if_neg (mt (h.look_iff now).mp notDue)

theorem looks_step (h : stamps.Tracks options.inputs earlier) (now : Disk) :
    options.Looks earlier now (options.step stamps now).2 := by
  by_cases hdue : options.Due earlier now
  · rw [h.step_of_due hdue]
    exact Options.looks_rerun hdue
  · rw [h.step_of_not_due hdue]
    exact .idle hdue

/-! ## All looks -/

/-- At every look the table tracks all looks before. -/
theorem exists_step (h : stamps.Tracks options.inputs earlier) (before : List Disk) (now : Disk)
    (after : List Disk) :
    ∃ table : Stamps, table.Tracks options.inputs (earlier ++ before) ∧
      (watchFrom options stamps (before ++ now :: after))[before.length]? =
        some (options.step table now).2 := by
  induction before generalizing stamps earlier with
  | nil =>
    rw [List.append_nil]
    exact ⟨stamps, h, rfl⟩
  | cons disk before ih =>
    obtain ⟨table, htable, hstep⟩ := ih (h.look disk)
    rw [List.append_assoc, List.singleton_append] at htable
    exact ⟨table, htable, hstep⟩

end Stamps.Tracks

theorem watch_eq_watchFrom (options : Options) (disk : Disk) (later : List Disk) :
    watch options disk later =
      (watchFrom options [] (disk :: later)).modifyHead fun written =>
        { written with errors := options.greeting ++ written.errors } := rfl

/-- Every look of a watch, the first of which greets. -/
theorem exists_step_of_watch (options : Options) {disk : Disk} {later after : List Disk}
    (hlooks : disk :: later = earlier ++ now :: after) :
    ∃ table : Stamps, table.Tracks options.inputs earlier ∧
      (watch options disk later)[earlier.length]? = some { (options.step table now).2 with
        errors := (if earlier = [] then options.greeting else "") ++
          (options.step table now).2.errors } := by
  obtain ⟨table, htable, hstep⟩ := (Stamps.Tracks.nil options.inputs).exists_step earlier now after
  refine ⟨table, htable, ?_⟩
  rw [watch_eq_watchFrom, hlooks]
  cases earlier with
  | nil =>
    rw [List.length_nil, ← List.head?_eq_getElem?] at hstep ⊢
    rw [List.head?_modifyHead, hstep]
    rfl
  | cons first earlier => simpa using hstep

/-- A watch goes on over all looks, whatever they find, and then succeeds. At each look it writes what
the history says, and before the first one a line that greets. -/
theorem transcript_of_watch (options : Options) (disk : Disk) (later : List Disk) :
    ∃ steps, (Plan.watch options).transcript disk later = ⟨0, steps⟩ ∧
      (∀ texts, plan texts disk = .ok (.watch options) →
        transcript texts disk later = .ok ⟨0, steps⟩) ∧
      steps.length = (disk :: later).length ∧
      ∀ earlier now after, disk :: later = earlier ++ now :: after →
        ∃ written, options.Looks earlier now written ∧
          steps[earlier.length]? = some { written with
            errors := (if earlier = [] then options.greeting else "") ++ written.errors } := by
  refine ⟨watch options disk later, rfl, ?_, ?_, ?_⟩
  · intro texts hplan
    rw [transcript, hplan]
    rfl
  · rw [watch_eq_watchFrom, List.length_modifyHead, length_watchFrom]
  · intro earlier now after hlooks
    obtain ⟨table, htable, hstep⟩ := exists_step_of_watch options hlooks
    exact ⟨_, htable.looks_step now, hstep⟩

/-- Nothing has changed at the second look, and nothing is written. -/
theorem transcript_of_watch_idle :
    ∃ steps, transcript ["a.scad", "--watch"]
        (Tree.empty.write ["a.scad"] (Utf8.encode "x = 5".toList) 0).disk
        [(Tree.empty.write ["a.scad"] (Utf8.encode "x = 5".toList) 0).disk] = .ok ⟨0, steps⟩ ∧
      steps[1]? = some ⟨"", ""⟩ := by
  let disk := (Tree.empty.write ["a.scad"] (Utf8.encode "x = 5".toList) 0).disk
  obtain ⟨steps, -, htranscript, -, hlooks⟩ :=
    transcript_of_watch ⟨[.ofString "a.scad"], [], .text, false, false, true⟩ disk [disk]
  obtain ⟨written, hlook, hwritten⟩ := hlooks [disk] disk [] rfl
  have hidle : ∀ path stamp, disk.stamp? path = some stamp →
      lastStamp? [disk] path = some stamp := by
    intro path stamp hstamp
    rw [← List.nil_append [disk], lastStamp?_append_singleton, hstamp, Option.some_or]
  refine ⟨steps, htranscript ["a.scad", "--watch"] rfl, ?_⟩
  cases hlook with
  | idle => exact hwritten
  | linted due | failed due =>
    obtain ⟨path, -, stamp, hstamp, hlast⟩ := due
    exact absurd (hidle path stamp hstamp) hlast

end ScadText
