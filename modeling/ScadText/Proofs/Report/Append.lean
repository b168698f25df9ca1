import ScadText.Proofs.Json.Read
import ScadText.Proofs.Report.Channels

/-!
# Runs over more inputs

A run over two lists of inputs, one after the other, does what the two runs do that have one of the
lists each. Where the first list has an input without a source, the second is not looked at.

## Main definitions

* `Options.runOn`: the outcome of a run over some inputs.
* `Outcome.array?`: what is written to the output, read as JSON.

## Main statements

* `Batch.outcome_append`: what is made of two batches without a fault.
* `Options.runOn_append`: the outcome over two lists.
-/

namespace ScadText

variable {disk : Disk} {paths : List Path}

/-- The outcome of a run over these inputs. -/
def Options.runOn (options : Options) (disk : Disk) (paths : List Path) : Outcome :=
  { options with inputs := paths }.run disk

/-- What is written to the output, read as JSON. -/
def Outcome.array? (outcome : Outcome) : Option (List Json.Record) :=
  Json.read? outcome.written.output.toList

/-! ## Two batches -/

theorem Batch.exists_reports (options : Options) (h : ∀ p ∈ paths, ∃ source, disk.Holds p source) :
    ∃ reports, ofPaths options disk paths = ⟨reports, none⟩ := by
  choose! source hsource using h
  exact ⟨_, ofPaths_of_holds options hsource⟩

theorem Options.runOn_eq (options : Options) (disk : Disk) (paths : List Path) :
    options.runOn disk paths = (Batch.ofPaths options disk paths).outcome options := by
  have hignore : { options with inputs := paths }.ignore = options.ignore := rfl
  rw [runOn, run, Batch.ofPaths_of_ignore_eq hignore]
  rfl

/-- What is written in JSON for reports are their records and a line feed. -/
theorem OutputFormat.toList_render_json (reports : List Report) :
    (json.render reports).toList = Json.render (reports.flatMap Report.records) ++ ['\n'] := by
  rw [render, String.toList_append, String.toList_ofList]
  rfl

/-- What is written in JSON for reports reads as their records. -/
theorem OutputFormat.read?_render (reports : List Report) :
    Json.read? (OutputFormat.json.render reports).toList =
      some (reports.flatMap Report.records) := by
  rw [toList_render_json]
  exact Json.read?_render (List.forall_mem_singleton.mpr rfl) _

theorem Batch.outcome_append (options : Options) (xs ys : List Report) :
    let outcome (reports : List Report) := (Batch.mk reports none).outcome options
    (outcome (xs ++ ys)).status = max (outcome xs).status (outcome ys).status ∧
    (outcome (xs ++ ys)).written.errors =
      (outcome xs).written.errors ++ (outcome ys).written.errors ∧
    (options.format = .text →
      (outcome (xs ++ ys)).written.output =
        (outcome xs).written.output ++ (outcome ys).written.output) ∧
    (options.format = .json →
      ∃ as bs, (outcome xs).array? = some as ∧ (outcome ys).array? = some bs ∧
        (outcome (xs ++ ys)).array? = some (as ++ bs)) := by
  dsimp only [outcome]
  refine ⟨?_, ?_, ?_, ?_⟩
  · have hfindings : (Batch.mk (xs ++ ys) none).findings =
        (Batch.mk xs none).findings ++ (Batch.mk ys none).findings := List.flatMap_append
    rw [hfindings, List.any_append]
    grind
  · have hlisting : (Batch.mk (xs ++ ys) none).listing =
        (Batch.mk xs none).listing ++ (Batch.mk ys none).listing := by
      rw [listing, List.map_append, String.join_append]
      rfl
    cases options.tokens with
    | true => exact hlisting
    | false => rfl
  · intro htext
    simp only [htext, OutputFormat.render, List.map_append, String.join_append]
  · intro hjson
    simp only [hjson, Outcome.array?, OutputFormat.read?_render, List.flatMap_append]
    exact ⟨_, _, rfl, rfl, rfl⟩

/-- A run over two lists of inputs, one after the other. Where there is a source at every input, the
exit status is the greater one of the runs over each list, and what they write beside the output
comes one after the other. So does what they write to the output: as text, or as one array, which
holds the records of both. Where the first list has an input without a source, the second list
changes nothing. -/
theorem Options.runOn_append (options : Options) (disk : Disk) (xs ys : List Path) :
    let run := options.runOn disk
    ((∀ p ∈ xs ++ ys, ∃ source, disk.Holds p source) →
      (run (xs ++ ys)).status = max (run xs).status (run ys).status ∧
      (run (xs ++ ys)).written.errors = (run xs).written.errors ++ (run ys).written.errors ∧
      (options.format = .text →
        (run (xs ++ ys)).written.output =
          (run xs).written.output ++ (run ys).written.output) ∧
      (options.format = .json →
        ∃ as bs, (run xs).array? = some as ∧ (run ys).array? = some bs ∧
          (run (xs ++ ys)).array? = some (as ++ bs))) ∧
    ((∃ p ∈ xs, ∃ fault, disk.Lacks p fault) → run (xs ++ ys) = run xs) := by
  dsimp only
  constructor
  · intro hholds
    obtain ⟨hxs, hys⟩ := List.forall_mem_append.mp hholds
    obtain ⟨first, hfirst⟩ := Batch.exists_reports options hxs
    obtain ⟨second, hsecond⟩ := Batch.exists_reports options hys
    have hboth : Batch.ofPaths options disk (xs ++ ys) = ⟨first ++ second, none⟩ := by
      rw [Batch.ofPaths_append (by rw [hfirst]), hfirst, hsecond]
    simp only [runOn_eq, hboth, hfirst, hsecond]
    exact Batch.outcome_append options first second
  · intro hlacks
    obtain ⟨fault, hfault⟩ := Batch.exists_fault_iff.mpr hlacks
    rw [runOn_eq, runOn_eq, Batch.ofPaths_append_of_fault hfault]

/-- The one input there is, given once and then twice more, and after an input that is missing. -/
theorem Options.runOn_append_repeated :
    let disk := (Tree.empty.write ["a.scad"] (Utf8.encode "x = $a".toList) 0).disk
    let options : Options := ⟨[], [], .json, true, true, false⟩
    let here := Path.ofString "a.scad"
    let missing := Path.ofString "b.scad"
    (options.runOn disk ([here] ++ [here, here])).status = 1 ∧
    (∃ as bs, (options.runOn disk [here]).array? = some as ∧
      (options.runOn disk [here, here]).array? = some bs ∧
      (options.runOn disk ([here] ++ [here, here])).array? = some (as ++ bs)) ∧
    options.runOn disk ([missing] ++ [here]) = options.runOn disk [missing] := by
  intro disk options here missing
  have hholds : ∀ p ∈ [here] ++ [here, here], ∃ source, disk.Holds p source := by
    simp only [List.cons_append, List.nil_append, List.forall_mem_cons]
    exact ⟨⟨_, _, rfl, rfl⟩, ⟨_, _, rfl, rfl⟩, ⟨_, _, rfl, rfl⟩, nofun⟩
  have hlacks : ∃ p ∈ [missing], ∃ fault, disk.Lacks p fault :=
    ⟨missing, List.mem_singleton_self _, _, .refused rfl⟩
  have hone : (options.runOn disk [here]).status = 1 := by decide +kernel
  have htwo : (options.runOn disk [here, here]).status = 1 := by decide +kernel
  obtain ⟨hstatus, -, -, harray⟩ := (runOn_append options disk [here] [here, here]).1 hholds
  rw [hone, htwo] at hstatus
  exact ⟨hstatus, harray rfl, (runOn_append options disk [missing] [here]).2 hlacks⟩

end ScadText
