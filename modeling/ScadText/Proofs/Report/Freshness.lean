import Mathlib.Data.Nat.Find
import ScadText.Proofs.Report.Watch

/-!
# When the latest run of a watch is up to date

Where all inputs can be read, the latest run should have written what a run would write now. It has,
if every change of what is at an input shows as a change of its stamp or of whether it is found,
unless an input reads otherwise now and this goes unnoticed. There are two ways to that. The stamp
of a missing input stays in the table, and so an input that comes back with the stamp which it had
passes for one that has never been away. And a stamp does not tell whether an input can be read.

## Main definitions

* `Options.RunsAt`, `Options.LatestRun`: the looks at which a run is due, and the latest of them.
* `Options.ShowsChanges`: looks between which every change shows.
* `Returns`, `Withheld`: an input comes back with its old stamp, or is found but cannot be read.
* `Unnoticed`: an input that reads otherwise now, in one of these two cases.

## Main statements

* `Options.LatestRun.stamp?_eq`: an input that has not come back has kept its stamp since.
* `Options.LatestRun.read_eq`: what can be read now could be read at the latest run.
* `latest_run_of_readable`: what the latest run has written.
* `latest_run_of_returned`: a run that fails for a missing input stays the latest after the input is
  back.
-/

namespace ScadText

/-- A run is due at a look, which counts from zero. -/
def Options.RunsAt (options : Options) (looks : List Disk) (i : Nat) : Prop :=
  ∃ now, looks[i]? = some now ∧ options.Due (looks.take i) now

/-- The latest run up to look `n` is at look `k`. -/
structure Options.LatestRun (options : Options) (looks : List Disk) (k n : Nat) : Prop where
  le : k ≤ n
  runs : options.RunsAt looks k
  quiet : ∀ j, k < j → j ≤ n → ¬ options.RunsAt looks j

/-- What can be read is found. Besides, something or nothing is at each input, whether or not it can
be read, and between two looks every change of that shows as a change of the stamp, or of whether
the input is found. -/
structure Options.ShowsChanges (options : Options) (looks : List Disk) : Prop where
  found : ∀ look ∈ looks, ∀ path ∈ options.inputs, ∀ bytes, look.read path = .ok bytes →
    look.stamp? path ≠ none
  shows : ∃ contents : Nat → Path → Option (List UInt8),
    (∀ i look, looks[i]? = some look → ∀ path ∈ options.inputs, ∀ bytes,
      look.read path = .ok bytes → contents i path = some bytes) ∧
    ∀ i before now, looks[i]? = some before → looks[i + 1]? = some now →
      ∀ path ∈ options.inputs, contents i path ≠ contents (i + 1) path →
        before.stamp? path ≠ now.stamp? path

/-- At a look after look `k` and up to look `n`, a path that was missing at the look before is
found, with the stamp which it had when it was found last. -/
def Returns (looks : List Disk) (k n : Nat) (path : Path) : Prop :=
  ∃ i before now stamp, k ≤ i ∧ i < n ∧ looks[i]? = some before ∧ looks[i + 1]? = some now ∧
    before.stamp? path = none ∧ now.stamp? path = some stamp ∧
    lastStamp? (looks.take i) path = some stamp

/-- At look `k` a path is found but cannot be read. -/
def Withheld (looks : List Disk) (k : Nat) (path : Path) : Prop :=
  ∃ look refusal, looks[k]? = some look ∧ look.stamp? path ≠ none ∧ look.read path = .error refusal

/-- At look `n` a path reads otherwise than at look `k`, after it has come back with its old stamp,
or because it could not be read. -/
structure Unnoticed (looks : List Disk) (k n : Nat) (path : Path) : Prop where
  changed : ∀ before now, looks[k]? = some before → looks[n]? = some now →
    before.read path ≠ now.read path
  cause : Returns looks k n path ∨ Withheld looks k path

variable {options : Options} {looks : List Disk} {before now other : Disk} {path : Path}
  {paths : List Path} {i k n : Nat}

/-! ## Runs and stamps -/

theorem exists_look (hn : looks[n]? = some now) (h : i ≤ n) : ∃ look, looks[i]? = some look := by
  have hlt := (List.getElem?_eq_some_iff.mp hn).1
  exact ⟨_, List.getElem?_eq_getElem (Nat.lt_of_le_of_lt h hlt)⟩

theorem lastStamp?_take_succ (h : looks[i]? = some now) (path : Path) :
    lastStamp? (looks.take (i + 1)) path =
      (now.stamp? path).or (lastStamp? (looks.take i) path) := by
  rw [List.take_add_one, h, Option.toList_some, lastStamp?_append_singleton]

/-- Without a run at a look, what it finds has been found before. -/
theorem lastStamp?_of_not_runsAt (h : looks[i]? = some now) (hquiet : ¬ options.RunsAt looks i)
    (hpath : path ∈ options.inputs) {stamp : Int} (hstamp : now.stamp? path = some stamp) :
    lastStamp? (looks.take i) path = some stamp := by
  by_contra hne
  exact hquiet ⟨now, h, path, hpath, stamp, hstamp, hne⟩

/-- Where an input is found, there has been a run. -/
theorem exists_runsAt (hn : looks[n]? = some now) (hpath : path ∈ options.inputs)
    (hfound : now.stamp? path ≠ none) : ∃ k ≤ n, options.RunsAt looks k := by
  by_contra hnone
  push Not at hnone
  -- As long as there is no run, the input has never been found.
  have hunseen : ∀ i ≤ n, lastStamp? (looks.take i) path = none := by
    intro i hi
    induction i with
    | zero => rfl
    | succ i ih =>
      obtain ⟨look, hlook⟩ := exists_look hn (Nat.le_of_succ_le hi)
      rw [lastStamp?_take_succ hlook, ih (by omega)]
      cases hstamp : look.stamp? path with
      | none => rfl
      | some stamp =>
        have hseen := lastStamp?_of_not_runsAt hlook (hnone i (by omega)) hpath hstamp
        rw [ih (by omega)] at hseen
        cases hseen
  obtain ⟨stamp, hstamp⟩ := Option.ne_none_iff_exists'.mp hfound
  have hseen := lastStamp?_of_not_runsAt hn (hnone n (Nat.le_refl n)) hpath hstamp
  rw [hunseen n (Nat.le_refl n)] at hseen
  cases hseen

open Classical in
theorem exists_latestRun (h : ∃ k ≤ n, options.RunsAt looks k) :
    ∃ k, options.LatestRun looks k n := by
  obtain ⟨k, hle, hruns⟩ := h
  refine ⟨Nat.findGreatest (options.RunsAt looks) n, Nat.findGreatest_le n,
    Nat.findGreatest_spec hle hruns, ?_⟩
  intro j hlt hj
  exact Nat.findGreatest_is_greatest hlt hj

/-! ## Since the latest run -/

/-- If there is no run at a look and a path that is found there has not come back, it had the same
stamp at the look before. -/
theorem stamp?_eq_of_not_runsAt (hbefore : looks[i]? = some before)
    (hnow : looks[i + 1]? = some now) (hquiet : ¬ options.RunsAt looks (i + 1))
    (hpath : path ∈ options.inputs) {stamp : Int} (hstamp : now.stamp? path = some stamp)
    (hreturns : ¬ Returns looks i (i + 1) path) : before.stamp? path = some stamp := by
  have hseen := lastStamp?_of_not_runsAt hnow hquiet hpath hstamp
  rw [lastStamp?_take_succ hbefore] at hseen
  cases hold : before.stamp? path with
  | some old => rwa [hold, Option.some_or] at hseen
  | none =>
    rw [hold, Option.none_or] at hseen
    exact absurd ⟨i, before, now, stamp, Nat.le_refl i, Nat.lt_succ_self i, hbefore, hnow, hold,
      hstamp, hseen⟩ hreturns

theorem Returns.mono {j m : Nat} (h : Returns looks j m path) (hk : k ≤ j) (hn : m ≤ n) :
    Returns looks k n path := by
  obtain ⟨i, before, now, stamp, hj, hm, hlooks⟩ := h
  exact ⟨i, before, now, stamp, Nat.le_trans hk hj, Nat.lt_of_lt_of_le hm hn, hlooks⟩

/-- A path that is found now and has not come back since the latest run has had its stamp at all
looks since then. -/
theorem Options.LatestRun.stamp?_eq (h : options.LatestRun looks k n)
    (hreturns : ¬ Returns looks k n path) (hpath : path ∈ options.inputs)
    (hn : looks[n]? = some now) {stamp : Int} (hstamp : now.stamp? path = some stamp) {j : Nat}
    (hkj : k ≤ j) (hjn : j ≤ n) (hj : looks[j]? = some before) :
    before.stamp? path = some stamp := by
  -- Backwards from look `n`, where the stamp is found.
  refine Nat.decreasingInduction'
    (P := fun j => ∀ look, looks[j]? = some look → look.stamp? path = some stamp)
    ?_ hjn ?_ before hj
  · intro i hi hji ih look hlook
    obtain ⟨next, hnext⟩ := exists_look hn (Nat.succ_le_of_lt hi)
    exact stamp?_eq_of_not_runsAt hlook hnext (h.quiet (i + 1) (by omega) hi) hpath
      (ih _ hnext) (mt (·.mono (by omega) hi) hreturns)
  · intro look hlook
    obtain rfl := Option.some.inj (hn.symm.trans hlook)
    exact hstamp

/-- What can be read now could be read at the latest run, unless the change goes unnoticed. -/
theorem Options.LatestRun.read_eq (h : options.LatestRun looks k n)
    (hshows : options.ShowsChanges looks) (hpath : path ∈ options.inputs)
    (hnone : ¬ Unnoticed looks k n path) (hk : looks[k]? = some before) (hn : looks[n]? = some now)
    {bytes : List UInt8} (hread : now.read path = .ok bytes) : before.read path = .ok bytes := by
  by_contra hchange
  have hchanged : ∀ cause : Returns looks k n path ∨ Withheld looks k path, False := by
    intro cause
    refine hnone ⟨fun look other hlook hother => ?_, cause⟩
    obtain rfl := Option.some.inj (hk.symm.trans hlook)
    obtain rfl := Option.some.inj (hn.symm.trans hother)
    rwa [hread]
  have hfound := hshows.found now (List.mem_of_getElem? hn) path hpath bytes hread
  obtain ⟨stamp, hstamp⟩ := Option.ne_none_iff_exists'.mp hfound
  have hreturns : ¬ Returns looks k n path := fun hback => hchanged (.inl hback)
  obtain ⟨contents, hcontents, hvisible⟩ := hshows.shows
  -- Since the stamp has not changed, nor has what is at the input.
  have hsame : contents k path = some bytes := by
    refine Nat.decreasingInduction' (P := fun j => contents j path = some bytes) ?_ h.le
      (hcontents n now hn path hpath bytes hread)
    intro j hjn hkj ih
    obtain ⟨look, hlook⟩ := exists_look hn (Nat.le_of_lt hjn)
    obtain ⟨next, hnext⟩ := exists_look hn (Nat.succ_le_of_lt hjn)
    by_contra hdiffers
    refine hvisible j _ _ hlook hnext path hpath (by rwa [ih]) ?_
    rw [h.stamp?_eq hreturns hpath hn hstamp hkj (Nat.le_of_lt hjn) hlook,
      h.stamp?_eq hreturns hpath hn hstamp (Nat.le_succ_of_le hkj) hjn hnext]
  cases hbefore : before.read path with
  | ok other =>
    have hother := hcontents k before hk path hpath other hbefore
    rw [hsame, Option.some.injEq] at hother
    exact hchange (hother ▸ hbefore)
  | error refusal =>
    have hthere := h.stamp?_eq hreturns hpath hn hstamp (Nat.le_refl k) h.le hk
    exact hchanged (.inr ⟨before, refusal, hk, by simp [hthere], hbefore⟩)

/-! ## What the latest run has written -/

theorem Batch.ofPaths_congr (h : ∀ path ∈ paths, now.read path = other.read path) :
    Batch.ofPaths options now paths = Batch.ofPaths options other paths := by
  induction paths with
  | nil => rfl
  | cons path paths ih =>
    obtain ⟨hpath, hpaths⟩ := List.forall_mem_cons.mp h
    rw [Batch.ofPaths, Batch.ofPaths, readSource, readSource, hpath, ih hpaths]

/-- A run depends on what is read at the inputs only. -/
theorem Options.rerun_congr (h : ∀ path ∈ options.inputs, now.read path = other.read path) :
    options.rerun now = options.rerun other := by
  rw [rerun, rerun, Batch.ofPaths_congr h]

/-- What a watch writes at a look where a run is due. -/
theorem getElem?_watch {disk : Disk} {later : List Disk} (hk : (disk :: later)[k]? = some now)
    (due : options.Due ((disk :: later).take k) now) :
    (watch options disk later)[k]? = some { options.rerun now with
      errors := (if k = 0 then options.greeting else "") ++ (options.rerun now).errors } := by
  obtain ⟨hlt, rfl⟩ := List.getElem?_eq_some_iff.mp hk
  have hcut : disk :: later = (disk :: later).take k ++
      (disk :: later)[k] :: (disk :: later).drop (k + 1) := by
    rw [← List.drop_eq_getElem_cons hlt, List.take_append_drop]
  obtain ⟨table, htable, hstep⟩ := exists_step_of_watch options hcut
  have hnil : (disk :: later).take k = [] ↔ k = 0 := by simp
  rw [htable.step_of_due due, List.length_take_of_le (Nat.le_of_lt hlt)] at hstep
  simpa only [hnil] using hstep

/-- If changes show, then at every look where all inputs can be read there is a latest run. It has
written what a run would write now, and so reported no failure, unless some input reads otherwise
now and this goes unnoticed. -/
theorem latest_run_of_readable (options : Options) (disk : Disk) (later : List Disk)
    (nonempty : options.inputs ≠ []) (shows : options.ShowsChanges (disk :: later)) {n : Nat}
    {now : Disk} (hn : (disk :: later)[n]? = some now)
    (readable : ∀ path ∈ options.inputs, ∃ source, now.Holds path source) :
    ∃ k written, options.LatestRun (disk :: later) k n ∧
      (watch options disk later)[k]? = some written ∧
      ((∀ path ∈ options.inputs, ¬ Unnoticed (disk :: later) k n path) →
        written.output = (options.run now).written.output ∧
        written.errors = (if k = 0 then options.greeting else "") ++
          ((options.run now).written.errors ++ "Linted " ++ options.names ++ "\n")) := by
  obtain ⟨path, hpath⟩ := List.exists_mem_of_ne_nil _ nonempty
  obtain ⟨_, text, hread, -⟩ := readable path hpath
  have hfound := shows.found now (List.mem_of_getElem? hn) path hpath _ hread
  obtain ⟨k, hlatest⟩ := exists_latestRun (exists_runsAt hn hpath hfound)
  obtain ⟨before, hk, hdue⟩ := hlatest.runs
  refine ⟨k, _, hlatest, getElem?_watch hk hdue, fun hnone => ?_⟩
  have hreads : ∀ path ∈ options.inputs, before.read path = now.read path := by
    intro path hpath
    obtain ⟨_, text, hread, -⟩ := readable path hpath
    rw [hlatest.read_eq shows hpath (hnone path hpath) hk hn hread, hread]
  choose! sources hsources using readable
  rw [Options.rerun_congr hreads, Options.rerun_of_holds hsources]
  exact ⟨rfl, rfl⟩

/-! ## An input that is away for a while -/

theorem Tree.stamp?_ne_none_of_read {tree : Tree} {bytes : List UInt8}
    (h : tree.disk.read path = .ok bytes) : tree.disk.stamp? path ≠ none := by
  rw [Disk.stamp?]
  dsimp only [disk] at h ⊢
  cases hfind : tree.find path with
  | error refusal => simp [hfind, bind, Except.bind] at h
  | ok entry => simp [Except.map, Except.toOption]

/-- Two files in a directory, each with a finding. -/
def bothThere : Tree :=
  (Tree.empty.write ["a.scad"] (Utf8.encode "x = 5".toList) 1000).write ["b.scad"]
    (Utf8.encode "y = 6".toList) 1000

/-- The first file is away, and the second has a new stamp. -/
def oneAway : Tree := (bothThere.delete ["a.scad"]).touch ["b.scad"] 2000

/-- The first file is back as it was, with a stamp. -/
def bothBack (stamp : Int) : Tree := oneAway.write ["a.scad"] (Utf8.encode "x = 5".toList) stamp

def watchBoth : Options :=
  ⟨[.ofString "a.scad", .ofString "b.scad"], [], .json, false, false, true⟩

/-- The looks at a directory from which a file is away for a while. -/
def awayLooks (stamp : Int) : List Disk := [bothThere.disk, oneAway.disk, (bothBack stamp).disk]

theorem readable_bothBack (stamp : Int) :
    ∀ path ∈ watchBoth.inputs, ∃ source, (bothBack stamp).disk.Holds path source := by
  intro path hpath
  simp only [watchBoth, List.mem_cons, List.not_mem_nil, or_false] at hpath
  obtain rfl | rfl := hpath
  · exact ⟨_, "x = 5".toList, rfl, rfl⟩
  · exact ⟨_, "y = 6".toList, rfl, rfl⟩

theorem showsChanges_awayLooks (stamp : Int) : watchBoth.ShowsChanges (awayLooks stamp) := by
  refine ⟨?_, fun i path => ((awayLooks stamp)[i]?.map (·.read path)).bind Except.toOption, ?_, ?_⟩
  · intro look hlook path _ bytes hread
    simp only [awayLooks, List.mem_cons, List.not_mem_nil, or_false] at hlook
    obtain rfl | rfl | rfl := hlook <;> exact Tree.stamp?_ne_none_of_read hread
  · intro i look hlook path _ bytes hread
    simp [hlook, hread, Except.toOption]
  · intro i before now hbefore hnow path hpath hne
    simp only [watchBoth, List.mem_cons, List.not_mem_nil, or_false] at hpath
    match i with
    | 0 =>
      obtain rfl := Option.some.inj hbefore
      obtain rfl := Option.some.inj hnow
      obtain rfl | rfl := hpath <;> decide +kernel
    | 1 =>
      obtain rfl := Option.some.inj hbefore
      obtain rfl := Option.some.inj hnow
      obtain rfl | rfl := hpath
      · exact nofun
      · exact absurd rfl hne
    | i + 2 => cases hnow

/-- What is found there can be read. -/
theorem not_withheld_awayLooks (stamp : Int) (hpath : path ∈ watchBoth.inputs) :
    ¬ Withheld (awayLooks stamp) k path := by
  rintro ⟨look, refusal, hlook, hfound, hread⟩
  have hmem := List.mem_of_getElem? hlook
  simp only [awayLooks, List.mem_cons, List.not_mem_nil, or_false] at hmem
  simp only [watchBoth, List.mem_cons, List.not_mem_nil, or_false] at hpath
  obtain rfl | rfl | rfl := hmem <;> obtain rfl | rfl := hpath
  all_goals first | exact hfound rfl | cases hread

theorem latestRun_awayLooks : watchBoth.LatestRun (awayLooks 1000) 1 2 := by
  refine ⟨by omega, ⟨oneAway.disk, rfl, .ofString "b.scad", by simp [watchBoth], 2000, rfl, ?_⟩, ?_⟩
  · decide +kernel
  · intro j hlt hle
    obtain rfl : j = 2 := by omega
    rintro ⟨now, hnow, path, hpath, stamp, hstamp, hlast⟩
    obtain rfl := Option.some.inj hnow
    simp only [watchBoth, List.mem_cons, List.not_mem_nil, or_false] at hpath
    -- Both files have the stamps which they had when they were found last.
    obtain rfl | rfl := hpath <;> obtain rfl := Option.some.inj hstamp <;> exact hlast rfl

/-- A file is away when the other one changes, and the run fails. Then it is back as it was, and there
is no run: the failure stays the latest that is written. -/
theorem latest_run_of_returned :
    transcript ["a.scad", "b.scad", "--watch", "--format", "json"] bothThere.disk
        [oneAway.disk, (bothBack 1000).disk] =
      .ok ⟨0, watch watchBoth bothThere.disk [oneAway.disk, (bothBack 1000).disk]⟩ ∧
    watchBoth.ShowsChanges (awayLooks 1000) ∧
    (∀ path ∈ watchBoth.inputs, ∃ source, (bothBack 1000).disk.Holds path source) ∧
    watchBoth.LatestRun (awayLooks 1000) 1 2 ∧
    (watch watchBoth bothThere.disk [oneAway.disk, (bothBack 1000).disk])[1]? =
      some ⟨"", "error: [Errno 2] No such file or directory: 'a.scad'\n"⟩ ∧
    (watch watchBoth bothThere.disk [oneAway.disk, (bothBack 1000).disk])[2]? = some ⟨"", ""⟩ ∧
    "" ≠ (watchBoth.run (bothBack 1000).disk).written.output := by
  refine ⟨rfl, showsChanges_awayLooks 1000, readable_bothBack 1000, latestRun_awayLooks, rfl, rfl,
    ?_⟩
  have hfault : (Batch.ofPaths watchBoth (bothBack 1000).disk watchBoth.inputs).fault = none := rfl
  rw [Options.run, Batch.outcome, hfault]
  simp [watchBoth, OutputFormat.render]

/-- Had the file a new stamp, the failure would be followed by a run. -/
theorem latest_run_of_readable_stamped :
    ∃ k written, watchBoth.LatestRun (awayLooks 3000) k 2 ∧
      (watch watchBoth bothThere.disk [oneAway.disk, (bothBack 3000).disk])[k]? = some written ∧
      written.output = (watchBoth.run (bothBack 3000).disk).written.output := by
  have hnow : (awayLooks 3000)[2]? = some (bothBack 3000).disk := rfl
  obtain ⟨k, written, hlatest, hk, hwritten⟩ :=
    latest_run_of_readable watchBoth bothThere.disk [oneAway.disk, (bothBack 3000).disk]
      (List.cons_ne_nil _ _) (showsChanges_awayLooks 3000) hnow (readable_bothBack 3000)
  refine ⟨k, written, hlatest, hk, (hwritten ?_).1⟩
  rintro path hpath ⟨-, returns | withheld⟩
  · obtain ⟨i, before, now, stamp, -, hi, hbefore, hnow, hstamp, hback, hlast⟩ := returns
    simp only [watchBoth, List.mem_cons, List.not_mem_nil, or_false] at hpath
    match i with
    | 0 => cases hlast
    | 1 =>
      obtain rfl := Option.some.inj hbefore
      obtain rfl := Option.some.inj hnow
      obtain rfl | rfl := hpath
      · cases hback
        cases hlast
      · cases hstamp
  · exact not_withheld_awayLooks 3000 hpath withheld

end ScadText
