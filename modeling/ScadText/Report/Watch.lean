import ScadText.Report.Outcome

/-!
# Watching files

At each look at the disk, the stamp of every input that can be found is compared with the one seen
at the latest look that found it. A run follows if any differs. What cannot be found is passed over
and its stamp stays.

## Main definitions

* `Stamps`, `Stamps.look`: the stamps seen, and what a look changes.
* `Options.step`, `watch`: what is written at one look, and at each of several.
-/

namespace ScadText

/-- The stamps seen last, the newest first. -/
abbrev Stamps := List (Path × Int)

/-- The stamps after a look at several paths, and whether any was new. -/
def Stamps.look (disk : Disk) (stamps : Stamps) : List Path → Stamps × Bool
  | [] => (stamps, false)
  | path :: rest =>
    match disk.status path with
    | .error _ => look disk stamps rest
    | .ok status =>
      if stamps.lookup path = some status.stamp then look disk stamps rest
      else ((look disk ((path, status.stamp) :: stamps) rest).1, true)

/-- A look leaves every stamp that it finds in the table, even if a path is given more than once. -/
theorem Stamps.lookup_look (disk : Disk) (stamps : Stamps) (paths : List Path) (path : Path) :
    (stamps.look disk paths).1.lookup path =
      if path ∈ paths then
        match disk.status path with
        | .ok status => some status.stamp
        | .error _ => stamps.lookup path
      else stamps.lookup path := by
  induction paths generalizing stamps with
  | nil => simp [look]
  | cons p rest ih =>
    rw [look]
    by_cases hp : path = p
    · subst hp
      cases hs : disk.status path with
      | error _ => simp [ih, hs]
      | ok status =>
        by_cases hl : stamps.lookup path = some status.stamp
        · simp [hl, ih, hs]
        · simp [hl, ih, hs]
    · have hbeq : (path == p) = false := by simpa using hp
      cases hs : disk.status p with
      | error _ => simp [ih, hp]
      | ok status =>
        by_cases hl : stamps.lookup p = some status.stamp
        · simp [hl, ih, hp]
        · simp [hl, ih, hp, List.lookup_cons, hbeq]

/-- The names of the inputs in a message. -/
def Options.names (options : Options) : String := ", ".intercalate (options.inputs.map Path.render)

/-- What a run after a change writes. -/
def Options.rerun (options : Options) (disk : Disk) : Written :=
  let batch := Batch.ofPaths options disk options.inputs
  let written := (batch.outcome options).written
  if batch.fault.isSome then written
  else { written with errors := written.errors ++ "Linted " ++ options.names ++ "\n" }

/-- The stamps after one look, and what the look makes the program write. -/
def Options.step (options : Options) (stamps : Stamps) (disk : Disk) : Stamps × Written :=
  let (stamps, changed) := stamps.look disk options.inputs
  (stamps, if changed then options.rerun disk else ⟨"", ""⟩)

/-- What is written at each later look. -/
def watchFrom (options : Options) (stamps : Stamps) : List Disk → List Written
  | [] => []
  | disk :: rest =>
    let (stamps, written) := options.step stamps disk
    written :: watchFrom options stamps rest

theorem length_watchFrom (options : Options) (stamps : Stamps) (disks : List Disk) :
    (watchFrom options stamps disks).length = disks.length := by
  induction disks generalizing stamps with
  | nil => rfl
  | cons disk rest ih => simp [watchFrom, ih]

/-- The line that is written before the first look. -/
def Options.greeting (options : Options) : String :=
  "Watching " ++ options.names ++ " for changes...\n"

/-- What is written at the first look and at each later one. -/
def watch (options : Options) (disk : Disk) (later : List Disk) : List Written :=
  let (stamps, written) := options.step [] disk
  { written with errors := options.greeting ++ written.errors } :: watchFrom options stamps later

end ScadText
