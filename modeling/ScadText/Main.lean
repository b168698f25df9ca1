import ScadText.Command.Program

/-!
# The command line

Looks at the real disk, and writes what the program decides.
-/

namespace ScadText

/-- The number of a refusal by the system, which may come with a minus sign. -/
def systemNumber? : IO.Error → Option Nat
  | .noFileOrDirectory _ number _ | .invalidArgument _ number _ | .permissionDenied _ number _
  | .inappropriateType _ number _ | .resourceExhausted _ number _ =>
    some number.toInt32.toInt.natAbs
  | _ => none

/-- An answer of the system, or its refusal. -/
def attempt {α : Type} (question : IO α) : IO (Except Refusal α) := do
  try
    return .ok (← question)
  catch error =>
    match (systemNumber? error).bind Refusal.ofNumber? with
    | some refusal => return .error refusal
    | none => throw error

/-- Whether a path leads to a file, and when it was last changed. -/
def statusOf (path : Path) : IO Status := do
  let found ← (IO.FS.DirEntry.mk "." path.render).path.metadata
  let isFile := match found.type with
    | .file => true
    | _ => false
  return ⟨isFile, found.modified.sec * 1000000000 + found.modified.nsec.toNat⟩

def lookAt (path : Path) : IO Look := do
  let status ← attempt (statusOf path)
  let bytes ← attempt (IO.FS.readBinFile path.render)
  return ⟨path, status, bytes.map fun bytes => bytes.toList⟩

/-- The disk as far as some paths are concerned. -/
def diskAt (paths : List Path) : IO Disk := return Disk.ofLooks (← paths.mapM lookAt)

def Written.show (written : Written) : IO Unit := do
  let output ← IO.getStdout
  output.putStr written.output
  output.flush
  (← IO.getStderr).putStr written.errors

/-- The time between two looks, in milliseconds. -/
def pause : UInt32 := 500

/-- Looks at the disk until it is interrupted. -/
partial def keepWatching (options : Options) (stamps : Stamps) : IO Unit := do
  let (stamps, written) := options.step stamps (← diskAt options.inputs)
  written.show
  IO.sleep pause
  keepWatching options stamps

def carryOut : Plan → IO UInt32
  | .answer outcome => do
    outcome.written.show
    return outcome.status.toUInt32
  | .once options => do
    let outcome := options.run (← diskAt options.inputs)
    outcome.written.show
    return outcome.status.toUInt32
  | .watch options => do
    (Written.mk "" options.greeting).show
    keepWatching options []
    return 0

end ScadText

def main (texts : List String) : IO UInt32 := do
  let disk ← ScadText.diskAt (ScadText.configPaths texts)
  match ScadText.plan texts disk with
  | .ok plan => ScadText.carryOut plan
  | .error breakdown =>
    IO.eprintln breakdown.message
    return 1
