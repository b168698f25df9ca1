import ScadText.Disk.Path
import ScadText.Unicode.Quoted

/-!
# What a program can ask of a disk

A disk is known by the answers it gives at one moment. Each question about a path is answered or
refused.

## Main definitions

* `Refusal`, `FileFault`: why a question was refused, and for which path, with its message.
* `Status`: whether a path leads to a file, and a stamp that changes when it does.
* `Disk`, `Disk.ofLooks`: the answers, and those which a look at each of several paths gives.
-/

namespace ScadText

/-- Why a disk refuses an answer. Other reasons, such as a path that goes in circles, are left out,
and so are paths that no disk takes because they hold the character NUL. -/
inductive Refusal where
  | missing | denied | notDirectory | isDirectory | nameTooLong
  deriving DecidableEq, Repr

/-- The number by which systems know a refusal. -/
def Refusal.number : Refusal → Nat
  | .missing => 2
  | .denied => 13
  | .notDirectory => 20
  | .isDirectory => 21
  | .nameTooLong => 36

/-- The refusal with a given number. -/
def Refusal.ofNumber? (number : Nat) : Option Refusal :=
  [missing, denied, notDirectory, isDirectory, nameTooLong].find? (·.number == number)

theorem Refusal.ofNumber?_number (r : Refusal) : ofNumber? r.number = some r := by
  cases r <;> decide

def Refusal.text : Refusal → String
  | .missing => "No such file or directory"
  | .denied => "Permission denied"
  | .notDirectory => "Not a directory"
  | .isDirectory => "Is a directory"
  | .nameTooLong => "File name too long"

structure FileFault where
  refusal : Refusal
  path : Path
  deriving DecidableEq, Repr

def FileFault.message (fault : FileFault) : String :=
  "[Errno " ++ toString fault.refusal.number ++ "] " ++ fault.refusal.text ++ ": " ++
    Unicode.quoted fault.path.render

structure Status where
  isFile : Bool
  stamp : Int
  deriving DecidableEq, Repr

/-- The answers of a disk at one moment. -/
structure Disk where
  status : Path → Except Refusal Status
  read : Path → Except Refusal (List UInt8)

/-- What one look at a path finds. -/
structure Look where
  path : Path
  status : Except Refusal Status
  bytes : Except Refusal (List UInt8)

/-- The disk of several looks. Where nobody looked there is nothing. -/
def Disk.ofLooks (looks : List Look) : Disk where
  status path := ((looks.find? (·.path == path)).map Look.status).getD (.error .missing)
  read path := ((looks.find? (·.path == path)).map Look.bytes).getD (.error .missing)

end ScadText
