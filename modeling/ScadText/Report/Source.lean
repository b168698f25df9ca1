import ScadText.Disk.Basic
import ScadText.Text.LineEnds
import ScadText.Text.Utf8

/-!
# Sources on a disk

A source is read as UTF-8, and all its line ends become line feeds. A byte order mark stays in it.
-/

namespace ScadText

/-- Why a source cannot be read. -/
inductive ReadFault where
  | refused (fault : FileFault)
  | badEncoding (fault : Utf8.Fault)
  deriving DecidableEq, Repr

def ReadFault.message : ReadFault → String
  | .refused fault => fault.message
  | .badEncoding fault => fault.message

/-- The source in the bytes of a file. -/
def sourceOfBytes (bytes : List UInt8) : Except Utf8.Fault (List Char) :=
  (Utf8.decode bytes).map Text.unifyLineEnds

/-- The source at a path. -/
def readSource (disk : Disk) (path : Path) : Except ReadFault (List Char) :=
  match disk.read path with
  | .error refusal => .error (.refused ⟨refusal, path⟩)
  | .ok bytes => (sourceOfBytes bytes).mapError .badEncoding

end ScadText
