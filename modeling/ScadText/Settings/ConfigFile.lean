import ScadText.Settings.Options
import ScadText.Text.LineEnds
import ScadText.Toml.Parser

/-!
# The configuration file

A file that the command line names must exist. Otherwise one is looked for beside the first input,
and where there is none the configuration is empty.

## Main definitions

* `isFile`: whether a path leads to a file, which a disk may refuse to say.
* `readConfig`: the configuration in a file.
* `resolve`: the options of a run.
-/

namespace ScadText

/-- Whether a path leads to a file. Nothing stands at a path that does not exist or goes through a
file. -/
def isFile (disk : Disk) (path : Path) : Except FileFault Bool :=
  match disk.status path with
  | .ok status => .ok status.isFile
  | .error .missing | .error .notDirectory => .ok false
  | .error refusal => .error ⟨refusal, path⟩

/-- The configuration in the bytes of the file at a path. -/
def configOfBytes (path : Path) (bytes : List UInt8) : Except ResolveFault Toml.Table :=
  match Utf8.decode bytes with
  | .error fault => .error (.config ⟨.badEncoding fault, path⟩)
  | .ok text =>
    match Toml.parse (Text.joinLineEnds text) with
    | .error .invalid => .error (.config ⟨.badToml, path⟩)
    | .error (.longNumber digits) => .error (.breakdown (.probe (.longNumber digits)))
    | .ok config => .ok config

/-- The configuration in the file at a path. -/
def readConfig (disk : Disk) (path : Path) : Except ResolveFault Toml.Table :=
  match disk.read path with
  | .error refusal => .error (.config ⟨.unreadable refusal, path⟩)
  | .ok bytes => configOfBytes path bytes

/-- The name of the file that is looked for. -/
def configName : String := "scadlint.toml"

namespace Arguments

/-- The path of a configuration which the command line names; an empty text names none. -/
def namedConfig? (arguments : Arguments) : Option Path :=
  (arguments.config.filter (!·.isEmpty)).map Path.ofString

/-- The path of the configuration, which may lead nowhere. -/
def configPath (arguments : Arguments) : Path :=
  arguments.namedConfig?.getD ((Path.ofString arguments.first).parent.child configName)

end Arguments

/-- The configuration of a run. -/
def findConfig (disk : Disk) (arguments : Arguments) : Except ResolveFault Toml.Table := do
  let path := arguments.configPath
  if ← (isFile disk path).mapError (.breakdown ∘ .probe ∘ .refused) then readConfig disk path
  else if arguments.namedConfig?.isSome then .error (.config ⟨.notFound, path⟩)
  else return []

/-- The options of a run. -/
def resolve (disk : Disk) (arguments : Arguments) : Except ResolveFault Options := do
  let config ← findConfig disk arguments
  Options.merge config arguments.configPath arguments

end ScadText
