import ScadText.Command.Arguments
import ScadText.Settings.ConfigError
import ScadText.Toml.Document

/-!
# Options of a run

The configuration file comes first and the command line adds to it: ignored rules are put together,
either one can ask for strictness, and the output format of the command line replaces the other.
Each value is checked where it stands, so a bad one is reported even if it would be replaced.

## Main definitions

* `OutputFormat`, `Options`: what a run needs to know.
* `Options.merge`: the options of a configuration and the arguments.
-/

namespace ScadText

inductive OutputFormat where
  | text | json
  deriving DecidableEq, Repr

namespace OutputFormat

def name : OutputFormat → String
  | text => "text"
  | json => "json"

/-- The format with a given name. -/
def ofName? (name : String) : Option OutputFormat :=
  [text, json].find? (·.name == name)

theorem ofName?_name (format : OutputFormat) : ofName? format.name = some format := by
  cases format <;> decide

end OutputFormat

structure Options where
  inputs : List Path
  ignore : List Rule
  format : OutputFormat
  strict : Bool
  tokens : Bool
  watch : Bool
  deriving DecidableEq, Repr

namespace Options

/-- The table of a section, which is empty if the file has none. -/
def sectionOf (config : Toml.Table) (part : Section) : Except ConfigCause Toml.Table :=
  match config.lookup part.name with
  | none => .ok []
  | some (.table entries) => .ok entries
  | some _ => .error (.notTable part)

/-- The codes in a list of strings. -/
def codesOf : List Toml.Value → Except ConfigCause (List String)
  | [] => .ok []
  | .string code :: rest => (codesOf rest).map (code :: ·)
  | _ :: _ => .error .ignoreNotStrings

/-- The codes which a section tells to ignore. -/
def ignoredCodes (lint : Toml.Table) : Except ConfigCause (List String) :=
  match lint.lookup "ignore" with
  | none => .ok []
  | some (.array items) => codesOf items
  | some _ => .error .ignoreNotStrings

/-- The rule with a given code. -/
def ruleOf (code : String) : Except ConfigCause Rule :=
  match Rule.ofCode? code with
  | none => .error (.unknownCode code)
  | some rule => .ok rule

/-- The rules with given codes. -/
def rulesOf : List String → Except ConfigCause (List Rule)
  | [] => .ok []
  | code :: rest => do return (← ruleOf code) :: (← rulesOf rest)

/-- Whether a section asks for strictness. -/
def strictOf (lint : Toml.Table) : Except ConfigCause Bool :=
  match lint.lookup "strict" with
  | none => .ok false
  | some (.boolean value) => .ok value
  | some _ => .error .strictNotBoolean

/-- The format with a given name. -/
def formatNamed (name : String) : Except ConfigCause OutputFormat :=
  match OutputFormat.ofName? name with
  | none => .error (.unknownFormat name)
  | some format => .ok format

/-- The format which the command line gives. Nothing is shown as an empty list. -/
def formatGiven : Given → Except ConfigCause OutputFormat
  | .nothing => .error (.unknownFormat "[]")
  | .text name => formatNamed name

/-- A result whose fault is in the file at a path, or in the command line. -/
def located {α : Type} (path : Option Path) (result : Except ConfigCause α) :
    Except ResolveFault α :=
  result.mapError (.config ⟨·, path⟩)

/-- The format which a section of the file at a path asks for. A value that is none is shown, if it
can be. -/
def formatOf (path : Path) (output : Toml.Table) : Except ResolveFault OutputFormat :=
  match output.lookup "format" with
  | none => .ok .text
  | some (.string name) => located path (formatNamed name)
  | some value =>
    if value.hasLong then .error (.breakdown (.probe .longValue))
    else .error (.config ⟨.unknownFormat value.render, path⟩)

/-- The rules whose codes the command line gives. -/
def rulesGiven : List Given → Except ResolveFault (List Rule)
  | [] => .ok []
  | .nothing :: _ => .error (.breakdown .noCode)
  | .text code :: rest => do return (← located none (ruleOf code)) :: (← rulesGiven rest)

/-- The options of a configuration with its path, and of the arguments. -/
def merge (config : Toml.Table) (path : Path) (arguments : Arguments) :
    Except ResolveFault Options := do
  let lint ← located path (sectionOf config .lint)
  let output ← located path (sectionOf config .output)
  let fileRules ← located path (ignoredCodes lint >>= rulesOf)
  let rules ← rulesGiven arguments.ignore
  let strict ← located path (strictOf lint)
  let fileFormat ← formatOf path output
  let format ← located none ((arguments.format.map formatGiven).getD (.ok fileFormat))
  let inputs := (arguments.first :: arguments.others).map Path.ofString
  return ⟨inputs, fileRules ++ rules, format, strict || arguments.strict, arguments.tokens,
    arguments.watch⟩

end Options

end ScadText
