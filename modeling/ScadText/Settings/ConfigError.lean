import ScadText.Disk.Basic
import ScadText.Finding.Basic
import ScadText.Text.Utf8
import ScadText.Toml.Value

/-!
# Faults of a configuration

A fault lies in the configuration file, whose path is then shown, or in the command line. Some
faults leave nothing to tell the user.

## Main definitions

* `ConfigCause`: what is wrong.
* `ConfigError`: what is wrong and where, with its message.
* `Obstacle`, `Breakdown`: what ends a run without an answer.
* `ResolveFault`: why a run has no options.
-/

namespace ScadText

/-- The tables of a configuration file that are read. -/
inductive Section where
  | lint | output
  deriving DecidableEq, Repr

def Section.name : Section → String
  | .lint => "lint"
  | .output => "output"

inductive ConfigCause where
  | notFound
  | unreadable (refusal : Refusal)
  | badEncoding (fault : Utf8.Fault)
  | badToml
  | notTable (part : Section)
  | ignoreNotStrings
  | unknownCode (code : String)
  | strictNotBoolean
  | unknownFormat (shown : String)
  deriving DecidableEq, Repr

/-- What is wrong. Which rule of TOML is broken, and where, would stand in the place of the dots;
that text is left out here. -/
def ConfigCause.message : ConfigCause → String
  | .notFound => "config file not found"
  | .unreadable refusal => "cannot read config: " ++ refusal.text
  | .badEncoding fault => "not valid UTF-8: " ++ fault.message
  | .badToml => "invalid TOML: ..."
  | .notTable part => "[" ++ part.name ++ "] must be a table"
  | .ignoreNotStrings => "lint.ignore must be a list of strings"
  | .unknownCode code =>
    "unknown rule code '" ++ code ++ "' (known: " ++ ", ".intercalate (Rule.all.map Rule.code) ++
      ")"
  | .strictNotBoolean => "lint.strict must be true or false"
  | .unknownFormat shown => "unknown output format '" ++ shown ++ "'"

structure ConfigError where
  cause : ConfigCause
  path : Option Path
  deriving DecidableEq, Repr

/-- A message about a file, or about nothing in particular. -/
def errorText (message : String) : Option Path → String
  | some path => "error: " ++ path.render ++ ": " ++ message
  | none => "error: " ++ message

def ConfigError.message (error : ConfigError) : String := errorText error.cause.message error.path

/-- What stands in the way of a look into a configuration: the disk refuses to look at its path, or
a whole number has too many digits to be read in base ten, or to be shown in a message. -/
inductive Obstacle where
  | refused (fault : FileFault)
  | longNumber (digits : Nat)
  | longValue
  deriving DecidableEq, Repr

/-- What is said of whole numbers with too many digits. -/
def longText : String :=
  "Exceeds the limit (" ++ toString Toml.maxDigits ++ " digits) for integer string conversion"

def Obstacle.message : Obstacle → String
  | .refused fault => fault.message
  | .longNumber digits => longText ++ ": value has " ++ toString digits ++ " digits"
  | .longValue => longText

/-- What ends a run without an answer: an obstacle to a look into the configuration, or an ignored
rule without a code. -/
inductive Breakdown where
  | probe (obstacle : Obstacle)
  | noCode
  deriving DecidableEq, Repr

def Breakdown.message : Breakdown → String
  | .probe obstacle => obstacle.message
  | .noCode => "no code of a rule to ignore"

inductive ResolveFault where
  | config (error : ConfigError)
  | breakdown (breakdown : Breakdown)
  deriving DecidableEq, Repr

end ScadText
