/-!
# Switches

A switch asks for help, turns something on, or gives a setting its value. Help has a short spelling
beside its long one.

## Main definitions

* `Switch`, `spellings`: the switches and how they are written.
* `usageText`, `helpText`: what the program says about itself.
-/

namespace ScadText

/-- What can be turned on. -/
inductive Flag where
  | strict | tokens | watch
  deriving DecidableEq, Repr

/-- What takes a value. -/
inductive Setting where
  | config | ignore | format
  deriving DecidableEq, Repr

inductive Switch where
  | help
  | flag (flag : Flag)
  | setting (setting : Setting)
  deriving DecidableEq, Repr

namespace Switch

/-- The spellings of the switches, in the order in which help lists them. -/
def spellings : List (String × Switch) :=
  [("-h", .help), ("--help", .help), ("--config", .setting .config), ("--ignore", .setting .ignore),
    ("--format", .setting .format), ("--strict", .flag .strict), ("--tokens", .flag .tokens),
    ("--watch", .flag .watch)]

/-- The spellings of a switch in a message. -/
def title (switch : Switch) : String :=
  "/".intercalate ((spellings.filter (·.2 == switch)).map (·.1))

end Switch

/-- The name of the program. -/
def programName : String := "scadlint"

def usageText : String :=
  "usage: " ++ programName ++ " [-h] [--config FILE] [--ignore CODE] [--format FORMAT]\n" ++
  "                [--strict] [--tokens] [--watch]\n" ++
  "                FILE [FILE ...]\n"

def helpText : String :=
  usageText ++
  "\n" ++
  "Heuristic linter for OpenSCAD source files\n" ++
  "\n" ++
  "positional arguments:\n" ++
  "  FILE             Input .scad file(s)\n" ++
  "\n" ++
  "options:\n" ++
  "  -h, --help       show this help message and exit\n" ++
  "  --config FILE    Config file (default: auto-discover scadlint.toml)\n" ++
  "  --ignore CODE    Rule code to suppress, e.g. missing-semicolon (repeatable)\n" ++
  "  --format FORMAT  Output format: text or json (default: text)\n" ++
  "  --strict         Exit with status 1 on warnings as well as errors\n" ++
  "  --tokens         Dump the token stream to stderr\n" ++
  "  --watch          Watch for changes and re-lint\n"

end ScadText
