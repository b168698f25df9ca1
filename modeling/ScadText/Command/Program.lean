import ScadText.Command.Arguments
import ScadText.Report.Watch
import ScadText.Settings.ConfigFile

/-!
# The whole program

A command line is answered at once, or leads to one run, or to a watch that runs again after each
change. A breakdown before there are options ends the program without an answer.

## Main definitions

* `Plan`, `plan`: what a command line leads to.
* `Transcript`, `transcript`: the exit status and all that is written.
-/

namespace ScadText

inductive Plan where
  | answer (outcome : Outcome)
  | once (options : Options)
  | watch (options : Options)
  deriving DecidableEq, Repr

/-- The answer to a faulty command line. -/
def UsageFault.outcome (fault : UsageFault) : Outcome :=
  ⟨2, ⟨"", usageText ++ programName ++ ": error: " ++ fault.message ++ "\n"⟩⟩

/-- The answer to a faulty configuration. -/
def ConfigError.outcome (error : ConfigError) : Outcome := ⟨2, ⟨"", error.message ++ "\n"⟩⟩

/-- What arguments lead to. -/
def Arguments.plan (arguments : Arguments) (disk : Disk) : Except Breakdown Plan :=
  match resolve disk arguments with
  | .error (.breakdown breakdown) => .error breakdown
  | .error (.config error) => .ok (.answer error.outcome)
  | .ok options => .ok (if options.watch then .watch options else .once options)

/-- What a command line leads to. -/
def plan (texts : List String) (disk : Disk) : Except Breakdown Plan :=
  match Request.ofTexts texts with
  | .error fault => .ok (.answer fault.outcome)
  | .ok .help => .ok (.answer ⟨0, ⟨helpText, ""⟩⟩)
  | .ok (.run arguments) => arguments.plan disk

/-- The paths that a plan depends on. -/
def configPaths (texts : List String) : List Path :=
  match Request.ofTexts texts with
  | .ok (.run arguments) => [arguments.configPath]
  | _ => []

/-- The exit status, and what is written at each look at the disk. -/
structure Transcript where
  status : Nat
  steps : List Written
  deriving DecidableEq, Repr

def Outcome.transcript (outcome : Outcome) : Transcript := ⟨outcome.status, [outcome.written]⟩

/-- The transcript of a plan: a watch goes on until it is interrupted, and then succeeds. -/
def Plan.transcript (disk : Disk) (later : List Disk) : Plan → Transcript
  | .answer outcome => outcome.transcript
  | .once options => (options.run disk).transcript
  | .watch options => ⟨0, ScadText.watch options disk later⟩

/-- The transcript of a command line, with the disk at the start and at each later look. -/
def transcript (texts : List String) (disk : Disk) (later : List Disk) :
    Except Breakdown Transcript :=
  (plan texts disk).map (Plan.transcript disk later)

end ScadText
