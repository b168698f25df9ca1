import ScadText.Command.Word

/-!
# Arguments of a command line

Words are read from left to right. The files are one unbroken run of operands: a switch after them
ends it, and operands after that are left over. A fault in a switch counts where it is met, missing
files only at the end, and words that are left over last of all.

## Main definitions

* `Given`: what a setting is given.
* `Choices`, `Arguments`: what the switches say, and what a command line asks for.
* `Draft`: what has been read so far.
* `Request.ofTexts`: the request which a command line makes.
-/

namespace ScadText

/-- What a setting is given. -/
inductive Given where
  | nothing
  | text (text : String)
  deriving DecidableEq, Repr

namespace Given

/-- What is given by a text attached to a setting. Of two hyphens alone nothing is left: this is the
older one of two rules for command lines, by which the separator is taken away in such a place as
well. By the newer one it stays there as a text. -/
def ofAttached (attached : String) : Given := if attached = "--" then nothing else text attached

def text? : Given → Option String
  | nothing => none
  | text value => some value

end Given

/-- What the switches say. A configuration is named only by a text. -/
structure Choices where
  config : Option String
  ignore : List Given
  format : Option Given
  strict : Bool
  tokens : Bool
  watch : Bool
  deriving DecidableEq, Repr

namespace Choices

def empty : Choices := ⟨none, [], none, false, false, false⟩

def raise (choices : Choices) : Flag → Choices
  | .strict => { choices with strict := true }
  | .tokens => { choices with tokens := true }
  | .watch => { choices with watch := true }

/-- The choices with a value for a setting: the last one counts, save that all values of `ignore`
are kept. -/
def assign (choices : Choices) (value : Given) : Setting → Choices
  | .config => { choices with config := value.text? }
  | .ignore => { choices with ignore := choices.ignore ++ [value] }
  | .format => { choices with format := some value }

end Choices

/-- At least one file, and the choices. -/
structure Arguments extends Choices where
  first : String
  others : List String
  deriving DecidableEq, Repr

/-- A command line asks for help or for a run. -/
inductive Request where
  | help
  | run (arguments : Arguments)
  deriving DecidableEq, Repr

/-- What has been read. The run of files is closed once a word has ended it. -/
structure Draft where
  files : List String
  closed : Bool
  extras : List String
  choices : Choices
  deriving DecidableEq, Repr

namespace Draft

def empty : Draft := ⟨[], false, [], .empty⟩

/-- The draft with a text that is left over. -/
def leave (draft : Draft) (text : String) : Draft :=
  { draft with extras := draft.extras ++ [text] }

/-- The draft after an operand, which is left over if the run of files is closed. -/
def operand (draft : Draft) (text : String) : Draft :=
  if draft.closed then draft.leave text else { draft with files := draft.files ++ [text] }

/-- The draft after the separator, which means something only while files can follow. -/
def separator (draft : Draft) : Draft := if draft.closed then draft.leave "--" else draft

/-- The draft before a switch, which ends the run of files if it has begun. -/
def close (draft : Draft) : Draft := { draft with closed := !draft.files.isEmpty }

def raise (draft : Draft) (flag : Flag) : Draft :=
  { draft with choices := draft.choices.raise flag }

def assign (draft : Draft) (value : Given) (setting : Setting) : Draft :=
  { draft with choices := draft.choices.assign value setting }

/-- The request of a draft that is complete. -/
def finish (draft : Draft) : Except UsageFault Request :=
  match draft.files, draft.extras with
  | [], _ => .error .filesMissing
  | _ :: _, _ :: _ => .error (.unrecognized draft.extras)
  | first :: others, [] => .ok (.run { draft.choices with first, others })

/-- The request of a draft and the words after it. -/
def read (draft : Draft) : List Word → Except UsageFault Request
  | [] => draft.finish
  | .operand text :: rest => (draft.operand text).read rest
  | .separator :: rest => draft.separator.read rest
  | .unknown text :: rest => (draft.close.leave text).read rest
  | .switch .help none :: _ => .ok .help
  | .switch (.flag flag) none :: rest => (draft.close.raise flag).read rest
  | .switch (.setting setting) (some value) :: rest =>
    (draft.close.assign (.ofAttached value) setting).read rest
  | .switch (.setting setting) none :: .operand value :: rest =>
    (draft.close.assign (.text value) setting).read rest
  | .switch (.setting setting) none :: _ => .error (.valueMissing (.setting setting))
  | .switch switch (some value) :: _ => .error (.valueRefused switch value)

end Draft

/-- The request which the texts of a command line make. -/
def Request.ofTexts (texts : List String) : Except UsageFault Request := do
  Draft.empty.read (← Word.ofTexts texts)

end ScadText
