import ScadText.Command.Switch
import ScadText.Unicode.Numeral
import ScadText.Unicode.Quoted

/-!
# Words of a command line

Each word is judged by its own letters. A long spelling may be cut short as long as one switch is
left, and may carry a value after an equals sign. The short spelling of help takes the letters right
after it as further short spellings. Two hyphens alone end the switches.

## Main definitions

* `UsageFault`: what can be wrong with a command line.
* `Word`, `Word.ofText`: the kinds of words, and the kind of a text.
* `Word.ofTexts`: the words of a command line.
-/

namespace ScadText

inductive UsageFault where
  | ambiguous (text : String) (candidates : List String)
  | valueRefused (switch : Switch) (value : String)
  | valueMissing (switch : Switch)
  | filesMissing
  | unrecognized (texts : List String)
  deriving DecidableEq, Repr

def UsageFault.message : UsageFault → String
  | .ambiguous text candidates =>
    "ambiguous option: " ++ text ++ " could match " ++ ", ".intercalate candidates
  | .valueRefused switch value =>
    "argument " ++ switch.title ++ ": ignored explicit argument " ++ Unicode.quoted value
  | .valueMissing switch => "argument " ++ switch.title ++ ": expected one argument"
  | .filesMissing => "the following arguments are required: FILE"
  | .unrecognized texts => "unrecognized arguments: " ++ " ".intercalate texts

inductive Word where
  | operand (text : String)
  | switch (switch : Switch) (value : Option String)
  | unknown (text : String)
  | separator
  deriving DecidableEq, Repr

namespace Word

/-- A text up to its first equals sign, and what follows the sign. -/
def cutAtEquals (text : List Char) : String × Option String :=
  let value := match text.dropWhile (· != '=') with
    | [] => none
    | _ :: rest => some (String.ofList rest)
  (String.ofList (text.takeWhile (· != '=')), value)

/-- Whether digits alone make up a text, which may have a line feed at its end. -/
def areDigits (text : List Char) : Bool :=
  let digits := if text.getLast? = some '\n' then text.dropLast else text
  !digits.isEmpty && digits.all Unicode.isDecimalDigit

/-- Whether a text after a hyphen is a number, with a point or without one. -/
def isNumber (text : List Char) : Bool :=
  areDigits text ||
    match text.dropWhile Unicode.isDecimalDigit with
    | '.' :: rest => areDigits rest
    | _ => false

/-- What is left of a run of short spellings once help has been asked for as often as it can be. -/
def beyondHelp? : List Char → Option String
  | [] => none
  | 'h' :: rest => beyondHelp? rest
  | rest => some (String.ofList rest)

/-- The value which help refuses after its short spelling, if any. An equals sign right after the
spelling only sets the value off, though an empty value is refused too. -/
def refused? : List Char → Option String
  | ['='] => some ""
  | '=' :: rest => beyondHelp? rest
  | rest => beyondHelp? rest

/-- The kind of a text that starts with a hyphen and is no spelling of a switch. -/
def ofUnspelled (text : String) : Word :=
  if isNumber (text.toList.drop 1) || text.toList.contains ' ' then .operand text else .unknown text

/-- The kind of a text that starts with two hyphens. -/
def ofLong (text : String) : Except UsageFault Word :=
  let (start, value) := cutAtEquals text.toList
  match Switch.spellings.filter fun spelling => start.toList.isPrefixOf spelling.1.toList with
  | [] => .ok (ofUnspelled text)
  | [(_, found)] => .ok (.switch found value)
  | candidates => .error (.ambiguous text (candidates.map (·.1)))

/-- The kind of a text. -/
def ofText (text : String) : Except UsageFault Word :=
  match text.toList with
  | '-' :: 'h' :: rest => .ok (.switch .help (refused? rest))
  | '-' :: '-' :: _ => ofLong text
  | '-' :: _ :: _ => .ok (ofUnspelled text)
  | _ => .ok (.operand text)

/-- The words of a command line; all texts after the separator are operands. -/
def ofTexts : List String → Except UsageFault (List Word)
  | [] => .ok []
  | text :: rest =>
    if text = "--" then .ok (.separator :: rest.map .operand)
    else do
      let word ← ofText text
      let words ← ofTexts rest
      return word :: words

end Word

end ScadText
