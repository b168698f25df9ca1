import ScadText.Decimal.Layout
import ScadText.Toml.Moment
import ScadText.Unicode.Quoted

/-!
# Values of a configuration file

## Main definitions

* `Value`: the values, with tables in the order in which their keys were first written.
* `Value.hasLong`: whether a value holds a whole number that has too many digits.
* `Value.render`: the text of a value in a message, where a string stands without quotes.
* `Value.renderNested`: the text of a value inside a list or table.
-/

namespace ScadText.Toml

open Decimal (Binary64 Layout)

inductive Value where
  | string (text : String)
  | boolean (value : Bool)
  | integer (value : Int)
  | float (value : Binary64)
  | date (date : Date)
  | time (clock : Clock)
  | dateTime (date : Date) (clock : Clock) (offset : Option Int)
  | array (items : List Value)
  | table (entries : List (String × Value))
  deriving Repr

/-- A whole file, or one table of it. -/
abbrev Table := List (String × Value)

/-! ## Long whole numbers -/

/-- A whole number is read from digits in base ten, and shown in them, only up to so many. -/
def maxDigits : Nat := 4300

/-- The number of digits of a whole number in base ten. -/
def digitCount (n : Int) : Nat := (Nat.toDigits 10 n.natAbs).length

def isLong (n : Int) : Bool := maxDigits < digitCount n

mutual

/-- Whether a value holds a whole number that has too many digits to be shown. -/
def Value.hasLong : Value → Bool
  | .integer value => isLong value
  | .array items => hasLongItem items
  | .table entries => hasLongEntry entries
  | .string _ | .boolean _ | .float _ | .date _ | .time _ | .dateTime .. => false

def hasLongItem : List Value → Bool
  | [] => false
  | value :: rest => value.hasLong || hasLongItem rest

def hasLongEntry : List (String × Value) → Bool
  | [] => false
  | (_, value) :: rest => value.hasLong || hasLongEntry rest

end

/-! ## Texts -/

def renderBoolean (value : Bool) : String := if value then "True" else "False"

/-- The parts of a call that builds a value. -/
def renderCall (name : String) (parts : List String) : String :=
  name ++ "(" ++ ", ".intercalate parts ++ ")"

/-- The parts of a time of day: seconds and microseconds only up to the last that is not zero. -/
def Clock.parts (clock : Clock) : List String :=
  let shown :=
    if clock.microsecond ≠ 0 then
      [clock.hour, clock.minute, clock.second, clock.microsecond]
    else if clock.second ≠ 0 then [clock.hour, clock.minute, clock.second]
    else [clock.hour, clock.minute]
  shown.map toString

def Date.parts (date : Date) : List String := [date.year, date.month, date.day].map toString

/-- An offset is a number of seconds in a day that starts before or at universal time. -/
def offsetCall (offset : Int) : String :=
  if offset = 0 then "datetime.timezone.utc"
  else
    let seconds := offset * 60
    let delta :=
      if seconds < 0 then ["days=-1", "seconds=" ++ toString (seconds + 86400)]
      else ["seconds=" ++ toString seconds]
    renderCall "datetime.timezone" [renderCall "datetime.timedelta" delta]

/-- The parts of an offset, if there is one. -/
def offsetParts : Option Int → List String
  | none => []
  | some offset => ["tzinfo=" ++ offsetCall offset]

mutual

/-- The text of a value inside a list or table. -/
def Value.renderNested : Value → String
  | .string text => Unicode.quoted text
  | .boolean value => renderBoolean value
  | .integer value => toString value
  | .float value => Layout.plain.render value
  | .date d => renderCall "datetime.date" d.parts
  | .time c => renderCall "datetime.time" c.parts
  | .dateTime d c offset =>
    renderCall "datetime.datetime" (d.parts ++ c.parts ++ offsetParts offset)
  | .array items => "[" ++ ", ".intercalate (renderItems items) ++ "]"
  | .table entries => "\x7b" ++ ", ".intercalate (renderEntries entries) ++ "\x7d"

/-- The texts of the items of a list. -/
def renderItems : List Value → List String
  | [] => []
  | value :: rest => value.renderNested :: renderItems rest

/-- The texts of the entries of a table. -/
def renderEntries : List (String × Value) → List String
  | [] => []
  | (key, value) :: rest => (Unicode.quoted key ++ ": " ++ value.renderNested) :: renderEntries rest

end

/-- The text of a value that stands alone. -/
def Value.render : Value → String
  | .string text => text
  | .date d => d.render
  | .time c => c.render
  | .dateTime d c offset => d.render ++ " " ++ c.render ++ (offset.map renderOffset).getD ""
  | value => value.renderNested

end ScadText.Toml
