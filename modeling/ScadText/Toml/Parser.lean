import ScadText.Toml.Document
import ScadText.Toml.Lexeme

/-!
# Reading a configuration file

A file is read from its start to its end, and each statement takes effect before the next one is
read. The first fault that is met ends the reading.

## Main definitions

* `Fault`: why a file is not read.
* `readNumber`, `readValue`: a number, and a value, which may hold others.
* `readStatements`: the statements of a file, one to a line.
* `parse`: the table of a file.
-/

namespace ScadText.Toml

/-- The file breaks a rule of the format, or a whole number in base ten has too many digits. -/
inductive Fault where
  | invalid
  | longNumber (digits : Nat)
  deriving DecidableEq, Repr

/-- What a reader found. Where it found nothing, a rule of the format is broken. -/
def require {α : Type} : Option α → Except Fault α
  | none => .error .invalid
  | some found => .ok found

/-- The text after blanks, line feeds and comments, as many as there are. The number bounds the
count of comments. -/
def skipLines? : Nat → List Char → Option (List Char)
  | 0, _ => none
  | bound + 1, cs =>
    match cs.dropWhile isBlankOrNewline with
    | '#' :: rest => do skipLines? bound (← skipComment? ('#' :: rest))
    | rest => some rest

/-! ## Values -/

/-- A number. The digits of a whole one in base ten are counted before it is made of them. -/
def readNumber (cs : List Char) : Except Fault (Value × List Char) :=
  match based? cs, decimal? cs with
  | some found, _ => .ok found
  | none, some (.integer n, rest) =>
    if isLong n then .error (.longNumber (digitCount n)) else .ok (.integer n, rest)
  | none, some found => .ok found
  | none, none => require (named? cs)

/-- A value that holds no others. -/
def readScalar (cs : List Char) : Except Fault (Value × List Char) :=
  match cs with
  | 't' :: 'r' :: 'u' :: 'e' :: rest => .ok (.boolean true, rest)
  | 'f' :: 'a' :: 'l' :: 's' :: 'e' :: rest => .ok (.boolean false, rest)
  | '"' :: _ | '\x27' :: _ => require ((string? cs).map fun (text, rest) => (.string text, rest))
  | _ =>
    match moment? cs, clock? cs with
    | some (value, rest), _ => if hasValidDate value then .ok (value, rest) else .error .invalid
    | none, some (clock, rest) => .ok (.time clock, rest)
    | none, none => readNumber cs

mutual

/-- A value. The number bounds how many values, items and pairs are read in one another or in a
row; each of them takes at least one character. -/
def readValue : Nat → List Char → Except Fault (Value × List Char)
  | 0, _ => .error .invalid
  | bound + 1, cs =>
    match cs with
    | '[' :: rest => do
      let (items, rest) ← readItems bound rest
      return (.array items, rest)
    | '\x7b' :: rest =>
      match skipBlanks rest with
      | '\x7d' :: rest => .ok (.table [], rest)
      | rest => do
        let (entries, rest) ← readPairs bound [] rest
        return (.table (entryValues entries), rest)
    | cs => readScalar cs

/-- The items of a list up to its closing bracket, which may follow a comma. -/
def readItems : Nat → List Char → Except Fault (List Value × List Char)
  | 0, _ => .error .invalid
  | bound + 1, cs => do
    match ← require (skipLines? (cs.length + 1) cs) with
    | ']' :: rest => return ([], rest)
    | cs =>
      let (value, rest) ← readValue bound cs
      match ← require (skipLines? (rest.length + 1) rest) with
      | ']' :: rest => return ([value], rest)
      | ',' :: rest =>
        let (items, rest) ← readItems bound rest
        return (value :: items, rest)
      | _ => .error .invalid

/-- The entries of an inline table with the pairs up to its closing brace, which may not follow a
comma. The pairs are assignments in a section of their own. -/
def readPairs : Nat → Entries → List Char → Except Fault (Entries × List Char)
  | 0, _, _ => .error .invalid
  | bound + 1, entries, cs => do
    let (path, rest) ← require (key? cs)
    let (value, rest) ← readValue bound (skipBlanks (← require (char? '=' rest)))
    let entries ← require (entries.assign 0 value path)
    match skipBlanks rest with
    | '\x7d' :: rest => return (entries, rest)
    | ',' :: rest => readPairs bound entries (skipBlanks rest)
    | _ => .error .invalid

end

/-! ## Statements -/

/-- The statement at the start of a line, if the line is not blank. -/
def readStatement (cs : List Char) : Except Fault (Option Statement × List Char) :=
  match cs with
  | [] | '\n' :: _ | '#' :: _ => .ok (none, cs)
  | '[' :: '[' :: rest => do
    let (path, rest) ← require (key? (skipBlanks rest))
    let rest ← require (char? ']' (← require (char? ']' rest)))
    return (some (.element path), rest)
  | '[' :: rest => do
    let (path, rest) ← require (key? (skipBlanks rest))
    return (some (.header path), ← require (char? ']' rest))
  | cs => do
    let (path, rest) ← require (key? cs)
    let rest := skipBlanks (← require (char? '=' rest))
    let (value, rest) ← readValue (rest.length + 1) rest
    return (some (.assignment path value), rest)

/-- The document with the statements of a file. Each ends with its line, after blanks and maybe a
comment. The number bounds the count of lines. -/
def readStatements : Nat → Document → List Char → Except Fault Document
  | 0, _, _ => .error .invalid
  | bound + 1, document, cs => do
    let (statement, rest) ← readStatement (skipBlanks cs)
    let document ← require (statement.elim (some document) document.add)
    match ← require (skipComment? (skipBlanks rest)) with
    | [] => return document
    | '\n' :: rest => readStatements bound document rest
    | _ => .error .invalid

/-- The table of a file. -/
def parse (text : List Char) : Except Fault Table :=
  (readStatements (text.length + 1) .empty text).map Document.table

end ScadText.Toml
