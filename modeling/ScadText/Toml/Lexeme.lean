import ScadText.Toml.Value

/-!
# Lexemes of a configuration file

Each reader here takes the text from a lexeme on, and answers with what the lexeme means and the
text after it, or with none if no such lexeme stands there.

## Main definitions

* `basicString?`, `literalString?`, `multilineBasic?`, `multilineLiteral?`: strings, without their
  opening quotes.
* `key?`: a key, of several parts between points.
* `moment?`, `clock?`: dates and times.
* `based?`, `decimal?`, `named?`: numbers.
* `skipComment?`: the text after a comment.
-/

namespace ScadText.Toml

/-! ## Blanks and comments -/

def isBlank (c : Char) : Bool := c == ' ' || c == '\t'

def isBlankOrNewline (c : Char) : Bool := isBlank c || c == '\n'

def skipBlanks (cs : List Char) : List Char := cs.dropWhile isBlank

/-- A control character other than the tab, which comments and strings of one line refuse. -/
def isControl (c : Char) : Bool := (c.toNat < 0x20 && c != '\t') || c.toNat == 0x7F

/-- The text after a comment, which reaches to the end of its line and holds no control character.
Where no comment stands nothing is skipped. -/
def skipComment? : List Char → Option (List Char)
  | '#' :: cs =>
    if (cs.takeWhile (· != '\n')).any isControl then none else some (cs.dropWhile (· != '\n'))
  | cs => some cs

/-! ## Strings -/

/-- The value of a run of hexadecimal digits. -/
def hexValue? (digits : List Char) : Option Nat :=
  digits.foldlM (fun value c =>
    if c.isDigit then some (value * 16 + (c.toNat - 0x30))
    else if 'a' ≤ c ∧ c ≤ 'f' then some (value * 16 + (c.toNat - 0x57))
    else if 'A' ≤ c ∧ c ≤ 'F' then some (value * 16 + (c.toNat - 0x37))
    else none) 0

/-- The character with a code point that is written in hexadecimal digits. -/
def codePoint? (digits : List Char) : Option Char := do
  let n ← hexValue? digits
  if h : n.isValidChar then some (Char.ofNatAux n h) else none

/-- The character which a letter after a backslash stands for. -/
def simpleEscape? : Char → Option Char
  | 'b' => some '\x08'
  | 't' => some '\t'
  | 'n' => some '\n'
  | 'f' => some '\x0c'
  | 'r' => some '\r'
  | '"' => some '"'
  | '\\' => some '\\'
  | _ => none

/-- What a reader found, with a character before it. -/
def prepend (c? : Option Char) (found : Option (List Char × List Char)) :
    Option (List Char × List Char) := do
  let c ← c?
  let (cs, rest) ← found
  return (c :: cs, rest)

/-- The rest of a string in double quotes on one line. -/
def basicString? : List Char → Option (List Char × List Char)
  | [] => none
  | '"' :: cs => some ([], cs)
  | '\\' :: 'u' :: a :: b :: c :: d :: cs => prepend (codePoint? [a, b, c, d]) (basicString? cs)
  | '\\' :: 'U' :: a :: b :: c :: d :: e :: f :: g :: h :: cs =>
    prepend (codePoint? [a, b, c, d, e, f, g, h]) (basicString? cs)
  | '\\' :: c :: cs => prepend (simpleEscape? c) (basicString? cs)
  | c :: cs => if isControl c then none else prepend c (basicString? cs)

/-- The rest of a string in apostrophes on one line. -/
def literalString? : List Char → Option (List Char × List Char)
  | [] => none
  | c :: cs =>
    if c = '\x27' then some ([], cs)
    else if isControl c then none
    else prepend c (literalString? cs)

/-- A string may end in up to two quotes of its own, right before the three that close it. -/
def closingQuotes (quote : Char) : List Char → List Char × List Char
  | [] => ([], [])
  | [c] => if c = quote then ([quote], []) else ([], [c])
  | c :: d :: cs =>
    if c = quote then (if d = quote then ([quote, quote], cs) else ([quote], d :: cs))
    else ([], c :: d :: cs)

/-- A control character that strings of several lines refuse. -/
def isMultilineControl (c : Char) : Bool := isControl c && c != '\n'

/-- The text after a backslash at the end of a line, without the blanks and line feeds that follow;
none if the line goes on. -/
def lineContinuation? (cs : List Char) : Option (List Char) :=
  match skipBlanks cs with
  | '\n' :: rest => some (rest.dropWhile isBlankOrNewline)
  | _ => none

theorem lineContinuation?_lt {cs rest : List Char} (h : lineContinuation? cs = some rest) :
    rest.length < cs.length := by
  have hb : (skipBlanks cs).length ≤ cs.length := (List.dropWhile_suffix _).length_le
  simp only [lineContinuation?] at h
  split at h
  · next tail ht =>
    have hw : (tail.dropWhile isBlankOrNewline).length ≤ tail.length :=
      (List.dropWhile_suffix _).length_le
    rw [ht, List.length_cons] at hb
    simp only [Option.some.injEq] at h
    subst h
    omega
  · simp at h

/-- The rest of a string in three double quotes. -/
def multilineBasic? (cs : List Char) : Option (List Char × List Char) :=
  match cs with
  | [] => none
  | '"' :: '"' :: '"' :: cs => some (closingQuotes '"' cs)
  | '\\' :: 'u' :: a :: b :: c :: d :: cs => prepend (codePoint? [a, b, c, d]) (multilineBasic? cs)
  | '\\' :: 'U' :: a :: b :: c :: d :: e :: f :: g :: h :: cs =>
    prepend (codePoint? [a, b, c, d, e, f, g, h]) (multilineBasic? cs)
  | '\\' :: c :: cs =>
    if isBlankOrNewline c then
      match _h : lineContinuation? (c :: cs) with
      | some rest => multilineBasic? rest
      | none => none
    else prepend (simpleEscape? c) (multilineBasic? cs)
  | c :: cs => if isMultilineControl c then none else prepend c (multilineBasic? cs)
termination_by cs.length
decreasing_by
  all_goals simp only [List.length_cons]
  all_goals first | omega | skip
  have := lineContinuation?_lt _h
  simp only [List.length_cons] at this
  omega

/-- The rest of a string in three apostrophes. -/
def multilineLiteral? : List Char → Option (List Char × List Char)
  | [] => none
  | c :: cs =>
    if c = '\x27' && cs.take 2 = ['\x27', '\x27'] then some (closingQuotes '\x27' (cs.drop 2))
    else if isMultilineControl c then none
    else prepend c (multilineLiteral? cs)

/-- The text after a line feed right behind the opening quotes. -/
def skipFirstNewline : List Char → List Char
  | '\n' :: cs => cs
  | cs => cs

/-- A string of any of the four kinds. -/
def string? : List Char → Option (String × List Char)
  | '"' :: '"' :: '"' :: cs => (multilineBasic? (skipFirstNewline cs)).map fun (s, rest) =>
    (String.ofList s, rest)
  | '"' :: cs => (basicString? cs).map fun (s, rest) => (String.ofList s, rest)
  | c :: cs =>
    if c = '\x27' then
      let text :=
        if cs.take 2 = ['\x27', '\x27'] then multilineLiteral? (skipFirstNewline (cs.drop 2))
        else literalString? cs
      text.map fun (s, rest) => (String.ofList s, rest)
    else none
  | [] => none

/-! ## Keys -/

def isBareKeyChar (c : Char) : Bool := c.isAlphanum || c == '-' || c == '_'

/-- One part of a key: bare, or a string of one line. -/
def keyPart? : List Char → Option (String × List Char)
  | [] => none
  | c :: cs =>
    if isBareKeyChar c then
      some (String.ofList ((c :: cs).takeWhile isBareKeyChar), (c :: cs).dropWhile isBareKeyChar)
    else if c = '"' then (basicString? cs).map fun (s, rest) => (String.ofList s, rest)
    else if c = '\x27' then (literalString? cs).map fun (s, rest) => (String.ofList s, rest)
    else none

/-- The parts of a key between points, and the text after the blanks behind them. The number bounds
the count of parts. -/
def keyParts? : Nat → List Char → Option (List String × List Char)
  | 0, _ => none
  | bound + 1, cs => do
    let (part, rest) ← keyPart? cs
    match skipBlanks rest with
    | '.' :: rest =>
      let (parts, rest) ← keyParts? bound (skipBlanks rest)
      return (part :: parts, rest)
    | rest => return ([part], rest)

/-- A key has no more parts than characters. -/
def key? (cs : List Char) : Option (List String × List Char) := keyParts? (cs.length + 1) cs

/-! ## Dates and times -/

/-- Two digits, of which the number they make satisfies a condition. -/
def twoDigits? (ok : Nat → Bool) : List Char → Option (Nat × List Char)
  | a :: b :: cs =>
    let n := (a.toNat - 0x30) * 10 + (b.toNat - 0x30)
    if a.isDigit && b.isDigit && ok n then some (n, cs) else none
  | _ => none

/-- A given character. -/
def char? (c : Char) : List Char → Option (List Char)
  | d :: cs => if d = c then some cs else none
  | [] => none

/-- The microseconds of a fraction, of which digits after the sixth do not count. -/
def microseconds (digits : List Char) : Nat :=
  ((digits.take 6).rightpad 6 '0').foldl (fun n c => n * 10 + (c.toNat - 0x30)) 0

/-- A time of day, with a fraction of a second if a point and a digit follow. -/
def clock? (cs : List Char) : Option (Clock × List Char) := do
  let (hour, cs) ← twoDigits? (· ≤ 23) cs
  let (minute, cs) ← twoDigits? (· ≤ 59) (← char? ':' cs)
  let (second, cs) ← twoDigits? (· ≤ 59) (← char? ':' cs)
  match cs with
  | '.' :: rest =>
    let digits := rest.takeWhile Char.isDigit
    if digits.isEmpty then return (⟨hour, minute, second, 0⟩, cs)
    else return (⟨hour, minute, second, microseconds digits⟩, rest.dropWhile Char.isDigit)
  | _ => return (⟨hour, minute, second, 0⟩, cs)

/-- A date, whether or not the calendar has it. -/
def date? (cs : List Char) : Option (Date × List Char) := do
  let (century, cs) ← twoDigits? (fun _ => true) cs
  let (year, cs) ← twoDigits? (fun _ => true) cs
  let (month, cs) ← twoDigits? (fun n => 1 ≤ n && n ≤ 12) (← char? '-' cs)
  let (day, cs) ← twoDigits? (fun n => 1 ≤ n && n ≤ 31) (← char? '-' cs)
  return (⟨century * 100 + year, month, day⟩, cs)

/-- An offset from universal time in minutes. -/
def offset? : List Char → Option (Int × List Char)
  | [] => none
  | c :: cs =>
    if c = 'Z' || c = 'z' then some (0, cs)
    else if c = '+' || c = '-' then do
      let (hours, cs) ← twoDigits? (· ≤ 23) cs
      let (minutes, cs) ← twoDigits? (· ≤ 59) (← char? ':' cs)
      let total : Int := hours * 60 + minutes
      return (if c = '-' then -total else total, cs)
    else none

/-- The time of day after a date, behind a letter or a space. -/
def clockAfterDate? : List Char → Option (Clock × List Char)
  | c :: cs => if c = 'T' || c = 't' || c = ' ' then clock? cs else none
  | [] => none

/-- A date, and the time and offset after it if they are complete. -/
def moment? (cs : List Char) : Option (Value × List Char) := do
  let (date, cs) ← date? cs
  match clockAfterDate? cs with
  | none => return (.date date, cs)
  | some (clock, cs) =>
    match offset? cs with
    | none => return (.dateTime date clock none, cs)
    | some (offset, cs) => return (.dateTime date clock (some offset), cs)

/-- Whether the calendar has the date of a value. -/
def hasValidDate : Value → Bool
  | .date date | .dateTime date _ _ => date.isValid
  | _ => true

/-! ## Numbers -/

/-- The digits after the first, each of which may follow a low line. -/
def moreDigits (p : Char → Bool) : List Char → List Char × List Char
  | [] => ([], [])
  | [c] => if p c then ([c], []) else ([], [c])
  | c :: d :: cs =>
    if p c then
      let (digits, rest) := moreDigits p (d :: cs)
      (c :: digits, rest)
    else if c = '_' && p d then
      let (digits, rest) := moreDigits p cs
      (d :: digits, rest)
    else ([], c :: d :: cs)

/-- A run of digits with low lines between them. -/
def digits? (p : Char → Bool) : List Char → Option (List Char × List Char)
  | [] => none
  | c :: cs =>
    if p c then
      let (digits, rest) := moreDigits p cs
      some (c :: digits, rest)
    else none

/-- The number which digits denote. -/
def ofDigits (base : Nat) (digits : List Char) : Nat :=
  digits.foldl (fun n c =>
    n * base +
      (if c.isDigit then c.toNat - 0x30 else if c.isLower then c.toNat - 0x57 else c.toNat - 0x37))
    0

def isOctal (c : Char) : Bool := '0' ≤ c && c ≤ '7'

def isBinary (c : Char) : Bool := c == '0' || c == '1'

def isHexadecimal (c : Char) : Bool :=
  c.isDigit || ('a' ≤ c && c ≤ 'f') || ('A' ≤ c && c ≤ 'F')

/-- A whole number in base sixteen, eight or two. -/
def based? : List Char → Option (Value × List Char)
  | '0' :: 'x' :: cs => (digits? isHexadecimal cs).map fun (ds, rest) =>
    (.integer (ofDigits 16 ds), rest)
  | '0' :: 'o' :: cs => (digits? isOctal cs).map fun (ds, rest) => (.integer (ofDigits 8 ds), rest)
  | '0' :: 'b' :: cs => (digits? isBinary cs).map fun (ds, rest) => (.integer (ofDigits 2 ds), rest)
  | _ => none

/-- The digits before the point: a zero, or digits that do not start with one. -/
def whole? : List Char → Option (List Char × List Char)
  | '0' :: cs => some (['0'], cs)
  | cs => digits? Char.isDigit cs

/-- The digits after a point. -/
def fraction? : List Char → Option (List Char × List Char)
  | '.' :: cs => digits? Char.isDigit cs
  | _ => none

/-- A sign, and whether it is a minus. -/
def sign : List Char → Bool × List Char
  | '-' :: cs => (true, cs)
  | '+' :: cs => (false, cs)
  | cs => (false, cs)

/-- An exponent. -/
def exponent? : List Char → Option (Int × List Char)
  | [] => none
  | c :: cs =>
    if c = 'e' || c = 'E' then do
      let (negative, cs) := sign cs
      let (digits, rest) ← digits? Char.isDigit cs
      let n : Int := ofDigits 10 digits
      return (if negative then -n else n, rest)
    else none

/-- A decimal number. One without a fraction and an exponent is whole. -/
def decimal? (cs : List Char) : Option (Value × List Char) := do
  let (negative, cs) := sign cs
  let (whole, afterWhole) ← whole? cs
  let (fraction, afterFraction) := (fraction? afterWhole).getD ([], afterWhole)
  match exponent? afterFraction with
  | none =>
    let n : Int := ofDigits 10 whole
    if fraction.isEmpty then return (.integer (if negative then -n else n), afterFraction)
    else
      let value := Decimal.Binary64.ofDecimal negative (ofDigits 10 (whole ++ fraction))
        (-fraction.length)
      return (.float value, afterFraction)
  | some (exponent, rest) =>
    let value := Decimal.Binary64.ofDecimal negative (ofDigits 10 (whole ++ fraction))
      (exponent - fraction.length)
    return (.float value, rest)

/-- An infinite number or none at all, by its name. -/
def named? (cs : List Char) : Option (Value × List Char) :=
  let (negative, cs) := sign cs
  match cs with
  | 'i' :: 'n' :: 'f' :: rest => some (.float (.infinite negative), rest)
  | 'n' :: 'a' :: 'n' :: rest => some (.float .nan, rest)
  | _ => none

end ScadText.Toml
