import ScadText.Token.Character

/-!
# How far each lexeme reaches

Each function here is given the text from the first character of a lexeme on, and answers how many
characters belong to the lexeme. Lookahead is plain reading ahead in the list.

## Main definitions

* `run`: the length of a maximal run of one class.
* `floatLength?`, `hexLength?`: the two number forms that are tried before a plain run of digits.
* `closingQuote?`: the offset of the quote that closes a string on its own line.
* `escapeLength?`: the length of a valid escape.
* `commentLength`: the length of a nested block comment.
-/

namespace ScadText.Extent

/-- How many characters at the front of `cs` satisfy `p`, up to the first that does not. -/
def run (p : Char → Bool) (cs : List Char) : Nat := (cs.takeWhile p).length

theorem run_le_length (p : Char → Bool) (cs : List Char) : run p cs ≤ cs.length :=
  (List.takeWhile_prefix p).length_le

theorem run_cons_pos {p : Char → Bool} {c : Char} (h : p c = true) (cs : List Char) :
    1 ≤ run p (c :: cs) := by
  simp [run, h]

/-! ## Numbers -/

/-- The length of an exponent: its letter, maybe a sign, and at least one digit. An exponent
without digits has length zero, as if it were not there. -/
def exponentLength : List Char → Nat
  | [] => 0
  | e :: cs =>
    if e == 'e' || e == 'E' then
      let sign := if cs.head?.any fun c => c == '+' || c == '-' then 1 else 0
      let digits := run isDigit (cs.drop sign)
      if digits = 0 then 0 else 1 + sign + digits
    else 0

/-- The length of a number with a point: maybe digits, the point, at least one digit, and maybe an
exponent. -/
def floatLength? (cs : List Char) : Option Nat :=
  let whole := run isDigit cs
  match cs.drop whole with
  | '.' :: rest =>
    let fraction := run isDigit rest
    if fraction = 0 then none
    else some (whole + 1 + fraction + exponentLength (rest.drop fraction))
  | _ => none

/-- The length of a number in base sixteen: `0x` or `0X` and at least one digit. -/
def hexLength? : List Char → Option Nat
  | '0' :: x :: cs =>
    let digits := run isHexDigit cs
    if (x == 'x' || x == 'X') && digits != 0 then some (2 + digits) else none
  | _ => none

theorem floatLength?_pos {cs : List Char} {n : Nat} (h : floatLength? cs = some n) : 1 ≤ n := by
  unfold floatLength? at h
  grind

theorem hexLength?_pos {cs : List Char} {n : Nat} (h : hexLength? cs = some n) : 1 ≤ n := by
  unfold hexLength? at h
  grind

/-! ## Strings -/

/-- The offset of the quote that closes a string whose opening quote has just been read. A
backslash hides the character after it. There is none if the line ends first, and a backslash at
the end of a line hides nothing. -/
def closingQuote? : List Char → Option Nat
  | [] => none
  | '"' :: _ => some 0
  | '\\' :: c :: cs => if isLineBreak c then none else (closingQuote? cs).map (· + 2)
  | c :: cs => if isLineBreak c then none else (closingQuote? cs).map (· + 1)

/-- The letters which, after a backslash, are an escape on their own. -/
def simpleEscapes : List Char := ['a', 'b', 'f', 'n', 'r', 't', 'v', '\\', '"', '\x27']

/-- The length of the valid escape whose backslash has just been read, the backslash included:
a single letter, `x` with up to four hexadecimal digits, `u` with four, or `U` with eight. -/
def escapeLength? : List Char → Option Nat
  | [] => none
  | c :: cs =>
    let digits := fun bound => run isHexDigit (cs.take bound)
    if simpleEscapes.contains c then some 2
    else if c = 'x' && digits 4 != 0 then some (2 + digits 4)
    else if c = 'u' && digits 4 == 4 then some 6
    else if c = 'U' && digits 8 == 8 then some 10
    else none

theorem escapeLength?_ge_two {cs : List Char} {n : Nat} (h : escapeLength? cs = some n) :
    2 ≤ n := by
  unfold escapeLength? at h
  grind

/-! ## Block comments -/

/-- The length of a block comment of which `depth` openers have been read. Reading from left to
right without overlap, an opener goes one level deeper and a closer one level up; the comment ends
with the closer of its outermost level, or with the text. -/
def commentLength : Nat → List Char → Nat
  | _, [] => 0
  | depth, '/' :: '*' :: cs => 2 + commentLength (depth + 1) cs
  | depth, '*' :: '/' :: cs => if depth ≤ 1 then 2 else 2 + commentLength (depth - 1) cs
  | depth, _ :: cs => 1 + commentLength depth cs

theorem commentLength_cons_pos (depth : Nat) (c : Char) (cs : List Char) :
    1 ≤ commentLength depth (c :: cs) := by
  unfold commentLength
  grind

theorem commentLength_le (depth : Nat) (cs : List Char) : commentLength depth cs ≤ cs.length := by
  fun_induction commentLength depth cs <;> simp_all <;> omega

end ScadText.Extent
