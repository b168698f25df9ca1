import ScadText.Finding.Basic
import ScadText.Vocabulary

/-!
# Unknown special variables

Each dollar sign before a letter or low line starts a name, which reaches as far as letters, digits
and low lines do. No name holds a second dollar sign, so names never overlap.

## Main definitions

* `nameAt?`, `names`: the name at the front of a text, and all names of a line from left to right.
* `firstIndex`: where a name first occurs in the line, as a part of any longer name too.
* `unknown`: the findings of a line, one for each name that is not in the table.
-/

namespace ScadText.SpecialVariable

def isNameStart (c : Char) : Bool := c.isAlpha || c == '_'

def isNameChar (c : Char) : Bool := c.isAlphanum || c == '_'

/-- The name at the front of a text, its dollar sign included. -/
def nameAt? : List Char → Option (List Char)
  | '$' :: c :: cs => if isNameStart c then some ('$' :: c :: cs.takeWhile isNameChar) else none
  | _ => none

/-- The names of a line from left to right. -/
def names : List Char → List (List Char)
  | [] => []
  | c :: cs =>
    match nameAt? (c :: cs) with
    | some name => name :: names cs
    | none => names cs

/-- The least index at which `part` occurs in a text, or the length of the text. -/
def firstIndex (part : List Char) : List Char → Nat
  | [] => 0
  | c :: cs => if part.isPrefixOf (c :: cs) then 0 else firstIndex part cs + 1

def isKnown (name : List Char) : Bool :=
  Vocabulary.specialVariables.contains (String.ofList name)

/-- The finding of one name. All uses of a name are reported at its first occurrence. -/
def finding (line : List Char) (number : Int) (name : List Char) : Finding :=
  let column : Int := firstIndex name line + 1
  { severity := .warning
    code := Rule.unknownSpecialVariable.code
    message := "Unknown special variable '" ++ String.ofList name ++ "'"
    line := number
    column
    endLine := number
    endColumn := column + name.length }

/-- The findings of a line. -/
def unknown (line : List Char) (number : Int) : List Finding :=
  ((names line).filter (!isKnown ·)).map (finding line number)

theorem nameAt?_eq_take {text name : List Char} (h : nameAt? text = some name) :
    name <+: text := by
  fun_cases nameAt? text with
  | case1 c cs hc =>
    simp only [nameAt?, hc, if_true, Option.some.injEq] at h
    subst h
    simpa using List.takeWhile_prefix isNameChar
  | case2 => simp_all [nameAt?]
  | case3 => simp_all [nameAt?]

end ScadText.SpecialVariable
