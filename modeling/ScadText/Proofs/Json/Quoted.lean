import ScadText.Json.Record
import ScadText.Proofs.Text.Hexadecimal
import ScadText.Proofs.Text.Utf16

/-!
# Reading strings of JSON

A string is read as the UTF-16 code units that are written in it, and these stand for its text. A
character outside the basic plane is written by two escapes, so no escape alone tells a character.

## Main definitions

* `readUnit?`: the code unit that is written after a backslash.
* `readUnits?`, `readString?`: the code units, and the text, in front of a closing quote mark.

## Main statements

* `readUnits?_escape`: one character is read as its code units.
* `readString?_escapes`: reading undoes quoting.
-/

namespace ScadText.Json

open Text

/-- The character for which a letter after a backslash stands. -/
def ofShortEscape? : Char → Option Char
  | '"' => some '"'
  | '\\' => some '\\'
  | '/' => some '/'
  | 'n' => some '\n'
  | 'r' => some '\r'
  | 't' => some '\t'
  | 'b' => some '\x08'
  | 'f' => some '\x0c'
  | _ => none

/-- The code unit that is written after a backslash, and how many characters this takes. -/
def readUnit? : List Char → Option (UInt16 × Nat)
  | [] => none
  | letter :: rest =>
    if letter = 'u' then
      if 4 ≤ rest.length then (readHex? (rest.take 4)).map fun n => (n.toUInt16, 5) else none
    else (ofShortEscape? letter).map fun c => (c.toNat.toUInt16, 1)

/-- The code units in front of a closing quote mark, and how many characters these and the mark
take. -/
def readUnits? : List Char → Option (List UInt16 × Nat)
  | [] => none
  | c :: cs =>
    if c = '"' then some ([], 1)
    else if c = '\\' then
      match readUnit? cs with
      | none => none
      | some (unit, width) =>
        (readUnits? (cs.drop width)).map fun (units, n) => (unit :: units, 1 + width + n)
    else if c < ' ' then none
    else (readUnits? cs).map fun (units, n) => (Text.codeUnits c ++ units, 1 + n)
termination_by text => text.length
decreasing_by all_goals simp only [List.length_drop, List.length_cons]; omega

/-- The text in front of a closing quote mark, and how many characters it and the mark take. -/
def readString? (text : List Char) : Option (List Char × Nat) := do
  let (units, width) ← readUnits? text
  return (← ofUtf16? units, width)

/-! ## One character -/

variable {s : List Char} {units : List UInt16} {c : Char} {n : Nat}

theorem ofShortEscape?_of_shortEscape? {letter : Char} (h : shortEscape? c = some letter) :
    ofShortEscape? letter = some c ∧ letter ≠ 'u' ∧ Text.codeUnits c = [c.toNat.toUInt16] := by
  revert h
  fun_cases shortEscape? c <;> rintro ⟨⟩ <;> decide

/-- What stands after a backslash is read as one code unit. -/
theorem readUnits?_backslash {text : List Char} {unit : UInt16}
    (h : readUnit? (text ++ s) = some (unit, text.length)) (hs : readUnits? s = some (units, n)) :
    readUnits? ('\\' :: (text ++ s)) = some (unit :: units, ('\\' :: text).length + n) := by
  rw [readUnits?, if_neg (by decide), if_pos rfl, h]
  dsimp only
  rw [List.drop_left, hs, Option.map_some, List.length_cons, Nat.add_comm 1]

theorem readUnits?_unitEscape {unit : Nat} (h : unit < 0x10000)
    (hs : readUnits? s = some (units, n)) :
    readUnits? (unitEscape unit ++ s) =
      some (unit.toUInt16 :: units, (unitEscape unit).length + n) := by
  have hread : readUnit? ('u' :: hexDigits 4 unit ++ s) =
      some (unit.toUInt16, ('u' :: hexDigits 4 unit).length) := by
    rw [List.cons_append, readUnit?, if_pos rfl, if_pos (by simp [length_hexDigits]),
      List.take_left' (length_hexDigits 4 unit), readHex?_hexDigits h]
    simp [length_hexDigits]
  exact readUnits?_backslash hread hs

/-- Escapes are read as the code units which they write. -/
theorem readUnits?_unitEscapes {numbers : List Nat} (h : ∀ unit ∈ numbers, unit < 0x10000)
    (hs : readUnits? s = some (units, n)) :
    readUnits? (numbers.flatMap unitEscape ++ s) =
      some (numbers.map Nat.toUInt16 ++ units, (numbers.flatMap unitEscape).length + n) := by
  induction numbers with
  | nil => simpa using hs
  | cons unit numbers ih =>
    obtain ⟨hunit, hnumbers⟩ := List.forall_mem_cons.mp h
    rw [List.flatMap_cons, List.append_assoc, readUnits?_unitEscape hunit (ih hnumbers),
      List.map_cons, List.cons_append, List.length_append, Nat.add_assoc]

theorem codeUnits_lt (c : Char) : ∀ unit ∈ codeUnits c, unit < 0x10000 := by
  have hcode : c.toNat < 0xD800 ∨ 0xDFFF < c.toNat ∧ c.toNat < 0x110000 := c.valid
  dsimp only [codeUnits]
  split <;> simp <;> omega

theorem map_codeUnits (c : Char) : (codeUnits c).map Nat.toUInt16 = Text.codeUnits c := by
  dsimp only [codeUnits, Text.codeUnits]
  split <;> rfl

/-- One character is read as its code units. -/
theorem readUnits?_escape (c : Char) (hs : readUnits? s = some (units, n)) :
    readUnits? (escape c ++ s) =
      some (Text.codeUnits c ++ units, (escape c).length + n) := by
  rw [escape]
  cases hshort : shortEscape? c with
  | some letter =>
    obtain ⟨hletter, hu, hunits⟩ := ofShortEscape?_of_shortEscape? hshort
    have hread : readUnit? ([letter] ++ s) = some (c.toNat.toUInt16, 1) := by
      rw [List.singleton_append, readUnit?, if_neg hu, hletter, Option.map_some]
    rw [hunits]
    exact readUnits?_backslash hread hs
  | none =>
    dsimp only
    split
    · rename_i hplain
      have hquote : c ≠ '"' ∧ c ≠ '\\' := by
        constructor <;> rintro rfl <;> cases hshort
      rw [List.singleton_append, readUnits?, if_neg hquote.1, if_neg hquote.2,
        if_neg (Char.not_lt.mpr hplain.1), hs]
      rfl
    · rw [readUnits?_unitEscapes (codeUnits_lt c) hs, map_codeUnits]

/-! ## A text -/

theorem readUnits?_escapes (text rest : List Char) :
    readUnits? (text.flatMap escape ++ '"' :: rest) =
      some (utf16 text, (text.flatMap escape).length + 1) := by
  induction text with
  | nil => simp [readUnits?, utf16]
  | cons c text ih =>
    rw [List.flatMap_cons, List.append_assoc, readUnits?_escape c ih, List.length_append,
      Nat.add_assoc]
    rfl

/-- Reading undoes quoting. -/
theorem readString?_escapes (text rest : List Char) :
    readString? (text.flatMap escape ++ '"' :: rest) =
      some (text, (text.flatMap escape).length + 1) := by
  simp [readString?, readUnits?_escapes, ofUtf16?_utf16]

end ScadText.Json
