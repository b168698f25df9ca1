import Mathlib.Tactic.SplitIfs
import ScadText.Proofs.Text.Hexadecimal
import ScadText.Text.Quoted

/-!
# Reading quoted texts

A quoted text tells the text, whatever characters are printable: either quote mark may open it, and
after a backslash stands one of the marks, a letter for a control, or a code point.

## Main definitions

* `readCodePoint?`, `readEscape?`: the character that is written after a backslash.
* `unescape?`: the text in front of a closing quote mark.
* `unquote?`: the text in quotes.

## Main statements

* `unescape?_escape_append`: one character is read as it was written.
* `unquote?_quote`: reading undoes quoting.
-/

namespace ScadText.Text

/-- The character whose code point stands at the front in so many digits. -/
def readCodePoint? (width : Nat) (text : List Char) : Option Char :=
  if width ≤ text.length then
    (readHex? (text.take width)).bind fun n => if n.isValidChar then some (Char.ofNat n) else none
  else none

/-- The character that is written after a backslash, and how many characters this takes. -/
def readEscape? : List Char → Option (Char × Nat)
  | [] => none
  | letter :: rest =>
    match letter with
    | '\\' | '\x27' | '"' => some (letter, 1)
    | 'n' => some ('\n', 1)
    | 'r' => some ('\r', 1)
    | 't' => some ('\t', 1)
    | 'x' => (readCodePoint? 2 rest).map (·, 3)
    | 'u' => (readCodePoint? 4 rest).map (·, 5)
    | 'U' => (readCodePoint? 8 rest).map (·, 9)
    | _ => none

/-- The text that is written in front of a quote mark at the end. -/
def unescape? (mark : Char) : List Char → Option (List Char)
  | [] => none
  | c :: cs =>
    if c = mark then if cs = [] then some [] else none
    else if c = '\\' then
      match readEscape? cs with
      | none => none
      | some (d, width) => (unescape? mark (cs.drop width)).map (d :: ·)
    else (unescape? mark cs).map (c :: ·)
termination_by text => text.length
decreasing_by all_goals simp only [List.length_drop, List.length_cons]; omega

/-- The text that is written in quotes. -/
def unquote? : List Char → Option (List Char)
  | [] => none
  | mark :: text => if mark = '\x27' ∨ mark = '"' then unescape? mark text else none

/-! ## One character -/

theorem readCodePoint?_hexDigits (width : Nat) {c : Char} (h : c.toNat < 16 ^ width)
    (rest : List Char) : readCodePoint? width (hexDigits width c.toNat ++ rest) = some c := by
  have hvalid : c.toNat.isValidChar := c.valid
  rw [readCodePoint?, if_pos (by simp [length_hexDigits]), List.take_left' (length_hexDigits _ _),
    readHex?_hexDigits h, Option.bind_some, if_pos hvalid, Char.ofNat_toNat]

/-- A code point that is written after a backslash is read back. -/
theorem exists_readEscape?_codePointEscape (c : Char) : ∃ text width,
    codePointEscape c = '\\' :: text ∧ width = text.length ∧
      ∀ rest, readEscape? (text ++ rest) = some (c, width) := by
  dsimp only [codePointEscape]
  split_ifs with htwo hfour
  · refine ⟨_, 3, rfl, by simp [length_hexDigits], fun rest => ?_⟩
    simp [readEscape?, readCodePoint?_hexDigits 2 htwo]
  · refine ⟨_, 5, rfl, by simp [length_hexDigits], fun rest => ?_⟩
    simp [readEscape?, readCodePoint?_hexDigits 4 hfour]
  · have height : c.toNat < 16 ^ 8 := by
      have hcode : c.toNat < 0xD800 ∨ 0xDFFF < c.toNat ∧ c.toNat < 0x110000 := c.valid
      omega
    refine ⟨_, 9, rfl, by simp [length_hexDigits], fun rest => ?_⟩
    simp [readEscape?, readCodePoint?_hexDigits 8 height]

/-! ## A text -/

variable {mark : Char}

/-- What is written after a backslash is one character. -/
theorem unescape?_backslash_append (hmark : mark ≠ '\\') {s rest : List Char} {c : Char}
    (h : readEscape? (s ++ rest) = some (c, s.length)) :
    unescape? mark ('\\' :: (s ++ rest)) = (unescape? mark rest).map (c :: ·) := by
  rw [unescape?, if_neg hmark.symm, if_pos rfl, h]
  dsimp only
  rw [List.drop_left]

/-- One character is read as it was written. -/
theorem unescape?_escape_append (hmark : mark = '\x27' ∨ mark = '"') (printable : Char → Bool)
    (c : Char) (rest : List Char) :
    unescape? mark (escape printable mark c ++ rest) = (unescape? mark rest).map (c :: ·) := by
  have hne : mark ≠ '\\' := by grind
  have hshort (letter : Char) (h : readEscape? (letter :: rest) = some (c, 1)) :
      unescape? mark (['\\', letter] ++ rest) = (unescape? mark rest).map (c :: ·) :=
    unescape?_backslash_append (s := [letter]) hne h
  rw [escape]
  split_ifs with hback hfeed hreturn htab hprintable
  · have hc : c = '\\' ∨ c = '\x27' ∨ c = '"' := by grind
    apply hshort
    obtain rfl | rfl | rfl := hc <;> rfl
  · exact hshort 'n' (hfeed ▸ rfl)
  · exact hshort 'r' (hreturn ▸ rfl)
  · exact hshort 't' (htab ▸ rfl)
  · have hplain : c ≠ mark ∧ c ≠ '\\' := by grind
    rw [List.singleton_append, unescape?, if_neg hplain.1, if_neg hplain.2]
  · obtain ⟨text, width, htext, rfl, hread⟩ := exists_readEscape?_codePointEscape c
    rw [htext]
    exact unescape?_backslash_append hne (hread rest)

theorem unescape?_flatMap_escape (hmark : mark = '\x27' ∨ mark = '"') (printable : Char → Bool)
    (text : List Char) :
    unescape? mark (text.flatMap (escape printable mark) ++ [mark]) = some text := by
  induction text with
  | nil => simp [unescape?]
  | cons c text ih =>
    rw [List.flatMap_cons, List.append_assoc, unescape?_escape_append hmark, ih, Option.map_some]

/-- Reading undoes quoting, whatever characters are printable. -/
theorem unquote?_quote (printable : Char → Bool) (text : List Char) :
    unquote? (quote printable text) = some text := by
  have hmark : quoteMark text = '\x27' ∨ quoteMark text = '"' := by grind [quoteMark]
  rw [quote, List.cons_append, unquote?, if_pos hmark, unescape?_flatMap_escape hmark]

end ScadText.Text
