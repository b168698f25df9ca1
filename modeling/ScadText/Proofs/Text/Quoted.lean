import Mathlib.Tactic.SplitIfs
import ScadText.Proofs.Text.Decimal
import ScadText.Report.Source

/-!
# Messages on one line

A text in quotes stands on one line whatever it holds, and so does the message of a source that
cannot be read.

## Main statements

* `newline_notMem_quote`: a quoted text has no line feed.
* `ReadFault.newline_notMem_message`: no message about a source has one.
-/

namespace ScadText

namespace Text

theorem hexDigit_ne_newline {value : Nat} (h : value < 16) : hexDigit value ≠ '\n' := by
  decide +revert

theorem newline_notMem_hexDigits (width n : Nat) : '\n' ∉ hexDigits width n := by
  induction width generalizing n with
  | zero => simp [hexDigits]
  | succ width ih =>
    have hdigit : hexDigit (n % 16) ≠ '\n' := hexDigit_ne_newline (Nat.mod_lt n (by omega))
    simp [hexDigits, ih, hdigit.symm]

theorem newline_notMem_codePointEscape (c : Char) : '\n' ∉ codePointEscape c := by
  dsimp only [codePointEscape]
  split_ifs <;> simp [newline_notMem_hexDigits]

variable {printable : Char → Bool} {mark : Char}

/-- The one character that ends a line is always escaped. -/
theorem newline_notMem_escape (hmark : mark ≠ '\n') (c : Char) : '\n' ∉ escape printable mark c := by
  rw [escape]
  grind [newline_notMem_codePointEscape]

theorem quoteMark_ne_newline (text : List Char) : quoteMark text ≠ '\n' := by
  grind [quoteMark]

theorem newline_notMem_quote (text : List Char) : '\n' ∉ quote printable text := by
  have hmark := quoteMark_ne_newline text
  simp [quote, hmark.symm, newline_notMem_escape hmark]

theorem newline_notMem_toDigits (n : Nat) : '\n' ∉ Nat.toDigits 10 n :=
  notMem_toDigits (by decide) n

end Text

theorem FileFault.newline_notMem_message (fault : FileFault) : '\n' ∉ fault.message.toList := by
  obtain ⟨refusal, path⟩ := fault
  have htext : '\n' ∉ refusal.text.toList := by cases refusal <;> decide
  simp [FileFault.message, Unicode.quoted, Text.newline_notMem_toDigits,
    Text.newline_notMem_quote, htext]

theorem Utf8.Fault.newline_notMem_message (fault : Utf8.Fault) : '\n' ∉ fault.message.toList := by
  have hreason : '\n' ∉ fault.reason.message.toList := by cases fault.reason <;> decide
  dsimp only [Utf8.Fault.message]
  split_ifs <;>
    simp [Text.newline_notMem_toDigits, Text.newline_notMem_hexDigits, hreason]

/-- The message of a source that cannot be read stands on one line. -/
theorem ReadFault.newline_notMem_message (fault : ReadFault) : '\n' ∉ fault.message.toList := by
  cases fault with
  | refused fault => exact fault.newline_notMem_message
  | badEncoding fault => exact fault.newline_notMem_message

end ScadText
