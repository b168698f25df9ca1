import ScadText.Json.Record
import ScadText.Proofs.Text.Decimal

/-!
# Records are written in ASCII

What is not ASCII in the strings of a record is written by escapes, so the text of records has ASCII
characters only.

## Main definitions

* `IsAscii`: a text without other characters.

## Main statements

* `isAscii_escape`: every character is written in ASCII.
* `isAscii_render`: so are lists of records.
-/

namespace ScadText.Json

/-- The text has ASCII characters only. -/
def IsAscii (text : List Char) : Prop := ∀ c ∈ text, c.toNat < 0x80

variable {s t : List Char} {c : Char}

@[simp] theorem isAscii_nil : IsAscii [] := by simp [IsAscii]

@[simp] theorem isAscii_cons : IsAscii (c :: s) ↔ c.toNat < 0x80 ∧ IsAscii s :=
  List.forall_mem_cons

@[simp] theorem isAscii_append : IsAscii (s ++ t) ↔ IsAscii s ∧ IsAscii t :=
  List.forall_mem_append

theorem isAscii_flatMap {α : Type} {f : α → List Char} {items : List α}
    (h : ∀ x ∈ items, IsAscii (f x)) : IsAscii (items.flatMap f) := by
  intro c hc
  obtain ⟨x, hx, hc⟩ := List.mem_flatMap.mp hc
  exact h x hx c hc

theorem isAscii_intercalate {parts : List (List Char)} (h : ∀ part ∈ parts, IsAscii part) :
    IsAscii ([','].intercalate parts) := by
  induction parts with
  | nil => simp
  | cons part parts ih =>
    obtain ⟨hpart, hparts⟩ := List.forall_mem_cons.mp h
    cases parts with
    | nil => simpa using hpart
    | cons next parts => simpa [hpart] using ih hparts

/-! ## Strings -/

theorem isAscii_hexDigits (width n : Nat) : IsAscii (Text.hexDigits width n) := by
  have hdigit {value : Nat} (h : value < 16) : (Text.hexDigit value).toNat < 0x80 := by
    decide +revert
  induction width generalizing n with
  | zero => exact isAscii_nil
  | succ width ih => simp [Text.hexDigits, ih, hdigit (Nat.mod_lt n (by omega))]

theorem toNat_lt_of_shortEscape? {letter : Char} (h : shortEscape? c = some letter) :
    letter.toNat < 0x80 := by
  revert h
  fun_cases shortEscape? c <;> rintro ⟨⟩ <;> decide

/-- Every character is written in ASCII. -/
theorem isAscii_escape (c : Char) : IsAscii (escape c) := by
  rw [escape]
  cases hshort : shortEscape? c with
  | some letter => simp [toNat_lt_of_shortEscape? hshort]
  | none =>
    dsimp only
    split
    · rename_i hplain
      have htilde : c.toNat ≤ 0x7E := hplain.2
      exact isAscii_cons.mpr ⟨by omega, isAscii_nil⟩
    · exact isAscii_flatMap fun unit _ => by simp [unitEscape, isAscii_hexDigits]

theorem isAscii_quote (text : List Char) : IsAscii (quote text) := by
  simp [quote, isAscii_flatMap fun c _ => isAscii_escape c]

/-! ## Records -/

theorem isAscii_renderInteger (value : Int) : IsAscii (renderInteger value) := by
  have hdigits (n : Nat) : IsAscii (Nat.toDigits 10 n) := by
    intro c hc
    have hdigit := Nat.isDigit_of_mem_toDigits (by omega) (Nat.le_refl 10) hc
    have hnine : c.toNat ≤ 0x39 := (Char.isDigit_iff_toNat.mp hdigit).2
    omega
  rw [renderInteger]
  split <;> simp [hdigits]

theorem Scalar.isAscii_render (value : Scalar) : IsAscii value.render := by
  cases value with
  | text value => exact isAscii_quote value
  | integer value => exact isAscii_renderInteger value

theorem isAscii_renderField (field : List Char × Scalar) : IsAscii (renderField field) := by
  simp [renderField, isAscii_quote, field.2.isAscii_render]

theorem isAscii_newLine (depth : Nat) : IsAscii (newLine depth) := by
  simp [newLine, IsAscii]

theorem isAscii_block {opening closing : Char} {parts : List (List Char)}
    (hopening : opening.toNat < 0x80) (hclosing : closing.toNat < 0x80)
    (h : ∀ part ∈ parts, IsAscii part) (depth : Nat) :
    IsAscii (block opening closing depth parts) := by
  have hlines : ∀ line ∈ parts.map (newLine (depth + 1) ++ ·), IsAscii line := by
    simpa [isAscii_newLine] using h
  have hitems := isAscii_intercalate hlines
  cases parts with
  | nil => simp [block, hopening, hclosing]
  | cons part parts => simpa [block, hopening, hclosing, isAscii_newLine] using hitems

theorem Record.isAscii_render (record : Record) : IsAscii record.render :=
  isAscii_block (by decide) (by decide)
    (List.forall_mem_map.mpr fun field _ => isAscii_renderField field) 1

/-- Lists of records are written in ASCII. -/
theorem isAscii_render (records : List Record) : IsAscii (render records) :=
  isAscii_block (by decide) (by decide)
    (List.forall_mem_map.mpr fun record _ => record.isAscii_render) 0

end ScadText.Json
