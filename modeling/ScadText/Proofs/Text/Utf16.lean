import ScadText.Text.Utf16

/-!
# UTF-16 code units

The code units themselves, of which `utf16Length` is the number.

## Main definitions

* `codeUnits`, `utf16`: the code units of a character and of a text.
* `ofUtf16?`: the text which code units stand for.

## Main statements

* `length_utf16`: how many there are.
* `ofUtf16?_utf16`: the text is told by its code units.
* `take_utf16`, `extract_utf16`: the code units of a part of a text.
-/

namespace ScadText.Text

/-- The code units of a character: one in the basic plane, else a high and a low surrogate. -/
def codeUnits (c : Char) : List UInt16 :=
  if c.toNat < 0x10000 then [c.toNat.toUInt16]
  else
    [(0xD800 + (c.toNat - 0x10000) / 0x400).toUInt16,
      (0xDC00 + (c.toNat - 0x10000) % 0x400).toUInt16]

/-- The code units of a text. -/
def utf16 (text : List Char) : List UInt16 := text.flatMap codeUnits

theorem length_codeUnits (c : Char) : (codeUnits c).length = units c := by
  rw [codeUnits, units]
  split <;> rfl

theorem length_utf16 (text : List Char) : (utf16 text).length = utf16Length text := by
  induction text with
  | nil => rfl
  | cons c text ih =>
    rw [utf16, List.flatMap_cons, List.length_append, length_codeUnits, utf16Length_cons]
    exact congrArg (units c + ·) ih

theorem utf16_append (s t : List Char) : utf16 (s ++ t) = utf16 s ++ utf16 t := List.flatMap_append

/-- The code units of a part of a text. -/
theorem extract_utf16 (before text after : List Char) :
    (utf16 (before ++ text ++ after)).extract (utf16Length before)
      (utf16Length before + utf16Length text) = utf16 text := by
  rw [utf16_append, utf16_append, List.append_assoc, ← length_utf16 before, ← length_utf16 text,
    List.extract_eq_take_drop, List.drop_left, Nat.add_sub_cancel_left, List.take_left]

/-- The code units of the front of a text. -/
theorem take_utf16 (text : List Char) (n : Nat) :
    (utf16 text).take (utf16Length (text.take n)) = utf16 (text.take n) := by
  have hcut : utf16 text = utf16 (text.take n) ++ utf16 (text.drop n) := by
    rw [← utf16_append, List.take_append_drop]
  rw [hcut, ← length_utf16, List.take_left]

/-! ## Decoding -/

/-- The text which code units stand for, unless a surrogate stands alone. -/
def ofUtf16? : List UInt16 → Option (List Char)
  | [] => some []
  | u :: us =>
    if u.toNat < 0xD800 ∨ 0xE000 ≤ u.toNat then (ofUtf16? us).map (Char.ofNat u.toNat :: ·)
    else
      match us with
      | [] => none
      | v :: vs =>
        if u.toNat < 0xDC00 ∧ 0xDC00 ≤ v.toNat ∧ v.toNat < 0xE000 then
          (ofUtf16? vs).map
            (Char.ofNat (0x10000 + (u.toNat - 0xD800) * 0x400 + (v.toNat - 0xDC00)) :: ·)
        else none

theorem ofUtf16?_single {u : UInt16} (h : u.toNat < 0xD800 ∨ 0xE000 ≤ u.toNat)
    (us : List UInt16) : ofUtf16? (u :: us) = (ofUtf16? us).map (Char.ofNat u.toNat :: ·) := by
  rw [ofUtf16?.eq_def]
  exact if_pos h

theorem ofUtf16?_pair {u v : UInt16} (hu : 0xD800 ≤ u.toNat ∧ u.toNat < 0xDC00)
    (hv : 0xDC00 ≤ v.toNat ∧ v.toNat < 0xE000) (us : List UInt16) :
    ofUtf16? (u :: v :: us) = (ofUtf16? us).map
      (Char.ofNat (0x10000 + (u.toNat - 0xD800) * 0x400 + (v.toNat - 0xDC00)) :: ·) := by
  rw [ofUtf16?, if_neg (by omega), if_pos ⟨hu.2, hv⟩]

theorem ofUtf16?_codeUnits_append (c : Char) (us : List UInt16) :
    ofUtf16? (codeUnits c ++ us) = (ofUtf16? us).map (c :: ·) := by
  have hcode : c.toNat < 0xD800 ∨ 0xDFFF < c.toNat ∧ c.toNat < 0x110000 := c.valid
  by_cases hplane : c.toNat < 0x10000
  · have hunit : c.toNat.toUInt16.toNat = c.toNat := by simp; omega
    rw [codeUnits, if_pos hplane, List.singleton_append, ofUtf16?_single (by omega), hunit,
      Char.ofNat_toNat]
  · have hhigh : (0xD800 + (c.toNat - 0x10000) / 0x400).toUInt16.toNat =
        0xD800 + (c.toNat - 0x10000) / 0x400 := by simp; omega
    have hlow : (0xDC00 + (c.toNat - 0x10000) % 0x400).toUInt16.toNat =
        0xDC00 + (c.toNat - 0x10000) % 0x400 := by simp; omega
    have hcombine : 0x10000 + (0xD800 + (c.toNat - 0x10000) / 0x400 - 0xD800) * 0x400 +
        (0xDC00 + (c.toNat - 0x10000) % 0x400 - 0xDC00) = c.toNat := by omega
    rw [codeUnits, if_neg hplane, List.cons_append, List.singleton_append,
      ofUtf16?_pair (by omega) (by omega), hhigh, hlow, hcombine, Char.ofNat_toNat]

/-- Decoding undoes encoding. -/
theorem ofUtf16?_utf16 (text : List Char) : ofUtf16? (utf16 text) = some text := by
  induction text with
  | nil => rfl
  | cons c text ih =>
    rw [utf16, List.flatMap_cons, ofUtf16?_codeUnits_append]
    exact congrArg (Option.map (c :: ·)) ih

end ScadText.Text
