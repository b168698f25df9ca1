import Mathlib.Data.Char
import ScadText.Text.Utf8

/-!
# Writing UTF-8

What is written in UTF-8 is read back, and nothing else is read.

## Main definitions

* `encode`: the bytes of a text.
* `Fill`: bytes that continue a sequence, and the bits they add.

## Main statements

* `decodeFrom_append`: the bytes of one character in front of others.
* `decode_encode`: every text is read back from its bytes.
* `utf8EncodeChar_of_fill`: a sequence that is read is a character's.
* `decode_eq_ok_iff`: a text is read from its bytes and from no others.
-/

namespace ScadText.Utf8

/-- The bytes of a text. -/
def encode (text : List Char) : List UInt8 := text.flatMap String.utf8EncodeChar

variable {b : UInt8} {bytes : List UInt8} {bits low high position : Nat} {ranges : List (Nat × Nat)}

/-! ## One byte -/

theorem decodeFrom_single (h : lead? b.toNat = some ⟨bits, []⟩) :
    decodeFrom position none (b :: bytes) =
      (decodeFrom (position + 1) none bytes).map (Char.ofNat bits :: ·) := by
  rw [decodeFrom, h]

theorem decodeFrom_lead (h : lead? b.toNat = some ⟨bits, (low, high) :: ranges⟩) :
    decodeFrom position none (b :: bytes) =
      decodeFrom (position + 1) (some ⟨b.toNat, position, bits, (low, high) :: ranges⟩) bytes := by
  rw [decodeFrom, h]

/-- A byte after which more must follow. -/
theorem decodeFrom_more {first start : Nat} {next : Nat × Nat}
    (h : low ≤ b.toNat ∧ b.toNat ≤ high) :
    decodeFrom position (some ⟨first, start, bits, (low, high) :: next :: ranges⟩) (b :: bytes) =
      decodeFrom (position + 1)
        (some ⟨first, start, bits * 64 + (b.toNat - 0x80), next :: ranges⟩) bytes := by
  rw [decodeFrom]
  simp [h]

/-- The last byte of a sequence. -/
theorem decodeFrom_last {first start : Nat} (h : low ≤ b.toNat ∧ b.toNat ≤ high) :
    decodeFrom position (some ⟨first, start, bits, [(low, high)]⟩) (b :: bytes) =
      (decodeFrom (position + 1) none bytes).map
        (Char.ofNat (bits * 64 + (b.toNat - 0x80)) :: ·) := by
  rw [decodeFrom]
  simp [h]

/-! ## The first byte -/

theorem toNat_ofNat_of_lt {n : Nat} (h : n < 256) : (UInt8.ofNat n).toNat = n := by
  rw [UInt8.toNat_ofNat']
  omega

theorem lead?_two {n : Nat} (low : 2 ≤ n) (high : n < 32) :
    lead? (n + 0xC0) = some ⟨n, [tail]⟩ := by
  rw [lead?, if_neg (by omega), if_neg (by omega), if_pos (by omega), Nat.add_sub_cancel]

/-- The first of three bytes, and what the second may be: no character has a shorter form, and none
is a surrogate. -/
theorem exists_lead?_three (n second : Nat) (hn : n < 16) (hsecond : 0x80 ≤ second ∧ second ≤ 0xBF)
    (shorter : n = 0 → 0xA0 ≤ second) (surrogate : n = 13 → second ≤ 0x9F) :
    ∃ low high,
      lead? (n + 0xE0) = some ⟨n, [(low, high), tail]⟩ ∧ low ≤ second ∧ second ≤ high := by
  rw [lead?, if_neg (by omega), if_neg (by omega), if_neg (by omega), if_pos (by omega),
    Nat.add_sub_cancel]
  by_cases hzero : n = 0
  · exact ⟨0xA0, 0xBF, by rw [if_pos (by omega)], shorter hzero, hsecond.2⟩
  by_cases hthirteen : n = 13
  · refine ⟨0x80, 0x9F, ?_, hsecond.1, surrogate hthirteen⟩
    rw [if_neg (by omega), if_pos (by omega)]
  · refine ⟨0x80, 0xBF, ?_, hsecond⟩
    rw [if_neg (by omega), if_neg (by omega)]
    rfl

/-- The first of four bytes, and what the second may be: no character has a shorter form, and none
lies beyond the last. -/
theorem exists_lead?_four (n second : Nat) (hn : n < 5) (hsecond : 0x80 ≤ second ∧ second ≤ 0xBF)
    (shorter : n = 0 → 0x90 ≤ second) (beyond : n = 4 → second ≤ 0x8F) :
    ∃ low high,
      lead? (n + 0xF0) = some ⟨n, [(low, high), tail, tail]⟩ ∧ low ≤ second ∧ second ≤ high := by
  rw [lead?, if_neg (by omega), if_neg (by omega), if_neg (by omega), if_neg (by omega),
    if_pos (by omega), Nat.add_sub_cancel]
  by_cases hzero : n = 0
  · exact ⟨0x90, 0xBF, by rw [if_pos (by omega)], shorter hzero, hsecond.2⟩
  by_cases hfour : n = 4
  · refine ⟨0x80, 0x8F, ?_, hsecond.1, beyond hfour⟩
    rw [if_neg (by omega), if_pos (by omega)]
  · refine ⟨0x80, 0xBF, ?_, hsecond⟩
    rw [if_neg (by omega), if_neg (by omega)]
    rfl

/-! ## One character -/

theorem tail_of_mod (n : Nat) :
    0x80 ≤ (UInt8.ofNat (n % 64 + 0x80)).toNat ∧ (UInt8.ofNat (n % 64 + 0x80)).toNat ≤ 0xBF := by
  rw [toNat_ofNat_of_lt (by omega)]
  omega

/-- The bytes of a character are read back. -/
theorem decodeFrom_append (c : Char) (bytes : List UInt8) (position : Nat) :
    decodeFrom position none (String.utf8EncodeChar c ++ bytes) =
      (decodeFrom (position + (String.utf8EncodeChar c).length) none bytes).map (c :: ·) := by
  have hvalid : c.val.toNat < 0xD800 ∨ 0xDFFF < c.val.toNat ∧ c.val.toNat < 0x110000 := c.valid
  have hc : Char.ofNat c.val.toNat = c := Char.ofNat_toNat c
  fun_cases String.utf8EncodeChar c with
  | case1 v hone =>
    have hlead : lead? (UInt8.ofNat v).toNat = some ⟨v, []⟩ := by
      rw [toNat_ofNat_of_lt (by omega), lead?, if_pos (by omega)]
    rw [List.singleton_append, decodeFrom_single hlead, hc]
    rfl
  | case2 v hone htwo =>
    have hlead : lead? (UInt8.ofNat (v / 64 % 32 + 192)).toNat = some ⟨v / 64 % 32, [tail]⟩ := by
      rw [toNat_ofNat_of_lt (by omega)]
      exact lead?_two (by omega) (by omega)
    have hbits : v / 64 % 32 * 64 + ((UInt8.ofNat (v % 64 + 128)).toNat - 0x80) = v := by
      rw [toNat_ofNat_of_lt (by omega)]
      omega
    rw [List.cons_append, List.singleton_append, decodeFrom_lead hlead,
      decodeFrom_last (tail_of_mod v), hbits, hc]
    rfl
  | case3 v hone htwo hthree =>
    have hsecond : (UInt8.ofNat (v / 64 % 64 + 128)).toNat = v / 64 % 64 + 128 :=
      toNat_ofNat_of_lt (by omega)
    have hthird : (UInt8.ofNat (v % 64 + 128)).toNat = v % 64 + 128 := toNat_ofNat_of_lt (by omega)
    obtain ⟨low, high, hlead, hrange⟩ := exists_lead?_three (v / 4096 % 16)
      (v / 64 % 64 + 128) (by omega) (by omega) (by omega) (by omega)
    have hfirst : (UInt8.ofNat (v / 4096 % 16 + 224)).toNat = v / 4096 % 16 + 224 :=
      toNat_ofNat_of_lt (by omega)
    have hbits : (v / 4096 % 16 * 64 + (v / 64 % 64 + 128 - 0x80)) * 64 +
        (v % 64 + 128 - 0x80) = v := by
      omega
    rw [List.cons_append, List.cons_append, List.singleton_append,
      decodeFrom_lead (hfirst.symm ▸ hlead), tail, decodeFrom_more (hsecond.symm ▸ hrange),
      decodeFrom_last (tail_of_mod v), hsecond, hthird, hbits, hc]
    rfl
  | case4 v hone htwo hthree =>
    have hsecond : (UInt8.ofNat (v / 4096 % 64 + 128)).toNat = v / 4096 % 64 + 128 :=
      toNat_ofNat_of_lt (by omega)
    have hthird : (UInt8.ofNat (v / 64 % 64 + 128)).toNat = v / 64 % 64 + 128 :=
      toNat_ofNat_of_lt (by omega)
    have hfourth : (UInt8.ofNat (v % 64 + 128)).toNat = v % 64 + 128 := toNat_ofNat_of_lt (by omega)
    obtain ⟨low, high, hlead, hrange⟩ := exists_lead?_four (v / 262144 % 8)
      (v / 4096 % 64 + 128) (by omega) (by omega) (by omega) (by omega)
    have hfirst : (UInt8.ofNat (v / 262144 % 8 + 240)).toNat = v / 262144 % 8 + 240 :=
      toNat_ofNat_of_lt (by omega)
    have hbits : ((v / 262144 % 8 * 64 + (v / 4096 % 64 + 128 - 0x80)) * 64 +
        (v / 64 % 64 + 128 - 0x80)) * 64 + (v % 64 + 128 - 0x80) = v := by
      omega
    rw [List.cons_append, List.cons_append, List.cons_append, List.singleton_append,
      decodeFrom_lead (hfirst.symm ▸ hlead), tail, decodeFrom_more (hsecond.symm ▸ hrange),
      decodeFrom_more (tail_of_mod (v / 64)), decodeFrom_last (tail_of_mod v), hsecond, hthird,
      hfourth, hbits, hc]
    rfl

/-- Every text is read back from its bytes. -/
theorem decode_encode (text : List Char) : decode (encode text) = .ok text := by
  suffices h : ∀ position, decodeFrom position none (encode text) = .ok text from h 0
  induction text with
  | nil => exact fun _ => rfl
  | cons c text ih =>
    intro position
    rw [encode, List.flatMap_cons, decodeFrom_append]
    rw [← encode, ih]
    rfl

/-! ## Nothing else is read -/

/-- The bytes lie in the ranges one by one, and their bits after `bits` are `value`. -/
inductive Fill : Nat → List (Nat × Nat) → List UInt8 → Nat → Prop where
  | nil {bits : Nat} : Fill bits [] [] bits
  | cons {bits next value low high : Nat} {b : UInt8} {ranges : List (Nat × Nat)}
      {bytes : List UInt8} (range : low ≤ b.toNat ∧ b.toNat ≤ high)
      (next_eq : next = bits * 64 + (b.toNat - 0x80)) (rest : Fill next ranges bytes value) :
      Fill bits ((low, high) :: ranges) (b :: bytes) value

variable {text : List Char} {own : List UInt8} {first start value : Nat}

/-- A sequence that is read to its end fills its ranges, and gives one character. -/
theorem exists_fill (hranges : ranges ≠ [])
    (h : decodeFrom position (some ⟨first, start, bits, ranges⟩) bytes = .ok text) :
    ∃ own value rest later next, bytes = own ++ rest ∧ Fill bits ranges own value ∧
      text = Char.ofNat value :: later ∧ decodeFrom next none rest = .ok later := by
  induction ranges generalizing position bits bytes with
  | nil => exact absurd rfl hranges
  | cons range ranges ih =>
    obtain ⟨low, high⟩ := range
    cases bytes with
    | nil => simp [decodeFrom] at h
    | cons b bytes =>
      by_cases hb : low ≤ b.toNat ∧ b.toNat ≤ high
      · cases ranges with
        | nil =>
          rw [decodeFrom_last hb] at h
          cases hrest : decodeFrom (position + 1) none bytes with
          | error fault => simp [hrest, Except.map] at h
          | ok later =>
            simp only [hrest, Except.map, Except.ok.injEq] at h
            exact ⟨[b], _, bytes, later, _, rfl, .cons hb rfl .nil, h.symm, hrest⟩
        | cons next ranges =>
          rw [decodeFrom_more hb] at h
          obtain ⟨own, value, rest, later, _, rfl, hfill, htext, hrest⟩ := ih (by simp) h
          exact ⟨b :: own, value, rest, later, _, rfl, .cons hb rfl hfill, htext, hrest⟩
      · simp [decodeFrom, hb] at h

/-- The four kinds of first bytes. -/
theorem lead?_cases {n : Nat} (h : lead? n = some ⟨bits, ranges⟩) :
    (n < 0x80 ∧ bits = n ∧ ranges = []) ∨
    (0xC2 ≤ n ∧ n < 0xE0 ∧ bits = n - 0xC0 ∧ ranges = [tail]) ∨
    (0xE0 ≤ n ∧ n < 0xF0 ∧ bits = n - 0xE0 ∧ ∃ low high, ranges = [(low, high), tail] ∧
      0x80 ≤ low ∧ high ≤ 0xBF ∧ (n = 0xE0 → 0xA0 ≤ low) ∧ (n = 0xED → high ≤ 0x9F)) ∨
    (0xF0 ≤ n ∧ n < 0xF5 ∧ bits = n - 0xF0 ∧ ∃ low high, ranges = [(low, high), tail, tail] ∧
      0x80 ≤ low ∧ high ≤ 0xBF ∧ (n = 0xF0 → 0x90 ≤ low) ∧ (n = 0xF4 → high ≤ 0x8F)) := by
  grind [lead?, tail]

theorem toNat_ofNat_of_isValidChar {n : Nat} (h : n.isValidChar) :
    (Char.ofNat n).val.toNat = n := by
  rw [Char.ofNat, dif_pos h]
  rfl

theorem ofNat_eq_of_toNat_eq {n : Nat} (h : b.toNat = n) : UInt8.ofNat n = b := by
  rw [← h, UInt8.ofNat_toNat]

/-- The first byte of a sequence and the bytes that fill its ranges are those of a character. -/
theorem utf8EncodeChar_of_fill (h : lead? b.toNat = some ⟨bits, ranges⟩)
    (hfill : Fill bits ranges own value) :
    String.utf8EncodeChar (Char.ofNat value) = b :: own := by
  obtain ⟨hone, hbits, rfl⟩ | ⟨hlow, hhigh, hbits, rfl⟩ |
    ⟨hlow, hhigh, hbits, low, high, rfl, hrange, hrange', hshorter, hsurrogate⟩ |
    ⟨hlow, hhigh, hbits, low, high, rfl, hrange, hrange', hshorter, hbeyond⟩ := lead?_cases h
  · cases hfill
    have hvalue := toNat_ofNat_of_isValidChar (n := bits) (.inl (by omega))
    simp only [String.utf8EncodeChar, hvalue]
    rw [if_pos (by omega), ofNat_eq_of_toNat_eq hbits.symm]
  · obtain _ | ⟨hsecond, hnext, _ | _⟩ := hfill
    rename_i second
    have hvalue := toNat_ofNat_of_isValidChar (n := value) (.inl (by omega))
    simp only [String.utf8EncodeChar, hvalue]
    rw [if_neg (by omega), if_pos (by omega), ofNat_eq_of_toNat_eq (b := b) (by omega),
      ofNat_eq_of_toNat_eq (b := second) (by omega)]
  · obtain _ | ⟨hsecond, hnext, _ | ⟨hthird, hnext', _ | _⟩⟩ := hfill
    rename_i second third
    have hvalid : value < 0xD800 ∨ 0xDFFF < value ∧ value < 0x110000 := by omega
    have hvalue := toNat_ofNat_of_isValidChar hvalid
    simp only [String.utf8EncodeChar, hvalue]
    rw [if_neg (by omega), if_neg (by omega), if_pos (by omega),
      ofNat_eq_of_toNat_eq (b := b) (by omega), ofNat_eq_of_toNat_eq (b := second) (by omega),
      ofNat_eq_of_toNat_eq (b := third) (by omega)]
  · obtain _ | ⟨hsecond, hnext, _ | ⟨hthird, hnext', _ | ⟨hfourth, hnext'', _ | _⟩⟩⟩ := hfill
    rename_i second _ third fourth
    have hvalid : value < 0xD800 ∨ 0xDFFF < value ∧ value < 0x110000 := by omega
    have hvalue := toNat_ofNat_of_isValidChar hvalid
    simp only [String.utf8EncodeChar, hvalue]
    rw [if_neg (by omega), if_neg (by omega), if_neg (by omega),
      ofNat_eq_of_toNat_eq (b := b) (by omega), ofNat_eq_of_toNat_eq (b := second) (by omega),
      ofNat_eq_of_toNat_eq (b := third) (by omega), ofNat_eq_of_toNat_eq (b := fourth) (by omega)]

/-- What is read as a text is the bytes of that text. -/
theorem eq_encode_of_decodeFrom (h : decodeFrom position none bytes = .ok text) :
    bytes = encode text := by
  induction hn : bytes.length using Nat.strong_induction_on generalizing position bytes text with
  | _ n ih =>
  cases bytes with
  | nil =>
    obtain rfl : [] = text := Except.ok.inj h
    rfl
  | cons b bytes =>
    -- One character is read, and what follows it is shorter.
    suffices hchar : ∃ own value rest later next, bytes = own ++ rest ∧
        String.utf8EncodeChar (Char.ofNat value) = b :: own ∧
        text = Char.ofNat value :: later ∧ decodeFrom next none rest = .ok later by
      obtain ⟨own, value, rest, later, next, rfl, hown, rfl, hrest⟩ := hchar
      have hlater := ih rest.length (by simp at hn; omega) hrest rfl
      rw [encode, List.flatMap_cons, ← encode, hown, ← hlater, List.cons_append]
    cases hlead : lead? b.toNat with
    | none => simp [decodeFrom, hlead] at h
    | some lead =>
      obtain ⟨bits, ranges⟩ := lead
      cases ranges with
      | nil =>
        rw [decodeFrom_single hlead] at h
        cases hrest : decodeFrom (position + 1) none bytes with
        | error fault => simp [hrest, Except.map] at h
        | ok later =>
          simp only [hrest, Except.map, Except.ok.injEq] at h
          exact ⟨[], bits, bytes, later, _, rfl, utf8EncodeChar_of_fill hlead .nil, h.symm, hrest⟩
      | cons range ranges =>
        rw [decodeFrom_lead hlead] at h
        obtain ⟨own, value, rest, later, next, hbytes, hfill, htext, hrest⟩ :=
          exists_fill (by simp) h
        exact ⟨own, value, rest, later, next, hbytes, utf8EncodeChar_of_fill hlead hfill, htext,
          hrest⟩

/-- A text is read from its bytes and from no others. -/
theorem decode_eq_ok_iff : decode bytes = .ok text ↔ bytes = encode text := by
  constructor
  · exact eq_encode_of_decodeFrom
  · rintro rfl
    exact decode_encode text

end ScadText.Utf8
