import Mathlib.Tactic.ByContra
import ScadText.Proofs.Lexer.Classes

/-!
# Numbers

Reading ahead finds the longest number with a point and the longest number in base sixteen.

## Main statements

* `floatLength?_append`: a number with a point is cut at the point and after its fraction.
* `float_readBy`, `hexadecimal_readBy`: the lookahead reads the words of the grammar.
-/

namespace ScadText.Lexer

open Grammar Extent
open scoped Computability

theorem mem_digits {w : List Char} : w ∈ digits ↔ w ≠ [] ∧ ∀ c ∈ w, isDigit c = true := by
  cases w with
  | nil => simp [digits]
  | cons c w => simp [digits, isDigit_iff]

theorem mem_exponent {w : List Char} : w ∈ exponent ↔
    ∃ e sign ds, (e = 'e' ∨ e = 'E') ∧ (sign = [] ∨ sign = ['+'] ∨ sign = ['-']) ∧
      ds ∈ digits ∧ w = e :: (sign ++ ds) := by
  simp only [exponent, mul_assoc]
  rw [mem_one_mul]
  constructor
  · rintro ⟨e, v, he, hv, rfl⟩
    obtain ⟨sign, hs, ds, hd, rfl⟩ := Language.mem_mul.mp hv
    refine ⟨e, sign, ds, he, ?_, hd, rfl⟩
    rcases hs with hs | ⟨c, rfl | rfl, rfl⟩
    · exact .inl hs
    · exact .inr (.inl rfl)
    · exact .inr (.inr rfl)
  · rintro ⟨e, sign, ds, he, hs, hd, rfl⟩
    refine ⟨e, sign ++ ds, he, Language.append_mem_mul ?_ hd, rfl⟩
    rcases hs with rfl | rfl | rfl
    · exact .inl rfl
    · exact .inr ⟨'+', .inl rfl, rfl⟩
    · exact .inr ⟨'-', .inr rfl, rfl⟩

theorem mem_float {w : List Char} : w ∈ float.lexemes ↔
    ∃ whole fraction tail, (∀ c ∈ whole, isDigit c = true) ∧ fraction ∈ digits ∧
      (tail = [] ∨ tail ∈ exponent) ∧ w = whole ++ '.' :: (fraction ++ tail) := by
  simp only [float, mul_assoc, isDigit_iff]
  constructor
  · intro hw
    obtain ⟨whole, hwhole, v, hv, rfl⟩ := Language.mem_mul.mp hw
    obtain ⟨c, u, rfl, hu, rfl⟩ := mem_one_mul.mp hv
    obtain ⟨fraction, hf, tail, ht, rfl⟩ := Language.mem_mul.mp hu
    exact ⟨whole, fraction, tail, mem_star_one.mp hwhole, hf, ht, rfl⟩
  · rintro ⟨whole, fraction, tail, hwhole, hf, ht, rfl⟩
    refine Language.append_mem_mul (mem_star_one.mpr hwhole) ?_
    exact cons_mem_one_mul.mpr ⟨rfl, Language.append_mem_mul hf ht⟩

/-- The sign of an exponent is read if it is there. -/
theorem exponentLength_sign {e : Char} {sign rest : List Char} (he : e = 'e' ∨ e = 'E')
    (hs : (sign = [] ∧ ∀ c ∈ rest.head?, c ≠ '+' ∧ c ≠ '-') ∨ sign = ['+'] ∨ sign = ['-']) :
    exponentLength (e :: (sign ++ rest)) =
      if run isDigit rest = 0 then 0 else 1 + sign.length + run isDigit rest := by
  have hletter : (e == 'e' || e == 'E') = true := by
    rcases he with rfl | rfl <;> decide
  rcases hs with ⟨rfl, hr⟩ | rfl | rfl
  · cases rest with
    | nil => simp [exponentLength, run, hletter]
    | cons c rest => simp [exponentLength, hletter, hr c rfl]
  · simp [exponentLength, hletter]
  · simp [exponentLength, hletter]

theorem exists_sign (cs : List Char) : ∃ sign rest, cs = sign ++ rest ∧
    ((sign = [] ∧ ∀ c ∈ rest.head?, c ≠ '+' ∧ c ≠ '-') ∨ sign = ['+'] ∨ sign = ['-']) := by
  cases cs with
  | nil => exact ⟨[], [], rfl, .inl ⟨rfl, by simp⟩⟩
  | cons c cs =>
    by_cases hp : c = '+'
    · exact ⟨['+'], cs, by rw [hp]; rfl, .inr (.inl rfl)⟩
    by_cases hm : c = '-'
    · exact ⟨['-'], cs, by rw [hm]; rfl, .inr (.inr rfl)⟩
    · refine ⟨[], c :: cs, rfl, .inl ⟨rfl, ?_⟩⟩
      rintro d ⟨⟩
      exact ⟨hp, hm⟩

theorem exists_exponent {cs : List Char} (h : exponentLength cs ≠ 0) :
    ∃ v rest, cs = v ++ rest ∧ v.length = exponentLength cs ∧ v ∈ exponent := by
  cases cs with
  | nil => exact absurd rfl h
  | cons e cs =>
    have he : e = 'e' ∨ e = 'E' := by
      by_contra hn
      exact h (by simp_all [exponentLength])
    obtain ⟨sign, rest, rfl, hs⟩ := exists_sign cs
    rw [exponentLength_sign he hs] at h ⊢
    have hd : run isDigit rest ≠ 0 := fun hz => h (if_pos hz)
    refine ⟨e :: (sign ++ rest.takeWhile isDigit), rest.dropWhile isDigit, ?_, ?_, ?_⟩
    · rw [List.cons_append, List.append_assoc, List.takeWhile_append_dropWhile]
    · rw [if_neg hd, List.length_cons, List.length_append, run]
      omega
    · refine mem_exponent.mpr ⟨e, sign, rest.takeWhile isDigit, he, ?_, ?_, rfl⟩
      · rcases hs with ⟨rfl, -⟩ | hs
        · exact .inl rfl
        · exact .inr hs
      · exact mem_digits.mpr ⟨fun hn => hd (by rw [run, hn]; rfl), fun c => of_mem_takeWhile⟩

theorem length_le_exponentLength {v : List Char} (h : v ∈ exponent) (rest : List Char) :
    v.length ≤ exponentLength (v ++ rest) := by
  obtain ⟨e, sign, ds, he, hs, hds, rfl⟩ := mem_exponent.mp h
  obtain ⟨hne, hall⟩ := mem_digits.mp hds
  have hsign : (sign = [] ∧ ∀ c ∈ (ds ++ rest).head?, c ≠ '+' ∧ c ≠ '-') ∨
      sign = ['+'] ∨ sign = ['-'] := by
    rcases hs with rfl | hs
    · obtain ⟨d, ds, rfl⟩ := List.exists_cons_of_ne_nil hne
      have hd := hall d List.mem_cons_self
      refine .inl ⟨rfl, ?_⟩
      rintro c ⟨⟩
      constructor <;> rintro rfl <;> exact absurd hd (by decide)
    · exact .inr hs
  have hrun := length_le_run hall rest
  have hpos := List.length_pos_iff.mpr hne
  rw [List.cons_append, List.append_assoc, exponentLength_sign he hsign, if_neg (by omega)]
  simp only [List.length_cons, List.length_append]
  omega

/-- A number with a point, cut at the point and after the fraction. -/
theorem floatLength?_append {whole fraction tail : List Char} (hw : ∀ c ∈ whole, isDigit c = true)
    (hf : fraction ∈ digits) (ht : ∀ c ∈ tail.head?, isDigit c = false) :
    floatLength? (whole ++ '.' :: (fraction ++ tail)) =
      some (whole.length + 1 + fraction.length + exponentLength tail) := by
  obtain ⟨hne, hall⟩ := mem_digits.mp hf
  have hstop : ∀ c ∈ ('.' :: (fraction ++ tail)).head?, isDigit c = false := by
    rintro c ⟨⟩
    decide
  simp only [floatLength?, run_append_of_stop hw hstop, List.drop_left, run_append_of_stop hall ht]
  rw [if_neg (by simpa using hne)]

theorem exists_float {cs : List Char} {n : Nat} (h : floatLength? cs = some n) :
    ∃ v rest, cs = v ++ rest ∧ v.length = n ∧ v ∈ float.lexemes := by
  simp only [floatLength?, drop_run] at h
  split at h
  · next rest hcs =>
    split at h
    · simp at h
    · next hfraction =>
      have hf : rest.takeWhile isDigit ∈ digits :=
        mem_digits.mpr ⟨fun hn => hfraction (by rw [run, hn]; rfl), fun c => of_mem_takeWhile⟩
      obtain ⟨tail, after, htail, hlen, hmem⟩ : ∃ tail after,
          rest.dropWhile isDigit = tail ++ after ∧
          tail.length = exponentLength (rest.dropWhile isDigit) ∧
          (tail = [] ∨ tail ∈ exponent) := by
        by_cases hz : exponentLength (rest.dropWhile isDigit) = 0
        · exact ⟨[], _, rfl, hz.symm, .inl rfl⟩
        · obtain ⟨tail, after, htail, hlen, hmem⟩ := exists_exponent hz
          exact ⟨tail, after, htail, hlen, .inr hmem⟩
      refine ⟨cs.takeWhile isDigit ++ '.' :: (rest.takeWhile isDigit ++ tail), after, ?_, ?_, ?_⟩
      · rw [List.append_assoc, List.cons_append, List.append_assoc, ← htail,
          List.takeWhile_append_dropWhile, ← hcs, List.takeWhile_append_dropWhile]
      · rw [← Option.some.inj h]
        simp only [List.length_append, List.length_cons, hlen, run]
        omega
      · exact mem_float.mpr ⟨_, _, tail, fun c => of_mem_takeWhile, hf, hmem, rfl⟩
  · simp at h

/-- Whatever comes after a number with a point, at least the number is read. -/
theorem length_le_floatLength? {v : List Char} (h : v ∈ float.lexemes) (rest : List Char) :
    ∃ n, floatLength? (v ++ rest) = some n ∧ v.length ≤ n := by
  obtain ⟨whole, fraction, tail, hw, hf, ht, rfl⟩ := mem_float.mp h
  obtain ⟨hne, hall⟩ := mem_digits.mp hf
  -- Without an exponent the fraction may go on into the text; an exponent ends it.
  rcases ht with rfl | ht
  · have hmore : fraction ++ rest.takeWhile isDigit ∈ digits := by
      refine mem_digits.mpr ⟨by simp [hne], fun c hc => ?_⟩
      exact (List.mem_append.mp hc).elim (hall c) of_mem_takeWhile
    have hcut : whole ++ '.' :: (fraction ++ []) ++ rest =
        whole ++ '.' :: ((fraction ++ rest.takeWhile isDigit) ++ rest.dropWhile isDigit) := by
      simp [List.append_assoc]
    refine ⟨_, by rw [hcut]; exact floatLength?_append hw hmore fun c => of_mem_head?_dropWhile, ?_⟩
    simp only [List.length_append, List.length_cons, List.length_nil]
    omega
  · have hstop : ∀ c ∈ (tail ++ rest).head?, isDigit c = false := by
      obtain ⟨e, sign, ds, he, -, -, rfl⟩ := mem_exponent.mp ht
      rintro c ⟨⟩
      rcases he with rfl | rfl <;> decide
    have hcut : whole ++ '.' :: (fraction ++ tail) ++ rest =
        whole ++ '.' :: (fraction ++ (tail ++ rest)) := by
      simp [List.append_assoc]
    refine ⟨_, by rw [hcut]; exact floatLength?_append hw hf hstop, ?_⟩
    have := length_le_exponentLength ht rest
    simp only [List.length_append, List.length_cons]
    omega

theorem float_readBy : float.ReadBy floatLength? := ⟨exists_float, length_le_floatLength?⟩

theorem mem_hexadecimal {w : List Char} : w ∈ hexadecimal.lexemes ↔
    ∃ x ds, (x = 'x' ∨ x = 'X') ∧ ds ≠ [] ∧ (∀ c ∈ ds, isHexDigit c = true) ∧
      w = '0' :: x :: ds := by
  simp only [hexadecimal, mul_assoc, mem_one_mul, mem_star_one, isHexDigit_iff]
  constructor
  · rintro ⟨_, _, rfl, ⟨x, _, hx, ⟨d, ds, hd, hds, rfl⟩, rfl⟩, rfl⟩
    exact ⟨x, d :: ds, hx, List.cons_ne_nil d ds, List.forall_mem_cons.mpr ⟨hd, hds⟩, rfl⟩
  · rintro ⟨x, ds, hx, hne, hds, rfl⟩
    obtain ⟨d, ds, rfl⟩ := List.exists_cons_of_ne_nil hne
    rw [List.forall_mem_cons] at hds
    exact ⟨'0', _, rfl, ⟨x, _, hx, ⟨d, ds, hds.1, hds.2, rfl⟩, rfl⟩, rfl⟩

theorem hexadecimal_readBy : hexadecimal.ReadBy hexLength? where
  sound {cs n} h := by
    unfold hexLength? at h
    split at h
    · next x cs =>
      dsimp only at h
      split at h
      · next hx =>
        simp only [Bool.and_eq_true, Bool.or_eq_true, beq_iff_eq, bne_iff_ne] at hx
        refine ⟨'0' :: x :: cs.takeWhile isHexDigit, cs.dropWhile isHexDigit, ?_, ?_, ?_⟩
        · rw [List.cons_append, List.cons_append, List.takeWhile_append_dropWhile]
        · rw [← Option.some.inj h, List.length_cons, List.length_cons, run]
          omega
        · refine mem_hexadecimal.mpr ⟨x, _, hx.1, fun hn => hx.2 ?_, fun c => of_mem_takeWhile, rfl⟩
          rw [run, hn]
          rfl
      · simp at h
    · simp at h
  maximal {v} hv rest := by
    obtain ⟨x, ds, hx, hne, hds, rfl⟩ := mem_hexadecimal.mp hv
    have hrun := length_le_run hds rest
    have hpos := List.length_pos_iff.mpr hne
    refine ⟨2 + run isHexDigit (ds ++ rest), ?_, ?_⟩
    · rw [List.cons_append, List.cons_append, hexLength?, if_pos]
      simp only [Bool.and_eq_true, Bool.or_eq_true, beq_iff_eq, bne_iff_ne]
      exact ⟨hx, by omega⟩
    · rw [List.length_cons, List.length_cons]
      omega

end ScadText.Lexer
