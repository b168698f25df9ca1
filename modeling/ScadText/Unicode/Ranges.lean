/-!
# Sets of characters given by ranges

A property of characters is a list of ranges of code points, ends included, in ascending order. The
search stops at the first range that lies beyond the character.
-/

namespace ScadText.Unicode

/-- The first and last code point of each range. -/
abbrev Ranges := List (Nat × Nat)

namespace Ranges

/-- Each range is followed by a gap, so that no two of them touch. -/
def ascending : Ranges → Bool
  | [] => true
  | [(low, high)] => low ≤ high
  | (low, high) :: (low', high') :: rs =>
    decide (low ≤ high) && decide (high + 1 < low') && ascending ((low', high') :: rs)

/-- The character lies in one of the ranges. -/
def contains : Ranges → Char → Bool
  | [], _ => false
  | (low, high) :: rs, c =>
    if c.toNat < low then false else decide (c.toNat ≤ high) || contains rs c

/-- All ranges after the first begin beyond its end. -/
theorem lt_of_mem_tail {low high : Nat} {rs : Ranges} (h : ascending ((low, high) :: rs) = true) :
    ∀ r ∈ rs, high < r.1 := by
  induction rs generalizing low high with
  | nil => simp
  | cons r rs ih =>
    obtain ⟨low', high'⟩ := r
    simp only [ascending, Bool.and_eq_true, decide_eq_true_eq] at h
    obtain ⟨⟨-, hgap⟩, htail⟩ := h
    have hle : low' ≤ high' := by
      cases rs <;> simp_all [ascending]
    intro r hr
    rcases List.mem_cons.mp hr with rfl | hr
    · simp only; omega
    · have := ih htail r hr
      omega

/-- Stopping early misses nothing: the search finds a character exactly when a range holds it. -/
theorem contains_iff {rs : Ranges} (h : rs.ascending = true) (c : Char) :
    rs.contains c = true ↔ ∃ r ∈ rs, r.1 ≤ c.toNat ∧ c.toNat ≤ r.2 := by
  induction rs with
  | nil => simp [contains]
  | cons r rs ih =>
    obtain ⟨low, high⟩ := r
    have htail : ascending rs = true := by
      cases rs <;> simp_all [ascending]
    have hbeyond := lt_of_mem_tail h
    have hle : low ≤ high := by
      cases rs <;> simp_all [ascending]
    rw [contains]
    split
    · next hlow =>
      simp only [Bool.false_eq_true, false_iff, not_exists, not_and]
      rintro r hr hc
      rcases List.mem_cons.mp hr with rfl | hr
      · simp only at hc; omega
      · have := hbeyond r hr
        omega
    · next hlow =>
      simp only [Bool.or_eq_true, decide_eq_true_eq, ih htail, List.mem_cons, exists_eq_or_imp]
      constructor
      · rintro (hc | hc)
        · exact .inl ⟨by omega, hc⟩
        · exact .inr hc
      · rintro (⟨-, hc⟩ | hc)
        · exact .inl hc
        · exact .inr hc

end Ranges

end ScadText.Unicode
