import ScadText.Toml.Parser

/-!
# Numbers that end the reading of a configuration

Wherever in a file a reader stands, a number ends the reading only if it has too many digits.

## Main definitions

* `Counts`: a result that names too long a number, if it names one.

## Main statements

* `counts_readValue`: values, items and pairs, one within the other.
* `lt_of_parse`: a whole file.
-/

namespace ScadText.Toml

variable {α β : Type} {x : Except Fault α} {f : α → Except Fault β} {digits : Nat}

/-- If a number is what ended the reading, it has more digits than there may be. -/
def Counts (result : Except Fault α) : Prop :=
  ∀ digits, result = .error (.longNumber digits) → maxDigits < digits

/-! ## Steps -/

theorem counts_ok (a : α) : Counts (.ok a) := nofun

theorem counts_invalid : Counts (.error .invalid : Except Fault α) := nofun

theorem counts_require (found : Option α) : Counts (require found) := by
  cases found with
  | none => exact counts_invalid
  | some a => exact counts_ok a

theorem Counts.bind (hx : Counts x) (hf : ∀ a, Counts (f a)) : Counts (x >>= f) := by
  intro digits h
  cases x with
  | error fault => exact hx digits (congrArg Except.error (Except.error.inj h))
  | ok a => exact hf a digits h

/-! ## Readers -/

theorem counts_readNumber (cs : List Char) : Counts (readNumber cs) := by
  rw [readNumber]
  split
  · exact counts_ok _
  · split
    · next hlong =>
      rintro digits ⟨⟩
      exact of_decide_eq_true hlong
    · exact counts_ok _
  · exact counts_ok _
  · exact counts_require _

theorem counts_readScalar (cs : List Char) : Counts (readScalar cs) := by
  unfold readScalar
  split
  · exact counts_ok _
  · exact counts_ok _
  · exact counts_require _
  · exact counts_require _
  · split
    · split
      · exact counts_ok _
      · exact counts_invalid
    · exact counts_ok _
    · exact counts_readNumber cs

/-- By induction on the bound, since the three readers call one another. -/
theorem counts_readValue (bound : Nat) :
    (∀ cs, Counts (readValue bound cs)) ∧ (∀ cs, Counts (readItems bound cs)) ∧
      ∀ entries cs, Counts (readPairs bound entries cs) := by
  induction bound with
  | zero => exact ⟨fun _ => counts_invalid, fun _ => counts_invalid, fun _ _ => counts_invalid⟩
  | succ bound ih =>
    obtain ⟨hvalue, hitems, hpairs⟩ := ih
    refine ⟨fun cs => ?_, fun cs => ?_, fun entries cs => ?_⟩
    · unfold readValue
      split
      · exact (hitems _).bind fun _ => counts_ok _
      · split
        · exact counts_ok _
        · exact (hpairs _ _).bind fun _ => counts_ok _
      · exact counts_readScalar cs
    · rw [readItems]
      refine (counts_require _).bind fun rest => ?_
      split
      · exact counts_ok _
      · refine (hvalue _).bind fun (value, rest) => (counts_require _).bind fun rest => ?_
        split
        · exact counts_ok _
        · exact (hitems _).bind fun _ => counts_ok _
        · exact counts_invalid
    · rw [readPairs]
      refine (counts_require _).bind fun (path, rest) => (counts_require _).bind fun rest => ?_
      refine (hvalue _).bind fun (value, rest) => (counts_require _).bind fun entries => ?_
      split
      · exact counts_ok _
      · exact hpairs _ _
      · exact counts_invalid

theorem counts_readStatement (cs : List Char) : Counts (readStatement cs) := by
  unfold readStatement
  split
  · exact counts_ok _
  · exact counts_ok _
  · exact counts_ok _
  · refine (counts_require _).bind fun (path, rest) => (counts_require _).bind fun rest => ?_
    exact (counts_require _).bind fun _ => counts_ok _
  · refine (counts_require _).bind fun (path, rest) => ?_
    exact (counts_require _).bind fun _ => counts_ok _
  · refine (counts_require _).bind fun (path, rest) => (counts_require _).bind fun rest => ?_
    exact ((counts_readValue _).1 _).bind fun _ => counts_ok _

theorem counts_readStatements (bound : Nat) (document : Document) (cs : List Char) :
    Counts (readStatements bound document cs) := by
  induction bound generalizing document cs with
  | zero => exact counts_invalid
  | succ bound ih =>
    rw [readStatements]
    refine (counts_readStatement _).bind fun (statement, rest) => ?_
    refine (counts_require _).bind fun document => (counts_require _).bind fun rest => ?_
    split
    · exact counts_ok _
    · exact ih _ _
    · exact counts_invalid

/-- A number that ends the reading of a file has more digits than there may be. -/
theorem lt_of_parse {text : List Char} (h : parse text = .error (.longNumber digits)) :
    maxDigits < digits := by
  rw [parse] at h
  cases hread : readStatements (text.length + 1) .empty text with
  | ok document => simp [hread, Except.map] at h
  | error fault =>
    simp only [hread, Except.map, Except.error.injEq] at h
    exact counts_readStatements _ _ _ digits (h ▸ hread)

end ScadText.Toml
