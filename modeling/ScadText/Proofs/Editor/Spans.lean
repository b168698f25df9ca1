import ScadText.Editor.Highlight
import ScadText.Proofs.Text.Lines

/-!
# Entries along a source

An entry spans a stretch of a source that lies on one line. Entries whose stretches follow one
another are in order, do not overlap, and are found again from the numbers that are sent for them.

## Main definitions

* `Place.of`: the place just after a text.
* `Entry.Spans`: the stretch of a source that an entry paints.
* `Along`: entries whose stretches follow one another between two offsets.
* `Entry.Covers`: an entry paints the character at an offset.

## Main statements

* `Place.of_take_mono`: places grow along a source.
* `Along.group_numbers`: the numbers determine the entries, and none of them is negative.
* `Along.pairwise`: the entries are in order and do not overlap.
-/

namespace ScadText.Highlight

open Text

/-! ## Places -/

/-- The place just after a text: its line feeds, and the code units after the last of them. -/
def Place.of (before : List Char) : Place := ⟨before.count '\n', utf16Length (lastLine before)⟩

/-- Not after the other place. -/
def Place.le (a b : Place) : Prop := a.line < b.line ∨ a.line = b.line ∧ a.unit ≤ b.unit

namespace Place

variable {a b c : Place}

theorem le_refl (a : Place) : a.le a := .inr ⟨rfl, Nat.le_refl _⟩

theorem le_trans (h : a.le b) (g : b.le c) : a.le c := by
  unfold le at *
  omega

theorem of_append_line (before : List Char) {line : List Char} (h : '\n' ∉ line) :
    of (before ++ line) = ⟨(of before).line, (of before).unit + utf16Length line⟩ := by
  rw [of, List.count_append, List.count_eq_zero.mpr h, lastLine_append before h, utf16Length_append]
  rfl

theorem of_le_append (before text : List Char) : (of before).le (of (before ++ text)) := by
  by_cases h : '\n' ∈ text
  · have hcount := List.count_pos_iff.mpr h
    refine .inl ?_
    simp only [of, List.count_append]
    omega
  · rw [of_append_line before h]
    exact .inr ⟨rfl, Nat.le_add_right _ _⟩

/-- Places grow along a source. -/
theorem of_take_mono (source : List Char) {i j : Nat} (h : i ≤ j) :
    (of (source.take i)).le (of (source.take j)) := by
  obtain ⟨k, rfl⟩ := Nat.exists_eq_add_of_le h
  rw [List.take_add]
  exact of_le_append _ _

end Place

/-! ## Stretches of a source -/

/-- The entry paints the stretch of the source between two offsets, which lies on one line. -/
structure Entry.Spans (entry : Entry) (source : List Char) (i j : Nat) : Prop where
  place_eq : entry.place = .of (source.take i)
  stop_eq : .of (source.take j) = (⟨entry.place.line, entry.place.unit + entry.length⟩ : Place)
  length_pos : 1 ≤ entry.length

/-- The stretches of the entries follow one another, from `a` on and up to `b`. -/
inductive Along (source : List Char) : Nat → List Entry → Nat → Prop where
  | nil {a b : Nat} (le : a ≤ b) : Along source a [] b
  | cons {a b i j : Nat} {entry : Entry} {rest : List Entry} (le : a ≤ i) (le' : i ≤ j)
      (spans : entry.Spans source i j) (along : Along source j rest b) :
      Along source a (entry :: rest) b

/-- Of the code units of the character at an offset at least one is painted by the entry. -/
def Entry.Covers (entry : Entry) (source : List Char) (offset : Nat) : Prop :=
  ∃ c ∈ source[offset]?, entry.place.line = (Place.of (source.take offset)).line ∧
    entry.place.unit < (Place.of (source.take offset)).unit + units c ∧
    (Place.of (source.take offset)).unit < entry.place.unit + entry.length

namespace Along

variable {source : List Char} {a b c : Nat} {entry : Entry} {entries others : List Entry}

theorem le (h : Along source a entries b) : a ≤ b := by
  induction h with
  | nil le => exact le
  | cons le le' _ _ ih => omega

theorem of_le (h : Along source b entries c) (hab : a ≤ b) : Along source a entries c := by
  cases h with
  | nil le => exact .nil (by omega)
  | cons le le' spans along => exact .cons (by omega) le' spans along

theorem append (h : Along source a entries b) (g : Along source b others c) :
    Along source a (entries ++ others) c := by
  induction h with
  | nil le => exact g.of_le le
  | cons le le' spans _ ih => exact .cons le le' spans (ih g)

theorem exists_spans (h : Along source a entries b) (hmem : entry ∈ entries) :
    ∃ i j, a ≤ i ∧ j ≤ b ∧ entry.Spans source i j := by
  induction h with
  | nil => simp at hmem
  | cons le le' spans along ih =>
    obtain rfl | hmem := List.mem_cons.mp hmem
    · exact ⟨_, _, le, along.le, spans⟩
    · obtain ⟨i, j, hi, hj, spans⟩ := ih hmem
      exact ⟨i, j, by omega, hj, spans⟩

/-- An entry ends before every later one starts. -/
theorem pairwise (h : Along source a entries b) : entries.Pairwise fun first second =>
    Place.le ⟨first.place.line, first.place.unit + first.length⟩ second.place := by
  induction h with
  | nil => exact .nil
  | cons _ _ spans along ih =>
    refine List.pairwise_cons.mpr ⟨fun other hmem => ?_, ih⟩
    obtain ⟨i, j, hi, -, hother⟩ := along.exists_spans hmem
    rw [← spans.stop_eq, hother.place_eq]
    exact Place.of_take_mono source hi

/-- What lies before or after all of the stretches is not painted. -/
theorem not_covers (h : Along source a entries b) {offset : Nat} (ho : b ≤ offset ∨ offset < a)
    (hmem : entry ∈ entries) : ¬ entry.Covers source offset := by
  rintro ⟨c, hc, hline, hleft, hright⟩
  obtain ⟨i, j, hi, hj, spans⟩ := h.exists_spans hmem
  obtain ho | ho := ho
  · have hle := Place.of_take_mono source (Nat.le_trans hj ho)
    rw [spans.stop_eq] at hle
    simp only [Place.le] at hle
    omega
  · have hle := Place.of_take_mono source (Nat.le_trans ho hi)
    have htake : source.take (offset + 1) = source.take offset ++ [c] := by
      rw [List.take_add_one, Option.mem_def.mp hc]
      rfl
    rw [← spans.place_eq, htake] at hle
    by_cases hn : c = '\n'
    · simp only [Place.le, Place.of, List.count_append, hn, List.count_singleton_self] at hle hline
      omega
    · rw [Place.of_append_line _ (by simpa using Ne.symm hn)] at hle
      simp only [Place.le, utf16Length_cons, utf16Length_nil] at hle
      omega

end Along

/-! ## The numbers of an entry -/

/-- The five numbers of a group. -/
def Delta.numbers (delta : Delta) : List Int :=
  [delta.line, delta.unit, delta.length, delta.paint, delta.modifiers]

/-- The numbers of an entry that is not before the previous place are a group from which the entry
is found again. -/
theorem Entry.exists_delta {previous : Place} {entry : Entry} (h : previous.le entry.place)
    (rest : List Int) :
    ∃ delta, Delta.group (entry.numbers previous ++ rest) = delta :: Delta.group rest ∧
      delta.toEntry previous = entry ∧ delta.numbers = entry.numbers previous := by
  obtain ⟨⟨line, unit⟩, length, paint, modifiers⟩ := entry
  obtain h | ⟨h, hu⟩ := h
  · dsimp only at h
    have hint : (line : Int) - previous.line ≠ 0 := by omega
    have hnat : line - previous.line ≠ 0 := by omega
    have hline : previous.line + (line - previous.line) = line := by omega
    have hcast : ((line - previous.line : Nat) : Int) = line - previous.line := by omega
    have hnumbers : Entry.numbers previous ⟨⟨line, unit⟩, length, paint, modifiers⟩ =
        Delta.numbers ⟨line - previous.line, unit, length, paint, modifiers⟩ := by
      simp [Delta.numbers, Entry.numbers, hint, hcast]
    refine ⟨_, by rw [hnumbers]; rfl, ?_, hnumbers.symm⟩
    simp [Delta.toEntry, hnat, hline]
  · dsimp only at h hu
    subst h
    have hunit : previous.unit + (unit - previous.unit) = unit := by omega
    have hcast : ((unit - previous.unit : Nat) : Int) = unit - previous.unit := by omega
    have hnumbers : Entry.numbers previous ⟨⟨previous.line, unit⟩, length, paint, modifiers⟩ =
        Delta.numbers ⟨0, unit - previous.unit, length, paint, modifiers⟩ := by
      simp [Delta.numbers, Entry.numbers, hcast]
    refine ⟨_, by rw [hnumbers]; rfl, ?_, hnumbers.symm⟩
    simp [Delta.toEntry, hunit]

/-- The numbers of entries are not negative, and the entries are found again from them. -/
theorem Along.group_numbers {source : List Char} {a b : Nat} {entries : List Entry}
    {previous : Place} (h : Along source a entries b) (hp : previous.le (.of (source.take a))) :
    Entry.ofDeltas previous (Delta.group (numbers previous entries)) = entries ∧
      (Delta.group (numbers previous entries)).flatMap Delta.numbers =
        numbers previous entries := by
  induction h generalizing previous with
  | nil => exact ⟨rfl, rfl⟩
  | @cons a b i j entry rest le le' spans _ ih =>
    have hentry : previous.le entry.place := by
      rw [spans.place_eq]
      exact Place.le_trans hp (Place.of_take_mono source le)
    have hnext : entry.place.le (.of (source.take j)) := by
      rw [spans.place_eq]
      exact Place.of_take_mono source le'
    obtain ⟨delta, hgroup, htoEntry, hnumbers⟩ :=
      Entry.exists_delta hentry (numbers entry.place rest)
    obtain ⟨hrest, hflat⟩ := ih hnext
    rw [numbers, hgroup, Entry.ofDeltas, htoEntry, List.flatMap_cons, hnumbers, hrest, hflat]
    exact ⟨rfl, rfl⟩

end ScadText.Highlight
