import Mathlib.Combinatorics.Enumerative.DyckWord
import ScadText.Editor.Folding

/-!
# Regions as matched markers

A region starts at an opening marker and ends at the closing one between which and it the markers
are a Dyck word. So the regions of a text are known from its markers alone, they nest, and markers
without a partner take no part in the pairing.

## Main definitions

* `Marker.Marks`: what a line with a marker looks like.
* `Encloses`: a region from its lines, with balanced markers inside.
* `ClosesAt`: the line at which a marker that waits at some depth is taken.
* `markers`: the markers of a text with the numbers of their lines.

## Main statements

* `marker?_eq_some_iff`: a line has at most one marker.
* `mem_pairUp_iff`: a region is a start marker with the line that takes it.
* `pairwise_pairUp`: regions nest or follow one another.
* `pairMarkers_filter`: markers that are in no region take no part.
* `regions_match`: the regions of a text.
-/

namespace ScadText.Folding

variable {line body text : List Char} {lines : List (List Char)} {marker : Marker}
  {region : Region} {waiting : List Nat} {number depth : Nat}

/-! ## Lines with a marker -/

/-- The line is a comment with nothing before it, whose first word is that of the marker, right
after blanks and at most one hash sign. -/
def Marker.Marks (marker : Marker) (line : List Char) : Prop :=
  ∃ before after rest, ∃ hash ∈ [[], ['#']],
    line = before ++ '/' :: '/' :: (after ++ (hash ++ (marker.word ++ rest))) ∧
    (∀ c ∈ before, Unicode.isBlank c = true) ∧ (∀ c ∈ after, Unicode.isBlank c = true) ∧
    Unicode.endsWord rest = true

/-- Blanks are dropped up to the first character that is none. -/
theorem dropWhile_isBlank {before rest : List Char} {c : Char}
    (hbefore : ∀ d ∈ before, Unicode.isBlank d = true) (hc : Unicode.isBlank c = false) :
    (before ++ c :: rest).dropWhile Unicode.isBlank = c :: rest := by
  rw [List.dropWhile_append_of_pos hbefore, List.dropWhile_cons_of_neg (by simp [hc])]

theorem exists_of_commentBody? (h : commentBody? line = some body) : ∃ before after,
    line = before ++ '/' :: '/' :: (after ++ body) ∧
      (∀ c ∈ before, Unicode.isBlank c = true) ∧ ∀ c ∈ after, Unicode.isBlank c = true := by
  have hblanks (text : List Char) : ∀ c ∈ text.takeWhile Unicode.isBlank,
      Unicode.isBlank c = true := fun c => List.all_eq_true.mp List.all_takeWhile c
  rw [commentBody?] at h
  split at h
  · next rest hrest =>
    obtain rfl := Option.some.inj h
    refine ⟨line.takeWhile Unicode.isBlank, rest.takeWhile Unicode.isBlank, ?_, hblanks _,
      hblanks _⟩
    rw [List.takeWhile_append_dropWhile, ← hrest, List.takeWhile_append_dropWhile]
  · cases h

theorem isMarked_word_iff : isMarked marker.word body = true ↔
    ∃ hash ∈ [[], ['#']], ∃ rest, body = hash ++ (marker.word ++ rest) ∧
      Unicode.endsWord rest = true := by
  have hword (text : List Char) :
      (marker.word.isPrefixOf text && Unicode.endsWord (text.drop marker.word.length)) = true ↔
        ∃ rest, text = marker.word ++ rest ∧ Unicode.endsWord rest = true := by
    rw [Bool.and_eq_true, List.isPrefixOf_iff_prefix]
    constructor
    · rintro ⟨⟨rest, rfl⟩, hend⟩
      exact ⟨rest, rfl, by simpa using hend⟩
    · rintro ⟨rest, rfl, hend⟩
      exact ⟨List.prefix_append _ _, by simpa using hend⟩
  have hhead (rest : List Char) : (marker.word ++ rest).head? ≠ some '#' := by
    cases marker <;> simp [Marker.word]
  rw [isMarked, hword]
  by_cases hhash : body.head? = some '#'
  · obtain ⟨body, rfl⟩ : ∃ tail, body = '#' :: tail := List.head?_eq_some_iff.mp hhash
    have hplain (rest : List Char) : '#' :: body ≠ marker.word ++ rest := by
      intro h
      exact hhead rest (h ▸ rfl)
    simp [hplain]
  · have hhash' (rest : List Char) : body ≠ '#' :: rest := by
      rintro rfl
      exact hhash rfl
    simp [hhash, hhash']

/-- A line is not marked by both words. -/
theorem isMarked_closing_eq_false (h : isMarked Marker.opening.word body = true) :
    isMarked Marker.closing.word body = false := by
  rw [Bool.eq_false_iff]
  intro hclosing
  obtain ⟨hash, hmem, rest, rfl, -⟩ := isMarked_word_iff.mp h
  obtain ⟨hash', hmem', rest', hcut, -⟩ := isMarked_word_iff.mp hclosing
  simp only [List.mem_cons, List.not_mem_nil, or_false] at hmem hmem'
  obtain rfl | rfl := hmem <;> obtain rfl | rfl := hmem' <;> simp [Marker.word] at hcut

theorem marker?_eq_some_iff : marker? line = some marker ↔ marker.Marks line := by
  constructor
  · intro h
    rw [marker?] at h
    cases hbody : commentBody? line with
    | none => simp [hbody] at h
    | some body =>
      have hmarked : isMarked marker.word body = true := by grind
      obtain ⟨hash, hhash, rest, rfl, hend⟩ := isMarked_word_iff.mp hmarked
      obtain ⟨before, after, hline, hbefore, hafter⟩ := exists_of_commentBody? hbody
      exact ⟨before, after, rest, hash, hhash, hline, hbefore, hafter, hend⟩
  · rintro ⟨before, after, rest, hash, hhash, rfl, hbefore, hafter, hend⟩
    have hmarked : isMarked marker.word (hash ++ (marker.word ++ rest)) = true :=
      isMarked_word_iff.mpr ⟨hash, hhash, rest, rfl, hend⟩
    obtain ⟨c, tail, htext, hc⟩ : ∃ c tail, hash ++ (marker.word ++ rest) = c :: tail ∧
        Unicode.isBlank c = false := by
      simp only [List.mem_cons, List.not_mem_nil, or_false] at hhash
      obtain rfl | rfl := hhash <;> cases marker <;> exact ⟨_, _, rfl, by decide⟩
    have hbody : commentBody? (before ++ '/' :: '/' :: (after ++ (hash ++ (marker.word ++ rest)))) =
        some (hash ++ (marker.word ++ rest)) := by
      rw [commentBody?, dropWhile_isBlank hbefore (by decide), htext]
      exact congrArg some (dropWhile_isBlank hafter hc)
    rw [marker?, hbody]
    cases marker with
    | opening => simp [hmarked]
    | closing =>
      have hopening : isMarked Marker.opening.word (hash ++ (Marker.closing.word ++ rest)) =
          false := by
        rw [Bool.eq_false_iff]
        intro h
        rw [isMarked_closing_eq_false h] at hmarked
        cases hmarked
      simp [hmarked, hopening]

/-! ## Balanced markers -/

/-- An opening marker goes up and a closing one down. -/
def Marker.step : Marker → DyckStep
  | .opening => .U
  | .closing => .D

/-- The markers on lines, as steps. -/
def steps (lines : List (List Char)) : List DyckStep :=
  (lines.filterMap marker?).map Marker.step

/-- The steps are those of a Dyck word: as many up as down, and at no time more down than up. -/
def Balanced (path : List DyckStep) : Prop := ∃ word : DyckWord, word.toList = path

/-- The steps go `depth` further down than up, and at no time deeper than that. -/
def Sinks (depth : Nat) (path : List DyckStep) : Prop :=
  path.count .D = path.count .U + depth ∧
    ∀ n, (path.take n).count .D ≤ (path.take n).count .U + depth

theorem sinks_zero_iff {path : List DyckStep} : Sinks 0 path ↔ Balanced path := by
  constructor
  · rintro ⟨htotal, hprefix⟩
    exact ⟨⟨path, htotal.symm, hprefix⟩, rfl⟩
  · rintro ⟨word, rfl⟩
    exact ⟨word.count_U_eq_count_D.symm, word.count_D_le_count_U⟩

theorem sinks_nil_iff : Sinks depth [] ↔ depth = 0 := by
  simp [Sinks, eq_comm]

theorem sinks_up_iff {path : List DyckStep} :
    Sinks depth (.U :: path) ↔ Sinks (depth + 1) path := by
  constructor
  · rintro ⟨htotal, hprefix⟩
    refine ⟨by simpa [Nat.add_right_comm, ← Nat.add_assoc] using htotal, fun n => ?_⟩
    simpa [Nat.add_right_comm, ← Nat.add_assoc] using hprefix (n + 1)
  · rintro ⟨htotal, hprefix⟩
    refine ⟨by simpa [Nat.add_right_comm, ← Nat.add_assoc] using htotal, fun n => ?_⟩
    cases n with
    | zero => exact Nat.zero_le _
    | succ n => simpa [Nat.add_right_comm, ← Nat.add_assoc] using hprefix n

theorem sinks_down_iff {path : List DyckStep} :
    Sinks depth (.D :: path) ↔ ∃ shallower, depth = shallower + 1 ∧ Sinks shallower path := by
  constructor
  · rintro ⟨htotal, hprefix⟩
    have hdepth : 1 ≤ depth := by simpa using hprefix 1
    obtain ⟨shallower, rfl⟩ := Nat.exists_eq_add_one.mpr hdepth
    refine ⟨shallower, rfl, by simpa [← Nat.add_assoc] using htotal, fun n => ?_⟩
    simpa [← Nat.add_assoc] using hprefix (n + 1)
  · rintro ⟨shallower, rfl, htotal, hprefix⟩
    refine ⟨by simpa [← Nat.add_assoc] using htotal, fun n => ?_⟩
    cases n with
    | zero => exact Nat.zero_le _
    | succ n => simpa [← Nat.add_assoc] using hprefix n

/-! ## Regions by their lines -/

/-- Among lines that count from `number` on, the region starts on a line with an opening marker and
ends on a later one with a closing marker, and the markers on the lines between are balanced. -/
def Encloses (number : Nat) (lines : List (List Char)) (region : Region) : Prop :=
  ∃ before start inside stop after, lines = before ++ start :: (inside ++ stop :: after) ∧
    region = ⟨number + before.length, number + before.length + 1 + inside.length⟩ ∧
    Marker.opening.Marks start ∧ Marker.closing.Marks stop ∧ Balanced (steps inside)

/-- Among lines that count from `number` on, the closing marker at `last` takes the opening marker
before which `depth` others wait. -/
def ClosesAt (depth number : Nat) (lines : List (List Char)) (last : Nat) : Prop :=
  ∃ inside stop after, lines = inside ++ stop :: after ∧ last = number + inside.length ∧
    Marker.closing.Marks stop ∧ Sinks depth (steps inside)

theorem steps_cons (line : List Char) (lines : List (List Char)) :
    steps (line :: lines) = ((marker? line).map Marker.step).toList ++ steps lines := by
  cases h : marker? line <;> simp [steps, h]

variable {last : Nat}

theorem closesAt_nil : ¬ ClosesAt depth number [] last := by
  rintro ⟨inside, stop, after, h, -⟩
  simp at h

theorem closesAt_cons_iff : ClosesAt depth number (line :: lines) last ↔
    (depth = 0 ∧ last = number ∧ marker? line = some .closing) ∨
    ∃ inside stop after, lines = inside ++ stop :: after ∧ last = number + 1 + inside.length ∧
      Marker.closing.Marks stop ∧ Sinks depth (steps (line :: inside)) := by
  constructor
  · rintro ⟨inside, stop, after, hcut, rfl, hstop, hsinks⟩
    cases inside with
    | nil =>
      rw [List.nil_append, List.cons.injEq] at hcut
      obtain ⟨rfl, rfl⟩ := hcut
      exact .inl ⟨sinks_nil_iff.mp hsinks, rfl, marker?_eq_some_iff.mpr hstop⟩
    | cons first inside =>
      rw [List.cons_append, List.cons.injEq] at hcut
      obtain ⟨rfl, rfl⟩ := hcut
      exact .inr ⟨inside, stop, after, rfl, by simp; omega, hstop, hsinks⟩
  · rintro (⟨rfl, rfl, hline⟩ | ⟨inside, stop, after, rfl, rfl, hstop, hsinks⟩)
    · exact ⟨[], line, lines, rfl, rfl, marker?_eq_some_iff.mp hline, sinks_nil_iff.mpr rfl⟩
    · exact ⟨line :: inside, stop, after, rfl, by simp; omega, hstop, hsinks⟩

theorem closesAt_cons_of_none (h : marker? line = none) :
    ClosesAt depth number (line :: lines) last ↔ ClosesAt depth (number + 1) lines last := by
  have hsteps (inside : List (List Char)) : steps (line :: inside) = steps inside := by
    simp [steps_cons, h]
  rw [closesAt_cons_iff]
  simp only [h, hsteps, reduceCtorEq, and_false, false_or]
  rfl

theorem closesAt_cons_of_opening (h : marker? line = some .opening) :
    ClosesAt depth number (line :: lines) last ↔ ClosesAt (depth + 1) (number + 1) lines last := by
  have hsteps (inside : List (List Char)) : steps (line :: inside) = .U :: steps inside := by
    simp [steps_cons, h, Marker.step]
  rw [closesAt_cons_iff]
  simp only [h, hsteps, sinks_up_iff, Option.some.injEq, reduceCtorEq, and_false, false_or]
  rfl

theorem closesAt_cons_of_closing (h : marker? line = some .closing) :
    ClosesAt depth number (line :: lines) last ↔ (depth = 0 ∧ last = number) ∨
      ∃ shallower, depth = shallower + 1 ∧ ClosesAt shallower (number + 1) lines last := by
  have hsteps (inside : List (List Char)) : steps (line :: inside) = .D :: steps inside := by
    simp [steps_cons, h, Marker.step]
  rw [closesAt_cons_iff]
  simp only [h, hsteps, sinks_down_iff, and_true]
  apply or_congr_right
  constructor
  · rintro ⟨inside, stop, after, hcut, hlast, hstop, shallower, hdepth, hsinks⟩
    exact ⟨shallower, hdepth, inside, stop, after, hcut, hlast, hstop, hsinks⟩
  · rintro ⟨shallower, hdepth, inside, stop, after, hcut, hlast, hstop, hsinks⟩
    exact ⟨inside, stop, after, hcut, hlast, hstop, shallower, hdepth, hsinks⟩

theorem encloses_nil : ¬ Encloses number [] region := by
  rintro ⟨before, start, inside, stop, after, h, -⟩
  simp at h

/-- A region starts on the first line, or lies among the lines after it. -/
theorem encloses_cons_iff : Encloses number (line :: lines) region ↔
    (marker? line = some .opening ∧ region.first = number ∧
      ClosesAt 0 (number + 1) lines region.last) ∨ Encloses (number + 1) lines region := by
  constructor
  · rintro ⟨before, start, inside, stop, after, hcut, rfl, hstart, hstop, hinside⟩
    cases before with
    | nil =>
      rw [List.nil_append, List.cons.injEq] at hcut
      obtain ⟨rfl, rfl⟩ := hcut
      exact .inl ⟨marker?_eq_some_iff.mpr hstart, rfl, inside, stop, after, rfl, rfl, hstop,
        sinks_zero_iff.mpr hinside⟩
    | cons first before =>
      rw [List.cons_append, List.cons.injEq] at hcut
      obtain ⟨rfl, rfl⟩ := hcut
      refine .inr ⟨before, start, inside, stop, after, rfl, ?_, hstart, hstop, hinside⟩
      simp only [List.length_cons, Region.mk.injEq]
      omega
  · rintro (⟨hline, hfirst, inside, stop, after, rfl, hlast, hstop, hsinks⟩ |
      ⟨before, start, inside, stop, after, rfl, rfl, hstart, hstop, hinside⟩)
    · refine ⟨[], line, inside, stop, after, rfl, ?_, marker?_eq_some_iff.mp hline, hstop,
        sinks_zero_iff.mp hsinks⟩
      cases region
      simp_all
    · refine ⟨line :: before, start, inside, stop, after, rfl, ?_, hstart, hstop, hinside⟩
      simp only [List.length_cons, Region.mk.injEq]
      omega

/-! ## The pass over the lines -/

/-- The pass finds the regions among the lines, and the lines at which the markers before them that
wait are taken: the latest of them first, by a closing marker that no marker in between takes. -/
theorem mem_pairUp_iff : region ∈ pairUp waiting number lines ↔ Encloses number lines region ∨
    ∃ depth : Nat, waiting[depth]? = some region.first ∧
      ClosesAt depth number lines region.last := by
  fun_induction pairUp waiting number lines with
  | case1 => simp [encloses_nil, closesAt_nil]
  | case2 waiting number line rest hm ih =>
    simp only [ih, encloses_cons_iff, closesAt_cons_of_opening hm, hm, true_and]
    constructor
    · rintro (h | ⟨_ | depth, hwaits, hcloses⟩)
      · exact .inl (.inr h)
      · exact .inl (.inl ⟨(Option.some.inj hwaits).symm, hcloses⟩)
      · exact .inr ⟨depth, hwaits, hcloses⟩
    · rintro ((⟨hfirst, hcloses⟩ | h) | ⟨depth, hwaits, hcloses⟩)
      · exact .inr ⟨0, congrArg some hfirst.symm, hcloses⟩
      · exact .inl h
      · exact .inr ⟨depth + 1, hwaits, hcloses⟩
  | case3 number line rest first waiting hm ih =>
    simp only [List.mem_cons, ih, encloses_cons_iff, closesAt_cons_of_closing hm, hm,
      Option.some.injEq, reduceCtorEq, false_and, false_or]
    constructor
    · rintro (rfl | h | ⟨depth, hwaits, hcloses⟩)
      · exact .inr ⟨0, rfl, .inl ⟨rfl, rfl⟩⟩
      · exact .inl h
      · exact .inr ⟨depth + 1, hwaits, .inr ⟨depth, rfl, hcloses⟩⟩
    · rintro (h | ⟨depth, hwaits, ⟨rfl, hlast⟩ | ⟨shallower, rfl, hcloses⟩⟩)
      · exact .inr (.inl h)
      · obtain rfl := Option.some.inj hwaits
        exact .inl (by rw [← hlast])
      · exact .inr (.inr ⟨shallower, hwaits, hcloses⟩)
  | case4 waiting number line rest hopening hclosing ih =>
    rw [ih, encloses_cons_iff]
    cases hm : marker? line with
    | none => simp only [closesAt_cons_of_none hm, reduceCtorEq, false_and, false_or]
    | some marker =>
      cases marker with
      | opening => exact (hopening hm).elim
      | closing =>
        -- A closing marker is dropped here because none waits for it.
        cases waiting with
        | nil => simp
        | cons first waiting => exact (hclosing first waiting hm rfl).elim

theorem mem_regions_iff : region ∈ regions text ↔ Encloses 1 (Text.lines text) region := by
  rw [regions, List.mem_mergeSort, mem_pairUp_iff]
  simp

/-! ## Two regions -/

/-- The line at a number holds one of the two markers of the region. -/
def Region.HasEnd (region : Region) (number : Nat) : Prop :=
  number = region.first ∨ number = region.last

/-- The two regions have no line in common, or one lies strictly inside the other. -/
def Region.Apart (r s : Region) : Prop :=
  r.last < s.first ∨ s.last < r.first ∨ (r.first < s.first ∧ s.last < r.last) ∨
    (s.first < r.first ∧ r.last < s.last)

theorem Encloses.first_lt_last (h : Encloses number lines region) : region.first < region.last := by
  obtain ⟨before, start, inside, stop, after, -, rfl, -⟩ := h
  dsimp only
  omega

/-- Of two regions the one that ends later goes around the other one or starts after it. -/
theorem pairwise_pairUp (hwaiting : waiting.Pairwise (· > ·)) (hbefore : ∀ first ∈ waiting,
    first < number) : (pairUp waiting number lines).Pairwise fun r s =>
      r.last < s.last ∧ (s.first < r.first ∨ r.last < s.first) := by
  fun_induction pairUp waiting number lines with
  | case1 => exact .nil
  | case2 waiting number line rest hm ih =>
    refine ih (List.pairwise_cons.mpr ⟨hbefore, hwaiting⟩) (List.forall_mem_cons.mpr ⟨?_, ?_⟩)
    · exact Nat.lt_succ_self number
    · exact fun first h => Nat.lt_succ_of_lt (hbefore first h)
  | case3 number line rest first waiting hm ih =>
    obtain ⟨hlatest, hwaiting⟩ := List.pairwise_cons.mp hwaiting
    have hothers := (List.forall_mem_cons.mp hbefore).2
    refine .cons (fun region h => ⟨le_last_of_mem_pairUp h, ?_⟩)
      (ih hwaiting fun first h => Nat.lt_succ_of_lt (hothers first h))
    obtain hmem | hle := first_of_mem_pairUp h
    · exact .inl (hlatest region.first hmem)
    · exact .inr hle
  | case4 waiting number line rest hm hw ih =>
    exact ih hwaiting fun first h => Nat.lt_succ_of_lt (hbefore first h)

theorem apart_of_mem_regions {r s : Region} (hr : r ∈ regions text) (hs : s ∈ regions text)
    (hne : r ≠ s) : r.Apart s := by
  have hpairwise : (pairUp [] 1 (Text.lines text)).Pairwise Region.Apart := by
    refine (pairwise_pairUp .nil nofun).imp fun h => ?_
    unfold Region.Apart
    omega
  have : Std.Symm Region.Apart := ⟨fun r s h => by unfold Region.Apart at *; omega⟩
  rw [regions, List.mem_mergeSort] at hr hs
  exact hpairwise.forall hr hs hne

theorem Region.Apart.hasEnd {r s : Region} (h : r.Apart s) (hr : r.first < r.last)
    (hs : s.first < s.last) (hnumber : r.HasEnd number) : ¬ s.HasEnd number := by
  unfold Apart HasEnd at *
  omega

/-- The regions come in the order of their first lines, and no two start on the same line. -/
theorem pairwise_regions (text : List Char) : (regions text).Pairwise (·.first < ·.first) := by
  have hsorted : (regions text).Pairwise fun r s => r.first ≤ s.first := by
    have htrans (a b c : Region) : decide (a.first ≤ b.first) = true →
        decide (b.first ≤ c.first) = true → decide (a.first ≤ c.first) = true := by
      simp only [decide_eq_true_eq]
      exact Nat.le_trans
    have htotal (a b : Region) :
        (decide (a.first ≤ b.first) || decide (b.first ≤ a.first)) = true := by
      simpa using Nat.le_total a.first b.first
    simpa only [regions, decide_eq_true_eq] using
      List.pairwise_mergeSort htrans htotal (pairUp [] 1 (Text.lines text))
  have hdistinct : (regions text).Nodup := by
    refine (List.mergeSort_perm _ _).nodup_iff.mpr ((pairwise_pairUp .nil nofun).imp ?_)
    rintro r _ ⟨hlast, -⟩ rfl
    exact Nat.lt_irrefl _ hlast
  refine (hsorted.and hdistinct).imp_of_mem fun hr hs ⟨hle, hne⟩ => ?_
  have hapart := apart_of_mem_regions hr hs hne
  have hfirst := (mem_regions_iff.mp hr).first_lt_last
  have hsecond := (mem_regions_iff.mp hs).first_lt_last
  unfold Region.Apart at hapart
  omega

/-! ## Markers without a partner -/

/-- The markers on lines that count from `number` on, with the numbers of their lines. -/
def markersFrom (number : Nat) : List (List Char) → List (Nat × Marker)
  | [] => []
  | line :: rest =>
    ((marker? line).map (number, ·)).toList ++ markersFrom (number + 1) rest

/-- The markers of a text with the numbers of their lines. -/
def markers (text : List Char) : List (Nat × Marker) := markersFrom 1 (Text.lines text)

/-- The regions that end at the given markers, where `waiting` holds the opening markers before them
that have no partner yet. -/
def pairMarkers (waiting : List Nat) : List (Nat × Marker) → List Region
  | [] => []
  | (number, .opening) :: rest => pairMarkers (number :: waiting) rest
  | (number, .closing) :: rest =>
    match waiting with
    | [] => pairMarkers [] rest
    | first :: waiting => ⟨first, number⟩ :: pairMarkers waiting rest

/-- The regions depend on the markers of the lines alone. -/
theorem pairUp_eq_pairMarkers (waiting : List Nat) (number : Nat) (lines : List (List Char)) :
    pairUp waiting number lines = pairMarkers waiting (markersFrom number lines) := by
  fun_induction pairUp waiting number lines with
  | case1 => rfl
  | case2 waiting number line rest hm ih => simp [markersFrom, hm, pairMarkers, ih]
  | case3 number line rest first waiting hm ih => simp [markersFrom, hm, pairMarkers, ih]
  | case4 waiting number line rest hopening hclosing ih =>
    cases hm : marker? line with
    | none => simp [markersFrom, hm, ih]
    | some marker => cases marker <;> cases waiting <;> simp_all [markersFrom, pairMarkers]

/-- Without some of the markers that are in no region, the others are paired as before. -/
theorem pairMarkers_filter {kept : Nat → Bool} {waiting : List Nat} {given : List (Nat × Marker)}
    (h : ∀ region ∈ pairMarkers waiting given, kept region.first = true ∧
      kept region.last = true) :
    pairMarkers (waiting.filter kept) (given.filter fun entry => kept entry.1) =
      pairMarkers waiting given := by
  fun_induction pairMarkers waiting given with
  | case1 => rfl
  | case2 waiting number rest ih =>
    rw [← ih h, List.filter_cons]
    cases hkept : kept number <;> simp [hkept, pairMarkers]
  | case3 number rest ih =>
    rw [← ih h, List.filter_cons]
    cases hkept : kept number <;> simp [pairMarkers]
  | case4 number rest first waiting ih =>
    obtain ⟨⟨hfirst, hnumber⟩, hrest⟩ := List.forall_mem_cons.mp h
    rw [← ih hrest, List.filter_cons_of_pos hfirst]
    simp [hnumber, pairMarkers]

/-- The region with its lines at other places. -/
def Region.moved (place : Nat → Nat) (region : Region) : Region :=
  ⟨place region.first, place region.last⟩

/-- Pairing does not look at where the markers stand. -/
theorem pairMarkers_map (place : Nat → Nat) (waiting : List Nat) (given : List (Nat × Marker)) :
    pairMarkers (waiting.map place) (given.map (Prod.map place id)) =
      (pairMarkers waiting given).map (Region.moved place) := by
  fun_induction pairMarkers waiting given with
  | case1 => rfl
  | case2 waiting number rest ih => exact ih
  | case3 number rest ih => exact ih
  | case4 number rest first waiting ih => exact congrArg _ ih

/-- Regions of two texts that are the same up to order and places are the same in order. -/
theorem regions_eq_map_of_perm {other : List Char} {place : Nat → Nat} (hplace : Monotone place)
    (h : (regions other).Perm ((regions text).map (Region.moved place))) :
    regions other = (regions text).map (Region.moved place) := by
  have hsorted : (regions other).Pairwise fun r s => r.first ≤ s.first :=
    (pairwise_regions other).imp Nat.le_of_lt
  have hmoved : ((regions text).map (Region.moved place)).Pairwise fun r s => r.first ≤ s.first :=
    List.pairwise_map.mpr ((pairwise_regions text).imp fun hlt => hplace (Nat.le_of_lt hlt))
  refine h.eq_of_pairwise (fun r s hr hs hle hge => ?_) hsorted hmoved
  by_contra hne
  have hapart := apart_of_mem_regions hr (h.mem_iff.mpr hs) hne
  have hfirst := (mem_regions_iff.mp hr).first_lt_last
  have hsecond := (mem_regions_iff.mp (h.mem_iff.mpr hs)).first_lt_last
  unfold Region.Apart at hapart
  omega

theorem perm_pairMarkers (text : List Char) :
    (regions text).Perm (pairMarkers [] (markers text)) := by
  rw [markers, ← pairUp_eq_pairMarkers]
  exact List.mergeSort_perm _ _

/-- Where some markers that are in no region are missing from the other text, and the others follow
one another as before, these are paired as before. -/
theorem regions_of_markers {other : List Char} {kept : Nat → Bool} {place : Nat → Nat}
    (hplace : Monotone place)
    (hkept : ∀ region ∈ regions text, kept region.first = true ∧ kept region.last = true)
    (hmarkers : markers other =
      ((markers text).filter fun entry => kept entry.1).map (Prod.map place id)) :
    regions other = (regions text).map (Region.moved place) := by
  have hpairs : pairMarkers [] (markers other) =
      (pairMarkers [] (markers text)).map (Region.moved place) := by
    have hmap := pairMarkers_map place [] ((markers text).filter fun entry => kept entry.1)
    have hfilter : pairMarkers ([].filter kept) ((markers text).filter fun entry => kept entry.1) =
        pairMarkers [] (markers text) :=
      pairMarkers_filter fun region h => hkept region ((perm_pairMarkers text).mem_iff.mpr h)
    rw [List.filter_nil] at hfilter
    rw [hmarkers, ← hfilter, ← hmap, List.map_nil]
  apply regions_eq_map_of_perm hplace
  have hperm := (perm_pairMarkers text).map (Region.moved place)
  rw [← hpairs] at hperm
  exact (perm_pairMarkers other).trans hperm.symm

/-- The regions of a text are the pairs of an opening marker and a later closing one with balanced
markers between them, in the order of their first lines. No line is an end of two of them, two of
them have no line in common or one lies strictly inside the other, and no line has both markers. If
markers that are in no region are taken out of the text, on their lines or with their lines, so that
the other markers follow one another as before, these are paired as before. -/
theorem regions_match (text : List Char) :
    (∀ region, region ∈ regions text ↔ Encloses 1 (Text.lines text) region) ∧
    (regions text).Pairwise (·.first < ·.first) ∧
    (∀ r ∈ regions text, ∀ s ∈ regions text, r ≠ s →
      r.Apart s ∧ ∀ number, r.HasEnd number → ¬ s.HasEnd number) ∧
    (∀ line marker, marker? line = some marker ↔ marker.Marks line) ∧
    (∀ line, ¬ (Marker.opening.Marks line ∧ Marker.closing.Marks line)) ∧
    ∀ (other : List Char) (kept : Nat → Bool) (place : Nat → Nat), Monotone place →
      (∀ region ∈ regions text, kept region.first = true ∧ kept region.last = true) →
      markers other = ((markers text).filter fun entry => kept entry.1).map (Prod.map place id) →
      regions other = (regions text).map (Region.moved place) := by
  have hmem (region : Region) : region ∈ regions text ↔ Encloses 1 (Text.lines text) region :=
    mem_regions_iff
  refine ⟨hmem, pairwise_regions text, fun r hr s hs hne => ?_, fun _ _ => marker?_eq_some_iff, ?_,
    fun other kept place => regions_of_markers⟩
  · have hapart := apart_of_mem_regions hr hs hne
    exact ⟨hapart, fun _ => hapart.hasEnd ((hmem r).mp hr).first_lt_last
      ((hmem s).mp hs).first_lt_last⟩
  · rintro line ⟨hopening, hclosing⟩
    cases (marker?_eq_some_iff.mpr hopening).symm.trans (marker?_eq_some_iff.mpr hclosing)

/-- Two markers without a partner are taken out with their lines, and the region moves up. -/
theorem regions_match_unpaired :
    (∀ region ∈ regions "//endregion\n// region a\n//#region\nx\n //endregion".toList,
      Encloses 1 (Text.lines "//endregion\n// region a\n//#region\nx\n //endregion".toList)
        region) ∧
    regions "//#region\nx\n //endregion".toList = [⟨1, 3⟩] := by
  have hregions : regions "//endregion\n// region a\n//#region\nx\n //endregion".toList =
      [⟨3, 5⟩] := by
    have hpairs : pairUp [] 1
        (Text.lines "//endregion\n// region a\n//#region\nx\n //endregion".toList) =
        [⟨3, 5⟩] := by
      decide +kernel
    rw [regions, hpairs, List.mergeSort_singleton]
  obtain ⟨hmem, -, -, -, -, hunpaired⟩ :=
    regions_match "//endregion\n// region a\n//#region\nx\n //endregion".toList
  have hmarkers : markers "//#region\nx\n //endregion".toList =
      ((markers "//endregion\n// region a\n//#region\nx\n //endregion".toList).filter
        fun entry => decide (2 < entry.1)).map (Prod.map (· - 2) id) := by
    decide +kernel
  have hplace : Monotone fun n : Nat => n - 2 := fun m n h => Nat.sub_le_sub_right h 2
  have hkept : ∀ region ∈ regions "//endregion\n// region a\n//#region\nx\n //endregion".toList,
      decide (2 < region.first) = true ∧ decide (2 < region.last) = true := by
    rw [hregions]
    decide
  refine ⟨fun region => (hmem region).mp, ?_⟩
  rw [hunpaired _ (fun n => decide (2 < n)) _ hplace hkept hmarkers, hregions]
  rfl

end ScadText.Folding
