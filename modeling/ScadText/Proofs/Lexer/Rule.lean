import Mathlib.Computability.Language
import ScadText.Token.Lexer

/-!
# Lexical rules

A rule names the words it reads as a language, says what may come after a word, and gives the kind
of the token and the mode in which the text after it is read. Of a list of rules the first one that
matches decides, and takes the longest word it can.

## Main definitions

* `one`: the words of one character from a set, from which languages are built.
* `LexRule.Matches`, `LexRule.Longest`: a rule in front of a text.
* `First`: the first rule of a list that matches, with its longest word.

## Main statements

* `First.unique`: rules and text determine the word.
* `LexRule.longest_star`: a fixed word and then a run of one class.
-/

namespace ScadText.Lexer

open scoped Computability

/-- The words of one character from a set. -/
def one (s : Set Char) : Language Char := {w | ∃ c ∈ s, w = [c]}

section Languages

variable {s : Set Char} {L : Language Char} {c : Char} {w : List Char}

@[simp] theorem mem_one_iff : w ∈ one s ↔ ∃ c ∈ s, w = [c] := Iff.rfl

@[simp] theorem cons_mem_one_mul : c :: w ∈ one s * L ↔ c ∈ s ∧ w ∈ L := by
  rw [Language.mem_mul]
  constructor
  · rintro ⟨_, ⟨d, hd, rfl⟩, b, hb, h⟩
    rw [List.singleton_append, List.cons.injEq] at h
    obtain ⟨rfl, rfl⟩ := h
    exact ⟨hd, hb⟩
  · rintro ⟨hc, hw⟩
    exact ⟨[c], ⟨c, hc, rfl⟩, w, hw, rfl⟩

@[simp] theorem nil_notMem_one_mul : [] ∉ one s * L := by
  rintro ⟨_, ⟨d, hd, rfl⟩, b, hb, h⟩
  simp at h

theorem mem_one_mul : w ∈ one s * L ↔ ∃ c v, c ∈ s ∧ v ∈ L ∧ w = c :: v := by
  cases w with
  | nil => simp
  | cons d w => simp

/-- Runs of a class are the words that are written in it. -/
@[simp] theorem mem_star_one : w ∈ (one s)∗ ↔ ∀ c ∈ w, c ∈ s := by
  constructor
  · rintro ⟨parts, rfl, h⟩ c hc
    obtain ⟨part, hp, hc⟩ := List.mem_flatten.mp hc
    obtain ⟨d, hd, rfl⟩ := h part hp
    rw [List.mem_singleton] at hc
    exact hc ▸ hd
  · intro h
    refine ⟨w.map fun c => [c], by rw [← List.flatMap_def, List.flatMap_singleton'], ?_⟩
    intro part hp
    obtain ⟨c, hc, rfl⟩ := List.mem_map.mp hp
    exact ⟨c, h c hc, rfl⟩

theorem mem_pow_one {n : Nat} : w ∈ one s ^ n ↔ w.length = n ∧ ∀ c ∈ w, c ∈ s := by
  induction n generalizing w with
  | zero =>
    rw [pow_zero, Language.mem_one, List.length_eq_zero_iff]
    constructor
    · rintro rfl
      simp
    · exact And.left
  | succ n ih =>
    rw [pow_succ']
    cases w with
    | nil => simp
    | cons c w =>
      rw [cons_mem_one_mul, ih, List.length_cons, List.forall_mem_cons]
      constructor
      · rintro ⟨hc, hn, hw⟩
        exact ⟨by omega, hc, hw⟩
      · rintro ⟨hn, hc, hw⟩
        exact ⟨hc, by omega, hw⟩

end Languages

/-! ## Rules in front of a text -/

/-- The words of a rule, the texts that may come after a word, the kind of a word and the mode after
it. -/
structure LexRule where
  lexemes : Language Char
  follow : Set (List Char) := Set.univ
  kind : List Char → TokenKind
  next : Mode := .root

namespace LexRule

variable {r : LexRule} {cs rest v w : List Char}

/-- The text starts with the word `w` of the rule, and goes on as the rule allows. -/
def Matches (r : LexRule) (cs w : List Char) : Prop :=
  w ∈ r.lexemes ∧ ∃ rest, cs = w ++ rest ∧ rest ∈ r.follow

/-- The longest word with which the text matches the rule. -/
def Longest (r : LexRule) (cs w : List Char) : Prop :=
  r.Matches cs w ∧ ∀ v, r.Matches cs v → v.length ≤ w.length

/-- The rule does not match the text. -/
def Fails (r : LexRule) (cs : List Char) : Prop := ∀ v, ¬ r.Matches cs v

/-- What is left after the word may come after it. -/
theorem Matches.mem_follow (h : r.Matches (w ++ rest) w) : rest ∈ r.follow := by
  obtain ⟨-, tail, hcut, htail⟩ := h
  rwa [List.append_cancel_left hcut]

theorem Longest.unique (hv : r.Longest cs v) (hw : r.Longest cs w) : v = w := by
  have hlen : v.length = w.length := Nat.le_antisymm (hw.2 v hv.1) (hv.2 w hw.1)
  obtain ⟨-, rest, hrest, -⟩ := hv.1
  obtain ⟨-, rest', hrest', -⟩ := hw.1
  exact (List.append_inj (hrest.symm.trans hrest') hlen).1

/-- A rule whose words have one length reads the word of that length or nothing. -/
theorem Matches.longest (h : r.Matches cs w) (hr : ∀ v ∈ r.lexemes, v.length ≤ w.length) :
    r.Longest cs w :=
  ⟨h, fun v hv => hr v hv.1⟩

/-- A rule that matches all of the text takes all of it. -/
theorem Matches.longest_self (h : r.Matches cs cs) : r.Longest cs cs := by
  refine ⟨h, ?_⟩
  rintro v ⟨-, rest, hcut, -⟩
  have := congrArg List.length hcut
  rw [List.length_append] at this
  omega

/-- A first word and then a run of a class: the run is taken as far as it goes. -/
theorem longest_star {A : Language Char} {s : Set Char} {p : Char → Bool}
    (hr : r.lexemes = A * (one s)∗) (hf : r.follow = Set.univ) (hp : ∀ c, p c = true ↔ c ∈ s)
    (hA : ∀ a ∈ A, a.length = w.length) (hw : w ∈ A) :
    r.Longest (w ++ rest) (w ++ rest.takeWhile p) := by
  refine ⟨⟨?_, rest.dropWhile p, ?_, hf ▸ Set.mem_univ _⟩, ?_⟩
  · rw [hr]
    refine Language.append_mem_mul hw (mem_star_one.mpr fun c hc => ?_)
    exact (hp c).mp (List.all_eq_true.mp List.all_takeWhile c hc)
  · rw [List.append_assoc, List.takeWhile_append_dropWhile]
  · rintro v ⟨hv, tail, htail, -⟩
    rw [hr] at hv
    obtain ⟨a, ha, run, hrun, rfl⟩ := Language.mem_mul.mp hv
    rw [List.append_assoc] at htail
    obtain ⟨rfl, rfl⟩ := List.append_inj htail (hA a ha).symm
    have hall : ∀ c ∈ run, p c = true := fun c hc => (hp c).mpr (mem_star_one.mp hrun c hc)
    rw [List.takeWhile_append_of_pos hall]
    simp only [List.length_append]
    omega

/-- A first character and then a run of a class. -/
theorem longest_run {s t : Set Char} {p : Char → Bool} {c : Char}
    (hr : r.lexemes = one s * (one t)∗) (hf : r.follow = Set.univ) (hp : ∀ c, p c = true ↔ c ∈ t)
    (hc : c ∈ s) : r.Longest (c :: cs) (c :: cs.takeWhile p) := by
  refine longest_star (w := [c]) hr hf hp ?_ ⟨c, hc, rfl⟩
  rintro _ ⟨d, -, rfl⟩
  rfl

/-- A rule does not match a text that does not start with the first character of one of its words.
-/
theorem fails_of_head {s : Set Char} {L : Language Char} {c : Char} (hr : r.lexemes = one s * L)
    (hc : c ∉ s) : r.Fails (c :: cs) := by
  rintro v ⟨hv, rest, h, -⟩
  rw [hr] at hv
  obtain ⟨d, u, hd, -, rfl⟩ := mem_one_mul.mp hv
  rw [List.cons_append, List.cons.injEq] at h
  exact hc (h.1 ▸ hd)

/-- A rule of single characters matches a text that starts with one of them and goes on as it
allows. -/
theorem longest_one {s : Set Char} {c : Char} (hr : r.lexemes = one s) (hc : c ∈ s)
    (hf : cs ∈ r.follow) : r.Longest (c :: cs) [c] := by
  refine Matches.longest ⟨hr ▸ ⟨c, hc, rfl⟩, cs, rfl, hf⟩ ?_
  intro v hv
  rw [hr] at hv
  obtain ⟨d, -, rfl⟩ := hv
  exact Nat.le_refl 1

theorem fails_of_one {s : Set Char} {c : Char} (hr : r.lexemes = one s)
    (hc : c ∈ s → cs ∉ r.follow) : r.Fails (c :: cs) := by
  rintro v ⟨hv, rest, h, hrest⟩
  rw [hr] at hv
  obtain ⟨d, hd, rfl⟩ := hv
  rw [List.singleton_append, List.cons.injEq] at h
  obtain ⟨rfl, rfl⟩ := h
  exact hc hd hrest

/-- A function that looks ahead reads the words of the rule: what it finds is a word, and where a
word stands it finds one that is no shorter. -/
structure ReadBy (r : LexRule) (f : List Char → Option Nat) : Prop where
  sound : ∀ {cs n}, f cs = some n → ∃ v rest, cs = v ++ rest ∧ v.length = n ∧ v ∈ r.lexemes
  maximal : ∀ {v}, v ∈ r.lexemes → ∀ rest, ∃ n, f (v ++ rest) = some n ∧ v.length ≤ n

theorem ReadBy.longest {f : List Char → Option Nat} {n : Nat} (hf : r.ReadBy f)
    (hr : r.follow = Set.univ) (h : f cs = some n) :
    ∃ v rest, cs = v ++ rest ∧ v.length = n ∧ r.Longest cs v := by
  obtain ⟨v, rest, rfl, hn, hv⟩ := hf.sound h
  refine ⟨v, rest, rfl, hn, ⟨hv, rest, rfl, hr ▸ Set.mem_univ rest⟩, ?_⟩
  rintro u ⟨hu, tail, hcut, -⟩
  obtain ⟨m, hm, hle⟩ := hf.maximal hu tail
  rw [← hcut, h, Option.some.injEq] at hm
  omega

theorem ReadBy.fails {f : List Char → Option Nat} (hf : r.ReadBy f) (h : f cs = none) :
    r.Fails cs := by
  rintro v ⟨hv, rest, rfl, -⟩
  obtain ⟨n, hn, -⟩ := hf.maximal hv rest
  simp [h] at hn

end LexRule

/-! ## Lists of rules -/

/-- The first rule of a list that matches the text, with the longest word it matches. -/
inductive First (cs : List Char) : List LexRule → LexRule → List Char → Prop where
  | here {r : LexRule} {rs : List LexRule} {w : List Char} (longest : r.Longest cs w) :
      First cs (r :: rs) r w
  | later {q r : LexRule} {rs : List LexRule} {w : List Char} (fails : q.Fails cs)
      (first : First cs rs r w) : First cs (q :: rs) r w

namespace First

variable {cs v w : List Char} {rs : List LexRule} {q r : LexRule}

theorem longest (h : First cs rs r w) : r.Longest cs w := by
  induction h with
  | here longest => exact longest
  | later _ _ ih => exact ih

theorem mem (h : First cs rs r w) : r ∈ rs := by
  induction h with
  | here => exact List.mem_cons_self
  | later _ _ ih => exact List.mem_cons_of_mem _ ih

/-- The rules and the text determine which rule reads which word. -/
theorem unique (h : First cs rs q v) (g : First cs rs r w) : q = r ∧ v = w := by
  induction h with
  | here longest =>
    cases g with
    | here longest' => exact ⟨rfl, longest.unique longest'⟩
    | later fails _ => exact absurd longest.1 (fails _)
  | later fails _ ih =>
    cases g with
    | here longest' => exact absurd longest'.1 (fails _)
    | later _ first => exact ih first

end First

end ScadText.Lexer
