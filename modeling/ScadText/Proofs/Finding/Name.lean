import Mathlib.Data.List.Infix
import ScadText.Finding.SpecialVariable
import ScadText.Proofs.Lexer.Classes

/-!
# Names of special variables in a line

A name is taken as far as it reaches, and none starts inside of another. So the names of a line are
what a scan finds that goes on after the end of each match, and what comes after a line changes no
name of it, unless it continues the last one.

## Main definitions

* `IsName`: the texts that are names.
* `scan`: the names of a line with the columns at which they start.

## Main statements

* `nameAt?_eq_some_iff`: the name at the front of a text is the longest one.
* `scan_induction`: a line is read character by character, or name by name.
* `map_snd_scan`, `mem_scan_iff`: the scan finds the names, each where it stands.
* `names_append`, `firstIndex_append`: names in a longer line.
-/

namespace ScadText.SpecialVariable

variable {name other part line text before inside rest : List Char} {c : Char} {column first : Nat}

/-! ## The name at the front of a text -/

/-- A dollar sign, a letter or low line, and letters, digits and low lines up to the end. -/
def IsName (name : List Char) : Prop :=
  ∃ c cs, name = '$' :: c :: cs ∧ isNameStart c = true ∧ ∀ d ∈ cs, isNameChar d = true

theorem isNameChar_of_isNameStart (h : isNameStart c = true) : isNameChar c = true := by
  have hc : c.isAlphanum = (c.isAlpha || c.isDigit) := rfl
  simp only [isNameStart, isNameChar, hc, Bool.or_eq_true] at *
  grind

/-- After its first character a name holds no dollar sign. -/
theorem IsName.exists_eq_cons (h : IsName name) :
    ∃ body, name = '$' :: body ∧ ∀ d ∈ body, isNameChar d = true := by
  obtain ⟨c, cs, rfl, hc, hcs⟩ := h
  exact ⟨c :: cs, rfl, List.forall_mem_cons.mpr ⟨isNameChar_of_isNameStart hc, hcs⟩⟩

/-- The name at the front of a text reaches up to the first character that continues no name. -/
theorem nameAt?_eq_some_iff : nameAt? text = some name ↔
    IsName name ∧ ∃ rest, text = name ++ rest ∧ ∀ d ∈ rest.head?, isNameChar d = false := by
  constructor
  · intro h
    fun_cases nameAt? text with
    | case1 c cs hc =>
      obtain rfl : '$' :: c :: cs.takeWhile isNameChar = name := by simpa [nameAt?, hc] using h
      exact ⟨⟨c, _, rfl, hc, fun d => Lexer.of_mem_takeWhile⟩, cs.dropWhile isNameChar, by simp,
        fun d => Lexer.of_mem_head?_dropWhile⟩
    | case2 c cs hc => simp [nameAt?, hc] at h
    | case3 => simp_all [nameAt?]
  · rintro ⟨⟨c, cs, rfl, hc, hcs⟩, rest, rfl, hrest⟩
    simp [nameAt?, hc, Text.takeWhile_append_of_stop hcs hrest]

/-- No name starts with a character that continues one. -/
theorem nameAt?_of_isNameChar (h : isNameChar c = true) (cs : List Char) :
    nameAt? (c :: cs) = none := by
  have hc : c ≠ '$' := by
    rintro rfl
    exact absurd h (by decide)
  unfold nameAt?
  grind

theorem names_append_of_isNameChar (h : ∀ d ∈ text, isNameChar d = true) (rest : List Char) :
    names (text ++ rest) = names rest := by
  induction text with
  | nil => rfl
  | cons c text ih =>
    rw [List.forall_mem_cons] at h
    rw [List.cons_append, names, nameAt?_of_isNameChar h.1, ih h.2]

/-- The names of a text after the one at its front are those of the text after it. -/
theorem names_of_nameAt? (h : nameAt? (name ++ rest) = some name) :
    names (name ++ rest) = name :: names rest := by
  obtain ⟨hname, -⟩ := nameAt?_eq_some_iff.mp h
  obtain ⟨body, rfl, hbody⟩ := hname.exists_eq_cons
  rw [List.cons_append] at h ⊢
  rw [names, h, names_append_of_isNameChar hbody]

theorem isName_of_mem_names (h : name ∈ names line) : IsName name := by
  induction line with
  | nil => simp [names] at h
  | cons c line ih =>
    rw [names] at h
    split at h
    · next found hfound =>
      obtain rfl | h := List.mem_cons.mp h
      · exact (nameAt?_eq_some_iff.mp hfound).1
      · exact ih h
    · exact ih h

/-! ## Scan -/

/-- The matches of a scan from left to right, which goes on after the end of each match, with the
columns at which they start. -/
def scan (column : Nat) : List Char → List (Nat × List Char)
  | [] => []
  | c :: cs =>
    match nameAt? (c :: cs) with
    | some name => (column, name) :: scan (column + name.length) (cs.drop (name.length - 1))
    | none => scan (column + 1) cs
termination_by text => text.length
decreasing_by all_goals simp only [List.length_drop, List.length_cons]; omega

theorem scan_of_nameAt? (h : nameAt? (name ++ rest) = some name) (column : Nat) :
    scan column (name ++ rest) = (column, name) :: scan (column + name.length) rest := by
  obtain ⟨hname, -⟩ := nameAt?_eq_some_iff.mp h
  obtain ⟨body, rfl, -⟩ := hname.exists_eq_cons
  rw [List.cons_append] at h ⊢
  rw [scan, h]
  simp

/-- Induction along a scan: a text starts with a name, or with a character at which none starts. -/
theorem scan_induction {motive : List Char → Prop} (nil : motive [])
    (skip : ∀ c cs, nameAt? (c :: cs) = none → motive cs → motive (c :: cs))
    (found : ∀ name rest, nameAt? (name ++ rest) = some name → motive rest →
      motive (name ++ rest))
    (text : List Char) : motive text := by
  match text with
  | [] => exact nil
  | c :: cs =>
    cases h : nameAt? (c :: cs) with
    | none => exact skip c cs h (scan_induction nil skip found cs)
    | some name =>
      obtain ⟨hname, rest, hcut, -⟩ := nameAt?_eq_some_iff.mp h
      have shorter : rest.length < (c :: cs).length := by
        obtain ⟨body, rfl, -⟩ := hname.exists_eq_cons
        simp only [hcut, List.length_append, List.length_cons]
        omega
      rw [hcut] at h ⊢
      exact found name rest h (scan_induction nil skip found rest)
termination_by text.length
decreasing_by
  · exact Nat.lt_succ_self cs.length
  · exact shorter

/-- The matches are the names of the line. -/
theorem map_snd_scan (column : Nat) (line : List Char) :
    (scan column line).map Prod.snd = names line := by
  induction line using scan_induction generalizing column with
  | nil => simp [scan, names]
  | skip c cs h ih => rw [scan, names, h, ih]
  | found name rest h ih => rw [scan_of_nameAt? h, names_of_nameAt? h, List.map_cons, ih]

/-- Where a name starts in another name or right after it, it starts at one of the two ends. -/
theorem eq_nil_or_of_nameAt? (h : nameAt? (before ++ inside ++ rest) = some (before ++ inside))
    (hname : nameAt? (inside ++ rest) = some name) : before = [] ∨ inside = [] := by
  obtain ⟨body, hbody, hchars⟩ := (nameAt?_eq_some_iff.mp h).1.exists_eq_cons
  cases before with
  | nil => exact .inl rfl
  | cons c before =>
    cases inside with
    | nil => exact .inr rfl
    | cons d inside =>
      have hd : isNameChar d = true := by
        rw [List.cons_append, List.cons.injEq] at hbody
        exact hchars d (by rw [← hbody.2]; simp)
      rw [List.cons_append, nameAt?_of_isNameChar hd] at hname
      cases hname

/-- The scan finds each name where it stands, and skips none. -/
theorem mem_scan_iff : (column, name) ∈ scan first line ↔
    ∃ before after, line = before ++ after ∧ column = first + before.length ∧
      nameAt? after = some name := by
  induction line using scan_induction generalizing first with
  | nil => simp [scan, nameAt?]
  | skip c cs h ih =>
    rw [scan, h]
    simp only [ih]
    constructor
    · rintro ⟨before, after, rfl, rfl, hafter⟩
      exact ⟨c :: before, after, rfl, by simp; omega, hafter⟩
    · rintro ⟨before, after, hcut, rfl, hafter⟩
      cases before with
      | nil =>
        rw [List.nil_append] at hcut
        rw [hcut, hafter] at h
        cases h
      | cons d before =>
        rw [List.cons_append, List.cons.injEq] at hcut
        exact ⟨before, after, hcut.2, by simp; omega, hafter⟩
  | found other rest h ih =>
    rw [scan_of_nameAt? h, List.mem_cons, Prod.mk.injEq, ih]
    constructor
    · rintro (⟨rfl, rfl⟩ | ⟨before, after, rfl, rfl, hafter⟩)
      · exact ⟨[], _, rfl, rfl, h⟩
      · exact ⟨other ++ before, after, by simp, by simp; omega, hafter⟩
    · rintro ⟨before, after, hcut, rfl, hafter⟩
      obtain ⟨between, rfl, rfl⟩ | ⟨inside, rfl, rfl⟩ := List.append_eq_append_iff.mp hcut
      · exact .inr ⟨between, after, rfl, by simp; omega, hafter⟩
      · obtain rfl | rfl := eq_nil_or_of_nameAt? h hafter
        · obtain rfl := Option.some.inj (h.symm.trans hafter)
          exact .inl ⟨rfl, rfl⟩
        · exact .inr ⟨[], rest, rfl, by simp, hafter⟩

/-! ## Longer lines -/

theorem takeWhile_append_stop {p : Char → Bool} (hrest : ∀ d ∈ rest.head?, p d = false)
    (text : List Char) : (text ++ rest).takeWhile p = text.takeWhile p := by
  have hstop : rest.takeWhile p = [] := Text.takeWhile_append_of_stop (s := []) (by simp) hrest
  rw [List.takeWhile_append, hstop]
  split
  · next hall =>
    have := (List.takeWhile_prefix p (l := text)).eq_of_length hall
    grind
  · rfl

theorem nameAt?_append (hrest : ∀ d ∈ rest.head?, isNameChar d = false) (c : Char)
    (cs : List Char) : nameAt? (c :: (cs ++ rest)) = nameAt? (c :: cs) := by
  cases cs with
  | cons d cs =>
    have hrun := takeWhile_append_stop hrest cs
    unfold nameAt?
    grind
  | nil =>
    cases rest with
    | nil => rfl
    | cons d rest =>
      have hd : isNameStart d = false := by
        have := hrest d rfl
        have := @isNameChar_of_isNameStart d
        grind
      unfold nameAt?
      grind

/-- Where what is appended continues no name, the names are those of both parts. -/
theorem names_append (hrest : ∀ d ∈ rest.head?, isNameChar d = false) (line : List Char) :
    names (line ++ rest) = names line ++ names rest := by
  induction line with
  | nil => rfl
  | cons c line ih =>
    rw [List.cons_append, names, nameAt?_append hrest, ih, names]
    cases nameAt? (c :: line) <;> rfl

/-- Where a text occurs in a line, its first use in a longer line is the same. -/
theorem firstIndex_append (h : part <:+: line) (rest : List Char) :
    firstIndex part (line ++ rest) = firstIndex part line := by
  induction line with
  | nil =>
    obtain rfl := List.eq_nil_of_infix_nil h
    cases rest <;> rfl
  | cons c line ih =>
    have hfront : part.isPrefixOf (c :: (line ++ rest)) = part.isPrefixOf (c :: line) := by
      rw [Bool.eq_iff_iff, List.isPrefixOf_iff_prefix, List.isPrefixOf_iff_prefix]
      constructor
      · intro hp
        exact List.prefix_of_prefix_length_le hp (List.prefix_append (c :: line) rest) h.length_le
      · intro hp
        exact hp.trans (List.prefix_append (c :: line) rest)
    rw [List.cons_append, firstIndex, firstIndex, hfront]
    split
    · rfl
    · next hp =>
      rw [List.isPrefixOf_iff_prefix] at hp
      rw [ih ((List.infix_cons_iff.mp h).resolve_left hp)]

/-- The text that is looked for stands at the index found. -/
theorem prefix_drop_firstIndex (h : part <:+: line) :
    part <+: line.drop (firstIndex part line) := by
  induction line with
  | nil => simpa using h
  | cons c line ih =>
    rw [firstIndex]
    split
    · next hp => simpa using hp
    · next hp =>
      rw [List.isPrefixOf_iff_prefix] at hp
      rw [List.drop_succ_cons]
      apply ih
      exact (List.infix_cons_iff.mp h).resolve_left hp

end ScadText.SpecialVariable
