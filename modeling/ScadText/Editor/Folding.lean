import ScadText.Text.Lines
import ScadText.Unicode.Blank
import ScadText.Unicode.Word

/-!
# Foldable regions

Line comments mark where a region starts and ends. A start marker waits for the next end marker
that no later start marker takes first. Markers that find no partner are left out.

## Main definitions

* `Marker`, `marker?`: the marker on a line.
* `pairUp`: the regions in the order in which they end.
* `regions`: the regions of a text in the order in which they start.
-/

namespace ScadText.Folding

inductive Marker where
  | opening | closing
  deriving DecidableEq, Repr

/-- The word of a marker. -/
def Marker.word : Marker → List Char
  | .opening => ['r', 'e', 'g', 'i', 'o', 'n']
  | .closing => ['e', 'n', 'd', 'r', 'e', 'g', 'i', 'o', 'n']

/-- What a line comment holds after its slashes and blanks, on a line with nothing before it. -/
def commentBody? (line : List Char) : Option (List Char) :=
  match line.dropWhile Unicode.isBlank with
  | '/' :: '/' :: rest => some (rest.dropWhile Unicode.isBlank)
  | _ => none

/-- The body starts with the word, which may follow a hash sign and goes no further. -/
def isMarked (word body : List Char) : Bool :=
  let body := if body.head? = some '#' then body.tail else body
  word.isPrefixOf body && Unicode.endsWord (body.drop word.length)

/-- The marker on a line. -/
def marker? (line : List Char) : Option Marker :=
  match commentBody? line with
  | none => none
  | some body =>
    if isMarked Marker.opening.word body then some .opening
    else if isMarked Marker.closing.word body then some .closing
    else none

/-- The first and last line of a region, which count from one. -/
structure Region where
  first : Nat
  last : Nat
  deriving DecidableEq, Repr

/-- The regions that end in the given lines, where `waiting` holds the start markers before them
that have no partner yet, the latest first, and the lines count from `number` on. -/
def pairUp (waiting : List Nat) (number : Nat) : List (List Char) → List Region
  | [] => []
  | line :: rest =>
    match marker? line, waiting with
    | some .opening, _ => pairUp (number :: waiting) (number + 1) rest
    | some .closing, first :: waiting => ⟨first, number⟩ :: pairUp waiting (number + 1) rest
    | _, _ => pairUp waiting (number + 1) rest

/-- The regions of a text in the order in which they start. -/
def regions (text : List Char) : List Region :=
  (pairUp [] 1 (Text.lines text)).mergeSort fun a b => a.first ≤ b.first

/-- A region that ends among the given lines ends no earlier than their first. -/
theorem le_last_of_mem_pairUp {waiting : List Nat} {number : Nat} {lines : List (List Char)}
    {region : Region} (h : region ∈ pairUp waiting number lines) : number ≤ region.last := by
  fun_induction pairUp waiting number lines with
  | case1 => simp at h
  | case2 waiting number line rest hm ih => have := ih h; omega
  | case3 number line rest first waiting hm ih =>
    rcases List.mem_cons.mp h with rfl | h
    · exact Nat.le_refl _
    · have := ih h; omega
  | case4 waiting number line rest hm hw ih => have := ih h; omega

/-- A region starts at a marker that waits for its partner, or no earlier than the given lines. -/
theorem first_of_mem_pairUp {waiting : List Nat} {number : Nat} {lines : List (List Char)}
    {region : Region} (h : region ∈ pairUp waiting number lines) :
    region.first ∈ waiting ∨ number ≤ region.first := by
  fun_induction pairUp waiting number lines with
  | case1 => simp at h
  | case2 waiting number line rest hm ih =>
    obtain hmem | hle := ih h
    · obtain heq | hmem := List.mem_cons.mp hmem
      · exact .inr (Nat.le_of_eq heq.symm)
      · exact .inl hmem
    · exact .inr (Nat.le_of_succ_le hle)
  | case3 number line rest first waiting hm ih =>
    obtain rfl | h := List.mem_cons.mp h
    · exact .inl List.mem_cons_self
    · exact (ih h).imp (List.mem_cons_of_mem _) Nat.le_of_succ_le
  | case4 waiting number line rest hm hw ih => exact (ih h).imp_right Nat.le_of_succ_le

/-- The lines of a region count from one. -/
theorem one_le_of_mem_regions {text : List Char} {region : Region} (h : region ∈ regions text) :
    1 ≤ region.first ∧ 1 ≤ region.last := by
  have h := List.mem_mergeSort.mp h
  obtain hnone | hfirst := first_of_mem_pairUp h
  · cases hnone
  · exact ⟨hfirst, le_last_of_mem_pairUp h⟩

end ScadText.Folding
