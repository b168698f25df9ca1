/-!
# Lengths in UTF-16 code units

Editors count the code units of a line: one for each character of the basic plane, two for every
other.
-/

namespace ScadText.Text

def units (c : Char) : Nat := if c.toNat < 0x10000 then 1 else 2

/-- The number of code units of a text. -/
def utf16Length : List Char → Nat
  | [] => 0
  | c :: cs => units c + utf16Length cs

@[simp] theorem utf16Length_nil : utf16Length [] = 0 := rfl

@[simp] theorem utf16Length_cons (c : Char) (text : List Char) :
    utf16Length (c :: text) = units c + utf16Length text := rfl

@[simp] theorem utf16Length_append (s t : List Char) :
    utf16Length (s ++ t) = utf16Length s + utf16Length t := by
  induction s with
  | nil => simp
  | cons c s ih => simp [ih, Nat.add_assoc]

theorem units_pos (c : Char) : 1 ≤ units c := by unfold units; split <;> decide

theorem length_le_utf16Length (text : List Char) : text.length ≤ utf16Length text := by
  induction text with
  | nil => exact Nat.le_refl 0
  | cons c text ih =>
    have := units_pos c
    simp only [List.length_cons, utf16Length_cons]
    omega

end ScadText.Text
