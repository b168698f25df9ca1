/-!
# Steps that can fail

What comes out of two steps in a row, and of a step whose fault is told in other words.

## Main statements

* `bind_eq_ok`, `bind_eq_error`: where two steps in a row succeed, and where they fail.
* `mapError_eq_ok`, `mapError_eq_error`: a step whose fault is replaced.
-/

namespace ScadText

theorem bind_eq_ok {α β ε : Type} {x : Except ε α} {f : α → Except ε β} {b : β} :
    (x >>= f) = .ok b ↔ ∃ a, x = .ok a ∧ f a = .ok b := by
  cases x <;> simp [bind, Except.bind]

theorem bind_eq_error {α β ε : Type} {x : Except ε α} {f : α → Except ε β} {e : ε} :
    (x >>= f) = .error e ↔ x = .error e ∨ ∃ a, x = .ok a ∧ f a = .error e := by
  cases x <;> simp [bind, Except.bind]

theorem mapError_eq_ok {α ε ε' : Type} {x : Except ε α} {f : ε → ε'} {a : α} :
    x.mapError f = .ok a ↔ x = .ok a := by
  cases x with
  | ok b =>
    constructor <;> rintro ⟨⟩ <;> rfl
  | error e => exact ⟨nofun, nofun⟩

theorem mapError_eq_error {α ε ε' : Type} {x : Except ε α} {f : ε → ε'} {e' : ε'} :
    x.mapError f = .error e' ↔ ∃ e, x = .error e ∧ e' = f e := by
  cases x with
  | ok a => exact ⟨nofun, nofun⟩
  | error e =>
    constructor
    · rintro ⟨⟩
      exact ⟨e, rfl, rfl⟩
    · rintro ⟨_, ⟨⟩, rfl⟩
      rfl

end ScadText
