import ScadText.Proofs.Result
import ScadText.Proofs.Text.Utf8
import ScadText.Settings.ConfigFile

/-!
# What keeps a run from having a configuration

A configuration is looked for, read and parsed, and the first of these steps that fails decides.
Most failures are faults of the configuration. Two leave the user without an answer: a disk that
refuses to look at the path, and a whole number that has too many digits.

## Main statements

* `isFile_eq_error_iff`: where it cannot be said whether there is a configuration.
* `readConfig_eq_error_iff`: what can be wrong with the one that is there.
* `findConfig_eq_error`: where looking for a configuration fails.
-/

namespace ScadText

/-! ## The configuration -/

variable {disk : Disk} {arguments : Arguments} {path : Path}

/-- A disk refuses to say whether a file is there, other than by the lack of the path. -/
theorem isFile_eq_error_iff {fault : FileFault} :
    isFile disk path = .error fault ↔ ∃ refusal, disk.status path = .error refusal ∧
      refusal ≠ .missing ∧ refusal ≠ .notDirectory ∧ fault = ⟨refusal, path⟩ := by
  rw [isFile]
  cases disk.status path with
  | ok status => simp
  | error refusal => cases refusal <;> simp [eq_comm]

variable {α : Type} {place : Option Path} {result : Except ConfigCause α}

theorem Options.located_eq_ok {a : α} : Options.located place result = .ok a ↔ result = .ok a :=
  mapError_eq_ok

theorem Options.located_eq_error {fault : ResolveFault} :
    Options.located place result = .error fault ↔
      ∃ cause, result = .error cause ∧ fault = .config ⟨cause, place⟩ :=
  mapError_eq_error

/-- The disk refuses to read a configuration, or its bytes are those of no text, or the text breaks
a rule of the format, or it holds a number that has too many digits. -/
theorem readConfig_eq_error_iff {fault : ResolveFault} : readConfig disk path = .error fault ↔
    (∃ refusal, disk.read path = .error refusal ∧ fault = .config ⟨.unreadable refusal, path⟩) ∨
    (∃ bytes why, disk.read path = .ok bytes ∧ Utf8.decode bytes = .error why ∧
      fault = .config ⟨.badEncoding why, path⟩) ∨
    (∃ text, disk.read path = .ok (Utf8.encode text) ∧
      Toml.parse (Text.joinLineEnds text) = .error .invalid ∧ fault = .config ⟨.badToml, path⟩) ∨
    ∃ text digits, disk.read path = .ok (Utf8.encode text) ∧
      Toml.parse (Text.joinLineEnds text) = .error (.longNumber digits) ∧
      fault = .breakdown (.probe (.longNumber digits)) := by
  rw [readConfig]
  cases disk.read path with
  | error refusal => simp [eq_comm]
  | ok bytes =>
    simp only [configOfBytes, Except.ok.injEq, reduceCtorEq, false_and, exists_false, false_or,
      exists_and_left, exists_eq_left', ← Utf8.decode_eq_ok_iff]
    cases Utf8.decode bytes with
    | error why => simp [eq_comm]
    | ok text =>
      cases hparse : Toml.parse (Text.joinLineEnds text) with
      | ok config => simp [hparse]
      | error why => cases why <;> simp [hparse, eq_comm]

/-- What keeps a run from having a configuration: a disk that refuses to say whether there is one,
whatever is wrong with the one that is there, or the lack of the one that is named. -/
theorem findConfig_eq_error {fault : ResolveFault} : findConfig disk arguments = .error fault ↔
    (∃ refused, isFile disk arguments.configPath = .error refused ∧
      fault = .breakdown (.probe (.refused refused))) ∨
    (isFile disk arguments.configPath = .ok true ∧
      readConfig disk arguments.configPath = .error fault) ∨
    (isFile disk arguments.configPath = .ok false ∧ arguments.namedConfig?.isSome = true ∧
      fault = .config ⟨.notFound, arguments.configPath⟩) := by
  rw [findConfig, bind_eq_error, mapError_eq_error]
  simp only [mapError_eq_ok, Bool.exists_bool, Function.comp_apply]
  cases hnamed : arguments.namedConfig?.isSome with
  | true => simp [or_comm, eq_comm]
  | false => simp [pure, Except.pure]

/-! ## The rules to ignore -/

theorem ruleOf_eq_ok_iff {code : String} {rule : Rule} :
    Options.ruleOf code = .ok rule ↔ code = rule.code := by
  rw [Options.ruleOf]
  constructor
  · intro h
    cases hcode : Rule.ofCode? code with
    | none => simp [hcode] at h
    | some found =>
      simp only [hcode, Except.ok.injEq] at h
      exact h ▸ (Rule.code_of_ofCode? hcode).symm
  · rintro rfl
    rw [Rule.ofCode?_code]

end ScadText
