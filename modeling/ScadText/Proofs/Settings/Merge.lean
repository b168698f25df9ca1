import Mathlib.Data.List.Basic
import Mathlib.Data.Set.List
import ScadText.Proofs.Settings.Resolve

/-!
# Options from a configuration and a command line

Every value is checked where it stands and in a fixed order. Options come out if all checks pass,
and otherwise the first check that fails says why: with the path of the configuration if the value
stands there, and without it if the command line gives it.

## Main definitions

* `FirstAmong`: the first item of a list that is not as it should be.
* `Condition`: what is checked, in the order of the checks.
* `Condition.Holds`, `Breaks`: what a condition asks for, and what is reported where it does not
  hold.
* `Merged`: options that take up both sources.

## Main statements

* `rulesOf_eq_error_iff`, `rulesGiven_eq_error_iff`: the first code that is unknown.
* `merge_eq_error_iff`: the first condition that does not hold is reported.
* `merge_checked`: when options come out, which ones, and what is reported otherwise.
-/

namespace ScadText.Options

/-! ## The first of several -/

section FirstAmong

variable {α : Type} {good bad : α → Prop} {item : α} {items others : List α}

/-- An item is bad, and those before it are good. -/
def FirstAmong (good bad : α → Prop) (items : List α) : Prop :=
  ∃ before item after, items = before ++ item :: after ∧ (∀ other ∈ before, good other) ∧ bad item

theorem not_firstAmong_nil : ¬ FirstAmong good bad [] := by
  rintro ⟨before, item, after, h, -⟩
  simp at h

theorem firstAmong_cons_iff : FirstAmong good bad (item :: items) ↔
    bad item ∨ good item ∧ FirstAmong good bad items := by
  constructor
  · rintro ⟨before, found, after, hcut, hgood, hbad⟩
    cases before with
    | nil =>
      rw [List.nil_append, List.cons.injEq] at hcut
      exact .inl (hcut.1 ▸ hbad)
    | cons first before =>
      rw [List.cons_append, List.cons.injEq] at hcut
      obtain ⟨rfl, rfl⟩ := hcut
      obtain ⟨hfirst, hgood⟩ := List.forall_mem_cons.mp hgood
      exact .inr ⟨hfirst, before, found, after, rfl, hgood, hbad⟩
  · rintro (hbad | ⟨hitem, before, found, after, rfl, hgood, hbad⟩)
    · exact ⟨[], item, items, rfl, nofun, hbad⟩
    · exact ⟨item :: before, found, after, rfl, List.forall_mem_cons.mpr ⟨hitem, hgood⟩, hbad⟩

theorem firstAmong_append_iff : FirstAmong good bad (items ++ others) ↔
    FirstAmong good bad items ∨ (∀ item ∈ items, good item) ∧ FirstAmong good bad others := by
  induction items with
  | nil => simp [not_firstAmong_nil]
  | cons item items ih =>
    rw [List.cons_append, firstAmong_cons_iff, ih, firstAmong_cons_iff, List.forall_mem_cons,
      and_or_left, or_assoc, and_assoc]

end FirstAmong

variable {config entries : Toml.Table} {path : Path} {arguments : Arguments} {part : Section}
  {fault : ResolveFault} {cause : ConfigCause}

/-- What a section says: nothing if the section is missing or no table. -/
def entriesOf (config : Toml.Table) (part : Section) : Toml.Table :=
  match config.lookup part.name with
  | some (.table entries) => entries
  | _ => []

/-- The value which a section gives to a key. -/
def valueAt? (config : Toml.Table) (part : Section) (key : String) : Option Toml.Value :=
  (entriesOf config part).lookup key

/-! ## Conditions -/

/-- The text is the code of a rule. -/
def IsCode (code : String) : Prop := ∃ rule : Rule, code = rule.code

/-- The command line gives the code of a rule. -/
def GivesCode (given : Given) : Prop := ∃ rule : Rule, given = .text rule.code

/-- What is checked of a configuration and of a command line. -/
inductive Condition where
  | table (part : Section)
  | ignoreStrings
  | ignoreCodes
  | givenCodes
  | strictBoolean
  | fileFormat
  | givenFormat
  deriving DecidableEq, Repr

namespace Condition

/-- The conditions that are checked before the rules which the command line gives. -/
def beforeGiven : List Condition := [.table .lint, .table .output, .ignoreStrings, .ignoreCodes]

/-- The conditions that are checked before the output format of the configuration. -/
def beforeFound : List Condition := beforeGiven ++ [.givenCodes, .strictBoolean]

/-- The conditions that are checked before the output format which the command line gives. -/
def beforeFormat : List Condition := beforeFound ++ [.fileFormat]

/-- The conditions in the order in which they are checked. -/
def all : List Condition := beforeFormat ++ [.givenFormat]

/-- The condition is on a value of the configuration. -/
def inFile : Condition → Bool
  | .givenCodes | .givenFormat => false
  | _ => true

/-- A section is a table, ignored rules are listed by their codes, strictness is a truth value, and
a format is named. What is left out is no fault. -/
def Holds (config : Toml.Table) (arguments : Arguments) : Condition → Prop
  | .table part => ∀ value ∈ config.lookup part.name, ∃ entries, value = .table entries
  | .ignoreStrings => ∀ value ∈ valueAt? config .lint "ignore",
      ∃ codes : List String, value = .array (codes.map .string)
  | .ignoreCodes => ∀ codes : List String,
      valueAt? config .lint "ignore" = some (.array (codes.map .string)) →
        ∀ code ∈ codes, IsCode code
  | .givenCodes => ∀ given ∈ arguments.ignore, GivesCode given
  | .strictBoolean => ∀ value ∈ valueAt? config .lint "strict", ∃ strict, value = .boolean strict
  | .fileFormat => ∀ value ∈ valueAt? config .output "format",
      ∃ format : OutputFormat, value = .string format.name
  | .givenFormat => ∀ given ∈ arguments.format, ∃ format : OutputFormat, given = .text format.name

end Condition

/-- What stands in a message for a value that the command line gives. -/
def shown : Given → String
  | .nothing => "[]"
  | .text text => text

/-- What is reported where a condition does not hold. Of several codes the first that is unknown is
reported. -/
inductive Breaks (config : Toml.Table) (path : Path) (arguments : Arguments) :
    Condition → ResolveFault → Prop where
  | notTable {part : Section} {value : Toml.Value} (found : config.lookup part.name = some value)
      (other : ∀ entries, value ≠ .table entries) :
      Breaks config path arguments (.table part) (.config ⟨.notTable part, path⟩)
  | notStrings {value : Toml.Value} (found : valueAt? config .lint "ignore" = some value)
      (other : ∀ codes : List String, value ≠ .array (codes.map .string)) :
      Breaks config path arguments .ignoreStrings (.config ⟨.ignoreNotStrings, path⟩)
  | unknownCode {codes : List String} {code : String}
      (found : valueAt? config .lint "ignore" = some (.array (codes.map .string)))
      (first : FirstAmong IsCode (· = code) codes) (other : ¬ IsCode code) :
      Breaks config path arguments .ignoreCodes (.config ⟨.unknownCode code, path⟩)
  | unknownGiven {code : String} (first : FirstAmong GivesCode (· = .text code) arguments.ignore)
      (other : ¬ IsCode code) :
      Breaks config path arguments .givenCodes (.config ⟨.unknownCode code, none⟩)
  | nothingGiven (first : FirstAmong GivesCode (· = .nothing) arguments.ignore) :
      Breaks config path arguments .givenCodes (.breakdown .noCode)
  | notBoolean {value : Toml.Value} (found : valueAt? config .lint "strict" = some value)
      (other : ∀ strict, value ≠ .boolean strict) :
      Breaks config path arguments .strictBoolean (.config ⟨.strictNotBoolean, path⟩)
  | unknownFormat {value : Toml.Value} (found : valueAt? config .output "format" = some value)
      (other : ∀ format : OutputFormat, value ≠ .string format.name)
      (short : value.hasLong = false) :
      Breaks config path arguments .fileFormat (.config ⟨.unknownFormat value.render, path⟩)
  | longFormat {value : Toml.Value} (found : valueAt? config .output "format" = some value)
      (long : value.hasLong = true) :
      Breaks config path arguments .fileFormat (.breakdown (.probe .longValue))
  | unknownFormatGiven {given : Given} (asked : arguments.format = some given)
      (other : ∀ format : OutputFormat, given ≠ .text format.name) :
      Breaks config path arguments .givenFormat (.config ⟨.unknownFormat (shown given), none⟩)

/-- The options that take up both sources: rules which either one ignores, strictness if either one
asks for it, and the format of the command line, or else of the configuration, or else text. -/
structure Merged (config : Toml.Table) (arguments : Arguments) (options : Options) : Prop where
  mem_ignore_iff : ∀ rule : Rule, rule ∈ options.ignore ↔
    (∃ codes : List String, valueAt? config .lint "ignore" = some (.array (codes.map .string)) ∧
      rule.code ∈ codes) ∨ .text rule.code ∈ arguments.ignore
  strict_iff : options.strict = true ↔
    valueAt? config .lint "strict" = some (.boolean true) ∨ arguments.strict = true
  format_given : ∀ given ∈ arguments.format, given = .text options.format.name
  format_found : arguments.format = none →
    ∀ value ∈ valueAt? config .output "format", value = .string options.format.name
  format_default : arguments.format = none → valueAt? config .output "format" = none →
    options.format = .text
  inputs_eq : options.inputs = (arguments.first :: arguments.others).map Path.ofString
  tokens_eq : options.tokens = arguments.tokens
  watch_eq : options.watch = arguments.watch

/-! ## Values of the configuration -/

theorem sectionOf_eq_ok_iff (arguments : Arguments) : sectionOf config part = .ok entries ↔
    (Condition.table part).Holds config arguments ∧ entries = entriesOf config part := by
  rw [sectionOf, entriesOf, Condition.Holds]
  cases config.lookup part.name with
  | none => simp [eq_comm]
  | some value => cases value <;> simp [eq_comm]

theorem sectionOf_eq_error_iff (arguments : Arguments) :
    located path (sectionOf config part) = .error fault ↔
      Breaks config path arguments (.table part) fault := by
  rw [located_eq_error]
  constructor
  · rintro ⟨cause, hcause, rfl⟩
    rw [sectionOf] at hcause
    split at hcause
    · cases hcause
    · cases hcause
    · next value hother hfound =>
      obtain rfl := Except.error.inj hcause
      exact .notTable hfound hother
  · intro h
    cases h with
    | @notTable _ value found other =>
      refine ⟨.notTable part, ?_, rfl⟩
      rw [sectionOf, found]
      cases value with
      | table entries => exact absurd rfl (other entries)
      | _ => rfl

theorem codesOf_eq_ok_iff {items : List Toml.Value} {codes : List String} :
    codesOf items = .ok codes ↔ items = codes.map .string := by
  fun_induction codesOf items generalizing codes with
  | case1 => cases codes <;> simp
  | case2 code rest ih =>
    cases codes with
    | nil => cases codesOf rest <;> simp [Except.map]
    | cons first codes =>
      rw [List.map_cons, List.cons.injEq, Toml.Value.string.injEq, ← ih]
      cases codesOf rest <;> simp [Except.map]
  | case3 value rest hother =>
    cases codes with
    | nil => simp
    | cons first codes => simpa using fun h _ => hother first h

theorem codesOf_eq_error_iff {items : List Toml.Value} : codesOf items = .error cause ↔
    cause = .ignoreNotStrings ∧ ∀ codes : List String, items ≠ codes.map .string := by
  have hcause {found : ConfigCause} (h : codesOf items = .error found) :
      found = .ignoreNotStrings := by
    fun_induction codesOf items with
    | case1 => cases h
    | case2 code rest ih => cases hrest : codesOf rest <;> simp_all [Except.map]
    | case3 value rest hother => exact (Except.error.inj h).symm
  simp only [ne_eq, ← codesOf_eq_ok_iff]
  cases h : codesOf items with
  | ok codes => simp
  | error found => simp [hcause h, eq_comm]

/-- The codes in the configuration: none where no value is given. -/
theorem ignoredCodes_eq_ok_iff {codes : List String} :
    ignoredCodes (entriesOf config .lint) = .ok codes ↔
      (valueAt? config .lint "ignore" = none ∧ codes = []) ∨
        valueAt? config .lint "ignore" = some (.array (codes.map .string)) := by
  rw [ignoredCodes, ← valueAt?]
  cases valueAt? config .lint "ignore" with
  | none => simp [eq_comm]
  | some value => cases value <;> simp [codesOf_eq_ok_iff]

theorem exists_ignoredCodes_iff (arguments : Arguments) :
    (∃ codes, ignoredCodes (entriesOf config .lint) = .ok codes) ↔
      Condition.ignoreStrings.Holds config arguments := by
  simp only [ignoredCodes_eq_ok_iff, Condition.Holds]
  cases valueAt? config .lint "ignore" <;> simp

theorem ignoredCodes_eq_error_iff (arguments : Arguments) :
    located path (ignoredCodes (entriesOf config .lint)) = .error fault ↔
      Breaks config path arguments .ignoreStrings fault := by
  rw [located_eq_error]
  constructor
  · rintro ⟨cause, hcause, rfl⟩
    rw [ignoredCodes, ← valueAt?] at hcause
    split at hcause
    · cases hcause
    · next items hfound =>
      obtain ⟨rfl, hother⟩ := codesOf_eq_error_iff.mp hcause
      exact .notStrings hfound (by simpa using hother)
    · next value hother hfound =>
      obtain rfl := Except.error.inj hcause
      exact .notStrings hfound fun codes => hother _
  · intro h
    cases h with
    | @notStrings value found other =>
      refine ⟨.ignoreNotStrings, ?_, rfl⟩
      rw [ignoredCodes, ← valueAt?, found]
      cases value with
      | array items => exact codesOf_eq_error_iff.mpr ⟨rfl, by simpa using other⟩
      | _ => rfl

/-! ## Codes of rules -/

theorem ruleOf_eq_error_iff {code : String} :
    ruleOf code = .error cause ↔ cause = .unknownCode code ∧ ¬ IsCode code := by
  simp only [IsCode, ← ruleOf_eq_ok_iff]
  rw [ruleOf]
  cases Rule.ofCode? code <;> simp [eq_comm]

theorem rulesOf_eq_ok_iff {codes : List String} {rules : List Rule} :
    rulesOf codes = .ok rules ↔ codes = rules.map Rule.code := by
  induction codes generalizing rules with
  | nil => cases rules <;> simp [rulesOf]
  | cons code codes ih =>
    simp only [rulesOf, bind_eq_ok, ruleOf_eq_ok_iff, ih, pure, Except.pure, Except.ok.injEq]
    constructor
    · rintro ⟨rule, rfl, others, rfl, rfl⟩
      rfl
    · intro h
      cases rules with
      | nil => cases h
      | cons rule others =>
        rw [List.map_cons, List.cons.injEq] at h
        exact ⟨rule, h.1, others, h.2, rfl⟩

theorem rulesOf_eq_error_iff {codes : List String} : rulesOf codes = .error cause ↔
    FirstAmong IsCode (fun code => ruleOf code = .error cause) codes := by
  induction codes with
  | nil => simp [rulesOf, not_firstAmong_nil]
  | cons code codes ih =>
    simp only [rulesOf, bind_eq_error, ruleOf_eq_ok_iff, ih, firstAmong_cons_iff, IsCode, pure,
      Except.pure, reduceCtorEq, and_false, exists_false, or_false, exists_and_right]

theorem rulesGiven_eq_ok_iff {given : List Given} {rules : List Rule} :
    rulesGiven given = .ok rules ↔ given = rules.map fun rule => .text rule.code := by
  induction given generalizing rules with
  | nil => cases rules <;> simp [rulesGiven]
  | cons value given ih =>
    cases value with
    | nothing => cases rules <;> simp [rulesGiven]
    | text code =>
      simp only [rulesGiven, bind_eq_ok, located_eq_ok, ruleOf_eq_ok_iff, ih, pure, Except.pure,
        Except.ok.injEq]
      constructor
      · rintro ⟨rule, rfl, others, rfl, rfl⟩
        rfl
      · intro h
        cases rules with
        | nil => cases h
        | cons rule others =>
          rw [List.map_cons, List.cons.injEq, Given.text.injEq] at h
          exact ⟨rule, h.1, others, h.2, rfl⟩

theorem rulesGiven_eq_error_iff {given : List Given} : rulesGiven given = .error fault ↔
    FirstAmong GivesCode (fun value => (value = .nothing ∧ fault = .breakdown .noCode) ∨
      ∃ code, value = .text code ∧ ¬ IsCode code ∧ fault = .config ⟨.unknownCode code, none⟩)
      given := by
  induction given with
  | nil => simp [rulesGiven, not_firstAmong_nil]
  | cons value given ih =>
    rw [firstAmong_cons_iff, ← ih]
    cases value with
    | nothing => simp [rulesGiven, GivesCode, eq_comm]
    | text code =>
      simp [rulesGiven, bind_eq_error, located_eq_error, located_eq_ok, ruleOf_eq_ok_iff,
        ruleOf_eq_error_iff, GivesCode, pure, Except.pure, and_assoc]

/-! ## Conditions on codes -/

theorem exists_eq_map_iff {α β : Type} {f : α → β} {ys : List β} :
    (∃ xs : List α, ys = xs.map f) ↔ ∀ y ∈ ys, ∃ x, y = f x := by
  have hrange := Set.ext_iff.mp (Set.range_list_map f) ys
  simpa only [Set.mem_range, Set.mem_ofPred_eq, eq_comm] using hrange

theorem exists_rulesGiven_iff (config : Toml.Table) :
    (∃ rules, rulesGiven arguments.ignore = .ok rules) ↔
      Condition.givenCodes.Holds config arguments := by
  simp only [rulesGiven_eq_ok_iff, exists_eq_map_iff, Condition.Holds, GivesCode]

theorem rulesGiven_ignore_eq_error_iff (config : Toml.Table) (path : Path) :
    rulesGiven arguments.ignore = .error fault ↔
      Breaks config path arguments .givenCodes fault := by
  rw [rulesGiven_eq_error_iff]
  constructor
  · rintro ⟨before, value, after, hcut, hbefore, ⟨rfl, rfl⟩ | ⟨code, rfl, hcode, rfl⟩⟩
    · exact .nothingGiven ⟨before, _, after, hcut, hbefore, rfl⟩
    · exact .unknownGiven ⟨before, _, after, hcut, hbefore, rfl⟩ hcode
  · intro h
    cases h with
    | @unknownGiven code first other =>
      obtain ⟨before, _, after, hcut, hbefore, rfl⟩ := first
      exact ⟨before, _, after, hcut, hbefore, .inr ⟨code, rfl, other, rfl⟩⟩
    | nothingGiven first =>
      obtain ⟨before, _, after, hcut, hbefore, rfl⟩ := first
      exact ⟨before, _, after, hcut, hbefore, .inl ⟨rfl, rfl⟩⟩

/-- The rules which the configuration tells to ignore. -/
theorem fileRules_eq_ok_iff {rules : List Rule} :
    (ignoredCodes (entriesOf config .lint) >>= rulesOf) = .ok rules ↔
      (valueAt? config .lint "ignore" = none ∧ rules = []) ∨
        valueAt? config .lint "ignore" = some (.array ((rules.map Rule.code).map .string)) := by
  simp only [bind_eq_ok, rulesOf_eq_ok_iff, exists_eq_right, ignoredCodes_eq_ok_iff,
    List.map_eq_nil_iff]

theorem exists_fileRules_iff (arguments : Arguments) :
    (∃ rules, (ignoredCodes (entriesOf config .lint) >>= rulesOf) = .ok rules) ↔
      Condition.ignoreStrings.Holds config arguments ∧
        Condition.ignoreCodes.Holds config arguments := by
  constructor
  · rintro ⟨rules, hrules⟩
    obtain ⟨codes, hcodes, hrules⟩ := bind_eq_ok.mp hrules
    refine ⟨(exists_ignoredCodes_iff arguments).mp ⟨codes, hcodes⟩, fun others hfound => ?_⟩
    have hothers := ignoredCodes_eq_ok_iff.mpr (.inr hfound)
    obtain rfl := Except.ok.inj (hcodes.symm.trans hothers)
    exact exists_eq_map_iff.mp ⟨rules, rulesOf_eq_ok_iff.mp hrules⟩
  · rintro ⟨hstrings, hcodes⟩
    obtain ⟨codes, hfound⟩ := (exists_ignoredCodes_iff arguments).mpr hstrings
    have hall : ∀ code ∈ codes, IsCode code := by
      obtain ⟨-, rfl⟩ | hentry := ignoredCodes_eq_ok_iff.mp hfound
      · exact nofun
      · exact hcodes codes hentry
    obtain ⟨rules, hrules⟩ := exists_eq_map_iff.mpr hall
    exact ⟨rules, bind_eq_ok.mpr ⟨codes, hfound, rulesOf_eq_ok_iff.mpr hrules⟩⟩

theorem fileRules_eq_error_iff (arguments : Arguments) :
    located path (ignoredCodes (entriesOf config .lint) >>= rulesOf) = .error fault ↔
      Breaks config path arguments .ignoreStrings fault ∨
        Condition.ignoreStrings.Holds config arguments ∧
          Breaks config path arguments .ignoreCodes fault := by
  rw [← ignoredCodes_eq_error_iff, ← exists_ignoredCodes_iff]
  simp only [located_eq_error, bind_eq_error, or_and_right, exists_or]
  apply or_congr_right
  constructor
  · rintro ⟨cause, ⟨codes, hcodes, hrules⟩, rfl⟩
    obtain ⟨before, code, after, hcut, hbefore, hcode⟩ := rulesOf_eq_error_iff.mp hrules
    obtain ⟨rfl, hother⟩ := ruleOf_eq_error_iff.mp hcode
    obtain ⟨-, rfl⟩ | hfound := ignoredCodes_eq_ok_iff.mp hcodes
    · simp at hcut
    · exact ⟨⟨codes, hcodes⟩, .unknownCode hfound ⟨before, code, after, hcut, hbefore, rfl⟩ hother⟩
  · rintro ⟨-, h⟩
    cases h with
    | @unknownCode codes code found first other =>
      obtain ⟨before, _, after, hcut, hbefore, rfl⟩ := first
      refine ⟨_, ⟨codes, ignoredCodes_eq_ok_iff.mpr (.inr found), rulesOf_eq_error_iff.mpr ?_⟩, rfl⟩
      exact ⟨before, _, after, hcut, hbefore, ruleOf_eq_error_iff.mpr ⟨rfl, other⟩⟩

/-! ## Strictness and format -/

theorem strictOf_eq_ok_iff {strict : Bool} : strictOf (entriesOf config .lint) = .ok strict ↔
    (valueAt? config .lint "strict" = none ∧ strict = false) ∨
      valueAt? config .lint "strict" = some (.boolean strict) := by
  rw [strictOf, ← valueAt?]
  cases valueAt? config .lint "strict" with
  | none => simp [eq_comm]
  | some value => cases value <;> simp

theorem exists_strictOf_iff (arguments : Arguments) :
    (∃ strict, strictOf (entriesOf config .lint) = .ok strict) ↔
      Condition.strictBoolean.Holds config arguments := by
  simp only [strictOf_eq_ok_iff, Condition.Holds]
  cases valueAt? config .lint "strict" <;> simp

theorem strictOf_eq_error_iff (arguments : Arguments) :
    located path (strictOf (entriesOf config .lint)) = .error fault ↔
      Breaks config path arguments .strictBoolean fault := by
  rw [located_eq_error]
  constructor
  · rintro ⟨cause, hcause, rfl⟩
    rw [strictOf, ← valueAt?] at hcause
    split at hcause
    · cases hcause
    · cases hcause
    · next value hother hfound =>
      obtain rfl := Except.error.inj hcause
      exact .notBoolean hfound hother
  · intro h
    cases h with
    | @notBoolean value found other =>
      refine ⟨.strictNotBoolean, ?_, rfl⟩
      rw [strictOf, ← valueAt?, found]
      cases value with
      | boolean strict => exact absurd rfl (other strict)
      | _ => rfl

theorem formatNamed_eq_ok_iff {name : String} {format : OutputFormat} :
    formatNamed name = .ok format ↔ name = format.name := by
  rw [formatNamed]
  constructor
  · intro h
    cases hname : OutputFormat.ofName? name with
    | none => simp [hname] at h
    | some found =>
      obtain rfl : found = format := by simpa [hname] using h
      have hfound : found.name = name := by simpa using List.find?_some hname
      exact hfound.symm
  · rintro rfl
    rw [OutputFormat.ofName?_name]

theorem formatNamed_eq_error_iff {name : String} : formatNamed name = .error cause ↔
    cause = .unknownFormat name ∧ ∀ format : OutputFormat, name ≠ format.name := by
  simp only [ne_eq, ← formatNamed_eq_ok_iff]
  rw [formatNamed]
  cases OutputFormat.ofName? name <;> simp [eq_comm]

theorem formatOf_eq_ok_iff {format : OutputFormat} :
    formatOf path (entriesOf config .output) = .ok format ↔
      (valueAt? config .output "format" = none ∧ format = .text) ∨
        valueAt? config .output "format" = some (.string format.name) := by
  rw [formatOf, ← valueAt?]
  cases valueAt? config .output "format" with
  | none => simp [eq_comm]
  | some value =>
    cases value with
    | string name => simp [located_eq_ok, formatNamed_eq_ok_iff]
    | _ =>
      dsimp only
      split <;> simp

theorem exists_formatOf_iff (path : Path) (arguments : Arguments) :
    (∃ format, formatOf path (entriesOf config .output) = .ok format) ↔
      Condition.fileFormat.Holds config arguments := by
  simp only [formatOf_eq_ok_iff, Condition.Holds]
  cases valueAt? config .output "format" <;> simp

theorem formatOf_eq_error_iff (arguments : Arguments) :
    formatOf path (entriesOf config .output) = .error fault ↔
      Breaks config path arguments .fileFormat fault := by
  constructor
  · intro h
    rw [formatOf, ← valueAt?] at h
    split at h
    · cases h
    · next name hfound =>
      obtain ⟨cause, hcause, rfl⟩ := located_eq_error.mp h
      obtain ⟨rfl, hother⟩ := formatNamed_eq_error_iff.mp hcause
      exact .unknownFormat hfound (by simpa using hother) rfl
    · next value hother hfound =>
      split at h
      · next hlong =>
        obtain rfl := Except.error.inj h
        exact .longFormat hfound hlong
      · next hshort =>
        obtain rfl := Except.error.inj h
        exact .unknownFormat hfound (fun format => hother _) (Bool.eq_false_of_not_eq_true hshort)
  · intro h
    cases h with
    | @unknownFormat value found other short =>
      rw [formatOf, ← valueAt?, found]
      cases value with
      | string name =>
        exact located_eq_error.mpr
          ⟨_, formatNamed_eq_error_iff.mpr ⟨rfl, by simpa using other⟩, rfl⟩
      | _ => exact if_neg (Bool.eq_false_iff.mp short)
    | @longFormat value found long =>
      rw [formatOf, ← valueAt?, found]
      cases value with
      | string name => cases long
      | _ => exact if_pos long

theorem formatGiven_eq_ok_iff {given : Given} {format : OutputFormat} :
    formatGiven given = .ok format ↔ given = .text format.name := by
  cases given <;> simp [formatGiven, formatNamed_eq_ok_iff]

theorem formatGiven_eq_error_iff {given : Given} : formatGiven given = .error cause ↔
    cause = .unknownFormat (shown given) ∧ ∀ format : OutputFormat, given ≠ .text format.name := by
  cases given with
  | nothing => simp [formatGiven, shown, eq_comm]
  | text name => simp [formatGiven, formatNamed_eq_error_iff, shown]

/-- The format of a run, given the one of the configuration. -/
theorem format_eq_ok_iff {found format : OutputFormat} :
    (arguments.format.map formatGiven).getD (.ok found) = .ok format ↔
      arguments.format = some (.text format.name) ∨ arguments.format = none ∧ format = found := by
  cases arguments.format with
  | none => simp [eq_comm]
  | some given => simp [formatGiven_eq_ok_iff]

theorem exists_format_iff (config : Toml.Table) (found : OutputFormat) :
    (∃ format, (arguments.format.map formatGiven).getD (.ok found) = .ok format) ↔
      Condition.givenFormat.Holds config arguments := by
  simp only [format_eq_ok_iff, Condition.Holds]
  cases arguments.format <;> simp

theorem format_eq_error_iff (config : Toml.Table) (path : Path) (found : OutputFormat) :
    located none ((arguments.format.map formatGiven).getD (.ok found)) = .error fault ↔
      Breaks config path arguments .givenFormat fault := by
  rw [located_eq_error]
  constructor
  · rintro ⟨cause, hcause, rfl⟩
    cases hformat : arguments.format with
    | none => simp [hformat] at hcause
    | some given =>
      obtain ⟨rfl, hother⟩ : cause = .unknownFormat (shown given) ∧ _ :=
        formatGiven_eq_error_iff.mp (by simpa [hformat] using hcause)
      exact .unknownFormatGiven hformat hother
  · intro h
    cases h with
    | @unknownFormatGiven given asked other =>
      exact ⟨_, by simpa [asked] using formatGiven_eq_error_iff.mpr ⟨rfl, other⟩, rfl⟩

/-! ## All checks -/

/-- What is reported is what the first condition reports that does not hold. -/
theorem merge_eq_error_iff : merge config path arguments = .error fault ↔
    FirstAmong (·.Holds config arguments) (Breaks config path arguments · fault) Condition.all := by
  simp only [merge, bind_eq_error, located_eq_ok, sectionOf_eq_ok_iff arguments, pure, Except.pure,
    reduceCtorEq, and_false, exists_false, or_false, and_assoc, exists_and_left, exists_eq_left]
  simp only [exists_and_right, sectionOf_eq_error_iff arguments, fileRules_eq_error_iff arguments,
    exists_fileRules_iff arguments, rulesGiven_ignore_eq_error_iff config path,
    exists_rulesGiven_iff config, strictOf_eq_error_iff arguments, exists_strictOf_iff arguments,
    formatOf_eq_error_iff arguments, exists_formatOf_iff path arguments,
    format_eq_error_iff config path]
  simp only [Condition.all, Condition.beforeFormat, Condition.beforeFound, Condition.beforeGiven,
    List.cons_append, List.nil_append, firstAmong_cons_iff, not_firstAmong_nil, and_false, or_false]
  simp only [or_assoc, and_assoc, ← and_or_left]

/-- The options are made of what the checks find. -/
theorem merge_eq_ok_iff {options : Options} : merge config path arguments = .ok options ↔
    (Condition.table .lint).Holds config arguments ∧
    (Condition.table .output).Holds config arguments ∧
    ∃ fileRules, (ignoredCodes (entriesOf config .lint) >>= rulesOf) = .ok fileRules ∧
    ∃ rules, rulesGiven arguments.ignore = .ok rules ∧
    ∃ strict, strictOf (entriesOf config .lint) = .ok strict ∧
    ∃ found, formatOf path (entriesOf config .output) = .ok found ∧
    ∃ format, (arguments.format.map formatGiven).getD (.ok found) = .ok format ∧
      (⟨(arguments.first :: arguments.others).map Path.ofString, fileRules ++ rules, format,
        strict || arguments.strict, arguments.tokens, arguments.watch⟩ : Options) = options := by
  simp only [merge, bind_eq_ok, located_eq_ok, sectionOf_eq_ok_iff arguments, pure, Except.pure,
    Except.ok.injEq, and_assoc, exists_and_left, exists_eq_left]

theorem exists_merge_iff : (∃ options, merge config path arguments = .ok options) ↔
    ∀ condition : Condition, condition.Holds config arguments := by
  simp only [merge_eq_ok_iff]
  constructor
  · rintro ⟨options, hlint, houtput, fileRules, hfileRules, rules, hrules, strict, hstrict, found,
      hfound, format, hformat, -⟩ condition
    have hcodes := (exists_fileRules_iff arguments).mp ⟨fileRules, hfileRules⟩
    cases condition with
    | table part => cases part with
      | lint => exact hlint
      | output => exact houtput
    | ignoreStrings => exact hcodes.1
    | ignoreCodes => exact hcodes.2
    | givenCodes => exact (exists_rulesGiven_iff config).mp ⟨rules, hrules⟩
    | strictBoolean => exact (exists_strictOf_iff arguments).mp ⟨strict, hstrict⟩
    | fileFormat => exact (exists_formatOf_iff path arguments).mp ⟨found, hfound⟩
    | givenFormat => exact (exists_format_iff config found).mp ⟨format, hformat⟩
  · intro h
    obtain ⟨fileRules, hfileRules⟩ :=
      (exists_fileRules_iff arguments).mpr ⟨h .ignoreStrings, h .ignoreCodes⟩
    obtain ⟨rules, hrules⟩ := (exists_rulesGiven_iff config).mpr (h .givenCodes)
    obtain ⟨strict, hstrict⟩ := (exists_strictOf_iff arguments).mpr (h .strictBoolean)
    obtain ⟨found, hfound⟩ := (exists_formatOf_iff path arguments).mpr (h .fileFormat)
    obtain ⟨format, hformat⟩ := (exists_format_iff config found).mpr (h .givenFormat)
    exact ⟨_, h (.table .lint), h (.table .output), fileRules, hfileRules, rules, hrules, strict,
      hstrict, found, hfound, format, hformat, rfl⟩

theorem code_injective : Function.Injective Rule.code := fun r s h => by
  rw [← Option.some.injEq, ← Rule.ofCode?_code r, h, Rule.ofCode?_code]

/-- Rules that the configuration tells to ignore are those whose codes it lists. -/
theorem mem_fileRules_iff {rules : List Rule} {rule : Rule}
    (h : (ignoredCodes (entriesOf config .lint) >>= rulesOf) = .ok rules) : rule ∈ rules ↔
      ∃ codes : List String, valueAt? config .lint "ignore" = some (.array (codes.map .string)) ∧
        rule.code ∈ codes := by
  obtain ⟨hentry, rfl⟩ | hentry := fileRules_eq_ok_iff.mp h
  · simp [hentry]
  · have hvalues : Function.Injective (List.map Toml.Value.string) :=
      List.map_injective_iff.mpr fun _ _ => Toml.Value.string.inj
    rw [hentry, ← List.mem_map_of_injective code_injective]
    constructor
    · intro hrule
      exact ⟨_, rfl, hrule⟩
    · rintro ⟨codes, hcodes, hrule⟩
      rw [Option.some.injEq, Toml.Value.array.injEq] at hcodes
      exact hvalues hcodes ▸ hrule

theorem merged_of_merge {options : Options} (h : merge config path arguments = .ok options) :
    Merged config arguments options := by
  obtain ⟨-, -, fileRules, hfileRules, rules, hrules, strict, hstrict, found, hfound, format,
    hformat, rfl⟩ := merge_eq_ok_iff.mp h
  rw [format_eq_ok_iff] at hformat
  rw [strictOf_eq_ok_iff] at hstrict
  rw [formatOf_eq_ok_iff] at hfound
  rw [rulesGiven_eq_ok_iff] at hrules
  refine ⟨fun rule => ?_, ?_, ?_, ?_, ?_, rfl, rfl, rfl⟩
  · have hgiven : Function.Injective fun rule : Rule => Given.text rule.code :=
      fun r s h => code_injective (Given.text.inj h)
    rw [List.mem_append, mem_fileRules_iff hfileRules, hrules, ← List.mem_map_of_injective hgiven]
  · obtain ⟨hnone, rfl⟩ | hsome := hstrict
    · simp [hnone]
    · simp [hsome]
  · obtain hsome | ⟨hnone, -⟩ := hformat
    · simp [hsome]
    · simp [hnone]
  · intro hnone
    obtain hsome | ⟨-, rfl⟩ := hformat
    · simp [hsome] at hnone
    · obtain ⟨hentry, -⟩ | hentry := hfound
      · simp [hentry]
      · simp [hentry]
  · intro hnone hentry
    obtain hsome | ⟨-, rfl⟩ := hformat
    · simp [hsome] at hnone
    · obtain ⟨-, rfl⟩ | hsome := hfound
      · rfl
      · simp [hentry] at hsome

theorem Breaks.path_eq {condition : Condition} {error : ConfigError}
    (h : Breaks config path arguments condition (.config error)) :
    error.path = if condition.inFile then some path else none := by
  cases h <;> rfl

section WithChoices

variable {condition : Condition} (format : Option Given) (strict : Bool)

/-- Only the last condition is about the format which the command line gives. -/
theorem Condition.Holds.with_choices (h : condition.Holds config arguments)
    (hne : condition ≠ .givenFormat) :
    condition.Holds config { arguments with format, strict } := by
  cases condition with
  | givenFormat => exact absurd rfl hne
  | _ => exact h

theorem Breaks.with_choices (h : Breaks config path arguments condition fault)
    (hne : condition ≠ .givenFormat) :
    Breaks config path { arguments with format, strict } condition fault := by
  cases h with
  | notTable found other => exact .notTable found other
  | notStrings found other => exact .notStrings found other
  | unknownCode found first other => exact .unknownCode found first other
  | unknownGiven first other => exact .unknownGiven first other
  | nothingGiven first => exact .nothingGiven first
  | notBoolean found other => exact .notBoolean found other
  | unknownFormat found other short => exact .unknownFormat found other short
  | longFormat found long => exact .longFormat found long
  | unknownFormatGiven => exact absurd rfl hne

/-- What the command line says about strictness and the format hides no fault of the configuration.
-/
theorem merge_with_choices {error : ConfigError} (hpath : error.path = some path)
    (h : merge config path arguments = .error (.config error)) :
    merge config path { arguments with format, strict } = .error (.config error) := by
  have hne : ∀ condition ∈ Condition.beforeFormat, condition ≠ .givenFormat := by decide
  rw [merge_eq_error_iff, Condition.all, firstAmong_append_iff] at h ⊢
  obtain ⟨before, condition, after, hcut, hbefore, hbreaks⟩ | ⟨-, hlast⟩ := h
  · rw [hcut] at hne
    refine .inl ⟨before, condition, after, hcut, fun other hother => ?_, ?_⟩
    · exact (hbefore other hother).with_choices format strict (hne other (by simp [hother]))
    · exact hbreaks.with_choices format strict (hne condition (by simp))
  · have hnone : error.path = none := by
      rw [firstAmong_cons_iff] at hlast
      obtain hbreaks | ⟨-, hnil⟩ := hlast
      · exact hbreaks.path_eq
      · exact absurd hnil not_firstAmong_nil
    rw [hnone] at hpath
    cases hpath

end WithChoices

/-- Nothing is reported where the command line gives nothing for a rule, and where the format of the
configuration cannot be shown. -/
theorem breaks_breakdown_iff {condition : Condition} {breakdown : Breakdown} :
    Breaks config path arguments condition (.breakdown breakdown) ↔
      (condition = .givenCodes ∧ breakdown = .noCode ∧
        FirstAmong GivesCode (· = .nothing) arguments.ignore) ∨
      (condition = .fileFormat ∧ breakdown = .probe .longValue ∧
        ∃ value, valueAt? config .output "format" = some value ∧ value.hasLong = true) := by
  constructor
  · intro h
    cases h with
    | nothingGiven first => exact .inl ⟨rfl, rfl, first⟩
    | longFormat found long => exact .inr ⟨rfl, rfl, _, found, long⟩
  · rintro (⟨rfl, rfl, first⟩ | ⟨rfl, rfl, value, found, long⟩)
    · exact .nothingGiven first
    · exact .longFormat found long

/-- Where putting options together breaks down. -/
theorem merge_eq_breakdown_iff {breakdown : Breakdown} :
    merge config path arguments = .error (.breakdown breakdown) ↔
      (breakdown = .noCode ∧ FirstAmong GivesCode (· = .nothing) arguments.ignore ∧
        ∀ condition ∈ Condition.beforeGiven, condition.Holds config arguments) ∨
      (breakdown = .probe .longValue ∧
        (∃ value, valueAt? config .output "format" = some value ∧ value.hasLong = true) ∧
        ∀ condition ∈ Condition.beforeFound, condition.Holds config arguments) := by
  simp only [merge_eq_error_iff, breaks_breakdown_iff, Condition.all, Condition.beforeFormat,
    Condition.beforeFound, Condition.beforeGiven, List.cons_append, List.nil_append,
    firstAmong_cons_iff, not_firstAmong_nil, List.forall_mem_cons, reduceCtorEq, false_and,
    false_or, or_false, true_and, and_false, List.not_mem_nil]
  constructor
  · rintro ⟨hlint, houtput, hstrings, hcodes, ⟨rfl, hfirst⟩ | ⟨hgiven, hstrict, rfl, hlong⟩⟩
    · exact .inl ⟨rfl, hfirst, hlint, houtput, hstrings, hcodes, nofun⟩
    · exact .inr ⟨rfl, hlong, hlint, houtput, hstrings, hcodes, hgiven, hstrict, nofun⟩
  · rintro (⟨rfl, hfirst, hlint, houtput, hstrings, hcodes, -⟩ |
      ⟨rfl, hlong, hlint, houtput, hstrings, hcodes, hgiven, hstrict, -⟩)
    · exact ⟨hlint, houtput, hstrings, hcodes, .inl ⟨rfl, hfirst⟩⟩
    · exact ⟨hlint, houtput, hstrings, hcodes, .inr ⟨hgiven, hstrict, rfl, hlong⟩⟩

/-- Options come out exactly if all conditions hold, and they take up both sources. Otherwise the
first condition that does not hold is reported: a fault of the configuration with its path whatever
the command line says about strictness and the format, and a fault of the command line without a
path. Only where the command line gives nothing for a rule, or the format of the configuration
cannot be shown, does the report say neither. -/
theorem merge_checked (config : Toml.Table) (path : Path) (arguments : Arguments) :
    ((∃ options, merge config path arguments = .ok options) ↔
      ∀ condition : Condition, condition.Holds config arguments) ∧
    (∀ options, merge config path arguments = .ok options → Merged config arguments options) ∧
    (∀ fault, merge config path arguments = .error fault ↔ FirstAmong (·.Holds config arguments)
      (Breaks config path arguments · fault) Condition.all) ∧
    (∀ condition error, Breaks config path arguments condition (.config error) →
      error.path = if condition.inFile then some path else none) ∧
    (∀ error format strict, error.path = some path →
      merge config path arguments = .error (.config error) →
      merge config path { arguments with format, strict } = .error (.config error)) ∧
    ((∀ given ∈ arguments.ignore, given ≠ .nothing) →
      (∀ value ∈ valueAt? config .output "format", value.hasLong = false) → ∀ fault,
      merge config path arguments = .error fault → ∃ error, fault = .config error) ∧
    ∀ disk, findConfig disk arguments = .ok config →
      resolve disk arguments = merge config arguments.configPath arguments := by
  refine ⟨exists_merge_iff, fun _ => merged_of_merge, fun _ => merge_eq_error_iff,
    fun _ _ => Breaks.path_eq, fun _ format strict => merge_with_choices format strict,
    fun hgiven hshort fault h => ?_, fun disk h => ?_⟩
  · cases fault with
    | config error => exact ⟨error, rfl⟩
    | breakdown breakdown =>
      obtain ⟨-, ⟨before, value, after, hcut, -, rfl⟩, -⟩ | ⟨-, ⟨value, hfound, hlong⟩, -⟩ :=
        merge_eq_breakdown_iff.mp h
      · exact absurd rfl (hgiven .nothing (by simp [hcut]))
      · simp [hshort value hfound] at hlong
  · rw [resolve, h]
    rfl

/-- A format that is no text is reported although the command line asks for another one. -/
theorem merge_checked_overridden :
    merge [("output", .table [("format", .boolean true)])] ⟨.relative, [configName]⟩
        ⟨⟨none, [], some (.text "json"), true, false, false⟩, "a.scad", []⟩ =
      .error (.config ⟨.unknownFormat "True", some ⟨.relative, [configName]⟩⟩) := by
  have h : merge [("output", .table [("format", .boolean true)])] ⟨.relative, [configName]⟩
        ⟨⟨none, [], none, false, false, false⟩, "a.scad", []⟩ =
      .error (.config ⟨.unknownFormat "True", some ⟨.relative, [configName]⟩⟩) := rfl
  obtain ⟨-, -, -, -, hflags, -⟩ := merge_checked [("output", .table [("format", .boolean true)])]
    ⟨.relative, [configName]⟩ ⟨⟨none, [], none, false, false, false⟩, "a.scad", []⟩
  exact hflags _ (some (.text "json")) true rfl h

/-- Two hyphens attached to the switch give nothing for a rule, and no fault is reported. -/
theorem merge_of_nothing_given :
    Request.ofTexts ["a.scad", "--ignore=--"] =
        .ok (.run ⟨⟨none, [.nothing], none, false, false, false⟩, "a.scad", []⟩) ∧
      merge [] ⟨.relative, [configName]⟩
          ⟨⟨none, [.nothing], none, false, false, false⟩, "a.scad", []⟩ =
        .error (.breakdown .noCode) ∧
      ∀ error, merge [] ⟨.relative, [configName]⟩
          ⟨⟨none, [.nothing], none, false, false, false⟩, "a.scad", []⟩ ≠
        .error (.config error) :=
  ⟨by decide +kernel, rfl, nofun⟩

end ScadText.Options
