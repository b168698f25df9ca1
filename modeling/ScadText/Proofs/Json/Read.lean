import ScadText.Proofs.Json.Quoted
import ScadText.Proofs.Text.Decimal
import ScadText.Proofs.Text.Span

/-!
# Reading lists of records

A text of JSON is cut into lexemes, with the blanks between them left out, and the lexemes are read
as a list of records. Records hold no other records, so after each lexeme it is settled what may
come next, and no stack is needed. What is JSON but no list of such records is refused, and
so is all that is no JSON.

## Main definitions

* `Lexeme`, `lexemes?`: the lexemes of a text.
* `ofLexemes?`: the records which lexemes stand for.
* `read?`: the records in a text.

## Main statements

* `lexes_block`: items between two brackets are cut as the items are.
* `read?_render`: reading undoes writing, whatever blanks come last.
-/

namespace ScadText.Json

/-! ## Lexemes -/

inductive Mark where
  | openArray | closeArray | openObject | closeObject | colon | comma
  deriving DecidableEq, Repr

inductive Lexeme where
  | mark (mark : Mark)
  | scalar (value : Scalar)
  deriving DecidableEq, Repr

def Mark.ofChar? : Char → Option Mark
  | '[' => some .openArray
  | ']' => some .closeArray
  | '\x7b' => some .openObject
  | '\x7d' => some .closeObject
  | ':' => some .colon
  | ',' => some .comma
  | _ => none

def isBlank (c : Char) : Bool := [' ', '\n', '\r', '\t'].contains c

/-- Whether a character may stand in an integer. -/
def isNumeral (c : Char) : Bool := c.isDigit || c == '-'

/-- The number which digits stand for, without a zero before them. -/
def readNatural? (digits : List Char) : Option Nat :=
  (Text.readNat? digits).filter fun n => digits = Nat.toDigits 10 n

def readInteger? : List Char → Option Int
  | '-' :: digits => (readNatural? digits).map fun n : Nat => -(n : Int)
  | digits => (readNatural? digits).map Int.ofNat

/-- The lexemes of a text. -/
def lexemes? : List Char → Option (List Lexeme)
  | [] => some []
  | c :: cs =>
    if isNumeral c then
      match readInteger? (c :: cs.takeWhile isNumeral) with
      | none => none
      | some value => (lexemes? (cs.dropWhile isNumeral)).map (.scalar (.integer value) :: ·)
    else if c = '"' then
      match readString? cs with
      | none => none
      | some (text, width) => (lexemes? (cs.drop width)).map (.scalar (.text text) :: ·)
    else if isBlank c then lexemes? cs
    else
      match Mark.ofChar? c with
      | none => none
      | some mark => (lexemes? cs).map (.mark mark :: ·)
termination_by text => text.length
decreasing_by
  · exact Nat.lt_succ_of_le (List.dropWhile_sublist _).length_le
  · simp only [List.length_drop, List.length_cons]
    omega
  · simp
  · simp

/-! ## Records -/

mutual

/-- The fields that are left of a record, and the records after it. -/
def fields? : List Lexeme → Option (Record × List Record)
  | .scalar (.text name) :: .mark .colon :: .scalar value :: .mark .comma :: rest =>
    (fields? rest).map fun (fields, records) => ((name, value) :: fields, records)
  | .scalar (.text name) :: .mark .colon :: .scalar value :: .mark .closeObject :: rest =>
    (more? rest).map fun records => ([(name, value)], records)
  | _ => none

/-- The records after a record. -/
def more? : List Lexeme → Option (List Record)
  | [.mark .closeArray] => some []
  | .mark .comma :: rest => records? rest
  | _ => none

/-- One record at least. -/
def records? : List Lexeme → Option (List Record)
  | .mark .openObject :: .mark .closeObject :: rest => (more? rest).map ([] :: ·)
  | .mark .openObject :: rest => (fields? rest).map fun (fields, records) => fields :: records
  | _ => none

end

/-- The records which lexemes stand for. -/
def ofLexemes? : List Lexeme → Option (List Record)
  | [.mark .openArray, .mark .closeArray] => some []
  | .mark .openArray :: rest => records? rest
  | _ => none

/-- The records in a text. -/
def read? (text : List Char) : Option (List Record) := (lexemes? text).bind ofLexemes?

/-! ## Cutting one lexeme -/

variable {s rest : List Char} {c : Char}

/-- No blank starts a lexeme. -/
theorem of_isBlank (h : isBlank c = true) : isNumeral c = false ∧ c ≠ '"' := by
  obtain rfl | rfl | rfl | rfl : c = ' ' ∨ c = '\n' ∨ c = '\r' ∨ c = '\t' := by
    simpa [isBlank] using h
  all_goals decide

theorem lexemes?_blanks (h : ∀ c ∈ s, isBlank c = true) (rest : List Char) :
    lexemes? (s ++ rest) = lexemes? rest := by
  induction s with
  | nil => rfl
  | cons c s ih =>
    obtain ⟨hc, hs⟩ := List.forall_mem_cons.mp h
    obtain ⟨hnumeral, hquote⟩ := of_isBlank hc
    rw [List.cons_append, lexemes?, if_neg (by simp [hnumeral]), if_neg hquote, if_pos hc, ih hs]

theorem lexemes?_newLine (depth : Nat) (rest : List Char) :
    lexemes? (newLine depth ++ rest) = lexemes? rest := by
  apply lexemes?_blanks
  simp [newLine, isBlank]

theorem lexemes?_mark {mark : Mark} (h : Mark.ofChar? c = some mark) (rest : List Char) :
    lexemes? (c :: rest) = (lexemes? rest).map (.mark mark :: ·) := by
  have hother : isNumeral c = false ∧ c ≠ '"' ∧ isBlank c = false := by
    revert h
    fun_cases Mark.ofChar? c <;> rintro ⟨⟩ <;> decide
  rw [lexemes?, if_neg (by simp [hother.1]), if_neg hother.2.1, if_neg (by simp [hother.2.2]), h]

theorem lexemes?_quote (text rest : List Char) :
    lexemes? (quote text ++ rest) = (lexemes? rest).map (.scalar (.text text) :: ·) := by
  have hread := readString?_escapes text rest
  rw [quote, List.cons_append, List.cons_append, List.append_assoc, List.singleton_append, lexemes?,
    if_neg (by decide), if_pos rfl, hread]
  dsimp only
  rw [← List.drop_drop, List.drop_left, List.drop_one, List.tail_cons]

theorem readInteger?_renderInteger (value : Int) :
    readInteger? (renderInteger value) = some value := by
  have hnatural (n : Nat) : readNatural? (Nat.toDigits 10 n) = some n := by
    simp [readNatural?, Text.readNat?_toDigits]
  rw [renderInteger]
  split
  · rw [readInteger?, hnatural, Option.map_some]
    congr 1
    omega
  · have hminus : '-' ∉ Nat.toDigits 10 value.natAbs := Text.notMem_toDigits (by decide) _
    rw [readInteger?.eq_2 _ (by grind), hnatural, Option.map_some]
    congr 1
    exact Int.natAbs_of_nonneg (by omega)

theorem isNumeral_of_mem_renderInteger (value : Int) (h : c ∈ renderInteger value) :
    isNumeral c = true := by
  have hdigits (n : Nat) (h : c ∈ Nat.toDigits 10 n) : isNumeral c = true := by
    simp [isNumeral, Nat.isDigit_of_mem_toDigits (by omega) (Nat.le_refl 10) h]
  rw [renderInteger] at h
  split at h
  · obtain rfl | h := List.mem_cons.mp h
    · rfl
    · exact hdigits _ h
  · exact hdigits _ h

theorem lexemes?_renderInteger (value : Int) (h : ∀ c ∈ rest.head?, isNumeral c = false) :
    lexemes? (renderInteger value ++ rest) =
      (lexemes? rest).map (.scalar (.integer value) :: ·) := by
  have hread := readInteger?_renderInteger value
  have hnumerals : ∀ c ∈ renderInteger value, isNumeral c = true := fun c =>
    isNumeral_of_mem_renderInteger value
  generalize renderInteger value = digits at *
  cases digits with
  | nil => cases hread
  | cons c cs =>
    obtain ⟨hc, hcs⟩ := List.forall_mem_cons.mp hnumerals
    rw [List.cons_append, lexemes?, if_pos hc, Text.takeWhile_append_of_stop hcs h,
      Text.dropWhile_append_of_stop hcs h, hread]

/-! ## Cutting a text -/

/-- The text is cut into these lexemes wherever it stands, unless an integer goes on after it. -/
def Lexes (text : List Char) (lexemes : List Lexeme) : Prop :=
  ∀ rest, (∀ c ∈ rest.head?, isNumeral c = false) →
    lexemes? (text ++ rest) = (lexemes? rest).map (lexemes ++ ·)

theorem Scalar.lexes (value : Scalar) : Lexes value.render [.scalar value] := by
  intro rest hrest
  cases value with
  | text value => exact lexemes?_quote value rest
  | integer value => exact lexemes?_renderInteger value hrest

/-- The lexemes of a field. -/
def fieldLexemes (field : List Char × Scalar) : List Lexeme :=
  [.scalar (.text field.1), .mark .colon, .scalar field.2]

theorem lexes_renderField (field : List Char × Scalar) :
    Lexes (renderField field) (fieldLexemes field) := by
  intro rest hrest
  have hblank : lexemes? (' ' :: (field.2.render ++ rest)) = lexemes? (field.2.render ++ rest) :=
    lexemes?_blanks (List.forall_mem_singleton.mpr rfl) _
  have hcolon : Mark.ofChar? ':' = some .colon := rfl
  rw [renderField, List.append_assoc, lexemes?_quote, List.cons_append, List.cons_append,
    lexemes?_mark hcolon, hblank, field.2.lexes rest hrest]
  simp [fieldLexemes, Function.comp_def]

/-- Lexemes between two marks, with a comma between one item and the next. -/
def group (opening closing : Mark) (items : List (List Lexeme)) : List Lexeme :=
  .mark opening :: [.mark .comma].intercalate items ++ [.mark closing]

variable {α : Type} {f : α → List Char} {g : α → List Lexeme} {items : List α}

theorem intercalate_map_cons_cons {β : Type} (separator : β) (f : α → List β) (x y : α)
    (items : List α) :
    [separator].intercalate ((x :: y :: items).map f) =
      f x ++ separator :: [separator].intercalate ((y :: items).map f) := by
  simp

/-- The first of several items stands in front. -/
theorem exists_intercalate_map_cons {β : Type} (separator : β) (f : α → List β) (x : α)
    (items : List α) : ∃ later, [separator].intercalate ((x :: items).map f) = f x ++ later := by
  cases items with
  | nil => exact ⟨[], by simp⟩
  | cons y items => exact ⟨_, intercalate_map_cons_cons separator f x y items⟩

theorem lexes_items (h : ∀ x ∈ items, Lexes (f x) (g x)) (depth : Nat) :
    Lexes ([','].intercalate (items.map (newLine depth ++ f ·)))
      ([.mark .comma].intercalate (items.map g)) := by
  intro rest hrest
  induction items with
  | nil => simp
  | cons x items ih =>
    obtain ⟨hx, hitems⟩ := List.forall_mem_cons.mp h
    cases items with
    | nil =>
      simp only [List.map_cons, List.map_nil, List.intercalate_singleton, List.append_assoc,
        lexemes?_newLine]
      exact hx rest hrest
    | cons y items =>
      have hcomma : Mark.ofChar? ',' = some .comma := rfl
      have hitem (later : List Char) : lexemes? (f x ++ ',' :: later) =
          (lexemes? later).map (g x ++ .mark .comma :: ·) := by
        rw [hx _ (by rintro c ⟨⟩; rfl), lexemes?_mark hcomma, Option.map_map]
        rfl
      rw [intercalate_map_cons_cons, intercalate_map_cons_cons, List.append_assoc,
        List.append_assoc, lexemes?_newLine, List.cons_append, hitem, ih hitems, Option.map_map]
      simp [Function.comp_def]

theorem block_of_ne_nil {parts : List (List Char)} (h : parts ≠ []) (opening closing : Char)
    (depth : Nat) :
    block opening closing depth parts =
      opening :: [','].intercalate (parts.map (newLine (depth + 1) ++ ·)) ++ newLine depth ++
        [closing] := by
  cases parts with
  | nil => exact absurd rfl h
  | cons part parts => rfl

/-- Items between two brackets are cut as the items are. -/
theorem lexes_block {opening closing : Char} {openingMark closingMark : Mark}
    (hopening : Mark.ofChar? opening = some openingMark)
    (hclosing : Mark.ofChar? closing = some closingMark) (h : ∀ x ∈ items, Lexes (f x) (g x))
    (depth : Nat) :
    Lexes (block opening closing depth (items.map f))
      (group openingMark closingMark (items.map g)) := by
  intro rest _
  by_cases hempty : items = []
  · simp [hempty, block, group, lexemes?_mark hopening, lexemes?_mark hclosing, Function.comp_def]
  · have hclose : lexemes? (newLine depth ++ closing :: rest) =
        (lexemes? rest).map (.mark closingMark :: ·) := by
      rw [lexemes?_newLine, lexemes?_mark hclosing]
    have hitems := lexes_items h (depth + 1) (newLine depth ++ closing :: rest)
      (by rintro c ⟨⟩; rfl)
    rw [hclose, Option.map_map] at hitems
    rw [block_of_ne_nil (by simpa using hempty), List.map_map, List.append_assoc, List.append_assoc,
      List.cons_append, lexemes?_mark hopening, List.singleton_append]
    refine (congrArg (Option.map (.mark openingMark :: ·)) hitems).trans ?_
    simp [group, Function.comp_def]

/-- The lexemes of a record, and of a list of records. -/
def recordLexemes (record : Record) : List Lexeme :=
  group .openObject .closeObject (record.map fieldLexemes)

def recordsLexemes (records : List Record) : List Lexeme :=
  group .openArray .closeArray (records.map recordLexemes)

theorem Record.lexes (record : Record) : Lexes record.render (recordLexemes record) :=
  lexes_block rfl rfl (fun field _ => lexes_renderField field) 1

theorem lexes_render (records : List Record) : Lexes (render records) (recordsLexemes records) :=
  lexes_block rfl rfl (fun record _ => record.lexes) 0

/-! ## Reading records -/

theorem fields?_append (field : List Char × Scalar) (fields : Record) (rest : List Lexeme) :
    fields? ([.mark .comma].intercalate ((field :: fields).map fieldLexemes) ++
      .mark .closeObject :: rest) =
        (more? rest).map fun records => (field :: fields, records) := by
  induction fields generalizing field with
  | nil => simp [fieldLexemes, fields?]
  | cons next fields ih =>
    rw [intercalate_map_cons_cons, List.append_assoc, List.cons_append]
    simp only [fieldLexemes, List.cons_append, List.nil_append]
    rw [fields?, ih, Option.map_map]
    rfl

theorem records?_field (field : List Char × Scalar) (later : List Lexeme) :
    records? (.mark .openObject :: (fieldLexemes field ++ later)) =
      (fields? (fieldLexemes field ++ later)).map fun (fields, records) => fields :: records :=
  rfl

theorem records?_append (record : Record) (rest : List Lexeme) :
    records? (recordLexemes record ++ rest) = (more? rest).map (record :: ·) := by
  cases record with
  | nil => rfl
  | cons field fields =>
    have hfields := fields?_append field fields rest
    obtain ⟨later, hlater⟩ :=
      exists_intercalate_map_cons (.mark .comma) fieldLexemes field fields
    rw [hlater, List.append_assoc] at hfields
    rw [recordLexemes, group, hlater, List.append_assoc, List.cons_append, List.append_assoc,
      List.singleton_append, records?_field, hfields, Option.map_map]
    rfl

theorem records?_items (record : Record) (records : List Record) :
    records? ([.mark .comma].intercalate ((record :: records).map recordLexemes) ++
      [.mark .closeArray]) = some (record :: records) := by
  induction records generalizing record with
  | nil => simp [records?_append, more?]
  | cons next records ih =>
    rw [intercalate_map_cons_cons, List.append_assoc, List.cons_append, records?_append, more?, ih,
      Option.map_some]

theorem ofLexemes?_recordsLexemes (records : List Record) :
    ofLexemes? (recordsLexemes records) = some records := by
  cases records with
  | nil => rfl
  | cons record records =>
    have hrecords := records?_items record records
    obtain ⟨later, hlater⟩ :=
      exists_intercalate_map_cons (.mark .comma) recordLexemes record records
    rw [hlater] at hrecords
    rw [recordsLexemes, group, hlater]
    exact hrecords

/-- Reading undoes writing, whatever blanks come last. -/
theorem read?_render {blanks : List Char} (h : ∀ c ∈ blanks, isBlank c = true)
    (records : List Record) : read? (render records ++ blanks) = some records := by
  have hstop : ∀ c ∈ blanks.head?, isNumeral c = false := fun c hc =>
    (of_isBlank (h c (List.mem_of_mem_head? hc))).1
  have hblanks : lexemes? blanks = some [] := by
    rw [← List.append_nil blanks, lexemes?_blanks h, lexemes?]
  rw [read?, lexes_render records blanks hstop, hblanks, Option.map_some, List.append_nil,
    Option.bind_some, ofLexemes?_recordsLexemes]

end ScadText.Json
