import ScadText.Toml.Value

/-!
# Building a document from its statements

A document is built as a tree. A header opens a table or adds an element to a list of tables, and an
assignment puts a value below the table of the last header, through the tables which its dotted key
names. Each table remembers how it came to be, since that decides how it may be opened again.

## Main definitions

* `Opening`, `Node`: how a table came to be, and the tree.
* `declare`, `append`, `assign`: what a statement does below a table; none if it may not.
* `within`: the same below the table of a header.
* `Node.value`: the finished tree.
-/

namespace ScadText.Toml

/-- A table is implied by a longer header, declared by a header of its own, or written by the dotted
keys of one section of the document. -/
inductive Opening where
  | implied
  | declared
  | dotted (section_ : Nat)
  deriving DecidableEq, Repr

/-- A value that is closed to all statements, an open table, or a list of tables of which only the
last is open. -/
inductive Node where
  | closed (value : Value)
  | table (opening : Opening) (entries : List (String × Node))
  | tables (elements : List (List (String × Node)))

/-- The entries of a table in the order in which their keys were first written. -/
abbrev Entries := List (String × Node)

namespace Entries

/-- The entries with a node in the place of the one with its key, or at the end. -/
def put (key : String) (node : Node) : Entries → Entries
  | [] => [(key, node)]
  | (name, old) :: rest =>
    if name = key then (key, node) :: rest else (name, old) :: put key node rest

theorem lookup_put_self (key : String) (node : Node) (entries : Entries) :
    (put key node entries).lookup key = some node := by
  induction entries with
  | nil => simp [put]
  | cons entry rest ih =>
    obtain ⟨name, old⟩ := entry
    rw [put]
    split
    · simp
    · next h => simp only [List.lookup_cons, beq_eq_false_iff_ne.mpr (Ne.symm h), ih]

/-- What is done to a table opens it under a key of the entries. A table that does not exist is
implied; of a list of tables the last one is meant. -/
def enter (change : Entries → Option Entries) (key : String) (entries : Entries) :
    Option Entries :=
  match entries.lookup key with
  | none => do return entries.put key (.table .implied (← change []))
  | some (.table opening inner) => do return entries.put key (.table opening (← change inner))
  | some (.tables elements) => do
    let last ← elements.getLast?
    return entries.put key (.tables (elements.dropLast ++ [← change last]))
  | some (.closed _) => none

/-- What is done to the table at a path. -/
def within (change : Entries → Option Entries) : List String → Entries → Option Entries
  | [] => change
  | key :: path => enter (within change path) key

/-- Opens a table by its own header, which is allowed once. -/
def declare (key : String) (entries : Entries) : Option Entries :=
  match entries.lookup key with
  | none => some (entries.put key (.table .declared []))
  | some (.table .implied inner) => some (entries.put key (.table .declared inner))
  | some _ => none

/-- Adds an element to a list of tables, or starts the list. -/
def append (key : String) (entries : Entries) : Option Entries :=
  match entries.lookup key with
  | none => some (entries.put key (.tables [[]]))
  | some (.tables elements) => some (entries.put key (.tables (elements ++ [[]])))
  | some _ => none

/-- Gives a value to a dotted key. The tables on the way are new, implied, or written by dotted keys
of the same section, and the last key is new. -/
def assign (number : Nat) (value : Value) : List String → Entries → Option Entries
  | [], _ => none
  | [key], entries =>
    match entries.lookup key with
    | none => some (entries.put key (.closed value))
    | some _ => none
  | key :: path, entries =>
    match entries.lookup key with
    | none => do return entries.put key (.table (.dotted number) (← assign number value path []))
    | some (.table .implied inner) => do
      return entries.put key (.table (.dotted number) (← assign number value path inner))
    | some (.table (.dotted other) inner) =>
      if other = number then do
        return entries.put key (.table (.dotted number) (← assign number value path inner))
      else none
    | some _ => none

end Entries

/-! ## The finished tree -/

mutual

/-- The value which a tree denotes. -/
def Node.value : Node → Value
  | .closed value => value
  | .table _ entries => .table (entryValues entries)
  | .tables elements => .array (elementValues elements)

def entryValues : List (String × Node) → Table
  | [] => []
  | (key, node) :: rest => (key, node.value) :: entryValues rest

def elementValues : List (List (String × Node)) → List Value
  | [] => []
  | entries :: rest => .table (entryValues entries) :: elementValues rest

end

/-! ## Statements -/

inductive Statement where
  | header (path : List String)
  | element (path : List String)
  | assignment (path : List String) (value : Value)
  deriving Repr

/-- The tree so far, the path of the last header, and the number of the section it started. -/
structure Document where
  entries : Entries
  header : List String
  number : Nat

namespace Document

def empty : Document := ⟨[], [], 0⟩

/-- The document with one more statement; none if the statement is not allowed there. -/
def add (document : Document) : Statement → Option Document
  | .header path => do
    let last ← path.getLast?
    let entries ← Entries.within (Entries.declare last) path.dropLast document.entries
    return ⟨entries, path, document.number + 1⟩
  | .element path => do
    let last ← path.getLast?
    let entries ← Entries.within (Entries.append last) path.dropLast document.entries
    return ⟨entries, path, document.number + 1⟩
  | .assignment path value => do
    let change := Entries.assign document.number value path
    return { document with entries := ← Entries.within change document.header document.entries }

/-- The table which a document denotes. -/
def table (document : Document) : Table := entryValues document.entries

end Document

end ScadText.Toml
