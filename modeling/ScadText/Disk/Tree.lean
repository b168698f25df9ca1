import ScadText.Disk.Basic

/-!
# A tree of files in memory

A tree holds files and directories by their names from the working directory on. Nothing is known
above the working directory except that directories lie there.

## Main definitions

* `Tree.write`, `Tree.touch`, `Tree.delete`: the changes, which keep the directory of everything.
* `Tree.find`: what a path leads to, one name after the other.
* `Tree.disk`: the answers of a tree.
-/

namespace ScadText

/-- A file with its time stamp, or a directory with a count of the changes to its entries. -/
inductive Entry where
  | file (bytes : List UInt8) (stamp : Int)
  | directory (changes : Int)
  deriving DecidableEq, Repr

structure Tree where
  entries : List (List String × Entry)
  deriving DecidableEq, Repr

namespace Tree

/-- A working directory with nothing in it. -/
def empty : Tree := ⟨[([], .directory 0)]⟩

def get? (tree : Tree) (names : List String) : Option Entry := tree.entries.lookup names

/-- The tree with an entry replaced or added. -/
def put (tree : Tree) (names : List String) (entry : Entry) : Tree :=
  ⟨(names, entry) :: tree.entries.filter (·.1 != names)⟩

/-- The tree in which an entry of the directory has come or gone. -/
def bump (tree : Tree) (directory : List String) : Tree :=
  match tree.get? directory with
  | some (.directory changes) => tree.put directory (.directory (changes + 1))
  | _ => tree

/-- The tree in which a directory exists, with all directories above it. -/
def makeDirectories (tree : Tree) (names : List String) : Tree :=
  (List.range (names.length + 1)).foldl
    (fun tree count =>
      let directory := names.take count
      match tree.get? directory with
      | some _ => tree
      | none => (tree.put directory (.directory 0)).bump directory.dropLast)
    tree

/-- The tree with a file, and the directories above it. -/
def write (tree : Tree) (names : List String) (bytes : List UInt8) (stamp : Int) : Tree :=
  let tree := tree.makeDirectories names.dropLast
  match tree.get? names with
  | some _ => tree.put names (.file bytes stamp)
  | none => (tree.put names (.file bytes stamp)).bump names.dropLast

/-- The tree with another stamp on a file. -/
def touch (tree : Tree) (names : List String) (stamp : Int) : Tree :=
  match tree.get? names with
  | some (.file bytes _) => tree.put names (.file bytes stamp)
  | some (.directory _) => tree.put names (.directory stamp)
  | none => tree

/-- The tree without an entry and all below it. -/
def delete (tree : Tree) (names : List String) : Tree :=
  match tree.get? names with
  | none => tree
  | some _ => bump ⟨tree.entries.filter fun entry => !names.isPrefixOf entry.1⟩ names.dropLast

/-- Where a walk stands: at an entry of the tree, or in a directory outside of it. -/
inductive Spot where
  | inside (names : List String)
  | outside
  deriving DecidableEq, Repr

/-- The greatest length of a name in bytes. -/
def maxName : Nat := 255

/-- A path of so many bytes is refused. -/
def pathLimit : Nat := 4096

/-- The entry at a spot; what lies outside is a directory. -/
def entryAt (tree : Tree) : Spot → Except Refusal Entry
  | .outside => .ok (.directory 0)
  | .inside names =>
    match tree.get? names with
    | some entry => .ok entry
    | none => .error .missing

/-- One step of a walk. Outside, only two points lead anywhere. -/
def step (name : String) : Spot → Spot × Bool
  | .outside => (.outside, name == "..")
  | .inside names =>
    if name = ".." then (if names = [] then .outside else .inside names.dropLast, true)
    else (.inside (names ++ [name]), true)

/-- What the names lead to from a spot. Each spot on the way must be a directory before the next
name is looked at. -/
def walk (tree : Tree) (spot : Spot) : List String → Except Refusal Entry
  | [] => tree.entryAt spot
  | name :: rest => do
    match ← tree.entryAt spot with
    | .file _ _ => .error .notDirectory
    | .directory _ =>
      if maxName < name.utf8ByteSize then .error .nameTooLong
      else
        let (next, known) := step name spot
        if known then tree.walk next rest else .error .missing

/-- What a path leads to. -/
def find (tree : Tree) (path : Path) : Except Refusal Entry :=
  if pathLimit ≤ path.render.utf8ByteSize then .error .nameTooLong
  else tree.walk (if path.anchor = .relative then .inside [] else .outside) path.names

/-- The answers of a tree. -/
def disk (tree : Tree) : Disk where
  status path :=
    (tree.find path).map fun
      | .file _ stamp => ⟨true, stamp⟩
      | .directory changes => ⟨false, changes⟩
  read path := do
    match ← tree.find path with
    | .file bytes _ => return bytes
    | .directory _ => .error .isDirectory

end Tree

end ScadText
