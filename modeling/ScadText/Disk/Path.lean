/-!
# Paths

A path is a list of names below the working directory or below a root. Empty names and single points
say nothing and are left out; two points are kept, since what they mean depends on the disk.

## Main definitions

* `Path`, `Path.ofString`, `Path.render`: paths and their texts.
* `Path.parent`, `Path.child`: one step up and down.
-/

namespace ScadText

/-- What stands before the names: nothing, a slash, or exactly two slashes. -/
inductive Anchor where
  | relative | root | doubleRoot
  deriving DecidableEq, Repr

def Anchor.text : Anchor → String
  | .relative => ""
  | .root => "/"
  | .doubleRoot => "//"

structure Path where
  anchor : Anchor
  names : List String
  deriving DecidableEq, Repr

namespace Path

/-- The stretches of a text between its slashes. -/
def split : List Char → List (List Char)
  | [] => [[]]
  | c :: cs =>
    if c = '/' then [] :: split cs
    else
      match split cs with
      | [] => [[c]]
      | name :: rest => (c :: name) :: rest

/-- Three slashes or more are one. -/
def anchorOf : List Char → Anchor
  | '/' :: '/' :: '/' :: _ => .root
  | '/' :: '/' :: _ => .doubleRoot
  | '/' :: _ => .root
  | _ => .relative

/-- A stretch that names something. -/
def isName (name : List Char) : Bool := !name.isEmpty && name != ['.']

/-- The path which a text denotes. -/
def ofString (text : String) : Path where
  anchor := anchorOf text.toList
  names := ((split text.toList).filter isName).map String.ofList

/-- The text of a path; the working directory is a point. -/
def render (path : Path) : String :=
  if path.anchor = .relative ∧ path.names = [] then "."
  else path.anchor.text ++ "/".intercalate path.names

/-- The path without its last name. -/
def parent (path : Path) : Path := { path with names := path.names.dropLast }

/-- The path with one more name. -/
def child (path : Path) (name : String) : Path := { path with names := path.names ++ [name] }

theorem parent_child (path : Path) (name : String) : (path.child name).parent = path := by
  simp [parent, child]

end Path

end ScadText
