/-!
# What an editor needs to know about the language

The marks of comments, the brackets, and the pairs which an editor closes or puts around a
selection.
-/

namespace ScadText.Editor

/-- Two texts that enclose others. -/
structure Enclosing where
  opening : String
  closing : String
  deriving DecidableEq, Repr

structure LanguageConfig where
  lineComment : String
  blockComment : Enclosing
  brackets : List Enclosing
  autoClosingPairs : List Enclosing
  surroundingPairs : List Enclosing
  deriving DecidableEq, Repr

def brackets : List Enclosing := [⟨"\x7b", "\x7d"⟩, ⟨"[", "]"⟩, ⟨"(", ")"⟩]

def quotedPairs : List Enclosing := brackets ++ [⟨"\"", "\""⟩, ⟨"\x27", "\x27"⟩]

/-- The settings of the OpenSCAD language. -/
def openSCAD : LanguageConfig where
  lineComment := "//"
  blockComment := ⟨"/*", "*/"⟩
  brackets := brackets
  autoClosingPairs := quotedPairs
  surroundingPairs := quotedPairs

end ScadText.Editor
