/-!
# The words and symbols of the OpenSCAD language

Closed tables which the lexer and the checks share. Membership in a table is decided on the whole
word, and the tables of words are disjoint.

## Main definitions

* `keywords`, `builtins`, `specialVariables`: the words with a fixed meaning.
* `operators`, `isSymbol`: the operators, and the alphabet from which they are written.
* `blockKeywords`: the words whose statements may go without a terminator.
-/

namespace ScadText.Vocabulary

/-- Words of the grammar itself. -/
def keywords : List String :=
  ["module", "function", "if", "else", "for", "let", "assert", "echo", "each", "true", "false",
    "undef", "include", "use"]

/-- Modules and functions that come with the language: plane shapes, solids, placement, set
operations, numbers, strings and lists, and tests of a value's type. -/
def builtins : List String :=
  ["circle", "square", "polygon", "text", "projection", "import",
    "sphere", "cube", "cylinder", "polyhedron", "multmatrix", "linear_extrude", "rotate_extrude",
    "surface",
    "translate", "rotate", "scale", "resize", "mirror", "color", "offset", "hull", "minkowski",
    "union", "difference", "intersection", "render", "children",
    "abs", "acos", "asin", "atan", "atan2", "ceil", "cos", "cross", "exp", "floor", "ln", "log",
    "lookup", "max", "min", "norm", "pow", "rands", "round", "sign", "sin", "sqrt", "tan",
    "chr", "concat", "len", "ord", "search", "str", "version", "version_num", "parent_module",
    "is_undef", "is_bool", "is_num", "is_string", "is_list", "is_function"]

/-- Parameters which the engine provides; any other name that starts with a dollar is unknown. -/
def specialVariables : List String :=
  ["$fn", "$fa", "$fs", "$t", "$vpt", "$vpr", "$vpd", "$vpf", "$children", "$preview"]

theorem notMem_of_mem_keywords : ∀ w ∈ keywords, w ∉ builtins ∧ w ∉ specialVariables := by decide

theorem notMem_of_mem_builtins : ∀ w ∈ builtins, w ∉ specialVariables := by decide

/-- Runs of symbol characters that mean something. -/
def operators : List String :=
  ["=", ">", "<", "!", "~", "?", ":", "==", "<=", ">=", "!=", "&&", "||", "++", "--", "+", "-",
    "*", "/", "&", "|", "^", "%", "<<", ">>", ">>>", "+=", "-=", "*=", "/=", "&=", "|=", "^=",
    "%=", "<<=", ">>=", ">>>="]

/-- The alphabet of the operators. -/
def symbolChars : List Char :=
  ['=', '>', '<', '!', '~', '?', ':', '&', '|', '+', '-', '*', '/', '^', '%']

/-- A maximal run of these characters is one lexeme. -/
def isSymbol (c : Char) : Bool := symbolChars.contains c

/-- A line that starts with one of these words may omit the statement terminator. -/
def blockKeywords : List String := ["module", "function", "if", "else", "for"]

/-- Every operator is written in the alphabet of the operators. -/
theorem operators_symbols : ∀ op ∈ operators, op.toList.all isSymbol = true := by decide

end ScadText.Vocabulary
