import DefSite.Fault
import DefSite.Tree.Node

/-!
# Tokens

A source text is a sequence of tokens: names, reserved words, literals and signs, and the layout
that groups lines: the end of a logical line, the start of a deeper block and the end of one.
Tokens know the lines they start and end on.
-/

namespace DefSite.Source

inductive Lexeme where
  | name (s : String)
  | reserved (s : String)
  /-- A number, unless it has too many digits to be read. -/
  | number (value : Option Literal)
  /-- A text or byte literal, unless it has a faulty escape; `marked` ones are prefixed by `u`. -/
  | text (marked : Bool) (value : Option Literal)
  /-- A formatted string: whether its backslashes stand for themselves, and what stands between its
  quotes. -/
  | formatted (raw : Bool) (inside : List Char)
  | sign (s : String)
  /-- The end of a logical line. -/
  | lineEnd
  /-- The start of a block. -/
  | indent
  /-- The end of a block. -/
  | dedent
  /-- The end of the text. -/
  | finish
  deriving DecidableEq, Repr, Inhabited

/-- A token with its lines. -/
structure Token where
  lexeme : Lexeme
  line : Nat
  lastLine : Nat
  deriving DecidableEq, Repr, Inhabited

/-- Why no further token could be read. -/
structure LexFault where
  flaw : SourceFlaw
  /-- Whether the characters themselves are at fault, not only how lines are laid out.  Such a fault
  counts even when the text has been refused before it. -/
  inText : Bool
  deriving DecidableEq, Repr, Inhabited

/-- The tokens of a text up to the first fault; without one they end with `finish`. -/
structure Tokens where
  list : List Token
  fault : Option LexFault
  deriving DecidableEq, Repr, Inhabited

def reservedWords : List String :=
  ["False", "None", "True", "and", "as", "assert", "async", "await", "break", "class", "continue",
    "def", "del", "elif", "else", "except", "finally", "for", "from", "global", "if", "import",
    "in", "is", "lambda", "nonlocal", "not", "or", "pass", "raise", "return", "try", "while",
    "with", "yield"]

/-- The signs of several characters, longer ones before those they begin with. -/
def longSigns : List (List Char) :=
  ["...", "**=", "//=", ">>=", "<<=", "**", "//", "->", "==", "!=", "<>", "<=", ">=", "+=", "-=",
    "*=", "/=", "%=", "&=", "|=", "^=", "@=", ":=", "<<", ">>"].map String.toList

/-- Characters of a text after a sign of several characters at its front, with the sign. -/
def longSign? (cs : List Char) : Option (List Char × List Char) :=
  (longSigns.find? (·.isPrefixOf cs)).map fun s => (s, cs.drop s.length)

end DefSite.Source
