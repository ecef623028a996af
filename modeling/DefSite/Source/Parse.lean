import DefSite.Source.Lexer
import DefSite.Source.Statement

/-!
# From source text to trees

`Source.parse` reads the tree of a text, or says what is wrong with it.  Line ends of other kinds
count as `'\n'`.  All classes of statements, expressions and patterns are read.  Comments are not,
so no types come from them, and neither are the names of characters: an escape by name is a fault.
-/

namespace DefSite.Source

/-- A text whose lines all end with `'\n'`, whatever they ended with. -/
def plainLines : List Char → List Char
  | '\r' :: '\n' :: cs => '\n' :: plainLines cs
  | '\r' :: cs => '\n' :: plainLines cs
  | c :: cs => c :: plainLines cs
  | [] => []

/-- A text whose last line is ended too. -/
def endLastLine (cs : List Char) : List Char :=
  if cs.getLast? = some '\n' then cs else cs ++ ['\n']

/-- The tree of tokens; no node is deeper than `size` tokens. -/
def treeOf (size : Nat) (ts : Tokens) : Except SourceFlaw Node :=
  match (wholeText (40 * (size + 2))).run (.first ts 1) with
  | .ok (n, _) => .ok n
  | .error r => .error r.flaw

/-- The tree of a text of plain lines; `path` is what faults name. -/
def parse (path : PathName) (text : List Char) : Except Fault Node :=
  if text.contains '\x00' then .error .nullCharacter
  else match treeOf text.length (.ofText (endLastLine text)) with
    | .ok n => .ok n
    | .error flaw => .error (.source flaw path)

end DefSite.Source
