import DefSite.Fault
import DefSite.Tree.Node

/-!
# Layouts

Rendered source is a list of pieces.  Most are text and line breaks; a break starts a new line
unless nothing has been written before it, so the same layout serves at the start of a text and
after other lines.  The text of a layout (`Layout.toString`) is what is written from the last
restart on.

A comment that states a type may be overruled by the module that the statement is in, which lists
lines whose types are ignored.  That holds while the module's list is in force: a module that ends
takes back its own list and any other, so the layout says where lists come into force and go out
of it.

`Level` orders the kinds of expression by how tightly they bind, and `Place` tells what surrounds a
node: the level that its parent demands, square brackets, the `else` that an `if` continues, or the
formatted string that it is a part of.  `Manner` is what nodes hand down besides: how deep they are
indented, and how strings and handlers are to be written in them.
-/

namespace DefSite.Render

open Text

/-- How tightly an expression binds, loosest first. -/
inductive Level where
  | named | tuple | yield | test | or | and | not | cmp | expr | bxor | band | shift | arith | term
  | factor | power | await | atom
  deriving DecidableEq, Repr, Inhabited

namespace Level

def rank (l : Level) : Nat :=
  l.ctorIdx

/-- The next tighter level; nothing binds tighter than an atom. -/
def next : Level → Level
  | named => tuple | tuple => yield | yield => test | test => or | or => and | and => not
  | not => cmp | cmp => expr | expr => bxor | bxor => band | band => shift | shift => arith
  | arith => term | term => factor | factor => power | power => await | await => atom
  | atom => atom

end Level

/-- What surrounds a node. -/
inductive Place where
  /-- The parent demands an expression of at least this level. -/
  | level (demand : Level)
  /-- The node stands between square brackets, where a tuple needs no parentheses. -/
  | index
  /-- The node is the one statement of an `else`. -/
  | elif
  /-- The node is a part of a formatted string. -/
  | part
  deriving DecidableEq, Repr, Inhabited

/-- The level that a place demands. -/
def Place.demand : Place → Level
  | level l => l
  | index | elif | part => .test

/-- How a node is written, wherever it stands. -/
structure Manner where
  depth : Nat := 0
  /-- Strings are written without backslashes as far as possible. -/
  avoiding : Bool := false
  /-- Handlers are those of exception groups. -/
  starred : Bool := false
  /-- The lines whose types are ignored, and what is said of each; of several the last counts. -/
  ignores : List (Int × String) := []
  deriving DecidableEq, Repr, Inhabited

namespace Manner

def deeper (m : Manner) : Manner :=
  { m with depth := m.depth + 1 }

/-- The manner of an expression in a formatted string, which is written on its own. -/
def embedded : Manner :=
  { avoiding := true }

def inTry (m : Manner) (starred : Bool) : Manner :=
  { m with starred }

def withIgnores (m : Manner) (ignores : List (Int × String)) : Manner :=
  { m with ignores }

@[simp] theorem avoiding_deeper (m : Manner) : m.deeper.avoiding = m.avoiding := rfl

@[simp] theorem avoiding_withIgnores (m : Manner) (ignores : List (Int × String)) :
    (m.withIgnores ignores).avoiding = m.avoiding := rfl

/-- What is said of a line whose type is ignored. -/
def ignored? (m : Manner) (line : Int) : Option String :=
  m.ignores.reverse.lookup line

end Manner

/-- A piece of rendered source. -/
inductive Piece where
  | text (s : String)
  /-- Text of a formatted string before it is quoted. -/
  | raw (s : List CodePoint)
  /-- A new line, unless nothing has been written yet. -/
  | freshLine
  /-- A comment that states a type, if there is one: the statement's own, unless the list in force
  says something else of its line. -/
  | typeComment (own ignored : Option String)
  /-- A list of lines whose types are ignored comes into force, or none is in force any more. -/
  | ignores (inForce : Bool)
  /-- All that was written before is dropped. -/
  | restart
  deriving DecidableEq, Repr, Inhabited

abbrev Layout := List Piece

namespace Layout

/-- The characters of code points; surrogates are none. -/
def characters (cs : List CodePoint) : List Char :=
  cs.map fun c => Char.ofNat c.val

def typeCommentText (inForce : Bool) (own ignored : Option String) : Option String :=
  ((if inForce then ignored else none) <|> own).map (" # type: " ++ ·)

/-- The text of a layout after `started`: whether anything has been written before, and `inForce`:
whether a list of ignored types is in force. -/
def textFrom (started inForce : Bool) : Layout → List Char
  | [] => []
  | .text s :: rest => s.toList ++ textFrom true inForce rest
  | .raw cs :: rest => characters cs ++ textFrom true inForce rest
  | .freshLine :: rest =>
    if started then '\n' :: textFrom true inForce rest else textFrom false inForce rest
  | .typeComment own ignored :: rest =>
    match typeCommentText inForce own ignored with
    | some s => s.toList ++ textFrom true inForce rest
    | none => textFrom started inForce rest
  | .ignores inForce :: rest => textFrom started inForce rest
  | .restart :: rest => textFrom false inForce rest

/-- What counts of a layout: all from the last restart on, and of the rest what is in force. -/
def kept : Layout → Layout
  | [] => []
  | .ignores inForce :: rest => .ignores inForce :: kept rest
  | p :: rest => if .restart ∈ p :: rest then kept rest else p :: rest

def toString (l : Layout) : String :=
  String.ofList (textFrom false false (kept l))

/-- The text of a part of a formatted string. -/
def codePoints (l : Layout) : List CodePoint :=
  l.flatMap fun
    | .text s => Text.codePoints s
    | .raw cs => cs
    | _ => []

/-- What a layout comes to that is written on its own and then copied: a restart ends it, except
for what is in force. -/
def copied : Layout → Layout
  | [] => []
  | .freshLine :: rest => copied rest
  | .ignores inForce :: rest => .ignores inForce :: copied rest
  | p :: rest => go (p :: rest)
where
  go : Layout → Layout
    | [] => []
    | .restart :: rest => rest.filter fun
      | .ignores _ => true
      | _ => false
    | p :: rest => p :: go rest

/-- Whether a layout writes any text. -/
def writes (l : Layout) : Bool :=
  l.any fun
    | .text _ | .raw _ => true
    | _ => false

def word (s : String) : Layout :=
  [.text s]

/-- A line of its own at a depth of indentation, four spaces a step. -/
def line (m : Manner) (s : String) : Layout :=
  [.freshLine, .text (String.ofList (List.replicate (4 * m.depth) ' ') ++ s)]

def joined (sep : String) : List Layout → Layout
  | [] => []
  | [l] => l
  | l :: rest => l ++ word sep ++ joined sep rest

def between (left right : String) (l : Layout) : Layout :=
  word left ++ l ++ word right

/-- A layout in parentheses if the condition holds. -/
def parensIf (c : Bool) (l : Layout) : Layout :=
  if c then between "(" ")" l else l

/-- An expression of level `own`, in parentheses where more is demanded. -/
def enclosed (place : Place) (own : Level) (l : Layout) : Layout :=
  parensIf (decide (own.rank < place.demand.rank)) l

end Layout

end DefSite.Render
