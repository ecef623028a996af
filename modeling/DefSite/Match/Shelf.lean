import DefSite.Match.Setup

/-!
# A shelf of ready trees

A parser that reads nothing: each file has a tree, or a fault, put there beforehand.  It keeps the
paths it was asked for.
-/

namespace DefSite

/-- What a shelf holds, and what it was asked for. -/
structure Shelf where
  files : List (PathName × Except Fault ParsedTree)
  /-- The paths asked for, oldest first. -/
  calls : List PathName
  /-- The identifier of the next tree. -/
  next : Nat

namespace Shelf

def empty : Shelf :=
  ⟨[], [], 0⟩

def remove (s : Shelf) (path : PathName) : Shelf :=
  { s with files := s.files.filter fun f => f.1 ≠ path }

/-- Puts a new tree, or a fault, where a file is. -/
def put (s : Shelf) (path : PathName) (content : Except Fault Node) : Shelf :=
  { s.remove path with
    files := (path, content.map fun n => ⟨s.next, n⟩) :: (s.remove path).files
    next := s.next + 1 }

def parse (path : PathName) (s : Shelf) : Parsed Shelf :=
  ⟨(s.files.lookup path).getD (.error (.noSuchFile path)), false,
    { s with calls := s.calls ++ [path] }⟩

end Shelf

end DefSite
