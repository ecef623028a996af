import DefSite.File.PathName

/-!
# The journal of a run

What a run does that leaves no other trace: the warnings it gives and how its searches end.
-/

namespace DefSite

inductive Entry where
  | warned (message : String)
  /-- A definition was found for a method on a line of a file. -/
  | matched (method : String) (path : PathName) (line : Int)
  | noDefinition (method : String) (path : PathName)
  /-- The tree of a file was at hand already. -/
  | reused (path : PathName)
  deriving DecidableEq, Repr, Inhabited

namespace Entry

/-- An entry as a line: its severity, where it comes from, and what it says. -/
def line : Entry → String
  | warned message => s!"WARNING gremlin_subjects.env: {message}"
  | matched method path l => s!"DEBUG gremlin_subjects.evaluator: Matched {method} at {path}:{l}"
  | noDefinition method path =>
    s!"DEBUG gremlin_subjects.evaluator: No definition of {method} found in {path}"
  | reused path => s!"DEBUG gremlin_subjects.parser: Reusing parsed tree for {path}"

end Entry

end DefSite
