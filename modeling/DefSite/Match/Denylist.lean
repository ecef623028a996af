/-!
# Denylists

Code that was not loaded from a file carries a pseudo-filename.  A denylist tells such names by
their full text or by how they start; either half can be replaced on its own, and an empty list
replaces too.
-/

namespace DefSite

/-- The filenames that never point at readable source. -/
structure Denylist where
  /-- Names denied by their full text. -/
  exact : List String
  /-- Names denied by how they start. -/
  starts : List String
  deriving DecidableEq, Repr, Inhabited

namespace Denylist

/-- Code from strings, from standard input, and frozen into the interpreter. -/
def default : Denylist :=
  ⟨["<string>", "<stdin>"], ["<frozen "]⟩

/-- The default lists, each replaced by the one given, if one is. -/
def replacing (exact starts : Option (List String)) : Denylist :=
  ⟨exact.getD default.exact, starts.getD default.starts⟩

/-- Whether a filename cannot point at readable source. -/
def denies (d : Denylist) (filename : String) : Bool :=
  d.exact.contains filename || d.starts.any fun s => s.toList.isPrefixOf filename.toList

theorem denies_iff {d : Denylist} {filename : String} :
    d.denies filename ↔
      filename ∈ d.exact ∨ ∃ s ∈ d.starts, s.toList <+: filename.toList := by
  simp [denies]

end Denylist

end DefSite
