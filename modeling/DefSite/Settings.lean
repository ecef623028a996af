import DefSite.Fault
import DefSite.File.Store
import DefSite.Match.Denylist
import DefSite.Toml.Document

/-!
# Settings

Settings are read from a project's document, from the table `gremlin-subjects` inside the table
`tool`.  They replace either half of the denylist or neither.  What is absent stays unset; what is
present has to be of the right shape.
-/

namespace DefSite

/-- Settings: the lists that replace those of the default denylist. -/
structure Settings where
  exact : Option (List String)
  starts : Option (List String)
  deriving DecidableEq, Repr, Inhabited

namespace Settings

def unset : Settings :=
  ⟨none, none⟩

def denylist (s : Settings) : Denylist :=
  .replacing s.exact s.starts

/-- The name of the document in the root directory of a project. -/
def documentName : PathName :=
  .ofString "pyproject.toml"

/-- The table under a name; an absent one is empty. -/
def subtable (t : Toml.Entries) (name : String) : Except Fault Toml.Entries :=
  match t.lookup name with
  | none => .ok []
  | some (.table u) => .ok u
  | some v => .error (.notATable v.typeName)

def string? : Toml → Option String
  | .text s => some s
  | _ => none

/-- The list of strings under a name, if there is a value. -/
def strings (t : Toml.Entries) (name : String) : Except Fault (Option (List String)) :=
  match t.lookup name with
  | none => .ok none
  | some (.list items) =>
    match items.mapM string? with
    | some l => .ok (some l)
    | none => .error (.notStrings name (Toml.list items).shown)
  | some v => .error (.notStrings name v.shown)

/-- The settings in a document. -/
def ofDocument (t : Toml.Entries) : Except Fault Settings := do
  let own ← subtable (← subtable t "tool") "gremlin-subjects"
  return ⟨← strings own "source-denylist", ← strings own "source-denylist-prefixes"⟩

/-- The settings of a project, from the bytes of its document. -/
def ofBytes (bytes : List UInt8) : Except Fault Settings := do
  match Text.Utf8.decode bytes with
  | .error cause => throw (.encoding cause)
  | .ok text =>
    match Toml.Document.read text with
    | none => throw .document
    | some t => ofDocument t

/-- The settings of a project, from its files; a project without a document sets nothing. -/
def load (files : FileStore) : Except Fault Settings :=
  match files.read documentName with
  | .error (.noSuchFile _) => .ok unset
  | .error e => .error e
  | .ok bytes => ofBytes bytes

end Settings

end DefSite
