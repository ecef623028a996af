import DefSite.File.Store
import DefSite.Match.Setup
import DefSite.Source.Parse

/-!
# Parsing files once

Holdings are the files of a store and the trees that were parsed from them, each kept with a digest
of the text it was read from.  A tree is given out again as long as its file reads as a text of that
digest; a file that reads differently is parsed anew, and only a tree that was parsed replaces
another.

How texts become trees and how digests are taken is left to a `Reader`.  A `Library` is holdings
whose texts are read by `Source.parse` and are their own digests.
-/

namespace DefSite

/-- How texts become trees, and by what they are told apart. -/
structure Reader (δ : Type) where
  /-- The tree of a text; the path is what faults name. -/
  tree : PathName → List Char → Except Fault Node
  digest : List Char → δ
  path_of_flaw : ∀ {path text flaw named}, tree path text = .error (.source flaw named) →
    named = path

/-- The tree that was parsed last for a file, and the digest of the text it was parsed from. -/
structure Shelved (δ : Type) where
  path : PathName
  digest : δ
  tree : ParsedTree
  deriving Inhabited

/-- Files, and the trees parsed from them. -/
structure Holdings (δ : Type) where
  files : FileStore
  /-- The trees at hand, at most one for each path. -/
  shelved : List (Shelved δ)
  /-- The identifier of the next tree. -/
  next : Nat
  deriving Inhabited

/-- The text of a file, its lines ended alike. -/
def FileStore.textOf (files : FileStore) (path : PathName) : Except Fault (List Char) := do
  match Text.Utf8.decode (← files.read path) with
  | .error cause => throw (.encoding cause)
  | .ok text => return Source.plainLines text

namespace Holdings

variable {δ : Type}

def empty : Holdings δ :=
  ⟨.empty, [], 0⟩

/-- Keeps a tree in place of the one at hand for the path, if there is one. -/
def shelve (l : Holdings δ) (s : Shelved δ) : Holdings δ :=
  { l with shelved := s :: l.shelved.filter (·.path ≠ s.path) }

def clear (l : Holdings δ) : Holdings δ :=
  { l with shelved := [] }

def size (l : Holdings δ) : Nat :=
  l.shelved.length

def write (l : Holdings δ) (path : PathName) (e : FileEntry) : Holdings δ :=
  { l with files := l.files.write path e }

def delete (l : Holdings δ) (path : PathName) : Holdings δ :=
  { l with files := l.files.delete path }

variable [DecidableEq δ]

/-- The tree at hand for a path, if it was parsed from a text of this digest. -/
def atHand? (l : Holdings δ) (path : PathName) (digest : δ) : Option ParsedTree :=
  (l.shelved.find? (·.path = path)).bind fun s => if s.digest = digest then some s.tree else none

/-- The tree of a file: the one at hand if its text still has the digest, else a new one. -/
def parse (r : Reader δ) (path : PathName) (l : Holdings δ) : Parsed (Holdings δ) :=
  match l.files.textOf path with
  | .error e => ⟨.error e, false, l⟩
  | .ok text =>
    match l.atHand? path (r.digest text) with
    | some tree => ⟨.ok tree, true, l⟩
    | none =>
      match r.tree path text with
      | .error e => ⟨.error e, false, l⟩
      | .ok root =>
        let tree : ParsedTree := ⟨l.next, root⟩
        ⟨.ok tree, false, { l.shelve ⟨path, r.digest text, tree⟩ with next := l.next + 1 }⟩

/-! ## What is at hand -/

theorem atHand?_shelve_self (l : Holdings δ) (s : Shelved δ) :
    (l.shelve s).atHand? s.path s.digest = some s.tree := by
  simp [atHand?, shelve]

omit [DecidableEq δ] in
/-- Keeping a tree for one path changes nothing for the others. -/
theorem find?_shelve_of_ne {l : Holdings δ} {s : Shelved δ} {path : PathName}
    (h : path ≠ s.path) :
    (l.shelve s).shelved.find? (·.path = path) = l.shelved.find? (·.path = path) := by
  have hs : ¬ s.path = path := fun e => h e.symm
  have hf : (l.shelved.filter (·.path ≠ s.path)).find? (·.path = path) =
      l.shelved.find? (·.path = path) := by
    rw [List.find?_filter]
    congr 1
    funext t
    by_cases ht : t.path = path <;> simp [ht, h]
  simp only [shelve, List.find?_cons, hs, decide_false, hf]

theorem atHand?_shelve_of_ne {l : Holdings δ} {s : Shelved δ} {path : PathName}
    (h : path ≠ s.path) (digest : δ) :
    (l.shelve s).atHand? path digest = l.atHand? path digest := by
  unfold atHand?
  rw [find?_shelve_of_ne h]

variable {r : Reader δ}

/-- Parsing reads files and changes none. -/
theorem files_parse (path : PathName) (l : Holdings δ) :
    (parse r path l).state.files = l.files := by
  unfold parse
  split
  · rfl
  · split
    · rfl
    · split
      · rfl
      · rfl

/-- A file that cannot be parsed leaves the holdings as they were. -/
theorem state_parse_of_error {path : PathName} {l : Holdings δ} {e : Fault}
    (h : (parse r path l).outcome = .error e) : (parse r path l).state = l := by
  unfold parse at h ⊢
  split
  · rfl
  · split
    · rfl
    · split
      · rfl
      · simp_all

end Holdings

/-- Holdings whose texts are their own digests. -/
abbrev Library := Holdings (List Char)

namespace Library

/-- Texts are read as source. -/
def reader : Reader (List Char) where
  tree := Source.parse
  digest := id
  path_of_flaw {path text flaw named} h := by
    unfold Source.parse at h
    split at h
    · cases h
    · split at h
      · cases h
      · cases h
        rfl

/-- The tree of a file: the one at hand if the file still has the same text, else a new one. -/
def parse : PathName → Library → Parsed Library :=
  Holdings.parse reader

end Library

end DefSite
