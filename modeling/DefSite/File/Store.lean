import DefSite.Fault

/-!
# Files

A store holds files and directories by the names that lead to them from the top, and says where the
working directory is.  `FileStore.read` follows a path name part by part, from the top or from the
working directory: what a part is looked up in has to be a directory, and `..` leads back up.  The
top is above itself, and a path that starts with two slashes starts at the top like any other.
-/

namespace DefSite

/-- What stands at a place in the store. -/
inductive FileEntry where
  | file (bytes : List UInt8)
  | directory
  deriving DecidableEq, Repr, Inhabited

/-- Files and directories by the names that lead to them, and the working directory. -/
structure FileStore where
  working : List String
  entries : List (List String × FileEntry)
  deriving Inhabited

namespace FileStore

def empty : FileStore :=
  ⟨[], []⟩

/-- What stands at a place; the working directory and all above it are directories. -/
def get? (s : FileStore) (names : List String) : Option FileEntry :=
  if names <+: s.working then some .directory else s.entries.lookup names

/-- Where a part leads to from a place. -/
def step (names : List String) (part : String) : List String :=
  if part = ".." then names.dropLast else names ++ [part]

/-- Where a path name starts. -/
def start (s : FileStore) : PathRoot → List String
  | .relative => s.working
  | .slash | .doubleSlash => []

/-- The place that a path name is for. -/
def place (s : FileStore) (path : PathName) : List String :=
  path.parts.foldl step (s.start path.root)

/-- The place that parts lead to if each is looked up in a directory; `path` is what faults name. -/
def walk (s : FileStore) (path : PathName) :
    List String → List String → Except Fault (List String)
  | here, [] => .ok here
  | here, part :: parts =>
    match s.get? here with
    | none => .error (.noSuchFile path)
    | some (.file _) => .error (.notDirectory path)
    | some .directory => s.walk path (step here part) parts

def read (s : FileStore) (path : PathName) : Except Fault (List UInt8) := do
  match s.get? (← s.walk path (s.start path.root) path.parts) with
  | none => throw (.noSuchFile path)
  | some .directory => throw (.isDirectory path)
  | some (.file bytes) => return bytes

/-- The places above a place, the top not counted. -/
def above (names : List String) : List (List String) :=
  (List.range names.length).tail.map names.take

/-- Puts an entry at a path, with the directories above it. -/
def write (s : FileStore) (path : PathName) (e : FileEntry) : FileStore :=
  let place := s.place path
  let missing := (above place).filter fun names => (s.get? names).isNone
  { s with entries := (place, e) :: missing.map (·, .directory) ++
      s.entries.filter fun x => x.1 ≠ place }

/-- Removes what stands at a path and everything below it. -/
def delete (s : FileStore) (path : PathName) : FileStore :=
  { s with entries := s.entries.filter fun x => !(s.place path).isPrefixOf x.1 }

/-! ## What stands where after a change -/

variable {s : FileStore} {path : PathName}

theorem lookup_filter (p : List String → Bool) (names : List String)
    (es : List (List String × FileEntry)) :
    (es.filter fun e => p e.1).lookup names = if p names then es.lookup names else none := by
  induction es with
  | nil => simp
  | cons e es ih =>
    obtain ⟨k, x⟩ := e
    by_cases hk : names = k
    · subst hk
      cases hp : p names <;> simp [hp, ih]
    · have hb : (names == k) = false := beq_eq_false_iff_ne.mpr hk
      cases hp : p k <;> simp [List.lookup_cons, hp, hb, ih]

theorem get?_write_self (e : FileEntry) (h : ¬ s.place path <+: s.working) :
    (s.write path e).get? (s.place path) = some e := by
  simp [get?, write, h]

/-- Deleting removes what is below the path and nothing else. -/
theorem get?_delete {names : List String} (h : ¬ names <+: s.working) :
    (s.delete path).get? names =
      if s.place path <+: names then none else s.get? names := by
  simp only [get?, delete, if_neg h]
  rw [lookup_filter fun k => !(s.place path).isPrefixOf k]
  by_cases hp : s.place path <+: names
  · simp [hp, h, List.isPrefixOf_iff_prefix.mpr hp]
  · have : (s.place path).isPrefixOf names = false :=
      Bool.eq_false_iff.mpr fun e => hp (List.isPrefixOf_iff_prefix.mp e)
    simp [hp, h, this]

/-! ## What was written can be read -/

theorem foldl_step {here parts : List String} (h : ".." ∉ parts) :
    parts.foldl step here = here ++ parts := by
  induction parts generalizing here with
  | nil => simp
  | cons part parts ih =>
    have hpart : part ≠ ".." := (List.ne_of_not_mem_cons h).symm
    rw [List.foldl_cons, ih (List.not_mem_of_not_mem_cons h), step, if_neg hpart,
      List.append_assoc, List.singleton_append]

/-- Parts that stay below directories are followed. -/
theorem walk_eq_ok {here parts : List String} (h : ".." ∉ parts)
    (hdirs : ∀ names, here <+: names → names <+: here ++ parts → names ≠ here ++ parts →
      s.get? names = some .directory) :
    s.walk path here parts = .ok (here ++ parts) := by
  induction parts generalizing here with
  | nil => simp [walk]
  | cons part parts ih =>
    have hpart : part ≠ ".." := (List.ne_of_not_mem_cons h).symm
    have hhere : s.get? here = some .directory :=
      hdirs here List.prefix_rfl (List.prefix_append ..) (by simp)
    have hassoc : here ++ [part] ++ parts = here ++ part :: parts := by simp
    rw [walk, hhere]
    dsimp only
    rw [step, if_neg hpart, ih (List.not_mem_of_not_mem_cons h), hassoc]
    intro names hbelow
    rw [hassoc]
    exact hdirs names ((List.prefix_append ..).trans hbelow)

theorem mem_above {names place : List String} (hbelow : names <+: place) (hnil : names ≠ [])
    (hne : names ≠ place) : names ∈ above place := by
  have hlength : names.length < place.length :=
    Nat.lt_of_le_of_ne hbelow.length_le fun e => hne (hbelow.eq_of_length e)
  refine List.mem_map.mpr ⟨names.length, ?_, (List.prefix_iff_eq_take.mp hbelow).symm⟩
  have hpos : names.length ≠ 0 := by simpa using hnil
  rw [List.range_eq_range', List.tail_range', List.mem_range'_1]
  omega

theorem lookup_directories {ls : List (List String)} {es : List (List String × FileEntry)}
    {names : List String} : (ls.map (·, FileEntry.directory) ++ es).lookup names =
      if names ∈ ls then some .directory else es.lookup names := by
  induction ls with
  | nil => simp
  | cons k ls ih =>
    by_cases hk : names = k
    · simp [hk]
    · have hb : (names == k) = false := beq_eq_false_iff_ne.mpr hk
      simp [List.lookup_cons, hk, hb, ih]

/-- Above what was written there are directories, if there were no files. -/
theorem get?_write_above {e : FileEntry} {names : List String} (hbelow : names <+: s.place path)
    (hne : names ≠ s.place path) (hfile : ∀ bytes, s.get? names ≠ some (.file bytes)) :
    (s.write path e).get? names = some .directory := by
  by_cases hworking : names <+: s.working
  · simp [get?, write, hworking]
  have hself : (names == s.place path) = false := beq_eq_false_iff_ne.mpr hne
  have hget : s.get? names = s.entries.lookup names := by rw [get?, if_neg hworking]
  rw [get?, write, if_neg hworking, List.cons_append, List.lookup_cons, hself]
  dsimp only
  rw [lookup_directories]
  cases hentry : s.get? names with
  | none =>
    have hmem : names ∈ above (s.place path) :=
      mem_above hbelow (fun hnil => hworking (hnil ▸ List.nil_prefix)) hne
    simp [List.mem_filter, hmem, hentry]
  | some entry =>
    cases entry with
    | file bytes => exact absurd hentry (hfile bytes)
    | directory =>
      rw [if_neg (by simp [hentry]), lookup_filter fun k => decide (k ≠ s.place path),
        if_pos (by simpa using hne), ← hget, hentry]

/-- A file can be read where it was written, whether the path starts at the top or at the working
directory. -/
theorem read_write {bytes : List UInt8} (hparts : ".." ∉ path.parts)
    (hworking : ¬ s.place path <+: s.working)
    (hfiles : ∀ names, names <+: s.place path → names ≠ s.place path →
      ∀ bytes, s.get? names ≠ some (.file bytes)) :
    (s.write path (.file bytes)).read path = .ok bytes := by
  have hplace : s.start path.root ++ path.parts = s.place path := (foldl_step hparts).symm
  have hwalk : (s.write path (.file bytes)).walk path (s.start path.root) path.parts =
      .ok (s.place path) := by
    rw [walk_eq_ok hparts, hplace]
    intro names _ hbelow hne
    rw [hplace] at hbelow hne
    exact get?_write_above hbelow hne (hfiles names hbelow hne)
  have hself : (s.write path (.file bytes)).get? (s.place path) = some (.file bytes) :=
    get?_write_self _ hworking
  have hstart : (s.write path (.file bytes)).start path.root = s.start path.root := by
    cases path.root <;> rfl
  rw [read, hstart, hwalk]
  simp only [bind, Except.bind, hself]
  rfl

end FileStore

end DefSite
