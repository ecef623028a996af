import DefSite.Proofs.Attempt
import DefSite.Source.Library

/-!
# Trees are never out of date

Holdings give out a tree that was parsed before as long as the digest of the file's text is the one
kept beside the tree.  As long as no two texts of a run have one digest, every parse of the run
answers what reading and parsing the file anew would answer at that moment
(`outcome_parse_run`), whatever was edited, parsed or dropped before.

The invariant is `Sound`: each tree at hand is what its reader makes of a text that was read during
the run and has the digest that is kept.  Edits, and parses that fail, leave the trees at hand as
they are, so they keep it, and a parse that succeeds adds a tree of the text that it has just read.
-/

namespace DefSite

variable {δ : Type}

/-! ## Faults of reading -/

section reading

variable {files : FileStore} {path : PathName} {e : Fault}

theorem FileStore.ne_source_of_walk {here parts : List String}
    (h : files.walk path here parts = .error e) (flaw : SourceFlaw) (named : PathName) :
    e ≠ .source flaw named := by
  induction parts generalizing here with
  | nil => cases h
  | cons part parts ih =>
    rw [FileStore.walk] at h
    split at h
    · cases h
      exact Fault.noConfusion
    · cases h
      exact Fault.noConfusion
    · exact ih h

theorem FileStore.ne_source_of_read (h : files.read path = .error e) (flaw : SourceFlaw)
    (named : PathName) : e ≠ .source flaw named := by
  rcases bind_eq_error.mp h with h | ⟨here, -, h⟩
  · exact ne_source_of_walk h flaw named
  · split at h <;> cases h <;> exact Fault.noConfusion

/-- A text that cannot be read has no flaw in its source. -/
theorem FileStore.ne_source_of_textOf (h : files.textOf path = .error e) (flaw : SourceFlaw)
    (named : PathName) : e ≠ .source flaw named := by
  rcases bind_eq_error.mp h with h | ⟨bytes, -, h⟩
  · exact ne_source_of_read h flaw named
  · split at h <;> cases h
    exact Fault.noConfusion

end reading

namespace Reader

/-- What reading and parsing a file anew gives. -/
def afresh (r : Reader δ) (files : FileStore) (path : PathName) : Except Fault Node := do
  r.tree path (← files.textOf path)

/-- No two of the texts have one digest. -/
def Distinguishes (r : Reader δ) (texts : List (List Char)) : Prop :=
  ∀ t ∈ texts, ∀ u ∈ texts, r.digest t = r.digest u → t = u

theorem Distinguishes.mono {r : Reader δ} {texts texts' : List (List Char)}
    (h : r.Distinguishes texts') (hsub : texts ⊆ texts') : r.Distinguishes texts :=
  fun t ht u hu => h t (hsub ht) u (hsub hu)

end Reader

namespace Holdings

/-! ## Runs -/

inductive Event where
  /-- The files become these, by whatever was written, replaced or deleted. -/
  | edit (files : FileStore)
  | parse (path : PathName)
  | clear

/-- Holdings of files none of which was parsed. -/
def ofFiles (files : FileStore) : Holdings δ :=
  ⟨files, [], 0⟩

def Event.filesAfter (files : FileStore) : Event → FileStore
  | edit files' => files'
  | parse _ | clear => files

/-- The text that an event reads, if it reads one. -/
def Event.textRead (files : FileStore) : Event → List (List Char)
  | parse path => (files.textOf path).toOption.toList
  | edit _ | clear => []

def filesAfter (files : FileStore) (es : List Event) : FileStore :=
  es.foldl Event.filesAfter files

/-- The texts that the parses of a run read. -/
def textsRead (files : FileStore) : List Event → List (List Char)
  | [] => []
  | e :: es => e.textRead files ++ textsRead (e.filesAfter files) es

variable [DecidableEq δ]

def step (r : Reader δ) (l : Holdings δ) : Event → Holdings δ
  | .edit files => { l with files }
  | .parse path => (parse r path l).state
  | .clear => l.clear

def run (r : Reader δ) (l : Holdings δ) (es : List Event) : Holdings δ :=
  es.foldl (step r) l

theorem textsRead_append (files : FileStore) (es es' : List Event) :
    textsRead files (es ++ es') =
      textsRead files es ++ textsRead (filesAfter files es) es' := by
  induction es generalizing files with
  | nil => rfl
  | cons e es ih =>
    show _ ++ textsRead _ (es ++ es') = (_ ++ textsRead _ es) ++ _
    rw [ih, List.append_assoc]
    rfl

variable {r : Reader δ} {l : Holdings δ}

theorem files_step (e : Event) : (step r l e).files = e.filesAfter l.files := by
  cases e with
  | edit files => rfl
  | parse path => exact files_parse path l
  | clear => rfl

theorem files_run (es : List Event) : (run r l es).files = filesAfter l.files es := by
  induction es generalizing l with
  | nil => rfl
  | cons e es ih =>
    show (run r (step r l e) es).files = filesAfter (e.filesAfter l.files) es
    rw [ih, files_step]

/-! ## What a parse can do -/

/-- The ways in which a parse goes. -/
inductive ParseCase (r : Reader δ) (path : PathName) (l : Holdings δ) : Parsed (Holdings δ) → Prop
  | unread {e : Fault} (hread : l.files.textOf path = .error e) :
    ParseCase r path l ⟨.error e, false, l⟩
  | atHand {text : List Char} {tree : ParsedTree} (hread : l.files.textOf path = .ok text)
      (hhand : l.atHand? path (r.digest text) = some tree) :
    ParseCase r path l ⟨.ok tree, true, l⟩
  | flawed {text : List Char} {e : Fault} (hread : l.files.textOf path = .ok text)
      (hhand : l.atHand? path (r.digest text) = none) (htree : r.tree path text = .error e) :
    ParseCase r path l ⟨.error e, false, l⟩
  | parsed {text : List Char} {root : Node} (hread : l.files.textOf path = .ok text)
      (hhand : l.atHand? path (r.digest text) = none) (htree : r.tree path text = .ok root) :
    ParseCase r path l ⟨.ok ⟨l.next, root⟩, false,
      { l.shelve ⟨path, r.digest text, ⟨l.next, root⟩⟩ with next := l.next + 1 }⟩

theorem parseCase (r : Reader δ) (path : PathName) (l : Holdings δ) :
    ParseCase r path l (parse r path l) := by
  unfold parse
  split
  · next hread => exact .unread hread
  · next hread =>
    split
    · next hhand => exact .atHand hread hhand
    · next hhand =>
      split
      · next htree => exact .flawed hread hhand htree
      · next htree => exact .parsed hread hhand htree

/-! ## The invariant -/

/-- Each tree at hand is that of one of the texts, of which the digest is kept. -/
def Sound (r : Reader δ) (texts : List (List Char)) (l : Holdings δ) : Prop :=
  ∀ s ∈ l.shelved, ∃ text ∈ texts, r.digest text = s.digest ∧ r.tree s.path text = .ok s.tree.root

omit [DecidableEq δ] in
theorem sound_ofFiles (files : FileStore) : Sound r [] (ofFiles files : Holdings δ) :=
  fun _ hs => absurd hs List.not_mem_nil

namespace Sound

variable {texts texts' : List (List Char)}

omit [DecidableEq δ] in
theorem mono (h : Sound r texts l) (hsub : texts ⊆ texts') : Sound r texts' l := by
  intro s hs
  obtain ⟨text, ht, hd, htree⟩ := h s hs
  exact ⟨text, hsub ht, hd, htree⟩

/-- A parse keeps the invariant once the text that it reads counts. -/
theorem parse (h : Sound r texts l) {path : PathName}
    (hmem : ∀ text, l.files.textOf path = .ok text → text ∈ texts) :
    Sound r texts (Holdings.parse r path l).state := by
  have hcase := parseCase r path l
  generalize Holdings.parse r path l = p at hcase
  cases hcase with
  | unread => exact h
  | atHand => exact h
  | flawed => exact h
  | @parsed text root hread hhand htree =>
    intro s hs
    rcases List.mem_cons.mp hs with rfl | hs
    · exact ⟨text, hmem text hread, rfl, htree⟩
    · exact h s (List.mem_filter.mp hs).1

theorem step (h : Sound r texts l) (e : Event) :
    Sound r (texts ++ e.textRead l.files) (Holdings.step r l e) := by
  cases e with
  | edit files => exact mono h (List.subset_append_left ..)
  | clear => exact fun _ hs => absurd hs List.not_mem_nil
  | parse path =>
    refine parse (mono h (List.subset_append_left ..)) fun text hread => ?_
    refine List.mem_append_right _ ?_
    simp [Event.textRead, hread, Except.toOption]

theorem run (h : Sound r texts l) (es : List Event) :
    Sound r (texts ++ textsRead l.files es) (Holdings.run r l es) := by
  induction es generalizing texts l with
  | nil => exact mono h (List.subset_append_left ..)
  | cons e es ih =>
    have hrest := ih (h.step e)
    rw [files_step, List.append_assoc] at hrest
    exact hrest

/-- What is at hand for a text that counts is its tree. -/
theorem tree_of_atHand (h : Sound r texts l) (hr : r.Distinguishes texts) {path : PathName}
    {text : List Char} {tree : ParsedTree} (ht : text ∈ texts)
    (hhand : l.atHand? path (r.digest text) = some tree) : r.tree path text = .ok tree.root := by
  obtain ⟨s, hs, hsome⟩ := Option.bind_eq_some_iff.mp hhand
  have hpath : s.path = path := by simpa using List.find?_some hs
  split at hsome
  · next hd =>
    cases hsome
    obtain ⟨text', ht', hd', htree⟩ := h s (List.mem_of_find?_eq_some hs)
    rw [← hr text' ht' text ht (hd'.trans hd), ← hpath]
    exact htree
  · cases hsome

/-- With sound holdings, a parse answers what reading and parsing the file anew gives. -/
theorem outcome_parse (h : Sound r texts l) (hr : r.Distinguishes texts) {path : PathName}
    (hmem : ∀ text, l.files.textOf path = .ok text → text ∈ texts) :
    (Holdings.parse r path l).outcome.map (·.root) = r.afresh l.files path := by
  have hcase := parseCase r path l
  generalize Holdings.parse r path l = p at hcase
  unfold Reader.afresh
  cases hcase with
  | unread hread =>
    rw [hread]
    rfl
  | @atHand text tree hread hhand =>
    rw [hread]
    exact (h.tree_of_atHand hr (hmem text hread) hhand).symm
  | flawed hread hhand htree =>
    rw [hread]
    exact htree.symm
  | parsed hread hhand htree =>
    rw [hread]
    exact htree.symm

end Sound

/-! ## Parses of a run -/

/-- A flaw in the text of a file is reported for that file. -/
theorem path_of_parse_flaw {path named : PathName} {flaw : SourceFlaw}
    (h : (parse r path l).outcome = .error (.source flaw named)) : named = path := by
  have hcase := parseCase r path l
  generalize parse r path l = p at hcase h
  cases hcase with
  | unread hread =>
    cases h
    exact absurd rfl (FileStore.ne_source_of_textOf hread flaw named)
  | atHand => cases h
  | flawed hread hhand htree =>
    cases h
    exact r.path_of_flaw htree
  | parsed => cases h

/-- **No tree is out of date.**  After any run of edits, parses and clears, a parse of any file
answers what reading and parsing that file anew gives at that moment, be it a tree or a fault, as
long as no two texts that were read have one digest; a flaw of the source is reported for the file
itself. -/
theorem outcome_parse_run (r : Reader δ) (files : FileStore) (es : List Event) (path : PathName)
    (hr : r.Distinguishes (textsRead files (es ++ [.parse path]))) :
    (parse r path (run r (ofFiles files) es)).outcome.map (·.root) =
        r.afresh (filesAfter files es) path ∧
      ∀ flaw named, (parse r path (run r (ofFiles files) es)).outcome =
        .error (.source flaw named) → named = path := by
  refine ⟨?_, fun flaw named => path_of_parse_flaw⟩
  have hfiles : (run r (ofFiles files) es).files = filesAfter files es := files_run es
  have hsound : Sound r (textsRead files (es ++ [.parse path])) (run r (ofFiles files) es) := by
    refine ((sound_ofFiles files).run es).mono ?_
    rw [textsRead_append]
    exact List.subset_append_left ..
  rw [← hfiles]
  refine hsound.outcome_parse hr fun text hread => ?_
  rw [textsRead_append]
  refine List.mem_append_right _ (List.mem_append_left _ ?_)
  rw [← hfiles]
  simp [Event.textRead, hread, Except.toOption]

/-- Source texts, told apart by their lengths alone. -/
def byLength : Reader Nat :=
  ⟨Source.parse, List.length, Library.reader.path_of_flaw⟩

def onePath : PathName :=
  ⟨.relative, ["a.py"], by decide⟩

/-- A store with one file, `a.py`. -/
def oneFile (bytes : List UInt8) : FileStore :=
  ⟨[], [(onePath.parts, .file bytes)]⟩

/-- The file, which reads `x`, is parsed, changed to `x=y`, parsed, and changed back. -/
def reverting : List Event :=
  [.parse onePath, .edit (oneFile [120, 61, 121]), .parse onePath, .edit (oneFile [120])]

theorem outcome_parse_run_reverting :
    byLength.Distinguishes (textsRead (oneFile [120]) (reverting ++ [.parse onePath])) ∧
      (parse byLength onePath (run byLength (ofFiles (oneFile [120])) reverting)).outcome.map
        (·.root) = byLength.afresh (filesAfter (oneFile [120]) reverting) onePath := by
  have hr : byLength.Distinguishes (textsRead (oneFile [120]) (reverting ++ [.parse onePath])) := by
    unfold Reader.Distinguishes
    decide
  exact ⟨hr, (outcome_parse_run byLength (oneFile [120]) reverting onePath hr).1⟩

end Holdings

end DefSite
