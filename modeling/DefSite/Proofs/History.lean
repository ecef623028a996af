import DefSite.Proofs.Endings
import DefSite.Proofs.Freshness

/-!
# Matching does not depend on history

Calls, parses, edits and clears share one world.  What a call answers, and what it reports, is
settled by the file that its method points at and by nothing else that happened before
(`callAfresh_history_independent`).

Calls reach the parser only by parsing that one file, so a run of them is a run of holdings
(`parser_run`) and keeps these sound; and two calls that are given trees with one root end alike
(`alike_of_parseFile`).
-/

namespace DefSite

/-! ## Calls that are given the same tree -/

/-- All of a subject but which of several equal trees its node stands in. -/
def Subject.content (s : Subject) : SubjectKind × Context × Node × Address × SinkId :=
  (s.kind, s.context, s.node, s.origin.address, s.sink)

/-- What an answer holds, trees with one root taken for the same. -/
def contents (answer : Except Fault (List Subject)) :
    Except Fault (List (SubjectKind × Context × Node × Address × SinkId)) :=
  answer.map (·.map Subject.content)

namespace Query

section alike

variable {σ : Type} {q : Query} {setup : Setup σ} {w w' : World σ} {l : Live.Location}

variable (q setup) in
/-- What a call in a world reports. -/
def reports (w : World σ) : List String :=
  (q.ending setup w).diagnostics q

theorem length_reports_le : (q.reports setup w).length ≤ 1 := by
  unfold reports
  cases q.ending setup w <;> simp [Ending.diagnostics]

theorem board_callAfresh :
    (q.callAfresh setup w).2.board =
      (q.reports setup w).foldl (·.append setup.sink ·) w.board := by
  rw [(endsIn_ending q setup w).2]
  exact Ending.board_world _

/-- Calls that are given trees with one root, or the same fault, end alike. -/
theorem alike_of_parseFile
    (h : ∀ l, q.method.location = some l → setup.denies l.file = false →
      (setup.parseFile (setup.pathOf l.file) w).1.map (·.root) =
        (setup.parseFile (setup.pathOf l.file) w').1.map (·.root)) :
    contents (q.callAfresh setup w).1 = contents (q.callAfresh setup w').1 ∧
      q.reports setup w = q.reports setup w' := by
  rw [(endsIn_ending q setup w).2, (endsIn_ending q setup w').2]
  unfold reports ending
  cases hl : q.method.location with
  | none => exact ⟨rfl, rfl⟩
  | some l =>
    dsimp only
    cases hd : setup.denies l.file with
    | true => exact ⟨rfl, rfl⟩
    | false =>
      have hroot := h l hl hd
      cases hp : (setup.parseFile (setup.pathOf l.file) w).1 with
      | error e =>
        cases hp' : (setup.parseFile (setup.pathOf l.file) w').1 with
        | error e' =>
          rw [hp, hp'] at hroot
          cases hroot
          exact ⟨rfl, rfl⟩
        | ok t' =>
          rw [hp, hp'] at hroot
          cases hroot
      | ok t =>
        cases hp' : (setup.parseFile (setup.pathOf l.file) w').1 with
        | error e' =>
          rw [hp, hp'] at hroot
          cases hroot
        | ok t' =>
          rw [hp, hp'] at hroot
          have ht : t.root = t'.root := Except.ok.inj hroot
          simp only [Bool.false_eq_true, ↓reduceIte, ht]
          cases t'.root.findLast q.recognises with
          | error e => exact ⟨rfl, rfl⟩
          | ok o =>
            dsimp only
            cases o.bind fun a => (t'.root.at? a).map fun n => (a, n) with
            | none => exact ⟨rfl, rfl⟩
            | some p =>
              dsimp only
              split
              · exact ⟨rfl, rfl⟩
              · exact ⟨rfl, rfl⟩

end alike

/-! ## Calls as parses -/

section parses

open Holdings (Event)

variable {σ : Type} (q : Query) (setup : Setup σ)

/-- What a call asks of the parser: to parse the method's file, if its source can be read. -/
def events : List Event :=
  match q.method.location with
  | none => []
  | some l => if setup.denies l.file then [] else [.parse (setup.pathOf l.file)]

variable {q setup} {w : World σ} {l : Live.Location}

theorem events_of_unreadable (hu : q.Unreadable setup) : q.events setup = [] := by
  unfold events
  cases hl : q.method.location with
  | none => rfl
  | some l => simp [hu l hl]

theorem events_of_readable (hl : q.method.location = some l) (hd : setup.denies l.file = false) :
    q.events setup = [.parse (setup.pathOf l.file)] := by
  simp [events, hl, hd]

variable (setup w) in
theorem parser_parseFile (path : PathName) :
    (setup.parseFile path w).2.parser = (setup.parse path w.parser).state := by
  unfold Setup.parseFile
  dsimp only
  split <;> rfl

theorem parser_callAfresh_of_readable (hl : q.method.location = some l)
    (hd : setup.denies l.file = false) :
    (q.callAfresh setup w).2.parser = (setup.parse (setup.pathOf l.file) w.parser).state := by
  have hworld := parser_parseFile setup w (setup.pathOf l.file)
  rw [callAfresh_of_readable hl hd]
  rcases hp : setup.parseFile (setup.pathOf l.file) w with ⟨e | t, w'⟩ <;> rw [hp] at hworld
  · exact hworld
  · dsimp only
    cases t.root.findLast q.recognises with
    | error e => exact hworld
    | ok o =>
      dsimp only
      split
      · exact hworld
      · exact hworld

end parses

end Query

/-! ## Runs of a world -/

section runs

open Holdings

variable {δ : Type} [DecidableEq δ]

/-- A setup whose parser keeps holdings. -/
def Reader.setup (r : Reader δ) (pathOf : String → PathName) (denylist : Denylist)
    (sink : SinkId) : Setup (Holdings δ) :=
  ⟨Holdings.parse r, pathOf, denylist, sink⟩

inductive Happening where
  | call (q : Query)
  | event (e : Event)

namespace World

def opening (files : FileStore) (board : Board) : World (Holdings δ) :=
  ⟨ofFiles files, board, []⟩

variable (r : Reader δ) (setup : Setup (Holdings δ))

def happen (w : World (Holdings δ)) : Happening → World (Holdings δ)
  | .call q => (q.callAfresh setup w).2
  | .event (.parse path) => (setup.parseFile path w).2
  | .event e => { w with parser := step r w.parser e }

def run (w : World (Holdings δ)) (hs : List Happening) : World (Holdings δ) :=
  hs.foldl (happen r setup) w

end World

def Happening.events (setup : Setup (Holdings δ)) : Happening → List Event
  | call q => q.events setup
  | event e => [e]

/-- The texts that are read in a run that starts with the files. -/
def textsReadBy (setup : Setup (Holdings δ)) (files : FileStore) (hs : List Happening) :
    List (List Char) :=
  textsRead files (hs.flatMap (·.events setup))

variable {r : Reader δ} {setup : Setup (Holdings δ)} {w : World (Holdings δ)} {q : Query}

/-- Where nothing has happened, the tree of a file is the one that its text reads as. -/
theorem World.parseFile_opening (hparse : setup.parse = Holdings.parse r) {files : FileStore}
    {board : Board} {path : PathName} {text : List Char} {root : Node}
    (htext : files.textOf path = .ok text) (hroot : r.tree path text = .ok root) :
    (setup.parseFile path (.opening files board)).1 = .ok ⟨0, root⟩ := by
  simp [Setup.parseFile, hparse, opening, ofFiles, Holdings.parse, htext, atHand?, hroot]

theorem parser_callAfresh (hparse : setup.parse = Holdings.parse r) :
    (q.callAfresh setup w).2.parser = Holdings.run r w.parser (q.events setup) := by
  by_cases hu : q.Unreadable setup
  · rw [Query.callAfresh_of_unreadable hu, Query.events_of_unreadable hu]
    rfl
  · obtain ⟨l, hl, hd⟩ := Query.not_unreadable_iff.mp hu
    rw [Query.parser_callAfresh_of_readable hl hd, Query.events_of_readable hl hd, hparse]
    rfl

theorem parser_happen (hparse : setup.parse = Holdings.parse r) (h : Happening) :
    (w.happen r setup h).parser = Holdings.run r w.parser (h.events setup) := by
  cases h with
  | call q => exact parser_callAfresh hparse
  | event e =>
    cases e with
    | edit files => rfl
    | clear => rfl
    | parse path =>
      show (setup.parseFile path w).2.parser = _
      rw [Query.parser_parseFile, hparse]
      rfl

/-- A run of a world is, for its parser, a run of holdings. -/
theorem parser_run (hparse : setup.parse = Holdings.parse r) (hs : List Happening) :
    (w.run r setup hs).parser = Holdings.run r w.parser (hs.flatMap (·.events setup)) := by
  induction hs generalizing w with
  | nil => rfl
  | cons h hs ih =>
    show ((w.happen r setup h).run r setup hs).parser = _
    rw [ih, parser_happen hparse, List.flatMap_cons]
    exact (List.foldl_append ..).symm

/-! ## Calls in sound worlds -/

/-- From the world `w` on, every call in a row gives an answer with these contents, and adds these
messages to the sink. -/
def World.Repeats (r : Reader δ) (setup : Setup (Holdings δ)) (w : World (Holdings δ)) (q : Query)
    (answer : Except Fault (List (SubjectKind × Context × Node × Address × SinkId)))
    (messages : List String) : Prop :=
  ∀ n, contents (q.callAfresh setup (w.run r setup (List.replicate n (.call q)))).1 = answer ∧
    (w.run r setup (List.replicate n (.call q))).board =
      (List.replicate n messages).flatten.foldl (·.append setup.sink ·) w.board

omit [DecidableEq δ] in
theorem Reader.afresh_congr {files files' : FileStore} {path : PathName}
    (h : files.read path = files'.read path) : r.afresh files path = r.afresh files' path := by
  simp only [afresh, FileStore.textOf, h]

/-- After a run, holdings are sound for the texts that were read and any that a call then reads. -/
theorem sound_run_opening (hparse : setup.parse = Holdings.parse r) (files : FileStore)
    (board : Board) (hs : List Happening) (q : Query) :
    Sound r (textsReadBy setup files (hs ++ [.call q]))
        ((World.opening files board).run r setup hs).parser ∧
      textsRead ((World.opening files board).run r setup hs).parser.files (q.events setup) ⊆
        textsReadBy setup files (hs ++ [.call q]) := by
  have hparser := parser_run (w := .opening files board) hparse hs
  have hfiles : ((World.opening files board).run r setup hs).parser.files =
      filesAfter files (hs.flatMap (·.events setup)) := by
    rw [hparser, files_run]
    rfl
  have htexts : textsReadBy setup files (hs ++ [.call q]) =
      textsRead files (hs.flatMap (·.events setup)) ++
        textsRead (filesAfter files (hs.flatMap (·.events setup))) (q.events setup) := by
    unfold textsReadBy
    rw [List.flatMap_append, textsRead_append]
    simp [Happening.events]
  rw [htexts, hfiles, hparser]
  constructor
  · exact ((sound_ofFiles files).run _).mono (List.subset_append_left ..)
  · exact List.subset_append_right ..

section sound

variable {texts : List (List Char)} (hparse : setup.parse = Holdings.parse r)
  (hr : r.Distinguishes texts)

include hparse in
theorem files_callAfresh : (q.callAfresh setup w).2.parser.files = w.parser.files := by
  rw [parser_callAfresh hparse, files_run]
  unfold Query.events
  split
  · rfl
  · split <;> rfl

include hparse in
theorem sound_callAfresh (hw : Sound r texts w.parser)
    (hmem : textsRead w.parser.files (q.events setup) ⊆ texts) :
    Sound r texts (q.callAfresh setup w).2.parser := by
  rw [parser_callAfresh hparse]
  exact (hw.run _).mono (List.append_subset.mpr ⟨List.Subset.refl _, hmem⟩)

include hparse hr in
/-- In a sound world, a call is given the tree that its file has at that moment. -/
theorem root_parseFile (hw : Sound r texts w.parser)
    (hmem : textsRead w.parser.files (q.events setup) ⊆ texts) {l : Live.Location}
    (hl : q.method.location = some l) (hd : setup.denies l.file = false) :
    (setup.parseFile (setup.pathOf l.file) w).1.map (·.root) =
      r.afresh w.parser.files (setup.pathOf l.file) := by
  have hout : (setup.parseFile (setup.pathOf l.file) w).1 =
      (Holdings.parse r (setup.pathOf l.file) w.parser).outcome := by
    rw [← hparse]
    rfl
  rw [hout]
  refine hw.outcome_parse hr fun text hread => hmem ?_
  rw [Query.events_of_readable hl hd]
  simp [textsRead, Event.textRead, hread, Except.toOption]

include hparse hr in
/-- In sound worlds, calls whose file reads the same end alike. -/
theorem alike_of_sound {w' : World (Holdings δ)} {texts' : List (List Char)}
    (hr' : r.Distinguishes texts') (hw : Sound r texts w.parser) (hw' : Sound r texts' w'.parser)
    (hmem : textsRead w.parser.files (q.events setup) ⊆ texts)
    (hmem' : textsRead w'.parser.files (q.events setup) ⊆ texts')
    (hsame : ∀ l, q.method.location = some l →
      w.parser.files.read (setup.pathOf l.file) = w'.parser.files.read (setup.pathOf l.file)) :
    contents (q.callAfresh setup w).1 = contents (q.callAfresh setup w').1 ∧
      q.reports setup w = q.reports setup w' := by
  refine Query.alike_of_parseFile fun l hl hd => ?_
  rw [root_parseFile hparse hr hw hmem hl hd, root_parseFile hparse hr' hw' hmem' hl hd]
  exact Reader.afresh_congr (hsame l hl)

include hparse hr in
/-- In a sound world, calls in a row go as the first one. -/
theorem repeats_of_sound (hw : Sound r texts w.parser)
    (hmem : textsRead w.parser.files (q.events setup) ⊆ texts) :
    w.Repeats r setup q (contents (q.callAfresh setup w).1) (q.reports setup w) := by
  intro n
  induction n generalizing w with
  | zero => exact ⟨rfl, rfl⟩
  | succ n ih =>
    have hfiles := files_callAfresh (w := w) (q := q) hparse
    have hw' := sound_callAfresh hparse hw hmem
    have hmem' : textsRead (q.callAfresh setup w).2.parser.files (q.events setup) ⊆ texts := by
      rw [hfiles]
      exact hmem
    obtain ⟨hanswer, hboard⟩ := ih hw' hmem'
    obtain ⟨hcontents, hreports⟩ := alike_of_sound hparse hr hr hw' hw hmem' hmem fun l _ => by
      rw [hfiles]
    rw [hcontents] at hanswer
    rw [hreports, Query.board_callAfresh] at hboard
    have hmessages : (List.replicate (n + 1) (q.reports setup w)).flatten =
        q.reports setup w ++ (List.replicate n (q.reports setup w)).flatten := by
      rw [List.replicate_succ, List.flatten_cons]
    refine ⟨hanswer, ?_⟩
    show (World.run r setup (q.callAfresh setup w).2 (List.replicate n (.call q))).board = _
    rw [hmessages, List.foldl_append]
    exact hboard

end sound

/-- **Matching does not depend on history.**  Take two runs in worlds with one setup, each any
mixture of calls, parses, edits and clears, after which the path that a method points at reads the
same: the same bytes, or the same fault where there is no file.  As long as no two texts read in a
run have one digest, calls for the method give answers with the same contents in both, and add the
same messages, at most one, to the sink; and so do further calls, as many as there are. -/
theorem callAfresh_history_independent (r : Reader δ) (pathOf : String → PathName)
    (denylist : Denylist) (sink : SinkId) (q : Query) (files files' : FileStore)
    (board board' : Board) (hs hs' : List Happening)
    (hr : r.Distinguishes
      (textsReadBy (r.setup pathOf denylist sink) files (hs ++ [.call q])))
    (hr' : r.Distinguishes
      (textsReadBy (r.setup pathOf denylist sink) files' (hs' ++ [.call q])))
    (hsame : ∀ l, q.method.location = some l →
      ((World.opening files board).run r (r.setup pathOf denylist sink) hs).parser.files.read
          (pathOf l.file) =
        ((World.opening files' board').run r (r.setup pathOf denylist sink) hs').parser.files.read
          (pathOf l.file)) :
    ∃ answer messages, messages.length ≤ 1 ∧
      ((World.opening files board).run r (r.setup pathOf denylist sink) hs).Repeats r
        (r.setup pathOf denylist sink) q answer messages ∧
      ((World.opening files' board').run r (r.setup pathOf denylist sink) hs').Repeats r
        (r.setup pathOf denylist sink) q answer messages := by
  have hparse : (r.setup pathOf denylist sink).parse = Holdings.parse r := rfl
  obtain ⟨hw, hmem⟩ := sound_run_opening hparse files board hs q
  obtain ⟨hw', hmem'⟩ := sound_run_opening hparse files' board' hs' q
  obtain ⟨hcontents, hreports⟩ := alike_of_sound hparse hr hr' hw hw' hmem hmem' hsame
  refine ⟨_, _, Query.length_reports_le, repeats_of_sound hparse hr hw hmem, ?_⟩
  rw [hcontents, hreports]
  exact repeats_of_sound hparse hr' hw' hmem'

/-- A setup under which every file name means `a.py`, and none is denied. -/
def oneFileSetup : Setup (Holdings Nat) :=
  byLength.setup (fun _ => onePath) ⟨[], []⟩ 0

/-- The query for a function `f` on the first line of `a.py`. -/
def oneQuery : Query :=
  ⟨⟨0, "a"⟩, ⟨"f", some ⟨"a.py", 1⟩, "a.f"⟩, .function⟩

/-- In one run the function is looked up in `x`; in the other one it is looked up in `x=y`, which
is then changed to `x`. -/
theorem callAfresh_history_independent_edited :
    byLength.Distinguishes
        (textsReadBy oneFileSetup (oneFile [120]) ([.call oneQuery] ++ [.call oneQuery])) ∧
      byLength.Distinguishes (textsReadBy oneFileSetup (oneFile [120, 61, 121])
        ([.call oneQuery, .event (.edit (oneFile [120]))] ++ [.call oneQuery])) ∧
      ∃ answer messages, messages.length ≤ 1 ∧
        ((World.opening (oneFile [120]) .empty).run byLength oneFileSetup
          [.call oneQuery]).Repeats byLength oneFileSetup oneQuery answer messages ∧
        ((World.opening (oneFile [120, 61, 121]) .empty).run byLength oneFileSetup
          [.call oneQuery, .event (.edit (oneFile [120]))]).Repeats byLength oneFileSetup oneQuery
            answer messages := by
  have hr : byLength.Distinguishes
      (textsReadBy oneFileSetup (oneFile [120]) ([.call oneQuery] ++ [.call oneQuery])) := by
    unfold Reader.Distinguishes
    decide
  have hr' : byLength.Distinguishes (textsReadBy oneFileSetup (oneFile [120, 61, 121])
      ([.call oneQuery, .event (.edit (oneFile [120]))] ++ [.call oneQuery])) := by
    unfold Reader.Distinguishes
    decide
  refine ⟨hr, hr', callAfresh_history_independent byLength _ _ _ oneQuery _ _ _ _ _ _ hr hr' ?_⟩
  intro l _
  rw [parser_run rfl, parser_run rfl, files_run, files_run]
  rfl

end runs

end DefSite
