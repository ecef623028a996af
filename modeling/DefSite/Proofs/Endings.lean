import DefSite.Proofs.Questions
import DefSite.Proofs.Recognition
import DefSite.Proofs.Search

/-!
# How calls end

A call to an inquiry that has found out nothing ends in one of four ways, unless the parser or the
search fails: the method's code points at no readable source, its definition stands in a closure,
its definition is found, or there is none (`callAfresh_ends`).
-/

namespace DefSite.Query

variable {σ : Type} {q : Query} {setup : Setup σ} {f : Findings} {w : World σ} {l : Live.Location}

/-! ## The search for the definition -/

theorem recognises_eq (hl : q.method.location = some l) :
    q.recognises = q.variant.recognises q.method.name l.line := by
  funext n
  simp only [recognises, line, hl]
  rfl

/-- What a search finds is the last node that defines the method. -/
theorem isLast_of_findLast (hl : q.method.location = some l) {root : Node} {a : Address}
    (h : root.findLast q.recognises = .ok (some a)) :
    ∃ n, root.IsLast (q.variant.Defines q.method.name l.line) a n := by
  obtain ⟨-, n, hn⟩ := Node.findLast_eq_some_iff.mp h
  refine ⟨n, hn.congr fun m => ?_⟩
  rw [recognises_eq hl, Variant.recognises_eq_true_iff]

/-- A search that finds nothing has met no node that defines the method. -/
theorem not_defines_of_findLast (hl : q.method.location = some l) {root : Node}
    (h : root.findLast q.recognises = .ok none) :
    ∀ p ∈ root.preorder, ¬ q.variant.Defines q.method.name l.line p.2 := by
  intro p hp hd
  have ht := Node.findLast_eq_none_iff.mp h p hp
  rw [← Variant.recognises_eq_true_iff, ← recognises_eq hl, ht] at hd
  cases hd

theorem exists_line_of_findLast (hl : q.method.location = some l) {root : Node}
    {o : Option Address} (h : root.findLast q.recognises = .ok o) :
    ∀ n, o.bind root.at? = some n → ∃ line, n.line? = some line := by
  intro n hn
  obtain ⟨a, rfl, ha⟩ := Option.bind_eq_some_iff.mp hn
  obtain ⟨m, hm⟩ := isLast_of_findLast hl h
  cases hm.at?.symm.trans ha
  exact hm.1.exists_line

/-! ## Calls that start from nothing -/

theorem callAfresh_of_unreadable (hu : q.Unreadable setup) :
    q.callAfresh setup w = (.ok [], setup.warn (noSourceMessage q.method) w) := by
  unfold callAfresh
  rw [run_call, run_skipped_of_unreadable rfl hu]

theorem run_address_empty (hl : q.method.location = some l) :
    (q.address setup).run .empty w =
      match setup.parseFile (setup.pathOf l.file) w with
      | (.error e, w) => (.error e, { Findings.empty with path := some (setup.pathOf l.file) }, w)
      | (.ok t, w) =>
        match t.root.findLast q.recognises with
        | .error e =>
          (.error e, { Findings.empty with path := some (setup.pathOf l.file), tree := some t }, w)
        | .ok o =>
          (.ok o, ⟨some (setup.pathOf l.file), some t, some o, none, none⟩, w) := by
  rw [run_address_of_none rfl, run_tree_of_none rfl, run_path hl (by simp [Findings.empty])]
  dsimp only
  rcases setup.parseFile (setup.pathOf l.file) w with ⟨e | t, w⟩
  · rfl
  · dsimp only
    cases t.root.findLast q.recognises <;> rfl

/-- A call for a method with readable source: its file is parsed and searched, and then the
definition decides. -/
theorem callAfresh_of_readable (hl : q.method.location = some l)
    (hd : setup.denies l.file = false) :
    q.callAfresh setup w =
      match setup.parseFile (setup.pathOf l.file) w with
      | (.error e, w) => (.error e, w)
      | (.ok t, w) =>
        match t.root.findLast q.recognises with
        | .error e => (.error e, w)
        | .ok o =>
          if isClosure (t.trailTo o).1 then (.ok [], setup.warn (closureMessage q.method) w)
          else (.ok (q.subjectAt setup l t o).toList, w.record (q.entryAt setup l t o)) := by
  have hr : ¬ q.Unreadable setup := not_unreadable_iff.mpr ⟨l, hl, hd⟩
  unfold callAfresh
  rw [run_call, run_skipped_of_readable rfl hr, run_matchedTrail, run_address_empty hl]
  rcases setup.parseFile (setup.pathOf l.file) w with ⟨e | t, w⟩
  · rfl
  · dsimp only
    cases ho : t.root.findLast q.recognises with
    | error e => rfl
    | ok o =>
      dsimp only
      rw [run_tree_of_some rfl]
      cases hc : isClosure (t.trailTo o).1 with
      | true => simp only [hc, ↓reduceIte]
      | false =>
        simp only [hc, Bool.false_eq_true, ↓reduceIte]
        rw [run_subject_of_ok rfl (run_address_of_some rfl) rfl rfl
          (exists_line_of_findLast hl ho)]

/-! ## The ways in which calls end -/

/-- The ways in which a call ends. -/
inductive Ending where
  /-- The method's code points at no source that can be read. -/
  | unreadable
  /-- The definition stands in a closure. -/
  | inClosure (l : Live.Location)
  /-- The definition is the node `n` at the address `a` of the tree `t`. -/
  | found (l : Live.Location) (t : ParsedTree) (a : Address) (n : Node)
  /-- There is no definition. -/
  | absent (l : Live.Location)
  /-- The parser or the search failed. -/
  | failed (l : Live.Location) (e : Fault)

namespace Ending

variable (q setup)

/-- What the call answers. -/
def answer : Ending → Except Fault (List Subject)
  | found l t a n =>
    .ok [⟨q.variant.subjectKind, ⟨q.scope, setup.pathOf l.file⟩, n, ⟨t.id, a⟩, setup.sink⟩]
  | failed _ e => .error e
  | _ => .ok []

/-- What the call reports. -/
def diagnostics : Ending → List String
  | unreadable => [noSourceMessage q.method]
  | inClosure _ => [closureMessage q.method]
  | _ => []

/-- The world once the method's file is parsed. -/
def parsed (w : World σ) (l : Live.Location) : World σ :=
  (setup.parseFile (setup.pathOf l.file) w).2

/-- The world that the call leaves behind. -/
def world (w : World σ) : Ending → World σ
  | unreadable => setup.warn (noSourceMessage q.method) w
  | inClosure l => setup.warn (closureMessage q.method) (parsed setup w l)
  | found l _ _ n =>
    (parsed setup w l).record (.matched q.method.text (setup.pathOf l.file) (n.line?.getD 0))
  | absent l => (parsed setup w l).record (.noDefinition q.method.text (setup.pathOf l.file))
  | failed l _ => parsed setup w l

end Ending

variable (q setup w)

/-- The code of the method starts at `l`, in a file that is not denied and is parsed into `t`, and
the test fails on no node of it. -/
structure Searches (l : Live.Location) (t : ParsedTree) : Prop where
  located : q.method.location = some l
  allowed : setup.denies l.file = false
  parsed : (setup.parseFile (setup.pathOf l.file) w).1 = .ok t
  tested : ∀ p ∈ t.root.preorder, ∃ b, q.recognises p.2 = .ok b

/-- When a call ends in which way. -/
def EndsIn : Ending → Prop
  | .unreadable => q.Unreadable setup
  | .inClosure l => ∃ t a n, q.Searches setup w l t ∧
    t.root.IsLast (q.variant.Defines q.method.name l.line) a n ∧ t.root.InClosure a n
  | .found l t a n => q.Searches setup w l t ∧
    t.root.IsLast (q.variant.Defines q.method.name l.line) a n ∧ ¬ t.root.InClosure a n
  | .absent l => ∃ t, q.Searches setup w l t ∧
    ∀ p ∈ t.root.preorder, ¬ q.variant.Defines q.method.name l.line p.2
  | .failed l e => q.method.location = some l ∧ setup.denies l.file = false ∧
    ((setup.parseFile (setup.pathOf l.file) w).1 = .error e ∨
      ∃ t, (setup.parseFile (setup.pathOf l.file) w).1 = .ok t ∧
        t.root.findLast q.recognises = .error e)

variable {q setup w}

/-- Where the last definition is known, it is what the search finds. -/
theorem Searches.findLast_eq_some {t : ParsedTree} (h : q.Searches setup w l t) {a : Address}
    {n : Node} (hn : t.root.IsLast (q.variant.Defines q.method.name l.line) a n) :
    t.root.findLast q.recognises = .ok (some a) := by
  refine Node.findLast_eq_some_iff.mpr ⟨h.tested, n, hn.congr fun m => ?_⟩
  rw [recognises_eq h.located, Variant.recognises_eq_true_iff]

theorem Searches.findLast_eq_none {t : ParsedTree} (h : q.Searches setup w l t)
    (hn : ∀ p ∈ t.root.preorder, ¬ q.variant.Defines q.method.name l.line p.2) :
    t.root.findLast q.recognises = .ok none := by
  refine Node.findLast_eq_none_iff.mpr fun p hp => ?_
  obtain ⟨b, hb⟩ := h.tested p hp
  cases b with
  | false => exact hb
  | true =>
    rw [recognises_eq h.located, Variant.recognises_eq_true_iff] at hb
    exact absurd hb (hn p hp)

variable (q setup w) in
/-- The way in which a call ends. -/
def ending : Ending :=
  match q.method.location with
  | none => .unreadable
  | some l =>
    if setup.denies l.file then .unreadable
    else match (setup.parseFile (setup.pathOf l.file) w).1 with
      | .error e => .failed l e
      | .ok t => match t.root.findLast q.recognises with
        | .error e => .failed l e
        | .ok o => match o.bind fun a => (t.root.at? a).map fun n => (a, n) with
          | none => .absent l
          | some (a, n) => if isClosure (t.root.trail a) then .inClosure l else .found l t a n

theorem EndsIn.eq_ending {e : Ending} (h : q.EndsIn setup w e) : e = q.ending setup w := by
  unfold ending
  cases e with
  | unreadable =>
    cases hl : q.method.location with
    | none => rfl
    | some l => simp [h l hl]
  | inClosure l =>
    obtain ⟨t, a, n, hs, hn, hc⟩ := h
    have hc' := (Node.isClosure_trail_iff hn.at?).mpr hc
    simp [hs.located, hs.allowed, hs.parsed, hs.findLast_eq_some hn, hn.at?, hc']
  | found l t a n =>
    obtain ⟨hs, hn, hc⟩ := h
    have hc' := mt (Node.isClosure_trail_iff hn.at?).mp hc
    simp [hs.located, hs.allowed, hs.parsed, hs.findLast_eq_some hn, hn.at?, hc']
  | absent l =>
    obtain ⟨t, hs, hn⟩ := h
    simp [hs.located, hs.allowed, hs.parsed, hs.findLast_eq_none hn]
  | failed l e =>
    obtain ⟨hl, hd, hp | ⟨t, hp, hf⟩⟩ := h
    · simp [hl, hd, hp]
    · simp [hl, hd, hp, hf]

variable (q setup w) in
/-- A call ends in its way, with the answer and the world of that way. -/
theorem endsIn_ending :
    q.EndsIn setup w (q.ending setup w) ∧
      q.callAfresh setup w =
        ((q.ending setup w).answer q setup, (q.ending setup w).world q setup w) := by
  by_cases hu : q.Unreadable setup
  · have he : q.ending setup w = .unreadable := (EndsIn.eq_ending (e := .unreadable) hu).symm
    rw [he]
    exact ⟨hu, callAfresh_of_unreadable hu⟩
  obtain ⟨l, hl, hd⟩ := not_unreadable_iff.mp hu
  rw [callAfresh_of_readable hl hd]
  have hpair : setup.parseFile (setup.pathOf l.file) w =
      ((setup.parseFile (setup.pathOf l.file) w).1, Ending.parsed setup w l) := rfl
  rw [hpair]
  cases hp : (setup.parseFile (setup.pathOf l.file) w).1 with
  | error e =>
    have he : q.EndsIn setup w (.failed l e) := ⟨hl, hd, .inl hp⟩
    rw [← he.eq_ending]
    exact ⟨he, rfl⟩
  | ok t =>
    dsimp only
    cases hf : t.root.findLast q.recognises with
    | error e =>
      have he : q.EndsIn setup w (.failed l e) := ⟨hl, hd, .inr ⟨t, hp, hf⟩⟩
      rw [← he.eq_ending]
      exact ⟨he, rfl⟩
    | ok o =>
      have hs : q.Searches setup w l t := ⟨hl, hd, hp, Node.exists_findLast_iff.mp ⟨o, hf⟩⟩
      cases o with
      | none =>
        have he : q.EndsIn setup w (.absent l) := ⟨t, hs, not_defines_of_findLast hl hf⟩
        rw [← he.eq_ending]
        exact ⟨he, rfl⟩
      | some a =>
        obtain ⟨n, hn⟩ := isLast_of_findLast hl hf
        by_cases hc : t.root.InClosure a n
        · have he : q.EndsIn setup w (.inClosure l) := ⟨t, a, n, hs, hn, hc⟩
          rw [← he.eq_ending]
          refine ⟨he, ?_⟩
          have hc' := (Node.isClosure_trail_iff hn.at?).mpr hc
          simp only [ParsedTree.trailTo, hc', ↓reduceIte]
          rfl
        · have he : q.EndsIn setup w (.found l t a n) := ⟨hs, hn, hc⟩
          rw [← he.eq_ending]
          refine ⟨he, ?_⟩
          have hc' := mt (Node.isClosure_trail_iff hn.at?).mp hc
          simp only [ParsedTree.trailTo, hc', Bool.false_eq_true, ↓reduceIte]
          simp only [subjectAt, entryAt, Option.bind_some, hn.at?, Option.map_some]
          rfl

/-- A subject that a call answers is the definition that was found. -/
theorem found_of_mem_callAfresh {ss : List Subject} (h : (q.callAfresh setup w).1 = .ok ss)
    {s : Subject} (hs : s ∈ ss) :
    ∃ l t a n, q.EndsIn setup w (.found l t a n) ∧
      s = ⟨q.variant.subjectKind, ⟨q.scope, setup.pathOf l.file⟩, n, ⟨t.id, a⟩, setup.sink⟩ := by
  obtain ⟨hends, hcall⟩ := endsIn_ending q setup w
  rw [hcall] at h
  generalize q.ending setup w = e at hends h
  cases e with
  | found l t a n =>
    cases h
    exact ⟨l, t, a, n, hends, List.mem_singleton.mp hs⟩
  | failed l e => cases h
  | unreadable | inClosure | absent =>
    cases h
    cases hs

theorem board_parseFile (path : PathName) (w : World σ) :
    (setup.parseFile path w).2.board = w.board := by
  unfold Setup.parseFile
  dsimp only
  split <;> rfl

/-- Only the diagnostics of an ending reach the board. -/
theorem Ending.board_world (e : Ending) :
    (e.world q setup w).board = (e.diagnostics q).foldl (·.append setup.sink ·) w.board := by
  have hparsed : ∀ l, (parsed setup w l).board = w.board := fun l => board_parseFile _ w
  cases e with
  | unreadable => rfl
  | inClosure l =>
    show (parsed setup w l).board.append setup.sink _ = _
    rw [hparsed]
    rfl
  | found l t a n => exact hparsed l
  | absent l => exact hparsed l
  | failed l e => exact hparsed l

/-- **The ways in which a call ends.**  Unless the parser or the search fails, there are four of
them, each under a condition of its own that excludes the others, and only two of them report
something.  Where the source cannot be read, neither the parser nor the way to form paths matters,
for neither is asked. -/
theorem callAfresh_ends (q : Query) (setup : Setup σ) (w : World σ) :
    ∃ e, (∀ e', q.EndsIn setup w e' ↔ e' = e) ∧
      q.callAfresh setup w = (e.answer q setup, e.world q setup w) ∧
      (q.callAfresh setup w).2.board =
        (e.diagnostics q).foldl (·.append setup.sink ·) w.board ∧
      (e = .unreadable → (q.callAfresh setup w).2.parser = w.parser ∧
        ∀ parse pathOf, q.callAfresh { setup with parse, pathOf } w = q.callAfresh setup w) := by
  obtain ⟨he, hcall⟩ := endsIn_ending q setup w
  refine ⟨q.ending setup w, fun e' => ⟨EndsIn.eq_ending, fun h => h ▸ he⟩, hcall, ?_, ?_⟩
  · rw [hcall]
    exact Ending.board_world _
  · intro hu
    rw [hu] at he
    refine ⟨by rw [callAfresh_of_unreadable he]; rfl, fun parse pathOf => ?_⟩
    have hu' : q.Unreadable { setup with parse, pathOf } := he
    rw [callAfresh_of_unreadable he, callAfresh_of_unreadable hu']
    rfl

end DefSite.Query
