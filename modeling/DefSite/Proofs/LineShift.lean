import DefSite.Proofs.LineRange
import DefSite.Proofs.RenderedLines

/-!
# Code further down

Take a file in which all code stands `k` lines further down, and a method whose code starts `k`
lines further down.  A call for it ends as one for the method in the file as it was
(`ending_shifted`): the definition has its old address, and the subject has its name and its source,
on lines that are `k` higher (`callAfresh_shifted`).

Only an end on line zero could tell, for it counts as none.  Files have no such line, and where all
lines of a tree are lines of a file, no end comes to stand there or leaves it.
-/

namespace DefSite

/-! ## The same further down -/

/-- The node with all its lines `k` further down. -/
def Node.shifted (k : Nat) (n : Node) : Node :=
  n.mapLines (· + (k : Int))

def Live.Location.shifted (k : Nat) (l : Live.Location) : Live.Location :=
  { l with line := l.line + k }

def ParsedTree.shifted (k : Nat) (t : ParsedTree) : ParsedTree :=
  { t with root := t.root.shifted k }

/-- The setup whose parser finds all code `k` lines further down. -/
def Setup.shifted {σ : Type} (k : Nat) (setup : Setup σ) : Setup σ :=
  { setup with
    parse := fun path s =>
      let answer := setup.parse path s
      { answer with outcome := answer.outcome.map (·.shifted k) } }

def Query.shifted (k : Nat) (q : Query) : Query :=
  { q with method := { q.method with location := q.method.location.map (·.shifted k) } }

def Subject.shifted (k : Nat) (s : Subject) : Subject :=
  { s with node := s.node.shifted k }

/-- All lines of the tree, first or last, are lines of a file. -/
def Node.OnLines (root : Node) : Prop :=
  ∀ a n, root.at? a = some n →
    (∀ l, n.line? = some l → 1 ≤ l) ∧ ∀ e, n.lastLine? = some e → 1 ≤ e

/-! ## What a subject tells -/

namespace Subject

variable {k : Nat} {s : Subject}

theorem name?_shifted (k : Nat) (s : Subject) : (s.shifted k).name? = s.name? := by
  unfold name? shifted Node.shifted
  rw [Node.word?_mapLines, Node.kind_mapLines]

theorem source_shifted (k : Nat) (s : Subject) : (s.shifted k).source = s.source :=
  s.node.source_mapLines (add_left_injective (k : Int))

theorem line_shifted (k : Nat) (s : Subject) : (s.shifted k).line = s.line.map (· + (k : Int)) :=
  s.node.readLine_mapLines _

theorem decorators_shifted (k : Nat) (s : Subject) :
    (s.shifted k).decorators = s.decorators.map (·.shifted k) := by
  unfold decorators shifted Node.shifted
  rw [Node.get?_mapLines]
  cases s.node.get? .decorators with
  | none => rfl
  | some v => exact Node.nodes_mapLines _ v

/-- An end on line zero counts as none, so an end must not come to stand there or leave it. -/
theorem endLine_shifted {own : Int} (h : ∀ e, s.node.lastLine? = some e → 1 ≤ e) :
    (s.shifted k).endLine (own + k) = s.endLine own + k := by
  unfold endLine shifted Node.shifted
  rw [Node.lastLine?_mapLines]
  cases he : s.node.lastLine? with
  | none => rfl
  | some e =>
    have := h e he
    dsimp only [Option.map_some]
    rw [if_neg (by omega), if_neg (by omega)]

theorem lineRange_shifted (h : ∀ e, s.node.lastLine? = some e → 1 ≤ e) :
    (s.shifted k).lineRange = s.lineRange.map fun r => (r.1 + (k : Int), r.2 + (k : Int)) := by
  have hmono : Monotone (· + (k : Int)) := add_left_mono
  rw [lineRange_eq, lineRange_eq, line_shifted, decorators_shifted]
  cases s.line with
  | error e => rfl
  | ok own =>
    have hlines : (s.decorators.map (·.shifted k)).mapM Node.readLine =
        (s.decorators.mapM Node.readLine).map (·.map (· + (k : Int))) :=
      Node.mapM_readLine_mapLines _ s.decorators
    simp only [Except.map, bind, Except.bind, hlines, endLine_shifted h]
    cases s.decorators.mapM Node.readLine with
    | error e => rfl
    | ok lines =>
      have hstart := Node.foldl_min_map hmono own lines
      refine congrArg Except.ok (Prod.ext hstart ?_)
      show s.endLine own + k + 1 = s.endLine own + 1 + k
      omega

end Subject

namespace Query

variable {σ : Type} {q : Query} {setup : Setup σ} {w : World σ}

/-! ## How calls end -/

theorem recognises_shifted (k : Nat) (q : Query) (n : Node) :
    (q.shifted k).recognises (n.shifted k) = q.recognises n := by
  cases hl : q.method.location with
  | none =>
    have hl' : (q.shifted k).method.location = none := by simp [shifted, hl]
    simp only [recognises, line, hl, hl']
    rfl
  | some l =>
    have hl' : (q.shifted k).method.location = some (l.shifted k) := by simp [shifted, hl]
    rw [recognises_eq hl, recognises_eq hl']
    exact q.variant.recognises_mapLines (add_left_strictMono) q.method.name l.line n

/-- The definition keeps its address. -/
theorem findLast_shifted (k : Nat) (q : Query) (root : Node) :
    (root.shifted k).findLast (q.shifted k).recognises = root.findLast q.recognises :=
  root.findLast_mapLines (recognises_shifted k q)

def Ending.shifted (k : Nat) : Ending → Ending
  | unreadable => unreadable
  | inClosure l => inClosure (l.shifted k)
  | found l t a n => found (l.shifted k) (t.shifted k) a (n.shifted k)
  | absent l => absent (l.shifted k)
  | failed l e => failed (l.shifted k) e

theorem ending_shifted (k : Nat) (q : Query) (setup : Setup σ) (w : World σ) :
    (q.shifted k).ending (setup.shifted k) w = (q.ending setup w).shifted k := by
  unfold ending
  cases hl : q.method.location with
  | none =>
    have hl' : (q.shifted k).method.location = none := by simp [shifted, hl]
    rw [hl']
    rfl
  | some l =>
    have hl' : (q.shifted k).method.location = some (l.shifted k) := by simp [shifted, hl]
    have hparse : ((setup.shifted k).parseFile ((setup.shifted k).pathOf (l.shifted k).file) w).1 =
        (setup.parseFile (setup.pathOf l.file) w).1.map (·.shifted k) := rfl
    have hdenies : (setup.shifted k).denies (l.shifted k).file = setup.denies l.file := rfl
    rw [hl']
    dsimp only
    rw [hparse, hdenies]
    split
    · rfl
    cases (setup.parseFile (setup.pathOf l.file) w).1 with
    | error e => rfl
    | ok t =>
      have hfind : (t.shifted k).root.findLast (q.shifted k).recognises =
          t.root.findLast q.recognises := findLast_shifted k q t.root
      simp only [Except.map, hfind]
      cases t.root.findLast q.recognises with
      | error e => rfl
      | ok o =>
        cases o with
        | none => rfl
        | some a =>
          have hat : (t.shifted k).root.at? a = (t.root.at? a).map (·.shifted k) :=
            t.root.at?_mapLines _ a
          have htrail : isClosure ((t.shifted k).root.trail a) = isClosure (t.root.trail a) := by
            show isClosure ((t.root.mapLines _).trail a) = _
            rw [Node.trail_mapLines, Node.isClosure_map_mapLines]
          simp only [Option.bind_some, hat]
          cases t.root.at? a with
          | none => rfl
          | some n =>
            simp only [Option.map_some, htrail]
            split <;> rfl

/-- Whether the method of a call that ends so is skipped. -/
def Ending.decision : Ending → Except Fault Bool
  | unreadable | inClosure _ => .ok true
  | found _ _ _ _ | absent _ => .ok false
  | failed _ e => .error e

/-- The decision to skip is that of the call, and reports what the call does. -/
theorem run_skipped_empty (q : Query) (setup : Setup σ) (w : World σ) :
    ((q.skipped setup).run .empty w).1 = (q.ending setup w).decision ∧
      ((q.skipped setup).run .empty w).2.2.board = (q.callAfresh setup w).2.board := by
  by_cases hu : q.Unreadable setup
  · have he : q.EndsIn setup w .unreadable := hu
    rw [run_skipped_of_unreadable rfl hu, callAfresh_of_unreadable hu, ← he.eq_ending]
    exact ⟨rfl, rfl⟩
  obtain ⟨l, hl, hd⟩ := not_unreadable_iff.mp hu
  rw [run_skipped_of_readable rfl hu, run_matchedTrail, run_address_empty hl,
    callAfresh_of_readable hl hd]
  unfold ending
  simp only [hl, hd, Bool.false_eq_true, ↓reduceIte]
  rcases setup.parseFile (setup.pathOf l.file) w with ⟨e | t, w'⟩
  · exact ⟨rfl, rfl⟩
  dsimp only
  cases ho : t.root.findLast q.recognises with
  | error e => exact ⟨rfl, rfl⟩
  | ok o =>
    dsimp only
    rw [run_tree_of_some rfl]
    cases o with
    | none => exact ⟨rfl, rfl⟩
    | some a =>
      obtain ⟨n, hn⟩ := isLast_of_findLast hl ho
      simp only [ParsedTree.trailTo, Option.bind_some, hn.at?, Option.map_some]
      by_cases hc : isClosure (t.root.trail a)
      · simp only [hc, ↓reduceIte, Ending.decision, true_and]
      · simp only [hc, Bool.false_eq_true, ↓reduceIte, Ending.decision, true_and]
        rfl

theorem answer_shifted (k : Nat) (e : Ending) :
    (e.shifted k).answer (q.shifted k) (setup.shifted k) =
      (e.answer q setup).map (·.map (·.shifted k)) := by
  cases e <;> rfl

theorem parser_world_shifted (k : Nat) (e : Ending) :
    ((e.shifted k).world (q.shifted k) (setup.shifted k) w).parser =
      (e.world q setup w).parser := by
  cases e <;> rfl

theorem diagnostics_shifted (k : Nat) (q : Query) (e : Ending) :
    (e.shifted k).diagnostics (q.shifted k) = e.diagnostics q := by
  cases e <;> rfl

theorem decision_shifted (k : Nat) (e : Ending) : (e.shifted k).decision = e.decision := by
  cases e <;> rfl

/-- A subject that a call answers is a definition of the method in the tree of its file. -/
theorem exists_of_mem_subjects {ss : List Subject} (h : (q.callAfresh setup w).1 = .ok ss)
    {s : Subject} (hs : s ∈ ss) :
    ∃ l t a, q.method.location = some l ∧
      (setup.parseFile (setup.pathOf l.file) w).1 = .ok t ∧ t.root.at? a = some s.node ∧
      s.node.DefinesFunction q.method.name l.line := by
  obtain ⟨l, t, a, n, ⟨hsearches, hlast, hopen⟩, rfl⟩ := found_of_mem_callAfresh h hs
  exact ⟨l, t, a, hsearches.located, hsearches.parsed, hlast.at?, hlast.definesFunction hopen⟩

/-- **Calls do not see where code stands.**  Let a method's code and all code in its file stand `k`
lines further down.  A search of any tree for the method selects the node at the same address, or
none, or fails in the same way; the method is skipped or not as before, with the same diagnostics,
and a call answers the same subjects on their new lines: with the same name and source, and a line
and a line range that are `k` higher. -/
theorem callAfresh_shifted (k : Nat) (q : Query) (setup : Setup σ) (w : World σ)
    (hlines : ∀ l t, q.method.location = some l →
      (setup.parseFile (setup.pathOf l.file) w).1 = .ok t → t.root.OnLines) :
    (∀ root : Node, (root.shifted k).findLast (q.shifted k).recognises =
      root.findLast q.recognises) ∧
    (((q.shifted k).skipped (setup.shifted k)).run .empty w).1 =
      ((q.skipped setup).run .empty w).1 ∧
    (((q.shifted k).skipped (setup.shifted k)).run .empty w).2.2.board =
      ((q.skipped setup).run .empty w).2.2.board ∧
    ((q.shifted k).callAfresh (setup.shifted k) w).1 =
      (q.callAfresh setup w).1.map (·.map (·.shifted k)) ∧
    ((q.shifted k).callAfresh (setup.shifted k) w).2.board = (q.callAfresh setup w).2.board ∧
    ((q.shifted k).callAfresh (setup.shifted k) w).2.parser = (q.callAfresh setup w).2.parser ∧
    ∀ ss, (q.callAfresh setup w).1 = .ok ss → ∀ s ∈ ss, (s.shifted k).name? = s.name? ∧
      (s.shifted k).source = s.source ∧ ∃ own start stop, s.line = .ok own ∧
        (s.shifted k).line = .ok (own + k) ∧ s.lineRange = .ok (start, stop) ∧
        (s.shifted k).lineRange = .ok (start + k, stop + k) := by
  have hboard : ((q.shifted k).callAfresh (setup.shifted k) w).2.board =
      (q.callAfresh setup w).2.board := by
    rw [board_callAfresh, board_callAfresh, reports, reports, ending_shifted, diagnostics_shifted]
    rfl
  have hcall := (endsIn_ending q setup w).2
  have hcall' := (endsIn_ending (q.shifted k) (setup.shifted k) w).2
  rw [ending_shifted] at hcall'
  obtain ⟨hdecision, hskip⟩ := run_skipped_empty q setup w
  obtain ⟨hdecision', hskip'⟩ := run_skipped_empty (q.shifted k) (setup.shifted k) w
  refine ⟨findLast_shifted k q, ?_, ?_, ?_, hboard, ?_, ?_⟩
  · rw [hdecision, hdecision', ending_shifted, decision_shifted]
  · rw [hskip, hskip', hboard]
  · rw [hcall, hcall']
    exact answer_shifted k _
  · rw [hcall, hcall']
    exact parser_world_shifted k _
  · intro ss hss s hs
    obtain ⟨l, t, a, hl, ht, ha, hdefines⟩ := exists_of_mem_subjects hss hs
    obtain ⟨own, hown, hrange, -⟩ := Subject.lineRange_of_startsOn hdefines.starts
    have hend := ((hlines l t hl ht) a s.node ha).2
    refine ⟨s.name?_shifted k, s.source_shifted k, own, _, _, hown, ?_, hrange, ?_⟩
    · rw [s.line_shifted, hown]
      rfl
    · rw [Subject.lineRange_shifted hend, hrange]
      rfl

section scattered

/-- The decorated function, ten lines further down. -/
theorem callAfresh_shifted_scattered :
    scattered.OnLines ∧ ∃ s,
      ((scatteredQuery.shifted 10).callAfresh (lenientSetup.shifted 10) scatteredWorld).1 =
        .ok [s] ∧ s.line = .ok 15 ∧ s.lineRange = .ok (13, 17) ∧ s.name? = some "f" := by
  have hon : scattered.OnLines := by
    intro a n hn
    have hall : (scattered.preorder.all fun p =>
        (p.2.line?.all (1 ≤ ·)) && (p.2.lastLine?.all (1 ≤ ·))) = true := by cbv
    have hmem := List.all_eq_true.mp hall (a, n) (Node.mem_preorder_iff.mpr hn)
    simpa [Option.all_eq_true] using hmem
  obtain ⟨s, hs, hline, -, hrange, hname⟩ := answer_scattered
  obtain ⟨-, -, -, hanswer, -, -, hshift⟩ :=
    callAfresh_shifted 10 scatteredQuery lenientSetup scatteredWorld (by
      intro l t hl ht
      cases hl
      have ht' : (lenientSetup.parseFile Holdings.onePath scatteredWorld).1 =
        .ok ⟨0, scattered⟩ := by cbv
      cases ht'.symm.trans ht
      exact hon)
  obtain ⟨hname', -, own, start, stop, hown, hown', hrange', hrange''⟩ :=
    hshift [s] hs s (List.mem_singleton_self s)
  cases hline.symm.trans hown
  cases hrange.symm.trans hrange'
  rw [hs] at hanswer
  exact ⟨hon, s.shifted 10, hanswer, hown', hrange'', hname'.trans hname⟩

end scattered

end Query

end DefSite
