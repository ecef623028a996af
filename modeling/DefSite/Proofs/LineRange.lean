import DefSite.Proofs.Classification
import DefSite.Proofs.Lifetime
import DefSite.Proofs.Strictness

/-!
# The lines of a subject

Where a definition starts is worked out twice: by the variant that recognises it, and by the
subject that tells its line range, which takes absent decorators for none and an absent last line
for the definition's own.  A subject is only made of a definition that its variant recognised, so
all that the range reads is there, and the range starts where the method's code does
(`lineRange_of_startsOn`, `lineRange_of_mem_subjects`).
-/

namespace DefSite

/-! ## What subjects are made of -/

section selected

variable {σ : Type} {q : Query} {setup : Setup σ} {v : Variant} {name : String} {line : Int}
  {n : Node}

theorem Variant.Defines.definesFunction (h : v.Defines name line n) (hk : n.kind ≠ .lambda) :
    n.DefinesFunction name line := by
  rcases h with ⟨hf, hname, hstarts, -⟩ | ⟨hlambda, -⟩
  · exact ⟨hf, hname, hstarts⟩
  · exact absurd hlambda hk

/-- A definition outside of closures is none of an anonymous function. -/
theorem Node.IsLast.definesFunction {root : Node} {a : Address}
    (h : root.IsLast (v.Defines name line) a n) (hopen : ¬ root.InClosure a n) :
    n.DefinesFunction name line := by
  apply h.1.definesFunction
  intro hk
  exact hopen (.inl hk)

theorem Query.subjectAt_eq_some {l : Live.Location} {t : ParsedTree} {o : Option Address}
    {s : Subject} (h : q.subjectAt setup l t o = some s) :
    ∃ a, o = some a ∧ t.root.at? a = some s.node := by
  obtain ⟨a, rfl, h⟩ := Option.bind_eq_some_iff.mp h
  obtain ⟨n, hn, rfl⟩ := Option.map_eq_some_iff.mp h
  exact ⟨a, rfl, hn⟩

theorem Findings.Consistent.definesFunction {f : Findings} (hf : f.Consistent q setup)
    {ss : List Subject} (hss : f.Gives q (.subjects ss)) {s : Subject} (hs : s ∈ ss) :
    ∃ l, q.method.location = some l ∧ s.node.DefinesFunction q.method.name l.line := by
  rcases hss with ⟨-, rfl⟩ | ⟨hskipped, o, ho, rfl⟩
  · cases hs
  obtain rfl := Option.mem_toList.mp hs
  obtain ⟨l, t, o, hl, ht, hfound, hsubject⟩ := hf.subject _ ho
  obtain ⟨a, rfl, hn⟩ := Query.subjectAt_eq_some hsubject.symm
  refine ⟨l, hl, ?_⟩
  obtain ⟨t', ht', hlast⟩ := hf.address _ hfound
  cases ht.symm.trans ht'
  obtain ⟨n, hn'⟩ := Query.isLast_of_findLast hl hlast
  cases hn.symm.trans hn'.at?
  -- the method is not skipped, so the trail to the definition passes through no closure
  rcases hf.skipped _ hskipped with ⟨-, hb⟩ | ⟨-, t', o', ht', ho', hb⟩
  · cases hb
  · cases ht.symm.trans ht'
    cases hfound.symm.trans ho'
    apply hn'.definesFunction
    rw [← Node.isClosure_trail_iff hn]
    intro hc
    exact Bool.false_ne_true (hb.trans hc)

/-- A call for a method whose definition is found outside of closures. -/
theorem Query.answer_of_findLast {w : World σ} {l : Live.Location} {t : ParsedTree} {a : Address}
    (hl : q.method.location = some l) (hd : setup.denies l.file = false)
    (ht : (setup.parseFile (setup.pathOf l.file) w).1 = .ok t)
    (ha : t.root.findLast q.recognises = .ok (some a)) (hn : t.root.at? a = some n)
    (hc : isClosure (t.root.trail a) = false) :
    (q.callAfresh setup w).1 = .ok
      [⟨q.variant.subjectKind, ⟨q.scope, setup.pathOf l.file⟩, n, ⟨t.id, a⟩, setup.sink⟩] := by
  rw [callAfresh_of_readable hl hd]
  rcases hp : setup.parseFile (setup.pathOf l.file) w with ⟨x, w'⟩
  rw [hp] at ht
  cases ht
  simp [ha, ParsedTree.trailTo, hc, subjectAt, hn]

/-- A call that is asked first answers what a call does that starts from nothing. -/
theorem Query.answer_ask_call (q : Query) (setup : Setup σ) (w : World σ) :
    ((q.ask setup .call).run .empty w).1 = (q.callAfresh setup w).1.map .subjects := by
  unfold ask
  rw [Inquiry.run_bind_pure]
  rfl

/-- Whatever an inquiry answers is made of consistent findings. -/
theorem Query.gives_of_mem_moments {visits : List (Visit σ)} {w : World σ} {m : Moment σ}
    (hm : m ∈ q.moments setup visits .empty w) :
    ∃ f : Findings, f.Consistent q setup ∧ ∀ a, m.answer = .ok a → f.Gives q a := by
  have hplain := q.map_plain_moments setup visits .empty (w.withLog [])
  have hlogged : m ∈ q.moments setup visits .empty (w.withLog []).plain := hm
  rw [← hplain] at hlogged
  obtain ⟨m', hm', rfl⟩ := List.mem_map.mp hlogged
  obtain ⟨f, -, hf, -, hmoments⟩ :=
    leads_moments (.empty q setup) (visits.map .logged) (w.withLog [])
  obtain ⟨hfits, hgrows⟩ := hmoments m' hm'
  exact ⟨f, hf, fun a ha => (hfits.gives a ha).mono hgrows⟩

end selected

/-! ## The line range -/

namespace Subject

variable {s : Subject} {start own : Int}

/-- The last line of a subject that stands on the line `own`. -/
def endLine (s : Subject) (own : Int) : Int :=
  match s.node.lastLine? with
  | some e => if e = 0 then own else e
  | none => own

theorem lineRange_eq (s : Subject) :
    s.lineRange = (do
      let own ← s.line
      let lines ← s.decorators.mapM Node.readLine
      return (lines.foldl min own, s.endLine own + 1)) := rfl

theorem decorators_eq_of_listed {ds : List Node} (h : s.node.listed? .decorators = some ds) :
    s.decorators = ds := by
  obtain ⟨ns, hns, rfl⟩ := Option.map_eq_some_iff.mp h
  have hget : s.node.get? .decorators = some (.slots ns) := by
    unfold Node.slots? at hns
    split at hns
    · next hget => rw [hget, Option.some.inj hns]
    · cases hns
  unfold decorators
  rw [hget]
  rfl

/-- The range starts where the definition does; neither the definition nor a decorator stands before
that line. -/
theorem lineRange_of_startsOn (h : s.node.StartsOn start) :
    ∃ own, s.line = .ok own ∧ s.lineRange = .ok (start, s.endLine own + 1) ∧ start ≤ own ∧
      ∀ d ∈ s.decorators, ∃ i, d.line? = some i ∧ start ≤ i := by
  have hstart := Node.startLine_eq_ok.mpr h
  obtain ⟨own, ds, lines, hown, hds, hlines, hleast⟩ := h
  have hline : s.line = .ok own := Node.readLine_eq_ok.mpr hown
  refine ⟨own, hline, ?_, hleast.2 List.mem_cons_self, ?_⟩
  · have hread : ds.mapM Node.readLine = .ok lines :=
      mapM_eq_ok.mpr (Node.map_readLine_eq_ok.mpr hlines)
    rw [Node.startLine_eq, hds, Node.readLine_eq_ok.mpr hown] at hstart
    rw [lineRange_eq, hline, decorators_eq_of_listed hds]
    simp only [hread] at hstart ⊢
    exact congrArg _ (congrArg (·, _) (Except.ok.inj hstart))
  · intro d hd
    rw [decorators_eq_of_listed hds] at hd
    have hd' : d.line? ∈ lines.map some := hlines ▸ List.mem_map_of_mem hd
    obtain ⟨i, hi, heq⟩ := List.mem_map.mp hd'
    exact ⟨i, heq.symm, hleast.2 (List.mem_cons_of_mem _ hi)⟩

/-- The line lies in the range of the subject's lines. -/
def Covers (s : Subject) (i : Int) : Prop :=
  ∃ start stop, s.lineRange = .ok (start, stop) ∧ start ≤ i ∧ i < stop

theorem le_endLine (h : ∀ e, s.node.lastLine? = some e → e = 0 ∨ own ≤ e) :
    own ≤ s.endLine own := by
  unfold endLine
  cases he : s.node.lastLine? with
  | none => exact le_rfl
  | some e =>
    dsimp only
    split
    · exact le_rfl
    · next hne => exact (h e he).resolve_left hne

theorem name?_of_word {name : String} (h : s.node.word? .name = some name) :
    s.name? = some name := by
  unfold name?
  rw [h]

end Subject

namespace Query

variable {σ : Type}

/-- **The lines that a subject tells.**  Whatever an inquiry was asked before, each subject that a
call answers has the method's name, and its line range starts on the line where the method's code
starts, which is not after the subject's own line.  Unless the definition is said to end before its
own line, that line is in the range, and so is the line of each decorator, unless it stands after
the last line. -/
theorem lineRange_of_mem_subjects (q : Query) (setup : Setup σ) (visits : List (Visit σ))
    (w : World σ) :
    ∀ m ∈ q.moments setup visits .empty w, ∀ ss, m.answer = .ok (.subjects ss) → ∀ s ∈ ss,
      ∃ l own, q.method.location = some l ∧ s.name? = some q.method.name ∧ s.line = .ok own ∧
        s.lineRange = .ok (l.line, s.endLine own + 1) ∧ l.line ≤ own ∧
        ((∀ e, s.node.lastLine? = some e → e = 0 ∨ own ≤ e) → s.Covers own) ∧
        ∀ d ∈ s.decorators, ∃ i, d.line? = some i ∧ (i ≤ s.endLine own → s.Covers i) := by
  intro m hm ss hss s hs
  obtain ⟨f, hf, hgives⟩ := gives_of_mem_moments hm
  obtain ⟨l, hl, hdefines⟩ := hf.definesFunction (hgives _ hss) hs
  obtain ⟨own, hown, hrange, hle, hdecorators⟩ := Subject.lineRange_of_startsOn hdefines.starts
  refine ⟨l, own, hl, Subject.name?_of_word hdefines.named, hown, hrange, hle, ?_, ?_⟩
  · intro hend
    have := Subject.le_endLine hend
    exact ⟨_, _, hrange, hle, by omega⟩
  · intro d hd
    obtain ⟨i, hi, hstart⟩ := hdecorators d hd
    exact ⟨i, hi, fun hlast => ⟨_, _, hrange, hstart, by omega⟩⟩

section decorated

/-- A function `f` on line 5 that is said to end on line 6, with decorators on the lines 3 and 9. -/
def scattered : Node :=
  let decorator (line : Int) : Node := .mk .name (some line) none [(.id, .word "d")]
  let f : Node := .mk .functionDef (some 5) (some 6)
    [(.name, .word "f"), (.decorators, .slots [some (decorator 3), some (decorator 9)])]
  .mk .module none none [(.body, .slots [some f])]

def scatteredQuery : Query :=
  ⟨⟨0, "m"⟩, ⟨"f", some ⟨"a.py", 3⟩, "m.f"⟩, .function⟩

def scatteredWorld : World Shelf :=
  ⟨Shelf.empty.put Holdings.onePath (.ok scattered), .empty, []⟩

theorem answer_scattered : ∃ s,
    (scatteredQuery.callAfresh lenientSetup scatteredWorld).1 = .ok [s] ∧ s.line = .ok 5 ∧
      s.node.lastLine? = some 6 ∧ s.lineRange = .ok (3, 7) ∧ s.name? = some "f" := by
  have hfind : scattered.findLast scatteredQuery.recognises = .ok (some [0]) := by cbv
  have hopen : isClosure (scattered.trail [0]) = false := by cbv
  exact ⟨_, answer_of_findLast (t := ⟨0, scattered⟩) rfl (by cbv) (by cbv) hfind rfl hopen,
    rfl, rfl, by cbv, by cbv⟩

/-- The range of `f` starts at the first decorator and holds the line of `f`. -/
theorem lineRange_of_mem_subjects_scattered :
    ∃ m ∈ scatteredQuery.moments lenientSetup [⟨id, .call⟩] .empty scatteredWorld, ∃ s,
      m.answer = .ok (.subjects [s]) ∧ s.lineRange = .ok (3, 7) ∧ s.Covers 5 := by
  obtain ⟨s, hs, hline, hend, -⟩ := answer_scattered
  obtain ⟨m, hm, hanswer⟩ :
      ∃ m ∈ scatteredQuery.moments lenientSetup [⟨id, .call⟩] .empty scatteredWorld,
        m.answer = .ok (.subjects [s]) := by
    refine ⟨_, List.mem_singleton_self _, ?_⟩
    exact (answer_ask_call scatteredQuery lenientSetup scatteredWorld).trans (congrArg _ hs)
  obtain ⟨l, own, hl, -, hown, hrange, -, hcovers, -⟩ := lineRange_of_mem_subjects scatteredQuery
    lenientSetup [⟨id, .call⟩] scatteredWorld m hm [s] hanswer s (List.mem_singleton_self s)
  cases hl
  cases hline.symm.trans hown
  refine ⟨m, hm, s, hanswer, ?_, hcovers ?_⟩
  · rw [hrange, Subject.endLine, hend]
    rfl
  · intro e he
    cases hend.symm.trans he
    exact .inr (by decide)

end decorated

end Query

end DefSite
