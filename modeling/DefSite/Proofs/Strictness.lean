import Mathlib
import DefSite.Match.Shelf
import DefSite.Proofs.History
import DefSite.Proofs.Visits

/-!
# Stricter denylists

A setup that denies more can only hide what another one finds.  Where both read the method's file,
their calls end in the same way (`ending_eq_of_parse_eq`); where only the stricter one does not, its
call reports that there is no readable source and asks the parser for nothing.  So this is all by
which the two can differ (`callAfresh_stricter`).
-/

namespace DefSite

/-- What is denied is denied by every denylist with more entries. -/
theorem Denylist.denies_mono {d d' : Denylist} (hexact : d.exact ⊆ d'.exact)
    (hstarts : d.starts ⊆ d'.starts) {filename : String} (h : d.denies filename) :
    d'.denies filename := by
  rw [denies_iff] at h ⊢
  rcases h with h | ⟨s, hs, hprefix⟩
  · exact .inl (hexact h)
  · exact .inr ⟨s, hstarts hs, hprefix⟩

/-- The subject, as found in a setup with that sink. -/
def Subject.reportingTo (s : Subject) (sink : SinkId) : Subject :=
  { s with sink }

namespace Query

variable {σ : Type} {q : Query} {setup setup' : Setup σ} {w w' : World σ}

variable (q setup w) in
/-- What a call asks the parser for, and what that answers. -/
def asked : Log :=
  (q.callAfresh setup.logged (w.withLog [])).2.parser.2

theorem asked_of_unreadable (hu : q.Unreadable setup) : q.asked setup w = [] := by
  have hu' : q.Unreadable setup.logged := hu
  unfold asked
  rw [callAfresh_of_unreadable hu']
  rfl

theorem reports_of_unreadable (hu : q.Unreadable setup) :
    q.reports setup w = [noSourceMessage q.method] := by
  have he : q.EndsIn setup w .unreadable := hu
  unfold reports
  rw [← he.eq_ending]
  rfl

/-- Calls whose methods are denied alike, and that are given the same tree, end in the same way. -/
theorem ending_eq_of_parse_eq
    (hdenies : ∀ l, q.method.location = some l → setup'.denies l.file = setup.denies l.file)
    (hparse : ∀ l, q.method.location = some l →
      (setup'.parseFile (setup'.pathOf l.file) w').1 =
        (setup.parseFile (setup.pathOf l.file) w).1) :
    q.ending setup' w' = q.ending setup w := by
  unfold ending
  cases hl : q.method.location with
  | none => rfl
  | some l =>
    dsimp only
    rw [hdenies l hl, hparse l hl]

/-- One way of ending gives, in two setups with the same paths, answers that differ only in where
their subjects report. -/
theorem Ending.answer_eq_map (hpath : setup'.pathOf = setup.pathOf) (e : Ending) :
    e.answer q setup' = (e.answer q setup).map (·.map (·.reportingTo setup'.sink)) := by
  cases e with
  | found l t a n =>
    simp only [Ending.answer, hpath]
    rfl
  | unreadable => rfl
  | inClosure l => rfl
  | absent l => rfl
  | failed l e => rfl

/-- A call that finds something reports nothing. -/
theorem Ending.diagnostics_eq_nil {e : Ending} {ss : List Subject} (hss : ss ≠ [])
    (h : e.answer q setup = .ok ss) : e.diagnostics q = [] := by
  cases e with
  | found l t a n => rfl
  | unreadable => exact absurd (Except.ok.inj h).symm hss
  | inClosure l => exact absurd (Except.ok.inj h).symm hss
  | absent l => rfl
  | failed l e => rfl

/-- **Denylists are monotone.**  Take two setups that agree in their parsers and paths, the second
with all entries of the first one's denylist and more, in worlds with one state of the parser.  If a
call finds a subject under the stricter one, it finds the same subject under the other one, up to
where that reports, and neither reports anything.  If it reports under the lenient one that there is
no readable source, so it does under the stricter one.  And if the calls differ in any way, the one
under the stricter setup has answered with nothing, has reported just that there is no readable
source, and has not asked the parser for anything. -/
theorem callAfresh_stricter {σ : Type} (q : Query) (setup setup' : Setup σ) (w w' : World σ)
    (hparse : setup'.parse = setup.parse) (hpath : setup'.pathOf = setup.pathOf)
    (hexact : setup.denylist.exact ⊆ setup'.denylist.exact)
    (hstarts : setup.denylist.starts ⊆ setup'.denylist.starts) (hparser : w'.parser = w.parser) :
    ∃ messages messages' : List String,
      (q.callAfresh setup w).2.board = messages.foldl (·.append setup.sink ·) w.board ∧
      (q.callAfresh setup' w').2.board = messages'.foldl (·.append setup'.sink ·) w'.board ∧
      (∀ ss', ss' ≠ [] → (q.callAfresh setup' w').1 = .ok ss' →
        (∃ ss, (q.callAfresh setup w).1 = .ok ss ∧ ss' = ss.map (·.reportingTo setup'.sink)) ∧
          messages = [] ∧ messages' = []) ∧
      (messages = [noSourceMessage q.method] → messages' = [noSourceMessage q.method]) ∧
      (¬ ((q.callAfresh setup' w').1 =
            (q.callAfresh setup w).1.map (·.map (·.reportingTo setup'.sink)) ∧
          messages' = messages) →
        (q.callAfresh setup' w').1 = .ok [] ∧ messages' = [noSourceMessage q.method] ∧
          q.asked setup' w' = []) := by
  refine ⟨q.reports setup w, q.reports setup' w', board_callAfresh, board_callAfresh, ?_⟩
  by_cases hu : q.Unreadable setup'
  · have hanswer : (q.callAfresh setup' w').1 = .ok [] := by rw [callAfresh_of_unreadable hu]
    have hreports := reports_of_unreadable (w := w') hu
    refine ⟨fun ss' hss' h => ?_, fun _ => hreports, fun _ => ⟨hanswer, hreports, ?_⟩⟩
    · exact absurd (Except.ok.inj (hanswer.symm.trans h)).symm hss'
    · exact asked_of_unreadable hu
  · -- what the stricter denylist allows, both allow, so both calls end in the same way
    obtain ⟨l, hl, hd'⟩ := not_unreadable_iff.mp hu
    have hd : setup.denies l.file = false := by
      refine Bool.eq_false_iff.mpr fun hd => ?_
      have hd'' : setup'.denies l.file = true := Denylist.denies_mono hexact hstarts hd
      cases hd'.symm.trans hd''
    have hends : q.ending setup' w' = q.ending setup w := by
      refine ending_eq_of_parse_eq (fun l' hl' => ?_) fun l' hl' => ?_
      · cases hl.symm.trans hl'
        rw [hd, hd']
      · show (setup'.parse _ _).outcome = (setup.parse _ _).outcome
        rw [hparse, hpath, hparser]
    have hreports : q.reports setup' w' = q.reports setup w := by
      unfold reports
      rw [hends]
    have hanswer : (q.callAfresh setup' w').1 =
        (q.callAfresh setup w).1.map (·.map (·.reportingTo setup'.sink)) := by
      rw [(endsIn_ending q setup w).2, (endsIn_ending q setup' w').2, hends]
      exact Ending.answer_eq_map hpath _
    refine ⟨fun ss' hss' h => ?_, fun hm => hreports.trans hm,
      fun hdiffer => absurd ⟨hanswer, hreports⟩ hdiffer⟩
    have hnone : q.reports setup' w' = [] := by
      rw [(endsIn_ending q setup' w').2] at h
      exact Ending.diagnostics_eq_nil hss' h
    refine ⟨?_, hreports.symm.trans hnone, hnone⟩
    rw [hanswer] at h
    cases hss : (q.callAfresh setup w).1 with
    | error e =>
      rw [hss] at h
      cases h
    | ok ss =>
      rw [hss] at h
      cases h
      exact ⟨ss, rfl, rfl⟩

section denied

/-- A function `f` on the first line. -/
def oneFunction : Node :=
  let f : Node := .mk .functionDef (some 1) none [(.name, .word "f"), (.decorators, .slots [])]
  .mk .module none none [(.body, .slots [some f])]

/-- A shelf where `a.py` holds the function. -/
def shelfOfOne : World Shelf :=
  ⟨Shelf.empty.put Holdings.onePath (.ok oneFunction), .empty, []⟩

def lenientSetup : Setup Shelf :=
  ⟨Shelf.parse, fun _ => Holdings.onePath, ⟨["<string>"], ["<frozen "]⟩, 0⟩

def strictSetup : Setup Shelf :=
  ⟨Shelf.parse, fun _ => Holdings.onePath, ⟨["<string>", "<stdin>"], ["<frozen ", "a."]⟩, 1⟩

/-- Once names that begin with `a.` are denied, the function is hidden. -/
theorem callAfresh_stricter_denied :
    lenientSetup.denylist.exact ⊆ strictSetup.denylist.exact ∧
      lenientSetup.denylist.starts ⊆ strictSetup.denylist.starts ∧
      (∃ s, (oneQuery.callAfresh lenientSetup shelfOfOne).1 = .ok [s]) ∧
      (oneQuery.callAfresh strictSetup shelfOfOne).1 = .ok [] ∧
      (oneQuery.callAfresh strictSetup shelfOfOne).2.board =
        Board.empty.append 1 (noSourceMessage oneQuery.method) ∧
      oneQuery.asked strictSetup shelfOfOne = [] := by
  have hexact : lenientSetup.denylist.exact ⊆ strictSetup.denylist.exact := by decide
  have hstarts : lenientSetup.denylist.starts ⊆ strictSetup.denylist.starts := by decide
  have hfind : oneFunction.findLast oneQuery.recognises = .ok (some [0]) := by cbv
  have hsearches : oneQuery.Searches lenientSetup shelfOfOne ⟨"a.py", 1⟩ ⟨0, oneFunction⟩ :=
    ⟨rfl, by cbv, by cbv, Node.exists_findLast_iff.mp ⟨_, hfind⟩⟩
  obtain ⟨n, hlast⟩ := isLast_of_findLast hsearches.located hfind
  have hopen : ¬ oneFunction.InClosure [0] n := by
    rw [← Node.isClosure_trail_iff hlast.at?]
    cbv
    simp
  have hends : oneQuery.EndsIn lenientSetup shelfOfOne
      (.found ⟨"a.py", 1⟩ ⟨0, oneFunction⟩ [0] n) := ⟨hsearches, hlast, hopen⟩
  obtain ⟨s, hfound⟩ : ∃ s, (oneQuery.callAfresh lenientSetup shelfOfOne).1 = .ok [s] := by
    rw [(endsIn_ending oneQuery lenientSetup shelfOfOne).2, ← hends.eq_ending]
    exact ⟨_, rfl⟩
  have hdenied : oneQuery.Unreadable strictSetup := by
    rintro l ⟨⟩
    cbv
  obtain ⟨messages, messages', -, hboard, -, -, hdiffer⟩ :=
    callAfresh_stricter oneQuery lenientSetup strictSetup shelfOfOne shelfOfOne rfl rfl hexact
      hstarts rfl
  obtain ⟨hanswer, rfl, hasked⟩ := hdiffer fun hsame => by
    rw [hfound, callAfresh_of_unreadable hdenied] at hsame
    cases hsame.1
  exact ⟨hexact, hstarts, ⟨s, hfound⟩, hanswer, hboard, hasked⟩

end denied

end Query

end DefSite
