import DefSite.Proofs.History
import DefSite.Proofs.Lifetime

/-!
# Failures leave no trace

A question that fails because the method's file cannot be parsed changes neither the sinks nor the
trees at hand, and the inquiry answers from then on as one that starts from nothing
(`failed_parse_leaves_no_trace`).

Before a tree was found out, findings hold the path of the method's file at most (`PathOnly`), and
each question begins by asking for that path.  So it makes no difference to any question whether the
path is there already (`run_ask_of_pathOnly`).
-/

namespace DefSite

/-- The questions that need the tree of the method's file. -/
def Access.NeedsTree : Access → Prop
  | path | context => False
  | call | skipped | tree | matchedTrail | subject => True

/-- All of a moment but what was found out. -/
def Moment.seen {σ : Type} (m : Moment σ) : Access × World σ × Except Fault Answer × World σ :=
  (m.access, m.before.2, m.answer, m.after.2)

/-- Findings that hold a path and nothing else. -/
def Findings.ofPath (p : PathName) : Findings :=
  ⟨some p, none, none, none, none⟩

namespace Query

variable {σ : Type} {q : Query} {setup : Setup σ} {f : Findings} {w : World σ} {l : Live.Location}

/-- Findings that hold the path of the method's file at most. -/
def PathOnly (setup : Setup σ) (l : Live.Location) (f : Findings) : Prop :=
  f = .empty ∨ f = .ofPath (setup.pathOf l.file)

/-- Until there is a tree, nothing but the path can be found out of a method whose source can be
read. -/
theorem PathOnly.of_consistent (hl : q.method.location = some l) (hd : setup.denies l.file = false)
    (hf : f.Consistent q setup) (htree : f.tree = none) : PathOnly setup l f := by
  have haddress : f.address = none := by
    cases ho : f.address with
    | none => rfl
    | some o =>
      obtain ⟨t, ht, -⟩ := hf.address o ho
      cases htree.symm.trans ht
  have hskipped : f.skipped = none := by
    cases hb : f.skipped with
    | none => rfl
    | some b =>
      rcases hf.skipped b hb with ⟨hu, -⟩ | ⟨-, t, o, ht, -⟩
      · exact absurd hu (not_unreadable_iff.mpr ⟨l, hl, hd⟩)
      · cases htree.symm.trans ht
  have hsubject : f.subject = none := by
    cases hs : f.subject with
    | none => rfl
    | some s =>
      obtain ⟨-, t, o, -, ht, -⟩ := hf.subject s hs
      cases htree.symm.trans ht
  have hpath := hf.path
  obtain ⟨path, tree, address, skipped, subject⟩ := f
  cases htree
  cases haddress
  cases hskipped
  cases hsubject
  cases path with
  | none => exact .inl rfl
  | some p =>
    obtain ⟨l', hl', rfl⟩ := hpath p rfl
    cases hl.symm.trans hl'
    exact .inr rfl

/-! ## The path makes no difference -/

section known

variable (hl : q.method.location = some l)

include hl in
theorem run_path_of_pathOnly (hf : PathOnly setup l f) :
    (q.path setup).run f w =
      (.ok (setup.pathOf l.file), .ofPath (setup.pathOf l.file), w) := by
  rcases hf with rfl | rfl
  · exact run_path hl fun p hp => by cases hp
  · exact run_path hl fun p hp => by
      cases hp
      rfl

include hl in
/-- What a question for the tree does when there is none. -/
theorem run_tree_of_pathOnly (hf : PathOnly setup l f) :
    (q.tree setup).run f w =
      match setup.parseFile (setup.pathOf l.file) w with
      | (.ok t, w) => (.ok t, { Findings.ofPath (setup.pathOf l.file) with tree := some t }, w)
      | (.error e, w) => (.error e, .ofPath (setup.pathOf l.file), w) := by
  have htree : f.tree = none := by
    rcases hf with rfl | rfl <;> rfl
  have hrun : (q.tree setup).run f w = _ := run_tree_of_none htree
  rw [run_path_of_pathOnly hl hf] at hrun
  exact hrun

include hl in
theorem run_address_of_pathOnly (hf : PathOnly setup l f) :
    (q.address setup).run f w = (q.address setup).run .empty w := by
  have haddress : f.address = none := by
    rcases hf with rfl | rfl <;> rfl
  rw [run_address_of_none haddress, run_address_of_none rfl, run_tree_of_pathOnly hl hf,
    run_tree_of_pathOnly hl (.inl rfl)]

include hl in
theorem run_skipped_of_pathOnly (hd : setup.denies l.file = false) (hf : PathOnly setup l f) :
    (q.skipped setup).run f w = (q.skipped setup).run .empty w := by
  have hr : ¬ q.Unreadable setup := not_unreadable_iff.mpr ⟨l, hl, hd⟩
  have hskipped : f.skipped = none := by
    rcases hf with rfl | rfl <;> rfl
  rw [run_skipped_of_readable hskipped hr, run_skipped_of_readable rfl hr, run_matchedTrail,
    run_matchedTrail, run_address_of_pathOnly hl hf]

include hl in
theorem run_subject_of_pathOnly (hf : PathOnly setup l f) :
    (q.subject setup).run f w = (q.subject setup).run .empty w := by
  have hsubject : f.subject = none := by
    rcases hf with rfl | rfl <;> rfl
  unfold subject
  rw [Inquiry.run_once_of_none hsubject, Inquiry.run_once_of_none rfl, Inquiry.run_bind,
    Inquiry.run_bind, run_address_of_pathOnly hl hf]

include hl in
/-- Every question goes as if nothing had been found out. -/
theorem run_ask_of_pathOnly (hd : setup.denies l.file = false) (hf : PathOnly setup l f)
    (access : Access) : (q.ask setup access).run f w = (q.ask setup access).run .empty w := by
  have hempty : PathOnly setup l .empty := .inl rfl
  cases access with
  | call =>
    simp only [ask, Inquiry.run_bind, run_call, run_skipped_of_pathOnly hl hd hf]
  | skipped => simp only [ask, Inquiry.run_bind, run_skipped_of_pathOnly hl hd hf]
  | path =>
    simp only [ask, Inquiry.run_bind, run_path_of_pathOnly hl hf, run_path_of_pathOnly hl hempty]
  | context =>
    simp only [ask, context, Inquiry.run_bind, run_path_of_pathOnly hl hf,
      run_path_of_pathOnly hl hempty]
  | tree =>
    simp only [ask, Inquiry.run_bind, run_tree_of_pathOnly hl hf, run_tree_of_pathOnly hl hempty]
  | matchedTrail =>
    simp only [ask, Inquiry.run_bind, run_matchedTrail, run_address_of_pathOnly hl hf]
  | subject => simp only [ask, Inquiry.run_bind, run_subject_of_pathOnly hl hf]

include hl in
/-- Visits go as if nothing had been found out before them. -/
theorem map_seen_moments_of_pathOnly (hd : setup.denies l.file = false) (hf : PathOnly setup l f)
    (visits : List (Visit σ)) :
    (q.moments setup visits f w).map Moment.seen =
      (q.moments setup visits .empty w).map Moment.seen := by
  cases visits with
  | nil => rfl
  | cons v visits =>
    simp only [moments, run_ask_of_pathOnly hl hd hf v.access]
    rfl

end known

/-! ## Questions that fail with the parser -/

theorem run_ask_of_parse_error (hl : q.method.location = some l)
    (hd : setup.denies l.file = false) (hf : PathOnly setup l f) {e : Fault} {w' : World σ}
    (hparse : setup.parseFile (setup.pathOf l.file) w = (.error e, w')) {access : Access}
    (ha : access.NeedsTree) :
    (q.ask setup access).run f w = (.error e, .ofPath (setup.pathOf l.file), w') := by
  have htree : (q.tree setup).run .empty w = (.error e, .ofPath (setup.pathOf l.file), w') := by
    rw [run_tree_of_pathOnly hl (.inl rfl), hparse]
  have haddress : (q.address setup).run .empty w =
      (.error e, .ofPath (setup.pathOf l.file), w') := by
    rw [run_address_of_none rfl, htree]
  have hskipped : (q.skipped setup).run .empty w =
      (.error e, .ofPath (setup.pathOf l.file), w') := by
    rw [run_skipped_of_readable rfl (not_unreadable_iff.mpr ⟨l, hl, hd⟩), run_matchedTrail,
      haddress]
  rw [run_ask_of_pathOnly hl hd hf]
  cases access with
  | path => cases ha
  | context => cases ha
  | call => simp only [ask, Inquiry.run_bind, run_call, hskipped]
  | skipped => simp only [ask, Inquiry.run_bind, hskipped]
  | tree => simp only [ask, Inquiry.run_bind, htree]
  | matchedTrail => simp only [ask, Inquiry.run_bind, run_matchedTrail, haddress]
  | subject => simp only [ask, Inquiry.run_bind, run_subject_of_error rfl haddress]

/-! ## Questions of a run -/

theorem consistent_of_mem_moments (hf : f.Consistent q setup) {visits : List (Visit (σ × Log))}
    {w : World (σ × Log)} {m : Moment (σ × Log)}
    (hm : m ∈ q.moments setup.logged visits f w) : m.before.1.Consistent q setup := by
  induction visits generalizing f w with
  | nil => cases hm
  | cons v visits ih =>
    rcases hask : (q.ask setup.logged v.access).run f (v.meanwhile w) with ⟨x, f₁, w₁⟩
    simp only [moments, hask] at hm
    rcases List.mem_cons.mp hm with rfl | hm
    · exact hf
    · exact ih (fits_ask hf hask).leads.consistent hm

/-- What was found out before a question fits together. -/
theorem consistent_before {visits : List (Visit σ)} {m : Moment σ}
    (hm : m ∈ q.moments setup visits .empty w) : m.before.1.Consistent q setup := by
  have hplain : (q.moments setup.logged (visits.map .logged) .empty (w.withLog [])).map .plain =
      q.moments setup visits .empty w := q.map_plain_moments setup visits .empty (w.withLog [])
  rw [← hplain] at hm
  obtain ⟨m', hm', rfl⟩ := List.mem_map.mp hm
  exact consistent_of_mem_moments (.empty q setup) hm'

/-- The answer and the world that a moment of a run ends with are those of its question. -/
theorem ask_of_mem_moments {visits : List (Visit σ)} {m : Moment σ}
    (hm : m ∈ q.moments setup visits f w) :
    (q.ask setup m.access).run m.before.1 m.before.2 = (m.answer, m.after) := by
  induction visits generalizing f w with
  | nil => cases hm
  | cons v visits ih =>
    rcases List.mem_cons.mp hm with rfl | hm
    · rfl
    · exact ih hm

end Query

section parsing

variable {δ : Type} [DecidableEq δ] {r : Reader δ} {path : PathName} {e : Fault}

theorem Holdings.parse_eq_of_error {l : Holdings δ} (he : (parse r path l).outcome = .error e) :
    parse r path l = ⟨.error e, false, l⟩ := by
  have hcase := parseCase r path l
  generalize parse r path l = p at hcase he
  cases hcase with
  | unread => cases he; rfl
  | flawed => cases he; rfl
  | atHand => cases he
  | parsed => cases he

/-- A file that cannot be parsed leaves the world as it was. -/
theorem parseFile_of_parse_error {setup : Setup (Holdings δ)}
    (hparse : setup.parse = Holdings.parse r)
    {w : World (Holdings δ)} (he : (Holdings.parse r path w.parser).outcome = .error e) :
    setup.parseFile path w = (.error e, w) := by
  unfold Setup.parseFile
  rw [hparse, Holdings.parse_eq_of_error he]
  rfl

end parsing

open Query Holdings in
/-- **Failures leave no trace.**  Visit an inquiry for a method whose source can be read, in any way
and in any changing world.  Whenever a question needs the tree, none was found out yet and the
method's file cannot be parsed, the question fails with the parser's fault; the sinks, the files and
the trees at hand stay as they are; and whatever happens and is asked from then on, the answers and
the world are those of an inquiry that starts from nothing at that moment. -/
theorem failed_parse_leaves_no_trace {δ : Type} [DecidableEq δ] (r : Reader δ)
    (pathOf : String → PathName) (denylist : Denylist) (sink : SinkId) (q : Query)
    (l : Live.Location) (hl : q.method.location = some l) (hd : denylist.denies l.file = false)
    (visits : List (Visit (Holdings δ))) (w : World (Holdings δ)) (m : Moment (Holdings δ))
    (hm : m ∈ q.moments (r.setup pathOf denylist sink) visits .empty w)
    (htree : m.before.1.tree = none) (ha : m.access.NeedsTree) (e : Fault)
    (he : (Holdings.parse r (pathOf l.file) m.before.2.parser).outcome = .error e) :
    m.answer = .error e ∧ m.after.2 = m.before.2 ∧
      ∀ later, (q.moments (r.setup pathOf denylist sink) later m.after.1 m.after.2).map
          Moment.seen =
        (q.moments (r.setup pathOf denylist sink) later .empty m.after.2).map Moment.seen := by
  have hd' : (r.setup pathOf denylist sink).denies l.file = false := hd
  have hbefore : PathOnly (r.setup pathOf denylist sink) l m.before.1 :=
    .of_consistent hl hd' (consistent_before hm) htree
  have hparse : (r.setup pathOf denylist sink).parseFile (pathOf l.file) m.before.2 =
      (.error e, m.before.2) := parseFile_of_parse_error rfl he
  have hask := ask_of_mem_moments hm
  rw [run_ask_of_parse_error hl hd' hbefore hparse ha] at hask
  obtain ⟨hanswer, hafter⟩ := Prod.mk.inj hask
  rw [← hanswer, ← hafter]
  exact ⟨rfl, rfl, fun later => map_seen_moments_of_pathOnly hl hd' (.inr rfl) later⟩

section repaired

/-- The file is missing when its path is asked for and when a call is made. -/
def missing : List (Visit (Holdings Nat)) :=
  [⟨id, .path⟩, ⟨id, .call⟩]

/-- The file is written, reading `x`, and another call is made. -/
def repairing : List (Visit (Holdings Nat)) :=
  [⟨fun w => { w with parser := { w.parser with files := Holdings.oneFile [120] } }, .call⟩]

/-- The moments of an inquiry while its file is missing. -/
def missed : List (Moment (Holdings Nat)) :=
  oneQuery.moments oneFileSetup missing .empty (.opening .empty .empty)

theorem failed_parse_leaves_no_trace_repaired :
    ∃ m ∈ missed, m.before.1.tree = none ∧ m.access.NeedsTree ∧
      (Holdings.parse Holdings.byLength Holdings.onePath m.before.2.parser).outcome =
        .error (.noSuchFile Holdings.onePath) ∧
      m.answer = .error (.noSuchFile Holdings.onePath) ∧ m.after.2 = m.before.2 ∧
      (oneQuery.moments oneFileSetup repairing m.after.1 m.after.2).map Moment.seen =
        (oneQuery.moments oneFileSetup repairing .empty m.after.2).map Moment.seen := by
  have hm : missed[1] ∈ missed := List.getElem_mem (by decide)
  have htree : missed[1].before.1.tree = none := rfl
  have he : (Holdings.parse Holdings.byLength Holdings.onePath missed[1].before.2.parser).outcome =
      .error (.noSuchFile Holdings.onePath) := rfl
  obtain ⟨hanswer, hworld, hlater⟩ := failed_parse_leaves_no_trace Holdings.byLength _ _ _ oneQuery
    ⟨"a.py", 1⟩ rfl rfl missing _ missed[1] hm htree trivial _ he
  exact ⟨missed[1], hm, htree, trivial, he, hanswer, hworld, hlater repairing⟩

end repaired

end DefSite
