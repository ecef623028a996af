import DefSite.Match.Inquiry

/-!
# What the questions of an inquiry do

Each question of a query is described by what it answers and what it leaves behind, from what was
found out before.  A question whose answer was kept changes nothing; one whose answer was not kept
asks the questions that it rests on first, and stops where one of them fails.
-/

namespace DefSite

/-- The trail to the definition that stands at an address, and the address; nothing at all if there
is no definition. -/
def ParsedTree.trailTo (t : ParsedTree) : Option Address → List Node × Address
  | some a => (t.root.trail a, a)
  | none => ([], [])

namespace Query

variable {σ : Type} (q : Query) (setup : Setup σ)

/-- The method's code points at no source that can be read. -/
def Unreadable : Prop :=
  ∀ l, q.method.location = some l → setup.denies l.file

/-- The subject for the definition at an address of a tree, if there is one. -/
def subjectAt (l : Live.Location) (t : ParsedTree) (o : Option Address) : Option Subject :=
  o.bind fun a => (t.root.at? a).map fun n =>
    ⟨q.variant.subjectKind, ⟨q.scope, setup.pathOf l.file⟩, n, ⟨t.id, a⟩, setup.sink⟩

/-- What the journal says of the search for the definition. -/
def entryAt (l : Live.Location) (t : ParsedTree) (o : Option Address) : Entry :=
  match o.bind t.root.at? with
  | none => .noDefinition q.method.text (setup.pathOf l.file)
  | some n => .matched q.method.text (setup.pathOf l.file) (n.line?.getD 0)

variable {q setup} {f : Findings} {w : World σ} {l : Live.Location}

theorem not_unreadable_iff :
    ¬ q.Unreadable setup ↔ ∃ l, q.method.location = some l ∧ setup.denies l.file = false := by
  simp [Unreadable]

/-! ## The path and the tree -/

theorem run_path (hl : q.method.location = some l)
    (hp : ∀ p, f.path = some p → p = setup.pathOf l.file) :
    (q.path setup).run f w =
      (.ok (setup.pathOf l.file), { f with path := some (setup.pathOf l.file) }, w) := by
  unfold path
  cases h : f.path with
  | some p =>
    rw [Inquiry.run_once_of_some h, ← hp p h, ← h]
  | none =>
    rw [Inquiry.run_once_of_none h, hl]
    rfl

theorem run_path_of_none (hl : q.method.location = none) (hp : f.path = none) :
    (q.path setup).run f w = (.error (.noLocation .path), f, w) := by
  unfold path
  rw [Inquiry.run_once_of_none hp, hl]
  rfl

theorem run_tree_of_some {t : ParsedTree} (h : f.tree = some t) :
    (q.tree setup).run f w = (.ok t, f, w) :=
  Inquiry.run_once_of_some h

theorem run_tree_of_none (h : f.tree = none) :
    (q.tree setup).run f w =
      match (q.path setup).run f w with
      | (.error e, f, w) => (.error e, f, w)
      | (.ok path, f, w) =>
        match setup.parseFile path w with
        | (.ok t, w) => (.ok t, { f with tree := some t }, w)
        | (.error e, w) => (.error e, f, w) := by
  unfold tree
  rw [Inquiry.run_once_of_none h, Inquiry.run_bind]
  rcases (q.path setup).run f w with ⟨e | path, f, w⟩
  · rfl
  · simp only [Inquiry.run_bind, Inquiry.run_act]
    rcases setup.parseFile path w with ⟨e | t, w⟩ <;> rfl

/-! ## The definition -/

theorem run_address_of_some {o : Option Address} (h : f.address = some o) :
    (q.address setup).run f w = (.ok o, f, w) :=
  Inquiry.run_once_of_some h

theorem run_address_of_none (h : f.address = none) :
    (q.address setup).run f w =
      match (q.tree setup).run f w with
      | (.error e, f, w) => (.error e, f, w)
      | (.ok t, f, w) =>
        match t.root.findLast q.recognises with
        | .ok o => (.ok o, { f with address := some o }, w)
        | .error e => (.error e, f, w) := by
  unfold address
  rw [Inquiry.run_once_of_none h, Inquiry.run_bind]
  rcases (q.tree setup).run f w with ⟨e | t, f, w⟩
  · rfl
  · dsimp only
    cases t.root.findLast q.recognises <;> rfl

theorem run_matchedTrail :
    (q.matchedTrail setup).run f w =
      match (q.address setup).run f w with
      | (.error e, f, w) => (.error e, f, w)
      | (.ok o, f, w) =>
        match (q.tree setup).run f w with
        | (.error e, f, w) => (.error e, f, w)
        | (.ok t, f, w) => (.ok (t.trailTo o), f, w) := by
  unfold matchedTrail
  rw [Inquiry.run_bind]
  rcases (q.address setup).run f w with ⟨e | o, f, w⟩
  · rfl
  · simp only [Inquiry.run_bind]
    rcases (q.tree setup).run f w with ⟨e | t, f, w⟩
    · rfl
    · cases o <;> rfl

/-! ## The decision to skip -/

theorem run_skipped_of_some {b : Bool} (h : f.skipped = some b) :
    (q.skipped setup).run f w = (.ok b, f, w) :=
  Inquiry.run_once_of_some h

theorem run_skipped_of_unreadable (h : f.skipped = none) (hu : q.Unreadable setup) :
    (q.skipped setup).run f w =
      (.ok true, { f with skipped := some true }, setup.warn (noSourceMessage q.method) w) := by
  unfold skipped
  rw [Inquiry.run_once_of_none h]
  cases hl : q.method.location with
  | none => rfl
  | some l =>
    simp only [hu l hl, ↓reduceIte]
    rfl

theorem run_skipped_of_readable (h : f.skipped = none) (hr : ¬ q.Unreadable setup) :
    (q.skipped setup).run f w =
      match (q.matchedTrail setup).run f w with
      | (.error e, f, w) => (.error e, f, w)
      | (.ok trail, f, w) =>
        if isClosure trail.1 then
          (.ok true, { f with skipped := some true }, setup.warn (closureMessage q.method) w)
        else (.ok false, { f with skipped := some false }, w) := by
  obtain ⟨l, hl, hd⟩ := not_unreadable_iff.mp hr
  unfold skipped
  rw [Inquiry.run_once_of_none h]
  simp only [hl, hd, Bool.false_eq_true, ↓reduceIte, Inquiry.run_bind]
  rcases (q.matchedTrail setup).run f w with ⟨e | trail, f, w⟩
  · rfl
  · cases hc : isClosure trail.1 <;> simp [hc] <;> rfl

/-! ## The subject -/

theorem run_subject_of_some {s : Option Subject} (h : f.subject = some s) :
    (q.subject setup).run f w = (.ok s, f, w) :=
  Inquiry.run_once_of_some h

theorem run_subject_of_error {f' : Findings} {w' : World σ} {e : Fault} (h : f.subject = none)
    (ha : (q.address setup).run f w = (.error e, f', w')) :
    (q.subject setup).run f w = (.error e, f', w') := by
  unfold subject
  rw [Inquiry.run_once_of_none h, Inquiry.run_bind, ha]

/-- Where the path and the tree are known and the definition has a line, nothing can fail. -/
theorem run_subject_of_ok {f' : Findings} {w' : World σ} {t : ParsedTree} {o : Option Address}
    (h : f.subject = none) (ha : (q.address setup).run f w = (.ok o, f', w'))
    (ht : f'.tree = some t) (hp : f'.path = some (setup.pathOf l.file))
    (hn : ∀ n, o.bind t.root.at? = some n → ∃ line, n.line? = some line) :
    (q.subject setup).run f w =
      (.ok (q.subjectAt setup l t o), { f' with subject := some (q.subjectAt setup l t o) },
        w'.record (q.entryAt setup l t o)) := by
  unfold subject
  rw [Inquiry.run_once_of_none h, Inquiry.run_bind, ha]
  simp only [Inquiry.run_bind, run_tree_of_some ht]
  have hpath : ∀ w, (q.path setup).run f' w = (.ok (setup.pathOf l.file), f', w) := fun w =>
    Inquiry.run_once_of_some hp
  have hcontext : ∀ w, (q.context setup).run f' w =
      (.ok ⟨q.scope, setup.pathOf l.file⟩, f', w) := fun w => by
    unfold context
    rw [Inquiry.run_bind, hpath]
    rfl
  cases o with
  | none =>
    simp only [Option.bind_none, Inquiry.run_bind, hpath, subjectAt, entryAt]
    rfl
  | some a =>
    cases hm : t.root.at? a with
    | none =>
      simp only [Option.bind_some, hm, Option.map_none, Inquiry.run_bind, hpath, subjectAt, entryAt]
      rfl
    | some n =>
      obtain ⟨line, hline⟩ := hn n hm
      have hread : n.readLine = .ok line := by rw [Node.readLine, hline]
      simp only [Option.bind_some, hm, Option.map_some, Inquiry.run_bind, hpath, subjectAt, entryAt,
        hread, subject.liftExcept, Inquiry.run_pure, Inquiry.run_act, hcontext, hline]
      rfl

/-! ## The answer -/

theorem run_call :
    (q.call setup).run f w =
      match (q.skipped setup).run f w with
      | (.error e, f, w) => (.error e, f, w)
      | (.ok true, f, w) => (.ok [], f, w)
      | (.ok false, f, w) =>
        match (q.subject setup).run f w with
        | (.error e, f, w) => (.error e, f, w)
        | (.ok s, f, w) => (.ok s.toList, f, w) := by
  unfold call
  rw [Inquiry.run_bind]
  rcases (q.skipped setup).run f w with ⟨e | b, f, w⟩
  · rfl
  · cases b with
    | true => rfl
    | false =>
      simp only [Bool.false_eq_true, ↓reduceIte, Inquiry.run_bind]
      rcases (q.subject setup).run f w with ⟨e | s, f, w⟩ <;> rfl

end Query

end DefSite
