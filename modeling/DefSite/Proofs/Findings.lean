import DefSite.Proofs.Visits

/-!
# What an inquiry finds out

Findings grow, and answers are made of them.  Findings are `Consistent` if they are those of a
method whose file has the tree that was found out: that tree decides all the rest.
-/

namespace DefSite

/-! ## Findings and answers -/

namespace Findings

/-- What was found out stays. -/
structure Grows (f g : Findings) : Prop where
  path : ∀ p, f.path = some p → g.path = some p
  tree : ∀ t, f.tree = some t → g.tree = some t
  address : ∀ o, f.address = some o → g.address = some o
  skipped : ∀ b, f.skipped = some b → g.skipped = some b
  subject : ∀ s, f.subject = some s → g.subject = some s

variable {f g h : Findings}

theorem Grows.refl (f : Findings) : f.Grows f :=
  ⟨fun _ => id, fun _ => id, fun _ => id, fun _ => id, fun _ => id⟩

theorem Grows.trans (hfg : f.Grows g) (hgh : g.Grows h) : f.Grows h where
  path p hp := hgh.path p (hfg.path p hp)
  tree t ht := hgh.tree t (hfg.tree t ht)
  address o ho := hgh.address o (hfg.address o ho)
  skipped b hb := hgh.skipped b (hfg.skipped b hb)
  subject s hs := hgh.subject s (hfg.subject s hs)

theorem Grows.withTree (hnone : f.tree = none) (t : ParsedTree) :
    f.Grows { f with tree := some t } where
  path _ := id
  tree u hu := by cases hnone.symm.trans hu
  address _ := id
  skipped _ := id
  subject _ := id

theorem Grows.withAddress (hnone : f.address = none) (o : Option Address) :
    f.Grows { f with address := some o } where
  path _ := id
  tree _ := id
  address o' ho' := by cases hnone.symm.trans ho'
  skipped _ := id
  subject _ := id

theorem Grows.withSkipped (hnone : f.skipped = none) (b : Bool) :
    f.Grows { f with skipped := some b } where
  path _ := id
  tree _ := id
  address _ := id
  skipped b' hb' := by cases hnone.symm.trans hb'
  subject _ := id

theorem Grows.withSubject (hnone : f.subject = none) (s : Option Subject) :
    f.Grows { f with subject := some s } where
  path _ := id
  tree _ := id
  address _ := id
  skipped _ := id
  subject s' hs' := by cases hnone.symm.trans hs'

/-- The tree that was found out since then. -/
def newTree (f g : Findings) : List ParsedTree :=
  if f.tree.isSome then [] else g.tree.toList

theorem newTree_of_eq (h : g.tree = f.tree) : f.newTree g = [] := by
  unfold newTree
  rw [h]
  cases f.tree <;> rfl

theorem newTree_append (hfg : f.Grows g) (hgh : g.Grows h) :
    f.newTree g ++ g.newTree h = f.newTree h := by
  unfold newTree
  cases hf : f.tree with
  | some t =>
    rw [hfg.tree t hf]
    rfl
  | none =>
    cases hg : g.tree with
    | none => rfl
    | some t =>
      rw [hgh.tree t hg]
      rfl

/-- An answer is made of what was found out. -/
def Gives (q : Query) (f : Findings) : Answer → Prop
  | .path p => f.path = some p
  | .context c => c.scope = q.scope ∧ f.path = some c.path
  | .tree t => f.tree = some t
  | .trail p => ∃ t o, f.tree = some t ∧ f.address = some o ∧ p = t.trailTo o
  | .skipped b => f.skipped = some b
  | .subject s => f.subject = some s
  | .subjects ss => (f.skipped = some true ∧ ss = []) ∨
    (f.skipped = some false ∧ ∃ s, f.subject = some s ∧ ss = s.toList)

theorem Gives.mono {q : Query} {a : Answer} (ha : f.Gives q a) (hfg : f.Grows g) : g.Gives q a := by
  cases a with
  | path p => exact hfg.path p ha
  | context c => exact ⟨ha.1, hfg.path _ ha.2⟩
  | tree t => exact hfg.tree t ha
  | trail p =>
    obtain ⟨t, o, ht, ho, hp⟩ := ha
    exact ⟨t, o, hfg.tree t ht, hfg.address o ho, hp⟩
  | skipped b => exact hfg.skipped b ha
  | subject s => exact hfg.subject s ha
  | subjects ss =>
    rcases ha with ⟨hb, hss⟩ | ⟨hb, s, hs, hss⟩
    · exact .inl ⟨hfg.skipped _ hb, hss⟩
    · exact .inr ⟨hfg.skipped _ hb, s, hfg.subject s hs, hss⟩

/-- Findings hold at most one answer to each question. -/
theorem Gives.unique {q : Query} {a b : Answer} (ha : f.Gives q a)
    (hb : f.Gives q b) (h : a.access = b.access) : a = b := by
  cases a <;> cases b <;> cases h
  case subjects.subjects =>
    rcases ha with ⟨ha, rfl⟩ | ⟨ha, s, hs, rfl⟩ <;> rcases hb with ⟨hb, rfl⟩ | ⟨hb, s', hs', rfl⟩
    · rfl
    · cases ha.symm.trans hb
    · cases ha.symm.trans hb
    · cases hs.symm.trans hs'
      rfl
  case skipped.skipped => exact congrArg Answer.skipped (Option.some.inj (ha.symm.trans hb))
  case path.path => exact congrArg Answer.path (Option.some.inj (ha.symm.trans hb))
  case context.context c d =>
    obtain ⟨hscope, hpath⟩ := ha
    obtain ⟨hscope', hpath'⟩ := hb
    cases c
    cases d
    cases hscope.trans hscope'.symm
    cases hpath.symm.trans hpath'
    rfl
  case tree.tree => exact congrArg Answer.tree (Option.some.inj (ha.symm.trans hb))
  case trail.trail =>
    obtain ⟨t, o, ht, ho, rfl⟩ := ha
    obtain ⟨t', o', ht', ho', rfl⟩ := hb
    cases ht.symm.trans ht'
    cases ho.symm.trans ho'
    rfl
  case subject.subject => exact congrArg Answer.subject (Option.some.inj (ha.symm.trans hb))

/-- An answer to a question that settles whether the method is skipped has settled it. -/
theorem Gives.settled {q : Query} {a : Answer} (ha : f.Gives q a) (h : a.access.Settles) :
    ∃ b, f.skipped = some b := by
  rcases h with h | h <;> cases a <;> cases h
  · exact ⟨_, ha⟩
  · rcases ha with ⟨hb, -⟩ | ⟨hb, -⟩
    · exact ⟨_, hb⟩
    · exact ⟨_, hb⟩

end Findings

/-! ## Consistent findings -/

section consistent

variable {σ : Type} (q : Query) (setup : Setup σ)

/-- Findings of one inquiry: the path is that of the method's file, and the rest is what the tree
that was found out makes it. -/
structure Findings.Consistent (f : Findings) : Prop where
  path : ∀ p, f.path = some p → ∃ l, q.method.location = some l ∧ p = setup.pathOf l.file
  path_of_tree : ∀ t, f.tree = some t → ∃ p, f.path = some p
  address : ∀ o, f.address = some o →
    ∃ t, f.tree = some t ∧ t.root.findLast q.recognises = .ok o
  skipped : ∀ b, f.skipped = some b → (q.Unreadable setup ∧ b = true) ∨
    (¬ q.Unreadable setup ∧ ∃ t o, f.tree = some t ∧ f.address = some o ∧
      b = isClosure (t.trailTo o).1)
  subject : ∀ s, f.subject = some s → ∃ l t o, q.method.location = some l ∧ f.tree = some t ∧
    f.address = some o ∧ s = q.subjectAt setup l t o

namespace Findings.Consistent

variable {q setup} {f : Findings}

variable (q setup) in
theorem empty : Findings.empty.Consistent q setup where
  path p hp := by cases hp
  path_of_tree t ht := by cases ht
  address o ho := by cases ho
  skipped b hb := by cases hb
  subject s hs := by cases hs

/-- Where a tree was found out, so was the path. -/
theorem located (hf : f.Consistent q setup) {t : ParsedTree} (ht : f.tree = some t) :
    ∃ l, q.method.location = some l ∧ f.path = some (setup.pathOf l.file) := by
  obtain ⟨p, hp⟩ := hf.path_of_tree t ht
  obtain ⟨l, hl, rfl⟩ := hf.path p hp
  exact ⟨l, hl, hp⟩

theorem withPath (hf : f.Consistent q setup) {l : Live.Location}
    (hl : q.method.location = some l) :
    Findings.Consistent q setup { f with path := some (setup.pathOf l.file) } where
  path p hp := by
    cases hp
    exact ⟨l, hl, rfl⟩
  path_of_tree t ht := ⟨_, rfl⟩
  address := hf.address
  skipped := hf.skipped
  subject := hf.subject

theorem withTree (hf : f.Consistent q setup) {p : PathName} (hp : f.path = some p)
    (hnone : f.tree = none) (t : ParsedTree) :
    Findings.Consistent q setup { f with tree := some t } where
  path := hf.path
  path_of_tree u hu := ⟨p, hp⟩
  address o ho := by
    obtain ⟨u, hu, -⟩ := hf.address o ho
    cases hnone.symm.trans hu
  skipped b hb := by
    rcases hf.skipped b hb with h | ⟨-, u, o, hu, -⟩
    · exact .inl h
    · cases hnone.symm.trans hu
  subject s hs := by
    obtain ⟨l, u, o, -, hu, -⟩ := hf.subject s hs
    cases hnone.symm.trans hu

theorem withAddress (hf : f.Consistent q setup) {t : ParsedTree} (ht : f.tree = some t)
    (hnone : f.address = none) {o : Option Address} (ho : t.root.findLast q.recognises = .ok o) :
    Findings.Consistent q setup { f with address := some o } where
  path := hf.path
  path_of_tree := hf.path_of_tree
  address o' ho' := by
    cases ho'
    exact ⟨t, ht, ho⟩
  skipped b hb := by
    rcases hf.skipped b hb with h | ⟨-, u, o', -, ho', -⟩
    · exact .inl h
    · cases hnone.symm.trans ho'
  subject s hs := by
    obtain ⟨l, u, o', -, -, ho', -⟩ := hf.subject s hs
    cases hnone.symm.trans ho'

theorem withSkipped (hf : f.Consistent q setup) {b : Bool}
    (hb : (q.Unreadable setup ∧ b = true) ∨ (¬ q.Unreadable setup ∧
      ∃ t o, f.tree = some t ∧ f.address = some o ∧ b = isClosure (t.trailTo o).1)) :
    Findings.Consistent q setup { f with skipped := some b } where
  path := hf.path
  path_of_tree := hf.path_of_tree
  address := hf.address
  skipped b' hb' := by
    cases hb'
    exact hb
  subject := hf.subject

theorem withSubject (hf : f.Consistent q setup) {l : Live.Location} {t : ParsedTree}
    {o : Option Address} (hl : q.method.location = some l) (ht : f.tree = some t)
    (ho : f.address = some o) :
    Findings.Consistent q setup { f with subject := some (q.subjectAt setup l t o) } where
  path := hf.path
  path_of_tree := hf.path_of_tree
  address := hf.address
  skipped := hf.skipped
  subject s hs := by
    cases hs
    exact ⟨l, t, o, hl, ht, ho, rfl⟩

end Findings.Consistent

end consistent

end DefSite
