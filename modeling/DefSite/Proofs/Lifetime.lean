import DefSite.Proofs.Endings
import DefSite.Proofs.Findings

/-!
# The lifetime of an inquiry

However an inquiry is visited, its answers fit together: all of them are made of one tree, the one
that the parser gave it, and answers to one question are the same (`observed_coherent`).

What carries this is that its findings stay `Consistent`.  A question leads from consistent findings
to consistent findings that keep what was there, takes a tree from the parser only if there was
none, and reports something only when it settles that the method is skipped (`Leads`).
-/

namespace DefSite

/-! ## Steps -/

namespace Query

section leads

variable {σ : Type} (q : Query) (setup : Setup σ)

/-- What is reported when the method is skipped. -/
def diagnostic : String :=
  match q.method.location with
  | none => noSourceMessage q.method
  | some l => if setup.denies l.file then noSourceMessage q.method else closureMessage q.method

/-- One state of an inquiry leads to another: findings stay and fit together, what the parser gave
meanwhile is the tree that was found out meanwhile, and something is reported just when the decision
to skip the method fell meanwhile. -/
structure Leads (s s' : Findings × World (σ × Log)) : Prop where
  consistent : s'.1.Consistent q setup
  grows : s.1.Grows s'.1
  log : ∃ log : Log, s'.2.parser.2 = s.2.parser.2 ++ log ∧ log.trees = s.1.newTree s'.1
  board : s'.2.board = if s.1.skipped = none ∧ s'.1.skipped = some true then
    s.2.board.append setup.sink (q.diagnostic setup) else s.2.board

variable {q setup} {f f' : Findings} {w w' : World (σ × Log)}

theorem diagnostic_of_unreadable (hu : q.Unreadable setup) :
    q.diagnostic setup = noSourceMessage q.method := by
  unfold diagnostic
  cases hl : q.method.location with
  | none => rfl
  | some l => simp [hu l hl]

theorem diagnostic_of_readable (hr : ¬ q.Unreadable setup) :
    q.diagnostic setup = closureMessage q.method := by
  obtain ⟨l, hl, hd⟩ := not_unreadable_iff.mp hr
  simp [diagnostic, hl, hd]

/-- Where no decision falls, nothing is reported. -/
theorem Leads.of_skipped_eq (hc : f'.Consistent q setup) (hg : f.Grows f')
    (hs : f'.skipped = f.skipped) (hb : w'.board = w.board)
    (hlog : ∃ log : Log, w'.parser.2 = w.parser.2 ++ log ∧ log.trees = f.newTree f') :
    q.Leads setup (f, w) (f', w') := by
  refine ⟨hc, hg, hlog, ?_⟩
  have hne : ¬ (f.skipped = none ∧ f'.skipped = some true) := by
    rintro ⟨hnone, hsome⟩
    cases hnone.symm.trans (hs.symm.trans hsome)
  rw [if_neg hne]
  exact hb

/-- Where no tree is found out either, the parser need not be asked. -/
theorem Leads.of_tree_eq (hc : f'.Consistent q setup) (hg : f.Grows f')
    (hs : f'.skipped = f.skipped) (hb : w'.board = w.board) (ht : f'.tree = f.tree)
    (hp : w'.parser = w.parser) : q.Leads setup (f, w) (f', w') := by
  refine .of_skipped_eq hc hg hs hb ⟨[], ?_, (Findings.newTree_of_eq ht).symm⟩
  rw [hp, List.append_nil]

theorem Leads.refl (hf : f.Consistent q setup) : q.Leads setup (f, w) (f, w) :=
  .of_tree_eq hf (.refl f) rfl rfl rfl rfl

theorem Leads.trans {s s' s'' : Findings × World (σ × Log)} (h : q.Leads setup s s')
    (h' : q.Leads setup s' s'') : q.Leads setup s s'' := by
  refine ⟨h'.consistent, h.grows.trans h'.grows, ?_, ?_⟩
  · obtain ⟨log, hlog, htrees⟩ := h.log
    obtain ⟨log', hlog', htrees'⟩ := h'.log
    refine ⟨log ++ log', ?_, ?_⟩
    · rw [hlog', hlog, List.append_assoc]
    · rw [Log.trees_append, htrees, htrees', Findings.newTree_append h.grows h'.grows]
  · rw [h'.board, h.board]
    cases hs : s.1.skipped with
    | some b => simp [h.grows.skipped b hs]
    | none =>
      cases hs' : s'.1.skipped with
      | some b => simp [h'.grows.skipped b hs']
      | none => simp

/-! ### The path and the tree -/

theorem leads_path {x : Except Fault PathName} (hf : f.Consistent q setup)
    (h : (q.path setup.logged).run f w = (x, f', w')) :
    q.Leads setup (f, w) (f', w') ∧ f' = { f with path := f'.path } ∧
      ∀ p, x = .ok p → f'.path = some p := by
  cases hl : q.method.location with
  | none =>
    have hnone : f.path = none := by
      cases hp : f.path with
      | none => rfl
      | some p =>
        obtain ⟨l, hl', -⟩ := hf.path p hp
        cases hl.symm.trans hl'
    rw [run_path_of_none hl hnone] at h
    cases h
    exact ⟨.refl hf, rfl, fun p hp => by cases hp⟩
  | some l =>
    have hsame : ∀ p, f.path = some p → p = setup.pathOf l.file := by
      intro p hp
      obtain ⟨l', hl', rfl⟩ := hf.path p hp
      cases hl.symm.trans hl'
      rfl
    have hrun : (q.path setup.logged).run f w =
      (.ok (setup.pathOf l.file), { f with path := some (setup.pathOf l.file) }, w) :=
        run_path hl hsame
    rw [hrun] at h
    cases h
    have hgrows : f.Grows { f with path := some (setup.pathOf l.file) } :=
      ⟨fun p hp => by rw [hsame p hp], fun _ => id, fun _ => id, fun _ => id, fun _ => id⟩
    refine ⟨.of_tree_eq (hf.withPath hl) hgrows rfl rfl rfl rfl, rfl, fun p hp => ?_⟩
    cases hp
    rfl

variable (setup) in
theorem log_parseFile (path : PathName) (w : World (σ × Log)) :
    (setup.logged.parseFile path w).2.parser.2 =
      w.parser.2 ++ [(path, (setup.logged.parseFile path w).1)] := by
  unfold Setup.parseFile
  dsimp only
  split <;> rfl

/-- The parser is asked only if no tree was found out, and then once. -/
theorem leads_tree {x : Except Fault ParsedTree} (hf : f.Consistent q setup)
    (h : (q.tree setup.logged).run f w = (x, f', w')) :
    q.Leads setup (f, w) (f', w') ∧ f' = { f with path := f'.path, tree := f'.tree } ∧
      ∀ t, x = .ok t → f'.tree = some t := by
  cases ht : f.tree with
  | some t =>
    rw [run_tree_of_some ht] at h
    cases h
    refine ⟨.refl hf, rfl, fun u hu => ?_⟩
    cases hu
    exact ht
  | none =>
    rw [run_tree_of_none ht] at h
    rcases hpath : (q.path setup.logged).run f w with ⟨x₁, f₁, w₁⟩
    obtain ⟨hleads, hframe, hgives⟩ := leads_path hf hpath
    have hnone : f₁.tree = none := by
      rw [hframe]
      exact ht
    rw [hpath] at h
    cases x₁ with
    | error e =>
      cases h
      refine ⟨hleads, ?_, fun t hx => by cases hx⟩
      rw [hnone, ← ht]
      exact hframe
    | ok path =>
      dsimp only at h
      have hlog := log_parseFile setup path w₁
      have hboard : (setup.logged.parseFile path w₁).2.board = w₁.board := board_parseFile path w₁
      rcases hparse : setup.logged.parseFile path w₁ with ⟨e | t, w₂⟩
      · rw [hparse] at h hlog hboard
        cases h
        refine ⟨hleads.trans (.of_skipped_eq hleads.consistent (.refl _) rfl hboard ?_), ?_, ?_⟩
        · exact ⟨[(path, .error e)], hlog, (Findings.newTree_of_eq rfl).symm⟩
        · rw [hnone, ← ht]
          exact hframe
        · intro t hx
          cases hx
      · rw [hparse] at h hlog hboard
        cases h
        have hnew : f₁.newTree { f₁ with tree := some t } = [t] := by
          unfold Findings.newTree
          rw [hnone]
          rfl
        have hconsistent := hleads.consistent.withTree (hgives path rfl) hnone t
        have hgrows := Findings.Grows.withTree hnone t
        refine ⟨hleads.trans (.of_skipped_eq hconsistent hgrows rfl hboard ?_), ?_, ?_⟩
        · exact ⟨[(path, .ok t)], hlog, hnew.symm⟩
        · exact congrArg (fun g : Findings => { g with tree := some t }) hframe
        · intro u hu
          cases hu
          rfl

/-! ### The definition -/

theorem leads_address {x : Except Fault (Option Address)} (hf : f.Consistent q setup)
    (h : (q.address setup.logged).run f w = (x, f', w')) :
    q.Leads setup (f, w) (f', w') ∧
      f' = { f with path := f'.path, tree := f'.tree, address := f'.address } ∧
      ∀ o, x = .ok o → f'.address = some o := by
  cases ha : f.address with
  | some o =>
    rw [run_address_of_some ha] at h
    cases h
    refine ⟨.refl hf, rfl, fun o' ho' => ?_⟩
    cases ho'
    exact ha
  | none =>
    rw [run_address_of_none ha] at h
    rcases htree : (q.tree setup.logged).run f w with ⟨x₁, f₁, w₁⟩
    obtain ⟨hleads, hframe, hgives⟩ := leads_tree hf htree
    have hnone : f₁.address = none := by
      rw [hframe]
      exact ha
    have hframe' : f₁ = { f with path := f₁.path, tree := f₁.tree, address := f₁.address } := by
      rw [hnone, ← ha]
      exact hframe
    rw [htree] at h
    cases x₁ with
    | error e =>
      cases h
      exact ⟨hleads, hframe', fun o hx => by cases hx⟩
    | ok t =>
      dsimp only at h
      cases hfind : t.root.findLast q.recognises with
      | error e =>
        rw [hfind] at h
        cases h
        exact ⟨hleads, hframe', fun o hx => by cases hx⟩
      | ok o =>
        rw [hfind] at h
        cases h
        have hconsistent := hleads.consistent.withAddress (hgives t rfl) hnone hfind
        have hgrows := Findings.Grows.withAddress hnone o
        refine ⟨hleads.trans (.of_tree_eq hconsistent hgrows rfl rfl rfl rfl), ?_, ?_⟩
        · exact congrArg (fun g : Findings => { g with address := some o }) hframe'
        · intro o' ho'
          cases ho'
          rfl

theorem leads_matchedTrail {x : Except Fault (List Node × Address)} (hf : f.Consistent q setup)
    (h : (q.matchedTrail setup.logged).run f w = (x, f', w')) :
    q.Leads setup (f, w) (f', w') ∧
      f' = { f with path := f'.path, tree := f'.tree, address := f'.address } ∧
      ∀ p, x = .ok p → f'.Gives q (.trail p) := by
  rw [run_matchedTrail] at h
  rcases haddress : (q.address setup.logged).run f w with ⟨x₁, f₁, w₁⟩
  obtain ⟨hleads, hframe, hgives⟩ := leads_address hf haddress
  rw [haddress] at h
  cases x₁ with
  | error e =>
    cases h
    exact ⟨hleads, hframe, fun p hx => by cases hx⟩
  | ok o =>
    have ho := hgives o rfl
    obtain ⟨t, ht, -⟩ := hleads.consistent.address o ho
    dsimp only at h
    rw [run_tree_of_some ht] at h
    cases h
    refine ⟨hleads, hframe, fun p hp => ?_⟩
    cases hp
    exact ⟨t, o, ht, ho, rfl⟩

/-! ### The decision to skip -/

theorem Leads.decide (hf : f.Consistent q setup) (hnone : f.skipped = none) {b : Bool}
    (hb : (q.Unreadable setup ∧ b = true) ∨ (¬ q.Unreadable setup ∧
      ∃ t o, f.tree = some t ∧ f.address = some o ∧ b = isClosure (t.trailTo o).1)) :
    q.Leads setup (f, w) ({ f with skipped := some b },
      if b then setup.logged.warn (q.diagnostic setup) w else w) where
  consistent := hf.withSkipped hb
  grows := .withSkipped hnone b
  log := by
    refine ⟨[], ?_, (Findings.newTree_of_eq rfl).symm⟩
    cases b <;> exact (List.append_nil _).symm
  board := by
    rw [hnone]
    cases b <;> rfl

/-- A decision that was kept is not made again, and one that could not be made is not kept. -/
theorem leads_skipped {x : Except Fault Bool} (hf : f.Consistent q setup)
    (h : (q.skipped setup.logged).run f w = (x, f', w')) :
    q.Leads setup (f, w) (f', w') ∧ (∀ b, x = .ok b → f'.skipped = some b) ∧
      ∀ e, x = .error e → f'.skipped = f.skipped := by
  cases hnone : f.skipped with
  | some b =>
    rw [run_skipped_of_some hnone] at h
    cases h
    refine ⟨.refl hf, fun b' hb' => ?_, fun e hx => by cases hx⟩
    cases hb'
    exact hnone
  | none =>
    by_cases hu : q.Unreadable setup
    · have hrun : (q.skipped setup.logged).run f w = (.ok true, { f with skipped := some true },
          setup.logged.warn (noSourceMessage q.method) w) := run_skipped_of_unreadable hnone hu
      rw [hrun, ← diagnostic_of_unreadable hu] at h
      cases h
      refine ⟨.decide hf hnone (.inl ⟨hu, rfl⟩), fun b hb => ?_, fun e hx => by cases hx⟩
      cases hb
      rfl
    · have hr : ¬ q.Unreadable setup.logged := hu
      rw [run_skipped_of_readable hnone hr] at h
      rcases htrail : (q.matchedTrail setup.logged).run f w with ⟨x₁, f₁, w₁⟩
      obtain ⟨hleads, hframe, hgives⟩ := leads_matchedTrail hf htrail
      have hnone₁ : f₁.skipped = none := by
        rw [hframe]
        exact hnone
      rw [htrail] at h
      cases x₁ with
      | error e =>
        cases h
        exact ⟨hleads, fun b hx => (by cases hx), fun _ _ => hnone₁⟩
      | ok trail =>
        obtain ⟨t, o, ht, ho, rfl⟩ := hgives trail rfl
        have hdecide := hleads.trans
          (.decide hleads.consistent hnone₁ (.inr ⟨hu, t, o, ht, ho, rfl⟩))
        rw [diagnostic_of_readable hu] at hdecide
        dsimp only at h
        cases hc : isClosure (t.trailTo o).1 with
        | true =>
          rw [hc] at h hdecide
          cases h
          refine ⟨hdecide, fun b hb => ?_, fun e hx => by cases hx⟩
          cases hb
          rfl
        | false =>
          rw [hc] at h hdecide
          cases h
          refine ⟨hdecide, fun b hb => ?_, fun e hx => by cases hx⟩
          cases hb
          rfl

/-! ### The subject -/

/-- Once the definition was looked for, the subject cannot fail. -/
theorem leads_subject {x : Except Fault (Option Subject)} (hf : f.Consistent q setup)
    (h : (q.subject setup.logged).run f w = (x, f', w')) :
    q.Leads setup (f, w) (f', w') ∧ f'.skipped = f.skipped ∧
      (∀ s, x = .ok s → f'.subject = some s) ∧
      ∀ o, f.address = some o → ∃ s, x = .ok s := by
  cases hnone : f.subject with
  | some s =>
    rw [run_subject_of_some hnone] at h
    cases h
    refine ⟨.refl hf, rfl, fun s' hs' => ?_, fun _ _ => ⟨s, rfl⟩⟩
    cases hs'
    exact hnone
  | none =>
    rcases haddress : (q.address setup.logged).run f w with ⟨x₁, f₁, w₁⟩
    obtain ⟨hleads, hframe, hgives⟩ := leads_address hf haddress
    have hskipped : f₁.skipped = f.skipped := by rw [hframe]
    have hnone₁ : f₁.subject = none := by
      rw [hframe]
      exact hnone
    cases x₁ with
    | error e =>
      rw [run_subject_of_error hnone haddress] at h
      cases h
      refine ⟨hleads, hskipped, fun s hx => (by cases hx), fun o ho => ?_⟩
      rw [run_address_of_some ho] at haddress
      cases haddress
    | ok o =>
      have ho := hgives o rfl
      obtain ⟨t, ht, hfind⟩ := hleads.consistent.address o ho
      obtain ⟨l, hl, hp⟩ := hleads.consistent.located ht
      have hrun : (q.subject setup.logged).run f w =
          (.ok (q.subjectAt setup l t o), { f₁ with subject := some (q.subjectAt setup l t o) },
            w₁.record (q.entryAt setup l t o)) :=
        run_subject_of_ok hnone haddress ht hp (exists_line_of_findLast hl hfind)
      rw [hrun] at h
      cases h
      have hconsistent := hleads.consistent.withSubject hl ht ho
      have hgrows := Findings.Grows.withSubject hnone₁ (q.subjectAt setup l t o)
      refine ⟨hleads.trans (.of_tree_eq hconsistent hgrows rfl rfl rfl rfl), hskipped, ?_, ?_⟩
      · intro s hs
        cases hs
        rfl
      · exact fun _ _ => ⟨_, rfl⟩

/-! ### Any question -/

/-- A call fails only where the decision to skip does. -/
theorem leads_call {x : Except Fault (List Subject)} (hf : f.Consistent q setup)
    (h : (q.call setup.logged).run f w = (x, f', w')) :
    q.Leads setup (f, w) (f', w') ∧ (∀ ss, x = .ok ss → f'.Gives q (.subjects ss)) ∧
      ∀ e, x = .error e → f'.skipped = f.skipped := by
  rw [run_call] at h
  rcases hskip : (q.skipped setup.logged).run f w with ⟨x₁, f₁, w₁⟩
  obtain ⟨hleads, hdecided, hundecided⟩ := leads_skipped hf hskip
  rw [hskip] at h
  match x₁ with
  | .error e =>
    cases h
    exact ⟨hleads, fun ss hx => (by cases hx), fun _ _ => hundecided e rfl⟩
  | .ok true =>
    cases h
    refine ⟨hleads, fun ss hss => ?_, fun e hx => by cases hx⟩
    cases hss
    exact .inl ⟨hdecided true rfl, rfl⟩
  | .ok false =>
    have hfalse := hdecided false rfl
    dsimp only at h
    rcases hsubject : (q.subject setup.logged).run f₁ w₁ with ⟨x₂, f₂, w₂⟩
    obtain ⟨hleads', hskipped, hgives, hok⟩ := leads_subject hleads.consistent hsubject
    rw [hsubject] at h
    -- the decision was made from the address, so the definition was looked for already
    rcases hleads.consistent.skipped false hfalse with ⟨-, hb⟩ | ⟨-, t, o, -, ho, -⟩
    · cases hb
    obtain ⟨s, rfl⟩ := hok o ho
    cases h
    refine ⟨hleads.trans hleads', fun ss hss => ?_, fun e hx => by cases hx⟩
    cases hss
    exact .inr ⟨hskipped.trans hfalse, s, hgives s rfl, rfl⟩

theorem leads_context {x : Except Fault Context} (hf : f.Consistent q setup)
    (h : (q.context setup.logged).run f w = (x, f', w')) :
    q.Leads setup (f, w) (f', w') ∧ f'.skipped = f.skipped ∧
      ∀ c, x = .ok c → f'.Gives q (.context c) := by
  unfold context at h
  rw [Inquiry.run_bind_pure] at h
  rcases hpath : (q.path setup.logged).run f w with ⟨x₁, f₁, w₁⟩
  obtain ⟨hleads, hframe, hgives⟩ := leads_path hf hpath
  have hskipped : f₁.skipped = f.skipped := by rw [hframe]
  rw [hpath] at h
  cases h
  refine ⟨hleads, hskipped, fun c hc => ?_⟩
  cases x₁ with
  | error e => cases hc
  | ok p =>
    cases hc
    exact ⟨rfl, hgives p rfl⟩

variable (q setup) in
/-- In a moment, the answer is kept, and whether the method is skipped is settled by no questions
but those that settle it, and as soon as they are answered. -/
structure Fits (m : Moment (σ × Log)) : Prop where
  leads : q.Leads setup m.before m.after
  access : ∀ a, m.answer = .ok a → a.access = m.access
  gives : ∀ a, m.answer = .ok a → m.after.1.Gives q a
  unsettled : ¬ m.Settles → m.after.1.skipped = m.before.1.skipped

variable {access : Access}

theorem fits_bind_pure {α : Type} {m : Inquiry (σ × Log) α} {c : α → Answer}
    (hc : ∀ a, (c a).access = access)
    (hm : ∀ {x f' w'}, m.run f w = (x, f', w') → q.Leads setup (f, w) (f', w') ∧
      (∀ a, x = .ok a → f'.Gives q (c a)) ∧
      (¬ (access.Settles ∧ ∃ a, x = .ok a) → f'.skipped = f.skipped))
    {x : Except Fault Answer} (h : (m >>= fun a => pure (c a)).run f w = (x, f', w')) :
    q.Fits setup ⟨access, (f, w), x, (f', w')⟩ := by
  rw [Inquiry.run_bind_pure] at h
  rcases hrun : m.run f w with ⟨x₁, f₁, w₁⟩
  obtain ⟨hleads, hgives, hskipped⟩ := hm hrun
  rw [hrun] at h
  cases x₁ with
  | error e =>
    cases h
    refine ⟨hleads, fun a hx => (by cases hx), fun a hx => (by cases hx), fun _ => hskipped ?_⟩
    rintro ⟨-, a, hx⟩
    cases hx
  | ok a =>
    cases h
    refine ⟨hleads, fun b hb => ?_, fun b hb => ?_, fun hnot => hskipped fun hsettles => ?_⟩
    · cases hb
      exact hc a
    · cases hb
      exact hgives a rfl
    · exact hnot ⟨hsettles.1, c a, rfl⟩

theorem fits_ask {x : Except Fault Answer} (hf : f.Consistent q setup)
    (h : (q.ask setup.logged access).run f w = (x, f', w')) :
    q.Fits setup ⟨access, (f, w), x, (f', w')⟩ := by
  cases access with
  | call =>
    refine fits_bind_pure (m := q.call setup.logged) (c := .subjects) (fun _ => rfl)
      (fun {x f' w'} hm => ?_) h
    obtain ⟨hleads, hgives, herror⟩ := leads_call hf hm
    refine ⟨hleads, hgives, fun hnot => ?_⟩
    cases x with
    | error e => exact herror e rfl
    | ok ss => exact absurd ⟨.inr rfl, ss, rfl⟩ hnot
  | skipped =>
    refine fits_bind_pure (m := q.skipped setup.logged) (c := .skipped) (fun _ => rfl)
      (fun {x f' w'} hm => ?_) h
    obtain ⟨hleads, hgives, herror⟩ := leads_skipped hf hm
    refine ⟨hleads, hgives, fun hnot => ?_⟩
    cases x with
    | error e => exact herror e rfl
    | ok b => exact absurd ⟨.inl rfl, b, rfl⟩ hnot
  | path =>
    refine fits_bind_pure (m := q.path setup.logged) (c := .path) (fun _ => rfl)
      (fun hm => ?_) h
    obtain ⟨hleads, hframe, hgives⟩ := leads_path hf hm
    exact ⟨hleads, hgives, fun _ => by rw [hframe]⟩
  | context =>
    refine fits_bind_pure (m := q.context setup.logged) (c := .context) (fun _ => rfl)
      (fun hm => ?_) h
    obtain ⟨hleads, hskipped, hgives⟩ := leads_context hf hm
    exact ⟨hleads, hgives, fun _ => hskipped⟩
  | tree =>
    refine fits_bind_pure (m := q.tree setup.logged) (c := .tree) (fun _ => rfl)
      (fun hm => ?_) h
    obtain ⟨hleads, hframe, hgives⟩ := leads_tree hf hm
    exact ⟨hleads, hgives, fun _ => by rw [hframe]⟩
  | matchedTrail =>
    refine fits_bind_pure (m := q.matchedTrail setup.logged) (c := .trail) (fun _ => rfl)
      (fun hm => ?_) h
    obtain ⟨hleads, hframe, hgives⟩ := leads_matchedTrail hf hm
    exact ⟨hleads, hgives, fun _ => by rw [hframe]⟩
  | subject =>
    refine fits_bind_pure (m := q.subject setup.logged) (c := .subject) (fun _ => rfl)
      (fun hm => ?_) h
    obtain ⟨hleads, hskipped, hgives, -⟩ := leads_subject hf hm
    exact ⟨hleads, hgives, fun _ => hskipped⟩

end leads

/-! ## Runs -/

section runs

variable {σ : Type} {q : Query} {setup : Setup σ} {f g : Findings} {m : Moment (σ × Log)}

theorem Fits.settled (h : q.Fits setup m) (hs : m.Settles) : ∃ b, m.after.1.skipped = some b := by
  obtain ⟨haccess, a, ha⟩ := hs
  rw [← h.access a ha] at haccess
  exact (h.gives a ha).settled haccess

theorem Fits.skipped_after_eq_none_iff (h : q.Fits setup m) :
    m.after.1.skipped = none ↔ m.before.1.skipped = none ∧ ¬ m.Settles := by
  constructor
  · intro hnone
    constructor
    · cases hs : m.before.1.skipped with
      | none => rfl
      | some b => cases hnone.symm.trans (h.leads.grows.skipped b hs)
    · intro hs
      obtain ⟨b, hb⟩ := h.settled hs
      cases hnone.symm.trans hb
  · rintro ⟨hnone, hnot⟩
    rw [h.unsettled hnot]
    exact hnone

/-- A moment reports something only if it settles, first of all, that the method is skipped. -/
theorem Fits.board (h : q.Fits setup m) (hg : m.after.1.Grows g) :
    (m.Settles ∧ m.before.1.skipped = none ∧ g.skipped = some true →
      m.after.2.board = m.before.2.board.append setup.sink (q.diagnostic setup)) ∧
    (¬ (m.Settles ∧ m.before.1.skipped = none ∧ g.skipped = some true) →
      m.after.2.board = m.before.2.board) := by
  have hiff : (m.Settles ∧ m.before.1.skipped = none ∧ g.skipped = some true) ↔
      (m.before.1.skipped = none ∧ m.after.1.skipped = some true) := by
    constructor
    · rintro ⟨hs, hnone, htrue⟩
      obtain ⟨b, hb⟩ := h.settled hs
      cases htrue.symm.trans (hg.skipped b hb)
      exact ⟨hnone, hb⟩
    · rintro ⟨hnone, htrue⟩
      refine ⟨?_, hnone, hg.skipped true htrue⟩
      by_contra hnot
      cases hnone.symm.trans ((h.unsettled hnot).symm.trans htrue)
  rw [hiff, h.leads.board]
  exact ⟨fun hc => if_pos hc, fun hc => if_neg hc⟩

/-- What a run of visits leads to. -/
theorem leads_moments (hf : f.Consistent q setup) (visits : List (Visit (σ × Log)))
    (w : World (σ × Log)) :
    ∃ g : Findings, f.Grows g ∧ g.Consistent q setup ∧
      Log.trees ((q.moments setup.logged visits f w).flatMap Moment.replies) = f.newTree g ∧
      ∀ m ∈ q.moments setup.logged visits f w, q.Fits setup m ∧ m.after.1.Grows g := by
  induction visits generalizing f w with
  | nil =>
    refine ⟨f, .refl f, hf, (Findings.newTree_of_eq rfl).symm, fun m hm => ?_⟩
    cases hm
  | cons v visits ih =>
    rcases hask : (q.ask setup.logged v.access).run f (v.meanwhile w) with ⟨x, f₁, w₁⟩
    have hfits := fits_ask hf hask
    obtain ⟨g, hgrows, hg, htrees, hmoments⟩ := ih hfits.leads.consistent w₁
    obtain ⟨log, hlog, hnew⟩ := hfits.leads.log
    have hreplies : w₁.parser.2.drop (v.meanwhile w).parser.2.length = log := by
      have hlog' : w₁.parser.2 = (v.meanwhile w).parser.2 ++ log := hlog
      rw [hlog', List.drop_left]
    refine ⟨g, hfits.leads.grows.trans hgrows, hg, ?_, ?_⟩
    · simp only [moments, hask, List.flatMap_cons, Moment.replies, Log.trees_append]
      rw [hreplies, hnew, ← Findings.newTree_append hfits.leads.grows hgrows, ← htrees]
    · intro m hm
      simp only [moments, hask] at hm
      rcases List.mem_cons.mp hm with rfl | hm
      · exact ⟨hfits, hgrows⟩
      · exact hmoments m hm

/-- Nothing is settled before a moment if it was not before the run and no earlier moment settled
it. -/
theorem skipped_before_eq_none_iff (hf : f.Consistent q setup) {visits : List (Visit (σ × Log))}
    {w : World (σ × Log)} {ms ms' : List (Moment (σ × Log))}
    (h : q.moments setup.logged visits f w = ms ++ m :: ms') :
    m.before.1.skipped = none ↔ f.skipped = none ∧ ∀ n ∈ ms, ¬ n.Settles := by
  induction visits generalizing f w ms with
  | nil =>
    cases ms <;> cases h
  | cons v visits ih =>
    rcases hask : (q.ask setup.logged v.access).run f (v.meanwhile w) with ⟨x, f₁, w₁⟩
    have hfits := fits_ask hf hask
    have hiff := hfits.skipped_after_eq_none_iff
    simp only [moments, hask] at h
    cases ms with
    | nil =>
      cases h
      simp
    | cons n ms =>
      obtain ⟨rfl, hrest⟩ := List.cons.inj h
      rw [ih hfits.leads.consistent hrest, hiff, List.forall_mem_cons, and_assoc]

variable (q setup) in
/-- The moments of an inquiry from the first question on, and what the parser was asked in them. -/
def observed (visits : List (Visit σ)) (w : World σ) : List (Moment (σ × Log)) :=
  q.moments setup.logged (visits.map .logged) .empty (w.withLog [])

/-- **The answers of an inquiry fit together.**  Visit an inquiry any number of times, with any
questions in any order, whatever becomes of the world in between and whichever questions fail.  What
it finds out fits together: at most one tree, which is the one that the parser gave it in all these
moments, and the address of the definition, the decision to skip and the subject, which that tree
decides.  Each answer that was given is made of that, so answers to one question are the same, and a
call answers nothing if the method is skipped, else the subject.  One diagnostic is reported in the
moment that first settles whether the method is skipped, if it is, and none in any other. -/
theorem observed_coherent (q : Query) (setup : Setup σ) (visits : List (Visit σ)) (w : World σ) :
    (q.observed setup visits w).map .plain = q.moments setup visits .empty w ∧
    ∃ f : Findings, f.Consistent q setup ∧
      Log.trees ((q.observed setup visits w).flatMap Moment.replies) = f.tree.toList ∧
      (∀ m ∈ q.observed setup visits w, ∀ a, m.answer = .ok a → f.Gives q a) ∧
      (∀ m ∈ q.observed setup visits w, ∀ n ∈ q.observed setup visits w, ∀ a b,
        m.access = n.access → m.answer = .ok a → n.answer = .ok b → a = b) ∧
      ∀ ms m ms', q.observed setup visits w = ms ++ m :: ms' →
        (m.Settles ∧ (∀ n ∈ ms, ¬ n.Settles) ∧ f.skipped = some true →
          m.after.2.board = m.before.2.board.append setup.sink (q.diagnostic setup)) ∧
        (¬ (m.Settles ∧ (∀ n ∈ ms, ¬ n.Settles) ∧ f.skipped = some true) →
          m.after.2.board = m.before.2.board) := by
  refine ⟨q.map_plain_moments setup visits .empty (w.withLog []), ?_⟩
  have hempty := Findings.Consistent.empty q setup
  obtain ⟨f, -, hf, htrees, hmoments⟩ :=
    leads_moments hempty (visits.map .logged) (w.withLog [])
  refine ⟨f, hf, htrees, fun m hm a ha => ?_, ?_, ?_⟩
  · obtain ⟨hfits, hgrows⟩ := hmoments m hm
    exact (hfits.gives a ha).mono hgrows
  · intro m hm n hn a b haccess ha hb
    obtain ⟨hfits, hgrows⟩ := hmoments m hm
    obtain ⟨hfits', hgrows'⟩ := hmoments n hn
    have hsame : a.access = b.access :=
      (hfits.access a ha).trans (haccess.trans (hfits'.access b hb).symm)
    exact ((hfits.gives a ha).mono hgrows).unique ((hfits'.gives b hb).mono hgrows') hsame
  · intro ms m ms' hsplit
    have hm : m ∈ q.observed setup visits w := by
      rw [hsplit]
      exact List.mem_append_right _ List.mem_cons_self
    obtain ⟨hfits, hgrows⟩ := hmoments m hm
    have hnone : m.before.1.skipped = none ↔ ∀ n ∈ ms, ¬ n.Settles := by
      rw [skipped_before_eq_none_iff hempty hsplit]
      exact ⟨And.right, And.intro rfl⟩
    rw [← hnone]
    exact hfits.board hgrows

end runs

end Query

end DefSite
