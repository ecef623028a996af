import DefSite.Proofs.Identity
import Mathlib.Data.Set.Card

/-!
# Which trees are at hand

Holdings keep one tree for each path that was parsed with success since they were last cleared, the
one that was parsed last.  So their size counts these paths (`size_run`), a parse gives the tree of
the previous successful parse of the path if nothing was cleared and the text is the same, and
whatever else happens to other paths, or fails, leaves the tree where it is (`shared_trees`).
-/

namespace DefSite

namespace Holdings

variable {δ : Type} [DecidableEq δ] {r : Reader δ} {l : Holdings δ} {es : List Event} {e : Event}
  {path path' : PathName}

/-! ## Paths of the trees at hand -/

/-- The path was parsed with success since the trees at hand were last dropped. -/
def ParsedSince (r : Reader δ) (l : Holdings δ) (es : List Event) (path : PathName) : Prop :=
  ∃ before after t, es = before ++ .parse path :: after ∧ .clear ∉ after ∧
    (parse r path (run r l before)).outcome = .ok t

theorem run_append (es es' : List Event) : run r l (es ++ es') = run r (run r l es) es' := by
  simp [run]

theorem run_concat (es : List Event) (e : Event) : run r l (es ++ [e]) = step r (run r l es) e := by
  simp [run]

/-- An entry of a list with one more at its end is the last one, or it stands before that. -/
theorem concat_eq_append_cons_iff {α : Type} {xs before after : List α} {a b : α} :
    xs ++ [a] = before ++ b :: after ↔
      (after = [] ∧ xs = before ∧ a = b) ∨
        ∃ rest, after = rest ++ [a] ∧ xs = before ++ b :: rest := by
  constructor
  · intro h
    rcases List.eq_nil_or_concat after with rfl | ⟨rest, x, rfl⟩
    · obtain ⟨rfl, hab⟩ := List.append_inj' h rfl
      exact .inl ⟨rfl, rfl, by simpa using hab⟩
    · rw [List.concat_eq_append, ← List.cons_append, ← List.append_assoc] at h
      obtain ⟨rfl, hax⟩ := List.append_inj' h rfl
      obtain rfl : a = x := by simpa using hax
      exact .inr ⟨rest, List.concat_eq_append, rfl⟩
  · rintro (⟨rfl, rfl, rfl⟩ | ⟨rest, rfl, rfl⟩)
    · rfl
    · simp

theorem not_parsedSince_nil : ¬ ParsedSince r l [] path := by
  rintro ⟨before, after, t, hes, -⟩
  simp at hes

/-- What an event adds to the paths parsed since the last clearing. -/
theorem parsedSince_concat_iff : ParsedSince r l (es ++ [e]) path ↔
    e ≠ .clear ∧ (ParsedSince r l es path ∨
      e = .parse path ∧ ∃ t, (parse r path (run r l es)).outcome = .ok t) := by
  constructor
  · rintro ⟨before, after, t, hes, hclear, hout⟩
    rcases concat_eq_append_cons_iff.mp hes with ⟨rfl, rfl, rfl⟩ | ⟨after, rfl, rfl⟩
    · exact ⟨by simp, .inr ⟨rfl, t, hout⟩⟩
    · simp only [List.mem_append, List.mem_singleton, not_or] at hclear
      exact ⟨fun h => hclear.2 h.symm, .inl ⟨before, after, t, rfl, hclear.1, hout⟩⟩
  · rintro ⟨he, ⟨before, after, t, rfl, hclear, hout⟩ | ⟨rfl, t, hout⟩⟩
    · refine ⟨before, after ++ [e], t, by simp, ?_, hout⟩
      simp only [List.mem_append, List.mem_singleton, not_or]
      exact ⟨hclear, fun h => he h.symm⟩
    · exact ⟨es, [], t, rfl, by simp, hout⟩

theorem mem_paths_of_atHand? {digest : δ} {t : ParsedTree}
    (h : l.atHand? path digest = some t) : path ∈ l.shelved.map (·.path) := by
  obtain ⟨s, hs, -⟩ := Option.bind_eq_some_iff.mp h
  have hpath : s.path = path := by simpa using List.find?_some hs
  exact List.mem_map.mpr ⟨s, List.mem_of_find?_eq_some hs, hpath⟩

omit [DecidableEq δ] in
theorem mem_paths_shelve_iff {s : Shelved δ} :
    path ∈ (l.shelve s).shelved.map (·.path) ↔ path = s.path ∨ path ∈ l.shelved.map (·.path) := by
  by_cases hpath : path = s.path
  · simp [shelve, hpath]
  · simp only [shelve, List.map_cons, List.mem_cons, hpath, false_or, List.mem_map, List.mem_filter,
      decide_eq_true_eq]
    constructor
    · rintro ⟨s', ⟨hs', -⟩, rfl⟩
      exact ⟨s', hs', rfl⟩
    · rintro ⟨s', hs', rfl⟩
      exact ⟨s', ⟨hs', hpath⟩, rfl⟩

/-- What an event adds to the paths of the trees at hand. -/
theorem mem_paths_step_iff : path ∈ (step r l e).shelved.map (·.path) ↔
    e ≠ .clear ∧ (path ∈ l.shelved.map (·.path) ∨
      e = .parse path ∧ ∃ t, (parse r path l).outcome = .ok t) := by
  cases e with
  | edit files => simp [step]
  | clear => simp [step, clear]
  | parse path' =>
    by_cases hpath : path' = path
    · subst hpath
      simp only [step]
      have hcase := parseCase r path' l
      generalize parse r path' l = p at hcase
      cases hcase with
      | unread => simp
      | flawed => simp
      | atHand hread hhand => simpa using mem_paths_of_atHand? hhand
      | parsed => simp [mem_paths_shelve_iff]
    · simp only [step]
      have hcase := parseCase r path' l
      generalize parse r path' l = p at hcase
      cases hcase with
      | unread => simp [hpath]
      | flawed => simp [hpath]
      | atHand => simp [hpath]
      | parsed =>
        have hne : path ≠ path' := fun h => hpath h.symm
        simp [mem_paths_shelve_iff, hpath, hne]

theorem mem_paths_run_iff {files : FileStore} :
    path ∈ (run r (ofFiles files) es).shelved.map (·.path) ↔
      ParsedSince r (ofFiles files) es path := by
  induction es using List.reverseRecOn with
  | nil => simp [run, ofFiles, not_parsedSince_nil]
  | append_singleton es e ih => rw [run_concat, mem_paths_step_iff, ih, parsedSince_concat_iff]

theorem nodup_paths_step (h : (l.shelved.map (·.path)).Nodup) (e : Event) :
    ((step r l e).shelved.map (·.path)).Nodup := by
  have hcase := stepCase r l e
  generalize step r l e = l' at hcase
  cases hcase with
  | same hshelved _ =>
    rw [hshelved]
    exact h
  | cleared => exact List.nodup_nil
  | @added path digest root =>
    simp only [shelve, List.map_cons, List.nodup_cons]
    refine ⟨?_, h.sublist (List.filter_sublist.map _)⟩
    intro hmem
    obtain ⟨s, hs, hpath⟩ := List.mem_map.mp hmem
    exact absurd hpath (by simpa using (List.mem_filter.mp hs).2)

theorem nodup_paths_run (files : FileStore) (es : List Event) :
    ((run r (ofFiles files) es).shelved.map (·.path)).Nodup := by
  induction es using List.reverseRecOn with
  | nil => exact List.nodup_nil
  | append_singleton es e ih =>
    rw [run_concat]
    exact nodup_paths_step ih e

/-- There are as many trees at hand as paths that were parsed since the last clearing. -/
theorem size_run (r : Reader δ) (files : FileStore) (es : List Event) :
    (run r (ofFiles files) es).size = {path | ParsedSince r (ofFiles files) es path}.ncard := by
  have hpaths : {path | ParsedSince r (ofFiles files) es path} =
      ↑((run r (ofFiles files) es).shelved.map (·.path)).toFinset := by
    ext path
    simp only [Set.mem_ofPred_eq, ← mem_paths_run_iff, List.coe_toFinset]
  rw [hpaths, Set.ncard_coe_finset, List.toFinset_card_of_nodup (nodup_paths_run files es),
    List.length_map]
  rfl

/-! ## Which tree a parse gives -/

/-- After these events, a parse of the path reads a text and gives a tree. -/
structure Gives (r : Reader δ) (l : Holdings δ) (es : List Event) (path : PathName)
    (text : List Char) (t : ParsedTree) : Prop where
  read : (run r l es).files.textOf path = .ok text
  given : (parse r path (run r l es)).outcome = .ok t

section again

variable {before between mid rest : List Event} {text text' u : List Char} {t t' s : ParsedTree}

theorem Gives.mem_textParsed (h : Gives r l es path text t) :
    text ∈ textParsed r path (run r l es) (.parse path) :=
  mem_textParsed_iff.mpr ⟨rfl, h.read, t, h.given⟩

/-- The texts that the successful parses of a path read are those that these parses give. -/
theorem mem_textsParsed_iff : u ∈ textsParsed r path l es ↔
    ∃ mid rest s, es = mid ++ .parse path :: rest ∧ Gives r l mid path u s := by
  induction es generalizing l with
  | nil => simp [textsParsed]
  | cons e es ih =>
    simp only [textsParsed, List.mem_append, ih]
    constructor
    · rintro (hu | ⟨mid, rest, s, rfl, hgives⟩)
      · obtain ⟨rfl, hread, s, hout⟩ := mem_textParsed_iff.mp hu
        exact ⟨[], es, s, rfl, hread, hout⟩
      · exact ⟨e :: mid, rest, s, rfl, hgives.read, hgives.given⟩
    · rintro ⟨mid, rest, s, hes, hgives⟩
      cases mid with
      | nil =>
        obtain ⟨rfl, rfl⟩ := List.cons_eq_cons.mp hes
        exact .inl hgives.mem_textParsed
      | cons x mid =>
        obtain ⟨rfl, rfl⟩ := List.cons_eq_cons.mp hes
        exact .inr ⟨mid, rest, s, rfl, hgives.read, hgives.given⟩

theorem run_split : run r l (before ++ .parse path :: mid) =
    run r (parse r path (run r l before)).state mid := by
  rw [run_append]
  rfl

/-- When a later parse of a path gives the tree of an earlier one, as long as the texts that are
read have digests of their own. -/
theorem Gives.id_eq_iff (h : Gives r l before path text t)
    (h' : Gives r l (before ++ .parse path :: between) path text' t')
    (hl : Numbered (run r l before))
    (hr : r.Distinguishes
      (textsRead l.files (before ++ .parse path :: between ++ [.parse path]))) :
    t'.id = t.id ↔ .clear ∉ between ∧ text' = text ∧ ∀ mid rest u s,
      between = mid ++ .parse path :: rest →
        Gives r l (before ++ .parse path :: mid) path u s → u = text := by
  have hfiles : textsRead l.files (before ++ .parse path :: between ++ [.parse path]) =
      textsRead l.files before ++ (Event.textRead (run r l before).files (.parse path) ++
        textsRead (run r l before).files (between ++ [.parse path])) := by
    rw [List.append_assoc, textsRead_append, files_run]
    rfl
  have hsub : textsParsed r path (parse r path (run r l before)).state (between ++ [.parse path]) ⊆
      textsRead (run r l before).files (between ++ [.parse path]) := by
    rw [← files_parse (r := r) path (run r l before)]
    exact textsParsed_subset_textsRead _
  have hout := h'.given
  rw [run_split] at hout
  have hagain := parse_again hl h.read h.given hout fun u hu hd => by
    refine hr u ?_ text ?_ hd
    · rw [hfiles]
      exact List.mem_append_right _ (List.mem_append_right _ (hsub hu))
    · rw [hfiles]
      refine List.mem_append_right _ (List.mem_append_left _ ?_)
      simp [Event.textRead, h.read, Except.toOption]
  have hid : t'.id = t.id ↔ t' = t := by
    constructor
    · exact eq_of_id hl h.given hout
    · rintro rfl
      rfl
  rw [hid, hagain]
  refine and_congr_right fun _ => ?_
  have hgives : ∀ mid u s, Gives r (parse r path (run r l before)).state mid path u s ↔
      Gives r l (before ++ .parse path :: mid) path u s := by
    intro mid u s
    constructor
    · rintro ⟨hread, hout⟩
      exact ⟨by rwa [run_split], by rwa [run_split]⟩
    · rintro ⟨hread, hout⟩
      exact ⟨by rwa [run_split] at hread, by rwa [run_split] at hout⟩
  constructor
  · intro htexts
    refine ⟨htexts text' ?_, ?_⟩
    · exact mem_textsParsed_iff.mpr ⟨between, [], t', rfl, (hgives _ _ _).mpr h'⟩
    · rintro mid rest u s rfl hu
      exact htexts u (mem_textsParsed_iff.mpr ⟨mid, rest ++ [.parse path], s, by simp,
        (hgives _ _ _).mpr hu⟩)
  · rintro ⟨rfl, hmid⟩ u hu
    obtain ⟨mid, rest, s, hes, hu⟩ := mem_textsParsed_iff.mp hu
    have hu' := (hgives _ _ _).mp hu
    rcases concat_eq_append_cons_iff.mp hes with ⟨-, rfl, -⟩ | ⟨rest, -, rfl⟩
    · exact Except.ok.inj (hu'.read.symm.trans h'.read)
    · exact hmid mid rest u s rfl hu'

/-- A parse that gives out a tree at hand leaves the holdings as they were. -/
theorem state_parse_of_reused (h : (parse r path l).reused = true) :
    (parse r path l).state = l := by
  have hcase := parseCase r path l
  generalize parse r path l = p at hcase h
  cases hcase with
  | unread => rfl
  | atHand => rfl
  | flawed => rfl
  | parsed => cases h

end again

/-- Of the parses of a path, the last that succeeded read this text and gave this tree; what came
after it. -/
def GaveLast (r : Reader δ) (l : Holdings δ) (es : List Event) (path : PathName)
    (text : List Char) (t : ParsedTree) (between : List Event) : Prop :=
  ∃ before, es = before ++ .parse path :: between ∧ Gives r l before path text t ∧
    ∀ mid rest u s, between = mid ++ .parse path :: rest →
      ¬ Gives r l (before ++ .parse path :: mid) path u s

/-- **How trees are shared.**  After any run of edits, parses and clears, there are as many trees at
hand as paths that were parsed with success since the last clearing.  A parse that succeeds gives
the tree that the previous successful parse of the path gave if and only if nothing was cleared
between and the text is the same, as long as no two texts that were read have one digest; it gives
the tree of no earlier parse whose text it reads again after another one was parsed.  A parse that
fails or gives out a tree at hand leaves all as it was, and no parse changes what is at hand for
another path. -/
theorem shared_trees (r : Reader δ) (files : FileStore) (es : List Event) :
    (run r (ofFiles files) es).size = {path | ParsedSince r (ofFiles files) es path}.ncard ∧
    (∀ path text' t', r.Distinguishes (textsRead files (es ++ [.parse path])) →
      Gives r (ofFiles files) es path text' t' →
      (∀ text t between, GaveLast r (ofFiles files) es path text t between →
        (t'.id = t.id ↔ .clear ∉ between ∧ text' = text)) ∧
      (∀ before mid rest text t u s, es = before ++ .parse path :: (mid ++ .parse path :: rest) →
        Gives r (ofFiles files) before path text t →
        Gives r (ofFiles files) (before ++ .parse path :: mid) path u s → u ≠ text →
        t'.id ≠ t.id)) ∧
    (∀ path, (∃ e, (parse r path (run r (ofFiles files) es)).outcome = .error e) ∨
        (parse r path (run r (ofFiles files) es)).reused = true →
      (parse r path (run r (ofFiles files) es)).state = run r (ofFiles files) es) ∧
    ∀ path path', path' ≠ path →
      (parse r path (run r (ofFiles files) es)).state.shelved.find? (·.path = path') =
        (run r (ofFiles files) es).shelved.find? (·.path = path') := by
  have hnumbered : ∀ before, Numbered (run r (ofFiles files) before) := fun before =>
    (numbered_ofFiles files).run before
  refine ⟨size_run r files es, fun path text' t' hr h' => ⟨?_, ?_⟩, ?_, ?_⟩
  · rintro text t between ⟨before, rfl, h, hlast⟩
    rw [h.id_eq_iff h' (hnumbered before) hr]
    refine and_congr_right fun _ => and_iff_left ?_
    intro mid rest u s hbetween hu
    exact absurd hu (hlast mid rest u s hbetween)
  · rintro before mid rest text t u s rfl h hu hne hid
    obtain ⟨-, -, hmid⟩ := (h.id_eq_iff h' (hnumbered before) hr).mp hid
    exact hne (hmid mid rest u s rfl hu)
  · rintro path (⟨e, he⟩ | hreused)
    · exact state_parse_of_error he
    · exact state_parse_of_reused hreused
  · intro path path' hne
    exact find?_parse_of_ne hne

/-- The file, which reads `x`, is parsed, comes to hold `x=`, which is parsed in vain, and is
changed back. -/
def failing : List Event :=
  [.parse onePath, .edit (oneFile [120, 61]), .parse onePath, .edit (oneFile [120])]

/-- The tree of `x` is given again after a failure, and not after another text was parsed. -/
theorem shared_trees_failing_reverting :
    ∃ t t' t'', Gives byLength (ofFiles (oneFile [120])) [] onePath "x".toList t ∧
      Gives byLength (ofFiles (oneFile [120])) failing onePath "x".toList t' ∧
      Gives byLength (ofFiles (oneFile [120])) reverting onePath "x".toList t'' ∧
      t'.id = t.id ∧ t''.id ≠ t.id := by
  obtain ⟨t, h⟩ : ∃ t, Gives byLength (ofFiles (oneFile [120])) [] onePath "x".toList t :=
    ⟨_, by cbv, by cbv⟩
  obtain ⟨t', h'⟩ : ∃ t', Gives byLength (ofFiles (oneFile [120])) failing onePath "x".toList t' :=
    ⟨_, by cbv, by cbv⟩
  obtain ⟨t'', h''⟩ :
      ∃ t'', Gives byLength (ofFiles (oneFile [120])) reverting onePath "x".toList t'' :=
    ⟨_, by cbv, by cbv⟩
  have hfail : ∃ e, (parse byLength onePath (run byLength (ofFiles (oneFile [120]))
      [.parse onePath, .edit (oneFile [120, 61])])).outcome = .error e := ⟨_, by cbv⟩
  have hlast : GaveLast byLength (ofFiles (oneFile [120])) failing onePath "x".toList t
      [.edit (oneFile [120, 61]), .parse onePath, .edit (oneFile [120])] := by
    refine ⟨[], rfl, h, ?_⟩
    intro mid rest u s hbetween hu
    have hmid : mid = [.edit (oneFile [120, 61])] := by
      rcases mid with _ | ⟨a, _ | ⟨b, _ | ⟨c, mid⟩⟩⟩ <;> simp_all
    subst hmid
    obtain ⟨e, he⟩ := hfail
    cases he.symm.trans hu.given
  have hr : byLength.Distinguishes (textsRead (oneFile [120]) (failing ++ [.parse onePath])) := by
    unfold Reader.Distinguishes
    decide
  have hr' : byLength.Distinguishes
      (textsRead (oneFile [120]) (reverting ++ [.parse onePath])) := by
    unfold Reader.Distinguishes
    decide
  have hsame :=
    ((shared_trees byLength (oneFile [120]) failing).2.1 onePath _ t' hr h').1 _ t _ hlast
  refine ⟨t, t', t'', h, h', h'', hsame.mpr ⟨by simp, rfl⟩, ?_⟩
  obtain ⟨s, hs⟩ : ∃ s, Gives byLength (ofFiles (oneFile [120]))
      [.parse onePath, .edit (oneFile [120, 61, 121])] onePath "x=y".toList s :=
    ⟨_, by cbv, by cbv⟩
  exact ((shared_trees byLength (oneFile [120]) reverting).2.1 onePath _ t'' hr' h'').2 []
    [.edit (oneFile [120, 61, 121])] [.edit (oneFile [120])] _ t _ s rfl h hs (by decide)

end Holdings

end DefSite
