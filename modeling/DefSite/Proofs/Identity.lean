import Mathlib
import DefSite.Proofs.History

/-!
# When matches are equal

Subjects are equal when their kinds, scopes and paths are and their nodes stand in one place of one
tree, so whether two matches of a method are equal is a matter of the trees that the parser gave
out.  Two parses of a path give one tree if and only if between them the trees at hand were not
dropped and no parse of the path, the second one included, read another text than the first one did
(`parse_again`); and so two calls for a method find equal subjects (`equal_matches`).

After a parse, the path `Keeps` the tree that was given out: it is the one at hand for the path.
From then on each event either leaves it there or makes it `Retired`, and a retired tree is never
given out again, for trees parsed later have greater numbers.
-/

namespace DefSite

namespace Holdings

variable {δ : Type} [DecidableEq δ]

section texts

variable (r : Reader δ) (path : PathName)

/-- The text that an event parses as that of the path, if it does and succeeds. -/
def textParsed (l : Holdings δ) : Event → List (List Char)
  | .parse path' =>
    if path' = path ∧ (parse r path' l).outcome.isOk then (l.files.textOf path').toOption.toList
    else []
  | .edit _ | .clear => []

/-- The texts that the successful parses of a path read in a run. -/
def textsParsed : Holdings δ → List Event → List (List Char)
  | _, [] => []
  | l, e :: es => textParsed r path l e ++ textsParsed (step r l e) es

variable {r path} {l : Holdings δ}

theorem mem_textParsed_iff {e : Event} {text : List Char} :
    text ∈ textParsed r path l e ↔
      e = .parse path ∧ l.files.textOf path = .ok text ∧ ∃ t, (parse r path l).outcome = .ok t := by
  cases e with
  | edit files => simp [textParsed]
  | clear => simp [textParsed]
  | parse path' =>
    by_cases hpath : path' = path
    · subst hpath
      cases hout : (parse r path' l).outcome with
      | error e => simp [textParsed, hout, Except.isOk, Except.toBool]
      | ok t =>
        have hmem :
            textParsed r path' l (.parse path') = (l.files.textOf path').toOption.toList := by
          simp [textParsed, hout, Except.isOk, Except.toBool]
        rw [hmem]
        cases l.files.textOf path' <;> simp [Except.toOption, eq_comm]
    · simp [textParsed, hpath]

theorem textsParsed_subset_textsRead (es : List Event) :
    textsParsed r path l es ⊆ textsRead l.files es := by
  induction es generalizing l with
  | nil => exact List.Subset.refl _
  | cons e es ih =>
    intro text hmem
    rcases List.mem_append.mp hmem with hmem | hmem
    · obtain ⟨rfl, hread, -⟩ := mem_textParsed_iff.mp hmem
      exact List.mem_append_left _ (by simp [Event.textRead, hread, Except.toOption])
    · have hrest := ih hmem
      rw [files_step] at hrest
      exact List.mem_append_right _ hrest

end texts

variable {r : Reader δ} {path : PathName} {l : Holdings δ} {t t' : ParsedTree} {text : List Char}

theorem exists_text_of_parse (hout : (parse r path l).outcome = .ok t) :
    ∃ text, l.files.textOf path = .ok text := by
  cases hread : l.files.textOf path with
  | ok text => exact ⟨text, rfl⟩
  | error e =>
    unfold parse at hout
    rw [hread] at hout
    cases hout

/-! ## Numbers of trees -/

/-- The trees at hand have numbers below that of the next one, and no two of them have one. -/
structure Numbered (l : Holdings δ) : Prop where
  lt_next : ∀ s ∈ l.shelved, s.tree.id < l.next
  unique : ∀ s ∈ l.shelved, ∀ s' ∈ l.shelved, s.tree.id = s'.tree.id → s.tree = s'.tree

/-- The tree was given out: no other tree at hand has its number, nor will one get it. -/
structure Issued (l : Holdings δ) (t : ParsedTree) : Prop where
  lt_next : t.id < l.next
  eq_of_id : ∀ s ∈ l.shelved, s.tree.id = t.id → s.tree = t

/-- What an event can do to the trees at hand. -/
inductive StepCase (l : Holdings δ) : Holdings δ → Prop
  | same {l' : Holdings δ} (hshelved : l'.shelved = l.shelved) (hnext : l'.next = l.next) :
    StepCase l l'
  | cleared : StepCase l l.clear
  | added {path : PathName} {digest : δ} {root : Node} :
    StepCase l { l.shelve ⟨path, digest, ⟨l.next, root⟩⟩ with next := l.next + 1 }

theorem stepCase (r : Reader δ) (l : Holdings δ) (e : Event) : StepCase l (step r l e) := by
  cases e with
  | edit files => exact .same rfl rfl
  | clear => exact .cleared
  | parse path =>
    have hcase := parseCase r path l
    unfold step
    dsimp only
    generalize parse r path l = p at hcase
    cases hcase with
    | unread => exact .same rfl rfl
    | atHand => exact .same rfl rfl
    | flawed => exact .same rfl rfl
    | parsed => exact .added

theorem next_le_step (e : Event) : l.next ≤ (step r l e).next := by
  have hcase := stepCase r l e
  generalize step r l e = l' at hcase
  cases hcase with
  | same _ hnext => exact Nat.le_of_eq hnext.symm
  | cleared => exact Nat.le_refl _
  | added => exact Nat.le_succ _

omit [DecidableEq δ] in
theorem numbered_ofFiles (files : FileStore) : Numbered (ofFiles files : Holdings δ) :=
  ⟨fun _ hs => absurd hs List.not_mem_nil, fun _ hs => absurd hs List.not_mem_nil⟩

theorem Numbered.step (h : Numbered l) (e : Event) : Numbered (Holdings.step r l e) := by
  have hcase := stepCase r l e
  generalize Holdings.step r l e = l' at hcase
  cases hcase with
  | same hshelved hnext =>
    refine ⟨fun s hs => ?_, fun s hs s' hs' => ?_⟩
    · rw [hshelved] at hs
      rw [hnext]
      exact h.lt_next s hs
    · rw [hshelved] at hs hs'
      exact h.unique s hs s' hs'
  | cleared =>
    exact ⟨fun _ hs => absurd hs List.not_mem_nil, fun _ hs => absurd hs List.not_mem_nil⟩
  | @added path digest root =>
    have hold : ∀ s ∈ l.shelved.filter (·.path ≠ path), s.tree.id < l.next := fun s hs =>
      h.lt_next s (List.mem_filter.mp hs).1
    refine ⟨fun s hs => ?_, fun s hs s' hs' hid => ?_⟩
    · rcases List.mem_cons.mp hs with rfl | hs
      · exact Nat.lt_succ_self _
      · exact Nat.lt_succ_of_lt (hold s hs)
    · rcases List.mem_cons.mp hs with rfl | hs <;> rcases List.mem_cons.mp hs' with rfl | hs'
      · rfl
      · exact absurd hid (Nat.ne_of_gt (hold s' hs'))
      · exact absurd hid (Nat.ne_of_lt (hold s hs))
      · exact h.unique s (List.mem_filter.mp hs).1 s' (List.mem_filter.mp hs').1 hid

theorem Numbered.run (h : Numbered l) (es : List Event) : Numbered (Holdings.run r l es) := by
  induction es generalizing l with
  | nil => exact h
  | cons e es ih => exact ih (h.step e)

theorem Issued.step (h : Issued l t) (e : Event) : Issued (Holdings.step r l e) t := by
  have hcase := stepCase r l e
  generalize Holdings.step r l e = l' at hcase
  cases hcase with
  | same hshelved hnext =>
    refine ⟨?_, fun s hs => ?_⟩
    · rw [hnext]
      exact h.lt_next
    · rw [hshelved] at hs
      exact h.eq_of_id s hs
  | cleared => exact ⟨h.lt_next, fun _ hs => absurd hs List.not_mem_nil⟩
  | added =>
    refine ⟨Nat.lt_succ_of_lt h.lt_next, fun s hs hid => ?_⟩
    rcases List.mem_cons.mp hs with rfl | hs
    · exact absurd hid (Nat.ne_of_gt h.lt_next)
    · exact h.eq_of_id s (List.mem_filter.mp hs).1 hid

theorem Issued.run (h : Issued l t) (es : List Event) : Issued (Holdings.run r l es) t := by
  induction es generalizing l with
  | nil => exact h
  | cons e es ih => exact ih (h.step e)

/-! ## The tree that a path keeps -/

/-- The tree at hand for the path is this one, parsed from a text of that digest. -/
def Keeps (l : Holdings δ) (path : PathName) (digest : δ) (t : ParsedTree) : Prop :=
  l.shelved.find? (·.path = path) = some ⟨path, digest, t⟩

theorem Keeps.atHand?_eq {digest : δ} (h : Keeps l path digest t) (digest' : δ) :
    l.atHand? path digest' = if digest = digest' then some t else none := by
  unfold atHand?
  rw [h]
  rfl

omit [DecidableEq δ] in
theorem Keeps.mem {digest : δ} (h : Keeps l path digest t) : ⟨path, digest, t⟩ ∈ l.shelved :=
  List.mem_of_find?_eq_some h

omit [DecidableEq δ] in
theorem Keeps.unique {digest digest' : δ} (h : Keeps l path digest t)
    (h' : Keeps l path digest' t') : t = t' := by
  cases h.symm.trans h'
  rfl

/-- The tree that a parse gives is kept from then on. -/
theorem keeps_of_parse (hread : l.files.textOf path = .ok text)
    (hout : (parse r path l).outcome = .ok t) :
    Keeps (parse r path l).state path (r.digest text) t := by
  have hcase := parseCase r path l
  generalize parse r path l = p at hcase hout
  cases hcase with
  | unread => cases hout
  | flawed => cases hout
  | @atHand text' tree hread' hhand =>
    cases hread.symm.trans hread'
    cases hout
    obtain ⟨s, hs, hsome⟩ := Option.bind_eq_some_iff.mp hhand
    have hpath : s.path = path := by simpa using List.find?_some hs
    split at hsome
    · next hdigest =>
      cases hsome
      rw [Keeps, hs, ← hpath, ← hdigest]
    · cases hsome
  | @parsed text' root hread' hhand htree =>
    cases hread.symm.trans hread'
    cases hout
    simp [Keeps, shelve]

/-- A text of the digest that is kept gives the tree that is kept. -/
theorem Keeps.parse_eq {digest : δ} (h : Keeps l path digest t)
    (hread : l.files.textOf path = .ok text) (hdigest : r.digest text = digest) :
    parse r path l = ⟨.ok t, true, l⟩ := by
  have hhand : l.atHand? path (r.digest text) = some t := by
    rw [h.atHand?_eq, hdigest, if_pos rfl]
  simp only [parse, hread, hhand]

theorem find?_parse_of_ne {path' : PathName} (h : path ≠ path') :
    (parse r path' l).state.shelved.find? (·.path = path) = l.shelved.find? (·.path = path) := by
  have hcase := parseCase r path' l
  generalize parse r path' l = p at hcase
  cases hcase with
  | unread => rfl
  | atHand => rfl
  | flawed => rfl
  | parsed => exact find?_shelve_of_ne h

/-- Only dropping the trees at hand, or parsing another text of the path, takes a tree away. -/
theorem Keeps.step (h : Keeps l path (r.digest text) t) {e : Event} (hclear : e ≠ .clear)
    (htexts : ∀ u ∈ textParsed r path l e, u = text) :
    Keeps (Holdings.step r l e) path (r.digest text) t := by
  cases e with
  | edit files => exact h
  | clear => exact absurd rfl hclear
  | parse path' =>
    by_cases hpath : path' = path
    · subst hpath
      have hstate : (parse r path' l).state = l := by
        cases hout : (parse r path' l).outcome with
        | error e => exact state_parse_of_error hout
        | ok t' =>
          obtain ⟨u, hread⟩ := exists_text_of_parse hout
          obtain rfl := htexts u (mem_textParsed_iff.mpr ⟨rfl, hread, t', hout⟩)
          rw [h.parse_eq hread rfl]
      show Keeps (parse r path' l).state _ _ _
      rw [hstate]
      exact h
    · show (parse r path' l).state.shelved.find? _ = _
      rw [find?_parse_of_ne fun e => hpath e.symm]
      exact h

theorem Keeps.run (h : Keeps l path (r.digest text) t) {es : List Event} (hclear : .clear ∉ es)
    (htexts : ∀ u ∈ textsParsed r path l es, u = text) :
    Keeps (Holdings.run r l es) path (r.digest text) t := by
  induction es generalizing l with
  | nil => exact h
  | cons e es ih =>
    have hstep := h.step (e := e) (fun he => hclear (he ▸ List.mem_cons_self))
      fun u hu => htexts u (List.mem_append_left _ hu)
    exact ih hstep (fun he => hclear (List.mem_cons_of_mem _ he))
      fun u hu => htexts u (List.mem_append_right _ hu)

/-! ## Trees that do not come back -/

/-- The tree of that number was given out, and it is not at hand for the path. -/
structure Retired (l : Holdings δ) (path : PathName) (id : Nat) : Prop where
  lt_next : id < l.next
  ne_of_mem : ∀ s ∈ l.shelved, s.path = path → s.tree.id ≠ id

theorem Retired.step {id : Nat} (h : Retired l path id) (e : Event) :
    Retired (Holdings.step r l e) path id := by
  have hcase := stepCase r l e
  generalize Holdings.step r l e = l' at hcase
  cases hcase with
  | same hshelved hnext =>
    refine ⟨?_, fun s hs => ?_⟩
    · rw [hnext]
      exact h.lt_next
    · rw [hshelved] at hs
      exact h.ne_of_mem s hs
  | cleared => exact ⟨h.lt_next, fun _ hs => absurd hs List.not_mem_nil⟩
  | added =>
    refine ⟨Nat.lt_succ_of_lt h.lt_next, fun s hs hpath => ?_⟩
    rcases List.mem_cons.mp hs with rfl | hs
    · exact Nat.ne_of_gt h.lt_next
    · exact h.ne_of_mem s (List.mem_filter.mp hs).1 hpath

theorem Retired.run {id : Nat} (h : Retired l path id) (es : List Event) :
    Retired (Holdings.run r l es) path id := by
  induction es generalizing l with
  | nil => exact h
  | cons e es ih => exact ih (h.step e)

/-- A tree is retired when the trees at hand are dropped, or when a text of another digest is
parsed. -/
theorem Keeps.retired_step (h : Keeps l path (r.digest text) t) (hlt : t.id < l.next) {e : Event}
    (hr : ∀ u ∈ textParsed r path l e, r.digest u = r.digest text → u = text)
    (hnot : e = .clear ∨ ∃ u ∈ textParsed r path l e, u ≠ text) :
    Retired (Holdings.step r l e) path t.id := by
  rcases hnot with rfl | ⟨u, hu, hne⟩
  · exact ⟨hlt, fun _ hs => absurd hs List.not_mem_nil⟩
  · obtain ⟨rfl, hread, t', hout⟩ := mem_textParsed_iff.mp hu
    have hdigest : r.digest text ≠ r.digest u := fun hd => hne (hr u hu hd.symm)
    have hcase := parseCase r path l
    unfold Holdings.step
    dsimp only
    generalize parse r path l = p at hcase hout
    cases hcase with
    | unread => cases hout
    | flawed => cases hout
    | atHand hread' hhand =>
      cases hread.symm.trans hread'
      rw [h.atHand?_eq, if_neg hdigest] at hhand
      cases hhand
    | parsed =>
      refine ⟨Nat.lt_succ_of_lt hlt, fun s hs hpath => ?_⟩
      rcases List.mem_cons.mp hs with rfl | hs
      · exact Nat.ne_of_gt hlt
      · have hother := (List.mem_filter.mp hs).2
        simp [hpath] at hother

theorem Keeps.retired_run (h : Keeps l path (r.digest text) t) (hlt : t.id < l.next)
    {es : List Event}
    (hr : ∀ u ∈ textsParsed r path l es, r.digest u = r.digest text → u = text)
    (hnot : .clear ∈ es ∨ ∃ u ∈ textsParsed r path l es, u ≠ text) :
    Retired (Holdings.run r l es) path t.id := by
  induction es generalizing l with
  | nil =>
    rcases hnot with hnot | ⟨u, hu, -⟩
    · cases hnot
    · cases hu
  | cons e es ih =>
    have hr₁ : ∀ u ∈ textParsed r path l e, r.digest u = r.digest text → u = text :=
      fun u hu => hr u (List.mem_append_left _ hu)
    by_cases hnow : e = .clear ∨ ∃ u ∈ textParsed r path l e, u ≠ text
    · exact (h.retired_step hlt hr₁ hnow).run es
    · simp only [not_or, not_exists, not_and, not_not] at hnow
      obtain ⟨hclear, htexts⟩ := hnow
      have hlt' : t.id < (Holdings.step r l e).next := Nat.lt_of_lt_of_le hlt (next_le_step e)
      refine ih (h.step hclear htexts) hlt' (fun u hu => hr u (List.mem_append_right _ hu)) ?_
      rcases hnot with hmem | ⟨u, hu, hne⟩
      · rcases List.mem_cons.mp hmem with hmem | hmem
        · exact absurd hmem.symm hclear
        · exact .inl hmem
      · rcases List.mem_append.mp hu with hu | hu
        · exact absurd (htexts u hu) hne
        · exact .inr ⟨u, hu, hne⟩

/-- A tree that was just given out has a number of its own. -/
theorem issued_of_parse (h : Numbered l) (hout : (parse r path l).outcome = .ok t) :
    Issued (parse r path l).state t := by
  obtain ⟨text, hread⟩ := exists_text_of_parse hout
  have hmem := (keeps_of_parse hread hout).mem
  have hnum : Numbered (parse r path l).state := h.step (r := r) (.parse path)
  exact ⟨hnum.lt_next _ hmem, fun s hs hid => hnum.unique s hs _ hmem hid⟩

/-- **When a parse gives a tree again.**  Of two successful parses of a path, the second one gives
the tree of the first if and only if between them the trees at hand were not dropped and the
successful parses of the path, the second one included, read the text that the first one read. -/
theorem parse_again {es : List Event} (h : Numbered l) (hread : l.files.textOf path = .ok text)
    (hout : (parse r path l).outcome = .ok t)
    (hout' : (parse r path (run r (parse r path l).state es)).outcome = .ok t')
    (hr : ∀ u ∈ textsParsed r path (parse r path l).state (es ++ [.parse path]),
      r.digest u = r.digest text → u = text) :
    t' = t ↔ .clear ∉ es ∧
      ∀ u ∈ textsParsed r path (parse r path l).state (es ++ [.parse path]), u = text := by
  have hkeeps := keeps_of_parse hread hout
  have hlt := (issued_of_parse h hout).lt_next
  obtain ⟨text', hread'⟩ := exists_text_of_parse hout'
  have hkeeps' := keeps_of_parse hread' hout'
  have hlast : run r (parse r path l).state (es ++ [.parse path]) =
      (parse r path (run r (parse r path l).state es)).state := by
    simp [run, step]
  constructor
  · rintro rfl
    by_contra hnot
    have hnot' : .clear ∈ es ++ [.parse path] ∨
        ∃ u ∈ textsParsed r path (parse r path l).state (es ++ [.parse path]), u ≠ text := by
      by_cases hclear : Event.clear ∈ es
      · exact .inl (List.mem_append_left _ hclear)
      · refine .inr ?_
        by_contra hall
        exact hnot ⟨hclear, fun u hu => by_contra fun hne => hall ⟨u, hu, hne⟩⟩
    have hretired := hkeeps.retired_run hlt hr hnot'
    rw [hlast] at hretired
    exact hretired.ne_of_mem _ hkeeps'.mem rfl rfl
  · rintro ⟨hclear, htexts⟩
    have hclear' : Event.clear ∉ es ++ [.parse path] := by simpa using hclear
    have hrun := hkeeps.run hclear' htexts
    rw [hlast] at hrun
    exact hkeeps'.unique hrun

/-- Trees of one number are one tree, whichever paths they were given out for. -/
theorem eq_of_id {path' : PathName} {es : List Event} (h : Numbered l)
    (hout : (parse r path l).outcome = .ok t)
    (hout' : (parse r path' (run r (parse r path l).state es)).outcome = .ok t')
    (hid : t'.id = t.id) : t' = t := by
  have hissued := ((issued_of_parse h hout).run (r := r) es).step (r := r) (.parse path')
  obtain ⟨text', hread'⟩ := exists_text_of_parse hout'
  exact hissued.eq_of_id _ (keeps_of_parse hread' hout').mem hid

end Holdings

/-! ## Matches -/

namespace Query

variable {σ : Type} {q : Query} {setup : Setup σ} {w : World σ} {s : Subject}

/-- A subject that a call answers is the last definition in the tree that the call was given. -/
theorem exists_of_callAfresh (h : (q.callAfresh setup w).1 = .ok [s]) :
    ∃ l t a n, q.Searches setup w l t ∧
      t.root.IsLast (q.variant.Defines q.method.name l.line) a n ∧
      s = ⟨q.variant.subjectKind, ⟨q.scope, setup.pathOf l.file⟩, n, ⟨t.id, a⟩, setup.sink⟩ := by
  obtain ⟨l, t, a, n, ⟨hsearches, hlast, -⟩, hs⟩ :=
    found_of_mem_callAfresh h (List.mem_singleton_self s)
  exact ⟨l, t, a, n, hsearches, hlast, hs⟩

end Query

section calls

open Holdings

variable {δ : Type} [DecidableEq δ] {r : Reader δ} {setup : Setup (Holdings δ)}
  {w : World (Holdings δ)} {q : Query}

variable (r setup) in
/-- The texts that the successful parses of a path read in a run of a world. -/
def World.textsParsed (path : PathName) (w : World (Holdings δ)) (hs : List Happening) :
    List (List Char) :=
  Holdings.textsParsed r path w.parser (hs.flatMap (·.events setup))

omit [DecidableEq δ] in
theorem clear_mem_events_iff {hs : List Happening} :
    Event.clear ∈ hs.flatMap (·.events setup) ↔ .event .clear ∈ hs := by
  constructor
  · intro h
    obtain ⟨h', hmem, he⟩ := List.mem_flatMap.mp h
    cases h' with
    | event e => rwa [List.mem_singleton.mp he]
    | call q =>
      simp only [Happening.events, Query.events] at he
      split at he
      · cases he
      · split at he <;> simp at he
  · exact fun h => List.mem_flatMap.mpr ⟨_, h, List.mem_singleton_self _⟩

theorem numbered_run_opening (hparse : setup.parse = Holdings.parse r) (files : FileStore)
    (board : Board) (hs : List Happening) :
    Numbered ((World.opening files board).run r setup hs).parser := by
  rw [parser_run hparse]
  exact (numbered_ofFiles files).run _

/-- What a call that is given a tree does to the parser. -/
theorem outcome_parse_of_searches (hparse : setup.parse = Holdings.parse r) {l : Live.Location}
    {t : ParsedTree} (h : q.Searches setup w l t) :
    (Holdings.parse r (setup.pathOf l.file) w.parser).outcome = .ok t ∧
      (q.callAfresh setup w).2.parser =
        (Holdings.parse r (setup.pathOf l.file) w.parser).state := by
  rw [Query.parser_callAfresh_of_readable h.located h.allowed, ← hparse]
  exact ⟨h.parsed, rfl⟩

theorem textsReadBy_append (hparse : setup.parse = Holdings.parse r) (files : FileStore)
    (board : Board) (hs hs' : List Happening) :
    textsReadBy setup files (hs ++ hs') = textsReadBy setup files hs ++
      textsRead ((World.opening files board).run r setup hs).parser.files
        (hs'.flatMap (·.events setup)) := by
  rw [parser_run hparse, files_run]
  unfold textsReadBy
  rw [List.flatMap_append, textsRead_append]
  rfl

theorem textsParsed_subset_textsReadBy (hparse : setup.parse = Holdings.parse r)
    (files : FileStore) (board : Board) (hs hs' : List Happening) (path : PathName) :
    ((World.opening files board).run r setup hs).textsParsed r setup path hs' ⊆
      textsReadBy setup files (hs ++ hs') := by
  rw [textsReadBy_append hparse files board]
  exact List.Subset.trans (textsParsed_subset_textsRead _) (List.subset_append_right ..)

/-- The text of the file that a call of a run is given a tree of is one that the run reads. -/
theorem textOf_mem_textsReadBy (hparse : setup.parse = Holdings.parse r) {files : FileStore}
    {board : Board} {hs hs' : List Happening} {l : Live.Location} {t : ParsedTree}
    {text : List Char}
    (h : q.Searches setup ((World.opening files board).run r setup hs) l t)
    (hread : ((World.opening files board).run r setup hs).parser.files.textOf
      (setup.pathOf l.file) = .ok text) :
    text ∈ textsReadBy setup files (hs ++ .call q :: hs') := by
  rw [textsReadBy_append hparse files board]
  refine List.mem_append_right _ ?_
  simp [Happening.events, Query.events_of_readable h.located h.allowed, textsRead, Event.textRead,
    hread, Except.toOption]

end calls

section pairs

open Holdings

variable {δ : Type} [DecidableEq δ] {r : Reader δ} {setup : Setup (Holdings δ)}
  {w w' : World (Holdings δ)} {q q' : Query} {s s' : Subject} {between : List Happening}

/-- Subjects are equal when all but their nodes' contents and their sinks are. -/
theorem Subject.beq_iff : (s == s') = true ↔ s.kind = s'.kind ∧
    s.context.scope = s'.context.scope ∧ s.context.path = s'.context.path ∧
    s.origin = s'.origin := by
  have hkey : (s == s') = (s.key == s'.key) := rfl
  rw [hkey, beq_iff_eq]
  obtain ⟨kind, ⟨scope, path⟩, node, origin, sink⟩ := s
  obtain ⟨kind', ⟨scope', path'⟩, node', origin', sink'⟩ := s'
  simp [Subject.key, and_assoc]

variable (hparse : setup.parse = Holdings.parse r) (hw : Numbered w.parser)
  (hs : (q.callAfresh setup w).1 = .ok [s])
  (hs' : (q'.callAfresh setup ((q.callAfresh setup w).2.run r setup between)).1 = .ok [s'])

include hparse hw hs hs' in
/-- Nodes of matches that are one node are the same in all they hold. -/
theorem node_eq_of_origin (horigin : s.origin = s'.origin) : s.node = s'.node := by
  obtain ⟨l, t, a, n, hsearches, hlast, rfl⟩ := Query.exists_of_callAfresh hs
  obtain ⟨l', t', a', n', hsearches', hlast', rfl⟩ := Query.exists_of_callAfresh hs'
  obtain ⟨hout, hstate⟩ := outcome_parse_of_searches hparse hsearches
  obtain ⟨hout', -⟩ := outcome_parse_of_searches hparse hsearches'
  rw [parser_run hparse, hstate] at hout'
  obtain ⟨hid, haddress⟩ := NodeId.mk.inj horigin
  obtain rfl := eq_of_id hw hout hout' hid.symm
  have hat := hlast.at?
  rw [haddress, hlast'.at?] at hat
  exact (Option.some.inj hat).symm

end pairs

section repeated

open Holdings

variable {δ : Type} [DecidableEq δ] {r : Reader δ} {setup : Setup (Holdings δ)}
  {w : World (Holdings δ)} {q : Query} {s s' : Subject} {between : List Happening}

/-- Matches of one method are equal when the trees are that they were found in. -/
theorem beq_iff_parse_again (hparse : setup.parse = Holdings.parse r) (hw : Numbered w.parser)
    (hs : (q.callAfresh setup w).1 = .ok [s])
    (hs' : (q.callAfresh setup ((q.callAfresh setup w).2.run r setup between)).1 = .ok [s'])
    (hr : ∀ text, w.parser.files.textOf s.context.path = .ok text →
      ∀ u ∈ (q.callAfresh setup w).2.textsParsed r setup s.context.path (between ++ [.call q]),
        r.digest u = r.digest text → u = text) :
    (s == s') = true ↔ .event .clear ∉ between ∧
      ∃ text, w.parser.files.textOf s.context.path = .ok text ∧
        ∀ u ∈ (q.callAfresh setup w).2.textsParsed r setup s.context.path (between ++ [.call q]),
          u = text := by
  obtain ⟨l, t, a, n, hsearches, hlast, rfl⟩ := Query.exists_of_callAfresh hs
  obtain ⟨l', t', a', n', hsearches', hlast', rfl⟩ := Query.exists_of_callAfresh hs'
  cases hsearches.located.symm.trans hsearches'.located
  obtain ⟨hout, hstate⟩ := outcome_parse_of_searches hparse hsearches
  obtain ⟨hout', -⟩ := outcome_parse_of_searches hparse hsearches'
  rw [parser_run hparse, hstate] at hout'
  obtain ⟨text, hread⟩ := exists_text_of_parse hout
  have htexts : (q.callAfresh setup w).2.textsParsed r setup (setup.pathOf l.file)
      (between ++ [.call q]) = Holdings.textsParsed r (setup.pathOf l.file)
        (parse r (setup.pathOf l.file) w.parser).state
        (between.flatMap (·.events setup) ++ [.parse (setup.pathOf l.file)]) := by
    unfold World.textsParsed
    rw [hstate, List.flatMap_append]
    simp [Happening.events, Query.events_of_readable hsearches.located hsearches.allowed]
  dsimp only at hr ⊢
  rw [htexts] at hr ⊢
  have hagain := parse_again hw hread hout hout' (hr text hread)
  have hbeq : t' = t ↔ t.id = t'.id ∧ a = a' := by
    constructor
    · rintro rfl
      exact ⟨rfl, (hlast.unique hlast').1⟩
    · exact fun h => eq_of_id hw hout hout' h.1.symm
  rw [Subject.beq_iff, NodeId.mk.injEq, ← hbeq, hagain, clear_mem_events_iff]
  simp [hread]

end repeated

open Holdings in
/-- **When matches are equal.**  Take two calls of a run that each answer a subject.  The subjects
are equal, whatever sinks they report to, if and only if their kinds, scopes and paths are and their
nodes are one node, which makes the nodes the same in all they hold.  Where both calls are for one
method on one scope and of one variant, the subjects are equal if and only if between the calls the
trees at hand were not dropped and every successful parse of the path, the second call's own
included, read the text that the first call did, as long as no two texts of the run have one
digest. -/
theorem equal_matches {δ : Type} [DecidableEq δ] (r : Reader δ) (pathOf : String → PathName)
    (denylist : Denylist) (sink : SinkId) (files : FileStore) (board : Board)
    (before between : List Happening) (q q' : Query) (s s' : Subject)
    (hs : (q.callAfresh (r.setup pathOf denylist sink)
      ((World.opening files board).run r (r.setup pathOf denylist sink) before)).1 = .ok [s])
    (hs' : (q'.callAfresh (r.setup pathOf denylist sink)
      ((World.opening files board).run r (r.setup pathOf denylist sink)
        (before ++ .call q :: between))).1 = .ok [s']) :
    (∀ i j, ({ s with sink := i } == { s' with sink := j }) = true ↔ s.kind = s'.kind ∧
      s.context.scope = s'.context.scope ∧ s.context.path = s'.context.path ∧
      s.origin = s'.origin) ∧
    (s.origin = s'.origin → s.node = s'.node) ∧
    (q' = q → r.Distinguishes (textsReadBy (r.setup pathOf denylist sink) files
        (before ++ .call q :: between ++ [.call q])) →
      ((s == s') = true ↔ .event .clear ∉ between ∧ ∃ text,
        ((World.opening files board).run r (r.setup pathOf denylist sink)
          before).parser.files.textOf s.context.path = .ok text ∧
        ∀ u ∈ ((World.opening files board).run r (r.setup pathOf denylist sink)
          (before ++ [.call q])).textsParsed r (r.setup pathOf denylist sink) s.context.path
            (between ++ [.call q]), u = text)) := by
  have hparse : (r.setup pathOf denylist sink).parse = Holdings.parse r := rfl
  have hw := numbered_run_opening hparse files board before
  have happend : ∀ hs hs', (World.opening files board).run r (r.setup pathOf denylist sink)
      (hs ++ hs') = ((World.opening files board).run r (r.setup pathOf denylist sink) hs).run r
        (r.setup pathOf denylist sink) hs' := fun hs hs' => List.foldl_append ..
  rw [happend] at hs'
  refine ⟨fun i j => Subject.beq_iff, node_eq_of_origin hparse hw hs hs', ?_⟩
  rintro rfl hr
  rw [happend before]
  refine beq_iff_parse_again hparse hw hs hs' fun text hread u hu hdigest => ?_
  obtain ⟨l, t, a, n, hsearches, -, rfl⟩ := Query.exists_of_callAfresh hs
  refine hr u ?_ text ?_ hdigest
  · have hcalls : before ++ .call q' :: between ++ [.call q'] =
        (before ++ [.call q']) ++ (between ++ [.call q']) := by simp
    rw [hcalls]
    refine textsParsed_subset_textsReadBy hparse files board _ _ (pathOf l.file) ?_
    rw [happend before]
    exact hu
  · have hcalls : before ++ .call q' :: between ++ [.call q'] =
        before ++ .call q' :: (between ++ [.call q']) := by simp
    rw [hcalls]
    exact textOf_mem_textsReadBy hparse hsearches hread

section together

open Holdings

/-- A file that defines `f`. -/
def definingFile : FileStore :=
  oneFile [100, 101, 102, 32, 102, 40, 41, 58, 48]

/-- The file comes to hold `x=`, which is parsed in vain, and is changed back. -/
def mishap : List Happening :=
  [.event (.edit (oneFile [120, 61])), .event (.parse onePath), .event (.edit definingFile)]

/-- The file comes to hold `x`, which is parsed, and is changed back. -/
def detour : List Happening :=
  [.event (.edit (oneFile [120])), .event (.parse onePath), .event (.edit definingFile)]

/-- The world in which other things happened to the file that defines `f`. -/
def definedAfter (hs : List Happening) : World (Holdings Nat) :=
  (World.opening definingFile .empty).run byLength oneFileSetup hs

set_option maxRecDepth 2000 in
/-- A second call finds an equal subject after the mishap, and another one after the detour. -/
theorem equal_matches_mishap_detour :
    ∃ s s' s'',
      (oneQuery.callAfresh oneFileSetup (definedAfter [])).1 = .ok [s] ∧
      (oneQuery.callAfresh oneFileSetup (definedAfter (.call oneQuery :: mishap))).1 = .ok [s'] ∧
      (oneQuery.callAfresh oneFileSetup (definedAfter (.call oneQuery :: detour))).1 = .ok [s''] ∧
      (s == s') = true ∧ (s == s'') = false := by
  obtain ⟨s, hs⟩ : ∃ s, (oneQuery.callAfresh oneFileSetup (definedAfter [])).1 = .ok [s] :=
    ⟨_, by cbv⟩
  obtain ⟨s', hs'⟩ : ∃ s', (oneQuery.callAfresh oneFileSetup
      (definedAfter (.call oneQuery :: mishap))).1 = .ok [s'] := ⟨_, by cbv⟩
  obtain ⟨s'', hs''⟩ : ∃ s'', (oneQuery.callAfresh oneFileSetup
      (definedAfter (.call oneQuery :: detour))).1 = .ok [s''] := ⟨_, by cbv⟩
  have hr : byLength.Distinguishes (textsReadBy oneFileSetup definingFile
      ([] ++ .call oneQuery :: mishap ++ [.call oneQuery])) := by
    unfold Reader.Distinguishes
    decide
  have hr' : byLength.Distinguishes (textsReadBy oneFileSetup definingFile
      ([] ++ .call oneQuery :: detour ++ [.call oneQuery])) := by
    unfold Reader.Distinguishes
    decide
  have hpath : s.context.path = onePath := by
    obtain ⟨l, t, a, n, -, -, rfl⟩ := Query.exists_of_callAfresh hs
    rfl
  have hread : definingFile.textOf onePath = .ok "def f():0".toList := by cbv
  have htexts : (definedAfter [.call oneQuery]).textsParsed byLength oneFileSetup onePath
      (mishap ++ [.call oneQuery]) = ["def f():0".toList] := by cbv
  have htexts' : (definedAfter [.call oneQuery]).textsParsed byLength oneFileSetup onePath
      (detour ++ [.call oneQuery]) = ["x".toList, "def f():0".toList] := by cbv
  have hequal := (equal_matches byLength _ _ _ _ _ [] mishap oneQuery oneQuery s s' hs hs').2.2
    rfl hr
  have hdiffer := (equal_matches byLength _ _ _ _ _ [] detour oneQuery oneQuery s s'' hs hs'').2.2
    rfl hr'
  rw [hpath] at hequal hdiffer
  refine ⟨s, s', s'', hs, hs', hs'', hequal.mpr ⟨by simp [mishap], _, hread, ?_⟩, ?_⟩
  · intro u hu
    exact List.mem_singleton.mp (htexts ▸ hu)
  · by_contra hnot
    obtain ⟨-, text, -, htext⟩ := hdiffer.mp (Bool.not_eq_false _ ▸ hnot)
    have hfirst := htext "x".toList (htexts' ▸ by simp)
    have hlast := htext "def f():0".toList (htexts' ▸ by simp)
    exact absurd (hfirst.trans hlast.symm) (by decide)

end together

end DefSite
