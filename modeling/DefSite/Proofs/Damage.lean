import Mathlib
import DefSite.Proofs.Recognition
import DefSite.Proofs.Search

/-!
# Searches of damaged trees

Any field and any position of a tree may be absent.  A test of a node reads what it needs in a fixed
order and stops early, so what is absent is a fault only if it is read: `Lacks` says which fault a
node gives to a search for a method, and `IsDamagedFor` that it gives one.  A search fails with the
first such node of the walk (`findLast_recognises_outcome`), and where none is met it finds the last
definition, whatever else is absent.
-/

namespace DefSite

namespace Node

variable {n d m : Node} {name : String} {line : Int} {e : Fault}

/-! ## Decorators that cannot be named -/

/-- The expression that names a decorator: what it calls, if it is a call, or else itself. -/
inductive Denotes (d : Node) : Node → Prop
  | called {f : Node} (hk : d.kind = .call) (hf : d.child? .func = some f) : Denotes d f
  | itself (hk : d.kind ≠ .call) : Denotes d d

/-- The decorator lacks what naming it requires: what it calls, or the name or the attribute of the
expression that names it. -/
inductive Unnameable (d : Node) : Fault → Prop
  | func (hk : d.kind = .call) (h : d.child? .func = none) :
    Unnameable d (.missingField .call .func)
  | id {m : Node} (hm : d.Denotes m) (hk : m.kind = .name) (h : m.word? .id = none) :
    Unnameable d (.missingField .name .id)
  | attr {m : Node} (hm : d.Denotes m) (hk : m.kind = .access) (h : m.word? .attr = none) :
    Unnameable d (.missingField .access .attr)

theorem Denotes.bareName_eq (h : d.Denotes m) :
    d.bareName = (match m.kind with
      | .name => return some (← m.readWord .id)
      | .access => return some (← m.readWord .attr)
      | _ => return none) := by
  unfold bareName
  cases h with
  | called hk hf =>
    obtain ⟨p, hp, rfl⟩ := readChild_eq_ok hf
    rw [if_pos hk, hp]
    rfl
  | itself hk =>
    rw [if_neg hk]
    rfl

theorem Denotes.unnameable (hm : d.Denotes m) (h : d.bareName = .error e) : d.Unnameable e := by
  rw [hm.bareName_eq] at h
  split at h
  · next hk =>
    rcases bind_eq_error.mp h with h | ⟨_, -, h⟩
    · obtain ⟨hid, rfl⟩ := readWord_eq_error.mp h
      rw [hk]
      exact .id hm hk hid
    · cases h
  · next hk =>
    rcases bind_eq_error.mp h with h | ⟨_, -, h⟩
    · obtain ⟨hattr, rfl⟩ := readWord_eq_error.mp h
      rw [hk]
      exact .attr hm hk hattr
    · cases h
  · cases h

theorem bareName_of_no_func (hk : d.kind = .call) (hf : d.child? .func = none) :
    d.bareName = .error (.missingField .call .func) := by
  unfold bareName
  rw [if_pos hk, readChild_eq_error hf, hk]
  rfl

theorem bareName_eq_error_iff : d.bareName = .error e ↔ d.Unnameable e := by
  constructor
  · intro h
    by_cases hk : d.kind = .call
    · cases hf : d.child? .func with
      | none =>
        cases (bareName_of_no_func hk hf).symm.trans h
        exact .func hk hf
      | some f => exact (Denotes.called hk hf).unnameable h
    · exact (Denotes.itself hk).unnameable h
  · intro h
    cases h with
    | func hk hf => exact bareName_of_no_func hk hf
    | id hm hk hid =>
      rw [hm.bareName_eq, hk]
      exact bind_eq_error.mpr (.inl (readWord_eq_error.mpr ⟨hid, by rw [hk]⟩))
    | attr hm hk hattr =>
      rw [hm.bareName_eq, hk]
      exact bind_eq_error.mpr (.inl (readWord_eq_error.mpr ⟨hattr, by rw [hk]⟩))

theorem exists_bareName_iff : (∃ b, d.bareName = .ok b) ↔ ∀ e, ¬ d.Unnameable e := by
  simp only [← bareName_eq_error_iff]
  cases d.bareName <;> simp

theorem decoratedBy_eq (n : Node) :
    n.decoratedBy = (do
      let names ← (match n.listed? .decorators with
        | some ds => ds.mapM bareName
        | none => .error (.missingField n.kind .decorators))
      return names.filterMap id) := by
  unfold decoratedBy
  rw [← bind_assoc]
  exact congrArg (· >>= fun names => pure (names.filterMap id))
    (readList_bind_mapM n .decorators bareName)

/-- The names of decorators are read in order, so the first one that cannot be named is told. -/
theorem decoratedBy_eq_error_iff {ds : List Node} (hds : n.listed? .decorators = some ds) :
    n.decoratedBy = .error e ↔ ∃ before d after, ds = before ++ d :: after ∧
      (∀ b ∈ before, ∀ e, ¬ b.Unnameable e) ∧ d.Unnameable e := by
  rw [decoratedBy_eq, hds, bind_eq_error]
  simp only [mapM_eq_error, exists_bareName_iff, bareName_eq_error_iff]
  refine or_iff_left ?_
  rintro ⟨_, -, h⟩
  cases h

/-! ## Definitions that start nowhere -/

/-- It cannot be told where the definition starts, for it lacks its line, its decorators or the line
of a decorator; of these the first one is told. -/
inductive Unplaced (n : Node) : Fault → Prop
  | line (h : n.line? = none) : Unplaced n (.missingLine n.kind)
  | decorators {own : Int} (hown : n.line? = some own) (h : n.listed? .decorators = none) :
    Unplaced n (.missingField n.kind .decorators)
  | decoratorLine {own : Int} {before after : List Node} {d : Node} (hown : n.line? = some own)
    (hds : n.listed? .decorators = some (before ++ d :: after))
    (hbefore : ∀ b ∈ before, ∃ l, b.line? = some l) (h : d.line? = none) :
    Unplaced n (.missingLine d.kind)

theorem startLine_eq_error_iff : n.startLine = .error e ↔ n.Unplaced e := by
  rw [startLine_eq, bind_eq_error]
  constructor
  · rintro (h | ⟨own, hown, h⟩)
    · obtain ⟨hline, rfl⟩ := readLine_eq_error.mp h
      exact .line hline
    · have hown := readLine_eq_ok.mp hown
      rcases bind_eq_error.mp h with h | ⟨_, -, h⟩
      · cases hds : n.listed? .decorators with
        | none =>
          rw [hds] at h
          cases h
          exact .decorators hown hds
        | some ds =>
          rw [hds] at h
          obtain ⟨before, d, after, rfl, hbefore, hd⟩ := mapM_eq_error.mp h
          obtain ⟨hnone, rfl⟩ := readLine_eq_error.mp hd
          simp only [readLine_eq_ok] at hbefore
          exact .decoratorLine hown hds hbefore hnone
      · cases h
  · intro h
    cases h with
    | line h => exact .inl (readLine_eq_error.mpr ⟨h, rfl⟩)
    | decorators hown h =>
      refine .inr ⟨_, readLine_eq_ok.mpr hown, bind_eq_error.mpr (.inl ?_)⟩
      rw [h]
    | decoratorLine hown hds hbefore h =>
      refine .inr ⟨_, readLine_eq_ok.mpr hown, bind_eq_error.mpr (.inl ?_)⟩
      rw [hds]
      refine mapM_eq_error.mpr ⟨_, _, _, rfl, ?_, readLine_eq_error.mpr ⟨h, rfl⟩⟩
      intro b hb
      obtain ⟨l, hl⟩ := hbefore b hb
      exact ⟨l, readLine_eq_ok.mpr hl⟩

/-! ## What a node lacks -/

/-- The node lacks something that a search for the method of that name whose code starts on that
line reads of it: an anonymous function its line, if that is the name; a function definition its
name; one of that name what tells where it starts; and one that also starts there what a decorator
is named by. -/
inductive Lacks (n : Node) (name : String) (line : Int) : Fault → Prop
  | lambdaLine (hk : n.kind = .lambda) (hname : name = anonymousName) (h : n.line? = none) :
    Lacks n name line (.missingLine .lambda)
  | name (hk : n.kind.isFunctionDef) (h : n.word? .name = none) :
    Lacks n name line (.missingField n.kind .name)
  | start {e : Fault} (hk : n.kind.isFunctionDef) (hname : n.word? .name = some name)
    (h : n.Unplaced e) : Lacks n name line e
  | decoratorName {e : Fault} {before after : List Node} {d : Node} (hk : n.kind.isFunctionDef)
    (hname : n.word? .name = some name) (hstart : n.StartsOn line)
    (hds : n.listed? .decorators = some (before ++ d :: after))
    (hbefore : ∀ b ∈ before, ∀ e, ¬ b.Unnameable e) (h : d.Unnameable e) : Lacks n name line e

/-- The node lacks something that a search for the method reads of it. -/
def IsDamagedFor (n : Node) (name : String) (line : Int) : Prop :=
  (n.kind = .lambda ∧ name = anonymousName ∧ n.line? = none) ∨
  (n.kind.isFunctionDef ∧ (n.word? .name = none ∨ (n.word? .name = some name ∧
    (n.line? = none ∨ n.listed? .decorators = none ∨ ∃ ds, n.listed? .decorators = some ds ∧
      ((∃ d ∈ ds, d.line? = none) ∨ (n.StartsOn line ∧ ∃ d ∈ ds, ∃ e, d.Unnameable e))))))

theorem exists_unplaced {ds : List Node} (hds : n.listed? .decorators = some ds)
    (h : ∃ d ∈ ds, d.line? = none) : ∃ e, n.Unplaced e := by
  obtain ⟨d, hd, hnone⟩ := h
  simp only [← startLine_eq_error_iff, startLine_eq, bind_eq_error]
  cases hown : n.readLine with
  | error e => exact ⟨e, .inl rfl⟩
  | ok own =>
    obtain ⟨e, he⟩ := exists_mapM_eq_error.mpr ⟨d, hd, _, readLine_eq_error.mpr ⟨hnone, rfl⟩⟩
    exact ⟨e, .inr ⟨own, rfl, .inl (by rw [hds]; exact he)⟩⟩

theorem exists_lacks_iff : (∃ e, n.Lacks name line e) ↔ n.IsDamagedFor name line := by
  constructor
  · rintro ⟨e, h⟩
    cases h with
    | lambdaLine hk hname h => exact .inl ⟨hk, hname, h⟩
    | name hk h => exact .inr ⟨hk, .inl h⟩
    | start hk hname h =>
      refine .inr ⟨hk, .inr ⟨hname, ?_⟩⟩
      cases h with
      | line h => exact .inl h
      | decorators _ h => exact .inr (.inl h)
      | decoratorLine _ hds _ h => exact .inr (.inr ⟨_, hds, .inl ⟨_, by simp, h⟩⟩)
    | decoratorName hk hname hstart hds _ h =>
      exact .inr ⟨hk, .inr ⟨hname, .inr (.inr ⟨_, hds, .inr ⟨hstart, _, by simp, _, h⟩⟩)⟩⟩
  · rintro (⟨hk, hname, h⟩ | ⟨hk, h | ⟨hname, h | h | ⟨ds, hds, h | ⟨hstart, d, hd, e, h⟩⟩⟩⟩)
    · exact ⟨_, .lambdaLine hk hname h⟩
    · exact ⟨_, .name hk h⟩
    · exact ⟨_, .start hk hname (.line h)⟩
    · cases hown : n.line? with
      | none => exact ⟨_, .start hk hname (.line hown)⟩
      | some own => exact ⟨_, .start hk hname (.decorators hown h)⟩
    · obtain ⟨e, he⟩ := exists_unplaced hds h
      exact ⟨e, .start hk hname he⟩
    · obtain ⟨e', he'⟩ := exists_mapM_eq_error.mpr ⟨d, hd, e, bareName_eq_error_iff.mpr h⟩
      obtain ⟨before, d', after, rfl, hbefore, hd'⟩ := mapM_eq_error.mp he'
      simp only [exists_bareName_iff] at hbefore
      exact ⟨e', .decoratorName hk hname hstart hds hbefore (bareName_eq_error_iff.mp hd')⟩

/-- What is lacking is a position or a field of a node. -/
theorem Lacks.missing (h : n.Lacks name line e) :
    (∃ k, e = .missingLine k) ∨ ∃ k f, e = .missingField k f := by
  cases h with
  | lambdaLine => exact .inl ⟨_, rfl⟩
  | name => exact .inr ⟨_, _, rfl⟩
  | start _ _ h =>
    cases h with
    | line => exact .inl ⟨_, rfl⟩
    | decorators => exact .inr ⟨_, _, rfl⟩
    | decoratorLine => exact .inl ⟨_, rfl⟩
  | decoratorName _ _ _ _ _ h => cases h <;> exact .inr ⟨_, _, rfl⟩

/-- The node carries all that a search may read of it: an anonymous function its line, and a
function definition its name, its line and its decorators, with their lines and what they are named
by. -/
structure Intact (n : Node) : Prop where
  lambdaLine : n.kind = .lambda → n.line? ≠ none
  name : n.kind.isFunctionDef → n.word? .name ≠ none
  line : n.kind.isFunctionDef → n.line? ≠ none
  decorators : n.kind.isFunctionDef → ∃ ds, n.listed? .decorators = some ds ∧
    ∀ d ∈ ds, d.line? ≠ none ∧ ∀ e, ¬ d.Unnameable e

/-- Whatever other nodes lack, it is not read. -/
theorem Intact.of_kind (hl : n.kind ≠ .lambda) (hf : ¬ n.kind.isFunctionDef) : n.Intact where
  lambdaLine hk := absurd hk hl
  name hk := absurd hk hf
  line hk := absurd hk hf
  decorators hk := absurd hk hf

theorem Intact.not_isDamagedFor (h : n.Intact) : ¬ n.IsDamagedFor name line := by
  rintro (⟨hk, -, hline⟩ | ⟨hk, hname | ⟨-, hline | hds | ⟨ds, hds, hd⟩⟩⟩)
  · exact h.lambdaLine hk hline
  · exact h.name hk hname
  · exact h.line hk hline
  · obtain ⟨ds, hds', -⟩ := h.decorators hk
    cases hds.symm.trans hds'
  · obtain ⟨ds', hds', hall⟩ := h.decorators hk
    cases hds.symm.trans hds'
    rcases hd with ⟨d, hd, hline⟩ | ⟨-, d, hd, e, he⟩
    · exact (hall d hd).1 hline
    · exact (hall d hd).2 e he

end Node

namespace Variant

open Node

variable {v : Variant} {name : String} {line : Int} {n : Node} {e : Fault}

theorem recognises_eq_error_iff :
    v.recognises name line n = .error e ↔ n.Lacks name line e := by
  constructor
  · intro h
    by_cases hf : n.kind.isFunctionDef
    · rw [recognises_eq_of_isFunctionDef hf] at h
      rcases bind_eq_error.mp h with hread | ⟨word, hword, hrest⟩
      · obtain ⟨hnone, rfl⟩ := readWord_eq_error.mp hread
        exact .name hf hnone
      have hword := readWord_eq_ok.mp hword
      by_cases hname : word = name
      · subst hname
        rw [if_neg (not_not_intro rfl)] at hrest
        rcases bind_eq_error.mp hrest with hnone | ⟨start, hstart, hlast⟩
        · exact .start hf hword (startLine_eq_error_iff.mp hnone)
        have hstart := startLine_eq_ok.mp hstart
        by_cases hline : start = line
        · subst hline
          rw [if_neg (not_not_intro rfl)] at hlast
          obtain ⟨own, ds, lines, hown, hds, hlines, hleast⟩ := hstart
          rcases bind_eq_error.mp hlast with hnone | ⟨_, -, hlast⟩
          · obtain ⟨before, d, after, rfl, hbefore, hd⟩ :=
              (decoratedBy_eq_error_iff hds).mp hnone
            have hstart : n.StartsOn start := ⟨own, _, lines, hown, hds, hlines, hleast⟩
            exact .decoratorName hf hword hstart hds hbefore hd
          · cases hlast
        · rw [if_pos hline] at hlast
          cases hlast
      · rw [if_pos hname] at hrest
        cases hrest
    · by_cases hl : n.kind = .lambda
      · unfold recognises at h
        simp only [hl] at h
        split at h
        · next hname =>
          rcases bind_eq_error.mp h with h | ⟨_, -, h⟩
          · obtain ⟨hnone, rfl⟩ := readLine_eq_error.mp h
            rw [hl]
            exact .lambdaLine hl hname hnone
          · cases h
        · cases h
      · rw [recognises_of_other hl hf] at h
        cases h
  · intro h
    cases h with
    | lambdaLine hk hname h =>
      unfold recognises
      simp only [hk, hname, ↓reduceIte]
      exact bind_eq_error.mpr (.inl (readLine_eq_error.mpr ⟨h, by rw [hk]⟩))
    | name hk h =>
      rw [recognises_eq_of_isFunctionDef hk]
      exact bind_eq_error.mpr (.inl (readWord_eq_error.mpr ⟨h, rfl⟩))
    | start hk hname h =>
      rw [recognises_eq_of_isFunctionDef hk, readWord_eq_ok.mpr hname]
      show (if name ≠ name then _ else _) = _
      rw [if_neg (not_not_intro rfl), startLine_eq_error_iff.mpr h]
      rfl
    | decoratorName hk hname hstart hds hbefore h =>
      rw [recognises_eq_of_isFunctionDef hk, readWord_eq_ok.mpr hname]
      show (if name ≠ name then _ else _) = _
      rw [if_neg (not_not_intro rfl), startLine_eq_ok.mpr hstart]
      show (if line ≠ line then _ else _) = _
      rw [if_neg (not_not_intro rfl),
        (decoratedBy_eq_error_iff hds).mpr ⟨_, _, _, rfl, hbefore, h⟩]
      rfl

theorem exists_recognises_iff :
    (∃ b, v.recognises name line n = .ok b) ↔ ¬ n.IsDamagedFor name line := by
  rw [← exists_lacks_iff]
  simp only [← recognises_eq_error_iff (v := v)]
  cases v.recognises name line n <;> simp

variable {root : Node}

theorem findLast_recognises_eq_error_iff :
    root.findLast (v.recognises name line) = .error e ↔
      ∃ before p after, root.preorder = before ++ p :: after ∧
        (∀ q ∈ before, ¬ q.2.IsDamagedFor name line) ∧ p.2.Lacks name line e := by
  rw [findLast_eq_error_iff]
  simp only [exists_recognises_iff, recognises_eq_error_iff]

theorem exists_findLast_recognises_iff :
    (∃ o, root.findLast (v.recognises name line) = .ok o) ↔
      ∀ p ∈ root.preorder, ¬ p.2.IsDamagedFor name line := by
  rw [exists_findLast_iff]
  simp only [exists_recognises_iff]

theorem exists_findLast_recognises_error_iff :
    (∃ e, root.findLast (v.recognises name line) = .error e) ↔
      ∃ p ∈ root.preorder, p.2.IsDamagedFor name line := by
  constructor
  · rintro ⟨e, h⟩
    obtain ⟨before, p, after, hsplit, -, hlacks⟩ := findLast_recognises_eq_error_iff.mp h
    refine ⟨p, ?_, exists_lacks_iff.mp ⟨e, hlacks⟩⟩
    rw [hsplit]
    exact List.mem_append_right _ List.mem_cons_self
  · rintro ⟨p, hp, hd⟩
    cases h : root.findLast (v.recognises name line) with
    | error e => exact ⟨e, rfl⟩
    | ok o => exact absurd hd (exists_findLast_recognises_iff.mp ⟨o, h⟩ p hp)

/-- What a search that does not fail finds. -/
theorem findLast_recognises_cases {o : Option Address}
    (h : root.findLast (v.recognises name line) = .ok o) :
    (o = none ∧ ∀ p ∈ root.preorder, ¬ v.Defines name line p.2) ∨
      ∃ a n, o = some a ∧ root.IsLast (v.Defines name line) a n := by
  cases o with
  | none =>
    refine .inl ⟨rfl, fun p hp hd => ?_⟩
    have hfalse := findLast_eq_none_iff.mp h p hp
    cases hfalse.symm.trans (recognises_eq_true_iff.mpr hd)
  | some a =>
    obtain ⟨-, n, hn⟩ := findLast_eq_some_iff.mp h
    exact .inr ⟨a, n, rfl, hn.congr fun m => recognises_eq_true_iff⟩

/-- **Searches of damaged trees.**  Whatever a tree lacks, a search for a method fails if and only
if some node of the walk lacks something that is read of it, and it fails with what the first such
node lacks, whether or not others define the method: always a missing position or field.  A tree in
which all functions, anonymous or not, carry what can be read of them is searched without failing,
whatever else is absent, and the last definition is found if there is one. -/
theorem findLast_recognises_outcome (v : Variant) (name : String) (line : Int) (root : Node) :
    (∀ (n : Node) e, (v.recognises name line n = .error e ↔ n.Lacks name line e) ∧
      (n.Lacks name line e → (∃ k, e = .missingLine k) ∨ ∃ k f, e = .missingField k f)) ∧
    (∀ n : Node, (∃ e, n.Lacks name line e) ↔ n.IsDamagedFor name line) ∧
    ((∃ e, root.findLast (v.recognises name line) = .error e) ↔
      ∃ p ∈ root.preorder, p.2.IsDamagedFor name line) ∧
    (∀ e, root.findLast (v.recognises name line) = .error e ↔
      ∃ before p after, root.preorder = before ++ p :: after ∧
        (∀ q ∈ before, ¬ q.2.IsDamagedFor name line) ∧ p.2.Lacks name line e) ∧
    ((∀ p ∈ root.preorder, p.2.Intact) → ∃ o,
      root.findLast (v.recognises name line) = .ok o ∧
        ((o = none ∧ ∀ p ∈ root.preorder, ¬ v.Defines name line p.2) ∨
          ∃ a n, o = some a ∧ root.IsLast (v.Defines name line) a n)) := by
  refine ⟨fun n e => ⟨recognises_eq_error_iff, Lacks.missing⟩, fun n => exists_lacks_iff,
    exists_findLast_recognises_error_iff, fun e => findLast_recognises_eq_error_iff, ?_⟩
  intro hintact
  have hnone : ∀ p ∈ root.preorder, ¬ p.2.IsDamagedFor name line := fun p hp =>
    (hintact p hp).not_isDamagedFor
  obtain ⟨o, ho⟩ := (exists_findLast_recognises_iff (v := v)).mpr hnone
  exact ⟨o, ho, findLast_recognises_cases ho⟩

section damaged

/-- A call of something that is absent. -/
def callOfNothing : Node :=
  .mk .call none none []

/-- A function `f` on the first line, whose body calls something that is absent. -/
def callsNothing : Node :=
  .mk .functionDef (some 1) none
    [(.name, .word "f"), (.body, .slots [some callOfNothing]), (.decorators, .slots [])]

/-- A function `f` that lacks its line, between two that are found. -/
def nowhereBetween : Node :=
  let nowhere : Node := .mk .functionDef none none [(.name, .word "f")]
  .mk .module none none [(.body, .slots [some callsNothing, some nowhere, some callsNothing])]

/-- The absent callee does not matter.  The absent line does, although the function is found before
it and after it. -/
theorem findLast_recognises_outcome_damaged :
    (∀ p ∈ callsNothing.preorder, p.2.Intact) ∧
    (∃ o, callsNothing.findLast (function.recognises "f" 1) = .ok o) ∧
    nowhereBetween.findLast (function.recognises "f" 1) = .error (.missingLine .functionDef) := by
  have hcall : callOfNothing.Intact := .of_kind (by decide) (by decide)
  have hfunction : callsNothing.Intact := by
    refine ⟨?_, fun _ => ?_, fun _ => ?_, fun _ => ⟨[], rfl, by simp⟩⟩ <;>
      simp [callsNothing, kind, word?, get?, fields, line?]
  have hintact : ∀ p ∈ callsNothing.preorder, p.2.Intact := by
    have hnodes : callsNothing.preorder = [([], callsNothing), ([0], callOfNothing)] := by cbv
    rw [hnodes]
    simp [hcall, hfunction]
  obtain ⟨o, ho, -⟩ := (findLast_recognises_outcome function "f" 1 callsNothing).2.2.2.2 hintact
  refine ⟨hintact, ⟨o, ho⟩, ?_⟩
  refine ((findLast_recognises_outcome function "f" 1 nowhereBetween).2.2.2.1 _).mpr ?_
  obtain ⟨after, hnodes⟩ : ∃ after, nowhereBetween.preorder =
      [([], nowhereBetween), ([0], callsNothing), ([0, 0], callOfNothing)] ++
        ([1], .mk .functionDef none none [(.name, .word "f")]) :: after := ⟨_, by cbv⟩
  have hroot : nowhereBetween.Intact := .of_kind (by decide) (by decide)
  refine ⟨_, _, after, hnodes, ?_, .start rfl rfl (.line rfl)⟩
  simp [hroot.not_isDamagedFor, hfunction.not_isDamagedFor, hcall.not_isDamagedFor]

end damaged

end Variant

end DefSite
