import DefSite.Proofs.Attempt
import DefSite.Tree.Walk
import Mathlib.Data.List.Induction

/-!
# Where a search ends

A search meets the nodes of a tree in the order of `Node.preorder`.  It fails with the first test
that fails (`findLast_eq_error_iff`), and otherwise gives the address of the last node that passes
(`findLast_eq_some_iff`, `findLast_eq_none_iff`).  The trail to a node holds the nodes above it and
then the node itself, so whether it passes through a closure is a matter of these
(`isClosure_trail_iff`).
-/

namespace DefSite.Node

variable {ε : Type} {test : Node → Except ε Bool}

/-! ## The last node with a property -/

/-- The node at the address `a` is the last one in a walk of `root` that has the property. -/
def IsLast (P : Node → Prop) (root : Node) (a : Address) (n : Node) : Prop :=
  P n ∧ ∃ before after, root.preorder = before ++ (a, n) :: after ∧ ∀ p ∈ after, ¬ P p.2

theorem IsLast.at? {P : Node → Prop} {root n : Node} {a : Address} (h : IsLast P root a n) :
    root.at? a = some n := by
  obtain ⟨-, before, after, hl, -⟩ := h
  rw [← mem_preorder_iff, hl]
  exact List.mem_append_right _ List.mem_cons_self

theorem IsLast.congr {P Q : Node → Prop} (hPQ : ∀ n, P n ↔ Q n) {root n : Node} {a : Address}
    (h : IsLast P root a n) : IsLast Q root a n := by
  obtain ⟨hP, before, after, hl, hafter⟩ := h
  exact ⟨(hPQ n).mp hP, before, after, hl, fun p hp hq => hafter p hp ((hPQ p.2).mpr hq)⟩

/-- No node after the last one has the property, so two last ones are the same. -/
theorem IsLast.unique {P : Node → Prop} {root n m : Node} {a b : Address}
    (ha : IsLast P root a n) (hb : IsLast P root b m) : a = b ∧ n = m := by
  obtain ⟨hn, before, after, hl, hafter⟩ := ha
  obtain ⟨hm, before', after', hl', hafter'⟩ := hb
  rw [hl] at hl'
  rcases List.append_eq_append_iff.mp hl' with ⟨between, -, h⟩ | ⟨between, -, h⟩
  · cases between with
    | nil =>
      cases h
      exact ⟨rfl, rfl⟩
    | cons p between =>
      obtain ⟨-, rfl⟩ := List.cons_eq_cons.mp h
      exact absurd hm (hafter (b, m) (List.mem_append_right _ List.mem_cons_self))
  · cases between with
    | nil =>
      cases h
      exact ⟨rfl, rfl⟩
    | cons p between =>
      obtain ⟨-, rfl⟩ := List.cons_eq_cons.mp h
      exact absurd hn (hafter' (a, n) (List.mem_append_right _ List.mem_cons_self))

/-! ## The search along a list of nodes -/

section along

variable {l : List (Address × Node)} {best : Option Address}

theorem foldlM_keepLast_concat {p : Address × Node} :
    (l ++ [p]).foldlM (keepLast test []) best =
      (l.foldlM (keepLast test []) best >>= fun b => keepLast test [] b p) := by
  simp [List.foldlM_append]

theorem keepLast_eq_ok {p : Address × Node} {o : Option Address} :
    keepLast test [] best p = .ok o ↔
      (test p.2 = .ok true ∧ o = some p.1) ∨ (test p.2 = .ok false ∧ o = best) := by
  unfold keepLast
  rw [bind_eq_ok]
  cases test p.2 with
  | error e => simp
  | ok b => cases b <;> simp only [Except.ok.injEq, pure_eq_ok, exists_eq_left'] <;> simp [eq_comm]

/-- The search ends if and only if no test fails. -/
theorem exists_foldlM_keepLast :
    (∃ o, l.foldlM (keepLast test []) best = .ok o) ↔ ∀ p ∈ l, ∃ b, test p.2 = .ok b := by
  induction l using List.reverseRecOn with
  | nil => exact ⟨fun _ p hp => absurd hp List.not_mem_nil, fun _ => ⟨best, rfl⟩⟩
  | append_singleton l p ih =>
    rw [foldlM_keepLast_concat]
    constructor
    · rintro ⟨o, h⟩ q hq
      obtain ⟨o', ho', hp⟩ := bind_eq_ok.mp h
      rcases List.mem_append.mp hq with hq | hq
      · exact ih.mp ⟨o', ho'⟩ q hq
      · obtain rfl := List.mem_singleton.mp hq
        rcases keepLast_eq_ok.mp hp with ⟨ht, -⟩ | ⟨ht, -⟩
        · exact ⟨true, ht⟩
        · exact ⟨false, ht⟩
    · intro h
      obtain ⟨o', ho'⟩ := ih.mpr fun q hq => h q (List.mem_append_left _ hq)
      obtain ⟨b, hb⟩ := h p (List.mem_append_right _ List.mem_cons_self)
      cases b with
      | true => exact ⟨some p.1, bind_eq_ok.mpr ⟨o', ho', keepLast_eq_ok.mpr (.inl ⟨hb, rfl⟩)⟩⟩
      | false => exact ⟨o', bind_eq_ok.mpr ⟨o', ho', keepLast_eq_ok.mpr (.inr ⟨hb, rfl⟩)⟩⟩

theorem foldlM_keepLast_eq_none :
    l.foldlM (keepLast test []) none = .ok none ↔ ∀ p ∈ l, test p.2 = .ok false := by
  induction l using List.reverseRecOn with
  | nil => exact ⟨fun _ p hp => absurd hp List.not_mem_nil, fun _ => rfl⟩
  | append_singleton l p ih =>
    rw [foldlM_keepLast_concat, bind_eq_ok]
    constructor
    · rintro ⟨o, ho, hp⟩ q hq
      obtain ⟨-, h⟩ | ⟨ht, rfl⟩ := keepLast_eq_ok.mp hp
      · cases h
      · rcases List.mem_append.mp hq with hq | hq
        · exact ih.mp ho q hq
        · obtain rfl := List.mem_singleton.mp hq
          exact ht
    · intro h
      refine ⟨none, ih.mpr fun q hq => h q (List.mem_append_left _ hq), ?_⟩
      exact keepLast_eq_ok.mpr
        (.inr ⟨h p (List.mem_append_right _ List.mem_cons_self), rfl⟩)

theorem foldlM_keepLast_eq_some {a : Address} :
    l.foldlM (keepLast test []) none = .ok (some a) ↔
      ∃ before n after, l = before ++ (a, n) :: after ∧ (∀ p ∈ before, ∃ b, test p.2 = .ok b) ∧
        test n = .ok true ∧ ∀ p ∈ after, test p.2 = .ok false := by
  induction l using List.reverseRecOn with
  | nil => simp [pure_eq_ok]
  | append_singleton l p ih =>
    rw [foldlM_keepLast_concat, bind_eq_ok]
    constructor
    · rintro ⟨o, ho, hp⟩
      obtain ⟨ht, h⟩ | ⟨ht, rfl⟩ := keepLast_eq_ok.mp hp
      · cases h
        exact ⟨l, p.2, [], rfl, exists_foldlM_keepLast.mp ⟨o, ho⟩, ht, by simp⟩
      · obtain ⟨before, n, after, rfl, hbefore, hn, hafter⟩ := ih.mp ho
        refine ⟨before, n, after ++ [p], by simp, hbefore, hn, fun q hq => ?_⟩
        rcases List.mem_append.mp hq with hq | hq
        · exact hafter q hq
        · obtain rfl := List.mem_singleton.mp hq
          exact ht
    · rintro ⟨before, n, after, hl, hbefore, hn, hafter⟩
      -- the last node is either the one that passes or one of those after it
      rcases List.eq_nil_or_concat after with rfl | ⟨after', q, rfl⟩
      · obtain ⟨rfl, hp⟩ := List.append_inj' hl rfl
        cases hp
        obtain ⟨o, ho⟩ := exists_foldlM_keepLast.mpr hbefore
        exact ⟨o, ho, keepLast_eq_ok.mpr (.inl ⟨hn, rfl⟩)⟩
      · rw [List.concat_eq_append] at hl hafter
        rw [← List.cons_append, ← List.append_assoc] at hl
        obtain ⟨rfl, hp⟩ := List.append_inj' hl rfl
        cases hp
        refine ⟨some a, ih.mpr ⟨before, n, after', rfl, hbefore, hn, fun q hq =>
          hafter q (List.mem_append_left _ hq)⟩, ?_⟩
        exact keepLast_eq_ok.mpr
          (.inr ⟨hafter p (List.mem_append_right _ List.mem_cons_self), rfl⟩)

theorem foldlM_keepLast_eq_error {e : ε} :
    l.foldlM (keepLast test []) best = .error e ↔
      ∃ before p after, l = before ++ p :: after ∧ (∀ q ∈ before, ∃ b, test q.2 = .ok b) ∧
        test p.2 = .error e := by
  induction l using List.reverseRecOn with
  | nil => simp [pure, Except.pure]
  | append_singleton l p ih =>
    rw [foldlM_keepLast_concat, bind_eq_error]
    constructor
    · rintro (h | ⟨o, ho, hp⟩)
      · obtain ⟨before, q, after, rfl, hbefore, hq⟩ := ih.mp h
        exact ⟨before, q, after ++ [p], by simp, hbefore, hq⟩
      · refine ⟨l, p, [], rfl, exists_foldlM_keepLast.mp ⟨o, ho⟩, ?_⟩
        unfold keepLast at hp
        rcases bind_eq_error.mp hp with h | ⟨b, -, h⟩
        · exact h
        · cases h
    · rintro ⟨before, q, after, hl, hbefore, hq⟩
      rcases List.eq_nil_or_concat after with rfl | ⟨after', q', rfl⟩
      · obtain ⟨rfl, hp⟩ := List.append_inj' hl rfl
        cases hp
        obtain ⟨o, ho⟩ := exists_foldlM_keepLast.mpr hbefore
        exact .inr ⟨o, ho, bind_eq_error.mpr (.inl hq)⟩
      · rw [List.concat_eq_append, ← List.cons_append, ← List.append_assoc] at hl
        obtain ⟨rfl, hp⟩ := List.append_inj' hl rfl
        exact .inl (ih.mpr ⟨before, q, after', rfl, hbefore, hq⟩)

end along

/-! ## The search in a tree -/

variable {root : Node}

/-- Nothing is found if and only if every node fails the test. -/
theorem findLast_eq_none_iff :
    root.findLast test = .ok none ↔ ∀ p ∈ root.preorder, test p.2 = .ok false := by
  rw [findLast_eq_foldlM, foldlM_keepLast_eq_none]

/-- What is found is the last node that passes, and no test has failed. -/
theorem findLast_eq_some_iff {a : Address} :
    root.findLast test = .ok (some a) ↔
      (∀ p ∈ root.preorder, ∃ b, test p.2 = .ok b) ∧ ∃ n, IsLast (test · = .ok true) root a n := by
  rw [findLast_eq_foldlM, foldlM_keepLast_eq_some]
  constructor
  · rintro ⟨before, n, after, hl, hbefore, hn, hafter⟩
    refine ⟨fun p hp => ?_, n, hn, before, after, hl, fun p hp ht => ?_⟩
    · rw [hl] at hp
      rcases List.mem_append.mp hp with hp | hp
      · exact hbefore p hp
      · rcases List.mem_cons.mp hp with rfl | hp
        · exact ⟨true, hn⟩
        · exact ⟨false, hafter p hp⟩
    · cases (hafter p hp).symm.trans ht
  · rintro ⟨hall, n, hn, before, after, hl, hafter⟩
    rw [hl] at hall
    refine ⟨before, n, after, hl, fun p hp => hall p (List.mem_append_left _ hp), hn,
      fun p hp => ?_⟩
    obtain ⟨b, hb⟩ := hall p (List.mem_append_right _ (List.mem_cons_of_mem _ hp))
    cases b with
    | true => exact absurd hb (hafter p hp)
    | false => exact hb

/-- A search fails with the first test that fails, whatever was found before. -/
theorem findLast_eq_error_iff {e : ε} :
    root.findLast test = .error e ↔
      ∃ before p after, root.preorder = before ++ p :: after ∧
        (∀ q ∈ before, ∃ b, test q.2 = .ok b) ∧ test p.2 = .error e := by
  rw [findLast_eq_foldlM, foldlM_keepLast_eq_error]

/-- A search gives an answer if and only if no test fails. -/
theorem exists_findLast_iff :
    (∃ o, root.findLast test = .ok o) ↔ ∀ p ∈ root.preorder, ∃ b, test p.2 = .ok b := by
  simp only [findLast_eq_foldlM, exists_foldlM_keepLast]

/-! ## What stands above a node -/

/-- `m` stands above the node at the address `a`. -/
def IsAbove (root : Node) (a : Address) (m : Node) : Prop :=
  ∃ b, b <+: a ∧ b ≠ a ∧ root.at? b = some m

theorem not_isAbove_nil {m : Node} : ¬ IsAbove root [] m := by
  rintro ⟨b, hb, hne, -⟩
  exact hne (List.prefix_nil.mp hb)

theorem isAbove_cons {c m : Node} {i : Nat} {a : Address} (hc : root.children[i]? = some c) :
    IsAbove root (i :: a) m ↔ m = root ∨ IsAbove c a m := by
  constructor
  · rintro ⟨b, hb, hne, hm⟩
    cases b with
    | nil => exact .inl (Option.some.inj hm).symm
    | cons j b =>
      obtain ⟨rfl, hba⟩ := List.cons_prefix_cons.mp hb
      refine .inr ⟨b, hba, fun e => hne (by rw [e]), ?_⟩
      simpa [Node.at?, hc] using hm
  · rintro (rfl | ⟨b, hb, hne, hm⟩)
    · exact ⟨[], List.nil_prefix, List.cons_ne_nil _ _ ∘ Eq.symm, rfl⟩
    · refine ⟨i :: b, List.cons_prefix_cons.mpr ⟨rfl, hb⟩, fun e => hne (List.cons.inj e).2, ?_⟩
      simpa [Node.at?, hc] using hm

theorem trail_ne_nil (a : Address) : root.trail a ≠ [] := by
  cases a <;> simp [trail]

/-- A trail without its end holds what stands above the end. -/
theorem mem_dropLast_trail {n m : Node} {a : Address} (h : root.at? a = some n) :
    m ∈ (root.trail a).dropLast ↔ IsAbove root a m := by
  induction a generalizing root with
  | nil => simp [trail, not_isAbove_nil]
  | cons i a ih =>
    obtain ⟨c, hc, hn⟩ := Option.bind_eq_some_iff.mp h
    have ht : root.trail (i :: a) = root :: c.trail a := by simp [trail, hc]
    rw [ht, List.dropLast_cons_of_ne_nil (trail_ne_nil a), List.mem_cons, ih hn, isAbove_cons hc]

/-- The node `n` at the address `a` stands in a closure: it is an anonymous function, or stands
below a function, anonymous or not. -/
def InClosure (root : Node) (a : Address) (n : Node) : Prop :=
  n.kind = .lambda ∨ ∃ m, IsAbove root a m ∧ (m.kind.isFunctionDef ∨ m.kind = .lambda)

/-- The trails that pass through a closure are those to nodes in a closure. -/
theorem isClosure_trail_iff {n : Node} {a : Address} (h : root.at? a = some n) :
    isClosure (root.trail a) ↔ root.InClosure a n := by
  have ht : root.trail a = (root.trail a).dropLast ++ [n] := by
    obtain ⟨above, ha⟩ := List.getLast?_eq_some_iff.mp (getLast?_trail h)
    rw [ha, List.dropLast_concat]
  have hl : (∃ m ∈ root.trail a, m.kind = .lambda) ↔
      n.kind = .lambda ∨ ∃ m, IsAbove root a m ∧ m.kind = .lambda := by
    rw [ht]
    simp only [List.mem_append, List.mem_singleton, mem_dropLast_trail h]
    constructor
    · rintro ⟨m, hm | rfl, hk⟩
      · exact .inr ⟨m, hm, hk⟩
      · exact .inl hk
    · rintro (hk | ⟨m, hm, hk⟩)
      · exact ⟨n, .inr rfl, hk⟩
      · exact ⟨m, .inl hm, hk⟩
  simp only [isClosure, InClosure, Bool.or_eq_true, List.any_eq_true, beq_iff_eq, hl,
    mem_dropLast_trail h]
  constructor
  · rintro ((hk | ⟨m, hm, hk⟩) | ⟨m, hm, hk⟩)
    · exact .inl hk
    · exact .inr ⟨m, hm, .inr hk⟩
    · exact .inr ⟨m, hm, .inl hk⟩
  · rintro (hk | ⟨m, hm, hk | hk⟩)
    · exact .inl (.inl hk)
    · exact .inr ⟨m, hm, hk⟩
    · exact .inl (.inr ⟨m, hm, hk⟩)

end DefSite.Node
