import DefSite.Match.Variant
import DefSite.Proofs.Attempt
import Mathlib.Order.Bounds.Defs

/-!
# Which nodes a variant recognises

`Variant.Defines` says what makes a node the definition of a method: its name, the line it starts
on and its decorators, or only its line for an anonymous function.  `recognises_eq_true_iff` says
that variants recognise these nodes and no others.
-/

namespace DefSite

namespace Node

/-! ## Reading nodes -/

/-- The nodes of a field that holds a list, empty slots dropped. -/
def listed? (n : Node) (f : Field) : Option (List Node) :=
  (n.slots? f).map (·.filterMap id)

theorem readSlots_eq_ok {n : Node} {f : Field} {ns : List (Option Node)}
    (h : n.slots? f = some ns) :
    ∃ ps, n.readSlots f = .ok ps ∧ ps.map (·.map (·.1)) = ns := by
  unfold readSlots
  split
  · next ns' h' =>
    obtain rfl : ns' = ns := Option.some.inj (h'.symm.trans h)
    refine ⟨_, rfl, ?_⟩
    rw [List.map_map]
    refine Eq.trans (List.map_congr_left fun s _ => ?_) (List.attach_map_subtype_val ns')
    obtain ⟨_ | c, hs⟩ := s <;> rfl
  · next h' => cases h'.symm.trans h

theorem readSlots_eq_error {n : Node} {f : Field} (h : n.slots? f = none) :
    n.readSlots f = .error (.missingField n.kind f) := by
  unfold readSlots
  split
  · next h' => cases h.symm.trans h'
  · rfl

theorem readChild_eq_ok {n c : Node} {f : Field} (h : n.child? f = some c) :
    ∃ p : n.Part, n.readChild f = .ok p ∧ p.1 = c := by
  unfold readChild
  split
  · next c' hc =>
    cases hc.symm.trans h
    exact ⟨_, rfl, rfl⟩
  · next hc => cases hc.symm.trans h

theorem readChild_eq_error {n : Node} {f : Field} (h : n.child? f = none) :
    n.readChild f = .error (.missingField n.kind f) := by
  unfold readChild
  split
  · next c hc => cases hc.symm.trans h
  · rfl

theorem optionalChild_eq_ok {n c : Node} {f : Field} (h : n.child? f = some c) :
    ∃ p : n.Part, n.optionalChild f = .ok (some p) ∧ p.1 = c := by
  unfold optionalChild
  split
  · next c' hc =>
    cases hc.symm.trans h
    exact ⟨_, rfl, rfl⟩
  · next hc => cases hc.symm.trans h

theorem optionalChild_of_none {n : Node} {f : Field} (h : n.child? f = none) :
    n.optionalChild f =
      if n.kind.defaulted f then .ok none else .error (.missingField n.kind f) := by
  unfold optionalChild
  split
  · next c hc => cases hc.symm.trans h
  · rfl

/-! ### What a node holds where reading it succeeds -/

section held

variable {n : Node} {f : Field}

theorem slots?_of_readSlots {ps : List (Option n.Part)} (h : n.readSlots f = .ok ps) :
    n.slots? f = some (ps.map (·.map (·.1))) := by
  cases hns : n.slots? f with
  | none => cases (readSlots_eq_error hns).symm.trans h
  | some ns =>
    obtain ⟨ps, hps, rfl⟩ := readSlots_eq_ok hns
    cases hps.symm.trans h
    rfl

theorem listed?_of_readList {ps : List n.Part} (h : n.readList f = .ok ps) :
    n.listed? f = some (ps.map (·.1)) := by
  obtain ⟨slots, hslots, rfl⟩ := bind_pure_eq_ok.mp h
  rw [listed?, slots?_of_readSlots hslots, Option.map_some, List.filterMap_map,
    List.map_filterMap]
  rfl

theorem child?_of_readChild {p : n.Part} (h : n.readChild f = .ok p) : n.child? f = some p.1 := by
  cases hc : n.child? f with
  | none => cases (readChild_eq_error hc).symm.trans h
  | some c =>
    obtain ⟨p, hp, rfl⟩ := readChild_eq_ok hc
    cases hp.symm.trans h
    rfl

theorem child?_of_optionalChild {o : Option n.Part} (h : n.optionalChild f = .ok o) :
    n.child? f = o.map (·.1) := by
  cases hc : n.child? f with
  | none =>
    rw [optionalChild_of_none hc] at h
    split at h <;> cases h
    rfl
  | some c =>
    obtain ⟨p, hp, rfl⟩ := optionalChild_eq_ok hc
    cases hp.symm.trans h
    rfl

end held

/-- Doing something with each node of a list field. -/
theorem readList_bind_mapM {α : Type} (n : Node) (f : Field) (g : Node → Except Fault α) :
    (do (← n.readList f).mapM fun d => g d.1) =
      match n.listed? f with
      | some ns => ns.mapM g
      | none => .error (.missingField n.kind f) := by
  unfold readList listed?
  cases h : n.slots? f with
  | none =>
    rw [readSlots_eq_error h]
    rfl
  | some ns =>
    obtain ⟨ps, hps, rfl⟩ := readSlots_eq_ok h
    rw [hps]
    have hp : (ps.map (·.map (·.1))).filterMap id = (ps.filterMap id).map (·.1) := by
      rw [List.filterMap_map, List.map_filterMap]
      rfl
    simp only [Option.map_some, hp, List.mapM_map]
    rfl

/-! ## Names and lines of definitions -/

/-- The node starts on that line: it is the least of the node's own line and the lines of its
decorators. -/
def StartsOn (n : Node) (line : Int) : Prop :=
  ∃ own decorators lines, n.line? = some own ∧ n.listed? .decorators = some decorators ∧
    decorators.map line? = lines.map some ∧ IsLeast {l | l ∈ own :: lines} line

theorem readLine_eq_ok {n : Node} {l : Int} : n.readLine = .ok l ↔ n.line? = some l := by
  unfold readLine
  cases n.line? <;> simp

theorem readWord_eq_ok {n : Node} {f : Field} {s : String} :
    n.readWord f = .ok s ↔ n.word? f = some s := by
  unfold readWord
  cases n.word? f <;> simp

theorem readLine_eq_error {n : Node} {e : Fault} :
    n.readLine = .error e ↔ n.line? = none ∧ e = .missingLine n.kind := by
  unfold readLine
  cases n.line? <;> simp [eq_comm]

theorem readWord_eq_error {n : Node} {f : Field} {e : Fault} :
    n.readWord f = .error e ↔ n.word? f = none ∧ e = .missingField n.kind f := by
  unfold readWord
  cases n.word? f <;> simp [eq_comm]

theorem map_readLine_eq_ok {ns : List Node} {ls : List Int} :
    ns.map readLine = ls.map .ok ↔ ns.map line? = ls.map some := by
  induction ns generalizing ls with
  | nil => simp
  | cons n ns ih => cases ls <;> simp [readLine_eq_ok, ih]

/-- The lines are read in this order: the node's own, then those of its decorators. -/
theorem startLine_eq (n : Node) :
    n.startLine = (do
      let own ← n.readLine
      let lines ← (match n.listed? .decorators with
        | some ds => ds.mapM readLine
        | none => .error (.missingField n.kind .decorators))
      return lines.foldl min own) := by
  rw [← readList_bind_mapM n .decorators readLine]
  simp [startLine]

theorem startLine_eq_ok {n : Node} {line : Int} : n.startLine = .ok line ↔ n.StartsOn line := by
  have hmin : ∀ own lines, IsLeast {l | l ∈ own :: lines} line ↔ lines.foldl min own = line := by
    intro own lines
    have h : (own :: lines).min? = some line ↔ _ := List.min?_eq_some_iff
    rw [List.min?_cons', Option.some.injEq] at h
    exact h.symm
  rw [startLine_eq, bind_eq_ok]
  simp only [readLine_eq_ok, bind_eq_ok, pure_eq_ok, StartsOn]
  constructor
  · rintro ⟨own, hown, lines, hlines, rfl⟩
    cases hd : n.listed? .decorators with
    | none => simp [hd] at hlines
    | some ds =>
      rw [hd] at hlines
      exact ⟨own, ds, lines, hown, rfl, map_readLine_eq_ok.mp (mapM_eq_ok.mp hlines),
        (hmin own lines).mpr rfl⟩
  · rintro ⟨own, ds, lines, hown, hds, hlines, hleast⟩
    refine ⟨own, hown, lines, ?_, (hmin own lines).mp hleast⟩
    rw [hds]
    exact mapM_eq_ok.mpr (map_readLine_eq_ok.mpr hlines)

theorem StartsOn.exists_line {n : Node} {line : Int} (h : n.StartsOn line) :
    ∃ own, n.line? = some own := by
  obtain ⟨own, -, -, hown, -⟩ := h
  exact ⟨own, hown⟩

end Node

namespace Variant

/-- The node is what defines the method of that name whose code starts on that line: a function
definition with the name that starts there and whose decorators the variant accepts, or an anonymous
function on the line if the name is that of anonymous functions. -/
def Defines (v : Variant) (name : String) (line : Int) (n : Node) : Prop :=
  (n.kind.isFunctionDef ∧ n.word? .name = some name ∧ n.StartsOn line ∧
    ∃ names, n.decoratedBy = .ok names ∧ v.accepts names) ∨
  (n.kind = .lambda ∧ name = anonymousName ∧ n.line? = some line)

variable {v : Variant} {name : String} {line : Int} {n : Node}

/-- What defines a method has a line. -/
theorem Defines.exists_line (h : v.Defines name line n) : ∃ own, n.line? = some own := by
  rcases h with ⟨-, -, hs, -⟩ | ⟨-, -, hl⟩
  · exact hs.exists_line
  · exact ⟨line, hl⟩

theorem recognises_of_lambda (h : n.kind = .lambda) :
    v.recognises name line n = .ok true ↔ name = anonymousName ∧ n.line? = some line := by
  unfold recognises
  simp only [h]
  by_cases hn : name = anonymousName
  · simp only [hn, ↓reduceIte, true_and, bind_eq_ok, pure_eq_ok, beq_iff_eq]
    simp [Node.readLine_eq_ok]
  · simp [hn, pure_eq_ok]

/-- Of a function definition the name is read first, then where it starts, then its decorators. -/
theorem recognises_eq_of_isFunctionDef (h : n.kind.isFunctionDef) :
    v.recognises name line n = (do
      if (← n.readWord .name) ≠ name then return false
      if (← n.startLine) ≠ line then return false
      return v.accepts (← n.decoratedBy)) := by
  unfold recognises
  cases hk : n.kind <;> simp_all [Kind.isFunctionDef]

theorem recognises_of_isFunctionDef (h : n.kind.isFunctionDef) :
    v.recognises name line n = .ok true ↔
      n.word? .name = some name ∧ n.StartsOn line ∧
        ∃ names, n.decoratedBy = .ok names ∧ v.accepts names := by
  rw [recognises_eq_of_isFunctionDef h, bind_eq_ok, ← Node.startLine_eq_ok, ← Node.readWord_eq_ok]
  constructor
  · rintro ⟨word, hword, h⟩
    split at h
    · cases pure_eq_ok.mp h
    · next hn =>
      obtain ⟨start, hstart, h⟩ := bind_eq_ok.mp h
      split at h
      · cases pure_eq_ok.mp h
      · next hl =>
        obtain ⟨names, hnames, h⟩ := bind_eq_ok.mp h
        rw [Decidable.not_not.mp hn] at hword
        rw [Decidable.not_not.mp hl] at hstart
        exact ⟨hword, hstart, names, hnames, pure_eq_ok.mp h⟩
  · rintro ⟨hword, hstart, names, hnames, haccepts⟩
    refine ⟨name, hword, ?_⟩
    rw [if_neg (not_not_intro rfl), hstart]
    show (if line ≠ line then _ else _) = _
    rw [if_neg (not_not_intro rfl), hnames]
    exact pure_eq_ok.mpr haccepts

theorem recognises_of_other (hl : n.kind ≠ .lambda) (hf : ¬ n.kind.isFunctionDef) :
    v.recognises name line n = .ok false := by
  unfold recognises
  cases hk : n.kind <;> first | rfl | simp_all [Kind.isFunctionDef]

/-- A variant recognises what defines the method, and nothing else. -/
theorem recognises_eq_true_iff : v.recognises name line n = .ok true ↔ v.Defines name line n := by
  unfold Defines
  by_cases hl : n.kind = .lambda
  · rw [recognises_of_lambda hl]
    simp [hl, Kind.isFunctionDef]
  · by_cases hf : n.kind.isFunctionDef
    · rw [recognises_of_isFunctionDef hf]
      simp [hl, hf]
    · rw [recognises_of_other hl hf]
      simp [hl, hf]

end Variant

end DefSite
