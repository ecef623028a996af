import Mathlib
import DefSite.Match.Subject
import DefSite.Proofs.Recognition

/-!
# Identifications can be read back

An identification is the dotted expression of a subject, its file and its line, with colons between
them.  The first colon ends the expression and the last one opens the line, whatever the path holds;
the last dot of the expression opens the name.  So the parts can be told from the whole
(`identification_decodable`).
-/

namespace DefSite

namespace Context

/-- The parts of a scope's name, joined again. -/
theorem intercalate_parts (c : Context) : ".".intercalate c.parts = c.scope.name := by
  apply String.toList_injective
  have hparts : c.parts.map String.toList = c.scope.name.toList.splitOn '.' := by
    simp [parts, Function.comp_def]
  rw [String.toList_intercalate, hparts]
  exact List.intercalate_splitOn '.'

theorem parts_ne_nil (c : Context) : c.parts ≠ [] := by
  simp [parts, List.splitOn_ne_nil]

end Context

namespace Subject

variable {s s' : Subject} {l l' : Int}

/-- The name of the definition as it is printed. -/
def shownName (s : Subject) : String :=
  s.name?.getD "None"

theorem expression_eq_intercalate (s : Subject) :
    s.expression = ".".intercalate (s.context.parts ++ [s.shownName]) := by
  rw [String.intercalate_append_of_ne_nil s.context.parts_ne_nil (by simp),
    Context.intercalate_parts, String.intercalate_singleton]
  rfl

/-- The last dot of an expression opens the name. -/
theorem splitOn_expression (hname : '.' ∉ s.shownName.toList) :
    s.expression.toList.splitOn '.' =
      s.context.scope.name.toList.splitOn '.' ++ [s.shownName.toList] := by
  have h : s.expression.toList = s.context.scope.name.toList ++ '.' :: s.shownName.toList := by
    simp [expression, shownName]
  rw [h, List.splitOn_append_cons_self, List.splitOn_eq_singleton hname]

/-- Lines are written with digits, and a minus where they are negative. -/
theorem colon_notMem_line (l : Int) : ':' ∉ (toString l).toList := by
  have hdigits : ∀ n : Nat, ':' ∉ Nat.toDigits 10 n := by
    intro n hn
    exact absurd (Nat.isDigit_of_mem_toDigits (by decide) (by decide) hn) (by decide)
  rw [Int.toString_eq_repr, Int.repr_eq_if]
  split <;> simp [Nat.repr_eq_ofList_toDigits, hdigits]

/-- What keeps the parts of an identification apart: the name of the scope has no colon, and the
name of the definition neither a colon nor a dot. -/
structure Plain (s : Subject) : Prop where
  scope : ':' ∉ s.context.scope.name.toList
  name : ∀ a, s.name? = some a → ':' ∉ a.toList ∧ '.' ∉ a.toList

theorem Plain.shownName (h : s.Plain) : ':' ∉ s.shownName.toList ∧ '.' ∉ s.shownName.toList := by
  unfold Subject.shownName
  cases ha : s.name? with
  | none => decide
  | some a => exact h.name a ha

theorem Plain.colon_notMem_expression (h : s.Plain) : ':' ∉ s.expression.toList := by
  have hname := h.shownName.1
  simp only [Subject.shownName] at hname
  simp [expression, h.scope, hname]

theorem identification_of_line (hl : s.node.line? = some l) :
    s.identification =
      .ok (s.expression ++ ":" ++ s.context.path.toString ++ ":" ++ toString l) := by
  unfold identification line
  rw [Node.readLine_eq_ok.mpr hl]
  rfl

/-- The first colon ends the expression and the last one opens the line. -/
theorem splitOn_identification (h : s.Plain) (l : Int) :
    (s.expression ++ ":" ++ s.context.path.toString ++ ":" ++ toString l).toList.splitOn ':' =
      s.expression.toList ::
        (s.context.path.toString.toList.splitOn ':' ++ [(toString l).toList]) := by
  have hparts : (s.expression ++ ":" ++ s.context.path.toString ++ ":" ++ toString l).toList =
      s.expression.toList ++ ':' :: (s.context.path.toString.toList ++ ':' ::
        (toString l).toList) := by
    simp
  rw [hparts, List.splitOn_append_cons_self_of_not_mem h.colon_notMem_expression,
    List.splitOn_append_cons_self, List.splitOn_eq_singleton (colon_notMem_line l)]

/-- Equal expressions have equal parts. -/
theorem parts_eq_of_expression_eq (h : s.Plain) (h' : s'.Plain)
    (he : s.expression = s'.expression) :
    s.context.parts = s'.context.parts ∧ s.shownName = s'.shownName := by
  have hsplit := splitOn_expression h.shownName.2
  rw [he, splitOn_expression h'.shownName.2] at hsplit
  obtain ⟨hscope, hname⟩ := List.append_inj' hsplit rfl
  constructor
  · rw [Context.parts, Context.parts, hscope]
  · exact String.toList_injective (List.singleton_inj.mp hname).symm

/-- Equal identifications have equal expressions, paths and lines. -/
theorem eq_of_identification_eq (h : s.Plain) (h' : s'.Plain)
    (he : s.expression ++ ":" ++ s.context.path.toString ++ ":" ++ toString l =
      s'.expression ++ ":" ++ s'.context.path.toString ++ ":" ++ toString l') :
    s.expression = s'.expression ∧ s.context.path.toString = s'.context.path.toString ∧
      l = l' := by
  have hsplit := splitOn_identification h l
  rw [he, splitOn_identification h' l', List.cons_eq_cons] at hsplit
  obtain ⟨hexpression, hrest⟩ := hsplit
  obtain ⟨hpath, hline⟩ := List.append_inj' hrest rfl
  refine ⟨String.toList_injective hexpression.symm, String.toList_injective ?_, ?_⟩
  · calc s.context.path.toString.toList
        = [':'].intercalate (s.context.path.toString.toList.splitOn ':') := by
          rw [List.intercalate_splitOn]
      _ = s'.context.path.toString.toList := by
          rw [← hpath, List.intercalate_splitOn]
  · have hdigits := String.toList_injective (List.singleton_inj.mp hline)
    rw [Int.toString_eq_repr, Int.toString_eq_repr] at hdigits
    exact (Int.repr_inj.mp hdigits).symm

/-- **Identifications can be read back.**  The parts of a scope's name are never none and give the
name when they are joined with dots, and with the name of the definition behind them they give the
expression.  Two subjects on lines, of scopes without colons and with names without colons and dots,
have the same identification only if they agree in the parts of the scope, in the name, in the text
of the path, whatever it holds, and in the line.  A definition without a name is printed as `None`
and cannot be told from one that has this name. -/
theorem identification_decodable :
    (∀ s : Subject, s.context.parts ≠ [] ∧ ".".intercalate s.context.parts = s.context.scope.name ∧
      s.expression = ".".intercalate (s.context.parts ++ [s.shownName])) ∧
    ∀ (s s' : Subject) (l l' : Int), s.node.line? = some l → s'.node.line? = some l' →
      s.Plain → s'.Plain → ∃ i i', s.identification = .ok i ∧ s'.identification = .ok i' ∧
        (i = i' → s.context.parts = s'.context.parts ∧ s.shownName = s'.shownName ∧
          (s.name?.isSome = s'.name?.isSome → s.name? = s'.name?) ∧
          toString s.context.path = toString s'.context.path ∧ s.line = s'.line) := by
  refine ⟨fun s => ⟨s.context.parts_ne_nil, s.context.intercalate_parts,
    s.expression_eq_intercalate⟩, ?_⟩
  intro s s' l l' hl hl' h h'
  refine ⟨_, _, identification_of_line hl, identification_of_line hl', fun he => ?_⟩
  obtain ⟨hexpression, hpath, rfl⟩ := eq_of_identification_eq h h' he
  obtain ⟨hparts, hname⟩ := parts_eq_of_expression_eq h h' hexpression
  refine ⟨hparts, hname, ?_, hpath, ?_⟩
  · intro hsome
    unfold shownName at hname
    cases ha : s.name? <;> cases ha' : s'.name? <;> simp_all
  · rw [line, line, Node.readLine_eq_ok.mpr hl, Node.readLine_eq_ok.mpr hl']

section colons

/-- A class `Inner` of a class `Outer` of the module `pkg`. -/
def nestedClass : Live.Heap 1
  | 0 => .classObject ⟨"Inner", "Outer.Inner", some "pkg", [], [], none, false⟩

/-- A method `f` of `Inner` in that file and on that line. -/
def nestedMethod (file : String) (line : Int) : Subject :=
  ⟨.instanceMethod, ⟨nestedClass.scope 0, .ofString file⟩,
    .mk .functionDef (some line) none [(.name, .word "f")], ⟨0, []⟩, 0⟩

theorem plain_nestedMethod (file : String) (line : Int) : (nestedMethod file line).Plain where
  scope := by
    have h : (nestedClass.scope 0).name = "pkg.Outer.Inner" := by cbv
    show ':' ∉ (nestedClass.scope 0).name.toList
    rw [h]
    decide
  name a ha := by
    have h : (nestedMethod file line).name? = some "f" := rfl
    cases h.symm.trans ha
    decide

/-- Line 2 of `a:1` is not line 12 of `a`. -/
theorem identification_decodable_colons :
    (nestedMethod "a:1" 2).expression =
      ".".intercalate ((nestedMethod "a:1" 2).context.parts ++ ["f"]) ∧
    ∃ i i', (nestedMethod "a:1" 2).identification = .ok i ∧
      (nestedMethod "a" 12).identification = .ok i' ∧ i ≠ i' := by
  obtain ⟨hparts, htold⟩ := identification_decodable
  obtain ⟨i, i', hi, hi', heq⟩ := htold (nestedMethod "a:1" 2) (nestedMethod "a" 12) 2 12 rfl rfl
    (plain_nestedMethod "a:1" 2) (plain_nestedMethod "a" 12)
  refine ⟨(hparts (nestedMethod "a:1" 2)).2.2, i, i', hi, hi', fun he => ?_⟩
  obtain ⟨-, -, -, -, hline⟩ := heq he
  cases hline

end colons

end Subject

end DefSite
