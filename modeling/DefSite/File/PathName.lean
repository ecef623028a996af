/-!
# Path names

A path name in normal form: what it starts from and its parts.  Repeated slashes, `.` parts and
trailing slashes vanish, `..` stays, and exactly two leading slashes stay two.  Two names are equal
when their normal forms are, and a name is told by its text (`PathName.ofString_toString`).
-/

namespace DefSite

/-- What a path name starts from. -/
inductive PathRoot where
  | relative | slash | doubleSlash
  deriving DecidableEq, Repr, Inhabited

/-- A part of a path name is a text without slashes, neither empty nor the place itself. -/
def IsPart (p : List Char) : Prop :=
  p ≠ [] ∧ p ≠ ['.'] ∧ '/' ∉ p

instance (p : List Char) : Decidable (IsPart p) :=
  inferInstanceAs (Decidable (p ≠ [] ∧ p ≠ ['.'] ∧ '/' ∉ p))

/-- A path name in normal form. -/
structure PathName where
  root : PathRoot
  parts : List String
  isPart_of_mem : ∀ p ∈ parts, IsPart p.toList
  deriving DecidableEq, Repr

namespace PathName

instance : Inhabited PathName := ⟨⟨.relative, [], by simp⟩⟩

/-- How many slashes lead a text decides what the name starts from. -/
def rootOf : List Char → PathRoot
  | '/' :: '/' :: '/' :: _ => .slash
  | '/' :: '/' :: _ => .doubleSlash
  | '/' :: _ => .slash
  | _ => .relative

/-- The parts of a text between its slashes. -/
def partsOf (cs : List Char) : List String :=
  ((cs.splitOn '/').filter IsPart).map String.ofList

theorem isPart_of_mem_partsOf {cs : List Char} {p : String} (h : p ∈ partsOf cs) :
    IsPart p.toList := by
  obtain ⟨q, hq, rfl⟩ := List.mem_map.mp h
  simpa using (List.mem_filter.mp hq).2

def ofString (s : String) : PathName :=
  ⟨rootOf s.toList, partsOf s.toList, fun _ h => isPart_of_mem_partsOf h⟩

def rootText : PathRoot → String
  | .relative => ""
  | .slash => "/"
  | .doubleSlash => "//"

/-- The text of a name; the empty name is `.`. -/
def toString (p : PathName) : String :=
  if p.root = .relative ∧ p.parts = [] then "." else rootText p.root ++ "/".intercalate p.parts

instance : ToString PathName := ⟨toString⟩

/-- `name` seen from `base`: below it, unless `name` starts from a root of its own. -/
def under (base name : PathName) : PathName :=
  if name.root = .relative then
    ⟨base.root, base.parts ++ name.parts, fun p h => (List.mem_append.mp h).elim
      (base.isPart_of_mem p) (name.isPart_of_mem p)⟩
  else name

/-! ## Names and their texts -/

theorem partsOf_cons_slash (cs : List Char) : partsOf ('/' :: cs) = partsOf cs := by
  have := List.splitOn_append_cons_self (a := '/') [] cs
  simp only [List.nil_append, List.splitOn_nil] at this
  simp [partsOf, this, IsPart]

theorem partsOf_intercalate {parts : List String} (h : ∀ p ∈ parts, IsPart p.toList) :
    partsOf (['/'].intercalate (parts.map String.toList)) = parts := by
  cases parts with
  | nil => simp [partsOf, IsPart, List.splitOn_nil]
  | cons p ps =>
    have hs : ∀ l ∈ (p :: ps).map String.toList, '/' ∉ l := by
      intro l hl
      obtain ⟨q, hq, rfl⟩ := List.mem_map.mp hl
      exact (h q hq).2.2
    have hf : ∀ l ∈ (p :: ps).map String.toList, IsPart l := by
      intro l hl
      obtain ⟨q, hq, rfl⟩ := List.mem_map.mp hl
      exact h q hq
    rw [partsOf, List.splitOn_intercalate '/' hs (by simp),
      List.filter_eq_self.mpr fun l hl => decide_eq_true (hf l hl), List.map_map]
    simp [Function.comp_def]

/-- No text of parts starts with a slash, for parts are not empty. -/
theorem head?_intercalate {parts : List String} (h : ∀ p ∈ parts, IsPart p.toList) :
    (['/'].intercalate (parts.map String.toList)).head? ≠ some '/' := by
  cases parts with
  | nil => simp
  | cons p ps =>
    have hp := h p List.mem_cons_self
    cases hl : p.toList with
    | nil => exact absurd hl hp.1
    | cons c cs =>
      have hc : c ≠ '/' := fun e => hp.2.2 (by simp [hl, e])
      cases ps <;> simp [hl, hc, List.intercalate_cons_cons]

theorem ofString_toString (p : PathName) : ofString p.toString = p := by
  obtain ⟨root, parts, h⟩ := p
  have hh := head?_intercalate h
  have hp := partsOf_intercalate h
  by_cases he : root = .relative ∧ parts = []
  · obtain ⟨rfl, rfl⟩ := he
    have : ofString "." = ⟨.relative, [], by simp⟩ := by decide
    simpa [toString] using this
  · have ht : (PathName.toString ⟨root, parts, h⟩).toList =
        (rootText root).toList ++ ['/'].intercalate (parts.map String.toList) := by
      simp [toString, he, String.toList_intercalate]
    have hr : rootOf (PathName.toString ⟨root, parts, h⟩).toList = root := by
      rw [ht]
      generalize ['/'].intercalate (parts.map String.toList) = cs at hh
      cases root <;> cases cs <;> simp_all [rootText, rootOf]
    have hq : partsOf (PathName.toString ⟨root, parts, h⟩).toList = parts := by
      rw [ht]
      cases root <;> simp [rootText, partsOf_cons_slash, hp]
    simp [ofString, hr, hq]

end PathName

end DefSite
