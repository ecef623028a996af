import Mathlib
import DefSite.Proofs.Classification
import DefSite.Proofs.Decoration
import DefSite.Proofs.Registration

/-!
# What the kind of a subject tells

The kind of a subject is told from the scope and from what is stored there, while its definition is
found by name and line, wherever in the file it stands.  So the kind tells how the method is held
and how its definition is decorated, but whether the definition stands in a class it only tells
where scope and place go together.  Where a module and a class hold one method, they do so for
exactly one of the two (`kind_of_mem_subjects`).
-/

namespace DefSite

/-! ## Places and decorators -/

namespace Node

variable {n root : Node} {a : Address}

/-- The node at the address stands in a class: there is a class definition above it. -/
def InClass (root : Node) (a : Address) : Prop :=
  ∃ m, IsAbove root a m ∧ m.kind = .classDef

theorem inClass_iff_any (h : root.at? a = some n) :
    root.InClass a ↔ (root.trail a).dropLast.any (·.kind == .classDef) := by
  simp only [InClass, List.any_eq_true, beq_iff_eq, mem_dropLast_trail h]

/-- The definition is decorated as those of a kind are: one of a class method or a static method
with the decorator of that name, any other one with neither of the two. -/
def IsDecoratedAs (n : Node) : SubjectKind → Prop
  | .classMethod => n.DecoratedWith "classmethod"
  | .staticMethod => n.DecoratedWith "staticmethod"
  | _ => ¬ n.DecoratedWith "classmethod" ∧ ¬ n.DecoratedWith "staticmethod"

end Node

theorem Variant.accepts_iff_isDecoratedAs {v : Variant} (hv : v ∈ builtins) {n : Node}
    {names : List String} (h : n.decoratedBy = .ok names) :
    v.accepts names ↔ n.IsDecoratedAs v.subjectKind := by
  simp only [builtins, List.mem_cons, List.not_mem_nil, or_false] at hv
  rcases hv with rfl | rfl | rfl | rfl <;>
    simp [function, instanceMethod, classMethod, staticMethod, acceptsUndecorated,
      Node.IsDecoratedAs, ← Node.mem_decoratedBy_iff h]

namespace SubjectKind

/-- The kinds of functions and plain methods, which look for the same decorators: none. -/
def IsPlain (k : SubjectKind) : Prop :=
  k = .function ∨ k = .instanceMethod

end SubjectKind

namespace Subject

/-- The kind of the subject tells where its definition stands in a tree: that of a function in no
class, and that of any method of a class in one. -/
def TellsPlace (s : Subject) (root : Node) : Prop :=
  (s.kind = .function → ¬ root.InClass s.origin.address) ∧
  (s.kind ∈ [.instanceMethod, .classMethod, .staticMethod] → root.InClass s.origin.address)

/-- The subject, as one of another kind that was found for a method of another scope. -/
def heldAs (s : Subject) (kind : SubjectKind) (scope : Scope) : Subject :=
  { s.seenFrom scope with kind }

/-- Of two plain kinds exactly one tells the place, wherever that is. -/
theorem tellsPlace_heldAs_iff {s : Subject} {kind : SubjectKind} {scope : Scope} {root : Node}
    (hs : s.kind.IsPlain) (hkind : kind.IsPlain) (hne : kind ≠ s.kind) :
    (s.heldAs kind scope).TellsPlace root ↔ ¬ s.TellsPlace root := by
  rcases hs with hs | hs <;> rcases hkind with rfl | rfl <;>
    simp_all [TellsPlace, heldAs, seenFrom]

end Subject

/-! ## Where kinds come from -/

/-- The known variants are found under the labels of their kinds. -/
theorem Catalogue.get_standard_eq_ok {key : String} {v : Variant} (h : standard.get key = .ok v) :
    v ∈ Variant.builtins ∧ v.subjectKind.label = key := by
  have hentries : standard.entries = Variant.builtins.map fun v => (v.subjectKind.label, v) := rfl
  rw [get_eq_ok_iff, hentries, List.lookup_eq_some_iff] at h
  obtain ⟨before, after, hsplit, -⟩ := h
  have hmem : (key, v) ∈ Variant.builtins.map fun v => (v.subjectKind.label, v) := by
    rw [hsplit]
    exact List.mem_append_right _ List.mem_cons_self
  obtain ⟨v', hv', he⟩ := List.mem_map.mp hmem
  cases he
  exact ⟨hv', rfl⟩

theorem Catalogue.exists_get_standard {k : SubjectKind} (hk : k.IsPlain) :
    ∃ v, standard.get k.label = .ok v ∧ v.subjectKind = k ∧
      v.accepts = Variant.acceptsUndecorated := by
  rcases hk with rfl | rfl
  · exact ⟨.function, rfl, rfl, rfl⟩
  · exact ⟨.instanceMethod, rfl, rfl, rfl⟩

namespace Live.Heap

variable {n : Nat} {h : Heap n} {scope : Fin n} {found : Attribute (Fin n)} {k : SubjectKind}

theorem Wants.eq_function_iff {key : String} (hw : h.Wants scope found key) :
    key = "function" ↔ h.IsModule scope := by
  cases hw with
  | function hm => exact iff_of_true rfl hm
  | classMethod hc | staticMethod hc | builtinStatic hc | other hc =>
    exact iff_of_false (by decide) (not_isModule_of_isClass hc)

theorem Wants.ne_method {key : String} (hw : h.Wants scope found key) : key ≠ "method" := by
  cases hw <;> decide

/-- On modules all subjects are functions, and on classes none is. -/
theorem Wants.kind_iff (hw : h.Wants scope found k.label) :
    (k = .function ↔ h.IsModule scope) ∧
      (k ∈ [SubjectKind.instanceMethod, .classMethod, .staticMethod] ↔ ¬ h.IsModule scope) := by
  rw [← hw.eq_function_iff]
  have hmethod := hw.ne_method
  cases k <;> simp_all [SubjectKind.label]

/-- The kind tells the place if and only if this is in no class just where the scope is a module. -/
theorem Wants.tellsPlace_iff {s : Subject} {root : Node} (hw : h.Wants scope found s.kind.label) :
    s.TellsPlace root ↔ (h.IsModule scope ↔ ¬ root.InClass s.origin.address) := by
  obtain ⟨hfunction, hmethod⟩ := hw.kind_iff
  rw [Subject.TellsPlace, hfunction, hmethod]
  tauto

end Live.Heap

namespace Query

open Live

/-! ## One method of two scopes -/

/-- Queries for one method whose variants accept the same decorators find the same, each as of its
own kind and scope. -/
theorem callAfresh_of_accepts_eq {σ : Type} (q q' : Query) (hmethod : q'.method = q.method)
    (haccepts : q'.variant.accepts = q.variant.accepts) (setup : Setup σ) (w : World σ) :
    q'.callAfresh setup w =
      ((q.callAfresh setup w).1.map (·.map (·.heldAs q'.variant.subjectKind q'.scope)),
        (q.callAfresh setup w).2) := by
  have hrecognises : q'.recognises = q.recognises := by
    funext n
    simp only [recognises, line, Variant.recognises, hmethod, haccepts]
  have hends : q'.ending setup w = q.ending setup w := by
    unfold ending
    rw [hrecognises, hmethod]
  -- both end in one way, of which only the answer reads the scope and the kind
  rw [(endsIn_ending q' setup w).2, (endsIn_ending q setup w).2, hends]
  obtain ⟨scope', method', variant'⟩ := q'
  cases hmethod
  cases q.ending setup w <;> rfl

section kinds

variable {n : Nat} {h : Heap n} {scope scope' : Fin n} {name name' : String} {c : Catalogue}
  {q : Query} {found : Attribute (Fin n)} {k : SubjectKind}

/-- What a query by name is made of. -/
theorem exists_of_ofAttribute (hq : ofAttribute h scope name c = .ok q) :
    ∃ found key, h.lookup scope name = some found ∧ h.Wants scope found key ∧
      c.get key = .ok q.variant ∧ h.attributeMethod found = .ok q.method := by
  have hx := resolves_ofAttribute h scope name c
  rw [hq] at hx
  cases hx with
  | query hfound hkey hvariant hmethod =>
    exact ⟨_, _, hfound, hkey, Catalogue.get_eq_ok_iff.mpr hvariant,
      Heap.attributeMethod_eq_ok_iff.mpr hmethod⟩

/-- A method that another scope holds, too, is found there as the kind that this scope wants. -/
theorem callAfresh_heldAs {σ : Type} (setup : Setup σ) (w : World σ)
    (hmethod : h.attributeMethod found = .ok q.method)
    (haccepts : q.variant.accepts = Variant.acceptsUndecorated)
    (hfound : h.lookup scope' name' = some found) (hkey : h.Wants scope' found k.label)
    (hk : k.IsPlain) :
    ∃ q', ofAttribute h scope' name' .standard = .ok q' ∧
      q'.callAfresh setup w =
        ((q.callAfresh setup w).1.map (·.map (·.heldAs k (h.scope scope'))),
          (q.callAfresh setup w).2) := by
  obtain ⟨v, hv, rfl, hv'⟩ := Catalogue.exists_get_standard hk
  have hq' := ofAttribute_of_wants hfound hkey hv
  rw [hmethod] at hq'
  exact ⟨⟨h.scope scope', q.method, v⟩, hq',
    callAfresh_of_accepts_eq q ⟨h.scope scope', q.method, v⟩ rfl (hv'.trans haccepts.symm) setup w⟩

/-- **What the kind of a subject tells.**  Let a name be looked up on a scope, with the variants
that are known from the start, and let a call answer a subject.  Its kind is that of the scope and
of what is stored there, and its definition is a function definition in the tree of the file,
outside of closures and decorated as those of the kind are.  But the kind tells whether the
definition stands in a class if and only if this goes with the scope: in none for a module, and in
one for a class.  So if a function or plain method is also held by a scope that wants it as the
other one, then a call for it there finds the same definition, and wherever this stands, exactly one
of the two kinds tells so. -/
theorem kind_of_mem_subjects {σ : Type} (setup : Setup σ) (w : World σ) {n : Nat} (h : Heap n)
    (scope : Fin n) (name : String) (q : Query) (ss : List Subject) (s : Subject)
    (hq : ofAttribute h scope name .standard = .ok q)
    (hss : (q.callAfresh setup w).1 = .ok ss) (hs : s ∈ ss) :
    ∃ found t, h.lookup scope name = some found ∧ h.Wants scope found s.kind.label ∧
      (setup.parseFile s.context.path w).1 = .ok t ∧ s.origin.tree = t.id ∧
      t.root.at? s.origin.address = some s.node ∧ s.node.kind.isFunctionDef ∧
      ¬ t.root.InClosure s.origin.address s.node ∧ s.node.IsDecoratedAs s.kind ∧
      (s.TellsPlace t.root ↔ (h.IsModule scope ↔ ¬ t.root.InClass s.origin.address)) ∧
      ∀ scope' name' k, h.lookup scope' name' = some found → h.Wants scope' found k.label →
        s.kind.IsPlain → k.IsPlain → k ≠ s.kind →
        ∃ q', ofAttribute h scope' name' .standard = .ok q' ∧
          q'.callAfresh setup w =
            (.ok (ss.map (·.heldAs k (h.scope scope'))), (q.callAfresh setup w).2) ∧
          ((s.heldAs k (h.scope scope')).TellsPlace t.root ↔ ¬ s.TellsPlace t.root) := by
  obtain ⟨found, key, hfound, hkey, hget, hmethod⟩ := exists_of_ofAttribute hq
  obtain ⟨hv, rfl⟩ := Catalogue.get_standard_eq_ok hget
  obtain ⟨l, t, a, d, ⟨hsearches, hlast, hopen⟩, rfl⟩ := found_of_mem_callAfresh hss hs
  have hdecorated : d.IsDecoratedAs q.variant.subjectKind := by
    rcases hlast.1 with ⟨-, -, -, names, hnames, haccepts⟩ | ⟨hlambda, -⟩
    · exact (Variant.accepts_iff_isDecoratedAs hv hnames).mp haccepts
    · exact absurd (.inl hlambda) hopen
  refine ⟨found, t, hfound, hkey, hsearches.parsed, rfl, hlast.at?,
    (hlast.definesFunction hopen).isFunctionDef, hopen, hdecorated, hkey.tellsPlace_iff, ?_⟩
  intro scope' name' k hfound' hkey' hplain hk hne
  have haccepts : q.variant.accepts = Variant.acceptsUndecorated := by
    obtain ⟨v, hv, -, haccepts⟩ := Catalogue.exists_get_standard hplain
    cases hget.symm.trans hv
    exact haccepts
  obtain ⟨q', hq', hcall⟩ := callAfresh_heldAs setup w hmethod haccepts hfound' hkey' hk
  rw [hss] at hcall
  exact ⟨q', hq', hcall, Subject.tellsPlace_heldAs_iff hplain hk hne⟩

end kinds

section crosswise

/-- A module `a` with a class `C`.  The class takes over the module's function `f` and static method
`s`, and the module takes over the class's method `g`, bound to an instance. -/
def crosswise : Heap 7
  | 0 => .module "a" [("f", 2), ("s", 4), ("C", 1), ("g", 6)]
  | 1 => .classObject ⟨"C", "C", some "a", [], [("g", 3), ("f", 2), ("s", 4)], none, false⟩
  | 2 => .function "f" "f" (some "a") ⟨"a.py", 1⟩ none
  | 3 => .function "g" "C.g" (some "a") ⟨"a.py", 5⟩ none
  | 4 => .staticMethod 5
  | 5 => .function "s" "s" (some "a") ⟨"a.py", 2⟩ none
  | 6 => .boundMethod 3

/-- The text of the module. -/
def crosswiseWorld : World (Holdings Nat) :=
  worldOf "def f():0\n@staticmethod\ndef s():0\nclass C:\n def g(c):0\n f=f;s=s\ng=C().g"

def staticOfClass : Query :=
  ⟨crosswise.scope 1, Heap.plainMethod "s" "s" (some "a") ⟨"a.py", 2⟩, .staticMethod⟩

def functionOfClass : Query :=
  ⟨crosswise.scope 1, Heap.plainMethod "f" "f" (some "a") ⟨"a.py", 1⟩, .instanceMethod⟩

def methodOfModule : Query :=
  ⟨crosswise.scope 0, Heap.plainMethod "g" "C.g" (some "a") ⟨"a.py", 5⟩, .function⟩

theorem lookup_crosswise : crosswise.lookup 1 "f" = some (.stored 2) ∧
    crosswise.lookup 1 "s" = some (.stored 4) ∧ crosswise.lookup 0 "f" = some (.stored 2) ∧
    crosswise.lookup 0 "g" = some (.stored 6) := by
  decide +kernel

theorem ofAttribute_crosswise : ofAttribute crosswise 1 "f" .standard = .ok functionOfClass ∧
    ofAttribute crosswise 1 "s" .standard = .ok staticOfClass ∧
    ofAttribute crosswise 0 "g" .standard = .ok methodOfModule := by
  obtain ⟨hf, hs, -, hg⟩ := lookup_crosswise
  refine ⟨ofAttribute_of_stores rfl hf .bare rfl, ofAttribute_of_stores rfl hs (.inStaticMethod rfl)
    rfl, ?_⟩
  rw [ofAttribute_of_lookup hg]
  rfl

theorem answer_crosswise :
    ∃ t sf ss sg, (oneFileSetup.parseFile Holdings.onePath crosswiseWorld).1 = .ok t ∧
      (functionOfClass.callAfresh oneFileSetup crosswiseWorld).1 = .ok [sf] ∧
      (staticOfClass.callAfresh oneFileSetup crosswiseWorld).1 = .ok [ss] ∧
      (methodOfModule.callAfresh oneFileSetup crosswiseWorld).1 = .ok [sg] ∧
      sf.context.path = Holdings.onePath ∧
      ¬ t.root.InClass sf.origin.address ∧ ¬ t.root.InClass ss.origin.address ∧
      t.root.InClass sg.origin.address := by
  obtain ⟨root, df, ds, dg, hroot, hf, hs, hg, hatf, hats, hatg, hopenf, hopens, hopeng, hinf, hins,
      hing⟩ : ∃ root df ds dg,
      Source.parse Holdings.onePath ("def f():0\n@staticmethod\ndef s():0\n" ++
        "class C:\n def g(c):0\n f=f;s=s\ng=C().g").toList = .ok root ∧
      root.findLast functionOfClass.recognises = .ok (some [0]) ∧
      root.findLast staticOfClass.recognises = .ok (some [1]) ∧
      root.findLast methodOfModule.recognises = .ok (some [2, 0]) ∧
      root.at? [0] = some df ∧ root.at? [1] = some ds ∧ root.at? [2, 0] = some dg ∧
      isClosure (root.trail [0]) = false ∧ isClosure (root.trail [1]) = false ∧
      isClosure (root.trail [2, 0]) = false ∧
      ((root.trail [0]).dropLast.any (·.kind == .classDef)) = false ∧
      ((root.trail [1]).dropLast.any (·.kind == .classDef)) = false ∧
      ((root.trail [2, 0]).dropLast.any (·.kind == .classDef)) = true :=
    ⟨_, _, _, _, by cbv, by cbv, by cbv, by cbv, by cbv, by cbv, by cbv, by cbv, by cbv, by cbv,
      by cbv, by cbv, by cbv⟩
  have hparse := parseFile_worldOf (by cbv) hroot
  refine ⟨⟨0, root⟩, _, _, _, hparse, answer_of_findLast rfl rfl hparse hf hatf hopenf,
    answer_of_findLast rfl rfl hparse hs hats hopens,
    answer_of_findLast rfl rfl hparse hg hatg hopeng, rfl, ?_, ?_, ?_⟩
  · rw [Node.inClass_iff_any hatf, hinf]
    exact Bool.false_ne_true
  · rw [Node.inClass_iff_any hats, hins]
    exact Bool.false_ne_true
  · rwa [Node.inClass_iff_any hatg]

/-- The function is a plain method as the class holds it and a function as the module does, and only
the latter goes with its place. -/
theorem kind_of_mem_subjects_crosswise :
    ∃ t q q' s, (oneFileSetup.parseFile Holdings.onePath crosswiseWorld).1 = .ok t ∧
      ofAttribute crosswise 1 "f" .standard = .ok q ∧
      (q.callAfresh oneFileSetup crosswiseWorld).1 = .ok [s] ∧
      s.kind = .instanceMethod ∧ ¬ s.TellsPlace t.root ∧
      ofAttribute crosswise 0 "f" .standard = .ok q' ∧
      (q'.callAfresh oneFileSetup crosswiseWorld).1 = .ok [s.heldAs .function (crosswise.scope 0)] ∧
      (s.heldAs .function (crosswise.scope 0)).TellsPlace t.root := by
  obtain ⟨t, s, -, -, hparse, hanswer, -, -, hpath, hno, -⟩ := answer_crosswise
  have hq := ofAttribute_crosswise.1
  have hkind : s.kind = .instanceMethod :=
    kind_of_mem_callAfresh hanswer s (List.mem_singleton_self s)
  obtain ⟨found, t', hfound, -, hparse', -, -, -, -, -, htells, hother⟩ :=
    kind_of_mem_subjects oneFileSetup crosswiseWorld crosswise 1 "f" functionOfClass [s] s hq
      hanswer (List.mem_singleton_self s)
  rw [hpath] at hparse'
  cases hparse.symm.trans hparse'
  obtain ⟨hstored, -, hmodule, -⟩ := lookup_crosswise
  cases hfound.symm.trans hstored
  have hmisled : ¬ s.TellsPlace t.root := by
    have hclass : ¬ crosswise.IsModule 1 := Heap.not_isModule_of_isClass rfl
    rw [htells, iff_false_left hclass, not_not]
    exact hno
  obtain ⟨q', hq', hcall, hplace⟩ := hother 0 "f" .function hmodule (.function ⟨_, _, rfl⟩)
    (.inr hkind) (.inl rfl) (by simp [hkind])
  exact ⟨t, functionOfClass, q', s, hparse, hq, hanswer, hkind, hmisled, hq',
    congrArg (·.1) hcall, hplace.mpr hmisled⟩

/-- The function and the static method that stand in no class are methods of the class, and the
method that stands in the class is a function of the module. -/
theorem callAfresh_crosswise :
    ∃ t q₁ q₂ q₃ s₁ s₂ s₃, (oneFileSetup.parseFile Holdings.onePath crosswiseWorld).1 = .ok t ∧
      ofAttribute crosswise 1 "f" .standard = .ok q₁ ∧
      (q₁.callAfresh oneFileSetup crosswiseWorld).1 = .ok [s₁] ∧
      s₁.kind = .instanceMethod ∧ ¬ t.root.InClass s₁.origin.address ∧
      ofAttribute crosswise 1 "s" .standard = .ok q₂ ∧
      (q₂.callAfresh oneFileSetup crosswiseWorld).1 = .ok [s₂] ∧
      s₂.kind = .staticMethod ∧ ¬ t.root.InClass s₂.origin.address ∧
      ofAttribute crosswise 0 "g" .standard = .ok q₃ ∧
      (q₃.callAfresh oneFileSetup crosswiseWorld).1 = .ok [s₃] ∧
      s₃.kind = .function ∧ t.root.InClass s₃.origin.address := by
  obtain ⟨t, sf, ss, sg, hparse, hf, hs, hg, -, hinf, hins, hing⟩ := answer_crosswise
  obtain ⟨hqf, hqs, hqg⟩ := ofAttribute_crosswise
  exact ⟨t, functionOfClass, staticOfClass, methodOfModule, sf, ss, sg, hparse,
    hqf, hf, kind_of_mem_callAfresh hf sf (List.mem_singleton_self sf), hinf,
    hqs, hs, kind_of_mem_callAfresh hs ss (List.mem_singleton_self ss), hins,
    hqg, hg, kind_of_mem_callAfresh hg sg (List.mem_singleton_self sg), hing⟩

end crosswise

end Query

end DefSite
