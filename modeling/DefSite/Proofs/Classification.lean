import Mathlib
import DefSite.Match.Lookup
import DefSite.Proofs.History
import DefSite.Proofs.Unwrapping

/-!
# Stored objects and decorators

The variant of a method that is looked up by name is told from the object that its class stores,
but a definition is recognised by its decorators.  Where a file holds one definition of the method,
a call finds it if and only if the two agree; if they do not, the answer is empty and nothing is
reported (`callAfresh_of_sole`).  They disagree about methods that become class methods or static
methods by their name alone.
-/

namespace DefSite

/-! ## Functions that classes store -/

namespace Live.Heap

variable {n : Nat} {h : Heap n} {scope r f : Fin n} {v : Variant}

/-- What a class stores for a function, and the variant that tells: the function itself, or a class
method or a static method over it. -/
inductive Stores (h : Heap n) (f : Fin n) : Fin n → Variant → Prop
  | bare : Stores h f f .instanceMethod
  | inClassMethod {r : Fin n} (hr : h r = .classMethod f) : Stores h f r .classMethod
  | inStaticMethod {r : Fin n} (hr : h r = .staticMethod f) : Stores h f r .staticMethod

/-- A function without wrappers, as a live method. -/
def plainMethod (name qualname : String) (module : Option String) (l : Location) : LiveMethod :=
  ⟨name, some l, dotted module qualname⟩

variable {name qualname : String} {module : Option String} {l : Location}

theorem method_of_stores (hs : h.Stores f r v)
    (hf : h f = .function name qualname module l none) :
    h.method r = .ok (plainMethod name qualname module l) := by
  have hlayers : h.Within .method f r := by
    cases hs with
    | bare => exact .bare
    | inClassMethod hr => exact .layered (by rw [hr]; rfl)
    | inStaticMethod hr => exact .layered (by rw [hr]; rfl)
  exact method_of_wraps hf .bare (by decide) .bare hlayers .bare

theorem variantName_of_stores (hc : h.isClass scope) (hs : h.Stores f r v)
    (hf : h f = .function name qualname module l none) :
    h.variantName scope (.stored r) = .ok v.name := by
  have hscope : ∀ name attrs, h scope ≠ .module name attrs := by
    intro name attrs hm
    simp [isClass, hm] at hc
  unfold variantName
  split
  · next hm => exact absurd hm (hscope _ _)
  · rw [if_neg (by simp [hc])]
    cases hs with
    | bare => simp [hf, Variant.instanceMethod]
    | inClassMethod hr => simp [hr, Variant.classMethod]
    | inStaticMethod hr => simp [hr, Variant.staticMethod]

theorem get_standard_of_stores (hs : h.Stores f r v) : Catalogue.standard.get v.name = .ok v := by
  cases hs <;> rfl

end Live.Heap

namespace Query

open Live

variable {n : Nat} {h : Heap n} {scope r f : Fin n} {v : Variant} {name qualname : String}
  {module : Option String} {l : Location}

/-- The query for a function that a class stores under its name. -/
theorem ofAttribute_of_stores (hc : h.isClass scope)
    (hlookup : h.lookup scope name = some (.stored r)) (hs : h.Stores f r v)
    (hf : h f = .function name qualname module l none) :
    ofAttribute h scope name .standard =
      .ok ⟨h.scope scope, Heap.plainMethod name qualname module l, v⟩ := by
  unfold ofAttribute
  rw [hlookup]
  simp only [Heap.variantName_of_stores hc hs hf, bind, Except.bind,
    Heap.get_standard_of_stores hs, Heap.attributeMethod, Heap.method_of_stores hs hf]
  rfl

end Query

/-! ## The one definition of a method -/

namespace Node

/-- The node is a function definition of that name that starts on that line. -/
structure DefinesFunction (n : Node) (name : String) (line : Int) : Prop where
  isFunctionDef : n.kind.isFunctionDef
  named : n.word? .name = some name
  starts : n.StartsOn line

/-- The node at the address is the tree's only definition of that name that starts on that line. -/
structure IsSole (root : Node) (name : String) (line : Int) (a : Address) (d : Node) : Prop where
  at? : root.at? a = some d
  defines : d.DefinesFunction name line
  unique : ∀ b e, root.at? b = some e → e.DefinesFunction name line → b = a

variable {root d : Node} {name : String} {line : Int} {a : Address} {v : Variant}

/-- A tree with one function definition has one of the definition's name and line. -/
theorem isSole_of_preorder (h : root.preorder.filter (·.2.kind.isFunctionDef) = [(a, d)])
    (hname : d.word? .name = some name) (hline : d.startLine = .ok line) :
    root.IsSole name line a d := by
  have hmem : (a, d) ∈ root.preorder.filter (·.2.kind.isFunctionDef) :=
    h ▸ List.mem_singleton_self _
  obtain ⟨had, hkind⟩ := List.mem_filter.mp hmem
  refine ⟨mem_preorder_iff.mp had, ⟨hkind, hname, startLine_eq_ok.mp hline⟩, fun b e hb he => ?_⟩
  have hbe : (b, e) ∈ root.preorder.filter (·.2.kind.isFunctionDef) :=
    List.mem_filter.mpr ⟨mem_preorder_iff.mpr hb, he.isFunctionDef⟩
  rw [h] at hbe
  cases List.mem_singleton.mp hbe
  rfl

theorem defines_iff_of_ne (hname : name ≠ anonymousName) {n : Node} :
    v.Defines name line n ↔ n.DefinesFunction name line ∧
      ∃ names, n.decoratedBy = .ok names ∧ v.accepts names := by
  constructor
  · rintro (⟨hk, hw, hl, hnames⟩ | ⟨-, hanonymous, -⟩)
    · exact ⟨⟨hk, hw, hl⟩, hnames⟩
    · exact absurd hanonymous hname
  · rintro ⟨⟨hk, hw, hl⟩, hnames⟩
    exact .inl ⟨hk, hw, hl, hnames⟩

/-- Where the test does not fail, the decorators of a definition of the method can be named. -/
theorem DefinesFunction.exists_decoratedBy (h : d.DefinesFunction name line)
    (htest : ∃ b, v.recognises name line d = .ok b) : ∃ names, d.decoratedBy = .ok names := by
  obtain ⟨b, hb⟩ := htest
  have hread : v.recognises name line d =
      d.decoratedBy >>= fun names => pure (v.accepts names) := by
    have hkind := h.isFunctionDef
    unfold Variant.recognises
    cases hk : d.kind <;> simp_all [Kind.isFunctionDef] <;>
      simp [readWord_eq_ok.mpr h.named, startLine_eq_ok.mpr h.starts, bind, Except.bind]
  rw [hread] at hb
  obtain ⟨names, hnames, -⟩ := bind_eq_ok.mp hb
  exact ⟨names, hnames⟩

end Node

section sole

open Live Query

variable {σ : Type} {q : Query} {setup : Setup σ} {w : World σ} {l : Location} {t : ParsedTree}
  {a : Address} {d : Node} {names : List String}

/-- The only definition of a method is found if the variant accepts its decorators. -/
theorem endsIn_of_sole (hname : q.method.name ≠ anonymousName) (hs : q.Searches setup w l t)
    (hsole : t.root.IsSole q.method.name l.line a d) (hclosure : ¬ t.root.InClosure a d)
    (hnames : d.decoratedBy = .ok names) :
    q.EndsIn setup w (if q.variant.accepts names then .found l t a d else .absent l) := by
  have hdefines : q.variant.Defines q.method.name l.line d ↔ q.variant.accepts names := by
    rw [Node.defines_iff_of_ne hname, hnames]
    simp [hsole.defines]
  have honly : ∀ b e, t.root.at? b = some e → q.variant.Defines q.method.name l.line e →
      b = a ∧ e = d := by
    intro b e hb he
    obtain rfl := hsole.unique b e hb ((Node.defines_iff_of_ne hname).mp he).1
    exact ⟨rfl, Option.some.inj (hb.symm.trans hsole.at?)⟩
  split
  · next haccepts =>
    obtain ⟨o, ho⟩ := Node.exists_findLast_iff.mpr hs.tested
    cases o with
    | none =>
      have hd := not_defines_of_findLast hs.located ho (a, d) (Node.mem_preorder_iff.mpr hsole.at?)
      exact absurd (hdefines.mpr haccepts) hd
    | some b =>
      obtain ⟨e, hlast⟩ := isLast_of_findLast hs.located ho
      obtain ⟨rfl, rfl⟩ := honly b e hlast.at? hlast.1
      exact ⟨hs, hlast, hclosure⟩
  · next haccepts =>
    refine ⟨t, hs, fun p hp hd => haccepts ?_⟩
    obtain ⟨-, he⟩ := honly p.1 p.2 (Node.mem_preorder_iff.mp hp) hd
    exact hdefines.mp (he ▸ hd)

/-- The answer is that definition, or nothing if its decorators are not accepted, without a report
in either case. -/
theorem answer_of_sole (hname : q.method.name ≠ anonymousName) (hs : q.Searches setup w l t)
    (hsole : t.root.IsSole q.method.name l.line a d) (hclosure : ¬ t.root.InClosure a d)
    (hnames : d.decoratedBy = .ok names) :
    (q.callAfresh setup w).1 = .ok (if q.variant.accepts names then
        [⟨q.variant.subjectKind, ⟨q.scope, setup.pathOf l.file⟩, d, ⟨t.id, a⟩, setup.sink⟩]
      else []) ∧
      (q.callAfresh setup w).2.board = w.board := by
  have hends := endsIn_of_sole hname hs hsole hclosure hnames
  have hcall := (q.endsIn_ending setup w).2
  rw [← hends.eq_ending] at hcall
  constructor
  · rw [hcall]
    dsimp only
    split <;> rfl
  · rw [hcall, Ending.board_world]
    split <;> rfl

end sole

open Live in
/-- **Where a file holds one definition.**  Let a class store a function under its name, as it is or
in a class method or a static method, and let the function's file hold one definition of that name
that starts on the function's first line, outside of closures.  A query by name then finds this
definition if and only if the variant that the stored object tells accepts its decorators; otherwise
the answer is empty, and in neither case is anything reported. -/
theorem callAfresh_of_sole {σ : Type} (setup : Setup σ) (w : World σ) {n : Nat} (h : Heap n)
    (scope r f : Fin n) (v : Variant) (name qualname : String) (module : Option String)
    (l : Location) (t : ParsedTree) (a : Address) (d : Node) (hc : h.isClass scope)
    (hlookup : h.lookup scope name = some (.stored r)) (hstores : h.Stores f r v)
    (hf : h f = .function name qualname module l none) (hname : name ≠ anonymousName)
    (hs : Query.Searches ⟨h.scope scope, Heap.plainMethod name qualname module l, v⟩ setup w l t)
    (hsole : t.root.IsSole name l.line a d) (hclosure : ¬ t.root.InClosure a d) :
    ∃ q names, Query.ofAttribute h scope name .standard = .ok q ∧ d.decoratedBy = .ok names ∧
      (q.callAfresh setup w).1 = .ok (if v.accepts names then
        [⟨v.subjectKind, ⟨h.scope scope, setup.pathOf l.file⟩, d, ⟨t.id, a⟩, setup.sink⟩]
      else []) ∧
      (q.callAfresh setup w).2.board = w.board := by
  obtain ⟨b, hb⟩ := hs.tested (a, d) (Node.mem_preorder_iff.mpr hsole.at?)
  rw [Query.recognises_eq hs.located] at hb
  obtain ⟨names, hnames⟩ := hsole.defines.exists_decoratedBy ⟨b, hb⟩
  exact ⟨_, names, Query.ofAttribute_of_stores hc hlookup hstores hf, hnames,
    answer_of_sole hname hs hsole hclosure hnames⟩

section stored

open Live Query

/-- A class `C` that stores a function of `a.py` in a static method. -/
def classStoring (name : String) : Heap 3
  | 0 => .classObject ⟨"C", "C", some "a", [], [(name, 1)], none, false⟩
  | 1 => .staticMethod 2
  | 2 => .function name name (some "a") ⟨"a.py", 2⟩ none

def storedQuery (name : String) : Query :=
  ⟨(classStoring name).scope 0, Heap.plainMethod name name (some "a") ⟨"a.py", 2⟩, .staticMethod⟩

/-- The world in which `a.py` holds a text and nothing has happened. -/
def worldOf (text : String) : World (Holdings Nat) :=
  .opening (Holdings.oneFile (text.toList.map fun c => UInt8.ofNat c.toNat)) .empty

theorem parseFile_worldOf {text : String} {root : Node}
    (htext : (worldOf text).parser.files.textOf Holdings.onePath = .ok text.toList)
    (hroot : Source.parse Holdings.onePath text.toList = .ok root) :
    (oneFileSetup.parseFile Holdings.onePath (worldOf text)).1 = .ok ⟨0, root⟩ := by
  have htree : Holdings.byLength.tree Holdings.onePath text.toList = .ok root := hroot
  exact World.parseFile_opening rfl htext htree

/-- The body of `C` says that `f` is static. -/
def decoratedWorld : World (Holdings Nat) :=
  worldOf "class C:\n @staticmethod\n def f():0"

/-- The body of `C` defines `__new__`, which is static without saying so. -/
def undecoratedWorld : World (Holdings Nat) :=
  worldOf "class C:\n def __new__(c):0"

theorem searches_storedQuery {name : String} {w : World (Holdings Nat)} {t : ParsedTree}
    (hparse : (oneFileSetup.parseFile Holdings.onePath w).1 = .ok t)
    (htests : (t.root.preorder.all fun p => ((storedQuery name).recognises p.2).isOk) = true) :
    (storedQuery name).Searches oneFileSetup w ⟨"a.py", 2⟩ t := by
  refine ⟨rfl, rfl, hparse, fun p hp => ?_⟩
  have htest := List.all_eq_true.mp htests p hp
  cases hb : (storedQuery name).recognises p.2 with
  | ok b => exact ⟨b, rfl⟩
  | error e => simp [hb, Except.isOk, Except.toBool] at htest

/-- The definition of `f` is found, for its decorator is that of the stored object. -/
theorem callAfresh_of_sole_decorated :
    ∃ q s, Query.ofAttribute (classStoring "f") 0 "f" .standard = .ok q ∧
      (q.callAfresh oneFileSetup decoratedWorld).1 = .ok [s] ∧
      (q.callAfresh oneFileSetup decoratedWorld).2.board = .empty := by
  obtain ⟨root, a, d, hroot, htests, hdefs, hname, hline, hclosure, hdecorated⟩ : ∃ root a d,
      Source.parse Holdings.onePath "class C:\n @staticmethod\n def f():0".toList = .ok root ∧
      (root.preorder.all fun p => ((storedQuery "f").recognises p.2).isOk) = true ∧
      root.preorder.filter (·.2.kind.isFunctionDef) = [(a, d)] ∧ d.word? .name = some "f" ∧
      d.startLine = .ok 2 ∧ isClosure (root.trail a) = false ∧
      d.decoratedBy = .ok ["staticmethod"] :=
    ⟨_, _, _, by cbv, by cbv, by cbv, by cbv, by cbv, by cbv, by cbv⟩
  have hs := searches_storedQuery (parseFile_worldOf (by cbv) hroot) htests
  have hsole := Node.isSole_of_preorder hdefs hname hline
  have hopen : ¬ root.InClosure a d := by
    rw [← Node.isClosure_trail_iff hsole.at?, hclosure]
    exact Bool.false_ne_true
  obtain ⟨q, names, hq, hnames, hanswer, hboard⟩ := callAfresh_of_sole oneFileSetup decoratedWorld
    (classStoring "f") 0 1 2 .staticMethod "f" "f" (some "a") ⟨"a.py", 2⟩ ⟨0, root⟩ a d rfl
    (by decide +kernel) (.inStaticMethod rfl) rfl (by decide) hs hsole hopen
  cases hdecorated.symm.trans hnames
  exact ⟨q, _, hq, hanswer, hboard⟩

/-- The definition of `__new__` is missed, for it has no decorator. -/
theorem callAfresh_undecorated :
    ∃ q t a d, Query.ofAttribute (classStoring "__new__") 0 "__new__" .standard = .ok q ∧
      (oneFileSetup.parseFile Holdings.onePath undecoratedWorld).1 = .ok t ∧
      t.root.IsSole "__new__" 2 a d ∧ ¬ t.root.InClosure a d ∧
      (q.callAfresh oneFileSetup undecoratedWorld).1 = .ok [] ∧
      (q.callAfresh oneFileSetup undecoratedWorld).2.board = .empty := by
  obtain ⟨root, a, d, hroot, htests, hdefs, hname, hline, hclosure, hdecorated⟩ : ∃ root a d,
      Source.parse Holdings.onePath "class C:\n def __new__(c):0".toList = .ok root ∧
      (root.preorder.all fun p => ((storedQuery "__new__").recognises p.2).isOk) = true ∧
      root.preorder.filter (·.2.kind.isFunctionDef) = [(a, d)] ∧
      d.word? .name = some "__new__" ∧ d.startLine = .ok 2 ∧ isClosure (root.trail a) = false ∧
      d.decoratedBy = .ok [] :=
    ⟨_, _, _, by cbv, by cbv, by cbv, by cbv, by cbv, by cbv, by cbv⟩
  have hparse := parseFile_worldOf (by cbv) hroot
  have hs := searches_storedQuery hparse htests
  have hsole := Node.isSole_of_preorder hdefs hname hline
  have hopen : ¬ root.InClosure a d := by
    rw [← Node.isClosure_trail_iff hsole.at?, hclosure]
    exact Bool.false_ne_true
  have hlookup : (classStoring "__new__").lookup 0 "__new__" = some (.stored 1) := by
    decide +kernel
  have hq : Query.ofAttribute (classStoring "__new__") 0 "__new__" .standard =
      .ok (storedQuery "__new__") :=
    Query.ofAttribute_of_stores rfl hlookup (.inStaticMethod rfl) rfl
  exact ⟨storedQuery "__new__", ⟨0, root⟩, a, d, hq, hparse, hsole, hopen,
    answer_of_sole (by decide) hs hsole hopen hdecorated⟩

end stored

end DefSite
