import Mathlib
import DefSite.Proofs.Quoting
import DefSite.Proofs.Recognition
import DefSite.Render.Source

/-!
# Layouts over pieces

Let `Q` say which pieces are admitted.  A layout consists of admitted pieces if what it is put
together from does.  What a rule reads from a node is either a child of it or one of its words, so
the parts of a node that are rendered in a list, or only if they are given, consist of admitted
pieces if all children do.
-/

namespace DefSite

/-! ## Layouts -/

namespace Render

open Text Layout

/-- A layout all of whose pieces satisfy `Q`. -/
def Consists (Q : Piece → Prop) (l : Layout) : Prop :=
  ∀ p ∈ l, Q p

section layouts

variable {Q : Piece → Prop} {l l₁ l₂ : Layout}

@[simp] theorem consists_nil : Consists Q [] := by
  simp [Consists]

@[simp] theorem consists_cons {p : Piece} : Consists Q (p :: l) ↔ Q p ∧ Consists Q l :=
  List.forall_mem_cons

@[simp] theorem consists_append : Consists Q (l₁ ++ l₂) ↔ Consists Q l₁ ∧ Consists Q l₂ :=
  List.forall_mem_append

@[simp] theorem consists_word {s : String} : Consists Q (word s) ↔ Q (.text s) := by
  simp [word]

theorem consists_flatten {ls : List Layout} (h : ∀ l ∈ ls, Consists Q l) :
    Consists Q ls.flatten := by
  intro p hp
  obtain ⟨l, hl, hp⟩ := List.mem_flatten.mp hp
  exact h l hl p hp

theorem consists_joined {sep : String} (hsep : Q (.text sep)) {ls : List Layout}
    (h : ∀ l ∈ ls, Consists Q l) : Consists Q (joined sep ls) := by
  induction ls with
  | nil => exact consists_nil
  | cons l ls ih =>
    obtain ⟨hl, hls⟩ := List.forall_mem_cons.mp h
    cases ls with
    | nil => exact hl
    | cons l' ls =>
      rw [joined, consists_append, consists_append, consists_word]
      · exact ⟨⟨hl, hsep⟩, ih hls⟩
      · simp

@[simp] theorem consists_between {left right : String} :
    Consists Q (between left right l) ↔
      (Q (.text left) ∧ Consists Q l) ∧ Q (.text right) := by
  rw [between, consists_append, consists_append, consists_word, consists_word]

/-- A copy has no pieces of its own. -/
theorem consists_copied (h : Consists Q l) : Consists Q (copied l) := by
  have hgo : ∀ l, Consists Q l → Consists Q (copied.go l) := by
    intro l hl
    induction l with
    | nil => exact hl
    | cons p l ih =>
      obtain ⟨hp, hrest⟩ := consists_cons.mp hl
      cases p with
      | restart => exact fun q hq => hrest q (List.mem_filter.mp hq).1
      | _ => exact consists_cons.mpr ⟨hp, ih hrest⟩
  induction l with
  | nil => exact h
  | cons p l ih =>
    obtain ⟨hp, hl⟩ := consists_cons.mp h
    cases p with
    | freshLine => exact ih hl
    | ignores inForce => exact consists_cons.mpr ⟨hp, ih hl⟩
    | _ => exact hgo _ h

section punctuation

variable (hQ : ∀ s, Within Printable s → Q (.text s))

include hQ in
/-- The texts of the rules are printable. -/
theorem punctuation {s : String} (h : s.toList.all isGraphic = true) : Q (.text s) :=
  hQ s (within_of_isGraphic h)

include hQ in
theorem consists_parensIf (c : Bool) (h : Consists Q l) : Consists Q (parensIf c l) := by
  unfold parensIf
  split
  · exact consists_between.mpr ⟨⟨punctuation hQ (by decide), h⟩, punctuation hQ (by decide)⟩
  · exact h

include hQ in
theorem consists_enclosed (place : Place) (own : Level) (h : Consists Q l) :
    Consists Q (enclosed place own l) :=
  consists_parensIf hQ _ h

end punctuation

end layouts

end Render

/-! ## What is read from a node -/

namespace Node

variable {n : Node} {k : Kind} {f : Field}

theorem mem_children_of_child? {c : Node} (hf : f ∈ n.kind.fields) (h : n.child? f = some c) :
    c ∈ n.children := by
  refine List.mem_flatMap.mpr ⟨f, hf, ?_⟩
  unfold child? at h
  split at h
  · next c' hc =>
    cases h
    simp [hc, Value.nodes]
  · cases h

theorem mem_children_of_slots? {c : Node} {ns : List (Option Node)} (hf : f ∈ n.kind.fields)
    (h : n.slots? f = some ns) (hc : some c ∈ ns) : c ∈ n.children := by
  refine List.mem_flatMap.mpr ⟨f, hf, ?_⟩
  unfold slots? at h
  split at h
  · next ns' hns =>
    cases h
    simpa [hns, Value.nodes] using hc
  · cases h

theorem readChild_mem (hk : n.kind = k) (hf : f ∈ k.fields) :
    SatisfiesM (fun c : n.Part => c.1 ∈ n.children) (n.readChild f) := by
  rw [SatisfiesM_Except_eq]
  exact fun c hc => mem_children_of_child? (hk ▸ hf) (child?_of_readChild hc)

theorem optionalChild_mem (hk : n.kind = k) (hf : f ∈ k.fields) :
    SatisfiesM (fun o : Option n.Part => ∀ c ∈ o, c.1 ∈ n.children) (n.optionalChild f) := by
  rw [SatisfiesM_Except_eq]
  rintro o ho c rfl
  exact mem_children_of_child? (hk ▸ hf) (child?_of_optionalChild ho)

theorem readSlots_mem (hk : n.kind = k) (hf : f ∈ k.fields) :
    SatisfiesM (fun cs : List (Option n.Part) => ∀ o ∈ cs, ∀ c ∈ o, c.1 ∈ n.children)
      (n.readSlots f) := by
  rw [SatisfiesM_Except_eq]
  rintro cs hcs o ho c rfl
  exact mem_children_of_slots? (hk ▸ hf) (slots?_of_readSlots hcs) (List.mem_map_of_mem ho)

theorem readList_mem (hk : n.kind = k) (hf : f ∈ k.fields) :
    SatisfiesM (fun cs : List n.Part => ∀ c ∈ cs, c.1 ∈ n.children) (n.readList f) := by
  refine (readSlots_mem hk hf).map fun {cs} hcs c hc => ?_
  obtain ⟨o, ho, rfl⟩ := List.mem_filterMap.mp hc
  exact hcs _ ho c rfl

end Node

section steps

variable {ε α β : Type} {Q : β → Prop} {f : α → Except ε β}

/-- Steps that may fail, one for each element: what each gives where it succeeds. -/
theorem satisfiesM_mapM {l : List α}
    (h : ∀ a ∈ l, SatisfiesM Q (f a)) : SatisfiesM (∀ b ∈ ·, Q b) (l.mapM f) := by
  rw [SatisfiesM_Except_eq]
  intro bs hbs b hb
  have hmem : Except.ok b ∈ l.map f := mapM_eq_ok.mp hbs ▸ List.mem_map_of_mem hb
  obtain ⟨a, ha, hab⟩ := List.mem_map.mp hmem
  exact SatisfiesM_Except_eq.mp (h a ha) b hab

theorem satisfiesM_optionMapM {o : Option α} (h : ∀ a ∈ o, SatisfiesM Q (f a)) :
    SatisfiesM (∀ b ∈ ·, Q b) (o.mapM f) := by
  cases o with
  | none => exact .pure (by simp)
  | some a => exact (h a rfl).map fun hb => by simpa using hb

theorem satisfiesM_error {Q : α → Prop} (e : ε) : SatisfiesM Q (Except.error e : Except ε α) :=
  SatisfiesM_Except_eq.mpr nofun

end steps

/-- The fields that hold names. -/
def Field.identifiers : List Field :=
  [.name, .id, .attr, .arg, .asname, .names, .module, .rest, .kwdAttrs]

/-- The words in a field, one or several. -/
def Node.spelled (n : Node) (f : Field) : List String :=
  (n.word? f).toList ++ (n.words? f).getD []

/-- Whether nodes of a class, or what they are made of, start lines of their own. -/
def Kind.opensLine : Kind → Bool
  | .module | .functionDef | .asyncFunctionDef | .classDef | .ret | .delete | .assign | .augAssign
  | .annAssign | .exprStmt | .forLoop | .asyncFor | .ifBranch | .whileLoop | .withBlock
  | .asyncWith | .matchBlock | .matchCase | .tryBlock | .tryStar | .exceptHandler | .raise
  | .assertion | .importNames | .importFrom | .globalNames | .nonlocalNames | .pass | .breakLoop
  | .continueLoop => true
  | _ => false

/-- Whether a node drops what was written before it: it is of a class that is rendered as the nodes
below it, one by one, and there are such nodes. -/
def Node.restarts (n : Node) : Bool :=
  (n.kind == .interactive || n.kind == .expression || n.kind == .typeIgnore) && !n.children.isEmpty

namespace Render

open Text Layout Node

/-- Nodes that open lines write such pieces besides. -/
structure OpensWith (Q : Piece → Prop) : Prop where
  text : ∀ s, Q (.text s)
  freshLine : Q .freshLine
  typeComment : ∀ own ignored, Q (.typeComment own ignored)
  ignores : ∀ inForce, Q (.ignores inForce)

/-! ## Texts of operators -/

theorem binarySign?_graphic (k : Kind) (a : String × Level) (h : binarySign? k = some a) :
    a.1.toList.all isGraphic = true := by
  cases k <;> cases h <;> decide

theorem unarySign?_graphic (k : Kind) (a : String × Level) (h : unarySign? k = some a) :
    a.1.toList.all isGraphic = true := by
  cases k <;> cases h <;> decide

theorem connective?_graphic (k : Kind) (a : String × Level) (h : connective? k = some a) :
    a.1.toList.all isGraphic = true := by
  cases k <;> cases h <;> decide

theorem comparison?_graphic (k : Kind) (s : String) (h : comparison? k = some s) :
    s.toList.all isGraphic = true := by
  cases k <;> cases h <;> decide

theorem operator_printable {α : Type} {table : Kind → Option α} {text : α → String}
    (h : ∀ k a, table k = some a → (text a).toList.all isGraphic = true) (op : Node) :
    SatisfiesM (fun a => Within Printable (text a)) (operator table op) := by
  rw [SatisfiesM_Except_eq]
  intro a ha
  unfold operator at ha
  split at ha
  · next b hb =>
    cases ha
    exact within_of_isGraphic (h op.kind a hb)
  · cases ha

theorem readLiteral_literal {n : Node} {f : Field} :
    SatisfiesM (fun l => n.literal? f = some l) (n.readLiteral f) := by
  rw [SatisfiesM_Except_eq]
  intro l hl
  unfold readLiteral at hl
  split at hl
  · next l' hl' =>
    cases hl
    exact hl'
  · cases hl

theorem readNumber_number {n : Node} {f : Field} :
    SatisfiesM (fun i => n.number? f = some i) (n.readNumber f) := by
  rw [SatisfiesM_Except_eq]
  intro i hi
  unfold readNumber at hi
  split at hi
  · next i' hi' =>
    cases hi
    exact hi'
  · cases hi

section rules

variable {Q : Piece → Prop} {n : Node} {k : Kind} {sub : Parts n} {m m' : Manner}
  (hQ : ∀ s, Within Printable s → Q (.text s))
  (hwords : ∀ f ∈ Field.identifiers, ∀ s ∈ n.spelled f, Q (.text s))
  (hsub : ∀ m' : Manner, m'.avoiding = m.avoiding → ∀ c : n.Part, c.1 ∈ n.children →
    ∀ place ≠ .part, SatisfiesM (Consists Q) (sub c m' place))
  {c : n.Part} {cs : List n.Part}

/-! ## Ways to render parts -/

include hsub in
theorem plain_consists (hm : m'.avoiding = m.avoiding) (hc : c.1 ∈ n.children) :
    SatisfiesM (Consists Q) (sub.plain m' c) :=
  hsub m' hm c hc (.level .test) (by simp)

include hsub in
theorem atLevel_consists (hm : m'.avoiding = m.avoiding) (l : Level) (hc : c.1 ∈ n.children) :
    SatisfiesM (Consists Q) (sub.atLevel m' l c) :=
  hsub m' hm c hc (.level l) (by simp)

include hsub in
theorem mapM_plain_consists (hm : m'.avoiding = m.avoiding) (hcs : ∀ c ∈ cs, c.1 ∈ n.children) :
    SatisfiesM (∀ l ∈ ·, Consists Q l) (cs.mapM (sub.plain m')) :=
  satisfiesM_mapM fun c hc => plain_consists hsub hm (hcs c hc)

include hQ hsub in
theorem commaList_consists (hm : m'.avoiding = m.avoiding) (hcs : ∀ c ∈ cs, c.1 ∈ n.children) :
    SatisfiesM (Consists Q) (sub.commaList m' cs) :=
  (mapM_plain_consists hsub hm hcs).map fun hls =>
    consists_joined (punctuation hQ (by decide)) hls

include hsub in
theorem sequence_consists (hm : m'.avoiding = m.avoiding) (hcs : ∀ c ∈ cs, c.1 ∈ n.children) :
    SatisfiesM (Consists Q) (sub.sequence m' cs) :=
  (mapM_plain_consists hsub hm hcs).map consists_flatten

include hsub in
theorem optional_consists (hm : m'.avoiding = m.avoiding) {before : Layout}
    (hbefore : Consists Q before) {o : Option n.Part} (ho : ∀ c ∈ o, c.1 ∈ n.children) :
    SatisfiesM (Consists Q) (sub.optional m' before o) := by
  cases o with
  | none => exact .pure consists_nil
  | some c =>
    refine (plain_consists hsub hm (ho c rfl)).map fun hl => ?_
    exact consists_append.mpr ⟨hbefore, hl⟩

include hwords in
theorem readWord_text {f : Field} (hf : f ∈ Field.identifiers) :
    SatisfiesM (fun s => Q (.text s)) (n.readWord f) := by
  rw [SatisfiesM_Except_eq]
  intro s hs
  exact hwords f hf s (by simp [spelled, readWord_eq_ok.mp hs])

include hwords in
theorem optionalWord_text {f : Field} (hf : f ∈ Field.identifiers) :
    SatisfiesM (∀ s ∈ ·, Q (.text s)) (n.optionalWord f) := by
  rw [SatisfiesM_Except_eq]
  intro o ho
  unfold optionalWord at ho
  split at ho
  · next s hs =>
    cases ho
    simpa using hwords f hf s (by simp [spelled, hs])
  · split at ho <;> cases ho
    simp

include hwords in
theorem readWords_text {f : Field} (hf : f ∈ Field.identifiers) :
    SatisfiesM (∀ s ∈ ·, Q (.text s)) (n.readWords f) := by
  rw [SatisfiesM_Except_eq]
  intro ss hss
  unfold readWords at hss
  split at hss
  · next ss' hss' =>
    cases hss
    exact fun s hs => hwords f hf s (by simp [spelled, hss', hs])
  · cases hss

end rules

end Render

end DefSite
