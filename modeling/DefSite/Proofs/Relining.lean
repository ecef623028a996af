import Mathlib
import DefSite.Proofs.Recognition
import DefSite.Proofs.Search

/-!
# Trees on other lines

`Node.mapLines g` is a tree in which `g` was applied to every line.  It has the nodes of the tree at
their addresses, and its nodes hold in their fields what the tree's nodes hold.  If `g` keeps the
order of lines, a definition that started on a line starts on that line's image, so a variant
recognises the same definitions there (`recognises_mapLines`), and a search ends in the same way
(`findLast_mapLines`).
-/

namespace DefSite

/-! ## Applying a function to the lines -/

mutual

/-- A node with `g` applied to its lines and to those of all nodes in it. -/
def Node.mapLines (g : Int → Int) : Node → Node
  | .mk k l e fs => .mk k (l.map g) (e.map g) (mapFieldLines g fs)

def Value.mapLines (g : Int → Int) : Value → Value
  | .node n => .node (n.mapLines g)
  | .slots ns => .slots (mapSlotLines g ns)
  | .word s => .word s
  | .words ss => .words ss
  | .literal l => .literal l
  | .number i => .number i

def mapFieldLines (g : Int → Int) : List (Field × Value) → List (Field × Value)
  | [] => []
  | (f, v) :: rest => (f, v.mapLines g) :: mapFieldLines g rest

def mapSlotLines (g : Int → Int) : List (Option Node) → List (Option Node)
  | [] => []
  | none :: rest => none :: mapSlotLines g rest
  | some n :: rest => some (n.mapLines g) :: mapSlotLines g rest

end

namespace Node

variable {g : Int → Int} {n : Node}

theorem lookup_mapFieldLines (f : Field) (fs : List (Field × Value)) :
    (mapFieldLines g fs).lookup f = (fs.lookup f).map (·.mapLines g) := by
  induction fs with
  | nil => rfl
  | cons p fs ih =>
    obtain ⟨k, v⟩ := p
    rw [mapFieldLines, List.lookup_cons, List.lookup_cons, ih]
    cases f == k <;> rfl

theorem mapSlotLines_eq_map (ns : List (Option Node)) :
    mapSlotLines g ns = ns.map (·.map (·.mapLines g)) := by
  induction ns with
  | nil => rfl
  | cons s ns ih => cases s <;> rw [mapSlotLines, ih] <;> rfl

/-! ### What a node holds -/

@[simp] theorem kind_mapLines (g : Int → Int) (n : Node) : (n.mapLines g).kind = n.kind := by
  obtain ⟨k, l, e, fs⟩ := n
  rw [mapLines]
  rfl

@[simp] theorem line?_mapLines (g : Int → Int) (n : Node) :
    (n.mapLines g).line? = n.line?.map g := by
  obtain ⟨k, l, e, fs⟩ := n
  rw [mapLines]
  rfl

@[simp] theorem lastLine?_mapLines (g : Int → Int) (n : Node) :
    (n.mapLines g).lastLine? = n.lastLine?.map g := by
  obtain ⟨k, l, e, fs⟩ := n
  rw [mapLines]
  rfl

@[simp] theorem get?_mapLines (g : Int → Int) (n : Node) (f : Field) :
    (n.mapLines g).get? f = (n.get? f).map (·.mapLines g) := by
  obtain ⟨k, l, e, fs⟩ := n
  rw [mapLines]
  exact lookup_mapFieldLines f fs

@[simp] theorem word?_mapLines (g : Int → Int) (n : Node) (f : Field) :
    (n.mapLines g).word? f = n.word? f := by
  unfold word?
  rw [get?_mapLines]
  rcases n.get? f with _ | _ | _ | _ | _ | _ | _ <;> simp [Value.mapLines]

@[simp] theorem words?_mapLines (g : Int → Int) (n : Node) (f : Field) :
    (n.mapLines g).words? f = n.words? f := by
  unfold words?
  rw [get?_mapLines]
  rcases n.get? f with _ | _ | (_ | ⟨_ | _, _⟩) | _ | _ | _ | _ <;>
    simp [Value.mapLines, mapSlotLines]

@[simp] theorem number?_mapLines (g : Int → Int) (n : Node) (f : Field) :
    (n.mapLines g).number? f = n.number? f := by
  unfold number?
  rw [get?_mapLines]
  rcases n.get? f with _ | _ | _ | _ | _ | _ | _ <;> simp [Value.mapLines]

@[simp] theorem literal?_mapLines (g : Int → Int) (n : Node) (f : Field) :
    (n.mapLines g).literal? f = n.literal? f := by
  unfold literal?
  rw [get?_mapLines]
  rcases n.get? f with _ | _ | _ | _ | _ | _ | _ <;> simp [Value.mapLines]

@[simp] theorem child?_mapLines (g : Int → Int) (n : Node) (f : Field) :
    (n.mapLines g).child? f = (n.child? f).map (·.mapLines g) := by
  unfold child?
  rw [get?_mapLines]
  rcases n.get? f with _ | _ | _ | _ | _ | _ | _ <;> simp [Value.mapLines]

@[simp] theorem slots?_mapLines (g : Int → Int) (n : Node) (f : Field) :
    (n.mapLines g).slots? f = (n.slots? f).map (·.map (·.map (·.mapLines g))) := by
  unfold slots?
  rw [get?_mapLines]
  rcases n.get? f with _ | _ | _ | _ | _ | _ | _ <;> simp [Value.mapLines, mapSlotLines_eq_map]

theorem filterMap_id_map_map {α β : Type} (h : α → β) (l : List (Option α)) :
    (l.map (·.map h)).filterMap id = (l.filterMap id).map h := by
  rw [List.filterMap_map, List.map_filterMap]
  rfl

@[simp] theorem listed?_mapLines (g : Int → Int) (n : Node) (f : Field) :
    (n.mapLines g).listed? f = (n.listed? f).map (·.map (·.mapLines g)) := by
  unfold listed?
  rw [slots?_mapLines]
  cases n.slots? f with
  | none => rfl
  | some ns => exact congrArg some (filterMap_id_map_map _ ns)

@[simp] theorem nodes_mapLines (g : Int → Int) (v : Value) :
    (v.mapLines g).nodes = v.nodes.map (·.mapLines g) := by
  cases v with
  | node n => simp [Value.mapLines, Value.nodes]
  | slots ns =>
    rw [Value.mapLines, mapSlotLines_eq_map]
    exact filterMap_id_map_map _ ns
  | _ => simp [Value.mapLines, Value.nodes]

/-! ### Walks -/

theorem children_mapLines (g : Int → Int) (n : Node) :
    (n.mapLines g).children = n.children.map (·.mapLines g) := by
  unfold children
  rw [kind_mapLines, List.map_flatMap]
  refine congrArg n.kind.fields.flatMap (funext fun f => ?_)
  rw [get?_mapLines]
  cases n.get? f <;> simp

theorem preorder_mapLines (g : Int → Int) (n : Node) :
    (n.mapLines g).preorder = n.preorder.map fun p => (p.1, p.2.mapLines g) := by
  rw [preorder_eq, preorder_eq, children_mapLines, List.zipIdx_map, List.flatMap_map,
    List.map_cons, List.map_flatMap]
  congr 1
  -- the children are smaller, so the statement holds of them
  refine List.flatMap_congr fun p hp => ?_
  have := sizeOf_lt_of_mem_children (List.fst_mem_of_mem_zipIdx hp)
  show ((p.1.mapLines g).preorder.map fun q => (p.2 :: q.1, q.2)) = _
  rw [preorder_mapLines g p.1, List.map_map, List.map_map]
  rfl
termination_by sizeOf n

theorem at?_mapLines (g : Int → Int) (n : Node) (a : Address) :
    (n.mapLines g).at? a = (n.at? a).map (·.mapLines g) := by
  induction a generalizing n with
  | nil => rfl
  | cons i a ih =>
    rw [at?, at?, children_mapLines, List.getElem?_map]
    cases n.children[i]? with
    | none => rfl
    | some c => exact ih c

theorem trail_mapLines (g : Int → Int) (n : Node) (a : Address) :
    (n.mapLines g).trail a = (n.trail a).map (·.mapLines g) := by
  induction a generalizing n with
  | nil => rfl
  | cons i a ih =>
    rw [trail, trail, children_mapLines, List.getElem?_map]
    cases n.children[i]? with
    | none => rfl
    | some c => simp [ih c]

/-- Whether a trail passes through a closure is a matter of the classes of its nodes. -/
theorem isClosure_map_mapLines (g : Int → Int) (trail : List Node) :
    isClosure (trail.map (·.mapLines g)) = isClosure trail := by
  unfold isClosure
  rw [← List.map_dropLast, List.any_map, List.any_map]
  congr 2 <;> funext m <;> simp

/-- Tests that agree on each node and its image lead searches to the same end. -/
theorem findLast_mapLines {ε : Type} {test test' : Node → Except ε Bool}
    (h : ∀ m, test' (m.mapLines g) = test m) (n : Node) :
    (n.mapLines g).findLast test' = n.findLast test := by
  have hkeep : ∀ best (p : Address × Node),
      keepLast test' [] best (p.1, p.2.mapLines g) = keepLast test [] best p := by
    intro best p
    simp only [keepLast, h]
  rw [findLast_eq_foldlM, findLast_eq_foldlM, preorder_mapLines, List.foldlM_map]
  simp only [hkeep]

/-! ## Reading on other lines

What is read from a node on other lines is the image of what is read from the node.  The proofs that
come with the parts of a node differ, so the two are related by what they are parts for. -/

/-- A part of the node on other lines is the image of a part of the node. -/
def IsImage {g : Int → Int} {n : Node} (c : n.Part) (c' : (n.mapLines g).Part) : Prop :=
  c'.1 = c.1.mapLines g

section reading

variable {α β γ δ : Type} {f : Field}

theorem IsImage.kind_eq {c : n.Part} {c' : (n.mapLines g).Part} (hc : IsImage c c') :
    c'.1.kind = c.1.kind := by
  rw [hc, kind_mapLines]

theorem readLine_mapLines (g : Int → Int) (n : Node) :
    (n.mapLines g).readLine = n.readLine.map g := by
  unfold readLine
  rw [line?_mapLines, kind_mapLines]
  cases n.line? <;> rfl

theorem readWord_mapLines (g : Int → Int) (n : Node) (f : Field) :
    (n.mapLines g).readWord f = n.readWord f := by
  unfold readWord
  rw [word?_mapLines, kind_mapLines]

theorem optionalWord_mapLines (g : Int → Int) (n : Node) (f : Field) :
    (n.mapLines g).optionalWord f = n.optionalWord f := by
  unfold optionalWord
  rw [word?_mapLines, kind_mapLines]

theorem readWords_mapLines (g : Int → Int) (n : Node) (f : Field) :
    (n.mapLines g).readWords f = n.readWords f := by
  unfold readWords
  rw [words?_mapLines, kind_mapLines]

theorem readNumber_mapLines (g : Int → Int) (n : Node) (f : Field) :
    (n.mapLines g).readNumber f = n.readNumber f := by
  unfold readNumber
  rw [number?_mapLines, kind_mapLines]

theorem optionalNumber_mapLines (g : Int → Int) (n : Node) (f : Field) :
    (n.mapLines g).optionalNumber f = n.optionalNumber f := by
  unfold optionalNumber
  rw [number?_mapLines, kind_mapLines]

theorem readLiteral_mapLines (g : Int → Int) (n : Node) (f : Field) :
    (n.mapLines g).readLiteral f = n.readLiteral f := by
  unfold readLiteral
  rw [literal?_mapLines, kind_mapLines]

theorem forall₂_parts (g : Int → Int) (n : Node) :
    List.Forall₂ IsImage n.parts (n.mapLines g).parts := by
  have hparts : ∀ m : Node, m.parts.map (·.1) = m.children := by
    intro m
    simp [parts, List.map_map, Function.comp_def]
  have himage : (n.mapLines g).parts.map (·.1) = n.parts.map (·.1.mapLines g) := by
    rw [hparts, children_mapLines, ← hparts, List.map_map]
    rfl
  rw [← List.forall₂_eq_eq_eq, List.forall₂_map_left_iff, List.forall₂_map_right_iff] at himage
  exact himage.flip.imp fun _ _ hc => hc

theorem readChild_congr {k : n.Part → Except Fault α} {k' : (n.mapLines g).Part → Except Fault α}
    (h : ∀ c c', IsImage c c' → k' c' = k c) :
    ((n.mapLines g).readChild f >>= k') = (n.readChild f >>= k) := by
  have hmap := child?_mapLines g n f
  cases hc : n.child? f with
  | none =>
    rw [hc] at hmap
    rw [readChild_eq_error hc, readChild_eq_error hmap, kind_mapLines]
    rfl
  | some c =>
    rw [hc] at hmap
    obtain ⟨p, hp, rfl⟩ := readChild_eq_ok hc
    obtain ⟨p', hp', hval⟩ := readChild_eq_ok hmap
    rw [hp, hp']
    exact h p p' hval

theorem optionalChild_congr {k : Option n.Part → Except Fault α}
    {k' : Option (n.mapLines g).Part → Except Fault α}
    (h : ∀ c c', Option.Rel IsImage c c' → k' c' = k c) :
    ((n.mapLines g).optionalChild f >>= k') = (n.optionalChild f >>= k) := by
  have hmap := child?_mapLines g n f
  cases hc : n.child? f with
  | none =>
    rw [hc] at hmap
    rw [optionalChild_of_none hc, optionalChild_of_none hmap, kind_mapLines]
    split
    · exact h _ _ .none
    · rfl
  | some c =>
    rw [hc] at hmap
    obtain ⟨p, hp, rfl⟩ := optionalChild_eq_ok hc
    obtain ⟨p', hp', hval⟩ := optionalChild_eq_ok hmap
    rw [hp, hp']
    exact h _ _ (.some hval)

theorem readSlots_congr {k : List (Option n.Part) → Except Fault α}
    {k' : List (Option (n.mapLines g).Part) → Except Fault α}
    (h : ∀ cs cs', List.Forall₂ (Option.Rel IsImage) cs cs' → k' cs' = k cs) :
    ((n.mapLines g).readSlots f >>= k') = (n.readSlots f >>= k) := by
  have hmap := slots?_mapLines g n f
  cases hs : n.slots? f with
  | none =>
    rw [hs] at hmap
    rw [readSlots_eq_error hs, readSlots_eq_error hmap, kind_mapLines]
    rfl
  | some ns =>
    rw [hs] at hmap
    obtain ⟨ps, hps, hval⟩ := readSlots_eq_ok hs
    obtain ⟨ps', hps', hval'⟩ := readSlots_eq_ok hmap
    rw [hps, hps']
    have himage : List.map (·.map (·.1)) ps' =
        ps.map fun c => (c.map (·.1)).map (·.mapLines g) := by
      rw [hval', ← hval]
      exact List.map_map
    rw [← List.forall₂_eq_eq_eq, List.forall₂_map_left_iff, List.forall₂_map_right_iff] at himage
    refine h ps ps' (himage.flip.imp fun c c' hc => ?_)
    cases c <;> cases c' <;> simp only [Option.map_some, Option.map_none, reduceCtorEq,
      Option.some.injEq] at hc
    · exact .none
    · exact .some hc

theorem readList_congr {k : List n.Part → Except Fault α}
    {k' : List (n.mapLines g).Part → Except Fault α}
    (h : ∀ cs cs', List.Forall₂ IsImage cs cs' → k' cs' = k cs) :
    ((n.mapLines g).readList f >>= k') = (n.readList f >>= k) := by
  unfold readList
  rw [bind_assoc, bind_assoc]
  refine readSlots_congr fun cs cs' hcs => ?_
  rw [pure_bind, pure_bind]
  exact h _ _ (List.rel_filterMap (fun _ _ hc => hc) hcs)

theorem mapM_congr {R : α → β → Prop} {l : List α} {l' : List β} {k : α → Except Fault γ}
    {k' : β → Except Fault γ} (hl : List.Forall₂ R l l') (hk : ∀ a b, R a b → k' b = k a) :
    l'.mapM k' = l.mapM k := by
  induction hl with
  | nil => rfl
  | cons hR _ ih => rw [List.mapM_cons, List.mapM_cons, hk _ _ hR, ih]

theorem mapM_congr_map {R : α → β → Prop} {l : List α} {l' : List β} {φ : γ → δ}
    {k : α → Except Fault γ} {k' : β → Except Fault δ} (hl : List.Forall₂ R l l')
    (hk : ∀ a b, R a b → k' b = (k a).map φ) : l'.mapM k' = (l.mapM k).map (List.map φ) := by
  induction hl with
  | nil => rfl
  | @cons a b l l' hR _ ih =>
    rw [List.mapM_cons, List.mapM_cons, hk a b hR, ih]
    cases k a with
    | error e => rfl
    | ok c => cases l.mapM k <;> rfl

theorem isEmpty_eq {R : α → β → Prop} {l : List α} {l' : List β} (hl : List.Forall₂ R l l') :
    l'.isEmpty = l.isEmpty := by
  cases hl <;> rfl

theorem forall₂_zip {R : α → β → Prop} {S : γ → δ → Prop} {l : List α} {l' : List β} {m : List γ}
    {m' : List δ} (hl : List.Forall₂ R l l') (hm : List.Forall₂ S m m') :
    List.Forall₂ (fun p p' => R p.1 p'.1 ∧ S p.2 p'.2) (l.zip m) (l'.zip m') := by
  induction hl generalizing m m' with
  | nil => exact .nil
  | cons hR _ ih =>
    cases hm with
    | nil => exact .nil
    | cons hS hm => exact .cons ⟨hR, hS⟩ (ih hm)

theorem forall₂_zipIdx {R : α → β → Prop} {l : List α} {l' : List β} (hl : List.Forall₂ R l l')
    (i : Nat) : List.Forall₂ (fun p p' => R p.1 p'.1 ∧ p.2 = p'.2) (l.zipIdx i) (l'.zipIdx i) := by
  induction hl generalizing i with
  | nil => exact .nil
  | cons hR _ ih => exact .cons ⟨hR, rfl⟩ (ih (i + 1))

theorem forall₂_replicate {R : α → β → Prop} {a : α} {b : β} (hR : R a b) (k : Nat) :
    List.Forall₂ R (List.replicate k a) (List.replicate k b) := by
  induction k with
  | zero => exact .nil
  | succ k ih => exact .cons hR ih

end reading

/-! ## Definitions on other lines -/

theorem bareName_mapLines (g : Int → Int) (d : Node) : (d.mapLines g).bareName = d.bareName := by
  unfold bareName
  rw [kind_mapLines]
  split
  · simp only [pure_bind]
    refine readChild_congr fun c c' hc => ?_
    rw [hc, kind_mapLines, readWord_mapLines, readWord_mapLines]
  · simp only [pure_bind, kind_mapLines, readWord_mapLines]

theorem decoratedBy_mapLines (g : Int → Int) (n : Node) :
    (n.mapLines g).decoratedBy = n.decoratedBy := by
  unfold decoratedBy
  refine readList_congr fun ds ds' hds => ?_
  rw [mapM_congr hds fun d d' hd => by rw [hd, bareName_mapLines]]

theorem foldl_min_map (hg : Monotone g) (own : Int) (lines : List Int) :
    (lines.map g).foldl min (g own) = g (lines.foldl min own) := by
  induction lines generalizing own with
  | nil => rfl
  | cons l lines ih =>
    rw [List.map_cons, List.foldl_cons, List.foldl_cons, ← hg.map_min, ih]

theorem mapM_readLine_mapLines (g : Int → Int) (ns : List Node) :
    (ns.map (·.mapLines g)).mapM readLine = (ns.mapM readLine).map (·.map g) := by
  induction ns with
  | nil => rfl
  | cons n ns ih =>
    rw [List.map_cons, List.mapM_cons, List.mapM_cons, readLine_mapLines, ih]
    cases n.readLine <;> cases ns.mapM readLine <;> rfl

theorem startLine_mapLines (hg : Monotone g) (n : Node) :
    (n.mapLines g).startLine = n.startLine.map g := by
  rw [startLine_eq, startLine_eq, readLine_mapLines, listed?_mapLines, kind_mapLines]
  cases n.readLine with
  | error e => rfl
  | ok own =>
    cases n.listed? .decorators with
    | none => rfl
    | some ds =>
      simp only [Option.map_some, mapM_readLine_mapLines]
      cases ds.mapM readLine with
      | error e => rfl
      | ok lines => exact congrArg Except.ok (foldl_min_map hg own lines)

end Node

namespace Variant

open Node

variable {g : Int → Int}

/-- A variant recognises on other lines what it recognised, if the lines keep their order. -/
theorem recognises_mapLines (v : Variant) (hg : StrictMono g) (name : String) (line : Int)
    (n : Node) : v.recognises name (g line) (n.mapLines g) = v.recognises name line n := by
  by_cases hf : n.kind.isFunctionDef
  · have hf' : (n.mapLines g).kind.isFunctionDef := by rwa [kind_mapLines]
    rw [recognises_eq_of_isFunctionDef hf, recognises_eq_of_isFunctionDef hf', readWord_mapLines,
      startLine_mapLines hg.monotone, decoratedBy_mapLines]
    refine bind_congr fun word => ?_
    split
    · rfl
    · cases n.startLine with
      | error e => rfl
      | ok start =>
        show (if g start ≠ g line then _ else _) = if start ≠ line then _ else _
        simp only [ne_eq, hg.injective.eq_iff]
  · by_cases hl : n.kind = .lambda
    · unfold recognises
      simp only [kind_mapLines, hl, readLine_mapLines]
      split
      · cases n.readLine with
        | error e => rfl
        | ok l =>
          refine congrArg Except.ok ?_
          rw [Bool.eq_iff_iff, beq_iff_eq, beq_iff_eq, hg.injective.eq_iff]
      · rfl
    · rw [recognises_of_other hl hf,
        recognises_of_other (by rwa [kind_mapLines]) (by rwa [kind_mapLines])]

end Variant

end DefSite
