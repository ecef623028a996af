import DefSite.Proofs.RenderedPieces

/-!
# Trees written in place

Modules, statements, handlers and cases open lines, and programs start anew; all other nodes are
written where they stand.  A tree of such nodes is rendered without a line break
(`render_inPlace`).  The texts of the rules are printable, and so is what constants are written as,
whatever they hold; only names are written as they are, and so are the strings in the expressions
of formatted strings and in their formats, where backslashes are avoided.  So the source has no
characters but those of its names, those of such strings and printable ones (`source_within`).

Of all other trees one thing can be said: unless a program stands in them, nothing that is written
is dropped again (`render_unbroken`).
-/

namespace DefSite

/-! ## Layouts without breaks -/

namespace Render

open Text Layout

/-- A piece of text over the characters that `P` admits. -/
def Piece.Over (P : Char → Prop) : Piece → Prop
  | .text s => Within P s
  | .raw cs => ∀ d ∈ characters cs, P d
  | .freshLine | .typeComment .. | .ignores _ | .restart => False

/-- A layout that breaks no line, over the characters that `P` admits. -/
abbrev InPlace (P : Char → Prop) (l : Layout) : Prop :=
  Consists (Piece.Over P) l

/-- A layout that drops nothing. -/
abbrev Unbroken (l : Layout) : Prop :=
  Consists (· ≠ .restart) l

theorem kept_of_unbroken {l : Layout} (h : Unbroken l) : kept l = l := by
  induction l with
  | nil => rfl
  | cons p l ih =>
    have hmem : .restart ∉ p :: l := fun hrestart => h _ hrestart rfl
    cases p with
    | ignores inForce => rw [kept, ih (consists_cons.mp h).2]
    | _ =>
      rw [kept, if_neg hmem]
      simp

section layouts

variable {P : Char → Prop} {l : Layout}

theorem unbroken_of_inPlace (h : InPlace P l) : Unbroken l := by
  rintro p hp rfl
  exact h _ hp

/-- What such a layout writes does not depend on what was written before. -/
theorem textFrom_of_inPlace (h : InPlace P l) (started inForce : Bool) :
    textFrom started inForce l = textFrom false false l := by
  induction l generalizing started inForce with
  | nil => rfl
  | cons p l ih =>
    obtain ⟨hp, hl⟩ := consists_cons.mp h
    cases p with
    | text s => rw [textFrom, textFrom, ih hl true inForce, ih hl true false]
    | raw cs => rw [textFrom, textFrom, ih hl true inForce, ih hl true false]
    | _ => exact hp.elim

theorem forall_mem_textFrom (h : InPlace P l) (started inForce : Bool) :
    ∀ d ∈ textFrom started inForce l, P d := by
  induction l generalizing started with
  | nil => simp [textFrom]
  | cons p l ih =>
    obtain ⟨hp, hl⟩ := consists_cons.mp h
    cases p with
    | text s => exact List.forall_mem_append.mpr ⟨hp, ih hl true⟩
    | raw cs => exact List.forall_mem_append.mpr ⟨hp, ih hl true⟩
    | _ => exact hp.elim

theorem toString_of_unbroken (h : Unbroken l) :
    l.toString = String.ofList (textFrom false false l) := by
  rw [Layout.toString, kept_of_unbroken h]

theorem toString_of_inPlace (h : InPlace P l) :
    l.toString = String.ofList (textFrom false false l) :=
  toString_of_unbroken (unbroken_of_inPlace h)

theorem within_layout (h : InPlace P l) : Within P l.toString := by
  rw [toString_of_inPlace h, within_ofList]
  exact forall_mem_textFrom h false false

theorem characters_codePoints (s : String) : characters (Text.codePoints s) = s.toList := by
  rw [characters, Text.codePoints, List.map_map]
  refine (List.map_congr_left fun d _ => ?_).trans s.toList.map_id
  exact Char.ofNat_toNat d

/-- What a part of a formatted string is made of, before it is quoted. -/
theorem forall_mem_codePoints (h : InPlace P l) : ∀ c ∈ l.codePoints, P (Char.ofNat c.val) := by
  intro c hc
  obtain ⟨p, hp, hc⟩ := List.mem_flatMap.mp hc
  have hmem : ∀ cs : List CodePoint, c ∈ cs → (∀ d ∈ characters cs, P d) → P (Char.ofNat c.val) :=
    fun cs hc hcs => hcs _ (List.mem_map_of_mem hc)
  have hover := h p hp
  cases p with
  | text s =>
    refine hmem _ hc fun d hd => hover d ?_
    rwa [characters_codePoints] at hd
  | raw cs => exact hmem cs hc hover
  | _ => exact hover.elim

end layouts

end Render

/-! ## Trees of such nodes -/

namespace Node

variable {P : Char → Prop} {n c : Node}

/-- What holds of all nodes of a tree holds of its root and of all nodes below each child. -/
theorem forall_preorder_iff {Q : Node → Prop} :
    (∀ p ∈ n.preorder, Q p.2) ↔ Q n ∧ ∀ c ∈ n.children, ∀ p ∈ c.preorder, Q p.2 := by
  rw [preorder_eq, List.forall_mem_cons]
  simp only [List.forall_mem_flatMap, List.forall_mem_map]
  refine and_congr_right fun _ => ?_
  constructor
  · intro h c hc p hp
    obtain ⟨i, hi⟩ := List.getElem?_of_mem hc
    exact h (c, i) (List.mem_zipIdx_iff_getElem?.mpr hi) p hp
  · intro h p hp
    exact h p.1 (List.fst_mem_of_mem_zipIdx hp)

/-- Of a node whose strings are written verbatim. -/
structure VerbatimIn (P : Char → Prop) (n : Node) : Prop where
  /-- The string that it holds is over the characters that `P` admits. -/
  text : ∀ cs, n.literal? .value = some (.text cs) → ∀ d ∈ Render.Layout.characters cs, P d
  /-- So is the mark of its conversion. -/
  conversion : ∀ i, n.number? .conversion = some i → 0 ≤ i → P (Char.ofNat i.toNat)

/-- The strings of the tree are over the characters that `P` admits, and so are the conversions in
its formatted strings. -/
def Verbatim (P : Char → Prop) (n : Node) : Prop :=
  ∀ p ∈ n.preorder, p.2.VerbatimIn P

/-- Of a node of a tree that is written in place. -/
@[mk_iff]
structure PlainIn (P : Char → Prop) (n : Node) : Prop where
  /-- It does not open a line. -/
  inLine : n.kind.opensLine = false
  /-- It does not start anew. -/
  continues : n.restarts = false
  /-- The names that it holds are over the characters that `P` admits. -/
  names : ∀ f ∈ Field.identifiers, ∀ s ∈ n.spelled f, Text.Within P s
  /-- So is all that stands verbatim in a formatted string: strings in its expressions and in their
  formats. -/
  expression : n.kind = .formattedValue → n.Verbatim P
  /-- So are the strings in parts that are formatted strings themselves. -/
  parts : n.kind = .joinedStr → ∀ c ∈ n.children, c.kind ≠ .constant → c.Verbatim P

/-- No node of the tree opens a line or starts anew, and its names are over the characters that `P`
admits, and so is all that stands verbatim in its formatted strings. -/
def WrittenInPlace (P : Char → Prop) (n : Node) : Prop :=
  ∀ p ∈ n.preorder, p.2.PlainIn P

/-- No node of the tree drops what was written before it. -/
def Unbroken (n : Node) : Prop :=
  ∀ p ∈ n.preorder, p.2.restarts = false

/-- Whether the string of a node, or the mark of its conversion, is free of a character. -/
def lacks (d : Char) (n : Node) : Bool :=
  ((n.literal? .value).all fun
    | .text cs => !(Render.Layout.characters cs).contains d
    | _ => true) &&
  (n.number? .conversion).all fun i => i < 0 || Char.ofNat i.toNat != d

theorem verbatimIn_iff_lacks {d : Char} : n.VerbatimIn (· ≠ d) ↔ n.lacks d = true := by
  rw [lacks, Bool.and_eq_true, Option.all_eq_true, Option.all_eq_true]
  constructor
  · intro h
    refine ⟨?_, fun i hi => ?_⟩
    · rintro (_ | _ | _ | _ | _ | _ | cs | _) hl <;> try rfl
      simpa using fun hd => h.text cs hl d hd rfl
    · simpa [or_iff_not_imp_left] using h.conversion i hi
  · rintro ⟨htext, hconversion⟩
    refine ⟨fun cs hl e he heq => ?_, fun i hi hnonneg heq => ?_⟩
    · have hfree : d ∉ Render.Layout.characters cs := by simpa using htext (.text cs) hl
      exact hfree (heq ▸ he)
    · have hnegative : i < 0 := by simpa [heq] using hconversion i hi
      exact absurd hnegative hnonneg.not_gt

theorem verbatim_iff_lacks {d : Char} :
    n.Verbatim (· ≠ d) ↔ n.preorder.all (·.2.lacks d) = true := by
  simp only [Verbatim, verbatimIn_iff_lacks, List.all_eq_true]

/-- Whether a node of a tree that is written in place is free of a character. -/
def plainWithout (d : Char) (n : Node) : Bool :=
  !n.kind.opensLine && !n.restarts &&
    (Field.identifiers.all fun f => (n.spelled f).all fun s => !s.toList.contains d) &&
    (n.kind != .formattedValue || n.preorder.all (·.2.lacks d)) &&
    (n.kind != .joinedStr ||
      n.children.all fun c => c.kind == .constant || c.preorder.all (·.2.lacks d))

theorem plainIn_iff_plainWithout {d : Char} :
    n.PlainIn (· ≠ d) ↔ n.plainWithout d = true := by
  have hwithin : ∀ s : String, Text.Within (· ≠ d) s ↔ (!s.toList.contains d) = true := by
    intro s
    rw [Bool.not_eq_true', ← Bool.not_eq_true, List.contains_iff_mem]
    exact ⟨fun h hd => h d hd rfl, fun h e he heq => h (heq ▸ he)⟩
  simp only [plainWithout, plainIn_iff, hwithin, verbatim_iff_lacks, Bool.and_eq_true,
    Bool.not_eq_true', Bool.or_eq_true, bne_iff_ne, beq_iff_eq, List.all_eq_true, ne_eq,
    ← imp_iff_not_or, ← or_iff_not_imp_left, and_assoc]

/-- Whether a tree is written in place can be computed. -/
theorem writtenInPlace_iff_all {d : Char} :
    n.WrittenInPlace (· ≠ d) ↔ n.preorder.all (·.2.plainWithout d) = true := by
  simp only [WrittenInPlace, plainIn_iff_plainWithout, List.all_eq_true]

theorem Verbatim.root (h : n.Verbatim P) : n.VerbatimIn P :=
  (forall_preorder_iff.mp h).1

theorem Verbatim.child (h : n.Verbatim P) (hc : c ∈ n.children) : c.Verbatim P :=
  (forall_preorder_iff.mp h).2 c hc

theorem WrittenInPlace.root (h : n.WrittenInPlace P) : n.PlainIn P :=
  (forall_preorder_iff.mp h).1

theorem WrittenInPlace.child (h : n.WrittenInPlace P) (hc : c ∈ n.children) :
    c.WrittenInPlace P :=
  (forall_preorder_iff.mp h).2 c hc

theorem Unbroken.root (h : n.Unbroken) : n.restarts = false :=
  (forall_preorder_iff (Q := fun p => p.restarts = false).mp h).1

theorem Unbroken.child (h : n.Unbroken) (hc : c ∈ n.children) : c.Unbroken :=
  (forall_preorder_iff (Q := fun p => p.restarts = false).mp h).2 c hc

theorem unbroken_iff_all : n.Unbroken ↔ (n.preorder.all fun p => !p.2.restarts) = true := by
  simp [Unbroken]

end Node

namespace Render

open Text Layout Node

section rules

variable {P : Char → Prop} (hP : ∀ d, Printable d → P d) {n : Node} {sub : Parts n} {m : Manner}
  (hsub : ∀ c : n.Part, c.1 ∈ n.children → ∀ m place,
    (m.avoiding = true ∨ place = .part → c.1.Verbatim P) →
      SatisfiesM (InPlace P) (sub c m place))

include hP in
/-- The texts of the rules are printable. -/
theorem within_punctuation {s : String} (h : s.toList.all isGraphic = true) : Within P s :=
  (within_of_isGraphic h).mono hP

include hP in
theorem within_floatText (x : Binary64) : Within P (floatText x) := by
  cases x with
  | notANumber => exact within_punctuation hP (by decide)
  | infinite negative => exact within_punctuation hP (by cases negative <;> decide)
  | finite negative mantissa exponent => exact (within_float _).mono hP

include hP in
theorem within_partText (x : Binary64) : Within P (partText x) := by
  have hx := within_floatText hP x
  rw [partText, within_ofList]
  split
  · exact fun d hd => hx d (List.mem_of_mem_take hd)
  · exact hx

include hP in
/-- A constant is written on one line, whatever it holds, unless its backslashes are avoided. -/
theorem within_literalText {avoiding : Bool} {l : Literal}
    (h : avoiding = true → ∀ cs, l = .text cs → ∀ d ∈ characters cs, P d) :
    Within P (literalText avoiding l) := by
  cases l with
  | nothing => exact within_punctuation (s := "None") hP (by decide)
  | ellipsis => exact within_punctuation (s := "Ellipsis") hP (by decide)
  | bool b =>
    exact within_punctuation (s := if b then "True" else "False") hP (by cases b <;> decide)
  | int i => exact (within_int i).mono hP
  | float x => exact within_floatText hP x
  | complex re im =>
    have hsign : ∀ {c : Prop} [Decidable c], Within P (if c then "" else "+") :=
      within_punctuation hP (by split <;> decide)
    rw [literalText, complexText]
    split
    · simp (disch := decide) [within_partText hP, within_punctuation hP]
    · simp (disch := decide) [within_partText hP, within_punctuation hP, hsign]
  | text cs =>
    rw [literalText]
    split
    · next havoiding =>
      exact within_literal hP fun c hc =>
        h havoiding cs rfl _ (List.mem_map_of_mem hc)
    · exact (within_quoted cs).mono hP
  | bytes bs => exact (within_quotedBytes bs).mono hP

/-! ### Formatted strings -/

theorem conversionText_inPlace {i : Int} (h : 0 ≤ i → P (Char.ofNat i.toNat))
    (hmark : P '!') : SatisfiesM (InPlace P) (conversionText i) := by
  unfold conversionText
  split
  · exact .pure consists_nil
  · split
    · next hi =>
      refine .pure (consists_cons.mpr ⟨?_, consists_cons.mpr ⟨?_, consists_nil⟩⟩)
      · simpa [Piece.Over, Within] using hmark
      · simpa [Piece.Over, characters] using h hi.1
    · exact satisfiesM_error _

include hP hsub in
theorem formattedValueRule_inPlace (hk : n.kind = .formattedValue) (hv : n.Verbatim P) :
    SatisfiesM (InPlace P) (formattedValueRule n sub m) := by
  have hQ : ∀ s, Within Printable s → Piece.Over P (.text s) := fun s hs => hs.mono hP
  have hchild : ∀ c ∈ n.children, c.Verbatim P := fun c hc => hv.child hc
  refine .bind (readChild_mem hk (by decide)) fun v hv' => ?_
  refine .bind (hsub v hv' .embedded (.level .or) fun _ => hchild v.1 hv') fun l hl => ?_
  refine .bind (p := Within P) ?_ fun expr hexpr => ?_
  · unfold embeddedText
    split
    · exact satisfiesM_error _
    · exact .pure (within_layout hl)
  refine .bind readNumber_number fun i hi => ?_
  have hconversion := hv.root.conversion i hi
  have hmark : P '!' := hP _ (printable_of_isGraphic (by decide))
  refine .bind (conversionText_inPlace hconversion hmark) fun conversion hconversion => ?_
  refine .bind (p := InPlace P) ?_ fun format hformat => ?_
  · refine .bind (optionalChild_mem hk (by decide)) fun o ho => ?_
    cases o with
    | none => exact .pure consists_nil
    | some f =>
      refine .bind (hsub f (ho f rfl) m .part fun _ => hchild f.1 (ho f rfl)) fun text htext => ?_
      exact .pure (by simp (disch := decide) [punctuation hQ, htext])
  have hgap : ∀ {c : Prop} [Decidable c], Piece.Over P (.text (if c then " " else "")) :=
    punctuation hQ (by split <;> decide)
  have hwritten : Piece.Over P (.text expr) := hexpr
  exact .pure (by simp (disch := decide) [punctuation hQ, hgap, hwritten, hconversion, hformat])

include hP hsub in
theorem joinedStrRule_inPlace (hk : n.kind = .joinedStr)
    (hparts : ∀ c ∈ n.children, c.kind ≠ .constant → c.Verbatim P)
    (hv : m.avoiding = true → n.Verbatim P) : SatisfiesM (InPlace P) (joinedStrRule n sub m) := by
  have hf : Piece.Over P (.text "f") := within_punctuation hP (by decide)
  refine .bind (readList_mem hk (by decide)) fun vs hvs => ?_
  refine .bind (satisfiesM_mapM (Q := fun p : FormattedPart =>
    (m.avoiding = true ∨ p.constant = false) → ∀ c ∈ p.text, P (Char.ofNat c.val))
      fun v hmem => ?_) fun parts hall => ?_
  · have hchild := hvs v hmem
    by_cases hverbatim : v.1.Verbatim P
    · refine .bind (hsub v hchild m .part fun _ => hverbatim) fun l hl => .pure fun _ => ?_
      exact forall_mem_codePoints hl
    · -- such a part is constant, and backslashes are not avoided
      refine .bind .trivial fun l _ => .pure fun h => ?_
      refine absurd ?_ hverbatim
      rcases h with h | h
      · exact (hv h).child hchild
      · exact hparts v.1 hchild (by simpa using h)
  · refine .pure (consists_append.mpr ⟨consists_word.mpr hf, consists_word.mpr ?_⟩)
    split
    · next havoiding =>
      refine within_literal hP fun c hc => ?_
      obtain ⟨p, hp, hc⟩ := List.mem_flatMap.mp hc
      exact hall p hp (.inl havoiding) c hc
    · exact within_formatted hP fun p hp hconstant => hall p hp (.inr hconstant)

include hP hsub in
theorem partRule_inPlace (hv : n.Verbatim P) : SatisfiesM (InPlace P) (partRule n sub m) := by
  unfold partRule
  split
  · next hk =>
    refine .bind (readList_mem hk (by decide)) fun vs hvs => ?_
    refine .bind (satisfiesM_mapM (Q := InPlace P) fun v hmem => ?_) fun parts hparts => ?_
    · exact hsub v (hvs v hmem) m .part fun _ => hv.child (hvs v hmem)
    · exact .pure (consists_flatten hparts)
  · next hk => exact formattedValueRule_inPlace hP hsub hk hv
  · refine .bind readLiteral_literal fun l hl => ?_
    split
    · next cs =>
      refine .pure (consists_cons.mpr ⟨?_, consists_nil⟩)
      have htext := hv.root.text cs hl
      intro d hd
      obtain ⟨c, hc, rfl⟩ := List.mem_map.mp hd
      obtain ⟨c', hc', hcc'⟩ := List.mem_flatMap.mp hc
      have hsame : c = c' := by split at hcc' <;> simpa using hcc'
      exact htext _ (hsame ▸ List.mem_map_of_mem hc')
    · exact satisfiesM_error _
  · exact satisfiesM_error _

end rules

/-- Formatted strings, and what stands in them, are rendered by rules of their own. -/
theorem satisfiesM_rule {R : Layout → Prop} {n : Node} {sub : Parts n} {m : Manner} {place : Place}
    (hpart : place = .part → SatisfiesM R (partRule n sub m))
    (hformatted : n.kind = .formattedValue → SatisfiesM R (formattedValueRule n sub m))
    (hjoined : n.kind = .joinedStr → SatisfiesM R (joinedStrRule n sub m))
    (hother : place ≠ .part → n.kind ≠ .formattedValue → n.kind ≠ .joinedStr →
      SatisfiesM R (rule n sub m place)) : SatisfiesM R (rule n sub m place) := by
  by_cases hplace : place = .part
  · rw [rule, if_pos hplace]
    exact hpart hplace
  by_cases hf : n.kind = .formattedValue
  · rw [rule, if_neg hplace, hf]
    exact hformatted hf
  by_cases hj : n.kind = .joinedStr
  · rw [rule, if_neg hplace, hj]
    exact hjoined hj
  exact hother hplace hf hj

theorem render_inPlace {P : Char → Prop} (hP : ∀ d, Printable d → P d) {n : Node}
    (h : n.WrittenInPlace P) (m : Manner) (place : Place)
    (hv : m.avoiding = true ∨ place = .part → n.Verbatim P) :
    SatisfiesM (InPlace P) (render n m place) := by
  have hsub : ∀ c : n.Part, c.1 ∈ n.children → ∀ m place,
      (m.avoiding = true ∨ place = .part → c.1.Verbatim P) →
        SatisfiesM (InPlace P) (render c.1 m place) := fun c hc m place hv =>
    render_inPlace hP (h.child hc) m place hv
  rw [render_eq]
  refine satisfiesM_rule (fun hplace => partRule_inPlace hP hsub (hv (.inr hplace)))
    (fun hf => formattedValueRule_inPlace hP hsub hf (h.root.expression hf))
    (fun hj => joinedStrRule_inPlace hP hsub hj (h.root.parts hj) fun ha => hv (.inl ha))
    fun hplace hf hj => ?_
  apply rule_consists (m := m) _ _ _ _ place _ _ hplace hf hj
  · exact fun s hs => hs.mono hP
  · exact fun f hf s hs => h.root.names f hf s hs
  · intro l hl
    refine within_literalText hP fun ha cs hcs => ?_
    exact (hv (.inl ha)).root.text cs (hcs ▸ hl)
  · intro m' hm' c hc place' hplace'
    refine hsub c hc m' place' fun h' => (hv (.inl ?_)).child hc
    rcases h' with h' | h'
    · exact hm' ▸ h'
    · exact absurd h' hplace'
  · intro hk
    rw [h.root.inLine] at hk
    cases hk
  · intro hk
    rw [h.root.continues] at hk
    cases hk
termination_by sizeOf n
decreasing_by exact c.2

/-! ### Trees that drop nothing -/

section unbroken

variable {n : Node} {sub : Parts n} {m : Manner}
  (hsub : ∀ c : n.Part, c.1 ∈ n.children → ∀ m place, SatisfiesM Unbroken (sub c m place))

theorem conversionText_unbroken (i : Int) : SatisfiesM Unbroken (conversionText i) := by
  unfold conversionText
  split
  · exact .pure consists_nil
  · split
    · exact .pure (by simp [consists_cons, consists_nil])
    · exact satisfiesM_error _

include hsub in
theorem formattedValueRule_unbroken (hk : n.kind = .formattedValue) :
    SatisfiesM Unbroken (formattedValueRule n sub m) := by
  refine .bind .trivial fun v _ => .bind .trivial fun l _ => .bind .trivial fun expr _ => ?_
  refine .bind .trivial fun i _ => ?_
  refine .bind (conversionText_unbroken i) fun conversion hconversion => ?_
  refine .bind (p := Unbroken) ?_ fun format hformat => ?_
  · refine .bind (optionalChild_mem hk (by decide)) fun o ho => ?_
    cases o with
    | none => exact .pure consists_nil
    | some f =>
      refine .bind (hsub f (ho f rfl) m .part) fun text htext => ?_
      exact .pure (by simp [htext])
  · exact .pure (by simp [hconversion, hformat])

theorem joinedStrRule_unbroken : SatisfiesM Unbroken (joinedStrRule n sub m) := by
  refine .bind .trivial fun vs _ => .bind .trivial fun parts _ => .pure ?_
  exact consists_append.mpr ⟨consists_word.mpr nofun, consists_word.mpr nofun⟩

include hsub in
theorem partRule_unbroken : SatisfiesM Unbroken (partRule n sub m) := by
  unfold partRule
  split
  · next hk =>
    refine .bind (readList_mem hk (by decide)) fun vs hvs => ?_
    refine .bind (satisfiesM_mapM (Q := Unbroken) fun v hmem => ?_) fun parts hparts => ?_
    · exact hsub v (hvs v hmem) m .part
    · exact .pure (consists_flatten hparts)
  · next hk => exact formattedValueRule_unbroken hsub hk
  · refine .bind .trivial fun l _ => ?_
    split
    · exact .pure (consists_cons.mpr ⟨nofun, consists_nil⟩)
    · exact satisfiesM_error _
  · exact satisfiesM_error _

end unbroken

theorem render_unbroken {n : Node} (h : n.Unbroken) (m : Manner) (place : Place) :
    SatisfiesM Unbroken (render n m place) := by
  have hsub : ∀ c : n.Part, c.1 ∈ n.children → ∀ m place,
      SatisfiesM Unbroken (render c.1 m place) := fun c hc m place =>
    render_unbroken (h.child hc) m place
  rw [render_eq]
  refine satisfiesM_rule (fun _ => partRule_unbroken hsub)
    (fun hf => formattedValueRule_unbroken hsub hf) (fun _ => joinedStrRule_unbroken)
    fun hplace hf hj => ?_
  apply rule_consists (m := m) _ _ _ _ place _ _ hplace hf hj
  · exact fun s _ => nofun
  · exact fun f _ s _ => nofun
  · exact fun l _ => nofun
  · exact fun m' _ c hc place' _ => hsub c hc m' place'
  · exact fun _ => { text := nofun, freshLine := nofun, typeComment := nofun, ignores := nofun }
  · intro hk
    rw [h.root] at hk
    cases hk
termination_by sizeOf n
decreasing_by exact c.2

end Render

end DefSite
