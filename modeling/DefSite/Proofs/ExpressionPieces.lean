import DefSite.Proofs.Pieces

/-!
# What expressions are made of

Besides their parts, rules for expressions, patterns and parameters write printable text, names and
what constants are written as.
-/

namespace DefSite.Render

open Text Layout Node

section rules

variable {Q : Piece → Prop} {n : Node} {k : Kind} {sub : Parts n} {m m' : Manner}
  (hQ : ∀ s, Within Printable s → Q (.text s))
  (hwords : ∀ f ∈ Field.identifiers, ∀ s ∈ n.spelled f, Q (.text s))
  (hliteral : ∀ l, n.literal? .value = some l → Q (.text (literalText m.avoiding l)))
  (hsub : ∀ m' : Manner, m'.avoiding = m.avoiding → ∀ c : n.Part, c.1 ∈ n.children →
    ∀ place ≠ .part, SatisfiesM (Consists Q) (sub c m' place))
  {c : n.Part} {cs : List n.Part} (place : Place)

/-! ## Expressions -/

include hQ hsub in
theorem boolOpRule_consists (hk : n.kind = .boolOp) :
    SatisfiesM (Consists Q) (boolOpRule n sub m place) := by
  have hgo : ∀ (vs : List n.Part) (l : Level), (∀ v ∈ vs, v.1 ∈ n.children) →
      SatisfiesM (∀ l ∈ ·, Consists Q l) (boolOpRule.go n sub m l vs) := by
    intro vs
    induction vs with
    | nil => exact fun l _ => .pure (by simp)
    | cons v vs ih =>
      intro l hvs
      obtain ⟨hv, hvs⟩ := List.forall_mem_cons.mp hvs
      refine .bind (atLevel_consists hsub rfl l.next hv) fun text htext => ?_
      refine .bind (ih l.next hvs) fun texts htexts => ?_
      exact .pure (List.forall_mem_cons.mpr ⟨htext, htexts⟩)
  refine .bind (readChild_mem hk (by decide)) fun op _ => ?_
  refine .bind (operator_printable connective?_graphic op.1) fun ⟨text, own⟩ htext => ?_
  refine .bind (readList_mem hk (by decide)) fun values hvalues => ?_
  refine .bind (hgo values own hvalues) fun texts htexts => ?_
  refine .pure (consists_enclosed hQ place own (consists_joined (hQ _ ?_) htexts))
  simp (disch := decide) [within_of_isGraphic, htext]

include hQ hsub in
theorem namedExprRule_consists (hk : n.kind = .namedExpr) :
    SatisfiesM (Consists Q) (namedExprRule n sub m place) := by
  refine .bind (readChild_mem hk (by decide)) fun t ht => ?_
  refine .bind (readChild_mem hk (by decide)) fun v hv => ?_
  refine .bind (atLevel_consists hsub rfl .atom ht) fun target htarget => ?_
  refine .bind (atLevel_consists hsub rfl .atom hv) fun value hvalue => ?_
  refine .pure (consists_enclosed hQ place .named ?_)
  simp (disch := decide) [punctuation hQ, htarget, hvalue]

include hQ hsub in
theorem binOpRule_consists (hk : n.kind = .binOp) :
    SatisfiesM (Consists Q) (binOpRule n sub m place) := by
  refine .bind (readChild_mem hk (by decide)) fun op _ => ?_
  refine .bind (operator_printable binarySign?_graphic op.1) fun ⟨sign, own⟩ hsign => ?_
  refine .bind (readChild_mem hk (by decide)) fun l hl => ?_
  refine .bind (atLevel_consists hsub rfl _ hl) fun left hleft => ?_
  refine .bind (readChild_mem hk (by decide)) fun r hr => ?_
  refine .bind (atLevel_consists hsub rfl _ hr) fun right hright => ?_
  have hspaced : Q (.text (" " ++ sign ++ " ")) :=
    hQ _ (by simp (disch := decide) [within_of_isGraphic, hsign])
  refine .pure (consists_enclosed hQ place own ?_)
  simp [hleft, hright, hspaced]

include hQ hsub in
theorem unaryOpRule_consists (hk : n.kind = .unaryOp) :
    SatisfiesM (Consists Q) (unaryOpRule n sub m place) := by
  refine .bind (readChild_mem hk (by decide)) fun op _ => ?_
  refine .bind (operator_printable unarySign?_graphic op.1) fun ⟨sign, own⟩ hsign => ?_
  refine .bind (readChild_mem hk (by decide)) fun o ho => ?_
  refine .bind (atLevel_consists hsub rfl own ho) fun operand hoperand => ?_
  refine .pure (consists_enclosed hQ place own ?_)
  simp [hoperand, hQ sign hsign]

include hQ hsub in
theorem compareRule_consists (hk : n.kind = .compare) :
    SatisfiesM (Consists Q) (compareRule n sub m place) := by
  refine .bind (readChild_mem hk (by decide)) fun l hl => ?_
  refine .bind (readList_mem hk (by decide)) fun cs hcs => ?_
  refine .bind (atLevel_consists hsub rfl .expr hl) fun left hleft => ?_
  refine .bind (readList_mem hk (by decide)) fun ops _ => ?_
  refine .bind (satisfiesM_mapM (Q := Consists Q) fun p hp => ?_) fun tails htails => ?_
  · refine .bind (operator_printable comparison?_graphic p.1.1) fun sign hsign => ?_
    have hspaced : Q (.text (" " ++ sign ++ " ")) :=
      hQ _ (by simp (disch := decide) [within_of_isGraphic, hsign])
    have hc : p.2.1 ∈ n.children := hcs p.2 (List.of_mem_zip hp).2
    refine .bind (atLevel_consists hsub rfl .expr hc) fun text htext => ?_
    exact .pure (by simp [hspaced, htext])
  · exact .pure (consists_enclosed hQ place .cmp (by simp [hleft, consists_flatten htails]))

include hQ hsub in
theorem lambdaRule_consists (hk : n.kind = .lambda) :
    SatisfiesM (Consists Q) (lambdaRule n sub m place) := by
  refine .bind (readChild_mem hk (by decide)) fun ps hps => ?_
  refine .bind (plain_consists hsub rfl hps) fun params hparams => ?_
  refine .bind (readChild_mem hk (by decide)) fun b hb => ?_
  refine .bind (plain_consists hsub rfl hb) fun body hbody => ?_
  have hgap : Consists Q (if writes (copied params) then word " " else []) := by
    split <;> simp (disch := decide) [punctuation hQ]
  refine .pure (consists_enclosed hQ place .test ?_)
  simp (disch := decide) [punctuation hQ, hgap, consists_copied hparams, hbody]

include hQ hsub in
theorem ifExpRule_consists (hk : n.kind = .ifExp) :
    SatisfiesM (Consists Q) (ifExpRule n sub m place) := by
  refine .bind (readChild_mem hk (by decide)) fun b hb => ?_
  refine .bind (readChild_mem hk (by decide)) fun t ht => ?_
  refine .bind (atLevel_consists hsub rfl .or hb) fun body hbody => ?_
  refine .bind (atLevel_consists hsub rfl .or ht) fun test htest => ?_
  refine .bind (readChild_mem hk (by decide)) fun o ho => ?_
  refine .bind (plain_consists hsub rfl ho) fun orelse horelse => ?_
  refine .pure (consists_enclosed hQ place .test ?_)
  simp (disch := decide) [punctuation hQ, hbody, htest, horelse]

include hQ hsub in
theorem dictRule_consists (hk : n.kind = .dict) :
    SatisfiesM (Consists Q) (dictRule n sub m) := by
  refine .bind (readSlots_mem hk (by decide)) fun ks hks => ?_
  refine .bind (readList_mem hk (by decide)) fun vs hvs => ?_
  refine .bind (satisfiesM_mapM (Q := Consists Q) fun p hp => ?_) fun items hitems => ?_
  · obtain ⟨k, v⟩ := p
    obtain ⟨hk, hv⟩ := List.of_mem_zip hp
    cases k with
    | none =>
      refine .bind (atLevel_consists hsub rfl .expr (hvs v hv)) fun value hvalue => ?_
      exact .pure (by simp (disch := decide) [punctuation hQ, hvalue])
    | some k =>
      refine .bind (plain_consists hsub rfl (hks _ hk k rfl)) fun key hkey => ?_
      refine .bind (plain_consists hsub rfl (hvs v hv)) fun value hvalue => ?_
      exact .pure (by simp (disch := decide) [punctuation hQ, hkey, hvalue])
  · have hjoined := consists_joined (punctuation hQ (s := ", ") (by decide)) hitems
    exact .pure (by simp (disch := decide) [punctuation hQ, hjoined])

include hQ hsub in
theorem setRule_consists (hk : n.kind = .set) : SatisfiesM (Consists Q) (setRule n sub m) := by
  refine .bind (readList_mem hk (by decide)) fun items hitems => ?_
  refine .bind (commaList_consists hQ hsub rfl hitems) fun inside hinside => ?_
  have hwritten : Consists Q (if items.isEmpty then word "*()" else inside) := by
    split <;> simp (disch := decide) [punctuation hQ, hinside]
  exact .pure (by simp (disch := decide) [-List.isEmpty_iff, punctuation hQ, hwritten])

include hQ hsub in
theorem generatedRule_consists {left right : String}
    (hleft : left.toList.all isGraphic = true) (hright : right.toList.all isGraphic = true)
    (hk : n.kind = k) (helt : .elt ∈ k.fields) (hgenerators : .generators ∈ k.fields) :
    SatisfiesM (Consists Q) (generatedRule n sub m left right) := by
  refine .bind (readChild_mem hk helt) fun e he => ?_
  refine .bind (plain_consists hsub rfl he) fun elt helt => ?_
  refine .bind (readList_mem hk hgenerators) fun gs hgs => ?_
  refine .bind (sequence_consists hsub rfl hgs) fun generators hgenerators => ?_
  exact .pure (by simp [punctuation hQ hleft, punctuation hQ hright, helt, hgenerators])

include hQ hsub in
theorem dictCompRule_consists (hk : n.kind = .dictComp) :
    SatisfiesM (Consists Q) (dictCompRule n sub m) := by
  refine .bind (readChild_mem hk (by decide)) fun k hkey => ?_
  refine .bind (plain_consists hsub rfl hkey) fun key hkey => ?_
  refine .bind (readChild_mem hk (by decide)) fun v hv => ?_
  refine .bind (plain_consists hsub rfl hv) fun value hvalue => ?_
  refine .bind (readList_mem hk (by decide)) fun gs hgs => ?_
  refine .bind (sequence_consists hsub rfl hgs) fun generators hgenerators => ?_
  exact .pure (by simp (disch := decide) [punctuation hQ, hkey, hvalue, hgenerators])

include hQ hsub in
theorem comprehensionRule_consists (hk : n.kind = .comprehension) :
    SatisfiesM (Consists Q) (comprehensionRule n sub m) := by
  refine .bind (.trivial) fun isAsync _ => ?_
  refine .bind (readChild_mem hk (by decide)) fun t ht => ?_
  refine .bind (atLevel_consists hsub rfl .tuple ht) fun target htarget => ?_
  refine .bind (readChild_mem hk (by decide)) fun i hi => ?_
  refine .bind (readList_mem hk (by decide)) fun ifs hifs => ?_
  refine .bind (atLevel_consists hsub rfl .or hi) fun iter hiter => ?_
  refine .bind (satisfiesM_mapM (Q := Consists Q) fun c hc => ?_) fun conditions hconditions => ?_
  · refine .bind (atLevel_consists hsub rfl .or (hifs c hc)) fun condition hcondition => ?_
    exact .pure (by simp (disch := decide) [punctuation hQ, hcondition])
  · have hopening : Q (.text (if isAsync = 0 then " for " else " async for ")) :=
      punctuation hQ (by split <;> decide)
    exact .pure (by simp (disch := decide)
      [punctuation hQ, hopening, htarget, hiter, consists_flatten hconditions])

include hQ hsub in
theorem awaitRule_consists (hk : n.kind = .await) :
    SatisfiesM (Consists Q) (awaitRule n sub m place) := by
  refine .bind (readChild_mem hk (by decide)) fun v hv => ?_
  refine .bind (atLevel_consists hsub rfl .atom hv) fun value hvalue => ?_
  refine .pure (consists_enclosed hQ place .await ?_)
  simp (disch := decide) [punctuation hQ, hvalue]

include hQ hsub in
theorem yieldRule_consists (hk : n.kind = .yield) :
    SatisfiesM (Consists Q) (yieldRule n sub m place) := by
  refine .bind (optionalChild_mem hk (by decide)) fun o ho => ?_
  cases o with
  | none =>
    refine .pure (consists_enclosed hQ place .yield ?_)
    simp (disch := decide) [punctuation hQ]
  | some v =>
    refine .bind (atLevel_consists hsub rfl .atom (ho v rfl)) fun value hvalue => ?_
    refine .pure (consists_enclosed hQ place .yield ?_)
    simp (disch := decide) [punctuation hQ, hvalue]

include hQ hsub in
theorem yieldFromRule_consists (hk : n.kind = .yieldFrom) :
    SatisfiesM (Consists Q) (yieldFromRule n sub m place) := by
  refine .bind (readChild_mem hk (by decide)) fun v hv => ?_
  refine .bind (atLevel_consists hsub rfl .atom hv) fun value hvalue => ?_
  refine .pure (consists_enclosed hQ place .yield ?_)
  simp (disch := decide) [punctuation hQ, hvalue]

include hQ hsub in
theorem callRule_consists (hk : n.kind = .call) :
    SatisfiesM (Consists Q) (callRule n sub m) := by
  refine .bind (readChild_mem hk (by decide)) fun f hf => ?_
  refine .bind (atLevel_consists hsub rfl .atom hf) fun func hfunc => ?_
  refine .bind (readList_mem hk (by decide)) fun as has => ?_
  refine .bind (mapM_plain_consists hsub rfl has) fun args hargs => ?_
  refine .bind (readList_mem hk (by decide)) fun ks hks => ?_
  refine .bind (mapM_plain_consists hsub rfl hks) fun keywords hkeywords => ?_
  have hjoined : Consists Q (joined ", " (args ++ keywords)) :=
    consists_joined (punctuation hQ (by decide))
      (List.forall_mem_append.mpr ⟨hargs, hkeywords⟩)
  exact .pure (by simp (disch := decide) [punctuation hQ, hfunc, hjoined])

include hQ hwords hsub in
theorem keywordRule_consists (hk : n.kind = .keyword) :
    SatisfiesM (Consists Q) (keywordRule n sub m) := by
  refine .bind (optionalWord_text hwords (by decide)) fun o ho => ?_
  refine .bind (readChild_mem hk (by decide)) fun v hv => ?_
  refine .bind (plain_consists hsub rfl hv) fun value hvalue => ?_
  cases o with
  | none => exact .pure (by simp (disch := decide) [punctuation hQ, hvalue])
  | some name =>
    have hname := ho name rfl
    exact .pure (by simp (disch := decide) [punctuation hQ, hname, hvalue])

include hQ hsub in
theorem starredRule_consists (hk : n.kind = .starred) :
    SatisfiesM (Consists Q) (starredRule n sub m) := by
  refine .bind (readChild_mem hk (by decide)) fun v hv => ?_
  refine .bind (atLevel_consists hsub rfl .expr hv) fun value hvalue => ?_
  exact .pure (by simp (disch := decide) [punctuation hQ, hvalue])

include hQ hliteral in
theorem constantRule_consists : SatisfiesM (Consists Q) (constantRule n m) := by
  refine .bind readLiteral_literal fun value hvalue => ?_
  have hwritten := hliteral value hvalue
  split
  · exact .pure (by simp (disch := decide) [punctuation hQ])
  · refine .bind .trivial fun mark _ => ?_
    split <;> exact .pure (by simp (disch := decide) [punctuation hQ, hwritten])

include hQ hwords hsub in
theorem accessRule_consists (hk : n.kind = .access) :
    SatisfiesM (Consists Q) (accessRule n sub m) := by
  refine .bind (readChild_mem hk (by decide)) fun v hv => ?_
  refine .bind (atLevel_consists hsub rfl .atom hv) fun value hvalue => ?_
  refine .bind .trivial fun whole _ => ?_
  refine .bind (readWord_text hwords (by decide)) fun name hname => ?_
  have hgap : Q (.text (if whole then " ." else ".")) :=
    punctuation hQ (by split <;> decide)
  exact .pure (by simp [hvalue, hgap, hname])

include hQ hsub in
theorem subscriptRule_consists (hk : n.kind = .subscript) :
    SatisfiesM (Consists Q) (subscriptRule n sub m) := by
  refine .bind (readChild_mem hk (by decide)) fun v hv => ?_
  refine .bind (atLevel_consists hsub rfl .atom hv) fun value hvalue => ?_
  refine .bind (readChild_mem hk (by decide)) fun s hs => ?_
  refine .bind (hsub m rfl s hs .index (by simp)) fun slice hslice => ?_
  exact .pure (by simp (disch := decide) [punctuation hQ, hvalue, hslice])

include hQ hsub in
theorem sliceRule_consists (hk : n.kind = .slice) :
    SatisfiesM (Consists Q) (sliceRule n sub m) := by
  have hcolon : Consists Q (word ":") := by simp (disch := decide) [punctuation hQ]
  refine .bind (optionalChild_mem hk (by decide)) fun l hl => ?_
  refine .bind (optional_consists hsub rfl consists_nil hl) fun lower hlower => ?_
  refine .bind (optionalChild_mem hk (by decide)) fun u hu => ?_
  refine .bind (optional_consists hsub rfl consists_nil hu) fun upper hupper => ?_
  refine .bind (optionalChild_mem hk (by decide)) fun s hs => ?_
  refine .bind (optional_consists hsub rfl hcolon hs) fun step hstep => ?_
  exact .pure (consists_append.mpr ⟨consists_append.mpr
    ⟨consists_append.mpr ⟨hlower, hcolon⟩, hupper⟩, hstep⟩)

include hQ hsub in
theorem tupleRule_consists (hk : n.kind = .tuple) :
    SatisfiesM (Consists Q) (tupleRule n sub m place) := by
  refine .bind (readList_mem hk (by decide)) fun items hitems => ?_
  refine .bind (mapM_plain_consists hsub rfl hitems) fun texts htexts => ?_
  refine .pure (consists_parensIf hQ _ ?_)
  split
  · have honly := htexts _ (List.mem_singleton_self _)
    simp (disch := decide) [punctuation hQ, honly]
  · exact consists_joined (punctuation hQ (by decide)) htexts

include hQ hsub in
theorem listRule_consists {f : Field} (hk : n.kind = k) (hf : f ∈ k.fields) :
    SatisfiesM (Consists Q) (listRule n sub m f) := by
  refine .bind (readList_mem hk hf) fun items hitems => ?_
  refine .bind (commaList_consists hQ hsub rfl hitems) fun inside hinside => ?_
  exact .pure (by simp (disch := decide) [punctuation hQ, hinside])

/-! ## Patterns -/

include hsub in
theorem matchValueRule_consists (hk : n.kind = .matchValue) :
    SatisfiesM (Consists Q) (matchValueRule n sub m) := by
  refine .bind (readChild_mem hk (by decide)) fun v hv => ?_
  exact plain_consists hsub rfl hv

include hliteral in
theorem matchSingletonRule_consists : SatisfiesM (Consists Q) (matchSingletonRule n m) := by
  refine .bind readLiteral_literal fun value hvalue => ?_
  exact .pure (by simp [hliteral value hvalue])

include hQ hwords in
theorem matchStarRule_consists : SatisfiesM (Consists Q) (matchStarRule n) := by
  refine .bind (optionalWord_text hwords (by decide)) fun o ho => ?_
  cases o with
  | none => exact .pure (by simp (disch := decide) [punctuation hQ])
  | some name => exact .pure (by simp (disch := decide) [punctuation hQ, ho name rfl])

include hsub in
theorem pairedRule_consists {α : Type} {before : α → Except Fault Layout} {as : List α}
    (hbefore : ∀ a ∈ as, SatisfiesM (Consists Q) (before a)) (hcs : ∀ c ∈ cs, c.1 ∈ n.children) :
    SatisfiesM (∀ l ∈ ·, Consists Q l) (pairedRule n sub m before as cs) := by
  refine .bind (satisfiesM_mapM (Q := Consists Q) fun p hp => ?_) fun texts htexts => ?_
  · obtain ⟨ha, hc⟩ := List.of_mem_zip (a := p.1) (b := p.2) hp
    refine .bind (hbefore p.1 ha) fun heading hheading => ?_
    refine .bind (plain_consists hsub rfl (hcs p.2 hc)) fun text htext => ?_
    exact .pure (consists_append.mpr ⟨hheading, htext⟩)
  · split
    · exact .pure htexts
    · exact satisfiesM_error _

include hQ hwords hsub in
theorem matchMappingRule_consists (hk : n.kind = .matchMapping) :
    SatisfiesM (Consists Q) (matchMappingRule n sub m) := by
  refine .bind (readList_mem hk (by decide)) fun keys hkeys => ?_
  refine .bind (readList_mem hk (by decide)) fun patterns hpatterns => ?_
  refine .bind (pairedRule_consists hsub (fun c hc => ?_) hpatterns) fun texts htexts => ?_
  · refine .bind (plain_consists hsub rfl (hkeys c hc)) fun key hkey => ?_
    exact .pure (by simp (disch := decide) [punctuation hQ, hkey])
  · refine .bind (optionalWord_text hwords (by decide)) fun o ho => ?_
    have hjoined : ∀ rest : List Layout, (∀ l ∈ rest, Consists Q l) →
        Consists Q (joined ", " (texts ++ rest)) := fun rest hrest =>
      consists_joined (punctuation hQ (by decide)) (List.forall_mem_append.mpr ⟨htexts, hrest⟩)
    cases o with
    | none =>
      have hinside := hjoined [] (by simp)
      exact .pure (by simpa (disch := decide) [punctuation hQ] using hinside)
    | some name =>
      have hinside := hjoined [word "**" ++ word name]
        (by simp (disch := decide) [punctuation hQ, ho name rfl])
      exact .pure (by simp (disch := decide) [punctuation hQ, hinside])

include hQ hwords hsub in
theorem matchClassRule_consists (hk : n.kind = .matchClass) :
    SatisfiesM (Consists Q) (matchClassRule n sub m) := by
  refine .bind (readChild_mem hk (by decide)) fun c hc => ?_
  refine .bind (atLevel_consists hsub rfl .atom hc) fun cls hcls => ?_
  refine .bind (readList_mem hk (by decide)) fun ps hps => ?_
  refine .bind (mapM_plain_consists hsub rfl hps) fun positional hpositional => ?_
  refine .bind (readWords_text hwords (by decide)) fun names hnames => ?_
  have hjoined : ∀ named : List Layout, (∀ l ∈ named, Consists Q l) →
      Consists Q (joined ", " (positional ++ named)) := fun named hnamed =>
    consists_joined (punctuation hQ (by decide))
      (List.forall_mem_append.mpr ⟨hpositional, hnamed⟩)
  dsimp only
  split
  · have hinside := hjoined [] (by simp)
    exact .pure (consists_append.mpr ⟨hcls, consists_between.mpr
      ⟨⟨punctuation hQ (by decide), hinside⟩, punctuation hQ (by decide)⟩⟩)
  · refine .bind (readList_mem hk (by decide)) fun ks hks => ?_
    refine .bind (pairedRule_consists hsub (fun a ha => .pure ?_) hks) fun named hnamed => ?_
    · simp (disch := decide) [punctuation hQ, hnames a ha]
    · exact .pure (by simp (disch := decide) [punctuation hQ, hcls, hjoined named hnamed])

include hQ hwords hsub in
theorem matchAsRule_consists (hk : n.kind = .matchAs) :
    SatisfiesM (Consists Q) (matchAsRule n sub m place) := by
  refine .bind (optionalWord_text hwords (by decide)) fun o ho => ?_
  refine .bind (optionalChild_mem hk (by decide)) fun p hp => ?_
  cases o with
  | none => exact .pure (by simp (disch := decide) [punctuation hQ])
  | some name =>
    cases p with
    | none => exact .pure (by simp [ho name rfl])
    | some p =>
      refine .bind (atLevel_consists hsub rfl .expr (hp p rfl)) fun pattern hpattern => ?_
      refine .pure (consists_enclosed hQ place .test ?_)
      simp (disch := decide) [punctuation hQ, hpattern, ho name rfl]

include hQ hsub in
theorem matchOrRule_consists (hk : n.kind = .matchOr) :
    SatisfiesM (Consists Q) (matchOrRule n sub m place) := by
  refine .bind (readList_mem hk (by decide)) fun ps hps => ?_
  refine .bind (satisfiesM_mapM fun p hp =>
    atLevel_consists hsub rfl Level.expr.next (hps p hp)) fun patterns hpatterns => ?_
  refine .pure (consists_enclosed hQ place .expr ?_)
  exact consists_joined (punctuation hQ (by decide)) hpatterns

/-! ## Parameters and the like -/

include hQ hsub in
theorem parameter_consists {d : Option n.Part} (hc : c.1 ∈ n.children)
    (hd : ∀ m ∈ d, m.1 ∈ n.children) : SatisfiesM (Consists Q) (parameter n sub m c d) := by
  refine .bind (plain_consists hsub rfl hc) fun text htext => ?_
  have hequals : Consists Q (word "=") := by simp (disch := decide) [punctuation hQ]
  refine .bind (optional_consists hsub rfl hequals hd) fun default hdefault => ?_
  exact .pure (consists_append.mpr ⟨htext, hdefault⟩)

include hQ hsub in
theorem argumentsRule_consists (hk : n.kind = .arguments) :
    SatisfiesM (Consists Q) (argumentsRule n sub m) := by
  refine .bind (readList_mem hk (by decide)) fun posonly hposonly => ?_
  refine .bind (readList_mem hk (by decide)) fun args hargs => ?_
  refine .bind (readList_mem hk (by decide)) fun given hgiven => ?_
  refine .bind (satisfiesM_mapM (Q := Consists Q) fun p hp => ?_) fun first hfirst => ?_
  · obtain ⟨⟨c, d⟩, i⟩ := p
    obtain ⟨hc, hd⟩ := List.of_mem_zip (List.fst_mem_of_mem_zipIdx hp)
    have hc' : c.1 ∈ n.children := by
      rcases List.mem_append.mp hc with hc | hc
      · exact hposonly c hc
      · exact hargs c hc
    have hd' : ∀ m ∈ d, m.1 ∈ n.children := by
      rintro m rfl
      rcases List.mem_append.mp hd with hd | hd
      · cases (List.mem_replicate.mp hd).2
      · obtain ⟨m', hm', h⟩ := List.mem_map.mp hd
        cases h
        exact hgiven m hm'
    refine .bind (parameter_consists hQ hsub hc' hd') fun text htext => ?_
    refine .pure ?_
    split <;> simp (disch := decide) [punctuation hQ, htext]
  · have hjoined : ∀ star named rest : List Layout, (∀ l ∈ star, Consists Q l) →
        (∀ l ∈ named, Consists Q l) → (∀ l ∈ rest, Consists Q l) →
          Consists Q (joined ", " (first ++ star ++ named ++ rest)) := by
      intro star named rest hstar hnamed hrest
      refine consists_joined (punctuation hQ (by decide)) ?_
      simp only [List.forall_mem_append]
      exact ⟨⟨⟨hfirst, hstar⟩, hnamed⟩, hrest⟩
    -- the ways to come by a star, by parameters after it and by the remaining names are
    -- independent of each other, so each is settled once for all ways to come by those before it
    refine .bind (optionalChild_mem hk (by decide)) fun v hv => ?_
    cases v
    case' some v =>
      refine .bind (plain_consists hsub rfl (hv v rfl)) fun text htext => ?_
      rw [pure_bind]
      have hstar : ∀ l ∈ [word "*" ++ text], Consists Q l := by
        simp (disch := decide) [punctuation hQ, htext]
    case' none =>
      refine .bind (readList_mem hk (by decide)) fun ks _ => ?_
      rw [pure_bind]
      have hstar : ∀ l ∈ if ks.isEmpty then [] else [word "*"], Consists Q l := by
        split <;> simp (disch := decide) [punctuation hQ]
      generalize (if ks.isEmpty then [] else [word "*"]) = star at hstar ⊢
    all_goals
      refine .bind (readList_mem hk (by decide)) fun kwonly hkwonly => ?_
      split
      case' isTrue =>
        rw [pure_bind]
        have hnamed : ∀ l ∈ ([] : List Layout), Consists Q l := by simp
      case' isFalse =>
        refine .bind (readSlots_mem hk (by decide)) fun ds hds => ?_
        refine .bind (satisfiesM_mapM (Q := Consists Q) fun p hp => ?_) fun named hnamed => ?_
        · obtain ⟨hc, hd⟩ := List.of_mem_zip (a := p.1) (b := p.2) hp
          exact parameter_consists hQ hsub (hkwonly p.1 hc) (hds p.2 hd)
      all_goals
        refine .bind (optionalChild_mem hk (by decide)) fun o ho => ?_
        cases o with
        | none => exact .pure (hjoined _ _ _ hstar hnamed (by simp))
        | some k =>
          refine .bind (plain_consists hsub rfl (ho k rfl)) fun text htext => ?_
          refine .pure (hjoined _ _ _ hstar hnamed ?_)
          simp (disch := decide) [punctuation hQ, htext]

include hQ hwords hsub in
theorem argRule_consists (hk : n.kind = .arg) : SatisfiesM (Consists Q) (argRule n sub m) := by
  refine .bind (readWord_text hwords (by decide)) fun name hname => ?_
  refine .bind (optionalChild_mem hk (by decide)) fun a ha => ?_
  have hcolon : Consists Q (word ": ") := by simp (disch := decide) [punctuation hQ]
  refine .bind (optional_consists hsub rfl hcolon ha) fun annotation hannotation => ?_
  exact .pure (by simp [hname, hannotation])

include hQ hsub in
theorem withItemRule_consists (hk : n.kind = .withItem) :
    SatisfiesM (Consists Q) (withItemRule n sub m) := by
  refine .bind (readChild_mem hk (by decide)) fun e he => ?_
  refine .bind (plain_consists hsub rfl he) fun context hcontext => ?_
  refine .bind (optionalChild_mem hk (by decide)) fun v hv => ?_
  have has : Consists Q (word " as ") := by simp (disch := decide) [punctuation hQ]
  refine .bind (optional_consists hsub rfl has hv) fun vars hvars => ?_
  exact .pure (consists_append.mpr ⟨hcontext, hvars⟩)

include hQ hwords in
theorem importedNameRule_consists : SatisfiesM (Consists Q) (importedNameRule n) := by
  refine .bind (readWord_text hwords (by decide)) fun name hname => ?_
  refine .bind (optionalWord_text hwords (by decide)) fun o ho => ?_
  cases o with
  | none => exact .pure (by simp [hname])
  | some other =>
    have hother := ho other rfl
    dsimp only
    split <;> exact .pure (by simp (disch := decide) [punctuation hQ, hname, hother])

end rules

end DefSite.Render
