import DefSite.Proofs.ExpressionPieces

/-!
# What rendered source is made of

Let `Q` say which pieces are admitted.  Each rule writes admitted pieces only if the parts of the
node do, provided that `Q` admits printable text, the names that the node holds and what its
constant is written as (`rule_consists`).  Nodes that open lines need more: line breaks, comments
and texts of any kind.  Nodes without a rule of their own start anew with each part.  Formatted
strings are left out here, as what they write depends on what it is quoted from.
-/

namespace DefSite.Render

open Text Layout Node

section rules

variable {Q : Piece → Prop} {n : Node} {k : Kind} {sub : Parts n} {m m' : Manner}
  (hQ : ∀ s, Within Printable s → Q (.text s))
  (hwords : ∀ f ∈ Field.identifiers, ∀ s ∈ n.spelled f, Q (.text s))
  (hliteral : ∀ l, n.literal? .value = some l → Q (.text (literalText m.avoiding l)))
  (hsub : ∀ m' : Manner, m'.avoiding = m.avoiding → ∀ c : n.Part, c.1 ∈ n.children →
    ∀ place ≠ .part, SatisfiesM (Consists Q) (sub c m' place))
  (hopen : OpensWith Q) {c : n.Part} {cs : List n.Part} (place : Place)

/-! ## Modules and statements -/

section statements

include hopen in
theorem consists_line (m : Manner) (s : String) : Consists Q (line m s) :=
  consists_cons.mpr ⟨hopen.freshLine, consists_word.mpr (hopen.text _)⟩

include hopen in
theorem typeComment_consists (n : Node) (m : Manner) :
    SatisfiesM (Consists Q) (typeComment n m) := by
  refine .bind .trivial fun line _ => ?_
  refine .bind .trivial fun own _ => ?_
  exact .pure (by simp [hopen.typeComment])

include hsub in
theorem body_consists (hm : m'.avoiding = m.avoiding) (hk : n.kind = k) {f : Field}
    (hf : f ∈ k.fields) : SatisfiesM (Consists Q) (sub.body m' f) := by
  refine .bind (readList_mem hk hf) fun cs hcs => ?_
  exact sequence_consists hsub (m'.avoiding_deeper.trans hm) hcs

include hopen hsub in
theorem block_consists (hm : m'.avoiding = m.avoiding) (heading : String) (hk : n.kind = k)
    {f : Field} (hf : f ∈ k.fields) : SatisfiesM (Consists Q) (sub.block m' heading f) := by
  refine .bind (readList_mem hk hf) fun cs hcs => ?_
  cases cs with
  | nil => exact .pure consists_nil
  | cons c cs =>
    refine .bind (sequence_consists hsub (m'.avoiding_deeper.trans hm) hcs) fun text htext => ?_
    exact .pure (by simp [consists_line hopen, hopen.text, htext])

include hopen hsub in
theorem decorators_consists (hk : n.kind = k) (hf : .decorators ∈ k.fields) :
    SatisfiesM (Consists Q) (decorators sub m) := by
  refine .bind (readList_mem hk hf) fun ds hds => ?_
  refine .bind (satisfiesM_mapM (Q := Consists Q) fun d hd => ?_) fun lines hlines => ?_
  · refine .bind (plain_consists hsub rfl (hds d hd)) fun text htext => ?_
    exact .pure (by simp [consists_line hopen, htext])
  · exact .pure (consists_flatten hlines)

include hopen hsub in
theorem documentedBody_consists (hm : m'.avoiding = m.avoiding) (hk : n.kind = k)
    (hf : .body ∈ k.fields) : SatisfiesM (Consists Q) (documentedBody sub m') := by
  refine .bind (readList_mem hk hf) fun cs hcs => ?_
  cases cs with
  | nil => exact .pure consists_nil
  | cons first rest =>
    refine .bind .trivial fun documentation _ => ?_
    cases documentation with
    | none => exact sequence_consists hsub hm hcs
    | some _ =>
      have hrest : ∀ c ∈ rest, c.1 ∈ n.children := (List.forall_mem_cons.mp hcs).2
      refine .bind (sequence_consists hsub hm hrest) fun text htext => ?_
      exact .pure (by simp [consists_line hopen, htext])

include hopen hsub in
theorem functionRule_consists (opening : String) (hk : n.kind = k)
    (hf : ∀ f ∈ [.args, .body, .decorators, .returns], f ∈ k.fields) :
    SatisfiesM (Consists Q) (functionRule sub m opening) := by
  refine .bind (decorators_consists hsub hopen hk (hf _ (by decide))) fun ds hds => ?_
  refine .bind .trivial fun name _ => ?_
  refine .bind (readChild_mem hk (hf _ (by decide))) fun ps hps => ?_
  refine .bind (plain_consists hsub rfl hps) fun params hparams => ?_
  refine .bind (optionalChild_mem hk (hf _ (by decide))) fun r hr => ?_
  have harrow : Consists Q (word " -> ") := by simp [hopen.text]
  refine .bind (optional_consists hsub rfl harrow hr) fun returns hreturns => ?_
  refine .bind (typeComment_consists hopen n m) fun comment hcomment => ?_
  refine .bind (documentedBody_consists hsub hopen m.avoiding_deeper hk (hf _ (by decide)))
    fun body hbody => ?_
  exact .pure (by simp [consists_line hopen, hopen.text, hopen.freshLine, hds, hparams, hreturns,
    hcomment, hbody])

include hsub in
theorem genericRule_consists (hrestart : n.children ≠ [] → Q .restart) :
    SatisfiesM (Consists Q) (genericRule sub m) := by
  refine .bind (satisfiesM_mapM (Q := Consists Q) fun c hc => ?_) fun texts htexts => ?_
  · have hmem : c.1 ∈ n.children := by
      obtain ⟨c', -, rfl⟩ := List.mem_map.mp hc
      exact c'.2
    refine .bind (plain_consists hsub rfl hmem) fun text htext => ?_
    exact .pure (consists_cons.mpr ⟨hrestart (List.ne_nil_of_mem hmem), htext⟩)
  · exact .pure (consists_flatten htexts)

include hopen hsub in
theorem classRule_consists (hk : n.kind = .classDef) :
    SatisfiesM (Consists Q) (classRule n sub m) := by
  refine .bind (decorators_consists hsub hopen hk (by decide)) fun ds hds => ?_
  refine .bind .trivial fun name _ => ?_
  refine .bind (readList_mem hk (by decide)) fun bs hbs => ?_
  have hrest : ∀ (bases : List Layout) (ks : List n.Part), (∀ l ∈ bases, Consists Q l) →
      (∀ c ∈ ks, c.1 ∈ n.children) → SatisfiesM (Consists Q) (do
        let keywords ← ks.mapM (sub.plain m)
        let body ← documentedBody sub m.deeper
        return Piece.freshLine :: ds ++ line m "class " ++ word name
          ++ (if bs.isEmpty && ks.isEmpty then []
              else between "(" ")" (joined ", " (bases ++ keywords))) ++ word ":" ++ body) := by
    intro bases ks hbases hks
    refine .bind (mapM_plain_consists hsub rfl hks) fun keywords hkeywords => ?_
    refine .bind (documentedBody_consists hsub hopen m.avoiding_deeper hk (by decide))
      fun body hbody => ?_
    have hjoined : Consists Q (joined ", " (bases ++ keywords)) :=
      consists_joined (hopen.text _) (List.forall_mem_append.mpr ⟨hbases, hkeywords⟩)
    refine .pure ?_
    split <;> simp [consists_line hopen, hopen.text, hopen.freshLine, hds, hjoined, hbody]
  -- keywords are read before the bases are rendered if there are no bases, and after it otherwise
  dsimp only
  split
  · refine .bind (readList_mem hk (by decide)) fun ks hks => ?_
    refine .bind (mapM_plain_consists hsub rfl hbs) fun bases hbases => ?_
    rw [pure_bind]
    exact hrest bases ks hbases hks
  · rw [pure_bind]
    refine .bind (mapM_plain_consists hsub rfl hbs) fun bases hbases => ?_
    refine .bind (readList_mem hk (by decide)) fun ks hks => ?_
    exact hrest bases ks hbases hks

include hopen hsub in
theorem moduleRule_consists (hk : n.kind = .module) :
    SatisfiesM (Consists Q) (moduleRule n sub m) := by
  refine .bind .trivial fun is _ => ?_
  refine .bind .trivial fun ignores _ => ?_
  refine .bind (documentedBody_consists hsub hopen (m.avoiding_withIgnores ignores) hk
    (by decide)) fun body hbody => ?_
  exact .pure (by simp [hopen.ignores, hbody])

include hQ hsub in
theorem functionTypeRule_consists (hk : n.kind = .functionType) :
    SatisfiesM (Consists Q) (functionTypeRule n sub m) := by
  refine .bind (readList_mem hk (by decide)) fun as has => ?_
  refine .bind (commaList_consists hQ hsub rfl has) fun args hargs => ?_
  refine .bind (readChild_mem hk (by decide)) fun r hr => ?_
  refine .bind (plain_consists hsub rfl hr) fun returns hreturns => ?_
  exact .pure (by simp (disch := decide) [punctuation hQ, hargs, hreturns])

include hopen hsub in
theorem exprStmtRule_consists (hk : n.kind = .exprStmt) :
    SatisfiesM (Consists Q) (exprStmtRule n sub m) := by
  refine .bind (readChild_mem hk (by decide)) fun v hv => ?_
  refine .bind (atLevel_consists hsub rfl .yield hv) fun value hvalue => ?_
  exact .pure (by simp [consists_line hopen, hvalue])

include hopen hsub in
theorem assignRule_consists (hk : n.kind = .assign) :
    SatisfiesM (Consists Q) (assignRule n sub m) := by
  refine .bind (readList_mem hk (by decide)) fun ts hts => ?_
  refine .bind (satisfiesM_mapM (Q := Consists Q) fun t ht => ?_) fun targets htargets => ?_
  · refine .bind (atLevel_consists hsub rfl .tuple (hts t ht)) fun target htarget => ?_
    exact .pure (by simp [hopen.text, htarget])
  · refine .bind (readChild_mem hk (by decide)) fun v hv => ?_
    refine .bind (plain_consists hsub rfl hv) fun value hvalue => ?_
    refine .bind (typeComment_consists hopen n m) fun comment hcomment => ?_
    exact .pure (by simp [consists_line hopen, consists_flatten htargets, hvalue, hcomment])

include hopen hsub in
theorem augAssignRule_consists (hk : n.kind = .augAssign) :
    SatisfiesM (Consists Q) (augAssignRule n sub m) := by
  refine .bind (readChild_mem hk (by decide)) fun t ht => ?_
  refine .bind (plain_consists hsub rfl ht) fun target htarget => ?_
  refine .bind (readChild_mem hk (by decide)) fun op _ => ?_
  refine .bind .trivial fun sign _ => ?_
  refine .bind (readChild_mem hk (by decide)) fun v hv => ?_
  refine .bind (plain_consists hsub rfl hv) fun value hvalue => ?_
  exact .pure (by simp [consists_line hopen, hopen.text, htarget, hvalue])

include hopen hsub in
theorem annAssignRule_consists (hk : n.kind = .annAssign) :
    SatisfiesM (Consists Q) (annAssignRule n sub m) := by
  refine .bind .trivial fun simple _ => ?_
  refine .bind (readChild_mem hk (by decide)) fun t ht => ?_
  refine .bind (plain_consists hsub rfl ht) fun target htarget => ?_
  refine .bind (readChild_mem hk (by decide)) fun a ha => ?_
  refine .bind (plain_consists hsub rfl ha) fun annotation hannotation => ?_
  refine .bind (optionalChild_mem hk (by decide)) fun v hv => ?_
  have hequals : Consists Q (word " = ") := by simp [hopen.text]
  refine .bind (optional_consists hsub rfl hequals hv) fun value hvalue => ?_
  have hbare := consists_parensIf (fun s _ => hopen.text s)
    (simple == 0 && t.1.kind == .name) htarget
  exact .pure (by simp [consists_line hopen, hopen.text, hbare, hannotation, hvalue])

include hopen hsub in
theorem returnRule_consists (hk : n.kind = .ret) :
    SatisfiesM (Consists Q) (returnRule n sub m) := by
  refine .bind (optionalChild_mem hk (by decide)) fun v hv => ?_
  have hgap : Consists Q (word " ") := by simp [hopen.text]
  refine .bind (optional_consists hsub rfl hgap hv) fun value hvalue => ?_
  exact .pure (by simp [consists_line hopen, hvalue])

include hopen hsub in
/-- A heading and a list of nodes after it. -/
theorem listed_consists (heading : String) (hk : n.kind = k) {f : Field} (hf : f ∈ k.fields) :
    SatisfiesM (Consists Q)
      (return line m heading ++ (← sub.commaList m (← n.readList f))) := by
  refine .bind (readList_mem hk hf) fun cs hcs => ?_
  refine .bind (commaList_consists (fun s _ => hopen.text s) hsub rfl hcs) fun text htext => ?_
  exact .pure (by simp [consists_line hopen, htext])

include hopen hsub in
theorem assertRule_consists (hk : n.kind = .assertion) :
    SatisfiesM (Consists Q) (assertRule n sub m) := by
  refine .bind (readChild_mem hk (by decide)) fun t ht => ?_
  refine .bind (plain_consists hsub rfl ht) fun test htest => ?_
  refine .bind (optionalChild_mem hk (by decide)) fun o ho => ?_
  have hcomma : Consists Q (word ", ") := by simp [hopen.text]
  refine .bind (optional_consists hsub rfl hcomma ho) fun msg hmsg => ?_
  exact .pure (by simp [consists_line hopen, htest, hmsg])

include hopen hsub in
theorem raiseRule_consists (hk : n.kind = .raise) :
    SatisfiesM (Consists Q) (raiseRule n sub m) := by
  refine .bind (optionalChild_mem hk (by decide)) fun e he => ?_
  refine match e with
    | none => .bind .trivial fun cause _ => ?_
    | some e => .bind (plain_consists hsub rfl (he e rfl)) fun text htext => ?_
  · cases cause with
    | none => exact .pure (consists_line hopen m _)
    | some _ => exact satisfiesM_error _
  · refine .bind (optionalChild_mem hk (by decide)) fun c hc => ?_
    have hfrom : Consists Q (word " from ") := by simp [hopen.text]
    refine .bind (optional_consists hsub rfl hfrom hc) fun cause hcause => ?_
    exact .pure (by simp [consists_line hopen, htext, hcause])

include hopen hsub in
theorem importFromRule_consists (hk : n.kind = .importFrom) :
    SatisfiesM (Consists Q) (importFromRule n sub m) := by
  refine .bind .trivial fun level _ => ?_
  refine .bind .trivial fun source _ => ?_
  refine .bind (readList_mem hk (by decide)) fun ns hns => ?_
  refine .bind (commaList_consists (fun s _ => hopen.text s) hsub rfl hns) fun names hnames => ?_
  exact .pure (by simp [consists_line hopen, hopen.text, hnames])

include hopen in
theorem namesRule_consists (opening : String) :
    SatisfiesM (Consists Q) (namesRule n m opening) := by
  refine .bind .trivial fun names _ => ?_
  have hjoined : Consists Q (joined ", " (names.map word)) :=
    consists_joined (hopen.text _) (by simp [hopen.text])
  exact .pure (by simp [consists_line hopen, hjoined])

include hopen hsub in
theorem tryRule_consists (starred : Bool) (hk : n.kind = k)
    (hf : ∀ f ∈ [.body, .handlers, .orelse, .finalbody], f ∈ k.fields) :
    SatisfiesM (Consists Q) (tryRule n sub m starred) := by
  have hm : (m.inTry starred).avoiding = m.avoiding := rfl
  refine .bind (body_consists hsub hm hk (hf _ (by decide))) fun body hbody => ?_
  refine .bind (readList_mem hk (hf _ (by decide))) fun hs hhs => ?_
  refine .bind (sequence_consists hsub hm hhs) fun handlers hhandlers => ?_
  refine .bind (block_consists hsub hopen hm _ hk (hf _ (by decide))) fun orelse horelse => ?_
  refine .bind (block_consists hsub hopen hm _ hk (hf _ (by decide))) fun final hfinal => ?_
  exact .pure (by simp [consists_line hopen, hopen.text, hbody, hhandlers, horelse, hfinal])

include hopen hsub in
theorem handlerRule_consists (hk : n.kind = .exceptHandler) :
    SatisfiesM (Consists Q) (handlerRule n sub m) := by
  refine .bind (optionalChild_mem hk (by decide)) fun t ht => ?_
  have hgap : Consists Q (word " ") := by simp [hopen.text]
  refine .bind (optional_consists hsub rfl hgap ht) fun type htype => ?_
  refine .bind .trivial fun name _ => ?_
  refine .bind (body_consists hsub rfl hk (by decide)) fun body hbody => ?_
  refine .pure ?_
  cases name with
  | none => simp [consists_line hopen, hopen.text, htype, hbody]
  | some x =>
    by_cases hx : x = "" <;> simp [consists_line hopen, hopen.text, htype, hbody, hx]

include hopen hsub in
theorem forRule_consists (opening : String) (hk : n.kind = k)
    (hf : ∀ f ∈ [.target, .iter, .body, .orelse], f ∈ k.fields) :
    SatisfiesM (Consists Q) (forRule n sub m opening) := by
  refine .bind (readChild_mem hk (hf _ (by decide))) fun t ht => ?_
  refine .bind (atLevel_consists hsub rfl .tuple ht) fun target htarget => ?_
  refine .bind (readChild_mem hk (hf _ (by decide))) fun i hi => ?_
  refine .bind (plain_consists hsub rfl hi) fun iter hiter => ?_
  refine .bind (typeComment_consists hopen n m) fun comment hcomment => ?_
  refine .bind (body_consists hsub rfl hk (hf _ (by decide))) fun body hbody => ?_
  refine .bind (block_consists hsub hopen rfl _ hk (hf _ (by decide))) fun orelse horelse => ?_
  exact .pure (by simp [consists_line hopen, hopen.text, htarget, hiter, hcomment, hbody, horelse])

include hopen hsub in
theorem ifRule_consists (hk : n.kind = .ifBranch) :
    SatisfiesM (Consists Q) (ifRule n sub m place) := by
  refine .bind (readChild_mem hk (by decide)) fun t ht => ?_
  refine .bind (plain_consists hsub rfl ht) fun test htest => ?_
  refine .bind (body_consists hsub rfl hk (by decide)) fun body hbody => ?_
  have hhead : ∀ s, Consists Q (line m s ++ test ++ word ":" ++ body) := by
    simp [consists_line hopen, hopen.text, htest, hbody]
  refine .bind (readList_mem hk (by decide)) fun cs hcs => ?_
  match cs with
  | [] => exact .pure (hhead _)
  | [only] =>
    have honly : only.1 ∈ n.children := hcs only (List.mem_singleton_self _)
    dsimp only
    split
    · refine .bind (hsub m rfl only honly .elif (by simp)) fun branch hbranch => ?_
      exact .pure (consists_append.mpr ⟨hhead _, hbranch⟩)
    · refine .bind (plain_consists hsub m.avoiding_deeper honly) fun text htext => ?_
      have hhead := hhead (if place = .elif then "elif " else "if ")
      exact .pure (by simpa [consists_line hopen, hopen.text, htext] using hhead)
  | c :: c' :: rest =>
    refine .bind (sequence_consists hsub m.avoiding_deeper hcs) fun text htext => ?_
    have hhead := hhead (if place = .elif then "elif " else "if ")
    exact .pure (by simpa [consists_line hopen, hopen.text, htext] using hhead)

include hopen hsub in
theorem whileRule_consists (hk : n.kind = .whileLoop) :
    SatisfiesM (Consists Q) (whileRule n sub m) := by
  refine .bind (readChild_mem hk (by decide)) fun t ht => ?_
  refine .bind (plain_consists hsub rfl ht) fun test htest => ?_
  refine .bind (body_consists hsub rfl hk (by decide)) fun body hbody => ?_
  refine .bind (block_consists hsub hopen rfl _ hk (by decide)) fun orelse horelse => ?_
  exact .pure (by simp [consists_line hopen, hopen.text, htest, hbody, horelse])

include hopen hsub in
theorem withRule_consists (opening : String) (hk : n.kind = k)
    (hf : ∀ f ∈ [.items, .body], f ∈ k.fields) :
    SatisfiesM (Consists Q) (withRule n sub m opening) := by
  refine .bind (readList_mem hk (hf _ (by decide))) fun is his => ?_
  refine .bind (commaList_consists (fun s _ => hopen.text s) hsub rfl his) fun items hitems => ?_
  refine .bind (typeComment_consists hopen n m) fun comment hcomment => ?_
  refine .bind (body_consists hsub rfl hk (hf _ (by decide))) fun body hbody => ?_
  exact .pure (by simp [consists_line hopen, hopen.text, hitems, hcomment, hbody])

include hopen hsub in
theorem matchRule_consists (hk : n.kind = .matchBlock) :
    SatisfiesM (Consists Q) (matchRule n sub m) := by
  refine .bind (readChild_mem hk (by decide)) fun s hs => ?_
  refine .bind (plain_consists hsub rfl hs) fun subject hsubject => ?_
  refine .bind (body_consists hsub rfl hk (by decide)) fun cases hcases => ?_
  exact .pure (by simp [consists_line hopen, hopen.text, hsubject, hcases])

include hopen hsub in
theorem matchCaseRule_consists (hk : n.kind = .matchCase) :
    SatisfiesM (Consists Q) (matchCaseRule n sub m) := by
  refine .bind (readChild_mem hk (by decide)) fun p hp => ?_
  refine .bind (plain_consists hsub rfl hp) fun pattern hpattern => ?_
  refine .bind (optionalChild_mem hk (by decide)) fun o ho => ?_
  have hif : Consists Q (word " if ") := by simp [hopen.text]
  refine .bind (optional_consists hsub rfl hif ho) fun guarded hguarded => ?_
  refine .bind (body_consists hsub rfl hk (by decide)) fun body hbody => ?_
  exact .pure (by simp [consists_line hopen, hopen.text, hpattern, hguarded, hbody])

end statements

/-! ## All rules -/

include hQ hwords hliteral hsub in
theorem rule_consists (hopen : n.kind.opensLine = true → OpensWith Q)
    (hrestart : n.restarts = true → Q .restart) (hplace : place ≠ .part)
    (hf : n.kind ≠ .formattedValue) (hj : n.kind ≠ .joinedStr) :
    SatisfiesM (Consists Q) (rule n sub m place) := by
  unfold rule
  rw [if_neg hplace]
  -- classes without fields have no children
  have hgeneric : (n.children ≠ [] → n.restarts = true) →
      SatisfiesM (Consists Q) (genericRule sub m) := fun h =>
    genericRule_consists hsub fun hchildren => hrestart (h hchildren)
  cases hk : n.kind
  case formattedValue => exact absurd hk hf
  case joinedStr => exact absurd hk hj
  case boolOp => exact boolOpRule_consists hQ hsub place hk
  case namedExpr => exact namedExprRule_consists hQ hsub place hk
  case binOp => exact binOpRule_consists hQ hsub place hk
  case unaryOp => exact unaryOpRule_consists hQ hsub place hk
  case lambda => exact lambdaRule_consists hQ hsub place hk
  case ifExp => exact ifExpRule_consists hQ hsub place hk
  case dict => exact dictRule_consists hQ hsub hk
  case set => exact setRule_consists hQ hsub hk
  case listComp | setComp | generator =>
    exact generatedRule_consists hQ hsub (by decide) (by decide) hk (by decide) (by decide)
  case dictComp => exact dictCompRule_consists hQ hsub hk
  case comprehension => exact comprehensionRule_consists hQ hsub hk
  case await => exact awaitRule_consists hQ hsub place hk
  case yield => exact yieldRule_consists hQ hsub place hk
  case yieldFrom => exact yieldFromRule_consists hQ hsub place hk
  case compare => exact compareRule_consists hQ hsub place hk
  case call => exact callRule_consists hQ hsub hk
  case keyword => exact keywordRule_consists hQ hwords hsub hk
  case constant => exact constantRule_consists hQ hliteral
  case access => exact accessRule_consists hQ hwords hsub hk
  case subscript => exact subscriptRule_consists hQ hsub hk
  case starred => exact starredRule_consists hQ hsub hk
  case name => exact (readWord_text hwords (by decide)).map consists_word.mpr
  case list | matchSequence => exact listRule_consists hQ hsub hk (by decide)
  case tuple => exact tupleRule_consists hQ hsub place hk
  case slice => exact sliceRule_consists hQ hsub hk
  case arguments => exact argumentsRule_consists hQ hsub hk
  case arg => exact argRule_consists hQ hwords hsub hk
  case withItem => exact withItemRule_consists hQ hsub hk
  case importedName => exact importedNameRule_consists hQ hwords
  case matchValue => exact matchValueRule_consists hsub hk
  case matchSingleton => exact matchSingletonRule_consists hliteral
  case matchMapping => exact matchMappingRule_consists hQ hwords hsub hk
  case matchClass => exact matchClassRule_consists hQ hwords hsub hk
  case matchStar => exact matchStarRule_consists hQ hwords
  case matchAs => exact matchAsRule_consists hQ hwords hsub place hk
  case matchOr => exact matchOrRule_consists hQ hsub place hk
  case functionType => exact functionTypeRule_consists hQ hsub hk
  case interactive | expression | typeIgnore =>
    exact hgeneric fun hchildren => by simp [restarts, hk, hchildren]
  case load | store | del | and | or | add | sub | mult | matMult | div | mod | pow | lShift
      | rShift | bitOr | bitXor | bitAnd | floorDiv | invert | not | uAdd | uSub | eq | notEq | lt
      | ltE | gt | gtE | is | isNot | inside | notInside =>
    exact hgeneric fun hchildren => absurd (by simp [children, hk, Kind.fields]) hchildren
  -- all others open lines
  all_goals
    have hopen : OpensWith Q := hopen (by rw [hk]; rfl)
  case module => exact moduleRule_consists hsub hopen hk
  case functionDef | asyncFunctionDef =>
    exact functionRule_consists hsub hopen _ hk (by decide)
  case classDef => exact classRule_consists hsub hopen hk
  case ret => exact returnRule_consists hsub hopen hk
  case delete | importNames => exact listed_consists hsub hopen _ hk (by decide)
  case assign => exact assignRule_consists hsub hopen hk
  case augAssign => exact augAssignRule_consists hsub hopen hk
  case annAssign => exact annAssignRule_consists hsub hopen hk
  case exprStmt => exact exprStmtRule_consists hsub hopen hk
  case forLoop | asyncFor => exact forRule_consists hsub hopen _ hk (by decide)
  case ifBranch => exact ifRule_consists hsub hopen place hk
  case whileLoop => exact whileRule_consists hsub hopen hk
  case withBlock | asyncWith => exact withRule_consists hsub hopen _ hk (by decide)
  case matchBlock => exact matchRule_consists hsub hopen hk
  case matchCase => exact matchCaseRule_consists hsub hopen hk
  case tryBlock | tryStar => exact tryRule_consists hsub hopen _ hk (by decide)
  case exceptHandler => exact handlerRule_consists hsub hopen hk
  case raise => exact raiseRule_consists hsub hopen hk
  case assertion => exact assertRule_consists hsub hopen hk
  case importFrom => exact importFromRule_consists hsub hopen hk
  case globalNames | nonlocalNames => exact namesRule_consists hopen _
  case pass | breakLoop | continueLoop => exact .pure (consists_line hopen m _)

end rules

end DefSite.Render
