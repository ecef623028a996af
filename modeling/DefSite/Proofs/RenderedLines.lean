import DefSite.Proofs.ExpressionLines

/-!
# Rendering does not show lines

A rule reads the line of a node to see that there is one, and to look it up among the lines of a
module whose types are ignored.  The lookup finds the same as long as different lines stay
different.  So a node on other lines is rendered as the node is, or fails as it does
(`render_mapLines`): each rule gives the same if it is given the same for the parts, and the parts
are smaller.
-/

namespace DefSite.Render

open Node Layout

section rules

variable {n : Node} {g : Int → Int} {sub : Parts n} {sub' : Parts (n.mapLines g)}
  (hsub : ∀ c c', IsImage c c' → ∀ m place, sub' c' (m.mapLines g) place = sub c m place)
  {c : n.Part} {c' : (n.mapLines g).Part} {cs : List n.Part} {cs' : List (n.mapLines g).Part}
  (m : Manner)

/-! ## Modules and statements -/

include hsub in
theorem classRule_congr : classRule (n.mapLines g) sub' (m.mapLines g) = classRule n sub m := by
  unfold classRule
  simp only [line_mapLines, Manner.deeper_mapLines]
  rw [decorators_congr hsub, readWord_mapLines, documentedBody_congr hsub]
  apply bind_congr
  intro decorated
  apply bind_congr
  intro name
  apply readList_congr
  intro bs bs' hbs
  rw [isEmpty_eq hbs, mapM_plain_congr hsub m hbs]
  -- keywords are read before the bases are rendered if there are no bases, and after it otherwise
  cases bs.isEmpty with
  | true =>
    apply readList_congr
    intro ks ks' hks
    apply bind_congr
    intro bases
    simp only [ite_true, pure_bind]
    rw [mapM_plain_congr hsub m hks, isEmpty_eq hks]
  | false =>
    simp only [Bool.false_eq_true, ite_false, pure_bind]
    apply bind_congr
    intro bases
    apply readList_congr
    intro ks ks' hks
    rw [mapM_plain_congr hsub m hks, isEmpty_eq hks]

theorem ignoredType_mapLines (g : Int → Int) (i : Node) :
    ignoredType (i.mapLines g) = (ignoredType i).map fun p => (g p.1, p.2) := by
  unfold ignoredType
  rw [readLine_mapLines, readWord_mapLines]
  cases i.readLine with
  | error e => rfl
  | ok line => cases i.readWord .tag <;> rfl

include hsub in
/-- The list of a module is moved along with all other lines. -/
theorem moduleRule_congr :
    moduleRule (n.mapLines g) sub' (m.mapLines g) = moduleRule n sub m := by
  apply readList_congr
  intro is is' his
  have hignores : (is'.mapM fun i => ignoredType i.1) =
      (is.mapM fun i => ignoredType i.1).map (List.map _) :=
    mapM_congr_map his fun i i' hi => by rw [hi, ignoredType_mapLines]
  rw [hignores]
  cases is.mapM fun i : n.Part => ignoredType i.1 with
  | error e => rfl
  | ok ignores =>
    have hbody := documentedBody_congr hsub (m.withIgnores ignores)
    exact congrArg (· >>= fun body => pure (.ignores true :: body ++ [.ignores false])) hbody

include hsub in
theorem functionTypeRule_congr :
    functionTypeRule (n.mapLines g) sub' (m.mapLines g) = functionTypeRule n sub m := by
  apply readList_congr
  intro as as' has
  rw [commaList_congr hsub m has]
  apply bind_congr
  intro args
  apply readChild_congr
  intro r r' hr
  rw [plain_congr hsub m hr]

include hsub in
theorem exprStmtRule_congr :
    exprStmtRule (n.mapLines g) sub' (m.mapLines g) = exprStmtRule n sub m := by
  apply readChild_congr
  intro v v' hv
  rw [atLevel_congr hsub m .yield hv, line_mapLines]

include hsub in
theorem assignRule_congr (hg : Function.Injective g) :
    assignRule (n.mapLines g) sub' (m.mapLines g) = assignRule n sub m := by
  unfold assignRule
  rw [typeComment_mapLines m hg]
  apply readList_congr
  intro ts ts' hts
  rw [mapM_congr hts fun t t' ht => by rw [atLevel_congr hsub m .tuple ht]]
  apply bind_congr
  intro targets
  apply readChild_congr
  intro v v' hv
  rw [plain_congr hsub m hv, line_mapLines]

include hsub in
theorem augAssignRule_congr :
    augAssignRule (n.mapLines g) sub' (m.mapLines g) = augAssignRule n sub m := by
  apply readChild_congr
  intro t t' ht
  rw [plain_congr hsub m ht]
  apply bind_congr
  intro target
  apply readChild_congr
  intro op op' hop
  rw [operator_congr binarySign? hop]
  apply bind_congr
  rintro ⟨sign, -⟩
  apply readChild_congr
  intro v v' hv
  rw [plain_congr hsub m hv, line_mapLines]

include hsub in
theorem annAssignRule_congr :
    annAssignRule (n.mapLines g) sub' (m.mapLines g) = annAssignRule n sub m := by
  unfold annAssignRule
  rw [readNumber_mapLines]
  apply bind_congr
  intro simple
  apply readChild_congr
  intro t t' ht
  rw [plain_congr hsub m ht, ht.kind_eq]
  apply bind_congr
  intro target
  apply readChild_congr
  intro a a' ha
  rw [plain_congr hsub m ha]
  apply bind_congr
  intro annotation
  apply optionalChild_congr
  intro v v' hv
  rw [optional_congr hsub m (word " = ") hv, line_mapLines]

include hsub in
theorem returnRule_congr : returnRule (n.mapLines g) sub' (m.mapLines g) = returnRule n sub m := by
  apply optionalChild_congr
  intro v v' hv
  rw [optional_congr hsub m (word " ") hv, line_mapLines]

include hsub in
theorem deleteRule_congr : deleteRule (n.mapLines g) sub' (m.mapLines g) = deleteRule n sub m := by
  apply readList_congr
  intro ts ts' hts
  rw [commaList_congr hsub m hts, line_mapLines]

include hsub in
theorem assertRule_congr : assertRule (n.mapLines g) sub' (m.mapLines g) = assertRule n sub m := by
  apply readChild_congr
  intro t t' ht
  rw [plain_congr hsub m ht]
  apply bind_congr
  intro test
  apply optionalChild_congr
  intro o o' ho
  rw [optional_congr hsub m (word ", ") ho, line_mapLines]

include hsub in
theorem raiseRule_congr : raiseRule (n.mapLines g) sub' (m.mapLines g) = raiseRule n sub m := by
  apply optionalChild_congr
  intro e e' he
  cases he with
  | none =>
    apply optionalChild_congr
    intro cause cause' hcause
    cases hcause <;> rfl
  | some he =>
    dsimp only
    rw [plain_congr hsub m he]
    apply bind_congr
    intro text
    apply optionalChild_congr
    intro cause cause' hcause
    rw [optional_congr hsub m (word " from ") hcause, line_mapLines]

include hsub in
theorem importRule_congr : importRule (n.mapLines g) sub' (m.mapLines g) = importRule n sub m := by
  apply readList_congr
  intro ns ns' hns
  rw [commaList_congr hsub m hns, line_mapLines]

include hsub in
theorem importFromRule_congr :
    importFromRule (n.mapLines g) sub' (m.mapLines g) = importFromRule n sub m := by
  unfold importFromRule
  rw [optionalNumber_mapLines, optionalWord_mapLines]
  apply bind_congr
  intro level
  apply bind_congr
  intro source
  apply readList_congr
  intro ns ns' hns
  rw [commaList_congr hsub m hns, line_mapLines]

theorem namesRule_mapLines (g : Int → Int) (n : Node) (opening : String) :
    namesRule (n.mapLines g) (m.mapLines g) opening = namesRule n m opening := by
  unfold namesRule
  rw [readWords_mapLines, line_mapLines]

include hsub in
theorem tryRule_congr (starred : Bool) :
    tryRule (n.mapLines g) sub' (m.mapLines g) starred = tryRule n sub m starred := by
  unfold tryRule
  simp only [line_mapLines, Manner.inTry_mapLines]
  rw [body_congr hsub, block_congr hsub, block_congr hsub]
  apply bind_congr
  intro body
  apply readList_congr
  intro hs hs' hhs
  rw [sequence_congr hsub (m.inTry starred) hhs]

include hsub in
theorem handlerRule_congr :
    handlerRule (n.mapLines g) sub' (m.mapLines g) = handlerRule n sub m := by
  unfold handlerRule
  rw [optionalWord_mapLines, body_congr hsub]
  apply optionalChild_congr
  intro t t' ht
  rw [optional_congr hsub m (word " ") ht]
  rfl

include hsub in
theorem forRule_congr (hg : Function.Injective g) (opening : String) :
    forRule (n.mapLines g) sub' (m.mapLines g) opening = forRule n sub m opening := by
  unfold forRule
  simp only [line_mapLines]
  rw [typeComment_mapLines m hg, body_congr hsub, block_congr hsub]
  apply readChild_congr
  intro t t' ht
  rw [atLevel_congr hsub m .tuple ht]
  apply bind_congr
  intro target
  apply readChild_congr
  intro i i' hi
  rw [plain_congr hsub m hi]

include hsub in
theorem ifRule_congr (place : Place) :
    ifRule (n.mapLines g) sub' (m.mapLines g) place = ifRule n sub m place := by
  unfold ifRule
  simp only [line_mapLines, Manner.deeper_mapLines]
  rw [body_congr hsub]
  apply readChild_congr
  intro t t' ht
  rw [plain_congr hsub m ht]
  apply bind_congr
  intro test
  apply bind_congr
  intro body
  apply readList_congr
  intro cs cs' hcs
  cases hcs with
  | nil => rfl
  | cons hc hcs =>
    cases hcs with
    | nil =>
      dsimp only
      rw [hc.kind_eq, hsub _ _ hc m, plain_congr hsub m.deeper hc]
    | cons hc' hcs =>
      dsimp only
      rw [sequence_congr hsub m.deeper (.cons hc (.cons hc' hcs))]

include hsub in
theorem whileRule_congr : whileRule (n.mapLines g) sub' (m.mapLines g) = whileRule n sub m := by
  unfold whileRule
  simp only [line_mapLines]
  rw [body_congr hsub, block_congr hsub]
  apply readChild_congr
  intro t t' ht
  rw [plain_congr hsub m ht]

include hsub in
theorem withRule_congr (hg : Function.Injective g) (opening : String) :
    withRule (n.mapLines g) sub' (m.mapLines g) opening = withRule n sub m opening := by
  unfold withRule
  simp only [line_mapLines]
  rw [typeComment_mapLines m hg, body_congr hsub]
  apply readList_congr
  intro is is' his
  rw [commaList_congr hsub m his]

include hsub in
theorem matchRule_congr : matchRule (n.mapLines g) sub' (m.mapLines g) = matchRule n sub m := by
  unfold matchRule
  simp only [line_mapLines]
  rw [body_congr hsub]
  apply readChild_congr
  intro s s' hs
  rw [plain_congr hsub m hs]

include hsub in
theorem matchCaseRule_congr :
    matchCaseRule (n.mapLines g) sub' (m.mapLines g) = matchCaseRule n sub m := by
  unfold matchCaseRule
  simp only [line_mapLines]
  rw [body_congr hsub]
  apply readChild_congr
  intro p p' hp
  rw [plain_congr hsub m hp]
  apply bind_congr
  intro pattern
  apply optionalChild_congr
  intro o o' ho
  rw [optional_congr hsub m (word " if ") ho]

/-! ## All rules -/

include hsub in
theorem rule_congr (hg : Function.Injective g) (place : Place) :
    rule (n.mapLines g) sub' (m.mapLines g) place = rule n sub m place := by
  unfold rule
  rw [partRule_congr hsub, kind_mapLines, moduleRule_congr hsub, functionTypeRule_congr hsub,
    functionRule_congr hsub m hg, functionRule_congr hsub m hg, classRule_congr hsub,
    returnRule_congr hsub, deleteRule_congr hsub, assignRule_congr hsub m hg,
    augAssignRule_congr hsub, annAssignRule_congr hsub, exprStmtRule_congr hsub,
    forRule_congr hsub m hg, forRule_congr hsub m hg, ifRule_congr hsub, whileRule_congr hsub,
    withRule_congr hsub m hg, withRule_congr hsub m hg, withItemRule_congr hsub,
    matchRule_congr hsub, matchCaseRule_congr hsub, tryRule_congr hsub, tryRule_congr hsub,
    handlerRule_congr hsub, raiseRule_congr hsub, assertRule_congr hsub, importRule_congr hsub,
    importFromRule_congr hsub, importedNameRule_mapLines, namesRule_mapLines, namesRule_mapLines,
    line_mapLines, line_mapLines, line_mapLines, boolOpRule_congr hsub, namedExprRule_congr hsub,
    binOpRule_congr hsub, unaryOpRule_congr hsub, lambdaRule_congr hsub, ifExpRule_congr hsub,
    dictRule_congr hsub, setRule_congr hsub, generatedRule_congr hsub, generatedRule_congr hsub,
    generatedRule_congr hsub, dictCompRule_congr hsub, comprehensionRule_congr hsub,
    awaitRule_congr hsub, yieldRule_congr hsub, yieldFromRule_congr hsub, compareRule_congr hsub,
    callRule_congr hsub, keywordRule_congr hsub, formattedValueRule_congr hsub,
    joinedStrRule_congr hsub, constantRule_mapLines, accessRule_congr hsub,
    subscriptRule_congr hsub, starredRule_congr hsub, readWord_mapLines, listRule_congr hsub,
    tupleRule_congr hsub, sliceRule_congr hsub, argumentsRule_congr hsub, argRule_congr hsub,
    matchValueRule_congr hsub, matchSingletonRule_mapLines, listRule_congr hsub,
    matchMappingRule_congr hsub, matchClassRule_congr hsub, matchStarRule_mapLines,
    matchAsRule_congr hsub, matchOrRule_congr hsub, genericRule_congr hsub]

end rules

theorem render_mapLines {g : Int → Int} (hg : Function.Injective g) (n : Node) (m : Manner)
    (place : Place) : render (n.mapLines g) (m.mapLines g) place = render n m place := by
  rw [render_eq, render_eq]
  apply rule_congr _ m hg
  intro c c' hc m place
  rw [hc]
  exact render_mapLines hg c.1 m place
termination_by sizeOf n
decreasing_by exact c.2

end DefSite.Render

namespace DefSite.Node

/-- A node on other lines is written as the same source, or fails to be for the same reason. -/
theorem source_mapLines {g : Int → Int} (hg : Function.Injective g) (n : Node) :
    (n.mapLines g).source = n.source := by
  have hrender := Render.render_mapLines hg n {} (.level .test)
  unfold source
  rw [← hrender]
  rfl

end DefSite.Node
