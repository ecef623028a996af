import DefSite.Proofs.PartLines

/-!
# Expressions on other lines

No rule for an expression, a pattern or a parameter reads a line.
-/

namespace DefSite.Render

open Node Layout

section rules

variable {n : Node} {g : Int → Int} {sub : Parts n} {sub' : Parts (n.mapLines g)}
  (hsub : ∀ c c', IsImage c c' → ∀ m place, sub' c' (m.mapLines g) place = sub c m place)
  {c : n.Part} {c' : (n.mapLines g).Part} {cs : List n.Part} {cs' : List (n.mapLines g).Part}
  (m : Manner)

/-! ## Expressions -/

include hsub in
theorem boolOpRule_congr (place : Place) :
    boolOpRule (n.mapLines g) sub' (m.mapLines g) place = boolOpRule n sub m place := by
  have hgo : ∀ (l : Level) {vs : List n.Part} {vs' : List (n.mapLines g).Part},
      List.Forall₂ IsImage vs vs' →
        boolOpRule.go (n.mapLines g) sub' (m.mapLines g) l vs' = boolOpRule.go n sub m l vs := by
    intro l vs vs' hvs
    induction hvs generalizing l with
    | nil => rfl
    | cons hv _ ih =>
      simp only [boolOpRule.go]
      rw [atLevel_congr hsub m l.next hv, ih]
  apply readChild_congr
  intro op op' hop
  rw [operator_congr connective? hop]
  apply bind_congr
  rintro ⟨text, own⟩
  apply readList_congr
  intro vs vs' hvs
  rw [hgo own hvs]

include hsub in
theorem namedExprRule_congr (place : Place) :
    namedExprRule (n.mapLines g) sub' (m.mapLines g) place = namedExprRule n sub m place := by
  apply readChild_congr
  intro t t' ht
  apply readChild_congr
  intro v v' hv
  rw [atLevel_congr hsub m .atom ht, atLevel_congr hsub m .atom hv]

include hsub in
theorem binOpRule_congr (place : Place) :
    binOpRule (n.mapLines g) sub' (m.mapLines g) place = binOpRule n sub m place := by
  apply readChild_congr
  intro op op' hop
  rw [operator_congr binarySign? hop]
  apply bind_congr
  rintro ⟨sign, own⟩
  apply readChild_congr
  intro l l' hl
  rw [atLevel_congr hsub m _ hl]
  apply bind_congr
  intro left
  apply readChild_congr
  intro r r' hr
  rw [atLevel_congr hsub m _ hr]

include hsub in
theorem unaryOpRule_congr (place : Place) :
    unaryOpRule (n.mapLines g) sub' (m.mapLines g) place = unaryOpRule n sub m place := by
  apply readChild_congr
  intro op op' hop
  rw [operator_congr unarySign? hop]
  apply bind_congr
  rintro ⟨sign, own⟩
  apply readChild_congr
  intro o o' ho
  rw [atLevel_congr hsub m own ho]

include hsub in
theorem compareRule_congr (place : Place) :
    compareRule (n.mapLines g) sub' (m.mapLines g) place = compareRule n sub m place := by
  apply readChild_congr
  intro l l' hl
  apply readList_congr
  intro cs cs' hcs
  rw [atLevel_congr hsub m .expr hl]
  apply bind_congr
  intro left
  apply readList_congr
  intro ops ops' hops
  rw [mapM_congr (forall₂_zip hops hcs)]
  rintro ⟨op, c⟩ ⟨op', c'⟩ ⟨hop, hc⟩
  dsimp only
  rw [operator_congr comparison? hop, atLevel_congr hsub m .expr hc]

include hsub in
theorem lambdaRule_congr (place : Place) :
    lambdaRule (n.mapLines g) sub' (m.mapLines g) place = lambdaRule n sub m place := by
  apply readChild_congr
  intro ps ps' hps
  rw [plain_congr hsub m hps]
  apply bind_congr
  intro params
  apply readChild_congr
  intro b b' hb
  rw [plain_congr hsub m hb]

include hsub in
theorem ifExpRule_congr (place : Place) :
    ifExpRule (n.mapLines g) sub' (m.mapLines g) place = ifExpRule n sub m place := by
  apply readChild_congr
  intro b b' hb
  apply readChild_congr
  intro t t' ht
  rw [atLevel_congr hsub m .or hb, atLevel_congr hsub m .or ht]
  apply bind_congr
  intro body
  apply bind_congr
  intro test
  apply readChild_congr
  intro o o' ho
  rw [plain_congr hsub m ho]

include hsub in
theorem dictRule_congr : dictRule (n.mapLines g) sub' (m.mapLines g) = dictRule n sub m := by
  apply readSlots_congr
  intro ks ks' hks
  apply readList_congr
  intro vs vs' hvs
  rw [mapM_congr (forall₂_zip hks hvs)]
  rintro ⟨k, v⟩ ⟨k', v'⟩ ⟨hk, hv⟩
  cases hk with
  | none =>
    dsimp only
    rw [atLevel_congr hsub m .expr hv]
  | some hk =>
    dsimp only
    rw [plain_congr hsub m hk, plain_congr hsub m hv]

include hsub in
theorem setRule_congr : setRule (n.mapLines g) sub' (m.mapLines g) = setRule n sub m := by
  apply readList_congr
  intro es es' hes
  rw [commaList_congr hsub m hes, isEmpty_eq hes]

include hsub in
theorem generatedRule_congr (left right : String) :
    generatedRule (n.mapLines g) sub' (m.mapLines g) left right =
      generatedRule n sub m left right := by
  apply readChild_congr
  intro e e' he
  rw [plain_congr hsub m he]
  apply bind_congr
  intro elt
  apply readList_congr
  intro gs gs' hgs
  rw [sequence_congr hsub m hgs]

include hsub in
theorem dictCompRule_congr :
    dictCompRule (n.mapLines g) sub' (m.mapLines g) = dictCompRule n sub m := by
  apply readChild_congr
  intro k k' hk
  rw [plain_congr hsub m hk]
  apply bind_congr
  intro key
  apply readChild_congr
  intro v v' hv
  rw [plain_congr hsub m hv]
  apply bind_congr
  intro value
  apply readList_congr
  intro gs gs' hgs
  rw [sequence_congr hsub m hgs]

include hsub in
theorem comprehensionRule_congr :
    comprehensionRule (n.mapLines g) sub' (m.mapLines g) = comprehensionRule n sub m := by
  unfold comprehensionRule
  rw [readNumber_mapLines]
  apply bind_congr
  intro isAsync
  apply readChild_congr
  intro t t' ht
  rw [atLevel_congr hsub m .tuple ht]
  apply bind_congr
  intro target
  apply readChild_congr
  intro i i' hi
  apply readList_congr
  intro cs cs' hcs
  rw [atLevel_congr hsub m .or hi]
  apply bind_congr
  intro iter
  rw [mapM_congr hcs fun c c' hc => by rw [atLevel_congr hsub m .or hc]]

include hsub in
theorem awaitRule_congr (place : Place) :
    awaitRule (n.mapLines g) sub' (m.mapLines g) place = awaitRule n sub m place := by
  apply readChild_congr
  intro v v' hv
  rw [atLevel_congr hsub m .atom hv]

include hsub in
theorem yieldRule_congr (place : Place) :
    yieldRule (n.mapLines g) sub' (m.mapLines g) place = yieldRule n sub m place := by
  apply optionalChild_congr
  intro v v' hv
  cases hv with
  | none => rfl
  | some hv =>
    dsimp only
    rw [atLevel_congr hsub m .atom hv]

include hsub in
theorem yieldFromRule_congr (place : Place) :
    yieldFromRule (n.mapLines g) sub' (m.mapLines g) place = yieldFromRule n sub m place := by
  apply readChild_congr
  intro v v' hv
  rw [atLevel_congr hsub m .atom hv]

include hsub in
theorem callRule_congr : callRule (n.mapLines g) sub' (m.mapLines g) = callRule n sub m := by
  apply readChild_congr
  intro f f' hf
  rw [atLevel_congr hsub m .atom hf]
  apply bind_congr
  intro func
  apply readList_congr
  intro as as' has
  rw [mapM_plain_congr hsub m has]
  apply bind_congr
  intro args
  apply readList_congr
  intro ks ks' hks
  rw [mapM_plain_congr hsub m hks]

include hsub in
theorem keywordRule_congr :
    keywordRule (n.mapLines g) sub' (m.mapLines g) = keywordRule n sub m := by
  unfold keywordRule
  rw [optionalWord_mapLines]
  apply bind_congr
  intro name
  apply readChild_congr
  intro v v' hv
  rw [plain_congr hsub m hv]

include hsub in
theorem starredRule_congr :
    starredRule (n.mapLines g) sub' (m.mapLines g) = starredRule n sub m := by
  apply readChild_congr
  intro v v' hv
  rw [atLevel_congr hsub m .expr hv]

theorem constantRule_mapLines (g : Int → Int) (n : Node) :
    constantRule (n.mapLines g) (m.mapLines g) = constantRule n m := by
  unfold constantRule
  rw [readLiteral_mapLines, optionalWord_mapLines, Manner.avoiding_mapLines]

include hsub in
theorem accessRule_congr : accessRule (n.mapLines g) sub' (m.mapLines g) = accessRule n sub m := by
  have hwhole : ∀ m : Node, isWholeNumber (m.mapLines g) = isWholeNumber m := by
    intro m
    unfold isWholeNumber
    rw [kind_mapLines, readLiteral_mapLines]
  unfold accessRule
  rw [readWord_mapLines]
  apply readChild_congr
  intro v v' hv
  rw [atLevel_congr hsub m .atom hv, hv, hwhole]

include hsub in
theorem subscriptRule_congr :
    subscriptRule (n.mapLines g) sub' (m.mapLines g) = subscriptRule n sub m := by
  apply readChild_congr
  intro v v' hv
  rw [atLevel_congr hsub m .atom hv]
  apply bind_congr
  intro value
  apply readChild_congr
  intro s s' hs
  rw [hsub s s' hs m]

include hsub in
theorem sliceRule_congr : sliceRule (n.mapLines g) sub' (m.mapLines g) = sliceRule n sub m := by
  apply optionalChild_congr
  intro l l' hl
  rw [optional_congr hsub m [] hl]
  apply bind_congr
  intro lower
  apply optionalChild_congr
  intro u u' hu
  rw [optional_congr hsub m [] hu]
  apply bind_congr
  intro upper
  apply optionalChild_congr
  intro s s' hs
  rw [optional_congr hsub m (word ":") hs]

include hsub in
theorem tupleRule_congr (place : Place) :
    tupleRule (n.mapLines g) sub' (m.mapLines g) place = tupleRule n sub m place := by
  apply readList_congr
  intro es es' hes
  rw [mapM_plain_congr hsub m hes, isEmpty_eq hes]

include hsub in
theorem listRule_congr (f : Field) :
    listRule (n.mapLines g) sub' (m.mapLines g) f = listRule n sub m f := by
  apply readList_congr
  intro es es' hes
  rw [commaList_congr hsub m hes]

/-! ## Formatted strings -/

include hsub in
theorem formatText_congr : formatText (n.mapLines g) sub' (m.mapLines g) = formatText n sub m := by
  apply optionalChild_congr
  intro f f' hf
  cases hf with
  | none => rfl
  | some hf =>
    dsimp only
    rw [hsub _ _ hf m]

include hsub in
theorem formattedValueRule_congr :
    formattedValueRule (n.mapLines g) sub' (m.mapLines g) = formattedValueRule n sub m := by
  unfold formattedValueRule
  rw [readNumber_mapLines, formatText_congr hsub]
  apply readChild_congr
  intro v v' hv
  rw [← atLevel_congr hsub .embedded .or hv, Manner.embedded_mapLines]

include hsub in
theorem mapM_part_congr (hcs : List.Forall₂ IsImage cs cs') :
    (cs'.mapM fun v => sub' v (m.mapLines g) .part) = cs.mapM fun v => sub v m .part := by
  apply mapM_congr hcs
  intro c c' hc
  rw [hsub c c' hc m]

include hsub in
theorem joinedStrRule_congr :
    joinedStrRule (n.mapLines g) sub' (m.mapLines g) = joinedStrRule n sub m := by
  apply readList_congr
  intro vs vs' hvs
  rw [Manner.avoiding_mapLines, mapM_congr hvs]
  intro v v' hv
  rw [hsub v v' hv m, hv.kind_eq]

include hsub in
theorem partRule_congr : partRule (n.mapLines g) sub' (m.mapLines g) = partRule n sub m := by
  unfold partRule
  rw [kind_mapLines, formattedValueRule_congr hsub, readLiteral_mapLines]
  split
  · apply readList_congr
    intro vs vs' hvs
    rw [mapM_part_congr hsub m hvs]
  all_goals rfl

/-! ## Patterns -/

include hsub in
theorem matchValueRule_congr :
    matchValueRule (n.mapLines g) sub' (m.mapLines g) = matchValueRule n sub m := by
  apply readChild_congr
  intro v v' hv
  rw [plain_congr hsub m hv]

theorem matchSingletonRule_mapLines (g : Int → Int) (n : Node) :
    matchSingletonRule (n.mapLines g) (m.mapLines g) = matchSingletonRule n m := by
  unfold matchSingletonRule
  rw [readLiteral_mapLines, Manner.avoiding_mapLines]

theorem matchStarRule_mapLines (g : Int → Int) (n : Node) :
    matchStarRule (n.mapLines g) = matchStarRule n := by
  unfold matchStarRule
  rw [optionalWord_mapLines]

include hsub in
theorem pairedRule_congr {α β : Type} {R : α → β → Prop} {before : α → Except Fault Layout}
    {before' : β → Except Fault Layout} (hbefore : ∀ a b, R a b → before' b = before a)
    {as : List α} {bs : List β} (has : List.Forall₂ R as bs)
    (hcs : List.Forall₂ IsImage cs cs') :
    pairedRule (n.mapLines g) sub' (m.mapLines g) before' bs cs' =
      pairedRule n sub m before as cs := by
  unfold pairedRule
  rw [has.length_eq, hcs.length_eq, mapM_congr (forall₂_zip has hcs)]
  rintro ⟨a, c⟩ ⟨b, c'⟩ ⟨hab, hc⟩
  dsimp only
  rw [hbefore a b hab, plain_congr hsub m hc]

include hsub in
theorem matchMappingRule_congr :
    matchMappingRule (n.mapLines g) sub' (m.mapLines g) = matchMappingRule n sub m := by
  unfold matchMappingRule
  rw [optionalWord_mapLines]
  apply readList_congr
  intro ks ks' hks
  apply readList_congr
  intro ps ps' hps
  rw [pairedRule_congr hsub m (fun k k' hk => by rw [plain_congr hsub m hk]) hks hps]

include hsub in
theorem matchClassRule_congr :
    matchClassRule (n.mapLines g) sub' (m.mapLines g) = matchClassRule n sub m := by
  unfold matchClassRule
  rw [readWords_mapLines]
  apply readChild_congr
  intro c c' hc
  rw [atLevel_congr hsub m .atom hc]
  apply bind_congr
  intro cls
  apply readList_congr
  intro ps ps' hps
  rw [mapM_plain_congr hsub m hps]
  apply bind_congr
  intro positional
  apply bind_congr
  intro names
  cases names.isEmpty with
  | true => rfl
  | false =>
    simp only [Bool.false_eq_true, ite_false]
    apply readList_congr
    intro ks ks' hks
    rw [pairedRule_congr hsub m (R := Eq) (fun a b hab => by rw [hab])
      (List.forall₂_refl names) hks]

include hsub in
theorem matchAsRule_congr (place : Place) :
    matchAsRule (n.mapLines g) sub' (m.mapLines g) place = matchAsRule n sub m place := by
  unfold matchAsRule
  rw [optionalWord_mapLines]
  apply bind_congr
  intro name
  apply optionalChild_congr
  intro p p' hp
  cases name with
  | none => rfl
  | some name =>
    cases hp with
    | none => rfl
    | some hp =>
      dsimp only
      rw [atLevel_congr hsub m .expr hp]

include hsub in
theorem matchOrRule_congr (place : Place) :
    matchOrRule (n.mapLines g) sub' (m.mapLines g) place = matchOrRule n sub m place := by
  apply readList_congr
  intro ps ps' hps
  rw [mapM_congr hps fun p p' hp => atLevel_congr hsub m Level.expr.next hp]

/-! ## Parameters and the like -/

include hsub in
theorem parameter_congr {d : Option n.Part} {d' : Option (n.mapLines g).Part}
    (hc : IsImage c c') (hd : Option.Rel IsImage d d') :
    parameter (n.mapLines g) sub' (m.mapLines g) c' d' = parameter n sub m c d := by
  unfold parameter
  rw [plain_congr hsub m hc, optional_congr hsub m (word "=") hd]

include hsub in
theorem argumentsRule_congr :
    argumentsRule (n.mapLines g) sub' (m.mapLines g) = argumentsRule n sub m := by
  apply readList_congr
  intro ps ps' hps
  apply readList_congr
  intro as as' has
  apply readList_congr
  intro ds ds' hds
  have hpositional : List.Forall₂ IsImage (ps ++ as) (ps' ++ as') := List.rel_append hps has
  have hdefaults : List.Forall₂ (Option.Rel IsImage)
      (List.replicate ((ps ++ as).length - ds.length) none ++ ds.map some)
      (List.replicate ((ps' ++ as').length - ds'.length) none ++ ds'.map some) := by
    rw [hpositional.length_eq, hds.length_eq]
    exact List.rel_append (forall₂_replicate .none _) (List.rel_map (fun _ _ hd => .some hd) hds)
  dsimp only
  rw [mapM_congr (forall₂_zipIdx (forall₂_zip hpositional hdefaults) 0)]
  · apply bind_congr
    intro first
    -- a star stands before a parameter of its own, or alone before parameters given by name only;
    -- what is read after it does not depend on it, and the same goes for those parameters
    apply optionalChild_congr
    intro v v' hv
    cases hv
    case' none =>
      apply readList_congr
      intro ks ks' hks
      rw [isEmpty_eq hks, pure_bind, pure_bind]
    case' some v v' hv =>
      dsimp only
      rw [plain_congr hsub m hv]
      apply bind_congr
      intro text
      rw [pure_bind, pure_bind]
    all_goals
      apply readList_congr
      intro ks ks' hks
      rw [isEmpty_eq hks]
      cases ks.isEmpty
      case' true => simp only [ite_true, pure_bind]
      case' false =>
        simp only [Bool.false_eq_true, ite_false]
        apply readSlots_congr
        intro ds ds' hds
        rw [mapM_congr (forall₂_zip hks hds) fun p p' hp => parameter_congr hsub m hp.1 hp.2]
        apply bind_congr
        intro named
      all_goals
        apply optionalChild_congr
        intro k k' hk
        cases hk with
        | none => rfl
        | some hk =>
          dsimp only
          rw [plain_congr hsub m hk]
  · rintro ⟨⟨c, d⟩, i⟩ ⟨⟨c', d'⟩, i'⟩ ⟨⟨hc, hd⟩, rfl⟩
    dsimp only
    rw [parameter_congr hsub m hc hd, hps.length_eq]

include hsub in
theorem argRule_congr : argRule (n.mapLines g) sub' (m.mapLines g) = argRule n sub m := by
  unfold argRule
  rw [readWord_mapLines]
  apply bind_congr
  intro name
  apply optionalChild_congr
  intro a a' ha
  rw [optional_congr hsub m (word ": ") ha]

include hsub in
theorem withItemRule_congr :
    withItemRule (n.mapLines g) sub' (m.mapLines g) = withItemRule n sub m := by
  apply readChild_congr
  intro e e' he
  rw [plain_congr hsub m he]
  apply bind_congr
  intro context
  apply optionalChild_congr
  intro v v' hv
  rw [optional_congr hsub m (word " as ") hv]

theorem importedNameRule_mapLines (g : Int → Int) (n : Node) :
    importedNameRule (n.mapLines g) = importedNameRule n := by
  unfold importedNameRule
  rw [readWord_mapLines, optionalWord_mapLines]

end rules

end DefSite.Render
