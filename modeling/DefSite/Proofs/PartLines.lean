import DefSite.Proofs.Relining
import DefSite.Render.Source

/-!
# Parts on other lines

A manner of rendering knows of lines, those whose types are ignored.  If the parts of a node are
rendered alike on other lines, by a manner that knows of those, then so is all that rules put
together from them: lists, bodies, blocks, decorators and the comments behind a heading.
-/

namespace DefSite.Render

open Node Layout

/-! ## Manners on other lines -/

/-- A manner with `g` applied to the lines that it knows of. -/
def Manner.mapLines (g : Int → Int) (m : Manner) : Manner :=
  m.withIgnores (m.ignores.map fun p => (g p.1, p.2))

namespace Manner

variable {g : Int → Int} {m : Manner}

@[simp] theorem deeper_mapLines : (m.mapLines g).deeper = m.deeper.mapLines g :=
  rfl

@[simp] theorem inTry_mapLines (starred : Bool) :
    (m.mapLines g).inTry starred = (m.inTry starred).mapLines g :=
  rfl

@[simp] theorem avoiding_mapLines : (m.mapLines g).avoiding = m.avoiding :=
  rfl

@[simp] theorem embedded_mapLines : embedded.mapLines g = embedded :=
  rfl

theorem lookup_map {β : Type} (hg : Function.Injective g) (line : Int) (l : List (Int × β)) :
    (l.map fun p => (g p.1, p.2)).lookup (g line) = l.lookup line := by
  induction l with
  | nil => rfl
  | cons p l ih =>
    have hkey : (g line == g p.1) = (line == p.1) :=
      Bool.eq_iff_iff.mpr (by simpa using hg.eq_iff)
    rw [List.map_cons, List.lookup_cons, List.lookup_cons, ih, hkey]

theorem ignored?_mapLines (hg : Function.Injective g) (line : Int) :
    (m.mapLines g).ignored? (g line) = m.ignored? line := by
  unfold ignored?
  rw [mapLines, withIgnores, ← List.map_reverse, lookup_map hg]

end Manner

@[simp] theorem line_mapLines (g : Int → Int) (m : Manner) (s : String) :
    line (m.mapLines g) s = line m s :=
  rfl

section rules

variable {n : Node} {g : Int → Int} {sub : Parts n} {sub' : Parts (n.mapLines g)}
  (hsub : ∀ c c', IsImage c c' → ∀ m place, sub' c' (m.mapLines g) place = sub c m place)
  {c : n.Part} {c' : (n.mapLines g).Part} {cs : List n.Part} {cs' : List (n.mapLines g).Part}
  (m : Manner)

/-! ## Ways to render parts -/

include hsub in
theorem plain_congr (hc : IsImage c c') : sub'.plain (m.mapLines g) c' = sub.plain m c := by
  unfold Parts.plain
  rw [hsub c c' hc m]

include hsub in
theorem atLevel_congr (l : Level) (hc : IsImage c c') :
    sub'.atLevel (m.mapLines g) l c' = sub.atLevel m l c := by
  unfold Parts.atLevel
  rw [hsub c c' hc m]

include hsub in
theorem mapM_plain_congr (hcs : List.Forall₂ IsImage cs cs') :
    cs'.mapM (sub'.plain (m.mapLines g)) = cs.mapM (sub.plain m) := by
  apply mapM_congr hcs
  intro c c' hc
  exact plain_congr hsub m hc

include hsub in
theorem commaList_congr (hcs : List.Forall₂ IsImage cs cs') :
    sub'.commaList (m.mapLines g) cs' = sub.commaList m cs := by
  unfold Parts.commaList
  rw [mapM_plain_congr hsub m hcs]

include hsub in
theorem sequence_congr (hcs : List.Forall₂ IsImage cs cs') :
    sub'.sequence (m.mapLines g) cs' = sub.sequence m cs := by
  unfold Parts.sequence
  rw [mapM_plain_congr hsub m hcs]

include hsub in
theorem optional_congr (before : Layout) {o : Option n.Part} {o' : Option (n.mapLines g).Part}
    (ho : Option.Rel IsImage o o') :
    sub'.optional (m.mapLines g) before o' = sub.optional m before o := by
  cases ho with
  | none => rfl
  | some hc =>
    simp only [Parts.optional]
    rw [plain_congr hsub m hc]

include hsub in
theorem body_congr (f : Field) : sub'.body (m.mapLines g) f = sub.body m f := by
  apply readList_congr
  intro cs cs' hcs
  exact sequence_congr hsub m.deeper hcs

include hsub in
theorem block_congr (heading : String) (f : Field) :
    sub'.block (m.mapLines g) heading f = sub.block m heading f := by
  apply readList_congr
  intro cs cs' hcs
  cases hcs with
  | nil => rfl
  | cons hc hcs =>
    simp only [line_mapLines, Manner.deeper_mapLines]
    rw [sequence_congr hsub m.deeper (.cons hc hcs)]

/-! ## Parts shared by several classes -/

theorem operator_congr {α : Type} (table : Kind → Option α) (hc : IsImage c c') :
    operator table c'.1 = operator table c.1 := by
  unfold operator
  rw [hc.kind_eq]

theorem typeComment_mapLines (hg : Function.Injective g) (n : Node) :
    typeComment (n.mapLines g) (m.mapLines g) = typeComment n m := by
  unfold typeComment
  rw [readLine_mapLines, optionalWord_mapLines]
  cases n.readLine with
  | error e => rfl
  | ok line =>
    have hignored := Manner.ignored?_mapLines (m := m) hg line
    show (n.optionalWord .typeComment >>= fun own => pure [Piece.typeComment own _]) = _
    rw [hignored]
    rfl

theorem documentation?_mapLines (g : Int → Int) (s : Node) :
    documentation? (s.mapLines g) = documentation? s := by
  unfold documentation?
  rw [kind_mapLines]
  split
  · rfl
  · apply readChild_congr
    intro v v' hv
    rw [hv, kind_mapLines, readLiteral_mapLines, word?_mapLines]

include hsub in
theorem decorators_congr : decorators sub' (m.mapLines g) = decorators sub m := by
  apply readList_congr
  intro ds ds' hds
  rw [mapM_congr hds]
  intro d d' hd
  rw [plain_congr hsub m hd, line_mapLines]

include hsub in
theorem documentedBody_congr : documentedBody sub' (m.mapLines g) = documentedBody sub m := by
  apply readList_congr
  intro cs cs' hcs
  cases hcs with
  | nil => rfl
  | cons hc hcs =>
    simp only [line_mapLines]
    rw [hc, documentation?_mapLines, sequence_congr hsub m hcs,
      sequence_congr hsub m (.cons hc hcs)]

include hsub in
theorem functionRule_congr (hg : Function.Injective g) (opening : String) :
    functionRule sub' (m.mapLines g) opening = functionRule sub m opening := by
  unfold functionRule
  simp only [line_mapLines, Manner.deeper_mapLines]
  rw [decorators_congr hsub, readWord_mapLines, typeComment_mapLines m hg,
    documentedBody_congr hsub]
  apply bind_congr
  intro decorated
  apply bind_congr
  intro name
  apply readChild_congr
  intro ps ps' hps
  rw [plain_congr hsub m hps]
  apply bind_congr
  intro params
  apply optionalChild_congr
  intro r r' hr
  rw [optional_congr hsub m (word " -> ") hr]

include hsub in
theorem genericRule_congr : genericRule sub' (m.mapLines g) = genericRule sub m := by
  unfold genericRule
  rw [mapM_congr (forall₂_parts g n) fun c c' hc => by rw [plain_congr hsub m hc]]

end rules

end DefSite.Render
