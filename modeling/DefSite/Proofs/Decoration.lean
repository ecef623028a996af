import Mathlib
import DefSite.Proofs.Damage

/-!
# Decorators and the known variants

Of the decorators of a definition only the names matter that they yield, and of these only two:
`classmethod` and `staticmethod`.  They share out the definitions of a method among the variants
that are known from the start (`recognises_builtins`), so decorators that yield neither name may
come, go and change places.
-/

namespace DefSite

namespace Node

variable {n n' d m : Node} {name s : String} {line : Int}

/-! ## The names of decorators -/

/-- The decorator yields a name: its own if it is a name, the last one if it is a dotted name, and
if it is a call that of what it calls. -/
inductive Yields (d : Node) (s : String) : Prop
  | id {m : Node} (hm : d.Denotes m) (hk : m.kind = .name) (h : m.word? .id = some s)
  | attr {m : Node} (hm : d.Denotes m) (hk : m.kind = .access) (h : m.word? .attr = some s)

/-- One of the definition's decorators yields the name. -/
def DecoratedWith (n : Node) (s : String) : Prop :=
  ∃ ds, n.listed? .decorators = some ds ∧ ∃ d ∈ ds, d.Yields s

theorem Denotes.bareName_eq_some_iff (hm : d.Denotes m) : d.bareName = .ok (some s) ↔
    (m.kind = .name ∧ m.word? .id = some s) ∨ (m.kind = .access ∧ m.word? .attr = some s) := by
  have hread : ∀ f, (do return some (← m.readWord f) : Except Fault _) = .ok (some s) ↔
      m.word? f = some s := by
    intro f
    rw [bind_pure_eq_ok]
    simp [readWord_eq_ok]
  rw [hm.bareName_eq]
  split
  · next hk => simpa [hk] using hread .id
  · next hk => simpa [hk] using hread .attr
  · next hname haccess =>
    have hnone : ¬ ((m.kind = .name ∧ m.word? .id = some s) ∨
        (m.kind = .access ∧ m.word? .attr = some s)) := by
      rintro (⟨hk, -⟩ | ⟨hk, -⟩)
      · exact hname hk
      · exact haccess hk
    exact iff_of_false (by simp [pure_eq_ok]) hnone

theorem bareName_eq_some_iff : d.bareName = .ok (some s) ↔ d.Yields s := by
  constructor
  · intro h
    have hm : ∃ m, d.Denotes m := by
      by_cases hk : d.kind = .call
      · cases hf : d.child? .func with
        | none => cases (bareName_of_no_func hk hf).symm.trans h
        | some f => exact ⟨f, .called hk hf⟩
      · exact ⟨d, .itself hk⟩
    obtain ⟨m, hm⟩ := hm
    rcases hm.bareName_eq_some_iff.mp h with ⟨hk, hw⟩ | ⟨hk, hw⟩
    · exact .id hm hk hw
    · exact .attr hm hk hw
  · rintro (⟨hm, hk, hw⟩ | ⟨hm, hk, hw⟩)
    · exact hm.bareName_eq_some_iff.mpr (.inl ⟨hk, hw⟩)
    · exact hm.bareName_eq_some_iff.mpr (.inr ⟨hk, hw⟩)

/-- A decorator yields one name at most. -/
theorem Yields.unique {s' : String} (h : d.Yields s) (h' : d.Yields s') : s = s' := by
  have he := (bareName_eq_some_iff.mpr h).symm.trans (bareName_eq_some_iff.mpr h')
  simpa using he

/-- The names that are read off the decorators are those that they yield. -/
theorem mem_decoratedBy_iff {names : List String} (h : n.decoratedBy = .ok names) :
    s ∈ names ↔ n.DecoratedWith s := by
  rw [decoratedBy_eq] at h
  obtain ⟨bare, hbare, hnames⟩ := bind_eq_ok.mp h
  cases pure_eq_ok.mp hnames
  cases hds : n.listed? .decorators with
  | none => simp [hds] at hbare
  | some ds =>
    rw [hds] at hbare
    have hmap := mapM_eq_ok.mp hbare
    calc s ∈ bare.filterMap id
        ↔ some s ∈ bare := by simp
      _ ↔ .ok (some s) ∈ bare.map (Except.ok (ε := Fault)) := by simp
      _ ↔ .ok (some s) ∈ ds.map bareName := by rw [hmap]
      _ ↔ ∃ d ∈ ds, d.Yields s := by simp only [List.mem_map, bareName_eq_some_iff]
      _ ↔ n.DecoratedWith s := by simp [DecoratedWith, hds]

/-! ## Changes to decorators that do not matter -/

/-- The decorator yields one of the two names that the known variants look for. -/
def MarksMethod (d : Node) : Prop :=
  d.Yields "classmethod" ∨ d.Yields "staticmethod"

/-- One change to a list of decorators: one that yields neither name comes or goes, or two
neighbours change places. -/
inductive Redecorates : List Node → List Node → Prop
  | add (before after : List Node) {d : Node} (hd : ¬ d.MarksMethod) :
    Redecorates (before ++ after) (before ++ d :: after)
  | remove (before after : List Node) {d : Node} (hd : ¬ d.MarksMethod) :
    Redecorates (before ++ d :: after) (before ++ after)
  | swap (before after : List Node) (d e : Node) :
    Redecorates (before ++ d :: e :: after) (before ++ e :: d :: after)

theorem Redecorates.exists_yields_iff {ds ds' : List Node} (h : Redecorates ds ds')
    (hs : ∀ d : Node, d.Yields s → d.MarksMethod) :
    (∃ d ∈ ds, d.Yields s) ↔ ∃ d ∈ ds', d.Yields s := by
  cases h with
  | add before after hd =>
    have hs := mt (hs _) hd
    simp [or_and_right, exists_or, hs]
  | remove before after hd =>
    have hs := mt (hs _) hd
    simp [or_and_right, exists_or, hs]
  | swap before after d e =>
    simp only [List.mem_append, List.mem_cons, or_left_comm]

/-- After any number of changes the same of the two names are yielded. -/
theorem exists_yields_iff_of_redecorates {ds ds' : List Node}
    (h : Relation.ReflTransGen Redecorates ds ds') (hs : ∀ d : Node, d.Yields s → d.MarksMethod) :
    (∃ d ∈ ds, d.Yields s) ↔ ∃ d ∈ ds', d.Yields s := by
  induction h with
  | refl => rfl
  | tail _ hstep ih => exact ih.trans (hstep.exists_yields_iff hs)

/-- The decorators of one definition are those of the other after changes that do not matter. -/
def Redecorated (n n' : Node) : Prop :=
  ∃ ds ds', n.listed? .decorators = some ds ∧ n'.listed? .decorators = some ds' ∧
    Relation.ReflTransGen Redecorates ds ds'

theorem Redecorated.decoratedWith_iff (h : n.Redecorated n')
    (hs : ∀ d : Node, d.Yields s → d.MarksMethod) : n.DecoratedWith s ↔ n'.DecoratedWith s := by
  obtain ⟨ds, ds', hds, hds', hchanges⟩ := h
  simp only [DecoratedWith, hds, hds', Option.some.injEq, exists_eq_left']
  exact exists_yields_iff_of_redecorates hchanges hs

end Node

namespace Variant

open Node

variable {v : Variant} {n n' : Node} {name : String} {line : Int}

/-! ## What the known variants recognise -/

/-- Where the name and the first line agree, the decorators decide. -/
theorem recognises_eq_accepts (hk : n.kind.isFunctionDef) (hname : n.word? .name = some name)
    (hstart : n.StartsOn line) :
    v.recognises name line n = n.decoratedBy >>= fun names => pure (v.accepts names) := by
  rw [recognises_eq_of_isFunctionDef hk, readWord_eq_ok.mpr hname]
  show (if name ≠ name then _ else _) = _
  rw [if_neg (not_not_intro rfl), startLine_eq_ok.mpr hstart]
  show (if line ≠ line then _ else _) = _
  rw [if_neg (not_not_intro rfl)]

/-- Which of the two names decorators yield tells what each known variant answers. -/
theorem recognises_of_decoratedWith (hk : n.kind.isFunctionDef)
    (hname : n.word? .name = some name) (hstart : n.StartsOn line)
    (hread : ¬ n.IsDamagedFor name line) :
    (∀ v ∈ [function, instanceMethod], v.recognises name line n = .ok true ↔
      ¬ n.DecoratedWith "classmethod" ∧ ¬ n.DecoratedWith "staticmethod") ∧
    (classMethod.recognises name line n = .ok true ↔ n.DecoratedWith "classmethod") ∧
    (staticMethod.recognises name line n = .ok true ↔ n.DecoratedWith "staticmethod") := by
  obtain ⟨b, hb⟩ := (exists_recognises_iff (v := function)).mpr hread
  rw [recognises_eq_accepts hk hname hstart] at hb
  obtain ⟨names, hnames, -⟩ := bind_eq_ok.mp hb
  have hanswer : ∀ v : Variant, v.recognises name line n = .ok true ↔ v.accepts names := by
    intro v
    rw [recognises_eq_accepts hk hname hstart, hnames]
    exact pure_eq_ok
  simp only [hanswer, ← mem_decoratedBy_iff hnames]
  simp [function, instanceMethod, classMethod, staticMethod, acceptsUndecorated]

theorem recognises_of_differs (hk : n.kind.isFunctionDef) (hread : ¬ n.IsDamagedFor name line)
    (hdiffers : n.word? .name ≠ some name ∨ ¬ n.StartsOn line) :
    v.recognises name line n = .ok false := by
  obtain ⟨b, hb⟩ := (exists_recognises_iff (v := v)).mpr hread
  cases b with
  | false => exact hb
  | true =>
    obtain ⟨hname, hstart, -⟩ := (recognises_of_isFunctionDef hk).mp hb
    rcases hdiffers with h | h
    · exact absurd hname h
    · exact absurd hstart h

/-- How the known variants share out a definition of the method. -/
structure SharesOut (name : String) (line : Int) (n : Node) : Prop where
  answered : ∀ v ∈ builtins, ∃ b, v.recognises name line n = .ok b
  undecorated : ∀ v ∈ [function, instanceMethod], v.recognises name line n = .ok true ↔
    ¬ n.DecoratedWith "classmethod" ∧ ¬ n.DecoratedWith "staticmethod"
  inClass : classMethod.recognises name line n = .ok true ↔ n.DecoratedWith "classmethod"
  static : staticMethod.recognises name line n = .ok true ↔ n.DecoratedWith "staticmethod"
  /-- One of the variants that are looked for on classes recognises it. -/
  covered : ∃ v ∈ [instanceMethod, classMethod, staticMethod], v.recognises name line n = .ok true
  apart : instanceMethod.recognises name line n = .ok true →
    ∀ v ∈ [classMethod, staticMethod], v.recognises name line n = .ok false
  /-- It takes two decorators to be recognised as both. -/
  twice : classMethod.recognises name line n = .ok true →
    staticMethod.recognises name line n = .ok true → ∃ ds, n.listed? .decorators = some ds ∧
      ∃ d ∈ ds, ∃ e ∈ ds, d ≠ e ∧ d.Yields "classmethod" ∧ e.Yields "staticmethod"

theorem sharesOut (hk : n.kind.isFunctionDef) (hname : n.word? .name = some name)
    (hstart : n.StartsOn line) (hread : ¬ n.IsDamagedFor name line) : SharesOut name line n := by
  obtain ⟨hbare, hclass, hstatic⟩ := recognises_of_decoratedWith hk hname hstart hread
  have hanswered : ∀ v : Variant, ∃ b, v.recognises name line n = .ok b := fun v =>
    exists_recognises_iff.mpr hread
  have hfalse : ∀ v : Variant, ¬ v.recognises name line n = .ok true →
      v.recognises name line n = .ok false := by
    intro v hv
    obtain ⟨_ | _, hb⟩ := hanswered v
    · exact hb
    · exact absurd hb hv
  have hinstance := hbare instanceMethod (by simp)
  refine ⟨fun v _ => hanswered v, hbare, hclass, hstatic, ?_, ?_, ?_⟩
  · by_cases hc : n.DecoratedWith "classmethod"
    · exact ⟨classMethod, by simp, hclass.mpr hc⟩
    by_cases hs : n.DecoratedWith "staticmethod"
    · exact ⟨staticMethod, by simp, hstatic.mpr hs⟩
    exact ⟨instanceMethod, by simp, hinstance.mpr ⟨hc, hs⟩⟩
  · intro hi
    obtain ⟨hc, hs⟩ := hinstance.mp hi
    simp only [List.forall_mem_cons]
    exact ⟨hfalse _ (mt hclass.mp hc), hfalse _ (mt hstatic.mp hs), by simp⟩
  · intro hc hs
    obtain ⟨ds, hds, d, hd, hyields⟩ := hclass.mp hc
    obtain ⟨ds', hds', e, he, hyields'⟩ := hstatic.mp hs
    cases hds.symm.trans hds'
    refine ⟨ds, hds, d, hd, e, he, ?_, hyields, hyields'⟩
    rintro rfl
    exact absurd (hyields.unique hyields') (by decide)

/-- Changes to other decorators that leave the first line where it is change no answer. -/
theorem recognises_of_redecorated (hk : n.kind.isFunctionDef) (hk' : n'.kind.isFunctionDef)
    (hread : ¬ n.IsDamagedFor name line) (hread' : ¬ n'.IsDamagedFor name line)
    (hname : n'.word? .name = n.word? .name) (hstart : ∀ l, n'.StartsOn l ↔ n.StartsOn l)
    (hchanges : n.Redecorated n') :
    ∀ v ∈ builtins, v.recognises name line n' = v.recognises name line n := by
  by_cases hagrees : n.word? .name = some name ∧ n.StartsOn line
  · obtain ⟨hword, hline⟩ := hagrees
    have h := sharesOut hk hword hline hread
    have h' := sharesOut hk' (hname.trans hword) ((hstart line).mpr hline) hread'
    have hc := hchanges.decoratedWith_iff (s := "classmethod") fun _ => .inl
    have hs := hchanges.decoratedWith_iff (s := "staticmethod") fun _ => .inr
    have hiff : ∀ v ∈ builtins,
        v.recognises name line n' = .ok true ↔ v.recognises name line n = .ok true := by
      have hbare : ∀ v ∈ [function, instanceMethod],
          v.recognises name line n' = .ok true ↔ v.recognises name line n = .ok true := by
        intro v hv
        rw [h.undecorated v hv, h'.undecorated v hv, hc, hs]
      simp only [builtins, List.forall_mem_cons] at hbare ⊢
      refine ⟨hbare.1, hbare.2.1, ?_, ?_, by simp⟩
      · rw [h.inClass, h'.inClass, hc]
      · rw [h.static, h'.static, hs]
    intro v hv
    obtain ⟨b, hb⟩ := h.answered v hv
    obtain ⟨b', hb'⟩ := h'.answered v hv
    have hbool := hiff v hv
    rw [hb, hb'] at hbool ⊢
    simpa using hbool
  · intro v _
    have hdiffers : n.word? .name ≠ some name ∨ ¬ n.StartsOn line := not_and_or.mp hagrees
    rw [recognises_of_differs hk hread hdiffers,
      recognises_of_differs hk' hread' (by rwa [hname, hstart])]

/-- **What the known variants recognise.**  A node that is no function, anonymous or not, is
recognised by none of them, and neither is a function definition with another name or another first
line.  The definitions that agree in both are shared out: those whose decorators yield neither of
the two names go to functions and plain methods, the others to class methods, to static methods or
to both.  All other decorators may come, go and change places as long as the first line stays where
it is.  All this holds of nodes that carry what the test reads of them. -/
theorem recognises_builtins (name : String) (line : Int) (n : Node) :
    (n.kind ≠ .lambda → ¬ n.kind.isFunctionDef →
      ∀ v ∈ builtins, v.recognises name line n = .ok false) ∧
    (n.kind.isFunctionDef → ¬ n.IsDamagedFor name line →
      (n.word? .name ≠ some name ∨ ¬ n.StartsOn line →
        ∀ v ∈ builtins, v.recognises name line n = .ok false) ∧
      (n.word? .name = some name → n.StartsOn line → SharesOut name line n) ∧
      (∀ n' : Node, n'.kind.isFunctionDef → ¬ n'.IsDamagedFor name line →
        n'.word? .name = n.word? .name → (∀ l, n'.StartsOn l ↔ n.StartsOn l) →
        n.Redecorated n' →
          ∀ v ∈ builtins, v.recognises name line n' = v.recognises name line n)) := by
  refine ⟨fun hl hf v _ => recognises_of_other hl hf, fun hk hread => ⟨?_, ?_, ?_⟩⟩
  · exact fun hdiffers v _ => recognises_of_differs hk hread hdiffers
  · exact fun hname hstart => sharesOut hk hname hstart hread
  · exact fun n' hk' hread' hname hstart hchanges =>
      recognises_of_redecorated hk hk' hread hread' hname hstart hchanges

section doubly

/-- The decorator `builtins.classmethod` on line 3. -/
def qualifiedMark : Node :=
  .mk .access (some 3) none
    [(.value, .node (.mk .name (some 3) none [(.id, .word "builtins")])),
      (.attr, .word "classmethod")]

/-- The decorator `cache()` on line 4. -/
def cacheCall : Node :=
  .mk .call (some 4) none [(.func, .node (.mk .name (some 4) none [(.id, .word "cache")]))]

/-- The decorator `staticmethod()()` on line 5, which yields nothing: one call too many. -/
def doubleCall : Node :=
  .mk .call (some 5) none [(.func, .node (.mk .call (some 5) none
    [(.func, .node (.mk .name (some 5) none [(.id, .word "staticmethod")]))]))]

/-- A function `f` on line 6 with the given decorators. -/
def functionUnder (ds : List Node) : Node :=
  .mk .functionDef (some 6) none [(.name, .word "f"), (.decorators, .slots (ds.map some))]

def thriceDecorated : Node :=
  functionUnder [qualifiedMark, cacheCall, doubleCall]

def twiceDecorated : Node :=
  functionUnder [cacheCall, qualifiedMark]

/-- A class method stays one when a decorator goes and two others change places. -/
theorem recognises_builtins_redecorated :
    classMethod.recognises "f" 3 thriceDecorated = .ok true ∧
    instanceMethod.recognises "f" 3 thriceDecorated ≠ .ok true ∧
    (∀ v ∈ builtins, v.recognises "f" 6 thriceDecorated = .ok false) ∧
    classMethod.recognises "f" 3 twiceDecorated = .ok true := by
  have hread : ∀ {n line b}, function.recognises "f" line n = .ok b →
      ¬ n.IsDamagedFor "f" line := fun h => exists_recognises_iff.mp ⟨_, h⟩
  have hstart : ∀ l, thriceDecorated.StartsOn l ↔ l = 3 := by
    intro l
    have h : thriceDecorated.startLine = .ok 3 := by decide
    rw [← startLine_eq_ok, h]
    simp [eq_comm]
  have hstart' : ∀ l, twiceDecorated.StartsOn l ↔ thriceDecorated.StartsOn l := by
    intro l
    have h : twiceDecorated.startLine = .ok 3 := by decide
    rw [← startLine_eq_ok, h, hstart]
    simp [eq_comm]
  have hmark : thriceDecorated.DecoratedWith "classmethod" :=
    ⟨_, rfl, qualifiedMark, by simp, .attr (.itself (by decide)) rfl rfl⟩
  have hother : ¬ doubleCall.MarksMethod := by
    simp only [MarksMethod, ← bareName_eq_some_iff]
    decide
  have hchanges : thriceDecorated.Redecorated twiceDecorated :=
    ⟨_, _, rfl, rfl, .tail (.single (.remove [qualifiedMark, cacheCall] [] hother))
      (.swap [] [] qualifiedMark cacheCall)⟩
  obtain ⟨-, hshared, hredecorated⟩ := (recognises_builtins "f" 3 thriceDecorated).2 rfl
    (hread (b := false) (by decide))
  have hshared := hshared rfl ((hstart 3).mpr rfl)
  have hclass := hshared.inClass.mpr hmark
  refine ⟨hclass, fun hi => ?_, ?_, ?_⟩
  · exact ((hshared.undecorated _ (by simp)).mp hi).1 hmark
  · have hread : ¬ thriceDecorated.IsDamagedFor "f" 6 := hread (b := false) (by decide)
    refine ((recognises_builtins "f" 6 thriceDecorated).2 rfl hread).1 (.inr ?_)
    rw [hstart]
    decide
  · refine (hredecorated twiceDecorated rfl (hread (b := false) (by decide)) rfl hstart' hchanges
      classMethod (by simp [builtins])).trans hclass

end doubly

end Variant

end DefSite
