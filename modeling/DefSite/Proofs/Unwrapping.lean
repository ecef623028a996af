import DefSite.Live.Method

/-!
# Stripping live objects

What stands around a function is of four kinds: computed attributes, class methods and static
methods, bindings, and wrappers.  `Heap.unwrap` takes off one layer of each of the first three, in
this order, and then follows wrappers.

Wrappers may lead in a circle, and then nothing is reached.  They end at classes, and an object may
not be able to tell what it wraps.  `unwrap_outcome` says when unwrapping succeeds, when it fails,
and that a function under layers in that order is known by its own name, place and text;
`unwrap_unfollowed` shows a class and a failing wrapper.  Layers in another order are not all taken
off: `bare_unwrap_iff` says that nothing is left to strip exactly when each layer is of a kind that
comes later than that of the layer around it.
-/

namespace DefSite.Live.Heap

variable {n : Nat} {h : Heap n}

/-! ## Layers -/

/-- The kinds of layers that are taken off once each. -/
inductive Layer where
  | binding | method | computed
  deriving DecidableEq

/-- How many kinds of layers are taken off after this one. -/
def Layer.height : Layer → Nat
  | binding => 0
  | method => 1
  | computed => 2

/-- The layer that an object is, and what it stands around. -/
def layer? : Object (Fin n) → Option (Layer × Fin n)
  | .property (some f) | .cachedProperty f => some (.computed, f)
  | .classMethod f | .staticMethod f => some (.method, f)
  | .boundMethod f => some (.binding, f)
  | _ => none

/-- What is left of an object when a layer of a kind is taken off, if it is one. -/
inductive Sheds (h : Heap n) (l : Layer) : Fin n → Fin n → Prop
  | off {o a : Fin n} (ho : layer? (h o) = some (l, a)) : Sheds h l o a
  | kept {o : Fin n} (ho : ∀ a, layer? (h o) ≠ some (l, a)) : Sheds h l o o

/-- What is left of an object when it is rid of a computed attribute, then of a class method or
static method, then of a binding, of each at most once. -/
def Peels (h : Heap n) (o c : Fin n) : Prop :=
  ∃ a b, h.Sheds .computed o a ∧ h.Sheds .method a b ∧ h.Sheds .binding b c

theorem Sheds.unique {l : Layer} {o a b : Fin n} (ha : h.Sheds l o a) (hb : h.Sheds l o b) :
    a = b := by
  cases ha with
  | off ho =>
    cases hb with
    | off ho' =>
      rw [ho] at ho'
      simpa using ho'
    | kept hk => exact absurd ho (hk _)
  | kept hk =>
    cases hb with
    | off ho => exact absurd ho (hk _)
    | kept => rfl

/-- An object without its layer of a kind. -/
def shed (h : Heap n) (l : Layer) (o : Fin n) : Fin n :=
  match layer? (h o) with
  | some (l', a) => if l' = l then a else o
  | none => o

theorem sheds_shed (h : Heap n) (l : Layer) (o : Fin n) : h.Sheds l o (h.shed l o) := by
  unfold shed
  split
  · next l' a ho =>
    by_cases hl : l' = l
    · subst hl
      rw [if_pos rfl]
      exact .off ho
    · rw [if_neg hl]
      apply Sheds.kept
      intro b hb
      cases ho.symm.trans hb
      exact hl rfl
  · next ho =>
    apply Sheds.kept
    simp [ho]

/-- Each step of peeling takes off the layer of one kind. -/
theorem peeling_eq_shed (h : Heap n) (o : Fin n) : h.getter o = h.shed .computed o ∧
    h.underlying o = h.shed .method o ∧ h.unbound o = h.shed .binding o := by
  unfold getter underlying unbound shed layer?
  cases h o with
  | property getter => cases getter <;> exact ⟨rfl, rfl, rfl⟩
  | _ => exact ⟨rfl, rfl, rfl⟩

theorem peels_peel (h : Heap n) (o : Fin n) : h.Peels o (h.peel o) := by
  unfold peel
  rw [(h.peeling_eq_shed o).1, (h.peeling_eq_shed _).2.1, (h.peeling_eq_shed _).2.2]
  exact ⟨_, _, h.sheds_shed _ _, h.sheds_shed _ _, h.sheds_shed _ _⟩

theorem Peels.eq_peel {o c : Fin n} (hc : h.Peels o c) : h.peel o = c := by
  obtain ⟨a, b, ha, hb, hc⟩ := hc
  obtain ⟨a', b', ha', hb', hc'⟩ := h.peels_peel o
  obtain rfl := ha.unique ha'
  obtain rfl := hb.unique hb'
  exact hc'.unique hc

/-! ## Following wrappers -/

/-- Wrappers lead from an object past these objects, the last of which is `r`. -/
inductive Passes (h : Heap n) : Fin n → List (Fin n) → Fin n → Prop
  | here {r : Fin n} : Passes h r [] r
  | next {c d r : Fin n} {l : List (Fin n)} (hw : h.wrapped? c = some d) (rest : Passes h d l r) :
    Passes h c (d :: l) r

/-- Fewer than 1000 wrappers lead from an object, past none twice, to one that is not followed: it
wraps nothing or is a class. -/
def UnwrapsTo (h : Heap n) (c r : Fin n) : Prop :=
  ∃ l, h.Passes c l r ∧ (c :: l).Nodup ∧ l.length < 1000 ∧ h.wrapping r = .missing

/-- Fewer than 1000 wrappers lead from an object, past none twice, to one that fails to tell what it
wraps. -/
def Snags (h : Heap n) (c : Fin n) (e : Fault) : Prop :=
  ∃ l r, h.Passes c l r ∧ (c :: l).Nodup ∧ l.length < 1000 ∧ h.wrapping r = .failing e

/-- Wrappers lead from an object back to one that was passed, or 1000 of them lead on. -/
def Strays (h : Heap n) (c : Fin n) : Prop :=
  ∃ l r, h.Passes c l r ∧ (¬ (c :: l).Nodup ∨ 1000 ≤ l.length)

/-- Following wrappers stops at an object, and this is what comes of it. -/
inductive Stops (h : Heap n) (r : Fin n) : Except Fault (Fin n) → Prop
  | missing (hr : h.wrapping r = .missing) : Stops h r (.ok r)
  | failing {e : Fault} (hr : h.wrapping r = .failing e) : Stops h r (.error e)

section following

variable {start c d r r' : Fin n} {budget : Nat} {seen l l' : List (Fin n)} {e : Fault}
  {x : Except Fault (Fin n)}

theorem Stops.wrapped? (hx : h.Stops r x) : h.wrapped? r = none := by
  cases hx with
  | missing hr => simp [Heap.wrapped?, hr, Reading.object?]
  | failing hr => simp [Heap.wrapped?, hr, Reading.object?]

theorem wrapped?_of_wrapping (hr : h.wrapping r = .missing) : h.wrapped? r = none :=
  (Stops.missing hr).wrapped?

theorem wrapped?_eq_some_iff : h.wrapped? c = some d ↔ h.wrapping c = .object d := by
  unfold Heap.wrapped?
  cases h.wrapping c <;> simp [Reading.object?]

theorem passes_iff_of_none (hw : h.wrapped? c = none) : h.Passes c l r ↔ l = [] ∧ r = c := by
  constructor
  · intro hp
    cases hp with
    | here => exact ⟨rfl, rfl⟩
    | next hw' => simp [hw] at hw'
  · rintro ⟨rfl, rfl⟩
    exact .here

theorem passes_iff_of_some (hw : h.wrapped? c = some d) :
    h.Passes c l r ↔ (l = [] ∧ r = c) ∨ ∃ l', l = d :: l' ∧ h.Passes d l' r := by
  constructor
  · intro hp
    cases hp with
    | here => exact .inl ⟨rfl, rfl⟩
    | next hw' rest =>
      cases hw.symm.trans hw'
      exact .inr ⟨_, rfl, rest⟩
  · rintro (⟨rfl, rfl⟩ | ⟨l', rfl, hp⟩)
    · exact .here
    · exact .next hw hp

/-- Every way from an object is a part of the way to one that wraps nothing. -/
theorem Passes.isPrefix (hp : h.Passes c l r) (hr : h.wrapped? r = none)
    (hp' : h.Passes c l' r') : l' <+: l := by
  induction hp generalizing l' with
  | here =>
    obtain ⟨rfl, -⟩ := (passes_iff_of_none hr).mp hp'
    exact List.nil_prefix
  | next hw _ ih =>
    rcases (passes_iff_of_some hw).mp hp' with ⟨rfl, -⟩ | ⟨l'', rfl, hrest⟩
    · exact List.nil_prefix
    · exact List.cons_prefix_cons.mpr ⟨rfl, ih hr hrest⟩

/-- Wrappers lead to no more than one object that wraps nothing. -/
theorem Passes.unique (hp : h.Passes c l r) (hr : h.wrapped? r = none)
    (hp' : h.Passes c l' r') (hr' : h.wrapped? r' = none) : r = r' := by
  induction hp generalizing l' with
  | here => exact ((passes_iff_of_none hr).mp hp').2.symm
  | next hw _ ih =>
    rcases (passes_iff_of_some hw).mp hp' with ⟨-, rfl⟩ | ⟨l'', rfl, hrest⟩
    · cases hw.symm.trans hr'
    · exact ih hr hrest

/-- From each object on the way the rest of the way leads on. -/
theorem Passes.exists_of_mem (hp : h.Passes c l r) (hd : d ∈ l) :
    ∃ l', h.Passes d l' r ∧ l'.length < l.length := by
  induction hp with
  | here => cases hd
  | @next c d' r l hw rest ih =>
    rcases List.mem_cons.mp hd with rfl | hd
    · exact ⟨l, rest, by simp⟩
    · obtain ⟨l', hp, hlt⟩ := ih hd
      exact ⟨l', hp, by simp only [List.length_cons]; omega⟩

/-- The way to an object that wraps nothing passes no object twice. -/
theorem Passes.nodup (hp : h.Passes c l r) (hr : h.wrapped? r = none) : (c :: l).Nodup := by
  induction hp with
  | here => simp
  | @next c d r l hw rest ih =>
    have hway : h.Passes c (d :: l) r := .next hw rest
    -- If `c` came again, the rest of the way from there would be as long as the whole.
    refine List.nodup_cons.mpr ⟨?_, ih hr⟩
    intro hc
    obtain ⟨l', hp, hlt⟩ := hway.exists_of_mem hc
    have hle := (hp.isPrefix hr hway).length_le
    omega

/-- Following wrappers stops at an object, or strays. -/
theorem unwrapFrom_cases (start : Fin n) (budget : Nat) (seen : List (Fin n)) (c : Fin n) :
    (∃ l r, h.Passes c l r ∧ (l.Nodup ∧ ∀ x ∈ l, x ∉ seen) ∧ l.length ≤ budget ∧
      h.Stops r (h.unwrapFrom start budget seen c)) ∨
    (∃ l r, h.Passes c l r ∧ (¬ (l.Nodup ∧ ∀ x ∈ l, x ∉ seen) ∨ budget < l.length) ∧
      h.unwrapFrom start budget seen c = .error (.wrapperLoop (h.shown start))) := by
  -- The objects seen grow by the one that is reached, so what is fresh for the rest of the way is
  -- fresh for the whole of it.
  induction budget generalizing seen c with
  | zero =>
    rw [unwrapFrom]
    cases hw : h.wrapping c with
    | missing => exact .inl ⟨[], c, .here, by simp, by simp, .missing hw⟩
    | failing e => exact .inl ⟨[], c, .here, by simp, by simp, .failing hw⟩
    | object d => exact .inr ⟨[d], d, .next (wrapped?_eq_some_iff.mpr hw) .here, by simp, by simp⟩
  | succ budget ih =>
    rw [unwrapFrom]
    cases hw : h.wrapping c with
    | missing => exact .inl ⟨[], c, .here, by simp, by simp, .missing hw⟩
    | failing e => exact .inl ⟨[], c, .here, by simp, by simp, .failing hw⟩
    | object d =>
      have hw := wrapped?_eq_some_iff.mpr hw
      by_cases hd : d ∈ seen
      · exact .inr ⟨[d], d, .next hw .here, by simp [hd], by simp [hd]⟩
      · have hfresh : ∀ l : List (Fin n), ((d :: l).Nodup ∧ ∀ x ∈ d :: l, x ∉ seen) ↔
            l.Nodup ∧ ∀ x ∈ l, x ∉ d :: seen := by
          intro l
          simp only [List.nodup_cons, List.mem_cons, forall_eq_or_imp, hd, not_false_eq_true,
            true_and, not_or]
          grind
        simp only [List.contains_eq_mem, hd, decide_false, Bool.false_eq_true, if_false]
        rcases ih (d :: seen) d with ⟨l, r, hp, hl, hlt, hr⟩ | ⟨l, r, hp, hl, ho⟩
        · refine .inl ⟨d :: l, r, .next hw hp, (hfresh l).mpr hl, ?_, hr⟩
          simp only [List.length_cons]
          omega
        · refine .inr ⟨d :: l, r, .next hw hp, ?_, ho⟩
          rw [hfresh l]
          exact hl.imp_right Nat.succ_lt_succ

theorem UnwrapsTo.unique (hr : h.UnwrapsTo c r) (hr' : h.UnwrapsTo c r') : r = r' := by
  obtain ⟨l, hp, -, -, hend⟩ := hr
  obtain ⟨l', hp', -, -, hend'⟩ := hr'
  exact hp.unique (wrapped?_of_wrapping hend) hp' (wrapped?_of_wrapping hend')

/-- A way along which no object comes twice, to where it stops, does not stray. -/
theorem Passes.not_strays (hp : h.Passes c l r) (hnodup : (c :: l).Nodup) (hlt : l.length < 1000)
    (hend : h.wrapped? r = none) : ¬ h.Strays c := by
  rintro ⟨l', r', hp', hbad⟩
  have hprefix := hp.isPrefix hend hp'
  rcases hbad with hbad | hbad
  · exact hbad (hnodup.sublist ((List.prefix_cons_inj c).mpr hprefix).sublist)
  · have hle := hprefix.length_le
    omega

theorem UnwrapsTo.not_strays (hr : h.UnwrapsTo c r) : ¬ h.Strays c := by
  obtain ⟨l, hp, hnodup, hlt, hend⟩ := hr
  exact hp.not_strays hnodup hlt (wrapped?_of_wrapping hend)

theorem Snags.not_strays (he : h.Snags c e) : ¬ h.Strays c := by
  obtain ⟨l, r, hp, hnodup, hlt, hend⟩ := he
  exact hp.not_strays hnodup hlt (Stops.failing hend).wrapped?

/-- What unwraps to an object does not snag. -/
theorem UnwrapsTo.not_snags (hr : h.UnwrapsTo c r) : ¬ h.Snags c e := by
  obtain ⟨l, hp, -, -, hend⟩ := hr
  rintro ⟨l', r', hp', -, -, hend'⟩
  obtain rfl := hp.unique (wrapped?_of_wrapping hend) hp' (Stops.failing hend').wrapped?
  cases hend.symm.trans hend'

/-- Wrappers snag in no more than one way. -/
theorem Snags.unique {e' : Fault} (he : h.Snags c e) (he' : h.Snags c e') : e = e' := by
  obtain ⟨l, r, hp, -, -, hend⟩ := he
  obtain ⟨l', r', hp', -, -, hend'⟩ := he'
  obtain rfl := hp.unique (Stops.failing hend).wrapped? hp' (Stops.failing hend').wrapped?
  cases hend.symm.trans hend'
  rfl

/-- An object is unwrapped, or its wrappers snag, or they stray. -/
theorem unwrapFrom_start (c : Fin n) :
    (∃ r, h.UnwrapsTo c r ∧ h.unwrapFrom c wrapperLimit [c] c = .ok r) ∨
    (∃ e, h.Snags c e ∧ h.unwrapFrom c wrapperLimit [c] c = .error e) ∨
    (h.Strays c ∧ h.unwrapFrom c wrapperLimit [c] c = .error (.wrapperLoop (h.shown c))) := by
  have hfresh : ∀ l : List (Fin n), (l.Nodup ∧ ∀ x ∈ l, x ∉ [c]) ↔ (c :: l).Nodup := by
    intro l
    simp only [List.nodup_cons, List.mem_singleton]
    grind
  rcases h.unwrapFrom_cases c wrapperLimit [c] c with
    ⟨l, r, hp, hl, hlt, hr⟩ | ⟨l, r, hp, hl, ho⟩
  · have hnodup := (hfresh l).mp hl
    cases hx : h.unwrapFrom c wrapperLimit [c] c with
    | ok r' =>
      rw [hx] at hr
      cases hr with
      | missing hr => exact .inl ⟨r, ⟨l, hp, hnodup, Nat.lt_succ_of_le hlt, hr⟩, rfl⟩
    | error e =>
      rw [hx] at hr
      cases hr with
      | failing hr => exact .inr (.inl ⟨e, ⟨l, r, hp, hnodup, Nat.lt_succ_of_le hlt, hr⟩, rfl⟩)
  · refine .inr (.inr ⟨⟨l, r, hp, ?_⟩, ho⟩)
    rw [← hfresh l]
    exact hl

end following

/-! ## Unwrapping -/

section unwrapping

variable {o c r f : Fin n}

theorem method_eq_map (h : Heap n) (o : Fin n) : h.method o = (h.unwrap o).map h.asMethod := by
  unfold method
  cases h.unwrap o <;> rfl

theorem unwrap_of_not_callable (hc : h.Peels o c) (hcall : h.callable c = false) :
    h.unwrap o = .ok c := by
  unfold unwrap
  simp [hc.eq_peel, hcall]

theorem unwrap_of_callable (hc : h.Peels o c) (hcall : h.callable c = true) :
    h.unwrap o = h.unwrapFrom c wrapperLimit [c] c := by
  unfold unwrap
  simp [hc.eq_peel, hcall]

theorem unwrap_of_unwrapsTo (hc : h.Peels o c) (hcall : h.callable c = true)
    (hr : h.UnwrapsTo c r) : h.unwrap o = .ok r := by
  rw [unwrap_of_callable hc hcall]
  rcases h.unwrapFrom_start c with ⟨r', hr', ho⟩ | ⟨e, he, -⟩ | ⟨hstrays, -⟩
  · rw [hr.unique hr']
    exact ho
  · exact absurd he hr.not_snags
  · exact absurd hstrays hr.not_strays

theorem unwrap_eq_ok_iff (hc : h.Peels o c) : h.unwrap o = .ok r ↔
    if h.callable c then h.UnwrapsTo c r else r = c := by
  cases hcall : h.callable c with
  | false =>
    rw [unwrap_of_not_callable hc hcall]
    simp [eq_comm]
  | true =>
    simp only [if_true]
    refine ⟨fun ho => ?_, unwrap_of_unwrapsTo hc hcall⟩
    rw [unwrap_of_callable hc hcall] at ho
    rcases h.unwrapFrom_start c with ⟨r', hr', ho'⟩ | ⟨e, -, ho'⟩ | ⟨-, ho'⟩
    · cases ho.symm.trans ho'
      exact hr'
    · cases ho.symm.trans ho'
    · cases ho.symm.trans ho'

theorem unwrap_eq_error_iff (hc : h.Peels o c) {e : Fault} : h.unwrap o = .error e ↔
    h.callable c = true ∧ (h.Snags c e ∨ h.Strays c ∧ e = .wrapperLoop (h.shown c)) := by
  cases hcall : h.callable c with
  | false =>
    rw [unwrap_of_not_callable hc hcall]
    simp
  | true =>
    rw [unwrap_of_callable hc hcall]
    rcases h.unwrapFrom_start c with ⟨r', hr', ho⟩ | ⟨e', he', ho⟩ | ⟨hstrays, ho⟩
    · rw [ho]
      simp [hr'.not_strays, hr'.not_snags]
    · rw [ho]
      simp only [Except.error.injEq, true_and, he'.not_strays, false_and, or_false]
      constructor
      · rintro rfl
        exact he'
      · exact he'.unique
    · rw [ho]
      have hsnags : ¬ h.Snags c e := fun he => he.not_strays hstrays
      simp [hstrays, hsnags, eq_comm]

end unwrapping

/-! ## Functions under layers -/

section layers

variable {f w b d o a : Fin n} {k : Nat} {l : Layer}

/-- The object is a wrapper around another one: it can be called, is no layer of another kind and
wraps that object. -/
structure IsWrapper (h : Heap n) (w f : Fin n) : Prop where
  callable : h.callable w = true
  layer : layer? (h w) = none
  wraps : h.wrapped? w = some f

/-- The object consists of that many wrappers around another one. -/
inductive Wraps (h : Heap n) (f : Fin n) : Nat → Fin n → Prop
  | bare : Wraps h f 0 f
  | wrapped {k : Nat} {w w' : Fin n} (hw : h.IsWrapper w w') (rest : Wraps h f k w') :
    Wraps h f (k + 1) w

/-- The object is another one, or a layer of that kind around it. -/
inductive Within (h : Heap n) (l : Layer) (a : Fin n) : Fin n → Prop
  | bare : Within h l a a
  | layered {o : Fin n} (ho : layer? (h o) = some (l, a)) : Within h l a o

theorem follow_of_none {next : Object (Fin n) → Option (Fin n)} (ho : next (h o) = none) :
    h.follow next o = o := by
  cases n with
  | zero => exact o.elim0
  | succ n => simp [follow, follow.go, ho]

theorem Wraps.exists_passes (hw : h.Wraps f k w) : ∃ l, h.Passes w l f ∧ l.length = k := by
  induction hw with
  | bare => exact ⟨[], .here, rfl⟩
  | @wrapped k w w' hw _ ih =>
    obtain ⟨l, hp, hl⟩ := ih
    exact ⟨w' :: l, .next hw.wraps hp, by simp [hl]⟩

theorem Within.sheds (ho : h.Within l a o) (ha : ∀ b, layer? (h a) ≠ some (l, b)) :
    h.Sheds l o a := by
  cases ho with
  | bare => exact .kept ha
  | layered ho => exact .off ho

/-- Layers in order come off to the last. -/
theorem peels_of_within (hb : h.Within .binding w b) (hd : h.Within .method b d)
    (ho : h.Within .computed d o) (hw : layer? (h w) = none) : h.Peels o w := by
  have hb' : ∀ l a, layer? (h b) = some (l, a) → l = .binding := by
    intro l a hl
    cases hb with
    | bare => simp [hw] at hl
    | layered hb => simp_all
  have hd' : ∀ l a, layer? (h d) = some (l, a) → l ≠ .computed := by
    intro l a hl
    cases hd with
    | bare => simp [hb' l a hl]
    | layered hd =>
      rw [hd] at hl
      cases hl
      simp
  refine ⟨d, b, ho.sheds ?_, hd.sheds ?_, hb.sheds ?_⟩
  · intro a ha
    exact hd' _ a ha rfl
  · intro a ha
    exact absurd (hb' _ a ha) (by simp)
  · simp [hw]

variable {name qualname : String} {module : Option String} {place : Location}

theorem asMethod_of_function {wrapped : Option (Fin n)}
    (hf : h f = .function name qualname module place wrapped) :
    h.asMethod f = ⟨name, some place, dotted module qualname⟩ := by
  have hbound : h.follow boundFunction? f = f := follow_of_none (by simp [hf, boundFunction?])
  have hnames : h.follow namesake? f = f := follow_of_none (by simp [hf, namesake?])
  simp [asMethod, name?, qualname?, module?, code?, bearer, hnames, hbound, hf]

/-- A function that wraps an object, and one that wraps nothing. -/
theorem wrapping_of_function {wrapped : Option (Fin n)}
    (hf : h f = .function name qualname module place wrapped) :
    h.wrapping f = .ofOption wrapped := by
  have hbound : h.follow boundFunction? f = f := follow_of_none (by simp [hf, boundFunction?])
  simp [wrapping, isClass, hbound, hf]

/-- A function under few enough wrappers, and then under layers in order, is what is left. -/
theorem unwrap_of_wraps (hf : h f = .function name qualname module place none)
    (hw : h.Wraps f k w) (hk : k ≤ 999) (hb : h.Within .binding w b) (hd : h.Within .method b d)
    (ho : h.Within .computed d o) : h.unwrap o = .ok f := by
  have hend : h.wrapping f = .missing := wrapping_of_function hf
  have hwrapper : layer? (h w) = none ∧ h.callable w = true := by
    cases hw with
    | bare => simp [hf, layer?, callable]
    | wrapped hw _ => exact ⟨hw.layer, hw.callable⟩
  obtain ⟨l, hpass, rfl⟩ := hw.exists_passes
  refine unwrap_of_unwrapsTo (peels_of_within hb hd ho hwrapper.1) hwrapper.2 ?_
  exact ⟨l, hpass, hpass.nodup (wrapped?_of_wrapping hend), by omega, hend⟩

/-- Such a function is known by its own name, place and text. -/
theorem method_of_wraps (hf : h f = .function name qualname module place none)
    (hw : h.Wraps f k w) (hk : k ≤ 999) (hb : h.Within .binding w b) (hd : h.Within .method b d)
    (ho : h.Within .computed d o) :
    h.method o = .ok ⟨name, some place, dotted module qualname⟩ := by
  rw [method_eq_map, unwrap_of_wraps hf hw hk hb hd ho, ← asMethod_of_function hf]
  rfl

end layers

/-- A computed attribute whose getter is a class method over a bound method, the function of which
wraps `f`. -/
def layered : Heap 5
  | 0 => .property (some 1)
  | 1 => .classMethod 2
  | 2 => .boundMethod 3
  | 3 => .function "wrapper" "wrapper" (some "w") ⟨"w.py", 1⟩ (some 4)
  | 4 => .function "f" "C.f" (some "m") ⟨"m.py", 30⟩ none

/-- Nothing can be stripped off the object. -/
structure Bare (h : Heap n) (r : Fin n) : Prop where
  layer : layer? (h r) = none
  wrapper : h.callable r → h.wrapped? r = none

/-- An object that is bare, or that can be called and whose wrappers lead to one that is. -/
inductive Core (h : Heap n) (c : Fin n) : Prop
  | plain (hcall : h.callable c = false) (hlayer : layer? (h c) = none)
  | wrapping {l : List (Fin n)} {r : Fin n} (hcall : h.callable c = true) (hp : h.Passes c l r)
    (hend : h.wrapped? r = none) (hlayer : layer? (h r) = none)

/-- The layers from an object inwards are of ever lower kinds, all of them below a height, down to
a core. -/
inductive InOrder (h : Heap n) : Nat → Fin n → Prop
  | layered {k : Nat} {o a : Fin n} {l : Layer} (ho : layer? (h o) = some (l, a))
    (hlt : l.height < k) (ha : InOrder h l.height a) : InOrder h k o
  | core {k : Nat} {o : Fin n} (ho : ∀ l a, layer? (h o) = some (l, a) → k ≤ l.height)
    (hcore : h.Core o) : InOrder h k o

section order

variable {o a c r : Fin n} {l l' : Layer}

theorem Layer.eq_of_height_eq (hl : l.height = l'.height) : l = l' := by
  cases l <;> cases l' <;> simp_all [height]

/-- Taking off a layer leaves the layers in order below its height. -/
theorem Sheds.inOrder_iff (ha : h.Sheds l o a) :
    h.InOrder (l.height + 1) o ↔ h.InOrder l.height a := by
  cases ha with
  | off ho =>
    constructor
    · intro horder
      cases horder with
      | layered ho' _ ha =>
        cases ho.symm.trans ho'
        exact ha
      | core hnone _ => exact absurd (hnone _ _ ho) (by omega)
    · exact .layered ho (by omega)
  | kept hk =>
    -- The two heights differ by layers of kind `l` alone, and `o` is none.
    have hne : ∀ l' a, layer? (h o) = some (l', a) → l'.height ≠ l.height := by
      intro l' a ho hl
      rw [Layer.eq_of_height_eq hl] at ho
      exact hk a ho
    constructor
    · intro horder
      cases horder with
      | layered ho hlt ha =>
        have hl := hne _ _ ho
        exact .layered ho (by omega) ha
      | core hnone hcore =>
        refine .core (fun l' a ho => ?_) hcore
        have hle := hnone l' a ho
        omega
    · intro horder
      cases horder with
      | layered ho hlt ha => exact .layered ho (by omega) ha
      | core hnone hcore =>
        refine .core (fun l' a ho => ?_) hcore
        have hle := hnone l' a ho
        have hl := hne l' a ho
        omega

theorem inOrder_zero_iff : h.InOrder 0 c ↔ h.Core c := by
  constructor
  · intro horder
    cases horder with
    | layered _ hlt _ => cases hlt
    | core _ hcore => exact hcore
  · exact .core fun _ _ _ => Nat.zero_le _

theorem Peels.inOrder_iff (hc : h.Peels o c) : h.InOrder 3 o ↔ h.Core c := by
  obtain ⟨a, b, ha, hb, hc⟩ := hc
  calc h.InOrder 3 o ↔ h.InOrder 2 a := ha.inOrder_iff
    _ ↔ h.InOrder 1 b := hb.inOrder_iff
    _ ↔ h.InOrder 0 c := hc.inOrder_iff
    _ ↔ h.Core c := inOrder_zero_iff

/-- No wrappers are left on what was unwrapped. -/
theorem wrapped?_of_unwrap (ho : h.unwrap o = .ok r) (hcall : h.callable r) :
    h.wrapped? r = none := by
  have hr := (unwrap_eq_ok_iff (h.peels_peel o)).mp ho
  split at hr
  · obtain ⟨l, -, -, -, hend⟩ := hr
    exact wrapped?_of_wrapping hend
  · next hnot =>
    rw [hr] at hcall
    exact absurd hcall hnot

theorem bare_iff_core (hc : h.Peels o c) (ho : h.unwrap o = .ok r) : h.Bare r ↔ h.Core c := by
  have hr := (unwrap_eq_ok_iff hc).mp ho
  split at hr
  · next hcall =>
    obtain ⟨l, hp, -, -, hend⟩ := hr
    have hend := wrapped?_of_wrapping hend
    constructor
    · intro hbare
      exact .wrapping hcall hp hend hbare.layer
    · intro hcore
      refine ⟨?_, fun _ => hend⟩
      cases hcore with
      | plain hnot _ => simp [hcall] at hnot
      | wrapping _ hp' hend' hlayer =>
        rw [hp.unique hend hp' hend']
        exact hlayer
  · next hcall =>
    subst hr
    constructor
    · intro hbare
      exact .plain (by simpa using hcall) hbare.layer
    · intro hcore
      cases hcore with
      | plain _ hlayer => exact ⟨hlayer, fun h' => absurd h' hcall⟩
      | wrapping h' => exact absurd h' hcall

/-- What was unwrapped and is bare stays as it is when it is unwrapped. -/
theorem unwrap_of_bare (ho : h.unwrap o = .ok r) (hbare : h.Bare r) : h.unwrap r = .ok r := by
  have hkept : ∀ l, h.Sheds l r r := fun l => .kept (by simp [hbare.layer])
  have hr := (unwrap_eq_ok_iff (h.peels_peel o)).mp ho
  rw [unwrap_eq_ok_iff ⟨r, r, hkept _, hkept _, hkept _⟩]
  split
  · next hcall =>
    split at hr
    · obtain ⟨l, -, -, -, hend⟩ := hr
      exact ⟨[], .here, by simp, by simp, hend⟩
    · next hnot =>
      rw [hr] at hcall
      exact absurd hcall hnot
  · rfl

end order

/-- **When nothing is left to strip.**  What was unwrapped has no wrappers.  It is no layer either,
and is left as it is when it is unwrapped itself and known in the same way, if the layers of the
object stand in the order in which they are taken off: a computed attribute around a class method or
static method around a binding around wrappers, with any of them left out.  If they do not, a layer
is left. -/
theorem bare_unwrap_iff (h : Heap n) (o r : Fin n) (ho : h.unwrap o = .ok r) :
    (h.callable r → h.wrapped? r = none) ∧ (h.Bare r ↔ h.InOrder 3 o) ∧
      (h.Bare r → h.unwrap r = .ok r ∧ h.method r = h.method o) := by
  have hc := h.peels_peel o
  refine ⟨wrapped?_of_unwrap ho, ?_, ?_⟩
  · rw [bare_iff_core hc ho, hc.inOrder_iff]
  · intro hbare
    have hsame := unwrap_of_bare ho hbare
    refine ⟨hsame, ?_⟩
    rw [method_eq_map, method_eq_map, ho, hsame]

theorem bare_unwrap_iff_layered :
    layered.unwrap 0 = .ok 4 ∧ layered.InOrder 3 0 ∧ layered.Bare 4 ∧
      layered.method 4 = layered.method 0 := by
  have ho : layered.unwrap 0 = .ok 4 := rfl
  have horder : layered.InOrder 3 0 := by
    refine .layered rfl (by decide) (.layered rfl (by decide) (.layered rfl (by decide) ?_))
    exact .core (by intro l a hl; cases hl) (.wrapping rfl (.next rfl .here) rfl rfl)
  obtain ⟨-, hbare, hsame⟩ := bare_unwrap_iff layered 0 4 ho
  exact ⟨ho, horder, hbare.mpr horder, (hsame (hbare.mpr horder)).2⟩

/-- A class `C` that stores a class method over a computed attribute. -/
def misplaced : Heap 4
  | 0 => .classMethod 1
  | 1 => .property (some 2)
  | 2 => .function "f" "C.f" (some "m") ⟨"m.py", 30⟩ none
  | 3 => .classObject ⟨"C", "C", some "m", [], [("f", 0)], none, false⟩

/-- What is inside of the class method is not stripped, so the function is not seen. -/
theorem unwrap_misplaced : misplaced.ownAttr? "f" 3 = some 0 ∧
    misplaced.unwrap 0 = .ok 1 ∧ ¬ misplaced.Bare 1 ∧ misplaced.unwrap 1 = .ok 2 ∧
      misplaced.method 0 = .ok ⟨"<property object at 0x0>", none, "<property object at 0x0>"⟩ ∧
      misplaced.method 1 = .ok ⟨"f", some ⟨"m.py", 30⟩, "m.C.f"⟩ := by
  refine ⟨rfl, rfl, ?_, rfl, rfl, rfl⟩
  intro hbare
  cases hbare.layer

end DefSite.Live.Heap
