/-!
# Steps that may fail

A chain of steps succeeds when each of them does, and fails with the first fault.
-/

namespace DefSite

variable {ε α β : Type}

theorem bind_eq_ok {x : Except ε α} {f : α → Except ε β} {b : β} :
    (x >>= f) = .ok b ↔ ∃ a, x = .ok a ∧ f a = .ok b := by
  cases x <;> simp [bind, Except.bind]

theorem bind_eq_error {x : Except ε α} {f : α → Except ε β} {e : ε} :
    (x >>= f) = .error e ↔ x = .error e ∨ ∃ a, x = .ok a ∧ f a = .error e := by
  cases x <;> simp [bind, Except.bind]

theorem pure_eq_ok {a b : α} : (pure a : Except ε α) = .ok b ↔ a = b := by
  simp [pure, Except.pure]

/-- A step and what is made of what it gives. -/
theorem bind_pure_eq_ok {x : Except ε α} {g : α → β} {b : β} :
    (do return g (← x)) = Except.ok b ↔ ∃ a, x = .ok a ∧ g a = b := by
  rw [bind_eq_ok]
  simp only [pure_eq_ok]

theorem mapM_eq_ok {f : α → Except ε β} {l : List α} {bs : List β} :
    l.mapM f = .ok bs ↔ l.map f = bs.map .ok := by
  induction l generalizing bs with
  | nil =>
    rw [List.mapM_nil, pure_eq_ok]
    simp [eq_comm]
  | cons a l ih =>
    rw [List.mapM_cons, bind_eq_ok]
    constructor
    · rintro ⟨b, hb, h⟩
      obtain ⟨bs', hbs, h⟩ := bind_eq_ok.mp h
      cases pure_eq_ok.mp h
      rw [List.map_cons, List.map_cons, hb, ih.mp hbs]
    · intro h
      cases bs with
      | nil => cases h
      | cons b bs =>
        obtain ⟨hb, hbs⟩ := List.cons_eq_cons.mp h
        exact ⟨b, hb, bind_eq_ok.mpr ⟨bs, ih.mpr hbs, rfl⟩⟩

theorem mapM_bind_pure_eq_ok {γ : Type} {f : α → Except ε β} {g : β → γ} {l : List α}
    {cs : List γ} :
    (l.mapM fun a => do return g (← f a)) = Except.ok cs ↔
      ∃ bs, l.mapM f = .ok bs ∧ bs.map g = cs := by
  induction l generalizing cs with
  | nil => simp [List.mapM_nil, pure, Except.pure]
  | cons a l ih =>
    simp only [List.mapM_cons, bind_eq_ok, ih, pure_eq_ok]
    constructor
    · rintro ⟨_, ⟨b, hb, rfl⟩, _, ⟨bs, hbs, rfl⟩, rfl⟩
      exact ⟨b :: bs, ⟨b, hb, bs, hbs, rfl⟩, rfl⟩
    · rintro ⟨_, ⟨b, hb, bs, hbs, rfl⟩, rfl⟩
      exact ⟨g b, ⟨b, hb, rfl⟩, bs.map g, ⟨bs, hbs, rfl⟩, rfl⟩

theorem optionMapM_bind_pure_eq_ok {γ : Type} {f : α → Except ε β} {g : β → γ} {o : Option α}
    {c : Option γ} :
    (o.mapM fun a => do return g (← f a)) = Except.ok c ↔
      ∃ b, o.mapM f = .ok b ∧ b.map g = c := by
  cases o with
  | none => simp [pure, Except.pure]
  | some a => cases hf : f a <;> simp [hf, Functor.map, Except.map]

theorem mapM_eq_error {f : α → Except ε β} {l : List α} {e : ε} :
    l.mapM f = .error e ↔
      ∃ before a after, l = before ++ a :: after ∧ (∀ b ∈ before, ∃ c, f b = .ok c) ∧
        f a = .error e := by
  induction l with
  | nil => simp [pure, Except.pure]
  | cons a l ih =>
    rw [List.mapM_cons, bind_eq_error]
    constructor
    · rintro (ha | ⟨c, hc, h⟩)
      · exact ⟨[], a, l, rfl, by simp, ha⟩
      · rcases bind_eq_error.mp h with h | ⟨cs, -, h⟩
        · obtain ⟨before, b, after, rfl, hbefore, hb⟩ := ih.mp h
          refine ⟨a :: before, b, after, rfl, ?_, hb⟩
          exact List.forall_mem_cons.mpr ⟨⟨c, hc⟩, hbefore⟩
        · cases h
    · rintro ⟨before, b, after, hl, hbefore, hb⟩
      cases before with
      | nil =>
        obtain ⟨rfl, rfl⟩ := List.cons_eq_cons.mp hl
        exact .inl hb
      | cons a' before =>
        obtain ⟨rfl, rfl⟩ := List.cons_eq_cons.mp hl
        obtain ⟨⟨c, hc⟩, hbefore⟩ := List.forall_mem_cons.mp hbefore
        have h := ih.mpr ⟨before, b, after, rfl, hbefore, hb⟩
        exact .inr ⟨c, hc, bind_eq_error.mpr (.inl h)⟩

theorem exists_mapM_eq_error {f : α → Except ε β} {l : List α} :
    (∃ e, l.mapM f = .error e) ↔ ∃ a ∈ l, ∃ e, f a = .error e := by
  constructor
  · rintro ⟨e, h⟩
    obtain ⟨before, a, after, rfl, -, ha⟩ := mapM_eq_error.mp h
    exact ⟨a, by simp, e, ha⟩
  · rintro ⟨a, ha, e, he⟩
    cases h : l.mapM f with
    | error e => exact ⟨e, rfl⟩
    | ok bs =>
      have hmem : f a ∈ bs.map .ok := mapM_eq_ok.mp h ▸ List.mem_map_of_mem ha
      rw [he] at hmem
      obtain ⟨b, -, hb⟩ := List.mem_map.mp hmem
      cases hb

end DefSite
