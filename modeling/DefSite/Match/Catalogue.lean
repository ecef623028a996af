import DefSite.Match.Variant

/-!
# The catalogue of variants

A catalogue holds variants under keys, each key once, in the order in which the keys were first
registered.  Registering a key again replaces its variant in place.
-/

namespace DefSite

/-- Variants by key. -/
structure Catalogue where
  entries : List (String × Variant)
  deriving Inhabited

namespace Catalogue

def empty : Catalogue :=
  ⟨[]⟩

/-- Entries with the variant under `key` set, in its place if the key is there. -/
def put (key : String) (v : Variant) : List (String × Variant) → List (String × Variant)
  | [] => [(key, v)]
  | (k, w) :: rest => if k = key then (k, v) :: rest else (k, w) :: put key v rest

/-- Registers a variant under a key, its own name if none is given. -/
def insert (r : Catalogue) (v : Variant) (key : Option String) : Catalogue :=
  ⟨put (key.getD v.name) v r.entries⟩

def get (r : Catalogue) (key : String) : Except Fault Variant :=
  match r.entries.lookup key with
  | some v => .ok v
  | none => .error (.unknownVariant key)

def keys (r : Catalogue) : List String :=
  r.entries.map (·.1)

def standard : Catalogue :=
  Variant.builtins.foldl (fun r v => r.insert v none) empty

/-! ## What registering changes -/

theorem lookup_put_self (key : String) (v : Variant) (es : List (String × Variant)) :
    (put key v es).lookup key = some v := by
  induction es with
  | nil => simp [put]
  | cons e es ih =>
    obtain ⟨k, w⟩ := e
    by_cases h : k = key
    · simp [put, h]
    · have hb : (key == k) = false := beq_eq_false_iff_ne.mpr fun e => h e.symm
      simp [put, h, List.lookup_cons, hb, ih]

theorem lookup_put_of_ne {k key : String} (h : k ≠ key) (v : Variant)
    (es : List (String × Variant)) : (put key v es).lookup k = es.lookup k := by
  have hb : (k == key) = false := beq_eq_false_iff_ne.mpr h
  induction es with
  | nil => simp [put, List.lookup_cons, hb]
  | cons e es ih =>
    obtain ⟨k', w⟩ := e
    by_cases he : k' = key
    · simp [put, he, List.lookup_cons, hb]
    · simp [put, he, List.lookup_cons, ih]

theorem map_fst_put (key : String) (v : Variant) (es : List (String × Variant)) :
    (put key v es).map (·.1) =
      if key ∈ es.map (·.1) then es.map (·.1) else es.map (·.1) ++ [key] := by
  induction es with
  | nil => simp [put]
  | cons e es ih =>
    by_cases he : e.1 = key
    · simp [put, he]
    · have hk : key ≠ e.1 := fun hk => he hk.symm
      by_cases hm : key ∈ es.map (·.1)
      · simp only [hm, ite_true] at ih
        simp only [put, he, ite_false, List.map_cons, ih, List.mem_cons, hm, or_true, ite_true]
      · simp only [hm, ite_false] at ih
        simp only [put, he, ite_false, List.map_cons, ih, List.mem_cons, hk, hm, or_self,
          List.cons_append]

theorem get_insert_self (r : Catalogue) (v : Variant) (key : Option String) :
    (r.insert v key).get (key.getD v.name) = .ok v := by
  simp [get, insert, lookup_put_self]

theorem get_insert_of_ne {r : Catalogue} {v : Variant} {key : Option String} {k : String}
    (h : k ≠ key.getD v.name) : (r.insert v key).get k = r.get k := by
  simp [get, insert, lookup_put_of_ne h]

/-- A key keeps its place when it is registered again, and a new one comes last. -/
theorem keys_insert (r : Catalogue) (v : Variant) (key : Option String) :
    (r.insert v key).keys =
      if key.getD v.name ∈ r.keys then r.keys
      else r.keys ++ [key.getD v.name] :=
  map_fst_put _ v r.entries

end Catalogue

end DefSite
