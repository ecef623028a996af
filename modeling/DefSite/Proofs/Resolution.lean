import DefSite.Match.Lookup
import DefSite.Proofs.Inheritance
import DefSite.Proofs.Unwrapping

/-!
# How names are resolved

A name that is looked up on a class is what the first class that holds it holds: the class and its
ancestors come first, and then its metaclass and the ancestors of that, and those that a metaclass
hides are passed over (`lookup_of_isClass`).  What is found, the scope, the catalogue and the
wrappers around the method can each be a reason to give no query; `Resolves` tells them in the order
in which they count, and `ofAttribute_outcome` that they are all there are.
-/

namespace DefSite

namespace Catalogue

variable {c : Catalogue} {key : String} {v : Variant} {e : Fault}

theorem get_eq_ok_iff : c.get key = .ok v ↔ c.entries.lookup key = some v := by
  unfold get
  cases c.entries.lookup key <;> simp

theorem lookup_eq_none_iff : c.entries.lookup key = none ↔ key ∉ c.keys := by
  rw [List.lookup_eq_none_iff, keys, List.mem_map]
  constructor
  · rintro hne ⟨p, hp, rfl⟩
    simpa using hne p hp
  · intro hnone p hp
    rw [bne_iff_ne]
    rintro rfl
    exact hnone ⟨p, hp, rfl⟩

theorem get_eq_error_iff : c.get key = .error e ↔ key ∉ c.keys ∧ e = .unknownVariant key := by
  rw [← lookup_eq_none_iff]
  unfold get
  cases c.entries.lookup key <;> simp [eq_comm]

theorem exists_get_iff : (∃ v, c.get key = .ok v) ↔ key ∈ c.keys := by
  rw [← not_iff_not, ← lookup_eq_none_iff]
  unfold get
  cases c.entries.lookup key <;> simp

end Catalogue

namespace Live.Heap

variable {n : Nat} {h : Heap n} {scope r c : Fin n} {name key : String} {e : Fault}
  {found : Attribute (Fin n)} {m : LiveMethod}

/-! ## The classes that a lookup passes -/

/-- The classes that a lookup on a class passes: those of its own order, and then those of its
metaclass. -/
def passed (h : Heap n) (scope : Fin n) : List (Ancestor n) :=
  h.ancestry (h.named scope) ++ h.ancestry (h.metaclass (h.named scope))

/-- What is looked up on a class is what the first readable class holds that holds something. -/
theorem lookup_of_isClass (hc : h.isClass scope) (name : String) :
    h.lookup scope name = ((h.passed scope).filter h.readable).findSome? (h.heldBy? name) := by
  unfold lookup passed firstHeld?
  rw [if_pos hc, List.filter_append, List.findSome?_append]

/-- Nothing is found if neither the class nor its metaclass has a readable class in its order that
holds the name. -/
theorem lookup_eq_none_iff (hc : h.isClass scope) : h.lookup scope name = none ↔
    (∀ a ∈ h.ancestry (h.named scope), h.readable a → h.heldBy? name a = none) ∧
      ∀ a ∈ h.ancestry (h.metaclass (h.named scope)), h.readable a → h.heldBy? name a = none := by
  rw [lookup_of_isClass hc, List.findSome?_eq_none_iff]
  simp only [passed, List.mem_filter, List.mem_append, and_imp, or_imp, forall_and]

/-! ## Which variant is wanted -/

def IsModule (h : Heap n) (r : Fin n) : Prop :=
  ∃ name attrs, h r = .module name attrs

/-- The variant that an attribute of a scope belongs to: on a module that of functions, and on a
class that of what is stored, which is a class method, a static method or anything else. -/
inductive Wants (h : Heap n) (scope : Fin n) (found : Attribute (Fin n)) : String → Prop
  | function (hscope : h.IsModule scope) : Wants h scope found "function"
  | classMethod {r f : Fin n} (hscope : h.isClass scope) (hfound : found = .stored r)
    (hr : h r = .classMethod f) : Wants h scope found "classmethod"
  | staticMethod {r f : Fin n} (hscope : h.isClass scope) (hfound : found = .stored r)
    (hr : h r = .staticMethod f) : Wants h scope found "staticmethod"
  | builtinStatic {owner name : String} (hscope : h.isClass scope)
    (hfound : found = .static owner name) : Wants h scope found "staticmethod"
  | other (hscope : h.isClass scope) (hbuiltin : ∀ owner name, found ≠ .static owner name)
    (hother : ∀ r, found = .stored r → ∀ f, h r ≠ .classMethod f ∧ h r ≠ .staticMethod f) :
    Wants h scope found "instance"

theorem not_isModule_of_isClass (hc : h.isClass scope) : ¬ h.IsModule scope := by
  rintro ⟨name, attrs, hm⟩
  simp [isClass, hm] at hc

theorem variantName_of_isModule (hm : h.IsModule scope) (found : Attribute (Fin n)) :
    h.variantName scope found = .ok "function" := by
  obtain ⟨name, attrs, hm⟩ := hm
  simp [variantName, hm]

theorem variantName_of_isClass (hc : h.isClass scope) (found : Attribute (Fin n)) :
    h.variantName scope found = match found with
      | .stored r => match h r with
        | .classMethod _ => .ok "classmethod"
        | .staticMethod _ => .ok "staticmethod"
        | _ => .ok "instance"
      | .static .. => .ok "staticmethod"
      | .slot .. | .data .. | .value _ => .ok "instance" := by
  unfold variantName
  split
  · next hm => exact absurd ⟨_, _, hm⟩ (not_isModule_of_isClass hc)
  · rw [hc]
    rfl

theorem variantName_of_other (hm : ¬ h.IsModule scope) (hc : ¬ h.isClass scope)
    (found : Attribute (Fin n)) :
    h.variantName scope found = .error (.notAScope (h.typeName scope)) := by
  unfold variantName
  split
  · next hm' => exact absurd ⟨_, _, hm'⟩ hm
  · rw [if_pos (by simpa using hc)]

theorem Wants.variantName_eq (hw : h.Wants scope found key) :
    h.variantName scope found = .ok key := by
  cases hw with
  | function hm => exact variantName_of_isModule hm found
  | classMethod hc hfound hr =>
    rw [variantName_of_isClass hc, hfound]
    dsimp only
    rw [hr]
  | staticMethod hc hfound hr =>
    rw [variantName_of_isClass hc, hfound]
    dsimp only
    rw [hr]
  | builtinStatic hc hfound => rw [variantName_of_isClass hc, hfound]
  | other hc hbuiltin hother =>
    rw [variantName_of_isClass hc]
    cases found with
    | stored r =>
      dsimp only
      split
      · next f hr => exact absurd hr (hother r rfl f).1
      · next f hr => exact absurd hr (hother r rfl f).2
      · rfl
    | static owner name => exact absurd rfl (hbuiltin owner name)
    | slot owner name => rfl
    | data owner name => rfl
    | value text => rfl

theorem exists_wants (h : Heap n) (found : Attribute (Fin n))
    (hscope : h.IsModule scope ∨ h.isClass scope) : ∃ key, h.Wants scope found key := by
  rcases hscope with hm | hc
  · exact ⟨_, .function hm⟩
  cases found with
  | static owner name => exact ⟨_, .builtinStatic hc rfl⟩
  | slot owner name => exact ⟨_, .other hc (by rintro _ _ ⟨⟩) (by rintro r ⟨⟩)⟩
  | data owner name => exact ⟨_, .other hc (by rintro _ _ ⟨⟩) (by rintro r ⟨⟩)⟩
  | value text => exact ⟨_, .other hc (by rintro _ _ ⟨⟩) (by rintro r ⟨⟩)⟩
  | stored r =>
    by_cases hclass : ∃ f, h r = .classMethod f
    · obtain ⟨f, hr⟩ := hclass
      exact ⟨_, .classMethod hc rfl hr⟩
    by_cases hstatic : ∃ f, h r = .staticMethod f
    · obtain ⟨f, hr⟩ := hstatic
      exact ⟨_, .staticMethod hc rfl hr⟩
    refine ⟨_, .other hc (by rintro _ _ ⟨⟩) ?_⟩
    rintro r' ⟨⟩ f
    exact ⟨fun hr => hclass ⟨f, hr⟩, fun hr => hstatic ⟨f, hr⟩⟩

/-! ## What is found as a live method -/

/-- What is known of an attribute that has no reference: something built in is known by its place,
and a value by its text. -/
def placed? : Attribute (Fin n) → Option LiveMethod
  | .stored _ => none
  | .slot owner name | .data owner name | .static owner name =>
    some ⟨name, none, s!"{owner}.{name}"⟩
  | .value text =>
    let shown := (text.map Text.quotedString).getD "None"
    some ⟨shown, none, shown⟩

/-- The live method that an attribute is: one that has no reference, or the stored object once its
layers and wrappers are off; wrappers are only followed from what can be called. -/
inductive Targets (h : Heap n) : Attribute (Fin n) → LiveMethod → Prop
  | placed {found : Attribute (Fin n)} {m : LiveMethod} (hm : placed? found = some m) :
    Targets h found m
  | bare {r c : Fin n} (hc : h.Peels r c) (hcall : h.callable c = false) :
    Targets h (.stored r) (h.asMethod c)
  | unwrapped {r c f : Fin n} (hc : h.Peels r c) (hcall : h.callable c = true)
    (hf : h.UnwrapsTo c f) : Targets h (.stored r) (h.asMethod f)

/-- What is found cannot be unwrapped: its wrappers snag, or they stray. -/
def Fails (h : Heap n) (found : Attribute (Fin n)) (e : Fault) : Prop :=
  ∃ r c, found = .stored r ∧ h.Peels r c ∧ h.callable c = true ∧
    (h.Snags c e ∨ h.Strays c ∧ e = .wrapperLoop (h.shown c))

theorem targets_stored_iff {r : Fin n} :
    h.Targets (.stored r) m ↔ ∃ f, h.unwrap r = .ok f ∧ m = h.asMethod f := by
  have hc := h.peels_peel r
  constructor
  · intro hm
    cases hm with
    | placed hm => cases hm
    | bare hc hcall => exact ⟨_, unwrap_of_not_callable hc hcall, rfl⟩
    | unwrapped hc hcall hf => exact ⟨_, unwrap_of_unwrapsTo hc hcall hf, rfl⟩
  · rintro ⟨f, hu, rfl⟩
    have hf := (unwrap_eq_ok_iff hc).mp hu
    split at hf
    · next hcall => exact .unwrapped hc hcall hf
    · next hcall =>
      rw [hf]
      exact .bare hc (by simpa using hcall)

theorem attributeMethod_of_placed? (hm : placed? found = some m) :
    h.attributeMethod found = .ok m := by
  cases found <;> cases hm <;> rfl

theorem attributeMethod_eq_ok_iff : h.attributeMethod found = .ok m ↔ h.Targets found m := by
  cases hplaced : placed? found with
  | some m' =>
    rw [attributeMethod_of_placed? hplaced]
    constructor
    · rintro ⟨⟩
      exact .placed hplaced
    · intro hm
      cases hm with
      | placed hm =>
        cases hplaced.symm.trans hm
        rfl
      | bare => cases hplaced
      | unwrapped => cases hplaced
  | none =>
    cases found with
    | stored r =>
      rw [targets_stored_iff, attributeMethod, method_eq_map]
      cases h.unwrap r with
      | error e => simp [Except.map]
      | ok f => simp [Except.map, eq_comm]
    | slot => cases hplaced
    | data => cases hplaced
    | static => cases hplaced
    | value => cases hplaced

theorem attributeMethod_eq_error_iff : h.attributeMethod found = .error e ↔ h.Fails found e := by
  cases hplaced : placed? found with
  | some m =>
    rw [attributeMethod_of_placed? hplaced]
    constructor
    · intro he
      cases he
    · rintro ⟨r, c, rfl, -⟩
      cases hplaced
  | none =>
    cases found with
    | stored r =>
      have herror : h.method r = .error e ↔ h.unwrap r = .error e := by
        rw [method_eq_map]
        cases h.unwrap r with
        | error e' => simp [Except.map]
        | ok f => exact ⟨nofun, nofun⟩
      rw [attributeMethod, herror]
      constructor
      · intro he
        exact ⟨r, h.peel r, rfl, h.peels_peel r, (unwrap_eq_error_iff (h.peels_peel r)).mp he⟩
      · rintro ⟨r, c, ⟨⟩, hc, he⟩
        exact (unwrap_eq_error_iff hc).mpr he
    | slot => cases hplaced
    | data => cases hplaced
    | static => cases hplaced
    | value => cases hplaced

end Live.Heap

namespace Query

open Live

section resolution

variable {n : Nat} (h : Heap n) (scope : Fin n) (name : String) (catalogue : Catalogue)

/-- What a name of a scope resolves to: a query for what is found, or the first of the reasons to
give none. -/
inductive Resolves : Except Fault Query → Prop
  | noAttribute (hnone : h.lookup scope name = none) : Resolves (.error (.noAttribute name))
  | notAScope {found : Attribute (Fin n)} (hfound : h.lookup scope name = some found)
    (hmodule : ¬ h.IsModule scope) (hclass : ¬ h.isClass scope) :
    Resolves (.error (.notAScope (h.typeName scope)))
  | unknownVariant {found : Attribute (Fin n)} {key : String}
    (hfound : h.lookup scope name = some found) (hkey : h.Wants scope found key)
    (hnone : key ∉ catalogue.keys) : Resolves (.error (.unknownVariant key))
  | fails {found : Attribute (Fin n)} {key : String} {e : Fault}
    (hfound : h.lookup scope name = some found) (hkey : h.Wants scope found key)
    (hknown : key ∈ catalogue.keys) (hfails : h.Fails found e) : Resolves (.error e)
  | query {found : Attribute (Fin n)} {key : String} {variant : Variant} {method : LiveMethod}
    (hfound : h.lookup scope name = some found) (hkey : h.Wants scope found key)
    (hvariant : catalogue.entries.lookup key = some variant) (hmethod : h.Targets found method) :
    Resolves (.ok ⟨h.scope scope, method, variant⟩)

variable {h scope name catalogue} {q : Query} {x : Except Fault Query}

theorem Resolves.eq (hx : Resolves h scope name catalogue x) :
    ofAttribute h scope name catalogue = x := by
  cases hx with
  | noAttribute hnone =>
    unfold ofAttribute
    rw [hnone]
    rfl
  | notAScope hfound hmodule hclass =>
    rw [ofAttribute_of_lookup hfound, Heap.variantName_of_other hmodule hclass]
    rfl
  | unknownVariant hfound hkey hnone =>
    rw [ofAttribute_of_lookup hfound, hkey.variantName_eq]
    show (catalogue.get _ >>= _) = _
    rw [Catalogue.get_eq_error_iff.mpr ⟨hnone, rfl⟩]
    rfl
  | fails hfound hkey hknown hfails =>
    obtain ⟨variant, hvariant⟩ := Catalogue.exists_get_iff.mpr hknown
    have hmethod := Heap.attributeMethod_eq_error_iff.mpr hfails
    rw [ofAttribute_of_lookup hfound, hkey.variantName_eq]
    show (catalogue.get _ >>= _) = _
    rw [hvariant]
    show (h.attributeMethod _ >>= _) = _
    rw [hmethod]
    rfl
  | query hfound hkey hvariant hmethod =>
    rw [ofAttribute_of_lookup hfound, hkey.variantName_eq]
    show (catalogue.get _ >>= _) = _
    rw [Catalogue.get_eq_ok_iff.mpr hvariant]
    show (h.attributeMethod _ >>= _) = _
    rw [Heap.attributeMethod_eq_ok_iff.mpr hmethod]
    rfl

theorem resolves_ofAttribute (h : Heap n) (scope : Fin n) (name : String) (catalogue : Catalogue) :
    Resolves h scope name catalogue (ofAttribute h scope name catalogue) := by
  have hall : ∃ x, Resolves h scope name catalogue x := by
    cases hfound : h.lookup scope name with
    | none => exact ⟨_, .noAttribute hfound⟩
    | some found =>
      by_cases hscope : h.IsModule scope ∨ h.isClass scope
      · obtain ⟨key, hkey⟩ := h.exists_wants found hscope
        by_cases hknown : key ∈ catalogue.keys
        · obtain ⟨variant, hvariant⟩ := Catalogue.exists_get_iff.mpr hknown
          cases hmethod : h.attributeMethod found with
          | ok method =>
            exact ⟨_, .query hfound hkey (Catalogue.get_eq_ok_iff.mp hvariant)
              (Heap.attributeMethod_eq_ok_iff.mp hmethod)⟩
          | error e =>
            exact ⟨_, .fails hfound hkey hknown (Heap.attributeMethod_eq_error_iff.mp hmethod)⟩
        · exact ⟨_, .unknownVariant hfound hkey hknown⟩
      · exact ⟨_, .notAScope hfound (fun hm => hscope (.inl hm)) fun hc => hscope (.inr hc)⟩
  obtain ⟨x, hx⟩ := hall
  rw [hx.eq]
  exact hx

end resolution

section tangled

end tangled

end Query

end DefSite
