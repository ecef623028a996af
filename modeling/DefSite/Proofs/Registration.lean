import Mathlib
import DefSite.Proofs.LineRange
import DefSite.Proofs.Resolution

/-!
# Several catalogues in use

Variants are registered in any number of catalogues, each empty or standard to begin with, while
others are asked for.  What a catalogue answers is told by the registrations in it alone, in their
order (`requests_answered`): its keys stand in the order in which they were first registered, and
under a key it holds what was registered last.
-/

namespace DefSite

namespace Catalogue

/-! ## What was registered in a catalogue -/

/-- A catalogue holds what was registered in it: its keys stand in the order of their first
registrations, and under each is what was registered last. -/
structure Holds (c : Catalogue) (log : List (String × Variant)) : Prop where
  mem_keys : ∀ key, key ∈ c.keys ↔ key ∈ log.map (·.1)
  order : c.keys.Pairwise fun k k' => (log.map (·.1)).idxOf k < (log.map (·.1)).idxOf k'
  lookup : ∀ key, c.entries.lookup key = log.reverse.lookup key

/-- The variant was registered under the key, and nothing was after it. -/
def RegisteredLast (log : List (String × Variant)) (key : String) (v : Variant) : Prop :=
  ∃ before after, log = before ++ (key, v) :: after ∧ key ∉ after.map (·.1)

/-- The key that a variant is registered under: the one that is given, were it empty, and its own
name if none is. -/
def keyFor (v : Variant) : Option String → String
  | some key => key
  | none => v.name

variable {c : Catalogue} {log : List (String × Variant)} {key : String} {v : Variant}

theorem registeredLast_iff : RegisteredLast log key v ↔ log.reverse.lookup key = some v := by
  rw [List.lookup_eq_some_iff]
  constructor
  · rintro ⟨before, after, rfl, hnone⟩
    refine ⟨after.reverse, before.reverse, by simp, fun p hp => ?_⟩
    rw [bne_iff_ne]
    rintro rfl
    exact hnone (List.mem_map_of_mem (List.mem_reverse.mp hp))
  · rintro ⟨after, before, hlog, hnone⟩
    refine ⟨before.reverse, after.reverse, ?_, fun hk => ?_⟩
    · rw [← List.reverse_reverse log, hlog]
      simp
    · obtain ⟨p, hp, rfl⟩ := List.mem_map.mp hk
      simpa using hnone p (List.mem_reverse.mp hp)

namespace Holds

theorem nodup (h : c.Holds log) : c.keys.Nodup :=
  h.order.imp fun hlt he => by simp [he] at hlt

theorem get_eq_ok_iff (h : c.Holds log) : c.get key = .ok v ↔ RegisteredLast log key v := by
  rw [Catalogue.get_eq_ok_iff, h.lookup, registeredLast_iff]

theorem get_eq_error_iff (h : c.Holds log) {e : Fault} :
    c.get key = .error e ↔ key ∉ log.map (·.1) ∧ e = .unknownVariant key := by
  rw [Catalogue.get_eq_error_iff, h.mem_keys]

theorem empty : Catalogue.empty.Holds [] :=
  ⟨fun _ => .rfl, .nil, fun _ => rfl⟩

/-- A registration under a key that is there keeps the order, and one under a new key comes last. -/
theorem order_insert (h : c.Holds log) (v : Variant) (given : Option String) :
    (c.insert v given).keys.Pairwise fun k k' =>
      (log.map (·.1) ++ [given.getD v.name]).idxOf k <
        (log.map (·.1) ++ [given.getD v.name]).idxOf k' := by
  have hold : ∀ {k}, k ∈ c.keys → (log.map (·.1) ++ [given.getD v.name]).idxOf k =
      (log.map (·.1)).idxOf k := fun hk => List.idxOf_append_of_mem ((h.mem_keys _).mp hk)
  have horder : c.keys.Pairwise fun k k' =>
      (log.map (·.1) ++ [given.getD v.name]).idxOf k <
        (log.map (·.1) ++ [given.getD v.name]).idxOf k' := by
    refine h.order.imp_of_mem fun hk hk' hlt => ?_
    rwa [hold hk, hold hk']
  rw [keys_insert]
  split
  · exact horder
  · next hnew =>
    refine List.pairwise_append.mpr ⟨horder, List.pairwise_singleton _ _, ?_⟩
    intro k hk k' hk'
    rw [List.mem_singleton.mp hk', hold hk,
      List.idxOf_append_of_notMem (mt (h.mem_keys _).mpr hnew)]
    have hlt := List.idxOf_lt_length_iff.mpr ((h.mem_keys k).mp hk)
    omega

theorem insert (h : c.Holds log) (v : Variant) (given : Option String) :
    (c.insert v given).Holds (log ++ [(keyFor v given, v)]) := by
  have hkey : keyFor v given = given.getD v.name := by cases given <;> rfl
  rw [hkey]
  refine ⟨fun k => ?_, ?_, fun k => ?_⟩
  · rw [keys_insert, List.map_append, List.mem_append, ← h.mem_keys]
    split
    · next hin =>
      refine (or_iff_left_of_imp fun hk => ?_).symm
      rwa [List.mem_singleton.mp hk]
    · exact List.mem_append
  · rw [List.map_append]
    exact h.order_insert v given
  · rw [List.reverse_append]
    by_cases hk : k = given.getD v.name
    · rw [hk]
      simp [Catalogue.insert, lookup_put_self]
    · have hb : (k == given.getD v.name) = false := beq_eq_false_iff_ne.mpr hk
      simp [Catalogue.insert, lookup_put_of_ne hk, h.lookup, List.lookup_cons, hb]

/-- Variants that are registered under their own names, one after the other. -/
theorem foldl_insert (h : c.Holds log) (vs : List Variant) :
    (vs.foldl (fun c v => c.insert v none) c).Holds (log ++ vs.map fun v => (v.name, v)) := by
  induction vs generalizing c log with
  | nil => simpa using h
  | cons v vs ih => simpa [keyFor] using ih (h.insert v none)

end Holds

/-- What a catalogue is to begin with. -/
inductive Start where
  | bare | standard

namespace Start

def catalogue : Start → Catalogue
  | bare => .empty
  | standard => .standard

/-- The registrations that have been made in it. -/
def registrations : Start → List (String × Variant)
  | bare => []
  | standard => Variant.builtins.map fun v => (v.name, v)

theorem holds (s : Start) : s.catalogue.Holds s.registrations := by
  cases s with
  | bare => exact .empty
  | standard => exact Holds.empty.foldl_insert Variant.builtins

end Start

/-! ## Requests to several catalogues -/

/-- A request to one of several catalogues. -/
inductive Request (ι : Type) where
  | register (i : ι) (v : Variant) (given : Option String)
  | get (i : ι) (key : String)
  | available (i : ι)

inductive Reply where
  | done
  | variant (v : Variant)
  | keys (ks : List String)

section requests

variable {ι : Type} [DecidableEq ι]

namespace Request

def reply (cs : ι → Catalogue) : Request ι → Except Fault Reply
  | register .. => .ok .done
  | get i key => return .variant (← (cs i).get key)
  | available i => .ok (.keys (cs i).keys)

/-- The catalogues after a request. -/
def next (cs : ι → Catalogue) : Request ι → ι → Catalogue
  | register i v given => Function.update cs i ((cs i).insert v given)
  | get .. | available _ => cs

/-- The registration that a request makes in a catalogue. -/
def registration? (i : ι) : Request ι → Option (String × Variant)
  | register j v given => if j = i then some (keyFor v given, v) else none
  | get .. | available _ => none

end Request

/-- The catalogues after requests. -/
def served (start : ι → Start) (rs : List (Request ι)) : ι → Catalogue :=
  rs.foldl Request.next fun i => (start i).catalogue

/-- The registrations in a catalogue, oldest first: those that it started with, and those that
requests made. -/
def registrations (start : ι → Start) (rs : List (Request ι)) (i : ι) :
    List (String × Variant) :=
  (start i).registrations ++ rs.filterMap (·.registration? i)

variable {start : ι → Start} {cs : ι → Catalogue} {i j : ι}

theorem served_concat (rs : List (Request ι)) (r : Request ι) :
    served start (rs ++ [r]) = r.next (served start rs) :=
  List.foldl_concat ..

theorem registrations_concat (rs : List (Request ι)) (r : Request ι) :
    registrations start (rs ++ [r]) i =
      registrations start rs i ++ (r.registration? i).toList := by
  have hone : [r].filterMap (·.registration? i) = (r.registration? i).toList := by
    cases hr : r.registration? i <;> simp [hr]
  rw [registrations, List.filterMap_append, hone, ← List.append_assoc, registrations]

theorem next_register_of_ne (hne : j ≠ i) (v : Variant) (given : Option String) :
    (Request.register j v given).next cs i = cs i :=
  Function.update_of_ne hne.symm _ _

/-- One request adds what it registers. -/
theorem Holds.next (h : (cs i).Holds log) (r : Request ι) :
    (r.next cs i).Holds (log ++ (r.registration? i).toList) := by
  cases r with
  | register j v given =>
    by_cases hj : j = i
    · subst hj
      simpa [Request.next, Request.registration?] using h.insert v given
    · simpa [next_register_of_ne hj, Request.registration?, hj] using h
  | get | available => simpa [Request.next, Request.registration?] using h

/-- After any requests a catalogue holds what was registered in it. -/
theorem holds_served (start : ι → Start) (rs : List (Request ι)) (i : ι) :
    (served start rs i).Holds (registrations start rs i) := by
  induction rs using List.reverseRecOn with
  | nil => simpa [served, registrations] using (start i).holds
  | append_singleton rs r ih =>
    rw [served_concat, registrations_concat]
    exact ih.next r

/-- A catalogue is what its own registrations make of it. -/
theorem served_eq_foldl (start : ι → Start) (rs : List (Request ι)) (i : ι) :
    served start rs i = (rs.filterMap (·.registration? i)).foldl
      (fun c p => ⟨put p.1 p.2 c.entries⟩) (start i).catalogue := by
  induction rs using List.reverseRecOn with
  | nil => rfl
  | append_singleton rs r ih =>
    rw [served_concat, List.filterMap_append, List.foldl_append, ← ih]
    cases r with
    | register j v given =>
      by_cases hj : j = i
      · subst hj
        cases given <;> simp [Request.next, Request.registration?, keyFor, Catalogue.insert]
      · simp [next_register_of_ne hj, Request.registration?, hj]
    | get | available => rfl

end requests

end Catalogue

namespace Query

open Live

variable {n : Nat} {h : Heap n} {scope : Fin n} {found : Attribute (Fin n)} {name key : String}
  {c : Catalogue} {v : Variant}

/-- A query by name takes its variant from the catalogue. -/
theorem ofAttribute_of_wants (hfound : h.lookup scope name = some found)
    (hkey : h.Wants scope found key) (hv : c.get key = .ok v) :
    ofAttribute h scope name c =
      (h.attributeMethod found).map fun m => ⟨h.scope scope, m, v⟩ := by
  rw [ofAttribute_of_lookup hfound, hkey.variantName_eq]
  show (c.get key >>= _) = _
  rw [hv]
  show (h.attributeMethod found >>= _) = _
  cases h.attributeMethod found <;> rfl

/-- Subjects are of the kind that the variant says. -/
theorem kind_of_mem_callAfresh {σ : Type} {q : Query} {setup : Setup σ} {w : World σ}
    {ss : List Subject} (hss : (q.callAfresh setup w).1 = .ok ss) :
    ∀ s ∈ ss, s.kind = q.variant.subjectKind := by
  intro s hs
  obtain ⟨l, t, a, n, -, rfl⟩ := found_of_mem_callAfresh hss hs
  rfl

end Query

namespace Catalogue

open Live

section requests

variable {ι : Type} [DecidableEq ι] {cs : ι → Catalogue} {i : ι} {log : List (String × Variant)}

/-- What a catalogue answers is told by the registrations in it. -/
structure Answers (cs : ι → Catalogue) (i : ι) (log : List (String × Variant)) : Prop where
  /-- Each key is listed once, in the order of the first registrations. -/
  available : ∃ ks, (Request.available i).reply cs = .ok (.keys ks) ∧ ks.Nodup ∧
    (∀ k, k ∈ ks ↔ k ∈ log.map (·.1)) ∧
    ks.Pairwise fun k k' => (log.map (·.1)).idxOf k < (log.map (·.1)).idxOf k'
  get : ∀ k v, (Request.get i k).reply cs = .ok (.variant v) ↔ RegisteredLast log k v
  unknown : ∀ k e, (Request.get i k).reply cs = .error e ↔
    k ∉ log.map (·.1) ∧ e = .unknownVariant k

omit [DecidableEq ι] in
theorem Holds.answers (h : (cs i).Holds log) : Answers cs i log := by
  have hget : ∀ k, (Request.get i k).reply cs = ((cs i).get k).map .variant := by
    intro k
    simp only [Request.reply]
    cases (cs i).get k <;> rfl
  refine ⟨⟨_, rfl, h.nodup, h.mem_keys, h.order⟩, fun k v => ?_, fun k e => ?_⟩
  · rw [hget, ← h.get_eq_ok_iff]
    cases (cs i).get k <;> simp [Except.map]
  · rw [hget, ← h.get_eq_error_iff]
    cases (cs i).get k <;> simp [Except.map]

/-- **What catalogues answer.**  Whatever requests were made to any number of catalogues, one of
them lists each key that was registered in it once, in the order in which the keys were first
registered.  Under a key it gives the variant that was registered last, and a fault only where none
ever was; giving and listing change nothing, and a registration in one catalogue changes no other,
so that it is the same after all requests that register the same in it.  A query by name takes its
variant from there, and what it finds is a subject of the kind that this variant says. -/
theorem requests_answered (start : ι → Start) (rs : List (Request ι)) (i : ι) :
    Answers (served start rs) i (registrations start rs i) ∧
    (∀ k, (Request.get i k).next (served start rs) = served start rs) ∧
    (Request.available i).next (served start rs) = served start rs ∧
    (∀ j v given, j ≠ i →
      (Request.register j v given).next (served start rs) i = served start rs i) ∧
    (∀ rs' : List (Request ι), rs'.filterMap (·.registration? i) =
      rs.filterMap (·.registration? i) → served start rs' i = served start rs i) ∧
    ∀ {n : Nat} (h : Heap n) (scope : Fin n) (name key : String) (found : Attribute (Fin n)),
      h.lookup scope name = some found → h.Wants scope found key →
        (key ∉ (registrations start rs i).map (·.1) →
          Query.ofAttribute h scope name (served start rs i) = .error (.unknownVariant key)) ∧
        ∀ v, RegisteredLast (registrations start rs i) key v →
          Query.ofAttribute h scope name (served start rs i) =
            (h.attributeMethod found).map (fun m => ⟨h.scope scope, m, v⟩) ∧
          ∀ {σ : Type} (setup : Setup σ) (w : World σ) q ss,
            Query.ofAttribute h scope name (served start rs i) = .ok q →
            (q.callAfresh setup w).1 = .ok ss → ∀ s ∈ ss, s.kind = v.subjectKind := by
  have hholds := holds_served start rs i
  refine ⟨hholds.answers, fun _ => rfl, rfl, fun j v given hne => next_register_of_ne hne v given,
    fun rs' hrs => ?_, ?_⟩
  · rw [served_eq_foldl, served_eq_foldl, hrs]
  · intro n h scope name key found hfound hkey
    refine ⟨fun hnone => ?_, fun v hv => ?_⟩
    · have hunknown := mt (hholds.mem_keys key).mp hnone
      exact (Query.Resolves.unknownVariant hfound hkey hunknown).eq
    · have hquery := Query.ofAttribute_of_wants hfound hkey (hholds.get_eq_ok_iff.mpr hv)
      refine ⟨hquery, fun setup w q ss hq hss => ?_⟩
      rw [hquery] at hq
      cases hm : h.attributeMethod found with
      | error e => simp [hm, Except.map] at hq
      | ok m =>
        rw [hm] at hq
        cases hq
        exact Query.kind_of_mem_callAfresh hss

end requests

section overridden

open Query

/-- A module `a` with a function `f` of `a.py`, whose first decorator is on line 3. -/
def moduleWithFunction : Heap 2
  | 0 => .module "a" [("f", 1)]
  | 1 => .function "f" "f" (some "a") ⟨"a.py", 3⟩ none

/-- A variant of static methods that wants the decorator `d`. -/
def wantsD : Variant :=
  .custom "wants d" .staticMethod (some "d")

/-- The variant is registered in place of that of functions in the one catalogue, which is standard
to begin with, and under its own name in the other; the empty key is a key, too. -/
def overriding : List (Request (Fin 2)) :=
  [.register 0 wantsD (some "function"), .register 1 wantsD none, .get 1 "function",
    .register 0 .classMethod (some ""), .register 1 .function (some "wants d")]

def standardAndBare : Fin 2 → Start
  | 0 => .standard
  | 1 => .bare

def functionQuery : Query :=
  ⟨moduleWithFunction.scope 0, ⟨"f", some ⟨"a.py", 3⟩, "a.f"⟩, wantsD⟩

/-- The function is found as a static method, and only by the catalogue that knows functions. -/
theorem requests_answered_overridden :
    (Request.get 0 "").reply (served standardAndBare overriding) =
      .ok (.variant Variant.classMethod) ∧
    Query.ofAttribute moduleWithFunction 0 "f" (served standardAndBare overriding 1) =
      .error (.unknownVariant "function") ∧
    ∃ q s, Query.ofAttribute moduleWithFunction 0 "f" (served standardAndBare overriding 0) =
        .ok q ∧
      (q.callAfresh lenientSetup scatteredWorld).1 = .ok [s] ∧ s.kind = .staticMethod := by
  have hfound : moduleWithFunction.lookup 0 "f" = some (.stored 1) := by decide +kernel
  have hkey : moduleWithFunction.Wants 0 (.stored 1) "function" := .function ⟨_, _, rfl⟩
  obtain ⟨hanswers, -, -, -, -, hquery⟩ := requests_answered standardAndBare overriding 0
  obtain ⟨-, -, -, -, -, hquery'⟩ := requests_answered standardAndBare overriding 1
  have hlast : RegisteredLast (registrations standardAndBare overriding 0) "function" wantsD :=
    ⟨Start.standard.registrations, [("", .classMethod)], rfl, by decide⟩
  have hempty : RegisteredLast (registrations standardAndBare overriding 0) "" .classMethod :=
    ⟨Start.standard.registrations ++ [("function", wantsD)], [], rfl, by decide⟩
  have hnone : "function" ∉ (registrations standardAndBare overriding 1).map (·.1) := by decide
  obtain ⟨hof, hkind⟩ := (hquery moduleWithFunction 0 "f" "function" _ hfound hkey).2 wantsD hlast
  have hmethod : moduleWithFunction.attributeMethod (.stored 1) =
      .ok ⟨"f", some ⟨"a.py", 3⟩, "a.f"⟩ := by cbv
  rw [hmethod] at hof
  have hfind : scattered.findLast functionQuery.recognises = .ok (some [0]) := by cbv
  have hanswer : (functionQuery.callAfresh lenientSetup scatteredWorld).1 = .ok [_] :=
    answer_of_findLast (l := ⟨"a.py", 3⟩) (t := ⟨0, scattered⟩) rfl (by cbv) (by cbv) hfind rfl
      (by cbv)
  refine ⟨(hanswers.get _ _).mpr hempty, ?_, functionQuery, _, hof, hanswer, ?_⟩
  · exact (hquery' moduleWithFunction 0 "f" "function" _ hfound hkey).1 hnone
  · exact hkind lenientSetup scatteredWorld functionQuery _ hof hanswer _
      (List.mem_singleton_self _)

end overridden

end Catalogue

end DefSite
