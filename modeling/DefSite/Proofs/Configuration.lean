import Mathlib
import DefSite.Proofs.Attempt
import DefSite.Settings

/-!
# From a document to a denylist

A project's document sets both lists of the denylist, or one, or none.  `settings_outcome` says when
the settings cannot be had and why, and which filenames are denied if they can: a list that is set,
be it empty, takes the place of the default one, and one that is not set leaves it.
-/

namespace DefSite

namespace Toml

/-- The value at a path of names, each of them in the table at those before it. -/
def at? : List String → Toml → Option Toml
  | [], v => some v
  | name :: path, table t => (t.lookup name).bind (at? path)
  | _ :: _, _ => none

def IsTable (v : Toml) : Prop :=
  ∃ t, v = table t

end Toml

namespace Settings

open Toml

/-- The settings of these files stand in this table; that of a project without a document is
empty. -/
inductive Documented (files : FileStore) : Entries → Prop
  | read {bytes : List UInt8} {text : List Char} {t : Entries}
    (hread : files.read documentName = .ok bytes) (htext : Text.Utf8.decode bytes = .ok text)
    (ht : Document.read text = some t) : Documented files t
  | missing {path : PathName} (hread : files.read documentName = .error (.noSuchFile path)) :
    Documented files []

/-- The value stands where a table is wanted, and is none. -/
def Obstructs (doc v : Toml) : Prop :=
  (doc.at? ["tool"] = some v ∨ doc.at? ["tool", "gremlin-subjects"] = some v) ∧ ¬ v.IsTable

/-- The value of a setting. -/
def value? (doc : Toml) (key : String) : Option Toml :=
  doc.at? ["tool", "gremlin-subjects", key]

/-- What a document sets a list to, if it sets it. -/
def Sets (doc : Toml) (key : String) : Option (List String) → Prop
  | none => value? doc key = none
  | some l => value? doc key = some (.list (l.map .text))

/-- A list of strings is wanted, and this is none. -/
def Misshapes (doc : Toml) (key : String) (v : Toml) : Prop :=
  value? doc key = some v ∧ ∀ l : List String, v ≠ .list (l.map .text)

/-- The list that holds: the one that the document sets, and the default one if it sets none. -/
def Effective (doc : Toml) (key : String) (unset l : List String) : Prop :=
  (value? doc key = none ∧ l = unset) ∨ value? doc key = some (.list (l.map .text))

/-! ## Values -/

theorem string?_eq_some_iff {v : Toml} {s : String} : string? v = some s ↔ v = .text s := by
  cases v <;> simp [string?]

theorem mapM_string?_eq_some_iff {items : List Toml} {l : List String} :
    items.mapM string? = some l ↔ items = l.map .text := by
  induction items generalizing l with
  | nil => cases l <;> simp
  | cons v items ih =>
    simp only [List.mapM_cons, Option.bind_eq_bind, Option.bind_eq_some_iff, Option.pure_def,
      Option.some.injEq, string?_eq_some_iff, ih]
    constructor
    · rintro ⟨s, rfl, l, rfl, rfl⟩
      rfl
    · intro h
      cases l with
      | nil => cases h
      | cons s l =>
        obtain ⟨rfl, rfl⟩ := List.cons_eq_cons.mp h
        exact ⟨s, rfl, l, rfl, rfl⟩

/-- A value is read as what it sets, or refused for its shape. -/
theorem strings_cases {doc : Toml} {t : Entries} {key : String}
    (h : value? doc key = t.lookup key) :
    (∃ o, Sets doc key o ∧ strings t key = .ok o) ∨
      ∃ v, Misshapes doc key v ∧ strings t key = .error (.notStrings key v.shown) := by
  unfold strings
  split
  · next hnone => exact .inl ⟨none, h.trans hnone, rfl⟩
  · next items hsome =>
    split
    · next l hl =>
      refine .inl ⟨some l, ?_, rfl⟩
      show value? doc key = _
      rw [h, hsome, mapM_string?_eq_some_iff.mp hl]
    · next hl =>
      refine .inr ⟨_, ⟨h.trans hsome, fun l hl' => ?_⟩, rfl⟩
      cases hl'
      rw [mapM_string?_eq_some_iff.mpr rfl] at hl
      cases hl
  · next v hv hsome =>
    refine .inr ⟨v, ⟨h.trans hsome, fun l hl => ?_⟩, rfl⟩
    exact hv _ hl

/-! ## Tables -/

section tables

variable {t u : Entries} {name key : String} {path : List String} {v : Toml}

theorem at?_singleton : (Toml.table t).at? [name] = t.lookup name := by
  cases h : t.lookup name <;> simp [Toml.at?, h]

theorem at?_cons_of_some (h : t.lookup name = some v) :
    (Toml.table t).at? (name :: path) = v.at? path := by
  simp [Toml.at?, h]

/-- Under a name stands a table, or nothing, which counts as an empty one, or something is in the
way. -/
theorem subtable_cases (t : Entries) (name : String) :
    (∃ u, subtable t name = .ok u ∧ (∀ v, (Toml.table t).at? [name] = some v → v.IsTable) ∧
      ∀ key path, (Toml.table t).at? (name :: key :: path) = (Toml.table u).at? (key :: path)) ∨
    ∃ v, (Toml.table t).at? [name] = some v ∧ ¬ v.IsTable ∧
      subtable t name = .error (.notATable v.typeName) := by
  simp only [at?_singleton]
  unfold subtable
  split
  · next h =>
    refine .inl ⟨[], rfl, by simp [h], fun key path => ?_⟩
    simp [Toml.at?, h]
  · next u h =>
    refine .inl ⟨u, rfl, fun v hv => ?_, fun key path => at?_cons_of_some h⟩
    cases h.symm.trans hv
    exact ⟨u, rfl⟩
  · next v hv h =>
    refine .inr ⟨v, h, ?_, rfl⟩
    rintro ⟨u, rfl⟩
    exact hv u rfl

/-- Something is in the way of the table of settings, or the settings are those of a table. -/
theorem ofDocument_cases (t : Entries) :
    (∃ v, Obstructs (.table t) v ∧ ofDocument t = .error (.notATable v.typeName)) ∨
    ∃ own : Entries, (∀ v, ¬ Obstructs (.table t) v) ∧
      (∀ key, value? (.table t) key = own.lookup key) ∧
      ofDocument t = (do
        return ⟨← strings own "source-denylist", ← strings own "source-denylist-prefixes"⟩) := by
  unfold ofDocument
  rcases subtable_cases t "tool" with ⟨u, hu, htool, hbelow⟩ | ⟨v, hv, hnot, he⟩
  · rw [hu]
    rcases subtable_cases u "gremlin-subjects" with
      ⟨own, hown, hsubjects, hkeys⟩ | ⟨v, hv, hnot, he⟩
    · refine .inr ⟨own, ?_, ?_, ?_⟩
      · rintro v ⟨hv | hv, hnot⟩
        · exact hnot (htool v hv)
        · rw [hbelow] at hv
          exact hnot (hsubjects v hv)
      · intro key
        show (Toml.table t).at? _ = _
        rw [hbelow, hkeys, at?_singleton]
      · show (subtable u _ >>= _) = _
        rw [hown]
        rfl
    · refine .inl ⟨v, ⟨.inr ?_, hnot⟩, ?_⟩
      · rw [hbelow]
        exact hv
      · show (subtable u _ >>= _) = _
        rw [he]
        rfl
  · rw [he]
    exact .inl ⟨v, ⟨.inl hv, hnot⟩, rfl⟩

end tables

/-! ## Loading -/

/-- The ways in which the settings of a document are read. -/
inductive Outcome (doc : Toml) : Except Fault Settings → Prop
  | obstructed {v : Toml} (hv : Obstructs doc v) : Outcome doc (.error (.notATable v.typeName))
  | exactMisshapen {v : Toml} (hclear : ∀ v, ¬ Obstructs doc v)
    (hv : Misshapes doc "source-denylist" v) :
    Outcome doc (.error (.notStrings "source-denylist" v.shown))
  | startsMisshapen {exact : Option (List String)} {v : Toml} (hclear : ∀ v, ¬ Obstructs doc v)
    (hexact : Sets doc "source-denylist" exact)
    (hv : Misshapes doc "source-denylist-prefixes" v) :
    Outcome doc (.error (.notStrings "source-denylist-prefixes" v.shown))
  | read {exact starts : Option (List String)} (hclear : ∀ v, ¬ Obstructs doc v)
    (hexact : Sets doc "source-denylist" exact)
    (hstarts : Sets doc "source-denylist-prefixes" starts) : Outcome doc (.ok ⟨exact, starts⟩)

theorem outcome_ofDocument (t : Entries) : Outcome (.table t) (ofDocument t) := by
  rcases ofDocument_cases t with ⟨v, hv, he⟩ | ⟨own, hclear, hvalues, hread⟩
  · rw [he]
    exact .obstructed hv
  · rw [hread]
    rcases strings_cases (hvalues "source-denylist") with ⟨exact, hexact, ho⟩ | ⟨v, hv, he⟩
    · rw [ho]
      rcases strings_cases (hvalues "source-denylist-prefixes") with
        ⟨starts, hstarts, ho'⟩ | ⟨v, hv, he⟩
      · rw [ho']
        exact .read hclear hexact hstarts
      · rw [he]
        exact .startsMisshapen hclear hexact hv
    · rw [he]
      exact .exactMisshapen hclear hv

theorem Sets.not_misshapes {doc : Toml} {key : String} {o : Option (List String)}
    (h : Sets doc key o) (v : Toml) : ¬ Misshapes doc key v := by
  rintro ⟨hv, hne⟩
  cases o with
  | none => cases h.symm.trans hv
  | some l =>
    cases h.symm.trans hv
    exact hne l rfl

theorem load_of_documented {files : FileStore} {t : Entries} (h : Documented files t) :
    load files = ofDocument t := by
  unfold load
  cases h with
  | read hread htext ht =>
    rw [hread]
    simp only [ofBytes, htext, ht]
  | missing hread =>
    rw [hread]
    rfl

/-- The lists that hold decide which filenames are denied. -/
theorem denies_of_sets {doc : Toml} {exact starts : Option (List String)}
    (hexact : Sets doc "source-denylist" exact)
    (hstarts : Sets doc "source-denylist-prefixes" starts) :
    ∃ names prefixes, Effective doc "source-denylist" Denylist.default.exact names ∧
      Effective doc "source-denylist-prefixes" Denylist.default.starts prefixes ∧
      ∀ filename, (Settings.mk exact starts).denylist.denies filename ↔
        filename ∈ names ∨ ∃ s ∈ prefixes, s.toList <+: filename.toList := by
  refine ⟨exact.getD Denylist.default.exact, starts.getD Denylist.default.starts, ?_, ?_,
    fun filename => Denylist.denies_iff⟩
  · cases exact with
    | none => exact .inl ⟨hexact, rfl⟩
    | some l => exact .inr hexact
  · cases starts with
    | none => exact .inl ⟨hstarts, rfl⟩
    | some l => exact .inr hstarts

/-- **What the settings of a project come to.**  Loading fails for want of a table if and only if
`tool`, or `gremlin-subjects` in it, is there and is no table.  Otherwise it fails for a list's
shape if and only if one of the two lists is there and is no list of strings, and the message names
the first such list and shows its value.  Otherwise it succeeds, and a filename is denied if and
only if it is one of the names, or starts with one of the prefixes, that hold: those that the
document sets, and the default ones where it sets none.  A project without a document is one with an
empty document. -/
theorem settings_outcome (t : Entries) :
    (∀ files, Documented files t → load files = ofDocument t) ∧
    ((∃ type, ofDocument t = .error (.notATable type)) ↔ ∃ v, Obstructs (.table t) v) ∧
    ((∀ v, ¬ Obstructs (.table t) v) →
      ((∃ key shown, ofDocument t = .error (.notStrings key shown)) ↔
        ∃ v, Misshapes (.table t) "source-denylist" v ∨
          Misshapes (.table t) "source-denylist-prefixes" v) ∧
      ((∀ v, ¬ Misshapes (.table t) "source-denylist" v) →
        (∀ v, ¬ Misshapes (.table t) "source-denylist-prefixes" v) →
        ∃ s, ofDocument t = .ok s ∧ ∃ names prefixes,
          Effective (.table t) "source-denylist" Denylist.default.exact names ∧
          Effective (.table t) "source-denylist-prefixes" Denylist.default.starts prefixes ∧
          ∀ filename, s.denylist.denies filename ↔
            filename ∈ names ∨ ∃ s ∈ prefixes, s.toList <+: filename.toList)) ∧
    ∀ key shown, ofDocument t = .error (.notStrings key shown) →
      (Fault.notStrings key shown).message = key ++ " must be a list of strings, got " ++ shown ∧
      (∃ v, Misshapes (.table t) key v ∧ shown = v.shown) ∧
      (key = "source-denylist" ∨
        key = "source-denylist-prefixes" ∧ ∀ v, ¬ Misshapes (.table t) "source-denylist" v) := by
  refine ⟨fun _ => load_of_documented, ?_⟩
  have hcase := outcome_ofDocument t
  generalize ofDocument t = outcome at hcase
  cases hcase with
  | obstructed hv =>
    refine ⟨⟨fun _ => ⟨_, hv⟩, fun _ => ⟨_, rfl⟩⟩, fun hclear => absurd hv (hclear _), ?_⟩
    intro key shown he
    cases he
  | exactMisshapen hclear hv =>
    refine ⟨⟨?_, fun ⟨v, hv⟩ => absurd hv (hclear v)⟩, fun _ => ⟨?_, ?_⟩, ?_⟩
    · rintro ⟨type, he⟩
      cases he
    · exact ⟨fun _ => ⟨_, .inl hv⟩, fun _ => ⟨_, _, rfl⟩⟩
    · intro hexact
      exact absurd hv (hexact _)
    · intro key shown he
      cases he
      exact ⟨rfl, ⟨_, hv, rfl⟩, .inl rfl⟩
  | startsMisshapen hclear hexact hv =>
    refine ⟨⟨?_, fun ⟨v, hv⟩ => absurd hv (hclear v)⟩, fun _ => ⟨?_, ?_⟩, ?_⟩
    · rintro ⟨type, he⟩
      cases he
    · exact ⟨fun _ => ⟨_, .inr hv⟩, fun _ => ⟨_, _, rfl⟩⟩
    · intro _ hstarts
      exact absurd hv (hstarts _)
    · intro key shown he
      cases he
      exact ⟨rfl, ⟨_, hv, rfl⟩, .inr ⟨rfl, hexact.not_misshapes⟩⟩
  | read hclear hexact hstarts =>
    refine ⟨⟨?_, fun ⟨v, hv⟩ => absurd hv (hclear v)⟩, fun _ => ⟨⟨?_, ?_⟩, ?_⟩, ?_⟩
    · rintro ⟨type, he⟩
      cases he
    · rintro ⟨key, shown, he⟩
      cases he
    · rintro ⟨v, hv | hv⟩
      · exact absurd hv (hexact.not_misshapes v)
      · exact absurd hv (hstarts.not_misshapes v)
    · intro _ _
      exact ⟨_, rfl, denies_of_sets hexact hstarts⟩
    · intro key shown he
      cases he

section sparse

/-- A table of settings that sets the names, to none, and not the prefixes. -/
def sparse : Entries :=
  [("tool", .table [("gremlin-subjects", .table [("source-denylist", .list [])])])]

/-- A project with a document of that table. -/
def sparseProject : FileStore :=
  let text := "[tool.gremlin-subjects]\nsource-denylist = []"
  FileStore.empty.write documentName (.file (text.toList.map fun c => UInt8.ofNat c.toNat))

/-- The empty list is in force, and so are the default prefixes. -/
theorem settings_outcome_sparse :
    ∃ s, load sparseProject = .ok s ∧ s.denylist.denies "<string>" = false ∧
      s.denylist.denies "<frozen os>" = true := by
  have h : Documented sparseProject sparse := .read (by cbv) (by cbv) (by cbv)
  have hclear : ∀ v, ¬ Obstructs (.table sparse) v := by
    rintro v ⟨hv | hv, hnot⟩
    · exact hnot ⟨_, (Option.some.inj hv).symm⟩
    · exact hnot ⟨_, (Option.some.inj hv).symm⟩
  have hexact : value? (.table sparse) "source-denylist" = some (.list []) := rfl
  have hstarts : value? (.table sparse) "source-denylist-prefixes" = none := rfl
  obtain ⟨hload, -, hread, -⟩ := settings_outcome sparse
  obtain ⟨s, hs, names, prefixes, hnames, hprefixes, hdenies⟩ := (hread hclear).2
    (by
      rintro v ⟨hv, hne⟩
      rw [hexact] at hv
      exact hne [] (Option.some.inj hv).symm)
    (by
      rintro v ⟨hv, -⟩
      rw [hstarts] at hv
      cases hv)
  refine ⟨s, (hload _ h).trans hs, ?_⟩
  have hnone : names = [] := by
    rcases hnames with ⟨hv, -⟩ | hv
    · rw [hexact] at hv
      cases hv
    · rw [hexact] at hv
      simpa using hv
  have hdefault : prefixes = ["<frozen "] := by
    rcases hprefixes with ⟨-, rfl⟩ | hv
    · rfl
    · rw [hstarts] at hv
      cases hv
  subst hnone hdefault
  constructor
  · rw [← Bool.not_eq_true, hdenies]
    simp
  · rw [hdenies]
    exact .inr ⟨_, List.mem_singleton_self _, by decide⟩

end sparse

end Settings

end DefSite
