import DefSite.Match.Setup
import DefSite.Match.Variant
import DefSite.Live.Method

/-!
# Inquiries

An inquiry resolves one live method to at most one subject.  It keeps what it has found out: each of
the path, the tree, the address of the definition, the decision to skip and the subject is worked
out once, when first asked for, and then kept.  What fails is not kept, so it is tried again
when asked for again.

A method is skipped, with one diagnostic, if its code points at no readable source or if its
definition stands in a closure.
-/

namespace DefSite

/-- What is to be resolved: a live method, the scope it was looked up on, and the kind of method to
look for. -/
structure Query where
  scope : Scope
  method : LiveMethod
  variant : Variant
  deriving Inhabited

/-- What an inquiry has found out so far. -/
structure Findings where
  path : Option PathName
  tree : Option ParsedTree
  /-- The address of the definition, or that there is none. -/
  address : Option (Option Address)
  skipped : Option Bool
  subject : Option (Option Subject)
  deriving Inhabited

/-- An inquiry that has found out nothing. -/
def Findings.empty : Findings :=
  ⟨none, none, none, none, none⟩

/-- Steps of an inquiry; what is found out and changed up to a failure stays. -/
abbrev Inquiry (σ : Type) := ExceptT Fault (StateM (Findings × World σ))

namespace Inquiry

variable {σ : Type}

def findings : Inquiry σ Findings := do
  return (← get).1

def keep (f : Findings → Findings) : Inquiry σ Unit :=
  modify fun s => (f s.1, s.2)

def act {α : Type} (f : World σ → α × World σ) : Inquiry σ α :=
  modifyGet fun s => let (a, w) := f s.2; (a, (s.1, w))

/-- What was kept, or else what `work` gives, which is kept from then on. -/
def once {α : Type} (kept : Findings → Option α) (put : Option α → Findings → Findings)
    (work : Inquiry σ α) : Inquiry σ α := do
  match kept (← findings) with
  | some a => return a
  | none =>
    let a ← work
    keep (put (some a))
    return a

/-- Runs steps on what has been found out and on the world. -/
def run {α : Type} (m : Inquiry σ α) (f : Findings) (w : World σ) :
    Except Fault α × Findings × World σ :=
  Id.run (StateT.run (ExceptT.run m) (f, w))

/-! ### What steps do when they are run -/

variable {α β : Type} {f : Findings} {w : World σ}

theorem run_pure (a : α) : (pure a : Inquiry σ α).run f w = (.ok a, f, w) := rfl

theorem run_findings : (findings : Inquiry σ Findings).run f w = (.ok f, f, w) := rfl

theorem run_act (g : World σ → α × World σ) :
    (act g : Inquiry σ α).run f w = (.ok (g w).1, f, (g w).2) := rfl

/-- The second step goes on where the first one stopped, unless the first one failed. -/
theorem run_bind (m : Inquiry σ α) (k : α → Inquiry σ β) :
    (m >>= k).run f w =
      match m.run f w with
      | (.ok a, f, w) => (k a).run f w
      | (.error e, f, w) => (.error e, f, w) := by
  unfold run ExceptT.run StateT.run Id.run
  simp only [bind, ExceptT.bind, ExceptT.mk, StateT.bind, ExceptT.bindCont]
  cases m (f, w) with
  | mk r s => cases r <;> rfl

theorem run_bind_pure (m : Inquiry σ α) (c : α → β) :
    (m >>= fun a => pure (c a)).run f w = ((m.run f w).1.map c, (m.run f w).2) := by
  rw [run_bind]
  rcases m.run f w with ⟨e | a, f, w⟩ <;> rfl

variable {kept : Findings → Option α} {put : Option α → Findings → Findings} {work : Inquiry σ α}

/-- What was kept is given again, and nothing happens. -/
theorem run_once_of_some {a : α} (h : kept f = some a) :
    (once kept put work).run f w = (.ok a, f, w) := by
  rw [once, run_bind, run_findings]
  simp [h, run_pure]

/-- What was not kept is worked out, and kept unless that fails. -/
theorem run_once_of_none (h : kept f = none) :
    (once kept put work).run f w =
      match work.run f w with
      | (.ok a, f, w) => (.ok a, put (some a) f, w)
      | (.error e, f, w) => (.error e, f, w) := by
  rw [once, run_bind, run_findings]
  simp only [h, run_bind]
  cases hw : work.run f w with
  | mk r s => cases r <;> rfl

end Inquiry

/-- The diagnostic for a method whose code points at no readable source. -/
def noSourceMessage (m : LiveMethod) : String :=
  s!"{m.text} does not have a valid source location, unable to emit subject"

/-- The diagnostic for a method defined in a closure. -/
def closureMessage (m : LiveMethod) : String :=
  s!"{m.text} is dynamically defined in a closure, unable to emit subject"

namespace Query

open Inquiry

variable {σ : Type} (q : Query) (setup : Setup σ)

def line : Except Fault Int :=
  match q.method.location with
  | some l => .ok l.line
  | none => .error (.noLocation .line)

/-- The path of the file that the method's code points at. -/
def path : Inquiry σ PathName :=
  once (·.path) (fun p f => { f with path := p }) do
    match q.method.location with
    | some l => return setup.pathOf l.file
    | none => throw (.noLocation .path)

/-- The scope of the method together with its file. -/
def context : Inquiry σ Context := do
  return ⟨q.scope, ← q.path setup⟩

def tree : Inquiry σ ParsedTree :=
  once (·.tree) (fun t f => { f with tree := t }) do
    let path ← q.path setup
    match ← act (setup.parseFile path) with
    | .ok t => return t
    | .error e => throw e

def recognises (n : Node) : Except Fault Bool := do
  q.variant.recognises q.method.name (← q.line) n

/-- The address of the method's definition in the tree, if it is there. -/
def address : Inquiry σ (Option Address) :=
  once (·.address) (fun a f => { f with address := a }) do
    let t ← q.tree setup
    match t.root.findLast q.recognises with
    | .ok a => return a
    | .error e => throw e

/-- The nodes from the tree's root to the definition; none if there is no definition. -/
def matchedTrail : Inquiry σ (List Node × Address) := do
  let a ← q.address setup
  let t ← q.tree setup
  return match a with
    | some a => (t.root.trail a, a)
    | none => ([], [])

/-- Whether the method is skipped, with a diagnostic when that is decided. -/
def skipped : Inquiry σ Bool :=
  once (·.skipped) (fun b f => { f with skipped := b }) do
    match q.method.location with
    | none =>
      act fun w => ((), setup.warn (noSourceMessage q.method) w)
      return true
    | some l =>
      if setup.denies l.file then
        act fun w => ((), setup.warn (noSourceMessage q.method) w)
        return true
      else if isClosure (← q.matchedTrail setup).1 then
        act fun w => ((), setup.warn (closureMessage q.method) w)
        return true
      else return false

/-- The subject for the method, if its definition is found. -/
def subject : Inquiry σ (Option Subject) :=
  once (·.subject) (fun s f => { f with subject := s }) do
    let a ← q.address setup
    let t ← q.tree setup
    match a.bind fun a => (t.root.at? a).map fun n => (a, n) with
    | none =>
      let path ← q.path setup
      act fun w => ((), w.record (.noDefinition q.method.text path))
      return none
    | some (a, n) =>
      let path ← q.path setup
      let line ← liftExcept n.readLine
      act fun w => ((), w.record (.matched q.method.text path line))
      return some ⟨q.variant.subjectKind, ← q.context setup, n, ⟨t.id, a⟩, setup.sink⟩
where
  liftExcept {α : Type} : Except Fault α → Inquiry σ α
    | .ok a => pure a
    | .error e => throw e

/-- The subjects of the method: none if it is skipped or not found, else the one. -/
def call : Inquiry σ (List Subject) := do
  if ← q.skipped setup then return []
  return (← q.subject setup).toList

/-- The subjects of the method for an inquiry that has found out nothing. -/
def callAfresh (w : World σ) : Except Fault (List Subject) × World σ :=
  let (answer, _, w) := (q.call setup).run .empty w
  (answer, w)

end Query

end DefSite
