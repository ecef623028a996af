import DefSite.Proofs.Lifetime
import Mathlib.Data.List.Nodup

/-!
# The ledger of diagnostics

Any number of inquiries are opened and asked in turns, in setups that share sinks or have sinks of
their own, while others write to the sinks too.  Each sink holds what was written to it directly and
one diagnostic for each inquiry in a setup with that sink that decided to skip its method, in the
order in which this came about, and nothing else (`Docket.diagnostics_conserved`).

A run is told as a list of deeds, and what is due to be reported as a list of notices, which is read
off what the inquiries decided and not off the sinks.  One deed adds to each sink just what is due
(`Docket.board_step`), and an inquiry is due to be reported at most once as its decision stays.
-/

namespace DefSite

/-! ## One question -/

/-- What a question does to an inquiry and to the sinks. -/
theorem Query.ask_accounts {σ : Type} {q : Query} {setup : Setup σ} {f : Findings}
    (hf : f.Consistent q setup) (access : Access) (w : World σ) {x : Except Fault Answer}
    {f' : Findings} {w' : World σ} (h : (q.ask setup access).run f w = (x, f', w')) :
    f'.Consistent q setup ∧ f.Grows f' ∧ (∀ a, x = .ok a → a.access = access ∧ f'.Gives q a) ∧
      (f'.skipped = none ↔ f.skipped = none ∧ ¬ (access.Settles ∧ ∃ a, x = .ok a)) ∧
      w'.board = if f.skipped = none ∧ f'.skipped = some true then
        w.board.append setup.sink (q.diagnostic setup) else w.board := by
  have hmirrors := q.mirrors_ask setup access f (w.withLog [])
  rcases hlogged : (q.ask setup.logged access).run f (w.withLog []) with ⟨y, g, v⟩
  have hfits := fits_ask hf hlogged
  have hplain : (w.withLog []).plain = w := rfl
  rw [hplain, h, hlogged] at hmirrors
  cases hmirrors
  exact ⟨hfits.leads.consistent, hfits.leads.grows,
    fun a ha => ⟨hfits.access a ha, hfits.gives a ha⟩, hfits.skipped_after_eq_none_iff,
    hfits.leads.board⟩

/-! ## Deeds -/

/-- An inquiry that was opened. -/
structure Opened (σ : Type) where
  query : Query
  setup : Setup σ
  findings : Findings
  /-- The answers so far, oldest first. -/
  answers : List (Except Fault Answer)

namespace Opened

variable {σ : Type} (o : Opened σ)

/-- An inquiry that was asked nothing yet. -/
def fresh (q : Query) (setup : Setup σ) : Opened σ :=
  ⟨q, setup, .empty, []⟩

/-- What an inquiry is about, and where. -/
def about : Query × Setup σ :=
  (o.query, o.setup)

/-- The inquiry and the world after a question. -/
def asked (access : Access) (w : World σ) : Opened σ × World σ :=
  let (answer, f, w) := (o.query.ask o.setup access).run o.findings w
  ({ o with findings := f, answers := o.answers ++ [answer] }, w)

/-- It is decided that the method is skipped. -/
def skips : Bool :=
  o.findings.skipped == some true

/-- What an inquiry found out fits together and is what it answered, and whether the method is
skipped is undecided until a question that settles it is answered. -/
structure Sound : Prop where
  consistent : o.findings.Consistent o.query o.setup
  gives : ∀ a, .ok a ∈ o.answers → o.findings.Gives o.query a
  undecided : o.findings.skipped = none ↔ ∀ a, .ok a ∈ o.answers → ¬ a.access.Settles

/-- There is nothing to report of an inquiry. -/
inductive Silent : Prop
  /-- It found a subject. -/
  | matched {ss : List Subject} (hss : ss ≠ []) (h : .ok (.subjects ss) ∈ o.answers)
  /-- The file may be read, and the definition is not there. -/
  | absent (hr : ¬ o.query.Unreadable o.setup) (h : o.findings.address = some none)
  /-- Every question that would settle whether the method is skipped has failed. -/
  | failed (h : ∀ a, .ok a ∈ o.answers → ¬ a.access.Settles)

end Opened

/-- The inquiries that were opened, oldest first, and the world. -/
structure Docket (σ : Type) where
  inquiries : List (Opened σ)
  world : World σ

/-- Something that is done. -/
inductive Deed (σ : Type) where
  /-- An inquiry is opened. -/
  | build (q : Query) (setup : Setup σ)
  /-- The inquiry of that number, if there is one, is asked a question. -/
  | ask (i : Nat) (access : Access)
  /-- An inquiry is opened and called. -/
  | call (q : Query) (setup : Setup σ)
  /-- A message is written to a sink. -/
  | append (id : SinkId) (message : String)
  /-- A message is reported in a setup. -/
  | warn (setup : Setup σ) (message : String)
  /-- The parser of a setup is asked for a file. -/
  | parse (setup : Setup σ) (path : PathName)
  /-- Something happens to the files and parsers. -/
  | meanwhile (change : σ → σ)

namespace Deed

variable {σ : Type}

/-- What is opened. -/
def opens : Deed σ → List (Query × Setup σ)
  | build q setup | call q setup => [(q, setup)]
  | _ => []

/-- What is written directly, and where. -/
def direct? : Deed σ → Option (SinkId × String)
  | append id message => some (id, message)
  | warn setup message => some (setup.sink, message)
  | _ => none

end Deed

namespace Docket

variable {σ : Type}

def build (s : Docket σ) (q : Query) (setup : Setup σ) : Docket σ :=
  { s with inquiries := s.inquiries ++ [.fresh q setup] }

def ask (s : Docket σ) (i : Nat) (access : Access) : Docket σ :=
  match s.inquiries[i]? with
  | some o => let (o, w) := o.asked access s.world; ⟨s.inquiries.set i o, w⟩
  | none => s

def step (s : Docket σ) : Deed σ → Docket σ
  | .build q setup => s.build q setup
  | .ask i access => s.ask i access
  | .call q setup => (s.build q setup).ask s.inquiries.length .call
  | .append id message =>
    { s with world := { s.world with board := s.world.board.append id message } }
  | .warn setup message => { s with world := setup.warn message s.world }
  | .parse setup path => { s with world := (setup.parseFile path s.world).2 }
  | .meanwhile change => { s with world := { s.world with parser := change s.world.parser } }

def run (s : Docket σ) (deeds : List (Deed σ)) : Docket σ :=
  deeds.foldl step s

/-- A deed is done in a setup with that sink, or writes to it. -/
def Uses (s : Docket σ) (id : SinkId) : Deed σ → Prop
  | .build _ _ | .parse _ _ | .meanwhile _ => False
  | .ask i _ => ∃ o, s.inquiries[i]? = some o ∧ o.setup.sink = id
  | .call _ setup => setup.sink = id
  | .append id' _ => id' = id
  | .warn setup _ => setup.sink = id

/-- It is decided that the method of that inquiry is skipped. -/
def skips (s : Docket σ) (i : Nat) : Bool :=
  s.inquiries[i]?.any Opened.skips

def Sound (s : Docket σ) : Prop :=
  ∀ o ∈ s.inquiries, o.Sound

end Docket

/-! ## Notices -/

/-- Something that is due to be reported. -/
inductive Notice where
  /-- What was written directly. -/
  | direct (id : SinkId) (message : String)
  /-- An inquiry decided that its method is skipped. -/
  | skipping (i : Nat)

namespace Notice

def direct? : Notice → Option (SinkId × String)
  | direct id message => some (id, message)
  | skipping _ => none

def skipping? : Notice → Option Nat
  | direct _ _ => none
  | skipping i => some i

theorem mem_filterMap_skipping {ns : List Notice} {i : Nat} :
    i ∈ ns.filterMap skipping? ↔ .skipping i ∈ ns := by
  rw [List.mem_filterMap]
  constructor
  · rintro ⟨n, hn, h⟩
    cases n with
    | direct => cases h
    | skipping j =>
      cases h
      exact hn
  · exact fun h => ⟨_, h, rfl⟩

end Notice

namespace Docket

variable {σ : Type}

/-- The text due to a sink by a notice, if any. -/
def text (s : Docket σ) (id : SinkId) : Notice → Option String
  | .direct id' message => if id' = id then some message else none
  | .skipping i => s.inquiries[i]?.bind fun o =>
    if o.setup.sink = id then some (o.query.diagnostic o.setup) else none

/-- The notice that an inquiry has decided meanwhile to skip its method. -/
def decided (s s' : Docket σ) (i : Nat) : List Notice :=
  if s'.skips i && !s.skips i then [.skipping i] else []

/-- The notices that a deed gives rise to. -/
def noticed (s : Docket σ) (d : Deed σ) : List Notice :=
  match d with
  | .ask i _ => s.decided (s.step d) i
  | .call _ _ => s.decided (s.step d) s.inquiries.length
  | .append id message => [.direct id message]
  | .warn setup message => [.direct setup.sink message]
  | .build _ _ | .parse _ _ | .meanwhile _ => []

/-- The notices that a run gives rise to, oldest first. -/
def notices (s : Docket σ) : List (Deed σ) → List Notice
  | [] => []
  | d :: ds => s.noticed d ++ (s.step d).notices ds

end Docket

/-! ## One deed -/

section step

variable {σ : Type} {s s' : Docket σ} {o : Opened σ} {w : World σ} {i : Nat} {access : Access}

theorem Opened.Sound.fresh (q : Query) (setup : Setup σ) : (Opened.fresh q setup).Sound where
  consistent := .empty q setup
  gives a ha := by cases ha
  undecided := ⟨fun _ a ha => (by cases ha), fun _ => rfl⟩

@[simp] theorem Opened.about_asked : (o.asked access w).1.about = o.about := rfl

theorem Opened.skips_iff : o.skips = true ↔ o.findings.skipped = some true := by
  simp [Opened.skips]

namespace Opened.Sound

/-- A question keeps an inquiry sound. -/
theorem asked (ho : o.Sound) (access : Access) (w : World σ) : (o.asked access w).1.Sound := by
  rcases h : (o.query.ask o.setup access).run o.findings w with ⟨x, f, v⟩
  obtain ⟨hconsistent, hgrows, hgives, hundecided, -⟩ := Query.ask_accounts ho.consistent access w h
  have hasked : (o.asked access w).1 = { o with findings := f, answers := o.answers ++ [x] } := by
    simp only [Opened.asked, h]
  rw [hasked]
  refine ⟨hconsistent, fun a ha => ?_, ?_⟩
  · rcases List.mem_append.mp ha with ha | ha
    · exact (ho.gives a ha).mono hgrows
    · exact (hgives a (List.mem_singleton.mp ha).symm).2
  · rw [hundecided, ho.undecided]
    constructor
    · rintro ⟨hbefore, hnow⟩ a ha hsettles
      rcases List.mem_append.mp ha with ha | ha
      · exact hbefore a ha hsettles
      · have hx := (List.mem_singleton.mp ha).symm
        exact hnow ⟨(hgives a hx).1 ▸ hsettles, a, hx⟩
    · refine fun hall => ⟨fun a ha => hall a (List.mem_append_left _ ha), ?_⟩
      rintro ⟨hsettles, a, hx⟩
      exact hall a (List.mem_append_right _ (by rw [hx]; exact List.mem_singleton_self _))
        ((hgives a hx).1.symm ▸ hsettles)

/-- The method of an inquiry of which there is nothing to report is not skipped. -/
theorem skips_of_silent (ho : o.Sound) (h : o.Silent) : o.skips = false := by
  rw [← Bool.not_eq_true, Opened.skips_iff]
  intro hskipped
  cases h with
  | matched hss h =>
    rcases ho.gives _ h with ⟨-, hnil⟩ | ⟨hfalse, -⟩
    · exact hss hnil
    · cases hskipped.symm.trans hfalse
  | absent hr h =>
    rcases ho.consistent.skipped true hskipped with ⟨hu, -⟩ | ⟨-, t, a, -, ha, hclosure⟩
    · exact hr hu
    · cases h.symm.trans ha
      cases hclosure
  | failed h => cases hskipped.symm.trans (ho.undecided.mpr h)

/-- A decision to skip stays. -/
theorem skips_asked (ho : o.Sound) (h : o.skips = true) : (o.asked access w).1.skips = true := by
  rcases hrun : (o.query.ask o.setup access).run o.findings w with ⟨x, f, v⟩
  obtain ⟨-, hgrows, -⟩ := Query.ask_accounts ho.consistent access w hrun
  rw [Opened.skips_iff] at h ⊢
  simp only [Opened.asked, hrun]
  exact hgrows.skipped true h

/-- A question is reported just when it made the inquiry decide to skip its method. -/
theorem board_asked (ho : o.Sound) (access : Access) (w : World σ) :
    (o.asked access w).2.board = if (o.asked access w).1.skips && !o.skips then
      w.board.append o.setup.sink (o.query.diagnostic o.setup) else w.board := by
  rcases hrun : (o.query.ask o.setup access).run o.findings w with ⟨x, f, v⟩
  obtain ⟨-, hgrows, -, -, hboard⟩ := Query.ask_accounts ho.consistent access w hrun
  simp only [Opened.asked, hrun, Opened.skips]
  rw [hboard]
  refine if_congr ?_ rfl rfl
  cases hskipped : o.findings.skipped with
  | none => simp
  | some b =>
    have hb := hgrows.skipped b hskipped
    cases b <;> simp [hb]

end Opened.Sound

namespace Docket

theorem skips_iff : s.skips i = true ↔ ∃ o, s.inquiries[i]? = some o ∧ o.skips = true := by
  simp [skips, Option.any_eq_true]

theorem ask_of_some (h : s.inquiries[i]? = some o) :
    s.ask i access =
      ⟨s.inquiries.set i (o.asked access s.world).1, (o.asked access s.world).2⟩ := by
  simp only [ask, h]

theorem ask_of_none (h : s.inquiries[i]? = none) : s.ask i access = s := by
  simp only [ask, h]

variable {q : Query} {setup : Setup σ}

theorem skips_build (i : Nat) : (s.build q setup).skips i = s.skips i := by
  unfold skips build
  rw [List.getElem?_append]
  split
  · rfl
  next h =>
    have hnone : s.inquiries[i]? = none := List.getElem?_eq_none (Nat.le_of_not_lt h)
    rw [hnone]
    cases i - s.inquiries.length <;> rfl

theorem getElem?_build_length : (s.build q setup).inquiries[s.inquiries.length]? =
    some (.fresh q setup) := by
  simp [build]

/-- A call does to the world what it does by itself, and answers the same. -/
theorem step_call : (s.step (.call q setup)).world = (q.callAfresh setup s.world).2 ∧
    (s.step (.call q setup)).inquiries.map Opened.answers =
      s.inquiries.map Opened.answers ++ [[(q.callAfresh setup s.world).1.map .subjects]] := by
  have hrun : (q.ask setup .call).run .empty s.world =
      (((q.call setup).run .empty s.world).1.map .subjects,
        ((q.call setup).run .empty s.world).2) := Inquiry.run_bind_pure _ _
  rw [step, ask_of_some getElem?_build_length]
  simp [Opened.asked, Opened.fresh, hrun, build, Query.callAfresh]

/-! ### What is open -/

theorem about_ask (i : Nat) (access : Access) :
    (s.ask i access).inquiries.map Opened.about = s.inquiries.map Opened.about := by
  cases h : s.inquiries[i]? with
  | none => rw [ask_of_none h]
  | some o =>
    obtain ⟨hi, rfl⟩ := List.getElem?_eq_some_iff.mp h
    rw [ask_of_some h, List.map_set, Opened.about_asked, ← List.getElem_map Opened.about,
      List.set_getElem_self]
    rwa [List.length_map]

/-- A deed opens inquiries, and those that are open stay what they are about. -/
theorem about_step (d : Deed σ) :
    (s.step d).inquiries.map Opened.about = s.inquiries.map Opened.about ++ d.opens := by
  cases d with
  | build q setup => exact List.map_append
  | call q setup =>
    have habout := about_ask (s := s.build q setup) s.inquiries.length .call
    exact habout.trans List.map_append
  | ask i access =>
    rw [step, about_ask]
    exact (List.append_nil _).symm
  | append | warn | parse | meanwhile => exact (List.append_nil _).symm

/-- What is due for an inquiry does not depend on what it found out. -/
theorem text_skipping (id : SinkId) (i : Nat) :
    s.text id (.skipping i) = (s.inquiries.map Opened.about)[i]?.bind fun a =>
      if a.2.sink = id then some (a.1.diagnostic a.2) else none := by
  rw [List.getElem?_map]
  cases h : s.inquiries[i]? with
  | none => simp [text, h]
  | some o => simp [text, h, Opened.about]

theorem Sound.build (hs : s.Sound) (q : Query) (setup : Setup σ) : (s.build q setup).Sound := by
  intro o ho
  rcases List.mem_append.mp ho with ho | ho
  · exact hs o ho
  · rw [List.mem_singleton.mp ho]
    exact .fresh q setup

theorem Sound.ask (hs : s.Sound) (i : Nat) (access : Access) : (s.ask i access).Sound := by
  cases h : s.inquiries[i]? with
  | none =>
    rw [ask_of_none h]
    exact hs
  | some o =>
    rw [ask_of_some h]
    intro o' ho'
    rcases List.mem_or_eq_of_mem_set ho' with ho' | rfl
    · exact hs o' ho'
    · exact (hs o (List.mem_of_getElem? h)).asked access s.world

theorem Sound.step (hs : s.Sound) (d : Deed σ) : (s.step d).Sound := by
  cases d with
  | build q setup => exact hs.build q setup
  | ask i access => exact hs.ask i access
  | call q setup => exact (hs.build q setup).ask _ _
  | append | warn | parse | meanwhile => exact hs

/-! ### What is decided -/

theorem decided_eq (s s' : Docket σ) (i : Nat) :
    s.decided s' i = [] ∨ s.decided s' i = [.skipping i] := by
  unfold decided
  split
  · exact .inr rfl
  · exact .inl rfl

theorem mem_decided {j : Nat} :
    .skipping j ∈ s.decided s' i ↔ j = i ∧ s'.skips i = true ∧ s.skips i = false := by
  unfold decided
  cases s'.skips i <;> cases s.skips i <;> simp

theorem eq_of_mem_decided {n : Notice} (h : n ∈ s.decided s' i) : n = .skipping i := by
  rcases decided_eq s s' i with hd | hd <;> rw [hd] at h
  · cases h
  · exact List.mem_singleton.mp h

theorem skips_ask (hs : s.Sound) (i j : Nat) (access : Access) :
    (s.ask i access).skips j = true ↔
      s.skips j = true ∨ .skipping j ∈ s.decided (s.ask i access) i := by
  rw [mem_decided]
  by_cases hj : j = i
  · subst hj
    have hkeeps : s.skips j = true → (s.ask j access).skips j = true := by
      intro h
      obtain ⟨o, ho, hskips⟩ := skips_iff.mp h
      have hj : j < s.inquiries.length := (List.getElem?_eq_some_iff.mp ho).1
      rw [ask_of_some ho]
      refine skips_iff.mpr ⟨_, List.getElem?_set_self hj, ?_⟩
      exact (hs o (List.mem_of_getElem? ho)).skips_asked hskips
    cases h : s.skips j with
    | true => simp [hkeeps h]
    | false => simp
  · have hother : (s.ask i access).skips j = s.skips j := by
      cases h : s.inquiries[i]? with
      | none => rw [ask_of_none h]
      | some o =>
        rw [ask_of_some h]
        unfold skips
        rw [List.getElem?_set_ne (Ne.symm hj)]
    simp [hother, hj]

theorem board_ask (hs : s.Sound) (i : Nat) (access : Access) (id : SinkId) :
    (s.ask i access).world.board id = s.world.board id ++
      (s.decided (s.ask i access) i).filterMap ((s.ask i access).text id) := by
  cases h : s.inquiries[i]? with
  | none =>
    rw [ask_of_none h]
    simp [decided]
  | some o =>
    have hi : i < s.inquiries.length := (List.getElem?_eq_some_iff.mp h).1
    have hboard := (hs o (List.mem_of_getElem? h)).board_asked access s.world
    have hnow : (s.ask i access).inquiries[i]? = some (o.asked access s.world).1 := by
      rw [ask_of_some h]
      exact List.getElem?_set_self hi
    have hskips : (s.ask i access).skips i = (o.asked access s.world).1.skips := by
      simp [skips, hnow]
    have hskips' : s.skips i = o.skips := by simp [skips, h]
    have hworld : (s.ask i access).world = (o.asked access s.world).2 := by rw [ask_of_some h]
    rw [decided, hskips, hskips', hworld, hboard]
    cases (o.asked access s.world).1.skips && !o.skips with
    | false => simp
    | true =>
      have htext : (s.ask i access).text id (.skipping i) =
          if o.setup.sink = id then some (o.query.diagnostic o.setup) else none := by
        simp [text, hnow, Opened.asked]
      by_cases hid : o.setup.sink = id
      · simp [htext, hid, Board.append]
      · simp [htext, hid, Board.append, Ne.symm hid]

/-- A deed makes inquiries decide to skip their methods just where it gives notice. -/
theorem skips_step (hs : s.Sound) (d : Deed σ) (j : Nat) :
    (s.step d).skips j = true ↔ s.skips j = true ∨ .skipping j ∈ s.noticed d := by
  cases d with
  | build q setup => simp [step, noticed, skips_build]
  | ask i access => exact skips_ask hs i j access
  | call q setup =>
    have h := skips_ask (hs.build q setup) s.inquiries.length j .call
    rw [skips_build, mem_decided, skips_build, ← mem_decided] at h
    exact h
  | append | warn | parse | meanwhile => simp [step, noticed, skips]

/-- Notice is given of no inquiry that had decided to skip its method before. -/
theorem skips_eq_false_of_noticed {d : Deed σ} {j : Nat} (h : .skipping j ∈ s.noticed d) :
    s.skips j = false := by
  cases d with
  | build | parse | meanwhile => cases h
  | append | warn => simp [noticed] at h
  | ask i access =>
    obtain ⟨rfl, -, hs⟩ := mem_decided.mp h
    exact hs
  | call q setup =>
    obtain ⟨rfl, -, hs⟩ := mem_decided.mp h
    exact hs

theorem nodup_noticed {d : Deed σ} : ((s.noticed d).filterMap Notice.skipping?).Nodup := by
  have hdecided (s' : Docket σ) (i : Nat) :
      ((s.decided s' i).filterMap Notice.skipping?).Nodup := by
    rcases decided_eq s s' i with h | h <;> rw [h]
    · exact .nil
    · exact List.nodup_singleton i
  cases d with
  | ask | call => exact hdecided _ _
  | build | parse | meanwhile | append | warn => exact .nil

theorem direct_noticed (d : Deed σ) :
    (s.noticed d).filterMap Notice.direct? = d.direct?.toList := by
  have hdecided (s' : Docket σ) (i : Nat) :
      (s.decided s' i).filterMap Notice.direct? = [] := by
    rcases decided_eq s s' i with h | h <;> rw [h] <;> rfl
  cases d with
  | ask | call => exact hdecided _ _
  | build | parse | meanwhile | append | warn => rfl

/-- A deed adds to each sink what is due to it. -/
theorem board_step (hs : s.Sound) (d : Deed σ) (id : SinkId) :
    (s.step d).world.board id =
      s.world.board id ++ (s.noticed d).filterMap ((s.step d).text id) := by
  have hdirect (t : Docket σ) (id' : SinkId) (message : String) :
      s.world.board.append id' message id =
        s.world.board id ++ [Notice.direct id' message].filterMap (t.text id) := by
    by_cases h : id' = id
    · simp [text, h, Board.append_self]
    · simp [text, h, Board.append_of_ne _ _ (Ne.symm h)]
  cases d with
  | build q setup => exact (List.append_nil _).symm
  | ask i access => exact board_ask hs i access id
  | call q setup =>
    have h := board_ask (hs.build q setup) s.inquiries.length .call id
    unfold decided at h
    rw [skips_build] at h
    exact h
  | append id' message => exact hdirect _ id' message
  | warn setup message => exact hdirect _ setup.sink message
  | parse setup path =>
    have h : (setup.parseFile path s.world).2.board = s.world.board :=
      Query.board_parseFile path s.world
    simp [step, noticed, h]
  | meanwhile change => exact (List.append_nil _).symm

/-- Deeds touch no sinks but those that they use. -/
theorem board_step_of_not_uses (hs : s.Sound) {d : Deed σ} {id : SinkId} (h : ¬ s.Uses id d) :
    (s.step d).world.board id = s.world.board id := by
  have hnothing : (s.noticed d).filterMap ((s.step d).text id) = [] := by
    refine List.filterMap_eq_nil_iff.mpr fun n hn => ?_
    cases d with
    | build | parse | meanwhile => cases hn
    | append id' message =>
      rw [List.mem_singleton.mp hn]
      exact if_neg h
    | warn setup message =>
      rw [List.mem_singleton.mp hn]
      exact if_neg h
    | ask i access =>
      rw [eq_of_mem_decided hn, text_skipping, step, about_ask, List.getElem?_map]
      cases ho : s.inquiries[i]? with
      | none => rfl
      | some o => exact if_neg fun hid => h ⟨o, ho, hid⟩
    | call q setup =>
      rw [eq_of_mem_decided hn, text_skipping, about_step, Deed.opens, ← List.length_map,
        List.getElem?_concat_length]
      exact if_neg h
  rw [board_step hs, hnothing, List.append_nil]

end Docket

end step

/-! ## Runs -/

namespace Docket

variable {σ : Type} {s : Docket σ}

theorem run_cons (d : Deed σ) (ds : List (Deed σ)) : s.run (d :: ds) = (s.step d).run ds := rfl

theorem run_append (ds ds' : List (Deed σ)) : s.run (ds ++ ds') = (s.run ds).run ds' :=
  List.foldl_append

theorem notices_append (ds ds' : List (Deed σ)) :
    s.notices (ds ++ ds') = s.notices ds ++ (s.run ds).notices ds' := by
  induction ds generalizing s with
  | nil => rfl
  | cons d ds ih =>
    rw [List.cons_append, notices, notices, run_cons, ih, List.append_assoc]

theorem Sound.run (hs : s.Sound) (ds : List (Deed σ)) : (s.run ds).Sound := by
  induction ds generalizing s with
  | nil => exact hs
  | cons d ds ih => exact ih (hs.step d)

theorem about_run (ds : List (Deed σ)) :
    (s.run ds).inquiries.map Opened.about =
      s.inquiries.map Opened.about ++ ds.flatMap Deed.opens := by
  induction ds generalizing s with
  | nil => exact (List.append_nil _).symm
  | cons d ds ih =>
    rw [run_cons, ih, about_step, List.append_assoc, List.flatMap_cons]

/-- What is due for an inquiry stays so. -/
theorem text_run_of_getElem? {i : Nat} {o : Opened σ} (h : s.inquiries[i]? = some o)
    (ds : List (Deed σ)) (id : SinkId) :
    (s.run ds).text id (.skipping i) = s.text id (.skipping i) := by
  have hi : i < (s.inquiries.map Opened.about).length := by
    rw [List.length_map]
    exact (List.getElem?_eq_some_iff.mp h).1
  rw [text_skipping, text_skipping, about_run, List.getElem?_append_left hi]

theorem skips_run (hs : s.Sound) (ds : List (Deed σ)) (i : Nat) :
    (s.run ds).skips i = true ↔ s.skips i = true ∨ .skipping i ∈ s.notices ds := by
  induction ds generalizing s with
  | nil => simp [run, notices]
  | cons d ds ih =>
    rw [run_cons, ih (hs.step d), skips_step hs, notices, List.mem_append, or_assoc]

/-- Notice of an inquiry is given once, and only if it had not decided to skip its method before the
run. -/
theorem nodup_notices (hs : s.Sound) (ds : List (Deed σ)) :
    ((s.notices ds).filterMap Notice.skipping?).Nodup ∧
      ∀ i, .skipping i ∈ s.notices ds → s.skips i = false := by
  induction ds generalizing s with
  | nil => exact ⟨.nil, fun i hi => by cases hi⟩
  | cons d ds ih =>
    obtain ⟨hnodup, hfresh⟩ := ih (hs.step d)
    refine ⟨?_, fun i hi => ?_⟩
    · rw [notices, List.filterMap_append]
      refine List.nodup_append'.mpr ⟨nodup_noticed, hnodup, fun i hi hi' => ?_⟩
      have hnow := (skips_step hs d i).mpr (.inr (Notice.mem_filterMap_skipping.mp hi))
      cases hnow.symm.trans (hfresh i (Notice.mem_filterMap_skipping.mp hi'))
    · rcases List.mem_append.mp hi with hi | hi
      · exact skips_eq_false_of_noticed hi
      · refine Bool.eq_false_iff.mpr fun h => ?_
        cases ((skips_step hs d i).mpr (.inl h)).symm.trans (hfresh i hi)

theorem direct_notices (ds : List (Deed σ)) :
    (s.notices ds).filterMap Notice.direct? = ds.filterMap Deed.direct? := by
  induction ds generalizing s with
  | nil => rfl
  | cons d ds ih =>
    rw [notices, List.filterMap_append, ih, direct_noticed, List.filterMap_cons]
    cases d.direct? <;> rfl

/-- A run adds to each sink what is due to it. -/
theorem board_run (hs : s.Sound) (ds : List (Deed σ)) (id : SinkId) :
    (s.run ds).world.board id =
      s.world.board id ++ (s.notices ds).filterMap ((s.run ds).text id) := by
  induction ds generalizing s with
  | nil => exact (List.append_nil _).symm
  | cons d ds ih =>
    have htext : (s.noticed d).filterMap ((s.step d).text id) =
        (s.noticed d).filterMap (((s.step d).run ds).text id) := by
      refine List.filterMap_congr fun n hn => ?_
      cases n with
      | direct id' message => rfl
      | skipping i =>
        obtain ⟨o, ho, -⟩ := skips_iff.mp ((skips_step hs d i).mpr (.inr hn))
        exact (text_run_of_getElem? ho ds id).symm
    rw [run_cons, ih (hs.step d), board_step hs, htext, notices, List.filterMap_append,
      List.append_assoc]

/-- **Diagnostics are conserved.**  Do anything any number of times, from a world where no inquiry
is open: open inquiries in any setups, ask them any questions in any turns, call others, write to
the sinks and let the files change.  The inquiries are those that were opened or called, in that
order, and each is `Sound`.  A sink then holds what it held before, and after that what was written
to it directly and one diagnostic for each inquiry in a setup with that sink that decided that its
method is skipped, each at the deed that wrote it or made the inquiry decide so; inquiries that are
`Silent` are not among these.  What a sink held at any time stays the beginning of what it holds,
and a deed changes no sink that it does not use. -/
theorem diagnostics_conserved (w : World σ) (deeds : List (Deed σ)) :
    let start : Docket σ := ⟨[], w⟩
    let s := start.run deeds
    (s.inquiries.map Opened.about = deeds.flatMap Deed.opens ∧ ∀ o ∈ s.inquiries, o.Sound) ∧
      (∀ id, s.world.board id = w.board id ++ (start.notices deeds).filterMap (s.text id)) ∧
      (start.notices deeds).filterMap Notice.direct? = deeds.filterMap Deed.direct? ∧
      ((start.notices deeds).filterMap Notice.skipping?).Nodup ∧
      (∀ i, .skipping i ∈ start.notices deeds ↔
        ∃ o, s.inquiries[i]? = some o ∧ o.findings.skipped = some true) ∧
      (∀ i o, s.inquiries[i]? = some o → o.Silent → .skipping i ∉ start.notices deeds) ∧
      ∀ before after, deeds = before ++ after →
        start.notices before <+: start.notices deeds ∧
        (∀ id, (start.run before).world.board id <+: s.world.board id) ∧
        ∀ d rest id, after = d :: rest → ¬ (start.run before).Uses id d →
          ((start.run before).step d).world.board id = (start.run before).world.board id := by
  intro start s
  have hstart : start.Sound := fun o ho => by cases ho
  have hnoticed (i : Nat) : s.skips i = true ↔ .skipping i ∈ start.notices deeds := by
    have hnone : ¬ start.skips i = true := by simp [start, skips]
    exact (skips_run hstart deeds i).trans (or_iff_right hnone)
  refine ⟨⟨about_run deeds, hstart.run deeds⟩, board_run hstart deeds, direct_notices deeds,
    (nodup_notices hstart deeds).1, fun i => ?_, fun i o ho hsilent hi => ?_,
    fun before after hdeeds => ⟨?_, fun id => ?_, ?_⟩⟩
  · rw [← hnoticed, skips_iff]
    simp only [Opened.skips_iff]
  · obtain ⟨o', ho', hskips⟩ := skips_iff.mp ((hnoticed i).mpr hi)
    cases ho.symm.trans ho'
    have hsound := hstart.run deeds o (List.mem_of_getElem? ho)
    cases hskips.symm.trans (hsound.skips_of_silent hsilent)
  · rw [hdeeds, notices_append]
    exact List.prefix_append _ _
  · have hrun : s = (start.run before).run after := by rw [← run_append, ← hdeeds]
    rw [hrun, board_run (hstart.run before)]
    exact List.prefix_append _ _
  · intro d rest id _ huses
    exact board_step_of_not_uses (hstart.run before) huses

/-- One of two inquiries that share a sink is asked twice; another sink is used by a call alone. -/
example :
    let q : Query := ⟨⟨0, "a"⟩, ⟨"f", none, "a.f"⟩, .function⟩
    let setup (id : SinkId) : Setup Unit :=
      ⟨fun path s => ⟨.error (.noSuchFile path), false, s⟩, .ofString, ⟨[], []⟩, id⟩
    let s := run ⟨[], ⟨(), .empty, []⟩⟩ [.build q (setup 0), .ask 0 .tree, .ask 0 .skipped,
      .append 0 "x", .ask 0 .call, .call q (setup 0), .call q (setup 1)]
    s.world.board 0 = [noSourceMessage q.method, "x", noSourceMessage q.method] ∧
      s.world.board 1 = [noSourceMessage q.method] :=
  ⟨rfl, rfl⟩

end Docket

end DefSite
