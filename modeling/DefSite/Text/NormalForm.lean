import DefSite.Text.Composed
import DefSite.Text.Replaced

/-!
# Normal form

The same word can be spelled with different characters: a letter and its marks or one character for
both, the marks in one order or another, a plain letter or another form of it.  `normalForm` gives
all spellings of a word the same characters: it takes characters apart, orders the marks and
composes what can be composed.  Words of plain letters stay as they are (`normalForm_of_ascii`).
-/

namespace DefSite.Text

/-! ## Taking characters apart -/

/-- What a table of stretches gives for a code point. -/
def listed? (table : List (Nat × List (List Nat))) (c : Nat) : Option (List Nat) :=
  table.findSome? fun (first, parts) => if first ≤ c then parts[c - first]? else none

/-- The letters of the syllable that has that number among the syllables of Hangul. -/
def syllableParts (i : Nat) : List Nat :=
  let last := if i % 28 = 0 then [] else [0x11a7 + i % 28]
  (0x1100 + i / 588) :: (0x1161 + i % 588 / 28) :: last

/-- What a character stands for, in characters that stand for themselves. -/
def partsOf (c : Nat) : List Nat :=
  if c < 0x80 then [c]
  else if 0xac00 ≤ c ∧ c ≤ 0xd7a3 then syllableParts (c - 0xac00)
  else (listed? composites c <|> listed? replaced c).getD [c]

/-! ## The order of marks -/

/-- The class of a mark, and zero for characters that are none. -/
def markClass (c : Nat) : Nat :=
  if c < 0x300 then 0
  else ((markClasses.find? fun (first, last, _) => first ≤ c && c ≤ last).map (·.2.2)).getD 0

/-- Puts a character before others, but behind leading marks of smaller class if it is a mark. -/
def place (c : Nat) : List Nat → List Nat
  | [] => [c]
  | d :: ds =>
    if 0 < markClass d ∧ markClass d < markClass c then d :: place c ds else c :: d :: ds

/-- Characters with the marks behind each other ordered by class. -/
def orderMarks (cs : List Nat) : List Nat :=
  cs.foldr place []

/-! ## Composing -/

/-- The character composed of a letter and a further one. -/
def composite? (a b : Nat) : Option Nat :=
  if b < 0x300 then none
  else if 0x1100 ≤ a ∧ a ≤ 0x1112 ∧ 0x1161 ≤ b ∧ b ≤ 0x1175 then
    some (0xac00 + ((a - 0x1100) * 21 + (b - 0x1161)) * 28)
  else if 0xac00 ≤ a ∧ a ≤ 0xd7a3 ∧ (a - 0xac00) % 28 = 0 ∧ 0x11a8 ≤ b ∧ b ≤ 0x11c2 then
    some (a + (b - 0x11a7))
  else composites.findSome? fun (first, parts) =>
    (parts.idxOf? (partsOf a ++ [b])).map (first + ·)

/-- Composes a letter with what follows.  The marks behind it that it was not composed with are
between it and the rest, and keep those of their own class from it. -/
def composeFrom (letter : Nat) (between : List Nat) : List Nat → List Nat
  | [] => letter :: between
  | c :: cs =>
    let free := between.all fun m => markClass m < markClass c
    match if free then composite? letter c else none with
    | some l => composeFrom l between cs
    | none =>
      if markClass c = 0 then letter :: between ++ composeFrom c [] cs
      else composeFrom letter (between ++ [c]) cs

/-- Composes all letters of a text with the marks behind them. -/
def compose : List Nat → List Nat
  | [] => []
  | c :: cs => if markClass c = 0 then composeFrom c [] cs else c :: compose cs

def normalForm (cs : List Char) : List Char :=
  (compose (orderMarks (cs.flatMap fun c => partsOf c.toNat))).map Char.ofNat

/-! ## Plain text -/

theorem partsOf_of_lt {c : Nat} (h : c < 0x80) : partsOf c = [c] := by
  simp [partsOf, h]

theorem markClass_of_lt {c : Nat} (h : c < 0x300) : markClass c = 0 := by
  simp [markClass, h]

theorem composite?_of_lt {a b : Nat} (h : b < 0x300) : composite? a b = none := by
  simp [composite?, h]

theorem orderMarks_of_lt {cs : List Nat} (h : ∀ c ∈ cs, c < 0x300) : orderMarks cs = cs := by
  induction cs with
  | nil => rfl
  | cons c cs ih =>
    have hc : markClass c = 0 := markClass_of_lt (h c List.mem_cons_self)
    have ih := ih fun d hd => h d (List.mem_cons_of_mem _ hd)
    simp only [orderMarks, List.foldr_cons] at ih ⊢
    rw [ih]
    cases cs with
    | nil => rfl
    | cons d ds => simp [place, hc]

theorem composeFrom_of_lt {cs : List Nat} (h : ∀ c ∈ cs, c < 0x300) (l : Nat) :
    composeFrom l [] cs = l :: cs := by
  induction cs generalizing l with
  | nil => rfl
  | cons c cs ih =>
    have hc : c < 0x300 := h c List.mem_cons_self
    have ih := ih (fun d hd => h d (List.mem_cons_of_mem _ hd)) c
    simp [composeFrom, composite?_of_lt hc, markClass_of_lt hc, ih]

/-- Plain letters, digits and signs stand as they are. -/
theorem normalForm_of_ascii {cs : List Char} (h : ∀ c ∈ cs, c.toNat < 0x80) :
    normalForm cs = cs := by
  have hp : (cs.flatMap fun c => partsOf c.toNat) = cs.map Char.toNat := by
    induction cs with
    | nil => rfl
    | cons c cs ih =>
      have ih := ih fun d hd => h d (List.mem_cons_of_mem _ hd)
      simp [partsOf_of_lt (h c List.mem_cons_self), ih]
  have hm : ∀ n ∈ cs.map Char.toNat, n < 0x300 := by
    simp only [List.mem_map, forall_exists_index, and_imp]
    rintro n c hc rfl
    have := h c hc
    omega
  rw [normalForm, hp, orderMarks_of_lt hm]
  cases cs with
  | nil => rfl
  | cons c cs =>
    have hc : c.toNat < 0x300 := hm _ (by simp)
    have hr : ∀ n ∈ cs.map Char.toNat, n < 0x300 := fun n hn => hm n (by simp_all)
    simp only [List.map_cons, compose, markClass_of_lt hc, ite_true]
    rw [composeFrom_of_lt hr]
    simp [Function.comp_def]

end DefSite.Text
