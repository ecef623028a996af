import Mathlib
import DefSite.Number.Binary64
import DefSite.Render.Literal

/-!
# Quoted text is printable

Text and bytes are quoted on one line: what is not printable is escaped, and escapes are printable
themselves (`within_quoted`, `within_quotedBytes`).  Surrogates, which are no characters, are among
what is escaped.  Strings with few escapes have no characters but those of their texts and
printable ones (`within_literal`), and formatted strings none but those of the parts that hold
expressions (`within_formatted`).
-/

namespace DefSite.Text

/-- A text over the characters that `P` admits. -/
def Within (P : Char → Prop) (s : String) : Prop :=
  ∀ d ∈ s.toList, P d

def Printable (d : Char) : Prop :=
  isPrintable d.toNat = true

instance : DecidablePred Printable := fun d =>
  inferInstanceAs (Decidable (isPrintable d.toNat = true))

variable {P Q : Char → Prop} {s t : String}

theorem Within.mono (h : ∀ d, P d → Q d) (hs : Within P s) : Within Q s :=
  fun d hd => h d (hs d hd)

@[simp] theorem within_append : Within P (s ++ t) ↔ Within P s ∧ Within P t := by
  simp [Within, or_imp, forall_and]

@[simp] theorem within_ofList {l : List Char} : Within P (String.ofList l) ↔ ∀ d ∈ l, P d := by
  simp [Within]

/-- Printable ASCII. -/
def isGraphic (d : Char) : Bool :=
  0x20 ≤ d.toNat && d.toNat < 0x7f

theorem printable_of_isGraphic {d : Char} (h : isGraphic d = true) : Printable d := by
  rw [isGraphic, Bool.and_eq_true, decide_eq_true_eq, decide_eq_true_eq] at h
  rw [Printable, isPrintable, if_pos h.2]
  simpa using h.1

theorem isGraphic_of_isDigit {d : Char} (h : d.isDigit = true) : isGraphic d = true := by
  have hd : 48 ≤ d.toNat ∧ d.toNat ≤ 57 := Char.isDigit_iff_toNat.mp h
  simp only [isGraphic, Bool.and_eq_true, decide_eq_true_eq]
  omega

theorem printable_of_all_isGraphic {l : List Char} (h : l.all isGraphic = true) :
    ∀ d ∈ l, Printable d :=
  fun d hd => printable_of_isGraphic (List.all_eq_true.mp h d hd)

theorem within_of_isGraphic (h : s.toList.all isGraphic = true) : Within Printable s :=
  printable_of_all_isGraphic h

/-! ### Quoted text -/

theorem isPrintable_of_surrogate {n : Nat} (h : 0xd800 ≤ n) (h' : n < 0xe000) :
    isPrintable n = false := by
  have hmem : (0xd7fc, 0xf8ff) ∈ unprintable := by decide +kernel
  rw [isPrintable, if_neg (by omega), Bool.not_eq_false', List.any_eq_true]
  refine ⟨_, hmem, ?_⟩
  simp only [Bool.and_eq_true, decide_eq_true_eq]
  omega

/-- A printable code point is a character, as surrogates are not printable. -/
theorem printable_ofNat {n : Nat} (hn : n < 0x110000) (h : isPrintable n = true) :
    Printable (Char.ofNat n) := by
  have hvalid : n.isValidChar := by
    by_contra hinvalid
    have hsurrogate : 0xd800 ≤ n ∧ n < 0xe000 := by
      simp only [Nat.isValidChar] at hinvalid
      omega
    rw [isPrintable_of_surrogate hsurrogate.1 hsurrogate.2] at h
    cases h
  rw [Printable, Char.toNat_ofNat, if_pos hvalid]
  exact h

theorem printable_hexDigits (width n : Nat) : ∀ d ∈ hexDigits width n, Printable d := by
  induction width generalizing n with
  | zero => simp [hexDigits]
  | succ width ih =>
    have hdigit : ∀ m < 16, isGraphic (Nat.digitChar m) = true := by decide
    have hlast := printable_of_isGraphic (hdigit (n % 16) (Nat.mod_lt n (by decide)))
    rw [hexDigits, List.forall_mem_append]
    exact ⟨ih (n / 16), List.forall_mem_singleton.mpr hlast⟩

theorem printable_escape (n : Nat) : ∀ d ∈ escape n, Printable d := by
  have hmark : ∀ m ∈ ['\\', 'n', 'r', 't', 'x', 'u', 'U'], Printable m := fun m hm =>
    printable_of_isGraphic (List.all_eq_true.mp (by decide) m hm)
  simp only [List.forall_mem_cons] at hmark
  unfold escape
  split_ifs
  all_goals simp only [List.forall_mem_cons, hmark, true_and]
  all_goals first | exact printable_hexDigits _ _ | simp

theorem printable_quotedUnit {plain : Nat → Bool} {quote : Char} {n : Nat}
    (hplain : plain n = true → isPrintable n = true) (hquote : Printable quote)
    (hn : n < 0x110000) : ∀ d ∈ quotedUnit plain quote n, Printable d := by
  have hback : Printable '\\' := printable_of_isGraphic (by decide)
  unfold quotedUnit
  split_ifs with h₁ h₂
  · simpa using ⟨hback, hquote⟩
  · rw [Bool.and_eq_true] at h₂
    simpa using printable_ofNat hn (hplain h₂.1)
  · exact printable_escape n

theorem printable_quoteFor (single double : Bool) : Printable (quoteFor single double) :=
  printable_of_isGraphic (by revert single double; decide)

theorem printable_quotedInside (s : List CodePoint) : ∀ d ∈ quotedInside s, Printable d := by
  intro d hd
  obtain ⟨c, -, hc⟩ := List.mem_flatMap.mp hd
  exact printable_quotedUnit id (printable_quoteFor _ _) c.isLt d hc

/-- Quoted text is printable, whatever it is the text of. -/
theorem within_quoted (cs : List CodePoint) : Within Printable (quoted cs) := by
  have hquote : Printable (quoteOf cs) := printable_quoteFor _ _
  rw [quoted, within_ofList, List.forall_mem_append, List.forall_mem_cons]
  exact ⟨⟨hquote, printable_quotedInside cs⟩, List.forall_mem_singleton.mpr hquote⟩

theorem within_quotedBytes (bs : List UInt8) : Within Printable (quotedBytes bs) := by
  have hmark : Printable 'b' := printable_of_isGraphic (by decide)
  have hquote := printable_quoteFor (bs.contains 0x27) (bs.contains 0x22)
  have hplain : ∀ n, (0x20 ≤ n && n < 0x7f : Bool) = true → isPrintable n = true := by
    intro n hn
    rw [Bool.and_eq_true, decide_eq_true_eq, decide_eq_true_eq] at hn
    rw [isPrintable, if_pos hn.2]
    simpa using hn.1
  rw [quotedBytes, within_ofList, List.forall_mem_append, List.forall_mem_cons,
    List.forall_mem_cons]
  refine ⟨⟨hmark, hquote, ?_⟩, List.forall_mem_singleton.mpr hquote⟩
  intro d hd
  obtain ⟨b, -, hb⟩ := List.mem_flatMap.mp hd
  exact printable_quotedUnit (hplain b.toNat) hquote (by have := b.toNat_lt; omega) d hb

/-! ### Numbers -/

theorem printable_toDigits (n : Nat) : ∀ d ∈ Nat.toDigits 10 n, Printable d := by
  intro d hd
  have hdigit := Nat.isDigit_of_mem_toDigits (by decide) (by decide) hd
  exact printable_of_isGraphic (isGraphic_of_isDigit hdigit)

theorem within_int (i : Int) : Within Printable (toString i) := by
  have hminus : Within Printable "-" := within_of_isGraphic (by decide)
  rw [Int.toString_eq_repr, Int.repr_eq_if]
  split <;> simp only [within_append, Nat.repr_eq_ofList_toDigits, within_ofList]
  · exact printable_toDigits _
  · exact ⟨hminus, printable_toDigits _⟩

section floats

variable {digits : List Char} (h : ∀ d ∈ digits, Printable d)

theorem printable_of_mem_replicate {k : Nat} {c : Char} (hc : isGraphic c = true) :
    ∀ d ∈ List.replicate k c, Printable d := by
  intro d hd
  rw [List.eq_of_mem_replicate hd]
  exact printable_of_isGraphic hc

include h in
theorem printable_positional (point : Int) :
    ∀ d ∈ Binary64.positional digits point, Printable d := by
  have hzero : Printable '0' := printable_of_isGraphic (by decide)
  have hpoint : Printable '.' := printable_of_isGraphic (by decide)
  have hzeros : ∀ k, ∀ d ∈ List.replicate k '0', Printable d := fun k =>
    printable_of_mem_replicate (by decide)
  have hdrop : ∀ k, ∀ d ∈ digits.drop k, Printable d := fun k d hd => h d (List.mem_of_mem_drop hd)
  have htake : ∀ k, ∀ d ∈ digits.take k, Printable d := fun k d hd => h d (List.mem_of_mem_take hd)
  unfold Binary64.positional
  split
  · simp only [List.forall_mem_cons, List.forall_mem_append]
    exact ⟨⟨hzero, hpoint, hzeros _⟩, h⟩
  · simp only [List.forall_mem_cons, List.forall_mem_append]
    refine ⟨⟨htake _, hzeros _⟩, hpoint, ?_⟩
    split
    · exact List.forall_mem_singleton.mpr hzero
    · exact hdrop _

include h in
theorem printable_scientific (point : Int) :
    ∀ d ∈ Binary64.scientific digits point, Printable d := by
  have hmark : ∀ m ∈ ['0', '.', 'e', '+', '-'], Printable m :=
    printable_of_all_isGraphic (by decide)
  simp only [List.forall_mem_cons] at hmark
  have hdrop : ∀ d ∈ digits.drop 1, Printable d := fun d hd => h d (List.mem_of_mem_drop hd)
  have htake : ∀ d ∈ digits.take 1, Printable d := fun d hd => h d (List.mem_of_mem_take hd)
  unfold Binary64.scientific
  simp only [List.forall_mem_cons, List.forall_mem_append]
  refine ⟨⟨htake, ?_⟩, hmark.2.2.1, ?_, ?_⟩
  · split
    · simp
    · exact List.forall_mem_cons.mpr ⟨hmark.2.1, hdrop⟩
  · split
    · exact hmark.2.2.2.2.1
    · exact hmark.2.2.2.1
  · split
    · exact List.forall_mem_cons.mpr ⟨hmark.1, printable_toDigits _⟩
    · exact printable_toDigits _

theorem within_float (x : Binary64) : Within Printable x.text := by
  cases x with
  | notANumber => exact within_of_isGraphic (by decide)
  | infinite negative => exact within_of_isGraphic (by cases negative <;> decide)
  | finite negative mantissa exponent =>
    have hminus : Printable '-' := printable_of_isGraphic (by decide)
    have hbody : ∀ (c : Nat) (p : Int), ∀ d ∈ (
        let written := Nat.toDigits 10 c
        let point : Int := written.length + p
        let digits := (written.reverse.dropWhile (· == '0')).reverse
        if -4 < point ∧ point ≤ 16 then Binary64.positional digits point
        else Binary64.scientific digits point), Printable d := by
      intro c p
      have hdigits : ∀ d ∈ ((Nat.toDigits 10 c).reverse.dropWhile (· == '0')).reverse,
          Printable d := by
        intro d hd
        have hmem := (List.dropWhile_sublist _).subset (List.mem_reverse.mp hd)
        exact printable_toDigits c d (List.mem_reverse.mp hmem)
      dsimp only
      split
      · exact printable_positional hdigits _
      · exact printable_scientific hdigits _
    have hwhole : ∀ body : List Char, (∀ d ∈ body, Printable d) →
        ∀ d ∈ (if negative then '-' :: body else body), Printable d := by
      intro body hb
      split
      · exact List.forall_mem_cons.mpr ⟨hminus, hb⟩
      · exact hb
    rw [Binary64.text, within_ofList]
    apply hwhole
    split
    · exact printable_of_all_isGraphic (by decide)
    · exact hbody _ _

end floats

end DefSite.Text

/-! ## Strings with few escapes -/

namespace DefSite.Render

open Text

variable {P : Char → Prop} (hP : ∀ d, Printable d → P d) {quotes : List Quotes} {spaces : Bool}
  {s : List CodePoint}

include hP in
/-- Only line ends and tabs may stand as they are, and only if they are not escaped as well. -/
theorem literalUnit_over {c : CodePoint} (h : spaces = false → P (Char.ofNat c.val)) :
    ∀ d ∈ literalUnit spaces c, P d := by
  unfold literalUnit
  split_ifs with hspace hescape
  · rw [Bool.and_eq_true, Bool.not_eq_true'] at hspace
    exact List.forall_mem_singleton.mpr (h hspace.1)
  · exact fun d hd => hP d (printable_escape c.val d hd)
  · rw [Bool.or_eq_true, not_or, Bool.not_eq_true', Bool.not_eq_false] at hescape
    exact List.forall_mem_singleton.mpr (hP _ (printable_ofNat c.isLt hescape.2))

include hP in
theorem guardLast_over {quote : Char} {l : List Char} (hquote : P quote) (hl : ∀ d ∈ l, P d) :
    ∀ d ∈ guardLast quote l, P d := by
  unfold guardLast
  split
  · rw [List.forall_mem_append]
    refine ⟨fun d hd => hl d (List.mem_of_mem_dropLast hd), ?_⟩
    simpa using ⟨hP _ (printable_of_isGraphic (by decide)), hquote⟩
  · exact hl

theorem mem_of_mem_freeQuotes {q : Quotes} {l : List Char} (h : q ∈ freeQuotes quotes l) :
    q ∈ quotes := by
  simp only [freeQuotes, List.partition_eq_filter_filter, List.mem_append, List.mem_filter] at h
  rcases h with h | h <;> exact h.1.1

include hP in
theorem literalInside_over (spaces : Bool) (hquotes : ∀ q ∈ quotes, P q.mark)
    (hs : spaces = false → ∀ c ∈ s, P (Char.ofNat c.val)) :
    (∀ d ∈ (literalInside quotes spaces s).1, P d) ∧
      ∀ q ∈ (literalInside quotes spaces s).2, P q.mark := by
  have hescaped : ∀ d ∈ s.flatMap (literalUnit spaces), P d := by
    intro d hd
    obtain ⟨c, hc, hd⟩ := List.mem_flatMap.mp hd
    exact literalUnit_over hP (fun h => hs h c hc) d hd
  unfold literalInside
  dsimp only
  split
  · next q rest hfree =>
    have hmarks : ∀ q' ∈ q :: rest, P q'.mark := fun q' hq' =>
      hquotes q' (mem_of_mem_freeQuotes (hfree ▸ hq'))
    exact ⟨guardLast_over hP (hmarks q List.mem_cons_self) hescaped, hmarks⟩
  · have hmark : P (quoteOf s) := hP _ (printable_quoteFor _ _)
    refine ⟨fun d hd => hP d (printable_quotedInside s d hd), List.forall_mem_singleton.mpr ?_⟩
    cases hfind : quotes.find? (·.mark == quoteOf s) with
    | none => exact hmark
    | some q => exact hquotes q (List.mem_of_find?_eq_some hfind)

/-- The marks of all quotes, and of what stands for none. -/
theorem printable_marks :
    (∀ q ∈ Quotes.all, Printable q.mark) ∧ Printable (default : Quotes).mark :=
  ⟨by decide, by decide⟩

theorem around_over {q : Quotes} {inside : List Char} (hq : P q.mark) (hi : ∀ d ∈ inside, P d) :
    ∀ d ∈ q.around inside, P d := by
  have hmarks : ∀ d ∈ q.text, P d := fun d hd => (List.eq_of_mem_replicate hd) ▸ hq
  simp only [Quotes.around, List.forall_mem_append]
  exact ⟨⟨hmarks, hi⟩, hmarks⟩

include hP in
theorem headD_over {free : List Quotes} (h : ∀ q ∈ free, P q.mark) :
    P (free.headD default).mark := by
  cases free with
  | nil => exact hP _ printable_marks.2
  | cons q rest => exact h q List.mem_cons_self

include hP in
/-- A string with few escapes has the characters of its text and printable ones. -/
theorem within_literal (hs : ∀ c ∈ s, P (Char.ofNat c.val)) : Within P (literal Quotes.all s) := by
  obtain ⟨hinside, hfree⟩ := literalInside_over hP false
    (fun q hq => hP _ (printable_marks.1 q hq)) fun _ => hs
  rw [literal, within_ofList]
  exact around_over (headD_over hP hfree) hinside

include hP in
theorem formattedInside?_over {parts : List FormattedPart} {inside : List Char}
    {last : List Quotes} (hquotes : ∀ q ∈ quotes, P q.mark)
    (hparts : ∀ p ∈ parts, p.constant = false → ∀ c ∈ p.text, P (Char.ofNat c.val))
    (h : formattedInside? quotes parts = some (inside, last)) :
    (∀ d ∈ inside, P d) ∧ ∀ q ∈ last, P q.mark := by
  induction parts generalizing quotes inside with
  | nil =>
    cases h
    exact ⟨by simp, hquotes⟩
  | cons p parts ih =>
    obtain ⟨hp, hparts⟩ := List.forall_mem_cons.mp hparts
    obtain ⟨hfirst, hfree⟩ := literalInside_over hP p.constant hquotes hp
    unfold formattedInside? at h
    dsimp only at h
    split at h
    · obtain ⟨⟨more, last'⟩, hmore, heq⟩ := Option.map_eq_some_iff.mp h
      cases heq
      obtain ⟨hrest, hlast⟩ := ih hfree hparts hmore
      exact ⟨List.forall_mem_append.mpr ⟨hfirst, hrest⟩, hlast⟩
    · cases h

include hP in
/-- A formatted string has the characters of the parts that are not constant and printable ones. -/
theorem within_formatted {parts : List FormattedPart}
    (hparts : ∀ p ∈ parts, p.constant = false → ∀ c ∈ p.text, P (Char.ofNat c.val)) :
    Within P (formatted parts) := by
  have hsingle : Printable '\'' := printable_of_isGraphic (by decide)
  unfold formatted
  split
  · next inside free h =>
    obtain ⟨hinside, hfree⟩ := formattedInside?_over hP
      (fun q hq => hP _ (printable_marks.1 q hq)) hparts h
    rw [within_ofList]
    exact around_over (headD_over hP hfree) hinside
  · rw [within_ofList]
    refine around_over (hP _ hsingle) fun d hd => ?_
    obtain ⟨p, -, hd⟩ := List.mem_flatMap.mp hd
    obtain ⟨c, -, hc⟩ := List.mem_flatMap.mp hd
    exact hP d (printable_quotedUnit id hsingle c.isLt d hc)

end DefSite.Render
