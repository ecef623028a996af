import DefSite.Number.Binary64
import DefSite.Source.Token

/-!
# Numbers in source texts

A number is whole, in base two, eight, ten or sixteen, or it has a point, an exponent or both, and
a decimal number may be imaginary.  Digits may be grouped by underscores.  A whole decimal number
that begins with a zero holds only zeros, and one with very many digits is not read.
-/

namespace DefSite.Source

def isWordChar (c : Char) : Bool :=
  c.isAlphanum || c == '_' || 0x80 ≤ c.toNat

/-- The digits at the front, each after at most one underscore, and the rest. -/
def digits (isDigit : Char → Bool) : List Char → Option (List Char × List Char)
  | [] => some ([], [])
  | ['_'] => none
  | '_' :: d :: cs =>
    if isDigit d then (digits isDigit cs).map fun (ds, rest) => (d :: ds, rest) else none
  | c :: cs =>
    if isDigit c then (digits isDigit cs).map fun (ds, rest) => (c :: ds, rest)
    else some ([], c :: cs)

/-- Digits that may follow a point or a sign; no underscore comes first. -/
def furtherDigits (cs : List Char) : Option (List Char × List Char) :=
  if (cs.head?.map Char.isDigit).getD false then digits Char.isDigit cs else some ([], cs)

/-- Whether a number may end where these characters follow: only some reserved words may follow it
without a blank. -/
def numberMayEnd (cs : List Char) : Bool :=
  match cs with
  | [] => true
  | c :: _ =>
    !isWordChar c || ["and", "else", "for", "if", "in", "is", "or", "not"].any
      (·.toList.isPrefixOf cs)

def digitLimit : Nat := 4300

/-- The value of a digit in any base. -/
def digitValue (c : Char) : Nat :=
  if c.isDigit then c.toNat - '0'.toNat else c.toLower.toNat - 'a'.toNat + 10

def numberOf (base : Nat) (ds : List Char) : Nat :=
  ds.foldl (fun n d => n * base + digitValue d) 0

/-- A base other than ten, by the letter after the zero, with its digits. -/
def base? (c : Char) : Option (Nat × (Char → Bool)) :=
  match c.toLower with
  | 'x' => some (16, fun d => d.isDigit || ('a' ≤ d.toLower && d.toLower ≤ 'f'))
  | 'o' => some (8, fun d => '0' ≤ d && d ≤ '7')
  | 'b' => some (2, fun d => d == '0' || d == '1')
  | _ => none

/-- The exponent at the front, if there is one; without digits it is none, unless it has a sign. -/
def exponent (cs : List Char) : Option (Option Int × List Char) :=
  match cs with
  | [] => some (none, [])
  | c :: after => do
    if c.toLower ≠ 'e' then return (none, cs)
    let (negative, signed, rest) := match after with
      | '-' :: rest => (true, true, rest)
      | '+' :: rest => (false, true, rest)
      | rest => (false, false, rest)
    let (ds, rest) ← furtherDigits rest
    if ds.isEmpty then if signed then none else return (none, cs)
    let e : Int := numberOf 10 ds
    return (some (if negative then -e else e), rest)

/-- A number that starts with a digit or, if it has no whole part, with a point. -/
def decimalNumber (cs : List Char) : Option (Option Literal × List Char) := do
  let (whole, cs) ← furtherDigits cs
  let (point, fraction, cs) ← match cs with
    | '.' :: cs => do
      let (ds, cs) ← furtherDigits cs
      pure (true, ds, cs)
    | cs => pure (false, [], cs)
  let (power, cs) ← exponent cs
  let imaginary := (cs.head?.map Char.toLower) == some 'j'
  let cs := if imaginary then cs.tail else cs
  if !numberMayEnd cs then none
  let zeros := whole.head? == some '0'
  let value := Binary64.ofDecimal false (numberOf 10 (whole ++ fraction))
  let shift := power.getD 0 - fraction.length
  if imaginary then return (some (.complex (.ofDecimal false 0 0) (value shift)), cs)
  else if point || power.isSome then return (some (.float (value shift)), cs)
  else if zeros && whole.any (· != '0') then none
  else if !zeros && digitLimit < whole.length then return (none, cs)
  else return (some (.int (numberOf 10 whole)), cs)

/-- A number and the characters after it. -/
def number (cs : List Char) : Option (Option Literal × List Char) :=
  match cs with
  | '0' :: c :: rest =>
    match base? c with
    | some (base, isDigit) => do
      let (ds, rest) ← digits isDigit rest
      if ds.isEmpty || !numberMayEnd rest then none
      return (some (.int (numberOf base ds)), rest)
    | none => decimalNumber cs
  | _ => decimalNumber cs

end DefSite.Source
