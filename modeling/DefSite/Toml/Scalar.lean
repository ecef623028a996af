import DefSite.Toml.Value

/-!
# Scalars of settings documents

Readers for numbers, dates, times and quoted texts.  A reader takes the longest text of its form
that stands at the front and gives the value with what follows; what may follow is for the caller to
decide.
-/

namespace DefSite.Toml

/-- A reader: a value and the characters after it, or nothing. -/
abbrev Reader (α : Type) := List Char → Option (α × List Char)

/-- The characters after an expected text. -/
def after? : List Char → List Char → Option (List Char)
  | [], cs => some cs
  | e :: es, c :: cs => if e = c then after? es cs else none
  | _ :: _, [] => none

def isHexDigit (c : Char) : Bool :=
  c.isDigit || ('a' ≤ c && c ≤ 'f') || ('A' ≤ c && c ≤ 'F')

def digitValue (c : Char) : Nat :=
  if c.isDigit then c.toNat - '0'.toNat
  else if 'a' ≤ c then c.toNat - 'a'.toNat + 10
  else c.toNat - 'A'.toNat + 10

def digitsValue (base : Nat) (ds : List Char) : Nat :=
  ds.foldl (fun n d => n * base + digitValue d) 0

/-! ## Numbers -/

/-- Digits that may follow a digit, each after at most one underscore. -/
def moreDigits (isDigit : Char → Bool) : List Char → List Char × List Char
  | [] => ([], [])
  | '_' :: c :: cs =>
    if isDigit c then
      let (ds, rest) := moreDigits isDigit cs
      (c :: ds, rest)
    else ([], '_' :: c :: cs)
  | c :: cs =>
    if isDigit c then
      let (ds, rest) := moreDigits isDigit cs
      (c :: ds, rest)
    else ([], c :: cs)

def digits (isDigit : Char → Bool) : Reader (List Char)
  | c :: cs =>
    if isDigit c then
      let (ds, rest) := moreDigits isDigit cs
      some (c :: ds, rest)
    else none
  | [] => none

/-- A whole number in a base other than ten. -/
def basedNumber : Reader Nat
  | '0' :: 'x' :: cs => (digits isHexDigit cs).map fun (ds, rest) => (digitsValue 16 ds, rest)
  | '0' :: 'o' :: cs =>
    (digits (fun c => '0' ≤ c && c ≤ '7') cs).map fun (ds, rest) => (digitsValue 8 ds, rest)
  | '0' :: 'b' :: cs =>
    (digits (fun c => c == '0' || c == '1') cs).map fun (ds, rest) => (digitsValue 2 ds, rest)
  | _ => none

def sign : List Char → Bool × List Char
  | '-' :: cs => (true, cs)
  | '+' :: cs => (false, cs)
  | cs => (false, cs)

/-- The whole part of a decimal number: a zero, or digits that do not begin with one. -/
def wholePart : Reader (List Char)
  | '0' :: cs => some (['0'], cs)
  | cs => digits Char.isDigit cs

def fraction : Reader (List Char)
  | '.' :: cs => digits Char.isDigit cs
  | _ => none

def power : Reader Int
  | c :: cs =>
    if c = 'e' ∨ c = 'E' then
      let (negative, cs) := sign cs
      (digits Char.isDigit cs).map fun (ds, rest) =>
        let n : Int := digitsValue 10 ds
        (if negative then -n else n, rest)
    else none
  | [] => none

def digitLimit : Nat := 4300

/-- A decimal number: whole, or floating if it has a fraction or a power of ten.  A whole number of
too many digits is none. -/
def decimalNumber : Reader Toml := fun cs => do
  let (negative, cs) := sign cs
  let (whole, cs) ← wholePart cs
  let (fract, cs) := ((fraction cs).map fun (ds, rest) => (some ds, rest)).getD (none, cs)
  let (exponent, cs) := ((power cs).map fun (e, rest) => (some e, rest)).getD (none, cs)
  if fract = none ∧ exponent = none then
    let n : Int := digitsValue 10 whole
    if digitLimit < whole.length then none else some (.int (if negative then -n else n), cs)
  else
    let fract := fract.getD []
    let e := exponent.getD 0 - fract.length
    some (.float (.ofDecimal negative (digitsValue 10 (whole ++ fract)) e), cs)

def number : Reader Toml := fun cs =>
  ((basedNumber cs).map fun (n, rest) => (.int n, rest)) <|> decimalNumber cs

/-- A number that is written as a word. -/
def specialNumber : Reader Toml := fun cs =>
  let (negative, rest) := sign cs
  ((after? ['i', 'n', 'f'] rest).map fun rest => (.float (.infinite negative), rest))
    <|> ((after? ['n', 'a', 'n'] rest).map fun rest => (.float .notANumber, rest))

/-! ## Dates and times -/

/-- A number of exactly `count` digits between two bounds. -/
def fixed (count lo hi : Nat) : Reader Nat := fun cs =>
  let ds := cs.take count
  let n := digitsValue 10 ds
  if ds.length = count ∧ ds.all Char.isDigit ∧ lo ≤ n ∧ n ≤ hi then some (n, cs.drop count)
  else none

/-- A fraction of a second, in microseconds; digits after the sixth do not count. -/
def micros : List Char → Nat × List Char
  | '.' :: c :: cs =>
    if c.isDigit then
      let ds := (c :: cs).takeWhile Char.isDigit
      let six := ds.take 6
      (digitsValue 10 six * Nat.pow 10 (6 - six.length), (c :: cs).dropWhile Char.isDigit)
    else (0, '.' :: c :: cs)
  | cs => (0, cs)

def clock : Reader Clock := fun cs => do
  let (hour, cs) ← fixed 2 0 23 cs
  let (minute, cs) ← fixed 2 0 59 (← after? [':'] cs)
  let (second, cs) ← fixed 2 0 59 (← after? [':'] cs)
  let (us, cs) := micros cs
  return (⟨hour, minute, second, us⟩, cs)

/-- A distance from the reference time, in minutes. -/
def offset : Reader Int
  | 'Z' :: cs | 'z' :: cs => some (0, cs)
  | '+' :: cs => distance cs
  | '-' :: cs => (distance cs).map fun (n, rest) => (-n, rest)
  | _ => none
where
  distance (cs : List Char) : Option (Int × List Char) := do
    let (hour, cs) ← fixed 2 0 23 cs
    let (minute, cs) ← fixed 2 0 59 (← after? [':'] cs)
    return ((hour : Int) * 60 + minute, cs)

/-- The form of a day, whether or not there is such a day. -/
def day : Reader Day := fun cs => do
  let (year, cs) ← fixed 4 0 9999 cs
  let (month, cs) ← fixed 2 1 12 (← after? ['-'] cs)
  let (day, cs) ← fixed 2 1 31 (← after? ['-'] cs)
  return (⟨year, month, day⟩, cs)

/-- The time of day after a day, with its distance from the reference time, if there is one. -/
def clockAfterDay : Reader (Clock × Option Int)
  | c :: cs =>
    if c = 'T' ∨ c = 't' ∨ c = ' ' then do
      let (t, cs) ← clock cs
      match offset cs with
      | some (o, cs) => return ((t, some o), cs)
      | none => return ((t, none), cs)
    else none
  | [] => none

/-- A day or a moment, or `none` inside if it has the form of one but does not exist. -/
def dayOrMoment : Reader (Option Toml) := fun cs => do
  let (d, cs) ← day cs
  let (value, cs) := match clockAfterDay cs with
    | some ((t, o), cs) => (Toml.moment d t o, cs)
    | none => (Toml.date d, cs)
  return (if d.exists then some value else none, cs)

/-! ## Texts -/

/-- Whether a character may not stand in a text or comment: a control other than the tab. -/
def isControl (c : Char) : Bool :=
  (c.toNat < 0x20 && c != '\t') || c.toNat = 0x7f

def isBlank (c : Char) : Bool :=
  c == ' ' || c == '\t'

def skipBlanks (cs : List Char) : List Char :=
  cs.dropWhile isBlank

/-- The character with the number that `count` hexadecimal digits write; surrogates are none. -/
def numbered (count : Nat) : Reader Char := fun cs =>
  let ds := cs.take count
  let n := digitsValue 16 ds
  if ds.length = count ∧ ds.all isHexDigit then
    if h : n.isValidChar then some (Char.ofNatAux n h, cs.drop count) else none
  else none

/-- The character that an escape stands for, the backslash being read already. -/
def escaped : Reader Char
  | 'b' :: cs => some ('\x08', cs)
  | 't' :: cs => some ('\t', cs)
  | 'n' :: cs => some ('\n', cs)
  | 'f' :: cs => some ('\x0c', cs)
  | 'r' :: cs => some ('\r', cs)
  | '"' :: cs => some ('"', cs)
  | '\\' :: cs => some ('\\', cs)
  | 'u' :: cs => numbered 4 cs
  | 'U' :: cs => numbered 8 cs
  | _ => none

/-- A text in double quotes on one line, the first quote being read already. -/
def basicText : Nat → Reader (List Char)
  | _, [] => none
  | 0, _ => none
  | fuel + 1, c :: cs =>
    if c = '"' then some ([], cs)
    else if c = '\\' then do
      let (e, cs) ← escaped cs
      let (s, cs) ← basicText fuel cs
      return (e :: s, cs)
    else if isControl c then none
    else do
      let (s, cs) ← basicText fuel cs
      return (c :: s, cs)

/-- What a backslash before blanks or a line end removes: everything up to the next character that
is neither.  Only blanks may stand between the backslash and the line end. -/
def lineJoint (cs : List Char) : Option (List Char) :=
  match skipBlanks cs with
  | [] => some []
  | '\n' :: rest => some (rest.dropWhile fun c => isBlank c || c == '\n')
  | _ => none

/-- A text in three double quotes, the first three being read already; up to two more quotes at
its end belong to it. -/
def basicLines : Nat → Reader (List Char)
  | _, [] => none
  | 0, _ => none
  | _ + 1, '"' :: '"' :: '"' :: '"' :: '"' :: cs => some (['"', '"'], cs)
  | _ + 1, '"' :: '"' :: '"' :: '"' :: cs => some (['"'], cs)
  | _ + 1, '"' :: '"' :: '"' :: cs => some ([], cs)
  | fuel + 1, c :: cs =>
    if c = '\\' then
      match cs with
      | ' ' :: _ | '\t' :: _ | '\n' :: _ => do basicLines fuel (← lineJoint cs)
      | _ => do
        let (e, cs) ← escaped cs
        let (s, cs) ← basicLines fuel cs
        return (e :: s, cs)
    else if isControl c && c != '\n' then none
    else do
      let (s, cs) ← basicLines fuel cs
      return (c :: s, cs)

/-- A text in single quotes on one line, the first quote being read already. -/
def literalText : Reader (List Char)
  | [] => none
  | c :: cs =>
    if c = '\'' then some ([], cs)
    else if isControl c then none
    else do
      let (s, cs) ← literalText cs
      return (c :: s, cs)

/-- A text in three single quotes, the first three being read already; up to two more quotes at
its end belong to it. -/
def literalLines : Reader (List Char)
  | [] => none
  | '\'' :: '\'' :: '\'' :: '\'' :: '\'' :: cs => some (['\'', '\''], cs)
  | '\'' :: '\'' :: '\'' :: '\'' :: cs => some (['\''], cs)
  | '\'' :: '\'' :: '\'' :: cs => some ([], cs)
  | c :: cs =>
    if isControl c && c != '\n' then none
    else do
      let (s, cs) ← literalLines cs
      return (c :: s, cs)

/-- The characters after a line end, if there is one. -/
def skipLineEnd : List Char → List Char
  | '\n' :: cs => cs
  | cs => cs

def quotedText : Reader String := fun cs =>
  (read cs).map fun (s, rest) => (String.ofList s, rest)
where
  read : Reader (List Char)
    | '"' :: '"' :: '"' :: cs => basicLines (cs.length + 1) (skipLineEnd cs)
    | '"' :: cs => basicText (cs.length + 1) cs
    | '\'' :: '\'' :: '\'' :: cs => literalLines (skipLineEnd cs)
    | '\'' :: cs => literalText cs
    | _ => none

end DefSite.Toml
