import DefSite.Source.Token

/-!
# Escapes in literals

What stands between the quotes of a literal is taken as it is in raw literals; in others a backslash
opens an escape.  A backslash before a line end removes both, one before a character that it does
not combine with stands for itself, and a number with too few digits is a fault.
-/

namespace DefSite.Source

open Text

def hexValue? (c : Char) : Option Nat :=
  if c.isDigit then some (c.toNat - '0'.toNat)
  else if 'a' ≤ c ∧ c ≤ 'f' then some (c.toNat - 'a'.toNat + 10)
  else if 'A' ≤ c ∧ c ≤ 'F' then some (c.toNat - 'A'.toNat + 10)
  else none

/-- The number that exactly `count` hexadecimal digits write. -/
def hexNumber? : Nat → List Char → Option (Nat × List Char)
  | 0, cs => some (0, cs)
  | _ + 1, [] => none
  | count + 1, c :: cs => do
    let d ← hexValue? c
    let (n, rest) ← hexNumber? count cs
    return (d * 16 ^ count + n, rest)

def shortEscape? : Char → Option Nat
  | '\\' => some 0x5c
  | '\'' => some 0x27
  | '"' => some 0x22
  | 'a' => some 7
  | 'b' => some 8
  | 'f' => some 12
  | 'n' => some 10
  | 'r' => some 13
  | 't' => some 9
  | 'v' => some 11
  | _ => none

def isOctal (c : Char) : Bool :=
  '0' ≤ c && c ≤ '7'

def octalNumber (ds : List Char) : Nat :=
  ds.foldl (fun n d => n * 8 + (d.toNat - '0'.toNat)) 0

/-- The leading octal digits, at most `count`. -/
def octalDigits : Nat → List Char → List Char × List Char
  | count + 1, c :: cs =>
    if isOctal c then
      let (ds, rest) := octalDigits count cs
      (c :: ds, rest)
    else ([], c :: cs)
  | _, cs => ([], cs)

/-- An escape, the backslash being read already: the numbers it stands for and the characters after
it.  `wide` literals have escapes of four and eight digits, others do not; escapes by name are not
known. -/
def escape? (wide : Bool) : List Char → Option (List Nat × List Char)
  | [] => some ([0x5c], [])
  | c :: cs =>
    if c = '\n' then some ([], cs)
    else if isOctal c then
      let (ds, rest) := octalDigits 3 (c :: cs)
      some ([octalNumber ds], rest)
    else if c = 'x' then (hexNumber? 2 cs).map fun (n, rest) => ([n], rest)
    else if wide && c == 'u' then (hexNumber? 4 cs).map fun (n, rest) => ([n], rest)
    else if wide && c == 'U' then (hexNumber? 8 cs).map fun (n, rest) => ([n], rest)
    else if wide && c == 'N' then none
    else match shortEscape? c with
      | some n => some ([n], cs)
      | none => some ([0x5c, c.toNat], cs)

/-- The numbers of the characters and escapes between the quotes of a literal; at most as many steps
as `fuel`. -/
def unescape (wide : Bool) : Nat → List Char → Option (List Nat)
  | _, [] => some []
  | 0, _ :: _ => none
  | fuel + 1, '\\' :: cs => do
    let (ns, rest) ← escape? wide cs
    return ns ++ (← unescape wide fuel rest)
  | fuel + 1, c :: cs => do return c.toNat :: (← unescape wide fuel cs)

def codePoint? (n : Nat) : Option CodePoint :=
  if h : n < 0x110000 then some ⟨n, h⟩ else none

/-- The value of a literal, from what stands between its quotes. -/
def literalValue (raw bytes : Bool) (inside : List Char) : Option Literal :=
  let numbers :=
    if raw then some (inside.map Char.toNat) else unescape (!bytes) inside.length inside
  if bytes then
    if inside.any (0x80 ≤ ·.toNat) then none
    else numbers.map fun ns => .bytes (ns.map UInt8.ofNat)
  else numbers.bind fun ns => (ns.mapM codePoint?).map .text

end DefSite.Source
