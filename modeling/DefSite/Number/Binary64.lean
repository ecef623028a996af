/-!
# Binary floating-point numbers

`Binary64` is a floating-point number of 53 significant bits, kept exactly.  `ofDecimal` rounds a
decimal number to the nearest one, ties to the even mantissa.  `shortest` gives the fewest decimal
digits that read back as the number, and of those the nearest to it, and `text` writes them:
positionally from 0.0001 up to, but not including, 10^16, else with an exponent of at least two
digits.
-/

namespace DefSite

/-- A floating-point number; a finite one is `mantissa * 2 ^ exponent`. -/
inductive Binary64 where
  | finite (negative : Bool) (mantissa : Nat) (exponent : Int)
  | infinite (negative : Bool)
  | notANumber
  deriving DecidableEq, Repr, Inhabited

namespace Binary64

def minExponent : Int := -1074

def maxExponent : Int := 971

/-- A quotient rounded to the nearest whole number, ties to the even one. -/
def roundQuotient (num den : Nat) : Nat :=
  let q := num / den
  let r := num % den
  if 2 * r < den then q
  else if 2 * r = den then (if q % 2 = 0 then q else q + 1)
  else q + 1

/-- The numerator and denominator of `n * base ^ e`. -/
def scaled (n base : Nat) (e : Int) : Nat × Nat :=
  if 0 ≤ e then (n * base.pow e.toNat, 1) else (n, base.pow (-e).toNat)

/-- The binary exponent that gives a positive quotient 53 bits, or the least exponent. -/
def exponentFor (num den : Nat) : Int :=
  let guess : Int := (Nat.log2 num : Int) - (Nat.log2 den : Int) - 53
  let fits (e : Int) : Bool :=
    let (a, b) := scaled den 2 e
    num * b < a * Nat.pow 2 53
  let e := if fits guess then guess else if fits (guess + 1) then guess + 1 else guess + 2
  max e minExponent

def ofQuotient (negative : Bool) (num den : Nat) : Binary64 :=
  let e := exponentFor num den
  let (a, b) := scaled den 2 e
  let m := roundQuotient (num * b) a
  let (m, e) := if m = Nat.pow 2 53 then (Nat.pow 2 52, e + 1) else (m, e)
  if maxExponent < e then .infinite negative else .finite negative m e

/-- The number nearest to `digits * 10 ^ exponent`. -/
def ofDecimal (negative : Bool) (digits : Nat) (exponent : Int) : Binary64 :=
  let size : Int := (Nat.toDigits 10 digits).length + exponent
  if digits = 0 ∨ size < -400 then .finite negative 0 minExponent
  else if 400 < size then .infinite negative
  else
    let (num, den) := scaled digits 10 exponent
    ofQuotient negative num den

/-- The power of ten that a positive quotient reaches. -/
def decimalExponent (num den : Nat) : Int :=
  if den ≤ num then ((Nat.toDigits 10 (num / den)).length : Int) - 1
  else
    let zeros := (List.range 400).findIdx fun k => den ≤ num * Nat.pow 10 (k + 1)
    Int.negSucc zeros

/-- The nearest number of `count` digits that lies between the bounds, if there is one: the digits
and the power of ten of the last one.  Numbers are in units of `2 ^ unit`. -/
def candidate (unit : Int) (low value high : Nat) (closed : Bool) (top : Int) (count : Nat) :
    Option (Nat × Int) :=
  let p := top - count + 1
  let (tenNum, tenDen) := scaled 1 10 p
  let (unitNum, unitDen) := scaled 1 2 unit
  -- a decimal `c * 10 ^ p` and a bound `x * 2 ^ unit` are compared over a common denominator
  let dec (c : Nat) : Nat := c * tenNum * unitDen
  let bin (x : Nat) : Nat := x * unitNum * tenDen
  let inside (c : Nat) : Bool :=
    if closed then bin low ≤ dec c && dec c ≤ bin high else bin low < dec c && dec c < bin high
  let below := bin value / (tenNum * unitDen)
  let above := below + 1
  match inside below, inside above with
  | true, true =>
    let down := bin value - dec below
    let up := dec above - bin value
    if down < up || (down == up && below % 2 == 0) then some (below, p) else some (above, p)
  | true, false => some (below, p)
  | false, true => some (above, p)
  | false, false => none

/-- The fewest digits that read back as `mantissa * 2 ^ exponent`, as a whole number and the power
of ten of its last digit. -/
def shortest (mantissa : Nat) (exponent : Int) : Nat × Int :=
  let value := 4 * mantissa
  let high := value + 2
  let low := if mantissa = Nat.pow 2 52 ∧ minExponent < exponent then value - 1 else value - 2
  let (num, den) := scaled mantissa 2 exponent
  let top := decimalExponent num den
  ((List.range 17).findSome? fun k =>
    candidate (exponent - 2) low value high (mantissa % 2 == 0) top (k + 1)).getD (0, 0)

/-- Digits with the point after the first `point` of them, zeros filled in where digits end. -/
def positional (digits : List Char) (point : Int) : List Char :=
  if point ≤ 0 then '0' :: '.' :: List.replicate (-point).toNat '0' ++ digits
  else
    let whole := digits.take point.toNat
    let filled := whole ++ List.replicate (point.toNat - whole.length) '0'
    let rest := digits.drop point.toNat
    filled ++ '.' :: (if rest.isEmpty then ['0'] else rest)

/-- Digits with the point after the first one, and an exponent. -/
def scientific (digits : List Char) (point : Int) : List Char :=
  let e := point - 1
  let exponent := Nat.toDigits 10 e.natAbs
  let padded := if exponent.length < 2 then '0' :: exponent else exponent
  let tail := digits.drop 1
  digits.take 1 ++ (if tail.isEmpty then [] else '.' :: tail)
    ++ 'e' :: (if e < 0 then '-' else '+') :: padded

def text : Binary64 → String
  | notANumber => "nan"
  | infinite negative => if negative then "-inf" else "inf"
  | finite negative m e =>
    let body :=
      if m = 0 then ['0', '.', '0']
      else
        let (c, p) := shortest m e
        let written := Nat.toDigits 10 c
        let point : Int := written.length + p
        let digits := (written.reverse.dropWhile (· == '0')).reverse
        if -4 < point ∧ point ≤ 16 then positional digits point else scientific digits point
    String.ofList (if negative then '-' :: body else body)

def isNegative : Binary64 → Bool
  | notANumber => false
  | infinite negative | finite negative _ _ => negative

/-- Whether a number is zero without a sign. -/
def isPlainZero : Binary64 → Bool
  | finite negative m _ => !negative && m == 0
  | _ => false

end Binary64

end DefSite
