import Substitution.Text.Numeral

/-!
# Binary floating point

Numbers of the 64-bit binary format, in exact arithmetic: a finite one is `± mantissa * 2 ^
exponent` with a mantissa below `2 ^ 53` and an exponent of at least `-1074`. A real number is
rounded to the nearest of them, and a tie to the even mantissa; from `2 ^ 1024` on it is rounded to
an infinity.
-/

namespace Substitution

/-- A number of the 64-bit binary format. -/
inductive Binary64 where
  | finite (negative : Bool) (mantissa : Nat) (exponent : Int)
  | infinite (negative : Bool)
  /-- Not-a-number: the one object that always goes by the same name (`named`), or one that has just
  come about. -/
  | nan (named : Bool)
deriving Repr, DecidableEq

namespace Binary64

/-- The number of bits of a mantissa. -/
def precision : Nat := 53

/-- The least exponent. -/
def minExponent : Int := -1074

/-- The greatest exponent. -/
def maxExponent : Int := 971

/-- `num / den` rounded to an integer, a tie to the even one. -/
def roundDiv (num den : Nat) : Nat :=
  let q := num / den
  let r := num % den
  if 2 * r < den then q else if den < 2 * r then q + 1 else q + q % 2

/-- `num / (den * 2 ^ e)` rounded to an integer. -/
def scaled (num den : Nat) (e : Int) : Nat :=
  roundDiv (num * Nat.pow 2 (-e).toNat) (den * Nat.pow 2 e.toNat)

/-- The number nearest to `± num / den`. -/
def ofRatio (negative : Bool) (num den : Nat) : Binary64 :=
  if num = 0 then finite negative 0 minExponent
  else
    let e := max minExponent ((Nat.log2 num : Int) - Nat.log2 den - precision)
    let m := scaled num den e
    let (m, e) := if m < Nat.pow 2 precision then (m, e) else (scaled num den (e + 1), e + 1)
    let (m, e) := if m < Nat.pow 2 precision then (m, e) else (m / 2, e + 1)
    if maxExponent < e then infinite negative else finite negative m e

/-- The number nearest to `± mantissa * 10 ^ exponent`. -/
def ofDecimal (negative : Bool) (mantissa : Nat) (exponent : Int) : Binary64 :=
  let magnitude : Int := exponent + (Text.decimal mantissa).length
  if mantissa = 0 ∨ magnitude < -400 then finite negative 0 minExponent
  else if 400 < magnitude then infinite negative
  else ofRatio negative (mantissa * Nat.pow 10 exponent.toNat) (Nat.pow 10 (-exponent).toNat)

/-- The value of a finite number as a ratio, its sign left out. -/
def ratio (mantissa : Nat) (exponent : Int) : Nat × Nat :=
  (mantissa * Nat.pow 2 exponent.toNat, Nat.pow 2 (-exponent).toNat)

/-- The number with the other sign. -/
def neg : Binary64 → Binary64
  | finite negative m e => finite (!negative) m e
  | infinite negative => infinite (!negative)
  | nan _ => nan false

/-- The product with a natural number, which is first rounded itself. -/
def mulNat (x : Binary64) (n : Nat) : Binary64 :=
  match x, ofRatio false n 1 with
  | finite negative m e, finite _ k f =>
    let r := ratio m e
    let s := ratio k f
    ofRatio negative (r.1 * s.1) (r.2 * s.2)
  | infinite negative, _ => if n = 0 then nan false else infinite negative
  | _, _ => nan false

/-- The sum of two numbers. -/
def add (x y : Binary64) : Binary64 :=
  match x, y with
  | nan _, _ => nan false
  | _, nan _ => nan false
  | infinite a, infinite b => if a = b then infinite a else nan false
  | infinite a, _ => infinite a
  | _, infinite b => infinite b
  | finite a m e, finite b n f =>
    let r := ratio m e
    let s := ratio n f
    let signed (negative : Bool) (k : Nat) : Int := if negative then -(k : Int) else k
    let sum := signed a (r.1 * s.2) + signed b (s.1 * r.2)
    if sum = 0 then finite (a && b) 0 minExponent
    else ofRatio (sum < 0) sum.natAbs (r.2 * s.2)

/-- Is the number equal to an integer? -/
def eqInt (x : Binary64) (n : Int) : Bool :=
  match x with
  | finite negative m e =>
    let r := ratio m e
    r.1 == n.natAbs * r.2 && (n == 0 || negative == decide (n < 0))
  | _ => false

/-- Are the two the same number? Zeros of both signs are. Not-a-number is equal to nothing and is
found again as a key only if it is the object that has a name. -/
def eq (x y : Binary64) : Bool :=
  match x, y with
  | finite a m e, finite b n f => (m == 0 && n == 0) || (a == b && m == n && e == f)
  | infinite a, infinite b => a == b
  | nan a, nan b => a && b
  | _, _ => false

/-- A numeral cut at its point: the digits before, the digits after, and the rest. A single
underscore may stand between two digits. -/
def readFraction (t : Text) : List Nat × List Nat × Text :=
  let whole := Text.digitRun 10 false t
  match whole.2 with
  | '.' :: rest =>
    let part := Text.digitRun 10 false rest
    (whole.1, part.1, part.2)
  | rest => (whole.1, [], rest)

/-- The exponent of a numeral, if the rest of it is one. -/
def readExponent? (t : Text) : Option Int :=
  match t with
  | [] => some 0
  | e :: rest =>
    if e.toLower = 'e' then
      let negative := rest.head? == some '-'
      let digits := Text.digitRun 10 false
        (if negative || rest.head? == some '+' then rest.drop 1 else rest)
      if digits.1.isEmpty || !digits.2.isEmpty then none
      else
        let n : Int := Text.ofDigits 10 digits.1
        some (if negative then -n else n)
    else none

/-- The number that a decimal numeral, or a word for an infinity or for not-a-number, spells. -/
def read? (t : Text) : Option Binary64 :=
  let body := Text.trim t
  let negative := body.head? == some '-'
  let unsigned := if negative || body.head? == some '+' then body.drop 1 else body
  let small := unsigned.map Char.toLower
  if small = "inf".toList ∨ small = "infinity".toList then some (infinite negative)
  else if small = "nan".toList then some (nan false)
  else
    let (whole, part, rest) := readFraction unsigned
    if whole.isEmpty && part.isEmpty then none
    else (readExponent? rest).map fun e =>
      ofDecimal negative (Text.ofDigits 10 (whole ++ part)) (e - part.length)

end Binary64

end Substitution
