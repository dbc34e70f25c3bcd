import Substitution.Number.Binary64

/-!
# The shortest decimal numeral

A floating-point number is written with the fewest decimal digits that read back as the same number;
of several numerals with that many digits, the one nearest to the number is taken, and of two that
are equally near the one whose last digit is even.

`Substitution.Binary64.shortest` finds these digits: for one digit, two digits and so on it tries
the two points of that decimal grid between which the number lies. A point reads back as the number
if it lies in the interval of the reals that are rounded to it, whose ends belong to it when the
mantissa is even.

`Substitution.Binary64.numeral` writes them: with a point from `0.0001` up to, and without,
`10000000000000000`, and with an exponent of at least two digits otherwise.
-/

namespace Substitution

namespace Binary64

/-- A quarter of the interval's unit, so that its ends are whole: the number and the ends of the
interval of reals that are rounded to it, all times `4 * 2 ^ (-exponent)`. -/
def interval (mantissa : Nat) (exponent : Int) : Nat × Nat × Nat :=
  let below := if mantissa = Nat.pow 2 (precision - 1) ∧ minExponent < exponent then 1 else 2
  (4 * mantissa - below, 4 * mantissa, 4 * mantissa + 2)

/-- Compares `d * 10 ^ p` with `q * 2 ^ e / 4`. -/
def compareGrid (d : Nat) (p : Int) (q : Nat) (e : Int) : Ordering :=
  let left := d * 4 * Nat.pow 10 p.toNat * Nat.pow 2 (-e).toNat
  let right := q * Nat.pow 2 e.toNat * Nat.pow 10 (-p).toNat
  compare left right

/-- Does `d * 10 ^ p` read back as the number? -/
def readsBack (mantissa : Nat) (exponent : Int) (d : Nat) (p : Int) : Bool :=
  let (lo, _, hi) := interval mantissa exponent
  match compareGrid d p lo exponent, compareGrid d p hi exponent with
  | .gt, .lt => true
  | .eq, _ => mantissa % 2 == 0
  | _, .eq => mantissa % 2 == 0
  | _, _ => false

/-- The greatest `d` for which `d * 10 ^ p` is not greater than the number. -/
def floorGrid (mantissa : Nat) (exponent p : Int) : Nat :=
  let num := mantissa * Nat.pow 2 exponent.toNat * Nat.pow 10 (-p).toNat
  let den := Nat.pow 2 (-exponent).toNat * Nat.pow 10 p.toNat
  num / den

/-- Is `d * 10 ^ p` nearer to the number than `(d + 1) * 10 ^ p`, or as near and even? -/
def lowerIsNearer (mantissa : Nat) (exponent : Int) (d : Nat) (p : Int) : Bool :=
  match compareGrid (2 * d + 1) p (8 * mantissa) exponent with
  | .gt => true
  | .lt => false
  | .eq => d % 2 == 0

/-- Of the grid of step `10 ^ p`, the point that reads back as the number and is nearest to it. -/
def onGrid? (mantissa : Nat) (exponent p : Int) : Option Nat :=
  let d := floorGrid mantissa exponent p
  match readsBack mantissa exponent d p && d != 0, readsBack mantissa exponent (d + 1) p with
  | true, true => some (if lowerIsNearer mantissa exponent d p then d else d + 1)
  | true, false => some d
  | false, true => some (d + 1)
  | false, false => none

/-- The position of the leading decimal digit: the greatest number from `k` down for which the power
of ten is not greater than the number; at most `limit` steps down. -/
def leadingExponent (mantissa : Nat) (exponent : Int) : (limit : Nat) → (k : Int) → Int
  | 0, k => k
  | limit + 1, k =>
    if floorGrid mantissa exponent k = 0 then leadingExponent mantissa exponent limit (k - 1)
    else k

/-- The digits and the power of ten of the shortest numeral, from grids of `digits` digits on. -/
def shortestFrom (mantissa : Nat) (exponent lead : Int) : (more : Nat) → (digits : Nat) →
    Nat × Int
  | 0, _ => (floorGrid mantissa exponent (lead - 16), lead - 16)
  | more + 1, digits =>
    let p := lead - digits + 1
    match onGrid? mantissa exponent p with
    | some d => (d, p)
    | none => shortestFrom mantissa exponent lead more (digits + 1)

/-- The digits and the power of ten of the shortest numeral of a number other than zero. -/
def shortest (mantissa : Nat) (exponent : Int) : Nat × Int :=
  let lead := leadingExponent mantissa exponent 8
    (((Nat.log2 mantissa : Int) + exponent) * 30103 / 100000 + 2)
  shortestFrom mantissa exponent lead 17 1

/-- The digits without the zeros at their end, and the power of ten that belongs to them. -/
def dropZeros (digits : Text) (p : Int) : Text × Int :=
  let kept := (digits.reverse.dropWhile (· == '0')).reverse
  (kept, p + (digits.length - kept.length : Nat))

/-- Writes digits times a power of ten. -/
def place (digits : Text) (p : Int) : Text :=
  let (digits, p) := dropZeros digits p
  let lead : Int := p + digits.length - 1
  if -4 ≤ lead ∧ lead < 16 then
    if 0 ≤ p then digits ++ List.replicate p.toNat '0' ++ ['.', '0']
    else if 0 ≤ lead then
      digits.take (lead.toNat + 1) ++ '.' :: digits.drop (lead.toNat + 1)
    else '0' :: '.' :: List.replicate ((-lead).toNat - 1) '0' ++ digits
  else
    let fraction := if digits.length = 1 then [] else '.' :: digits.drop 1
    digits.take 1 ++ fraction ++ 'e' :: (if lead < 0 then '-' else '+') ::
      Text.padLeft 2 '0' (Text.decimal lead.natAbs)

/-- The numeral of a number, or the word for it. -/
def numeral : Binary64 → Text
  | nan _ => "nan".toList
  | infinite negative => if negative then "-inf".toList else "inf".toList
  | finite negative m e =>
    let digits :=
      if m = 0 then "0.0".toList
      else
        let (d, p) := shortest m e
        place (Text.decimal d) p
    if negative then '-' :: digits else digits

end Binary64

end Substitution
