import Substitution.Number.Binary64
import Substitution.Text.LetterCase
import Substitution.Yaml.Error

/-!
# Numerals of a document

Which plain scalars are numbers, and the numbers that scalars spell. Integers are written in base
ten, two (`0b`), eight (a leading `0`) or sixteen (`0x`), or in base sixty with colons between the
places; decimals with a point, also in base sixty, or as a word for an infinity or for not-a-number.
Underscores may stand between digits and mean nothing.

The form of a number (`isInteger`, `isDecimal`) is narrower than what is read (`integer`,
`decimal`): the former decides which untagged scalars are numbers, the latter also reads scalars
that are said to be numbers by a tag.
-/

namespace Substitution

namespace Yaml

/-- The text without a sign at its start. -/
def dropSign : Text → Text
  | '+' :: rest => rest
  | '-' :: rest => rest
  | t => t

/-- Is the character a digit? -/
def isDigit (c : Char) : Bool :=
  '0' ≤ c && c ≤ '9'

/-- Is the character a digit or an underscore? -/
def isDigitOrGap (c : Char) : Bool :=
  isDigit c || c == '_'

/-- Does the text begin with a digit and go on with digits and underscores? -/
def isWhole : Text → Bool
  | [] => false
  | c :: rest => isDigit c && rest.all isDigitOrGap

/-- Is the text a place of a numeral in base sixty, after the first one? -/
def isPlace : Text → Bool
  | [c] => isDigit c
  | [c, d] => '0' ≤ c && c ≤ '5' && isDigit d
  | _ => false

/-- Has the text the form of an integer? -/
def isInteger (t : Text) : Bool :=
  match dropSign t with
  | ['0'] => true
  | '0' :: 'b' :: digits => !digits.isEmpty && digits.all fun c => c == '0' || c == '1' || c == '_'
  | '0' :: 'x' :: digits => !digits.isEmpty && digits.all fun c => Text.isHexDigit c || c == '_'
  | '0' :: digits => digits.all fun c => ('0' ≤ c && c ≤ '7') || c == '_'
  | u =>
    match Text.splitAtEach ':' u with
    | first :: places => isWhole first && places.all isPlace
    | [] => false

/-- Is the text an exponent, or empty? -/
def isExponent : Text → Bool
  | [] => true
  | e :: sign :: digits =>
    (e == 'e' || e == 'E') && (sign == '+' || sign == '-') && !digits.isEmpty && digits.all isDigit
  | _ => false

/-- Has the text the form of a decimal? -/
def isDecimal (t : Text) : Bool :=
  let u := dropSign t
  let whole := u.takeWhile (· != '.')
  let part := u.drop (whole.length + 1)
  let tail := part.dropWhile isDigitOrGap
  let pointed := whole.length < u.length
  if !pointed then false
  else if whole.isEmpty then
    [".inf", ".Inf", ".INF"].any (·.toList == u) ||
      (u == t && ([".nan", ".NaN", ".NAN"].any (·.toList == u) ||
        (part.head?.any isDigit && isExponent tail)))
  else match Text.splitAtEach ':' whole with
    | [_] => isWhole whole && isExponent tail
    | first :: places => isWhole first && places.all isPlace && tail.isEmpty
    | [] => false

/-- The integer that a text spells in a base. -/
def integerIn (base : Nat) (t : Text) : Except ScalarFault Int :=
  (Text.readInteger base t).mapError (.integer base t)

/-- The integer that a scalar spells. -/
def integer (text : Text) : Except ScalarFault Int := do
  let t := text.filter (· != '_')
  let u := dropSign t
  let signed (n : Int) : Int := if t.head? = some '-' then -n else n
  match u with
  | [] => .error .emptyNumeral
  | ['0'] => .ok 0
  | '0' :: 'b' :: digits => (integerIn 2 digits).map signed
  | '0' :: 'x' :: digits => (integerIn 16 digits).map signed
  | '0' :: _ => (integerIn 8 u).map signed
  | _ =>
    let places ← (Text.splitAtEach ':' u).mapM (integerIn 10)
    .ok (signed (places.foldl (fun n place => 60 * n + place) 0))

/-- The decimal that a text spells. -/
def decimalOf (t : Text) : Except ScalarFault Binary64 :=
  match Binary64.read? t with
  | some x => .ok x
  | none => .error (.decimal t)

/-- How many places a decimal in base sixty may have. The value of a further one is out of range. -/
def maxPlaces : Nat := 174

/-- The decimal that places in base sixty spell, the last one first; `scale` is the value of one in
the first of them. -/
def sumPlaces : (scale : Nat) → (sum : Binary64) → List Binary64 → Binary64
  | _, sum, [] => sum
  | scale, sum, place :: rest => sumPlaces (scale * 60) (sum.add (place.mulNat scale)) rest

/-- The decimal that a scalar spells. -/
def decimal (text : Text) : Except ScalarFault Binary64 := do
  let t := Text.lowered (text.filter (· != '_'))
  let u := dropSign t
  let signed (x : Binary64) : Binary64 := if t.head? = some '-' then x.neg else x
  if t.isEmpty then .error .emptyNumeral
  else if u = ".inf".toList then .ok (signed (.infinite false))
  else if u = ".nan".toList then .ok (.nan true)
  else if u.contains ':' then
    let places ← (Text.splitAtEach ':' u).mapM decimalOf
    if maxPlaces < places.length then .error .tooManyPlaces
    else .ok (signed (sumPlaces 1 (.finite false 0 Binary64.minExponent) places.reverse))
  else (decimalOf u).map signed

end Yaml

end Substitution
