import Substitution.Number.Shortest
import Substitution.Value.Calendar

/-!
# Values of settings files

Options and rules are written in a data format whose documents are values: nothing, truth values,
numbers, texts, bytes, dates and times, lists, pairs, sets, and mappings. A mapping is a list of
entries, in the order in which its keys first appeared. Two keys are the same if they are equal, and
a number equals a truth value or a number of another kind with the same value.

A value that contains itself is cut where it begins again (`listAgain`, `mapAgain`).

`Substitution.Value.literal` writes a value so that it can be told from any other,
`Substitution.Value.plainText` writes a key of a mapping as a person would, and
`Substitution.Value.kindName` names the kind of a value.
-/

namespace Substitution

/-- A value of a settings file. -/
inductive Value where
  | null
  | bool (b : Bool)
  | int (n : Int)
  | float (x : Binary64)
  | str (t : Text)
  | bytes (content : List UInt8)
  | date (d : Date)
  | dateTime (t : DateTime)
  | list (items : List Value)
  | pair (first second : Value)
  | set (members : List Value)
  | map (entries : List (Value × Value))
  /-- A list that contains the place where this stands. -/
  | listAgain
  /-- A mapping that contains the place where this stands. -/
  | mapAgain

namespace Value

/-- The integer that a truth value or an integer counts as. -/
def asInt? : Value → Option Int
  | bool b => some (if b then 1 else 0)
  | int n => some n
  | _ => none

/-- Are two keys the same? -/
def sameKey (a b : Value) : Bool :=
  match a, b with
  | null, null => true
  | str s, str t => s == t
  | bytes s, bytes t => s == t
  | date d, date e => d == e
  | dateTime t, dateTime u => t.agrees u
  | float x, float y => x.eq y
  | float x, b => b.asInt?.any x.eqInt
  | a, float y => a.asInt?.any y.eqInt
  | a, b => match a.asInt?, b.asInt? with
    | some m, some n => m == n
    | _, _ => false

/-- Can the value be a key? -/
def isKey : Value → Bool
  | null | bool _ | int _ | float _ | str _ | bytes _ | date _ | dateTime _ => true
  | _ => false

/-- The entries with a key set to a value: an equal key keeps its place and its form. -/
def setEntry (key value : Value) : List (Value × Value) → List (Value × Value)
  | [] => [(key, value)]
  | (k, v) :: rest =>
    if k.sameKey key then (k, value) :: rest else (k, v) :: setEntry key value rest

/-- The mapping that results from setting the entries one after another. -/
def entriesOf (entries : List (Value × Value)) : List (Value × Value) :=
  entries.foldl (fun acc (k, v) => setEntry k v acc) []

/-- The value at a text key. -/
def lookup (key : String) (entries : List (Value × Value)) : Option Value :=
  (entries.find? fun (k, _) => k.sameKey (.str key.toList)).map Prod.snd

/-- The entries without the one at a text key. -/
def erase (key : String) (entries : List (Value × Value)) : List (Value × Value) :=
  entries.filter fun (k, _) => !k.sameKey (.str key.toList)

/-- The name of the kind of a value. -/
def kindName : Value → Text
  | null => "NoneType".toList
  | bool _ => "bool".toList
  | int _ => "int".toList
  | float _ => "float".toList
  | str _ => "str".toList
  | bytes _ => "bytes".toList
  | date _ => "date".toList
  | dateTime _ => "datetime".toList
  | list _ | listAgain => "list".toList
  | pair .. => "tuple".toList
  | set _ => "set".toList
  | map _ | mapAgain => "dict".toList

/-- The spelling of a byte between quotes. -/
def escapeByte (quote : Char) (b : UInt8) : Text :=
  let c := Char.ofNat b.toNat
  if c = quote ∨ c = '\\' then ['\\', c]
  else if c = '\t' then ['\\', 't']
  else if c = '\n' then ['\\', 'n']
  else if c = '\r' then ['\\', 'r']
  else if b < 0x20 ∨ 0x7F ≤ b then '\\' :: 'x' :: Text.hex 2 b.toNat
  else [c]

/-- The text of bytes. -/
def bytesText (content : List UInt8) : Text :=
  let quote := Text.quoteFor (content.map fun b => Char.ofNat b.toNat)
  'b' :: quote :: content.flatMap (escapeByte quote) ++ [quote]

/-- The text of numbers between parentheses. -/
def numbersText (numbers : List Nat) : Text :=
  Text.joinWith ", ".toList (numbers.map Text.decimal)

/-- The text of a value from which every part of it can be told. -/
def literal : Value → Text
  | null => "None".toList
  | bool b => if b then "True".toList else "False".toList
  | int n => Text.decimalInt n
  | float x => x.numeral
  | str t => Text.quoted t
  | bytes content => bytesText content
  | date d => "datetime.date(".toList ++ numbersText [d.year, d.month, d.day] ++ [')']
  | dateTime t =>
    "datetime.datetime(".toList ++ numbersText t.numbers ++
      (match t.offset with
        | none => []
        | some m => ", tzinfo=".toList ++ DateTime.offsetText m) ++ [')']
  | list items => '[' :: literals items ++ [']']
  | pair v w => '(' :: literal v ++ ", ".toList ++ literal w ++ [')']
  | set [] => "set()".toList
  | set members => '{' :: literals members ++ ['}']
  | map entries => '{' :: bindings entries ++ ['}']
  | listAgain => "[...]".toList
  | mapAgain => '{' :: "...".toList ++ ['}']
where
  /-- The texts of values, with commas between them. -/
  literals : List Value → Text
    | [] => []
    | [v] => literal v
    | v :: rest => literal v ++ ", ".toList ++ literals rest
  /-- The texts of entries, with commas between them. -/
  bindings : List (Value × Value) → Text
    | [] => []
    | [(k, v)] => literal k ++ ": ".toList ++ literal v
    | (k, v) :: rest => literal k ++ ": ".toList ++ literal v ++ ", ".toList ++ bindings rest

/-- The text of a key: texts, dates and times stand as they are. -/
def plainText : Value → Text
  | str t => t
  | date d => d.text
  | dateTime t => t.text
  | v => v.literal

/-- Does the value hold an integer with more digits than are written? -/
def isTooLong : Value → Bool
  | int n => decide (Text.maxDigits < (Text.decimal n.natAbs).length)
  | list items => anyTooLong items
  | pair v w => isTooLong v || isTooLong w
  | set members => anyTooLong members
  | map entries => anyPairTooLong entries
  | _ => false
where
  /-- Does one of the values hold too long an integer? -/
  anyTooLong : List Value → Bool
    | [] => false
    | v :: rest => isTooLong v || anyTooLong rest
  /-- Does one of the pairs hold too long an integer? -/
  anyPairTooLong : List (Value × Value) → Bool
    | [] => false
    | (k, v) :: rest => isTooLong k || isTooLong v || anyPairTooLong rest

end Value

end Substitution
