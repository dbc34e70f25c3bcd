import Substitution.Settings

/-!
# Values can be compared

Two values are equal if they are equal part by part, with their entries in the same order
(`Substitution.Value.beq_iff`). So equality of values can be decided, and with it that of what
is reported of them: what a settings file holds, and what is wrong with it, can be checked by
evaluation. Being the same key (`Substitution.Value.sameKey`) is coarser than that.
-/

namespace Substitution

namespace Value

mutual

/-- Are the values equal part by part? -/
def beq : Value → Value → Bool
  | null, null => true
  | bool b, bool c => b == c
  | int m, int n => m == n
  | float x, float y => x == y
  | str s, str t => s == t
  | bytes s, bytes t => s == t
  | date d, date e => d == e
  | dateTime t, dateTime u => t == u
  | list items, list others => beqAll items others
  | pair a b, pair c d => beq a c && beq b d
  | set members, set others => beqAll members others
  | map entries, map others => beqEntries entries others
  | listAgain, listAgain => true
  | mapAgain, mapAgain => true
  | _, _ => false

/-- Are the values of the lists equal one by one? -/
def beqAll : List Value → List Value → Bool
  | [], [] => true
  | v :: rest, w :: others => beq v w && beqAll rest others
  | _, _ => false

/-- Are the entries equal one by one? -/
def beqEntries : List (Value × Value) → List (Value × Value) → Bool
  | [], [] => true
  | (k, v) :: rest, (l, w) :: others => beq k l && (beq v w && beqEntries rest others)
  | _, _ => false

end

mutual

theorem beq_iff : (v w : Value) → v.beq w = true ↔ v = w
  | null, w => by cases w <;> simp [beq]
  | bool _, w => by cases w <;> simp [beq]
  | int _, w => by cases w <;> simp [beq]
  | float _, w => by cases w <;> simp [beq]
  | str _, w => by cases w <;> simp [beq]
  | bytes _, w => by cases w <;> simp [beq]
  | date _, w => by cases w <;> simp [beq]
  | dateTime _, w => by cases w <;> simp [beq]
  | list items, w => by cases w <;> simp [beq, beqAll_iff items]
  | pair a b, w => by cases w <;> simp [beq, beq_iff a, beq_iff b]
  | set members, w => by cases w <;> simp [beq, beqAll_iff members]
  | map entries, w => by cases w <;> simp [beq, beqEntries_iff entries]
  | listAgain, w => by cases w <;> simp [beq]
  | mapAgain, w => by cases w <;> simp [beq]

theorem beqAll_iff : (items others : List Value) → beqAll items others = true ↔ items = others
  | [], others => by cases others <;> simp [beqAll]
  | v :: rest, others => by
    cases others <;> simp [beqAll, beq_iff v, beqAll_iff rest]

theorem beqEntries_iff :
    (entries others : List (Value × Value)) → beqEntries entries others = true ↔ entries = others
  | [], others => by cases others <;> simp [beqEntries]
  | (k, v) :: rest, others => by
    cases others <;>
      simp [beqEntries, beq_iff k, beq_iff v, beqEntries_iff rest, Prod.ext_iff,
        and_assoc]

end

instance : DecidableEq Value :=
  fun v w => decidable_of_iff (v.beq w = true) (beq_iff v w)

end Value

deriving instance DecidableEq for OptionsError, EntryFault, EntryError, SettingsError

end Substitution
