import Substitution.Text.Basic

/-!
# Base 64

Bytes written with sixty-four characters, three bytes as four characters. Characters that are none
of them are skipped; the reading ends where a last group of four is filled up with equal signs.
-/

namespace Substitution

namespace Text

/-- The six bits that a character stands for. -/
def sextet? (c : Char) : Option Nat :=
  if 'A' ≤ c && c ≤ 'Z' then some (c.toNat - 'A'.toNat)
  else if 'a' ≤ c && c ≤ 'z' then some (c.toNat - 'a'.toNat + 26)
  else if '0' ≤ c && c ≤ '9' then some (c.toNat - '0'.toNat + 52)
  else if c = '+' then some 62
  else if c = '/' then some 63
  else none

/-- Reads on after `filled` characters of a group, of which `carry` are the bits that belong to the
next byte, and after `pads` equal signs. -/
def decodeGroups : (filled carry pads : Nat) → Text → Option (List UInt8)
  | 0, _, _, [] => some []
  | _ + 1, _, _, [] => none
  | filled, carry, pads, c :: rest =>
    if c = '=' then
      if 2 ≤ filled then
        if 3 ≤ filled + pads then some [] else decodeGroups filled carry (pads + 1) rest
      else decodeGroups filled carry pads rest
    else match sextet? c with
      | none => decodeGroups filled carry pads rest
      | some bits =>
        match filled with
        | 0 => decodeGroups 1 bits 0 rest
        | 1 => (decodeGroups 2 (bits % 16) 0 rest).map (UInt8.ofNat (carry * 4 + bits / 16) :: ·)
        | 2 => (decodeGroups 3 (bits % 4) 0 rest).map (UInt8.ofNat (carry * 16 + bits / 4) :: ·)
        | _ => (decodeGroups 0 0 0 rest).map (UInt8.ofNat (carry * 64 + bits) :: ·)

/-- The bytes that a text writes in base 64, unless its last group is incomplete. -/
def decodeBase64 (t : Text) : Option (List UInt8) :=
  decodeGroups 0 0 0 t

end Text

end Substitution
