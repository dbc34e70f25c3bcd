import Substitution.Proofs.Template.Faults
import Substitution.Proofs.Text.Quoted

/-!
# The message of a fault tells the fault

The message of a malformed template says all there is to say about it: what is wrong, where, and in
which template. Nothing of this is lost in the wording, although characters and numbers that come
from the template stand between the words: the message can be read from the front
(`Substitution.Template.SyntaxError.message_injective`).

The words say by their beginning which kind of fault it is
(`Substitution.Template.SyntaxFault.take_opening`). What such a fault shows comes next: a
numeral, which ends at the first character that is none of its digits, and a quoted character, which
the numeral before it has already told. So the words of a fault are told from what stands behind
them (`Substitution.Template.SyntaxFault.message_append_inj`). The place is a numeral once more, and
the template is quoted.
-/

namespace Substitution

namespace Template

namespace SyntaxFault

/-- The kind of a fault. -/
def kind : SyntaxFault → Fin 5
  | trailingEscape => 0
  | illegalEscape _ => 1
  | missingBrace _ => 2
  | invalidReference true => 3
  | invalidReference false => 4

/-- The words for a kind of faults, up to what such a fault shows. -/
def opening : Fin 5 → Text
  | 0 => "Illegal trailing backslash".toList
  | 1 => "Escape can only contain backslash or dollar sign, not U+".toList
  | 2 => "Expected closing curly brace for $\x7b".toList
  | 3 => "Expected $\x7b123\x7d style numeric identifier inside $\x7b...\x7d".toList
  | 4 => "Expected $123 or $\x7b123\x7d style number after dollar sign".toList

/-- What a fault shows, and the words behind it. -/
def shown : SyntaxFault → Text
  | illegalEscape c => Text.hexUpper 4 c.toNat ++ ' ' :: Text.quoted [c]
  | missingBrace n => Text.decimal n ++ '\x7d' :: " identifier".toList
  | _ => []

theorem message_eq (f : SyntaxFault) : f.message = opening f.kind ++ f.shown := by
  rcases f with _ | c | n | _ | _
  · decide
  · change opening 1 ++ Text.hexUpper 4 c.toNat ++ [' '] ++ Text.quoted [c] =
      opening 1 ++ (Text.hexUpper 4 c.toNat ++ ([' '] ++ Text.quoted [c]))
    rw [List.append_assoc, List.append_assoc]
  · have hbrace : "\x7d identifier".toList = '\x7d' :: " identifier".toList := by decide
    change opening 2 ++ Text.decimal n ++ "\x7d identifier".toList =
      opening 2 ++ (Text.decimal n ++ '\x7d' :: " identifier".toList)
    rw [hbrace, List.append_assoc]
  · decide
  · decide

/-- The first eleven characters tell the kind. -/
theorem take_opening : (∀ k, 11 ≤ (opening k).length) ∧
    ∀ k k', (opening k).take 11 = (opening k').take 11 → k = k' := by
  decide +kernel

/-- Two faults of one kind differ only in what they show. -/
theorem of_kind_eq {f f' : SyntaxFault} (h : f.kind = f'.kind) :
    f = f' ∨ (∃ c c', f = illegalEscape c ∧ f' = illegalEscape c') ∨
      ∃ n n', f = missingBrace n ∧ f' = missingBrace n' := by
  rcases f with _ | c | n | _ | _ <;> rcases f' with _ | c' | n' | _ | _ <;>
    first
    | exact .inl rfl
    | exact .inr (.inl ⟨c, c', rfl, rfl⟩)
    | exact .inr (.inr ⟨n, n', rfl, rfl⟩)
    | cases h

/-- **The words for a fault end where they end**: they are told from what stands behind them. -/
theorem message_append_inj {f f' : SyntaxFault} {rest rest' : Text}
    (h : f.message ++ rest = f'.message ++ rest') : f = f' ∧ rest = rest' := by
  rw [message_eq, message_eq, List.append_assoc, List.append_assoc] at h
  have htake := congrArg (List.take 11) h
  rw [List.take_append_of_le_length (take_opening.1 _),
    List.take_append_of_le_length (take_opening.1 _)] at htake
  rcases of_kind_eq (take_opening.2 _ _ htake) with rfl | ⟨c, c', rfl, rfl⟩ | ⟨n, n', rfl, rfl⟩
  · exact ⟨rfl, List.append_cancel_left (List.append_cancel_left h)⟩
  · -- The code point tells the character, and then both are followed by the same.
    rw [kind, kind, shown, shown, List.append_assoc, List.append_assoc] at h
    obtain ⟨hcode, hrest⟩ := Text.append_cons_inj (Text.space_not_mem_hexUpper _ _)
      (Text.space_not_mem_hexUpper _ _) (List.append_cancel_left h)
    have hvalue := congrArg Text.ofHex hcode
    rw [Text.ofHex_hexUpper, Text.ofHex_hexUpper] at hvalue
    obtain rfl : c = c' := Char.toNat_inj.mp hvalue
    exact ⟨rfl, List.append_cancel_left hrest⟩
  · rw [kind, kind, shown, shown, List.append_assoc, List.append_assoc] at h
    obtain ⟨hnumber, hrest⟩ := Text.append_cons_inj (Text.not_mem_decimal (by decide))
      (Text.not_mem_decimal (by decide)) (List.append_cancel_left h)
    obtain rfl : n = n' := Text.decimal_injective hnumber
    exact ⟨rfl, List.append_cancel_left hrest⟩

end SyntaxFault

/-- **A message tells the fault, its place and the template.** -/
theorem SyntaxError.message_injective : Function.Injective SyntaxError.message := by
  have hin : " in ".toList = ' ' :: "in ".toList := by decide
  rintro ⟨t, position, f⟩ ⟨t', position', f'⟩ h
  simp only [SyntaxError.message, List.append_assoc, hin, List.cons_append] at h
  obtain ⟨rfl, hplace⟩ := SyntaxFault.message_append_inj h
  obtain ⟨hposition, hrest⟩ := Text.append_cons_inj (Text.not_mem_decimal (by decide))
    (Text.not_mem_decimal (by decide)) (List.append_cancel_left hplace)
  obtain rfl : position = position' := Text.decimal_injective hposition
  have hquoted := List.append_cancel_right (List.append_cancel_left hrest)
  rw [Text.quoted_injective hquoted]

/-- The fault of a malformed text is about this text. -/
theorem template_of_malformed {t : Text} {e : SyntaxError} (h : compile t = .error (.malformed e)) :
    e.template = t := by
  obtain ⟨u, rest, finished, r, rfl, -, -, he⟩ := exists_stops_of_malformed h
  rw [he]

/-- **No two malformed texts have the same message.** Two texts whose messages are equal are equal
themselves, and they have the same fault, with all that it shows, at the same place. -/
theorem eq_of_message_eq {t t' : Text} {e e' : SyntaxError}
    (h : compile t = .error (.malformed e)) (h' : compile t' = .error (.malformed e'))
    (hmessage : (Error.malformed e).message = (Error.malformed e').message) :
    t = t' ∧ e = e' := by
  have he : e = e' := SyntaxError.message_injective hmessage
  refine ⟨?_, he⟩
  rw [← template_of_malformed h, ← template_of_malformed h', he]

/-- A template with both kinds of quotes, and a quote where none may stand: the message quotes both
the character and the template, each in its own way. -/
theorem eq_of_message_eq_quotes :
    let t := "it's \\\"".toList
    let t' := "it's ".toList ++ "\\\"".toList
    let e : SyntaxError := ⟨t, 6, .illegalEscape '"'⟩
    let e' : SyntaxError := ⟨t', 6, .illegalEscape '"'⟩
    compile t = .error (.malformed e) ∧ compile t' = .error (.malformed e') ∧
      (Error.malformed e).message =
        ("Escape can only contain backslash or dollar sign, not U+0022 '\"' " ++
          "(at position 6 in 'it\\'s \\\\\"')").toList ∧
      t = t' ∧ e = e' := by
  intro t t' e e'
  have h : compile t = .error (.malformed e) := by decide
  have h' : compile t' = .error (.malformed e') := by decide
  have hmessage : (Error.malformed e).message = (Error.malformed e').message := by decide
  exact ⟨h, h', by decide +kernel, eq_of_message_eq h h' hmessage⟩

end Template

end Substitution
