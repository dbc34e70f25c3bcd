import Mathlib.Data.UInt
import Substitution.Text.Utf8

/-!
# What is encoded is read back

The bytes that encode a text in UTF-8 are read as this text
(`Substitution.Text.decodeUtf8_encode`). A character of the text has one to four bytes; the lemmas
here read one of them each: the first byte says how many follow
(`Substitution.Text.following?_ofNat`), the second one lies in a range that depends on the first
(`Substitution.Text.mem_secondRange`), and each byte after the first adds six bits
(`Substitution.Text.decodeRest_byte`).
-/

namespace Substitution

namespace Text

/-- The bytes that encode a text. -/
def encodeUtf8 (t : Text) : List UInt8 :=
  t.flatMap String.utf8EncodeChar

/-! ### Single bytes -/

theorem toNat_byte {n : Nat} (h : n < 256) : (UInt8.ofNat n).toNat = n :=
  UInt8.toNat_ofNat'.trans (Nat.mod_eq_of_lt h)

theorem following?_ofNat {n : Nat} (h : n < 256) :
    following? (UInt8.ofNat n) =
      if n < 0x80 then some 0
      else if n < 0xC2 then none
      else if n < 0xE0 then some 1
      else if n < 0xF0 then some 2
      else if n < 0xF5 then some 3
      else none := by
  simp only [following?, UInt8.lt_iff_toNat_lt, toNat_byte h]
  rfl

/-- The second byte of a character lies in the range that its first byte asks for. -/
theorem mem_secondRange {first second : Nat} (h : first < 256) (hmin : 0x80 ≤ second)
    (hmax : second ≤ 0xBF) (hE0 : first = 0xE0 → 0xA0 ≤ second)
    (hED : first = 0xED → second ≤ 0x9F) (hF0 : first = 0xF0 → 0x90 ≤ second)
    (hF4 : first = 0xF4 → second ≤ 0x8F) :
    (secondRange (UInt8.ofNat first)).1.toNat ≤ second ∧
      second ≤ (secondRange (UInt8.ofNat first)).2.toNat := by
  have hfirst {b : UInt8} (hb : UInt8.ofNat first = b) : first = b.toNat := by
    rw [← hb, toNat_byte h]
  unfold secondRange
  split
  · next hb => exact ⟨hE0 (hfirst hb), hmax⟩
  split
  · next hb => exact ⟨hmin, hED (hfirst hb)⟩
  split
  · next hb => exact ⟨hF0 (hfirst hb), hmax⟩
  split
  · next hb => exact ⟨hmin, hF4 (hfirst hb)⟩
  · exact ⟨hmin, hmax⟩

/-- **A byte that continues a character** adds six bits to it. -/
theorem decodeRest_byte {first : UInt8} {start taken code wanted n : Nat} {range : UInt8 × UInt8}
    {more : List UInt8} (hn : n < 256) (h : range.1.toNat ≤ n ∧ n ≤ range.2.toNat) :
    decodeRest first start taken code (wanted + 1) range (UInt8.ofNat n :: more) =
      decodeRest first start (taken + 1) (code * 64 + n % 64) wanted (0x80, 0xBF) more := by
  have hrange : range.1 ≤ UInt8.ofNat n ∧ UInt8.ofNat n ≤ range.2 := by
    rw [UInt8.le_iff_toNat_le, UInt8.le_iff_toNat_le, toNat_byte hn]
    exact h
  rw [decodeRest, if_pos hrange, toNat_byte hn]

/-- A byte behind the first two of a character lies in the range of all such bytes. -/
theorem decodeRest_last {first : UInt8} {start taken code wanted n : Nat} {more : List UInt8}
    (hmin : 0x80 ≤ n) (hmax : n ≤ 0xBF) :
    decodeRest first start taken code (wanted + 1) (0x80, 0xBF) (UInt8.ofNat n :: more) =
      decodeRest first start (taken + 1) (code * 64 + n % 64) wanted (0x80, 0xBF) more :=
  decodeRest_byte (by omega) ⟨hmin, hmax⟩

/-- The value bits of a first byte. -/
theorem leadBits_ofNat {n : Nat} (h : n < 256) (following : Nat) :
    leadBits (UInt8.ofNat n) following =
      if following = 0 then n else n % Nat.pow 2 (6 - following) := by
  rw [leadBits, toNat_byte h]

/-! ### Characters -/

/-- **The bytes of a character are read as this character**, whatever follows. -/
theorem decodeRest_char (c : Char) :
    ∃ first rest following, String.utf8EncodeChar c = first :: rest ∧
      following? first = some following ∧
      ∀ start more, ∃ taken range,
        decodeRest first start 1 (leadBits first following) following (secondRange first)
          (rest ++ more) = decodeRest first start taken c.toNat 0 range more := by
  have hvalid : c.toNat < 0xD800 ∨ (0xDFFF < c.toNat ∧ c.toNat < 0x110000) := c.valid
  have hcode : c.val.toNat = c.toNat := rfl
  unfold String.utf8EncodeChar
  rw [hcode]
  generalize c.toNat = v at *
  dsimp only
  -- One to four bytes; in each case their bits have to add up to the value again.
  split
  · refine ⟨_, _, 0, rfl, ?_, fun start more => ⟨1, secondRange (UInt8.ofNat v), ?_⟩⟩
    · rw [following?_ofNat (by omega), if_pos (by omega)]
    · rw [leadBits_ofNat (by omega), if_pos rfl]
      rfl
  split
  · refine ⟨_, _, 1, rfl, ?_, fun start more => ⟨2, (0x80, 0xBF), ?_⟩⟩
    · rw [following?_ofNat (by omega), if_neg (by omega), if_neg (by omega), if_pos (by omega)]
    · rw [leadBits_ofNat (by omega), if_neg (by decide), List.singleton_append,
        decodeRest_byte (by omega) (mem_secondRange (by omega) (by omega) (by omega) (by omega)
          (by omega) (by omega) (by omega))]
      congr 1
      change (v / 64 % 32 + 192) % 32 * 64 + (v % 64 + 128) % 64 = v
      omega
  split
  · refine ⟨_, _, 2, rfl, ?_, fun start more => ⟨3, (0x80, 0xBF), ?_⟩⟩
    · rw [following?_ofNat (by omega), if_neg (by omega), if_neg (by omega), if_neg (by omega),
        if_pos (by omega)]
    · rw [leadBits_ofNat (by omega), if_neg (by decide), List.cons_append, List.singleton_append,
        decodeRest_byte (by omega) (mem_secondRange (by omega) (by omega) (by omega) (by omega)
          (by omega) (by omega) (by omega)), decodeRest_last (by omega) (by omega)]
      congr 1
      change ((v / 4096 % 16 + 224) % 16 * 64 + (v / 64 % 64 + 128) % 64) * 64 +
        (v % 64 + 128) % 64 = v
      omega
  · refine ⟨_, _, 3, rfl, ?_, fun start more => ⟨4, (0x80, 0xBF), ?_⟩⟩
    · rw [following?_ofNat (by omega), if_neg (by omega), if_neg (by omega), if_neg (by omega),
        if_neg (by omega), if_pos (by omega)]
    · rw [leadBits_ofNat (by omega), if_neg (by decide), List.cons_append, List.cons_append,
        List.singleton_append,
        decodeRest_byte (by omega) (mem_secondRange (by omega) (by omega) (by omega) (by omega)
          (by omega) (by omega) (by omega)), decodeRest_last (by omega) (by omega),
        decodeRest_last (by omega) (by omega)]
      congr 1
      change (((v / 262144 % 8 + 240) % 8 * 64 + (v / 4096 % 64 + 128) % 64) * 64 +
        (v / 64 % 64 + 128) % 64) * 64 + (v % 64 + 128) % 64 = v
      omega

/-! ### Texts -/

/-- Behind a character that has been read, a text is read from its bytes. -/
theorem decodeRest_encode (t : Text) (first : UInt8) (start taken code : Nat)
    (range : UInt8 × UInt8) :
    decodeRest first start taken code 0 range (encodeUtf8 t) = .ok (Char.ofNat code :: t) := by
  induction t generalizing first start taken code range with
  | nil => rfl
  | cons c rest ih =>
    obtain ⟨b, others, following, hbytes, hfollowing, hchar⟩ := decodeRest_char c
    obtain ⟨taken', range', hread⟩ := hchar (start + taken) (encodeUtf8 rest)
    rw [encodeUtf8, List.flatMap_cons, hbytes, List.cons_append, decodeRest, hfollowing]
    dsimp only
    rw [← encodeUtf8, hread, ih, Char.ofNat_toNat]
    rfl

/-- **What is encoded is read back.** -/
theorem decodeUtf8_encode (t : Text) : decodeUtf8 (encodeUtf8 t) = .ok t := by
  cases t with
  | nil => rfl
  | cons c rest =>
    obtain ⟨b, others, following, hbytes, hfollowing, hchar⟩ := decodeRest_char c
    obtain ⟨taken, range, hread⟩ := hchar 0 (encodeUtf8 rest)
    rw [encodeUtf8, List.flatMap_cons, hbytes, List.cons_append, decodeUtf8, hfollowing]
    dsimp only
    rw [← encodeUtf8, hread, decodeRest_encode, Char.ofNat_toNat]

/-- A text without carriage returns has its line ends unified. -/
theorem unifyLines_eq_self {t : Text} (h : '\r' ∉ t) : unifyLines t = t := by
  induction t with
  | nil => rfl
  | cons c rest ih =>
    obtain ⟨hc, hrest⟩ := not_or.mp (mt List.mem_cons.mpr h)
    unfold unifyLines
    split
    · next heq => cases heq
    · next heq => exact absurd (List.cons.inj heq).1.symm hc
    · next heq =>
      obtain ⟨rfl, rfl⟩ := List.cons.inj heq
      rw [if_neg (Ne.symm hc), ih hrest]

end Text

end Substitution
