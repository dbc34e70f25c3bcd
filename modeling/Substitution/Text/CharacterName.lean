import Substitution.Text.Basic
import Substitution.Text.CharacterName.Letters
import Substitution.Text.CharacterName.Pictographs
import Substitution.Text.CharacterName.Signs

/-!
# Names of characters

Characters by the names that Unicode 14 gives them, in any letter case: letters of the European
scripts, Hebrew, Arabic and Japanese letters, punctuation, signs and pictographs, the controls by
their usual names, and the ideographs and syllables whose names follow from their code points. The
names of other scripts are not known here.
-/

namespace Substitution

namespace Text

/-- Further names of single characters. -/
def otherNames : Array String := #[
  "0 NULL",
  "0 NUL",
  "1 SOH",
  "1 START OF HEADING",
  "2 STX",
  "2 START OF TEXT",
  "3 ETX",
  "3 END OF TEXT",
  "4 EOT",
  "4 END OF TRANSMISSION",
  "5 ENQ",
  "5 ENQUIRY",
  "6 ACK",
  "6 ACKNOWLEDGE",
  "7 ALERT",
  "7 BEL",
  "8 BACKSPACE",
  "8 BS",
  "9 HT",
  "9 TAB",
  "9 CHARACTER TABULATION",
  "9 HORIZONTAL TABULATION",
  "A LF",
  "A NL",
  "A EOL",
  "A LINE FEED",
  "A NEW LINE",
  "A END OF LINE",
  "B VT",
  "B LINE TABULATION",
  "B VERTICAL TABULATION",
  "C FF",
  "C FORM FEED",
  "D CR",
  "D CARRIAGE RETURN",
  "E SO",
  "E SHIFT OUT",
  "E LOCKING-SHIFT ONE",
  "F SI",
  "F SHIFT IN",
  "F LOCKING-SHIFT ZERO",
  "10 DLE",
  "10 DATA LINK ESCAPE",
  "11 DC1",
  "11 DEVICE CONTROL ONE",
  "12 DC2",
  "12 DEVICE CONTROL TWO",
  "13 DC3",
  "13 DEVICE CONTROL THREE",
  "14 DC4",
  "14 DEVICE CONTROL FOUR",
  "15 NAK",
  "15 NEGATIVE ACKNOWLEDGE",
  "16 SYN",
  "16 SYNCHRONOUS IDLE",
  "17 ETB",
  "17 END OF TRANSMISSION BLOCK",
  "18 CANCEL",
  "18 CAN",
  "19 EOM",
  "19 END OF MEDIUM",
  "1A SUBSTITUTE",
  "1A SUB",
  "1B ESCAPE",
  "1B ESC",
  "1C FS",
  "1C INFORMATION SEPARATOR FOUR",
  "1C FILE SEPARATOR",
  "1D GS",
  "1D INFORMATION SEPARATOR THREE",
  "1D GROUP SEPARATOR",
  "1E RS",
  "1E INFORMATION SEPARATOR TWO",
  "1E RECORD SEPARATOR",
  "1F US",
  "1F INFORMATION SEPARATOR ONE",
  "1F UNIT SEPARATOR",
  "20 SP",
  "7F DELETE",
  "7F DEL",
  "80 PAD",
  "80 PADDING CHARACTER",
  "81 HOP",
  "81 HIGH OCTET PRESET",
  "82 BPH",
  "82 BREAK PERMITTED HERE",
  "83 NBH",
  "83 NO BREAK HERE",
  "84 INDEX",
  "84 IND",
  "85 NEL",
  "85 NEXT LINE",
  "86 SSA",
  "86 START OF SELECTED AREA",
  "87 ESA",
  "87 END OF SELECTED AREA",
  "88 HTS",
  "88 CHARACTER TABULATION SET",
  "88 HORIZONTAL TABULATION SET",
  "89 HTJ",
  "89 CHARACTER TABULATION WITH JUSTIFICATION",
  "89 HORIZONTAL TABULATION WITH JUSTIFICATION",
  "8A VTS",
  "8A LINE TABULATION SET",
  "8A VERTICAL TABULATION SET",
  "8B PLD",
  "8B PARTIAL LINE FORWARD",
  "8B PARTIAL LINE DOWN",
  "8C PLU",
  "8C PARTIAL LINE BACKWARD",
  "8C PARTIAL LINE UP",
  "8D RI",
  "8D REVERSE LINE FEED",
  "8D REVERSE INDEX",
  "8E SS2",
  "8E SINGLE SHIFT TWO",
  "8E SINGLE-SHIFT-2",
  "8F SS3",
  "8F SINGLE SHIFT THREE",
  "8F SINGLE-SHIFT-3",
  "90 DCS",
  "90 DEVICE CONTROL STRING",
  "91 PU1",
  "91 PRIVATE USE ONE",
  "91 PRIVATE USE-1",
  "92 PU2",
  "92 PRIVATE USE TWO",
  "92 PRIVATE USE-2",
  "93 STS",
  "93 SET TRANSMIT STATE",
  "94 CCH",
  "94 CANCEL CHARACTER",
  "95 MW",
  "95 MESSAGE WAITING",
  "96 SPA",
  "96 START OF GUARDED AREA",
  "96 START OF PROTECTED AREA",
  "97 EPA",
  "97 END OF GUARDED AREA",
  "97 END OF PROTECTED AREA",
  "98 SOS",
  "98 START OF STRING",
  "99 SGC",
  "99 SINGLE GRAPHIC CHARACTER INTRODUCER",
  "9A SCI",
  "9A SINGLE CHARACTER INTRODUCER",
  "9B CSI",
  "9B CONTROL SEQUENCE INTRODUCER",
  "9C ST",
  "9C STRING TERMINATOR",
  "9D OSC",
  "9D OPERATING SYSTEM COMMAND",
  "9E PM",
  "9E PRIVACY MESSAGE",
  "9F APC",
  "9F APPLICATION PROGRAM COMMAND",
  "A0 NBSP",
  "AD SHY",
  "1A2 LATIN CAPITAL LETTER GHA",
  "1A3 LATIN SMALL LETTER GHA",
  "34F CGJ",
  "61C ALM",
  "200B ZWSP",
  "200C ZWNJ",
  "200D ZWJ",
  "200E LRM",
  "200F RLM",
  "202A LRE",
  "202B RLE",
  "202C PDF",
  "202D LRO",
  "202E RLO",
  "202F NNBSP",
  "205F MMSP",
  "2060 WJ",
  "2066 LRI",
  "2067 RLI",
  "2068 FSI",
  "2069 PDI",
  "2118 WEIERSTRASS ELLIPTIC FUNCTION",
  "FE00 VS1",
  "FE01 VS2",
  "FE02 VS3",
  "FE03 VS4",
  "FE04 VS5",
  "FE05 VS6",
  "FE06 VS7",
  "FE07 VS8",
  "FE08 VS9",
  "FE09 VS10",
  "FE0A VS11",
  "FE0B VS12",
  "FE0C VS13",
  "FE0D VS14",
  "FE0E VS15",
  "FE0F VS16",
  "FEFF BOM",
  "FEFF ZWNBSP",
  "FEFF BYTE ORDER MARK"]

/-- The place of a name among names between semicolons. -/
def indexOfName? (name names : Text) : Option Nat :=
  (splitAtEach ';' names).findIdx? (· == name)

/-- The code point of a name in a run of names. -/
def inNameRun? (name : Text) (run : String) : Option Nat :=
  let digits := run.toList.takeWhile (· != ' ')
  (indexOfName? name (run.toList.drop (digits.length + 1))).map (ofHex digits + ·)

/-- The ranges of the ideographs that are named by their code points. -/
def ideographRanges : List (Nat × Nat) := [
  (0x3400, 0x4DBF), (0x4E00, 0x9FFF), (0x20000, 0x2A6DF), (0x2A700, 0x2B738), (0x2B740, 0x2B81D),
  (0x2B820, 0x2CEA1), (0x2CEB0, 0x2EBE0), (0x30000, 0x3134A)]

/-- The text after a beginning that it has. -/
def dropStart? (start t : Text) : Option Text :=
  if start.isPrefixOf t then some (t.drop start.length) else none

/-- The ideograph with a name. -/
def ideographNamed? (name : Text) : Option Nat := do
  let digits ← dropStart? "CJK UNIFIED IDEOGRAPH-".toList name
  if (digits.length = 4 ∨ digits.length = 5) ∧
      digits.all fun c => ('0' ≤ c && c ≤ '9') || ('A' ≤ c && c ≤ 'F') then
    let code := ofHex digits
    if ideographRanges.any fun r => r.1 ≤ code && code ≤ r.2 then some code else none
  else none

/-- The consonants that begin a syllable. -/
def leadNames : List String :=
  ["G", "GG", "N", "D", "DD", "R", "M", "B", "BB", "S", "SS", "", "J", "JJ", "C", "K", "T", "P",
    "H"]

/-- The vowels of a syllable. -/
def vowelNames : List String :=
  ["A", "AE", "YA", "YAE", "EO", "E", "YEO", "YE", "O", "WA", "WAE", "OE", "YO", "U", "WEO", "WE",
    "WI", "YU", "EU", "YI", "I"]

/-- The consonants that end a syllable. -/
def tailNames : List String :=
  ["", "G", "GG", "GS", "N", "NJ", "NH", "D", "L", "LG", "LM", "LB", "LS", "LT", "LP", "LH", "M",
    "B", "BS", "S", "SS", "NG", "J", "C", "K", "T", "P", "H"]

/-- The rests of a text after each of the sounds with which it can begin, with the place of the
sound. -/
def soundsAt (names : List String) (t : Text) : List (Nat × Text) :=
  names.zipIdx.filterMap fun (sound, i) => (dropStart? sound.toList t).map fun rest => (i, rest)

/-- The syllable with a name. -/
def syllableNamed? (name : Text) : Option Nat := do
  let sounds ← dropStart? "HANGUL SYLLABLE ".toList name
  let whole := (soundsAt leadNames sounds).flatMap fun (lead, rest) =>
    (soundsAt vowelNames rest).flatMap fun (vowel, rest) =>
      (soundsAt tailNames rest).filterMap fun (tail, rest) =>
        if rest.isEmpty then some (0xAC00 + (lead * 21 + vowel) * 28 + tail) else none
  whole.head?

/-- The code point with the given name. -/
def characterNamed? (name : Text) : Option Nat :=
  let capitals := name.map Char.toUpper
  ([letterNames, signNames, pictographNames, otherNames].findSome? fun runs =>
    runs.findSome? (inNameRun? capitals)).or ((ideographNamed? name).or (syllableNamed? name))

end Text

end Substitution
