/-!
# Names of letters

Letters and marks of the European scripts, Hebrew, Arabic and Japanese, and signs among them.
-/

namespace Substitution

namespace Text

/-- Runs of letters: the code point of the first one in hexadecimal digits, and the names in order.
-/
def letterNames : Array String := #[
  "20 SPACE;EXCLAMATION MARK;QUOTATION MARK;NUMBER SIGN;DOLLAR SIGN;PERCENT SIGN;AMPERSAND",
  "27 APOSTROPHE;LEFT PARENTHESIS;RIGHT PARENTHESIS;ASTERISK;PLUS SIGN;COMMA;HYPHEN-MINUS",
  "2E FULL STOP;SOLIDUS;DIGIT ZERO;DIGIT ONE;DIGIT TWO;DIGIT THREE;DIGIT FOUR;DIGIT FIVE",
  "36 DIGIT SIX;DIGIT SEVEN;DIGIT EIGHT;DIGIT NINE;COLON;SEMICOLON;LESS-THAN SIGN;EQUALS SIGN",
  "3E GREATER-THAN SIGN;QUESTION MARK;COMMERCIAL AT;LATIN CAPITAL LETTER A",
  "42 LATIN CAPITAL LETTER B;LATIN CAPITAL LETTER C;LATIN CAPITAL LETTER D",
  "45 LATIN CAPITAL LETTER E;LATIN CAPITAL LETTER F;LATIN CAPITAL LETTER G",
  "48 LATIN CAPITAL LETTER H;LATIN CAPITAL LETTER I;LATIN CAPITAL LETTER J",
  "4B LATIN CAPITAL LETTER K;LATIN CAPITAL LETTER L;LATIN CAPITAL LETTER M",
  "4E LATIN CAPITAL LETTER N;LATIN CAPITAL LETTER O;LATIN CAPITAL LETTER P",
  "51 LATIN CAPITAL LETTER Q;LATIN CAPITAL LETTER R;LATIN CAPITAL LETTER S",
  "54 LATIN CAPITAL LETTER T;LATIN CAPITAL LETTER U;LATIN CAPITAL LETTER V",
  "57 LATIN CAPITAL LETTER W;LATIN CAPITAL LETTER X;LATIN CAPITAL LETTER Y",
  "5A LATIN CAPITAL LETTER Z;LEFT SQUARE BRACKET;REVERSE SOLIDUS;RIGHT SQUARE BRACKET",
  "5E CIRCUMFLEX ACCENT;LOW LINE;GRAVE ACCENT;LATIN SMALL LETTER A;LATIN SMALL LETTER B",
  "63 LATIN SMALL LETTER C;LATIN SMALL LETTER D;LATIN SMALL LETTER E;LATIN SMALL LETTER F",
  "67 LATIN SMALL LETTER G;LATIN SMALL LETTER H;LATIN SMALL LETTER I;LATIN SMALL LETTER J",
  "6B LATIN SMALL LETTER K;LATIN SMALL LETTER L;LATIN SMALL LETTER M;LATIN SMALL LETTER N",
  "6F LATIN SMALL LETTER O;LATIN SMALL LETTER P;LATIN SMALL LETTER Q;LATIN SMALL LETTER R",
  "73 LATIN SMALL LETTER S;LATIN SMALL LETTER T;LATIN SMALL LETTER U;LATIN SMALL LETTER V",
  "77 LATIN SMALL LETTER W;LATIN SMALL LETTER X;LATIN SMALL LETTER Y;LATIN SMALL LETTER Z",
  "7B LEFT CURLY BRACKET;VERTICAL LINE;RIGHT CURLY BRACKET;TILDE",
  "A0 NO-BREAK SPACE;INVERTED EXCLAMATION MARK;CENT SIGN;POUND SIGN;CURRENCY SIGN;YEN SIGN",
  "A6 BROKEN BAR;SECTION SIGN;DIAERESIS;COPYRIGHT SIGN;FEMININE ORDINAL INDICATOR",
  "AB LEFT-POINTING DOUBLE ANGLE QUOTATION MARK;NOT SIGN;SOFT HYPHEN;REGISTERED SIGN;MACRON",
  "B0 DEGREE SIGN;PLUS-MINUS SIGN;SUPERSCRIPT TWO;SUPERSCRIPT THREE;ACUTE ACCENT;MICRO SIGN",
  "B6 PILCROW SIGN;MIDDLE DOT;CEDILLA;SUPERSCRIPT ONE;MASCULINE ORDINAL INDICATOR",
  "BB RIGHT-POINTING DOUBLE ANGLE QUOTATION MARK;VULGAR FRACTION ONE QUARTER",
  "BD VULGAR FRACTION ONE HALF;VULGAR FRACTION THREE QUARTERS;INVERTED QUESTION MARK",
  "C0 LATIN CAPITAL LETTER A WITH GRAVE;LATIN CAPITAL LETTER A WITH ACUTE",
  "C2 LATIN CAPITAL LETTER A WITH CIRCUMFLEX;LATIN CAPITAL LETTER A WITH TILDE",
  "C4 LATIN CAPITAL LETTER A WITH DIAERESIS;LATIN CAPITAL LETTER A WITH RING ABOVE",
  "C6 LATIN CAPITAL LETTER AE;LATIN CAPITAL LETTER C WITH CEDILLA",
  "C8 LATIN CAPITAL LETTER E WITH GRAVE;LATIN CAPITAL LETTER E WITH ACUTE",
  "CA LATIN CAPITAL LETTER E WITH CIRCUMFLEX;LATIN CAPITAL LETTER E WITH DIAERESIS",
  "CC LATIN CAPITAL LETTER I WITH GRAVE;LATIN CAPITAL LETTER I WITH ACUTE",
  "CE LATIN CAPITAL LETTER I WITH CIRCUMFLEX;LATIN CAPITAL LETTER I WITH DIAERESIS",
  "D0 LATIN CAPITAL LETTER ETH;LATIN CAPITAL LETTER N WITH TILDE",
  "D2 LATIN CAPITAL LETTER O WITH GRAVE;LATIN CAPITAL LETTER O WITH ACUTE",
  "D4 LATIN CAPITAL LETTER O WITH CIRCUMFLEX;LATIN CAPITAL LETTER O WITH TILDE",
  "D6 LATIN CAPITAL LETTER O WITH DIAERESIS;MULTIPLICATION SIGN",
  "D8 LATIN CAPITAL LETTER O WITH STROKE;LATIN CAPITAL LETTER U WITH GRAVE",
  "DA LATIN CAPITAL LETTER U WITH ACUTE;LATIN CAPITAL LETTER U WITH CIRCUMFLEX",
  "DC LATIN CAPITAL LETTER U WITH DIAERESIS;LATIN CAPITAL LETTER Y WITH ACUTE",
  "DE LATIN CAPITAL LETTER THORN;LATIN SMALL LETTER SHARP S;LATIN SMALL LETTER A WITH GRAVE",
  "E1 LATIN SMALL LETTER A WITH ACUTE;LATIN SMALL LETTER A WITH CIRCUMFLEX",
  "E3 LATIN SMALL LETTER A WITH TILDE;LATIN SMALL LETTER A WITH DIAERESIS",
  "E5 LATIN SMALL LETTER A WITH RING ABOVE;LATIN SMALL LETTER AE",
  "E7 LATIN SMALL LETTER C WITH CEDILLA;LATIN SMALL LETTER E WITH GRAVE",
  "E9 LATIN SMALL LETTER E WITH ACUTE;LATIN SMALL LETTER E WITH CIRCUMFLEX",
  "EB LATIN SMALL LETTER E WITH DIAERESIS;LATIN SMALL LETTER I WITH GRAVE",
  "ED LATIN SMALL LETTER I WITH ACUTE;LATIN SMALL LETTER I WITH CIRCUMFLEX",
  "EF LATIN SMALL LETTER I WITH DIAERESIS;LATIN SMALL LETTER ETH",
  "F1 LATIN SMALL LETTER N WITH TILDE;LATIN SMALL LETTER O WITH GRAVE",
  "F3 LATIN SMALL LETTER O WITH ACUTE;LATIN SMALL LETTER O WITH CIRCUMFLEX",
  "F5 LATIN SMALL LETTER O WITH TILDE;LATIN SMALL LETTER O WITH DIAERESIS;DIVISION SIGN",
  "F8 LATIN SMALL LETTER O WITH STROKE;LATIN SMALL LETTER U WITH GRAVE",
  "FA LATIN SMALL LETTER U WITH ACUTE;LATIN SMALL LETTER U WITH CIRCUMFLEX",
  "FC LATIN SMALL LETTER U WITH DIAERESIS;LATIN SMALL LETTER Y WITH ACUTE",
  "FE LATIN SMALL LETTER THORN;LATIN SMALL LETTER Y WITH DIAERESIS",
  "100 LATIN CAPITAL LETTER A WITH MACRON;LATIN SMALL LETTER A WITH MACRON",
  "102 LATIN CAPITAL LETTER A WITH BREVE;LATIN SMALL LETTER A WITH BREVE",
  "104 LATIN CAPITAL LETTER A WITH OGONEK;LATIN SMALL LETTER A WITH OGONEK",
  "106 LATIN CAPITAL LETTER C WITH ACUTE;LATIN SMALL LETTER C WITH ACUTE",
  "108 LATIN CAPITAL LETTER C WITH CIRCUMFLEX;LATIN SMALL LETTER C WITH CIRCUMFLEX",
  "10A LATIN CAPITAL LETTER C WITH DOT ABOVE;LATIN SMALL LETTER C WITH DOT ABOVE",
  "10C LATIN CAPITAL LETTER C WITH CARON;LATIN SMALL LETTER C WITH CARON",
  "10E LATIN CAPITAL LETTER D WITH CARON;LATIN SMALL LETTER D WITH CARON",
  "110 LATIN CAPITAL LETTER D WITH STROKE;LATIN SMALL LETTER D WITH STROKE",
  "112 LATIN CAPITAL LETTER E WITH MACRON;LATIN SMALL LETTER E WITH MACRON",
  "114 LATIN CAPITAL LETTER E WITH BREVE;LATIN SMALL LETTER E WITH BREVE",
  "116 LATIN CAPITAL LETTER E WITH DOT ABOVE;LATIN SMALL LETTER E WITH DOT ABOVE",
  "118 LATIN CAPITAL LETTER E WITH OGONEK;LATIN SMALL LETTER E WITH OGONEK",
  "11A LATIN CAPITAL LETTER E WITH CARON;LATIN SMALL LETTER E WITH CARON",
  "11C LATIN CAPITAL LETTER G WITH CIRCUMFLEX;LATIN SMALL LETTER G WITH CIRCUMFLEX",
  "11E LATIN CAPITAL LETTER G WITH BREVE;LATIN SMALL LETTER G WITH BREVE",
  "120 LATIN CAPITAL LETTER G WITH DOT ABOVE;LATIN SMALL LETTER G WITH DOT ABOVE",
  "122 LATIN CAPITAL LETTER G WITH CEDILLA;LATIN SMALL LETTER G WITH CEDILLA",
  "124 LATIN CAPITAL LETTER H WITH CIRCUMFLEX;LATIN SMALL LETTER H WITH CIRCUMFLEX",
  "126 LATIN CAPITAL LETTER H WITH STROKE;LATIN SMALL LETTER H WITH STROKE",
  "128 LATIN CAPITAL LETTER I WITH TILDE;LATIN SMALL LETTER I WITH TILDE",
  "12A LATIN CAPITAL LETTER I WITH MACRON;LATIN SMALL LETTER I WITH MACRON",
  "12C LATIN CAPITAL LETTER I WITH BREVE;LATIN SMALL LETTER I WITH BREVE",
  "12E LATIN CAPITAL LETTER I WITH OGONEK;LATIN SMALL LETTER I WITH OGONEK",
  "130 LATIN CAPITAL LETTER I WITH DOT ABOVE;LATIN SMALL LETTER DOTLESS I",
  "132 LATIN CAPITAL LIGATURE IJ;LATIN SMALL LIGATURE IJ;LATIN CAPITAL LETTER J WITH CIRCUMFLEX",
  "135 LATIN SMALL LETTER J WITH CIRCUMFLEX;LATIN CAPITAL LETTER K WITH CEDILLA",
  "137 LATIN SMALL LETTER K WITH CEDILLA;LATIN SMALL LETTER KRA",
  "139 LATIN CAPITAL LETTER L WITH ACUTE;LATIN SMALL LETTER L WITH ACUTE",
  "13B LATIN CAPITAL LETTER L WITH CEDILLA;LATIN SMALL LETTER L WITH CEDILLA",
  "13D LATIN CAPITAL LETTER L WITH CARON;LATIN SMALL LETTER L WITH CARON",
  "13F LATIN CAPITAL LETTER L WITH MIDDLE DOT;LATIN SMALL LETTER L WITH MIDDLE DOT",
  "141 LATIN CAPITAL LETTER L WITH STROKE;LATIN SMALL LETTER L WITH STROKE",
  "143 LATIN CAPITAL LETTER N WITH ACUTE;LATIN SMALL LETTER N WITH ACUTE",
  "145 LATIN CAPITAL LETTER N WITH CEDILLA;LATIN SMALL LETTER N WITH CEDILLA",
  "147 LATIN CAPITAL LETTER N WITH CARON;LATIN SMALL LETTER N WITH CARON",
  "149 LATIN SMALL LETTER N PRECEDED BY APOSTROPHE;LATIN CAPITAL LETTER ENG",
  "14B LATIN SMALL LETTER ENG;LATIN CAPITAL LETTER O WITH MACRON",
  "14D LATIN SMALL LETTER O WITH MACRON;LATIN CAPITAL LETTER O WITH BREVE",
  "14F LATIN SMALL LETTER O WITH BREVE;LATIN CAPITAL LETTER O WITH DOUBLE ACUTE",
  "151 LATIN SMALL LETTER O WITH DOUBLE ACUTE;LATIN CAPITAL LIGATURE OE;LATIN SMALL LIGATURE OE",
  "154 LATIN CAPITAL LETTER R WITH ACUTE;LATIN SMALL LETTER R WITH ACUTE",
  "156 LATIN CAPITAL LETTER R WITH CEDILLA;LATIN SMALL LETTER R WITH CEDILLA",
  "158 LATIN CAPITAL LETTER R WITH CARON;LATIN SMALL LETTER R WITH CARON",
  "15A LATIN CAPITAL LETTER S WITH ACUTE;LATIN SMALL LETTER S WITH ACUTE",
  "15C LATIN CAPITAL LETTER S WITH CIRCUMFLEX;LATIN SMALL LETTER S WITH CIRCUMFLEX",
  "15E LATIN CAPITAL LETTER S WITH CEDILLA;LATIN SMALL LETTER S WITH CEDILLA",
  "160 LATIN CAPITAL LETTER S WITH CARON;LATIN SMALL LETTER S WITH CARON",
  "162 LATIN CAPITAL LETTER T WITH CEDILLA;LATIN SMALL LETTER T WITH CEDILLA",
  "164 LATIN CAPITAL LETTER T WITH CARON;LATIN SMALL LETTER T WITH CARON",
  "166 LATIN CAPITAL LETTER T WITH STROKE;LATIN SMALL LETTER T WITH STROKE",
  "168 LATIN CAPITAL LETTER U WITH TILDE;LATIN SMALL LETTER U WITH TILDE",
  "16A LATIN CAPITAL LETTER U WITH MACRON;LATIN SMALL LETTER U WITH MACRON",
  "16C LATIN CAPITAL LETTER U WITH BREVE;LATIN SMALL LETTER U WITH BREVE",
  "16E LATIN CAPITAL LETTER U WITH RING ABOVE;LATIN SMALL LETTER U WITH RING ABOVE",
  "170 LATIN CAPITAL LETTER U WITH DOUBLE ACUTE;LATIN SMALL LETTER U WITH DOUBLE ACUTE",
  "172 LATIN CAPITAL LETTER U WITH OGONEK;LATIN SMALL LETTER U WITH OGONEK",
  "174 LATIN CAPITAL LETTER W WITH CIRCUMFLEX;LATIN SMALL LETTER W WITH CIRCUMFLEX",
  "176 LATIN CAPITAL LETTER Y WITH CIRCUMFLEX;LATIN SMALL LETTER Y WITH CIRCUMFLEX",
  "178 LATIN CAPITAL LETTER Y WITH DIAERESIS;LATIN CAPITAL LETTER Z WITH ACUTE",
  "17A LATIN SMALL LETTER Z WITH ACUTE;LATIN CAPITAL LETTER Z WITH DOT ABOVE",
  "17C LATIN SMALL LETTER Z WITH DOT ABOVE;LATIN CAPITAL LETTER Z WITH CARON",
  "17E LATIN SMALL LETTER Z WITH CARON;LATIN SMALL LETTER LONG S",
  "180 LATIN SMALL LETTER B WITH STROKE;LATIN CAPITAL LETTER B WITH HOOK",
  "182 LATIN CAPITAL LETTER B WITH TOPBAR;LATIN SMALL LETTER B WITH TOPBAR",
  "184 LATIN CAPITAL LETTER TONE SIX;LATIN SMALL LETTER TONE SIX;LATIN CAPITAL LETTER OPEN O",
  "187 LATIN CAPITAL LETTER C WITH HOOK;LATIN SMALL LETTER C WITH HOOK",
  "189 LATIN CAPITAL LETTER AFRICAN D;LATIN CAPITAL LETTER D WITH HOOK",
  "18B LATIN CAPITAL LETTER D WITH TOPBAR;LATIN SMALL LETTER D WITH TOPBAR",
  "18D LATIN SMALL LETTER TURNED DELTA;LATIN CAPITAL LETTER REVERSED E",
  "18F LATIN CAPITAL LETTER SCHWA;LATIN CAPITAL LETTER OPEN E;LATIN CAPITAL LETTER F WITH HOOK",
  "192 LATIN SMALL LETTER F WITH HOOK;LATIN CAPITAL LETTER G WITH HOOK",
  "194 LATIN CAPITAL LETTER GAMMA;LATIN SMALL LETTER HV;LATIN CAPITAL LETTER IOTA",
  "197 LATIN CAPITAL LETTER I WITH STROKE;LATIN CAPITAL LETTER K WITH HOOK",
  "199 LATIN SMALL LETTER K WITH HOOK;LATIN SMALL LETTER L WITH BAR",
  "19B LATIN SMALL LETTER LAMBDA WITH STROKE;LATIN CAPITAL LETTER TURNED M",
  "19D LATIN CAPITAL LETTER N WITH LEFT HOOK;LATIN SMALL LETTER N WITH LONG RIGHT LEG",
  "19F LATIN CAPITAL LETTER O WITH MIDDLE TILDE;LATIN CAPITAL LETTER O WITH HORN",
  "1A1 LATIN SMALL LETTER O WITH HORN;LATIN CAPITAL LETTER OI;LATIN SMALL LETTER OI",
  "1A4 LATIN CAPITAL LETTER P WITH HOOK;LATIN SMALL LETTER P WITH HOOK;LATIN LETTER YR",
  "1A7 LATIN CAPITAL LETTER TONE TWO;LATIN SMALL LETTER TONE TWO;LATIN CAPITAL LETTER ESH",
  "1AA LATIN LETTER REVERSED ESH LOOP;LATIN SMALL LETTER T WITH PALATAL HOOK",
  "1AC LATIN CAPITAL LETTER T WITH HOOK;LATIN SMALL LETTER T WITH HOOK",
  "1AE LATIN CAPITAL LETTER T WITH RETROFLEX HOOK;LATIN CAPITAL LETTER U WITH HORN",
  "1B0 LATIN SMALL LETTER U WITH HORN;LATIN CAPITAL LETTER UPSILON",
  "1B2 LATIN CAPITAL LETTER V WITH HOOK;LATIN CAPITAL LETTER Y WITH HOOK",
  "1B4 LATIN SMALL LETTER Y WITH HOOK;LATIN CAPITAL LETTER Z WITH STROKE",
  "1B6 LATIN SMALL LETTER Z WITH STROKE;LATIN CAPITAL LETTER EZH",
  "1B8 LATIN CAPITAL LETTER EZH REVERSED;LATIN SMALL LETTER EZH REVERSED",
  "1BA LATIN SMALL LETTER EZH WITH TAIL;LATIN LETTER TWO WITH STROKE",
  "1BC LATIN CAPITAL LETTER TONE FIVE;LATIN SMALL LETTER TONE FIVE",
  "1BE LATIN LETTER INVERTED GLOTTAL STOP WITH STROKE;LATIN LETTER WYNN",
  "1C0 LATIN LETTER DENTAL CLICK;LATIN LETTER LATERAL CLICK;LATIN LETTER ALVEOLAR CLICK",
  "1C3 LATIN LETTER RETROFLEX CLICK;LATIN CAPITAL LETTER DZ WITH CARON",
  "1C5 LATIN CAPITAL LETTER D WITH SMALL LETTER Z WITH CARON;LATIN SMALL LETTER DZ WITH CARON",
  "1C7 LATIN CAPITAL LETTER LJ;LATIN CAPITAL LETTER L WITH SMALL LETTER J;LATIN SMALL LETTER LJ",
  "1CA LATIN CAPITAL LETTER NJ;LATIN CAPITAL LETTER N WITH SMALL LETTER J;LATIN SMALL LETTER NJ",
  "1CD LATIN CAPITAL LETTER A WITH CARON;LATIN SMALL LETTER A WITH CARON",
  "1CF LATIN CAPITAL LETTER I WITH CARON;LATIN SMALL LETTER I WITH CARON",
  "1D1 LATIN CAPITAL LETTER O WITH CARON;LATIN SMALL LETTER O WITH CARON",
  "1D3 LATIN CAPITAL LETTER U WITH CARON;LATIN SMALL LETTER U WITH CARON",
  "1D5 LATIN CAPITAL LETTER U WITH DIAERESIS AND MACRON",
  "1D6 LATIN SMALL LETTER U WITH DIAERESIS AND MACRON",
  "1D7 LATIN CAPITAL LETTER U WITH DIAERESIS AND ACUTE",
  "1D8 LATIN SMALL LETTER U WITH DIAERESIS AND ACUTE",
  "1D9 LATIN CAPITAL LETTER U WITH DIAERESIS AND CARON",
  "1DA LATIN SMALL LETTER U WITH DIAERESIS AND CARON",
  "1DB LATIN CAPITAL LETTER U WITH DIAERESIS AND GRAVE",
  "1DC LATIN SMALL LETTER U WITH DIAERESIS AND GRAVE;LATIN SMALL LETTER TURNED E",
  "1DE LATIN CAPITAL LETTER A WITH DIAERESIS AND MACRON",
  "1DF LATIN SMALL LETTER A WITH DIAERESIS AND MACRON",
  "1E0 LATIN CAPITAL LETTER A WITH DOT ABOVE AND MACRON",
  "1E1 LATIN SMALL LETTER A WITH DOT ABOVE AND MACRON;LATIN CAPITAL LETTER AE WITH MACRON",
  "1E3 LATIN SMALL LETTER AE WITH MACRON;LATIN CAPITAL LETTER G WITH STROKE",
  "1E5 LATIN SMALL LETTER G WITH STROKE;LATIN CAPITAL LETTER G WITH CARON",
  "1E7 LATIN SMALL LETTER G WITH CARON;LATIN CAPITAL LETTER K WITH CARON",
  "1E9 LATIN SMALL LETTER K WITH CARON;LATIN CAPITAL LETTER O WITH OGONEK",
  "1EB LATIN SMALL LETTER O WITH OGONEK;LATIN CAPITAL LETTER O WITH OGONEK AND MACRON",
  "1ED LATIN SMALL LETTER O WITH OGONEK AND MACRON;LATIN CAPITAL LETTER EZH WITH CARON",
  "1EF LATIN SMALL LETTER EZH WITH CARON;LATIN SMALL LETTER J WITH CARON",
  "1F1 LATIN CAPITAL LETTER DZ;LATIN CAPITAL LETTER D WITH SMALL LETTER Z;LATIN SMALL LETTER DZ",
  "1F4 LATIN CAPITAL LETTER G WITH ACUTE;LATIN SMALL LETTER G WITH ACUTE",
  "1F6 LATIN CAPITAL LETTER HWAIR;LATIN CAPITAL LETTER WYNN;LATIN CAPITAL LETTER N WITH GRAVE",
  "1F9 LATIN SMALL LETTER N WITH GRAVE;LATIN CAPITAL LETTER A WITH RING ABOVE AND ACUTE",
  "1FB LATIN SMALL LETTER A WITH RING ABOVE AND ACUTE;LATIN CAPITAL LETTER AE WITH ACUTE",
  "1FD LATIN SMALL LETTER AE WITH ACUTE;LATIN CAPITAL LETTER O WITH STROKE AND ACUTE",
  "1FF LATIN SMALL LETTER O WITH STROKE AND ACUTE;LATIN CAPITAL LETTER A WITH DOUBLE GRAVE",
  "201 LATIN SMALL LETTER A WITH DOUBLE GRAVE;LATIN CAPITAL LETTER A WITH INVERTED BREVE",
  "203 LATIN SMALL LETTER A WITH INVERTED BREVE;LATIN CAPITAL LETTER E WITH DOUBLE GRAVE",
  "205 LATIN SMALL LETTER E WITH DOUBLE GRAVE;LATIN CAPITAL LETTER E WITH INVERTED BREVE",
  "207 LATIN SMALL LETTER E WITH INVERTED BREVE;LATIN CAPITAL LETTER I WITH DOUBLE GRAVE",
  "209 LATIN SMALL LETTER I WITH DOUBLE GRAVE;LATIN CAPITAL LETTER I WITH INVERTED BREVE",
  "20B LATIN SMALL LETTER I WITH INVERTED BREVE;LATIN CAPITAL LETTER O WITH DOUBLE GRAVE",
  "20D LATIN SMALL LETTER O WITH DOUBLE GRAVE;LATIN CAPITAL LETTER O WITH INVERTED BREVE",
  "20F LATIN SMALL LETTER O WITH INVERTED BREVE;LATIN CAPITAL LETTER R WITH DOUBLE GRAVE",
  "211 LATIN SMALL LETTER R WITH DOUBLE GRAVE;LATIN CAPITAL LETTER R WITH INVERTED BREVE",
  "213 LATIN SMALL LETTER R WITH INVERTED BREVE;LATIN CAPITAL LETTER U WITH DOUBLE GRAVE",
  "215 LATIN SMALL LETTER U WITH DOUBLE GRAVE;LATIN CAPITAL LETTER U WITH INVERTED BREVE",
  "217 LATIN SMALL LETTER U WITH INVERTED BREVE;LATIN CAPITAL LETTER S WITH COMMA BELOW",
  "219 LATIN SMALL LETTER S WITH COMMA BELOW;LATIN CAPITAL LETTER T WITH COMMA BELOW",
  "21B LATIN SMALL LETTER T WITH COMMA BELOW;LATIN CAPITAL LETTER YOGH;LATIN SMALL LETTER YOGH",
  "21E LATIN CAPITAL LETTER H WITH CARON;LATIN SMALL LETTER H WITH CARON",
  "220 LATIN CAPITAL LETTER N WITH LONG RIGHT LEG;LATIN SMALL LETTER D WITH CURL",
  "222 LATIN CAPITAL LETTER OU;LATIN SMALL LETTER OU;LATIN CAPITAL LETTER Z WITH HOOK",
  "225 LATIN SMALL LETTER Z WITH HOOK;LATIN CAPITAL LETTER A WITH DOT ABOVE",
  "227 LATIN SMALL LETTER A WITH DOT ABOVE;LATIN CAPITAL LETTER E WITH CEDILLA",
  "229 LATIN SMALL LETTER E WITH CEDILLA;LATIN CAPITAL LETTER O WITH DIAERESIS AND MACRON",
  "22B LATIN SMALL LETTER O WITH DIAERESIS AND MACRON",
  "22C LATIN CAPITAL LETTER O WITH TILDE AND MACRON;LATIN SMALL LETTER O WITH TILDE AND MACRON",
  "22E LATIN CAPITAL LETTER O WITH DOT ABOVE;LATIN SMALL LETTER O WITH DOT ABOVE",
  "230 LATIN CAPITAL LETTER O WITH DOT ABOVE AND MACRON",
  "231 LATIN SMALL LETTER O WITH DOT ABOVE AND MACRON;LATIN CAPITAL LETTER Y WITH MACRON",
  "233 LATIN SMALL LETTER Y WITH MACRON;LATIN SMALL LETTER L WITH CURL",
  "235 LATIN SMALL LETTER N WITH CURL;LATIN SMALL LETTER T WITH CURL",
  "237 LATIN SMALL LETTER DOTLESS J;LATIN SMALL LETTER DB DIGRAPH;LATIN SMALL LETTER QP DIGRAPH",
  "23A LATIN CAPITAL LETTER A WITH STROKE;LATIN CAPITAL LETTER C WITH STROKE",
  "23C LATIN SMALL LETTER C WITH STROKE;LATIN CAPITAL LETTER L WITH BAR",
  "23E LATIN CAPITAL LETTER T WITH DIAGONAL STROKE;LATIN SMALL LETTER S WITH SWASH TAIL",
  "240 LATIN SMALL LETTER Z WITH SWASH TAIL;LATIN CAPITAL LETTER GLOTTAL STOP",
  "242 LATIN SMALL LETTER GLOTTAL STOP;LATIN CAPITAL LETTER B WITH STROKE",
  "244 LATIN CAPITAL LETTER U BAR;LATIN CAPITAL LETTER TURNED V",
  "246 LATIN CAPITAL LETTER E WITH STROKE;LATIN SMALL LETTER E WITH STROKE",
  "248 LATIN CAPITAL LETTER J WITH STROKE;LATIN SMALL LETTER J WITH STROKE",
  "24A LATIN CAPITAL LETTER SMALL Q WITH HOOK TAIL;LATIN SMALL LETTER Q WITH HOOK TAIL",
  "24C LATIN CAPITAL LETTER R WITH STROKE;LATIN SMALL LETTER R WITH STROKE",
  "24E LATIN CAPITAL LETTER Y WITH STROKE;LATIN SMALL LETTER Y WITH STROKE",
  "250 LATIN SMALL LETTER TURNED A;LATIN SMALL LETTER ALPHA;LATIN SMALL LETTER TURNED ALPHA",
  "253 LATIN SMALL LETTER B WITH HOOK;LATIN SMALL LETTER OPEN O;LATIN SMALL LETTER C WITH CURL",
  "256 LATIN SMALL LETTER D WITH TAIL;LATIN SMALL LETTER D WITH HOOK",
  "258 LATIN SMALL LETTER REVERSED E;LATIN SMALL LETTER SCHWA",
  "25A LATIN SMALL LETTER SCHWA WITH HOOK;LATIN SMALL LETTER OPEN E",
  "25C LATIN SMALL LETTER REVERSED OPEN E;LATIN SMALL LETTER REVERSED OPEN E WITH HOOK",
  "25E LATIN SMALL LETTER CLOSED REVERSED OPEN E;LATIN SMALL LETTER DOTLESS J WITH STROKE",
  "260 LATIN SMALL LETTER G WITH HOOK;LATIN SMALL LETTER SCRIPT G;LATIN LETTER SMALL CAPITAL G",
  "263 LATIN SMALL LETTER GAMMA;LATIN SMALL LETTER RAMS HORN;LATIN SMALL LETTER TURNED H",
  "266 LATIN SMALL LETTER H WITH HOOK;LATIN SMALL LETTER HENG WITH HOOK",
  "268 LATIN SMALL LETTER I WITH STROKE;LATIN SMALL LETTER IOTA;LATIN LETTER SMALL CAPITAL I",
  "26B LATIN SMALL LETTER L WITH MIDDLE TILDE;LATIN SMALL LETTER L WITH BELT",
  "26D LATIN SMALL LETTER L WITH RETROFLEX HOOK;LATIN SMALL LETTER LEZH",
  "26F LATIN SMALL LETTER TURNED M;LATIN SMALL LETTER TURNED M WITH LONG LEG",
  "271 LATIN SMALL LETTER M WITH HOOK;LATIN SMALL LETTER N WITH LEFT HOOK",
  "273 LATIN SMALL LETTER N WITH RETROFLEX HOOK;LATIN LETTER SMALL CAPITAL N",
  "275 LATIN SMALL LETTER BARRED O;LATIN LETTER SMALL CAPITAL OE",
  "277 LATIN SMALL LETTER CLOSED OMEGA;LATIN SMALL LETTER PHI;LATIN SMALL LETTER TURNED R",
  "27A LATIN SMALL LETTER TURNED R WITH LONG LEG;LATIN SMALL LETTER TURNED R WITH HOOK",
  "27C LATIN SMALL LETTER R WITH LONG LEG;LATIN SMALL LETTER R WITH TAIL",
  "27E LATIN SMALL LETTER R WITH FISHHOOK;LATIN SMALL LETTER REVERSED R WITH FISHHOOK",
  "280 LATIN LETTER SMALL CAPITAL R;LATIN LETTER SMALL CAPITAL INVERTED R",
  "282 LATIN SMALL LETTER S WITH HOOK;LATIN SMALL LETTER ESH",
  "284 LATIN SMALL LETTER DOTLESS J WITH STROKE AND HOOK;LATIN SMALL LETTER SQUAT REVERSED ESH",
  "286 LATIN SMALL LETTER ESH WITH CURL;LATIN SMALL LETTER TURNED T",
  "288 LATIN SMALL LETTER T WITH RETROFLEX HOOK;LATIN SMALL LETTER U BAR",
  "28A LATIN SMALL LETTER UPSILON;LATIN SMALL LETTER V WITH HOOK;LATIN SMALL LETTER TURNED V",
  "28D LATIN SMALL LETTER TURNED W;LATIN SMALL LETTER TURNED Y;LATIN LETTER SMALL CAPITAL Y",
  "290 LATIN SMALL LETTER Z WITH RETROFLEX HOOK;LATIN SMALL LETTER Z WITH CURL",
  "292 LATIN SMALL LETTER EZH;LATIN SMALL LETTER EZH WITH CURL;LATIN LETTER GLOTTAL STOP",
  "295 LATIN LETTER PHARYNGEAL VOICED FRICATIVE;LATIN LETTER INVERTED GLOTTAL STOP",
  "297 LATIN LETTER STRETCHED C;LATIN LETTER BILABIAL CLICK;LATIN LETTER SMALL CAPITAL B",
  "29A LATIN SMALL LETTER CLOSED OPEN E;LATIN LETTER SMALL CAPITAL G WITH HOOK",
  "29C LATIN LETTER SMALL CAPITAL H;LATIN SMALL LETTER J WITH CROSSED-TAIL",
  "29E LATIN SMALL LETTER TURNED K;LATIN LETTER SMALL CAPITAL L;LATIN SMALL LETTER Q WITH HOOK",
  "2A1 LATIN LETTER GLOTTAL STOP WITH STROKE;LATIN LETTER REVERSED GLOTTAL STOP WITH STROKE",
  "2A3 LATIN SMALL LETTER DZ DIGRAPH;LATIN SMALL LETTER DEZH DIGRAPH",
  "2A5 LATIN SMALL LETTER DZ DIGRAPH WITH CURL;LATIN SMALL LETTER TS DIGRAPH",
  "2A7 LATIN SMALL LETTER TESH DIGRAPH;LATIN SMALL LETTER TC DIGRAPH WITH CURL",
  "2A9 LATIN SMALL LETTER FENG DIGRAPH;LATIN SMALL LETTER LS DIGRAPH",
  "2AB LATIN SMALL LETTER LZ DIGRAPH;LATIN LETTER BILABIAL PERCUSSIVE",
  "2AD LATIN LETTER BIDENTAL PERCUSSIVE;LATIN SMALL LETTER TURNED H WITH FISHHOOK",
  "2AF LATIN SMALL LETTER TURNED H WITH FISHHOOK AND TAIL;MODIFIER LETTER SMALL H",
  "2B1 MODIFIER LETTER SMALL H WITH HOOK;MODIFIER LETTER SMALL J;MODIFIER LETTER SMALL R",
  "2B4 MODIFIER LETTER SMALL TURNED R;MODIFIER LETTER SMALL TURNED R WITH HOOK",
  "2B6 MODIFIER LETTER SMALL CAPITAL INVERTED R;MODIFIER LETTER SMALL W;MODIFIER LETTER SMALL Y",
  "2B9 MODIFIER LETTER PRIME;MODIFIER LETTER DOUBLE PRIME;MODIFIER LETTER TURNED COMMA",
  "2BC MODIFIER LETTER APOSTROPHE;MODIFIER LETTER REVERSED COMMA",
  "2BE MODIFIER LETTER RIGHT HALF RING;MODIFIER LETTER LEFT HALF RING",
  "2C0 MODIFIER LETTER GLOTTAL STOP;MODIFIER LETTER REVERSED GLOTTAL STOP",
  "2C2 MODIFIER LETTER LEFT ARROWHEAD;MODIFIER LETTER RIGHT ARROWHEAD",
  "2C4 MODIFIER LETTER UP ARROWHEAD;MODIFIER LETTER DOWN ARROWHEAD",
  "2C6 MODIFIER LETTER CIRCUMFLEX ACCENT;CARON;MODIFIER LETTER VERTICAL LINE",
  "2C9 MODIFIER LETTER MACRON;MODIFIER LETTER ACUTE ACCENT;MODIFIER LETTER GRAVE ACCENT",
  "2CC MODIFIER LETTER LOW VERTICAL LINE;MODIFIER LETTER LOW MACRON",
  "2CE MODIFIER LETTER LOW GRAVE ACCENT;MODIFIER LETTER LOW ACUTE ACCENT",
  "2D0 MODIFIER LETTER TRIANGULAR COLON;MODIFIER LETTER HALF TRIANGULAR COLON",
  "2D2 MODIFIER LETTER CENTRED RIGHT HALF RING;MODIFIER LETTER CENTRED LEFT HALF RING",
  "2D4 MODIFIER LETTER UP TACK;MODIFIER LETTER DOWN TACK;MODIFIER LETTER PLUS SIGN",
  "2D7 MODIFIER LETTER MINUS SIGN;BREVE;DOT ABOVE;RING ABOVE;OGONEK;SMALL TILDE",
  "2DD DOUBLE ACUTE ACCENT;MODIFIER LETTER RHOTIC HOOK;MODIFIER LETTER CROSS ACCENT",
  "2E0 MODIFIER LETTER SMALL GAMMA;MODIFIER LETTER SMALL L;MODIFIER LETTER SMALL S",
  "2E3 MODIFIER LETTER SMALL X;MODIFIER LETTER SMALL REVERSED GLOTTAL STOP",
  "2E5 MODIFIER LETTER EXTRA-HIGH TONE BAR;MODIFIER LETTER HIGH TONE BAR",
  "2E7 MODIFIER LETTER MID TONE BAR;MODIFIER LETTER LOW TONE BAR",
  "2E9 MODIFIER LETTER EXTRA-LOW TONE BAR;MODIFIER LETTER YIN DEPARTING TONE MARK",
  "2EB MODIFIER LETTER YANG DEPARTING TONE MARK;MODIFIER LETTER VOICING",
  "2ED MODIFIER LETTER UNASPIRATED;MODIFIER LETTER DOUBLE APOSTROPHE",
  "2EF MODIFIER LETTER LOW DOWN ARROWHEAD;MODIFIER LETTER LOW UP ARROWHEAD",
  "2F1 MODIFIER LETTER LOW LEFT ARROWHEAD;MODIFIER LETTER LOW RIGHT ARROWHEAD",
  "2F3 MODIFIER LETTER LOW RING;MODIFIER LETTER MIDDLE GRAVE ACCENT",
  "2F5 MODIFIER LETTER MIDDLE DOUBLE GRAVE ACCENT;MODIFIER LETTER MIDDLE DOUBLE ACUTE ACCENT",
  "2F7 MODIFIER LETTER LOW TILDE;MODIFIER LETTER RAISED COLON;MODIFIER LETTER BEGIN HIGH TONE",
  "2FA MODIFIER LETTER END HIGH TONE;MODIFIER LETTER BEGIN LOW TONE",
  "2FC MODIFIER LETTER END LOW TONE;MODIFIER LETTER SHELF;MODIFIER LETTER OPEN SHELF",
  "2FF MODIFIER LETTER LOW LEFT ARROW;COMBINING GRAVE ACCENT;COMBINING ACUTE ACCENT",
  "302 COMBINING CIRCUMFLEX ACCENT;COMBINING TILDE;COMBINING MACRON;COMBINING OVERLINE",
  "306 COMBINING BREVE;COMBINING DOT ABOVE;COMBINING DIAERESIS;COMBINING HOOK ABOVE",
  "30A COMBINING RING ABOVE;COMBINING DOUBLE ACUTE ACCENT;COMBINING CARON",
  "30D COMBINING VERTICAL LINE ABOVE;COMBINING DOUBLE VERTICAL LINE ABOVE",
  "30F COMBINING DOUBLE GRAVE ACCENT;COMBINING CANDRABINDU;COMBINING INVERTED BREVE",
  "312 COMBINING TURNED COMMA ABOVE;COMBINING COMMA ABOVE;COMBINING REVERSED COMMA ABOVE",
  "315 COMBINING COMMA ABOVE RIGHT;COMBINING GRAVE ACCENT BELOW;COMBINING ACUTE ACCENT BELOW",
  "318 COMBINING LEFT TACK BELOW;COMBINING RIGHT TACK BELOW;COMBINING LEFT ANGLE ABOVE",
  "31B COMBINING HORN;COMBINING LEFT HALF RING BELOW;COMBINING UP TACK BELOW",
  "31E COMBINING DOWN TACK BELOW;COMBINING PLUS SIGN BELOW;COMBINING MINUS SIGN BELOW",
  "321 COMBINING PALATALIZED HOOK BELOW;COMBINING RETROFLEX HOOK BELOW;COMBINING DOT BELOW",
  "324 COMBINING DIAERESIS BELOW;COMBINING RING BELOW;COMBINING COMMA BELOW;COMBINING CEDILLA",
  "328 COMBINING OGONEK;COMBINING VERTICAL LINE BELOW;COMBINING BRIDGE BELOW",
  "32B COMBINING INVERTED DOUBLE ARCH BELOW;COMBINING CARON BELOW",
  "32D COMBINING CIRCUMFLEX ACCENT BELOW;COMBINING BREVE BELOW;COMBINING INVERTED BREVE BELOW",
  "330 COMBINING TILDE BELOW;COMBINING MACRON BELOW;COMBINING LOW LINE",
  "333 COMBINING DOUBLE LOW LINE;COMBINING TILDE OVERLAY;COMBINING SHORT STROKE OVERLAY",
  "336 COMBINING LONG STROKE OVERLAY;COMBINING SHORT SOLIDUS OVERLAY",
  "338 COMBINING LONG SOLIDUS OVERLAY;COMBINING RIGHT HALF RING BELOW",
  "33A COMBINING INVERTED BRIDGE BELOW;COMBINING SQUARE BELOW;COMBINING SEAGULL BELOW",
  "33D COMBINING X ABOVE;COMBINING VERTICAL TILDE;COMBINING DOUBLE OVERLINE",
  "340 COMBINING GRAVE TONE MARK;COMBINING ACUTE TONE MARK;COMBINING GREEK PERISPOMENI",
  "343 COMBINING GREEK KORONIS;COMBINING GREEK DIALYTIKA TONOS;COMBINING GREEK YPOGEGRAMMENI",
  "346 COMBINING BRIDGE ABOVE;COMBINING EQUALS SIGN BELOW;COMBINING DOUBLE VERTICAL LINE BELOW",
  "349 COMBINING LEFT ANGLE BELOW;COMBINING NOT TILDE ABOVE;COMBINING HOMOTHETIC ABOVE",
  "34C COMBINING ALMOST EQUAL TO ABOVE;COMBINING LEFT RIGHT ARROW BELOW",
  "34E COMBINING UPWARDS ARROW BELOW;COMBINING GRAPHEME JOINER;COMBINING RIGHT ARROWHEAD ABOVE",
  "351 COMBINING LEFT HALF RING ABOVE;COMBINING FERMATA;COMBINING X BELOW",
  "354 COMBINING LEFT ARROWHEAD BELOW;COMBINING RIGHT ARROWHEAD BELOW",
  "356 COMBINING RIGHT ARROWHEAD AND UP ARROWHEAD BELOW;COMBINING RIGHT HALF RING ABOVE",
  "358 COMBINING DOT ABOVE RIGHT;COMBINING ASTERISK BELOW;COMBINING DOUBLE RING BELOW",
  "35B COMBINING ZIGZAG ABOVE;COMBINING DOUBLE BREVE BELOW;COMBINING DOUBLE BREVE",
  "35E COMBINING DOUBLE MACRON;COMBINING DOUBLE MACRON BELOW;COMBINING DOUBLE TILDE",
  "361 COMBINING DOUBLE INVERTED BREVE;COMBINING DOUBLE RIGHTWARDS ARROW BELOW",
  "363 COMBINING LATIN SMALL LETTER A;COMBINING LATIN SMALL LETTER E",
  "365 COMBINING LATIN SMALL LETTER I;COMBINING LATIN SMALL LETTER O",
  "367 COMBINING LATIN SMALL LETTER U;COMBINING LATIN SMALL LETTER C",
  "369 COMBINING LATIN SMALL LETTER D;COMBINING LATIN SMALL LETTER H",
  "36B COMBINING LATIN SMALL LETTER M;COMBINING LATIN SMALL LETTER R",
  "36D COMBINING LATIN SMALL LETTER T;COMBINING LATIN SMALL LETTER V",
  "36F COMBINING LATIN SMALL LETTER X;GREEK CAPITAL LETTER HETA;GREEK SMALL LETTER HETA",
  "372 GREEK CAPITAL LETTER ARCHAIC SAMPI;GREEK SMALL LETTER ARCHAIC SAMPI;GREEK NUMERAL SIGN",
  "375 GREEK LOWER NUMERAL SIGN;GREEK CAPITAL LETTER PAMPHYLIAN DIGAMMA",
  "377 GREEK SMALL LETTER PAMPHYLIAN DIGAMMA",
  "37A GREEK YPOGEGRAMMENI;GREEK SMALL REVERSED LUNATE SIGMA SYMBOL",
  "37C GREEK SMALL DOTTED LUNATE SIGMA SYMBOL;GREEK SMALL REVERSED DOTTED LUNATE SIGMA SYMBOL",
  "37E GREEK QUESTION MARK;GREEK CAPITAL LETTER YOT",
  "384 GREEK TONOS;GREEK DIALYTIKA TONOS;GREEK CAPITAL LETTER ALPHA WITH TONOS;GREEK ANO TELEIA",
  "388 GREEK CAPITAL LETTER EPSILON WITH TONOS;GREEK CAPITAL LETTER ETA WITH TONOS",
  "38A GREEK CAPITAL LETTER IOTA WITH TONOS",
  "38C GREEK CAPITAL LETTER OMICRON WITH TONOS",
  "38E GREEK CAPITAL LETTER UPSILON WITH TONOS;GREEK CAPITAL LETTER OMEGA WITH TONOS",
  "390 GREEK SMALL LETTER IOTA WITH DIALYTIKA AND TONOS;GREEK CAPITAL LETTER ALPHA",
  "392 GREEK CAPITAL LETTER BETA;GREEK CAPITAL LETTER GAMMA;GREEK CAPITAL LETTER DELTA",
  "395 GREEK CAPITAL LETTER EPSILON;GREEK CAPITAL LETTER ZETA;GREEK CAPITAL LETTER ETA",
  "398 GREEK CAPITAL LETTER THETA;GREEK CAPITAL LETTER IOTA;GREEK CAPITAL LETTER KAPPA",
  "39B GREEK CAPITAL LETTER LAMDA;GREEK CAPITAL LETTER MU;GREEK CAPITAL LETTER NU",
  "39E GREEK CAPITAL LETTER XI;GREEK CAPITAL LETTER OMICRON;GREEK CAPITAL LETTER PI",
  "3A1 GREEK CAPITAL LETTER RHO",
  "3A3 GREEK CAPITAL LETTER SIGMA;GREEK CAPITAL LETTER TAU;GREEK CAPITAL LETTER UPSILON",
  "3A6 GREEK CAPITAL LETTER PHI;GREEK CAPITAL LETTER CHI;GREEK CAPITAL LETTER PSI",
  "3A9 GREEK CAPITAL LETTER OMEGA;GREEK CAPITAL LETTER IOTA WITH DIALYTIKA",
  "3AB GREEK CAPITAL LETTER UPSILON WITH DIALYTIKA;GREEK SMALL LETTER ALPHA WITH TONOS",
  "3AD GREEK SMALL LETTER EPSILON WITH TONOS;GREEK SMALL LETTER ETA WITH TONOS",
  "3AF GREEK SMALL LETTER IOTA WITH TONOS;GREEK SMALL LETTER UPSILON WITH DIALYTIKA AND TONOS",
  "3B1 GREEK SMALL LETTER ALPHA;GREEK SMALL LETTER BETA;GREEK SMALL LETTER GAMMA",
  "3B4 GREEK SMALL LETTER DELTA;GREEK SMALL LETTER EPSILON;GREEK SMALL LETTER ZETA",
  "3B7 GREEK SMALL LETTER ETA;GREEK SMALL LETTER THETA;GREEK SMALL LETTER IOTA",
  "3BA GREEK SMALL LETTER KAPPA;GREEK SMALL LETTER LAMDA;GREEK SMALL LETTER MU",
  "3BD GREEK SMALL LETTER NU;GREEK SMALL LETTER XI;GREEK SMALL LETTER OMICRON",
  "3C0 GREEK SMALL LETTER PI;GREEK SMALL LETTER RHO;GREEK SMALL LETTER FINAL SIGMA",
  "3C3 GREEK SMALL LETTER SIGMA;GREEK SMALL LETTER TAU;GREEK SMALL LETTER UPSILON",
  "3C6 GREEK SMALL LETTER PHI;GREEK SMALL LETTER CHI;GREEK SMALL LETTER PSI",
  "3C9 GREEK SMALL LETTER OMEGA;GREEK SMALL LETTER IOTA WITH DIALYTIKA",
  "3CB GREEK SMALL LETTER UPSILON WITH DIALYTIKA;GREEK SMALL LETTER OMICRON WITH TONOS",
  "3CD GREEK SMALL LETTER UPSILON WITH TONOS;GREEK SMALL LETTER OMEGA WITH TONOS",
  "3CF GREEK CAPITAL KAI SYMBOL;GREEK BETA SYMBOL;GREEK THETA SYMBOL",
  "3D2 GREEK UPSILON WITH HOOK SYMBOL;GREEK UPSILON WITH ACUTE AND HOOK SYMBOL",
  "3D4 GREEK UPSILON WITH DIAERESIS AND HOOK SYMBOL;GREEK PHI SYMBOL;GREEK PI SYMBOL",
  "3D7 GREEK KAI SYMBOL;GREEK LETTER ARCHAIC KOPPA;GREEK SMALL LETTER ARCHAIC KOPPA",
  "3DA GREEK LETTER STIGMA;GREEK SMALL LETTER STIGMA;GREEK LETTER DIGAMMA",
  "3DD GREEK SMALL LETTER DIGAMMA;GREEK LETTER KOPPA;GREEK SMALL LETTER KOPPA",
  "3E0 GREEK LETTER SAMPI;GREEK SMALL LETTER SAMPI;COPTIC CAPITAL LETTER SHEI",
  "3E3 COPTIC SMALL LETTER SHEI;COPTIC CAPITAL LETTER FEI;COPTIC SMALL LETTER FEI",
  "3E6 COPTIC CAPITAL LETTER KHEI;COPTIC SMALL LETTER KHEI;COPTIC CAPITAL LETTER HORI",
  "3E9 COPTIC SMALL LETTER HORI;COPTIC CAPITAL LETTER GANGIA;COPTIC SMALL LETTER GANGIA",
  "3EC COPTIC CAPITAL LETTER SHIMA;COPTIC SMALL LETTER SHIMA;COPTIC CAPITAL LETTER DEI",
  "3EF COPTIC SMALL LETTER DEI;GREEK KAPPA SYMBOL;GREEK RHO SYMBOL;GREEK LUNATE SIGMA SYMBOL",
  "3F3 GREEK LETTER YOT;GREEK CAPITAL THETA SYMBOL;GREEK LUNATE EPSILON SYMBOL",
  "3F6 GREEK REVERSED LUNATE EPSILON SYMBOL;GREEK CAPITAL LETTER SHO;GREEK SMALL LETTER SHO",
  "3F9 GREEK CAPITAL LUNATE SIGMA SYMBOL;GREEK CAPITAL LETTER SAN;GREEK SMALL LETTER SAN",
  "3FC GREEK RHO WITH STROKE SYMBOL;GREEK CAPITAL REVERSED LUNATE SIGMA SYMBOL",
  "3FE GREEK CAPITAL DOTTED LUNATE SIGMA SYMBOL",
  "3FF GREEK CAPITAL REVERSED DOTTED LUNATE SIGMA SYMBOL;CYRILLIC CAPITAL LETTER IE WITH GRAVE",
  "401 CYRILLIC CAPITAL LETTER IO;CYRILLIC CAPITAL LETTER DJE;CYRILLIC CAPITAL LETTER GJE",
  "404 CYRILLIC CAPITAL LETTER UKRAINIAN IE;CYRILLIC CAPITAL LETTER DZE",
  "406 CYRILLIC CAPITAL LETTER BYELORUSSIAN-UKRAINIAN I;CYRILLIC CAPITAL LETTER YI",
  "408 CYRILLIC CAPITAL LETTER JE;CYRILLIC CAPITAL LETTER LJE;CYRILLIC CAPITAL LETTER NJE",
  "40B CYRILLIC CAPITAL LETTER TSHE;CYRILLIC CAPITAL LETTER KJE",
  "40D CYRILLIC CAPITAL LETTER I WITH GRAVE;CYRILLIC CAPITAL LETTER SHORT U",
  "40F CYRILLIC CAPITAL LETTER DZHE;CYRILLIC CAPITAL LETTER A;CYRILLIC CAPITAL LETTER BE",
  "412 CYRILLIC CAPITAL LETTER VE;CYRILLIC CAPITAL LETTER GHE;CYRILLIC CAPITAL LETTER DE",
  "415 CYRILLIC CAPITAL LETTER IE;CYRILLIC CAPITAL LETTER ZHE;CYRILLIC CAPITAL LETTER ZE",
  "418 CYRILLIC CAPITAL LETTER I;CYRILLIC CAPITAL LETTER SHORT I;CYRILLIC CAPITAL LETTER KA",
  "41B CYRILLIC CAPITAL LETTER EL;CYRILLIC CAPITAL LETTER EM;CYRILLIC CAPITAL LETTER EN",
  "41E CYRILLIC CAPITAL LETTER O;CYRILLIC CAPITAL LETTER PE;CYRILLIC CAPITAL LETTER ER",
  "421 CYRILLIC CAPITAL LETTER ES;CYRILLIC CAPITAL LETTER TE;CYRILLIC CAPITAL LETTER U",
  "424 CYRILLIC CAPITAL LETTER EF;CYRILLIC CAPITAL LETTER HA;CYRILLIC CAPITAL LETTER TSE",
  "427 CYRILLIC CAPITAL LETTER CHE;CYRILLIC CAPITAL LETTER SHA;CYRILLIC CAPITAL LETTER SHCHA",
  "42A CYRILLIC CAPITAL LETTER HARD SIGN;CYRILLIC CAPITAL LETTER YERU",
  "42C CYRILLIC CAPITAL LETTER SOFT SIGN;CYRILLIC CAPITAL LETTER E;CYRILLIC CAPITAL LETTER YU",
  "42F CYRILLIC CAPITAL LETTER YA;CYRILLIC SMALL LETTER A;CYRILLIC SMALL LETTER BE",
  "432 CYRILLIC SMALL LETTER VE;CYRILLIC SMALL LETTER GHE;CYRILLIC SMALL LETTER DE",
  "435 CYRILLIC SMALL LETTER IE;CYRILLIC SMALL LETTER ZHE;CYRILLIC SMALL LETTER ZE",
  "438 CYRILLIC SMALL LETTER I;CYRILLIC SMALL LETTER SHORT I;CYRILLIC SMALL LETTER KA",
  "43B CYRILLIC SMALL LETTER EL;CYRILLIC SMALL LETTER EM;CYRILLIC SMALL LETTER EN",
  "43E CYRILLIC SMALL LETTER O;CYRILLIC SMALL LETTER PE;CYRILLIC SMALL LETTER ER",
  "441 CYRILLIC SMALL LETTER ES;CYRILLIC SMALL LETTER TE;CYRILLIC SMALL LETTER U",
  "444 CYRILLIC SMALL LETTER EF;CYRILLIC SMALL LETTER HA;CYRILLIC SMALL LETTER TSE",
  "447 CYRILLIC SMALL LETTER CHE;CYRILLIC SMALL LETTER SHA;CYRILLIC SMALL LETTER SHCHA",
  "44A CYRILLIC SMALL LETTER HARD SIGN;CYRILLIC SMALL LETTER YERU",
  "44C CYRILLIC SMALL LETTER SOFT SIGN;CYRILLIC SMALL LETTER E;CYRILLIC SMALL LETTER YU",
  "44F CYRILLIC SMALL LETTER YA;CYRILLIC SMALL LETTER IE WITH GRAVE;CYRILLIC SMALL LETTER IO",
  "452 CYRILLIC SMALL LETTER DJE;CYRILLIC SMALL LETTER GJE;CYRILLIC SMALL LETTER UKRAINIAN IE",
  "455 CYRILLIC SMALL LETTER DZE;CYRILLIC SMALL LETTER BYELORUSSIAN-UKRAINIAN I",
  "457 CYRILLIC SMALL LETTER YI;CYRILLIC SMALL LETTER JE;CYRILLIC SMALL LETTER LJE",
  "45A CYRILLIC SMALL LETTER NJE;CYRILLIC SMALL LETTER TSHE;CYRILLIC SMALL LETTER KJE",
  "45D CYRILLIC SMALL LETTER I WITH GRAVE;CYRILLIC SMALL LETTER SHORT U",
  "45F CYRILLIC SMALL LETTER DZHE;CYRILLIC CAPITAL LETTER OMEGA;CYRILLIC SMALL LETTER OMEGA",
  "462 CYRILLIC CAPITAL LETTER YAT;CYRILLIC SMALL LETTER YAT;CYRILLIC CAPITAL LETTER IOTIFIED E",
  "465 CYRILLIC SMALL LETTER IOTIFIED E;CYRILLIC CAPITAL LETTER LITTLE YUS",
  "467 CYRILLIC SMALL LETTER LITTLE YUS;CYRILLIC CAPITAL LETTER IOTIFIED LITTLE YUS",
  "469 CYRILLIC SMALL LETTER IOTIFIED LITTLE YUS;CYRILLIC CAPITAL LETTER BIG YUS",
  "46B CYRILLIC SMALL LETTER BIG YUS;CYRILLIC CAPITAL LETTER IOTIFIED BIG YUS",
  "46D CYRILLIC SMALL LETTER IOTIFIED BIG YUS;CYRILLIC CAPITAL LETTER KSI",
  "46F CYRILLIC SMALL LETTER KSI;CYRILLIC CAPITAL LETTER PSI;CYRILLIC SMALL LETTER PSI",
  "472 CYRILLIC CAPITAL LETTER FITA;CYRILLIC SMALL LETTER FITA;CYRILLIC CAPITAL LETTER IZHITSA",
  "475 CYRILLIC SMALL LETTER IZHITSA;CYRILLIC CAPITAL LETTER IZHITSA WITH DOUBLE GRAVE ACCENT",
  "477 CYRILLIC SMALL LETTER IZHITSA WITH DOUBLE GRAVE ACCENT;CYRILLIC CAPITAL LETTER UK",
  "479 CYRILLIC SMALL LETTER UK;CYRILLIC CAPITAL LETTER ROUND OMEGA",
  "47B CYRILLIC SMALL LETTER ROUND OMEGA;CYRILLIC CAPITAL LETTER OMEGA WITH TITLO",
  "47D CYRILLIC SMALL LETTER OMEGA WITH TITLO;CYRILLIC CAPITAL LETTER OT",
  "47F CYRILLIC SMALL LETTER OT;CYRILLIC CAPITAL LETTER KOPPA;CYRILLIC SMALL LETTER KOPPA",
  "482 CYRILLIC THOUSANDS SIGN;COMBINING CYRILLIC TITLO;COMBINING CYRILLIC PALATALIZATION",
  "485 COMBINING CYRILLIC DASIA PNEUMATA;COMBINING CYRILLIC PSILI PNEUMATA",
  "487 COMBINING CYRILLIC POKRYTIE;COMBINING CYRILLIC HUNDRED THOUSANDS SIGN",
  "489 COMBINING CYRILLIC MILLIONS SIGN;CYRILLIC CAPITAL LETTER SHORT I WITH TAIL",
  "48B CYRILLIC SMALL LETTER SHORT I WITH TAIL;CYRILLIC CAPITAL LETTER SEMISOFT SIGN",
  "48D CYRILLIC SMALL LETTER SEMISOFT SIGN;CYRILLIC CAPITAL LETTER ER WITH TICK",
  "48F CYRILLIC SMALL LETTER ER WITH TICK;CYRILLIC CAPITAL LETTER GHE WITH UPTURN",
  "491 CYRILLIC SMALL LETTER GHE WITH UPTURN;CYRILLIC CAPITAL LETTER GHE WITH STROKE",
  "493 CYRILLIC SMALL LETTER GHE WITH STROKE;CYRILLIC CAPITAL LETTER GHE WITH MIDDLE HOOK",
  "495 CYRILLIC SMALL LETTER GHE WITH MIDDLE HOOK;CYRILLIC CAPITAL LETTER ZHE WITH DESCENDER",
  "497 CYRILLIC SMALL LETTER ZHE WITH DESCENDER;CYRILLIC CAPITAL LETTER ZE WITH DESCENDER",
  "499 CYRILLIC SMALL LETTER ZE WITH DESCENDER;CYRILLIC CAPITAL LETTER KA WITH DESCENDER",
  "49B CYRILLIC SMALL LETTER KA WITH DESCENDER;CYRILLIC CAPITAL LETTER KA WITH VERTICAL STROKE",
  "49D CYRILLIC SMALL LETTER KA WITH VERTICAL STROKE;CYRILLIC CAPITAL LETTER KA WITH STROKE",
  "49F CYRILLIC SMALL LETTER KA WITH STROKE;CYRILLIC CAPITAL LETTER BASHKIR KA",
  "4A1 CYRILLIC SMALL LETTER BASHKIR KA;CYRILLIC CAPITAL LETTER EN WITH DESCENDER",
  "4A3 CYRILLIC SMALL LETTER EN WITH DESCENDER;CYRILLIC CAPITAL LIGATURE EN GHE",
  "4A5 CYRILLIC SMALL LIGATURE EN GHE;CYRILLIC CAPITAL LETTER PE WITH MIDDLE HOOK",
  "4A7 CYRILLIC SMALL LETTER PE WITH MIDDLE HOOK;CYRILLIC CAPITAL LETTER ABKHASIAN HA",
  "4A9 CYRILLIC SMALL LETTER ABKHASIAN HA;CYRILLIC CAPITAL LETTER ES WITH DESCENDER",
  "4AB CYRILLIC SMALL LETTER ES WITH DESCENDER;CYRILLIC CAPITAL LETTER TE WITH DESCENDER",
  "4AD CYRILLIC SMALL LETTER TE WITH DESCENDER;CYRILLIC CAPITAL LETTER STRAIGHT U",
  "4AF CYRILLIC SMALL LETTER STRAIGHT U;CYRILLIC CAPITAL LETTER STRAIGHT U WITH STROKE",
  "4B1 CYRILLIC SMALL LETTER STRAIGHT U WITH STROKE;CYRILLIC CAPITAL LETTER HA WITH DESCENDER",
  "4B3 CYRILLIC SMALL LETTER HA WITH DESCENDER;CYRILLIC CAPITAL LIGATURE TE TSE",
  "4B5 CYRILLIC SMALL LIGATURE TE TSE;CYRILLIC CAPITAL LETTER CHE WITH DESCENDER",
  "4B7 CYRILLIC SMALL LETTER CHE WITH DESCENDER",
  "4B8 CYRILLIC CAPITAL LETTER CHE WITH VERTICAL STROKE",
  "4B9 CYRILLIC SMALL LETTER CHE WITH VERTICAL STROKE;CYRILLIC CAPITAL LETTER SHHA",
  "4BB CYRILLIC SMALL LETTER SHHA;CYRILLIC CAPITAL LETTER ABKHASIAN CHE",
  "4BD CYRILLIC SMALL LETTER ABKHASIAN CHE;CYRILLIC CAPITAL LETTER ABKHASIAN CHE WITH DESCENDER",
  "4BF CYRILLIC SMALL LETTER ABKHASIAN CHE WITH DESCENDER;CYRILLIC LETTER PALOCHKA",
  "4C1 CYRILLIC CAPITAL LETTER ZHE WITH BREVE;CYRILLIC SMALL LETTER ZHE WITH BREVE",
  "4C3 CYRILLIC CAPITAL LETTER KA WITH HOOK;CYRILLIC SMALL LETTER KA WITH HOOK",
  "4C5 CYRILLIC CAPITAL LETTER EL WITH TAIL;CYRILLIC SMALL LETTER EL WITH TAIL",
  "4C7 CYRILLIC CAPITAL LETTER EN WITH HOOK;CYRILLIC SMALL LETTER EN WITH HOOK",
  "4C9 CYRILLIC CAPITAL LETTER EN WITH TAIL;CYRILLIC SMALL LETTER EN WITH TAIL",
  "4CB CYRILLIC CAPITAL LETTER KHAKASSIAN CHE;CYRILLIC SMALL LETTER KHAKASSIAN CHE",
  "4CD CYRILLIC CAPITAL LETTER EM WITH TAIL;CYRILLIC SMALL LETTER EM WITH TAIL",
  "4CF CYRILLIC SMALL LETTER PALOCHKA;CYRILLIC CAPITAL LETTER A WITH BREVE",
  "4D1 CYRILLIC SMALL LETTER A WITH BREVE;CYRILLIC CAPITAL LETTER A WITH DIAERESIS",
  "4D3 CYRILLIC SMALL LETTER A WITH DIAERESIS;CYRILLIC CAPITAL LIGATURE A IE",
  "4D5 CYRILLIC SMALL LIGATURE A IE;CYRILLIC CAPITAL LETTER IE WITH BREVE",
  "4D7 CYRILLIC SMALL LETTER IE WITH BREVE;CYRILLIC CAPITAL LETTER SCHWA",
  "4D9 CYRILLIC SMALL LETTER SCHWA;CYRILLIC CAPITAL LETTER SCHWA WITH DIAERESIS",
  "4DB CYRILLIC SMALL LETTER SCHWA WITH DIAERESIS;CYRILLIC CAPITAL LETTER ZHE WITH DIAERESIS",
  "4DD CYRILLIC SMALL LETTER ZHE WITH DIAERESIS;CYRILLIC CAPITAL LETTER ZE WITH DIAERESIS",
  "4DF CYRILLIC SMALL LETTER ZE WITH DIAERESIS;CYRILLIC CAPITAL LETTER ABKHASIAN DZE",
  "4E1 CYRILLIC SMALL LETTER ABKHASIAN DZE;CYRILLIC CAPITAL LETTER I WITH MACRON",
  "4E3 CYRILLIC SMALL LETTER I WITH MACRON;CYRILLIC CAPITAL LETTER I WITH DIAERESIS",
  "4E5 CYRILLIC SMALL LETTER I WITH DIAERESIS;CYRILLIC CAPITAL LETTER O WITH DIAERESIS",
  "4E7 CYRILLIC SMALL LETTER O WITH DIAERESIS;CYRILLIC CAPITAL LETTER BARRED O",
  "4E9 CYRILLIC SMALL LETTER BARRED O;CYRILLIC CAPITAL LETTER BARRED O WITH DIAERESIS",
  "4EB CYRILLIC SMALL LETTER BARRED O WITH DIAERESIS;CYRILLIC CAPITAL LETTER E WITH DIAERESIS",
  "4ED CYRILLIC SMALL LETTER E WITH DIAERESIS;CYRILLIC CAPITAL LETTER U WITH MACRON",
  "4EF CYRILLIC SMALL LETTER U WITH MACRON;CYRILLIC CAPITAL LETTER U WITH DIAERESIS",
  "4F1 CYRILLIC SMALL LETTER U WITH DIAERESIS;CYRILLIC CAPITAL LETTER U WITH DOUBLE ACUTE",
  "4F3 CYRILLIC SMALL LETTER U WITH DOUBLE ACUTE;CYRILLIC CAPITAL LETTER CHE WITH DIAERESIS",
  "4F5 CYRILLIC SMALL LETTER CHE WITH DIAERESIS;CYRILLIC CAPITAL LETTER GHE WITH DESCENDER",
  "4F7 CYRILLIC SMALL LETTER GHE WITH DESCENDER;CYRILLIC CAPITAL LETTER YERU WITH DIAERESIS",
  "4F9 CYRILLIC SMALL LETTER YERU WITH DIAERESIS",
  "4FA CYRILLIC CAPITAL LETTER GHE WITH STROKE AND HOOK",
  "4FB CYRILLIC SMALL LETTER GHE WITH STROKE AND HOOK;CYRILLIC CAPITAL LETTER HA WITH HOOK",
  "4FD CYRILLIC SMALL LETTER HA WITH HOOK;CYRILLIC CAPITAL LETTER HA WITH STROKE",
  "4FF CYRILLIC SMALL LETTER HA WITH STROKE;CYRILLIC CAPITAL LETTER KOMI DE",
  "501 CYRILLIC SMALL LETTER KOMI DE;CYRILLIC CAPITAL LETTER KOMI DJE",
  "503 CYRILLIC SMALL LETTER KOMI DJE;CYRILLIC CAPITAL LETTER KOMI ZJE",
  "505 CYRILLIC SMALL LETTER KOMI ZJE;CYRILLIC CAPITAL LETTER KOMI DZJE",
  "507 CYRILLIC SMALL LETTER KOMI DZJE;CYRILLIC CAPITAL LETTER KOMI LJE",
  "509 CYRILLIC SMALL LETTER KOMI LJE;CYRILLIC CAPITAL LETTER KOMI NJE",
  "50B CYRILLIC SMALL LETTER KOMI NJE;CYRILLIC CAPITAL LETTER KOMI SJE",
  "50D CYRILLIC SMALL LETTER KOMI SJE;CYRILLIC CAPITAL LETTER KOMI TJE",
  "50F CYRILLIC SMALL LETTER KOMI TJE;CYRILLIC CAPITAL LETTER REVERSED ZE",
  "511 CYRILLIC SMALL LETTER REVERSED ZE;CYRILLIC CAPITAL LETTER EL WITH HOOK",
  "513 CYRILLIC SMALL LETTER EL WITH HOOK;CYRILLIC CAPITAL LETTER LHA;CYRILLIC SMALL LETTER LHA",
  "516 CYRILLIC CAPITAL LETTER RHA;CYRILLIC SMALL LETTER RHA;CYRILLIC CAPITAL LETTER YAE",
  "519 CYRILLIC SMALL LETTER YAE;CYRILLIC CAPITAL LETTER QA;CYRILLIC SMALL LETTER QA",
  "51C CYRILLIC CAPITAL LETTER WE;CYRILLIC SMALL LETTER WE;CYRILLIC CAPITAL LETTER ALEUT KA",
  "51F CYRILLIC SMALL LETTER ALEUT KA;CYRILLIC CAPITAL LETTER EL WITH MIDDLE HOOK",
  "521 CYRILLIC SMALL LETTER EL WITH MIDDLE HOOK;CYRILLIC CAPITAL LETTER EN WITH MIDDLE HOOK",
  "523 CYRILLIC SMALL LETTER EN WITH MIDDLE HOOK;CYRILLIC CAPITAL LETTER PE WITH DESCENDER",
  "525 CYRILLIC SMALL LETTER PE WITH DESCENDER;CYRILLIC CAPITAL LETTER SHHA WITH DESCENDER",
  "527 CYRILLIC SMALL LETTER SHHA WITH DESCENDER;CYRILLIC CAPITAL LETTER EN WITH LEFT HOOK",
  "529 CYRILLIC SMALL LETTER EN WITH LEFT HOOK;CYRILLIC CAPITAL LETTER DZZHE",
  "52B CYRILLIC SMALL LETTER DZZHE;CYRILLIC CAPITAL LETTER DCHE;CYRILLIC SMALL LETTER DCHE",
  "52E CYRILLIC CAPITAL LETTER EL WITH DESCENDER;CYRILLIC SMALL LETTER EL WITH DESCENDER",
  "531 ARMENIAN CAPITAL LETTER AYB;ARMENIAN CAPITAL LETTER BEN;ARMENIAN CAPITAL LETTER GIM",
  "534 ARMENIAN CAPITAL LETTER DA;ARMENIAN CAPITAL LETTER ECH;ARMENIAN CAPITAL LETTER ZA",
  "537 ARMENIAN CAPITAL LETTER EH;ARMENIAN CAPITAL LETTER ET;ARMENIAN CAPITAL LETTER TO",
  "53A ARMENIAN CAPITAL LETTER ZHE;ARMENIAN CAPITAL LETTER INI;ARMENIAN CAPITAL LETTER LIWN",
  "53D ARMENIAN CAPITAL LETTER XEH;ARMENIAN CAPITAL LETTER CA;ARMENIAN CAPITAL LETTER KEN",
  "540 ARMENIAN CAPITAL LETTER HO;ARMENIAN CAPITAL LETTER JA;ARMENIAN CAPITAL LETTER GHAD",
  "543 ARMENIAN CAPITAL LETTER CHEH;ARMENIAN CAPITAL LETTER MEN;ARMENIAN CAPITAL LETTER YI",
  "546 ARMENIAN CAPITAL LETTER NOW;ARMENIAN CAPITAL LETTER SHA;ARMENIAN CAPITAL LETTER VO",
  "549 ARMENIAN CAPITAL LETTER CHA;ARMENIAN CAPITAL LETTER PEH;ARMENIAN CAPITAL LETTER JHEH",
  "54C ARMENIAN CAPITAL LETTER RA;ARMENIAN CAPITAL LETTER SEH;ARMENIAN CAPITAL LETTER VEW",
  "54F ARMENIAN CAPITAL LETTER TIWN;ARMENIAN CAPITAL LETTER REH;ARMENIAN CAPITAL LETTER CO",
  "552 ARMENIAN CAPITAL LETTER YIWN;ARMENIAN CAPITAL LETTER PIWR;ARMENIAN CAPITAL LETTER KEH",
  "555 ARMENIAN CAPITAL LETTER OH;ARMENIAN CAPITAL LETTER FEH",
  "559 ARMENIAN MODIFIER LETTER LEFT HALF RING;ARMENIAN APOSTROPHE;ARMENIAN EMPHASIS MARK",
  "55C ARMENIAN EXCLAMATION MARK;ARMENIAN COMMA;ARMENIAN QUESTION MARK",
  "55F ARMENIAN ABBREVIATION MARK;ARMENIAN SMALL LETTER TURNED AYB;ARMENIAN SMALL LETTER AYB",
  "562 ARMENIAN SMALL LETTER BEN;ARMENIAN SMALL LETTER GIM;ARMENIAN SMALL LETTER DA",
  "565 ARMENIAN SMALL LETTER ECH;ARMENIAN SMALL LETTER ZA;ARMENIAN SMALL LETTER EH",
  "568 ARMENIAN SMALL LETTER ET;ARMENIAN SMALL LETTER TO;ARMENIAN SMALL LETTER ZHE",
  "56B ARMENIAN SMALL LETTER INI;ARMENIAN SMALL LETTER LIWN;ARMENIAN SMALL LETTER XEH",
  "56E ARMENIAN SMALL LETTER CA;ARMENIAN SMALL LETTER KEN;ARMENIAN SMALL LETTER HO",
  "571 ARMENIAN SMALL LETTER JA;ARMENIAN SMALL LETTER GHAD;ARMENIAN SMALL LETTER CHEH",
  "574 ARMENIAN SMALL LETTER MEN;ARMENIAN SMALL LETTER YI;ARMENIAN SMALL LETTER NOW",
  "577 ARMENIAN SMALL LETTER SHA;ARMENIAN SMALL LETTER VO;ARMENIAN SMALL LETTER CHA",
  "57A ARMENIAN SMALL LETTER PEH;ARMENIAN SMALL LETTER JHEH;ARMENIAN SMALL LETTER RA",
  "57D ARMENIAN SMALL LETTER SEH;ARMENIAN SMALL LETTER VEW;ARMENIAN SMALL LETTER TIWN",
  "580 ARMENIAN SMALL LETTER REH;ARMENIAN SMALL LETTER CO;ARMENIAN SMALL LETTER YIWN",
  "583 ARMENIAN SMALL LETTER PIWR;ARMENIAN SMALL LETTER KEH;ARMENIAN SMALL LETTER OH",
  "586 ARMENIAN SMALL LETTER FEH;ARMENIAN SMALL LIGATURE ECH YIWN",
  "588 ARMENIAN SMALL LETTER YI WITH STROKE;ARMENIAN FULL STOP;ARMENIAN HYPHEN",
  "58D RIGHT-FACING ARMENIAN ETERNITY SIGN;LEFT-FACING ARMENIAN ETERNITY SIGN",
  "58F ARMENIAN DRAM SIGN",
  "5D0 HEBREW LETTER ALEF;HEBREW LETTER BET;HEBREW LETTER GIMEL;HEBREW LETTER DALET",
  "5D4 HEBREW LETTER HE;HEBREW LETTER VAV;HEBREW LETTER ZAYIN;HEBREW LETTER HET",
  "5D8 HEBREW LETTER TET;HEBREW LETTER YOD;HEBREW LETTER FINAL KAF;HEBREW LETTER KAF",
  "5DC HEBREW LETTER LAMED;HEBREW LETTER FINAL MEM;HEBREW LETTER MEM;HEBREW LETTER FINAL NUN",
  "5E0 HEBREW LETTER NUN;HEBREW LETTER SAMEKH;HEBREW LETTER AYIN;HEBREW LETTER FINAL PE",
  "5E4 HEBREW LETTER PE;HEBREW LETTER FINAL TSADI;HEBREW LETTER TSADI;HEBREW LETTER QOF",
  "5E8 HEBREW LETTER RESH;HEBREW LETTER SHIN;HEBREW LETTER TAV",
  "5F0 HEBREW LIGATURE YIDDISH DOUBLE VAV;HEBREW LIGATURE YIDDISH VAV YOD",
  "5F2 HEBREW LIGATURE YIDDISH DOUBLE YOD;HEBREW PUNCTUATION GERESH",
  "5F4 HEBREW PUNCTUATION GERSHAYIM",
  "600 ARABIC NUMBER SIGN;ARABIC SIGN SANAH;ARABIC FOOTNOTE MARKER;ARABIC SIGN SAFHA",
  "604 ARABIC SIGN SAMVAT;ARABIC NUMBER MARK ABOVE;ARABIC-INDIC CUBE ROOT",
  "607 ARABIC-INDIC FOURTH ROOT;ARABIC RAY;ARABIC-INDIC PER MILLE SIGN",
  "60A ARABIC-INDIC PER TEN THOUSAND SIGN;AFGHANI SIGN;ARABIC COMMA;ARABIC DATE SEPARATOR",
  "60E ARABIC POETIC VERSE SIGN;ARABIC SIGN MISRA;ARABIC SIGN SALLALLAHOU ALAYHE WASSALLAM",
  "611 ARABIC SIGN ALAYHE ASSALLAM;ARABIC SIGN RAHMATULLAH ALAYHE;ARABIC SIGN RADI ALLAHOU ANHU",
  "614 ARABIC SIGN TAKHALLUS;ARABIC SMALL HIGH TAH",
  "616 ARABIC SMALL HIGH LIGATURE ALEF WITH LAM WITH YEH;ARABIC SMALL HIGH ZAIN",
  "618 ARABIC SMALL FATHA;ARABIC SMALL DAMMA;ARABIC SMALL KASRA;ARABIC SEMICOLON",
  "61C ARABIC LETTER MARK;ARABIC END OF TEXT MARK;ARABIC TRIPLE DOT PUNCTUATION MARK",
  "61F ARABIC QUESTION MARK;ARABIC LETTER KASHMIRI YEH;ARABIC LETTER HAMZA",
  "622 ARABIC LETTER ALEF WITH MADDA ABOVE;ARABIC LETTER ALEF WITH HAMZA ABOVE",
  "624 ARABIC LETTER WAW WITH HAMZA ABOVE;ARABIC LETTER ALEF WITH HAMZA BELOW",
  "626 ARABIC LETTER YEH WITH HAMZA ABOVE;ARABIC LETTER ALEF;ARABIC LETTER BEH",
  "629 ARABIC LETTER TEH MARBUTA;ARABIC LETTER TEH;ARABIC LETTER THEH;ARABIC LETTER JEEM",
  "62D ARABIC LETTER HAH;ARABIC LETTER KHAH;ARABIC LETTER DAL;ARABIC LETTER THAL",
  "631 ARABIC LETTER REH;ARABIC LETTER ZAIN;ARABIC LETTER SEEN;ARABIC LETTER SHEEN",
  "635 ARABIC LETTER SAD;ARABIC LETTER DAD;ARABIC LETTER TAH;ARABIC LETTER ZAH",
  "639 ARABIC LETTER AIN;ARABIC LETTER GHAIN;ARABIC LETTER KEHEH WITH TWO DOTS ABOVE",
  "63C ARABIC LETTER KEHEH WITH THREE DOTS BELOW;ARABIC LETTER FARSI YEH WITH INVERTED V",
  "63E ARABIC LETTER FARSI YEH WITH TWO DOTS ABOVE",
  "63F ARABIC LETTER FARSI YEH WITH THREE DOTS ABOVE;ARABIC TATWEEL;ARABIC LETTER FEH",
  "642 ARABIC LETTER QAF;ARABIC LETTER KAF;ARABIC LETTER LAM;ARABIC LETTER MEEM",
  "646 ARABIC LETTER NOON;ARABIC LETTER HEH;ARABIC LETTER WAW;ARABIC LETTER ALEF MAKSURA",
  "64A ARABIC LETTER YEH;ARABIC FATHATAN;ARABIC DAMMATAN;ARABIC KASRATAN;ARABIC FATHA",
  "64F ARABIC DAMMA;ARABIC KASRA;ARABIC SHADDA;ARABIC SUKUN;ARABIC MADDAH ABOVE",
  "654 ARABIC HAMZA ABOVE;ARABIC HAMZA BELOW;ARABIC SUBSCRIPT ALEF;ARABIC INVERTED DAMMA",
  "658 ARABIC MARK NOON GHUNNA;ARABIC ZWARAKAY;ARABIC VOWEL SIGN SMALL V ABOVE",
  "65B ARABIC VOWEL SIGN INVERTED SMALL V ABOVE;ARABIC VOWEL SIGN DOT BELOW",
  "65D ARABIC REVERSED DAMMA;ARABIC FATHA WITH TWO DOTS;ARABIC WAVY HAMZA BELOW",
  "660 ARABIC-INDIC DIGIT ZERO;ARABIC-INDIC DIGIT ONE;ARABIC-INDIC DIGIT TWO",
  "663 ARABIC-INDIC DIGIT THREE;ARABIC-INDIC DIGIT FOUR;ARABIC-INDIC DIGIT FIVE",
  "666 ARABIC-INDIC DIGIT SIX;ARABIC-INDIC DIGIT SEVEN;ARABIC-INDIC DIGIT EIGHT",
  "669 ARABIC-INDIC DIGIT NINE;ARABIC PERCENT SIGN;ARABIC DECIMAL SEPARATOR",
  "66C ARABIC THOUSANDS SEPARATOR;ARABIC FIVE POINTED STAR;ARABIC LETTER DOTLESS BEH",
  "66F ARABIC LETTER DOTLESS QAF;ARABIC LETTER SUPERSCRIPT ALEF;ARABIC LETTER ALEF WASLA",
  "672 ARABIC LETTER ALEF WITH WAVY HAMZA ABOVE;ARABIC LETTER ALEF WITH WAVY HAMZA BELOW",
  "674 ARABIC LETTER HIGH HAMZA;ARABIC LETTER HIGH HAMZA ALEF;ARABIC LETTER HIGH HAMZA WAW",
  "677 ARABIC LETTER U WITH HAMZA ABOVE;ARABIC LETTER HIGH HAMZA YEH;ARABIC LETTER TTEH",
  "67A ARABIC LETTER TTEHEH;ARABIC LETTER BEEH;ARABIC LETTER TEH WITH RING",
  "67D ARABIC LETTER TEH WITH THREE DOTS ABOVE DOWNWARDS;ARABIC LETTER PEH;ARABIC LETTER TEHEH",
  "680 ARABIC LETTER BEHEH;ARABIC LETTER HAH WITH HAMZA ABOVE",
  "682 ARABIC LETTER HAH WITH TWO DOTS VERTICAL ABOVE;ARABIC LETTER NYEH;ARABIC LETTER DYEH",
  "685 ARABIC LETTER HAH WITH THREE DOTS ABOVE;ARABIC LETTER TCHEH;ARABIC LETTER TCHEHEH",
  "688 ARABIC LETTER DDAL;ARABIC LETTER DAL WITH RING;ARABIC LETTER DAL WITH DOT BELOW",
  "68B ARABIC LETTER DAL WITH DOT BELOW AND SMALL TAH;ARABIC LETTER DAHAL;ARABIC LETTER DDAHAL",
  "68E ARABIC LETTER DUL;ARABIC LETTER DAL WITH THREE DOTS ABOVE DOWNWARDS",
  "690 ARABIC LETTER DAL WITH FOUR DOTS ABOVE;ARABIC LETTER RREH;ARABIC LETTER REH WITH SMALL V",
  "693 ARABIC LETTER REH WITH RING;ARABIC LETTER REH WITH DOT BELOW",
  "695 ARABIC LETTER REH WITH SMALL V BELOW;ARABIC LETTER REH WITH DOT BELOW AND DOT ABOVE",
  "697 ARABIC LETTER REH WITH TWO DOTS ABOVE;ARABIC LETTER JEH",
  "699 ARABIC LETTER REH WITH FOUR DOTS ABOVE;ARABIC LETTER SEEN WITH DOT BELOW AND DOT ABOVE",
  "69B ARABIC LETTER SEEN WITH THREE DOTS BELOW",
  "69C ARABIC LETTER SEEN WITH THREE DOTS BELOW AND THREE DOTS ABOVE",
  "69D ARABIC LETTER SAD WITH TWO DOTS BELOW;ARABIC LETTER SAD WITH THREE DOTS ABOVE",
  "69F ARABIC LETTER TAH WITH THREE DOTS ABOVE;ARABIC LETTER AIN WITH THREE DOTS ABOVE",
  "6A1 ARABIC LETTER DOTLESS FEH;ARABIC LETTER FEH WITH DOT MOVED BELOW",
  "6A3 ARABIC LETTER FEH WITH DOT BELOW;ARABIC LETTER VEH",
  "6A5 ARABIC LETTER FEH WITH THREE DOTS BELOW;ARABIC LETTER PEHEH",
  "6A7 ARABIC LETTER QAF WITH DOT ABOVE;ARABIC LETTER QAF WITH THREE DOTS ABOVE",
  "6A9 ARABIC LETTER KEHEH;ARABIC LETTER SWASH KAF;ARABIC LETTER KAF WITH RING",
  "6AC ARABIC LETTER KAF WITH DOT ABOVE;ARABIC LETTER NG",
  "6AE ARABIC LETTER KAF WITH THREE DOTS BELOW;ARABIC LETTER GAF;ARABIC LETTER GAF WITH RING",
  "6B1 ARABIC LETTER NGOEH;ARABIC LETTER GAF WITH TWO DOTS BELOW;ARABIC LETTER GUEH",
  "6B4 ARABIC LETTER GAF WITH THREE DOTS ABOVE;ARABIC LETTER LAM WITH SMALL V",
  "6B6 ARABIC LETTER LAM WITH DOT ABOVE;ARABIC LETTER LAM WITH THREE DOTS ABOVE",
  "6B8 ARABIC LETTER LAM WITH THREE DOTS BELOW;ARABIC LETTER NOON WITH DOT BELOW",
  "6BA ARABIC LETTER NOON GHUNNA;ARABIC LETTER RNOON;ARABIC LETTER NOON WITH RING",
  "6BD ARABIC LETTER NOON WITH THREE DOTS ABOVE;ARABIC LETTER HEH DOACHASHMEE",
  "6BF ARABIC LETTER TCHEH WITH DOT ABOVE;ARABIC LETTER HEH WITH YEH ABOVE",
  "6C1 ARABIC LETTER HEH GOAL;ARABIC LETTER HEH GOAL WITH HAMZA ABOVE",
  "6C3 ARABIC LETTER TEH MARBUTA GOAL;ARABIC LETTER WAW WITH RING;ARABIC LETTER KIRGHIZ OE",
  "6C6 ARABIC LETTER OE;ARABIC LETTER U;ARABIC LETTER YU;ARABIC LETTER KIRGHIZ YU",
  "6CA ARABIC LETTER WAW WITH TWO DOTS ABOVE;ARABIC LETTER VE;ARABIC LETTER FARSI YEH",
  "6CD ARABIC LETTER YEH WITH TAIL;ARABIC LETTER YEH WITH SMALL V",
  "6CF ARABIC LETTER WAW WITH DOT ABOVE;ARABIC LETTER E;ARABIC LETTER YEH WITH THREE DOTS BELOW",
  "6D2 ARABIC LETTER YEH BARREE;ARABIC LETTER YEH BARREE WITH HAMZA ABOVE;ARABIC FULL STOP",
  "6D5 ARABIC LETTER AE;ARABIC SMALL HIGH LIGATURE SAD WITH LAM WITH ALEF MAKSURA",
  "6D7 ARABIC SMALL HIGH LIGATURE QAF WITH LAM WITH ALEF MAKSURA",
  "6D8 ARABIC SMALL HIGH MEEM INITIAL FORM;ARABIC SMALL HIGH LAM ALEF;ARABIC SMALL HIGH JEEM",
  "6DB ARABIC SMALL HIGH THREE DOTS;ARABIC SMALL HIGH SEEN;ARABIC END OF AYAH",
  "6DE ARABIC START OF RUB EL HIZB;ARABIC SMALL HIGH ROUNDED ZERO",
  "6E0 ARABIC SMALL HIGH UPRIGHT RECTANGULAR ZERO;ARABIC SMALL HIGH DOTLESS HEAD OF KHAH",
  "6E2 ARABIC SMALL HIGH MEEM ISOLATED FORM;ARABIC SMALL LOW SEEN;ARABIC SMALL HIGH MADDA",
  "6E5 ARABIC SMALL WAW;ARABIC SMALL YEH;ARABIC SMALL HIGH YEH;ARABIC SMALL HIGH NOON",
  "6E9 ARABIC PLACE OF SAJDAH;ARABIC EMPTY CENTRE LOW STOP;ARABIC EMPTY CENTRE HIGH STOP",
  "6EC ARABIC ROUNDED HIGH STOP WITH FILLED CENTRE;ARABIC SMALL LOW MEEM",
  "6EE ARABIC LETTER DAL WITH INVERTED V;ARABIC LETTER REH WITH INVERTED V",
  "6F0 EXTENDED ARABIC-INDIC DIGIT ZERO;EXTENDED ARABIC-INDIC DIGIT ONE",
  "6F2 EXTENDED ARABIC-INDIC DIGIT TWO;EXTENDED ARABIC-INDIC DIGIT THREE",
  "6F4 EXTENDED ARABIC-INDIC DIGIT FOUR;EXTENDED ARABIC-INDIC DIGIT FIVE",
  "6F6 EXTENDED ARABIC-INDIC DIGIT SIX;EXTENDED ARABIC-INDIC DIGIT SEVEN",
  "6F8 EXTENDED ARABIC-INDIC DIGIT EIGHT;EXTENDED ARABIC-INDIC DIGIT NINE",
  "6FA ARABIC LETTER SHEEN WITH DOT BELOW;ARABIC LETTER DAD WITH DOT BELOW",
  "6FC ARABIC LETTER GHAIN WITH DOT BELOW;ARABIC SIGN SINDHI AMPERSAND",
  "6FE ARABIC SIGN SINDHI POSTPOSITION MEN;ARABIC LETTER HEH WITH INVERTED V",
  "1D00 LATIN LETTER SMALL CAPITAL A;LATIN LETTER SMALL CAPITAL AE;LATIN SMALL LETTER TURNED AE",
  "1D03 LATIN LETTER SMALL CAPITAL BARRED B;LATIN LETTER SMALL CAPITAL C",
  "1D05 LATIN LETTER SMALL CAPITAL D;LATIN LETTER SMALL CAPITAL ETH;LATIN LETTER SMALL CAPITAL E",
  "1D08 LATIN SMALL LETTER TURNED OPEN E;LATIN SMALL LETTER TURNED I",
  "1D0A LATIN LETTER SMALL CAPITAL J;LATIN LETTER SMALL CAPITAL K",
  "1D0C LATIN LETTER SMALL CAPITAL L WITH STROKE;LATIN LETTER SMALL CAPITAL M",
  "1D0E LATIN LETTER SMALL CAPITAL REVERSED N;LATIN LETTER SMALL CAPITAL O",
  "1D10 LATIN LETTER SMALL CAPITAL OPEN O;LATIN SMALL LETTER SIDEWAYS O",
  "1D12 LATIN SMALL LETTER SIDEWAYS OPEN O;LATIN SMALL LETTER SIDEWAYS O WITH STROKE",
  "1D14 LATIN SMALL LETTER TURNED OE;LATIN LETTER SMALL CAPITAL OU;LATIN SMALL LETTER TOP HALF O",
  "1D17 LATIN SMALL LETTER BOTTOM HALF O;LATIN LETTER SMALL CAPITAL P",
  "1D19 LATIN LETTER SMALL CAPITAL REVERSED R;LATIN LETTER SMALL CAPITAL TURNED R",
  "1D1B LATIN LETTER SMALL CAPITAL T;LATIN LETTER SMALL CAPITAL U;LATIN SMALL LETTER SIDEWAYS U",
  "1D1E LATIN SMALL LETTER SIDEWAYS DIAERESIZED U;LATIN SMALL LETTER SIDEWAYS TURNED M",
  "1D20 LATIN LETTER SMALL CAPITAL V;LATIN LETTER SMALL CAPITAL W;LATIN LETTER SMALL CAPITAL Z",
  "1D23 LATIN LETTER SMALL CAPITAL EZH;LATIN LETTER VOICED LARYNGEAL SPIRANT;LATIN LETTER AIN",
  "1D26 GREEK LETTER SMALL CAPITAL GAMMA;GREEK LETTER SMALL CAPITAL LAMDA",
  "1D28 GREEK LETTER SMALL CAPITAL PI;GREEK LETTER SMALL CAPITAL RHO",
  "1D2A GREEK LETTER SMALL CAPITAL PSI;CYRILLIC LETTER SMALL CAPITAL EL",
  "1D2C MODIFIER LETTER CAPITAL A;MODIFIER LETTER CAPITAL AE;MODIFIER LETTER CAPITAL B",
  "1D2F MODIFIER LETTER CAPITAL BARRED B;MODIFIER LETTER CAPITAL D;MODIFIER LETTER CAPITAL E",
  "1D32 MODIFIER LETTER CAPITAL REVERSED E;MODIFIER LETTER CAPITAL G;MODIFIER LETTER CAPITAL H",
  "1D35 MODIFIER LETTER CAPITAL I;MODIFIER LETTER CAPITAL J;MODIFIER LETTER CAPITAL K",
  "1D38 MODIFIER LETTER CAPITAL L;MODIFIER LETTER CAPITAL M;MODIFIER LETTER CAPITAL N",
  "1D3B MODIFIER LETTER CAPITAL REVERSED N;MODIFIER LETTER CAPITAL O;MODIFIER LETTER CAPITAL OU",
  "1D3E MODIFIER LETTER CAPITAL P;MODIFIER LETTER CAPITAL R;MODIFIER LETTER CAPITAL T",
  "1D41 MODIFIER LETTER CAPITAL U;MODIFIER LETTER CAPITAL W;MODIFIER LETTER SMALL A",
  "1D44 MODIFIER LETTER SMALL TURNED A;MODIFIER LETTER SMALL ALPHA",
  "1D46 MODIFIER LETTER SMALL TURNED AE;MODIFIER LETTER SMALL B;MODIFIER LETTER SMALL D",
  "1D49 MODIFIER LETTER SMALL E;MODIFIER LETTER SMALL SCHWA;MODIFIER LETTER SMALL OPEN E",
  "1D4C MODIFIER LETTER SMALL TURNED OPEN E;MODIFIER LETTER SMALL G",
  "1D4E MODIFIER LETTER SMALL TURNED I;MODIFIER LETTER SMALL K;MODIFIER LETTER SMALL M",
  "1D51 MODIFIER LETTER SMALL ENG;MODIFIER LETTER SMALL O;MODIFIER LETTER SMALL OPEN O",
  "1D54 MODIFIER LETTER SMALL TOP HALF O;MODIFIER LETTER SMALL BOTTOM HALF O",
  "1D56 MODIFIER LETTER SMALL P;MODIFIER LETTER SMALL T;MODIFIER LETTER SMALL U",
  "1D59 MODIFIER LETTER SMALL SIDEWAYS U;MODIFIER LETTER SMALL TURNED M;MODIFIER LETTER SMALL V",
  "1D5C MODIFIER LETTER SMALL AIN;MODIFIER LETTER SMALL BETA;MODIFIER LETTER SMALL GREEK GAMMA",
  "1D5F MODIFIER LETTER SMALL DELTA;MODIFIER LETTER SMALL GREEK PHI;MODIFIER LETTER SMALL CHI",
  "1D62 LATIN SUBSCRIPT SMALL LETTER I;LATIN SUBSCRIPT SMALL LETTER R",
  "1D64 LATIN SUBSCRIPT SMALL LETTER U;LATIN SUBSCRIPT SMALL LETTER V",
  "1D66 GREEK SUBSCRIPT SMALL LETTER BETA;GREEK SUBSCRIPT SMALL LETTER GAMMA",
  "1D68 GREEK SUBSCRIPT SMALL LETTER RHO;GREEK SUBSCRIPT SMALL LETTER PHI",
  "1D6A GREEK SUBSCRIPT SMALL LETTER CHI;LATIN SMALL LETTER UE",
  "1D6C LATIN SMALL LETTER B WITH MIDDLE TILDE;LATIN SMALL LETTER D WITH MIDDLE TILDE",
  "1D6E LATIN SMALL LETTER F WITH MIDDLE TILDE;LATIN SMALL LETTER M WITH MIDDLE TILDE",
  "1D70 LATIN SMALL LETTER N WITH MIDDLE TILDE;LATIN SMALL LETTER P WITH MIDDLE TILDE",
  "1D72 LATIN SMALL LETTER R WITH MIDDLE TILDE",
  "1D73 LATIN SMALL LETTER R WITH FISHHOOK AND MIDDLE TILDE",
  "1D74 LATIN SMALL LETTER S WITH MIDDLE TILDE;LATIN SMALL LETTER T WITH MIDDLE TILDE",
  "1D76 LATIN SMALL LETTER Z WITH MIDDLE TILDE;LATIN SMALL LETTER TURNED G",
  "1D78 MODIFIER LETTER CYRILLIC EN;LATIN SMALL LETTER INSULAR G",
  "1D7A LATIN SMALL LETTER TH WITH STRIKETHROUGH;LATIN SMALL CAPITAL LETTER I WITH STROKE",
  "1D7C LATIN SMALL LETTER IOTA WITH STROKE;LATIN SMALL LETTER P WITH STROKE",
  "1D7E LATIN SMALL CAPITAL LETTER U WITH STROKE;LATIN SMALL LETTER UPSILON WITH STROKE",
  "1D80 LATIN SMALL LETTER B WITH PALATAL HOOK;LATIN SMALL LETTER D WITH PALATAL HOOK",
  "1D82 LATIN SMALL LETTER F WITH PALATAL HOOK;LATIN SMALL LETTER G WITH PALATAL HOOK",
  "1D84 LATIN SMALL LETTER K WITH PALATAL HOOK;LATIN SMALL LETTER L WITH PALATAL HOOK",
  "1D86 LATIN SMALL LETTER M WITH PALATAL HOOK;LATIN SMALL LETTER N WITH PALATAL HOOK",
  "1D88 LATIN SMALL LETTER P WITH PALATAL HOOK;LATIN SMALL LETTER R WITH PALATAL HOOK",
  "1D8A LATIN SMALL LETTER S WITH PALATAL HOOK;LATIN SMALL LETTER ESH WITH PALATAL HOOK",
  "1D8C LATIN SMALL LETTER V WITH PALATAL HOOK;LATIN SMALL LETTER X WITH PALATAL HOOK",
  "1D8E LATIN SMALL LETTER Z WITH PALATAL HOOK;LATIN SMALL LETTER A WITH RETROFLEX HOOK",
  "1D90 LATIN SMALL LETTER ALPHA WITH RETROFLEX HOOK;LATIN SMALL LETTER D WITH HOOK AND TAIL",
  "1D92 LATIN SMALL LETTER E WITH RETROFLEX HOOK;LATIN SMALL LETTER OPEN E WITH RETROFLEX HOOK",
  "1D94 LATIN SMALL LETTER REVERSED OPEN E WITH RETROFLEX HOOK",
  "1D95 LATIN SMALL LETTER SCHWA WITH RETROFLEX HOOK;LATIN SMALL LETTER I WITH RETROFLEX HOOK",
  "1D97 LATIN SMALL LETTER OPEN O WITH RETROFLEX HOOK;LATIN SMALL LETTER ESH WITH RETROFLEX HOOK",
  "1D99 LATIN SMALL LETTER U WITH RETROFLEX HOOK;LATIN SMALL LETTER EZH WITH RETROFLEX HOOK",
  "1D9B MODIFIER LETTER SMALL TURNED ALPHA;MODIFIER LETTER SMALL C",
  "1D9D MODIFIER LETTER SMALL C WITH CURL;MODIFIER LETTER SMALL ETH",
  "1D9F MODIFIER LETTER SMALL REVERSED OPEN E;MODIFIER LETTER SMALL F",
  "1DA1 MODIFIER LETTER SMALL DOTLESS J WITH STROKE;MODIFIER LETTER SMALL SCRIPT G",
  "1DA3 MODIFIER LETTER SMALL TURNED H;MODIFIER LETTER SMALL I WITH STROKE",
  "1DA5 MODIFIER LETTER SMALL IOTA;MODIFIER LETTER SMALL CAPITAL I",
  "1DA7 MODIFIER LETTER SMALL CAPITAL I WITH STROKE;MODIFIER LETTER SMALL J WITH CROSSED-TAIL",
  "1DA9 MODIFIER LETTER SMALL L WITH RETROFLEX HOOK;MODIFIER LETTER SMALL L WITH PALATAL HOOK",
  "1DAB MODIFIER LETTER SMALL CAPITAL L;MODIFIER LETTER SMALL M WITH HOOK",
  "1DAD MODIFIER LETTER SMALL TURNED M WITH LONG LEG;MODIFIER LETTER SMALL N WITH LEFT HOOK",
  "1DAF MODIFIER LETTER SMALL N WITH RETROFLEX HOOK;MODIFIER LETTER SMALL CAPITAL N",
  "1DB1 MODIFIER LETTER SMALL BARRED O;MODIFIER LETTER SMALL PHI",
  "1DB3 MODIFIER LETTER SMALL S WITH HOOK;MODIFIER LETTER SMALL ESH",
  "1DB5 MODIFIER LETTER SMALL T WITH PALATAL HOOK;MODIFIER LETTER SMALL U BAR",
  "1DB7 MODIFIER LETTER SMALL UPSILON;MODIFIER LETTER SMALL CAPITAL U",
  "1DB9 MODIFIER LETTER SMALL V WITH HOOK;MODIFIER LETTER SMALL TURNED V;MODIFIER LETTER SMALL Z",
  "1DBC MODIFIER LETTER SMALL Z WITH RETROFLEX HOOK;MODIFIER LETTER SMALL Z WITH CURL",
  "1DBE MODIFIER LETTER SMALL EZH;MODIFIER LETTER SMALL THETA",
  "1E00 LATIN CAPITAL LETTER A WITH RING BELOW;LATIN SMALL LETTER A WITH RING BELOW",
  "1E02 LATIN CAPITAL LETTER B WITH DOT ABOVE;LATIN SMALL LETTER B WITH DOT ABOVE",
  "1E04 LATIN CAPITAL LETTER B WITH DOT BELOW;LATIN SMALL LETTER B WITH DOT BELOW",
  "1E06 LATIN CAPITAL LETTER B WITH LINE BELOW;LATIN SMALL LETTER B WITH LINE BELOW",
  "1E08 LATIN CAPITAL LETTER C WITH CEDILLA AND ACUTE",
  "1E09 LATIN SMALL LETTER C WITH CEDILLA AND ACUTE;LATIN CAPITAL LETTER D WITH DOT ABOVE",
  "1E0B LATIN SMALL LETTER D WITH DOT ABOVE;LATIN CAPITAL LETTER D WITH DOT BELOW",
  "1E0D LATIN SMALL LETTER D WITH DOT BELOW;LATIN CAPITAL LETTER D WITH LINE BELOW",
  "1E0F LATIN SMALL LETTER D WITH LINE BELOW;LATIN CAPITAL LETTER D WITH CEDILLA",
  "1E11 LATIN SMALL LETTER D WITH CEDILLA;LATIN CAPITAL LETTER D WITH CIRCUMFLEX BELOW",
  "1E13 LATIN SMALL LETTER D WITH CIRCUMFLEX BELOW;LATIN CAPITAL LETTER E WITH MACRON AND GRAVE",
  "1E15 LATIN SMALL LETTER E WITH MACRON AND GRAVE;LATIN CAPITAL LETTER E WITH MACRON AND ACUTE",
  "1E17 LATIN SMALL LETTER E WITH MACRON AND ACUTE;LATIN CAPITAL LETTER E WITH CIRCUMFLEX BELOW",
  "1E19 LATIN SMALL LETTER E WITH CIRCUMFLEX BELOW;LATIN CAPITAL LETTER E WITH TILDE BELOW",
  "1E1B LATIN SMALL LETTER E WITH TILDE BELOW;LATIN CAPITAL LETTER E WITH CEDILLA AND BREVE",
  "1E1D LATIN SMALL LETTER E WITH CEDILLA AND BREVE;LATIN CAPITAL LETTER F WITH DOT ABOVE",
  "1E1F LATIN SMALL LETTER F WITH DOT ABOVE;LATIN CAPITAL LETTER G WITH MACRON",
  "1E21 LATIN SMALL LETTER G WITH MACRON;LATIN CAPITAL LETTER H WITH DOT ABOVE",
  "1E23 LATIN SMALL LETTER H WITH DOT ABOVE;LATIN CAPITAL LETTER H WITH DOT BELOW",
  "1E25 LATIN SMALL LETTER H WITH DOT BELOW;LATIN CAPITAL LETTER H WITH DIAERESIS",
  "1E27 LATIN SMALL LETTER H WITH DIAERESIS;LATIN CAPITAL LETTER H WITH CEDILLA",
  "1E29 LATIN SMALL LETTER H WITH CEDILLA;LATIN CAPITAL LETTER H WITH BREVE BELOW",
  "1E2B LATIN SMALL LETTER H WITH BREVE BELOW;LATIN CAPITAL LETTER I WITH TILDE BELOW",
  "1E2D LATIN SMALL LETTER I WITH TILDE BELOW;LATIN CAPITAL LETTER I WITH DIAERESIS AND ACUTE",
  "1E2F LATIN SMALL LETTER I WITH DIAERESIS AND ACUTE;LATIN CAPITAL LETTER K WITH ACUTE",
  "1E31 LATIN SMALL LETTER K WITH ACUTE;LATIN CAPITAL LETTER K WITH DOT BELOW",
  "1E33 LATIN SMALL LETTER K WITH DOT BELOW;LATIN CAPITAL LETTER K WITH LINE BELOW",
  "1E35 LATIN SMALL LETTER K WITH LINE BELOW;LATIN CAPITAL LETTER L WITH DOT BELOW",
  "1E37 LATIN SMALL LETTER L WITH DOT BELOW;LATIN CAPITAL LETTER L WITH DOT BELOW AND MACRON",
  "1E39 LATIN SMALL LETTER L WITH DOT BELOW AND MACRON;LATIN CAPITAL LETTER L WITH LINE BELOW",
  "1E3B LATIN SMALL LETTER L WITH LINE BELOW;LATIN CAPITAL LETTER L WITH CIRCUMFLEX BELOW",
  "1E3D LATIN SMALL LETTER L WITH CIRCUMFLEX BELOW;LATIN CAPITAL LETTER M WITH ACUTE",
  "1E3F LATIN SMALL LETTER M WITH ACUTE;LATIN CAPITAL LETTER M WITH DOT ABOVE",
  "1E41 LATIN SMALL LETTER M WITH DOT ABOVE;LATIN CAPITAL LETTER M WITH DOT BELOW",
  "1E43 LATIN SMALL LETTER M WITH DOT BELOW;LATIN CAPITAL LETTER N WITH DOT ABOVE",
  "1E45 LATIN SMALL LETTER N WITH DOT ABOVE;LATIN CAPITAL LETTER N WITH DOT BELOW",
  "1E47 LATIN SMALL LETTER N WITH DOT BELOW;LATIN CAPITAL LETTER N WITH LINE BELOW",
  "1E49 LATIN SMALL LETTER N WITH LINE BELOW;LATIN CAPITAL LETTER N WITH CIRCUMFLEX BELOW",
  "1E4B LATIN SMALL LETTER N WITH CIRCUMFLEX BELOW;LATIN CAPITAL LETTER O WITH TILDE AND ACUTE",
  "1E4D LATIN SMALL LETTER O WITH TILDE AND ACUTE",
  "1E4E LATIN CAPITAL LETTER O WITH TILDE AND DIAERESIS",
  "1E4F LATIN SMALL LETTER O WITH TILDE AND DIAERESIS",
  "1E50 LATIN CAPITAL LETTER O WITH MACRON AND GRAVE;LATIN SMALL LETTER O WITH MACRON AND GRAVE",
  "1E52 LATIN CAPITAL LETTER O WITH MACRON AND ACUTE;LATIN SMALL LETTER O WITH MACRON AND ACUTE",
  "1E54 LATIN CAPITAL LETTER P WITH ACUTE;LATIN SMALL LETTER P WITH ACUTE",
  "1E56 LATIN CAPITAL LETTER P WITH DOT ABOVE;LATIN SMALL LETTER P WITH DOT ABOVE",
  "1E58 LATIN CAPITAL LETTER R WITH DOT ABOVE;LATIN SMALL LETTER R WITH DOT ABOVE",
  "1E5A LATIN CAPITAL LETTER R WITH DOT BELOW;LATIN SMALL LETTER R WITH DOT BELOW",
  "1E5C LATIN CAPITAL LETTER R WITH DOT BELOW AND MACRON",
  "1E5D LATIN SMALL LETTER R WITH DOT BELOW AND MACRON;LATIN CAPITAL LETTER R WITH LINE BELOW",
  "1E5F LATIN SMALL LETTER R WITH LINE BELOW;LATIN CAPITAL LETTER S WITH DOT ABOVE",
  "1E61 LATIN SMALL LETTER S WITH DOT ABOVE;LATIN CAPITAL LETTER S WITH DOT BELOW",
  "1E63 LATIN SMALL LETTER S WITH DOT BELOW;LATIN CAPITAL LETTER S WITH ACUTE AND DOT ABOVE",
  "1E65 LATIN SMALL LETTER S WITH ACUTE AND DOT ABOVE",
  "1E66 LATIN CAPITAL LETTER S WITH CARON AND DOT ABOVE",
  "1E67 LATIN SMALL LETTER S WITH CARON AND DOT ABOVE",
  "1E68 LATIN CAPITAL LETTER S WITH DOT BELOW AND DOT ABOVE",
  "1E69 LATIN SMALL LETTER S WITH DOT BELOW AND DOT ABOVE;LATIN CAPITAL LETTER T WITH DOT ABOVE",
  "1E6B LATIN SMALL LETTER T WITH DOT ABOVE;LATIN CAPITAL LETTER T WITH DOT BELOW",
  "1E6D LATIN SMALL LETTER T WITH DOT BELOW;LATIN CAPITAL LETTER T WITH LINE BELOW",
  "1E6F LATIN SMALL LETTER T WITH LINE BELOW;LATIN CAPITAL LETTER T WITH CIRCUMFLEX BELOW",
  "1E71 LATIN SMALL LETTER T WITH CIRCUMFLEX BELOW;LATIN CAPITAL LETTER U WITH DIAERESIS BELOW",
  "1E73 LATIN SMALL LETTER U WITH DIAERESIS BELOW;LATIN CAPITAL LETTER U WITH TILDE BELOW",
  "1E75 LATIN SMALL LETTER U WITH TILDE BELOW;LATIN CAPITAL LETTER U WITH CIRCUMFLEX BELOW",
  "1E77 LATIN SMALL LETTER U WITH CIRCUMFLEX BELOW;LATIN CAPITAL LETTER U WITH TILDE AND ACUTE",
  "1E79 LATIN SMALL LETTER U WITH TILDE AND ACUTE",
  "1E7A LATIN CAPITAL LETTER U WITH MACRON AND DIAERESIS",
  "1E7B LATIN SMALL LETTER U WITH MACRON AND DIAERESIS;LATIN CAPITAL LETTER V WITH TILDE",
  "1E7D LATIN SMALL LETTER V WITH TILDE;LATIN CAPITAL LETTER V WITH DOT BELOW",
  "1E7F LATIN SMALL LETTER V WITH DOT BELOW;LATIN CAPITAL LETTER W WITH GRAVE",
  "1E81 LATIN SMALL LETTER W WITH GRAVE;LATIN CAPITAL LETTER W WITH ACUTE",
  "1E83 LATIN SMALL LETTER W WITH ACUTE;LATIN CAPITAL LETTER W WITH DIAERESIS",
  "1E85 LATIN SMALL LETTER W WITH DIAERESIS;LATIN CAPITAL LETTER W WITH DOT ABOVE",
  "1E87 LATIN SMALL LETTER W WITH DOT ABOVE;LATIN CAPITAL LETTER W WITH DOT BELOW",
  "1E89 LATIN SMALL LETTER W WITH DOT BELOW;LATIN CAPITAL LETTER X WITH DOT ABOVE",
  "1E8B LATIN SMALL LETTER X WITH DOT ABOVE;LATIN CAPITAL LETTER X WITH DIAERESIS",
  "1E8D LATIN SMALL LETTER X WITH DIAERESIS;LATIN CAPITAL LETTER Y WITH DOT ABOVE",
  "1E8F LATIN SMALL LETTER Y WITH DOT ABOVE;LATIN CAPITAL LETTER Z WITH CIRCUMFLEX",
  "1E91 LATIN SMALL LETTER Z WITH CIRCUMFLEX;LATIN CAPITAL LETTER Z WITH DOT BELOW",
  "1E93 LATIN SMALL LETTER Z WITH DOT BELOW;LATIN CAPITAL LETTER Z WITH LINE BELOW",
  "1E95 LATIN SMALL LETTER Z WITH LINE BELOW;LATIN SMALL LETTER H WITH LINE BELOW",
  "1E97 LATIN SMALL LETTER T WITH DIAERESIS;LATIN SMALL LETTER W WITH RING ABOVE",
  "1E99 LATIN SMALL LETTER Y WITH RING ABOVE;LATIN SMALL LETTER A WITH RIGHT HALF RING",
  "1E9B LATIN SMALL LETTER LONG S WITH DOT ABOVE;LATIN SMALL LETTER LONG S WITH DIAGONAL STROKE",
  "1E9D LATIN SMALL LETTER LONG S WITH HIGH STROKE;LATIN CAPITAL LETTER SHARP S",
  "1E9F LATIN SMALL LETTER DELTA;LATIN CAPITAL LETTER A WITH DOT BELOW",
  "1EA1 LATIN SMALL LETTER A WITH DOT BELOW;LATIN CAPITAL LETTER A WITH HOOK ABOVE",
  "1EA3 LATIN SMALL LETTER A WITH HOOK ABOVE;LATIN CAPITAL LETTER A WITH CIRCUMFLEX AND ACUTE",
  "1EA5 LATIN SMALL LETTER A WITH CIRCUMFLEX AND ACUTE",
  "1EA6 LATIN CAPITAL LETTER A WITH CIRCUMFLEX AND GRAVE",
  "1EA7 LATIN SMALL LETTER A WITH CIRCUMFLEX AND GRAVE",
  "1EA8 LATIN CAPITAL LETTER A WITH CIRCUMFLEX AND HOOK ABOVE",
  "1EA9 LATIN SMALL LETTER A WITH CIRCUMFLEX AND HOOK ABOVE",
  "1EAA LATIN CAPITAL LETTER A WITH CIRCUMFLEX AND TILDE",
  "1EAB LATIN SMALL LETTER A WITH CIRCUMFLEX AND TILDE",
  "1EAC LATIN CAPITAL LETTER A WITH CIRCUMFLEX AND DOT BELOW",
  "1EAD LATIN SMALL LETTER A WITH CIRCUMFLEX AND DOT BELOW",
  "1EAE LATIN CAPITAL LETTER A WITH BREVE AND ACUTE;LATIN SMALL LETTER A WITH BREVE AND ACUTE",
  "1EB0 LATIN CAPITAL LETTER A WITH BREVE AND GRAVE;LATIN SMALL LETTER A WITH BREVE AND GRAVE",
  "1EB2 LATIN CAPITAL LETTER A WITH BREVE AND HOOK ABOVE",
  "1EB3 LATIN SMALL LETTER A WITH BREVE AND HOOK ABOVE",
  "1EB4 LATIN CAPITAL LETTER A WITH BREVE AND TILDE;LATIN SMALL LETTER A WITH BREVE AND TILDE",
  "1EB6 LATIN CAPITAL LETTER A WITH BREVE AND DOT BELOW",
  "1EB7 LATIN SMALL LETTER A WITH BREVE AND DOT BELOW;LATIN CAPITAL LETTER E WITH DOT BELOW",
  "1EB9 LATIN SMALL LETTER E WITH DOT BELOW;LATIN CAPITAL LETTER E WITH HOOK ABOVE",
  "1EBB LATIN SMALL LETTER E WITH HOOK ABOVE;LATIN CAPITAL LETTER E WITH TILDE",
  "1EBD LATIN SMALL LETTER E WITH TILDE;LATIN CAPITAL LETTER E WITH CIRCUMFLEX AND ACUTE",
  "1EBF LATIN SMALL LETTER E WITH CIRCUMFLEX AND ACUTE",
  "1EC0 LATIN CAPITAL LETTER E WITH CIRCUMFLEX AND GRAVE",
  "1EC1 LATIN SMALL LETTER E WITH CIRCUMFLEX AND GRAVE",
  "1EC2 LATIN CAPITAL LETTER E WITH CIRCUMFLEX AND HOOK ABOVE",
  "1EC3 LATIN SMALL LETTER E WITH CIRCUMFLEX AND HOOK ABOVE",
  "1EC4 LATIN CAPITAL LETTER E WITH CIRCUMFLEX AND TILDE",
  "1EC5 LATIN SMALL LETTER E WITH CIRCUMFLEX AND TILDE",
  "1EC6 LATIN CAPITAL LETTER E WITH CIRCUMFLEX AND DOT BELOW",
  "1EC7 LATIN SMALL LETTER E WITH CIRCUMFLEX AND DOT BELOW",
  "1EC8 LATIN CAPITAL LETTER I WITH HOOK ABOVE;LATIN SMALL LETTER I WITH HOOK ABOVE",
  "1ECA LATIN CAPITAL LETTER I WITH DOT BELOW;LATIN SMALL LETTER I WITH DOT BELOW",
  "1ECC LATIN CAPITAL LETTER O WITH DOT BELOW;LATIN SMALL LETTER O WITH DOT BELOW",
  "1ECE LATIN CAPITAL LETTER O WITH HOOK ABOVE;LATIN SMALL LETTER O WITH HOOK ABOVE",
  "1ED0 LATIN CAPITAL LETTER O WITH CIRCUMFLEX AND ACUTE",
  "1ED1 LATIN SMALL LETTER O WITH CIRCUMFLEX AND ACUTE",
  "1ED2 LATIN CAPITAL LETTER O WITH CIRCUMFLEX AND GRAVE",
  "1ED3 LATIN SMALL LETTER O WITH CIRCUMFLEX AND GRAVE",
  "1ED4 LATIN CAPITAL LETTER O WITH CIRCUMFLEX AND HOOK ABOVE",
  "1ED5 LATIN SMALL LETTER O WITH CIRCUMFLEX AND HOOK ABOVE",
  "1ED6 LATIN CAPITAL LETTER O WITH CIRCUMFLEX AND TILDE",
  "1ED7 LATIN SMALL LETTER O WITH CIRCUMFLEX AND TILDE",
  "1ED8 LATIN CAPITAL LETTER O WITH CIRCUMFLEX AND DOT BELOW",
  "1ED9 LATIN SMALL LETTER O WITH CIRCUMFLEX AND DOT BELOW",
  "1EDA LATIN CAPITAL LETTER O WITH HORN AND ACUTE;LATIN SMALL LETTER O WITH HORN AND ACUTE",
  "1EDC LATIN CAPITAL LETTER O WITH HORN AND GRAVE;LATIN SMALL LETTER O WITH HORN AND GRAVE",
  "1EDE LATIN CAPITAL LETTER O WITH HORN AND HOOK ABOVE",
  "1EDF LATIN SMALL LETTER O WITH HORN AND HOOK ABOVE;LATIN CAPITAL LETTER O WITH HORN AND TILDE",
  "1EE1 LATIN SMALL LETTER O WITH HORN AND TILDE;LATIN CAPITAL LETTER O WITH HORN AND DOT BELOW",
  "1EE3 LATIN SMALL LETTER O WITH HORN AND DOT BELOW;LATIN CAPITAL LETTER U WITH DOT BELOW",
  "1EE5 LATIN SMALL LETTER U WITH DOT BELOW;LATIN CAPITAL LETTER U WITH HOOK ABOVE",
  "1EE7 LATIN SMALL LETTER U WITH HOOK ABOVE;LATIN CAPITAL LETTER U WITH HORN AND ACUTE",
  "1EE9 LATIN SMALL LETTER U WITH HORN AND ACUTE;LATIN CAPITAL LETTER U WITH HORN AND GRAVE",
  "1EEB LATIN SMALL LETTER U WITH HORN AND GRAVE;LATIN CAPITAL LETTER U WITH HORN AND HOOK ABOVE",
  "1EED LATIN SMALL LETTER U WITH HORN AND HOOK ABOVE;LATIN CAPITAL LETTER U WITH HORN AND TILDE",
  "1EEF LATIN SMALL LETTER U WITH HORN AND TILDE;LATIN CAPITAL LETTER U WITH HORN AND DOT BELOW",
  "1EF1 LATIN SMALL LETTER U WITH HORN AND DOT BELOW;LATIN CAPITAL LETTER Y WITH GRAVE",
  "1EF3 LATIN SMALL LETTER Y WITH GRAVE;LATIN CAPITAL LETTER Y WITH DOT BELOW",
  "1EF5 LATIN SMALL LETTER Y WITH DOT BELOW;LATIN CAPITAL LETTER Y WITH HOOK ABOVE",
  "1EF7 LATIN SMALL LETTER Y WITH HOOK ABOVE;LATIN CAPITAL LETTER Y WITH TILDE",
  "1EF9 LATIN SMALL LETTER Y WITH TILDE;LATIN CAPITAL LETTER MIDDLE-WELSH LL",
  "1EFB LATIN SMALL LETTER MIDDLE-WELSH LL;LATIN CAPITAL LETTER MIDDLE-WELSH V",
  "1EFD LATIN SMALL LETTER MIDDLE-WELSH V;LATIN CAPITAL LETTER Y WITH LOOP",
  "1EFF LATIN SMALL LETTER Y WITH LOOP;GREEK SMALL LETTER ALPHA WITH PSILI",
  "1F01 GREEK SMALL LETTER ALPHA WITH DASIA;GREEK SMALL LETTER ALPHA WITH PSILI AND VARIA",
  "1F03 GREEK SMALL LETTER ALPHA WITH DASIA AND VARIA",
  "1F04 GREEK SMALL LETTER ALPHA WITH PSILI AND OXIA",
  "1F05 GREEK SMALL LETTER ALPHA WITH DASIA AND OXIA",
  "1F06 GREEK SMALL LETTER ALPHA WITH PSILI AND PERISPOMENI",
  "1F07 GREEK SMALL LETTER ALPHA WITH DASIA AND PERISPOMENI",
  "1F08 GREEK CAPITAL LETTER ALPHA WITH PSILI;GREEK CAPITAL LETTER ALPHA WITH DASIA",
  "1F0A GREEK CAPITAL LETTER ALPHA WITH PSILI AND VARIA",
  "1F0B GREEK CAPITAL LETTER ALPHA WITH DASIA AND VARIA",
  "1F0C GREEK CAPITAL LETTER ALPHA WITH PSILI AND OXIA",
  "1F0D GREEK CAPITAL LETTER ALPHA WITH DASIA AND OXIA",
  "1F0E GREEK CAPITAL LETTER ALPHA WITH PSILI AND PERISPOMENI",
  "1F0F GREEK CAPITAL LETTER ALPHA WITH DASIA AND PERISPOMENI",
  "1F10 GREEK SMALL LETTER EPSILON WITH PSILI;GREEK SMALL LETTER EPSILON WITH DASIA",
  "1F12 GREEK SMALL LETTER EPSILON WITH PSILI AND VARIA",
  "1F13 GREEK SMALL LETTER EPSILON WITH DASIA AND VARIA",
  "1F14 GREEK SMALL LETTER EPSILON WITH PSILI AND OXIA",
  "1F15 GREEK SMALL LETTER EPSILON WITH DASIA AND OXIA",
  "1F18 GREEK CAPITAL LETTER EPSILON WITH PSILI;GREEK CAPITAL LETTER EPSILON WITH DASIA",
  "1F1A GREEK CAPITAL LETTER EPSILON WITH PSILI AND VARIA",
  "1F1B GREEK CAPITAL LETTER EPSILON WITH DASIA AND VARIA",
  "1F1C GREEK CAPITAL LETTER EPSILON WITH PSILI AND OXIA",
  "1F1D GREEK CAPITAL LETTER EPSILON WITH DASIA AND OXIA",
  "1F20 GREEK SMALL LETTER ETA WITH PSILI;GREEK SMALL LETTER ETA WITH DASIA",
  "1F22 GREEK SMALL LETTER ETA WITH PSILI AND VARIA;GREEK SMALL LETTER ETA WITH DASIA AND VARIA",
  "1F24 GREEK SMALL LETTER ETA WITH PSILI AND OXIA;GREEK SMALL LETTER ETA WITH DASIA AND OXIA",
  "1F26 GREEK SMALL LETTER ETA WITH PSILI AND PERISPOMENI",
  "1F27 GREEK SMALL LETTER ETA WITH DASIA AND PERISPOMENI;GREEK CAPITAL LETTER ETA WITH PSILI",
  "1F29 GREEK CAPITAL LETTER ETA WITH DASIA;GREEK CAPITAL LETTER ETA WITH PSILI AND VARIA",
  "1F2B GREEK CAPITAL LETTER ETA WITH DASIA AND VARIA",
  "1F2C GREEK CAPITAL LETTER ETA WITH PSILI AND OXIA",
  "1F2D GREEK CAPITAL LETTER ETA WITH DASIA AND OXIA",
  "1F2E GREEK CAPITAL LETTER ETA WITH PSILI AND PERISPOMENI",
  "1F2F GREEK CAPITAL LETTER ETA WITH DASIA AND PERISPOMENI;GREEK SMALL LETTER IOTA WITH PSILI",
  "1F31 GREEK SMALL LETTER IOTA WITH DASIA;GREEK SMALL LETTER IOTA WITH PSILI AND VARIA",
  "1F33 GREEK SMALL LETTER IOTA WITH DASIA AND VARIA;GREEK SMALL LETTER IOTA WITH PSILI AND OXIA",
  "1F35 GREEK SMALL LETTER IOTA WITH DASIA AND OXIA",
  "1F36 GREEK SMALL LETTER IOTA WITH PSILI AND PERISPOMENI",
  "1F37 GREEK SMALL LETTER IOTA WITH DASIA AND PERISPOMENI;GREEK CAPITAL LETTER IOTA WITH PSILI",
  "1F39 GREEK CAPITAL LETTER IOTA WITH DASIA;GREEK CAPITAL LETTER IOTA WITH PSILI AND VARIA",
  "1F3B GREEK CAPITAL LETTER IOTA WITH DASIA AND VARIA",
  "1F3C GREEK CAPITAL LETTER IOTA WITH PSILI AND OXIA",
  "1F3D GREEK CAPITAL LETTER IOTA WITH DASIA AND OXIA",
  "1F3E GREEK CAPITAL LETTER IOTA WITH PSILI AND PERISPOMENI",
  "1F3F GREEK CAPITAL LETTER IOTA WITH DASIA AND PERISPOMENI",
  "1F40 GREEK SMALL LETTER OMICRON WITH PSILI;GREEK SMALL LETTER OMICRON WITH DASIA",
  "1F42 GREEK SMALL LETTER OMICRON WITH PSILI AND VARIA",
  "1F43 GREEK SMALL LETTER OMICRON WITH DASIA AND VARIA",
  "1F44 GREEK SMALL LETTER OMICRON WITH PSILI AND OXIA",
  "1F45 GREEK SMALL LETTER OMICRON WITH DASIA AND OXIA",
  "1F48 GREEK CAPITAL LETTER OMICRON WITH PSILI;GREEK CAPITAL LETTER OMICRON WITH DASIA",
  "1F4A GREEK CAPITAL LETTER OMICRON WITH PSILI AND VARIA",
  "1F4B GREEK CAPITAL LETTER OMICRON WITH DASIA AND VARIA",
  "1F4C GREEK CAPITAL LETTER OMICRON WITH PSILI AND OXIA",
  "1F4D GREEK CAPITAL LETTER OMICRON WITH DASIA AND OXIA",
  "1F50 GREEK SMALL LETTER UPSILON WITH PSILI;GREEK SMALL LETTER UPSILON WITH DASIA",
  "1F52 GREEK SMALL LETTER UPSILON WITH PSILI AND VARIA",
  "1F53 GREEK SMALL LETTER UPSILON WITH DASIA AND VARIA",
  "1F54 GREEK SMALL LETTER UPSILON WITH PSILI AND OXIA",
  "1F55 GREEK SMALL LETTER UPSILON WITH DASIA AND OXIA",
  "1F56 GREEK SMALL LETTER UPSILON WITH PSILI AND PERISPOMENI",
  "1F57 GREEK SMALL LETTER UPSILON WITH DASIA AND PERISPOMENI",
  "1F59 GREEK CAPITAL LETTER UPSILON WITH DASIA",
  "1F5B GREEK CAPITAL LETTER UPSILON WITH DASIA AND VARIA",
  "1F5D GREEK CAPITAL LETTER UPSILON WITH DASIA AND OXIA",
  "1F5F GREEK CAPITAL LETTER UPSILON WITH DASIA AND PERISPOMENI",
  "1F60 GREEK SMALL LETTER OMEGA WITH PSILI;GREEK SMALL LETTER OMEGA WITH DASIA",
  "1F62 GREEK SMALL LETTER OMEGA WITH PSILI AND VARIA",
  "1F63 GREEK SMALL LETTER OMEGA WITH DASIA AND VARIA",
  "1F64 GREEK SMALL LETTER OMEGA WITH PSILI AND OXIA",
  "1F65 GREEK SMALL LETTER OMEGA WITH DASIA AND OXIA",
  "1F66 GREEK SMALL LETTER OMEGA WITH PSILI AND PERISPOMENI",
  "1F67 GREEK SMALL LETTER OMEGA WITH DASIA AND PERISPOMENI",
  "1F68 GREEK CAPITAL LETTER OMEGA WITH PSILI;GREEK CAPITAL LETTER OMEGA WITH DASIA",
  "1F6A GREEK CAPITAL LETTER OMEGA WITH PSILI AND VARIA",
  "1F6B GREEK CAPITAL LETTER OMEGA WITH DASIA AND VARIA",
  "1F6C GREEK CAPITAL LETTER OMEGA WITH PSILI AND OXIA",
  "1F6D GREEK CAPITAL LETTER OMEGA WITH DASIA AND OXIA",
  "1F6E GREEK CAPITAL LETTER OMEGA WITH PSILI AND PERISPOMENI",
  "1F6F GREEK CAPITAL LETTER OMEGA WITH DASIA AND PERISPOMENI",
  "1F70 GREEK SMALL LETTER ALPHA WITH VARIA;GREEK SMALL LETTER ALPHA WITH OXIA",
  "1F72 GREEK SMALL LETTER EPSILON WITH VARIA;GREEK SMALL LETTER EPSILON WITH OXIA",
  "1F74 GREEK SMALL LETTER ETA WITH VARIA;GREEK SMALL LETTER ETA WITH OXIA",
  "1F76 GREEK SMALL LETTER IOTA WITH VARIA;GREEK SMALL LETTER IOTA WITH OXIA",
  "1F78 GREEK SMALL LETTER OMICRON WITH VARIA;GREEK SMALL LETTER OMICRON WITH OXIA",
  "1F7A GREEK SMALL LETTER UPSILON WITH VARIA;GREEK SMALL LETTER UPSILON WITH OXIA",
  "1F7C GREEK SMALL LETTER OMEGA WITH VARIA;GREEK SMALL LETTER OMEGA WITH OXIA",
  "1F80 GREEK SMALL LETTER ALPHA WITH PSILI AND YPOGEGRAMMENI",
  "1F81 GREEK SMALL LETTER ALPHA WITH DASIA AND YPOGEGRAMMENI",
  "1F82 GREEK SMALL LETTER ALPHA WITH PSILI AND VARIA AND YPOGEGRAMMENI",
  "1F83 GREEK SMALL LETTER ALPHA WITH DASIA AND VARIA AND YPOGEGRAMMENI",
  "1F84 GREEK SMALL LETTER ALPHA WITH PSILI AND OXIA AND YPOGEGRAMMENI",
  "1F85 GREEK SMALL LETTER ALPHA WITH DASIA AND OXIA AND YPOGEGRAMMENI",
  "1F86 GREEK SMALL LETTER ALPHA WITH PSILI AND PERISPOMENI AND YPOGEGRAMMENI",
  "1F87 GREEK SMALL LETTER ALPHA WITH DASIA AND PERISPOMENI AND YPOGEGRAMMENI",
  "1F88 GREEK CAPITAL LETTER ALPHA WITH PSILI AND PROSGEGRAMMENI",
  "1F89 GREEK CAPITAL LETTER ALPHA WITH DASIA AND PROSGEGRAMMENI",
  "1F8A GREEK CAPITAL LETTER ALPHA WITH PSILI AND VARIA AND PROSGEGRAMMENI",
  "1F8B GREEK CAPITAL LETTER ALPHA WITH DASIA AND VARIA AND PROSGEGRAMMENI",
  "1F8C GREEK CAPITAL LETTER ALPHA WITH PSILI AND OXIA AND PROSGEGRAMMENI",
  "1F8D GREEK CAPITAL LETTER ALPHA WITH DASIA AND OXIA AND PROSGEGRAMMENI",
  "1F8E GREEK CAPITAL LETTER ALPHA WITH PSILI AND PERISPOMENI AND PROSGEGRAMMENI",
  "1F8F GREEK CAPITAL LETTER ALPHA WITH DASIA AND PERISPOMENI AND PROSGEGRAMMENI",
  "1F90 GREEK SMALL LETTER ETA WITH PSILI AND YPOGEGRAMMENI",
  "1F91 GREEK SMALL LETTER ETA WITH DASIA AND YPOGEGRAMMENI",
  "1F92 GREEK SMALL LETTER ETA WITH PSILI AND VARIA AND YPOGEGRAMMENI",
  "1F93 GREEK SMALL LETTER ETA WITH DASIA AND VARIA AND YPOGEGRAMMENI",
  "1F94 GREEK SMALL LETTER ETA WITH PSILI AND OXIA AND YPOGEGRAMMENI",
  "1F95 GREEK SMALL LETTER ETA WITH DASIA AND OXIA AND YPOGEGRAMMENI",
  "1F96 GREEK SMALL LETTER ETA WITH PSILI AND PERISPOMENI AND YPOGEGRAMMENI",
  "1F97 GREEK SMALL LETTER ETA WITH DASIA AND PERISPOMENI AND YPOGEGRAMMENI",
  "1F98 GREEK CAPITAL LETTER ETA WITH PSILI AND PROSGEGRAMMENI",
  "1F99 GREEK CAPITAL LETTER ETA WITH DASIA AND PROSGEGRAMMENI",
  "1F9A GREEK CAPITAL LETTER ETA WITH PSILI AND VARIA AND PROSGEGRAMMENI",
  "1F9B GREEK CAPITAL LETTER ETA WITH DASIA AND VARIA AND PROSGEGRAMMENI",
  "1F9C GREEK CAPITAL LETTER ETA WITH PSILI AND OXIA AND PROSGEGRAMMENI",
  "1F9D GREEK CAPITAL LETTER ETA WITH DASIA AND OXIA AND PROSGEGRAMMENI",
  "1F9E GREEK CAPITAL LETTER ETA WITH PSILI AND PERISPOMENI AND PROSGEGRAMMENI",
  "1F9F GREEK CAPITAL LETTER ETA WITH DASIA AND PERISPOMENI AND PROSGEGRAMMENI",
  "1FA0 GREEK SMALL LETTER OMEGA WITH PSILI AND YPOGEGRAMMENI",
  "1FA1 GREEK SMALL LETTER OMEGA WITH DASIA AND YPOGEGRAMMENI",
  "1FA2 GREEK SMALL LETTER OMEGA WITH PSILI AND VARIA AND YPOGEGRAMMENI",
  "1FA3 GREEK SMALL LETTER OMEGA WITH DASIA AND VARIA AND YPOGEGRAMMENI",
  "1FA4 GREEK SMALL LETTER OMEGA WITH PSILI AND OXIA AND YPOGEGRAMMENI",
  "1FA5 GREEK SMALL LETTER OMEGA WITH DASIA AND OXIA AND YPOGEGRAMMENI",
  "1FA6 GREEK SMALL LETTER OMEGA WITH PSILI AND PERISPOMENI AND YPOGEGRAMMENI",
  "1FA7 GREEK SMALL LETTER OMEGA WITH DASIA AND PERISPOMENI AND YPOGEGRAMMENI",
  "1FA8 GREEK CAPITAL LETTER OMEGA WITH PSILI AND PROSGEGRAMMENI",
  "1FA9 GREEK CAPITAL LETTER OMEGA WITH DASIA AND PROSGEGRAMMENI",
  "1FAA GREEK CAPITAL LETTER OMEGA WITH PSILI AND VARIA AND PROSGEGRAMMENI",
  "1FAB GREEK CAPITAL LETTER OMEGA WITH DASIA AND VARIA AND PROSGEGRAMMENI",
  "1FAC GREEK CAPITAL LETTER OMEGA WITH PSILI AND OXIA AND PROSGEGRAMMENI",
  "1FAD GREEK CAPITAL LETTER OMEGA WITH DASIA AND OXIA AND PROSGEGRAMMENI",
  "1FAE GREEK CAPITAL LETTER OMEGA WITH PSILI AND PERISPOMENI AND PROSGEGRAMMENI",
  "1FAF GREEK CAPITAL LETTER OMEGA WITH DASIA AND PERISPOMENI AND PROSGEGRAMMENI",
  "1FB0 GREEK SMALL LETTER ALPHA WITH VRACHY;GREEK SMALL LETTER ALPHA WITH MACRON",
  "1FB2 GREEK SMALL LETTER ALPHA WITH VARIA AND YPOGEGRAMMENI",
  "1FB3 GREEK SMALL LETTER ALPHA WITH YPOGEGRAMMENI",
  "1FB4 GREEK SMALL LETTER ALPHA WITH OXIA AND YPOGEGRAMMENI",
  "1FB6 GREEK SMALL LETTER ALPHA WITH PERISPOMENI",
  "1FB7 GREEK SMALL LETTER ALPHA WITH PERISPOMENI AND YPOGEGRAMMENI",
  "1FB8 GREEK CAPITAL LETTER ALPHA WITH VRACHY;GREEK CAPITAL LETTER ALPHA WITH MACRON",
  "1FBA GREEK CAPITAL LETTER ALPHA WITH VARIA;GREEK CAPITAL LETTER ALPHA WITH OXIA",
  "1FBC GREEK CAPITAL LETTER ALPHA WITH PROSGEGRAMMENI;GREEK KORONIS;GREEK PROSGEGRAMMENI",
  "1FBF GREEK PSILI;GREEK PERISPOMENI;GREEK DIALYTIKA AND PERISPOMENI",
  "1FC2 GREEK SMALL LETTER ETA WITH VARIA AND YPOGEGRAMMENI",
  "1FC3 GREEK SMALL LETTER ETA WITH YPOGEGRAMMENI",
  "1FC4 GREEK SMALL LETTER ETA WITH OXIA AND YPOGEGRAMMENI",
  "1FC6 GREEK SMALL LETTER ETA WITH PERISPOMENI",
  "1FC7 GREEK SMALL LETTER ETA WITH PERISPOMENI AND YPOGEGRAMMENI",
  "1FC8 GREEK CAPITAL LETTER EPSILON WITH VARIA;GREEK CAPITAL LETTER EPSILON WITH OXIA",
  "1FCA GREEK CAPITAL LETTER ETA WITH VARIA;GREEK CAPITAL LETTER ETA WITH OXIA",
  "1FCC GREEK CAPITAL LETTER ETA WITH PROSGEGRAMMENI;GREEK PSILI AND VARIA;GREEK PSILI AND OXIA",
  "1FCF GREEK PSILI AND PERISPOMENI;GREEK SMALL LETTER IOTA WITH VRACHY",
  "1FD1 GREEK SMALL LETTER IOTA WITH MACRON;GREEK SMALL LETTER IOTA WITH DIALYTIKA AND VARIA",
  "1FD3 GREEK SMALL LETTER IOTA WITH DIALYTIKA AND OXIA",
  "1FD6 GREEK SMALL LETTER IOTA WITH PERISPOMENI",
  "1FD7 GREEK SMALL LETTER IOTA WITH DIALYTIKA AND PERISPOMENI",
  "1FD8 GREEK CAPITAL LETTER IOTA WITH VRACHY;GREEK CAPITAL LETTER IOTA WITH MACRON",
  "1FDA GREEK CAPITAL LETTER IOTA WITH VARIA;GREEK CAPITAL LETTER IOTA WITH OXIA",
  "1FDD GREEK DASIA AND VARIA;GREEK DASIA AND OXIA;GREEK DASIA AND PERISPOMENI",
  "1FE0 GREEK SMALL LETTER UPSILON WITH VRACHY;GREEK SMALL LETTER UPSILON WITH MACRON",
  "1FE2 GREEK SMALL LETTER UPSILON WITH DIALYTIKA AND VARIA",
  "1FE3 GREEK SMALL LETTER UPSILON WITH DIALYTIKA AND OXIA;GREEK SMALL LETTER RHO WITH PSILI",
  "1FE5 GREEK SMALL LETTER RHO WITH DASIA;GREEK SMALL LETTER UPSILON WITH PERISPOMENI",
  "1FE7 GREEK SMALL LETTER UPSILON WITH DIALYTIKA AND PERISPOMENI",
  "1FE8 GREEK CAPITAL LETTER UPSILON WITH VRACHY;GREEK CAPITAL LETTER UPSILON WITH MACRON",
  "1FEA GREEK CAPITAL LETTER UPSILON WITH VARIA;GREEK CAPITAL LETTER UPSILON WITH OXIA",
  "1FEC GREEK CAPITAL LETTER RHO WITH DASIA;GREEK DIALYTIKA AND VARIA;GREEK DIALYTIKA AND OXIA",
  "1FEF GREEK VARIA",
  "1FF2 GREEK SMALL LETTER OMEGA WITH VARIA AND YPOGEGRAMMENI",
  "1FF3 GREEK SMALL LETTER OMEGA WITH YPOGEGRAMMENI",
  "1FF4 GREEK SMALL LETTER OMEGA WITH OXIA AND YPOGEGRAMMENI",
  "1FF6 GREEK SMALL LETTER OMEGA WITH PERISPOMENI",
  "1FF7 GREEK SMALL LETTER OMEGA WITH PERISPOMENI AND YPOGEGRAMMENI",
  "1FF8 GREEK CAPITAL LETTER OMICRON WITH VARIA;GREEK CAPITAL LETTER OMICRON WITH OXIA",
  "1FFA GREEK CAPITAL LETTER OMEGA WITH VARIA;GREEK CAPITAL LETTER OMEGA WITH OXIA",
  "1FFC GREEK CAPITAL LETTER OMEGA WITH PROSGEGRAMMENI;GREEK OXIA;GREEK DASIA",
  "2C60 LATIN CAPITAL LETTER L WITH DOUBLE BAR;LATIN SMALL LETTER L WITH DOUBLE BAR",
  "2C62 LATIN CAPITAL LETTER L WITH MIDDLE TILDE;LATIN CAPITAL LETTER P WITH STROKE",
  "2C64 LATIN CAPITAL LETTER R WITH TAIL;LATIN SMALL LETTER A WITH STROKE",
  "2C66 LATIN SMALL LETTER T WITH DIAGONAL STROKE;LATIN CAPITAL LETTER H WITH DESCENDER",
  "2C68 LATIN SMALL LETTER H WITH DESCENDER;LATIN CAPITAL LETTER K WITH DESCENDER",
  "2C6A LATIN SMALL LETTER K WITH DESCENDER;LATIN CAPITAL LETTER Z WITH DESCENDER",
  "2C6C LATIN SMALL LETTER Z WITH DESCENDER;LATIN CAPITAL LETTER ALPHA",
  "2C6E LATIN CAPITAL LETTER M WITH HOOK;LATIN CAPITAL LETTER TURNED A",
  "2C70 LATIN CAPITAL LETTER TURNED ALPHA;LATIN SMALL LETTER V WITH RIGHT HOOK",
  "2C72 LATIN CAPITAL LETTER W WITH HOOK;LATIN SMALL LETTER W WITH HOOK",
  "2C74 LATIN SMALL LETTER V WITH CURL;LATIN CAPITAL LETTER HALF H;LATIN SMALL LETTER HALF H",
  "2C77 LATIN SMALL LETTER TAILLESS PHI;LATIN SMALL LETTER E WITH NOTCH",
  "2C79 LATIN SMALL LETTER TURNED R WITH TAIL;LATIN SMALL LETTER O WITH LOW RING INSIDE",
  "2C7B LATIN LETTER SMALL CAPITAL TURNED E;LATIN SUBSCRIPT SMALL LETTER J",
  "2C7D MODIFIER LETTER CAPITAL V;LATIN CAPITAL LETTER S WITH SWASH TAIL",
  "2C7F LATIN CAPITAL LETTER Z WITH SWASH TAIL",
  "3041 HIRAGANA LETTER SMALL A;HIRAGANA LETTER A;HIRAGANA LETTER SMALL I;HIRAGANA LETTER I",
  "3045 HIRAGANA LETTER SMALL U;HIRAGANA LETTER U;HIRAGANA LETTER SMALL E;HIRAGANA LETTER E",
  "3049 HIRAGANA LETTER SMALL O;HIRAGANA LETTER O;HIRAGANA LETTER KA;HIRAGANA LETTER GA",
  "304D HIRAGANA LETTER KI;HIRAGANA LETTER GI;HIRAGANA LETTER KU;HIRAGANA LETTER GU",
  "3051 HIRAGANA LETTER KE;HIRAGANA LETTER GE;HIRAGANA LETTER KO;HIRAGANA LETTER GO",
  "3055 HIRAGANA LETTER SA;HIRAGANA LETTER ZA;HIRAGANA LETTER SI;HIRAGANA LETTER ZI",
  "3059 HIRAGANA LETTER SU;HIRAGANA LETTER ZU;HIRAGANA LETTER SE;HIRAGANA LETTER ZE",
  "305D HIRAGANA LETTER SO;HIRAGANA LETTER ZO;HIRAGANA LETTER TA;HIRAGANA LETTER DA",
  "3061 HIRAGANA LETTER TI;HIRAGANA LETTER DI;HIRAGANA LETTER SMALL TU;HIRAGANA LETTER TU",
  "3065 HIRAGANA LETTER DU;HIRAGANA LETTER TE;HIRAGANA LETTER DE;HIRAGANA LETTER TO",
  "3069 HIRAGANA LETTER DO;HIRAGANA LETTER NA;HIRAGANA LETTER NI;HIRAGANA LETTER NU",
  "306D HIRAGANA LETTER NE;HIRAGANA LETTER NO;HIRAGANA LETTER HA;HIRAGANA LETTER BA",
  "3071 HIRAGANA LETTER PA;HIRAGANA LETTER HI;HIRAGANA LETTER BI;HIRAGANA LETTER PI",
  "3075 HIRAGANA LETTER HU;HIRAGANA LETTER BU;HIRAGANA LETTER PU;HIRAGANA LETTER HE",
  "3079 HIRAGANA LETTER BE;HIRAGANA LETTER PE;HIRAGANA LETTER HO;HIRAGANA LETTER BO",
  "307D HIRAGANA LETTER PO;HIRAGANA LETTER MA;HIRAGANA LETTER MI;HIRAGANA LETTER MU",
  "3081 HIRAGANA LETTER ME;HIRAGANA LETTER MO;HIRAGANA LETTER SMALL YA;HIRAGANA LETTER YA",
  "3085 HIRAGANA LETTER SMALL YU;HIRAGANA LETTER YU;HIRAGANA LETTER SMALL YO;HIRAGANA LETTER YO",
  "3089 HIRAGANA LETTER RA;HIRAGANA LETTER RI;HIRAGANA LETTER RU;HIRAGANA LETTER RE",
  "308D HIRAGANA LETTER RO;HIRAGANA LETTER SMALL WA;HIRAGANA LETTER WA;HIRAGANA LETTER WI",
  "3091 HIRAGANA LETTER WE;HIRAGANA LETTER WO;HIRAGANA LETTER N;HIRAGANA LETTER VU",
  "3095 HIRAGANA LETTER SMALL KA;HIRAGANA LETTER SMALL KE",
  "3099 COMBINING KATAKANA-HIRAGANA VOICED SOUND MARK",
  "309A COMBINING KATAKANA-HIRAGANA SEMI-VOICED SOUND MARK;KATAKANA-HIRAGANA VOICED SOUND MARK",
  "309C KATAKANA-HIRAGANA SEMI-VOICED SOUND MARK;HIRAGANA ITERATION MARK",
  "309E HIRAGANA VOICED ITERATION MARK;HIRAGANA DIGRAPH YORI;KATAKANA-HIRAGANA DOUBLE HYPHEN",
  "30A1 KATAKANA LETTER SMALL A;KATAKANA LETTER A;KATAKANA LETTER SMALL I;KATAKANA LETTER I",
  "30A5 KATAKANA LETTER SMALL U;KATAKANA LETTER U;KATAKANA LETTER SMALL E;KATAKANA LETTER E",
  "30A9 KATAKANA LETTER SMALL O;KATAKANA LETTER O;KATAKANA LETTER KA;KATAKANA LETTER GA",
  "30AD KATAKANA LETTER KI;KATAKANA LETTER GI;KATAKANA LETTER KU;KATAKANA LETTER GU",
  "30B1 KATAKANA LETTER KE;KATAKANA LETTER GE;KATAKANA LETTER KO;KATAKANA LETTER GO",
  "30B5 KATAKANA LETTER SA;KATAKANA LETTER ZA;KATAKANA LETTER SI;KATAKANA LETTER ZI",
  "30B9 KATAKANA LETTER SU;KATAKANA LETTER ZU;KATAKANA LETTER SE;KATAKANA LETTER ZE",
  "30BD KATAKANA LETTER SO;KATAKANA LETTER ZO;KATAKANA LETTER TA;KATAKANA LETTER DA",
  "30C1 KATAKANA LETTER TI;KATAKANA LETTER DI;KATAKANA LETTER SMALL TU;KATAKANA LETTER TU",
  "30C5 KATAKANA LETTER DU;KATAKANA LETTER TE;KATAKANA LETTER DE;KATAKANA LETTER TO",
  "30C9 KATAKANA LETTER DO;KATAKANA LETTER NA;KATAKANA LETTER NI;KATAKANA LETTER NU",
  "30CD KATAKANA LETTER NE;KATAKANA LETTER NO;KATAKANA LETTER HA;KATAKANA LETTER BA",
  "30D1 KATAKANA LETTER PA;KATAKANA LETTER HI;KATAKANA LETTER BI;KATAKANA LETTER PI",
  "30D5 KATAKANA LETTER HU;KATAKANA LETTER BU;KATAKANA LETTER PU;KATAKANA LETTER HE",
  "30D9 KATAKANA LETTER BE;KATAKANA LETTER PE;KATAKANA LETTER HO;KATAKANA LETTER BO",
  "30DD KATAKANA LETTER PO;KATAKANA LETTER MA;KATAKANA LETTER MI;KATAKANA LETTER MU",
  "30E1 KATAKANA LETTER ME;KATAKANA LETTER MO;KATAKANA LETTER SMALL YA;KATAKANA LETTER YA",
  "30E5 KATAKANA LETTER SMALL YU;KATAKANA LETTER YU;KATAKANA LETTER SMALL YO;KATAKANA LETTER YO",
  "30E9 KATAKANA LETTER RA;KATAKANA LETTER RI;KATAKANA LETTER RU;KATAKANA LETTER RE",
  "30ED KATAKANA LETTER RO;KATAKANA LETTER SMALL WA;KATAKANA LETTER WA;KATAKANA LETTER WI",
  "30F1 KATAKANA LETTER WE;KATAKANA LETTER WO;KATAKANA LETTER N;KATAKANA LETTER VU",
  "30F5 KATAKANA LETTER SMALL KA;KATAKANA LETTER SMALL KE;KATAKANA LETTER VA;KATAKANA LETTER VI",
  "30F9 KATAKANA LETTER VE;KATAKANA LETTER VO;KATAKANA MIDDLE DOT",
  "30FC KATAKANA-HIRAGANA PROLONGED SOUND MARK;KATAKANA ITERATION MARK",
  "30FE KATAKANA VOICED ITERATION MARK;KATAKANA DIGRAPH KOTO",
  "A640 CYRILLIC CAPITAL LETTER ZEMLYA;CYRILLIC SMALL LETTER ZEMLYA",
  "A642 CYRILLIC CAPITAL LETTER DZELO;CYRILLIC SMALL LETTER DZELO",
  "A644 CYRILLIC CAPITAL LETTER REVERSED DZE;CYRILLIC SMALL LETTER REVERSED DZE",
  "A646 CYRILLIC CAPITAL LETTER IOTA;CYRILLIC SMALL LETTER IOTA;CYRILLIC CAPITAL LETTER DJERV",
  "A649 CYRILLIC SMALL LETTER DJERV;CYRILLIC CAPITAL LETTER MONOGRAPH UK",
  "A64B CYRILLIC SMALL LETTER MONOGRAPH UK;CYRILLIC CAPITAL LETTER BROAD OMEGA",
  "A64D CYRILLIC SMALL LETTER BROAD OMEGA;CYRILLIC CAPITAL LETTER NEUTRAL YER",
  "A64F CYRILLIC SMALL LETTER NEUTRAL YER;CYRILLIC CAPITAL LETTER YERU WITH BACK YER",
  "A651 CYRILLIC SMALL LETTER YERU WITH BACK YER;CYRILLIC CAPITAL LETTER IOTIFIED YAT",
  "A653 CYRILLIC SMALL LETTER IOTIFIED YAT;CYRILLIC CAPITAL LETTER REVERSED YU",
  "A655 CYRILLIC SMALL LETTER REVERSED YU;CYRILLIC CAPITAL LETTER IOTIFIED A",
  "A657 CYRILLIC SMALL LETTER IOTIFIED A;CYRILLIC CAPITAL LETTER CLOSED LITTLE YUS",
  "A659 CYRILLIC SMALL LETTER CLOSED LITTLE YUS;CYRILLIC CAPITAL LETTER BLENDED YUS",
  "A65B CYRILLIC SMALL LETTER BLENDED YUS;CYRILLIC CAPITAL LETTER IOTIFIED CLOSED LITTLE YUS",
  "A65D CYRILLIC SMALL LETTER IOTIFIED CLOSED LITTLE YUS;CYRILLIC CAPITAL LETTER YN",
  "A65F CYRILLIC SMALL LETTER YN;CYRILLIC CAPITAL LETTER REVERSED TSE",
  "A661 CYRILLIC SMALL LETTER REVERSED TSE;CYRILLIC CAPITAL LETTER SOFT DE",
  "A663 CYRILLIC SMALL LETTER SOFT DE;CYRILLIC CAPITAL LETTER SOFT EL",
  "A665 CYRILLIC SMALL LETTER SOFT EL;CYRILLIC CAPITAL LETTER SOFT EM",
  "A667 CYRILLIC SMALL LETTER SOFT EM;CYRILLIC CAPITAL LETTER MONOCULAR O",
  "A669 CYRILLIC SMALL LETTER MONOCULAR O;CYRILLIC CAPITAL LETTER BINOCULAR O",
  "A66B CYRILLIC SMALL LETTER BINOCULAR O;CYRILLIC CAPITAL LETTER DOUBLE MONOCULAR O",
  "A66D CYRILLIC SMALL LETTER DOUBLE MONOCULAR O;CYRILLIC LETTER MULTIOCULAR O",
  "A66F COMBINING CYRILLIC VZMET;COMBINING CYRILLIC TEN MILLIONS SIGN",
  "A671 COMBINING CYRILLIC HUNDRED MILLIONS SIGN;COMBINING CYRILLIC THOUSAND MILLIONS SIGN",
  "A673 SLAVONIC ASTERISK;COMBINING CYRILLIC LETTER UKRAINIAN IE;COMBINING CYRILLIC LETTER I",
  "A676 COMBINING CYRILLIC LETTER YI;COMBINING CYRILLIC LETTER U",
  "A678 COMBINING CYRILLIC LETTER HARD SIGN;COMBINING CYRILLIC LETTER YERU",
  "A67A COMBINING CYRILLIC LETTER SOFT SIGN;COMBINING CYRILLIC LETTER OMEGA",
  "A67C COMBINING CYRILLIC KAVYKA;COMBINING CYRILLIC PAYEROK;CYRILLIC KAVYKA;CYRILLIC PAYEROK",
  "A680 CYRILLIC CAPITAL LETTER DWE;CYRILLIC SMALL LETTER DWE;CYRILLIC CAPITAL LETTER DZWE",
  "A683 CYRILLIC SMALL LETTER DZWE;CYRILLIC CAPITAL LETTER ZHWE;CYRILLIC SMALL LETTER ZHWE",
  "A686 CYRILLIC CAPITAL LETTER CCHE;CYRILLIC SMALL LETTER CCHE;CYRILLIC CAPITAL LETTER DZZE",
  "A689 CYRILLIC SMALL LETTER DZZE;CYRILLIC CAPITAL LETTER TE WITH MIDDLE HOOK",
  "A68B CYRILLIC SMALL LETTER TE WITH MIDDLE HOOK;CYRILLIC CAPITAL LETTER TWE",
  "A68D CYRILLIC SMALL LETTER TWE;CYRILLIC CAPITAL LETTER TSWE;CYRILLIC SMALL LETTER TSWE",
  "A690 CYRILLIC CAPITAL LETTER TSSE;CYRILLIC SMALL LETTER TSSE;CYRILLIC CAPITAL LETTER TCHE",
  "A693 CYRILLIC SMALL LETTER TCHE;CYRILLIC CAPITAL LETTER HWE;CYRILLIC SMALL LETTER HWE",
  "A696 CYRILLIC CAPITAL LETTER SHWE;CYRILLIC SMALL LETTER SHWE;CYRILLIC CAPITAL LETTER DOUBLE O",
  "A699 CYRILLIC SMALL LETTER DOUBLE O;CYRILLIC CAPITAL LETTER CROSSED O",
  "A69B CYRILLIC SMALL LETTER CROSSED O;MODIFIER LETTER CYRILLIC HARD SIGN",
  "A69D MODIFIER LETTER CYRILLIC SOFT SIGN;COMBINING CYRILLIC LETTER EF",
  "A69F COMBINING CYRILLIC LETTER IOTIFIED E",
  "A720 MODIFIER LETTER STRESS AND HIGH TONE;MODIFIER LETTER STRESS AND LOW TONE",
  "A722 LATIN CAPITAL LETTER EGYPTOLOGICAL ALEF;LATIN SMALL LETTER EGYPTOLOGICAL ALEF",
  "A724 LATIN CAPITAL LETTER EGYPTOLOGICAL AIN;LATIN SMALL LETTER EGYPTOLOGICAL AIN",
  "A726 LATIN CAPITAL LETTER HENG;LATIN SMALL LETTER HENG;LATIN CAPITAL LETTER TZ",
  "A729 LATIN SMALL LETTER TZ;LATIN CAPITAL LETTER TRESILLO;LATIN SMALL LETTER TRESILLO",
  "A72C LATIN CAPITAL LETTER CUATRILLO;LATIN SMALL LETTER CUATRILLO",
  "A72E LATIN CAPITAL LETTER CUATRILLO WITH COMMA;LATIN SMALL LETTER CUATRILLO WITH COMMA",
  "A730 LATIN LETTER SMALL CAPITAL F;LATIN LETTER SMALL CAPITAL S;LATIN CAPITAL LETTER AA",
  "A733 LATIN SMALL LETTER AA;LATIN CAPITAL LETTER AO;LATIN SMALL LETTER AO",
  "A736 LATIN CAPITAL LETTER AU;LATIN SMALL LETTER AU;LATIN CAPITAL LETTER AV",
  "A739 LATIN SMALL LETTER AV;LATIN CAPITAL LETTER AV WITH HORIZONTAL BAR",
  "A73B LATIN SMALL LETTER AV WITH HORIZONTAL BAR;LATIN CAPITAL LETTER AY;LATIN SMALL LETTER AY",
  "A73E LATIN CAPITAL LETTER REVERSED C WITH DOT;LATIN SMALL LETTER REVERSED C WITH DOT",
  "A740 LATIN CAPITAL LETTER K WITH STROKE;LATIN SMALL LETTER K WITH STROKE",
  "A742 LATIN CAPITAL LETTER K WITH DIAGONAL STROKE;LATIN SMALL LETTER K WITH DIAGONAL STROKE",
  "A744 LATIN CAPITAL LETTER K WITH STROKE AND DIAGONAL STROKE",
  "A745 LATIN SMALL LETTER K WITH STROKE AND DIAGONAL STROKE;LATIN CAPITAL LETTER BROKEN L",
  "A747 LATIN SMALL LETTER BROKEN L;LATIN CAPITAL LETTER L WITH HIGH STROKE",
  "A749 LATIN SMALL LETTER L WITH HIGH STROKE;LATIN CAPITAL LETTER O WITH LONG STROKE OVERLAY",
  "A74B LATIN SMALL LETTER O WITH LONG STROKE OVERLAY;LATIN CAPITAL LETTER O WITH LOOP",
  "A74D LATIN SMALL LETTER O WITH LOOP;LATIN CAPITAL LETTER OO;LATIN SMALL LETTER OO",
  "A750 LATIN CAPITAL LETTER P WITH STROKE THROUGH DESCENDER",
  "A751 LATIN SMALL LETTER P WITH STROKE THROUGH DESCENDER;LATIN CAPITAL LETTER P WITH FLOURISH",
  "A753 LATIN SMALL LETTER P WITH FLOURISH;LATIN CAPITAL LETTER P WITH SQUIRREL TAIL",
  "A755 LATIN SMALL LETTER P WITH SQUIRREL TAIL",
  "A756 LATIN CAPITAL LETTER Q WITH STROKE THROUGH DESCENDER",
  "A757 LATIN SMALL LETTER Q WITH STROKE THROUGH DESCENDER",
  "A758 LATIN CAPITAL LETTER Q WITH DIAGONAL STROKE;LATIN SMALL LETTER Q WITH DIAGONAL STROKE",
  "A75A LATIN CAPITAL LETTER R ROTUNDA;LATIN SMALL LETTER R ROTUNDA",
  "A75C LATIN CAPITAL LETTER RUM ROTUNDA;LATIN SMALL LETTER RUM ROTUNDA",
  "A75E LATIN CAPITAL LETTER V WITH DIAGONAL STROKE;LATIN SMALL LETTER V WITH DIAGONAL STROKE",
  "A760 LATIN CAPITAL LETTER VY;LATIN SMALL LETTER VY;LATIN CAPITAL LETTER VISIGOTHIC Z",
  "A763 LATIN SMALL LETTER VISIGOTHIC Z;LATIN CAPITAL LETTER THORN WITH STROKE",
  "A765 LATIN SMALL LETTER THORN WITH STROKE",
  "A766 LATIN CAPITAL LETTER THORN WITH STROKE THROUGH DESCENDER",
  "A767 LATIN SMALL LETTER THORN WITH STROKE THROUGH DESCENDER;LATIN CAPITAL LETTER VEND",
  "A769 LATIN SMALL LETTER VEND;LATIN CAPITAL LETTER ET;LATIN SMALL LETTER ET",
  "A76C LATIN CAPITAL LETTER IS;LATIN SMALL LETTER IS;LATIN CAPITAL LETTER CON",
  "A76F LATIN SMALL LETTER CON;MODIFIER LETTER US;LATIN SMALL LETTER DUM;LATIN SMALL LETTER LUM",
  "A773 LATIN SMALL LETTER MUM;LATIN SMALL LETTER NUM;LATIN SMALL LETTER RUM",
  "A776 LATIN LETTER SMALL CAPITAL RUM;LATIN SMALL LETTER TUM;LATIN SMALL LETTER UM",
  "A779 LATIN CAPITAL LETTER INSULAR D;LATIN SMALL LETTER INSULAR D",
  "A77B LATIN CAPITAL LETTER INSULAR F;LATIN SMALL LETTER INSULAR F",
  "A77D LATIN CAPITAL LETTER INSULAR G;LATIN CAPITAL LETTER TURNED INSULAR G",
  "A77F LATIN SMALL LETTER TURNED INSULAR G;LATIN CAPITAL LETTER TURNED L",
  "A781 LATIN SMALL LETTER TURNED L;LATIN CAPITAL LETTER INSULAR R;LATIN SMALL LETTER INSULAR R",
  "A784 LATIN CAPITAL LETTER INSULAR S;LATIN SMALL LETTER INSULAR S",
  "A786 LATIN CAPITAL LETTER INSULAR T;LATIN SMALL LETTER INSULAR T",
  "A788 MODIFIER LETTER LOW CIRCUMFLEX ACCENT;MODIFIER LETTER COLON",
  "A78A MODIFIER LETTER SHORT EQUALS SIGN;LATIN CAPITAL LETTER SALTILLO",
  "A78C LATIN SMALL LETTER SALTILLO;LATIN CAPITAL LETTER TURNED H",
  "A78E LATIN SMALL LETTER L WITH RETROFLEX HOOK AND BELT;LATIN LETTER SINOLOGICAL DOT",
  "A790 LATIN CAPITAL LETTER N WITH DESCENDER;LATIN SMALL LETTER N WITH DESCENDER",
  "A792 LATIN CAPITAL LETTER C WITH BAR;LATIN SMALL LETTER C WITH BAR",
  "A794 LATIN SMALL LETTER C WITH PALATAL HOOK;LATIN SMALL LETTER H WITH PALATAL HOOK",
  "A796 LATIN CAPITAL LETTER B WITH FLOURISH;LATIN SMALL LETTER B WITH FLOURISH",
  "A798 LATIN CAPITAL LETTER F WITH STROKE;LATIN SMALL LETTER F WITH STROKE",
  "A79A LATIN CAPITAL LETTER VOLAPUK AE;LATIN SMALL LETTER VOLAPUK AE",
  "A79C LATIN CAPITAL LETTER VOLAPUK OE;LATIN SMALL LETTER VOLAPUK OE",
  "A79E LATIN CAPITAL LETTER VOLAPUK UE;LATIN SMALL LETTER VOLAPUK UE",
  "A7A0 LATIN CAPITAL LETTER G WITH OBLIQUE STROKE;LATIN SMALL LETTER G WITH OBLIQUE STROKE",
  "A7A2 LATIN CAPITAL LETTER K WITH OBLIQUE STROKE;LATIN SMALL LETTER K WITH OBLIQUE STROKE",
  "A7A4 LATIN CAPITAL LETTER N WITH OBLIQUE STROKE;LATIN SMALL LETTER N WITH OBLIQUE STROKE",
  "A7A6 LATIN CAPITAL LETTER R WITH OBLIQUE STROKE;LATIN SMALL LETTER R WITH OBLIQUE STROKE",
  "A7A8 LATIN CAPITAL LETTER S WITH OBLIQUE STROKE;LATIN SMALL LETTER S WITH OBLIQUE STROKE",
  "A7AA LATIN CAPITAL LETTER H WITH HOOK;LATIN CAPITAL LETTER REVERSED OPEN E",
  "A7AC LATIN CAPITAL LETTER SCRIPT G;LATIN CAPITAL LETTER L WITH BELT",
  "A7AE LATIN CAPITAL LETTER SMALL CAPITAL I;LATIN LETTER SMALL CAPITAL Q",
  "A7B0 LATIN CAPITAL LETTER TURNED K;LATIN CAPITAL LETTER TURNED T",
  "A7B2 LATIN CAPITAL LETTER J WITH CROSSED-TAIL;LATIN CAPITAL LETTER CHI",
  "A7B4 LATIN CAPITAL LETTER BETA;LATIN SMALL LETTER BETA;LATIN CAPITAL LETTER OMEGA",
  "A7B7 LATIN SMALL LETTER OMEGA;LATIN CAPITAL LETTER U WITH STROKE",
  "A7B9 LATIN SMALL LETTER U WITH STROKE;LATIN CAPITAL LETTER GLOTTAL A",
  "A7BB LATIN SMALL LETTER GLOTTAL A;LATIN CAPITAL LETTER GLOTTAL I;LATIN SMALL LETTER GLOTTAL I",
  "A7BE LATIN CAPITAL LETTER GLOTTAL U;LATIN SMALL LETTER GLOTTAL U",
  "A7C0 LATIN CAPITAL LETTER OLD POLISH O;LATIN SMALL LETTER OLD POLISH O",
  "A7C2 LATIN CAPITAL LETTER ANGLICANA W;LATIN SMALL LETTER ANGLICANA W",
  "A7C4 LATIN CAPITAL LETTER C WITH PALATAL HOOK;LATIN CAPITAL LETTER S WITH HOOK",
  "A7C6 LATIN CAPITAL LETTER Z WITH PALATAL HOOK",
  "A7C7 LATIN CAPITAL LETTER D WITH SHORT STROKE OVERLAY",
  "A7C8 LATIN SMALL LETTER D WITH SHORT STROKE OVERLAY",
  "A7C9 LATIN CAPITAL LETTER S WITH SHORT STROKE OVERLAY",
  "A7CA LATIN SMALL LETTER S WITH SHORT STROKE OVERLAY",
  "A7D0 LATIN CAPITAL LETTER CLOSED INSULAR G;LATIN SMALL LETTER CLOSED INSULAR G",
  "A7D3 LATIN SMALL LETTER DOUBLE THORN",
  "A7D5 LATIN SMALL LETTER DOUBLE WYNN;LATIN CAPITAL LETTER MIDDLE SCOTS S",
  "A7D7 LATIN SMALL LETTER MIDDLE SCOTS S;LATIN CAPITAL LETTER SIGMOID S",
  "A7D9 LATIN SMALL LETTER SIGMOID S",
  "A7F2 MODIFIER LETTER CAPITAL C;MODIFIER LETTER CAPITAL F;MODIFIER LETTER CAPITAL Q",
  "A7F5 LATIN CAPITAL LETTER REVERSED HALF H;LATIN SMALL LETTER REVERSED HALF H",
  "A7F7 LATIN EPIGRAPHIC LETTER SIDEWAYS I;MODIFIER LETTER CAPITAL H WITH STROKE",
  "A7F9 MODIFIER LETTER SMALL LIGATURE OE;LATIN LETTER SMALL CAPITAL TURNED M",
  "A7FB LATIN EPIGRAPHIC LETTER REVERSED F;LATIN EPIGRAPHIC LETTER REVERSED P",
  "A7FD LATIN EPIGRAPHIC LETTER INVERTED M;LATIN EPIGRAPHIC LETTER I LONGA",
  "A7FF LATIN EPIGRAPHIC LETTER ARCHAIC M",
  "FB00 LATIN SMALL LIGATURE FF;LATIN SMALL LIGATURE FI;LATIN SMALL LIGATURE FL",
  "FB03 LATIN SMALL LIGATURE FFI;LATIN SMALL LIGATURE FFL;LATIN SMALL LIGATURE LONG S T",
  "FB06 LATIN SMALL LIGATURE ST"]

end Text

end Substitution
