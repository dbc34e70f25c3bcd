/-!
# Names of pictographs

Tiles, cards, enclosed letters and pictographs.
-/

namespace Substitution

namespace Text

/-- Runs of pictographs: the code point of the first one in hexadecimal digits, and the names in
order. -/
def pictographNames : Array String := #[
  "1F000 MAHJONG TILE EAST WIND;MAHJONG TILE SOUTH WIND;MAHJONG TILE WEST WIND",
  "1F003 MAHJONG TILE NORTH WIND;MAHJONG TILE RED DRAGON;MAHJONG TILE GREEN DRAGON",
  "1F006 MAHJONG TILE WHITE DRAGON;MAHJONG TILE ONE OF CHARACTERS;MAHJONG TILE TWO OF CHARACTERS",
  "1F009 MAHJONG TILE THREE OF CHARACTERS;MAHJONG TILE FOUR OF CHARACTERS",
  "1F00B MAHJONG TILE FIVE OF CHARACTERS;MAHJONG TILE SIX OF CHARACTERS",
  "1F00D MAHJONG TILE SEVEN OF CHARACTERS;MAHJONG TILE EIGHT OF CHARACTERS",
  "1F00F MAHJONG TILE NINE OF CHARACTERS;MAHJONG TILE ONE OF BAMBOOS;MAHJONG TILE TWO OF BAMBOOS",
  "1F012 MAHJONG TILE THREE OF BAMBOOS;MAHJONG TILE FOUR OF BAMBOOS;MAHJONG TILE FIVE OF BAMBOOS",
  "1F015 MAHJONG TILE SIX OF BAMBOOS;MAHJONG TILE SEVEN OF BAMBOOS;MAHJONG TILE EIGHT OF BAMBOOS",
  "1F018 MAHJONG TILE NINE OF BAMBOOS;MAHJONG TILE ONE OF CIRCLES;MAHJONG TILE TWO OF CIRCLES",
  "1F01B MAHJONG TILE THREE OF CIRCLES;MAHJONG TILE FOUR OF CIRCLES;MAHJONG TILE FIVE OF CIRCLES",
  "1F01E MAHJONG TILE SIX OF CIRCLES;MAHJONG TILE SEVEN OF CIRCLES;MAHJONG TILE EIGHT OF CIRCLES",
  "1F021 MAHJONG TILE NINE OF CIRCLES;MAHJONG TILE PLUM;MAHJONG TILE ORCHID;MAHJONG TILE BAMBOO",
  "1F025 MAHJONG TILE CHRYSANTHEMUM;MAHJONG TILE SPRING;MAHJONG TILE SUMMER;MAHJONG TILE AUTUMN",
  "1F029 MAHJONG TILE WINTER;MAHJONG TILE JOKER;MAHJONG TILE BACK",
  "1F030 DOMINO TILE HORIZONTAL BACK;DOMINO TILE HORIZONTAL-00-00;DOMINO TILE HORIZONTAL-00-01",
  "1F033 DOMINO TILE HORIZONTAL-00-02;DOMINO TILE HORIZONTAL-00-03;DOMINO TILE HORIZONTAL-00-04",
  "1F036 DOMINO TILE HORIZONTAL-00-05;DOMINO TILE HORIZONTAL-00-06;DOMINO TILE HORIZONTAL-01-00",
  "1F039 DOMINO TILE HORIZONTAL-01-01;DOMINO TILE HORIZONTAL-01-02;DOMINO TILE HORIZONTAL-01-03",
  "1F03C DOMINO TILE HORIZONTAL-01-04;DOMINO TILE HORIZONTAL-01-05;DOMINO TILE HORIZONTAL-01-06",
  "1F03F DOMINO TILE HORIZONTAL-02-00;DOMINO TILE HORIZONTAL-02-01;DOMINO TILE HORIZONTAL-02-02",
  "1F042 DOMINO TILE HORIZONTAL-02-03;DOMINO TILE HORIZONTAL-02-04;DOMINO TILE HORIZONTAL-02-05",
  "1F045 DOMINO TILE HORIZONTAL-02-06;DOMINO TILE HORIZONTAL-03-00;DOMINO TILE HORIZONTAL-03-01",
  "1F048 DOMINO TILE HORIZONTAL-03-02;DOMINO TILE HORIZONTAL-03-03;DOMINO TILE HORIZONTAL-03-04",
  "1F04B DOMINO TILE HORIZONTAL-03-05;DOMINO TILE HORIZONTAL-03-06;DOMINO TILE HORIZONTAL-04-00",
  "1F04E DOMINO TILE HORIZONTAL-04-01;DOMINO TILE HORIZONTAL-04-02;DOMINO TILE HORIZONTAL-04-03",
  "1F051 DOMINO TILE HORIZONTAL-04-04;DOMINO TILE HORIZONTAL-04-05;DOMINO TILE HORIZONTAL-04-06",
  "1F054 DOMINO TILE HORIZONTAL-05-00;DOMINO TILE HORIZONTAL-05-01;DOMINO TILE HORIZONTAL-05-02",
  "1F057 DOMINO TILE HORIZONTAL-05-03;DOMINO TILE HORIZONTAL-05-04;DOMINO TILE HORIZONTAL-05-05",
  "1F05A DOMINO TILE HORIZONTAL-05-06;DOMINO TILE HORIZONTAL-06-00;DOMINO TILE HORIZONTAL-06-01",
  "1F05D DOMINO TILE HORIZONTAL-06-02;DOMINO TILE HORIZONTAL-06-03;DOMINO TILE HORIZONTAL-06-04",
  "1F060 DOMINO TILE HORIZONTAL-06-05;DOMINO TILE HORIZONTAL-06-06;DOMINO TILE VERTICAL BACK",
  "1F063 DOMINO TILE VERTICAL-00-00;DOMINO TILE VERTICAL-00-01;DOMINO TILE VERTICAL-00-02",
  "1F066 DOMINO TILE VERTICAL-00-03;DOMINO TILE VERTICAL-00-04;DOMINO TILE VERTICAL-00-05",
  "1F069 DOMINO TILE VERTICAL-00-06;DOMINO TILE VERTICAL-01-00;DOMINO TILE VERTICAL-01-01",
  "1F06C DOMINO TILE VERTICAL-01-02;DOMINO TILE VERTICAL-01-03;DOMINO TILE VERTICAL-01-04",
  "1F06F DOMINO TILE VERTICAL-01-05;DOMINO TILE VERTICAL-01-06;DOMINO TILE VERTICAL-02-00",
  "1F072 DOMINO TILE VERTICAL-02-01;DOMINO TILE VERTICAL-02-02;DOMINO TILE VERTICAL-02-03",
  "1F075 DOMINO TILE VERTICAL-02-04;DOMINO TILE VERTICAL-02-05;DOMINO TILE VERTICAL-02-06",
  "1F078 DOMINO TILE VERTICAL-03-00;DOMINO TILE VERTICAL-03-01;DOMINO TILE VERTICAL-03-02",
  "1F07B DOMINO TILE VERTICAL-03-03;DOMINO TILE VERTICAL-03-04;DOMINO TILE VERTICAL-03-05",
  "1F07E DOMINO TILE VERTICAL-03-06;DOMINO TILE VERTICAL-04-00;DOMINO TILE VERTICAL-04-01",
  "1F081 DOMINO TILE VERTICAL-04-02;DOMINO TILE VERTICAL-04-03;DOMINO TILE VERTICAL-04-04",
  "1F084 DOMINO TILE VERTICAL-04-05;DOMINO TILE VERTICAL-04-06;DOMINO TILE VERTICAL-05-00",
  "1F087 DOMINO TILE VERTICAL-05-01;DOMINO TILE VERTICAL-05-02;DOMINO TILE VERTICAL-05-03",
  "1F08A DOMINO TILE VERTICAL-05-04;DOMINO TILE VERTICAL-05-05;DOMINO TILE VERTICAL-05-06",
  "1F08D DOMINO TILE VERTICAL-06-00;DOMINO TILE VERTICAL-06-01;DOMINO TILE VERTICAL-06-02",
  "1F090 DOMINO TILE VERTICAL-06-03;DOMINO TILE VERTICAL-06-04;DOMINO TILE VERTICAL-06-05",
  "1F093 DOMINO TILE VERTICAL-06-06",
  "1F0A0 PLAYING CARD BACK;PLAYING CARD ACE OF SPADES;PLAYING CARD TWO OF SPADES",
  "1F0A3 PLAYING CARD THREE OF SPADES;PLAYING CARD FOUR OF SPADES;PLAYING CARD FIVE OF SPADES",
  "1F0A6 PLAYING CARD SIX OF SPADES;PLAYING CARD SEVEN OF SPADES;PLAYING CARD EIGHT OF SPADES",
  "1F0A9 PLAYING CARD NINE OF SPADES;PLAYING CARD TEN OF SPADES;PLAYING CARD JACK OF SPADES",
  "1F0AC PLAYING CARD KNIGHT OF SPADES;PLAYING CARD QUEEN OF SPADES;PLAYING CARD KING OF SPADES",
  "1F0B1 PLAYING CARD ACE OF HEARTS;PLAYING CARD TWO OF HEARTS;PLAYING CARD THREE OF HEARTS",
  "1F0B4 PLAYING CARD FOUR OF HEARTS;PLAYING CARD FIVE OF HEARTS;PLAYING CARD SIX OF HEARTS",
  "1F0B7 PLAYING CARD SEVEN OF HEARTS;PLAYING CARD EIGHT OF HEARTS;PLAYING CARD NINE OF HEARTS",
  "1F0BA PLAYING CARD TEN OF HEARTS;PLAYING CARD JACK OF HEARTS;PLAYING CARD KNIGHT OF HEARTS",
  "1F0BD PLAYING CARD QUEEN OF HEARTS;PLAYING CARD KING OF HEARTS;PLAYING CARD RED JOKER",
  "1F0C1 PLAYING CARD ACE OF DIAMONDS;PLAYING CARD TWO OF DIAMONDS;PLAYING CARD THREE OF DIAMONDS",
  "1F0C4 PLAYING CARD FOUR OF DIAMONDS;PLAYING CARD FIVE OF DIAMONDS;PLAYING CARD SIX OF DIAMONDS",
  "1F0C7 PLAYING CARD SEVEN OF DIAMONDS;PLAYING CARD EIGHT OF DIAMONDS",
  "1F0C9 PLAYING CARD NINE OF DIAMONDS;PLAYING CARD TEN OF DIAMONDS;PLAYING CARD JACK OF DIAMONDS",
  "1F0CC PLAYING CARD KNIGHT OF DIAMONDS;PLAYING CARD QUEEN OF DIAMONDS",
  "1F0CE PLAYING CARD KING OF DIAMONDS;PLAYING CARD BLACK JOKER",
  "1F0D1 PLAYING CARD ACE OF CLUBS;PLAYING CARD TWO OF CLUBS;PLAYING CARD THREE OF CLUBS",
  "1F0D4 PLAYING CARD FOUR OF CLUBS;PLAYING CARD FIVE OF CLUBS;PLAYING CARD SIX OF CLUBS",
  "1F0D7 PLAYING CARD SEVEN OF CLUBS;PLAYING CARD EIGHT OF CLUBS;PLAYING CARD NINE OF CLUBS",
  "1F0DA PLAYING CARD TEN OF CLUBS;PLAYING CARD JACK OF CLUBS;PLAYING CARD KNIGHT OF CLUBS",
  "1F0DD PLAYING CARD QUEEN OF CLUBS;PLAYING CARD KING OF CLUBS;PLAYING CARD WHITE JOKER",
  "1F0E0 PLAYING CARD FOOL;PLAYING CARD TRUMP-1;PLAYING CARD TRUMP-2;PLAYING CARD TRUMP-3",
  "1F0E4 PLAYING CARD TRUMP-4;PLAYING CARD TRUMP-5;PLAYING CARD TRUMP-6;PLAYING CARD TRUMP-7",
  "1F0E8 PLAYING CARD TRUMP-8;PLAYING CARD TRUMP-9;PLAYING CARD TRUMP-10;PLAYING CARD TRUMP-11",
  "1F0EC PLAYING CARD TRUMP-12;PLAYING CARD TRUMP-13;PLAYING CARD TRUMP-14;PLAYING CARD TRUMP-15",
  "1F0F0 PLAYING CARD TRUMP-16;PLAYING CARD TRUMP-17;PLAYING CARD TRUMP-18;PLAYING CARD TRUMP-19",
  "1F0F4 PLAYING CARD TRUMP-20;PLAYING CARD TRUMP-21",
  "1F100 DIGIT ZERO FULL STOP;DIGIT ZERO COMMA;DIGIT ONE COMMA;DIGIT TWO COMMA;DIGIT THREE COMMA",
  "1F105 DIGIT FOUR COMMA;DIGIT FIVE COMMA;DIGIT SIX COMMA;DIGIT SEVEN COMMA;DIGIT EIGHT COMMA",
  "1F10A DIGIT NINE COMMA;DINGBAT CIRCLED SANS-SERIF DIGIT ZERO",
  "1F10C DINGBAT NEGATIVE CIRCLED SANS-SERIF DIGIT ZERO;CIRCLED ZERO WITH SLASH",
  "1F10E CIRCLED ANTICLOCKWISE ARROW;CIRCLED DOLLAR SIGN WITH OVERLAID BACKSLASH",
  "1F110 PARENTHESIZED LATIN CAPITAL LETTER A;PARENTHESIZED LATIN CAPITAL LETTER B",
  "1F112 PARENTHESIZED LATIN CAPITAL LETTER C;PARENTHESIZED LATIN CAPITAL LETTER D",
  "1F114 PARENTHESIZED LATIN CAPITAL LETTER E;PARENTHESIZED LATIN CAPITAL LETTER F",
  "1F116 PARENTHESIZED LATIN CAPITAL LETTER G;PARENTHESIZED LATIN CAPITAL LETTER H",
  "1F118 PARENTHESIZED LATIN CAPITAL LETTER I;PARENTHESIZED LATIN CAPITAL LETTER J",
  "1F11A PARENTHESIZED LATIN CAPITAL LETTER K;PARENTHESIZED LATIN CAPITAL LETTER L",
  "1F11C PARENTHESIZED LATIN CAPITAL LETTER M;PARENTHESIZED LATIN CAPITAL LETTER N",
  "1F11E PARENTHESIZED LATIN CAPITAL LETTER O;PARENTHESIZED LATIN CAPITAL LETTER P",
  "1F120 PARENTHESIZED LATIN CAPITAL LETTER Q;PARENTHESIZED LATIN CAPITAL LETTER R",
  "1F122 PARENTHESIZED LATIN CAPITAL LETTER S;PARENTHESIZED LATIN CAPITAL LETTER T",
  "1F124 PARENTHESIZED LATIN CAPITAL LETTER U;PARENTHESIZED LATIN CAPITAL LETTER V",
  "1F126 PARENTHESIZED LATIN CAPITAL LETTER W;PARENTHESIZED LATIN CAPITAL LETTER X",
  "1F128 PARENTHESIZED LATIN CAPITAL LETTER Y;PARENTHESIZED LATIN CAPITAL LETTER Z",
  "1F12A TORTOISE SHELL BRACKETED LATIN CAPITAL LETTER S;CIRCLED ITALIC LATIN CAPITAL LETTER C",
  "1F12C CIRCLED ITALIC LATIN CAPITAL LETTER R;CIRCLED CD;CIRCLED WZ;COPYLEFT SYMBOL",
  "1F130 SQUARED LATIN CAPITAL LETTER A;SQUARED LATIN CAPITAL LETTER B",
  "1F132 SQUARED LATIN CAPITAL LETTER C;SQUARED LATIN CAPITAL LETTER D",
  "1F134 SQUARED LATIN CAPITAL LETTER E;SQUARED LATIN CAPITAL LETTER F",
  "1F136 SQUARED LATIN CAPITAL LETTER G;SQUARED LATIN CAPITAL LETTER H",
  "1F138 SQUARED LATIN CAPITAL LETTER I;SQUARED LATIN CAPITAL LETTER J",
  "1F13A SQUARED LATIN CAPITAL LETTER K;SQUARED LATIN CAPITAL LETTER L",
  "1F13C SQUARED LATIN CAPITAL LETTER M;SQUARED LATIN CAPITAL LETTER N",
  "1F13E SQUARED LATIN CAPITAL LETTER O;SQUARED LATIN CAPITAL LETTER P",
  "1F140 SQUARED LATIN CAPITAL LETTER Q;SQUARED LATIN CAPITAL LETTER R",
  "1F142 SQUARED LATIN CAPITAL LETTER S;SQUARED LATIN CAPITAL LETTER T",
  "1F144 SQUARED LATIN CAPITAL LETTER U;SQUARED LATIN CAPITAL LETTER V",
  "1F146 SQUARED LATIN CAPITAL LETTER W;SQUARED LATIN CAPITAL LETTER X",
  "1F148 SQUARED LATIN CAPITAL LETTER Y;SQUARED LATIN CAPITAL LETTER Z;SQUARED HV;SQUARED MV",
  "1F14C SQUARED SD;SQUARED SS;SQUARED PPV;SQUARED WC;NEGATIVE CIRCLED LATIN CAPITAL LETTER A",
  "1F151 NEGATIVE CIRCLED LATIN CAPITAL LETTER B;NEGATIVE CIRCLED LATIN CAPITAL LETTER C",
  "1F153 NEGATIVE CIRCLED LATIN CAPITAL LETTER D;NEGATIVE CIRCLED LATIN CAPITAL LETTER E",
  "1F155 NEGATIVE CIRCLED LATIN CAPITAL LETTER F;NEGATIVE CIRCLED LATIN CAPITAL LETTER G",
  "1F157 NEGATIVE CIRCLED LATIN CAPITAL LETTER H;NEGATIVE CIRCLED LATIN CAPITAL LETTER I",
  "1F159 NEGATIVE CIRCLED LATIN CAPITAL LETTER J;NEGATIVE CIRCLED LATIN CAPITAL LETTER K",
  "1F15B NEGATIVE CIRCLED LATIN CAPITAL LETTER L;NEGATIVE CIRCLED LATIN CAPITAL LETTER M",
  "1F15D NEGATIVE CIRCLED LATIN CAPITAL LETTER N;NEGATIVE CIRCLED LATIN CAPITAL LETTER O",
  "1F15F NEGATIVE CIRCLED LATIN CAPITAL LETTER P;NEGATIVE CIRCLED LATIN CAPITAL LETTER Q",
  "1F161 NEGATIVE CIRCLED LATIN CAPITAL LETTER R;NEGATIVE CIRCLED LATIN CAPITAL LETTER S",
  "1F163 NEGATIVE CIRCLED LATIN CAPITAL LETTER T;NEGATIVE CIRCLED LATIN CAPITAL LETTER U",
  "1F165 NEGATIVE CIRCLED LATIN CAPITAL LETTER V;NEGATIVE CIRCLED LATIN CAPITAL LETTER W",
  "1F167 NEGATIVE CIRCLED LATIN CAPITAL LETTER X;NEGATIVE CIRCLED LATIN CAPITAL LETTER Y",
  "1F169 NEGATIVE CIRCLED LATIN CAPITAL LETTER Z;RAISED MC SIGN;RAISED MD SIGN;RAISED MR SIGN",
  "1F16D CIRCLED CC;CIRCLED C WITH OVERLAID BACKSLASH;CIRCLED HUMAN FIGURE",
  "1F170 NEGATIVE SQUARED LATIN CAPITAL LETTER A;NEGATIVE SQUARED LATIN CAPITAL LETTER B",
  "1F172 NEGATIVE SQUARED LATIN CAPITAL LETTER C;NEGATIVE SQUARED LATIN CAPITAL LETTER D",
  "1F174 NEGATIVE SQUARED LATIN CAPITAL LETTER E;NEGATIVE SQUARED LATIN CAPITAL LETTER F",
  "1F176 NEGATIVE SQUARED LATIN CAPITAL LETTER G;NEGATIVE SQUARED LATIN CAPITAL LETTER H",
  "1F178 NEGATIVE SQUARED LATIN CAPITAL LETTER I;NEGATIVE SQUARED LATIN CAPITAL LETTER J",
  "1F17A NEGATIVE SQUARED LATIN CAPITAL LETTER K;NEGATIVE SQUARED LATIN CAPITAL LETTER L",
  "1F17C NEGATIVE SQUARED LATIN CAPITAL LETTER M;NEGATIVE SQUARED LATIN CAPITAL LETTER N",
  "1F17E NEGATIVE SQUARED LATIN CAPITAL LETTER O;NEGATIVE SQUARED LATIN CAPITAL LETTER P",
  "1F180 NEGATIVE SQUARED LATIN CAPITAL LETTER Q;NEGATIVE SQUARED LATIN CAPITAL LETTER R",
  "1F182 NEGATIVE SQUARED LATIN CAPITAL LETTER S;NEGATIVE SQUARED LATIN CAPITAL LETTER T",
  "1F184 NEGATIVE SQUARED LATIN CAPITAL LETTER U;NEGATIVE SQUARED LATIN CAPITAL LETTER V",
  "1F186 NEGATIVE SQUARED LATIN CAPITAL LETTER W;NEGATIVE SQUARED LATIN CAPITAL LETTER X",
  "1F188 NEGATIVE SQUARED LATIN CAPITAL LETTER Y;NEGATIVE SQUARED LATIN CAPITAL LETTER Z",
  "1F18A CROSSED NEGATIVE SQUARED LATIN CAPITAL LETTER P;NEGATIVE SQUARED IC;NEGATIVE SQUARED PA",
  "1F18D NEGATIVE SQUARED SA;NEGATIVE SQUARED AB;NEGATIVE SQUARED WC;SQUARE DJ;SQUARED CL",
  "1F192 SQUARED COOL;SQUARED FREE;SQUARED ID;SQUARED NEW;SQUARED NG;SQUARED OK;SQUARED SOS",
  "1F199 SQUARED UP WITH EXCLAMATION MARK;SQUARED VS;SQUARED THREE D;SQUARED SECOND SCREEN",
  "1F19D SQUARED TWO K;SQUARED FOUR K;SQUARED EIGHT K;SQUARED FIVE POINT ONE",
  "1F1A1 SQUARED SEVEN POINT ONE;SQUARED TWENTY-TWO POINT TWO;SQUARED SIXTY P",
  "1F1A4 SQUARED ONE HUNDRED TWENTY P;SQUARED LATIN SMALL LETTER D;SQUARED HC;SQUARED HDR",
  "1F1A8 SQUARED HI-RES;SQUARED LOSSLESS;SQUARED SHV;SQUARED UHD;SQUARED VOD;MASK WORK SYMBOL",
  "1F1E6 REGIONAL INDICATOR SYMBOL LETTER A;REGIONAL INDICATOR SYMBOL LETTER B",
  "1F1E8 REGIONAL INDICATOR SYMBOL LETTER C;REGIONAL INDICATOR SYMBOL LETTER D",
  "1F1EA REGIONAL INDICATOR SYMBOL LETTER E;REGIONAL INDICATOR SYMBOL LETTER F",
  "1F1EC REGIONAL INDICATOR SYMBOL LETTER G;REGIONAL INDICATOR SYMBOL LETTER H",
  "1F1EE REGIONAL INDICATOR SYMBOL LETTER I;REGIONAL INDICATOR SYMBOL LETTER J",
  "1F1F0 REGIONAL INDICATOR SYMBOL LETTER K;REGIONAL INDICATOR SYMBOL LETTER L",
  "1F1F2 REGIONAL INDICATOR SYMBOL LETTER M;REGIONAL INDICATOR SYMBOL LETTER N",
  "1F1F4 REGIONAL INDICATOR SYMBOL LETTER O;REGIONAL INDICATOR SYMBOL LETTER P",
  "1F1F6 REGIONAL INDICATOR SYMBOL LETTER Q;REGIONAL INDICATOR SYMBOL LETTER R",
  "1F1F8 REGIONAL INDICATOR SYMBOL LETTER S;REGIONAL INDICATOR SYMBOL LETTER T",
  "1F1FA REGIONAL INDICATOR SYMBOL LETTER U;REGIONAL INDICATOR SYMBOL LETTER V",
  "1F1FC REGIONAL INDICATOR SYMBOL LETTER W;REGIONAL INDICATOR SYMBOL LETTER X",
  "1F1FE REGIONAL INDICATOR SYMBOL LETTER Y;REGIONAL INDICATOR SYMBOL LETTER Z",
  "1F200 SQUARE HIRAGANA HOKA;SQUARED KATAKANA KOKO;SQUARED KATAKANA SA",
  "1F210 SQUARED CJK UNIFIED IDEOGRAPH-624B;SQUARED CJK UNIFIED IDEOGRAPH-5B57",
  "1F212 SQUARED CJK UNIFIED IDEOGRAPH-53CC;SQUARED KATAKANA DE",
  "1F214 SQUARED CJK UNIFIED IDEOGRAPH-4E8C;SQUARED CJK UNIFIED IDEOGRAPH-591A",
  "1F216 SQUARED CJK UNIFIED IDEOGRAPH-89E3;SQUARED CJK UNIFIED IDEOGRAPH-5929",
  "1F218 SQUARED CJK UNIFIED IDEOGRAPH-4EA4;SQUARED CJK UNIFIED IDEOGRAPH-6620",
  "1F21A SQUARED CJK UNIFIED IDEOGRAPH-7121;SQUARED CJK UNIFIED IDEOGRAPH-6599",
  "1F21C SQUARED CJK UNIFIED IDEOGRAPH-524D;SQUARED CJK UNIFIED IDEOGRAPH-5F8C",
  "1F21E SQUARED CJK UNIFIED IDEOGRAPH-518D;SQUARED CJK UNIFIED IDEOGRAPH-65B0",
  "1F220 SQUARED CJK UNIFIED IDEOGRAPH-521D;SQUARED CJK UNIFIED IDEOGRAPH-7D42",
  "1F222 SQUARED CJK UNIFIED IDEOGRAPH-751F;SQUARED CJK UNIFIED IDEOGRAPH-8CA9",
  "1F224 SQUARED CJK UNIFIED IDEOGRAPH-58F0;SQUARED CJK UNIFIED IDEOGRAPH-5439",
  "1F226 SQUARED CJK UNIFIED IDEOGRAPH-6F14;SQUARED CJK UNIFIED IDEOGRAPH-6295",
  "1F228 SQUARED CJK UNIFIED IDEOGRAPH-6355;SQUARED CJK UNIFIED IDEOGRAPH-4E00",
  "1F22A SQUARED CJK UNIFIED IDEOGRAPH-4E09;SQUARED CJK UNIFIED IDEOGRAPH-904A",
  "1F22C SQUARED CJK UNIFIED IDEOGRAPH-5DE6;SQUARED CJK UNIFIED IDEOGRAPH-4E2D",
  "1F22E SQUARED CJK UNIFIED IDEOGRAPH-53F3;SQUARED CJK UNIFIED IDEOGRAPH-6307",
  "1F230 SQUARED CJK UNIFIED IDEOGRAPH-8D70;SQUARED CJK UNIFIED IDEOGRAPH-6253",
  "1F232 SQUARED CJK UNIFIED IDEOGRAPH-7981;SQUARED CJK UNIFIED IDEOGRAPH-7A7A",
  "1F234 SQUARED CJK UNIFIED IDEOGRAPH-5408;SQUARED CJK UNIFIED IDEOGRAPH-6E80",
  "1F236 SQUARED CJK UNIFIED IDEOGRAPH-6709;SQUARED CJK UNIFIED IDEOGRAPH-6708",
  "1F238 SQUARED CJK UNIFIED IDEOGRAPH-7533;SQUARED CJK UNIFIED IDEOGRAPH-5272",
  "1F23A SQUARED CJK UNIFIED IDEOGRAPH-55B6;SQUARED CJK UNIFIED IDEOGRAPH-914D",
  "1F240 TORTOISE SHELL BRACKETED CJK UNIFIED IDEOGRAPH-672C",
  "1F241 TORTOISE SHELL BRACKETED CJK UNIFIED IDEOGRAPH-4E09",
  "1F242 TORTOISE SHELL BRACKETED CJK UNIFIED IDEOGRAPH-4E8C",
  "1F243 TORTOISE SHELL BRACKETED CJK UNIFIED IDEOGRAPH-5B89",
  "1F244 TORTOISE SHELL BRACKETED CJK UNIFIED IDEOGRAPH-70B9",
  "1F245 TORTOISE SHELL BRACKETED CJK UNIFIED IDEOGRAPH-6253",
  "1F246 TORTOISE SHELL BRACKETED CJK UNIFIED IDEOGRAPH-76D7",
  "1F247 TORTOISE SHELL BRACKETED CJK UNIFIED IDEOGRAPH-52DD",
  "1F248 TORTOISE SHELL BRACKETED CJK UNIFIED IDEOGRAPH-6557",
  "1F250 CIRCLED IDEOGRAPH ADVANTAGE;CIRCLED IDEOGRAPH ACCEPT",
  "1F260 ROUNDED SYMBOL FOR FU;ROUNDED SYMBOL FOR LU;ROUNDED SYMBOL FOR SHOU",
  "1F263 ROUNDED SYMBOL FOR XI;ROUNDED SYMBOL FOR SHUANGXI;ROUNDED SYMBOL FOR CAI",
  "1F300 CYCLONE;FOGGY;CLOSED UMBRELLA;NIGHT WITH STARS;SUNRISE OVER MOUNTAINS;SUNRISE",
  "1F306 CITYSCAPE AT DUSK;SUNSET OVER BUILDINGS;RAINBOW;BRIDGE AT NIGHT;WATER WAVE;VOLCANO",
  "1F30C MILKY WAY;EARTH GLOBE EUROPE-AFRICA;EARTH GLOBE AMERICAS;EARTH GLOBE ASIA-AUSTRALIA",
  "1F310 GLOBE WITH MERIDIANS;NEW MOON SYMBOL;WAXING CRESCENT MOON SYMBOL",
  "1F313 FIRST QUARTER MOON SYMBOL;WAXING GIBBOUS MOON SYMBOL;FULL MOON SYMBOL",
  "1F316 WANING GIBBOUS MOON SYMBOL;LAST QUARTER MOON SYMBOL;WANING CRESCENT MOON SYMBOL",
  "1F319 CRESCENT MOON;NEW MOON WITH FACE;FIRST QUARTER MOON WITH FACE",
  "1F31C LAST QUARTER MOON WITH FACE;FULL MOON WITH FACE;SUN WITH FACE;GLOWING STAR;SHOOTING STAR",
  "1F321 THERMOMETER;BLACK DROPLET;WHITE SUN;WHITE SUN WITH SMALL CLOUD;WHITE SUN BEHIND CLOUD",
  "1F326 WHITE SUN BEHIND CLOUD WITH RAIN;CLOUD WITH RAIN;CLOUD WITH SNOW;CLOUD WITH LIGHTNING",
  "1F32A CLOUD WITH TORNADO;FOG;WIND BLOWING FACE;HOT DOG;TACO;BURRITO;CHESTNUT;SEEDLING",
  "1F332 EVERGREEN TREE;DECIDUOUS TREE;PALM TREE;CACTUS;HOT PEPPER;TULIP;CHERRY BLOSSOM;ROSE",
  "1F33A HIBISCUS;SUNFLOWER;BLOSSOM;EAR OF MAIZE;EAR OF RICE;HERB;FOUR LEAF CLOVER;MAPLE LEAF",
  "1F342 FALLEN LEAF;LEAF FLUTTERING IN WIND;MUSHROOM;TOMATO;AUBERGINE;GRAPES;MELON;WATERMELON",
  "1F34A TANGERINE;LEMON;BANANA;PINEAPPLE;RED APPLE;GREEN APPLE;PEAR;PEACH;CHERRIES;STRAWBERRY",
  "1F354 HAMBURGER;SLICE OF PIZZA;MEAT ON BONE;POULTRY LEG;RICE CRACKER;RICE BALL;COOKED RICE",
  "1F35B CURRY AND RICE;STEAMING BOWL;SPAGHETTI;BREAD;FRENCH FRIES;ROASTED SWEET POTATO;DANGO",
  "1F362 ODEN;SUSHI;FRIED SHRIMP;FISH CAKE WITH SWIRL DESIGN;SOFT ICE CREAM;SHAVED ICE;ICE CREAM",
  "1F369 DOUGHNUT;COOKIE;CHOCOLATE BAR;CANDY;LOLLIPOP;CUSTARD;HONEY POT;SHORTCAKE;BENTO BOX",
  "1F372 POT OF FOOD;COOKING;FORK AND KNIFE;TEACUP WITHOUT HANDLE;SAKE BOTTLE AND CUP;WINE GLASS",
  "1F378 COCKTAIL GLASS;TROPICAL DRINK;BEER MUG;CLINKING BEER MUGS;BABY BOTTLE",
  "1F37D FORK AND KNIFE WITH PLATE;BOTTLE WITH POPPING CORK;POPCORN;RIBBON;WRAPPED PRESENT",
  "1F382 BIRTHDAY CAKE;JACK-O-LANTERN;CHRISTMAS TREE;FATHER CHRISTMAS;FIREWORKS;FIREWORK SPARKLER",
  "1F388 BALLOON;PARTY POPPER;CONFETTI BALL;TANABATA TREE;CROSSED FLAGS;PINE DECORATION",
  "1F38E JAPANESE DOLLS;CARP STREAMER;WIND CHIME;MOON VIEWING CEREMONY;SCHOOL SATCHEL",
  "1F393 GRADUATION CAP;HEART WITH TIP ON THE LEFT;BOUQUET OF FLOWERS;MILITARY MEDAL",
  "1F397 REMINDER RIBBON;MUSICAL KEYBOARD WITH JACKS;STUDIO MICROPHONE;LEVEL SLIDER;CONTROL KNOBS",
  "1F39C BEAMED ASCENDING MUSICAL NOTES;BEAMED DESCENDING MUSICAL NOTES;FILM FRAMES",
  "1F39F ADMISSION TICKETS;CAROUSEL HORSE;FERRIS WHEEL;ROLLER COASTER;FISHING POLE AND FISH",
  "1F3A4 MICROPHONE;MOVIE CAMERA;CINEMA;HEADPHONE;ARTIST PALETTE;TOP HAT;CIRCUS TENT;TICKET",
  "1F3AC CLAPPER BOARD;PERFORMING ARTS;VIDEO GAME;DIRECT HIT;SLOT MACHINE;BILLIARDS;GAME DIE",
  "1F3B3 BOWLING;FLOWER PLAYING CARDS;MUSICAL NOTE;MULTIPLE MUSICAL NOTES;SAXOPHONE;GUITAR",
  "1F3B9 MUSICAL KEYBOARD;TRUMPET;VIOLIN;MUSICAL SCORE;RUNNING SHIRT WITH SASH",
  "1F3BE TENNIS RACQUET AND BALL;SKI AND SKI BOOT;BASKETBALL AND HOOP;CHEQUERED FLAG;SNOWBOARDER",
  "1F3C3 RUNNER;SURFER;SPORTS MEDAL;TROPHY;HORSE RACING;AMERICAN FOOTBALL;RUGBY FOOTBALL;SWIMMER",
  "1F3CB WEIGHT LIFTER;GOLFER;RACING MOTORCYCLE;RACING CAR;CRICKET BAT AND BALL;VOLLEYBALL",
  "1F3D1 FIELD HOCKEY STICK AND BALL;ICE HOCKEY STICK AND PUCK;TABLE TENNIS PADDLE AND BALL",
  "1F3D4 SNOW CAPPED MOUNTAIN;CAMPING;BEACH WITH UMBRELLA;BUILDING CONSTRUCTION;HOUSE BUILDINGS",
  "1F3D9 CITYSCAPE;DERELICT HOUSE BUILDING;CLASSICAL BUILDING;DESERT;DESERT ISLAND;NATIONAL PARK",
  "1F3DF STADIUM;HOUSE BUILDING;HOUSE WITH GARDEN;OFFICE BUILDING;JAPANESE POST OFFICE",
  "1F3E4 EUROPEAN POST OFFICE;HOSPITAL;BANK;AUTOMATED TELLER MACHINE;HOTEL;LOVE HOTEL",
  "1F3EA CONVENIENCE STORE;SCHOOL;DEPARTMENT STORE;FACTORY;IZAKAYA LANTERN;JAPANESE CASTLE",
  "1F3F0 EUROPEAN CASTLE;WHITE PENNANT;BLACK PENNANT;WAVING WHITE FLAG;WAVING BLACK FLAG;ROSETTE",
  "1F3F6 BLACK ROSETTE;LABEL;BADMINTON RACQUET AND SHUTTLECOCK;BOW AND ARROW;AMPHORA",
  "1F3FB EMOJI MODIFIER FITZPATRICK TYPE-1-2;EMOJI MODIFIER FITZPATRICK TYPE-3",
  "1F3FD EMOJI MODIFIER FITZPATRICK TYPE-4;EMOJI MODIFIER FITZPATRICK TYPE-5",
  "1F3FF EMOJI MODIFIER FITZPATRICK TYPE-6;RAT;MOUSE;OX;WATER BUFFALO;COW;TIGER;LEOPARD;RABBIT",
  "1F408 CAT;DRAGON;CROCODILE;WHALE;SNAIL;SNAKE;HORSE;RAM;GOAT;SHEEP;MONKEY;ROOSTER;CHICKEN;DOG",
  "1F416 PIG;BOAR;ELEPHANT;OCTOPUS;SPIRAL SHELL;BUG;ANT;HONEYBEE;LADY BEETLE;FISH;TROPICAL FISH",
  "1F421 BLOWFISH;TURTLE;HATCHING CHICK;BABY CHICK;FRONT-FACING BABY CHICK;BIRD;PENGUIN;KOALA",
  "1F429 POODLE;DROMEDARY CAMEL;BACTRIAN CAMEL;DOLPHIN;MOUSE FACE;COW FACE;TIGER FACE;RABBIT FACE",
  "1F431 CAT FACE;DRAGON FACE;SPOUTING WHALE;HORSE FACE;MONKEY FACE;DOG FACE;PIG FACE;FROG FACE",
  "1F439 HAMSTER FACE;WOLF FACE;BEAR FACE;PANDA FACE;PIG NOSE;PAW PRINTS;CHIPMUNK;EYES;EYE;EAR",
  "1F443 NOSE;MOUTH;TONGUE;WHITE UP POINTING BACKHAND INDEX;WHITE DOWN POINTING BACKHAND INDEX",
  "1F448 WHITE LEFT POINTING BACKHAND INDEX;WHITE RIGHT POINTING BACKHAND INDEX;FISTED HAND SIGN",
  "1F44B WAVING HAND SIGN;OK HAND SIGN;THUMBS UP SIGN;THUMBS DOWN SIGN;CLAPPING HANDS SIGN",
  "1F450 OPEN HANDS SIGN;CROWN;WOMANS HAT;EYEGLASSES;NECKTIE;T-SHIRT;JEANS;DRESS;KIMONO;BIKINI",
  "1F45A WOMANS CLOTHES;PURSE;HANDBAG;POUCH;MANS SHOE;ATHLETIC SHOE;HIGH-HEELED SHOE",
  "1F461 WOMANS SANDAL;WOMANS BOOTS;FOOTPRINTS;BUST IN SILHOUETTE;BUSTS IN SILHOUETTE;BOY;GIRL",
  "1F468 MAN;WOMAN;FAMILY;MAN AND WOMAN HOLDING HANDS;TWO MEN HOLDING HANDS",
  "1F46D TWO WOMEN HOLDING HANDS;POLICE OFFICER;WOMAN WITH BUNNY EARS;BRIDE WITH VEIL",
  "1F471 PERSON WITH BLOND HAIR;MAN WITH GUA PI MAO;MAN WITH TURBAN;OLDER MAN;OLDER WOMAN;BABY",
  "1F477 CONSTRUCTION WORKER;PRINCESS;JAPANESE OGRE;JAPANESE GOBLIN;GHOST;BABY ANGEL",
  "1F47D EXTRATERRESTRIAL ALIEN;ALIEN MONSTER;IMP;SKULL;INFORMATION DESK PERSON;GUARDSMAN;DANCER",
  "1F484 LIPSTICK;NAIL POLISH;FACE MASSAGE;HAIRCUT;BARBER POLE;SYRINGE;PILL;KISS MARK;LOVE LETTER",
  "1F48D RING;GEM STONE;KISS;BOUQUET;COUPLE WITH HEART;WEDDING;BEATING HEART;BROKEN HEART",
  "1F495 TWO HEARTS;SPARKLING HEART;GROWING HEART;HEART WITH ARROW;BLUE HEART;GREEN HEART",
  "1F49B YELLOW HEART;PURPLE HEART;HEART WITH RIBBON;REVOLVING HEARTS;HEART DECORATION",
  "1F4A0 DIAMOND SHAPE WITH A DOT INSIDE;ELECTRIC LIGHT BULB;ANGER SYMBOL;BOMB;SLEEPING SYMBOL",
  "1F4A5 COLLISION SYMBOL;SPLASHING SWEAT SYMBOL;DROPLET;DASH SYMBOL;PILE OF POO;FLEXED BICEPS",
  "1F4AB DIZZY SYMBOL;SPEECH BALLOON;THOUGHT BALLOON;WHITE FLOWER;HUNDRED POINTS SYMBOL;MONEY BAG",
  "1F4B1 CURRENCY EXCHANGE;HEAVY DOLLAR SIGN;CREDIT CARD;BANKNOTE WITH YEN SIGN",
  "1F4B5 BANKNOTE WITH DOLLAR SIGN;BANKNOTE WITH EURO SIGN;BANKNOTE WITH POUND SIGN",
  "1F4B8 MONEY WITH WINGS;CHART WITH UPWARDS TREND AND YEN SIGN;SEAT;PERSONAL COMPUTER;BRIEFCASE",
  "1F4BD MINIDISC;FLOPPY DISK;OPTICAL DISC;DVD;FILE FOLDER;OPEN FILE FOLDER;PAGE WITH CURL",
  "1F4C4 PAGE FACING UP;CALENDAR;TEAR-OFF CALENDAR;CARD INDEX;CHART WITH UPWARDS TREND",
  "1F4C9 CHART WITH DOWNWARDS TREND;BAR CHART;CLIPBOARD;PUSHPIN;ROUND PUSHPIN;PAPERCLIP",
  "1F4CF STRAIGHT RULER;TRIANGULAR RULER;BOOKMARK TABS;LEDGER;NOTEBOOK",
  "1F4D4 NOTEBOOK WITH DECORATIVE COVER;CLOSED BOOK;OPEN BOOK;GREEN BOOK;BLUE BOOK;ORANGE BOOK",
  "1F4DA BOOKS;NAME BADGE;SCROLL;MEMO;TELEPHONE RECEIVER;PAGER;FAX MACHINE;SATELLITE ANTENNA",
  "1F4E2 PUBLIC ADDRESS LOUDSPEAKER;CHEERING MEGAPHONE;OUTBOX TRAY;INBOX TRAY;PACKAGE",
  "1F4E7 E-MAIL SYMBOL;INCOMING ENVELOPE;ENVELOPE WITH DOWNWARDS ARROW ABOVE",
  "1F4EA CLOSED MAILBOX WITH LOWERED FLAG;CLOSED MAILBOX WITH RAISED FLAG",
  "1F4EC OPEN MAILBOX WITH RAISED FLAG;OPEN MAILBOX WITH LOWERED FLAG;POSTBOX;POSTAL HORN",
  "1F4F0 NEWSPAPER;MOBILE PHONE;MOBILE PHONE WITH RIGHTWARDS ARROW AT LEFT;VIBRATION MODE",
  "1F4F4 MOBILE PHONE OFF;NO MOBILE PHONES;ANTENNA WITH BARS;CAMERA;CAMERA WITH FLASH",
  "1F4F9 VIDEO CAMERA;TELEVISION;RADIO;VIDEOCASSETTE;FILM PROJECTOR;PORTABLE STEREO;PRAYER BEADS",
  "1F500 TWISTED RIGHTWARDS ARROWS;CLOCKWISE RIGHTWARDS AND LEFTWARDS OPEN CIRCLE ARROWS",
  "1F502 CLOCKWISE RIGHTWARDS AND LEFTWARDS OPEN CIRCLE ARROWS WITH CIRCLED ONE OVERLAY",
  "1F503 CLOCKWISE DOWNWARDS AND UPWARDS OPEN CIRCLE ARROWS",
  "1F504 ANTICLOCKWISE DOWNWARDS AND UPWARDS OPEN CIRCLE ARROWS;LOW BRIGHTNESS SYMBOL",
  "1F506 HIGH BRIGHTNESS SYMBOL;SPEAKER WITH CANCELLATION STROKE;SPEAKER",
  "1F509 SPEAKER WITH ONE SOUND WAVE;SPEAKER WITH THREE SOUND WAVES;BATTERY;ELECTRIC PLUG",
  "1F50D LEFT-POINTING MAGNIFYING GLASS;RIGHT-POINTING MAGNIFYING GLASS;LOCK WITH INK PEN",
  "1F510 CLOSED LOCK WITH KEY;KEY;LOCK;OPEN LOCK;BELL;BELL WITH CANCELLATION STROKE;BOOKMARK",
  "1F517 LINK SYMBOL;RADIO BUTTON;BACK WITH LEFTWARDS ARROW ABOVE;END WITH LEFTWARDS ARROW ABOVE",
  "1F51B ON WITH EXCLAMATION MARK WITH LEFT RIGHT ARROW ABOVE;SOON WITH RIGHTWARDS ARROW ABOVE",
  "1F51D TOP WITH UPWARDS ARROW ABOVE;NO ONE UNDER EIGHTEEN SYMBOL;KEYCAP TEN",
  "1F520 INPUT SYMBOL FOR LATIN CAPITAL LETTERS;INPUT SYMBOL FOR LATIN SMALL LETTERS",
  "1F522 INPUT SYMBOL FOR NUMBERS;INPUT SYMBOL FOR SYMBOLS;INPUT SYMBOL FOR LATIN LETTERS;FIRE",
  "1F526 ELECTRIC TORCH;WRENCH;HAMMER;NUT AND BOLT;HOCHO;PISTOL;MICROSCOPE;TELESCOPE;CRYSTAL BALL",
  "1F52F SIX POINTED STAR WITH MIDDLE DOT;JAPANESE SYMBOL FOR BEGINNER;TRIDENT EMBLEM",
  "1F532 BLACK SQUARE BUTTON;WHITE SQUARE BUTTON;LARGE RED CIRCLE;LARGE BLUE CIRCLE",
  "1F536 LARGE ORANGE DIAMOND;LARGE BLUE DIAMOND;SMALL ORANGE DIAMOND;SMALL BLUE DIAMOND",
  "1F53A UP-POINTING RED TRIANGLE;DOWN-POINTING RED TRIANGLE;UP-POINTING SMALL RED TRIANGLE",
  "1F53D DOWN-POINTING SMALL RED TRIANGLE;LOWER RIGHT SHADOWED WHITE CIRCLE",
  "1F53F UPPER RIGHT SHADOWED WHITE CIRCLE;CIRCLED CROSS POMMEE",
  "1F541 CROSS POMMEE WITH HALF-CIRCLE BELOW;CROSS POMMEE;NOTCHED LEFT SEMICIRCLE WITH THREE DOTS",
  "1F544 NOTCHED RIGHT SEMICIRCLE WITH THREE DOTS;SYMBOL FOR MARKS CHAPTER;WHITE LATIN CROSS",
  "1F547 HEAVY LATIN CROSS;CELTIC CROSS;OM SYMBOL;DOVE OF PEACE;KAABA;MOSQUE;SYNAGOGUE",
  "1F54E MENORAH WITH NINE BRANCHES;BOWL OF HYGIEIA;CLOCK FACE ONE OCLOCK;CLOCK FACE TWO OCLOCK",
  "1F552 CLOCK FACE THREE OCLOCK;CLOCK FACE FOUR OCLOCK;CLOCK FACE FIVE OCLOCK",
  "1F555 CLOCK FACE SIX OCLOCK;CLOCK FACE SEVEN OCLOCK;CLOCK FACE EIGHT OCLOCK",
  "1F558 CLOCK FACE NINE OCLOCK;CLOCK FACE TEN OCLOCK;CLOCK FACE ELEVEN OCLOCK",
  "1F55B CLOCK FACE TWELVE OCLOCK;CLOCK FACE ONE-THIRTY;CLOCK FACE TWO-THIRTY",
  "1F55E CLOCK FACE THREE-THIRTY;CLOCK FACE FOUR-THIRTY;CLOCK FACE FIVE-THIRTY",
  "1F561 CLOCK FACE SIX-THIRTY;CLOCK FACE SEVEN-THIRTY;CLOCK FACE EIGHT-THIRTY",
  "1F564 CLOCK FACE NINE-THIRTY;CLOCK FACE TEN-THIRTY;CLOCK FACE ELEVEN-THIRTY",
  "1F567 CLOCK FACE TWELVE-THIRTY;RIGHT SPEAKER;RIGHT SPEAKER WITH ONE SOUND WAVE",
  "1F56A RIGHT SPEAKER WITH THREE SOUND WAVES;BULLHORN;BULLHORN WITH SOUND WAVES;RINGING BELL",
  "1F56E BOOK;CANDLE;MANTELPIECE CLOCK;BLACK SKULL AND CROSSBONES;NO PIRACY;HOLE",
  "1F574 MAN IN BUSINESS SUIT LEVITATING;SLEUTH OR SPY;DARK SUNGLASSES;SPIDER;SPIDER WEB;JOYSTICK",
  "1F57A MAN DANCING;LEFT HAND TELEPHONE RECEIVER;TELEPHONE RECEIVER WITH PAGE",
  "1F57D RIGHT HAND TELEPHONE RECEIVER;WHITE TOUCHTONE TELEPHONE;BLACK TOUCHTONE TELEPHONE",
  "1F580 TELEPHONE ON TOP OF MODEM;CLAMSHELL MOBILE PHONE;BACK OF ENVELOPE;STAMPED ENVELOPE",
  "1F584 ENVELOPE WITH LIGHTNING;FLYING ENVELOPE;PEN OVER STAMPED ENVELOPE;LINKED PAPERCLIPS",
  "1F588 BLACK PUSHPIN;LOWER LEFT PENCIL;LOWER LEFT BALLPOINT PEN;LOWER LEFT FOUNTAIN PEN",
  "1F58C LOWER LEFT PAINTBRUSH;LOWER LEFT CRAYON;LEFT WRITING HAND;TURNED OK HAND SIGN",
  "1F590 RAISED HAND WITH FINGERS SPLAYED;REVERSED RAISED HAND WITH FINGERS SPLAYED",
  "1F592 REVERSED THUMBS UP SIGN;REVERSED THUMBS DOWN SIGN;REVERSED VICTORY HAND",
  "1F595 REVERSED HAND WITH MIDDLE FINGER EXTENDED",
  "1F596 RAISED HAND WITH PART BETWEEN MIDDLE AND RING FINGERS",
  "1F597 WHITE DOWN POINTING LEFT HAND INDEX;SIDEWAYS WHITE LEFT POINTING INDEX",
  "1F599 SIDEWAYS WHITE RIGHT POINTING INDEX;SIDEWAYS BLACK LEFT POINTING INDEX",
  "1F59B SIDEWAYS BLACK RIGHT POINTING INDEX;BLACK LEFT POINTING BACKHAND INDEX",
  "1F59D BLACK RIGHT POINTING BACKHAND INDEX;SIDEWAYS WHITE UP POINTING INDEX",
  "1F59F SIDEWAYS WHITE DOWN POINTING INDEX;SIDEWAYS BLACK UP POINTING INDEX",
  "1F5A1 SIDEWAYS BLACK DOWN POINTING INDEX;BLACK UP POINTING BACKHAND INDEX",
  "1F5A3 BLACK DOWN POINTING BACKHAND INDEX;BLACK HEART;DESKTOP COMPUTER;KEYBOARD AND MOUSE",
  "1F5A7 THREE NETWORKED COMPUTERS;PRINTER;POCKET CALCULATOR;BLACK HARD SHELL FLOPPY DISK",
  "1F5AB WHITE HARD SHELL FLOPPY DISK;SOFT SHELL FLOPPY DISK;TAPE CARTRIDGE;WIRED KEYBOARD",
  "1F5AF ONE BUTTON MOUSE;TWO BUTTON MOUSE;THREE BUTTON MOUSE;TRACKBALL;OLD PERSONAL COMPUTER",
  "1F5B4 HARD DISK;SCREEN;PRINTER ICON;FAX ICON;OPTICAL DISC ICON;DOCUMENT WITH TEXT",
  "1F5BA DOCUMENT WITH TEXT AND PICTURE;DOCUMENT WITH PICTURE;FRAME WITH PICTURE;FRAME WITH TILES",
  "1F5BE FRAME WITH AN X;BLACK FOLDER;FOLDER;OPEN FOLDER;CARD INDEX DIVIDERS;CARD FILE BOX",
  "1F5C4 FILE CABINET;EMPTY NOTE;EMPTY NOTE PAGE;EMPTY NOTE PAD;NOTE;NOTE PAGE;NOTE PAD",
  "1F5CB EMPTY DOCUMENT;EMPTY PAGE;EMPTY PAGES;DOCUMENT;PAGE;PAGES;WASTEBASKET;SPIRAL NOTE PAD",
  "1F5D3 SPIRAL CALENDAR PAD;DESKTOP WINDOW;MINIMIZE;MAXIMIZE;OVERLAP",
  "1F5D8 CLOCKWISE RIGHT AND LEFT SEMICIRCLE ARROWS;CANCELLATION X;INCREASE FONT SIZE SYMBOL",
  "1F5DB DECREASE FONT SIZE SYMBOL;COMPRESSION;OLD KEY;ROLLED-UP NEWSPAPER;PAGE WITH CIRCLED TEXT",
  "1F5E0 STOCK CHART;DAGGER KNIFE;LIPS;SPEAKING HEAD IN SILHOUETTE;THREE RAYS ABOVE",
  "1F5E5 THREE RAYS BELOW;THREE RAYS LEFT;THREE RAYS RIGHT;LEFT SPEECH BUBBLE;RIGHT SPEECH BUBBLE",
  "1F5EA TWO SPEECH BUBBLES;THREE SPEECH BUBBLES;LEFT THOUGHT BUBBLE;RIGHT THOUGHT BUBBLE",
  "1F5EE LEFT ANGER BUBBLE;RIGHT ANGER BUBBLE;MOOD BUBBLE;LIGHTNING MOOD BUBBLE;LIGHTNING MOOD",
  "1F5F3 BALLOT BOX WITH BALLOT;BALLOT SCRIPT X;BALLOT BOX WITH SCRIPT X;BALLOT BOLD SCRIPT X",
  "1F5F7 BALLOT BOX WITH BOLD SCRIPT X;LIGHT CHECK MARK;BALLOT BOX WITH BOLD CHECK;WORLD MAP",
  "1F5FB MOUNT FUJI;TOKYO TOWER;STATUE OF LIBERTY;SILHOUETTE OF JAPAN;MOYAI;GRINNING FACE",
  "1F601 GRINNING FACE WITH SMILING EYES;FACE WITH TEARS OF JOY;SMILING FACE WITH OPEN MOUTH",
  "1F604 SMILING FACE WITH OPEN MOUTH AND SMILING EYES",
  "1F605 SMILING FACE WITH OPEN MOUTH AND COLD SWEAT",
  "1F606 SMILING FACE WITH OPEN MOUTH AND TIGHTLY-CLOSED EYES;SMILING FACE WITH HALO",
  "1F608 SMILING FACE WITH HORNS;WINKING FACE;SMILING FACE WITH SMILING EYES",
  "1F60B FACE SAVOURING DELICIOUS FOOD;RELIEVED FACE;SMILING FACE WITH HEART-SHAPED EYES",
  "1F60E SMILING FACE WITH SUNGLASSES;SMIRKING FACE;NEUTRAL FACE;EXPRESSIONLESS FACE",
  "1F612 UNAMUSED FACE;FACE WITH COLD SWEAT;PENSIVE FACE;CONFUSED FACE;CONFOUNDED FACE",
  "1F617 KISSING FACE;FACE THROWING A KISS;KISSING FACE WITH SMILING EYES",
  "1F61A KISSING FACE WITH CLOSED EYES;FACE WITH STUCK-OUT TONGUE",
  "1F61C FACE WITH STUCK-OUT TONGUE AND WINKING EYE",
  "1F61D FACE WITH STUCK-OUT TONGUE AND TIGHTLY-CLOSED EYES;DISAPPOINTED FACE;WORRIED FACE",
  "1F620 ANGRY FACE;POUTING FACE;CRYING FACE;PERSEVERING FACE;FACE WITH LOOK OF TRIUMPH",
  "1F625 DISAPPOINTED BUT RELIEVED FACE;FROWNING FACE WITH OPEN MOUTH;ANGUISHED FACE;FEARFUL FACE",
  "1F629 WEARY FACE;SLEEPY FACE;TIRED FACE;GRIMACING FACE;LOUDLY CRYING FACE;FACE WITH OPEN MOUTH",
  "1F62F HUSHED FACE;FACE WITH OPEN MOUTH AND COLD SWEAT;FACE SCREAMING IN FEAR;ASTONISHED FACE",
  "1F633 FLUSHED FACE;SLEEPING FACE;DIZZY FACE;FACE WITHOUT MOUTH;FACE WITH MEDICAL MASK",
  "1F638 GRINNING CAT FACE WITH SMILING EYES;CAT FACE WITH TEARS OF JOY",
  "1F63A SMILING CAT FACE WITH OPEN MOUTH;SMILING CAT FACE WITH HEART-SHAPED EYES",
  "1F63C CAT FACE WITH WRY SMILE;KISSING CAT FACE WITH CLOSED EYES;POUTING CAT FACE",
  "1F63F CRYING CAT FACE;WEARY CAT FACE;SLIGHTLY FROWNING FACE;SLIGHTLY SMILING FACE",
  "1F643 UPSIDE-DOWN FACE;FACE WITH ROLLING EYES;FACE WITH NO GOOD GESTURE;FACE WITH OK GESTURE",
  "1F647 PERSON BOWING DEEPLY;SEE-NO-EVIL MONKEY;HEAR-NO-EVIL MONKEY;SPEAK-NO-EVIL MONKEY",
  "1F64B HAPPY PERSON RAISING ONE HAND;PERSON RAISING BOTH HANDS IN CELEBRATION;PERSON FROWNING",
  "1F64E PERSON WITH POUTING FACE;PERSON WITH FOLDED HANDS;NORTH WEST POINTING LEAF",
  "1F651 SOUTH WEST POINTING LEAF;NORTH EAST POINTING LEAF;SOUTH EAST POINTING LEAF",
  "1F654 TURNED NORTH WEST POINTING LEAF;TURNED SOUTH WEST POINTING LEAF",
  "1F656 TURNED NORTH EAST POINTING LEAF;TURNED SOUTH EAST POINTING LEAF",
  "1F658 NORTH WEST POINTING VINE LEAF;SOUTH WEST POINTING VINE LEAF",
  "1F65A NORTH EAST POINTING VINE LEAF;SOUTH EAST POINTING VINE LEAF",
  "1F65C HEAVY NORTH WEST POINTING VINE LEAF;HEAVY SOUTH WEST POINTING VINE LEAF",
  "1F65E HEAVY NORTH EAST POINTING VINE LEAF;HEAVY SOUTH EAST POINTING VINE LEAF",
  "1F660 NORTH WEST POINTING BUD;SOUTH WEST POINTING BUD;NORTH EAST POINTING BUD",
  "1F663 SOUTH EAST POINTING BUD;HEAVY NORTH WEST POINTING BUD;HEAVY SOUTH WEST POINTING BUD",
  "1F666 HEAVY NORTH EAST POINTING BUD;HEAVY SOUTH EAST POINTING BUD;HOLLOW QUILT SQUARE ORNAMENT",
  "1F669 HOLLOW QUILT SQUARE ORNAMENT IN BLACK SQUARE;SOLID QUILT SQUARE ORNAMENT",
  "1F66B SOLID QUILT SQUARE ORNAMENT IN BLACK SQUARE;LEFTWARDS ROCKET;UPWARDS ROCKET",
  "1F66E RIGHTWARDS ROCKET;DOWNWARDS ROCKET;SCRIPT LIGATURE ET ORNAMENT",
  "1F671 HEAVY SCRIPT LIGATURE ET ORNAMENT;LIGATURE OPEN ET ORNAMENT",
  "1F673 HEAVY LIGATURE OPEN ET ORNAMENT;HEAVY AMPERSAND ORNAMENT;SWASH AMPERSAND ORNAMENT",
  "1F676 SANS-SERIF HEAVY DOUBLE TURNED COMMA QUOTATION MARK ORNAMENT",
  "1F677 SANS-SERIF HEAVY DOUBLE COMMA QUOTATION MARK ORNAMENT",
  "1F678 SANS-SERIF HEAVY LOW DOUBLE COMMA QUOTATION MARK ORNAMENT;HEAVY INTERROBANG ORNAMENT",
  "1F67A SANS-SERIF INTERROBANG ORNAMENT;HEAVY SANS-SERIF INTERROBANG ORNAMENT;VERY HEAVY SOLIDUS",
  "1F67D VERY HEAVY REVERSE SOLIDUS;CHECKER BOARD;REVERSE CHECKER BOARD;ROCKET;HELICOPTER",
  "1F682 STEAM LOCOMOTIVE;RAILWAY CAR;HIGH-SPEED TRAIN;HIGH-SPEED TRAIN WITH BULLET NOSE;TRAIN",
  "1F687 METRO;LIGHT RAIL;STATION;TRAM;TRAM CAR;BUS;ONCOMING BUS;TROLLEYBUS;BUS STOP;MINIBUS",
  "1F691 AMBULANCE;FIRE ENGINE;POLICE CAR;ONCOMING POLICE CAR;TAXI;ONCOMING TAXI;AUTOMOBILE",
  "1F698 ONCOMING AUTOMOBILE;RECREATIONAL VEHICLE;DELIVERY TRUCK;ARTICULATED LORRY;TRACTOR",
  "1F69D MONORAIL;MOUNTAIN RAILWAY;SUSPENSION RAILWAY;MOUNTAIN CABLEWAY;AERIAL TRAMWAY;SHIP",
  "1F6A3 ROWBOAT;SPEEDBOAT;HORIZONTAL TRAFFIC LIGHT;VERTICAL TRAFFIC LIGHT;CONSTRUCTION SIGN",
  "1F6A8 POLICE CARS REVOLVING LIGHT;TRIANGULAR FLAG ON POST;DOOR;NO ENTRY SIGN;SMOKING SYMBOL",
  "1F6AD NO SMOKING SYMBOL;PUT LITTER IN ITS PLACE SYMBOL;DO NOT LITTER SYMBOL",
  "1F6B0 POTABLE WATER SYMBOL;NON-POTABLE WATER SYMBOL;BICYCLE;NO BICYCLES;BICYCLIST",
  "1F6B5 MOUNTAIN BICYCLIST;PEDESTRIAN;NO PEDESTRIANS;CHILDREN CROSSING;MENS SYMBOL;WOMENS SYMBOL",
  "1F6BB RESTROOM;BABY SYMBOL;TOILET;WATER CLOSET;SHOWER;BATH;BATHTUB;PASSPORT CONTROL;CUSTOMS",
  "1F6C4 BAGGAGE CLAIM;LEFT LUGGAGE;TRIANGLE WITH ROUNDED CORNERS;PROHIBITED SIGN",
  "1F6C8 CIRCLED INFORMATION SOURCE;BOYS SYMBOL;GIRLS SYMBOL;COUCH AND LAMP",
  "1F6CC SLEEPING ACCOMMODATION;SHOPPING BAGS;BELLHOP BELL;BED;PLACE OF WORSHIP;OCTAGONAL SIGN",
  "1F6D2 SHOPPING TROLLEY;STUPA;PAGODA;HINDU TEMPLE;HUT;ELEVATOR",
  "1F6DD PLAYGROUND SLIDE;WHEEL;RING BUOY;HAMMER AND WRENCH;SHIELD;OIL DRUM;MOTORWAY",
  "1F6E4 RAILWAY TRACK;MOTOR BOAT;UP-POINTING MILITARY AIRPLANE;UP-POINTING AIRPLANE",
  "1F6E8 UP-POINTING SMALL AIRPLANE;SMALL AIRPLANE;NORTHEAST-POINTING AIRPLANE;AIRPLANE DEPARTURE",
  "1F6EC AIRPLANE ARRIVING",
  "1F6F0 SATELLITE;ONCOMING FIRE ENGINE;DIESEL LOCOMOTIVE;PASSENGER SHIP;SCOOTER;MOTOR SCOOTER",
  "1F6F6 CANOE;SLED;FLYING SAUCER;SKATEBOARD;AUTO RICKSHAW;PICKUP TRUCK;ROLLER SKATE",
  "1F700 ALCHEMICAL SYMBOL FOR QUINTESSENCE;ALCHEMICAL SYMBOL FOR AIR;ALCHEMICAL SYMBOL FOR FIRE",
  "1F703 ALCHEMICAL SYMBOL FOR EARTH;ALCHEMICAL SYMBOL FOR WATER;ALCHEMICAL SYMBOL FOR AQUAFORTIS",
  "1F706 ALCHEMICAL SYMBOL FOR AQUA REGIA;ALCHEMICAL SYMBOL FOR AQUA REGIA-2",
  "1F708 ALCHEMICAL SYMBOL FOR AQUA VITAE;ALCHEMICAL SYMBOL FOR AQUA VITAE-2",
  "1F70A ALCHEMICAL SYMBOL FOR VINEGAR;ALCHEMICAL SYMBOL FOR VINEGAR-2",
  "1F70C ALCHEMICAL SYMBOL FOR VINEGAR-3;ALCHEMICAL SYMBOL FOR SULFUR",
  "1F70E ALCHEMICAL SYMBOL FOR PHILOSOPHERS SULFUR;ALCHEMICAL SYMBOL FOR BLACK SULFUR",
  "1F710 ALCHEMICAL SYMBOL FOR MERCURY SUBLIMATE;ALCHEMICAL SYMBOL FOR MERCURY SUBLIMATE-2",
  "1F712 ALCHEMICAL SYMBOL FOR MERCURY SUBLIMATE-3;ALCHEMICAL SYMBOL FOR CINNABAR",
  "1F714 ALCHEMICAL SYMBOL FOR SALT;ALCHEMICAL SYMBOL FOR NITRE;ALCHEMICAL SYMBOL FOR VITRIOL",
  "1F717 ALCHEMICAL SYMBOL FOR VITRIOL-2;ALCHEMICAL SYMBOL FOR ROCK SALT",
  "1F719 ALCHEMICAL SYMBOL FOR ROCK SALT-2;ALCHEMICAL SYMBOL FOR GOLD",
  "1F71B ALCHEMICAL SYMBOL FOR SILVER;ALCHEMICAL SYMBOL FOR IRON ORE",
  "1F71D ALCHEMICAL SYMBOL FOR IRON ORE-2;ALCHEMICAL SYMBOL FOR CROCUS OF IRON",
  "1F71F ALCHEMICAL SYMBOL FOR REGULUS OF IRON;ALCHEMICAL SYMBOL FOR COPPER ORE",
  "1F721 ALCHEMICAL SYMBOL FOR IRON-COPPER ORE;ALCHEMICAL SYMBOL FOR SUBLIMATE OF COPPER",
  "1F723 ALCHEMICAL SYMBOL FOR CROCUS OF COPPER;ALCHEMICAL SYMBOL FOR CROCUS OF COPPER-2",
  "1F725 ALCHEMICAL SYMBOL FOR COPPER ANTIMONIATE",
  "1F726 ALCHEMICAL SYMBOL FOR SALT OF COPPER ANTIMONIATE",
  "1F727 ALCHEMICAL SYMBOL FOR SUBLIMATE OF SALT OF COPPER;ALCHEMICAL SYMBOL FOR VERDIGRIS",
  "1F729 ALCHEMICAL SYMBOL FOR TIN ORE;ALCHEMICAL SYMBOL FOR LEAD ORE",
  "1F72B ALCHEMICAL SYMBOL FOR ANTIMONY ORE;ALCHEMICAL SYMBOL FOR SUBLIMATE OF ANTIMONY",
  "1F72D ALCHEMICAL SYMBOL FOR SALT OF ANTIMONY",
  "1F72E ALCHEMICAL SYMBOL FOR SUBLIMATE OF SALT OF ANTIMONY",
  "1F72F ALCHEMICAL SYMBOL FOR VINEGAR OF ANTIMONY;ALCHEMICAL SYMBOL FOR REGULUS OF ANTIMONY",
  "1F731 ALCHEMICAL SYMBOL FOR REGULUS OF ANTIMONY-2;ALCHEMICAL SYMBOL FOR REGULUS",
  "1F733 ALCHEMICAL SYMBOL FOR REGULUS-2;ALCHEMICAL SYMBOL FOR REGULUS-3",
  "1F735 ALCHEMICAL SYMBOL FOR REGULUS-4;ALCHEMICAL SYMBOL FOR ALKALI",
  "1F737 ALCHEMICAL SYMBOL FOR ALKALI-2;ALCHEMICAL SYMBOL FOR MARCASITE",
  "1F739 ALCHEMICAL SYMBOL FOR SAL-AMMONIAC;ALCHEMICAL SYMBOL FOR ARSENIC",
  "1F73B ALCHEMICAL SYMBOL FOR REALGAR;ALCHEMICAL SYMBOL FOR REALGAR-2",
  "1F73D ALCHEMICAL SYMBOL FOR AURIPIGMENT;ALCHEMICAL SYMBOL FOR BISMUTH ORE",
  "1F73F ALCHEMICAL SYMBOL FOR TARTAR;ALCHEMICAL SYMBOL FOR TARTAR-2",
  "1F741 ALCHEMICAL SYMBOL FOR QUICK LIME;ALCHEMICAL SYMBOL FOR BORAX",
  "1F743 ALCHEMICAL SYMBOL FOR BORAX-2;ALCHEMICAL SYMBOL FOR BORAX-3;ALCHEMICAL SYMBOL FOR ALUM",
  "1F746 ALCHEMICAL SYMBOL FOR OIL;ALCHEMICAL SYMBOL FOR SPIRIT;ALCHEMICAL SYMBOL FOR TINCTURE",
  "1F749 ALCHEMICAL SYMBOL FOR GUM;ALCHEMICAL SYMBOL FOR WAX;ALCHEMICAL SYMBOL FOR POWDER",
  "1F74C ALCHEMICAL SYMBOL FOR CALX;ALCHEMICAL SYMBOL FOR TUTTY",
  "1F74E ALCHEMICAL SYMBOL FOR CAPUT MORTUUM;ALCHEMICAL SYMBOL FOR SCEPTER OF JOVE",
  "1F750 ALCHEMICAL SYMBOL FOR CADUCEUS;ALCHEMICAL SYMBOL FOR TRIDENT",
  "1F752 ALCHEMICAL SYMBOL FOR STARRED TRIDENT;ALCHEMICAL SYMBOL FOR LODESTONE",
  "1F754 ALCHEMICAL SYMBOL FOR SOAP;ALCHEMICAL SYMBOL FOR URINE;ALCHEMICAL SYMBOL FOR HORSE DUNG",
  "1F757 ALCHEMICAL SYMBOL FOR ASHES;ALCHEMICAL SYMBOL FOR POT ASHES;ALCHEMICAL SYMBOL FOR BRICK",
  "1F75A ALCHEMICAL SYMBOL FOR POWDERED BRICK;ALCHEMICAL SYMBOL FOR AMALGAM",
  "1F75C ALCHEMICAL SYMBOL FOR STRATUM SUPER STRATUM",
  "1F75D ALCHEMICAL SYMBOL FOR STRATUM SUPER STRATUM-2;ALCHEMICAL SYMBOL FOR SUBLIMATION",
  "1F75F ALCHEMICAL SYMBOL FOR PRECIPITATE;ALCHEMICAL SYMBOL FOR DISTILL",
  "1F761 ALCHEMICAL SYMBOL FOR DISSOLVE;ALCHEMICAL SYMBOL FOR DISSOLVE-2",
  "1F763 ALCHEMICAL SYMBOL FOR PURIFY;ALCHEMICAL SYMBOL FOR PUTREFACTION",
  "1F765 ALCHEMICAL SYMBOL FOR CRUCIBLE;ALCHEMICAL SYMBOL FOR CRUCIBLE-2",
  "1F767 ALCHEMICAL SYMBOL FOR CRUCIBLE-3;ALCHEMICAL SYMBOL FOR CRUCIBLE-4",
  "1F769 ALCHEMICAL SYMBOL FOR CRUCIBLE-5;ALCHEMICAL SYMBOL FOR ALEMBIC",
  "1F76B ALCHEMICAL SYMBOL FOR BATH OF MARY;ALCHEMICAL SYMBOL FOR BATH OF VAPOURS",
  "1F76D ALCHEMICAL SYMBOL FOR RETORT;ALCHEMICAL SYMBOL FOR HOUR;ALCHEMICAL SYMBOL FOR NIGHT",
  "1F770 ALCHEMICAL SYMBOL FOR DAY-NIGHT;ALCHEMICAL SYMBOL FOR MONTH",
  "1F772 ALCHEMICAL SYMBOL FOR HALF DRAM;ALCHEMICAL SYMBOL FOR HALF OUNCE",
  "1F780 BLACK LEFT-POINTING ISOSCELES RIGHT TRIANGLE;BLACK UP-POINTING ISOSCELES RIGHT TRIANGLE",
  "1F782 BLACK RIGHT-POINTING ISOSCELES RIGHT TRIANGLE",
  "1F783 BLACK DOWN-POINTING ISOSCELES RIGHT TRIANGLE;BLACK SLIGHTLY SMALL CIRCLE",
  "1F785 MEDIUM BOLD WHITE CIRCLE;BOLD WHITE CIRCLE;HEAVY WHITE CIRCLE;VERY HEAVY WHITE CIRCLE",
  "1F789 EXTREMELY HEAVY WHITE CIRCLE;WHITE CIRCLE CONTAINING BLACK SMALL CIRCLE;ROUND TARGET",
  "1F78C BLACK TINY SQUARE;BLACK SLIGHTLY SMALL SQUARE;LIGHT WHITE SQUARE;MEDIUM WHITE SQUARE",
  "1F790 BOLD WHITE SQUARE;HEAVY WHITE SQUARE;VERY HEAVY WHITE SQUARE",
  "1F793 EXTREMELY HEAVY WHITE SQUARE;WHITE SQUARE CONTAINING BLACK VERY SMALL SQUARE",
  "1F795 WHITE SQUARE CONTAINING BLACK MEDIUM SQUARE;SQUARE TARGET;BLACK TINY DIAMOND",
  "1F798 BLACK VERY SMALL DIAMOND;BLACK MEDIUM SMALL DIAMOND",
  "1F79A WHITE DIAMOND CONTAINING BLACK VERY SMALL DIAMOND",
  "1F79B WHITE DIAMOND CONTAINING BLACK MEDIUM DIAMOND;DIAMOND TARGET;BLACK TINY LOZENGE",
  "1F79E BLACK VERY SMALL LOZENGE;BLACK MEDIUM SMALL LOZENGE",
  "1F7A0 WHITE LOZENGE CONTAINING BLACK SMALL LOZENGE;THIN GREEK CROSS;LIGHT GREEK CROSS",
  "1F7A3 MEDIUM GREEK CROSS;BOLD GREEK CROSS;VERY BOLD GREEK CROSS;VERY HEAVY GREEK CROSS",
  "1F7A7 EXTREMELY HEAVY GREEK CROSS;THIN SALTIRE;LIGHT SALTIRE;MEDIUM SALTIRE;BOLD SALTIRE",
  "1F7AC HEAVY SALTIRE;VERY HEAVY SALTIRE;EXTREMELY HEAVY SALTIRE;LIGHT FIVE SPOKED ASTERISK",
  "1F7B0 MEDIUM FIVE SPOKED ASTERISK;BOLD FIVE SPOKED ASTERISK;HEAVY FIVE SPOKED ASTERISK",
  "1F7B3 VERY HEAVY FIVE SPOKED ASTERISK;EXTREMELY HEAVY FIVE SPOKED ASTERISK",
  "1F7B5 LIGHT SIX SPOKED ASTERISK;MEDIUM SIX SPOKED ASTERISK;BOLD SIX SPOKED ASTERISK",
  "1F7B8 HEAVY SIX SPOKED ASTERISK;VERY HEAVY SIX SPOKED ASTERISK",
  "1F7BA EXTREMELY HEAVY SIX SPOKED ASTERISK;LIGHT EIGHT SPOKED ASTERISK",
  "1F7BC MEDIUM EIGHT SPOKED ASTERISK;BOLD EIGHT SPOKED ASTERISK;HEAVY EIGHT SPOKED ASTERISK",
  "1F7BF VERY HEAVY EIGHT SPOKED ASTERISK;LIGHT THREE POINTED BLACK STAR",
  "1F7C1 MEDIUM THREE POINTED BLACK STAR;THREE POINTED BLACK STAR",
  "1F7C3 MEDIUM THREE POINTED PINWHEEL STAR;LIGHT FOUR POINTED BLACK STAR",
  "1F7C5 MEDIUM FOUR POINTED BLACK STAR;FOUR POINTED BLACK STAR;MEDIUM FOUR POINTED PINWHEEL STAR",
  "1F7C8 REVERSE LIGHT FOUR POINTED PINWHEEL STAR;LIGHT FIVE POINTED BLACK STAR",
  "1F7CA HEAVY FIVE POINTED BLACK STAR;MEDIUM SIX POINTED BLACK STAR;HEAVY SIX POINTED BLACK STAR",
  "1F7CD SIX POINTED PINWHEEL STAR;MEDIUM EIGHT POINTED BLACK STAR;HEAVY EIGHT POINTED BLACK STAR",
  "1F7D0 VERY HEAVY EIGHT POINTED BLACK STAR;HEAVY EIGHT POINTED PINWHEEL STAR",
  "1F7D2 LIGHT TWELVE POINTED BLACK STAR;HEAVY TWELVE POINTED BLACK STAR",
  "1F7D4 HEAVY TWELVE POINTED PINWHEEL STAR;CIRCLED TRIANGLE;NEGATIVE CIRCLED TRIANGLE",
  "1F7D7 CIRCLED SQUARE;NEGATIVE CIRCLED SQUARE",
  "1F7E0 LARGE ORANGE CIRCLE;LARGE YELLOW CIRCLE;LARGE GREEN CIRCLE;LARGE PURPLE CIRCLE",
  "1F7E4 LARGE BROWN CIRCLE;LARGE RED SQUARE;LARGE BLUE SQUARE;LARGE ORANGE SQUARE",
  "1F7E8 LARGE YELLOW SQUARE;LARGE GREEN SQUARE;LARGE PURPLE SQUARE;LARGE BROWN SQUARE",
  "1F7F0 HEAVY EQUALS SIGN",
  "1F800 LEFTWARDS ARROW WITH SMALL TRIANGLE ARROWHEAD",
  "1F801 UPWARDS ARROW WITH SMALL TRIANGLE ARROWHEAD",
  "1F802 RIGHTWARDS ARROW WITH SMALL TRIANGLE ARROWHEAD",
  "1F803 DOWNWARDS ARROW WITH SMALL TRIANGLE ARROWHEAD",
  "1F804 LEFTWARDS ARROW WITH MEDIUM TRIANGLE ARROWHEAD",
  "1F805 UPWARDS ARROW WITH MEDIUM TRIANGLE ARROWHEAD",
  "1F806 RIGHTWARDS ARROW WITH MEDIUM TRIANGLE ARROWHEAD",
  "1F807 DOWNWARDS ARROW WITH MEDIUM TRIANGLE ARROWHEAD",
  "1F808 LEFTWARDS ARROW WITH LARGE TRIANGLE ARROWHEAD",
  "1F809 UPWARDS ARROW WITH LARGE TRIANGLE ARROWHEAD",
  "1F80A RIGHTWARDS ARROW WITH LARGE TRIANGLE ARROWHEAD",
  "1F80B DOWNWARDS ARROW WITH LARGE TRIANGLE ARROWHEAD",
  "1F810 LEFTWARDS ARROW WITH SMALL EQUILATERAL ARROWHEAD",
  "1F811 UPWARDS ARROW WITH SMALL EQUILATERAL ARROWHEAD",
  "1F812 RIGHTWARDS ARROW WITH SMALL EQUILATERAL ARROWHEAD",
  "1F813 DOWNWARDS ARROW WITH SMALL EQUILATERAL ARROWHEAD",
  "1F814 LEFTWARDS ARROW WITH EQUILATERAL ARROWHEAD;UPWARDS ARROW WITH EQUILATERAL ARROWHEAD",
  "1F816 RIGHTWARDS ARROW WITH EQUILATERAL ARROWHEAD;DOWNWARDS ARROW WITH EQUILATERAL ARROWHEAD",
  "1F818 HEAVY LEFTWARDS ARROW WITH EQUILATERAL ARROWHEAD",
  "1F819 HEAVY UPWARDS ARROW WITH EQUILATERAL ARROWHEAD",
  "1F81A HEAVY RIGHTWARDS ARROW WITH EQUILATERAL ARROWHEAD",
  "1F81B HEAVY DOWNWARDS ARROW WITH EQUILATERAL ARROWHEAD",
  "1F81C HEAVY LEFTWARDS ARROW WITH LARGE EQUILATERAL ARROWHEAD",
  "1F81D HEAVY UPWARDS ARROW WITH LARGE EQUILATERAL ARROWHEAD",
  "1F81E HEAVY RIGHTWARDS ARROW WITH LARGE EQUILATERAL ARROWHEAD",
  "1F81F HEAVY DOWNWARDS ARROW WITH LARGE EQUILATERAL ARROWHEAD",
  "1F820 LEFTWARDS TRIANGLE-HEADED ARROW WITH NARROW SHAFT",
  "1F821 UPWARDS TRIANGLE-HEADED ARROW WITH NARROW SHAFT",
  "1F822 RIGHTWARDS TRIANGLE-HEADED ARROW WITH NARROW SHAFT",
  "1F823 DOWNWARDS TRIANGLE-HEADED ARROW WITH NARROW SHAFT",
  "1F824 LEFTWARDS TRIANGLE-HEADED ARROW WITH MEDIUM SHAFT",
  "1F825 UPWARDS TRIANGLE-HEADED ARROW WITH MEDIUM SHAFT",
  "1F826 RIGHTWARDS TRIANGLE-HEADED ARROW WITH MEDIUM SHAFT",
  "1F827 DOWNWARDS TRIANGLE-HEADED ARROW WITH MEDIUM SHAFT",
  "1F828 LEFTWARDS TRIANGLE-HEADED ARROW WITH BOLD SHAFT",
  "1F829 UPWARDS TRIANGLE-HEADED ARROW WITH BOLD SHAFT",
  "1F82A RIGHTWARDS TRIANGLE-HEADED ARROW WITH BOLD SHAFT",
  "1F82B DOWNWARDS TRIANGLE-HEADED ARROW WITH BOLD SHAFT",
  "1F82C LEFTWARDS TRIANGLE-HEADED ARROW WITH HEAVY SHAFT",
  "1F82D UPWARDS TRIANGLE-HEADED ARROW WITH HEAVY SHAFT",
  "1F82E RIGHTWARDS TRIANGLE-HEADED ARROW WITH HEAVY SHAFT",
  "1F82F DOWNWARDS TRIANGLE-HEADED ARROW WITH HEAVY SHAFT",
  "1F830 LEFTWARDS TRIANGLE-HEADED ARROW WITH VERY HEAVY SHAFT",
  "1F831 UPWARDS TRIANGLE-HEADED ARROW WITH VERY HEAVY SHAFT",
  "1F832 RIGHTWARDS TRIANGLE-HEADED ARROW WITH VERY HEAVY SHAFT",
  "1F833 DOWNWARDS TRIANGLE-HEADED ARROW WITH VERY HEAVY SHAFT;LEFTWARDS FINGER-POST ARROW",
  "1F835 UPWARDS FINGER-POST ARROW;RIGHTWARDS FINGER-POST ARROW;DOWNWARDS FINGER-POST ARROW",
  "1F838 LEFTWARDS SQUARED ARROW;UPWARDS SQUARED ARROW;RIGHTWARDS SQUARED ARROW",
  "1F83B DOWNWARDS SQUARED ARROW;LEFTWARDS COMPRESSED ARROW;UPWARDS COMPRESSED ARROW",
  "1F83E RIGHTWARDS COMPRESSED ARROW;DOWNWARDS COMPRESSED ARROW;LEFTWARDS HEAVY COMPRESSED ARROW",
  "1F841 UPWARDS HEAVY COMPRESSED ARROW;RIGHTWARDS HEAVY COMPRESSED ARROW",
  "1F843 DOWNWARDS HEAVY COMPRESSED ARROW;LEFTWARDS HEAVY ARROW;UPWARDS HEAVY ARROW",
  "1F846 RIGHTWARDS HEAVY ARROW;DOWNWARDS HEAVY ARROW",
  "1F850 LEFTWARDS SANS-SERIF ARROW;UPWARDS SANS-SERIF ARROW;RIGHTWARDS SANS-SERIF ARROW",
  "1F853 DOWNWARDS SANS-SERIF ARROW;NORTH WEST SANS-SERIF ARROW;NORTH EAST SANS-SERIF ARROW",
  "1F856 SOUTH EAST SANS-SERIF ARROW;SOUTH WEST SANS-SERIF ARROW;LEFT RIGHT SANS-SERIF ARROW",
  "1F859 UP DOWN SANS-SERIF ARROW",
  "1F860 WIDE-HEADED LEFTWARDS LIGHT BARB ARROW;WIDE-HEADED UPWARDS LIGHT BARB ARROW",
  "1F862 WIDE-HEADED RIGHTWARDS LIGHT BARB ARROW;WIDE-HEADED DOWNWARDS LIGHT BARB ARROW",
  "1F864 WIDE-HEADED NORTH WEST LIGHT BARB ARROW;WIDE-HEADED NORTH EAST LIGHT BARB ARROW",
  "1F866 WIDE-HEADED SOUTH EAST LIGHT BARB ARROW;WIDE-HEADED SOUTH WEST LIGHT BARB ARROW",
  "1F868 WIDE-HEADED LEFTWARDS BARB ARROW;WIDE-HEADED UPWARDS BARB ARROW",
  "1F86A WIDE-HEADED RIGHTWARDS BARB ARROW;WIDE-HEADED DOWNWARDS BARB ARROW",
  "1F86C WIDE-HEADED NORTH WEST BARB ARROW;WIDE-HEADED NORTH EAST BARB ARROW",
  "1F86E WIDE-HEADED SOUTH EAST BARB ARROW;WIDE-HEADED SOUTH WEST BARB ARROW",
  "1F870 WIDE-HEADED LEFTWARDS MEDIUM BARB ARROW;WIDE-HEADED UPWARDS MEDIUM BARB ARROW",
  "1F872 WIDE-HEADED RIGHTWARDS MEDIUM BARB ARROW;WIDE-HEADED DOWNWARDS MEDIUM BARB ARROW",
  "1F874 WIDE-HEADED NORTH WEST MEDIUM BARB ARROW;WIDE-HEADED NORTH EAST MEDIUM BARB ARROW",
  "1F876 WIDE-HEADED SOUTH EAST MEDIUM BARB ARROW;WIDE-HEADED SOUTH WEST MEDIUM BARB ARROW",
  "1F878 WIDE-HEADED LEFTWARDS HEAVY BARB ARROW;WIDE-HEADED UPWARDS HEAVY BARB ARROW",
  "1F87A WIDE-HEADED RIGHTWARDS HEAVY BARB ARROW;WIDE-HEADED DOWNWARDS HEAVY BARB ARROW",
  "1F87C WIDE-HEADED NORTH WEST HEAVY BARB ARROW;WIDE-HEADED NORTH EAST HEAVY BARB ARROW",
  "1F87E WIDE-HEADED SOUTH EAST HEAVY BARB ARROW;WIDE-HEADED SOUTH WEST HEAVY BARB ARROW",
  "1F880 WIDE-HEADED LEFTWARDS VERY HEAVY BARB ARROW;WIDE-HEADED UPWARDS VERY HEAVY BARB ARROW",
  "1F882 WIDE-HEADED RIGHTWARDS VERY HEAVY BARB ARROW;WIDE-HEADED DOWNWARDS VERY HEAVY BARB ARROW",
  "1F884 WIDE-HEADED NORTH WEST VERY HEAVY BARB ARROW",
  "1F885 WIDE-HEADED NORTH EAST VERY HEAVY BARB ARROW",
  "1F886 WIDE-HEADED SOUTH EAST VERY HEAVY BARB ARROW",
  "1F887 WIDE-HEADED SOUTH WEST VERY HEAVY BARB ARROW",
  "1F890 LEFTWARDS TRIANGLE ARROWHEAD;UPWARDS TRIANGLE ARROWHEAD;RIGHTWARDS TRIANGLE ARROWHEAD",
  "1F893 DOWNWARDS TRIANGLE ARROWHEAD;LEFTWARDS WHITE ARROW WITHIN TRIANGLE ARROWHEAD",
  "1F895 UPWARDS WHITE ARROW WITHIN TRIANGLE ARROWHEAD",
  "1F896 RIGHTWARDS WHITE ARROW WITHIN TRIANGLE ARROWHEAD",
  "1F897 DOWNWARDS WHITE ARROW WITHIN TRIANGLE ARROWHEAD;LEFTWARDS ARROW WITH NOTCHED TAIL",
  "1F899 UPWARDS ARROW WITH NOTCHED TAIL;RIGHTWARDS ARROW WITH NOTCHED TAIL",
  "1F89B DOWNWARDS ARROW WITH NOTCHED TAIL;HEAVY ARROW SHAFT WIDTH ONE",
  "1F89D HEAVY ARROW SHAFT WIDTH TWO THIRDS;HEAVY ARROW SHAFT WIDTH ONE HALF",
  "1F89F HEAVY ARROW SHAFT WIDTH ONE THIRD;LEFTWARDS BOTTOM-SHADED WHITE ARROW",
  "1F8A1 RIGHTWARDS BOTTOM SHADED WHITE ARROW;LEFTWARDS TOP SHADED WHITE ARROW",
  "1F8A3 RIGHTWARDS TOP SHADED WHITE ARROW;LEFTWARDS LEFT-SHADED WHITE ARROW",
  "1F8A5 RIGHTWARDS RIGHT-SHADED WHITE ARROW;LEFTWARDS RIGHT-SHADED WHITE ARROW",
  "1F8A7 RIGHTWARDS LEFT-SHADED WHITE ARROW;LEFTWARDS BACK-TILTED SHADOWED WHITE ARROW",
  "1F8A9 RIGHTWARDS BACK-TILTED SHADOWED WHITE ARROW;LEFTWARDS FRONT-TILTED SHADOWED WHITE ARROW",
  "1F8AB RIGHTWARDS FRONT-TILTED SHADOWED WHITE ARROW;WHITE ARROW SHAFT WIDTH ONE",
  "1F8AD WHITE ARROW SHAFT WIDTH TWO THIRDS",
  "1F8B0 ARROW POINTING UPWARDS THEN NORTH WEST;ARROW POINTING RIGHTWARDS THEN CURVING SOUTH WEST",
  "1F900 CIRCLED CROSS FORMEE WITH FOUR DOTS;CIRCLED CROSS FORMEE WITH TWO DOTS",
  "1F902 CIRCLED CROSS FORMEE;LEFT HALF CIRCLE WITH FOUR DOTS;LEFT HALF CIRCLE WITH THREE DOTS",
  "1F905 LEFT HALF CIRCLE WITH TWO DOTS;LEFT HALF CIRCLE WITH DOT;LEFT HALF CIRCLE",
  "1F908 DOWNWARD FACING HOOK;DOWNWARD FACING NOTCHED HOOK;DOWNWARD FACING HOOK WITH DOT",
  "1F90B DOWNWARD FACING NOTCHED HOOK WITH DOT;PINCHED FINGERS;WHITE HEART;BROWN HEART",
  "1F90F PINCHING HAND;ZIPPER-MOUTH FACE;MONEY-MOUTH FACE;FACE WITH THERMOMETER;NERD FACE",
  "1F914 THINKING FACE;FACE WITH HEAD-BANDAGE;ROBOT FACE;HUGGING FACE;SIGN OF THE HORNS",
  "1F919 CALL ME HAND;RAISED BACK OF HAND;LEFT-FACING FIST;RIGHT-FACING FIST;HANDSHAKE",
  "1F91E HAND WITH INDEX AND MIDDLE FINGERS CROSSED;I LOVE YOU HAND SIGN;FACE WITH COWBOY HAT",
  "1F921 CLOWN FACE;NAUSEATED FACE;ROLLING ON THE FLOOR LAUGHING;DROOLING FACE;LYING FACE",
  "1F926 FACE PALM;SNEEZING FACE;FACE WITH ONE EYEBROW RAISED;GRINNING FACE WITH STAR EYES",
  "1F92A GRINNING FACE WITH ONE LARGE AND ONE SMALL EYE;FACE WITH FINGER COVERING CLOSED LIPS",
  "1F92C SERIOUS FACE WITH SYMBOLS COVERING MOUTH",
  "1F92D SMILING FACE WITH SMILING EYES AND HAND COVERING MOUTH;FACE WITH OPEN MOUTH VOMITING",
  "1F92F SHOCKED FACE WITH EXPLODING HEAD;PREGNANT WOMAN;BREAST-FEEDING;PALMS UP TOGETHER;SELFIE",
  "1F934 PRINCE;MAN IN TUXEDO;MOTHER CHRISTMAS;SHRUG;PERSON DOING CARTWHEEL;JUGGLING;FENCER",
  "1F93B MODERN PENTATHLON;WRESTLERS;WATER POLO;HANDBALL;DIVING MASK;WILTED FLOWER",
  "1F941 DRUM WITH DRUMSTICKS;CLINKING GLASSES;TUMBLER GLASS;SPOON;GOAL NET;RIFLE",
  "1F947 FIRST PLACE MEDAL;SECOND PLACE MEDAL;THIRD PLACE MEDAL;BOXING GLOVE;MARTIAL ARTS UNIFORM",
  "1F94C CURLING STONE;LACROSSE STICK AND BALL;SOFTBALL;FLYING DISC;CROISSANT;AVOCADO;CUCUMBER",
  "1F953 BACON;POTATO;CARROT;BAGUETTE BREAD;GREEN SALAD;SHALLOW PAN OF FOOD;STUFFED FLATBREAD;EGG",
  "1F95B GLASS OF MILK;PEANUTS;KIWIFRUIT;PANCAKES;DUMPLING;FORTUNE COOKIE;TAKEOUT BOX;CHOPSTICKS",
  "1F963 BOWL WITH SPOON;CUP WITH STRAW;COCONUT;BROCCOLI;PIE;PRETZEL;CUT OF MEAT;SANDWICH",
  "1F96B CANNED FOOD;LEAFY GREEN;MANGO;MOON CAKE;BAGEL",
  "1F970 SMILING FACE WITH SMILING EYES AND THREE HEARTS;YAWNING FACE;SMILING FACE WITH TEAR",
  "1F973 FACE WITH PARTY HORN AND PARTY HAT;FACE WITH UNEVEN EYES AND WAVY MOUTH;OVERHEATED FACE",
  "1F976 FREEZING FACE;NINJA;DISGUISED FACE;FACE HOLDING BACK TEARS;FACE WITH PLEADING EYES;SARI",
  "1F97C LAB COAT;GOGGLES;HIKING BOOT;FLAT SHOE;CRAB;LION FACE;SCORPION;TURKEY;UNICORN FACE;EAGLE",
  "1F986 DUCK;BAT;SHARK;OWL;FOX FACE;BUTTERFLY;DEER;GORILLA;LIZARD;RHINOCEROS;SHRIMP;SQUID",
  "1F992 GIRAFFE FACE;ZEBRA FACE;HEDGEHOG;SAUROPOD;T-REX;CRICKET;KANGAROO;LLAMA;PEACOCK",
  "1F99B HIPPOPOTAMUS;PARROT;RACCOON;LOBSTER;MOSQUITO;MICROBE;BADGER;SWAN;MAMMOTH;DODO;SLOTH",
  "1F9A6 OTTER;ORANGUTAN;SKUNK;FLAMINGO;OYSTER;BEAVER;BISON;SEAL;GUIDE DOG;PROBING CANE",
  "1F9B0 EMOJI COMPONENT RED HAIR;EMOJI COMPONENT CURLY HAIR;EMOJI COMPONENT BALD",
  "1F9B3 EMOJI COMPONENT WHITE HAIR;BONE;LEG;FOOT;TOOTH;SUPERHERO;SUPERVILLAIN;SAFETY VEST",
  "1F9BB EAR WITH HEARING AID;MOTORIZED WHEELCHAIR;MANUAL WHEELCHAIR;MECHANICAL ARM",
  "1F9BF MECHANICAL LEG;CHEESE WEDGE;CUPCAKE;SALT SHAKER;BEVERAGE BOX;GARLIC;ONION;FALAFEL;WAFFLE",
  "1F9C8 BUTTER;MATE DRINK;ICE CUBE;BUBBLE TEA;TROLL;STANDING PERSON;KNEELING PERSON;DEAF PERSON",
  "1F9D0 FACE WITH MONOCLE;ADULT;CHILD;OLDER ADULT;BEARDED PERSON;PERSON WITH HEADSCARF",
  "1F9D6 PERSON IN STEAMY ROOM;PERSON CLIMBING;PERSON IN LOTUS POSITION;MAGE;FAIRY;VAMPIRE",
  "1F9DC MERPERSON;ELF;GENIE;ZOMBIE;BRAIN;ORANGE HEART;BILLED CAP;SCARF;GLOVES;COAT;SOCKS",
  "1F9E7 RED GIFT ENVELOPE;FIRECRACKER;JIGSAW PUZZLE PIECE;TEST TUBE;PETRI DISH;DNA DOUBLE HELIX",
  "1F9ED COMPASS;ABACUS;FIRE EXTINGUISHER;TOOLBOX;BRICK;MAGNET;LUGGAGE;LOTION BOTTLE",
  "1F9F5 SPOOL OF THREAD;BALL OF YARN;SAFETY PIN;TEDDY BEAR;BROOM;BASKET;ROLL OF PAPER",
  "1F9FC BAR OF SOAP;SPONGE;RECEIPT;NAZAR AMULET;NEUTRAL CHESS KING;NEUTRAL CHESS QUEEN",
  "1FA02 NEUTRAL CHESS ROOK;NEUTRAL CHESS BISHOP;NEUTRAL CHESS KNIGHT;NEUTRAL CHESS PAWN",
  "1FA06 WHITE CHESS KNIGHT ROTATED FORTY-FIVE DEGREES",
  "1FA07 BLACK CHESS KNIGHT ROTATED FORTY-FIVE DEGREES",
  "1FA08 NEUTRAL CHESS KNIGHT ROTATED FORTY-FIVE DEGREES;WHITE CHESS KING ROTATED NINETY DEGREES",
  "1FA0A WHITE CHESS QUEEN ROTATED NINETY DEGREES;WHITE CHESS ROOK ROTATED NINETY DEGREES",
  "1FA0C WHITE CHESS BISHOP ROTATED NINETY DEGREES;WHITE CHESS KNIGHT ROTATED NINETY DEGREES",
  "1FA0E WHITE CHESS PAWN ROTATED NINETY DEGREES;BLACK CHESS KING ROTATED NINETY DEGREES",
  "1FA10 BLACK CHESS QUEEN ROTATED NINETY DEGREES;BLACK CHESS ROOK ROTATED NINETY DEGREES",
  "1FA12 BLACK CHESS BISHOP ROTATED NINETY DEGREES;BLACK CHESS KNIGHT ROTATED NINETY DEGREES",
  "1FA14 BLACK CHESS PAWN ROTATED NINETY DEGREES;NEUTRAL CHESS KING ROTATED NINETY DEGREES",
  "1FA16 NEUTRAL CHESS QUEEN ROTATED NINETY DEGREES;NEUTRAL CHESS ROOK ROTATED NINETY DEGREES",
  "1FA18 NEUTRAL CHESS BISHOP ROTATED NINETY DEGREES;NEUTRAL CHESS KNIGHT ROTATED NINETY DEGREES",
  "1FA1A NEUTRAL CHESS PAWN ROTATED NINETY DEGREES",
  "1FA1B WHITE CHESS KNIGHT ROTATED ONE HUNDRED THIRTY-FIVE DEGREES",
  "1FA1C BLACK CHESS KNIGHT ROTATED ONE HUNDRED THIRTY-FIVE DEGREES",
  "1FA1D NEUTRAL CHESS KNIGHT ROTATED ONE HUNDRED THIRTY-FIVE DEGREES;WHITE CHESS TURNED KING",
  "1FA1F WHITE CHESS TURNED QUEEN;WHITE CHESS TURNED ROOK;WHITE CHESS TURNED BISHOP",
  "1FA22 WHITE CHESS TURNED KNIGHT;WHITE CHESS TURNED PAWN;BLACK CHESS TURNED KING",
  "1FA25 BLACK CHESS TURNED QUEEN;BLACK CHESS TURNED ROOK;BLACK CHESS TURNED BISHOP",
  "1FA28 BLACK CHESS TURNED KNIGHT;BLACK CHESS TURNED PAWN;NEUTRAL CHESS TURNED KING",
  "1FA2B NEUTRAL CHESS TURNED QUEEN;NEUTRAL CHESS TURNED ROOK;NEUTRAL CHESS TURNED BISHOP",
  "1FA2E NEUTRAL CHESS TURNED KNIGHT;NEUTRAL CHESS TURNED PAWN",
  "1FA30 WHITE CHESS KNIGHT ROTATED TWO HUNDRED TWENTY-FIVE DEGREES",
  "1FA31 BLACK CHESS KNIGHT ROTATED TWO HUNDRED TWENTY-FIVE DEGREES",
  "1FA32 NEUTRAL CHESS KNIGHT ROTATED TWO HUNDRED TWENTY-FIVE DEGREES",
  "1FA33 WHITE CHESS KING ROTATED TWO HUNDRED SEVENTY DEGREES",
  "1FA34 WHITE CHESS QUEEN ROTATED TWO HUNDRED SEVENTY DEGREES",
  "1FA35 WHITE CHESS ROOK ROTATED TWO HUNDRED SEVENTY DEGREES",
  "1FA36 WHITE CHESS BISHOP ROTATED TWO HUNDRED SEVENTY DEGREES",
  "1FA37 WHITE CHESS KNIGHT ROTATED TWO HUNDRED SEVENTY DEGREES",
  "1FA38 WHITE CHESS PAWN ROTATED TWO HUNDRED SEVENTY DEGREES",
  "1FA39 BLACK CHESS KING ROTATED TWO HUNDRED SEVENTY DEGREES",
  "1FA3A BLACK CHESS QUEEN ROTATED TWO HUNDRED SEVENTY DEGREES",
  "1FA3B BLACK CHESS ROOK ROTATED TWO HUNDRED SEVENTY DEGREES",
  "1FA3C BLACK CHESS BISHOP ROTATED TWO HUNDRED SEVENTY DEGREES",
  "1FA3D BLACK CHESS KNIGHT ROTATED TWO HUNDRED SEVENTY DEGREES",
  "1FA3E BLACK CHESS PAWN ROTATED TWO HUNDRED SEVENTY DEGREES",
  "1FA3F NEUTRAL CHESS KING ROTATED TWO HUNDRED SEVENTY DEGREES",
  "1FA40 NEUTRAL CHESS QUEEN ROTATED TWO HUNDRED SEVENTY DEGREES",
  "1FA41 NEUTRAL CHESS ROOK ROTATED TWO HUNDRED SEVENTY DEGREES",
  "1FA42 NEUTRAL CHESS BISHOP ROTATED TWO HUNDRED SEVENTY DEGREES",
  "1FA43 NEUTRAL CHESS KNIGHT ROTATED TWO HUNDRED SEVENTY DEGREES",
  "1FA44 NEUTRAL CHESS PAWN ROTATED TWO HUNDRED SEVENTY DEGREES",
  "1FA45 WHITE CHESS KNIGHT ROTATED THREE HUNDRED FIFTEEN DEGREES",
  "1FA46 BLACK CHESS KNIGHT ROTATED THREE HUNDRED FIFTEEN DEGREES",
  "1FA47 NEUTRAL CHESS KNIGHT ROTATED THREE HUNDRED FIFTEEN DEGREES;WHITE CHESS EQUIHOPPER",
  "1FA49 BLACK CHESS EQUIHOPPER;NEUTRAL CHESS EQUIHOPPER",
  "1FA4B WHITE CHESS EQUIHOPPER ROTATED NINETY DEGREES",
  "1FA4C BLACK CHESS EQUIHOPPER ROTATED NINETY DEGREES",
  "1FA4D NEUTRAL CHESS EQUIHOPPER ROTATED NINETY DEGREES;WHITE CHESS KNIGHT-QUEEN",
  "1FA4F WHITE CHESS KNIGHT-ROOK;WHITE CHESS KNIGHT-BISHOP;BLACK CHESS KNIGHT-QUEEN",
  "1FA52 BLACK CHESS KNIGHT-ROOK;BLACK CHESS KNIGHT-BISHOP",
  "1FA60 XIANGQI RED GENERAL;XIANGQI RED MANDARIN;XIANGQI RED ELEPHANT;XIANGQI RED HORSE",
  "1FA64 XIANGQI RED CHARIOT;XIANGQI RED CANNON;XIANGQI RED SOLDIER;XIANGQI BLACK GENERAL",
  "1FA68 XIANGQI BLACK MANDARIN;XIANGQI BLACK ELEPHANT;XIANGQI BLACK HORSE;XIANGQI BLACK CHARIOT",
  "1FA6C XIANGQI BLACK CANNON;XIANGQI BLACK SOLDIER",
  "1FA70 BALLET SHOES;ONE-PIECE SWIMSUIT;BRIEFS;SHORTS;THONG SANDAL",
  "1FA78 DROP OF BLOOD;ADHESIVE BANDAGE;STETHOSCOPE;X-RAY;CRUTCH",
  "1FA80 YO-YO;KITE;PARACHUTE;BOOMERANG;MAGIC WAND;PINATA;NESTING DOLLS",
  "1FA90 RINGED PLANET;CHAIR;RAZOR;AXE;DIYA LAMP;BANJO;MILITARY HELMET;ACCORDION;LONG DRUM;COIN",
  "1FA9A CARPENTRY SAW;SCREWDRIVER;LADDER;HOOK;MIRROR;WINDOW;PLUNGER;SEWING NEEDLE;KNOT;BUCKET",
  "1FAA4 MOUSE TRAP;TOOTHBRUSH;HEADSTONE;PLACARD;ROCK;MIRROR BALL;IDENTIFICATION CARD;LOW BATTERY",
  "1FAAC HAMSA",
  "1FAB0 FLY;WORM;BEETLE;COCKROACH;POTTED PLANT;WOOD;FEATHER;LOTUS;CORAL;EMPTY NEST",
  "1FABA NEST WITH EGGS",
  "1FAC0 ANATOMICAL HEART;LUNGS;PEOPLE HUGGING;PREGNANT MAN;PREGNANT PERSON;PERSON WITH CROWN",
  "1FAD0 BLUEBERRIES;BELL PEPPER;OLIVE;FLATBREAD;TAMALE;FONDUE;TEAPOT;POURING LIQUID;BEANS;JAR",
  "1FAE0 MELTING FACE;SALUTING FACE;FACE WITH OPEN EYES AND HAND OVER MOUTH;FACE WITH PEEKING EYE",
  "1FAE4 FACE WITH DIAGONAL MOUTH;DOTTED LINE FACE;BITING LIP;BUBBLES",
  "1FAF0 HAND WITH INDEX FINGER AND THUMB CROSSED;RIGHTWARDS HAND;LEFTWARDS HAND;PALM DOWN HAND",
  "1FAF4 PALM UP HAND;INDEX POINTING AT THE VIEWER;HEART HANDS"]

end Text

end Substitution
