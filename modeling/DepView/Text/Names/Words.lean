/-!
The words that names are made of, and names that are not in the tables by character.
-/

namespace DepView.Text.Names

/-! The words that are frequent in the names of characters. -/

/-- These words, in the order of their short forms, with a blank behind each. -/
def words : List String :=
  ["LETTER WITH CAPITAL SMALL FORM ARROW SIGN RIGHT ABOVE ISOLATED DOUBLE AND RIGHTWARDS LEFT ",
   "BELOW FINAL THREE VERTICAL LEFTWARDS INITIAL STROKE SYMBOL BLACK MARK WHITE TRIANGLE-HEADED ",
   "HORIZONTAL MIDDLE HUNDRED TWO THOUSAND BRACKET DOWNWARDS ONE HEAVY DOT FOUR HOOK CIRCUMFLEX ",
   "TRIANGLE FIVE WEST-CREE EIGHT TIMES SQUARE CIRCLE GREATER-THAN SEVEN DIAERESIS UPWARDS ",
   "ARROWHEAD REVERSED MEEM PLUS MEDIUM HALF DOWN EQUAL LESS-THAN MEDIAL NINE INDEX LIGHT VOWEL ",
   "INVERTED POINTING TILDE DIGIT FACE LOWER TURNED YPOGEGRAMMENI PERISPOMENI PUNCTUATION DOTS ",
   "ACUTE PARENTHESIS OVER SIX MAKSURA BAR ROTATED ALEF UPPER ORNAMENT SINGLE VOCALIC RING THUMB ",
   "ANUSVARA HARPOON PROSGEGRAMMENI DASIA MACRON PSILI BARB NUMBER CIRCLED RETROFLEX DEGREES ",
   "ASTERISK DESCENDER DIAGONAL ZERO LARGE YEH OPERATOR COMBINING GRAVE CENTRE CANDRABINDU OPEN ",
   "RIGHT-POINTING JEEM LITTLE LONG TONE VARIA COMMA HIGH STOP BLOCK LOW EXCLAMATION BREVE ",
   "DIAMOND TRIPLE HAH QUOTATION ANGLE EQUILATERAL LIGATURE LINE LATIN LEFT-POINTING SHORT EAST ",
   "HAND-FIST VISARGA CROSSING OXIA TEN TWENTY VIRAMA POINTED SQUARED MODIFIER NORTH SEVENTY ",
   "STAR ACCENT ANTICLOCKWISE QUESTION QUARTER CROSS SANS-SERIF DOTTED MOVEMENT-FLOORPLANE ",
   "NINETY CARON NGA SHA TAIL TRIANGULAR HITTING ABBREVIATION KHAH MOVEMENT-WALLPLANE SEPARATOR ",
   "WEST SOUTH GUNU CLOSED EQUALS FULL ALTERNATE CONSONANT INTERSECTION CEDILLA PALATAL CHA ",
   "UNDERBAR ALTERNATING NYA DIGRAPH GLOTTAL UPSILON YENISEI KHA BOTTOM CORNER STRAIGHT SUPERSET ",
   "OMEGA HAND-CIRCLE THA EPSILON C-SIMPLIFIED HAMZA HAND-HINGE NOT ORKHON FINGERS KNIGHT ",
   "SECTION SOLIDUS TTHA ALPHA FIFTY IDEOGRAPHIC PHA DASH TENU CONJOINED EIGHTH OLD OVERLAY ",
   "CHESS DDHA DOWN-POINTING NOON RAISED SUBSET COLON MULTIPLICATION NEUTRAL SLANTED UP-POINTING ",
   "VARIANT ARCHAION FRACTION INTEGRAL COPTIC DANDA EQUIVALENT TTA DDA REVERSE HEART DHA SCRIPT ",
   "TORTOISE DOUBLE-STRUCK SUPERSCRIPT GHA NUN DAGESH HORN TACK ASH NNA ARCHAIC BHA THIRTY CURLY ",
   "SIGMA AVAGRAHA IOTIFIED SYLLABLE DIALYTIKA INSULAR OMICRON TOP GREEK NUKTA THETA FROM HAND ",
   "IOTA ARABIC-INDIC BENT HAND-ANGLE NEGATIVE QUADRANT QUARTERS SHELL SHIN SSA BETWEEN FORWARD ",
   "SMILING CLOCKWISE CRYPTOGRAMMIC BOLD ARABIC FOR INSIDE THE WAW CYRILLIC DIAMONDS VERY LAM ",
   "GAMMA MAHAAPRAANA SHAFT SIMALUNGUN SPACE TWO-HEADED CROSSED-TAIL JHA SEEN SEMICOLON SPOKED ",
   "TELEPHONE EIGHTHS MOUTH OBLIQUE TEARDROP-SPOKED MOON MULTIPLE PRECEDES SHADOWED SIDE ",
   "SUCCEEDS HEARTS SHE ALPAPRAANA DELTA AIN QUADRUPLE DOTLESS THROUGH ALMOST ARROWS HINGED ",
   "NOTEHEAD PERSON SAMEKH ROTATION-FLOORPLANE SHEEN TONOS REH DISH CIRCLES CROSSED LOGICAL ",
   "LOZENGE OVERBAR PRODUCT APOSTROPHE CANDRA CHARACTERS CURVE EIGHTY END FORTY KAF KAPPA LAMEDH ",
   "LEFT-STEM LENGTH MINUS OGONEK ROTATION-WALLPLANE TSA CURL INDEPENDENT KATAKANA LEAF WAVE HEH ",
   "YUS ALEPH GHAIN KATAKANA-HIRAGANA SIXTY SOUND UNION BULLET EYES KRYZHEM MUSICAL POVYSHE ",
   "SPADES TAH TWELVE BOX CHARACTER GAR ITERATION LLA NEO RHO COMPRESSED GIMEL LENTICULAR NOTE "]

/-! Further names that characters have: those of control characters, and corrections. -/

/-- Each of these names behind the number of its character in base 36, with a comma behind it. -/
def aliases : List String :=
  ["0 NULL,0 NUL,1 START OF HEADING,1 SOH,2 START OF TEXT,2 STX,3 END OF TEXT,3 ETX,",
   "4 END OF TRANSMISSION,4 EOT,5 ENQUIRY,5 ENQ,6 ACKNOWLEDGE,6 ACK,7 ALERT,7 BEL,8 BACKSPACE,",
   "8 BS,9 CHARACTER TABULATION,9 HORIZONTAL TABULATION,9 HT,9 TAB,a LINE FEED,a NEW LINE,",
   "a END OF LINE,a EOL,a LF,a NL,b LINE TABULATION,b VERTICAL TABULATION,b VT,c FORM FEED,c FF,",
   "d CARRIAGE RETURN,d CR,e SHIFT OUT,e LOCKING-SHIFT ONE,e SO,f SHIFT IN,f LOCKING-SHIFT ZERO,",
   "f SI,g DATA LINK ESCAPE,g DLE,h DEVICE CONTROL ONE,h DC1,i DEVICE CONTROL TWO,i DC2,",
   "j DEVICE CONTROL THREE,j DC3,k DEVICE CONTROL FOUR,k DC4,l NEGATIVE ACKNOWLEDGE,l NAK,",
   "m SYNCHRONOUS IDLE,m SYN,n END OF TRANSMISSION BLOCK,n ETB,o CANCEL,o CAN,p END OF MEDIUM,",
   "p EOM,q SUBSTITUTE,q SUB,r ESCAPE,r ESC,s INFORMATION SEPARATOR FOUR,s FILE SEPARATOR,s FS,",
   "t INFORMATION SEPARATOR THREE,t GROUP SEPARATOR,t GS,u INFORMATION SEPARATOR TWO,",
   "u RECORD SEPARATOR,u RS,v INFORMATION SEPARATOR ONE,v UNIT SEPARATOR,v US,w SP,3j DELETE,",
   "3j DEL,3k PADDING CHARACTER,3k PAD,3l HIGH OCTET PRESET,3l HOP,3m BREAK PERMITTED HERE,",
   "3m BPH,3n NO BREAK HERE,3n NBH,3o INDEX,3o IND,3p NEXT LINE,3p NEL,3q START OF SELECTED AREA,",
   "3q SSA,3r END OF SELECTED AREA,3r ESA,3s CHARACTER TABULATION SET,",
   "3s HORIZONTAL TABULATION SET,3s HTS,3t CHARACTER TABULATION WITH JUSTIFICATION,",
   "3t HORIZONTAL TABULATION WITH JUSTIFICATION,3t HTJ,3u LINE TABULATION SET,",
   "3u VERTICAL TABULATION SET,3u VTS,3v PARTIAL LINE FORWARD,3v PARTIAL LINE DOWN,3v PLD,",
   "3w PARTIAL LINE BACKWARD,3w PARTIAL LINE UP,3w PLU,3x REVERSE LINE FEED,3x REVERSE INDEX,",
   "3x RI,3y SINGLE SHIFT TWO,3y SINGLE-SHIFT-2,3y SS2,3z SINGLE SHIFT THREE,3z SINGLE-SHIFT-3,",
   "3z SS3,40 DEVICE CONTROL STRING,40 DCS,41 PRIVATE USE ONE,41 PRIVATE USE-1,41 PU1,",
   "42 PRIVATE USE TWO,42 PRIVATE USE-2,42 PU2,43 SET TRANSMIT STATE,43 STS,44 CANCEL CHARACTER,",
   "44 CCH,45 MESSAGE WAITING,45 MW,46 START OF GUARDED AREA,46 START OF PROTECTED AREA,46 SPA,",
   "47 END OF GUARDED AREA,47 END OF PROTECTED AREA,47 EPA,48 START OF STRING,48 SOS,",
   "49 SINGLE GRAPHIC CHARACTER INTRODUCER,49 SGC,4a SINGLE CHARACTER INTRODUCER,4a SCI,",
   "4b CONTROL SEQUENCE INTRODUCER,4b CSI,4c STRING TERMINATOR,4c ST,4d OPERATING SYSTEM COMMAND,",
   "4d OSC,4e PRIVACY MESSAGE,4e PM,4f APPLICATION PROGRAM COMMAND,4f APC,4g NBSP,4t SHY,",
   "bm LATIN CAPITAL LETTER GHA,bn LATIN SMALL LETTER GHA,nj CGJ,17g ALM,",
   "1e1 SYRIAC SUBLINEAR COLON SKEWED LEFT,2ji KANNADA LETTER LLLA,2vx LAO LETTER FO FON,",
   "2vz LAO LETTER FO FAY,2w3 LAO LETTER RO,2w5 LAO LETTER LO,",
   "34g TIBETAN MARK BKA- SHOG GI MGO RGYAN,3jg HANGUL JONGSEONG YESIEUNG-KIYEOK,",
   "3jh HANGUL JONGSEONG YESIEUNG-SSANGKIYEOK,3ji HANGUL JONGSEONG SSANGYESIEUNG,",
   "3jj HANGUL JONGSEONG YESIEUNG-KHIEUKH,4qz FVS1,4r0 FVS2,4r1 FVS3,4r2 MVS,4r3 FVS4,6bv ZWSP,",
   "6bw ZWNJ,6bx ZWJ,6by LRM,6bz RLM,6cq LRE,6cr RLE,6cs PDF,6ct LRO,6cu RLO,6cv NNBSP,6e7 MMSP,",
   "6e8 WJ,6ee LRI,6ef RLI,6eg FSI,6eh PDI,6jc WEIERSTRASS ELLIPTIC FUNCTION,",
   "760 MICR ON US SYMBOL,761 MICR DASH SYMBOL,",
   "8l6 LEFTWARDS TRIANGLE-HEADED ARROW WITH DOUBLE VERTICAL STROKE,",
   "8l8 RIGHTWARDS TRIANGLE-HEADED ARROW WITH DOUBLE VERTICAL STROKE,",
   "vmd YI SYLLABLE ITERATION MARK,xny MYANMAR LETTER KHAMTI LLA,1e68 VS1,1e69 VS2,1e6a VS3,",
   "1e6b VS4,1e6c VS5,1e6d VS6,1e6e VS7,1e6f VS8,1e6g VS9,1e6h VS10,1e6i VS11,1e6j VS12,",
   "1e6k VS13,1e6l VS14,1e6m VS15,1e6n VS16,",
   "1e6w PRESENTATION FORM FOR VERTICAL RIGHT WHITE LENTICULAR BRACKET,1edb BYTE ORDER MARK,",
   "1edb BOM,1edb ZWNBSP,1lg4 CUNEIFORM SIGN NU11 TENU,",
   "1lg5 CUNEIFORM SIGN NU11 OVER NU11 BUR OVER BUR,20d2 MEDEFAIDRIN CAPITAL LETTER H,",
   "20d3 MEDEFAIDRIN CAPITAL LETTER NG,20dy MEDEFAIDRIN SMALL LETTER H,",
   "20dz MEDEFAIDRIN SMALL LETTER NG,2dc1 HENTAIGANA LETTER E-1,",
   "2jt1 BYZANTINE MUSICAL SYMBOL FTHORA SKLIRON CHROMA VASIS,jo5c VS17,jo5d VS18,jo5e VS19,",
   "jo5f VS20,jo5g VS21,jo5h VS22,jo5i VS23,jo5j VS24,jo5k VS25,jo5l VS26,jo5m VS27,jo5n VS28,",
   "jo5o VS29,jo5p VS30,jo5q VS31,jo5r VS32,jo5s VS33,jo5t VS34,jo5u VS35,jo5v VS36,jo5w VS37,",
   "jo5x VS38,jo5y VS39,jo5z VS40,jo60 VS41,jo61 VS42,jo62 VS43,jo63 VS44,jo64 VS45,jo65 VS46,",
   "jo66 VS47,jo67 VS48,jo68 VS49,jo69 VS50,jo6a VS51,jo6b VS52,jo6c VS53,jo6d VS54,jo6e VS55,",
   "jo6f VS56,jo6g VS57,jo6h VS58,jo6i VS59,jo6j VS60,jo6k VS61,jo6l VS62,jo6m VS63,jo6n VS64,",
   "jo6o VS65,jo6p VS66,jo6q VS67,jo6r VS68,jo6s VS69,jo6t VS70,jo6u VS71,jo6v VS72,jo6w VS73,",
   "jo6x VS74,jo6y VS75,jo6z VS76,jo70 VS77,jo71 VS78,jo72 VS79,jo73 VS80,jo74 VS81,jo75 VS82,",
   "jo76 VS83,jo77 VS84,jo78 VS85,jo79 VS86,jo7a VS87,jo7b VS88,jo7c VS89,jo7d VS90,jo7e VS91,",
   "jo7f VS92,jo7g VS93,jo7h VS94,jo7i VS95,jo7j VS96,jo7k VS97,jo7l VS98,jo7m VS99,jo7n VS100,",
   "jo7o VS101,jo7p VS102,jo7q VS103,jo7r VS104,jo7s VS105,jo7t VS106,jo7u VS107,jo7v VS108,",
   "jo7w VS109,jo7x VS110,jo7y VS111,jo7z VS112,jo80 VS113,jo81 VS114,jo82 VS115,jo83 VS116,",
   "jo84 VS117,jo85 VS118,jo86 VS119,jo87 VS120,jo88 VS121,jo89 VS122,jo8a VS123,jo8b VS124,",
   "jo8c VS125,jo8d VS126,jo8e VS127,jo8f VS128,jo8g VS129,jo8h VS130,jo8i VS131,jo8j VS132,",
   "jo8k VS133,jo8l VS134,jo8m VS135,jo8n VS136,jo8o VS137,jo8p VS138,jo8q VS139,jo8r VS140,",
   "jo8s VS141,jo8t VS142,jo8u VS143,jo8v VS144,jo8w VS145,jo8x VS146,jo8y VS147,jo8z VS148,",
   "jo90 VS149,jo91 VS150,jo92 VS151,jo93 VS152,jo94 VS153,jo95 VS154,jo96 VS155,jo97 VS156,",
   "jo98 VS157,jo99 VS158,jo9a VS159,jo9b VS160,jo9c VS161,jo9d VS162,jo9e VS163,jo9f VS164,",
   "jo9g VS165,jo9h VS166,jo9i VS167,jo9j VS168,jo9k VS169,jo9l VS170,jo9m VS171,jo9n VS172,",
   "jo9o VS173,jo9p VS174,jo9q VS175,jo9r VS176,jo9s VS177,jo9t VS178,jo9u VS179,jo9v VS180,",
   "jo9w VS181,jo9x VS182,jo9y VS183,jo9z VS184,joa0 VS185,joa1 VS186,joa2 VS187,joa3 VS188,",
   "joa4 VS189,joa5 VS190,joa6 VS191,joa7 VS192,joa8 VS193,joa9 VS194,joaa VS195,joab VS196,",
   "joac VS197,joad VS198,joae VS199,joaf VS200,joag VS201,joah VS202,joai VS203,joaj VS204,",
   "joak VS205,joal VS206,joam VS207,joan VS208,joao VS209,joap VS210,joaq VS211,joar VS212,",
   "joas VS213,joat VS214,joau VS215,joav VS216,joaw VS217,joax VS218,joay VS219,joaz VS220,",
   "job0 VS221,job1 VS222,job2 VS223,job3 VS224,job4 VS225,job5 VS226,job6 VS227,job7 VS228,",
   "job8 VS229,job9 VS230,joba VS231,jobb VS232,jobc VS233,jobd VS234,jobe VS235,jobf VS236,",
   "jobg VS237,jobh VS238,jobi VS239,jobj VS240,jobk VS241,jobl VS242,jobm VS243,jobn VS244,",
   "jobo VS245,jobp VS246,jobq VS247,jobr VS248,jobs VS249,jobt VS250,jobu VS251,jobv VS252,",
   "jobw VS253,jobx VS254,joby VS255,jobz VS256,"]

end DepView.Text.Names
