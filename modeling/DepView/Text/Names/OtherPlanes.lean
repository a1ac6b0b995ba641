/-!
The names of the characters from U+10000 on.
-/

namespace DepView.Text.Names

/-! The names of characters from U+10000 to below U+14000: scripts of old. -/

/-- These names, in the writing that `DepView.Text.Names` reads. -/
def antiquity : List String :=
  ["+2,0LINEAR B iy B008 A,3B038 E,3B028 I,3B061 O,3B010 U,3B001 DA,3B045 DE,3B007 DI,3B014 DO,",
   "3B051 DU,3B057 JA,3B046 JE,+1,3B036 JO,3B065 JU,3B077 KA,3B044 KE,3B067 KI,3B070 KO,3B081 KU,",
   "3B080 MA,3B013 ME,3B073 MI,3B015 MO,3B023 MU,3B006 NA,3B024 NE,3B030 NI,3B052 NO,3B055 NU,",
   "3B003 PA,3B072 PE,3B039 PI,3B011 PO,3B050 PU,3B016 QA,3B078 QE,3B021 QI,3B032 QO,+1,3B060 RA,",
   "3B027 RE,3B053 RI,3B002 RO,3B026 RU,3B031 SA,3B009 SE,3B041 SI,3B012 SO,3B058 SU,3B059 TA,",
   "3B004 TE,3B037 TI,3B005 TO,3B069 TU,3B054 WA,3B075 WE,3B040 WI,3B042 WO,+1,3B017 ZA,3B074 ZE,",
   "+1,3B020 ZO,3B025 A2,3B043 A3,3B085 AU,3B071 DWE,3B090 DWO,3B048 NWA,3B029 PU2,3B062 PTE,",
   "3B076 RA2,3B033 RA3,3B068 RO2,3B066 TA2,3B087 TWE,3B091 ad,+2,2v B018,3B019,3B022,3B034,",
   "3B047,3B049,3B056,3B063,3B064,3B079,3B082,3B083,3B086,3B089,+y,2IDEOGRAM B100 MAN,",
   "3B102 WOMAN,3B104 DEER,3B105 EQUID,3B105F MARE,3B105M STALLION,3B106F EWE,3B106M RAM,",
   "3B107F SHE-GOAT,3B107M HE-GOAT,3B108F SOW,3B108M BOAR,3B109F COW,3B109M BULL,3B120 WHEAT,",
   "3B121 BARLEY,3B122 OLIVE,3B123 SPICE,3B125 CYPERUS,2MONOGRAM B127 KAPO,3B128 KANAKO,",
   "2IDEOGRAM B130 OIL,3B131 WINE,3B132,2MONOGRAM B133 AREPA,3B135 MERI,2IDEOGRAM B140 BRONZE,",
   "3B141 GOLD,3B142,3B145 WOOL,3B146,3B150,3B151 in,3B152,3B153,3B154,2MONOGRAM B156 TURO2,",
   "2IDEOGRAM B157,3B158,3B159 CLOTH,3B160,3B161,3B162 GARMENT,3B163 ARMOUR,3B164,3B165,3B166,",
   "3B167,3B168,3B169,3B170,3B171,3B172,3B173 MONTH,3B174,3B176 TREE,3B177,3B178,3B179,3B180,",
   "3B181,3B182,3B183,3B184,3B185,3B189,3B190,3B191 HELMET,3B220 FOOTSTOOL,3B225 BATHTUB,",
   "3B230 SPEAR,3B231 f,3B232,3B233 SWORD,3B234,3B236,3B240 WHEELED CHARIOT,3B241 CHARIOT,",
   "3B242 CHARIOT FRAME,3B243 WHEEL,3B245,3B246,2MONOGRAM B247 DIPTE,2IDEOGRAM B248,3B249,3B251,",
   "3B252,3B253,3B254 DART,3B255,3B256,3B257,3B258,3B259,3VESSEL B155,4B200,4B201,4B202,4B203,",
   "4B204,4B205,4B206,4B207,4B208,4B209,4B210,4B211,4B212,4B213,4B214,4B215,4B216,4B217,4B218,",
   "4B219,4B221,4B222,4B226,4B227,4B228,4B229,4B250,4B305,+5,0AEGEAN WORD fm ec,3aj,1CHECK x,+4,",
   "1cs ah,2ad,2q,2ak,2ao,2ca,2av,2aq,2bi,2el,2em,2it,2mi,2ha,2nc,2es,2mg,2fc,2ah ac,2ad ac,",
   "2q ac,2ak ac,2ao ac,2ca ac,2av ac,2aq ac,2bi ac,2ah ae,2ad ae,2q ae,2ak ae,2ao ae,2ca ae,",
   "2av ae,2aq ae,2bi ae,2el ae,2em ae,2it ae,2mi ae,2ha ae,2nc ae,2es ae,2mg ae,2fc ae,+3,",
   "1WEIGHT BASE UNIT,2FIRST SUBUNIT,2SECOND SUBUNIT,2THIRD SUBUNIT,2FOURTH SUBUNIT,",
   "1DRY MEASURE FIRST SUBUNIT,1LIQUID MEASURE FIRST SUBUNIT,1MEASURE SECOND SUBUNIT,",
   "2THIRD SUBUNIT,0jd ACROPHONIC ATTIC ah ex,4bd,4DRACHMA,3ao,3ha,3ao ac,4ae,3ha ae,3ao TALENTS,",
   "3el TALENTS,3ha TALENTS,3ah ac TALENTS,3ao ac TALENTS,3ah ae TALENTS,3ao ae TALENTS,4STATERS,",
   "3el STATERS,3ha STATERS,3ah ac STATERS,3ao ac STATERS,3ah ae STATERS,3el ae STATERS,",
   "3ha ae STATERS,3el MNAS,2HERAEUM ah PLETHRON,2THESPIAN ah,2HERMIONIAN ah,2EPIDAUREAN ad,",
   "2THESPIAN ad,2CYRENAIC ad DRACHMAS,2EPIDAUREAN ad DRACHMAS,2TROEZENIAN ao,3el,4ft e,",
   "2HERMIONIAN el,2MESSENIAN el,2THESPIAN el,3it,2TROEZENIAN ha,4ft e,2HERMIONIAN ha,",
   "2THESPIAN ha,3ah ac,3q ac,2EPIDAUREAN ao ac,2TROEZENIAN ao ac,2THESPIAN ao ac,",
   "2CARYSTIAN ao ac,2NAXIAN ao ac,2THESPIAN ah ae,3ao ae,2DELPHIC ao MNAS,2STRATIAN ha MNAS,",
   "1ah bd g,4ft e,1ad THIRDS g,1q jo g,1YEAR g,1TALENT g,1DRACHMA g,1OBOL g,1ad OBOLS g,",
   "1q OBOLS g,1ak OBOLS g,1ao OBOLS g,1METRETES g,1KYATHOS BASE g,1LITRA g,1OUNKIA g,1XESTES g,",
   "1ARTABE g,1AROURA g,1GRAMMA g,1TRYBLION BASE g,1cz g,1ah ex g,1SINUSOID g,1INDICTION g,",
   "0NOMISMA g,+1,0ROMAN SEXTANS g,1UNCIA g,1SEMUNCIA g,1SEXTULA g,1DIMIDIA SEXTULA g,1SILIQUA g,",
   "1DENARIUS g,1QUINARIUS g,1SESTERTIUS g,1DUPONDIUS g,1AS g,1CENTURIAL g,0ASCIA v,+3,",
   "0jd v TAU nt,+1b,0PHAISTOS DISC g PEDESTRIAN,3PLUMED HEAD,3TATTOOED HEAD,3CAPTIVE,3CHILD,",
   "3WOMAN,3HELMET,3GAUNTLET,3TIARA,3f,3BOW,3SHIELD,3CLUB,3MANACLES,3MATTOCK,3SAW,3LID,",
   "3BOOMERANG,3CARPENTRY PLANE,3DOLIUM,3COMB,3SLING,3COLUMN,3BEEHIVE,3SHIP,3in,3HIDE,3BULLS LEG,",
   "3CAT,3RAM,3EAGLE,3DOVE,3TUNNY,3BEE,3PLANE TREE,3VINE,3PAPYRUS,3ROSETTE,3LILY,3OX BACK,3FLUTE,",
   "3GRATER,3STRAINER,3d AXE,3WAVY BAND,3dd kv u,+3m,0LYCIAN a A,2E,2B,2BH,2G,2D,2I,2W,2Z,2TH,2J,",
   "2K,2Q,2L,2M,2N,2MM,2NN,2U,2P,2KK,2R,2S,2T,2TT,2AN,2EN,2H,2X,+3,0CARIAN a A,2P2,2D,2L,2UUU,2R,",
   "2LD,2A2,2Q,2B,2M,2O,2D2,2T,2SH,2SH2,2S,2C-18,2U,2NN,2X,2N,2TT2,2P,2SS,2I,2E,2UUUU,2K,2K2,2ND,",
   "2UU,2G,2G2,2ST,2ST2,2NG,2II,2C-39,2TT,2UUU2,2RR,2MB,2MB2,2MB3,2MB4,2LD2,2E2,2UUU3,+f,",
   "0hy EPACT THOUSANDS x,2bp ah,3ad,3q,3ak,3ao,3ca,3av,3aq,3bi,2cs el,3em,3it,3mi,3ha,3nc,3es,",
   "3mg,3fc,3ah ac,3ad ac,3q ac,3ak ac,3ao ac,3ca ac,3av ac,3aq ac,3bi ac,+4,0hh ITALIC a A,3BE,",
   "3KE,3DE,3E,3VE,3ZE,3HE,3kb,3I,3KA,3EL,3EM,3EN,3ESH,3O,3PE,3le,3KU,3ER,3ES,3TE,3U,3EKS,3PHE,",
   "3KHE,3EF,3ERS,3CHE,3II,3UU,3ESS,2NUMERAL ah,3ao,3el,3ha,+9,2a YE,3NORTHERN TSE,3SOUTHERN TSE,",
   "0GOTHIC a AHSA,2BAIRKAN,2GIBA,2DAGS,2AIHVUS,2QAIRTHRA,2IUJA,2HAGL,2THIUTH,2EIS,2KUSMA,2LAGUS,",
   "2MANNA,2NAUTHS,2JER,2URUS,2PAIRTHRA,2fc,2RAIDA,2SAUIL,2TEIWS,2WINJA,2FAIHU,2IGGWS,2HWAIR,",
   "2OTHAL,2bi ac,+5,0hh PERMIC a AN,3BUR,3GAI,3DOI,3E,3ZHOI,3DZHOI,3ZATA,3DZITA,3I,3KOKE,3LEI,",
   "3MENOE,3NENOE,3VOOI,3PEEI,3REI,3SII,3TAI,3U,3CHERY,3SHOOI,3SHCHOOI,3YRY,3YERU,3O,3OO,3EF,3HA,",
   "3TSIU,3VER,3YER,3YERI,3YAT,3IE,3YU,3YA,3IA,0dd hh PERMIC a AN,4DOI,4ZATA,4NENOE,4SII,+5,",
   "0UGARITIC a ALPA,2BETA,2GAMLA,2gg,2lg,2HO,2WO,2ZETA,2HOTA,2TET,2YOD,2mj,2jq,2LAMDA,2MEM,",
   "2DHAL,2il,2ZU,2SAMKA,2lh,2PU,2SADE,2QOPA,2RASHA,2THANNA,2na,2TO,2I,2U,2SSU,+1,1WORD DIVIDER,",
   "0hh PERSIAN g A,3I,3U,3KA,3KU,3GA,3GU,3XA,3CA,3JA,3JI,3TA,3TU,3DA,3DI,3DU,3gn,3PA,3BA,3FA,",
   "3NA,3NU,3MA,3MI,3MU,3YA,3VA,3VI,3RA,3RU,3LA,3SA,3ZA,3ff,3jr,3HA,+4,3AURAMAZDAA,3AURAMAZDAA-2,",
   "3AURAMAZDAAHA,3XSHAAYATHIYA,3DAHYAAUSH,3DAHYAAUSH-2,3BAGA,3BUUMISH,2WORD DIVIDER,2cs ah,3ad,",
   "3el,3em,3ac,+16,0DESERET c a dl I,4E,4A,4AH,4O,4OO,3ef I,4E,4A,4AH,4O,4OO,3AY,3OW,3WU,3YEE,",
   "3H,3PEE,3BEE,3TEE,3DEE,3CHEE,3JEE,3KAY,3GAY,3EF,3VEE,3ETH,3THEE,3ES,3ZEE,3ESH,3ZHEE,3ER,3EL,",
   "3EM,3EN,3ENG,3OI,3EW,1d a dl I,4E,4A,4AH,4O,4OO,3ef I,4E,4A,4AH,4O,4OO,3AY,3OW,3WU,3YEE,3H,",
   "3PEE,3BEE,3TEE,3DEE,3CHEE,3JEE,3KAY,3GAY,3EF,3VEE,3ETH,3THEE,3ES,3ZEE,3ESH,3ZHEE,3ER,3EL,3EM,",
   "3EN,3ENG,3OI,3EW,0SHAVIAN a PEEP,2TOT,2KICK,2FEE,2THIGH,2SO,2SURE,2CHURCH,2YEA,2HUNG,2BIB,",
   "2DEAD,2GAG,2VOW,2THEY,2ZOO,2MEASURE,2JUDGE,2WOE,2HA-HA,2LOLL,2MIME,2IF,2EGG,2ip,2ADO,2ON,",
   "2WOOL,2OUT,2AH,2ROAR,2il,2EAT,2AGE,2ICE,2UP,2OAK,2OOZE,2OIL,2AWE,2ARE,2OR,2AIR,2ERR,2ARRAY,",
   "2EAR,2IAN,2YEW,0OSMANYA a ce,2BA,2TA,2JA,2XA,2gg,2DEEL,2RA,2SA,2SHIIN,2if,2CAYN,2GA,2FA,",
   "2QAAF,2KAAF,2LAAN,2MIIN,2NUUN,2kc,2HA,2YA,2A,2E,2I,2O,2U,2AA,2EE,2OO,+2,1bp cz,2ah,2ad,2q,",
   "2ak,2ao,2ca,2av,2aq,2bi,+6,0OSAGE c a A,3AI,3lh,3AH,3BRA,3fy,3EHCHA,3E,3EIN,3HA,3HYA,3I,3KA,",
   "3EHKA,3KYA,3LA,3MA,3NA,3O,3OIN,3PA,3EHPA,3SA,3ff,3TA,3EHTA,3mr,3EHTSA,3TSHA,3if,3U,3WA,3gg,",
   "3ik,3ZA,3ZHA,+4,1d a A,3AI,3lh,3AH,3BRA,3fy,3EHCHA,3E,3EIN,3HA,3HYA,3I,3KA,3EHKA,3KYA,3LA,",
   "3MA,3NA,3O,3OIN,3PA,3EHPA,3SA,3ff,3TA,3EHTA,3mr,3EHTSA,3TSHA,3if,3U,3WA,3gg,3ik,3ZA,3ZHA,+4,",
   "0ELBASAN a A,2BE,2CE,2CHE,2DE,2NDE,2DHE,2EI,2E,2FE,2GE,2GJE,2HE,2I,2JE,2KE,2LE,2LLE,2ME,2NE,",
   "2NA,2NJE,2O,2PE,2QE,2RE,2RRE,2SE,2le,2TE,2kb,2U,2VE,2XE,2Y,2ZE,2ZHE,2GHE,2GHAMMA,2KHE,+8,",
   "0CAUCASIAN ALBANIAN a ALT,3BET,3GIM,3DAT,3EB,3ZARL,3EYN,3ZHIL,3TAS,3fy,3YOWD,3ZHA,3IRB,3ff,",
   "3LAN,3INYA,3XEYN,3DYAN,3CAR,3JHOX,3KAR,3LYIT,3HEYT,3QAY,3AOR,3CHOY,3CHI,3CYAY,3MAQ,3QAR,",
   "3NOWC,3DZYAY,3SHAK,3JAYN,3ON,3TYAY,3FAM,3DZAY,3CHAT,3PEN,3GHEYS,3RAT,3SEYK,3VEYZ,3TIWR,3SHOY,",
   "3IWN,3CYAW,3CAYN,3YAYD,3PIWR,3KIW,+b,2CITATION x,0VITHKUQI c a A,3BBE,3BE,3CE,3CHE,3DE,3DHE,",
   "3EI,3E,3FE,3GA,+1,3HA,3HHA,3I,3IJE,3JE,3KA,3LA,3nr,3ME,3NE,3NJE,3O,3PE,3QA,3RE,+1,3SE,3le,",
   "3TE,3kb,3U,3VE,3XE,+1,3Y,3ZE,+1,1d a A,3BBE,3BE,3CE,3CHE,3DE,3DHE,3EI,3E,3FE,3GA,+1,3HA,3HHA,",
   "3I,3IJE,3JE,3KA,3LA,3nr,3ME,3NE,3NJE,3O,3PE,3QA,3RE,+1,3SE,3le,3TE,3kb,3U,3VE,3XE,+1,3Y,3ZE,",
   "+1v,0LINEAR A g AB001,3AB002,3AB003,3AB004,3AB005,3AB006,3AB007,3AB008,3AB009,3AB010,3AB011,",
   "3AB013,3AB016,3AB017,3AB020,3AB021,3AB021F,3AB021M,3AB022,3AB022F,3AB022M,3AB023,3AB023M,",
   "3AB024,3AB026,3AB027,3AB028,3A028B,3AB029,3AB030,3AB031,3AB034,3AB037,3AB038,3AB039,3AB040,",
   "3AB041,3AB044,3AB045,3AB046,3AB047,3AB048,3AB049,3AB050,3AB051,3AB053,3AB054,3AB055,3AB056,",
   "3AB057,3AB058,3AB059,3AB060,3AB061,3AB065,3AB066,3AB067,3AB069,3AB070,3AB073,3AB074,3AB076,",
   "3AB077,3AB078,3AB079,3AB080,3AB081,3AB082,3AB085,3AB086,3AB087,3A100-102,3AB118,3AB120,",
   "3A120B,3AB122,3AB123,3AB131A,3AB131B,3A131C,3AB164,3AB171,3AB180,3AB188,3AB191,3A301,3A302,",
   "3A303,3A304,3A305,3A306,3A307,3A308,3A309A,3A309B,3A309C,3A310,3A311,3A312,3A313A,3A313B,",
   "3A313C,3A314,3A315,3A316,3A317,3A318,3A319,3A320,3A321,3A322,3A323,3A324,3A325,3A326,3A327,",
   "3A328,3A329,3A330,3A331,3A332,3A333,3A334,3A335,3A336,3A337,3A338,3A339,3A340,3A341,3A342,",
   "3A343,3A344,3A345,3A346,3A347,3A348,3A349,3A350,3A351,3A352,3A353,3A354,3A355,3A356,3A357,",
   "3A358,3A359,3A360,3A361,3A362,3A363,3A364,3A365,3A366,3A367,3A368,3A369,3A370,3A371,",
   "3A400-VAS,3A401-VAS,3A402-VAS,3A403-VAS,3A404-VAS,3A405-VAS,3A406-VAS,3A407-VAS,3A408-VAS,",
   "3A409-VAS,3A410-VAS,3A411-VAS,3A412-VAS,3A413-VAS,3A414-VAS,3A415-VAS,3A416-VAS,3A417-VAS,",
   "3A418-VAS,3A501,3A502,3A503,3A504,3A505,3A506,3A508,3A509,3A510,3A511,3A512,3A513,3A515,",
   "3A516,3A520,3A521,3A523,3A524,3A525,3A526,3A527,3A528,3A529,3A530,3A531,3A532,3A534,3A535,",
   "3A536,3A537,3A538,3A539,3A540,3A541,3A542,3A545,3A547,3A548,3A549,3A550,3A551,3A552,3A553,",
   "3A554,3A555,3A556,3A557,3A559,3A563,3A564,3A565,3A566,3A568,3A569,3A570,3A571,3A572,3A573,",
   "3A574,3A575,3A576,3A577,3A578,3A579,3A580,3A581,3A582,3A583,3A584,3A585,3A586,3A587,3A588,",
   "3A589,3A591,3A592,3A594,3A595,3A596,3A598,3A600,3A601,3A602,3A603,3A604,3A606,3A608,3A609,",
   "3A610,3A611,3A612,3A613,3A614,3A615,3A616,3A617,3A618,3A619,3A620,3A621,3A622,3A623,3A624,",
   "3A626,3A627,3A628,3A629,3A634,3A637,3A638,3A640,3A642,3A643,3A644,3A645,3A646,3A648,3A649,",
   "3A651,3A652,3A653,3A654,3A655,3A656,3A657,3A658,3A659,3A660,3A661,3A662,3A663,3A664,+9,",
   "3A701 A,3A702 B,3A703 D,3A704 E,3A705 F,3A706 H,3A707 J,3A708 K,3A709 L,3A709-2 L2,",
   "3A709-3 L3,3A709-4 L4,3A709-6 L6,3A710 W,3A711 X,3A712 Y,3A713 gl,3A714 ABB,3A715 BB,",
   "3A717 DD,3A726 EYYY,3A732 JE,+a,3A800,3A801,3A802,3A803,3A804,3A805,3A806,3A807,+o,",
   "0eq a d c AA,2ij fh hp,3bd fh hp,2d AE,3c B,3B b al,+1,3DZ gc,5b cu al,6ms,3DEZH gc,3D b fg,",
   "5al,6l fg,3az E,3fq az dh E,3FENG gc,3RAMS in,3c G,3G b al,3c G b al,3H b u,3c H,3HENG b al,",
   "3lj J b u l al,3LS gc,3LZ gc,3L b BELT,3c L b BELT,3L b cu al l BELT,3LEZH,4b cu al,3bs Y,",
   "5b BELT,3O b u,3c OE,3fq gl,3Q,3bs R b dl LEG,8l cu al,3R b fg,5FISHHOOK,3c R,3TC gc b ms,",
   "3TS gc,5b cu al,3TESH gc,3T b cu al,3V b h al,+1,3c Y,2gd dq b u,2az gd dq b u,",
   "2BILABIAL CLICK,2DENTAL CLICK,2LATERAL CLICK,2ALVEOLAR CLICK,2cu CLICK b cu al,2d S b ms,+1x,",
   "0CYPRIOT iy A,2E,2I,2O,2U,2JA,+2,2JO,+1,2KA,2KE,2KI,2KO,2KU,2LA,2LE,2LI,2LO,2LU,2MA,2ME,2MI,",
   "2MO,2MU,2NA,2NE,2NI,2NO,2NU,2PA,2PE,2PI,2PO,2PU,2RA,2RE,2RI,2RO,2RU,2SA,2SE,2SI,2SO,2SU,2TA,",
   "2TE,2TI,2TO,2TU,2WA,2WE,2WI,2WO,+1,2XA,2XE,+3,2ZA,+2,2ZO,0IMPERIAL ARAMAIC a mz,3BETH,3nv,",
   "3DALETH,3HE,3kc,3ZAYIN,3HETH,3TETH,3YODH,3KAPH,3ml,3MEM,3il,3lq,3AYIN,3PE,3SADHE,3QOPH,3RESH,",
   "3jq,3TAW,+1,2gw g,2cs ah,3ad,3q,3el,3em,3ah ac,4ae,3el ae,0PALMYRENE a mz,2BETH,2nv,2DALETH,",
   "2HE,2kc,2ZAYIN,2HETH,2TETH,2YODH,2KAPH,2ml,2MEM,2p il,2il,2lq,2AYIN,2PE,2SADHE,2QOPH,2RESH,",
   "2jq,2TAW,1ee FLEURON,1di FLEURON,1cs ah,2ad,2q,2ak,2ao,2el,2em,0NABATAEAN a p mz,2mz,2p BETH,",
   "2BETH,2nv,2DALETH,2p HE,2HE,2kc,2ZAYIN,2HETH,2TETH,2p YODH,2YODH,2p KAPH,2KAPH,2p ml,2ml,",
   "2p MEM,2MEM,2p il,2il,2lq,2AYIN,2PE,2SADHE,2QOPH,2RESH,2p jq,2jq,2TAW,+8,1cs ah,2ad,2q,2ak,",
   "1CRUCIFORM cs ak,1cs ao,2el,2em,2ah ac,+1c,0HATRAN a mz,2BETH,2nv,2DALETH-RESH,2HE,2kc,2ZAYN,",
   "2HETH,2TETH,2YODH,2KAPH,2ml,2MEM,2il,2lq,2AYN,2PE,2SADHE,2QOPH,+1,2jq,2TAW,+5,1cs ah,2ao,2el,",
   "2em,2ah ac,0PHOENICIAN a ALF,2BET,2GAML,2DELT,2HE,2WAU,2ZAI,2HET,2TET,2YOD,2mj,2LAMD,2MEM,",
   "2il,2SEMK,2lh,2PE,2SADE,2QOF,2ROSH,2jq,2TAU,1cs ah,2el,2em,2ah ac,2ad,2q,+3,1WORD fm,",
   "0LYDIAN a A,2B,2G,2D,2E,2V,2I,2Y,2K,2L,2M,2N,2O,2R,2SS,2T,2U,2F,2Q,2S,2TT,2AN,2EN,2LY,2NN,2C,",
   "+5,1fh x,+1s,0MEROITIC HIEROGLYPHIC a A,3E,3I,3O,3YA,3WA,3BA,3BA-2,3PA,3MA,3NA,3NA-2,3NE,",
   "3NE-2,3RA,3RA-2,3LA,3gg,3HHA,3SA,3SA-2,3SE,3KA,3QA,3TA,3TA-2,3TE,3TE-2,3TO,3DA,2v VIDJ,",
   "3VIDJ-2,1CURSIVE a A,3E,3I,3O,3YA,3WA,3BA,3PA,3MA,3NA,3NE,3RA,3LA,3gg,3HHA,3SA,3ir SA,3SE,",
   "3KA,3QA,3TA,3TE,3TO,3DA,+4,2hw ELEVEN TWELFTHS,3ah bd,2LOGOGRAM RMT,3IMN,2cs ah,3ad,3q,3ak,",
   "3ao,3ca,3av,3aq,3bi,3el,3em,3it,3mi,3ha,3nc,3es,+2,3ah ac,3ad ac,3q ac,3ak ac,3ao ac,3ca ac,",
   "3av ac,3aq ac,3bi ac,3ah ae,3ad ae,3q ae,3ak ae,3ao ae,3ca ae,3av ae,3aq ae,3bi ae,3el ae,",
   "3em ae,3it ae,3mi ae,3ha ae,3nc ae,3es ae,3mg ae,3fc ae,3ah ac ae,3ad ac ae,3q ac ae,",
   "3ak ac ae,3ao ac ae,3ca ac ae,3av ac ae,3aq ac ae,3bi ac ae,2hw ah TWELFTH,3ad TWELFTHS,",
   "3q TWELFTHS,3ak TWELFTHS,3ao TWELFTHS,3ca TWELFTHS,3av TWELFTHS,3aq TWELFTHS,3bi TWELFTHS,",
   "3el TWELFTHS,0KHAROSHTHI a A,1bl g I,3U,3ci R,+1,3E,3O,+5,2mn x,1g k cj o,2cl,2ei,1a KA,2gg,",
   "2GA,2ik,+1,2CA,2fy,2JA,+1,2gb,2ib,2gy,2ic,2hk,2iq,2TA,2gn,2DA,2if,2NA,2PA,2hc,2BA,2is,2MA,",
   "2YA,2RA,2LA,2VA,2ff,2jr,2SA,2ZA,2HA,2KKA,2TTTHA,2TTTA,2VHA,+2,1g cc i,2CAUDA,2aj o,+4,1en,",
   "1bp ah,2ad,2q,2ak,1cs el,2em,2ah ac,3ae,1hw ah bd,+7,1bv aj,2d at,2at,2CRESCENT cc,2MANGALAM,",
   "2LOTUS,2hz,2k hz,2LINES,+7,0hh fo ARABIAN a HE,4ml,4HETH,4MEM,4QOPH,4kc,4jq,4RESH,4BETH,4TAW,",
   "4SAT,4KAPH,4il,4KHETH,4SADHE,4lq,4FE,4ce,4AYN,4DHADHE,4nv,4DALETH,4GHAYN,4TETH,4ZAYN,",
   "4DHALETH,4YODH,4THAW,4THETH,3cs ah,4ha,3NUMERIC INDICATOR,1er ARABIAN a mx,4kg,4dx,4ba,4QAF,",
   "4kc,4ES-2,4lu,4BEH,4TEH,4ES-1,4mj,4hm,4fk,4SAD,4ES-3,4FEH,4ce,4lh,4DAD,4GEEM,4DAL,4na,4nl,",
   "4ZAIN,4THAL,4db,4THEH,4ZAH,3cs ah,4el,4em,+w,0MANICHAEAN a mz,2BETH,2BHETH,2nv,2GHIMEL,",
   "2DALETH,2HE,2kc,1g UD,1a ZAYIN,2ZHAYIN,2JAYIN,2JHAYIN,2HETH,2TETH,2YODH,2KAPH,2XAPH,2KHAPH,",
   "2ml,2DHAMEDH,2THAMEDH,2MEM,2il,2lq,2AYIN,2AAYIN,2PE,2FE,2SADHE,2QOPH,2XOPH,2QHOPH,2RESH,2jq,",
   "2SSHIN,2TAW,1fj x i,3o,+4,1cs ah,2ao,2el,2em,2ah ac,1bv et,2FLEURON,2k aj WITHIN aj,",
   "2aj WITHIN aj,3,2ad bw,2ec FILLER,+9,0AVESTAN a A,2AA,2AO,2AAO,2AN,2AAN,2AE,2AEE,2E,2EE,2O,",
   "2OO,2I,2II,2U,2UU,2KE,2XE,2XYE,2XVE,2GE,2GGE,2GHE,2CE,2JE,2TE,2kb,2DE,2DHE,2TTE,2PE,2FE,2BE,",
   "2BHE,2NGE,2NGYE,2NGVE,2NE,2NYE,2NNE,2ME,2HME,2YYE,2YE,2VE,2RE,2LE,2SE,2ZE,2le,2ZHE,2SHYE,",
   "2SSHE,2HE,+3,1fj x,0TINY ad bw bz ah aj bv,0d ad bw bz ah aj bv,0da ad bw bz ah aj bv,",
   "1ah aj bz ad bw bv,1ad RINGS bz ah cj bv,1ah cj bz ad RINGS bv,0INSCRIPTIONAL PARTHIAN a mz,",
   "3BETH,3nv,3DALETH,3HE,3kc,3ZAYIN,3HETH,3TETH,3YODH,3KAPH,3ml,3MEM,3il,3lq,3AYIN,3PE,3SADHE,",
   "3QOPH,3RESH,3jq,3TAW,+2,2cs ah,3ad,3q,3ak,3el,3em,3ah ac,4ae,1PAHLAVI a mz,3BETH,3nv,3DALETH,",
   "3HE,3WAW-AYIN-RESH,3ZAYIN,3HETH,3TETH,3YODH,3KAPH,3ml,3MEM-QOPH,3il,3lq,3PE,3SADHE,3jq,3TAW,",
   "+5,2cs ah,3ad,3q,3ak,3el,3em,3ah ac,4ae,0PSALTER PAHLAVI a mz,3BETH,3nv,3DALETH,3HE,",
   "3WAW-AYIN-RESH,3ZAYIN,3HETH,3YODH,3KAPH,3ml,3MEM-QOPH,3il,3lq,3PE,3SADHE,3jq,3TAW,+7,2gw x,",
   "2bs gw x,2ak bw b ey,5aj,+c,2cs ah,3ad,3q,3ak,3el,3em,3ah ac,+28,0hh TURKIC a gt A,3gf A,4AE,",
   "3gt I,3gf I,4E,3gt O,4OE,3gf OE,3gt AB,3gf AB,3gt AEB,3gf AEB,3gt AG,3gf AG,3gt AEG,3gf AEG,",
   "3gt AD,3gf AD,3gt AED,4EZ,3gf EZ,3gt AY,3gf AY,3gt AEY,3gf AEY,3gt AEK,3gf AEK,3gt OEK,",
   "3gf OEK,3gt AL,3gf AL,3gt AEL,4ELT,4EM,4AN,4AEN,3gf AEN,3gt ENT,3gf ENT,3gt ENC,3gf ENC,",
   "3gt ENY,3gf ENY,4ANG,3gt ENG,3gf AENG,3gt EP,4OP,4IC,4EC,3gf EC,3gt AQ,3gf AQ,3gt IQ,3gf IQ,",
   "3gt OQ,3gf OQ,3gt AR,3gf AR,3gt AER,4AS,4AES,4ip,3gf ip,3gt ESH,3gf ESH,3gt AT,3gf AT,",
   "3gt AET,3gf AET,3gt OT,4BASH,+1j,1HUNGARIAN c a A,4AA,4EB,4AMB,4EC,4ENC,4ECS,4ED,4l,4E,",
   "4CLOSE E,4EE,4EF,4EG,4EGY,4EH,4I,4II,4EJ,4EK,4AK,4UNK,4EL,4ELY,4EM,4EN,4ENY,4O,4OO,",
   "4NIKOLSBURG OE,4RUDIMENTA OE,4OEE,4EP,4EMP,4ER,4ef ER,4ES,4ESZ,4ET,4ENT,4ETY,4ECH,4U,4UU,",
   "4NIKOLSBURG UE,4RUDIMENTA UE,4EV,4EZ,4EZS,4ENT-SHAPED g,4US,+d,2d a A,4AA,4EB,4AMB,4EC,4ENC,",
   "4ECS,4ED,4l,4E,4CLOSE E,4EE,4EF,4EG,4EGY,4EH,4I,4II,4EJ,4EK,4AK,4UNK,4EL,4ELY,4EM,4EN,4ENY,",
   "4O,4OO,4NIKOLSBURG OE,4RUDIMENTA OE,4OEE,4EP,4EMP,4ER,4ef ER,4ES,4ESZ,4ET,4ENT,4ETY,4ECH,4U,",
   "4UU,4NIKOLSBURG UE,4RUDIMENTA UE,4EV,4EZ,4EZS,4ENT-SHAPED g,4US,+7,2cs ah,3ao,3el,3ha,3ah ac,",
   "4ae,0HANIFI ROHINGYA a A,3BA,3PA,3TA,3ib,3JA,3CA,3HA,3gg,3FA,3DA,3ic,3RA,3RRA,3ZA,3SA,3ff,",
   "3KA,3GA,3LA,3MA,3NA,3WA,3KINNA WA,3YA,3KINNA YA,3fe,3gb,3VA,2bl A,3I,3U,3E,3O,2x SAKIN,",
   "3NA KHONNA,2g HARBAHAY,3TAHALA,3TANA,3TASSI,+8,2bp cz,3ah,3ad,3q,3ak,3ao,3ca,3av,3aq,3bi,+86,",
   "0RUMI bp ah,2ad,2q,2ak,2ao,2ca,2av,2aq,2bi,1cs el,2em,2it,2mi,2ha,2nc,2es,2mg,2fc,2ah ac,",
   "2ad ac,2q ac,2ak ac,2ao ac,2ca ac,2av ac,2aq ac,2bi ac,1hw ah bd,3ex,3THIRD,2ad THIRDS,+1,",
   "0YEZIDI a ELIF,2BE,2PE,2PHE,2kb,2SE,2CIM,2CHIM,2CHHIM,2HHA,2XA,2DAL,2ZAL,2RA,2RHA,2ZA,2JA,",
   "2SIN,2jq,2SAD,2DAD,2TA,2ZE,2EYN,2XHEYN,2FA,2VA,3ft e,2QAF,2mj,2KHAF,2GAF,2kg,2MIM,2il,2UM,",
   "2kc,2OW,2EW,2HAY,2YOT,2ET,+1,1dd gq x,2MADDA x,1HYPHENATION x,+2,1a kg b aj i,2YOT b am i,",
   "+26,0hh SOGDIAN a mz,3p mz,3BETH,3p BETH,3nv,3HE,3p HE,3kc,3ZAYIN,3HETH,3YODH,3KAPH,3ml,3MEM,",
   "3il,3p il,5b r fg,3lq,3AYIN,3ft AYIN,3PE,3SADHE,3p SADHE,5b r fg,3RESH-AYIN-DALETH,3jq,3TAW,",
   "3p TAW,5b r fg,2cs ah,3ad,3q,3ak,3ao,3el,3em,3it,3ah ac,2hw ah bd,2eb AYIN-DALETH,+8,",
   "0SOGDIAN a mz,2BETH,2nv,2HE,2kc,2ZAYIN,2HETH,2YODH,2KAPH,2ml,2MEM,2il,2lq,2AYIN,2PE,2SADHE,",
   "2RESH-AYIN,2jq,2TAW,2FETH,2LESH,1mt jq,1dd aj o,2ad bw o,2aj i,2ad bw i,2mf i,3o,2al i,3o,",
   "2dl al o,2RESH o,2u o,1cs ah,2el,2em,2ah ac,1bv ad r BARS,5b bw,2at b aj,2ad lw b bw,",
   "2bd at b aj,+m,0hh UYGHUR a mz,3BETH,3GIMEL-HETH,3kc,3ZAYIN,3p HETH,3YODH,3KAPH,3ml,3MEM,3il,",
   "3lq,3PE,3SADHE,3RESH,3jq,3TAW,3LESH,2dd aj i,4o,3ad bw i,5o,2bv cc,3ad BARS,4bw,3ak bw,+12,",
   "0CHORASMIAN a mz,2d mz,2BETH,2nv,2DALETH,2HE,2kc,2CURLED kc,2ZAYIN,2HETH,2YODH,2KAPH,2ml,",
   "2MEM,2il,2lq,2AYIN,2PE,2RESH,2jq,2TAW,1cs ah,2ad,2q,2ak,2el,2em,2ah ac,+k,0ELYMAIC a mz,",
   "2BETH,2nv,2DALETH,2HE,2kc,2ZAYIN,2HETH,2TETH,2YODH,2KAPH,2ml,2MEM,2il,2lq,2AYIN,2PE,2SADHE,",
   "2QOPH,2RESH,2jq,2TAW,1eb ZAYIN-YODH,+9,0BRAHMI g dg,2cl,2ei,2JIHVAMULIYA,2UPADHMANIYA,1a A,",
   "2AA,2I,2II,2U,2UU,2ci R,3RR,3L,3LL,2E,2AI,2O,2AU,2KA,2gg,2GA,2ik,2fe,2CA,2fy,2JA,2ko,2gb,2ib,",
   "2gy,2ic,2hk,2iq,2TA,2gn,2DA,2if,2NA,2PA,2hc,2BA,2is,2MA,2YA,2RA,2LA,2VA,2ff,2jr,2SA,2HA,2nr,",
   "2hh TAMIL LLLA,4RRA,4NNNA,1bl g AA,3BHATTIPROLU AA,3I,3II,3U,3UU,3ci R,4RR,4L,4LL,3E,3AI,3O,",
   "3AU,1en,1hz,1k hz,1bv aj,2k aj,2ec,2CRESCENT cc,2LOTUS,+4,1cs ah,2ad,2q,2ak,2ao,2ca,2av,2aq,",
   "2bi,2el,2em,2it,2mi,2ha,2nc,2es,2mg,2fc,2ah ac,3ae,1bp cz,2ah,2ad,2q,2ak,2ao,2ca,2av,2aq,2bi,",
   "1g hh TAMIL en,1a hh TAMIL ef E,5O,1bl g hh TAMIL ef E,6O,1a hh TAMIL nr,+9,1cs JOINER,",
   "0KAITHI g dg,2cl,2ei,1a A,2AA,2I,2II,2U,2UU,2E,2AI,2O,2AU,2KA,2gg,2GA,2ik,2fe,2CA,2fy,2JA,",
   "2ko,2gb,2ib,2gy,2ic,2DDDHA,2hk,2RHA,2iq,2TA,2gn,2DA,2if,2NA,2PA,2hc,2BA,2is,2MA,2YA,2RA,2LA,",
   "2VA,2ff,2jr,2SA,2HA,1bl g AA,3I,3II,3U,3UU,3E,3AI,3O,3AU,1g en,2je,1fj g,1ENUMERATION g,",
   "1cs g,1gw x,1k gw x,1hz,1k hz,1bl g ci R,+a,1cs g i,+2,0SORA SOMPENG a SAH,3nl,3BAH,3CAH,",
   "3DAH,3GAH,3MAH,3NGAH,3LAH,3NAH,3VAH,3PAH,3YAH,3RAH,3dx,3KAH,3JAH,3NYAH,3AH,3EEH,3IH,3UH,3OH,",
   "3EH,3MAE,+7,2bp cz,3ah,3ad,3q,3ak,3ao,3ca,3av,3aq,3bi,+6,0CHAKMA g dg,2cl,2ei,1a AA,2I,2U,2E,",
   "2KAA,2KHAA,2GAA,2GHAA,2NGAA,2CAA,2CHAA,2JAA,2JHAA,2NYAA,2TTAA,2TTHAA,2DDAA,2DDHAA,2NNAA,2TAA,",
   "2THAA,2DAA,2DHAA,2NAA,2PAA,2PHAA,2BAA,2BHAA,2MAA,2YYAA,2YAA,2RAA,2LAA,2WAA,2SAA,2HAA,1bl g A,",
   "3I,3II,3U,3UU,3E,3AI,3O,3AU,3OI,1O x,1AU x,1en,1MAAYYAA,+1,1bp cz,2ah,2ad,2q,2ak,2ao,2ca,2av,",
   "2aq,2bi,1gw x,1hz,1k hz,1ew x,1a LHAA,1bl g AA,3EI,1a VAA,+8,0MAHAJANI a A,2I,2U,2E,2O,2KA,",
   "2gg,2GA,2ik,2CA,2fy,2JA,2ko,2gb,2ib,2gy,2ic,2hk,2iq,2TA,2gn,2DA,2if,2NA,2PA,2hc,2BA,2is,2MA,",
   "2RA,2LA,2VA,2SA,2HA,2RRA,1g je,1fj g,1gw x,1eb SHRI,+9,0SHARADA g dg,2cl,2ei,1a A,2AA,2I,2II,",
   "2U,2UU,2ci R,3RR,3L,3LL,2E,2AI,2O,2AU,2KA,2gg,2GA,2ik,2fe,2CA,2fy,2JA,2ko,2gb,2ib,2gy,2ic,",
   "2hk,2iq,2TA,2gn,2DA,2if,2NA,2PA,2hc,2BA,2is,2MA,2YA,2RA,2LA,2nr,2VA,2ff,2jr,2SA,2HA,1bl g AA,",
   "3I,3II,3U,3UU,3ci R,4RR,4L,4LL,3E,3AI,3O,3AU,1g en,2iw,2JIHVAMULIYA,2UPADHMANIYA,1OM,1hz,",
   "1k hz,1fj g,1fm,1SANDHI x,1g je,1bl eq x,1EXTRA ef bl x,1SUTRA x,1bl g PRISHTHAMATRA E,",
   "1g bm dg,1bp cz,2ah,2ad,2q,2ak,2ao,2ca,2av,2aq,2bi,1EKAM,1g SIDDHAM,1HEADSTROKE,",
   "1CONTINUATION g,1gw MARK-1,2MARK-2,+1,0SINHALA ir bp ah,3ad,3q,3ak,3ao,3ca,3av,3aq,3bi,",
   "2cs el,3em,3it,3mi,3ha,3nc,3es,3mg,3fc,3ah ac,4ae,+b,0KHOJKI a A,2AA,2I,2U,2E,2AI,2O,2AU,2KA,",
   "2gg,2GA,2GGA,2ik,2fe,2CA,2fy,2JA,2JJA,+1,2gb,2ib,2gy,2ic,2hk,2iq,2TA,2gn,2DA,2DDDA,2if,2NA,",
   "2PA,2hc,2BA,2BBA,2is,2MA,2YA,2RA,2LA,2VA,2SA,2HA,2nr,1bl g AA,3I,3II,3U,3E,3AI,3O,3AU,1g cl,",
   "2en,2je,2SHADDA,1hz,1k hz,1WORD fm,1gw x,1k gw x,1fj g,1g SUKUN,+1t,0MULTANI a A,2I,2U,2E,",
   "2KA,2gg,2GA,+1,2ik,+1,2CA,2fy,2JA,2JJA,+1,2gb,2ib,2gy,2ic,2DDDA,2hk,2iq,2TA,2gn,2DA,2if,2NA,",
   "2PA,2hc,2BA,+1,2is,2MA,2YA,2RA,2LA,2VA,2SA,2HA,2RRA,2RHA,1gw x,+6,0KHUDAWADI a A,2AA,2I,2II,",
   "2U,2UU,2E,2AI,2O,2AU,2KA,2gg,2GA,2GGA,2ik,2fe,2CA,2fy,2JA,2JJA,2ko,2gb,2ib,2gy,2ic,2DDDA,",
   "2RRA,2hk,2iq,2TA,2gn,2DA,2if,2NA,2PA,2hc,2BA,2BBA,2is,2MA,2YA,2RA,2LA,2VA,2ff,2SA,2HA,1g cl,",
   "1bl g AA,3I,3II,3U,3UU,3E,3AI,3O,3AU,1g je,2en,+5,1bp cz,2ah,2ad,2q,2ak,2ao,2ca,2av,2aq,2bi,",
   "+6,0GRANTHA g dd cl i,2dg,2cl,2ei,+1,1a A,2AA,2I,2II,2U,2UU,2ci R,3L,+2,2EE,2AI,+2,2OO,2AU,",
   "2KA,2gg,2GA,2ik,2fe,2CA,2fy,2JA,2ko,2gb,2ib,2gy,2ic,2hk,2iq,2TA,2gn,2DA,2if,2NA,+1,2PA,2hc,",
   "2BA,2is,2MA,2YA,2RA,+1,2LA,2nr,+1,2VA,2ff,2jr,2SA,2HA,+1,0dd BINDU o,0GRANTHA g je,2iw,",
   "1bl g AA,3I,3II,3U,3UU,3ci R,4RR,+2,3EE,3AI,+2,3OO,3AU,1g en,+2,1OM,+6,1AU mn x,+5,1g PLUTA,",
   "1a VEDIC cl,3k cl,2ci RR,3LL,1bl g ci L,4LL,+2,0dd GRANTHA bp cz,3ah,3ad,3q,3ak,3ao,3ca,+3,",
   "2a A,3KA,3NA,3VI,3PA,+3v,0NEWA a A,2AA,2I,2II,2U,2UU,2ci R,3RR,3L,3LL,2E,2AI,2O,2AU,2KA,2gg,",
   "2GA,2ik,2fe,2NGHA,2CA,2fy,2JA,2ko,2gb,2NYHA,2ib,2gy,2ic,2hk,2iq,2TA,2gn,2DA,2if,2NA,2NHA,2PA,",
   "2hc,2BA,2is,2MA,2MHA,2YA,2RA,2RHA,2LA,2LHA,2WA,2ff,2jr,2SA,2HA,1bl g AA,3I,3II,3U,3UU,3ci R,",
   "4RR,4L,4LL,3E,3AI,3O,3AU,1g en,2dg,2cl,2ei,2je,2iw,2p cl,1OM,1SIDDHI,1hz,1k hz,1do,",
   "1GAP FILLER,1fj g,1bp cz,2ah,2ad,2q,2ak,2ao,2ca,2av,2aq,2bi,1k do,1PLACEHOLDER x,+1,",
   "1INSERTION g,1SANDHI x,1a VEDIC cl,1g JIHVAMULIYA,2UPADHMANIYA,+u,0TIRHUTA ANJI,1a A,2AA,2I,",
   "2II,2U,2UU,2ci R,3RR,3L,3LL,2E,2AI,2O,2AU,2KA,2gg,2GA,2ik,2fe,2CA,2fy,2JA,2ko,2gb,2ib,2gy,",
   "2ic,2hk,2iq,2TA,2gn,2DA,2if,2NA,2PA,2hc,2BA,2is,2MA,2YA,2RA,2LA,2VA,2ff,2jr,2SA,2HA,1bl g AA,",
   "3I,3II,3U,3UU,3ci R,4RR,4L,4LL,3E,3ef E,3AI,3O,3ef O,3AU,1g dg,2cl,2ei,2en,2je,2iw,1GVANG,",
   "1fj g,1OM,+8,1bp cz,2ah,2ad,2q,2ak,2ao,2ca,2av,2aq,2bi,+4m,0SIDDHAM a A,2AA,2I,2II,2U,2UU,",
   "2ci R,3RR,3L,3LL,2E,2AI,2O,2AU,2KA,2gg,2GA,2ik,2fe,2CA,2fy,2JA,2ko,2gb,2ib,2gy,2ic,2hk,2iq,",
   "2TA,2gn,2DA,2if,2NA,2PA,2hc,2BA,2is,2MA,2YA,2RA,2LA,2VA,2ff,2jr,2SA,2HA,1bl g AA,3I,3II,3U,",
   "3UU,3ci R,4RR,+2,3E,3AI,3O,3AU,1g dg,2cl,2ei,2en,2je,2SIDDHAM,1hz,1k hz,1fm aj,2cc,",
   "1REPETITION MARK-1,2MARK-2,2MARK-3,1mh OF TEXT x,1gw x b TRIDENT l U-SHAPED ORNAMENTS,",
   "6fa CRESCENTS,4RAYS l fa CRESCENTS,7k CRESCENTS,7dw CRESCENTS,3k cj,5b RAYS,3b k CRESCENTS,",
   "4dw CRESCENTS,4li CRESCENTS,4SEPTUPLE CRESCENTS,4lw l RAYS,6ad ENCLOSURES,6ak ENCLOSURES,",
   "1a THREE-CIRCLE ft I,2TWO-CIRCLE ft I,4II,2ft U,1bl g ft U,4UU,+y,0MODI a A,2AA,2I,2II,2U,",
   "2UU,2ci R,3RR,3L,3LL,2E,2AI,2O,2AU,2KA,2gg,2GA,2ik,2fe,2CA,2fy,2JA,2ko,2gb,2ib,2gy,2ic,2hk,",
   "2iq,2TA,2gn,2DA,2if,2NA,2PA,2hc,2BA,2is,2MA,2YA,2RA,2LA,2VA,2ff,2jr,2SA,2HA,2nr,1bl g AA,3I,",
   "3II,3U,3UU,3ci R,4RR,4L,4LL,3E,3AI,3O,3AU,1g cl,2ei,2en,2ARDHACANDRA,1hz,1k hz,1fj g,1g HUVA,",
   "+b,1bp cz,2ah,2ad,2q,2ak,2ao,2ca,2av,2aq,2bi,+6,0MONGOLIAN BIRGA b cg,1cd BIRGA,",
   "1k BIRGA b cg,1dw BIRGA b cg,1BIRGA b k cg,1cd BIRGA b cg,4k cg,1bm BIRGA,3b k cg,",
   "1SWIRL BIRGA,3b cg,4k cg,1bs SWIRL BIRGA b k cg,+j,0TAKRI a A,2AA,2I,2II,2U,2UU,2E,2AI,2O,",
   "2AU,2KA,2gg,2GA,2ik,2fe,2CA,2fy,2JA,2ko,2gb,2ib,2gy,2ic,2hk,2iq,2TA,2gn,2DA,2if,2NA,2PA,2hc,",
   "2BA,2is,2MA,2YA,2RA,2LA,2VA,2ff,2SA,2HA,2RRA,1g cl,2ei,1bl g AA,3I,3II,3U,3UU,3E,3AI,3O,3AU,",
   "1g en,2je,1a ir gg,1fj g,+6,1bp cz,2ah,2ad,2q,2ak,2ao,2ca,2av,2aq,2bi,+1i,0AHOM a KA,2gg,2fe,",
   "2NA,2TA,2ft TA,2PA,2hc,2BA,2MA,2JA,2fy,2gn,2RA,2LA,2SA,2gb,2HA,2A,2DA,2if,2GA,2ft GA,2ik,2is,",
   "2ko,2ft BA,+2,1fu g bh LA,4RA,4LIGATING RA,1bl g A,3AA,3I,3II,3U,3UU,3E,3AW,3O,3AI,3AM,",
   "1g KILLER,+4,1bp cz,2ah,2ad,2q,2ak,2ao,2ca,2av,2aq,2bi,1cs el,2em,1g d gw,2gw,2RULAI,1v VI,",
   "1a CA,2ib,2gy,2ic,2hk,2iq,2nr,+55,0DOGRA a A,2AA,2I,2II,2U,2UU,2E,2AI,2O,2AU,2KA,2gg,2GA,2ik,",
   "2fe,2CA,2fy,2JA,2ko,2gb,2ib,2gy,2ic,2hk,2iq,2TA,2gn,2DA,2if,2NA,2PA,2hc,2BA,2is,2MA,2YA,2RA,",
   "2LA,2VA,2ff,2jr,2SA,2HA,2RRA,1bl g AA,3I,3II,3U,3UU,3ci R,4RR,3E,3AI,3O,3AU,1g cl,2ei,2en,",
   "2je,1fj g,+2s,0WARANG CITI c a NGAA,4A,4WI,4YU,4YA,4YO,4II,4UU,4E,4O,4ANG,4GA,4KO,4ENY,4YUJ,",
   "4UC,4ENN,4ODD,4TTE,4NUNG,4DA,4AT,4AM,4BU,4PU,4HIYO,4HOLO,4HORR,4HAR,4SSUU,4SII,4VIYO,",
   "2d a NGAA,4A,4WI,4YU,4YA,4YO,4II,4UU,4E,4O,4ANG,4GA,4KO,4ENY,4YUJ,4UC,4ENN,4ODD,4TTE,4NUNG,",
   "4DA,4AT,4AM,4BU,4PU,4HIYO,4HOLO,4HORR,4HAR,4SSUU,4SII,4VIYO,2bp cz,3ah,3ad,3q,3ak,3ao,3ca,",
   "3av,3aq,3bi,2cs el,3em,3it,3mi,3ha,3nc,3es,3mg,3fc,+c,2OM,0DIVES AKURU a A,3AA,3I,3II,3U,3UU,",
   "3E,+2,3O,+2,3KA,3gg,3GA,3ik,3fe,3CA,3fy,3JA,+1,3gb,3ib,+1,3ic,3hk,3iq,3TA,3gn,3DA,3if,3NA,",
   "3PA,3hc,3BA,3is,3MA,3YA,3YYA,3RA,3LA,3VA,3ff,3jr,3SA,3HA,3nr,3ZA,2bl g AA,4I,4II,4U,4UU,4E,",
   "+1,4AI,4O,+2,2g cl,3dg,3HALANTA,2en,2PREFIXED NASAL g,2bh YA,2t RA,2bh RA,2g je,2k hz,",
   "2GAP FILLER,2mh OF TEXT x,+9,2bp cz,3ah,3ad,3q,3ak,3ao,3ca,3av,3aq,3bi,+1y,0NANDINAGARI a A,",
   "2AA,2I,2II,2U,2UU,2ci R,3RR,+2,2E,2AI,2O,2AU,2KA,2gg,2GA,2ik,2fe,2CA,2fy,2JA,2ko,2gb,2ib,2gy,",
   "2ic,2hk,2iq,2TA,2gn,2DA,2if,2NA,2PA,2hc,2BA,2is,2MA,2YA,2RA,2LA,2VA,2ff,2jr,2SA,2HA,2nr,2RRA,",
   "1bl g AA,3I,3II,3U,3UU,3ci R,4RR,+2,3E,3AI,3O,3AU,1g cl,2ei,2en,2iw,2SIDDHAM,1HEADSTROKE,",
   "1bl g PRISHTHAMATRA E,+r,0ZANABAZAR as a A,2bl g I,4UE,4U,4E,4OE,4O,4AI,4AU,4az I,3mn x,",
   "2a KA,3gg,3GA,3ik,3fe,3CA,3fy,3JA,3gb,3ib,3gy,3ic,3hk,3iq,3TA,3gn,3DA,3if,3NA,3PA,3hc,3BA,",
   "3is,3MA,3mr,3TSHA,3DZA,3DZHA,3ZHA,3ZA,3-A,3YA,3RA,3LA,3VA,3ff,3jr,3SA,3HA,3KSSA,2p fu x,",
   "2g en,3dg,4b cg,3md b cg,3cl,3ei,2CLUSTER-INITIAL a RA,2CLUSTER-FINAL a YA,4RA,4LA,4VA,",
   "2t HEAD x,2CLOSING HEAD x,2x TSHEG,3SHAD,3k SHAD,3dl TSHEG,2t DOUBLE-LINED HEAD x,",
   "2CLOSING DOUBLE-LINED HEAD x,2SUBJOINER,+8,0SOYOMBO a A,1bl g I,3UE,3U,3E,3O,3OE,3AI,3AU,",
   "3ci R,4L,2mn x,1a KA,2gg,2GA,2ik,2fe,2CA,2fy,2JA,2ko,2gb,2ib,2gy,2ic,2hk,2iq,2TA,2gn,2DA,2if,",
   "2NA,2PA,2hc,2BA,2is,2MA,2mr,2TSHA,2DZA,2ZHA,2ZA,2-A,2YA,2RA,2LA,2VA,2ff,2jr,2SA,2HA,2KSSA,",
   "1g JIHVAMULIYA,2UPADHMANIYA,1CLUSTER-INITIAL a RA,3LA,3ff,3SA,1p fu g G,4K,4NG,4D,4N,4B,4M,",
   "4R,4L,4SH,4S,4-A,1g cl,2ei,1GEMINATION x,1SUBJOINER,1x TSHEG,2SHAD,2k SHAD,2PLUTA,",
   "1HEAD x b kx l SUN l dw FLAME,8FLAME,7,1TERMINAL MARK-1,2MARK-2,+d,",
   "0CANADIAN SYLLABICS NATTILIK HI,3HII,3HO,3HOO,3HA,3HAA,3SHRI,3SHRII,3SHRO,3SHROO,3SHRA,",
   "3SHRAA,2SPE,2SPI,2SPO,2SPA,0PAU CIN HAU a PA,4KA,4LA,4MA,4DA,4ZA,4VA,4fe,4HA,4GA,4gg,4SA,4BA,",
   "4CA,4TA,4gn,4NA,4hc,4RA,4FA,4fy,4A,4E,4I,4O,4U,4UA,4IA,4p P,5K,5T,5M,5N,5L,5W,5NG,5Y,",
   "3RISING dm dl,5,3SANDHI gd dq,3RISING dm dl p,5p,3SANDHI gd dq p,4dm dl,5,5dl p,5p,",
   "3MID-LEVEL dm,3gd dq hu,3MID-LEVEL dm dl p,5p,3LOW-FALLING dm dl,5,3gd dq,",
   "3LOW-FALLING dm dl p,5p,3gd dq p,+7b,0BHAIKSUKI a A,2AA,2I,2II,2U,2UU,2ci R,3RR,3L,+1,2E,2AI,",
   "2O,2AU,2KA,2gg,2GA,2ik,2fe,2CA,2fy,2JA,2ko,2gb,2ib,2gy,2ic,2hk,2iq,2TA,2gn,2DA,2if,2NA,2PA,",
   "2hc,2BA,2is,2MA,2YA,2RA,2LA,2VA,2ff,2jr,2SA,2HA,1bl g AA,3I,3II,3U,3UU,3ci R,4RR,4L,+1,3E,",
   "3AI,3O,3AU,1g dg,2cl,2ei,2en,2iw,1hz,1k hz,1WORD fm,1GAP FILLER-1,2FILLER-2,+a,1bp cz,2ah,",
   "2ad,2q,2ak,2ao,2ca,2av,2aq,2bi,1cs ah,2ad,2q,2ak,2ao,2ca,2av,2aq,2bi,2el,2em,2it,2mi,2ha,2nc,",
   "2es,2mg,2fc,1HUNDREDS UNIT x,+3,0MARCHEN HEAD x,1x SHAD,1a KA,2gg,2GA,2fe,2CA,2fy,2JA,2gb,",
   "2TA,2gn,2DA,2NA,2PA,2hc,2BA,2MA,2mr,2TSHA,2DZA,2WA,2ZHA,2ZA,2-A,2YA,2RA,2LA,2ff,2SA,2HA,2A,",
   "+2,1SUBJOINED a KA,3gg,3GA,3fe,3CA,3fy,3JA,3gb,3TA,3gn,3DA,3NA,3PA,3hc,3BA,3MA,3mr,3TSHA,",
   "3DZA,3WA,3ZHA,3ZA,+1,3YA,3RA,3LA,3ff,3SA,3HA,3A,1bl g AA,3I,3U,3E,3O,1g cl,2dg,+21,",
   "0MASARAM GONDI a A,3AA,3I,3II,3U,3UU,3E,+1,3AI,3O,+1,3AU,3KA,3gg,3GA,3ik,3fe,3CA,3fy,3JA,3ko,",
   "3gb,3ib,3gy,3ic,3hk,3iq,3TA,3gn,3DA,3if,3NA,3PA,3hc,3BA,3is,3MA,3YA,3RA,3LA,3VA,3ff,3jr,3SA,",
   "3HA,3nr,3KSSA,3JNYA,3TRA,2bl g AA,4I,4II,4U,4UU,4ci R,+3,4E,+1,4AI,4O,+1,4AU,2g cl,3ei,3je,",
   "3md,3HALANTA,2en,2REPHA,2RA-KARA,+8,2bp cz,3ah,3ad,3q,3ak,3ao,3ca,3av,3aq,3bi,+6,",
   "0GUNJALA GONDI a A,3AA,3I,3II,3U,3UU,+1,3EE,3AI,+1,3OO,3AU,3YA,3VA,3BA,3is,3MA,3KA,3gg,3TA,",
   "3gn,3LA,3GA,3ik,3DA,3if,3NA,3CA,3fy,3ib,3gy,3nr,3JA,3ko,3ic,3hk,3fe,3PA,3hc,3HA,3RA,3SA,",
   "2bl g AA,4I,4II,4U,4UU,+1,4EE,4AI,+1,4OO,4AU,2g cl,3ei,2en,2OM,+7,2bp cz,3ah,3ad,3q,3ak,3ao,",
   "3ca,3av,3aq,3bi,+8m,0MAKASAR a KA,2GA,2fe,2PA,2BA,2MA,2TA,2DA,2NA,2CA,2JA,2gb,2YA,2RA,2LA,",
   "2VA,2SA,2A,1ANGKA,1bl g I,3U,3E,3O,1PASSIMBANG,1mh OF gw,+53,0LISU a YHA,+f,",
   "0TAMIL hw ah THREE-HUNDRED-AND-TWENTIETH,3ONE-HUNDRED-AND-SIXTIETH,3EIGHTIETH,3SIXTY-FOURTH,",
   "3FORTIETH,3THIRTY-SECOND,2q EIGHTIETHS,3SIXTY-FOURTHS,2ah TWENTIETH,3SIXTEENTH-1,",
   "3SIXTEENTH-2,3TENTH,3hg,2q TWENTIETHS,3SIXTEENTHS,2ah FIFTH,3ex,3HALF-1,3HALF-2,2q jo,",
   "2DOWNSCALING FACTOR KIIZH,1g NEL,2CEVITU,2AAZHAAKKU,2UZHAKKU,2MUUVUZHAKKU,2KURUNI,2PATHAKKU,",
   "2MUKKURUNI,2KAACU,2PANAM,2PON,2VARAAKAN,2PAARAM,2KUZHI,2VELI,1WET CULTIVATION g,",
   "1DRY CULTIVATION g,1LAND g,1SALT PAN g,1TRADITIONAL CREDIT g,2cs g,1CURRENT g,1l ODD g,",
   "1SPENT g,1TOTAL g,1IN POSSESSION g,1STARTING jg g,1g MUTHALIYA,2VAKAIYARAA,+d,1bv mh OF TEXT,",
   "0CUNEIFORM g A,3ar A,4BAD,4GAN2 he,4HA,4IGI,4LAGAR fp,4MUSH,4SAG,2A2,2AB,3ar ASH2,4DUN3 fp,",
   "4GAL,4GAN2 he,4HA,4IGI fp,4IMIN,4LAGAB,4SHESH,4U bb U bb U,3fp,2AB2,3ar BALAG,4GAN2 he,",
   "4ME bb EN,4SHA3,4TAK4,2AD,2AK,3ar ERIN2,4SHITA bb GISH,2AL,3ar AL,4DIM2,4GISH,4HA,4KAD3,4KI,",
   "4le,4USH,2ALAN,2mz,2AMAR,3ar le,2AN,3bz AN,3q ar,3bb NAGA OPPOSING AN bb NAGA,5ep,2ANSHE,",
   "2APIN,2ARAD,3ar KUR,2ARKAB,2ASAL2,2ip,3ZIDA he,3KABA he,3bz ip TUG2 bz TUG2 TUG2 bz TUG2 PAP,",
   "5bz ip,7ej ip bz ip bz ip,2ASH2,2ASHGAB,2BA,2BAD,2BAG3,2BAHAR2,2BAL,3bz BAL,2BALAG,2cc,",
   "2BARA2,2BI,3ar A,4np,4IGI fp,2BU,3bz BU AB,5UN,3ej BU,2BULUG,3bz BULUG,2BUR,2BUR2,2DA,2DAG,",
   "3KISIM5 ar A bb MASH,5AMAR,5BALAG,5BI,5GA,6bb MASH,5GI,5GIR2,5GUD,5HA,5IR,6bb LU,5KAK,5LA,",
   "5LU,6bb MASH2,5LUM,5NE,5PAP bb PAP,5SI,5TAK4,5U2 bb GIR2,5USH,2DAM,2DAR,2DARA3,2DARA4,2DI,",
   "2DIB,2DIM,3ar le,2DIM2,2DIN,3KASKAL U fp lv,2lv,2DU,3bz DU,3fp,3SHESHIG,2DUB,3ar ESH2,2DUB2,",
   "2DUG,2DUGUD,2DUH,2DUN,2DUN3,3fp,4fp,2DUN4,2DUR2,2E,3ar PAP,3bz E il bz il,2E2,",
   "3ar A bb HA bb DA,4np,4MI,4SAL,4le,4U,2EDIN,2EGIR,2EL,2EN,3ar GAN2,5he,4ME,3ej EN,",
   "3OPPOSING EN,3ep,2EREN,2ERIN2,2ESH2,2EZEN,3ar A,5bb LAL,7ar LAL,4AN,4BAD,4DUN3 fp,6fp,4HA,",
   "5fp,4IGI fp,4KASKAL,5ep,4KU3,4LA,4LAL ar LAL,4LI,4LU,4U2,4UD,2GA,3fp,2GA2,3ar A bb DA bb HA,",
   "6HA,6IGI,4AB2 he bb TAB,4AN,4ip,4ASH2 bb GAL,4BAD,4cc bb RA,4BUR,5bb RA,4DA,4DI,4DIM ar le,",
   "4DUB,4EL,5bb LA,4EN,5ar GAN2 he,4GAN2 he,4np,4GI,4GI4,5bb A,4GIR2 bb SU,4HA bb LU bb ESH2,",
   "4HAL,5bb LA,4HI bb LI,4HUB2,4IGI fp,4ISH bb HU bb ip,4KAK,4KASKAL,4KID,5bb LAL,4KU3 bb AN,",
   "4LA,4ME bb EN,4MI,4il,5bz il,4PA,4SAL,4SAR,4le,5bb TUR,4SHID,4SUM,4TAK4,4U,4UD,5bb DU,",
   "3bz GA2,2GABA,3ej GABA,2GAD,3bz GAD np bz np,2GAL,3GAD bz GAD np bz np,2GALAM,2GAM,2GAN,",
   "2GAN2,3he,3bz GAN2,3ej GAN2,2np,2GAR3,2GASHAN,2GESHTIN,3ar KUR,2GI,3ar E,4U,3ej GI,2GI4,",
   "3bz GI4,3ej GI4,2GIDIM,2GIR2,3fp,2GIR3,3ar A bb IGI,4GAN2 he,4IGI,4LU bb IGI,4PA,2GISAL,",
   "2GISH,3ej GISH,3ar BAD,4TAK4,3he,2GU,3ej GU,2GU2,3ar KAK,5ar IGI fp,4il,4SAL bb TUG2,3fp,",
   "2GUD,3ar A bb KUR,4KUR,3bz GUD LUGAL,2GUL,2GUM,3ar le,2GUR,2GUR7,2GURUN,2GURUSH,2HA,3he,3fp,",
   "2HAL,2HI,3ar ip,4ASH2,4BAD,4lv,4GAD,4KIN,4il,4le,4U,2HU,2HUB2,3ar AN,4HAL,4KASKAL,4LISH,4UD,",
   "2HUL2,2I,3A,2IB,2IDIM,3bz IDIM BUR,5ep,2IG,2IGI,3DIB,3RI,3bz IGI SHIR bz SHIR UD bz UD,3fp,",
   "2IL,3ar GAN2 he,2IL2,2IM,3ar TAK4,3ej IM,3OPPOSING IM,3ep,2IMIN,2IN,2IR,2ISH,2KA,3ar A,4AD,",
   "5bb KU3,4ASH2,4BAD,4BALAG,4cc,4BI,4ERIN2,4ESH2,4GA,4GAL,4GAN2 he,4np,5bb SHA3 bb A,4GI,4GIR2,",
   "4GISH bb SAR,5ej GISH,4GU,4GUR7,4IGI,4IM,4KAK,4KI,4KID,4LI,4LU,4ME,5bb DU,6GI,6TE,4MI,",
   "5bb NUNUZ,4NE,4il,4PI,4RU,4SA,4SAR,4ff,4le,4SHID,4SHU,4SIG,4SUHUR,4TAR,4U,4U2,4UD,",
   "4UMUM ar PA,4USH,4ZI,2KA2,3ej KA2,2KAB,2KAD2,2KAD3,2KAD4,2KAD5,3bz KAD5,2KAK,3ar IGI fp,2KAL,",
   "3ar BAD,3ej KAL,2KAM2,2KAM4,2KASKAL,3LAGAB ar U bz LAGAB ar U,",
   "3bz KASKAL LAGAB ar U bz LAGAB ar U,2KESH2,2KI,3ar BAD,4U,4UD,2KID,2KIN,2KISAL,2KISH,2KISIM5,",
   "3bz KISIM5,2KU,3bz HI ar ASH2 KU bz HI ar ASH2,2KU3,2KU4,3hu e,2KU7,2KUL,3fp,2KUN,2KUR,",
   "3OPPOSING KUR,2KUSHU2,2KWU318,2LA,2LAGAB,3ar A,5bb DA bb HA,6np,6LAL,4AL,4AN,4ip ZIDA he,",
   "4BAD,4BI,4DAR,4EN,4GA,4np,4GUD,5bb GUD,4HA,4HAL,4HI ar il,4IGI fp,4IM,5bb HA,6LU,4KI,4KIN,",
   "4KU3,4KUL,5bb HI bb A,4LAGAB,4LISH,4LU,4LUL,4ME,5bb EN,4MUSH,4NE,4le bb SUM,",
   "4SHITA bb GISH bb ERIN2,7he,4SHU2,5bb SHU2,4SUM,4TAG,4TAK4,4TE bb A bb SU bb NA,4U,5bb A,",
   "6U bb U,4U2 bb ip,4UD,4USH,3ep,2LAGAR,3ar le,5bb SUM,3fp,4bz LAGAR fp le,2LAHSHU,2LAL,",
   "3ar LAL,2kg,3ar KUR,5bb RU,2LI,2LIL,2LIMMU2,2LISH,2LU,3ar BAD,2LU2,3ar AL,4BAD,4ESH2,5he,",
   "4GAN2 he,4HI ar BAD,4IM,4KAD2,4KAD3,5bb ip,4KI,4LA bb ip,4LAGAB,4ME bb EN,4NE,4NU,4SI bb ip,",
   "4SIK2 bb BU,4TUG2,3he,3ej LU2,3OPPOSING LU2,3ep,3SHESHIG,2LU3,2LUGAL,3bz LUGAL,",
   "3OPPOSING LUGAL,3SHESHIG,2LUH,2LUL,2LUM,3bz LUM,5np bz np,2MA,3ar TAK4,3fp,2MA2,2MAH,2MAR,",
   "2MASH,2MASH2,2ME,2MES,2MI,2MIN,2MU,3bz MU,2MUG,3fp,2MUNSUB,2MURGU2,2MUSH,3ar A,4KUR,4ZA,",
   "3bz MUSH,5ar A bb NA,3ej MUSH,2MUSH3,3ar A,5bb DI,4DI,3fp,2NA,2NA2,2NAGA,3bm,3ar SHU he,",
   "3OPPOSING NAGA,2NAGAR,2NAM NUTILLU,3,2NAM2,2NE,3ar A,4UD,3SHESHIG,2NI,3ar E,2NI2,2NIM,",
   "3ar GAN2 he,4np bb GAN2 he,2NINDA2,3ar AN,4ip,5bb ip,4GUD,4ME bb GAN2 he,4NE,4il,4le,",
   "5bb A AN,6ip,7bb ip,4U2 bb ip,4USH,2NISAG,2NU,2NU11,2il,3LAGAR ar np,5MASH,5SAL,",
   "6bz il LAGAR ar SAL,5USH,3he,3bz il,3ej il,5LAGAR bz LAGAR,2NUNUZ,3AB2 ar ASHGAB,5BI,5DUG,",
   "5GUD,5IGI fp,5KAD3,5LA,5NE,5SILA3,5U2,3KISIM5 ar BI,6U,2PA,2PAD,2PAN,2PAP,2PESH2,2PI,3ar A,",
   "4AB,4BI,4BU,4E,4I,4IB,4U,4U2,3ej PI,2PIRIG,3ar KAL,4UD,4ZA,3OPPOSING PIRIG,2RA,2RAB,2RI,2RU,",
   "2SA,2SAG NUTILLU,3,3ar A,4DU,4DUB,4HA,4KAK,4KUR,4LUM,4MI,4il,4SAL,4SHID,4TAB,4U2,4UB,4UM,4UR,",
   "4USH,3bz SAG,3fp,2SAL,3LAGAB ar ASH2,2SANGA2,2SAR,2ff,2SHA3,3ar A,4BAD,4GISH,4NE,4SHU2,4TUR,",
   "4U,5bb A,2SHA6,2SHAB6,2SHAR2,2le,3HU,3bz le GAD bz GAD np bz np,5TAB bz TAB np bz np,2SHEG9,",
   "2SHEN,2SHESH,2SHESH2,2SHESHLAM,2SHID,3ar A,4IM,2SHIM,3ar A,4BAL,4BULUG,4DIN,4np,4IGI,5fp,",
   "4KUSHU2,4LUL,4MUG,4SAL,2SHINIG,2SHIR,3he,3bz SHIR BUR bz BUR,2SHITA,2SHU,3bz bm SHU,2SHU2,",
   "2SHUBUR,2SI,3fp,2SIG,2SIG4,3bz SIG4 SHU2,2SIK2,2SILA3,2SU,3bz SU,2SUD,2SUD2,2SUHUR,2SUM,",
   "2SUMASH,2SUR,2SUR9,2TA,3cw,3ar HI,4MI,3fp,2TAB,3bz TAB NI bz NI lv bz lv,3ep,2TAG,3ar BI,",
   "4GUD,4le,4SHU,4TUG2,4UD,2TAK4,2TAR,2TE,3fp,2TI,3he,2TIL,2TIR,3ar TAK4,3bz TIR,",
   "5GAD bz GAD np bz np,2TU,2TUG2,2TUK,2TUM,2TUR,3bz TUR ZA bz ZA,2U,3GUD,3U U,",
   "3bz U PA bz PA np bz np,5SUR bz SUR,5U az bz U az,2U2,2UB,2UD,3KUSHU2,3ar BAD,4MI,",
   "4U bb U bb U,9fp,3fp,3SHESHIG,4ar BAD,2UDUG,2UM,3ar LAGAB,4ME bb DA,4SHA3,4U,2UMBIN,2UMUM,",
   "3ar KASKAL,4PA,2UN,3fp,2UR,3ej UR,3SHESHIG,2UR2,3ar A bb HA,6NA,4AL,4HA,4il,4U2,5bb ip,6BI,",
   "2UR4,2URI,2URI3,2URU,3ar A,4ASHGAB,4cc,4DUN,4GA,4GAL,4GAN2 he,4np,4GU,4HA,4IGI,4IM,4ISH,4KI,",
   "4LUM,4MIN,4PA,4le,4SIG4,4TU,4U bb GUD,4UD,4URUDA,2URUDA,3ar U,2USH,3ar A,4KU,4KUR,4TAK4,",
   "2USHX,2USH2,2USHUMX,2UTUKI,2UZ3,3ar KASKAL,2UZU,2ZA,3he,3ep ar KUR,2ZAG,2ZAMX,2ZE2,2ZI,",
   "3bz ZI,2ZI3,2ZIB,3KABA he,2ZIG,2ZIZ2,2ZU,2ZU5,3ar A,2ZUBUR,2ZUM,2KAP ELAMITE,2AB ar il,",
   "2AB2 ar A,2AMAR ar KUG,2DAG KISIM5 ar U2 bb MASH,2DAG3,2lv bb SHU,2DUB ar le,2EZEN ar GUD,",
   "4le,2GA2 ar AN bb KAK bb A,4ASH2,2GE22,2GIG,2HUSH,2KA ar ANSHE,4ASH3,4GISH,4GUD,4HI ar ASH2,",
   "4LUM,4PA,4SHUL,4TU,4UR2,2LAGAB ar GI,2LU2 SHESHIG ar BAD,3ar ESH2 bb LAL,4SHU,2MESH,",
   "2MUSH3 ar ZA,2NA4,2NIN,2NIN9,2NINDA2 ar BAL,4GI,2NU11 cd fc cv,2PESH2 cw,2PIR2,",
   "2SAG ar IGI fp,2TI2,2UM ar ME,2U U,+2u,1NUMERIC g ad ip,3q ip,3ak ip,3ao ip,3ca ip,3av ip,",
   "3aq ip,3bi ip,3q lv,3ak lv,3ao lv,3ca lv,3av lv,3aq lv,3bi lv,3ak U,3ao U,3ca U,3av U,3aq U,",
   "3bi U,3ah GESH2,3ad GESH2,3q GESH2,3ak GESH2,3ao GESH2,3ca GESH2,3av GESH2,3aq GESH2,",
   "3bi GESH2,3ah GESHU,3ad GESHU,3q GESHU,3ak GESHU,3ao GESHU,3ad SHAR2,3q SHAR2,5hu e,",
   "3ak SHAR2,3ao SHAR2,3ca SHAR2,3av SHAR2,3aq SHAR2,3bi SHAR2,3ah SHARU,3ad SHARU,3q SHARU,",
   "5hu e,3ak SHARU,3ao SHARU,3SHAR2 ar GAL bb lv,7MIN,3ah BURU,3ad BURU,3q BURU,5hu e,3ak BURU,",
   "3ao BURU,3q hu e ESH16,6ESH21,3ak hu e LIMMU,6LIMMU4,6LIMMU A,7B,3ca hu e ASH9,",
   "3av hu e IMIN3,6IMIN A,7B,3aq hu e USSU,6USSU3,3bi hu e ILIMMU,6ILIMMU3,6ILIMMU4,6ILIMMU A,",
   "3ad ip he,3q ip he,3ak ip he,3ao ip he,3ca ip he,3ah BAN2,3ad BAN2,3q BAN2,3ak BAN2,5hu e,",
   "3ao BAN2,5hu e,3NIGIDAMIN,3NIGIDAESH,3ah ESHE3,3ad ESHE3,3ah THIRD lv,3ad THIRDS lv,",
   "3ao SIXTHS lv,3ah THIRD hu e A,3ad THIRDS hu e A,3ah hg ip,4ex ip,3hh ASSYRIAN ah SIXTH,6ex,",
   "3ah ex GUR,4bd GUR,3ELAMITE ah THIRD,4ad THIRDS,4mi,4ha,3ak U hu e,3ao U hu e,3ca U hu e,",
   "3av U hu e,3aq U hu e,3bi U hu e,+1,1bv g hh ASSYRIAN WORD DIVIDER,3r hp,3cy hp,4TRICOLON,",
   "4QUADCOLON,+b,1g AB ar il he,4SHU2,2AD ar ESH2,2BAD ar lv he,2BAHAR2 ar AB2,4NI,4ZA,",
   "2BU bz BU ar NA2,2DA ar TAK4,2DAG ar KUR,2DIM ar IGI,4U U U,2DIM2 ar UD,2DUG ar ANSHE,4ip,",
   "5AT n,4DIN,4DUN,4ERIN2,4GA,4GI,4GIR2 fp,4GISH,4HA,4HI,4IGI fp,4KASKAL,4KUR,4KUSHU2,",
   "5bb KASKAL,4LAK-020,4kg,5ar KUR,4LUH bb GISH,4MASH,4MES,4MI,4NI,4PI,4le,4SI fp,2E2 ar KUR,",
   "4PAP,2ERIN2 X,2ESH2 ej ESH2,2EZEN SHESHIG ar ip,5HI,5IGI fp,5LA,5LAL,5ME,5MES,5SU,3ar SU,",
   "2GA2 ar BAHAR2,4DIM fp,4DUG ar IGI fp,6KASKAL,4EREN,4GA,4np bb DI,6NE,4HA bb A,",
   "4KUSHU2 bb KASKAL,4kg,5ar KUR,4LUH,4MUSH,4NE,5bb E2,6GI,4SHIM,4ZIZ2,2GABA cd fc cv,",
   "2GESHTIN ar U,2GISH ar GISH ej GISH,2GU2 ar IGI fp,2GUD bb GISH ar TAK4,2HA he fp,",
   "2HI ar ip bz HI ar ip,2KA ar BU,4KA,4U U U,4UR,2LAGAB ar ZU bz ZU,2LAK-003,2LAK-021,2LAK-025,",
   "2LAK-030,2LAK-050,2LAK-051,2LAK-062,2LAK-079 bz LAK-079 fp,2LAK-080,2LAK-081 bz LAK-081,",
   "2LAK-092,2LAK-130,2LAK-142,2LAK-210,2LAK-219,2LAK-220,2LAK-225,2LAK-228,2LAK-238,2LAK-265,",
   "2LAK-266,2LAK-343,2LAK-347,2LAK-348,2LAK-383,2LAK-384,2LAK-390,2LAK-441,2LAK-449,3ar GU,4IGI,",
   "4PAP bb LU3,6PAP bb LU3,4U2 bb BA,2LAK-450,2LAK-457,2LAK-470,2LAK-483,2LAK-490,2LAK-492,",
   "2LAK-493,2LAK-495,2LAK-550,2LAK-608,2LAK-617,3ar ip,4BAD,4DUN3 fp fp,4KU3,4LA,4TAR,4TE,4U2,",
   "4UD,4URUDA,2LAK-636,2LAK-648,3ar DUB,4GA,4IGI,5fp,4NI,4PAP bb PAP bb LU3,4SHESH bb KI,4UD,",
   "4URUDA,2LAK-724,2LAK-749,2LU2 fp ar ip,3ar lv,4HAL,4PAP,5bb PAP bb LU3,4TAK4,2MI bb ZA7,",
   "2MUSH bz MUSH ar GA,6KAK,2NINDA2 ar DIM fp,4GISH,4GUL,4HI,4KESH2,4LAK-050,4MASH,4PAP bb PAP,",
   "4U,5bb U,4URUDA,2SAG fp ar HA,3ar EN,4le AT n,4TAK4,2SHA6 he,2le bz le,3bb HUB2,4NAM2,4SAR,",
   "2SHU2 bb DUG ar NI,4E2 ar AN,2SI ar TAK4,2TAK4 bb SAG,2TUM ar GAN2 he,4q lv,2UR2 bm,3ar UD,",
   "2URU ar DARA3,4LAK-668,4LU3,2ZA7,2ZU bz ZU bb SAR,2ZU5 ar q lv he,+218,0CYPRO-MINOAN g CM001,",
   "2CM002,2CM004,2CM005,2CM006,2CM007,2CM008,2CM009,2CM010,2CM011,2CM012,2CM012B,2CM013,2CM015,",
   "2CM017,2CM019,2CM021,2CM023,2CM024,2CM025,2CM026,2CM027,2CM028,2CM029,2CM030,2CM033,2CM034,",
   "2CM035,2CM036,2CM037,2CM038,2CM039,2CM040,2CM041,2CM044,2CM046,2CM047,2CM049,2CM050,2CM051,",
   "2CM052,2CM053,2CM054,2CM055,2CM056,2CM058,2CM059,2CM060,2CM061,2CM062,2CM063,2CM064,2CM066,",
   "2CM067,2CM068,2CM069,2CM070,2CM071,2CM072,2CM073,2CM074,2CM075,2CM075B,2CM076,2CM078,2CM079,",
   "2CM080,2CM081,2CM082,2CM083,2CM084,2CM085,2CM086,2CM087,2CM088,2CM089,2CM090,2CM091,2CM092,",
   "2CM094,2CM095,2CM096,2CM097,2CM098,2CM099,2CM100,2CM101,2CM102,2CM103,2CM104,2CM105,2CM107,",
   "2CM108,2CM109,2CM110,2CM112,2CM114,2CM301,2CM302,+d,0EGYPTIAN HIEROGLYPH A001,2A002,2A003,",
   "2A004,2A005,2A005A,2A006,2A006A,2A006B,2A007,2A008,2A009,2A010,2A011,2A012,2A013,2A014,",
   "2A014A,2A015,2A016,2A017,2A017A,2A018,2A019,2A020,2A021,2A022,2A023,2A024,2A025,2A026,2A027,",
   "2A028,2A029,2A030,2A031,2A032,2A032A,2A033,2A034,2A035,2A036,2A037,2A038,2A039,2A040,2A040A,",
   "2A041,2A042,2A042A,2A043,2A043A,2A044,2A045,2A045A,2A046,2A047,2A048,2A049,2A050,2A051,2A052,",
   "2A053,2A054,2A055,2A056,2A057,2A058,2A059,2A060,2A061,2A062,2A063,2A064,2A065,2A066,2A067,",
   "2A068,2A069,2A070,2B001,2B002,2B003,2B004,2B005,2B005A,2B006,2B007,2B008,2B009,2C001,2C002,",
   "2C002A,2C002B,2C002C,2C003,2C004,2C005,2C006,2C007,2C008,2C009,2C010,2C010A,2C011,2C012,",
   "2C013,2C014,2C015,2C016,2C017,2C018,2C019,2C020,2C021,2C022,2C023,2C024,2D001,2D002,2D003,",
   "2D004,2D005,2D006,2D007,2D008,2D008A,2D009,2D010,2D011,2D012,2D013,2D014,2D015,2D016,2D017,",
   "2D018,2D019,2D020,2D021,2D022,2D023,2D024,2D025,2D026,2D027,2D027A,2D028,2D029,2D030,2D031,",
   "2D031A,2D032,2D033,2D034,2D034A,2D035,2D036,2D037,2D038,2D039,2D040,2D041,2D042,2D043,2D044,",
   "2D045,2D046,2D046A,2D047,2D048,2D048A,2D049,2D050,2D050A,2D050B,2D050C,2D050D,2D050E,2D050F,",
   "2D050G,2D050H,2D050I,2D051,2D052,2D052A,2D053,2D054,2D054A,2D055,2D056,2D057,2D058,2D059,",
   "2D060,2D061,2D062,2D063,2D064,2D065,2D066,2D067,2D067A,2D067B,2D067C,2D067D,2D067E,2D067F,",
   "2D067G,2D067H,2E001,2E002,2E003,2E004,2E005,2E006,2E007,2E008,2E008A,2E009,2E009A,2E010,",
   "2E011,2E012,2E013,2E014,2E015,2E016,2E016A,2E017,2E017A,2E018,2E019,2E020,2E020A,2E021,2E022,",
   "2E023,2E024,2E025,2E026,2E027,2E028,2E028A,2E029,2E030,2E031,2E032,2E033,2E034,2E034A,2E036,",
   "2E037,2E038,2F001,2F001A,2F002,2F003,2F004,2F005,2F006,2F007,2F008,2F009,2F010,2F011,2F012,",
   "2F013,2F013A,2F014,2F015,2F016,2F017,2F018,2F019,2F020,2F021,2F021A,2F022,2F023,2F024,2F025,",
   "2F026,2F027,2F028,2F029,2F030,2F031,2F031A,2F032,2F033,2F034,2F035,2F036,2F037,2F037A,2F038,",
   "2F038A,2F039,2F040,2F041,2F042,2F043,2F044,2F045,2F045A,2F046,2F046A,2F047,2F047A,2F048,",
   "2F049,2F050,2F051,2F051A,2F051B,2F051C,2F052,2F053,2G001,2G002,2G003,2G004,2G005,2G006,",
   "2G006A,2G007,2G007A,2G007B,2G008,2G009,2G010,2G011,2G011A,2G012,2G013,2G014,2G015,2G016,",
   "2G017,2G018,2G019,2G020,2G020A,2G021,2G022,2G023,2G024,2G025,2G026,2G026A,2G027,2G028,2G029,",
   "2G030,2G031,2G032,2G033,2G034,2G035,2G036,2G036A,2G037,2G037A,2G038,2G039,2G040,2G041,2G042,",
   "2G043,2G043A,2G044,2G045,2G045A,2G046,2G047,2G048,2G049,2G050,2G051,2G052,2G053,2G054,2H001,",
   "2H002,2H003,2H004,2H005,2H006,2H006A,2H007,2H008,2I001,2I002,2I003,2I004,2I005,2I005A,2I006,",
   "2I007,2I008,2I009,2I009A,2I010,2I010A,2I011,2I011A,2I012,2I013,2I014,2I015,2K001,2K002,2K003,",
   "2K004,2K005,2K006,2K007,2K008,2L001,2L002,2L002A,2L003,2L004,2L005,2L006,2L006A,2L007,2L008,",
   "2M001,2M001A,2M001B,2M002,2M003,2M003A,2M004,2M005,2M006,2M007,2M008,2M009,2M010,2M010A,",
   "2M011,2M012,2M012A,2M012B,2M012C,2M012D,2M012E,2M012F,2M012G,2M012H,2M013,2M014,2M015,2M015A,",
   "2M016,2M016A,2M017,2M017A,2M018,2M019,2M020,2M021,2M022,2M022A,2M023,2M024,2M024A,2M025,",
   "2M026,2M027,2M028,2M028A,2M029,2M030,2M031,2M031A,2M032,2M033,2M033A,2M033B,2M034,2M035,",
   "2M036,2M037,2M038,2M039,2M040,2M040A,2M041,2M042,2M043,2M044,2N001,2N002,2N003,2N004,2N005,",
   "2N006,2N007,2N008,2N009,2N010,2N011,2N012,2N013,2N014,2N015,2N016,2N017,2N018,2N018A,2N018B,",
   "2N019,2N020,2N021,2N022,2N023,2N024,2N025,2N025A,2N026,2N027,2N028,2N029,2N030,2N031,2N032,",
   "2N033,2N033A,2N034,2N034A,2N035,2N035A,2N036,2N037,2N037A,2N038,2N039,2N040,2N041,2N042,",
   "2NL001,2NL002,2NL003,2NL004,2NL005,2NL005A,2NL006,2NL007,2NL008,2NL009,2NL010,2NL011,2NL012,",
   "2NL013,2NL014,2NL015,2NL016,2NL017,2NL017A,2NL018,2NL019,2NL020,2NU001,2NU002,2NU003,2NU004,",
   "2NU005,2NU006,2NU007,2NU008,2NU009,2NU010,2NU010A,2NU011,2NU011A,2NU012,2NU013,2NU014,2NU015,",
   "2NU016,2NU017,2NU018,2NU018A,2NU019,2NU020,2NU021,2NU022,2NU022A,2O001,2O001A,2O002,2O003,",
   "2O004,2O005,2O005A,2O006,2O006A,2O006B,2O006C,2O006D,2O006E,2O006F,2O007,2O008,2O009,2O010,",
   "2O010A,2O010B,2O010C,2O011,2O012,2O013,2O014,2O015,2O016,2O017,2O018,2O019,2O019A,2O020,",
   "2O020A,2O021,2O022,2O023,2O024,2O024A,2O025,2O025A,2O026,2O027,2O028,2O029,2O029A,2O030,",
   "2O030A,2O031,2O032,2O033,2O033A,2O034,2O035,2O036,2O036A,2O036B,2O036C,2O036D,2O037,2O038,",
   "2O039,2O040,2O041,2O042,2O043,2O044,2O045,2O046,2O047,2O048,2O049,2O050,2O050A,2O050B,2O051,",
   "2P001,2P001A,2P002,2P003,2P003A,2P004,2P005,2P006,2P007,2P008,2P009,2P010,2P011,2Q001,2Q002,",
   "2Q003,2Q004,2Q005,2Q006,2Q007,2R001,2R002,2R002A,2R003,2R003A,2R003B,2R004,2R005,2R006,2R007,",
   "2R008,2R009,2R010,2R010A,2R011,2R012,2R013,2R014,2R015,2R016,2R016A,2R017,2R018,2R019,2R020,",
   "2R021,2R022,2R023,2R024,2R025,2R026,2R027,2R028,2R029,2S001,2S002,2S002A,2S003,2S004,2S005,",
   "2S006,2S006A,2S007,2S008,2S009,2S010,2S011,2S012,2S013,2S014,2S014A,2S014B,2S015,2S016,2S017,",
   "2S017A,2S018,2S019,2S020,2S021,2S022,2S023,2S024,2S025,2S026,2S026A,2S026B,2S027,2S028,2S029,",
   "2S030,2S031,2S032,2S033,2S034,2S035,2S035A,2S036,2S037,2S038,2S039,2S040,2S041,2S042,2S043,",
   "2S044,2S045,2S046,2T001,2T002,2T003,2T003A,2T004,2T005,2T006,2T007,2T007A,2T008,2T008A,2T009,",
   "2T009A,2T010,2T011,2T011A,2T012,2T013,2T014,2T015,2T016,2T016A,2T017,2T018,2T019,2T020,2T021,",
   "2T022,2T023,2T024,2T025,2T026,2T027,2T028,2T029,2T030,2T031,2T032,2T032A,2T033,2T033A,2T034,",
   "2T035,2T036,2U001,2U002,2U003,2U004,2U005,2U006,2U006A,2U006B,2U007,2U008,2U009,2U010,2U011,",
   "2U012,2U013,2U014,2U015,2U016,2U017,2U018,2U019,2U020,2U021,2U022,2U023,2U023A,2U024,2U025,",
   "2U026,2U027,2U028,2U029,2U029A,2U030,2U031,2U032,2U032A,2U033,2U034,2U035,2U036,2U037,2U038,",
   "2U039,2U040,2U041,2U042,2V001,2V001A,2V001B,2V001C,2V001D,2V001E,2V001F,2V001G,2V001H,2V001I,",
   "2V002,2V002A,2V003,2V004,2V005,2V006,2V007,2V007A,2V007B,2V008,2V009,2V010,2V011,2V011A,",
   "2V011B,2V011C,2V012,2V012A,2V012B,2V013,2V014,2V015,2V016,2V017,2V018,2V019,2V020,2V020A,",
   "2V020B,2V020C,2V020D,2V020E,2V020F,2V020G,2V020H,2V020I,2V020J,2V020K,2V020L,2V021,2V022,",
   "2V023,2V023A,2V024,2V025,2V026,2V027,2V028,2V028A,2V029,2V029A,2V030,2V030A,2V031,2V031A,",
   "2V032,2V033,2V033A,2V034,2V035,2V036,2V037,2V037A,2V038,2V039,2V040,2V040A,2W001,2W002,2W003,",
   "2W003A,2W004,2W005,2W006,2W007,2W008,2W009,2W009A,2W010,2W010A,2W011,2W012,2W013,2W014,",
   "2W014A,2W015,2W016,2W017,2W017A,2W018,2W018A,2W019,2W020,2W021,2W022,2W023,2W024,2W024A,",
   "2W025,2X001,2X002,2X003,2X004,2X004A,2X004B,2X005,2X006,2X006A,2X007,2X008,2X008A,2Y001,",
   "2Y001A,2Y002,2Y003,2Y004,2Y005,2Y006,2Y007,2Y008,2Z001,2Z002,2Z002A,2Z002B,2Z002C,2Z002D,",
   "2Z003,2Z003A,2Z003B,2Z004,2Z004A,2Z005,2Z005A,2Z006,2Z007,2Z008,2Z009,2Z010,2Z011,2Z012,",
   "2Z013,2Z014,2Z015,2Z015A,2Z015B,2Z015C,2Z015D,2Z015E,2Z015F,2Z015G,2Z015H,2Z015I,2Z016,",
   "2Z016A,2Z016B,2Z016C,2Z016D,2Z016E,2Z016F,2Z016G,2Z016H,2AA001,2AA002,2AA003,2AA004,2AA005,",
   "2AA006,2AA007,2AA007A,2AA007B,2AA008,2AA009,2AA010,2AA011,2AA012,2AA013,2AA014,2AA015,2AA016,",
   "2AA017,2AA018,2AA019,2AA020,2AA021,2AA022,2AA023,2AA024,2AA025,2AA026,2AA027,2AA028,2AA029,",
   "2AA030,2AA031,2AA032,+1,2r JOINER,2aa JOINER,2INSERT AT jc START,4gh START,4jc mh,4gh mh,",
   "2hi ab,2BEGIN SEGMENT,2mh SEGMENT,"]

/-! The names of characters from U+14000 to below U+1D000: hieroglyphs, Bamum, Tangut and kana of old. -/

/-- These names, in the writing that `DepView.Text.Names` reads. -/
def signs : List String :=
  ["+347,0ANATOLIAN HIEROGLYPH A001,2A002,2A003,2A004,2A005,2A006,2A007,2A008,2A009,2A010,2A010A,",
   "2A011,2A012,2A013,2A014,2A015,2A016,2A017,2A018,2A019,2A020,2A021,2A022,2A023,2A024,2A025,",
   "2A026,2A026A,2A027,2A028,2A029,2A030,2A031,2A032,2A033,2A034,2A035,2A036,2A037,2A038,2A039,",
   "2A039A,2A040,2A041,2A041A,2A042,2A043,2A044,2A045,2A045A,2A046,2A046A,2A046B,2A047,2A048,",
   "2A049,2A050,2A051,2A052,2A053,2A054,2A055,2A056,2A057,2A058,2A059,2A060,2A061,2A062,2A063,",
   "2A064,2A065,2A066,2A066A,2A066B,2A066C,2A067,2A068,2A069,2A070,2A071,2A072,2A073,2A074,2A075,",
   "2A076,2A077,2A078,2A079,2A080,2A081,2A082,2A083,2A084,2A085,2A086,2A087,2A088,2A089,2A090,",
   "2A091,2A092,2A093,2A094,2A095,2A096,2A097,2A097A,2A098,2A098A,2A099,2A100,2A100A,2A101,",
   "2A101A,2A102,2A102A,2A103,2A104,2A104A,2A104B,2A104C,2A105,2A105A,2A105B,2A106,2A107,2A107A,",
   "2A107B,2A107C,2A108,2A109,2A110,2A110A,2A110B,2A111,2A112,2A113,2A114,2A115,2A115A,2A116,",
   "2A117,2A118,2A119,2A120,2A121,2A122,2A123,2A124,2A125,2A125A,2A126,2A127,2A128,2A129,2A130,",
   "2A131,2A132,2A133,2A134,2A135,2A135A,2A136,2A137,2A138,2A139,2A140,2A141,2A142,2A143,2A144,",
   "2A145,2A146,2A147,2A148,2A149,2A150,2A151,2A152,2A153,2A154,2A155,2A156,2A157,2A158,2A159,",
   "2A160,2A161,2A162,2A163,2A164,2A165,2A166,2A167,2A168,2A169,2A170,2A171,2A172,2A173,2A174,",
   "2A175,2A176,2A177,2A178,2A179,2A180,2A181,2A182,2A183,2A184,2A185,2A186,2A187,2A188,2A189,",
   "2A190,2A191,2A192,2A193,2A194,2A195,2A196,2A197,2A198,2A199,2A200,2A201,2A202,2A202A,2A202B,",
   "2A203,2A204,2A205,2A206,2A207,2A207A,2A208,2A209,2A209A,2A210,2A211,2A212,2A213,2A214,2A215,",
   "2A215A,2A216,2A216A,2A217,2A218,2A219,2A220,2A221,2A222,2A223,2A224,2A225,2A226,2A227,2A227A,",
   "2A228,2A229,2A230,2A231,2A232,2A233,2A234,2A235,2A236,2A237,2A238,2A239,2A240,2A241,2A242,",
   "2A243,2A244,2A245,2A246,2A247,2A248,2A249,2A250,2A251,2A252,2A253,2A254,2A255,2A256,2A257,",
   "2A258,2A259,2A260,2A261,2A262,2A263,2A264,2A265,2A266,2A267,2A267A,2A268,2A269,2A270,2A271,",
   "2A272,2A273,2A274,2A275,2A276,2A277,2A278,2A279,2A280,2A281,2A282,2A283,2A284,2A285,2A286,",
   "2A287,2A288,2A289,2A289A,2A290,2A291,2A292,2A293,2A294,2A294A,2A295,2A296,2A297,2A298,2A299,",
   "2A299A,2A300,2A301,2A302,2A303,2A304,2A305,2A306,2A307,2A308,2A309,2A309A,2A310,2A311,2A312,",
   "2A313,2A314,2A315,2A316,2A317,2A318,2A319,2A320,2A321,2A322,2A323,2A324,2A325,2A326,2A327,",
   "2A328,2A329,2A329A,2A330,2A331,2A332A,2A332B,2A332C,2A333,2A334,2A335,2A336,2A336A,2A336B,",
   "2A336C,2A337,2A338,2A339,2A340,2A341,2A342,2A343,2A344,2A345,2A346,2A347,2A348,2A349,2A350,",
   "2A351,2A352,2A353,2A354,2A355,2A356,2A357,2A358,2A359,2A359A,2A360,2A361,2A362,2A363,2A364,",
   "2A364A,2A365,2A366,2A367,2A368,2A368A,2A369,2A370,2A371,2A371A,2A372,2A373,2A374,2A375,2A376,",
   "2A377,2A378,2A379,2A380,2A381,2A381A,2A382,2A383 RA OR RI,2A383A,2A384,2A385,2A386,2A386A,",
   "2A387,2A388,2A389,2A390,2A391,2A392,2A393 aq,2A394,2A395,2A396,2A397,2A398,2A399,2A400,2A401,",
   "2A402,2A403,2A404,2A405,2A406,2A407,2A408,2A409,2A410 BEGIN LOGOGRAM x,2A410A mh LOGOGRAM x,",
   "2A411,2A412,2A413,2A414,2A415,2A416,2A417,2A418,2A419,2A420,2A421,2A422,2A423,2A424,2A425,",
   "2A426,2A427,2A428,2A429,2A430,2A431,2A432,2A433,2A434,2A435,2A436,2A437,2A438,2A439,2A440,",
   "2A441,2A442,2A443,2A444,2A445,2A446,2A447,2A448,2A449,2A450,2A450A,2A451,2A452,2A453,2A454,",
   "2A455,2A456,2A457,2A457A,2A458,2A459,2A460,2A461,2A462,2A463,2A464,2A465,2A466,2A467,2A468,",
   "2A469,2A470,2A471,2A472,2A473,2A474,2A475,2A476,2A477,2A478,2A479,2A480,2A481,2A482,2A483,",
   "2A484,2A485,2A486,2A487,2A488,2A489,2A490,2A491,2A492,2A493,2A494,2A495,2A496,2A497,2A501,",
   "2A502,2A503,2A504,2A505,2A506,2A507,2A508,2A509,2A510,2A511,2A512,2A513,2A514,2A515,2A516,",
   "2A517,2A518,2A519,2A520,2A521,2A522,2A523,2A524,2A525,2A526,2A527,2A528,2A529,2A530,+6nt,",
   "0BAMUM a PHASE-A NGKUE MFON,3GBIEE FON,3PON MFON PIPAEMGBIEE,5PIPAEMBA,3NAA MFON,3SHUENSHUET,",
   "3TITA MFON,3NZA MFON,3SHINDA PA NJI,3PON PA NJI PIPAEMGBIEE,6PIPAEMBA,3MAEMBGBIEE,3TU MAEMBA,",
   "3NGANGU,3MAEMVEUX,3MANSUAE,3MVEUAENGAM,3SEUNYAM,3NTOQPEN,3KEUKEUTNDA,3NKINDI,3SUU,",
   "3NGKUENZEUM,3LAPAQ,3LET KUT,3NTAP MFAA,3MAEKEUP,3PASHAE,3GHEUAERAE,3PAMSHAE,3MON NGGEUAET,",
   "3NZUN MEUT,3U YUQ NAE,3GHEUAEGHEUAE,3NTAP NTAA,3SISA,3MGBASA,3MEUNJOMNDEUQ,3MOOMPUQ,3KAFA,",
   "3PA LEERAEWA,3NDA LEERAEWA,3PET,3MAEMKPEN,3NIKA,3PUP,3TUAEP,3LUAEP,3SONJAM,3TEUTEUWEN,",
   "3MAENYI,3KET,3NDAANGGEUAET,3KUOQ,3MOOMEUT,3SHUM,3LOMMAE,3FIRI,3ROM,3KPOQ,3SOQ,3MAP PIEET,",
   "3SHIRAE,3NTAP,3SHOQ NSHUT YUM,3NYIT MONGKEUAEQ,3PAARAE,3NKAARAE,3UNKNOWN,3NGGEN,3MAESI,3NJAM,",
   "3MBANYI,3NYET,3TEUAEN,3SOT,3PAAM,3NSHIEE,3MAEM,3NYI,3KAQ,3NSHA,3VEE,3LU,3NEN,3NAQ,3MBAQ,",
   "2PHASE-B NSHUET,3TU MAEMGBIEE,3SIEE,3SET TU,3LOM NTEUM,3MBA MAELEE,3KIEEM,3YEURAE,3MBAARAE,",
   "3KAM,3PEESHI,3YAFU LEERAEWA,3kg NSHUT NYAM,3NTIEE SHEUOQ,3NDU NJAA,3GHEUGHEUAEM,3PIT,",
   "3TU NSIEE,3SHET NJAQ,3SHEUAEQTU,3MFON TEUAEQ,3MBIT MBAAKET,3NYI NTEUM,3KEUPUQ,3GHEUGHEN,",
   "3KEUYEUX,3LAANAE,3PARUM,3VEUM,3NGKINDI MVOP,3NGGEU MBU,3WUAET,3SAKEUAE,3TAAM,3MEUQ,3NGGUOQ,",
   "4da,3MFIYAQ,3SUE,3MBEURI,3MONTIEEN,3NYAEMAE,3PUNGAAM,3MEUT NGGEET,3FEUX,3MBUOQ,3FEE,3KEUAEM,",
   "3MA NJEUAENA,4NJUQA,3LET,3NGGAAM,3NSEN,3MA,3KIQ,3NGOM,2PHASE-C NGKUE MAEMBA,3NZA,3YUM,",
   "3WANGKUOQ,3NGGEN,3NDEUAEREE,3NGKAQ,3GHARAE,3MBEEKEET,3GBAYI,3NYIR MKPARAQ MEUN,3NTU MBIT,",
   "3MBEUM,3PIRIEEN,3NDOMBU,3MBAA CABBAGE-TREE,3KEUSHEUAEP,3GHAP,3KEUKAQ,3YU MUOMAE,3NZEUM,3MBUE,",
   "3NSEUAEN,3MBIT,3YEUQ,3KPARAQ,3KAA,3SEUX,3NDIDA,3TAASHAE,3NJUEQ,3TITA YUE,3SUAET,",
   "3NGGUAEN NYAM,3VEUX,3NANSANAQ,3MA KEUAERI,3NTAA,3NGGUON,3LAP,3MBIRIEEN,3MGBASAQ,3NTEUNGBA,",
   "3TEUTEUX,3NGGUM,3FUE,3NDEUT,3NSA,3NSHAQ,3BUNG,3VEUAEPEN,3MBERAE,3RU,3NJAEM,3kg,3TITUAEP,",
   "3NSUOT NGOM,3NJEEEE,3KET,3NGGU,3MAESI,3MBUAEM,3LU,3KUT,3NJAM,3NGOM,3WUP,3NGGUEET,3NSOM,3NTEN,",
   "3KUOP NKAARAE,3NSUN,3NDAM,3MA NSIEE,3YAA,3NDAP,3SHUEQ,3SETFON,3MBI,3MAEMBA,3MBANYI,3KEUSEUX,",
   "3MBEUX,3KEUM,3MBAA PICKET,3YUWOQ,3NJEUX,3MIEE,3MUAE,3SHIQ,3KEN LAW,4FATIGUE,3NGAQ,3NAQ,3LIQ,",
   "3PIN,3PEN,3TET,2PHASE-D MBUO,3WAP,3NJI,3MFON,3NJIEE,3LIEE,3NJEUT,3NSHEE,3NGGAAMAE,3NYAM,",
   "3WUAEN,3NGKUN,3SHEE,3NGKAP,3KEUAETMEUN,3TEUT,3SHEUAE,3NJAP,3SUE,3KET,3YAEMMAE,3KUOM,3SAP,",
   "3MFEUT,3NDEUX,3MALEERI,3MEUT,3SEUAEQ,3YEN,3NJEUAEM,3KEUOT MBUAE,3NGKEURI,3TU,3GHAA,3NGKYEE,",
   "3FEUFEUAET,3NDEE,3MGBOFUM,3LEUAEP,3NDON,3MONI,3MGBEUN,3PUUT,3MGBIEE,3MFO,3LUM,3NSIEEP,3MBAA,",
   "3KWAET,3NYET,3TEUAEN,3SOT,3YUWOQ,3KEUM,3RAEM,3TEEEE,3NGKEUAEQ,3MFEUAE,3NSIEET,3KEUP,3PIP,",
   "3PEUTAE,3NYUE,3LET,3NGGAAM,3MFIEE,3NGGWAEN,3YUOM,3PAP,3YUOP,3NDAM,3NTEUM,3SUAE,3KUN,3NGGEUX,",
   "3NGKIEE,3TUOT,3MEUN,3KUQ,3NSUM,3TEUN,3MAENJET,3NGGAP,3LEUM,3NGGUOM,3NSHUT,3NJUEQ,3GHEUAE,3KU,",
   "3REN hh,3TAE,3TOQ,3NYI,3RII,3LEEEE,3MEEEE,3M,3SUU,3MU,3SHII,3SHEUX,3KYEE,3NU,3SHU,3NTEE,3PEE,",
   "3NI,3SHOQ,3PUQ,3MVOP,3LOQ,3REN MUCH,3TI,3NTUU,3MBAA av,3SAQ,3FAA,2PHASE-E NDAP,3TOON,3MBEUM,",
   "3LAP,3VOM,3LOON,3PAA,3SOM,3RAQ,3NSHUOP,3NDUN,3PUAE,3TAM,3NGKA,3KPEUX,3WUO,3SEE,3NGGEUAET,",
   "3PAAM,3TOO,3KUOP,3LOM,3NSHIEE,3NGOP,3MAEM,3NGKEUX,3NGOQ,3NSHUE,3RIMGBA,3NJEUX,3PEEM,3SAA,",
   "3NGGURAE,3MGBA,3GHEUX,3NGKEUAEM,3NJAEMLI,3MAP,3LOOT,3NGGEEEE,3NDIQ,3TAEN NTEUM,3SET,3PUM,",
   "3NDAA SOFTNESS,3NGGUAESHAE NYAM,3YIEE,3GHEUN,3TUAE,3YEUAE,3PO,3TUMAE,3KEUAE,3SUAEN,3TEUAEQ,",
   "3VEUAE,3WEUX,3LAAM,3PU,3TAAQ,3GHAAMAE,3NGEUREUT,3SHEUAEQ,3MGBEN,3MBEE,3NZAQ,3NKOM,3GBET,3TUM,",
   "3KUET,3YAP,3NYI CLEAVER,3YIT,3MFEUQ,3NDIAQ,3PIEEQ,3YUEQ,3LEUAEM,3FUE,3GBEUX,3NGKUP,3KET,3MAE,",
   "3NGKAAMI,3GHET,3FA,3NTUM,3PEUT,3YEUM,3NGGEUAE,3NYI js,3NZUQ,3POON,3MIEE,3FUET,3NAE,3MUAE,",
   "3GHEUAE,3FU I,3MVI,3PUAQ,3NGKUM,3KUT,3PIET,3NTAP,3YEUAET,3NGGUP,3PA PEOPLE,3FU CALL,3FOM,",
   "3NJEE,3A,3TOQ,3O,3I,3LAQ,3PA PLURAL,3TAA,3TAQ,3NDAA MY HOUSE,3SHIQ,3YEUX,3NGUAE,3YUAEN,",
   "3YOQ SWIMMING,4COVER,3YUQ,3YUN,3KEUX,3PEUX,3NJEE EPOCH,3PUE,3WUE,3FEE,3VEE,3LU,3MI,3REUX,",
   "3RAE,3NGUAET,3fe,3SHO,3SHOQ,3FU REMEDY,3NA,3PI,3LOQ,3KO,3MEN,3MA,3MAQ,3TEU,3KI,3MON,3el,3FAQ,",
   "3GHOM,2PHASE-F KA,3U,3KU,3EE,3REE,3TAE,3NYI,3LA,3RII,3RIEE,3MEEEE,3TAA,3NDAA,3NJAEM,3M,3SUU,",
   "3SHII,3SI,3SEUX,3KYEE,3KET,3NUAE,3NU,3NJUAE,3YOQ,3SHU,3YA,3NSHA,3PEUX,3NTEE,3WUE,3PEE,3RU,",
   "3NI,3REUX,3KEN,3NGKWAEN,3NGGA,3SHO,3PUAE,3FOM,3WA,3LI,3LOQ,3KO,3MBEN,3REN,3MA,3MO,3MBAA,3TET,",
   "3KPA,3SAMBA,3VUEQ,+7,0MRO a TA,2NGI,2YO,2MIM,2BA,2DA,2A,2PHI,2KHAI,2HAO,2DAI,2CHU,2KEAAE,2OL,",
   "2MAEM,2NIN,2PA,2OO,2O,2RO,2SHI,2THEA,2EA,2WA,2E,2KO,2LAN,2LA,2HAI,2RI,2TEK,+1,1bp cz,2ah,2ad,",
   "2q,2ak,2ao,2ca,2av,2aq,2bi,+4,1hz,1k hz,0TANGSA a OZ,2OC,2OQ,2OX,2AZ,2AC,2AQ,2AX,2VZ,2VC,2VQ,",
   "2VX,2EZ,2EC,2EQ,2EX,2IZ,2IC,2IQ,2IX,2UZ,2UC,2UQ,2UX,2AWZ,2AWC,2AWQ,2AWX,2UIZ,2UIC,2UIQ,2UIX,",
   "2p NG,2dl UEX,2ef UEZ,3AWX,2UEC,2UEZ,2UEQ,2UEX,2UIUZ,2UIUC,2UIUQ,2UIUX,2MZ,2MC,2MQ,2MX,2KA,",
   "2gg,2GA,2fe,2SA,2YA,2WA,2PA,2gb,2hc,2BA,2MA,2NA,2HA,2LA,2HTA,2TA,2DA,2RA,2NHA,2ff,2CA,2mr,",
   "2ik,2HTTA,2gn,2XA,2FA,2if,2fy,2ZA,+1,1bp cz,2ah,2ad,2q,2ak,2ao,2ca,2av,2aq,2bi,+6,",
   "0BASSA VAH a ENNI,3KA,3SE,3FA,3MBE,3YIE,3GAH,3DHII,3KPAH,3JO,3HWAH,3WA,3ZO,3GBU,3DO,3CE,3UWU,",
   "3TO,3BA,3VU,3YEIN,3PA,3WADDA,3A,3O,3OO,3U,3EE,3E,3I,+2,2dd dp dm,3ds dm,3MID dm,3LOW-MID dm,",
   "3HIGH-LOW dm,2fs dq,+a,0PAHAWH HMONG bl KEEB,3KEEV,3KIB,3KIV,3KAUB,3KAUV,3KUB,3KUV,3KEB,3KEV,",
   "3KAIB,3KAIV,3KOOB,3KOOV,3KAWB,3KAWV,3KUAB,3KUAV,3KOB,3KOV,3KIAB,3KIAV,3KAB,3KAV,3KWB,3KWV,",
   "3KAAB,3KAAV,2fu VAU,3NTSAU,3LAU,3HAU,3NLAU,3RAU,3NKAU,3QHAU,3YAU,3HLAU,3MAU,3CHAU,3NCHAU,",
   "3HNAU,3PLHAU,3NTHAU,3NAU,3AU,3XAU,3CAU,2x CIM TUB,4SO,4KES,4KHAV,4SUAM,4HOM,4TAUM,",
   "2g VOS THOM,4TSHAB CEEB,3CIM CHEEM,3VOS THIAB,4FEEM,3XYEEM NTXIV,4nt,4TOV,4FAIB,3VOS SEEV,",
   "3MEEJ SUAB,3VOS NRUA,3IB YAM,3XAUS,3CIM TSOV ROG,+a,2bp cz,3ah,3ad,3q,3ak,3ao,3ca,3av,3aq,",
   "3bi,+1,2cs TENS,3HUNDREDS,3el THOUSANDS,3MILLIONS,3ac MILLIONS,3el BILLIONS,3TRILLIONS,+1,",
   "2g VOS LUB,3XYOO,3HLI,3THIRD-STAGE HLI,3ZWJ THAJ,3HNUB,3NQIG,3XIAB,3NTUJ,3AV,3TXHEEJ CEEV,",
   "3MEEJ TSEEB,3TAU,3LOS,3MUS,3CIM HAIS LUS NTOG NTOG,4CUAM TSHOOJ,4TXWV,5CHWV,4PUB DAWB,",
   "4NRES TOS,+5,2CLAN g TSHEEJ,4YEEG,4LIS,4LAUJ,4XYOOJ,4KOO,4HAWJ,4MUAS,4THOJ,4TSAB,4PHAB,4KHAB,",
   "4HAM,4VAJ,4FAJ,4YAJ,4TSWB,4KWM,4VWJ,+j4,0MEDEFAIDRIN c a M,3S,3V,3W,3ATIU,3Z,3KP,3P,3T,3G,3F,",
   "3I,3K,3A,3J,3E,3B,3C,3U,3YU,3L,3Q,3HP,3NY,3X,3D,3OE,3N,3R,3O,3AI,3Y,1d a M,3S,3V,3W,3ATIU,3Z,",
   "3KP,3P,3T,3G,3F,3I,3K,3A,3J,3E,3B,3C,3U,3YU,3L,3Q,3HP,3NY,3X,3D,3OE,3N,3R,3O,3AI,3Y,1bp cz,",
   "2ah,2ad,2q,2ak,2ao,2ca,2av,2aq,2bi,1cs el,2ELEVEN,2nm,2THIRTEEN,2FOURTEEN,2FIFTEEN,2SIXTEEN,",
   "2SEVENTEEN,2EIGHTEEN,2NINETEEN,1bp ah ft e,2ad ft e,2q ft e,1do,1fs dq,1v AIVA,1dt OH,+2t,",
   "0MIAO a PA,2BA,2YI PA,2PLA,2MA,2MHA,2ir MA,2FA,2VA,2VFA,2TA,2DA,2YI ib,3TA,2ib,2ic,2NA,2NHA,",
   "2YI iq,2ir NA,2iq,2NNHA,2LA,2LYA,2LHA,2LHYA,2TLHA,2DLHA,2TLHYA,2DLHYA,2KA,2GA,2YI KA,2QA,",
   "2QGA,2fe,2NGHA,2ir fe,2HA,2XA,2ik,2GHHA,2TSSA,2DZZA,2gb,2NYHA,2TSHA,2DZHA,2YI TSHA,3DZHA,",
   "2REFORMED TSHA,2ff,2jr,2ZHA,2ZSHA,2mr,2DZA,2YI mr,2SA,2ZA,2ZSA,2ZZA,2ZZSA,2ir ZZA,2ZZYA,",
   "2ZZSYA,2WA,2AH,2HHA,2BRI,2SYI,2DZYI,2TE,2TSE,2RTE,+4,1g fu eq cc,1a NASALIZATION,",
   "1g ASPIRATION,2REFORMED VOICING,3ASPIRATION,1bl g A,3AA,3AHH,3AN,3ANG,3O,3OO,3WO,3W,3E,3EN,",
   "3ENG,3OEY,3I,3IA,3IAN,3IANG,3IO,3IE,3II,3IU,3ING,3U,3UA,3UAN,3UANG,3UU,3UEI,3UNG,3Y,3YI,3AE,",
   "3AEE,3ERR,3ROUNDED ERR,3ER,3ROUNDED ER,3AI,3EI,3AU,3OU,3N,3NG,3UOG,3YUI,3OG,3OER,3VW,3IG,3EA,",
   "3IONG,3UI,+7,1dm h,2jc h,2i,2o,1a TONE-2,2TONE-3,2TONE-4,2TONE-5,2TONE-6,2TONE-7,2TONE-8,",
   "2REFORMED TONE-1,3TONE-2,3TONE-4,3TONE-5,3TONE-6,3TONE-8,+1s,0TANGUT nq x,0NUSHU nq x,",
   "0hh CHINESE al x,2nq x,0KHITAN d ig FILLER,+b,0VIETNAMESE ft READING x CA,4NHAY,+4r2,",
   "0TANGUT COMPONENT-001,1COMPONENT-002,1COMPONENT-003,1COMPONENT-004,1COMPONENT-005,",
   "1COMPONENT-006,1COMPONENT-007,1COMPONENT-008,1COMPONENT-009,1COMPONENT-010,1COMPONENT-011,",
   "1COMPONENT-012,1COMPONENT-013,1COMPONENT-014,1COMPONENT-015,1COMPONENT-016,1COMPONENT-017,",
   "1COMPONENT-018,1COMPONENT-019,1COMPONENT-020,1COMPONENT-021,1COMPONENT-022,1COMPONENT-023,",
   "1COMPONENT-024,1COMPONENT-025,1COMPONENT-026,1COMPONENT-027,1COMPONENT-028,1COMPONENT-029,",
   "1COMPONENT-030,1COMPONENT-031,1COMPONENT-032,1COMPONENT-033,1COMPONENT-034,1COMPONENT-035,",
   "1COMPONENT-036,1COMPONENT-037,1COMPONENT-038,1COMPONENT-039,1COMPONENT-040,1COMPONENT-041,",
   "1COMPONENT-042,1COMPONENT-043,1COMPONENT-044,1COMPONENT-045,1COMPONENT-046,1COMPONENT-047,",
   "1COMPONENT-048,1COMPONENT-049,1COMPONENT-050,1COMPONENT-051,1COMPONENT-052,1COMPONENT-053,",
   "1COMPONENT-054,1COMPONENT-055,1COMPONENT-056,1COMPONENT-057,1COMPONENT-058,1COMPONENT-059,",
   "1COMPONENT-060,1COMPONENT-061,1COMPONENT-062,1COMPONENT-063,1COMPONENT-064,1COMPONENT-065,",
   "1COMPONENT-066,1COMPONENT-067,1COMPONENT-068,1COMPONENT-069,1COMPONENT-070,1COMPONENT-071,",
   "1COMPONENT-072,1COMPONENT-073,1COMPONENT-074,1COMPONENT-075,1COMPONENT-076,1COMPONENT-077,",
   "1COMPONENT-078,1COMPONENT-079,1COMPONENT-080,1COMPONENT-081,1COMPONENT-082,1COMPONENT-083,",
   "1COMPONENT-084,1COMPONENT-085,1COMPONENT-086,1COMPONENT-087,1COMPONENT-088,1COMPONENT-089,",
   "1COMPONENT-090,1COMPONENT-091,1COMPONENT-092,1COMPONENT-093,1COMPONENT-094,1COMPONENT-095,",
   "1COMPONENT-096,1COMPONENT-097,1COMPONENT-098,1COMPONENT-099,1COMPONENT-100,1COMPONENT-101,",
   "1COMPONENT-102,1COMPONENT-103,1COMPONENT-104,1COMPONENT-105,1COMPONENT-106,1COMPONENT-107,",
   "1COMPONENT-108,1COMPONENT-109,1COMPONENT-110,1COMPONENT-111,1COMPONENT-112,1COMPONENT-113,",
   "1COMPONENT-114,1COMPONENT-115,1COMPONENT-116,1COMPONENT-117,1COMPONENT-118,1COMPONENT-119,",
   "1COMPONENT-120,1COMPONENT-121,1COMPONENT-122,1COMPONENT-123,1COMPONENT-124,1COMPONENT-125,",
   "1COMPONENT-126,1COMPONENT-127,1COMPONENT-128,1COMPONENT-129,1COMPONENT-130,1COMPONENT-131,",
   "1COMPONENT-132,1COMPONENT-133,1COMPONENT-134,1COMPONENT-135,1COMPONENT-136,1COMPONENT-137,",
   "1COMPONENT-138,1COMPONENT-139,1COMPONENT-140,1COMPONENT-141,1COMPONENT-142,1COMPONENT-143,",
   "1COMPONENT-144,1COMPONENT-145,1COMPONENT-146,1COMPONENT-147,1COMPONENT-148,1COMPONENT-149,",
   "1COMPONENT-150,1COMPONENT-151,1COMPONENT-152,1COMPONENT-153,1COMPONENT-154,1COMPONENT-155,",
   "1COMPONENT-156,1COMPONENT-157,1COMPONENT-158,1COMPONENT-159,1COMPONENT-160,1COMPONENT-161,",
   "1COMPONENT-162,1COMPONENT-163,1COMPONENT-164,1COMPONENT-165,1COMPONENT-166,1COMPONENT-167,",
   "1COMPONENT-168,1COMPONENT-169,1COMPONENT-170,1COMPONENT-171,1COMPONENT-172,1COMPONENT-173,",
   "1COMPONENT-174,1COMPONENT-175,1COMPONENT-176,1COMPONENT-177,1COMPONENT-178,1COMPONENT-179,",
   "1COMPONENT-180,1COMPONENT-181,1COMPONENT-182,1COMPONENT-183,1COMPONENT-184,1COMPONENT-185,",
   "1COMPONENT-186,1COMPONENT-187,1COMPONENT-188,1COMPONENT-189,1COMPONENT-190,1COMPONENT-191,",
   "1COMPONENT-192,1COMPONENT-193,1COMPONENT-194,1COMPONENT-195,1COMPONENT-196,1COMPONENT-197,",
   "1COMPONENT-198,1COMPONENT-199,1COMPONENT-200,1COMPONENT-201,1COMPONENT-202,1COMPONENT-203,",
   "1COMPONENT-204,1COMPONENT-205,1COMPONENT-206,1COMPONENT-207,1COMPONENT-208,1COMPONENT-209,",
   "1COMPONENT-210,1COMPONENT-211,1COMPONENT-212,1COMPONENT-213,1COMPONENT-214,1COMPONENT-215,",
   "1COMPONENT-216,1COMPONENT-217,1COMPONENT-218,1COMPONENT-219,1COMPONENT-220,1COMPONENT-221,",
   "1COMPONENT-222,1COMPONENT-223,1COMPONENT-224,1COMPONENT-225,1COMPONENT-226,1COMPONENT-227,",
   "1COMPONENT-228,1COMPONENT-229,1COMPONENT-230,1COMPONENT-231,1COMPONENT-232,1COMPONENT-233,",
   "1COMPONENT-234,1COMPONENT-235,1COMPONENT-236,1COMPONENT-237,1COMPONENT-238,1COMPONENT-239,",
   "1COMPONENT-240,1COMPONENT-241,1COMPONENT-242,1COMPONENT-243,1COMPONENT-244,1COMPONENT-245,",
   "1COMPONENT-246,1COMPONENT-247,1COMPONENT-248,1COMPONENT-249,1COMPONENT-250,1COMPONENT-251,",
   "1COMPONENT-252,1COMPONENT-253,1COMPONENT-254,1COMPONENT-255,1COMPONENT-256,1COMPONENT-257,",
   "1COMPONENT-258,1COMPONENT-259,1COMPONENT-260,1COMPONENT-261,1COMPONENT-262,1COMPONENT-263,",
   "1COMPONENT-264,1COMPONENT-265,1COMPONENT-266,1COMPONENT-267,1COMPONENT-268,1COMPONENT-269,",
   "1COMPONENT-270,1COMPONENT-271,1COMPONENT-272,1COMPONENT-273,1COMPONENT-274,1COMPONENT-275,",
   "1COMPONENT-276,1COMPONENT-277,1COMPONENT-278,1COMPONENT-279,1COMPONENT-280,1COMPONENT-281,",
   "1COMPONENT-282,1COMPONENT-283,1COMPONENT-284,1COMPONENT-285,1COMPONENT-286,1COMPONENT-287,",
   "1COMPONENT-288,1COMPONENT-289,1COMPONENT-290,1COMPONENT-291,1COMPONENT-292,1COMPONENT-293,",
   "1COMPONENT-294,1COMPONENT-295,1COMPONENT-296,1COMPONENT-297,1COMPONENT-298,1COMPONENT-299,",
   "1COMPONENT-300,1COMPONENT-301,1COMPONENT-302,1COMPONENT-303,1COMPONENT-304,1COMPONENT-305,",
   "1COMPONENT-306,1COMPONENT-307,1COMPONENT-308,1COMPONENT-309,1COMPONENT-310,1COMPONENT-311,",
   "1COMPONENT-312,1COMPONENT-313,1COMPONENT-314,1COMPONENT-315,1COMPONENT-316,1COMPONENT-317,",
   "1COMPONENT-318,1COMPONENT-319,1COMPONENT-320,1COMPONENT-321,1COMPONENT-322,1COMPONENT-323,",
   "1COMPONENT-324,1COMPONENT-325,1COMPONENT-326,1COMPONENT-327,1COMPONENT-328,1COMPONENT-329,",
   "1COMPONENT-330,1COMPONENT-331,1COMPONENT-332,1COMPONENT-333,1COMPONENT-334,1COMPONENT-335,",
   "1COMPONENT-336,1COMPONENT-337,1COMPONENT-338,1COMPONENT-339,1COMPONENT-340,1COMPONENT-341,",
   "1COMPONENT-342,1COMPONENT-343,1COMPONENT-344,1COMPONENT-345,1COMPONENT-346,1COMPONENT-347,",
   "1COMPONENT-348,1COMPONENT-349,1COMPONENT-350,1COMPONENT-351,1COMPONENT-352,1COMPONENT-353,",
   "1COMPONENT-354,1COMPONENT-355,1COMPONENT-356,1COMPONENT-357,1COMPONENT-358,1COMPONENT-359,",
   "1COMPONENT-360,1COMPONENT-361,1COMPONENT-362,1COMPONENT-363,1COMPONENT-364,1COMPONENT-365,",
   "1COMPONENT-366,1COMPONENT-367,1COMPONENT-368,1COMPONENT-369,1COMPONENT-370,1COMPONENT-371,",
   "1COMPONENT-372,1COMPONENT-373,1COMPONENT-374,1COMPONENT-375,1COMPONENT-376,1COMPONENT-377,",
   "1COMPONENT-378,1COMPONENT-379,1COMPONENT-380,1COMPONENT-381,1COMPONENT-382,1COMPONENT-383,",
   "1COMPONENT-384,1COMPONENT-385,1COMPONENT-386,1COMPONENT-387,1COMPONENT-388,1COMPONENT-389,",
   "1COMPONENT-390,1COMPONENT-391,1COMPONENT-392,1COMPONENT-393,1COMPONENT-394,1COMPONENT-395,",
   "1COMPONENT-396,1COMPONENT-397,1COMPONENT-398,1COMPONENT-399,1COMPONENT-400,1COMPONENT-401,",
   "1COMPONENT-402,1COMPONENT-403,1COMPONENT-404,1COMPONENT-405,1COMPONENT-406,1COMPONENT-407,",
   "1COMPONENT-408,1COMPONENT-409,1COMPONENT-410,1COMPONENT-411,1COMPONENT-412,1COMPONENT-413,",
   "1COMPONENT-414,1COMPONENT-415,1COMPONENT-416,1COMPONENT-417,1COMPONENT-418,1COMPONENT-419,",
   "1COMPONENT-420,1COMPONENT-421,1COMPONENT-422,1COMPONENT-423,1COMPONENT-424,1COMPONENT-425,",
   "1COMPONENT-426,1COMPONENT-427,1COMPONENT-428,1COMPONENT-429,1COMPONENT-430,1COMPONENT-431,",
   "1COMPONENT-432,1COMPONENT-433,1COMPONENT-434,1COMPONENT-435,1COMPONENT-436,1COMPONENT-437,",
   "1COMPONENT-438,1COMPONENT-439,1COMPONENT-440,1COMPONENT-441,1COMPONENT-442,1COMPONENT-443,",
   "1COMPONENT-444,1COMPONENT-445,1COMPONENT-446,1COMPONENT-447,1COMPONENT-448,1COMPONENT-449,",
   "1COMPONENT-450,1COMPONENT-451,1COMPONENT-452,1COMPONENT-453,1COMPONENT-454,1COMPONENT-455,",
   "1COMPONENT-456,1COMPONENT-457,1COMPONENT-458,1COMPONENT-459,1COMPONENT-460,1COMPONENT-461,",
   "1COMPONENT-462,1COMPONENT-463,1COMPONENT-464,1COMPONENT-465,1COMPONENT-466,1COMPONENT-467,",
   "1COMPONENT-468,1COMPONENT-469,1COMPONENT-470,1COMPONENT-471,1COMPONENT-472,1COMPONENT-473,",
   "1COMPONENT-474,1COMPONENT-475,1COMPONENT-476,1COMPONENT-477,1COMPONENT-478,1COMPONENT-479,",
   "1COMPONENT-480,1COMPONENT-481,1COMPONENT-482,1COMPONENT-483,1COMPONENT-484,1COMPONENT-485,",
   "1COMPONENT-486,1COMPONENT-487,1COMPONENT-488,1COMPONENT-489,1COMPONENT-490,1COMPONENT-491,",
   "1COMPONENT-492,1COMPONENT-493,1COMPONENT-494,1COMPONENT-495,1COMPONENT-496,1COMPONENT-497,",
   "1COMPONENT-498,1COMPONENT-499,1COMPONENT-500,1COMPONENT-501,1COMPONENT-502,1COMPONENT-503,",
   "1COMPONENT-504,1COMPONENT-505,1COMPONENT-506,1COMPONENT-507,1COMPONENT-508,1COMPONENT-509,",
   "1COMPONENT-510,1COMPONENT-511,1COMPONENT-512,1COMPONENT-513,1COMPONENT-514,1COMPONENT-515,",
   "1COMPONENT-516,1COMPONENT-517,1COMPONENT-518,1COMPONENT-519,1COMPONENT-520,1COMPONENT-521,",
   "1COMPONENT-522,1COMPONENT-523,1COMPONENT-524,1COMPONENT-525,1COMPONENT-526,1COMPONENT-527,",
   "1COMPONENT-528,1COMPONENT-529,1COMPONENT-530,1COMPONENT-531,1COMPONENT-532,1COMPONENT-533,",
   "1COMPONENT-534,1COMPONENT-535,1COMPONENT-536,1COMPONENT-537,1COMPONENT-538,1COMPONENT-539,",
   "1COMPONENT-540,1COMPONENT-541,1COMPONENT-542,1COMPONENT-543,1COMPONENT-544,1COMPONENT-545,",
   "1COMPONENT-546,1COMPONENT-547,1COMPONENT-548,1COMPONENT-549,1COMPONENT-550,1COMPONENT-551,",
   "1COMPONENT-552,1COMPONENT-553,1COMPONENT-554,1COMPONENT-555,1COMPONENT-556,1COMPONENT-557,",
   "1COMPONENT-558,1COMPONENT-559,1COMPONENT-560,1COMPONENT-561,1COMPONENT-562,1COMPONENT-563,",
   "1COMPONENT-564,1COMPONENT-565,1COMPONENT-566,1COMPONENT-567,1COMPONENT-568,1COMPONENT-569,",
   "1COMPONENT-570,1COMPONENT-571,1COMPONENT-572,1COMPONENT-573,1COMPONENT-574,1COMPONENT-575,",
   "1COMPONENT-576,1COMPONENT-577,1COMPONENT-578,1COMPONENT-579,1COMPONENT-580,1COMPONENT-581,",
   "1COMPONENT-582,1COMPONENT-583,1COMPONENT-584,1COMPONENT-585,1COMPONENT-586,1COMPONENT-587,",
   "1COMPONENT-588,1COMPONENT-589,1COMPONENT-590,1COMPONENT-591,1COMPONENT-592,1COMPONENT-593,",
   "1COMPONENT-594,1COMPONENT-595,1COMPONENT-596,1COMPONENT-597,1COMPONENT-598,1COMPONENT-599,",
   "1COMPONENT-600,1COMPONENT-601,1COMPONENT-602,1COMPONENT-603,1COMPONENT-604,1COMPONENT-605,",
   "1COMPONENT-606,1COMPONENT-607,1COMPONENT-608,1COMPONENT-609,1COMPONENT-610,1COMPONENT-611,",
   "1COMPONENT-612,1COMPONENT-613,1COMPONENT-614,1COMPONENT-615,1COMPONENT-616,1COMPONENT-617,",
   "1COMPONENT-618,1COMPONENT-619,1COMPONENT-620,1COMPONENT-621,1COMPONENT-622,1COMPONENT-623,",
   "1COMPONENT-624,1COMPONENT-625,1COMPONENT-626,1COMPONENT-627,1COMPONENT-628,1COMPONENT-629,",
   "1COMPONENT-630,1COMPONENT-631,1COMPONENT-632,1COMPONENT-633,1COMPONENT-634,1COMPONENT-635,",
   "1COMPONENT-636,1COMPONENT-637,1COMPONENT-638,1COMPONENT-639,1COMPONENT-640,1COMPONENT-641,",
   "1COMPONENT-642,1COMPONENT-643,1COMPONENT-644,1COMPONENT-645,1COMPONENT-646,1COMPONENT-647,",
   "1COMPONENT-648,1COMPONENT-649,1COMPONENT-650,1COMPONENT-651,1COMPONENT-652,1COMPONENT-653,",
   "1COMPONENT-654,1COMPONENT-655,1COMPONENT-656,1COMPONENT-657,1COMPONENT-658,1COMPONENT-659,",
   "1COMPONENT-660,1COMPONENT-661,1COMPONENT-662,1COMPONENT-663,1COMPONENT-664,1COMPONENT-665,",
   "1COMPONENT-666,1COMPONENT-667,1COMPONENT-668,1COMPONENT-669,1COMPONENT-670,1COMPONENT-671,",
   "1COMPONENT-672,1COMPONENT-673,1COMPONENT-674,1COMPONENT-675,1COMPONENT-676,1COMPONENT-677,",
   "1COMPONENT-678,1COMPONENT-679,1COMPONENT-680,1COMPONENT-681,1COMPONENT-682,1COMPONENT-683,",
   "1COMPONENT-684,1COMPONENT-685,1COMPONENT-686,1COMPONENT-687,1COMPONENT-688,1COMPONENT-689,",
   "1COMPONENT-690,1COMPONENT-691,1COMPONENT-692,1COMPONENT-693,1COMPONENT-694,1COMPONENT-695,",
   "1COMPONENT-696,1COMPONENT-697,1COMPONENT-698,1COMPONENT-699,1COMPONENT-700,1COMPONENT-701,",
   "1COMPONENT-702,1COMPONENT-703,1COMPONENT-704,1COMPONENT-705,1COMPONENT-706,1COMPONENT-707,",
   "1COMPONENT-708,1COMPONENT-709,1COMPONENT-710,1COMPONENT-711,1COMPONENT-712,1COMPONENT-713,",
   "1COMPONENT-714,1COMPONENT-715,1COMPONENT-716,1COMPONENT-717,1COMPONENT-718,1COMPONENT-719,",
   "1COMPONENT-720,1COMPONENT-721,1COMPONENT-722,1COMPONENT-723,1COMPONENT-724,1COMPONENT-725,",
   "1COMPONENT-726,1COMPONENT-727,1COMPONENT-728,1COMPONENT-729,1COMPONENT-730,1COMPONENT-731,",
   "1COMPONENT-732,1COMPONENT-733,1COMPONENT-734,1COMPONENT-735,1COMPONENT-736,1COMPONENT-737,",
   "1COMPONENT-738,1COMPONENT-739,1COMPONENT-740,1COMPONENT-741,1COMPONENT-742,1COMPONENT-743,",
   "1COMPONENT-744,1COMPONENT-745,1COMPONENT-746,1COMPONENT-747,1COMPONENT-748,1COMPONENT-749,",
   "1COMPONENT-750,1COMPONENT-751,1COMPONENT-752,1COMPONENT-753,1COMPONENT-754,1COMPONENT-755,",
   "1COMPONENT-756,1COMPONENT-757,1COMPONENT-758,1COMPONENT-759,1COMPONENT-760,1COMPONENT-761,",
   "1COMPONENT-762,1COMPONENT-763,1COMPONENT-764,1COMPONENT-765,1COMPONENT-766,1COMPONENT-767,",
   "1COMPONENT-768,+7ao,0mu a MINNAN TONE-2,3TONE-3,3TONE-4,3TONE-5,+1,3TONE-7,3TONE-8,",
   "3NASALIZED TONE-1,4TONE-2,4TONE-3,4TONE-4,4TONE-5,+1,4TONE-7,4TONE-8,+1,2ir E,",
   "0HIRAGANA a ir YE,0HENTAIGANA a A-1,2A-2,2A-3,2A-WO,2I-1,2I-2,2I-3,2I-4,2U-1,2U-2,2U-3,2U-4,",
   "2U-5,2E-2,2E-3,2E-4,2E-5,2E-6,2O-1,2O-2,2O-3,2KA-1,2KA-2,2KA-3,2KA-4,2KA-5,2KA-6,2KA-7,2KA-8,",
   "2KA-9,2KA-10,2KA-11,2KA-KE,2KI-1,2KI-2,2KI-3,2KI-4,2KI-5,2KI-6,2KI-7,2KI-8,2KU-1,2KU-2,2KU-3,",
   "2KU-4,2KU-5,2KU-6,2KU-7,2KE-1,2KE-2,2KE-3,2KE-4,2KE-5,2KE-6,2KO-1,2KO-2,2KO-3,2KO-KI,2SA-1,",
   "2SA-2,2SA-3,2SA-4,2SA-5,2SA-6,2SA-7,2SA-8,2SI-1,2SI-2,2SI-3,2SI-4,2SI-5,2SI-6,2SU-1,2SU-2,",
   "2SU-3,2SU-4,2SU-5,2SU-6,2SU-7,2SU-8,2SE-1,2SE-2,2SE-3,2SE-4,2SE-5,2SO-1,2SO-2,2SO-3,2SO-4,",
   "2SO-5,2SO-6,2SO-7,2TA-1,2TA-2,2TA-3,2TA-4,2TI-1,2TI-2,2TI-3,2TI-4,2TI-5,2TI-6,2TI-7,2TU-1,",
   "2TU-2,2TU-3,2TU-4,2TU-TO,2TE-1,2TE-2,2TE-3,2TE-4,2TE-5,2TE-6,2TE-7,2TE-8,2TE-9,2TO-1,2TO-2,",
   "2TO-3,2TO-4,2TO-5,2TO-6,2TO-RA,2NA-1,2NA-2,2NA-3,2NA-4,2NA-5,2NA-6,2NA-7,2NA-8,2NA-9,2NI-1,",
   "2NI-2,2NI-3,2NI-4,2NI-5,2NI-6,2NI-7,2NI-TE,2NU-1,2NU-2,2NU-3,2NE-1,2NE-2,2NE-3,2NE-4,2NE-5,",
   "2NE-6,2NE-KO,2NO-1,2NO-2,2NO-3,2NO-4,2NO-5,2HA-1,2HA-2,2HA-3,2HA-4,2HA-5,2HA-6,2HA-7,2HA-8,",
   "2HA-9,2HA-10,2HA-11,2HI-1,2HI-2,2HI-3,2HI-4,2HI-5,2HI-6,2HI-7,2HU-1,2HU-2,2HU-3,2HE-1,2HE-2,",
   "2HE-3,2HE-4,2HE-5,2HE-6,2HE-7,2HO-1,2HO-2,2HO-3,2HO-4,2HO-5,2HO-6,2HO-7,2HO-8,2MA-1,2MA-2,",
   "2MA-3,2MA-4,2MA-5,2MA-6,2MA-7,2MI-1,2MI-2,2MI-3,2MI-4,2MI-5,2MI-6,2MI-7,2MU-1,2MU-2,2MU-3,",
   "2MU-4,2ME-1,2ME-2,2ME-MA,2MO-1,2MO-2,2MO-3,2MO-4,2MO-5,2MO-6,2YA-1,2YA-2,2YA-3,2YA-4,2YA-5,",
   "2YA-YO,2YU-1,2YU-2,2YU-3,2YU-4,2YO-1,2YO-2,2YO-3,2YO-4,2YO-5,2YO-6,2RA-1,2RA-2,2RA-3,2RA-4,",
   "2RI-1,2RI-2,2RI-3,2RI-4,2RI-5,2RI-6,2RI-7,2RU-1,2RU-2,2RU-3,2RU-4,2RU-5,2RU-6,2RE-1,2RE-2,",
   "2RE-3,2RE-4,2RO-1,2RO-2,2RO-3,2RO-4,2RO-5,2RO-6,2WA-1,2WA-2,2WA-3,2WA-4,2WA-5,2WI-1,2WI-2,",
   "2WI-3,2WI-4,2WI-5,2WE-1,2WE-2,2WE-3,2WE-4,2WO-1,2WO-2,2WO-3,2WO-4,2WO-5,2WO-6,2WO-7,",
   "2N-MU-MO-1,2N-MU-MO-2,0HIRAGANA a ir WU,0mu a ir YI,3YE,3WU,+19,0HIRAGANA a d WI,3WE,3WO,+h,",
   "0mu a d WI,3WE,3WO,3N,+23c,0DUPLOYAN a H,2X,2P,2T,2F,2K,2L,2B,2D,2V,2G,2R,2P N,2D S,2F N,",
   "2K M,2R S,2TH,2SLOAN DH,2DH,2KK,2SLOAN J,2HL,2LH,2RH,2M,2N,2J,2S,2M N,2N M,2J M,2S J,2M b aj,",
   "2N b aj,2J b aj,4bw ka l i,2S b aj,5o,2M S,2N S,2J S,2S S,2M N S,2N M S,2J M S,2S J S,",
   "2J S b aj,3N,4S,2S T,4R,3P,4R,2T S,3R S,2W,2WH,2W R,2S N,3M,2K R S,2G R S,2S K,4R,2A,",
   "2SLOAN OW,2OA,2O,2AOU,2I,2E,2IE,2ef I,2UI,2EE,2SLOAN EH,2ROMANIAN I,2SLOAN EE,2dl I,2YE,2U,",
   "2EU,2XW,2U N,2dl U,2ROMANIAN U,2UH,2SLOAN U,2OOH,2OW,2OU,2WA,2WO,2WI,2WEI,2WOW,2NASAL U,3O,",
   "3I,3A,2PERNIN AN,3AM,2SLOAN EN,3AN,3ON,2ci M,+5,1AFFIX n aa SECANT,2MID aa SECANT,",
   "2h aa SECANT,2ds r SECANT,2MID r SECANT,2dp r SECANT,2ATTACHED SECANT,3LEFT-TO-RIGHT SECANT,",
   "3TANGENT,3fg,3E al,3I al,3TANGENT al,+3,2dp bx,3TIGHT bx,3de,3dl de,3aj,3at,3ec,3mw,3r,+7,",
   "2ds bx,3TIGHT bx,3de,3dl de,3aj,3at,3ec,3mw,3r,3f,+2,1g O b ey,1THICK a SELECTOR,1k x,",
   "1bv CHINOOK fs dq,0SHORTHAND FORMAT a OVERLAP,2CONTINUING OVERLAP,2be STEP,2UP STEP,+3mk,",
   "0ZNAMENNY dd x GORAZDO NIZKO S nh ON n,3NIZKO S nh ON n,3TSATA ON n,3GORAZDO NIZKO ON n,",
   "3NIZKO ON n,3SREDNE ON n,3MALO nj ON n,3nj ON n,3VYSOKO ON n,3MALO nj S KHOKHLOM ON n,",
   "3nj S KHOKHLOM ON n,3VYSOKO S KHOKHLOM ON n,3GORAZDO NIZKO S nh ON h,3NIZKO S nh ON h,",
   "3TSATA ON h,3GORAZDO NIZKO ON h,3NIZKO ON h,3SREDNE ON h,3MALO nj ON h,3nj ON h,3VYSOKO ON h,",
   "3MALO nj S KHOKHLOM ON h,3nj S KHOKHLOM ON h,3VYSOKO S KHOKHLOM ON h,3TSATA S nh,",
   "3MALO nj S nh,3STRANNO MALO nj,3nj S nh,4STRANNO,3VYSOKO S nh,3MALO nj STRANNO,",
   "3GORAZDO VYSOKO,3ZELO,3ON,3RAVNO,3TIKHAYA,3BORZAYA,3UDARKA,3PODVERTKA,3LOMKA,3KUPNAYA,",
   "3KACHKA,3ZEVOK,3SKOBA,3RAZSEKA,3KRYZH ON n,+2,2TONAL RANGE x MRACHNO,5SVETLO,5TRESVETLO,",
   "2x ZADERZHKA,3DEMESTVENNY ZADERZHKA,3OTSECHKA,3PODCHASHIE,4b r u,3CHASHKA,4POLNAYA,3OBLACHKO,",
   "3SOROCHYA NOZHKA,3TOCHKA,3DVOETOCHIE,2ATTACHING r OMET,2x CURVED OMET,3KRYZH,",
   "2br TONAL RANGE INDICATOR,1PRIZNAK eq LEVEL-2,3LEVEL-3,3DIRECTION FLIP,3KRYZH,3ROG,+9,",
   "1NEUME KRYUK,3TIKHY,2PARAKLIT,2DVA V CHELNU,2KLYUCH,2ZANOZHEK,2STOPITSA,3S OCHKOM,2PEREVODKA,",
   "3NEPOSTOYANNAYA,2STOPITSA b SOROCHYA NOZHKA,2CHELYUSTKA,2PALKA,2ZAPYATAYA,2GOLUBCHIK BORZY,",
   "3TIKHY,3MRACHNY,3SVETLY,3TRESVETLY,2VRAKHIYA PROSTAYA,3MRACHNAYA,3SVETLAYA,3TRESVETLAYA,",
   "3KLYUCHEVAYA PROSTAYA,4MRACHNAYA,4SVETLAYA,4TRESVETLAYA,2k ZAPYATAYA,2az CHELYUSTKA,",
   "2DERBITSA,2KHAMILO,2CHASHKA,2PODCHASHIE,2SKAMEYTSA MRACHNAYA,3SVETLAYA,3TRESVETLAYA,3TIKHAYA,",
   "2DEMESTVENNY KLYUCH,2SKAMEYTSA KLYUCHEVAYA SVETLAYA,3KLYUCHENEPOSTOYANNAYA,",
   "3KLYUCHEVAYA TIKHAYA,3DVOECHELNAYA PROSTAYA,4SVETLAYA,4NEPOSTOYANNAYA,4KLYUCHEVAYA,",
   "2SLOZHITIE,3S ZAPYATOY,3ZAKRYTOE,3S nh,2KRYZH,2ROG,2FITA,2KOBYLA,2ZMEYTSA,2STATYA,",
   "3S ZAPYATOY,4nh,4ZAPYATOY I nh,4nh I ZAPYATOY,3ZAKRYTAYA,4S ZAPYATOY,3S ROGOM,",
   "4DVUMYA ZAPYATYMI,4ZAPYATOY I PODCHASHIEM,2POLKULIZMY,2STATYA NEPOSTOYANNAYA,",
   "2STRELA PROSTAYA,3MRACHNOTIKHAYA,3KRYZHEVAYA,3POLUPOVODNAYA,3POVODNAYA,3NEPOSTOYANNAYA,",
   "3KLYUCHEPOVODNAYA,3KLYUCHENEPOSTOYANNAYA,3TIKHAYA PUTNAYA,3DVOECHELNAYA,",
   "3DVOECHELNOKRYZHEVAYA,3DVOECHELNOPOVODNAYA,3DVOECHELNAYA KLYUCHEVAYA,",
   "3DVOECHELNOPOVODNAYA KLYUCHEVAYA,3GROMNAYA b ch ZAPYATAYA,3GROMOPOVODNAYA b ch ZAPYATAYA,",
   "3GROMNAYA,3GROMOPOVODNAYA,4b k ZAPYATAYA,3GROMOKRYZHEVAYA,4POVODNAYA,2MECHIK,3POVODNY,",
   "3KLYUCHEVOY,3KLYUCHEPOVODNY,3KLYUCHENEPOSTOYANNY,2STRELA TRYASOGLASNAYA,3TRYASOPOVODNAYA,",
   "3TRYASOSTRELNAYA,2OSOKA,3SVETLAYA,3TRESVETLAYA,3KRYUKOVAYA SVETLAYA,3KLYUCHEVAYA SVETLAYA,",
   "4NEPOSTOYANNAYA,2STRELA KRYUKOVAYA,4POVODNAYA,4GROMNAYA b ch ZAPYATAYA,",
   "4GROMOPOVODNAYA b ch ZAPYATAYA,4GROMNAYA,4GROMOPOVODNAYA,5b k ZAPYATAYA,4GROMOKRYZHEVAYA,",
   "5POVODNAYA,4TRYASKA,2KUFISMA,2OBLAKO,2DUDA,2NEMKA,2PAUK,"]

/-! The names of characters from U+1D000 to below U+1F000: music, mathematical letters and sign writing. -/

/-- These names, in the writing that `DepView.Text.Names` reads. -/
def scores : List String :=
  ["+1o,0BYZANTINE ni v cq,3DASEIA,3bu,3OXEIA EKFONITIKON,4DIPLI,3VAREIA EKFONITIKON,4DIPLI,",
   "3KATHISTI,3SYRMATIKI,3PARAKLITIKI,3YPOKRISIS,4DIPLI,3KREMASTI,3APESO EKFONITIKON,",
   "3EXO EKFONITIKON,3TELEIA,3KENTIMATA,3APOSTROFOS,4DIPLI,3SYNEVMA,3THITA,3OLIGON hv,3GORGON hv,",
   "3PSILON,3CHAMILON,3VATHY,3ISON hv,3KENTIMA hv,3KENTIMATA hv,3SAXIMATA,3PARICHON,",
   "3STAVROS APODEXIA,3OXEIAI hv,3VAREIAI hv,3APODERMA hv,3APOTHEMA,3KLASMA,3REVMA,3PIASMA hv,",
   "3TINAGMA,3ANATRICHISMA,3SEISMA,3SYNAGMA hv,4META STAVROU,3OYRANISMA hv,3THEMA,3LEMOI,3DYO,",
   "3TRIA,3TESSERA,3KRATIMATA,3APESO EXO ns,3FTHORA hv,3IMIFTHORA,3TROMIKON hv,3KATAVA TROMIKON,",
   "3PELASTON,3PSIFISTON,3KONTEVMA,3CHOREVMA hv,3RAPISMA,3PARAKALESMA hv,3PARAKLITIKI hv,",
   "3ICHADIN,3NANA,3PETASMA,3KONTEVMA ALLO,3TROMIKON ALLO,3STRAGGISMATA,3GRONTHISMATA,3ISON ns,",
   "3OLIGON ns,3OXEIA ns,3PETASTI,3KOUFISMA,3PETASTOKOUFISMA,3KRATIMOKOUFISMA,3PELASTON ns,",
   "3KENTIMATA ns ANO,3KENTIMA ns ANO,3YPSILI,3APOSTROFOS ns,3APOSTROFOI SYNDESMOS ns,3YPORROI,",
   "3KRATIMOYPORROON,3ELAFRON,3CHAMILI,3MIKRON ISON,3VAREIA ns,3PIASMA ns,3PSIFISTON ns,3OMALON,",
   "3ANTIKENOMA,3LYGISMA,3PARAKLITIKI ns,3PARAKALESMA ns,3ETERON PARAKALESMA,3KYLISMA,",
   "3ANTIKENOKYLISMA,3TROMIKON ns,3EKSTREPTON,3SYNAGMA ns,3SYRMA,3CHOREVMA ns,3EPEGERMA,",
   "3SEISMA ns,3XIRON KLASMA,3TROMIKOPSIFISTON,3PSIFISTOLYGISMA,3TROMIKOLYGISMA,",
   "3TROMIKOPARAKALESMA,3PSIFISTOPARAKALESMA,3TROMIKOSYNAGMA,3PSIFISTOSYNAGMA,3GORGOSYNTHETON,",
   "3ARGOSYNTHETON,3ETERON ARGOSYNTHETON,3OYRANISMA ns,3THEMATISMOS ESO,4EXO,3THEMA APLOUN,",
   "3THES KAI APOTHES,3KATAVASMA,3ENDOFONON,3YFEN KATO,4ANO,3STAVROS,3KLASMA ANO,3DIPLI hv,",
   "3KRATIMA hv,4ALLO,4ns,3APODERMA ns,3APLI,3DIPLI,3TRIPLI,3TETRAPLI,3KORONIS,",
   "3LEIMMA ENOS CHRONOU,4DYO CHRONON,4TRION CHRONON,4TESSARON CHRONON,4IMISEOS CHRONOU,",
   "3GORGON ns ANO,4PARESTIGMENON ARISTERA,5DEXIA,3DIGORGON,4PARESTIGMENON ARISTERA KATO,6ANO,",
   "5DEXIA,3TRIGORGON,3ARGON,3IMIDIARGON,3DIARGON,3AGOGI POLI ARGI,4ARGOTERI,4ARGI,4METRIA,4MESI,",
   "4GORGI,4GORGOTERI,4POLI GORGI,3MARTYRIA PROTOS ICHOS,4ALLI PROTOS ICHOS,4DEYTEROS ICHOS,",
   "4ALLI DEYTEROS ICHOS,4TRITOS ICHOS,4TRIFONIAS,4TETARTOS ICHOS,5LEGETOS ICHOS,4LEGETOS ICHOS,",
   "4PLAGIOS ICHOS,3ISAKIA TELOUS ICHIMATOS,3APOSTROFOI TELOUS ICHIMATOS,3FANEROSIS TETRAFONIAS,",
   "4MONOFONIAS,4DIFONIAS,3MARTYRIA VARYS ICHOS,4PROTOVARYS ICHOS,4PLAGIOS TETARTOS ICHOS,",
   "3GORTHMIKON N APLOUN,5DIPLOUN,3ENARXIS KAI FTHORA VOU,3IMIFONON,3IMIFTHORON,",
   "3FTHORA hv DEYTEROU ICHOU,4DIATONIKI PA,5NANA,4NAOS ICHOS,4DIATONIKI DI,4SKLIRON DIATONON DI,",
   "4DIATONIKI KE,5ZO,5NI KATO,6ANO,4MALAKON CHROMA DIFONIAS,6MONOFONIAS,",
   "3FHTORA SKLIRON CHROMA VASIS,3FTHORA SKLIRON CHROMA SYNAFI,4NENANO,3CHROA ZYGOS,4KLITON,",
   "4SPATHI,3FTHORA I YFESIS TETARTIMORION,4ENARMONIOS ANTIFONIA,3YFESIS TRITIMORION,",
   "3DIESIS TRITIMORION,4TETARTIMORION,4APLI DYO DODEKATA,4MONOGRAMMOS TESSERA DODEKATA,",
   "4DIGRAMMOS EX DODEKATA,4TRIGRAMMOS OKTO DODEKATA,3YFESIS APLI DYO DODEKATA,",
   "4MONOGRAMMOS TESSERA DODEKATA,4DIGRAMMOS EX DODEKATA,4TRIGRAMMOS OKTO DODEKATA,",
   "3GENIKI DIESIS,4YFESIS,3DIASTOLI APLI MIKRI,5MEGALI,4DIPLI,4THESEOS,3SIMANSIS THESEOS,",
   "5DISIMOU,5TRISIMOU,5TETRASIMOU,4ARSEOS,5DISIMOU,5TRISIMOU,5TETRASIMOU,3DIGRAMMA GG,",
   "3DIFTOGGOS OU,3STIGMA,3ARKTIKO PA,4VOU,4GA,4DI,4KE,4ZO,4NI,3KENTIMATA ns MESO,",
   "3KENTIMA ns MESO,3KENTIMATA ns KATO,3KENTIMA ns KATO,3KLASMA KATO,3GORGON ns KATO,+a,",
   "0ni v ch BARLINE,2k BARLINE,2p BARLINE,2id p BARLINE,2DASHED BARLINE,2ef BARLINE,2n REPEAT g,",
   "2h REPEAT g,2REPEAT bw,2DAL SEGNO,2DA CAPO,2SEGNO,2CODA,2REPEATED FIGURE-1,3FIGURE-2,",
   "3FIGURE-3,2FERMATA,3o,2BREATH x,2CAESURA,2BRACE,2af,2ONE-LINE STAFF,2TWO-LINE STAFF,",
   "2THREE-LINE STAFF,2FOUR-LINE STAFF,2FIVE-LINE STAFF,2SIX-LINE STAFF,2SIX-STRING FRETBOARD,",
   "2FOUR-STRING FRETBOARD,2G CLEF,4OTTAVA ALTA,5BASSA,2C CLEF,2F CLEF,4OTTAVA ALTA,5BASSA,",
   "2DRUM CLEF-1,3CLEF-2,+2,2ky MEASURE REST,2k SHARP,3FLAT,2FLAT UP,3be,2NATURAL UP,3be,",
   "2SHARP UP,3be,2ex dm SHARP,4FLAT,2COMMON TIME,2CUT TIME,2OTTAVA ALTA,3BASSA,",
   "2QUINDICESIMA ALTA,3BASSA,2MULTI REST,2WHOLE REST,2bd REST,2ex REST,2hg REST,2SIXTEENTH REST,",
   "2THIRTY-SECOND REST,2SIXTY-FOURTH REST,2ah ac TWENTY-EIGHTH REST,2X lo,2bb lo,2at X lo,",
   "2as lo y,4w,2an lo UP y,5w,4n y,5w,4h y,5w,4be y,5w,4UP h y,6w,2kx lo y,4w,",
   "2TRIANGLE-ROUND lo be y,5w,2by lo,2VOID lo,2lo w,2NULL lo,2CLUSTER lo y,4w,2du,2WHOLE nx,",
   "2bd nx,2ex nx,2hg nx,2SIXTEENTH nx,2THIRTY-SECOND nx,2SIXTY-FOURTH nx,",
   "2ah ac TWENTY-EIGHTH nx,2dd STEM,3SPRECHGESANG STEM,3TREMOLO-1,3TREMOLO-2,3TREMOLO-3,",
   "2FINGERED TREMOLO-1,3TREMOLO-2,3TREMOLO-3,2dd AUGMENTATION aj,3FLAG-1,3FLAG-2,3FLAG-3,",
   "3FLAG-4,3FLAG-5,2BEGIN BEAM,2mh BEAM,2BEGIN TIE,2mh TIE,2BEGIN SLUR,2mh SLUR,2BEGIN PHRASE,",
   "2mh PHRASE,2dd eu,3STACCATO,3TENUTO,3STACCATISSIMO,3MARCATO,3MARCATO-STACCATO,",
   "3ACCENT-STACCATO,3LOURE,2ARPEGGIATO UP,3be,2dd DOIT,3RIP,3FLIP,3SMEAR,3BEND,3k TONGUE,",
   "3dw TONGUE,2RINFORZANDO,2SUBITO,2Z,2PIANO,2MEZZO,2FORTE,2CRESCENDO,2DECRESCENDO,",
   "2GRACE nx SLASH,4NO SLASH,2TR,2TURN,2bm TURN,2TURN SLASH,3UP,2cg STROKE-1,3STROKE-2,",
   "3STROKE-3,3STROKE-4,3STROKE-5,3STROKE-6,3STROKE-7,3STROKE-8,3STROKE-9,3STROKE-10,3STROKE-11,",
   "2HAUPTSTIMME,2NEBENSTIMME,2mh OF STIMME,2DEGREE SLASH,2dd be BOW,3UP BOW,3HARMONIC,",
   "3SNAP PIZZICATO,2PEDAL x,3UP x,2bd PEDAL x,2GLISSANDO UP,3be,2b FINGERNAILS,2DAMP,3ALL,",
   "2MAXIMA,2LONGA,2BREVIS,2SEMIBREVIS y,3w,2MINIMA,3w,2SEMIMINIMA y,3w,2FUSA y,3w,",
   "2LONGA PERFECTA REST,3IMPERFECTA REST,2BREVIS REST,2SEMIBREVIS REST,2MINIMA REST,",
   "2SEMIMINIMA REST,2TEMPUS PERFECTUM CUM PROLATIONE PERFECTA,6IMPERFECTA,",
   "6PERFECTA DIMINUTION-1,3IMPERFECTUM CUM PROLATIONE PERFECTA,6IMPERFECTA,7DIMINUTION-1,",
   "7DIMINUTION-2,7DIMINUTION-3,2CROIX,2GREGORIAN C CLEF,3F CLEF,2as B,2VIRGA,2PODATUS,2CLIVIS,",
   "2SCANDICUS,2CLIMACUS,2TORCULUS,2PORRECTUS,3FLEXUS,2SCANDICUS FLEXUS,2TORCULUS RESUPINUS,",
   "2PES SUBPUNCTIS,2KIEVAN C CLEF,3mh OF PIECE,3p nx,3RECITATIVE x,3WHOLE nx,3bd nx,",
   "3ex nx STEM be,6UP,3hg nx STEM be,6UP,3FLAT g,2SORI,2KORON,+l,0jd VOCAL NOTATION SYMBOL-1,",
   "3SYMBOL-2,3SYMBOL-3,3SYMBOL-4,3SYMBOL-5,3SYMBOL-6,3SYMBOL-7,3SYMBOL-8,3SYMBOL-9,3SYMBOL-10,",
   "3SYMBOL-11,3SYMBOL-12,3SYMBOL-13,3SYMBOL-14,3SYMBOL-15,3SYMBOL-16,3SYMBOL-17,3SYMBOL-18,",
   "3SYMBOL-19,3SYMBOL-20,3SYMBOL-21,3SYMBOL-22,3SYMBOL-23,3SYMBOL-24,3SYMBOL-50,3SYMBOL-51,",
   "3SYMBOL-52,3SYMBOL-53,3SYMBOL-54,1INSTRUMENTAL NOTATION SYMBOL-1,3SYMBOL-2,3SYMBOL-4,",
   "3SYMBOL-5,3SYMBOL-7,3SYMBOL-8,3SYMBOL-11,3SYMBOL-12,3SYMBOL-13,3SYMBOL-14,3SYMBOL-17,",
   "3SYMBOL-18,3SYMBOL-19,3SYMBOL-23,3SYMBOL-24,3SYMBOL-25,3SYMBOL-26,3SYMBOL-27,3SYMBOL-29,",
   "3SYMBOL-30,3SYMBOL-32,3SYMBOL-36,3SYMBOL-37,3SYMBOL-38,3SYMBOL-39,3SYMBOL-40,3SYMBOL-42,",
   "3SYMBOL-43,3SYMBOL-45,3SYMBOL-47,3SYMBOL-48,3SYMBOL-49,3SYMBOL-50,3SYMBOL-51,3SYMBOL-52,",
   "3SYMBOL-53,3SYMBOL-54,0dd jd ni TRISEME,3TETRASEME,3PENTASEME,0jd ni LEIMMA,+4a,",
   "0MAYAN NUMERAL cz,2ah,2ad,2q,2ak,2ao,2ca,2av,2aq,2bi,2el,2ELEVEN,2nm,2THIRTEEN,2FOURTEEN,",
   "2FIFTEEN,2SIXTEEN,2SEVENTEEN,2EIGHTEEN,2NINETEEN,+c,0MONOGRAM jz EARTH,",
   "0DIGRAM jz HEAVENLY EARTH,2HUMAN EARTH,2EARTHLY HEAVEN,3HUMAN,2EARTH,0TETRAGRAM jz df,2fs at,",
   "2MIRED,2BARRIER,2KEEPING d,2CONTRARIETY,2ASCENT,2OPPOSITION,2BRANCHING OUT,",
   "2DEFECTIVENESS OR DISTORTION,2DIVERGENCE,2YOUTHFULNESS,2INCREASE,2PENETRATION,2REACH,",
   "2CONTACT,2HOLDING BACK,2WAITING,2FOLLOWING,2ADVANCE,2RELEASE,2RESISTANCE,2EASE,2JOY,",
   "2CONTENTION,2ENDEAVOUR,2DUTIES,2CHANGE,2DECISIVENESS,2jx RESOLUTION,2PACKING,2LEGION,",
   "2CLOSENESS,2KINSHIP,2GATHERING,2STRENGTH,2PURITY,2FULLNESS,2RESIDENCE,2LAW OR MODEL,",
   "2RESPONSE,2GOING TO MEET,2ENCOUNTERS,2STOVE,2GREATNESS,2ENLARGEMENT,2PATTERN,2RITUAL,2FLIGHT,",
   "2VASTNESS OR WASTING,2CONSTANCY,2MEASURE,2ETERNITY,2UNITY,2DIMINISHMENT,2fq ku,2GUARDEDNESS,",
   "2GATHERING IN,2MASSING,2ACCUMULATION,2EMBELLISHMENT,2DOUBT,2WATCH,2SINKING,2INNER,2DEPARTURE,",
   "2DARKENING,2DIMMING,2EXHAUSTION,2SEVERANCE,2STOPPAGE,2HARDNESS,2COMPLETION,2CLOSURE,2FAILURE,",
   "2AGGRAVATION,2COMPLIANCE,2ON kb VERGE,2DIFFICULTIES,2LABOURING,2FOSTERING,+9,",
   "0COUNTING ROD UNIT bp ah,4ad,4q,4ak,4ao,4ca,4av,4aq,4bi,2TENS bp ah,4ad,4q,4ak,4ao,4ca,4av,",
   "4aq,4bi,0hb TALLY x ah,3ad,3q,3ak,3ao,0TALLY x ah,2ao,+3r,0MATHEMATICAL jx c A,3B,3C,3D,3E,",
   "3F,3G,3H,3I,3J,3K,3L,3M,3N,3O,3P,3Q,3R,3S,3T,3U,3V,3W,3X,3Y,3Z,2d A,3B,3C,3D,3E,3F,3G,3H,3I,",
   "3J,3K,3L,3M,3N,3O,3P,3Q,3R,3S,3T,3U,3V,3W,3X,3Y,3Z,1ITALIC c A,3B,3C,3D,3E,3F,3G,3H,3I,3J,3K,",
   "3L,3M,3N,3O,3P,3Q,3R,3S,3T,3U,3V,3W,3X,3Y,3Z,2d A,3B,3C,3D,3E,3F,3G,+1,3I,3J,3K,3L,3M,3N,3O,",
   "3P,3Q,3R,3S,3T,3U,3V,3W,3X,3Y,3Z,1jx ITALIC c A,4B,4C,4D,4E,4F,4G,4H,4I,4J,4K,4L,4M,4N,4O,4P,",
   "4Q,4R,4S,4T,4U,4V,4W,4X,4Y,4Z,3d A,4B,4C,4D,4E,4F,4G,4H,4I,4J,4K,4L,4M,4N,4O,4P,4Q,4R,4S,4T,",
   "4U,4V,4W,4X,4Y,4Z,1ig c A,+1,3C,3D,+2,3G,+2,3J,3K,+2,3N,3O,3P,3Q,+1,3S,3T,3U,3V,3W,3X,3Y,3Z,",
   "2d A,3B,3C,3D,+1,3F,+1,3H,3I,3J,3K,3L,3M,3N,+1,3P,3Q,3R,3S,3T,3U,3V,3W,3X,3Y,3Z,1jx ig c A,",
   "4B,4C,4D,4E,4F,4G,4H,4I,4J,4K,4L,4M,4N,4O,4P,4Q,4R,4S,4T,4U,4V,4W,4X,4Y,4Z,3d A,4B,4C,4D,4E,",
   "4F,4G,4H,4I,4J,4K,4L,4M,4N,4O,4P,4Q,4R,4S,4T,4U,4V,4W,4X,4Y,4Z,1FRAKTUR c A,3B,+1,3D,3E,3F,",
   "3G,+2,3J,3K,3L,3M,3N,3O,3P,3Q,+1,3S,3T,3U,3V,3W,3X,3Y,+1,2d A,3B,3C,3D,3E,3F,3G,3H,3I,3J,3K,",
   "3L,3M,3N,3O,3P,3Q,3R,3S,3T,3U,3V,3W,3X,3Y,3Z,1ii c A,3B,+1,3D,3E,3F,3G,+1,3I,3J,3K,3L,3M,+1,",
   "3O,+3,3S,3T,3U,3V,3W,3X,3Y,+1,2d A,3B,3C,3D,3E,3F,3G,3H,3I,3J,3K,3L,3M,3N,3O,3P,3Q,3R,3S,3T,",
   "3U,3V,3W,3X,3Y,3Z,1jx FRAKTUR c A,4B,4C,4D,4E,4F,4G,4H,4I,4J,4K,4L,4M,4N,4O,4P,4Q,4R,4S,4T,",
   "4U,4V,4W,4X,4Y,4Z,3d A,4B,4C,4D,4E,4F,4G,4H,4I,4J,4K,4L,4M,4N,4O,4P,4Q,4R,4S,4T,4U,4V,4W,4X,",
   "4Y,4Z,1ez c A,3B,3C,3D,3E,3F,3G,3H,3I,3J,3K,3L,3M,3N,3O,3P,3Q,3R,3S,3T,3U,3V,3W,3X,3Y,3Z,",
   "2d A,3B,3C,3D,3E,3F,3G,3H,3I,3J,3K,3L,3M,3N,3O,3P,3Q,3R,3S,3T,3U,3V,3W,3X,3Y,3Z,2jx c A,4B,",
   "4C,4D,4E,4F,4G,4H,4I,4J,4K,4L,4M,4N,4O,4P,4Q,4R,4S,4T,4U,4V,4W,4X,4Y,4Z,3d A,4B,4C,4D,4E,4F,",
   "4G,4H,4I,4J,4K,4L,4M,4N,4O,4P,4Q,4R,4S,4T,4U,4V,4W,4X,4Y,4Z,2ITALIC c A,4B,4C,4D,4E,4F,4G,4H,",
   "4I,4J,4K,4L,4M,4N,4O,4P,4Q,4R,4S,4T,4U,4V,4W,4X,4Y,4Z,3d A,4B,4C,4D,4E,4F,4G,4H,4I,4J,4K,4L,",
   "4M,4N,4O,4P,4Q,4R,4S,4T,4U,4V,4W,4X,4Y,4Z,2jx ITALIC c A,5B,5C,5D,5E,5F,5G,5H,5I,5J,5K,5L,5M,",
   "5N,5O,5P,5Q,5R,5S,5T,5U,5V,5W,5X,5Y,5Z,4d A,5B,5C,5D,5E,5F,5G,5H,5I,5J,5K,5L,5M,5N,5O,5P,5Q,",
   "5R,5S,5T,5U,5V,5W,5X,5Y,5Z,1MONOSPACE c A,3B,3C,3D,3E,3F,3G,3H,3I,3J,3K,3L,3M,3N,3O,3P,3Q,3R,",
   "3S,3T,3U,3V,3W,3X,3Y,3Z,2d A,3B,3C,3D,3E,3F,3G,3H,3I,3J,3K,3L,3M,3N,3O,3P,3Q,3R,3S,3T,3U,3V,",
   "3W,3X,3Y,3Z,1ITALIC d lj I,4J,+2,1jx c gz,3BETA,3kh,3lg,3go,3ZETA,3ETA,3jf,3ji,3mk,3LAMDA,",
   "3MU,3NU,3XI,3jb,3PI,3nt,3jf v,3iv,3TAU,3ge,3PHI,3CHI,3PSI,3gl,2NABLA,2d gz,3BETA,3kh,3lg,3go,",
   "3ZETA,3ETA,3jf,3ji,3mk,3LAMDA,3MU,3NU,3XI,3jb,3PI,3nt,3p iv,3iv,3TAU,3ge,3PHI,3CHI,3PSI,3gl,",
   "2PARTIAL DIFFERENTIAL,2go v,2jf v,2mk v,2PHI v,2nt v,2PI v,1ITALIC c gz,3BETA,3kh,3lg,3go,",
   "3ZETA,3ETA,3jf,3ji,3mk,3LAMDA,3MU,3NU,3XI,3jb,3PI,3nt,3jf v,3iv,3TAU,3ge,3PHI,3CHI,3PSI,3gl,",
   "2NABLA,2d gz,3BETA,3kh,3lg,3go,3ZETA,3ETA,3jf,3ji,3mk,3LAMDA,3MU,3NU,3XI,3jb,3PI,3nt,3p iv,",
   "3iv,3TAU,3ge,3PHI,3CHI,3PSI,3gl,2PARTIAL DIFFERENTIAL,2go v,2jf v,2mk v,2PHI v,2nt v,2PI v,",
   "1jx ITALIC c gz,4BETA,4kh,4lg,4go,4ZETA,4ETA,4jf,4ji,4mk,4LAMDA,4MU,4NU,4XI,4jb,4PI,4nt,",
   "4jf v,4iv,4TAU,4ge,4PHI,4CHI,4PSI,4gl,3NABLA,3d gz,4BETA,4kh,4lg,4go,4ZETA,4ETA,4jf,4ji,4mk,",
   "4LAMDA,4MU,4NU,4XI,4jb,4PI,4nt,4p iv,4iv,4TAU,4ge,4PHI,4CHI,4PSI,4gl,3PARTIAL DIFFERENTIAL,",
   "3go v,3jf v,3mk v,3PHI v,3nt v,3PI v,1ez jx c gz,4BETA,4kh,4lg,4go,4ZETA,4ETA,4jf,4ji,4mk,",
   "4LAMDA,4MU,4NU,4XI,4jb,4PI,4nt,4jf v,4iv,4TAU,4ge,4PHI,4CHI,4PSI,4gl,3NABLA,3d gz,4BETA,4kh,",
   "4lg,4go,4ZETA,4ETA,4jf,4ji,4mk,4LAMDA,4MU,4NU,4XI,4jb,4PI,4nt,4p iv,4iv,4TAU,4ge,4PHI,4CHI,",
   "4PSI,4gl,3PARTIAL DIFFERENTIAL,3go v,3jf v,3mk v,3PHI v,3nt v,3PI v,3ITALIC c gz,5BETA,5kh,",
   "5lg,5go,5ZETA,5ETA,5jf,5ji,5mk,5LAMDA,5MU,5NU,5XI,5jb,5PI,5nt,5jf v,5iv,5TAU,5ge,5PHI,5CHI,",
   "5PSI,5gl,4NABLA,4d gz,5BETA,5kh,5lg,5go,5ZETA,5ETA,5jf,5ji,5mk,5LAMDA,5MU,5NU,5XI,5jb,5PI,",
   "5nt,5p iv,5iv,5TAU,5ge,5PHI,5CHI,5PSI,5gl,4PARTIAL DIFFERENTIAL,4go v,4jf v,4mk v,4PHI v,",
   "4nt v,4PI v,1jx c DIGAMMA,2d DIGAMMA,+2,2bp cz,3ah,3ad,3q,3ak,3ao,3ca,3av,3aq,3bi,1ii bp cz,",
   "3ah,3ad,3q,3ak,3ao,3ca,3av,3aq,3bi,1ez bp cz,3ah,3ad,3q,3ak,3ao,3ca,3av,3aq,3bi,2jx bp cz,",
   "4ah,4ad,4q,4ak,4ao,4ca,4av,4aq,4bi,1MONOSPACE bp cz,3ah,3ad,3q,3ak,3ao,3ca,3av,3aq,3bi,",
   "0SIGNWRITING eh bj,1gm bj,1HAND-CUP bj,1HAND-OVAL bj,1gr bj,1jl bj,1eh bj jk,1gm bj jk,",
   "1eh ck UNDER bj jk,2bj hn KNUCKLE,3CUPPED,3ln,4ds,1gm bj HINGE,1eh bj ab,1gm bj ab,",
   "1eh bj ab jk,4hn KNUCKLES,4ln,3UP ab ln,3ln ab UP,3ab hf,5bj jk,5ab jk,5CUPPED,5ln,4lx,",
   "1gm bj ab lx,1eh ab jk bz bj,2bj jk bz ab,3ab ck,1gm bj ab ck,1eh bj ab gj ck jk,4jk ck gj,",
   "4ck jk,4ln SPREAD ck lb,3UP ab ln ck lb,7hf,3ln ab UP ck lb,3ab UP SPREAD ck jt,4ck CUPPED,",
   "5ct,5HOOKED,5ln,2ck js bj ab gj,2bj ab hf ck lb,7hf,7jk,2ab ck HOOKED bj UP,",
   "2bj ck HOOKED ab UP,3ab hf ln ck lb,4lx ck lb,4hf ck jt,5CUPPED ck jt,2ab ck CUPPED bj UP,",
   "2bj ck CUPPED ab UP,2ab ck ct bj UP,6ln,2bj ck ANGLED OUT ab UP,5IN ab UP,4ct ab UP,",
   "3ab ck hf ln,5ANGLED OUT,6,2ab ck ANGLED OUT bj UP,7lx,5bj UP,2bj ck HOOKED ab ln,",
   "1HAND-FLAT ak gu,4jk,4ln,4hf,5SPLIT,1HAND-CLAW ak gu hf,1eh ak gu hf jk,1gr ak gu hf,",
   "1HAND-FLAT ao gu SPREAD,2HEEL ao gu SPREAD,2ao gu SPREAD ak jk,2HEEL ao gu SPREAD ak jk,",
   "2ao gu SPREAD jk,2HEEL ao gu SPREAD jk,2ao gu SPREAD ck jt,1HAND-CUP ao gu SPREAD,5dh,",
   "1gr ao gu SPREAD dh,1HAND-OVAL ao gu SPREAD,1HAND-FLAT ao gu SPREAD ln,6ck lb,6NO ck,2,",
   "2js PALM FACINGS,2HEEL,2ck lb,2HEEL ck lb,2ck jk,3jt,2SPLIT bj ck lb,3df,4ck lb,6jk,3dk,",
   "1HAND-CLAW,2ck lb,2NO ck,2ck jt,1HAND-HOOK CURLICUE,2,1HAND-CUP dh,2,2dh ck lb,2ck lb,",
   "2dh NO ck,2NO ck,2dh ck jt,2ck jt,1HAND-CURLICUE dh,2,1gm,1HAND-OVAL,2ck lb,2NO ck,2ck jt,",
   "1gr dh,3ck jt,2,2d,2dh ck lb,2ck lb,2dh NO ck,2NO ck,2ck lb TOUCHING bj,3js ab cj,1jl,",
   "1eh bj ab cj,1gm bj ab cj,1gr bj ab cj,1jl bj ab cj,1gr dk,1eh bj ab cj jk,5hf,",
   "1gr bj ab cj hf,1eh dk be,4RIPPLE gj,5CURVED,4OTHERS ct,3UP,2ck UNDER dk UP,1gm dk UP,",
   "1HAND-OVAL dk UP,1jl dk UP,1eh dk hn KNUCKLE,3jk,3TOUCHES ck,3ck,1gr dk ck,1eh dk bj ck,",
   "1gr dk bj ck,1jl dk bj ck bj ck OUT,7,1eh dk bj,1gm dk bj,1gr dk bj,1jl dk bj,1eh bj ab dk,",
   "1gm bj ab dk,1gr bj ab dk,2cj,1jl bj ab dk,1eh bj ab ey dk,1gm bj ab ey dk,1eh cj be,",
   "1gr cj be bj ck al ab,1jl cj be ab ck bj ey,1eh cj UP,3hn KNUCKLE,3dk,1gm cj dk,",
   "1HAND-OVAL cj dk,1jl cj dk,1eh cj ab,4hf,4hn KNUCKLES,3bj,3ck,1HAND-HOOK cj ck,1eh bj cj dk,",
   "1gm bj cj dk,1HAND-CURLICUE bj cj dk ON,1HAND-HOOK bj cj dk OUT,5IN,5UNDER,",
   "1HAND-CUP bj cj dk,1gr bj cj dk,1jl bj cj dk OUT,5,1eh ab be,1gr ab,1eh ab UP,1gm ab UP,",
   "1eh ab hn KNUCKLE,3UP ck lb,1HAND-HOOK ab ck,1eh ab ck dk,3dk,3cj dk,1gm ab cj dk,",
   "1HAND-CURLICUE ab cj dk ON,1HAND-CUP ab cj dk,1gr ab cj dk,1jl ab cj dk OUT,5IN,5,",
   "1gm ab cj dk jk,1HAND-CLAW ab cj dk hf,6lb,1HAND-HOOK ab cj dk hf OUT,6IN,6,1gr bj ln,",
   "1eh bj ck lb,1gr bj ck lb,1eh bj ck lb ck cy,6hf,6jk,5bj jk,5BOTH jk,5bj HINGE,4jt bj gj,6jk,",
   "4al,4CURLICUE,4mf ck ka,1HAND-CLAW bj ck mf ck ka,1eh bj ck mf ck UNDER,4at,1HAND-CUP bj ck,",
   "4dh,1gr bj ck dh,4da,4,4d,1jl bj ck OUT,4IN,4,1eh ck,3HEEL,3lb cy,4hf,4jk,3jt,3js bj ab,",
   "4ab cj,4cj dk,3UNDER ad gu,3bz ad gu,3UNDER q gu,4ak gu,3bz ak hn KNUCKLES,2,2HEEL,1TOUCH ch,",
   "2ky,2js,1GRASP ch,2ky,2js,1STRIKE ch,2ky,2js,1BRUSH ch,2ky,2js,1RUB ch,2ky,2js,",
   "1SURFACE SYMBOLS,2js,1SQUEEZE da ch,2d ch,2da ky,2d ky,2SEQUENTIAL,1FLICK da ch,2d ch,2da ky,",
   "2d ky,2SEQUENTIAL,1SQUEEZE FLICK ga,1MOVEMENT-HINGE UP be da,4d,3SEQUENTIAL,2be SEQUENTIAL,",
   "2UP be ga da,5d,2lb TO lb SCISSORS,1fl FINGER CONTACT,1fb FINGER CONTACT,1fl ch gj d,4bc,4da,",
   "4LARGEST,3WRIST FLEX,2k gj,3WRIST FLEX,3ga,4WRIST FLEX,2ey,2dw gj MOVEMENT,3WRIST FLEX,3ga,",
   "4WRIST FLEX,2BEND d,3bc,3da,2gi d,3bc,3da,3ROTATION,2CHECK d,3bc,3da,2nn d,3bc,3da,2ZIGZAG d,",
   "3bc,3da,2PEAKS d,3bc,3da,1TRAVEL-WALLPLANE mq ch,3k,3ga,2lr ch,3k,3ga,2SHAKING,",
   "2ARM SPIRAL ch,4k,4dw,1MOVEMENT-DIAGONAL AWAY d,3bc,3da,3LARGEST,2TOWARDS d,3bc,3da,3LARGEST,",
   "2js AWAY d,4bc,4da,4LARGEST,3TOWARDS d,4bc,4da,4LARGEST,1fb ch gj d,4bc,4da,4LARGEST,",
   "3WRIST FLEX,2k gj,3WRIST FLEX,3ga,4WRIST FLEX,2ey,2dw gj MOVEMENT,3WRIST FLEX,3ga MOVEMENT,",
   "4WRIST FLEX,2BEND,2gi d,3bc,3da,2CHECK,2nn d,3bc,3da,2ZIGZAG d,3bc,3da,2PEAKS d,3bc,3da,",
   "1TRAVEL-FLOORPLANE lr ch,3k,3ga,2mq ch,3k,3ga,2SHAKING,1fl mf ex d,4bc,4da,4LARGEST,",
   "3HALF-CIRCLE d,4bc,4da,4LARGEST,3THREE-QUARTER at d,5bc,2HUMP d,3bc,3da,2LOOP d,3bc,3da,3d k,",
   "2mw mf k d,5bc,5da,4dw d,5bc,5da,2mf THEN gj,2CURVED ey d,4bc,1mq ch,2k,2ft,1fl SHAKING,",
   "2mf fi FRONT WALL,2HUMP fi FRONT WALL,2LOOP fi FRONT WALL,2mw fi FRONT WALL,",
   "1mq ch fi FRONT WALL,2k fi FRONT WALL,2ga fi FRONT WALL,1fl mf fi CHEST,2HUMP fi CHEST,",
   "2LOOP fi CHEST,2mw fi CHEST,1mq ch fi CHEST,2k fi CHEST,2ga fi CHEST,1fl mw cy PATH d,5bc,",
   "5da,1fb mf fi CEILING d,5da,2HUMP fi CEILING d k,5da k,5d dw,5da dw,2LOOP fi CEILING d ch,",
   "5da ch,5d k,5da k,2mw fi CEILING d,5da,1lr ch fi CEILING,2k fi CEILING,2ga fi CEILING,",
   "1fb mf fi FLOOR d,5da,2HUMP fi FLOOR d k,5da k,5dw d dw,6da dw,2LOOP fi FLOOR d ch,5da ch,",
   "5d k,5da k,2mw fi FLOOR d,5da,1lr ch fi FLOOR,2k fi FLOOR,2ga fi FLOOR,1fb mf d,3bc,3da,",
   "3LARGEST,3COMBINED,2HUMP d,2LOOP d,2mw SNAKE,3d,3da,1lr ch,2k,2ga,1fb SHAKING PARALLEL,",
   "1fl ARM at d ch,4bc ch,4d k,4bc k,1fb ARM at fi WALL d ch,6bc ch,6da ch,6d k,6bc k,6da k,",
   "1fl WRIST at FRONT ch,5k,1fb WRIST at fi WALL ch,6k,1fl FINGER lw ch,4k,",
   "1fb FINGER lw fi WALL ch,6k,1DYNAMIC ay d,3da,2FAST,2SLOW,2TENSE,2RELAXED,2SIMULTANEOUS,3ga,",
   "2EVERY OTHER TIME,2GRADUAL,1HEAD,2RIM,2fl gj,3TILT,2fb gj,2fl mf,2fb mf,2MOVEMENT at,",
   "1bq DIRECTION POSITION NOSE jt TILTING,5UP OR be,8TILTING,1EYEBROWS gj UP,3hr,3be,",
   "1DREAMY EYEBROWS hr be,3be hr,3UP hr,3hr UP,1FOREHEAD hr,2CONTACT,2WRINKLED,1ng dh,2SQUEEZED,",
   "2fq,1EYE BLINK ch,3ky,1ng bd dh,2WIDE dh,2bd fq,2WIDENING MOVEMENT,1EYE WINK,1EYELASHES UP,",
   "2be,2FLUTTERING,1EYEGAZE-WALLPLANE gj,3k,3ga,1EYEGAZE-FLOORPLANE gj,3k,3ga,",
   "1EYEGAZE-WALLPLANE CURVED,1EYEGAZE-FLOORPLANE CURVED,1EYEGAZE-WALLPLANE CIRCLING,",
   "1CHEEKS PUFFED,2hr,2SUCKED,1TENSE CHEEKS dp,3ab,3ds,1EARS,1NOSE hr,2CONTACT,2WRINKLES,",
   "2WIGGLES,1AIR BLOWING OUT,2SUCKING IN,2BLOW d ROTATIONS,2SUCK d ROTATIONS,1BREATH INHALE,",
   "2EXHALE,1ku fq hr,3jt,3CONTACT,2SMILE,3WRINKLED,3dh,2FROWN,3WRINKLED,3dh,2dh at,3jt,",
   "3WRINKLED,3OVAL,4WRINKLED,4YAWN,3RECTANGLE,4WRINKLED,4YAWN,2KISS,3jt,3WRINKLED,2TENSE,3jt,",
   "3SUCKED,1LIPS PRESSED TOGETHER,1LIP br bz cf,2cf bz br,1ku CORNERS,2WRINKLES ch,3k,",
   "1TONGUE STICKING OUT FAR,2LICKING LIPS,2TIP js LIPS,3TOUCHING ka ku,2ka ku RELAXED,",
   "2MOVES AGAINST CHEEK,2df STICKING OUT,3ka ku,1TEETH,2MOVEMENT,2ON TONGUE,4MOVEMENT,3LIPS,",
   "4MOVEMENT,2BITE LIPS,1fl JAW,1fb JAW,1NECK,1HAIR,1EXCITEMENT,1SHOULDER HIP SPINE,3POSITIONS,",
   "1WALLPLANE SHOULDER HIP MOVE,1FLOORPLANE SHOULDER HIP MOVE,1SHOULDER TILTING jg WAIST,",
   "1TORSO-WALLPLANE gj STRETCH,2CURVED BEND,1TORSO-FLOORPLANE TWISTING,",
   "1cf BODY TILTING jg HIP JOINTS,1LIMB COMBINATION,2LENGTH-1,2LENGTH-2,2LENGTH-3,2LENGTH-4,",
   "2LENGTH-5,2LENGTH-6,2LENGTH-7,1FINGER,1LOCATION-WALLPLANE kl,1LOCATION-FLOORPLANE kl,",
   "1LOCATION HEIGHT,2WIDTH,2DEPTH,2HEAD NECK,2TORSO,2LIMBS DIGITS,1do,1fs dq,1kq,1hp,1by,+f,",
   "1FILL MODIFIER-2,2MODIFIER-3,2MODIFIER-4,2MODIFIER-5,2MODIFIER-6,+1,1ROTATION MODIFIER-2,",
   "2MODIFIER-3,2MODIFIER-4,2MODIFIER-5,2MODIFIER-6,2MODIFIER-7,2MODIFIER-8,2MODIFIER-9,",
   "2MODIFIER-10,2MODIFIER-11,2MODIFIER-12,2MODIFIER-13,2MODIFIER-14,2MODIFIER-15,2MODIFIER-16,",
   "+uo,0ed d a FENG gc b TRILL,3az ig G,1a d c bs G,1d a az K,1a d c L b BELT,1d a LEZH b cu al,",
   "3bs Y b BELT,3az ENG,3bs R b dl LEG l cu al,3T b al l cu al,1a cu CLICK b cu al,",
   "1d a ESH b k cc,7l ms,3bs T b ms,1a bm gd dq b ms,2STRETCHED C b ms,2d c bs K,",
   "1d a L b FISHHOOK,3DEZH gc b fx al,3L b BELT l fx al,3ENG b fx al,3bs R b fx al,",
   "3R b FISHHOOK l fx al,3TESH gc b fx al,3EZH b fx al,3DEZH gc b cu al,3I b u l cu al,",
   "3O b cu al,3TESH gc b cu al,3C b cu al,3S b ms,+69,0dd GLAGOLITIC a AZU,3BUKY,3VEDE,3GLAGOLI,",
   "3DOBRO,3YESTU,3ZHIVETE,+1,3ZEMLJA,3IZHE,3t IZHE,3I,3DJERVI,3KAKO,3LJUDIJE,3MYSLITE,3NASHI,",
   "3ONU,3POKOJI,3RITSI,3SLOVO,3TVRIDO,3UKU,3FRITU,3HERU,+2,3SHTA,3TSI,3CHRIVI,3ff,3YERU,3YERI,",
   "3YATI,+1,3YU,3d my,+1,3YO,3IOTATED d my,3BIG my,3IOTATED BIG my,3FITA,+5x,",
   "0NYIAKENG PUACHUE HMONG a MA,4mr,4NTA,4TA,4HA,4NA,4XA,4NKA,4CA,4LA,4SA,4ZA,4NCA,4NTSA,4KA,",
   "4DA,4gb,4NRA,4VA,4NTXA,4TXA,4FA,4RA,4QA,4YA,4NQA,4PA,4XYA,4NPA,4DLA,4NPLA,4dx,4MLA,4PLA,4GA,",
   "4RRA,4A,4AA,4I,4U,4O,4OO,4E,4EE,4W,+3,3TONE-B,3TONE-M,3TONE-J,3TONE-V,3TONE-S,3TONE-G,",
   "3TONE-D,3g jz lp,5THING,5LOCATION,5ANIMAL,5INVERTEBRATE,4XW XW,3iy LENGTHENER,+2,3bp cz,4ah,",
   "4ad,4q,4ak,4ao,4ca,4av,4aq,4bi,+4,3LOGOGRAM NYAJ,3ct CA,+8w,0TOTO a PA,2BA,2TA,2DA,2KA,2GA,",
   "2MA,2NA,2fe,2SA,2fy,2YA,2WA,2JA,2HA,2RA,2LA,2I,2BREATHY I,2IU,2BREATHY IU,2U,2E,2BREATHY E,",
   "2EO,2BREATHY EO,2O,2AE,2BREATHY AE,2A,1g RISING dm,+h,0WANCHO a AA,2A,2BA,2CA,2DA,2GA,2YA,",
   "2hc,2LA,2NA,2PA,2TA,2gn,2FA,2SA,2ff,2JA,2ZA,2WA,2VA,2KA,2O,2AU,2RA,2MA,2gg,2HA,2E,2I,2fe,2U,",
   "2LLHA,2mr,2TRA,2ONG,2AANG,2ANG,2ING,2ON,2EN,2AAN,2gb,2UEN,2YIH,1dm TUP,2TUPNI,2KOI,2KOINI,",
   "1bp cz,2ah,2ad,2q,2ak,2ao,2ca,2av,2aq,2bi,+5,1NGUN g,+yo,0ETHIOPIC iy HHYA,2HHYU,2HHYI,",
   "2HHYAA,2HHYEE,2HHYE,2HHYO,+1,2GURAGE HHWA,2HHWI,2HHWEE,2HHWE,+1,2GURAGE MWI,3MWEE,+1,3QWI,",
   "3QWEE,3QWE,3BWI,3BWEE,3KWI,3KWEE,3KWE,3GWI,3GWEE,3GWE,3FWI,3FWEE,3PWI,3PWEE,+1,",
   "0MENDE KIKAKUI iy M001 KI,3M002 KA,3M003 KU,3M065 KEE,3M095 KE,3M076 KOO,3M048 KO,3M179 KUA,",
   "3M004 WI,3M005 WA,3M006 WU,3M126 WEE,3M118 WE,3M114 WOO,3M045 WO,3M194 WUI,3M143 WEI,",
   "3M061 WVI,3M049 WVA,3M139 WVE,3M007 MIN,3M008 MAN,3M009 MUN,3M059 MEN,3M094 MON,3M154 MUAN,",
   "3M189 MUEN,3M010 BI,3M011 BA,3M012 BU,3M150 BEE,3M097 BE,3M103 BOO,3M138 BO,3M013 I,3M014 A,",
   "3M015 U,3M163 EE,3M100 E,3M165 OO,3M147 O,3M137 EI,3M131 IN,3M135 IN,3M195 AN,3M178 EN,",
   "3M019 SI,3M020 SA,3M021 SU,3M162 SEE,3M116 SE,3M136 SOO,3M079 SO,3M196 SIA,3M025 LI,3M026 LA,",
   "3M027 LU,3M084 LEE,3M073 LE,3M054 LOO,3M153 LO,3M110 dl LE,3M016 DI,3M017 DA,3M018 DU,",
   "3M089 DEE,3M180 DOO,3M181 DO,3M022 TI,3M023 TA,3M024 TU,3M091 TEE,3M055 TE,3M104 TOO,",
   "3M069 TO,3M028 JI,3M029 JA,3M030 JU,3M157 JEE,3M113 JE,3M160 JOO,3M063 JO,3M175 dl JO,",
   "3M031 YI,3M032 YA,3M033 YU,3M109 YEE,3M080 YE,3M141 YOO,3M121 YO,3M034 FI,3M035 FA,3M036 FU,",
   "3M078 FEE,3M075 FE,3M133 FOO,3M088 FO,3M197 FUA,3M101 FAN,3M037 NIN,3M038 NAN,3M039 il,",
   "3M117 NEN,3M169 NON,3M176 HI,3M041 HA,3M186 HU,3M040 HEE,3M096 HE,3M042 HOO,3M140 HO,",
   "3M083 HEEI,3M128 HOOU,3M053 HIN,3M130 HAN,3M087 HUN,3M052 HEN,3M193 HON,3M046 HUAN,",
   "3M090 NGGI,3M043 NGGA,3M082 NGGU,3M115 NGGEE,3M146 NGGE,3M156 NGGOO,3M120 NGGO,3M159 NGGAA,",
   "3M127 NGGUA,3M086 dl NGGE,3M106 dl NGGOO,3M183 dl NGGO,3M155 GI,3M111 GA,3M168 GU,3M190 GEE,",
   "3M166 GUEI,3M167 GUAN,3M184 NGEN,3M057 NGON,3M177 NGUAN,3M068 PI,3M099 PA,3M050 PU,3M081 PEE,",
   "3M051 PE,3M102 POO,3M066 PO,3M145 MBI,3M062 MBA,3M122 MBU,3M047 MBEE,3M188 MBEE,3M072 MBE,",
   "3M172 MBOO,3M174 MBO,3M187 MBUU,3M161 dl MBE,3M105 dl MBOO,3M142 dl MBO,3M132 KPI,3M092 KPA,",
   "3M074 KPU,3M044 KPEE,3M108 KPE,3M112 KPOO,3M158 KPO,3M124 GBI,3M056 GBA,3M148 GBU,3M093 GBEE,",
   "3M107 GBE,3M071 GBOO,3M070 GBO,3M171 RA,3M123 NDI,3M129 NDA,3M125 NDU,3M191 NDEE,3M119 NDE,",
   "3M067 NDOO,3M064 NDO,3M152 NJA,3M192 NJU,3M149 NJEE,3M134 NJOO,3M182 VI,3M185 VA,3M151 VU,",
   "3M173 VEE,3M085 VE,3M144 VOO,3M077 VO,3M164 NYIN,3M058 NYAN,3M170 NYUN,3M098 NYEN,3M060 NYON,",
   "+2,2bp ah,3ad,3q,3ak,3ao,3ca,3av,3aq,3bi,2dd cs TEENS,4TENS,4HUNDREDS,4THOUSANDS,",
   "4el THOUSANDS,4ac THOUSANDS,4MILLIONS,+15,0ADLAM c a ALIF,3DAALI,3LAAM,3MIIM,3BA,3SINNYIIYHE,",
   "3PE,3BHE,3RA,3E,3FA,3I,3O,3if,3YHE,3kc,3il,3mj,3YA,3U,3JIIM,3CHI,3HA,3QAAF,3GA,3gb,3TU,3NHA,",
   "3VA,3gg,3GBE,3ZAL,3KPO,3ff,1d a ALIF,3DAALI,3LAAM,3MIIM,3BA,3SINNYIIYHE,3PE,3BHE,3RA,3E,3FA,",
   "3I,3O,3if,3YHE,3kc,3il,3mj,3YA,3U,3JIIM,3CHI,3HA,3QAAF,3GA,3gb,3TU,3NHA,3VA,3gg,3GBE,3ZAL,",
   "3KPO,3ff,1ALIF LENGTHENER,1bl LENGTHENER,1GEMINATION x,1gq,1fu eq,1GEMINATE fu eq,1je,",
   "1NASALIZATION x,+4,1bp cz,2ah,2ad,2q,2ak,2ao,2ca,2av,2aq,2bi,+4,1t dt x,2ew x,+lt,",
   "0INDIC SIYAQ cs ah,3ad,3q,3ak,3ao,3ca,3av,3aq,3bi,3el,3em,3it,3mi,3ha,3nc,3es,3mg,3fc,3ah ac,",
   "3ad ac,3q ac,3ak ac,3ao ac,3ca ac,3av ac,3aq ac,3bi ac,3ah ae,3ad ae,3q ae,3ak ae,3ao ae,",
   "3ca ae,3av ae,3aq ae,3bi ae,3el ae,3em ae,3it ae,3mi ae,3ha ae,3nc ae,3es ae,3mg ae,3fc ae,",
   "3LAKH,3LAKHAN,2LAKH x,2cs KAROR,3KARORAN,3PREFIXED ah,4ad,4q,4ak,4ao,4ca,4av,4aq,4bi,",
   "2PLACEHOLDER,2hw ah ex,4bd,3q jo,2RUPEE x,2cs ft ah,4ad,4el ae,2ft LAKH x,+24,",
   "0OTTOMAN SIYAQ cs ah,3ad,3q,3ak,3ao,3ca,3av,3aq,3bi,3el,3em,3it,3mi,3ha,3nc,3es,3mg,3fc,",
   "3ah ac,3ad ac,3q ac,3ak ac,3ao ac,3ca ac,3av ac,3aq ac,3bi ac,3ah ae,3ad ae,3q ae,3ak ae,",
   "3ao ae,3ca ae,3av ae,3aq ae,3bi ae,3el ae,3em ae,3it ae,3mi ae,3ha ae,3nc ae,3es ae,3mg ae,",
   "3fc ae,2MARRATAN,2ft cs ad,4q,4ak,4ao,4ca,4av,4aq,4bi,4el,4ak ac,4ca ac,4ad ae,4el ae,",
   "2hw ah bd,4SIXTH,+5e,0jy MATHEMATICAL ce,2BEH,2dj,2DAL,+1,2kc,2ZAIN,2dx,2nl,2db,2mj,2kg,2ba,",
   "2hm,2kp,2lh,2FEH,2SAD,2QAF,2lu,2ls,2TEH,2THEH,2fk,2THAL,2DAD,2ZAH,2na,2lj BEH,3hm,3FEH,3QAF,",
   "+1,2t BEH,3dj,+1,3mx,+2,3dx,+1,3db,3mj,3kg,3ba,3hm,3kp,3lh,3FEH,3SAD,3QAF,+1,3ls,3TEH,3THEH,",
   "3fk,+1,3DAD,+1,3na,+6,2TAILED dj,+4,3dx,+1,3db,+1,3kg,+1,3hm,3kp,3lh,+1,3SAD,3QAF,+1,3ls,+2,",
   "3fk,+1,3DAD,+1,3na,+1,3lj hm,+1,4QAF,+1,2STRETCHED BEH,3dj,+1,3mx,+2,3dx,3nl,3db,3mj,+1,3ba,",
   "3hm,3kp,3lh,3FEH,3SAD,3QAF,+1,3ls,3TEH,3THEH,3fk,+1,3DAD,3ZAH,3na,3lj BEH,+1,4FEH,+1,",
   "2LOOPED ce,3BEH,3dj,3DAL,3mx,3kc,3ZAIN,3dx,3nl,3db,+1,3kg,3ba,3hm,3kp,3lh,3FEH,3SAD,3QAF,3lu,",
   "3ls,3TEH,3THEH,3fk,3THAL,3DAD,3ZAH,3na,+5,2ii BEH,3dj,3DAL,+1,3kc,3ZAIN,3dx,3nl,3db,+1,3kg,",
   "3ba,3hm,3kp,3lh,3FEH,3SAD,3QAF,3lu,3ls,3TEH,3THEH,3fk,3THAL,3DAD,3ZAH,3na,+1g,",
   "2dc ba b dx b TATWEEL,3dx b DAL,"]

/-! The names of characters from U+1F000 on: pictures, and the marks that are not seen. -/

/-- These names, in the writing that `DepView.Text.Names` reads. -/
def pictures : List String :=
  ["+7i,0MAHJONG TILE eg WIND,2fo WIND,2fn WIND,2er WIND,2RED DRAGON,2GREEN DRAGON,2y DRAGON,",
   "2ah OF me,2ad OF me,2q OF me,2ak OF me,2ao OF me,2ca OF me,2av OF me,2aq OF me,2bi OF me,",
   "2ah OF BAMBOOS,2ad OF BAMBOOS,2q OF BAMBOOS,2ak OF BAMBOOS,2ao OF BAMBOOS,2ca OF BAMBOOS,",
   "2av OF BAMBOOS,2aq OF BAMBOOS,2bi OF BAMBOOS,2ah OF lw,2ad OF lw,2q OF lw,2ak OF lw,",
   "2ao OF lw,2ca OF lw,2av OF lw,2aq OF lw,2bi OF lw,2PLUM,2ORCHID,2BAMBOO,2CHRYSANTHEMUM,",
   "2SPRING,2SUMMER,2AUTUMN,2WINTER,2JOKER,2BACK,+4,0DOMINO TILE aa BACK,2HORIZONTAL-00-00,",
   "2HORIZONTAL-00-01,2HORIZONTAL-00-02,2HORIZONTAL-00-03,2HORIZONTAL-00-04,2HORIZONTAL-00-05,",
   "2HORIZONTAL-00-06,2HORIZONTAL-01-00,2HORIZONTAL-01-01,2HORIZONTAL-01-02,2HORIZONTAL-01-03,",
   "2HORIZONTAL-01-04,2HORIZONTAL-01-05,2HORIZONTAL-01-06,2HORIZONTAL-02-00,2HORIZONTAL-02-01,",
   "2HORIZONTAL-02-02,2HORIZONTAL-02-03,2HORIZONTAL-02-04,2HORIZONTAL-02-05,2HORIZONTAL-02-06,",
   "2HORIZONTAL-03-00,2HORIZONTAL-03-01,2HORIZONTAL-03-02,2HORIZONTAL-03-03,2HORIZONTAL-03-04,",
   "2HORIZONTAL-03-05,2HORIZONTAL-03-06,2HORIZONTAL-04-00,2HORIZONTAL-04-01,2HORIZONTAL-04-02,",
   "2HORIZONTAL-04-03,2HORIZONTAL-04-04,2HORIZONTAL-04-05,2HORIZONTAL-04-06,2HORIZONTAL-05-00,",
   "2HORIZONTAL-05-01,2HORIZONTAL-05-02,2HORIZONTAL-05-03,2HORIZONTAL-05-04,2HORIZONTAL-05-05,",
   "2HORIZONTAL-05-06,2HORIZONTAL-06-00,2HORIZONTAL-06-01,2HORIZONTAL-06-02,2HORIZONTAL-06-03,",
   "2HORIZONTAL-06-04,2HORIZONTAL-06-05,2HORIZONTAL-06-06,2r BACK,2VERTICAL-00-00,",
   "2VERTICAL-00-01,2VERTICAL-00-02,2VERTICAL-00-03,2VERTICAL-00-04,2VERTICAL-00-05,",
   "2VERTICAL-00-06,2VERTICAL-01-00,2VERTICAL-01-01,2VERTICAL-01-02,2VERTICAL-01-03,",
   "2VERTICAL-01-04,2VERTICAL-01-05,2VERTICAL-01-06,2VERTICAL-02-00,2VERTICAL-02-01,",
   "2VERTICAL-02-02,2VERTICAL-02-03,2VERTICAL-02-04,2VERTICAL-02-05,2VERTICAL-02-06,",
   "2VERTICAL-03-00,2VERTICAL-03-01,2VERTICAL-03-02,2VERTICAL-03-03,2VERTICAL-03-04,",
   "2VERTICAL-03-05,2VERTICAL-03-06,2VERTICAL-04-00,2VERTICAL-04-01,2VERTICAL-04-02,",
   "2VERTICAL-04-03,2VERTICAL-04-04,2VERTICAL-04-05,2VERTICAL-04-06,2VERTICAL-05-00,",
   "2VERTICAL-05-01,2VERTICAL-05-02,2VERTICAL-05-03,2VERTICAL-05-04,2VERTICAL-05-05,",
   "2VERTICAL-05-06,2VERTICAL-06-00,2VERTICAL-06-01,2VERTICAL-06-02,2VERTICAL-06-03,",
   "2VERTICAL-06-04,2VERTICAL-06-05,2VERTICAL-06-06,+c,0PLAYING CARD BACK,2ACE OF nk,2ad OF nk,",
   "2q OF nk,2ak OF nk,2ao OF nk,2ca OF nk,2av OF nk,2aq OF nk,2bi OF nk,2el OF nk,2JACK OF nk,",
   "2gv OF nk,2QUEEN OF nk,2KING OF nk,+2,2ACE OF ld,2ad OF ld,2q OF ld,2ak OF ld,2ao OF ld,",
   "2ca OF ld,2av OF ld,2aq OF ld,2bi OF ld,2el OF ld,2JACK OF ld,2gv OF ld,2QUEEN OF ld,",
   "2KING OF ld,2RED JOKER,+1,2ACE OF ke,2ad OF ke,2q OF ke,2ak OF ke,2ao OF ke,2ca OF ke,",
   "2av OF ke,2aq OF ke,2bi OF ke,2el OF ke,2JACK OF ke,2gv OF ke,2QUEEN OF ke,2KING OF ke,",
   "2w JOKER,+1,2ACE OF CLUBS,2ad OF CLUBS,2q OF CLUBS,2ak OF CLUBS,2ao OF CLUBS,2ca OF CLUBS,",
   "2av OF CLUBS,2aq OF CLUBS,2bi OF CLUBS,2el OF CLUBS,2JACK OF CLUBS,2gv OF CLUBS,",
   "2QUEEN OF CLUBS,2KING OF CLUBS,2y JOKER,2FOOL,2TRUMP-1,2TRUMP-2,2TRUMP-3,2TRUMP-4,2TRUMP-5,",
   "2TRUMP-6,2TRUMP-7,2TRUMP-8,2TRUMP-9,2TRUMP-10,2TRUMP-11,2TRUMP-12,2TRUMP-13,2TRUMP-14,",
   "2TRUMP-15,2TRUMP-16,2TRUMP-17,2TRUMP-18,2TRUMP-19,2TRUMP-20,2TRUMP-21,+a,0bp cz fs dq,2do,",
   "1ah do,1ad do,1q do,1ak do,1ao do,1ca do,1av do,1aq do,1bi do,0DINGBAT ct ez bp cz,",
   "1jm ct ez bp cz,0ct cz b SLASH,1ev f,1DOLLAR g b OVERLAID BACKSLASH,0PARENTHESIZED ed c a A,",
   "4B,4C,4D,4E,4F,4G,4H,4I,4J,4K,4L,4M,4N,4O,4P,4Q,4R,4S,4T,4U,4V,4W,4X,4Y,4Z,",
   "0ih jp BRACKETED ed c a S,0ct ITALIC ed c a C,5R,1CD,1WZ,0COPYLEFT v,0ep ed c a A,4B,4C,4D,",
   "4E,4F,4G,4H,4I,4J,4K,4L,4M,4N,4O,4P,4Q,4R,4S,4T,4U,4V,4W,4X,4Y,4Z,1HV,1MV,1SD,1SS,1PPV,1WC,",
   "0jm ct ed c a A,5B,5C,5D,5E,5F,5G,5H,5I,5J,5K,5L,5M,5N,5O,5P,5Q,5R,5S,5T,5U,5V,5W,5X,5Y,5Z,",
   "0hn MC g,1MD g,1MR g,0ct CC,1C b OVERLAID BACKSLASH,1HUMAN FIGURE,0jm ep ed c a A,5B,5C,5D,",
   "5E,5F,5G,5H,5I,5J,5K,5L,5M,5N,5O,5P,5Q,5R,5S,5T,5U,5V,5W,5X,5Y,5Z,0lx jm ep ed c a P,",
   "0jm ep IC,2PA,2SA,2AB,2WC,0as DJ,0ep CL,1COOL,1FREE,1ID,1NEW,1NG,1OK,1SOS,1UP b dt x,1VS,",
   "1q D,1SECOND SCREEN,1ad K,1ak K,1aq K,1ao POINT ah,1av POINT ah,1TWENTY-TWO POINT ad,1nc P,",
   "1ah ac em P,1ed d a D,1HC,1HDR,1HI-RES,1LOSSLESS,1SHV,1UHD,1VOD,0MASK WORK v,+1k,",
   "0REGIONAL INDICATOR v a A,4B,4C,4D,4E,4F,4G,4H,4I,4J,4K,4L,4M,4N,4O,4P,4Q,4R,4S,4T,4U,4V,4W,",
   "4X,4Y,4Z,0as HIRAGANA HOKA,0ep mu KOKO,2SA,+d,1CJK UNIFIED IDEOGRAPH-624B,3IDEOGRAPH-5B57,",
   "3IDEOGRAPH-53CC,1mu DE,1CJK UNIFIED IDEOGRAPH-4E8C,3IDEOGRAPH-591A,3IDEOGRAPH-89E3,",
   "3IDEOGRAPH-5929,3IDEOGRAPH-4EA4,3IDEOGRAPH-6620,3IDEOGRAPH-7121,3IDEOGRAPH-6599,",
   "3IDEOGRAPH-524D,3IDEOGRAPH-5F8C,3IDEOGRAPH-518D,3IDEOGRAPH-65B0,3IDEOGRAPH-521D,",
   "3IDEOGRAPH-7D42,3IDEOGRAPH-751F,3IDEOGRAPH-8CA9,3IDEOGRAPH-58F0,3IDEOGRAPH-5439,",
   "3IDEOGRAPH-6F14,3IDEOGRAPH-6295,3IDEOGRAPH-6355,3IDEOGRAPH-4E00,3IDEOGRAPH-4E09,",
   "3IDEOGRAPH-904A,3IDEOGRAPH-5DE6,3IDEOGRAPH-4E2D,3IDEOGRAPH-53F3,3IDEOGRAPH-6307,",
   "3IDEOGRAPH-8D70,3IDEOGRAPH-6253,3IDEOGRAPH-7981,3IDEOGRAPH-7A7A,3IDEOGRAPH-5408,",
   "3IDEOGRAPH-6E80,3IDEOGRAPH-6709,3IDEOGRAPH-6708,3IDEOGRAPH-7533,3IDEOGRAPH-5272,",
   "3IDEOGRAPH-55B6,3IDEOGRAPH-914D,+4,0ih jp BRACKETED CJK UNIFIED IDEOGRAPH-672C,",
   "5IDEOGRAPH-4E09,5IDEOGRAPH-4E8C,5IDEOGRAPH-5B89,5IDEOGRAPH-70B9,5IDEOGRAPH-6253,",
   "5IDEOGRAPH-76D7,5IDEOGRAPH-52DD,5IDEOGRAPH-6557,+7,0ct IDEOGRAPH ADVANTAGE,2ACCEPT,+e,",
   "0ROUNDED v jz FU,3LU,3SHOU,3XI,3SHUANGXI,3CAI,+4a,0CYCLONE,0FOGGY,0fq UMBRELLA,",
   "0NIGHT b STARS,0SUNRISE bz MOUNTAINS,1,0CITYSCAPE AT DUSK,0SUNSET bz BUILDINGS,0RAINBOW,",
   "0BRIDGE AT NIGHT,0WATER mw,0VOLCANO,0MILKY WAY,0EARTH GLOBE EUROPE-AFRICA,2AMERICAS,",
   "2ASIA-AUSTRALIA,0GLOBE b MERIDIANS,0NEW kx v,0WAXING CRESCENT kx v,0FIRST ex kx v,",
   "0WAXING GIBBOUS kx v,0fs kx v,0WANING GIBBOUS kx v,0LAST ex kx v,0WANING CRESCENT kx v,",
   "0CRESCENT kx,0NEW kx b bq,0FIRST ex kx b bq,0LAST ex kx b bq,0fs kx b bq,0SUN b bq,",
   "0GLOWING et,0SHOOTING et,0THERMOMETER,0w DROPLET,0y SUN,2b d CLOUD,2BEHIND CLOUD,4b RAIN,",
   "0CLOUD b RAIN,2SNOW,2LIGHTNING,2TORNADO,0FOG,0WIND BLOWING bq,0HOT DOG,0TACO,0BURRITO,",
   "0CHESTNUT,0SEEDLING,0EVERGREEN TREE,0DECIDUOUS TREE,0PALM TREE,0CACTUS,0HOT PEPPER,0TULIP,",
   "0CHERRY BLOSSOM,0ROSE,0HIBISCUS,0SUNFLOWER,0BLOSSOM,0EAR OF MAIZE,2RICE,0HERB,0ak mv CLOVER,",
   "0MAPLE mv,0FALLEN mv,0mv FLUTTERING IN WIND,0MUSHROOM,0TOMATO,0AUBERGINE,0GRAPES,0MELON,",
   "0WATERMELON,0TANGERINE,0LEMON,0BANANA,0PINEAPPLE,0RED APPLE,0GREEN APPLE,0PEAR,0PEACH,",
   "0CHERRIES,0STRAWBERRY,0HAMBURGER,0SLICE OF PIZZA,0MEAT ON BONE,0POULTRY LEG,0RICE CRACKER,",
   "1BALL,0COOKED RICE,0CURRY l RICE,0STEAMING BOWL,0SPAGHETTI,0BREAD,0FRENCH FRIES,",
   "0ROASTED SWEET POTATO,0DANGO,0ODEN,0SUSHI,0FRIED SHRIMP,0FISH CAKE b SWIRL DESIGN,",
   "0SOFT ICE CREAM,0SHAVED ICE,0ICE CREAM,0DOUGHNUT,0COOKIE,0CHOCOLATE cc,0CANDY,0LOLLIPOP,",
   "0CUSTARD,0HONEY POT,0SHORTCAKE,0BENTO nn,0POT OF FOOD,0COOKING,0FORK l KNIFE,",
   "0TEACUP WITHOUT HANDLE,0SAKE BOTTLE l CUP,0WINE GLASS,0COCKTAIL GLASS,0TROPICAL DRINK,",
   "0BEER MUG,0CLINKING BEER MUGS,0BABY BOTTLE,0FORK l KNIFE b PLATE,0BOTTLE b POPPING CORK,",
   "0POPCORN,0RIBBON,0WRAPPED PRESENT,0BIRTHDAY CAKE,0JACK-O-LANTERN,0CHRISTMAS TREE,",
   "0FATHER CHRISTMAS,0FIREWORKS,0FIREWORK SPARKLER,0BALLOON,0PARTY POPPER,0CONFETTI BALL,",
   "0TANABATA TREE,0lx FLAGS,0PINE DECORATION,0JAPANESE DOLLS,0CARP STREAMER,0WIND CHIME,",
   "0kx VIEWING CEREMONY,0SCHOOL SATCHEL,0GRADUATION CAP,0ie b TIP ON kb n,0BOUQUET OF FLOWERS,",
   "0MILITARY MEDAL,0REMINDER RIBBON,0ni KEYBOARD b JACKS,0STUDIO MICROPHONE,0LEVEL SLIDER,",
   "0CONTROL KNOBS,0BEAMED ASCENDING ni NOTES,1DESCENDING ni NOTES,0FILM FRAMES,",
   "0ADMISSION TICKETS,0CAROUSEL HORSE,0FERRIS WHEEL,0ROLLER COASTER,0FISHING POLE l FISH,",
   "0MICROPHONE,0MOVIE CAMERA,0CINEMA,0HEADPHONE,0ARTIST PALETTE,0jc HAT,0CIRCUS TENT,0TICKET,",
   "0CLAPPER BOARD,0PERFORMING ARTS,0VIDEO GAME,0DIRECT HIT,0SLOT MACHINE,0BILLIARDS,0GAME DIE,",
   "0BOWLING,0FLOWER PLAYING CARDS,0ni nx,0ky ni NOTES,0SAXOPHONE,0GUITAR,0ni KEYBOARD,0TRUMPET,",
   "0VIOLIN,0ni SCORE,0RUNNING SHIRT b SASH,0TENNIS RACQUET l BALL,0SKI l SKI BOOT,",
   "0BASKETBALL l HOOP,0CHEQUERED FLAG,0SNOWBOARDER,0RUNNER,0SURFER,0SPORTS MEDAL,0TROPHY,",
   "0HORSE RACING,0AMERICAN FOOTBALL,0RUGBY FOOTBALL,0SWIMMER,0WEIGHT LIFTER,0GOLFER,",
   "0RACING MOTORCYCLE,1CAR,0CRICKET BAT l BALL,0VOLLEYBALL,0FIELD HOCKEY STICK l BALL,",
   "0ICE HOCKEY STICK l PUCK,0TABLE TENNIS PADDLE l BALL,0SNOW CAPPED MOUNTAIN,0CAMPING,",
   "0BEACH b UMBRELLA,0BUILDING CONSTRUCTION,0HOUSE BUILDINGS,0CITYSCAPE,",
   "0DERELICT HOUSE BUILDING,0CLASSICAL BUILDING,0DESERT,1ISLAND,0NATIONAL PARK,0STADIUM,",
   "0HOUSE BUILDING,1b GARDEN,0OFFICE BUILDING,0JAPANESE POST OFFICE,0EUROPEAN POST OFFICE,",
   "0HOSPITAL,0BANK,0AUTOMATED TELLER MACHINE,0HOTEL,0LOVE HOTEL,0CONVENIENCE STORE,0SCHOOL,",
   "0DEPARTMENT STORE,0FACTORY,0IZAKAYA LANTERN,0JAPANESE CASTLE,0EUROPEAN CASTLE,0y PENNANT,",
   "0w PENNANT,0WAVING y FLAG,1w FLAG,0ROSETTE,0w ROSETTE,0LABEL,",
   "0BADMINTON RACQUET l SHUTTLECOCK,0BOW l f,0AMPHORA,0EMOJI eq FITZPATRICK TYPE-1-2,3TYPE-3,",
   "3TYPE-4,3TYPE-5,3TYPE-6,0RAT,0MOUSE,0OX,0WATER BUFFALO,0COW,0TIGER,0LEOPARD,0RABBIT,0CAT,",
   "0DRAGON,0CROCODILE,0WHALE,0SNAIL,0SNAKE,0HORSE,0RAM,0GOAT,0SHEEP,0MONKEY,0ROOSTER,0CHICKEN,",
   "0DOG,0PIG,0BOAR,0ELEPHANT,0OCTOPUS,0SPIRAL jp,0BUG,0ANT,0HONEYBEE,0LADY BEETLE,0FISH,",
   "0TROPICAL FISH,0BLOWFISH,0TURTLE,0HATCHING CHICK,0BABY CHICK,0FRONT-FACING BABY CHICK,0BIRD,",
   "0PENGUIN,0KOALA,0POODLE,0DROMEDARY CAMEL,0BACTRIAN CAMEL,0DOLPHIN,0MOUSE bq,0COW bq,",
   "0TIGER bq,0RABBIT bq,0CAT bq,0DRAGON bq,0SPOUTING WHALE,0HORSE bq,0MONKEY bq,0DOG bq,0PIG bq,",
   "0FROG bq,0HAMSTER bq,0WOLF bq,0BEAR bq,0PANDA bq,0PIG NOSE,0PAW PRINTS,0CHIPMUNK,0ng,0EYE,",
   "0EAR,0NOSE,0ku,0TONGUE,0y UP bn BACKHAND bj,1be bn BACKHAND bj,1n bn BACKHAND bj,",
   "1h bn BACKHAND bj,0FISTED jh g,0WAVING jh g,0OK jh g,0THUMBS UP g,1be g,0CLAPPING HANDS g,",
   "0dh HANDS g,0CROWN,0WOMANS HAT,0EYEGLASSES,0NECKTIE,0T-SHIRT,0JEANS,0DRESS,0KIMONO,0BIKINI,",
   "0WOMANS CLOTHES,0PURSE,0HANDBAG,0POUCH,0MANS SHOE,0ATHLETIC SHOE,0HIGH-HEELED SHOE,",
   "0WOMANS SANDAL,1BOOTS,0FOOTPRINTS,0BUST IN SILHOUETTE,0BUSTS IN SILHOUETTE,0BOY,0GIRL,0MAN,",
   "0WOMAN,0FAMILY,0MAN l WOMAN HOLDING HANDS,0ad MEN HOLDING HANDS,1WOMEN HOLDING HANDS,",
   "0POLICE OFFICER,0WOMAN b BUNNY EARS,0BRIDE b VEIL,0lp b BLOND HAIR,0MAN b GUA PI MAO,2TURBAN,",
   "0OLDER MAN,1WOMAN,0BABY,0CONSTRUCTION WORKER,0PRINCESS,0JAPANESE OGRE,1GOBLIN,0GHOST,",
   "0BABY ANGEL,0EXTRATERRESTRIAL ALIEN,0ALIEN MONSTER,0IMP,0SKULL,0INFORMATION DESK lp,",
   "0GUARDSMAN,0DANCER,0LIPSTICK,0NAIL POLISH,0bq MASSAGE,0HAIRCUT,0BARBER POLE,0SYRINGE,0PILL,",
   "0KISS x,0LOVE a,0cj,0GEM STONE,0KISS,0BOUQUET,0COUPLE b ie,0WEDDING,0BEATING ie,0BROKEN ie,",
   "0ad ld,0SPARKLING ie,0GROWING ie,0ie b f,0BLUE ie,0GREEN ie,0YELLOW ie,0PURPLE ie,",
   "0ie b RIBBON,0REVOLVING ld,0ie DECORATION,0dv SHAPE b A aj ka,0ELECTRIC bk BULB,0ANGER v,",
   "0BOMB,0SLEEPING v,0COLLISION v,0SPLASHING SWEAT v,0DROPLET,0hd v,0PILE OF POO,0FLEXED BICEPS,",
   "0DIZZY v,0SPEECH BALLOON,0THOUGHT BALLOON,0y FLOWER,0ac POINTS v,0MONEY BAG,",
   "0CURRENCY EXCHANGE,0ai DOLLAR g,0CREDIT CARD,0BANKNOTE b YEN g,2DOLLAR g,2EURO g,2POUND g,",
   "0MONEY b WINGS,0CHART b ax TREND l YEN g,0SEAT,0PERSONAL COMPUTER,0BRIEFCASE,0MINIDISC,",
   "0FLOPPY DISK,0OPTICAL DISC,0DVD,0FILE FOLDER,0dh FILE FOLDER,0PAGE b ms,1FACING UP,0CALENDAR,",
   "0TEAR-OFF CALENDAR,0CARD bj,0CHART b ax TREND,2ag TREND,0cc CHART,0CLIPBOARD,0PUSHPIN,",
   "0ROUND PUSHPIN,0PAPERCLIP,0gj RULER,0fh RULER,0BOOKMARK TABS,0LEDGER,0NOTEBOOK,",
   "1b DECORATIVE COVER,0fq BOOK,0dh BOOK,0GREEN BOOK,0BLUE BOOK,0ORANGE BOOK,0BOOKS,0NAME BADGE,",
   "0SCROLL,0MEMO,0ks RECEIVER,0PAGER,0FAX MACHINE,0SATELLITE ANTENNA,",
   "0PUBLIC ADDRESS LOUDSPEAKER,0CHEERING MEGAPHONE,0OUTBOX TRAY,0INBOX TRAY,0PACKAGE,0E-MAIL v,",
   "0INCOMING ENVELOPE,0ENVELOPE b ag f i,0fq MAILBOX b LOWERED FLAG,3hn FLAG,",
   "0dh MAILBOX b hn FLAG,3LOWERED FLAG,0POSTBOX,0POSTAL in,0NEWSPAPER,0MOBILE PHONE,2b m f AT n,",
   "0VIBRATION MODE,0MOBILE PHONE OFF,0NO MOBILE PHONES,0ANTENNA b BARS,0CAMERA,1b FLASH,",
   "0VIDEO CAMERA,0TELEVISION,0RADIO,0VIDEOCASSETTE,0FILM PROJECTOR,0PORTABLE STEREO,",
   "0PRAYER BEADS,0TWISTED m lm,0jv m l s dh at lm,7b ct ah hi,1ag l ax dh at lm,",
   "0ev ag l ax dh at lm,0ds BRIGHTNESS v,0dp BRIGHTNESS v,0SPEAKER b CANCELLATION u,1,",
   "1b ah nd mw,2q nd WAVES,0BATTERY,0ELECTRIC PLUG,0ee MAGNIFYING GLASS,0di MAGNIFYING GLASS,",
   "0LOCK b INK PEN,0fq LOCK b KEY,0KEY,0LOCK,0dh LOCK,0BELL,1b CANCELLATION u,0BOOKMARK,0LINK v,",
   "0RADIO BUTTON,0BACK b s f i,0mh b s f i,0ON b dt x b n h f i,0SOON b m f i,0jc b ax f i,",
   "0NO ah UNDER EIGHTEEN v,0KEYCAP el,0INPUT v jz ed c LETTERS,4d LETTERS,3NUMBERS,3SYMBOLS,",
   "3ed LETTERS,0FIRE,0ELECTRIC TORCH,0WRENCH,0HAMMER,0NUT l BOLT,0HOCHO,0PISTOL,0MICROSCOPE,",
   "0TELESCOPE,0CRYSTAL BALL,0ca eo et b ab aj,0JAPANESE v jz BEGINNER,0TRIDENT EMBLEM,",
   "0w as BUTTON,0y as BUTTON,0da RED at,1BLUE at,1ORANGE dv,1BLUE dv,0d ORANGE dv,1BLUE dv,",
   "0ht RED an,0hl RED an,0ht d RED an,0hl d RED an,0br h la y at,0cf h la y at,0ct ey POMMEE,",
   "0ey POMMEE b HALF-CIRCLE o,2,0NOTCHED n SEMICIRCLE b q bw,1h SEMICIRCLE b q bw,",
   "0v jz MARKS CHAPTER,0y ed ey,0ai ed ey,0CELTIC ey,0OM v,0DOVE OF PEACE,0KAABA,0MOSQUE,",
   "0SYNAGOGUE,0MENORAH b bi BRANCHES,0BOWL OF HYGIEIA,0CLOCK bq ah OCLOCK,2ad OCLOCK,2q OCLOCK,",
   "2ak OCLOCK,2ao OCLOCK,2ca OCLOCK,2av OCLOCK,2aq OCLOCK,2bi OCLOCK,2el OCLOCK,2ELEVEN OCLOCK,",
   "2nm OCLOCK,2ONE-THIRTY,2TWO-THIRTY,2THREE-THIRTY,2FOUR-THIRTY,2FIVE-THIRTY,2SIX-THIRTY,",
   "2SEVEN-THIRTY,2EIGHT-THIRTY,2NINE-THIRTY,2TEN-THIRTY,2ELEVEN-THIRTY,2TWELVE-THIRTY,",
   "0h SPEAKER,2b ah nd mw,3q nd WAVES,0BULLHORN,1b nd WAVES,0RINGING BELL,0BOOK,0CANDLE,",
   "0MANTELPIECE CLOCK,0w SKULL l CROSSBONES,0NO PIRACY,0HOLE,0MAN IN BUSINESS SUIT LEVITATING,",
   "0SLEUTH OR SPY,0DARK SUNGLASSES,0SPIDER,1WEB,0JOYSTICK,0MAN DANCING,0n jh ks RECEIVER,",
   "0ks RECEIVER b PAGE,0h jh ks RECEIVER,0y TOUCHTONE ks,0w TOUCHTONE ks,0ks ON jc OF MODEM,",
   "0CLAMSHELL MOBILE PHONE,0BACK OF ENVELOPE,0STAMPED ENVELOPE,0ENVELOPE b LIGHTNING,",
   "0FLYING ENVELOPE,0PEN bz STAMPED ENVELOPE,0LINKED PAPERCLIPS,0w PUSHPIN,0br n PENCIL,",
   "2BALLPOINT PEN,2FOUNTAIN PEN,2PAINTBRUSH,2CRAYON,0n WRITING jh,0bs OK jh g,",
   "0hn jh b gu SPLAYED,0az hn jh b gu SPLAYED,1THUMBS UP g,2be g,1VICTORY jh,",
   "1jh b ab FINGER EXTENDED,0hn jh b PART js ab l cj gu,0y be bn n jh bj,0SIDEWAYS y n bn bj,",
   "2h bn bj,1w n bn bj,2h bn bj,0w n bn BACKHAND bj,1h bn BACKHAND bj,0SIDEWAYS y UP bn bj,",
   "2be bn bj,1w UP bn bj,2be bn bj,0w UP bn BACKHAND bj,1be bn BACKHAND bj,1ie,",
   "0DESKTOP COMPUTER,0KEYBOARD l MOUSE,0q NETWORKED COMPUTERS,0PRINTER,0POCKET CALCULATOR,",
   "0w HARD jp FLOPPY DISK,0y HARD jp FLOPPY DISK,0SOFT jp FLOPPY DISK,0TAPE CARTRIDGE,",
   "0WIRED KEYBOARD,0ah BUTTON MOUSE,0ad BUTTON MOUSE,0q BUTTON MOUSE,0TRACKBALL,",
   "0hh PERSONAL COMPUTER,0HARD DISK,0SCREEN,0PRINTER ICON,0FAX ICON,0OPTICAL DISC ICON,",
   "0DOCUMENT b TEXT,3l PICTURE,2PICTURE,0FRAME b PICTURE,2TILES,2AN X,0w FOLDER,0FOLDER,",
   "0dh FOLDER,0CARD bj DIVIDERS,1FILE nn,0FILE CABINET,0EMPTY nx,2PAGE,2PAD,0nx,1PAGE,1PAD,",
   "0EMPTY DOCUMENT,1PAGE,1PAGES,0DOCUMENT,0PAGE,0PAGES,0WASTEBASKET,0SPIRAL nx PAD,",
   "1CALENDAR PAD,0DESKTOP WINDOW,0MINIMIZE,0MAXIMIZE,0OVERLAP,0jv h l n SEMICIRCLE lm,",
   "0CANCELLATION X,0INCREASE FONT SIZE v,0DECREASE FONT SIZE v,0COMPRESSION,0hh KEY,",
   "0ROLLED-UP NEWSPAPER,0PAGE b ct TEXT,0STOCK CHART,0DAGGER KNIFE,0LIPS,",
   "0SPEAKING HEAD IN SILHOUETTE,0q RAYS i,2o,2n,2h,0n SPEECH BUBBLE,0h SPEECH BUBBLE,",
   "0ad SPEECH BUBBLES,0q SPEECH BUBBLES,0n THOUGHT BUBBLE,0h THOUGHT BUBBLE,0n ANGER BUBBLE,",
   "0h ANGER BUBBLE,0MOOD BUBBLE,0LIGHTNING MOOD BUBBLE,2,0BALLOT nn b BALLOT,1ig X,1nn b ig X,",
   "1jx ig X,1nn b jx ig X,0bk CHECK x,0BALLOT nn b jx CHECK,0WORLD MAP,0MOUNT FUJI,0TOKYO TOWER,",
   "0STATUE OF LIBERTY,0SILHOUETTE OF JAPAN,0MOYAI,0GRINNING bq,2b ju ng,0bq b TEARS OF JOY,",
   "0ju bq b dh ku,5l ju ng,6COLD SWEAT,6TIGHTLY-CLOSED ng,3HALO,3HORNS,0WINKING bq,",
   "0ju bq b ju ng,0bq SAVOURING DELICIOUS FOOD,0RELIEVED bq,0ju bq b HEART-SHAPED ng,",
   "3SUNGLASSES,0SMIRKING bq,0hr bq,0EXPRESSIONLESS bq,0UNAMUSED bq,0bq b COLD SWEAT,0PENSIVE bq,",
   "0CONFUSED bq,0CONFOUNDED bq,0KISSING bq,0bq THROWING A KISS,0KISSING bq b ju ng,3fq ng,",
   "0bq b STUCK-OUT TONGUE,4l WINKING EYE,5TIGHTLY-CLOSED ng,0DISAPPOINTED bq,0WORRIED bq,",
   "0ANGRY bq,0POUTING bq,0CRYING bq,0PERSEVERING bq,0bq b LOOK OF TRIUMPH,",
   "0DISAPPOINTED BUT RELIEVED bq,0FROWNING bq b dh ku,0ANGUISHED bq,0FEARFUL bq,0WEARY bq,",
   "0SLEEPY bq,0TIRED bq,0GRIMACING bq,0LOUDLY CRYING bq,0bq b dh ku,0HUSHED bq,",
   "0bq b dh ku l COLD SWEAT,1SCREAMING IN FEAR,0ASTONISHED bq,0FLUSHED bq,0SLEEPING bq,",
   "0DIZZY bq,0bq WITHOUT ku,1b MEDICAL MASK,0GRINNING CAT bq b ju ng,0CAT bq b TEARS OF JOY,",
   "0ju CAT bq b dh ku,4HEART-SHAPED ng,0CAT bq b WRY SMILE,0KISSING CAT bq b fq ng,",
   "0POUTING CAT bq,0CRYING CAT bq,0WEARY CAT bq,0SLIGHTLY FROWNING bq,1ju bq,0UPSIDE-DOWN bq,",
   "0bq b ROLLING ng,2NO GOOD GESTURE,2OK GESTURE,0lp BOWING DEEPLY,0SEE-NO-EVIL MONKEY,",
   "0HEAR-NO-EVIL MONKEY,0SPEAK-NO-EVIL MONKEY,0HAPPY lp RAISING ah jh,",
   "0lp RAISING BOTH HANDS IN CELEBRATION,1FROWNING,1b POUTING bq,2FOLDED HANDS,0er fn bn mv,",
   "0fo fn bn mv,0er eg bn mv,0fo eg bn mv,0bs er fn bn mv,1fo fn bn mv,1er eg bn mv,",
   "1fo eg bn mv,0er fn bn VINE mv,0fo fn bn VINE mv,0er eg bn VINE mv,0fo eg bn VINE mv,",
   "0ai er fn bn VINE mv,1fo fn bn VINE mv,1er eg bn VINE mv,1fo eg bn VINE mv,0er fn bn BUD,",
   "0fo fn bn BUD,0er eg bn BUD,0fo eg bn BUD,0ai er fn bn BUD,1fo fn bn BUD,1er eg bn BUD,",
   "1fo eg bn BUD,0HOLLOW QUILT as cg,4IN w as,0SOLID QUILT as cg,4IN w as,0s ROCKET,0ax ROCKET,",
   "0m ROCKET,0ag ROCKET,0ig eb ET cg,0ai ig eb ET cg,0eb dh ET cg,0ai eb dh ET cg,1AMPERSAND cg,",
   "0SWASH AMPERSAND cg,0ez ai k bs do dy x cg,3do dy x cg,2ds k do dy x cg,0ai INTERROBANG cg,",
   "0ez INTERROBANG cg,0ai ez INTERROBANG cg,0kf ai gx,2id gx,0CHECKER BOARD,0id CHECKER BOARD,",
   "0ROCKET,0HELICOPTER,0STEAM LOCOMOTIVE,0RAILWAY CAR,0HIGH-SPEED TRAIN,2b nf NOSE,0TRAIN,",
   "0METRO,0bk RAIL,0STATION,0TRAM,1CAR,0BUS,0ONCOMING BUS,0TROLLEYBUS,0BUS dq,0MINIBUS,",
   "0AMBULANCE,0FIRE ENGINE,0POLICE CAR,0ONCOMING POLICE CAR,0TAXI,0ONCOMING TAXI,0AUTOMOBILE,",
   "0ONCOMING AUTOMOBILE,0RECREATIONAL VEHICLE,0DELIVERY TRUCK,0ARTICULATED LORRY,0TRACTOR,",
   "0MONORAIL,0MOUNTAIN RAILWAY,0SUSPENSION RAILWAY,0MOUNTAIN CABLEWAY,0AERIAL TRAMWAY,0SHIP,",
   "0ROWBOAT,0SPEEDBOAT,0aa TRAFFIC bk,0r TRAFFIC bk,0CONSTRUCTION g,0POLICE CARS REVOLVING bk,",
   "0fh FLAG ON POST,0DOOR,0NO ENTRY g,0SMOKING v,0NO SMOKING v,0PUT LITTER IN ITS PLACE v,",
   "0DO gs LITTER v,0POTABLE WATER v,0NON-POTABLE WATER v,0BICYCLE,0NO BICYCLES,0BICYCLIST,",
   "0MOUNTAIN BICYCLIST,0PEDESTRIAN,0NO PEDESTRIANS,0CHILDREN ej,0MENS v,0WOMENS v,0RESTROOM,",
   "0BABY v,0TOILET,0WATER CLOSET,0SHOWER,0BATH,0BATHTUB,0PASSPORT CONTROL,0CUSTOMS,",
   "0BAGGAGE CLAIM,0n LUGGAGE,0an b ROUNDED CORNERS,0PROHIBITED g,0ct INFORMATION SOURCE,0BOYS v,",
   "0GIRLS v,0COUCH l LAMP,0SLEEPING ACCOMMODATION,0SHOPPING BAGS,0BELLHOP BELL,0BED,",
   "0PLACE OF WORSHIP,0OCTAGONAL g,0SHOPPING TROLLEY,0STUPA,0PAGODA,0HINDU TEMPLE,0HUT,0ELEVATOR,",
   "+5,0PLAYGROUND SLIDE,0WHEEL,0cj BUOY,0HAMMER l WRENCH,0SHIELD,0OIL DRUM,0MOTORWAY,",
   "0RAILWAY TRACK,0MOTOR BOAT,0ht MILITARY AIRPLANE,1AIRPLANE,1d AIRPLANE,0d AIRPLANE,",
   "0NORTHEAST-POINTING AIRPLANE,0AIRPLANE DEPARTURE,1ARRIVING,+3,0SATELLITE,",
   "0ONCOMING FIRE ENGINE,0DIESEL LOCOMOTIVE,0PASSENGER SHIP,0SCOOTER,0MOTOR SCOOTER,0CANOE,",
   "0SLED,0FLYING SAUCER,0SKATEBOARD,0AUTO RICKSHAW,0PICKUP TRUCK,0ROLLER SKATE,+3,",
   "0ALCHEMICAL v jz QUINTESSENCE,3AIR,3FIRE,3EARTH,3WATER,3AQUAFORTIS,3AQUA REGIA,4REGIA-2,",
   "4VITAE,4VITAE-2,3VINEGAR,3VINEGAR-2,3VINEGAR-3,3SULFUR,3PHILOSOPHERS SULFUR,3w SULFUR,",
   "3MERCURY SUBLIMATE,4SUBLIMATE-2,4SUBLIMATE-3,3CINNABAR,3SALT,3NITRE,3VITRIOL,3VITRIOL-2,",
   "3ROCK SALT,4SALT-2,3GOLD,3SILVER,3IRON ORE,4ORE-2,3CROCUS OF IRON,3REGULUS OF IRON,",
   "3COPPER ORE,3IRON-COPPER ORE,3SUBLIMATE OF COPPER,3CROCUS OF COPPER,5COPPER-2,",
   "3COPPER ANTIMONIATE,3SALT OF COPPER ANTIMONIATE,3SUBLIMATE OF SALT OF COPPER,3VERDIGRIS,",
   "3TIN ORE,3LEAD ORE,3ANTIMONY ORE,3SUBLIMATE OF ANTIMONY,3SALT OF ANTIMONY,",
   "3SUBLIMATE OF SALT OF ANTIMONY,3VINEGAR OF ANTIMONY,3REGULUS OF ANTIMONY,5ANTIMONY-2,4,",
   "3REGULUS-2,3REGULUS-3,3REGULUS-4,3ALKALI,3ALKALI-2,3MARCASITE,3SAL-AMMONIAC,3ARSENIC,",
   "3REALGAR,3REALGAR-2,3AURIPIGMENT,3BISMUTH ORE,3TARTAR,3TARTAR-2,3QUICK LIME,3BORAX,3BORAX-2,",
   "3BORAX-3,3ALUM,3OIL,3SPIRIT,3TINCTURE,3GUM,3WAX,3POWDER,3CALX,3TUTTY,3CAPUT MORTUUM,",
   "3SCEPTER OF JOVE,3CADUCEUS,3TRIDENT,3STARRED TRIDENT,3LODESTONE,3SOAP,3URINE,3HORSE DUNG,",
   "3ASHES,3POT ASHES,3BRICK,3POWDERED BRICK,3AMALGAM,3STRATUM SUPER STRATUM,5STRATUM-2,",
   "3SUBLIMATION,3PRECIPITATE,3DISTILL,3DISSOLVE,3DISSOLVE-2,3PURIFY,3PUTREFACTION,3CRUCIBLE,",
   "3CRUCIBLE-2,3CRUCIBLE-3,3CRUCIBLE-4,3CRUCIBLE-5,3ALEMBIC,3BATH OF MARY,5VAPOURS,3RETORT,",
   "3HOUR,3NIGHT,3DAY-NIGHT,3MONTH,3bd DRAM,4OUNCE,+c,0w ee ISOSCELES h an,1ht ISOSCELES h an,",
   "1di ISOSCELES h an,1hl ISOSCELES h an,1SLIGHTLY d at,0bc jx y at,0jx y at,0ai y at,",
   "0kf ai y at,0EXTREMELY ai y at,0y at CONTAINING w d at,0ROUND TARGET,0w TINY as,",
   "1SLIGHTLY d as,0bk y as,0bc y as,0jx y as,0ai y as,0kf ai y as,0EXTREMELY ai y as,",
   "0y as CONTAINING w kf d as,4bc as,0as TARGET,0w TINY dv,1kf d dv,1bc d dv,",
   "0y dv CONTAINING w kf d dv,4bc dv,0dv TARGET,0w TINY lz,1kf d lz,1bc d lz,",
   "0y lz CONTAINING w d lz,0THIN jd ey,0bk jd ey,0bc jd ey,0jx jd ey,0kf jx jd ey,1ai jd ey,",
   "0EXTREMELY ai jd ey,0THIN SALTIRE,0bk SALTIRE,0bc SALTIRE,0jx SALTIRE,0ai SALTIRE,",
   "0kf ai SALTIRE,0EXTREMELY ai SALTIRE,0bk ao kr cw,0bc ao kr cw,0jx ao kr cw,0ai ao kr cw,",
   "0kf ai ao kr cw,0EXTREMELY ai ao kr cw,0bk ca kr cw,0bc ca kr cw,0jx ca kr cw,0ai ca kr cw,",
   "0kf ai ca kr cw,0EXTREMELY ai ca kr cw,0bk aq kr cw,0bc aq kr cw,0jx aq kr cw,0ai aq kr cw,",
   "0kf ai aq kr cw,0bk q eo w et,0bc q eo w et,0q eo w et,0bc q eo PINWHEEL et,0bk ak eo w et,",
   "0bc ak eo w et,0ak eo w et,0bc ak eo PINWHEEL et,0id bk ak eo PINWHEEL et,0bk ao eo w et,",
   "0ai ao eo w et,0bc ca eo w et,0ai ca eo w et,0ca eo PINWHEEL et,0bc aq eo w et,",
   "0ai aq eo w et,0kf ai aq eo w et,0ai aq eo PINWHEEL et,0bk nm eo w et,0ai nm eo w et,",
   "3PINWHEEL et,0ct an,0jm ct an,0ct as,0jm ct as,+7,0da ORANGE at,1YELLOW at,1GREEN at,",
   "1PURPLE at,1BROWN at,1RED as,1BLUE as,1ORANGE as,1YELLOW as,1GREEN as,1PURPLE as,1BROWN as,",
   "+4,0ai fr g,+f,0s f b d an ay,0ax f b d an ay,0m f b d an ay,0ag f b d an ay,0s f b bc an ay,",
   "0ax f b bc an ay,0m f b bc an ay,0ag f b bc an ay,0s f b da an ay,0ax f b da an ay,",
   "0m f b da an ay,0ag f b da an ay,+4,0s f b d ea ay,0ax f b d ea ay,0m f b d ea ay,",
   "0ag f b d ea ay,0s f b ea ay,0ax f b ea ay,0m f b ea ay,0ag f b ea ay,0ai s f b ea ay,",
   "1ax f b ea ay,1m f b ea ay,1ag f b ea ay,1s f b da ea ay,1ax f b da ea ay,1m f b da ea ay,",
   "1ag f b da ea ay,0s z f b NARROW kj,0ax z f b NARROW kj,0m z f b NARROW kj,",
   "0ag z f b NARROW kj,0s z f b bc kj,0ax z f b bc kj,0m z f b bc kj,0ag z f b bc kj,",
   "0s z f b jx kj,0ax z f b jx kj,0m z f b jx kj,0ag z f b jx kj,0s z f b ai kj,0ax z f b ai kj,",
   "0m z f b ai kj,0ag z f b ai kj,0s z f b kf ai kj,0ax z f b kf ai kj,0m z f b kf ai kj,",
   "0ag z f b kf ai kj,0s FINGER-POST f,0ax FINGER-POST f,0m FINGER-POST f,0ag FINGER-POST f,",
   "0s ep f,0ax ep f,0m ep f,0ag ep f,0s nu f,0ax nu f,0m nu f,0ag nu f,0s ai nu f,0ax ai nu f,",
   "0m ai nu f,0ag ai nu f,0s ai f,0ax ai f,0m ai f,0ag ai f,+8,0s ez f,0ax ez f,0m ez f,",
   "0ag ez f,0er fn ez f,1eg ez f,0fo eg ez f,1fn ez f,0n h ez f,0UP be ez f,+6,",
   "0WIDE-HEADED s bk cr f,1ax bk cr f,1m bk cr f,1ag bk cr f,1er fn bk cr f,2eg bk cr f,",
   "1fo eg bk cr f,2fn bk cr f,1s cr f,1ax cr f,1m cr f,1ag cr f,1er fn cr f,2eg cr f,",
   "1fo eg cr f,2fn cr f,1s bc cr f,1ax bc cr f,1m bc cr f,1ag bc cr f,1er fn bc cr f,",
   "2eg bc cr f,1fo eg bc cr f,2fn bc cr f,1s ai cr f,1ax ai cr f,1m ai cr f,1ag ai cr f,",
   "1er fn ai cr f,2eg ai cr f,1fo eg ai cr f,2fn ai cr f,1s kf ai cr f,1ax kf ai cr f,",
   "1m kf ai cr f,1ag kf ai cr f,1er fn kf ai cr f,2eg kf ai cr f,1fo eg kf ai cr f,",
   "2fn kf ai cr f,+8,0s an ay,0ax an ay,0m an ay,0ag an ay,0s y f WITHIN an ay,",
   "0ax y f WITHIN an ay,0m y f WITHIN an ay,0ag y f WITHIN an ay,0s f b NOTCHED fg,",
   "0ax f b NOTCHED fg,0m f b NOTCHED fg,0ag f b NOTCHED fg,0ai f kj WIDTH ah,4ad THIRDS,4ah bd,",
   "5THIRD,0s BOTTOM-SHADED y f,0m gh SHADED y f,0s jc SHADED y f,0m jc SHADED y f,",
   "0s LEFT-SHADED y f,0m RIGHT-SHADED y f,0s RIGHT-SHADED y f,0m LEFT-SHADED y f,",
   "0s BACK-TILTED la y f,0m BACK-TILTED la y f,0s FRONT-TILTED la y f,0m FRONT-TILTED la y f,",
   "0y f kj WIDTH ah,4ad THIRDS,+2,0f bn ax THEN er fn,2m THEN CURVING fo fn,+26,",
   "0ct ey FORMEE b ak bw,4ad bw,3,0n bd at b ak bw,4q bw,4ad bw,4aj,3,0DOWNWARD FACING al,",
   "2NOTCHED al,2al b aj,2NOTCHED al b aj,0PINCHED gu,0y ie,0BROWN ie,0PINCHING jh,",
   "0ZIPPER-MOUTH bq,0MONEY-MOUTH bq,0bq b THERMOMETER,0NERD bq,0THINKING bq,0bq b HEAD-BANDAGE,",
   "0ROBOT bq,0HUGGING bq,0g OF kb HORNS,0CALL ME jh,0hn BACK OF jh,0LEFT-FACING FIST,",
   "0RIGHT-FACING FIST,0HANDSHAKE,0jh b bj l ab gu lx,0I LOVE YOU jh g,0bq b COWBOY HAT,",
   "0CLOWN bq,0NAUSEATED bq,0ROLLING ON kb FLOOR LAUGHING,0DROOLING bq,0LYING bq,0bq PALM,",
   "0SNEEZING bq,0bq b ah EYEBROW hn,0GRINNING bq b et ng,3ah da l ah d EYE,",
   "0bq b FINGER COVERING fq LIPS,0SERIOUS bq b SYMBOLS COVERING ku,",
   "0ju bq b ju ng l jh COVERING ku,0bq b dh ku VOMITING,0SHOCKED bq b EXPLODING HEAD,",
   "0PREGNANT WOMAN,0BREAST-FEEDING,0PALMS UP TOGETHER,0SELFIE,0PRINCE,0MAN IN TUXEDO,",
   "0MOTHER CHRISTMAS,0SHRUG,0lp DOING CARTWHEEL,0JUGGLING,0FENCER,0MODERN PENTATHLON,0WRESTLERS,",
   "0WATER POLO,0HANDBALL,0DIVING MASK,0WILTED FLOWER,0DRUM b DRUMSTICKS,0CLINKING GLASSES,",
   "0TUMBLER GLASS,0SPOON,0GOAL NET,0RIFLE,0FIRST PLACE MEDAL,0SECOND PLACE MEDAL,",
   "0THIRD PLACE MEDAL,0BOXING GLOVE,0MARTIAL ARTS UNIFORM,0CURLING STONE,0LACROSSE STICK l BALL,",
   "0SOFTBALL,0FLYING DISC,0CROISSANT,0AVOCADO,0CUCUMBER,0BACON,0POTATO,0CARROT,0BAGUETTE BREAD,",
   "0GREEN SALAD,0SHALLOW PAN OF FOOD,0STUFFED FLATBREAD,0EGG,0GLASS OF MILK,0PEANUTS,0KIWIFRUIT,",
   "0PANCAKES,0DUMPLING,0FORTUNE COOKIE,0TAKEOUT nn,0CHOPSTICKS,0BOWL b SPOON,0CUP b STRAW,",
   "0COCONUT,0BROCCOLI,0PIE,0PRETZEL,0CUT OF MEAT,0SANDWICH,0CANNED FOOD,0LEAFY GREEN,0MANGO,",
   "0kx CAKE,0BAGEL,0ju bq b ju ng l q ld,0YAWNING bq,0ju bq b TEAR,0bq b PARTY in l PARTY HAT,",
   "2UNEVEN ng l WAVY ku,0OVERHEATED bq,0FREEZING bq,0NINJA,0DISGUISED bq,0bq HOLDING BACK TEARS,",
   "1b PLEADING ng,0SARI,0LAB COAT,0GOGGLES,0HIKING BOOT,0FLAT SHOE,0CRAB,0LION bq,0SCORPION,",
   "0TURKEY,0UNICORN bq,0EAGLE,0DUCK,0BAT,0SHARK,0OWL,0FOX bq,0BUTTERFLY,0DEER,0GORILLA,0LIZARD,",
   "0RHINOCEROS,0SHRIMP,0SQUID,0GIRAFFE bq,0ZEBRA bq,0HEDGEHOG,0SAUROPOD,0T-REX,0CRICKET,",
   "0KANGAROO,0LLAMA,0PEACOCK,0HIPPOPOTAMUS,0PARROT,0RACCOON,0LOBSTER,0MOSQUITO,0MICROBE,0BADGER,",
   "0SWAN,0MAMMOTH,0DODO,0SLOTH,0OTTER,0ORANGUTAN,0SKUNK,0FLAMINGO,0OYSTER,0BEAVER,0BISON,0SEAL,",
   "0GUIDE DOG,0PROBING CANE,0EMOJI COMPONENT RED HAIR,2iu HAIR,2BALD,2y HAIR,0BONE,0LEG,0FOOT,",
   "0TOOTH,0SUPERHERO,0SUPERVILLAIN,0SAFETY VEST,0EAR b HEARING AID,0MOTORIZED WHEELCHAIR,",
   "0MANUAL WHEELCHAIR,0MECHANICAL ARM,1LEG,0CHEESE WEDGE,0CUPCAKE,0SALT SHAKER,0BEVERAGE nn,",
   "0GARLIC,0ONION,0FALAFEL,0WAFFLE,0BUTTER,0MATE DRINK,0ICE CUBE,0BUBBLE TEA,0TROLL,",
   "0STANDING lp,0KNEELING lp,0DEAF lp,0bq b MONOCLE,0ADULT,0CHILD,0OLDER ADULT,0BEARDED lp,",
   "0lp b HEADSCARF,1IN STEAMY ROOM,1CLIMBING,1IN LOTUS POSITION,0MAGE,0FAIRY,0VAMPIRE,",
   "0MERPERSON,0ELF,0GENIE,0ZOMBIE,0BRAIN,0ORANGE ie,0BILLED CAP,0SCARF,0GLOVES,0COAT,0SOCKS,",
   "0RED GIFT ENVELOPE,0FIRECRACKER,0JIGSAW PUZZLE PIECE,0TEST TUBE,0PETRI lv,0DNA k HELIX,",
   "0COMPASS,0ABACUS,0FIRE EXTINGUISHER,0TOOLBOX,0BRICK,0MAGNET,0LUGGAGE,0LOTION BOTTLE,",
   "0SPOOL OF THREAD,0BALL OF YARN,0SAFETY PIN,0TEDDY BEAR,0BROOM,0BASKET,0ROLL OF PAPER,",
   "0cc OF SOAP,0SPONGE,0RECEIPT,0NAZAR AMULET,0hr hj KING,2QUEEN,2ROOK,2BISHOP,2gv,2PAWN,",
   "0y hj gv cd FORTY-FIVE cv,0w hj gv cd FORTY-FIVE cv,0hr hj gv cd FORTY-FIVE cv,",
   "0y hj KING cd fc cv,2QUEEN cd fc cv,2ROOK cd fc cv,2BISHOP cd fc cv,2gv cd fc cv,",
   "2PAWN cd fc cv,0w hj KING cd fc cv,2QUEEN cd fc cv,2ROOK cd fc cv,2BISHOP cd fc cv,",
   "2gv cd fc cv,2PAWN cd fc cv,0hr hj KING cd fc cv,2QUEEN cd fc cv,2ROOK cd fc cv,",
   "2BISHOP cd fc cv,2gv cd fc cv,2PAWN cd fc cv,0y hj gv cd ah ac THIRTY-FIVE cv,",
   "0w hj gv cd ah ac THIRTY-FIVE cv,0hr hj gv cd ah ac THIRTY-FIVE cv,0y hj bs KING,3QUEEN,",
   "3ROOK,3BISHOP,3gv,3PAWN,0w hj bs KING,3QUEEN,3ROOK,3BISHOP,3gv,3PAWN,0hr hj bs KING,3QUEEN,",
   "3ROOK,3BISHOP,3gv,3PAWN,0y hj gv cd ad ac TWENTY-FIVE cv,0w hj gv cd ad ac TWENTY-FIVE cv,",
   "0hr hj gv cd ad ac TWENTY-FIVE cv,0y hj KING cd ad ac es cv,2QUEEN cd ad ac es cv,",
   "2ROOK cd ad ac es cv,2BISHOP cd ad ac es cv,2gv cd ad ac es cv,2PAWN cd ad ac es cv,",
   "0w hj KING cd ad ac es cv,2QUEEN cd ad ac es cv,2ROOK cd ad ac es cv,2BISHOP cd ad ac es cv,",
   "2gv cd ad ac es cv,2PAWN cd ad ac es cv,0hr hj KING cd ad ac es cv,2QUEEN cd ad ac es cv,",
   "2ROOK cd ad ac es cv,2BISHOP cd ad ac es cv,2gv cd ad ac es cv,2PAWN cd ad ac es cv,",
   "0y hj gv cd q ac FIFTEEN cv,0w hj gv cd q ac FIFTEEN cv,0hr hj gv cd q ac FIFTEEN cv,",
   "0y hj EQUIHOPPER,0w hj EQUIHOPPER,0hr hj EQUIHOPPER,0y hj EQUIHOPPER cd fc cv,",
   "0w hj EQUIHOPPER cd fc cv,0hr hj EQUIHOPPER cd fc cv,0y hj KNIGHT-QUEEN,2KNIGHT-ROOK,",
   "2KNIGHT-BISHOP,0w hj KNIGHT-QUEEN,2KNIGHT-ROOK,2KNIGHT-BISHOP,+c,0XIANGQI RED GENERAL,",
   "2MANDARIN,2ELEPHANT,2HORSE,2CHARIOT,2CANNON,2SOLDIER,1w GENERAL,2MANDARIN,2ELEPHANT,2HORSE,",
   "2CHARIOT,2CANNON,2SOLDIER,+2,0BALLET SHOES,0ONE-PIECE SWIMSUIT,0BRIEFS,0SHORTS,0THONG SANDAL,",
   "+3,0DROP OF BLOOD,0ADHESIVE BANDAGE,0STETHOSCOPE,0X-RAY,0CRUTCH,+3,0YO-YO,0KITE,0PARACHUTE,",
   "0BOOMERANG,0MAGIC WAND,0PINATA,0NESTING DOLLS,+9,0RINGED PLANET,0CHAIR,0RAZOR,0AXE,",
   "0DIYA LAMP,0BANJO,0MILITARY HELMET,0ACCORDION,0dl DRUM,0COIN,0CARPENTRY SAW,0SCREWDRIVER,",
   "0LADDER,0al,0MIRROR,0WINDOW,0PLUNGER,0SEWING NEEDLE,0KNOT,0BUCKET,0MOUSE TRAP,0TOOTHBRUSH,",
   "0HEADSTONE,0PLACARD,0ROCK,0MIRROR BALL,0IDENTIFICATION CARD,0ds BATTERY,0HAMSA,+3,0FLY,0WORM,",
   "0BEETLE,0COCKROACH,0POTTED PLANT,0WOOD,0FEATHER,0LOTUS,0CORAL,0EMPTY NEST,0NEST b EGGS,+5,",
   "0ANATOMICAL ie,0LUNGS,0PEOPLE HUGGING,0PREGNANT MAN,1lp,0lp b CROWN,+a,0BLUEBERRIES,",
   "0BELL PEPPER,0OLIVE,0FLATBREAD,0TAMALE,0FONDUE,0TEAPOT,0POURING LIQUID,0BEANS,0JAR,+6,",
   "0MELTING bq,0SALUTING bq,0bq b dh ng l jh bz ku,2PEEKING EYE,2cy ku,0fa ec bq,0BITING LIP,",
   "0BUBBLES,+8,0jh b bj FINGER l ck lx,0m jh,0s jh,0PALM be jh,1UP jh,0bj bn AT kb VIEWER,",
   "0ie HANDS,+9,0dr SEXTANT-1,1SEXTANT-2,1SEXTANT-12,1SEXTANT-3,1SEXTANT-13,1SEXTANT-23,",
   "1SEXTANT-123,1SEXTANT-4,1SEXTANT-14,1SEXTANT-24,1SEXTANT-124,1SEXTANT-34,1SEXTANT-134,",
   "1SEXTANT-234,1SEXTANT-1234,1SEXTANT-5,1SEXTANT-15,1SEXTANT-25,1SEXTANT-125,1SEXTANT-35,",
   "1SEXTANT-235,1SEXTANT-1235,1SEXTANT-45,1SEXTANT-145,1SEXTANT-245,1SEXTANT-1245,1SEXTANT-345,",
   "1SEXTANT-1345,1SEXTANT-2345,1SEXTANT-12345,1SEXTANT-6,1SEXTANT-16,1SEXTANT-26,1SEXTANT-126,",
   "1SEXTANT-36,1SEXTANT-136,1SEXTANT-236,1SEXTANT-1236,1SEXTANT-46,1SEXTANT-146,1SEXTANT-1246,",
   "1SEXTANT-346,1SEXTANT-1346,1SEXTANT-2346,1SEXTANT-12346,1SEXTANT-56,1SEXTANT-156,",
   "1SEXTANT-256,1SEXTANT-1256,1SEXTANT-356,1SEXTANT-1356,1SEXTANT-2356,1SEXTANT-12356,",
   "1SEXTANT-456,1SEXTANT-1456,1SEXTANT-2456,1SEXTANT-12456,1SEXTANT-3456,1SEXTANT-13456,",
   "1SEXTANT-23456,0br n dr cy br ab n TO br df,9h,4cf ab n TO br df,9h,5n TO br df,",
   "1h dr cy cf ab n TO cf df,9h,4br ab n TO cf df,9h,5n TO cf df,5ab n TO cf ab h,",
   "5df TO br ab h,5n TO br ab h,5df TO cf ab h,5n TO cf ab h,5df TO cf h,",
   "1n dr cy cf df TO cf ab h,5n TO cf ab h,5df TO br ab h,5n TO br ab h,5df TO br h,",
   "5ab n TO br ab h,0cf h dr cy br ab n TO br df,9h,4cf ab n TO br df,9h,5n TO br df,",
   "1n dr cy cf ab n TO cf df,9h,4br ab n TO cf df,9h,5n TO cf df,5ab n TO cf ab h,",
   "5df TO br ab h,5n TO br ab h,5df TO cf ab h,5n TO cf ab h,5df TO cf h,",
   "1h dr cy cf df TO cf ab h,5n TO cf ab h,5df TO br ab h,5n TO br ab h,5df TO br h,",
   "5ab n TO br ab h,1l h l br fh q jo dr,0n l br l h fh q jo dr,0cf l n l br fh q jo dr,",
   "0n l cf l h fh q jo dr,1fh ah ex dr,0cf fh ah ex dr,0h fh ah ex dr,0br fh ah ex dr,",
   "0r ah hg BLOCK-2,3BLOCK-3,3BLOCK-4,3BLOCK-5,3BLOCK-6,3BLOCK-7,0aa ah hg BLOCK-2,3BLOCK-3,",
   "3BLOCK-4,3BLOCK-5,3BLOCK-6,3BLOCK-7,0n l br ah hg dr,2cf ah hg dr,0h l cf ah hg dr,",
   "2br ah hg dr,0cf l br ah hg dr,0aa ah hg BLOCK-1358,0cf ah ex dr,1q kt dr,1ao kt dr,1q jo dr,",
   "1av kt dr,0h ah ex dr,1q kt dr,1ao kt dr,1q jo dr,1av kt dr,0n bd bc SHADE,0h bd bc SHADE,",
   "0cf bd bc SHADE,0br bd bc SHADE,0INVERSE bc SHADE,0cf bd dr l br bd INVERSE bc SHADE,",
   "2INVERSE bc SHADE l br bd dr,+1,0n bd INVERSE bc SHADE l h bd dr,0CHECKER BOARD FILL,",
   "0INVERSE CHECKER BOARD FILL,0ai aa FILL,0cf n TO br h FILL,1h TO br n FILL,1l br fh bd dr,",
   "0n l h fh bd dr,0cf n fh bc SHADE,1h fh bc SHADE,0br h fh bc SHADE,1n fh bc SHADE,",
   "0nn DRAWINGS bk cy cf df TO ab n,8h,4ab n TO br df,5h TO br df,4cf df TO ab n TO br df,",
   "8h TO br df,4ab n TO br df TO ab h,7cf df TO ab h,4cf df TO ab n l ab h TO br df,",
   "8h l ab n TO br df,9TO br df TO ab n,8n TO br df TO ab h,4ab n TO cf df TO ab h TO br df,",
   "5h TO cf df TO ab n TO br df,4dv,3aa b r u,0ARROWHEAD-SHAPED POINTER,0INVERSE CHECK x,",
   "0n bd RUNNING MAN,0h bd RUNNING MAN,0INVERSE ag f b TIP s,0s f l cf l br ah hg dr,",
   "0m f l cf l br ah hg dr,0ag f l h ah hg dr,0ax f l h ah hg dr,0n bd FOLDER,0h bd FOLDER,",
   "0VOIDED jd ey,0h dh ep aj,0jm cy ey,2ab h TO br df,2dv,0y ai SALTIRE b ROUNDED CORNERS,",
   "0n THIRD y h bn bj,0ab THIRD y h bn bj,0h THIRD y h bn bj,0jm ep ew x,0STICK FIGURE,",
   "2b ARMS hn,2LEANING n,3h,2b DRESS,0y ht CHEVRON,+11,0SEGMENTED bp cz,2ah,2ad,2q,2ak,2ao,2ca,",
   "2av,2aq,2bi,+gvlz,0LANGUAGE TAG,+u,0TAG kl,1dt x,1dy x,1cs g,1DOLLAR g,1PERCENT g,1AMPERSAND,",
   "1mc,1n by,1h by,1cw,1bb g,1do,1HYPHEN-MINUS,1fs dq,1gx,1bp cz,2ah,2ad,2q,2ak,2ao,2ca,2av,2aq,",
   "2bi,1hp,1kq,1bg g,1fr g,1au g,1ew x,1COMMERCIAL AT,1ed c a A,4B,4C,4D,4E,4F,4G,4H,4I,4J,4K,",
   "4L,4M,4N,4O,4P,4Q,4R,4S,4T,4U,4V,4W,4X,4Y,4Z,1n as af,1id gx,1h as af,1am eu,1ds ec,1de eu,",
   "1ed d a A,4B,4C,4D,4E,4F,4G,4H,4I,4J,4K,4L,4M,4N,4O,4P,4Q,4R,4S,4T,4U,4V,4W,4X,4Y,4Z,",
   "1n iu af,1r ec,1h iu af,1bo,0CANCEL TAG,+3k,0VARIATION SELECTOR-17,1SELECTOR-18,1SELECTOR-19,",
   "1SELECTOR-20,1SELECTOR-21,1SELECTOR-22,1SELECTOR-23,1SELECTOR-24,1SELECTOR-25,1SELECTOR-26,",
   "1SELECTOR-27,1SELECTOR-28,1SELECTOR-29,1SELECTOR-30,1SELECTOR-31,1SELECTOR-32,1SELECTOR-33,",
   "1SELECTOR-34,1SELECTOR-35,1SELECTOR-36,1SELECTOR-37,1SELECTOR-38,1SELECTOR-39,1SELECTOR-40,",
   "1SELECTOR-41,1SELECTOR-42,1SELECTOR-43,1SELECTOR-44,1SELECTOR-45,1SELECTOR-46,1SELECTOR-47,",
   "1SELECTOR-48,1SELECTOR-49,1SELECTOR-50,1SELECTOR-51,1SELECTOR-52,1SELECTOR-53,1SELECTOR-54,",
   "1SELECTOR-55,1SELECTOR-56,1SELECTOR-57,1SELECTOR-58,1SELECTOR-59,1SELECTOR-60,1SELECTOR-61,",
   "1SELECTOR-62,1SELECTOR-63,1SELECTOR-64,1SELECTOR-65,1SELECTOR-66,1SELECTOR-67,1SELECTOR-68,",
   "1SELECTOR-69,1SELECTOR-70,1SELECTOR-71,1SELECTOR-72,1SELECTOR-73,1SELECTOR-74,1SELECTOR-75,",
   "1SELECTOR-76,1SELECTOR-77,1SELECTOR-78,1SELECTOR-79,1SELECTOR-80,1SELECTOR-81,1SELECTOR-82,",
   "1SELECTOR-83,1SELECTOR-84,1SELECTOR-85,1SELECTOR-86,1SELECTOR-87,1SELECTOR-88,1SELECTOR-89,",
   "1SELECTOR-90,1SELECTOR-91,1SELECTOR-92,1SELECTOR-93,1SELECTOR-94,1SELECTOR-95,1SELECTOR-96,",
   "1SELECTOR-97,1SELECTOR-98,1SELECTOR-99,1SELECTOR-100,1SELECTOR-101,1SELECTOR-102,",
   "1SELECTOR-103,1SELECTOR-104,1SELECTOR-105,1SELECTOR-106,1SELECTOR-107,1SELECTOR-108,",
   "1SELECTOR-109,1SELECTOR-110,1SELECTOR-111,1SELECTOR-112,1SELECTOR-113,1SELECTOR-114,",
   "1SELECTOR-115,1SELECTOR-116,1SELECTOR-117,1SELECTOR-118,1SELECTOR-119,1SELECTOR-120,",
   "1SELECTOR-121,1SELECTOR-122,1SELECTOR-123,1SELECTOR-124,1SELECTOR-125,1SELECTOR-126,",
   "1SELECTOR-127,1SELECTOR-128,1SELECTOR-129,1SELECTOR-130,1SELECTOR-131,1SELECTOR-132,",
   "1SELECTOR-133,1SELECTOR-134,1SELECTOR-135,1SELECTOR-136,1SELECTOR-137,1SELECTOR-138,",
   "1SELECTOR-139,1SELECTOR-140,1SELECTOR-141,1SELECTOR-142,1SELECTOR-143,1SELECTOR-144,",
   "1SELECTOR-145,1SELECTOR-146,1SELECTOR-147,1SELECTOR-148,1SELECTOR-149,1SELECTOR-150,",
   "1SELECTOR-151,1SELECTOR-152,1SELECTOR-153,1SELECTOR-154,1SELECTOR-155,1SELECTOR-156,",
   "1SELECTOR-157,1SELECTOR-158,1SELECTOR-159,1SELECTOR-160,1SELECTOR-161,1SELECTOR-162,",
   "1SELECTOR-163,1SELECTOR-164,1SELECTOR-165,1SELECTOR-166,1SELECTOR-167,1SELECTOR-168,",
   "1SELECTOR-169,1SELECTOR-170,1SELECTOR-171,1SELECTOR-172,1SELECTOR-173,1SELECTOR-174,",
   "1SELECTOR-175,1SELECTOR-176,1SELECTOR-177,1SELECTOR-178,1SELECTOR-179,1SELECTOR-180,",
   "1SELECTOR-181,1SELECTOR-182,1SELECTOR-183,1SELECTOR-184,1SELECTOR-185,1SELECTOR-186,",
   "1SELECTOR-187,1SELECTOR-188,1SELECTOR-189,1SELECTOR-190,1SELECTOR-191,1SELECTOR-192,",
   "1SELECTOR-193,1SELECTOR-194,1SELECTOR-195,1SELECTOR-196,1SELECTOR-197,1SELECTOR-198,",
   "1SELECTOR-199,1SELECTOR-200,1SELECTOR-201,1SELECTOR-202,1SELECTOR-203,1SELECTOR-204,",
   "1SELECTOR-205,1SELECTOR-206,1SELECTOR-207,1SELECTOR-208,1SELECTOR-209,1SELECTOR-210,",
   "1SELECTOR-211,1SELECTOR-212,1SELECTOR-213,1SELECTOR-214,1SELECTOR-215,1SELECTOR-216,",
   "1SELECTOR-217,1SELECTOR-218,1SELECTOR-219,1SELECTOR-220,1SELECTOR-221,1SELECTOR-222,",
   "1SELECTOR-223,1SELECTOR-224,1SELECTOR-225,1SELECTOR-226,1SELECTOR-227,1SELECTOR-228,",
   "1SELECTOR-229,1SELECTOR-230,1SELECTOR-231,1SELECTOR-232,1SELECTOR-233,1SELECTOR-234,",
   "1SELECTOR-235,1SELECTOR-236,1SELECTOR-237,1SELECTOR-238,1SELECTOR-239,1SELECTOR-240,",
   "1SELECTOR-241,1SELECTOR-242,1SELECTOR-243,1SELECTOR-244,1SELECTOR-245,1SELECTOR-246,",
   "1SELECTOR-247,1SELECTOR-248,1SELECTOR-249,1SELECTOR-250,1SELECTOR-251,1SELECTOR-252,",
   "1SELECTOR-253,1SELECTOR-254,1SELECTOR-255,1SELECTOR-256,"]

end DepView.Text.Names
