/-!
The names of the characters below U+10000.
-/

namespace DepView.Text.Names

/-! The names of characters below U+1000: the alphabets of Europe, the Near East and India. -/

/-- These names, in the writing that `DepView.Text.Names` reads. -/
def alphabets : List String :=
  ["+w,0kl,0dt x,0dy x,0cs g,0DOLLAR g,0PERCENT g,0AMPERSAND,0mc,0n by,0h by,0cw,0bb g,0do,",
   "0HYPHEN-MINUS,0fs dq,0gx,0bp cz,1ah,1ad,1q,1ak,1ao,1ca,1av,1aq,1bi,0hp,0kq,0bg g,0fr g,0au g,",
   "0ew x,0COMMERCIAL AT,0ed c a A,3B,3C,3D,3E,3F,3G,3H,3I,3J,3K,3L,3M,3N,3O,3P,3Q,3R,3S,3T,3U,",
   "3V,3W,3X,3Y,3Z,0n as af,0id gx,0h as af,0am eu,0ds ec,0de eu,0ed d a A,3B,3C,3D,3E,3F,3G,3H,",
   "3I,3J,3K,3L,3M,3N,3O,3P,3Q,3R,3S,3T,3U,3V,3W,3X,3Y,3Z,0n iu af,0r ec,0h iu af,0bo,+x,",
   "0NO-BREAK kl,0bm dt x,0CENT g,0POUND g,0CURRENCY g,0YEN g,0BROKEN cc,0gw g,0aw,0COPYRIGHT g,",
   "0FEMININE ORDINAL INDICATOR,0ee k dz dy x,0gs g,0SOFT HYPHEN,0REGISTERED g,0cp,0DEGREE g,",
   "0PLUS-MINUS g,0ij ad,1q,0bx eu,0MICRO g,0PILCROW g,0ab aj,0fw,0ij ah,",
   "0MASCULINE ORDINAL INDICATOR,0di k dz dy x,0VULGAR hw ah ex,3bd,2q jo,0bm ew x,",
   "0ed c a A b de,5bx,5am,5bo,5aw,5cj i,3AE,3C b fw,3E b de,5bx,5am,5aw,3I b de,5bx,5am,5aw,",
   "3ETH,3N b bo,3O b de,5bx,5am,5bo,5aw,0hq g,0ed c a O b u,3U b de,5bx,5am,5aw,3Y b bx,3THORN,",
   "1d a SHARP S,3A b de,5bx,5am,5bo,5aw,5cj i,3AE,3C b fw,3E b de,5bx,5am,5aw,3I b de,5bx,5am,",
   "5aw,3ETH,3N b bo,3O b de,5bx,5am,5bo,5aw,0DIVISION g,0ed d a O b u,3U b de,5bx,5am,5aw,",
   "3Y b bx,3THORN,3Y b aw,1c a A b cp,1d a A b cp,1c a A b du,1d a A b du,1c a A b mp,",
   "1d a A b mp,1c a C b bx,1d a C b bx,1c a C b am,1d a C b am,1c a C b aj i,1d a C b aj i,",
   "1c a C b fd,1d a C b fd,1c a D b fd,1d a D b fd,1c a D b u,1d a D b u,1c a E b cp,",
   "1d a E b cp,1c a E b du,1d a E b du,1c a E b aj i,1d a E b aj i,1c a E b mp,1d a E b mp,",
   "1c a E b fd,1d a E b fd,1c a G b am,1d a G b am,1c a G b du,1d a G b du,1c a G b aj i,",
   "1d a G b aj i,1c a G b fw,1d a G b fw,1c a H b am,1d a H b am,1c a H b u,1d a H b u,",
   "1c a I b bo,1d a I b bo,1c a I b cp,1d a I b cp,1c a I b du,1d a I b du,1c a I b mp,",
   "1d a I b mp,1c a I b aj i,1d a lj I,1c eb IJ,1d eb IJ,1c a J b am,1d a J b am,1c a K b fw,",
   "1d a K b fw,3KRA,1c a L b bx,1d a L b bx,1c a L b fw,1d a L b fw,1c a L b fd,1d a L b fd,",
   "1c a L b ab aj,1d a L b ab aj,1c a L b u,1d a L b u,1c a N b bx,1d a N b bx,1c a N b fw,",
   "1d a N b fw,1c a N b fd,1d a N b fd,4PRECEDED BY mc,1c a ENG,1d a ENG,1c a O b cp,",
   "1d a O b cp,1c a O b du,1d a O b du,1c a O b k bx,1d a O b k bx,1c eb OE,1d eb OE,",
   "1c a R b bx,1d a R b bx,1c a R b fw,1d a R b fw,1c a R b fd,1d a R b fd,1c a S b bx,",
   "1d a S b bx,1c a S b am,1d a S b am,1c a S b fw,1d a S b fw,1c a S b fd,1d a S b fd,",
   "1c a T b fw,1d a T b fw,1c a T b fd,1d a T b fd,1c a T b u,1d a T b u,1c a U b bo,",
   "1d a U b bo,1c a U b cp,1d a U b cp,1c a U b du,1d a U b du,1c a U b cj i,1d a U b cj i,",
   "1c a U b k bx,1d a U b k bx,1c a U b mp,1d a U b mp,1c a W b am,1d a W b am,1c a Y b am,",
   "1d a Y b am,1c a Y b aw,3Z b bx,1d a Z b bx,1c a Z b aj i,1d a Z b aj i,1c a Z b fd,",
   "1d a Z b fd,3dl S,3B b u,1c a B b al,5TOPBAR,1d a B b TOPBAR,1c a dm ca,1d a dm ca,1c a dh O,",
   "3C b al,1d a C b al,1c a AFRICAN D,3D b al,5TOPBAR,1d a D b TOPBAR,3bs lg,1c a az E,3SCHWA,",
   "3dh E,3F b al,1d a F b al,1c a G b al,3kh,1d a HV,1c a ji,3I b u,3K b al,1d a K b al,3L b cc,",
   "3LAMBDA b u,1c a bs M,3N b n al,1d a N b dl h LEG,1c a O b ab bo,5in,1d a O b in,1c a OI,",
   "1d a OI,1c a P b al,1d a P b al,1a YR,1c a dm ad,1d a dm ad,1c a ESH,1a az ESH LOOP,",
   "1d a T b fx al,1c a T b al,1d a T b al,1c a T b cu al,3U b in,1d a U b in,1c a ge,3V b al,",
   "3Y b al,1d a Y b al,1c a Z b u,1d a Z b u,1c a EZH,4az,1d a EZH az,4b fg,1a ad b u,",
   "1c a dm ao,1d a dm ao,1a bm gd dq b u,2WYNN,2DENTAL CLICK,2LATERAL CLICK,2ALVEOLAR CLICK,",
   "2cu CLICK,1c a DZ b fd,3D b d a Z b fd,1d a DZ b fd,1c a LJ,3L b d a J,1d a LJ,1c a NJ,",
   "3N b d a J,1d a NJ,1c a A b fd,1d a A b fd,1c a I b fd,1d a I b fd,1c a O b fd,1d a O b fd,",
   "1c a U b fd,1d a U b fd,1c a U b aw l cp,1d a U b aw l cp,1c a U b aw l bx,1d a U b aw l bx,",
   "1c a U b aw l fd,1d a U b aw l fd,1c a U b aw l de,1d a U b aw l de,3bs E,1c a A b aw l cp,",
   "1d a A b aw l cp,1c a A b aj i l cp,1d a A b aj i l cp,1c a AE b cp,1d a AE b cp,1c a G b u,",
   "1d a G b u,1c a G b fd,1d a G b fd,1c a K b fd,1d a K b fd,1c a O b mp,1d a O b mp,",
   "1c a O b mp l cp,1d a O b mp l cp,1c a EZH b fd,1d a EZH b fd,3J b fd,1c a DZ,3D b d a Z,",
   "1d a DZ,1c a G b bx,1d a G b bx,1c a HWAIR,3WYNN,3N b de,1d a N b de,1c a A b cj i l bx,",
   "1d a A b cj i l bx,1c a AE b bx,1d a AE b bx,1c a O b u l bx,1d a O b u l bx,1c a A b k de,",
   "1d a A b k de,1c a A b bm du,1d a A b bm du,1c a E b k de,1d a E b k de,1c a E b bm du,",
   "1d a E b bm du,1c a I b k de,1d a I b k de,1c a I b bm du,1d a I b bm du,1c a O b k de,",
   "1d a O b k de,1c a O b bm du,1d a O b bm du,1c a R b k de,1d a R b k de,1c a R b bm du,",
   "1d a R b bm du,1c a U b k de,1d a U b k de,1c a U b bm du,1d a U b bm du,1c a S b do o,",
   "1d a S b do o,1c a T b do o,1d a T b do o,1c a YOGH,1d a YOGH,1c a H b fd,1d a H b fd,",
   "1c a N b dl h LEG,1d a D b ms,1c a OU,1d a OU,1c a Z b al,1d a Z b al,1c a A b aj i,",
   "1d a A b aj i,1c a E b fw,1d a E b fw,1c a O b aw l cp,1d a O b aw l cp,1c a O b bo l cp,",
   "1d a O b bo l cp,1c a O b aj i,1d a O b aj i,1c a O b aj i l cp,1d a O b aj i l cp,",
   "1c a Y b cp,1d a Y b cp,3L b ms,3N b ms,3T b ms,3lj J,3DB gc,3QP gc,1c a A b u,3C b u,",
   "1d a C b u,1c a L b cc,3T b cy u,1d a S b SWASH fg,3Z b SWASH fg,1c a gd dq,1d a gd dq,",
   "1c a B b u,3U cc,3bs V,3E b u,1d a E b u,1c a J b u,1d a J b u,1c a d Q b al fg,",
   "1d a Q b al fg,1c a R b u,1d a R b u,1c a Y b u,1d a Y b u,3bs A,3gz,3bs gz,3B b al,3dh O,",
   "3C b ms,3D b fg,5al,3az E,3SCHWA,4b al,3dh E,3az dh E,6b al,3fq az dh E,3lj J b u,3G b al,",
   "3ig G,1a d c G,1d a kh,3RAMS in,3bs H,3H b al,3HENG b al,3I b u,3ji,1a d c I,1d a L b ab bo,",
   "5BELT,5cu al,3LEZH,3bs M,5b dl LEG,3M b al,3N b n al,5cu al,1a d c N,1d a BARRED O,1a d c OE,",
   "1d a fq gl,3PHI,3bs R,5b dl LEG,6al,3R b dl LEG,5fg,5FISHHOOK,3az R b FISHHOOK,1a d c R,",
   "4bm R,1d a S b al,3ESH,3lj J b u l al,3SQUAT az ESH,3ESH b ms,3bs T,3T b cu al,3U cc,3ge,",
   "3V b al,3bs V,4W,4Y,1a d c Y,1d a Z b cu al,5ms,3EZH,4b ms,1a gd dq,",
   "2PHARYNGEAL VOICED FRICATIVE,2bm gd dq,2STRETCHED C,2BILABIAL CLICK,2d c B,1d a fq dh E,",
   "1a d c G b al,4H,1d a J b kn,3bs K,1a d c L,1d a Q b al,1a gd dq b u,2az gd dq b u,",
   "1d a DZ gc,3DEZH gc,3DZ gc b ms,3TS gc,3TESH gc,3TC gc b ms,3FENG gc,3LS gc,3LZ gc,",
   "1a BILABIAL PERCUSSIVE,2BIDENTAL PERCUSSIVE,1d a bs H b FISHHOOK,7l fg,0eq a d H,4b al,3J,3R,",
   "3bs R,5b al,3c bm R,3W,3Y,2PRIME,2k PRIME,2bs do,2mc,2az do,2h bd cj,2n bd cj,2gd dq,",
   "2az gd dq,2n ay,2h ay,2UP ay,2be ay,2am eu,0fd,0eq a r ec,2cp,2bx eu,2de eu,2ds r ec,3cp,",
   "3de eu,3bx eu,2fh hp,2bd fh hp,2CENTRED h bd cj,3n bd cj,2UP io,2be io,2bb g,2mo g,0du,0aj i,",
   "0cj i,0mp,0d bo,0k bx eu,0eq a RHOTIC al,2ey eu,2d kh,3L,3S,3X,3az gd dq,2EXTRA-HIGH dm cc,",
   "2dp dm cc,2MID dm cc,2ds dm cc,2EXTRA-LOW dm cc,2YIN DEPARTING dm x,2YANG DEPARTING dm x,",
   "2VOICING,2UNASPIRATED,2k mc,2ds be ay,3UP ay,3n ay,3h ay,3cj,2ab de eu,3k de eu,4bx eu,",
   "2ds bo,2hn hp,2BEGIN dp dm,2mh dp dm,2BEGIN ds dm,2mh ds dm,2SHELF,2dh SHELF,2ds n f,",
   "0dd de eu,1bx eu,1am eu,1bo,1cp,1OVERLINE,1du,1aj i,1aw,1al i,1cj i,1k bx eu,1fd,1r ec i,",
   "1k r ec i,2de eu,1dg,1bm du,1bs do i,1do i,1az do i,1do i h,1de eu o,1bx eu o,1n io o,",
   "1h io o,1n dz i,1in,1n bd cj o,1UP io o,1be io o,1bb g o,1mo g o,1PALATALIZED al o,1cu al o,",
   "1aj o,1aw o,1cj o,1do o,1fw,1mp,1r ec o,1BRIDGE o,1bm k ARCH o,1fd o,1am eu o,1du o,1bm du o,",
   "1bo o,1cp o,1ds ec,1k ds ec,1bo hi,1ef u hi,1dl u hi,1ef gx hi,1dl gx hi,1h bd cj o,",
   "1bm BRIDGE o,1as o,1SEAGULL o,1X i,1r bo,1k OVERLINE,1de dm x,1bx dm x,1jd bu,2KORONIS,",
   "2iz lt,2bt,1BRIDGE i,1fr g o,1k r ec o,1n dz o,1gs bo i,1HOMOTHETIC i,1ll bf TO i,1n h f o,",
   "1ax f o,1GRAPHEME JOINER,1h ay i,1n bd cj i,1FERMATA,1X o,1n ay o,1h ay o,3l UP ay o,",
   "2bd cj i,1aj i h,1cw o,1k cj o,1ZIGZAG i,1k du o,3,2cp,3o,2bo,2bm du,2m f o,1ed d a A,4E,4I,",
   "4O,4U,4C,4D,4H,4M,4R,4T,4V,4X,0jd c a HETA,1d a HETA,1c a ir SAMPI,1d a ir SAMPI,1NUMERAL g,",
   "1br NUMERAL g,1c a PAMPHYLIAN DIGAMMA,1d a PAMPHYLIAN DIGAMMA,+2,1bt,1d az LUNATE iv v,",
   "2fa LUNATE iv v,2az fa LUNATE iv v,1ew x,1c a YOT,+4,1lt,1iz lt,1c a gz b lt,1ANO TELEIA,",
   "1c a go b lt,3ETA b lt,3ji b lt,+1,3jb b lt,+1,3ge b lt,3gl b lt,1d a ji b iz l lt,1c a gz,",
   "3BETA,3kh,3lg,3go,3ZETA,3ETA,3jf,3ji,3mk,3LAMDA,3MU,3NU,3XI,3jb,3PI,3nt,+1,3iv,3TAU,3ge,3PHI,",
   "3CHI,3PSI,3gl,3ji b iz,3ge b iz,1d a gz b lt,3go b lt,3ETA b lt,3ji b lt,3ge b iz l lt,3gz,",
   "3BETA,3kh,3lg,3go,3ZETA,3ETA,3jf,3ji,3mk,3LAMDA,3MU,3NU,3XI,3jb,3PI,3nt,3p iv,3iv,3TAU,3ge,",
   "3PHI,3CHI,3PSI,3gl,3ji b iz,3ge b iz,3jb b lt,3ge b lt,3gl b lt,1c KAI v,1BETA v,1jf v,",
   "1ge b al v,3bx l al v,3aw l al v,1PHI v,1PI v,1KAI v,1a ir KOPPA,1d a ir KOPPA,1a STIGMA,",
   "1d a STIGMA,1a DIGAMMA,1d a DIGAMMA,1a KOPPA,1d a KOPPA,1a SAMPI,1d a SAMPI,0hy c a SHEI,",
   "1d a SHEI,1c a FEI,1d a FEI,1c a KHEI,1d a KHEI,1c a HORI,1d a HORI,1c a GANGIA,1d a GANGIA,",
   "1c a SHIMA,1d a SHIMA,1c a DEI,1d a DEI,0jd mk v,1nt v,1LUNATE iv v,1a YOT,1c jf v,",
   "1LUNATE go v,1az LUNATE go v,1c a SHO,1d a SHO,1c LUNATE iv v,2a SAN,1d a SAN,1nt b u v,",
   "1c az LUNATE iv v,2fa LUNATE iv v,2az fa LUNATE iv v,0kd c a IE b de,3IO,3DJE,3GJE,",
   "3UKRAINIAN IE,3DZE,3BYELORUSSIAN-UKRAINIAN I,3YI,3JE,3LJE,3NJE,3TSHE,3KJE,3I b de,3ef U,",
   "3DZHE,3A,3BE,3VE,3GHE,3DE,3IE,3ZHE,3ZE,3I,3ef I,3KA,3EL,3EM,3EN,3O,3PE,3ER,3ES,3TE,3U,3EF,",
   "3HA,3TSE,3CHE,3ff,3SHCHA,3HARD g,3YERU,3SOFT g,3E,3YU,3YA,1d a A,3BE,3VE,3GHE,3DE,3IE,3ZHE,",
   "3ZE,3I,3ef I,3KA,3EL,3EM,3EN,3O,3PE,3ER,3ES,3TE,3U,3EF,3HA,3TSE,3CHE,3ff,3SHCHA,3HARD g,",
   "3YERU,3SOFT g,3E,3YU,3YA,3IE b de,3IO,3DJE,3GJE,3UKRAINIAN IE,3DZE,3BYELORUSSIAN-UKRAINIAN I,",
   "3YI,3JE,3LJE,3NJE,3TSHE,3KJE,3I b de,3ef U,3DZHE,1c a gl,1d a gl,1c a YAT,1d a YAT,1c a ix E,",
   "1d a ix E,1c a dk my,1d a dk my,1c a ix dk my,1d a ix dk my,1c a BIG my,1d a BIG my,",
   "1c a ix BIG my,1d a ix BIG my,1c a KSI,1d a KSI,1c a PSI,1d a PSI,1c a FITA,1d a FITA,",
   "1c a IZHITSA,1d a IZHITSA,1c a IZHITSA b k de eu,1d a IZHITSA b k de eu,1c a UK,1d a UK,",
   "1c a ROUND gl,1d a ROUND gl,1c a gl b TITLO,1d a gl b TITLO,1c a OT,1d a OT,1c a KOPPA,",
   "1d a KOPPA,1THOUSANDS g,0dd kd TITLO,2PALATALIZATION,2co PNEUMATA,2cq PNEUMATA,2POKRYTIE,",
   "2ac THOUSANDS g,2MILLIONS g,0kd c a ef I b fg,1d a ef I b fg,1c a SEMISOFT g,1d a SEMISOFT g,",
   "1c a ER b TICK,1d a ER b TICK,1c a GHE b UPTURN,1d a GHE b UPTURN,1c a GHE b u,1d a GHE b u,",
   "1c a GHE b ab al,1d a GHE b ab al,1c a ZHE b cx,1d a ZHE b cx,1c a ZE b cx,1d a ZE b cx,",
   "1c a KA b cx,1d a KA b cx,1c a KA b r u,1d a KA b r u,1c a KA b u,1d a KA b u,",
   "1c a BASHKIR KA,1d a BASHKIR KA,1c a EN b cx,1d a EN b cx,1c eb EN GHE,1d eb EN GHE,",
   "1c a PE b ab al,1d a PE b ab al,1c a ABKHASIAN HA,1d a ABKHASIAN HA,1c a ES b cx,",
   "1d a ES b cx,1c a TE b cx,1d a TE b cx,1c a gj U,1d a gj U,1c a gj U b u,1d a gj U b u,",
   "1c a HA b cx,1d a HA b cx,1c eb TE TSE,1d eb TE TSE,1c a CHE b cx,1d a CHE b cx,",
   "1c a CHE b r u,1d a CHE b r u,1c a SHHA,1d a SHHA,1c a ABKHASIAN CHE,1d a ABKHASIAN CHE,",
   "1c a ABKHASIAN CHE b cx,1d a ABKHASIAN CHE b cx,1a PALOCHKA,1c a ZHE b du,1d a ZHE b du,",
   "1c a KA b al,1d a KA b al,1c a EL b fg,1d a EL b fg,1c a EN b al,1d a EN b al,1c a EN b fg,",
   "1d a EN b fg,1c a KHAKASSIAN CHE,1d a KHAKASSIAN CHE,1c a EM b fg,1d a EM b fg,3PALOCHKA,",
   "1c a A b du,1d a A b du,1c a A b aw,1d a A b aw,1c eb A IE,1d eb A IE,1c a IE b du,",
   "1d a IE b du,1c a SCHWA,1d a SCHWA,1c a SCHWA b aw,1d a SCHWA b aw,1c a ZHE b aw,",
   "1d a ZHE b aw,1c a ZE b aw,1d a ZE b aw,1c a ABKHASIAN DZE,1d a ABKHASIAN DZE,1c a I b cp,",
   "1d a I b cp,1c a I b aw,1d a I b aw,1c a O b aw,1d a O b aw,1c a BARRED O,1d a BARRED O,",
   "1c a BARRED O b aw,1d a BARRED O b aw,1c a E b aw,1d a E b aw,1c a U b cp,1d a U b cp,",
   "1c a U b aw,1d a U b aw,1c a U b k bx,1d a U b k bx,1c a CHE b aw,1d a CHE b aw,",
   "1c a GHE b cx,1d a GHE b cx,1c a YERU b aw,1d a YERU b aw,1c a GHE b u l al,",
   "1d a GHE b u l al,1c a HA b al,1d a HA b al,1c a HA b u,1d a HA b u,1c a KOMI DE,",
   "1d a KOMI DE,1c a KOMI DJE,1d a KOMI DJE,1c a KOMI ZJE,1d a KOMI ZJE,1c a KOMI DZJE,",
   "1d a KOMI DZJE,1c a KOMI LJE,1d a KOMI LJE,1c a KOMI NJE,1d a KOMI NJE,1c a KOMI SJE,",
   "1d a KOMI SJE,1c a KOMI TJE,1d a KOMI TJE,1c a az ZE,1d a az ZE,1c a EL b al,1d a EL b al,",
   "1c a LHA,1d a LHA,1c a RHA,1d a RHA,1c a YAE,1d a YAE,1c a QA,1d a QA,1c a WE,1d a WE,",
   "1c a ALEUT KA,1d a ALEUT KA,1c a EL b ab al,1d a EL b ab al,1c a EN b ab al,1d a EN b ab al,",
   "1c a PE b cx,1d a PE b cx,1c a SHHA b cx,1d a SHHA b cx,1c a EN b n al,1d a EN b n al,",
   "1c a DZZHE,1d a DZZHE,1c a DCHE,1d a DCHE,1c a EL b cx,1d a EL b cx,+1,0ARMENIAN c a AYB,",
   "3BEN,3GIM,3DA,3ECH,3ZA,3EH,3ET,3TO,3ZHE,3INI,3LIWN,3XEH,3CA,3KEN,3HO,3JA,3GHAD,3CHEH,3MEN,",
   "3YI,3NOW,3ff,3VO,3fy,3PEH,3JHEH,3RA,3SEH,3VEW,3TIWN,3lu,3CO,3YIWN,3PIWR,3KEH,3OH,3FEH,+2,",
   "1eq a n bd cj,1mc,1EMPHASIS x,1dt x,1do,1ew x,1fj x,1d a bs AYB,3AYB,3BEN,3GIM,3DA,3ECH,3ZA,",
   "3EH,3ET,3TO,3ZHE,3INI,3LIWN,3XEH,3CA,3KEN,3HO,3JA,3GHAD,3CHEH,3MEN,3YI,3NOW,3ff,3VO,3fy,3PEH,",
   "3JHEH,3RA,3SEH,3VEW,3TIWN,3lu,3CO,3YIWN,3PIWR,3KEH,3OH,3FEH,2eb ECH YIWN,2a YI b u,1fs dq,",
   "1HYPHEN,+2,0RIGHT-FACING ARMENIAN ETERNITY g,0LEFT-FACING ARMENIAN ETERNITY g,",
   "0ARMENIAN DRAM g,+1,0HEBREW eu ETNAHTA,2SEGOL,2SHALSHELET,2ZAQEF QATAN,3GADOL,2TIPEHA,2REVIA,",
   "2ZARQA,2PASHTA,2YETIV,2TEVIR,2GERESH,3MUQDAM,2GERSHAYIM,2QARNEY PARA,2TELISHA GEDOLA,2PAZER,",
   "2ATNAH HAFUKH,2MUNAH,2MAHAPAKH,2MERKHA,3KEFULA,2DARGA,2QADMA,2TELISHA QETANA,2YERAH BEN YOMO,",
   "2OLE,2ILUY,2DEHI,2ZINOR,1x MASORA at,1POINT SHEVA,2HATAF SEGOL,3PATAH,3QAMATS,2HIRIQ,2TSERE,",
   "2SEGOL,2PATAH,2QAMATS,2HOLAM,3HASER jz VAV,2QUBUTS,2im OR MAPIQ,2METEG,1bv MAQAF,1POINT RAFE,",
   "1bv PASEQ,1POINT jq aj,2SIN aj,1bv SOF PASUQ,1x cf aj,2br aj,1bv il HAFUKHA,",
   "1POINT QAMATS QATAN,+8,1a ce,2BET,2nv,2DALET,2HE,2VAV,2ZAYIN,2HET,2TET,2YOD,2p mj,2mj,2LAMED,",
   "2p MEM,2MEM,2p il,2il,2lq,2AYIN,2p PE,2PE,2p TSADI,2TSADI,2QOF,2RESH,2jq,2TAV,+4,1YOD an,",
   "1eb YIDDISH k VAV,3VAV YOD,3k YOD,1bv GERESH,2GERSHAYIM,+b,0jy cs g,1g SANAH,",
   "1FOOTNOTE MARKER,1g SAFHA,2SAMVAT,1cs x i,0jj CUBE ROOT,1FOURTH ROOT,0jy RAY,0jj PER MILLE g,",
   "2el ae g,0AFGHANI g,0jy do,1DATE fm,1POETIC VERSE g,1g MISRA,2SALLALLAHOU ALAYHE WASSALLAM,",
   "2ALAYHE ASSALLAM,2RAHMATULLAH ALAYHE,2RADI ALLAHOU ANHU,2TAKHALLUS,1d dp nl,3eb ce b kg b db,",
   "3ZAIN,2FATHA,2DAMMA,2KASRA,1kq,1a x,1mh OF TEXT x,1dw aj bv x,1ew x,1a KASHMIRI db,2gq,",
   "2ce b MADDA i,4gq i,2kc b gq i,2ce b gq o,2db b gq i,2ce,2BEH,2TEH MARBUTA,3,2THEH,2dj,2dx,",
   "2fk,2DAL,2THAL,2lu,2ZAIN,2kp,2ls,2SAD,2DAD,2nl,2ZAH,2lh,2na,2KEHEH b ad bw i,4q bw o,",
   "2FARSI db b bm V,5ad bw i,5q bw i,1TATWEEL,1a FEH,2QAF,2mj,2kg,2ba,2hm,2mx,2kc,2ce cb,2db,",
   "1FATHATAN,1DAMMATAN,1KASRATAN,1FATHA,1DAMMA,1KASRA,1SHADDA,1SUKUN,1MADDAH i,1gq i,2o,",
   "1SUBSCRIPT ce,1bm DAMMA,1x hm GHUNNA,1ZWARAKAY,1bl g d V i,3bm d V i,3aj o,1az DAMMA,",
   "1FATHA b ad bw,1WAVY gq o,0jj bp cz,2ah,2ad,2q,2ak,2ao,2ca,2av,2aq,2bi,0jy PERCENT g,",
   "1DECIMAL fm,1THOUSANDS fm,1ao eo et,1a lj BEH,3QAF,2ij ce,2ce WASLA,3b WAVY gq i,6o,2dp gq,",
   "4ce,4kc,2U b gq i,2dp gq db,2TTEH,2TTEHEH,2BEEH,2TEH b cj,4q bw i ag,2PEH,2TEHEH,2BEHEH,",
   "2dx b gq i,4ad bw r i,2NYEH,2DYEH,2dx b q bw i,2TCHEH,2TCHEHEH,2DDAL,2DAL b cj,4aj o,6l d nl,",
   "2DAHAL,2DDAHAL,2DUL,2DAL b q bw i ag,4ak bw i,2RREH,2lu b d V,4cj,4aj o,4d V o,4aj o l aj i,",
   "4ad bw i,2JEH,2lu b ak bw i,2kp b aj o l aj i,4q bw o,7l q bw i,2SAD b ad bw o,4q bw i,",
   "2nl b q bw i,2lh b q bw i,2lj FEH,2FEH b aj MOVED o,5o,2VEH,2FEH b q bw o,2PEHEH,2QAF b aj i,",
   "4q bw i,2KEHEH,2SWASH mj,2mj b cj,4aj i,2NG,2mj b q bw o,2GAF,3b cj,2NGOEH,2GAF b ad bw o,",
   "2GUEH,2GAF b q bw i,2kg b d V,4aj i,4q bw i,6o,2hm b aj o,3GHUNNA,2RNOON,2hm b cj,4q bw i,",
   "2mx DOACHASHMEE,2TCHEH b aj i,2mx b db i,3GOAL,4b gq i,2TEH MARBUTA GOAL,2kc b cj,",
   "2KIRGHIZ OE,2OE,2U,2YU,2KIRGHIZ YU,2kc b ad bw i,2VE,2FARSI db,2db b fg,4d V,2kc b aj i,2E,",
   "2db b q bw o,3BARREE,4b gq i,1fs dq,1a AE,1d dp eb SAD b kg b ce cb,4QAF b kg b ce cb,",
   "3ba t e,3kg ce,3dj,3q bw,3kp,1mh OF AYAH,1START OF RUB EL HIZB,1d dp ROUNDED cz,",
   "3UPRIGHT RECTANGULAR cz,3lj HEAD OF fk,3ba j e,2ds kp,2dp MADDA,2kc,2db,2dp db,3hm,",
   "1PLACE OF SAJDAH,1EMPTY df ds dq,3dp dq,1ROUNDED dp dq b FILLED df,1d ds ba,1a DAL b bm V,",
   "2lu b bm V,0EXTENDED jj bp cz,3ah,3ad,3q,3ak,3ao,3ca,3av,3aq,3bi,0jy a ls b aj o,2DAD b aj o,",
   "2na b aj o,1g SINDHI AMPERSAND,3POSTPOSITION MEN,1a mx b bm V,0SYRIAC mh OF PARAGRAPH,",
   "1SUPRALINEAR fs dq,1SUBLINEAR fs dq,1SUPRALINEAR hp,1SUBLINEAR hp,1aa hp,1hp SKEWED n,3h,",
   "1SUPRALINEAR hp SKEWED n,1SUBLINEAR hp SKEWED h,1CONTRACTION,1HARKLEAN OBELUS,2METOBELUS,",
   "2ASTERISCUS,+1,1fj x,1a ALAPH,2ij ALAPH,2BETH,2GAMAL,3GARSHUNI,2DALATH,2lj DALATH RISH,2HE,",
   "2kc,2ZAIN,2HETH,2TETH,3GARSHUNI,2YUDH,3HE,2KAPH,2LAMADH,2MIM,2il,2SEMKATH,2p SEMKATH,2E,2PE,",
   "2az PE,2SADHE,2QAPH,2RISH,2jq,2TAW,2PERSIAN BHETH,3GHAMAL,3DHALATH,1PTHAHA i,2o,2fa,",
   "1ZQAPHA i,2o,2fa,1RBASA i,2o,1fa ZLAMA aa,3ANGULAR,1HBASA i,2o,1HBASA-ESASA fa,1ESASA i,2o,",
   "1RWAHA,1FEMININE aj,1QUSHSHAYA,1RUKKAKHA,1ad r bw i,4o,1q bw i,3o,1kv ec i,3o,1MUSIC,",
   "1BARREKH,+2,1a SOGDIAN ZHAIN,3KHAPH,3FE,0jy a BEH b q bw HORIZONTALLY o,4aj o l q bw i,",
   "4q bw bn ax o,9l ad bw i,4ad bw o l aj i,4bm d V o,4d V,2dx b ad bw i,4q bw bn ax o,",
   "2DAL b ad bw VERTICALLY o l d nl,4bm d V o,2lu b u,2kp b ak bw i,2lh b ad bw i,4q bw bn ag i,",
   "4ad bw VERTICALLY i,2FEH b ad bw o,4q bw bn ax o,2KEHEH b aj i,4q bw i,6bn ax o,2ba b aj i,",
   "5o,2hm b ad bw o,4d nl,5V,2kg b cc,2lu b ad bw VERTICALLY i,4gq i,2kp b ad bw VERTICALLY i,",
   "2dx b d jy a nl o,8l ad bw,2kp b d jy a nl l ad bw,2lu b d jy a nl l ad bw,2dx b d jy a nl i,",
   "2ce b EXTENDED jj bp ad i,7q i,2FARSI db b EXTENDED jj bp ad i,8q i,8ak o,",
   "2kc b EXTENDED jj bp ad i,7q i,2db BARREE b EXTENDED jj bp ad i,8q i,",
   "2dx b EXTENDED jj bp ak o,2kp b EXTENDED jj bp ak i,4bm V,2mj b ad bw i,0THAANA a HAA,",
   "2SHAVIYANI,2NOONU,2RAA,2BAA,2LHAVIYANI,2KAAFU,2ALIFU,2VAAVU,2MEEMU,2FAAFU,2DHAALU,2THAA,",
   "2LAAMU,2GAAFU,2GNAVIYANI,2SEENU,2DAVIYANI,2ZAVIYANI,2TAVIYANI,2YAA,2PAVIYANI,2JAVIYANI,",
   "2CHAVIYANI,2TTAA,2HHAA,2KHAA,2THAALU,2ZAA,2SHEENU,2SAADHU,2DAADHU,2TO,2ZO,2AINU,2GHAINU,",
   "2QAAFU,2WAAVU,1ABAFILI,1AABAAFILI,1IBIFILI,1EEBEEFILI,1UBUFILI,1OOBOOFILI,1EBEFILI,",
   "1EYBEYFILI,1OBOFILI,1OABOAFILI,1SUKUN,1a NAA,+e,0NKO bp cz,2ah,2ad,2q,2ak,2ao,2ca,2av,2aq,",
   "2bi,1a A,2EE,2I,2E,2U,2OO,2O,2DAGBASINNA,2N,2BA,2PA,2TA,2JA,2fy,2DA,2RA,2RRA,2SA,2GBA,2FA,",
   "2KA,2LA,2NA WOLOSO,2MA,2gb,2NA,2HA,2WA,2YA,2gb WOLOSO,2JONA JA,3fy,3RA,1dd ef dp dm,3ds dm,",
   "3RISING dm,2dl DESCENDING dm,3dp dm,3ds dm,3RISING dm,2NASALIZATION x,2k aj i,1dp dm mc,",
   "1ds dm mc,1v OO DENNEN,2GBAKURUNEN,1do,1dt x,1LAJANYALAN,+2,1DANTAYALAN,1DOROME g,1TAMAN g,",
   "0SAMARITAN a ALAF,2BIT,2GAMAN,2DALAT,2IY,2BAA,2ZEN,2IT,2TIT,2YUT,2KAAF,2LABAT,2MIM,2il,",
   "2SINGAAT,2IN,2FI,2TSAADIY,2QUF,2RISH,2SHAN,2TAAF,1x IN,2IN-ALAF,2OCCLUSION,2im,",
   "1eq a EPENTHETIC YUT,1x EPENTHETIC YUT,1bl g dl E,3E,3OVERLONG AA,3dl AA,3AA,3OVERLONG A,",
   "3dl A,3A,1eq a ef A,1bl g ef A,3dl U,3U,1eq a I,1bl g dl I,3I,3O,3SUKUN,1x NEQUDAA,+2,",
   "1bv NEQUDAA,2AFSAAQ,2ANGED,2BAU,2ATMAAU,2SHIYYAALAA,1fj x,1bv MELODIC QITSA,2ZIQAA,2QITSA,",
   "2ZAEF,2TURU,2ARKAANU,2SOF MASHFAAT,2ANNAAU,+1,0MANDAIC a HALQA,2AB,2AG,2AD,2AH,2USHENNA,2AZ,",
   "2IT,2ATT,2AKSA,2AK,2AL,2AM,2AN,2AS,2IN,2AP,2ASZ,2AQ,2AR,2ip,2AT,2DUSHENNA,2KAD,2lh,",
   "1AFFRICATION x,1VOCALIZATION x,1GEMINATION x,+2,1bv,+1,0SYRIAC a MALAYALAM fe,3JA,3gb,3ib,",
   "3iq,3NNNA,3is,3RA,3nr,3LLLA,3jr,+5,0jy a ce b ATTACHED FATHA,5jc h FATHA,4h ab u,4n ab u,",
   "4ATTACHED KASRA,5gh h KASRA,5ROUND aj i,5h ROUND aj,5n ROUND aj,5ROUND aj o,4aj i,",
   "4ATTACHED jc h FATHA l aj i,4h ab u l aj i,4ATTACHED gh h KASRA l aj i,5jc h FATHA l n cj,",
   "4h ab u l n cj,4ATTACHED gh h KASRA l n cj,5h gq,5n gq,1TATWEEL b OVERSTRUCK gq,4kc,3ad bw o,",
   "1a THIN db,1BASELINE ROUND aj,1hn ROUND aj,1a hm b bm d V,2dx b bm d V o,2nl b aj o,4q bw o,",
   "2KEHEH b ad bw VERTICALLY o,1r fg,+1,1POUND x i,1PIASTRE x i,+6,1d dp WORD AL-JUZ,",
   "2ds WORD ISHMAAM,4IMAALA,4TASHEEL,1MADDA WAAJIB,1ij ce MOKHASSAS,1DOUBLED MADDA,",
   "1bd MADDA bz MADDA,1a BEH b d V o,4gq i,2dj b ad bw i,2nl b ad bw i,2FEH b aj o l q bw i,",
   "2QAF b aj o,2kg b k cc,2ba b q bw i,2db b ad bw o l gq i,8aj i,2lu b LOOP,2kc b aj WITHIN,",
   "2ROHINGYA db,2ds ce,2DAL b q bw o,2SAD b q bw o,2GAF b bm u,2gj kc,2ZAIN b bm V i,",
   "2lh b q bw o,2mj b aj o,2QAF b aj o l NO bw i,2BEH b d ba i,2PEH b d ba i,2TEH b d TEH i,",
   "2lu b d hm i,2db b ad bw o l d hm i,2AFRICAN FEH,3QAF,3hm,2PEH b d V,2TEH b d V,2TTEH b d V,",
   "2TCHEH b d V,2KEHEH b d V,2na b q bw i,2AFRICAN QAF b q bw i,2dj b q bw i,6o,",
   "2kg b d jy a nl i,2GRAF,1d FARSI db,2dp FARSI db,3db BARREE b ad bw o,3WORD SAH,3ZAH,",
   "1da ROUND aj i,4o,1SUKUN o,1da at o,2ROUND aj ka at o,1d ds kc,2dp WORD AR-RUB,3SAD,3lh,3QAF,",
   "3hm b KASRA,2ds hm b KASRA,2dp WORD ATH-THALATHA,4AS-SAJDA,4AN-NISF,4SAKTA,4QIF,4WAQFA,",
   "3FOOTNOTE MARKER,3g SAFHA,1DISPUTED mh OF AYAH,1bs DAMMA o,1iu FATHA,2DAMMA,2KASRA,2FATHATAN,",
   "2DAMMATAN,2KASRATAN,1dm ah aj i,2ad bw i,2LOOP i,2ah aj o,2ad bw o,2LOOP o,1dh FATHATAN,",
   "2DAMMATAN,2KASRATAN,1d dp kc,1FATHA b cj,3aj i,1KASRA b aj o,1n ay i,1h ay i,1n ay o,1h ay o,",
   "1k h ay i,5b aj,1h ay i b aj,1DAMMA b aj,1x SIDEWAYS hm GHUNNA,0DEVANAGARI g bm dg,2dg,2cl,",
   "2ei,1a ef A,2A,2AA,2I,2II,2U,2UU,2ci R,3L,2md E,2ef E,2E,2AI,2md O,2ef O,2O,2AU,2KA,2gg,2GA,",
   "2ik,2fe,2CA,2fy,2JA,2ko,2gb,2ib,2gy,2ic,2hk,2iq,2TA,2gn,2DA,2if,2NA,2NNNA,2PA,2hc,2BA,2is,",
   "2MA,2YA,2RA,2RRA,2LA,2nr,2LLLA,2VA,2ff,2jr,2SA,2HA,1bl g OE,3OOE,1g je,2iw,1bl g AA,3I,3II,",
   "3U,3UU,3ci R,4RR,3md E,3ef E,3E,3AI,3md O,3ef O,3O,3AU,1g en,1bl g PRISHTHAMATRA E,3AW,1OM,",
   "1STRESS g UDATTA,3ANUDATTA,1de eu,1bx eu,1bl g md dl E,3UE,3UUE,1a QA,2KHHA,2GHHA,2ZA,2DDDHA,",
   "2RHA,2FA,2YYA,2ci RR,3LL,1bl g ci L,4LL,1hz,1k hz,1bp cz,2ah,2ad,2q,2ak,2ao,2ca,2av,2aq,2bi,",
   "1fj g,1g dp SPACING aj,1a md A,2OE,2OOE,2AW,2UE,2UUE,2MARWARI ic,2ZHA,2ai YA,2GGA,2JJA,",
   "2gd dq,2DDDA,2BBA,0BENGALI ANJI,1g dg,2cl,2ei,+1,1a A,2AA,2I,2II,2U,2UU,2ci R,3L,+2,2E,2AI,",
   "+2,2O,2AU,2KA,2gg,2GA,2ik,2fe,2CA,2fy,2JA,2ko,2gb,2ib,2gy,2ic,2hk,2iq,2TA,2gn,2DA,2if,2NA,+1,",
   "2PA,2hc,2BA,2is,2MA,2YA,2RA,+1,2LA,+3,2ff,2jr,2SA,2HA,+2,1g je,2iw,1bl g AA,3I,3II,3U,3UU,",
   "3ci R,4RR,+2,3E,3AI,+2,3O,3AU,1g en,1a KHANDA TA,+8,1AU mn x,+4,1a RRA,2RHA,+1,2YYA,2ci RR,",
   "3LL,1bl g ci L,4LL,+2,1bp cz,2ah,2ad,2q,2ak,2ao,2ca,2av,2aq,2bi,1a RA b ab cy,4br cy,",
   "1RUPEE x,2g,1CURRENCY NUMERATOR ah,3ad,3q,3ak,3ah LESS THAN kb DENOMINATOR,",
   "2DENOMINATOR SIXTEEN,1ISSHAR,1GANDA x,1a VEDIC cl,1fj g,1SANDHI x,+2,0GURMUKHI g ADAK BINDI,",
   "2BINDI,2ei,+1,1a A,2AA,2I,2II,2U,2UU,+4,2EE,2AI,+2,2OO,2AU,2KA,2gg,2GA,2ik,2fe,2CA,2fy,2JA,",
   "2ko,2gb,2ib,2gy,2ic,2hk,2iq,2TA,2gn,2DA,2if,2NA,+1,2PA,2hc,2BA,2is,2MA,2YA,2RA,+1,2LA,2nr,+1,",
   "2VA,2ff,+1,2SA,2HA,+2,1g je,+1,1bl g AA,3I,3II,3U,3UU,+4,3EE,3AI,+2,3OO,3AU,1g en,+3,2UDAAT,",
   "+7,1a KHHA,2GHHA,2ZA,2RRA,+1,2FA,+7,1bp cz,2ah,2ad,2q,2ak,2ao,2ca,2av,2aq,2bi,1TIPPI,1ADDAK,",
   "1IRI,1URA,1EK ONKAR,1g YAKASH,1fj g,+a,0GUJARATI g dg,2cl,2ei,+1,1a A,2AA,2I,2II,2U,2UU,",
   "2ci R,3L,1bl md E,+1,1a E,2AI,1bl md O,+1,1a O,2AU,2KA,2gg,2GA,2ik,2fe,2CA,2fy,2JA,2ko,2gb,",
   "2ib,2gy,2ic,2hk,2iq,2TA,2gn,2DA,2if,2NA,+1,2PA,2hc,2BA,2is,2MA,2YA,2RA,+1,2LA,2nr,+1,2VA,2ff,",
   "2jr,2SA,2HA,+2,1g je,2iw,1bl g AA,3I,3II,3U,3UU,3ci R,4RR,3md E,+1,3E,3AI,3md O,+1,3O,3AU,",
   "1g en,+2,1OM,+f,1a ci RR,3LL,1bl g ci L,4LL,+2,1bp cz,2ah,2ad,2q,2ak,2ao,2ca,2av,2aq,2bi,",
   "1fj g,1RUPEE g,+7,1a ZHA,1g SUKUN,2SHADDA,2MADDAH,2THREE-DOT je i,2at je i,2TWO-CIRCLE je i,",
   "+1,0ORIYA g dg,2cl,2ei,+1,1a A,2AA,2I,2II,2U,2UU,2ci R,3L,+2,2E,2AI,+2,2O,2AU,2KA,2gg,2GA,",
   "2ik,2fe,2CA,2fy,2JA,2ko,2gb,2ib,2gy,2ic,2hk,2iq,2TA,2gn,2DA,2if,2NA,+1,2PA,2hc,2BA,2is,2MA,",
   "2YA,2RA,+1,2LA,2nr,+1,2VA,2ff,2jr,2SA,2HA,+2,1g je,2iw,1bl g AA,3I,3II,3U,3UU,3ci R,4RR,+2,",
   "3E,3AI,+2,3O,3AU,1g en,+7,2OVERLINE,1AI mn x,1AU mn x,+4,1a RRA,2RHA,+1,2YYA,2ci RR,3LL,",
   "1bl g ci L,4LL,+2,1bp cz,2ah,2ad,2q,2ak,2ao,2ca,2av,2aq,2bi,1ISSHAR,1a WA,1hw ah ex,3bd,",
   "2q jo,2ah SIXTEENTH,3hg,2q SIXTEENTHS,+a,0TAMIL g cl,2ei,+1,1a A,2AA,2I,2II,2U,2UU,+3,2E,2EE,",
   "2AI,+1,2O,2OO,2AU,2KA,+3,2fe,2CA,+1,2JA,+1,2gb,2ib,+3,2iq,2TA,+3,2NA,2NNNA,2PA,+3,2MA,2YA,",
   "2RA,2RRA,2LA,2nr,2LLLA,2VA,2ff,2jr,2SA,2HA,+4,1bl g AA,3I,3II,3U,3UU,+3,3E,3EE,3AI,+1,3O,3OO,",
   "3AU,1g en,+2,1OM,+6,1AU mn x,+e,1bp cz,2ah,2ad,2q,2ak,2ao,2ca,2av,2aq,2bi,1cs el,2ah ac,3ae,",
   "1DAY g,1MONTH g,1YEAR g,1DEBIT g,1CREDIT g,1AS i g,1RUPEE g,1cs g,+5,0TELUGU g dd dg i,2dg,",
   "2cl,2ei,2dd cl i,1a A,2AA,2I,2II,2U,2UU,2ci R,3L,+1,2E,2EE,2AI,+1,2O,2OO,2AU,2KA,2gg,2GA,2ik,",
   "2fe,2CA,2fy,2JA,2ko,2gb,2ib,2gy,2ic,2hk,2iq,2TA,2gn,2DA,2if,2NA,+1,2PA,2hc,2BA,2is,2MA,2YA,",
   "2RA,2RRA,2LA,2nr,2LLLA,2VA,2ff,2jr,2SA,2HA,+2,1g je,2iw,1bl g AA,3I,3II,3U,3UU,3ci R,4RR,+1,",
   "3E,3EE,3AI,+1,3O,3OO,3AU,1g en,+7,1mn x,1AI mn x,+1,1a mr,2DZA,2RRRA,+2,2NAKAARA POLLU,+2,",
   "2ci RR,3LL,1bl g ci L,4LL,+2,1bp cz,2ah,2ad,2q,2ak,2ao,2ca,2av,2aq,2bi,+7,1g SIDDHAM,",
   "1hw bp cz jz ODD POWERS OF ak,3ah jz ODD POWERS OF ak,3ad jz ODD POWERS OF ak,",
   "3q jz ODD POWERS OF ak,3ah jz EVEN POWERS OF ak,3ad jz EVEN POWERS OF ak,",
   "3q jz EVEN POWERS OF ak,1g TUUMU,0KANNADA g SPACING dg,2dg,2cl,2ei,2SIDDHAM,1a A,2AA,2I,2II,",
   "2U,2UU,2ci R,3L,+1,2E,2EE,2AI,+1,2O,2OO,2AU,2KA,2gg,2GA,2ik,2fe,2CA,2fy,2JA,2ko,2gb,2ib,2gy,",
   "2ic,2hk,2iq,2TA,2gn,2DA,2if,2NA,+1,2PA,2hc,2BA,2is,2MA,2YA,2RA,2RRA,2LA,2nr,+1,2VA,2ff,2jr,",
   "2SA,2HA,+2,1g je,2iw,1bl g AA,3I,3II,3U,3UU,3ci R,4RR,+1,3E,3EE,3AI,+1,3O,3OO,3AU,1g en,+7,",
   "1mn x,1AI mn x,+6,1a NAKAARA POLLU,2FA,+1,2ci RR,3LL,1bl g ci L,4LL,+2,1bp cz,2ah,2ad,2q,2ak,",
   "2ao,2ca,2av,2aq,2bi,+1,1g JIHVAMULIYA,2UPADHMANIYA,+d,0MALAYALAM g dd cl i,2dg,2cl,2ei,",
   "1a VEDIC cl,2A,2AA,2I,2II,2U,2UU,2ci R,3L,+1,2E,2EE,2AI,+1,2O,2OO,2AU,2KA,2gg,2GA,2ik,2fe,",
   "2CA,2fy,2JA,2ko,2gb,2ib,2gy,2ic,2hk,2iq,2TA,2gn,2DA,2if,2NA,2NNNA,2PA,2hc,2BA,2is,2MA,2YA,",
   "2RA,2RRA,2LA,2nr,2LLLA,2VA,2ff,2jr,2SA,2HA,2TTTA,1g r cc en,2CIRCULAR en,2iw,1bl g AA,3I,3II,",
   "3U,3UU,3ci R,4RR,+1,3E,3EE,3AI,+1,3O,3OO,3AU,1g en,1a aj REPH,1g PARA,+4,1a CHILLU M,3Y,3LLL,",
   "1AU mn x,1hw ah ONE-HUNDRED-AND-SIXTIETH,3FORTIETH,2q EIGHTIETHS,2ah TWENTIETH,3TENTH,",
   "2q TWENTIETHS,2ah FIFTH,1a ir II,2ci RR,3LL,1bl g ci L,4LL,+2,1bp cz,2ah,2ad,2q,2ak,2ao,2ca,",
   "2av,2aq,2bi,1cs el,2ah ac,3ae,1hw ah ex,3bd,2q jo,2ah SIXTEENTH,3hg,2q SIXTEENTHS,1DATE x,",
   "1a CHILLU NN,3N,3RR,3L,3LL,3K,+1,0SINHALA g dg,2ANUSVARAYA,2VISARGAYA,+1,1a AYANNA,2AAYANNA,",
   "2AEYANNA,2AEEYANNA,2IYANNA,2IIYANNA,2UYANNA,2UUYANNA,2IRUYANNA,2IRUUYANNA,2ILUYANNA,",
   "2ILUUYANNA,2EYANNA,2EEYANNA,2AIYANNA,2OYANNA,2OOYANNA,2AUYANNA,+3,2lf KAYANNA,2ki KAYANNA,",
   "2lf GAYANNA,2ki GAYANNA,2KANTAJA NAASIKYAYA,2SANYAKA GAYANNA,2lf CAYANNA,2ki CAYANNA,",
   "2lf JAYANNA,2ki JAYANNA,2TAALUJA NAASIKYAYA,3SANYOOGA NAAKSIKYAYA,2SANYAKA JAYANNA,",
   "2lf TTAYANNA,2ki TTAYANNA,2lf DDAYANNA,2ki DDAYANNA,2MUURDHAJA NAYANNA,2SANYAKA DDAYANNA,",
   "2lf TAYANNA,2ki TAYANNA,2lf DAYANNA,2ki DAYANNA,2DANTAJA NAYANNA,+1,2SANYAKA DAYANNA,",
   "2lf PAYANNA,2ki PAYANNA,2lf BAYANNA,2ki BAYANNA,2MAYANNA,2AMBA BAYANNA,2YAYANNA,2RAYANNA,+1,",
   "2DANTAJA LAYANNA,+2,2VAYANNA,2TAALUJA SAYANNA,2MUURDHAJA SAYANNA,2DANTAJA SAYANNA,2HAYANNA,",
   "2MUURDHAJA LAYANNA,2FAYANNA,+3,1g AL-LAKUNA,+4,1bl g AELA-PILLA,3KETTI AEDA-PILLA,",
   "3DIGA AEDA-PILLA,3KETTI IS-PILLA,3DIGA IS-PILLA,3KETTI PAA-PILLA,+1,3DIGA PAA-PILLA,+1,",
   "3GAETTA-PILLA,3KOMBUVA,3DIGA KOMBUVA,3KOMBU DEKA,3KOMBUVA HAA AELA-PILLA,5DIGA AELA-PILLA,",
   "5GAYANUKITTA,3GAYANUKITTA,+6,1LITH bp cz,3ah,3ad,3q,3ak,3ao,3ca,3av,3aq,3bi,+2,",
   "1bl g DIGA GAETTA-PILLA,4GAYANUKITTA,1bv KUNDDALIYA,+c,0THAI no KO KAI,2KHO KHAI,3KHUAT,",
   "3KHWAI,3KHON,3RAKHANG,2NGO NGU,2CHO CHAN,3CHING,3CHANG,2SO SO,2CHO CHOE,2YO YING,2DO CHADA,",
   "2TO PATAK,2THO THAN,3NANGMONTHO,3PHUTHAO,2NO NEN,2DO DEK,2TO TAO,2THO THUNG,3THAHAN,3THONG,",
   "2NO NU,2BO BAIMAI,2PO PLA,2PHO PHUNG,2FO FA,2PHO PHAN,2FO FAN,2PHO SAMPHAO,2MO MA,2YO YAK,",
   "2RO RUA,2RU,2LO LING,2LU,2WO WAEN,2SO SALA,3RUSI,3SUA,2HO HIP,2LO CHULA,2O ANG,2HO NOKHUK,",
   "2PAIYANNOI,2SARA A,2MAI HAN-AKAT,2SARA AA,3AM,3I,3II,3UE,3UEE,3U,3UU,2PHINTHU,+4,",
   "1CURRENCY v BAHT,1no SARA E,3AE,3O,3AI MAIMUAN,4MAIMALAI,2LAKKHANGYAO,2MAIYAMOK,2MAITAIKHU,",
   "2MAI EK,3THO,3TRI,3CHATTAWA,2THANTHAKHAT,2NIKHAHIT,2YAMAKKAN,2FONGMAN,1bp cz,2ah,2ad,2q,2ak,",
   "2ao,2ca,2av,2aq,2bi,1no ANGKHANKHU,2KHOMUT,+11,0LAO a KO,2KHO SUNG,+1,3TAM,+1,2PALI ik,2NGO,",
   "2CO,2PALI fy,2SO TAM,+1,2PALI ko,2NYO,2PALI gb,3ib,3gy,3ic,3hk,3iq,2DO,2TO,2THO SUNG,3TAM,",
   "2PALI if,2NO,2BO,2PO,2PHO SUNG,2FO TAM,2PHO TAM,2FO SUNG,2PALI is,2MO,2YO,2LO LING,+1,3LOOT,",
   "+1,2WO,2SANSKRIT ff,3jr,2SO SUNG,2HO SUNG,2PALI nr,2O,2HO TAM,1ELLIPSIS,1bl g A,3MAI KAN,3AA,",
   "3AM,3I,3II,3Y,3YY,3U,3UU,1g PALI en,1bl g MAI KON,1SEMIVOWEL g LO,3NYO,+2,1bl g E,3EI,3O,3AY,",
   "3AI,+1,1KO LA,+1,1dm MAI EK,3THO,3TI,3CATAWA,1CANCELLATION x,1NIGGAHITA,+2,1bp cz,2ah,2ad,2q,",
   "2ak,2ao,2ca,2av,2aq,2bi,+2,1HO NO,2MO,1a KHMU GO,3NYO,+w,0TIBETAN iy OM,",
   "1x GTER YIG MGO TRUNCATED A,5-UM RNAM BCAD MA,6GTER TSHEG MA,2t YIG MGO MDUN MA,",
   "2CLOSING YIG MGO SGAB MA,2CARET YIG MGO PHUR SHAD MA,2YIG MGO TSHEG SHAD MA,2SBRUL SHAD,",
   "2BSKUR YIG MGO,2BKA- SHOG YIG MGO,2INTERSYLLABIC TSHEG,2DELIMITER TSHEG BSTAR,2SHAD,",
   "2NYIS SHAD,2TSHEG SHAD,2NYIS TSHEG SHAD,2RIN CHEN SPUNGS SHAD,2RGYA GRAM SHAD,",
   "2CARET -DZUD RTAGS ME dl CAN,2GTER TSHEG,1LOGOTYPE g CHAD RTAGS,3LHAG RTAGS,",
   "1ASTROLOGICAL g SGRA GCAN -CHAR RTAGS,3-KHYUD PA,3SDONG TSHUGS,1g RDEL DKAR GCIG,4GNYIS,",
   "4GSUM,3NAG GCIG,4GNYIS,3DKAR RDEL NAG,1bp cz,2ah,2ad,2q,2ak,2ao,2ca,2av,2aq,2bi,2bd ah,3ad,",
   "3q,3ak,3ao,3ca,3av,3aq,3bi,3cz,1x BSDUS RTAGS,2NGAS BZUNG NYI ZLA,",
   "2CARET -DZUD RTAGS BZHI MIG CAN,2NGAS BZUNG SGOR RTAGS,2CHE MGO,2mr -PHRU,2GUG RTAGS GYON,",
   "4GYAS,2ANG KHANG GYON,4GYAS,1g YAR TSHES,2MAR TSHES,1a KA,2gg,2GA,2ik,2fe,2CA,2fy,2JA,+1,2gb,",
   "2ib,2gy,2ic,2hk,2iq,2TA,2gn,2DA,2if,2NA,2PA,2hc,2BA,2is,2MA,2mr,2TSHA,2DZA,2DZHA,2WA,2ZHA,",
   "2ZA,2-A,2YA,2RA,2LA,2ff,2jr,2SA,2HA,2A,2KSSA,2FIXED-FORM RA,2KKA,2RRA,+4,1bl g AA,3I,3II,3U,",
   "3UU,3ci R,4RR,4L,4LL,3E,3EE,3O,3OO,1g RJES SU fe RO,2RNAM BCAD,1bl g az I,4II,",
   "1g NYI ZLA NAA DA,2SNA LDAN,1x HALANTA,2PALUTA,1g LCI RTAGS,2YANG RTAGS,2LCE mr CAN,",
   "2MCHU CAN,2GRU CAN RGYINGS,3MED RGYINGS,2bm MCHU CAN,1SUBJOINED g LCE mr CAN,3MCHU CAN,",
   "3bm MCHU CAN,2a KA,3gg,3GA,3ik,3fe,3CA,3fy,3JA,+1,3gb,3ib,3gy,3ic,3hk,3iq,3TA,3gn,3DA,3if,",
   "3NA,3PA,3hc,3BA,3is,3MA,3mr,3TSHA,3DZA,3DZHA,3WA,3ZHA,3ZA,3-A,3YA,3RA,3LA,3ff,3jr,3SA,3HA,3A,",
   "3KSSA,3FIXED-FORM WA,4YA,4RA,+1,1KU RU gg,4BZHI MIG CAN,1CANTILLATION g ai BEAT,3bk BEAT,",
   "3CANG TE-U,3SBUB -CHAL,1v DRIL BU,2RDO RJE,2PADMA GDAN,2RDO RJE RGYA GRAM,2PHUR PA,2NOR BU,",
   "4NYIS -KHYIL,4GSUM -KHYIL,4BZHI -KHYIL,+1,1g RDEL NAG RDEL DKAR,4GSUM,",
   "1x BSKA- SHOG GI MGO RGYAN,2MNYAM YIG GI MGO RGYAN,2NYIS TSHEG,",
   "2t BRDA RNYING YIG MGO MDUN MA,2CLOSING BRDA RNYING YIG MGO SGAB MA,0RIGHT-FACING SVASTI g,",
   "0LEFT-FACING SVASTI g,0RIGHT-FACING SVASTI g b bw,0LEFT-FACING SVASTI g b bw,",
   "0TIBETAN x LEADING MCHAN RTAGS,2TRAILING MCHAN RTAGS,"]

/-! The names of characters from U+1000 to below U+2000: the scripts of Asia, Africa and America. -/

/-- These names, in the writing that `DepView.Text.Names` reads. -/
def syllabaries : List String :=
  ["+11,0MYANMAR a KA,2gg,2GA,2ik,2fe,2CA,2fy,2JA,2ko,2gb,2NNYA,2ib,2gy,2ic,2hk,2iq,2TA,2gn,2DA,",
   "2if,2NA,2PA,2hc,2BA,2is,2MA,2YA,2RA,2LA,2WA,2SA,2HA,2nr,2A,2SHAN A,2I,2II,2U,2UU,2E,2MON E,",
   "2O,2AU,1bl g TALL AA,3AA,3I,3II,3U,3UU,3E,3AI,3MON II,4O,3E i,1g cl,2aj o,2ei,2en,2ASAT,",
   "1fu g bh YA,4RA,4WA,4HA,1a GREAT SA,1bp cz,2ah,2ad,2q,2ak,2ao,2ca,2av,2aq,2bi,1g dk gw,2gw,",
   "1v LOCATIVE,2COMPLETED,2AFOREMENTIONED,2GENITIVE,1a ff,2jr,2ci R,3RR,3L,3LL,1bl g ci R,4RR,",
   "4L,4LL,1a MON fe,3ko,3BBA,3BBE,1fu g MON bh NA,5MA,5LA,1a SGAW KAREN ff,1bl g SGAW KAREN EU,",
   "1dm x SGAW KAREN HATHI,5KE PHO,1a WESTERN PWO KAREN gn,5PWA,1bl g WESTERN PWO KAREN EU,6UE,",
   "1g WESTERN PWO KAREN TONE-1,5TONE-2,5TONE-3,5TONE-4,5TONE-5,1a EASTERN PWO KAREN iq,5YWA,",
   "5GHWA,1bl g GEBA KAREN I,3KAYAH OE,4U,4EE,1a SHAN KA,3gg,3GA,3CA,3ZA,3gb,3DA,3NA,3hc,3FA,3BA,",
   "3gn,3HA,1fu g SHAN bh WA,1bl g SHAN AA,4E,5i,4p Y,1g SHAN TONE-2,3TONE-3,3TONE-5,3TONE-6,",
   "3COUNCIL TONE-2,4TONE-3,4EMPHATIC dm,1a RUMAI PALAUNG FA,1g RUMAI PALAUNG TONE-5,1SHAN bp cz,",
   "3ah,3ad,3q,3ak,3ao,3ca,3av,3aq,3bi,1g KHAMTI TONE-1,3TONE-3,1bl g AITON A,4AI,1v SHAN ah,3dt,",
   "0GEORGIAN c a AN,3BAN,3GAN,3DON,3EN,3VIN,3ZEN,3TAN,3IN,3KAN,3LAS,3MAN,3NAR,3ON,3PAR,3ZHAR,",
   "3RAE,3SAN,3TAR,3UN,3PHAR,3KHAR,3GHAN,3QAR,3jq,3CHIN,3CAN,3JIL,3CIL,3CHAR,3XAN,3JHAN,3HAE,3HE,",
   "3HIE,3WE,3HAR,3HOE,+1,3YN,+5,3AEN,+2,1a AN,2BAN,2GAN,2DON,2EN,2VIN,2ZEN,2TAN,2IN,2KAN,2LAS,",
   "2MAN,2NAR,2ON,2PAR,2ZHAR,2RAE,2SAN,2TAR,2UN,2PHAR,2KHAR,2GHAN,2QAR,2jq,2CHIN,2CAN,2JIL,2CIL,",
   "2CHAR,2XAN,2JHAN,2HAE,2HE,2HIE,2WE,2HAR,2HOE,2FI,2YN,2ELIFI,2bs GAN,2lh,1PARAGRAPH fm,",
   "0eq a GEORGIAN NAR,0GEORGIAN a AEN,2HARD g,2LABIAL g,0HANGUL CHOSEONG KIYEOK,2SSANGKIYEOK,",
   "2NIEUN,2TIKEUT,2SSANGTIKEUT,2RIEUL,2MIEUM,2PIEUP,2SSANGPIEUP,2SIOS,2SSANGSIOS,2IEUNG,2CIEUC,",
   "2SSANGCIEUC,2CHIEUCH,2KHIEUKH,2THIEUTH,2PHIEUPH,2HIEUH,2NIEUN-KIYEOK,2SSANGNIEUN,",
   "2NIEUN-TIKEUT,2NIEUN-PIEUP,2TIKEUT-KIYEOK,2RIEUL-NIEUN,2SSANGRIEUL,2RIEUL-HIEUH,",
   "2KAPYEOUNRIEUL,2MIEUM-PIEUP,2KAPYEOUNMIEUM,2PIEUP-KIYEOK,2PIEUP-NIEUN,2PIEUP-TIKEUT,",
   "2PIEUP-SIOS,2PIEUP-SIOS-KIYEOK,2PIEUP-SIOS-TIKEUT,2PIEUP-SIOS-PIEUP,2PIEUP-SSANGSIOS,",
   "2PIEUP-SIOS-CIEUC,2PIEUP-CIEUC,2PIEUP-CHIEUCH,2PIEUP-THIEUTH,2PIEUP-PHIEUPH,2KAPYEOUNPIEUP,",
   "2KAPYEOUNSSANGPIEUP,2SIOS-KIYEOK,2SIOS-NIEUN,2SIOS-TIKEUT,2SIOS-RIEUL,2SIOS-MIEUM,",
   "2SIOS-PIEUP,2SIOS-PIEUP-KIYEOK,2SIOS-SSANGSIOS,2SIOS-IEUNG,2SIOS-CIEUC,2SIOS-CHIEUCH,",
   "2SIOS-KHIEUKH,2SIOS-THIEUTH,2SIOS-PHIEUPH,2SIOS-HIEUH,2CHITUEUMSIOS,2CHITUEUMSSANGSIOS,",
   "2CEONGCHIEUMSIOS,2CEONGCHIEUMSSANGSIOS,2PANSIOS,2IEUNG-KIYEOK,2IEUNG-TIKEUT,2IEUNG-MIEUM,",
   "2IEUNG-PIEUP,2IEUNG-SIOS,2IEUNG-PANSIOS,2SSANGIEUNG,2IEUNG-CIEUC,2IEUNG-CHIEUCH,",
   "2IEUNG-THIEUTH,2IEUNG-PHIEUPH,2YESIEUNG,2CIEUC-IEUNG,2CHITUEUMCIEUC,2CHITUEUMSSANGCIEUC,",
   "2CEONGCHIEUMCIEUC,2CEONGCHIEUMSSANGCIEUC,2CHIEUCH-KHIEUKH,2CHIEUCH-HIEUH,2CHITUEUMCHIEUCH,",
   "2CEONGCHIEUMCHIEUCH,2PHIEUPH-PIEUP,2KAPYEOUNPHIEUPH,2SSANGHIEUH,2YEORINHIEUH,2KIYEOK-TIKEUT,",
   "2NIEUN-SIOS,2NIEUN-CIEUC,2NIEUN-HIEUH,2TIKEUT-RIEUL,2FILLER,1JUNGSEONG FILLER,2A,2AE,2YA,",
   "2YAE,2EO,2E,2YEO,2YE,2O,2WA,2WAE,2OE,2YO,2U,2WEO,2WE,2WI,2YU,2EU,2YI,2I,2A-O,2A-U,2YA-O,",
   "2YA-YO,2EO-O,2EO-U,2EO-EU,2YEO-O,2YEO-U,2O-EO,2O-E,2O-YE,2O-O,2O-U,2YO-YA,2YO-YAE,2YO-YEO,",
   "2YO-O,2YO-I,2U-A,2U-AE,2U-EO-EU,2U-YE,2U-U,2YU-A,2YU-EO,2YU-E,2YU-YEO,2YU-YE,2YU-U,2YU-I,",
   "2EU-U,2EU-EU,2YI-U,2I-A,2I-YA,2I-O,2I-U,2I-EU,2I-ARAEA,2ARAEA,2ARAEA-EO,2ARAEA-U,2ARAEA-I,",
   "2SSANGARAEA,2A-EU,2YA-U,2YEO-YA,2O-YA,2O-YAE,1JONGSEONG KIYEOK,2SSANGKIYEOK,2KIYEOK-SIOS,",
   "2NIEUN,2NIEUN-CIEUC,2NIEUN-HIEUH,2TIKEUT,2RIEUL,2RIEUL-KIYEOK,2RIEUL-MIEUM,2RIEUL-PIEUP,",
   "2RIEUL-SIOS,2RIEUL-THIEUTH,2RIEUL-PHIEUPH,2RIEUL-HIEUH,2MIEUM,2PIEUP,2PIEUP-SIOS,2SIOS,",
   "2SSANGSIOS,2IEUNG,2CIEUC,2CHIEUCH,2KHIEUKH,2THIEUTH,2PHIEUPH,2HIEUH,2KIYEOK-RIEUL,",
   "2KIYEOK-SIOS-KIYEOK,2NIEUN-KIYEOK,2NIEUN-TIKEUT,2NIEUN-SIOS,2NIEUN-PANSIOS,2NIEUN-THIEUTH,",
   "2TIKEUT-KIYEOK,2TIKEUT-RIEUL,2RIEUL-KIYEOK-SIOS,2RIEUL-NIEUN,2RIEUL-TIKEUT,",
   "2RIEUL-TIKEUT-HIEUH,2SSANGRIEUL,2RIEUL-MIEUM-KIYEOK,2RIEUL-MIEUM-SIOS,2RIEUL-PIEUP-SIOS,",
   "2RIEUL-PIEUP-HIEUH,2RIEUL-KAPYEOUNPIEUP,2RIEUL-SSANGSIOS,2RIEUL-PANSIOS,2RIEUL-KHIEUKH,",
   "2RIEUL-YEORINHIEUH,2MIEUM-KIYEOK,2MIEUM-RIEUL,2MIEUM-PIEUP,2MIEUM-SIOS,2MIEUM-SSANGSIOS,",
   "2MIEUM-PANSIOS,2MIEUM-CHIEUCH,2MIEUM-HIEUH,2KAPYEOUNMIEUM,2PIEUP-RIEUL,2PIEUP-PHIEUPH,",
   "2PIEUP-HIEUH,2KAPYEOUNPIEUP,2SIOS-KIYEOK,2SIOS-TIKEUT,2SIOS-RIEUL,2SIOS-PIEUP,2PANSIOS,",
   "2IEUNG-KIYEOK,2IEUNG-SSANGKIYEOK,2SSANGIEUNG,2IEUNG-KHIEUKH,2YESIEUNG,2YESIEUNG-SIOS,",
   "2YESIEUNG-PANSIOS,2PHIEUPH-PIEUP,2KAPYEOUNPHIEUPH,2HIEUH-NIEUN,2HIEUH-RIEUL,2HIEUH-MIEUM,",
   "2HIEUH-PIEUP,2YEORINHIEUH,2KIYEOK-NIEUN,2KIYEOK-PIEUP,2KIYEOK-CHIEUCH,2KIYEOK-KHIEUKH,",
   "2KIYEOK-HIEUH,2SSANGNIEUN,0ETHIOPIC iy HA,2HU,2HI,2HAA,2HEE,2HE,2HO,2HOA,2LA,2LU,2LI,2LAA,",
   "2LEE,2LE,2LO,2LWA,2HHA,2HHU,2HHI,2HHAA,2HHEE,2HHE,2HHO,2HHWA,2MA,2MU,2MI,2MAA,2MEE,2ME,2MO,",
   "2MWA,2SZA,2SZU,2SZI,2SZAA,2SZEE,2SZE,2SZO,2SZWA,2RA,2RU,2RI,2RAA,2REE,2RE,2RO,2RWA,2SA,2SU,",
   "2SI,2SAA,2SEE,2SE,2SO,2SWA,2ff,2SHU,2SHI,2SHAA,2SHEE,2le,2SHO,2SHWA,2QA,2QU,2QI,2QAA,2QEE,",
   "2QE,2QO,2QOA,2QWA,+1,2QWI,2QWAA,2QWEE,2QWE,+2,2QHA,2QHU,2QHI,2QHAA,2QHEE,2QHE,2QHO,+1,2QHWA,",
   "+1,2QHWI,2QHWAA,2QHWEE,2QHWE,+2,2BA,2BU,2BI,2BAA,2BEE,2BE,2BO,2BWA,2VA,2VU,2VI,2VAA,2VEE,2VE,",
   "2VO,2VWA,2TA,2TU,2TI,2TAA,2TEE,2TE,2TO,2TWA,2CA,2CU,2CI,2CAA,2CEE,2CE,2CO,2CWA,2XA,2XU,2XI,",
   "2XAA,2XEE,2XE,2XO,2XOA,2XWA,+1,2XWI,2XWAA,2XWEE,2XWE,+2,2NA,2NU,2NI,2NAA,2NEE,2NE,2NO,2NWA,",
   "2gb,2NYU,2NYI,2NYAA,2NYEE,2NYE,2NYO,2NYWA,2gd A,3U,3I,3AA,3EE,3E,3O,3WA,2KA,2KU,2KI,2KAA,",
   "2KEE,2KE,2KO,2KOA,2KWA,+1,2KWI,2KWAA,2KWEE,2KWE,+2,2KXA,2KXU,2KXI,2KXAA,2KXEE,2KXE,2KXO,+1,",
   "2KXWA,+1,2KXWI,2KXWAA,2KXWEE,2KXWE,+2,2WA,2WU,2WI,2WAA,2WEE,2WE,2WO,2WOA,2PHARYNGEAL A,3U,3I,",
   "3AA,3EE,3E,3O,+1,2ZA,2ZU,2ZI,2ZAA,2ZEE,2ZE,2ZO,2ZWA,2ZHA,2ZHU,2ZHI,2ZHAA,2ZHEE,2ZHE,2ZHO,",
   "2ZHWA,2YA,2YU,2YI,2YAA,2YEE,2YE,2YO,2YOA,2DA,2DU,2DI,2DAA,2DEE,2DE,2DO,2DWA,2ic,2DDU,2DDI,",
   "2DDAA,2DDEE,2DDE,2DDO,2DDWA,2JA,2JU,2JI,2JAA,2JEE,2JE,2JO,2JWA,2GA,2GU,2GI,2GAA,2GEE,2GE,2GO,",
   "2GOA,2GWA,+1,2GWI,2GWAA,2GWEE,2GWE,+2,2GGA,2GGU,2GGI,2GGAA,2GGEE,2GGE,2GGO,2GGWAA,2gn,2THU,",
   "2THI,2THAA,2THEE,2kb,2THO,2THWA,2fy,2CHU,2CHI,2CHAA,2CHEE,2CHE,2CHO,2CHWA,2hc,2PHU,2PHI,",
   "2PHAA,2PHEE,2PHE,2PHO,2PHWA,2mr,2TSU,2TSI,2TSAA,2TSEE,2TSE,2TSO,2TSWA,2TZA,2TZU,2TZI,2TZAA,",
   "2TZEE,2TZE,2TZO,2TZOA,2FA,2FU,2FI,2FAA,2FEE,2FE,2FO,2FWA,2PA,2PU,2PI,2PAA,2PEE,2PE,2PO,2PWA,",
   "2RYA,2MYA,2FYA,+2,1dd GEMINATION l bl mn x,2bl mn x,2GEMINATION x,1gw x,1WORDSPACE,1fs dq,",
   "1do,1kq,1hp,1PREFACE hp,1ew x,1PARAGRAPH fm,1bp ah,2ad,2q,2ak,2ao,2ca,2av,2aq,2bi,1cs el,2em,",
   "2it,2mi,2ha,2nc,2es,2mg,2fc,2ac,2el ae,+3,1iy SEBATBEIT MWA,2MWI,2MWEE,2MWE,2SEBATBEIT BWA,",
   "2BWI,2BWEE,2BWE,2SEBATBEIT FWA,2FWI,2FWEE,2FWE,2SEBATBEIT PWA,2PWI,2PWEE,2PWE,1TONAL x YIZET,",
   "3DERET,3RIKRIK,3ef RIKRIK,3DIFAT,3KENAT,3CHIRET,3HIDET,3DERET-HIDET,3KURT,+6,0CHEROKEE a A,",
   "2E,2I,2O,2U,2V,2GA,2KA,2GE,2GI,2GO,2GU,2GV,2HA,2HE,2HI,2HO,2HU,2HV,2LA,2LE,2LI,2LO,2LU,2LV,",
   "2MA,2ME,2MI,2MO,2MU,2NA,2HNA,2NAH,2NE,2NI,2NO,2NU,2NV,2QUA,2QUE,2QUI,2QUO,2QUU,2QUV,2SA,2S,",
   "2SE,2SI,2SO,2SU,2SV,2DA,2TA,2DE,2TE,2DI,2TI,2DO,2DU,2DV,2DLA,2TLA,2TLE,2TLI,2TLO,2TLU,2TLV,",
   "2mr,2TSE,2TSI,2TSO,2TSU,2TSV,2WA,2WE,2WI,2WO,2WU,2WV,2YA,2YE,2YI,2YO,2YU,2YV,2MV,+2,1d a YE,",
   "3YI,3YO,3YU,3YV,3MV,+2,0CANADIAN SYLLABICS HYPHEN,2E,2AAI,2I,2II,2O,2OO,2Y-CREE OO,",
   "2CARRIER EE,3I,2A,2AA,2WE,2ap WE,2WI,2ap WI,2WII,2ap WII,2WO,2ap WO,2WOO,2ap WOO,",
   "2NASKAPI WOO,2WA,2ap WA,2WAA,2ap WAA,2NASKAPI WAA,2AI,2Y-CREE W,2gd dq,2p bx,3de,3gh bd cj,",
   "3jc bd cj,3h bd cj,3cj,3k bx,4ef r STROKES,3ab aj,3ef aa u,3bb,3be io,2EN,2IN,2ON,2AN,2PE,",
   "2PAAI,2PI,2PII,2PO,2POO,2Y-CREE POO,2CARRIER HEE,3HI,2PA,2PAA,2PWE,2ap PWE,2PWI,2ap PWI,",
   "2PWII,2ap PWII,2PWO,2ap PWO,2PWOO,2ap PWOO,2PWA,2ap PWA,2PWAA,2ap PWAA,2Y-CREE PWAA,2P,2ap P,",
   "2CARRIER H,2TE,2TAAI,2TI,2TII,2TO,2TOO,2Y-CREE TOO,2CARRIER DEE,3DI,2TA,2TAA,2TWE,2ap TWE,",
   "2TWI,2ap TWI,2TWII,2ap TWII,2ad,2ap ad,2TWOO,2ap TWOO,2TWA,2ap TWA,2TWAA,2ap TWAA,",
   "2NASKAPI TWAA,2T,2TTE,2TTI,2TTO,2ib,2KE,2KAAI,2KI,2KII,2KO,2KOO,2Y-CREE KOO,2KA,2KAA,2KWE,",
   "2ap KWE,2KWI,2ap KWI,2KWII,2ap KWII,2KWO,2ap KWO,2KWOO,2ap KWOO,2KWA,2ap KWA,2KWAA,2ap KWAA,",
   "2NASKAPI KWAA,2K,2KW,2SOUTH-SLAVEY KEH,3KIH,3KOH,3KAH,2CE,2CAAI,2CI,2CII,2CO,2COO,",
   "2Y-CREE COO,2CA,2CAA,2CWE,2ap CWE,2CWI,2ap CWI,2CWII,2ap CWII,2CWO,2ap CWO,2CWOO,2ap CWOO,",
   "2CWA,2ap CWA,2CWAA,2ap CWAA,2NASKAPI CWAA,2C,2SAYISI TH,2ME,2MAAI,2MI,2MII,2MO,2MOO,",
   "2Y-CREE MOO,2MA,2MAA,2MWE,2ap MWE,2MWI,2ap MWI,2MWII,2ap MWII,2MWO,2ap MWO,2MWOO,2ap MWOO,",
   "2MWA,2ap MWA,2MWAA,2ap MWAA,2NASKAPI MWAA,2M,2ap M,2MH,2ATHAPASCAN M,2SAYISI M,2NE,2NAAI,2NI,",
   "2NII,2NO,2NOO,2Y-CREE NOO,2NA,2NAA,2NWE,2ap NWE,2NWA,2ap NWA,2NWAA,2ap NWAA,2NASKAPI NWAA,2N,",
   "2CARRIER NG,2NH,2LE,2LAAI,2LI,2LII,2LO,2LOO,2Y-CREE LOO,2LA,2LAA,2LWE,2ap LWE,2LWI,2ap LWI,",
   "2LWII,2ap LWII,2LWO,2ap LWO,2LWOO,2ap LWOO,2LWA,2ap LWA,2LWAA,2ap LWAA,2L,2ap L,2bh L,2SE,",
   "2SAAI,2SI,2SII,2SO,2SOO,2Y-CREE SOO,2SA,2SAA,2SWE,2ap SWE,2SWI,2ap SWI,2SWII,2ap SWII,2SWO,",
   "2ap SWO,2SWOO,2ap SWOO,2SWA,2ap SWA,2SWAA,2ap SWAA,2NASKAPI SWAA,2S,2ATHAPASCAN S,2SW,",
   "2BLACKFOOT S,2MOOSE-CREE SK,2NASKAPI SKW,3S-W,3SPWA,3STWA,3SKWA,3SCWA,2le,2SHI,2SHII,2SHO,",
   "2SHOO,2ff,2SHAA,2SHWE,2ap SHWE,2SHWI,2ap SHWI,2SHWII,2ap SHWII,2SHWO,2ap SHWO,2SHWOO,",
   "2ap SHWOO,2SHWA,2ap SHWA,2SHWAA,2ap SHWAA,2SH,2YE,2YAAI,2YI,2YII,2YO,2YOO,2Y-CREE YOO,2YA,",
   "2YAA,2YWE,2ap YWE,2YWI,2ap YWI,2YWII,2ap YWII,2YWO,2ap YWO,2YWOO,2ap YWOO,2YWA,2ap YWA,2YWAA,",
   "2ap YWAA,2NASKAPI YWAA,2Y,2BIBLE-CREE Y,2ap Y,2SAYISI YI,2RE,2R-CREE RE,2ap LE,2RAAI,2RI,",
   "2RII,2RO,2ROO,2ap LO,2RA,2RAA,2ap LA,2RWAA,2ap RWAA,2R,2ap R,2bh R,2FE,2FAAI,2FI,2FII,2FO,",
   "2FOO,2FA,2FAA,2FWAA,2ap FWAA,2F,2kb,2N-CREE kb,2THI,2N-CREE THI,2THII,2N-CREE THII,2THO,",
   "2THOO,2gn,2THAA,2THWAA,2ap THWAA,2TH,2TTHE,2TTHI,2TTHO,2gy,2TTH,2TYE,2TYI,2TYO,2TYA,",
   "2NUNAVIK HE,3HI,3HII,3HO,3HOO,3HA,3HAA,3H,2NUNAVUT H,2HK,2QAAI,2QI,2QII,2QO,2QOO,2QA,2QAA,2Q,",
   "2TLHE,2TLHI,2TLHO,2TLHA,2ap RE,3RI,3RO,3RA,2NGAAI,2NGI,2NGII,2NGO,2NGOO,2fe,2NGAA,2NG,2NNG,",
   "2SAYISI le,3SHI,3SHO,3ff,2WOODS-CREE kb,3THI,3THO,3gn,3TH,2LHI,2LHII,2LHO,2LHOO,2LHA,2LHAA,",
   "2LH,2TH-CREE kb,3THI,3THII,3THO,3THOO,3gn,3THAA,3TH,2AIVILIK B,2BLACKFOOT E,3I,3O,3A,3WE,3WI,",
   "3WO,3WA,3NE,3NI,3NO,3NA,3KE,3KI,3KO,3KA,2SAYISI HE,3HI,3HO,3HA,2CARRIER GHU,3GHO,3GHE,3GHEE,",
   "3GHI,3ik,3RU,3RO,3RE,3REE,3RI,3RA,3WU,3WO,3WE,3WEE,3WI,3WA,3HWU,3HWO,3HWE,3HWEE,3HWI,3HWA,",
   "3THU,3THO,3kb,3THEE,3THI,3gn,3TTU,3TTO,3TTE,3TTEE,3TTI,3ib,3PU,3PO,3PE,3PEE,3PI,3PA,3P,3GU,",
   "3GO,3GE,3GEE,3GI,3GA,3KHU,3KHO,3KHE,3KHEE,3KHI,3gg,3KKU,3KKO,3KKE,3KKEE,3KKI,3KKA,3KK,3NU,",
   "3NO,3NE,3NEE,3NI,3NA,3MU,3MO,3ME,3MEE,3MI,3MA,3YU,3YO,3YE,3YEE,3YI,3YA,3JU,2SAYISI JU,",
   "2CARRIER JO,3JE,3JEE,3JI,2SAYISI JI,2CARRIER JA,3JJU,3JJO,3JJE,3JJEE,3JJI,3JJA,3LU,3LO,3LE,",
   "3LEE,3LI,3LA,3DLU,3DLO,3DLE,3DLEE,3DLI,3DLA,3LHU,3LHO,3LHE,3LHEE,3LHI,3LHA,3TLHU,3TLHO,3TLHE,",
   "3TLHEE,3TLHI,3TLHA,3TLU,3TLO,3TLE,3TLEE,3TLI,3TLA,3ZU,3ZO,3ZE,3ZEE,3ZI,3ZA,3Z,3t Z,3DZU,3DZO,",
   "3DZE,3DZEE,3DZI,3DZA,3SU,3SO,3SE,3SEE,3SI,3SA,3SHU,3SHO,3le,3SHEE,3SHI,3ff,3SH,3TSU,3TSO,",
   "3TSE,3TSEE,3TSI,3mr,3CHU,3CHO,3CHE,3CHEE,3CHI,3fy,3TTSU,3TTSO,3TTSE,3TTSEE,3TTSI,3TTSA,",
   "2CHI g,2fs dq,2QAI,2NGAI,2NNGI,2NNGII,2NNGO,2NNGOO,2NNGA,2NNGAA,2WOODS-CREE THWEE,3THWI,",
   "3THWII,3THWO,3THWOO,3THWA,3THWAA,3p TH,2BLACKFOOT W,0OGHAM kl x,1a BEITH,2LUIS,2FEARN,2SAIL,",
   "2NION,2UATH,2DAIR,2TINNE,2COLL,2CEIRT,2MUIN,2GORT,2NGEADAL,2STRAIF,2RUIS,2AILM,2ONN,2UR,",
   "2EADHADH,2IODHADH,2EABHADH,2OR,2UILLEANN,2IFIN,2EAMHANCHOLL,2PEITH,1FEATHER x,1az FEATHER x,",
   "+3,0RUNIC a FEHU FEOH FE F,2V,2URUZ UR U,2YR,2Y,2W,2THURISAZ THURS THORN,2ETH,2ANSUZ A,2OS O,",
   "2AC A,2AESC,2LONG-BRANCH-OSS O,2SHORT-TWIG-OSS O,2O,2OE,2ON,2RAIDO RAD REID R,2KAUNA,2CEN,",
   "2KAUN K,2G,2ENG,2GEBO GYFU G,2np,2WUNJO WYNN W,2HAGLAZ H,2HAEGL H,2LONG-BRANCH-HAGALL H,",
   "2SHORT-TWIG-HAGALL H,2NAUDIZ NYD NAUD N,2SHORT-TWIG-NAUD N,2DOTTED-N,2ISAZ IS ISS I,2E,",
   "2JERAN J,2GER,2LONG-BRANCH-AR AE,2SHORT-TWIG-AR A,2IWAZ EOH,2PERTHO PEORTH P,2ALGIZ EOLHX,",
   "2SOWILO S,2SIGEL LONG-BRANCH-SOL S,2SHORT-TWIG-SOL S,2C,2Z,2TIWAZ TIR TYR T,",
   "2SHORT-TWIG-TYR T,2D,2BERKANAN BEORC BJARKAN B,2SHORT-TWIG-BJARKAN B,2DOTTED-P,2OPEN-P,",
   "2EHWAZ EH E,2MANNAZ MAN M,2LONG-BRANCH-MADR M,2SHORT-TWIG-MADR M,2LAUKAZ LAGU LOGR L,",
   "2DOTTED-L,2INGWAZ,2ING,2DAGAZ DAEG D,2OTHALAN ETHEL O,2EAR,2IOR,2CWEORTH,2CALC,2CEALC,2STAN,",
   "2LONG-BRANCH-YR,2SHORT-TWIG-YR,2ICELANDIC-YR,2Q,2X,1ch bv,1ky bv,1ey bv,1ARLAUG v,",
   "1TVIMADUR v,1BELGTHOR v,1a K,2SH,2OO,2FRANKS CASKET OS,4IS,4EH,4AC,4AESC,+7,0TAGALOG a A,2I,",
   "2U,2KA,2GA,2fe,2TA,2DA,2NA,2PA,2BA,2MA,2YA,2RA,2LA,2WA,2SA,2HA,1bl g I,3U,1g en,2PAMUDPOD,+9,",
   "1a ir RA,0HANUNOO a A,2I,2U,2KA,2GA,2fe,2TA,2DA,2NA,2PA,2BA,2MA,2YA,2RA,2LA,2WA,2SA,2HA,",
   "1bl g I,3U,1g PAMUDPOD,0PHILIPPINE ch bv,1k bv,+9,0BUHID a A,2I,2U,2KA,2GA,2fe,2TA,2DA,2NA,",
   "2PA,2BA,2MA,2YA,2RA,2LA,2WA,2SA,2HA,1bl g I,3U,+c,0TAGBANWA a A,2I,2U,2KA,2GA,2fe,2TA,2DA,",
   "2NA,2PA,2BA,2MA,2YA,+1,2LA,2WA,2SA,+1,1bl g I,3U,+c,0KHMER a KA,2gg,2KO,2KHO,2NGO,2CA,2fy,",
   "2CO,2CHO,2NYO,2DA,2gy,2DO,2TTHO,2NNO,2TA,2gn,2TO,2THO,2NO,2BA,2hc,2PO,2PHO,2MO,2YO,2RO,2LO,",
   "2VO,2ff,2SSO,2SA,2HA,2LA,2QA,1mt bl QAQ,3QAA,3QI,3QII,3QU,3QUK,3QUU,3QUUV,3RY,3RYY,3LY,3LYY,",
   "3QE,3QAI,3QOO TYPE ah,5ad,3QAU,1bl INHERENT AQ,3AA,2g AA,3I,3II,3Y,3YY,3U,3UU,3UA,3OE,3YA,",
   "3IE,3E,3AE,3AI,3OO,3AU,1g NIKAHIT,2REAHMUK,2YUUKALEAPINTU,2MUUSIKATOAN,2TRIISAP,2BANTOC,",
   "2ROBAT,2TOANDAKHIAT,2KAKABAT,2AHSDA,2SAMYOK SANNYA,2VIRIAM,2COENG,2BATHAMASAT,2KHAN,",
   "2BARIYOOSAN,2CAMNUC PII KUUH,2LEK TOO,2BEYYAL,2PHNAEK MUAN,2KOOMUUT,1CURRENCY v RIEL,",
   "1g AVAKRAHASANYA,2ATTHACAN,+2,1bp cz,2ah,2ad,2q,2ak,2ao,2ca,2av,2aq,2bi,+6,1v LEK ATTAK SON,",
   "4MUOY,4PII,4BEI,4BUON,4PRAM,4PRAM-MUOY,4PRAM-PII,4PRAM-BEI,4PRAM-BUON,+6,0MONGOLIAN BIRGA,",
   "1ELLIPSIS,1do,1fs dq,1hp,1ak bw,1TODO SOFT HYPHEN,1SIBE iy BOUNDARY MARKER,1MANCHU do,2fs dq,",
   "1NIRUGU,1FREE VARIATION SELECTOR ah,4ad,4q,1bl fm,1FREE VARIATION SELECTOR ak,1bp cz,2ah,2ad,",
   "2q,2ak,2ao,2ca,2av,2aq,2bi,+6,1a A,2E,2I,2O,2U,2OE,2UE,2EE,2NA,2ANG,2BA,2PA,2QA,2GA,2MA,2LA,",
   "2SA,2ff,2TA,2DA,2fy,2JA,2YA,2RA,2WA,2FA,2KA,2gg,2mr,2ZA,2HAA,2ZRA,2LHA,2ZHI,2CHI,",
   "2TODO dl bl g,3E,3I,3O,3U,3OE,3UE,3ANG,3BA,3PA,3QA,3GA,3MA,3TA,3DA,3fy,3JA,3mr,3YA,3WA,3KA,",
   "3GAA,3HAA,3JIA,3NIA,3DZA,2SIBE E,3I,3IY,3UE,3U,3ANG,3KA,3GA,3HA,3PA,3ff,3TA,3DA,3JA,3FA,3GAA,",
   "3HAA,3mr,3ZA,3RAA,3fy,3ZHA,2MANCHU I,3KA,3RA,3FA,3ZHA,2fy b ad bw,+7,2ALI GALI cl ah,4ei ah,",
   "4DAMARU,4UBADAMA,4bm UBADAMA,4BALUDA,4q BALUDA,4A,4I,4KA,4fe,4CA,4ib,4gy,4ic,4iq,4TA,4DA,4PA,",
   "4hc,4jr,4ZHA,4ZA,4AH,2TODO ALI GALI TA,5ZHA,2MANCHU ALI GALI ik,5fe,5CA,5ko,5ib,5hk,5TA,5if,",
   "5jr,5CYA,5ZHA,5ZA,2ALI GALI bd U,5YA,2MANCHU ALI GALI is,2ALI GALI DAGALGA,",
   "2MANCHU ALI GALI LHA,+5,0CANADIAN SYLLABICS OY,2AY,2AAY,2WAY,2POY,2PAY,2PWOY,2TAY,2KAY,2KWAY,",
   "2MAY,2NOY,2NAY,2LAY,2SOY,2SAY,2SHOY,2SHAY,2SHWOY,2YOY,2YAY,2RAY,2NWI,2OJIBWAY NWI,2NWII,",
   "2OJIBWAY NWII,2NWO,2OJIBWAY NWO,2NWOO,2OJIBWAY NWOO,2RWEE,2RWI,2RWII,2RWO,2RWOO,2RWA,",
   "2OJIBWAY P,3T,3K,3C,3M,3N,3S,3SH,2EASTERN W,2WESTERN W,2p d cj,3hn aj,2R-CREE RWE,2ap LOO,",
   "3LAA,2THWE,2THWA,2TTHWE,2TTHOO,2TTHAA,2TLHWE,2TLHOO,2SAYISI SHWE,3SHOO,3HOO,2CARRIER GWU,",
   "3DENE GEE,3GAA,3GWA,2SAYISI JUU,2CARRIER JWA,2BEAVER DENE L,4R,2CARRIER DENTAL S,+a,",
   "0LIMBU VOWEL-CARRIER a,1a KA,2gg,2GA,2ik,2fe,2CA,2fy,2JA,2ko,2YAN,2TA,2gn,2DA,2if,2NA,2PA,",
   "2hc,2BA,2is,2MA,2YA,2RA,2LA,2WA,2ff,2jr,2SA,2HA,2GYAN,2TRA,+1,1bl g A,3I,3U,3EE,3AI,3OO,3AU,",
   "3E,3O,1SUBJOINED a YA,3RA,3WA,+4,1d a KA,3fe,3cl,3TA,3NA,3PA,3MA,3RA,3LA,1g MUKPHRENG,",
   "2KEMPHRENG,2SA-I,+4,2LOO,+3,1dt x,1ew x,1bp cz,2ah,2ad,2q,2ak,2ao,2ca,2av,2aq,2bi,",
   "0TAI LE a KA,3XA,3fe,3mr,3SA,3YA,3TA,3gn,3LA,3PA,3hc,3MA,3FA,3VA,3HA,3QA,3gg,3TSHA,3NA,3A,3I,",
   "3EE,3EH,3U,3OO,3O,3UE,3E,3AUE,3AI,+2,3TONE-2,3TONE-3,3TONE-4,3TONE-5,3TONE-6,+b,",
   "0NEW TAI LUE a dp QA,4ds QA,4dp KA,5XA,5fe,4ds KA,5XA,5fe,4dp mr,5SA,5YA,4ds mr,5SA,5YA,",
   "4dp TA,5gn,5NA,4ds TA,5gn,5NA,4dp PA,5hc,5MA,4ds PA,5hc,5MA,4dp FA,5VA,5LA,4ds FA,5VA,5LA,",
   "4dp HA,5DA,5BA,4ds HA,5DA,5BA,4dp KVA,5XVA,4ds KVA,5XVA,4dp SUA,4ds SUA,+4,",
   "3bl g bl SHORTENER,5AA,5II,5U,5UU,5E,5AE,5O,5OA,5UE,5AY,5AAY,5UY,5OY,5OAY,5UEY,5IY,3a p V,",
   "5NG,5N,5M,5K,5D,5B,3dm MARK-1,4MARK-2,+6,3bp cz,4ah,4ad,4q,4ak,4ao,4ca,4av,4aq,4bi,",
   "3THAM bp ah,+3,3g LAE,4LAEV,0KHMER v PATHAMASAT,2MUOY KOET,2PII KOET,2BEI KOET,2BUON KOET,",
   "2PRAM KOET,2PRAM-MUOY KOET,2PRAM-PII KOET,2PRAM-BEI KOET,2PRAM-BUON KOET,2DAP KOET,",
   "2DAP-MUOY KOET,2DAP-PII KOET,2DAP-BEI KOET,2DAP-BUON KOET,2DAP-PRAM KOET,2TUTEYASAT,",
   "2MUOY ROC,2PII ROC,2BEI ROC,2BUON ROC,2PRAM ROC,2PRAM-MUOY ROC,2PRAM-PII ROC,2PRAM-BEI ROC,",
   "2PRAM-BUON ROC,2DAP ROC,2DAP-MUOY ROC,2DAP-PII ROC,2DAP-BEI ROC,2DAP-BUON ROC,2DAP-PRAM ROC,",
   "0BUGINESE a KA,2GA,2fe,2NGKA,2PA,2BA,2MA,2MPA,2TA,2DA,2NA,2NRA,2CA,2JA,2gb,2NYCA,2YA,2RA,2LA,",
   "2VA,2SA,2A,2HA,1bl g I,3U,3E,3O,3AE,+2,1PALLAWA,1mh OF gw,0TAI THAM a dp KA,4gg,4KXA,3ds KA,",
   "4KXA,4gg,3fe,3dp CA,4fy,3ds CA,4SA,4fy,3gb,3RATA,3dp RATHA,3DA,3ds RATHA,3RANA,3dp TA,4gn,",
   "3ds TA,4gn,3NA,3BA,3dp PA,4hc,4FA,3ds PA,4FA,4hc,3MA,3ds YA,3dp YA,3RA,3RUE,3LA,3LUE,3WA,",
   "3dp ff,4jr,4SA,4HA,3nr,3A,3ds HA,3I,3II,3U,3UU,3EE,3OO,3LAE,3GREAT SA,2fu g bh RA,5LA,",
   "4LA TANG LAI,2g MAI KANG LAI,2fu g p fe,4ds PA,4dp RATHA OR ds PA,4MA,4BA,4SA,+1,2g SAKOT,",
   "2bl g A,4MAI SAT,4AA,4TALL AA,4I,4II,4UE,4UUE,4U,4UU,4O,4OA o,4OY,4E,4AE,4OO,4AI,4THAM AI,",
   "4OA i,2g MAI KANG,3TONE-1,3TONE-2,3KHUEN TONE-3,4TONE-4,4TONE-5,3RA HAAM,3MAI SAM,",
   "3KHUEN-LUE KARAN,+2,2dd jw aj,2HORA bp cz,4ah,4ad,4q,4ak,4ao,4ca,4av,4aq,4bi,+6,2THAM bp cz,",
   "4ah,4ad,4q,4ak,4ao,4ca,4av,4aq,4bi,+6,2g WIANG,3WIANGWAAK,3SAWAN,3KEOW,3HOY,3DOKMAI,",
   "3az cd RANA,3MAI YAMOK,3KAAN,3KAANKUU,3SATKAAN,3SATKAANKUU,3HANG,3CAANG,+2,0dd DOUBLED am eu,",
   "1DIAERESIS-RING,1INFINITY,1ag f,1dw aj,1X-X o,1WIGGLY ec o,1dh x o,1k dh x o,",
   "1bk CENTRALIZATION u o,1STRONG CENTRALIZATION u o,1PARENTHESES i,1k PARENTHESES i,",
   "1PARENTHESES o,2hi,1ed d a W o,4bs W o,1n by i n,1h by i h,1n by o n,1h by o h,",
   "1as BRACKETS i,1cs g i,1bm k ARCH i,1bb g i,1k bb g i,4o,1dw bx eu,1ed d a ja G,5R,5T,+1d,",
   "0BALINESE g ULU RICEM,3md,2CECEK,2SURANG,2BISAH,1a AKARA,3TEDUNG,2IKARA,3TEDUNG,2UKARA,",
   "3TEDUNG,2RA REPA,4TEDUNG,2LA LENGA,4TEDUNG,2EKARA,2AIKARA,2OKARA,3TEDUNG,2KA,3MAHAPRANA,2GA,",
   "3GORA,2fe,2CA,3LACA,2JA,3JERA,2gb,2TA LATIK,3MURDA MAHAPRANA,2DA MURDA ALPAPRANA,4MAHAPRANA,",
   "2NA RAMBAT,2TA,3TAWA,2DA,3MADU,2NA,2PA,3KAPAL,2BA,3KEMBANG,2MA,2YA,2RA,2LA,2WA,2SA SAGA,",
   "3SAPA,3,2HA,1g REREKAN,1bl g TEDUNG,3ULU,4SARI,3SUKU,4ILUT,3RA REPA,5TEDUNG,3LA LENGA,",
   "5TEDUNG,3TALING,4REPA,4TEDUNG,4REPA TEDUNG,3PEPET,4TEDUNG,1ADEG ADEG,1a mj SASAK,2KHOT SASAK,",
   "2TZIR SASAK,2EF SASAK,2VE SASAK,2ZAL SASAK,2ASYURA SASAK,2ir JNYA,+3,1bp cz,2ah,2ad,2q,2ak,",
   "2ao,2ca,2av,2aq,2bi,1PANTI,1PAMADA,1WINDU,1CARIK PAMUNGKAH,2SIKI,2PAREREN,1PAMENENG,",
   "1ni v DONG,3DENG,3DUNG,3DANG,4SURANG,3DING,3DAENG,3DEUNG,3DAING,3DANG GEDE,3dd TEGEH,4ENDEP,",
   "4KEMPUL,4KEMPLI,4JEGOGAN,4KEMPUL b JEGOGAN,4KEMPLI b JEGOGAN,4BENDE,4GONG,3RIGHT-HAND dh DUG,",
   "5DAG,4fq TUK,5TAK,3LEFT-HAND dh PANG,5PUNG,4fq PLAK,5PLUK,4dh PING,1PANTI LANTANG,",
   "1PAMADA LANTANG,+1,0SUNDANESE g PANYECEK,2PANGLAYAR,2PANGWISAD,1a A,2I,2U,2AE,2O,2E,2EU,2KA,",
   "2QA,2GA,2fe,2CA,2JA,2ZA,2gb,2TA,2DA,2NA,2PA,2FA,2VA,2BA,2MA,2YA,2RA,2LA,2WA,2SA,2XA,2HA,",
   "1fu g PAMINGKAL,3PANYAKRA,3PANYIKU,1bl g PANGHULU,3PANYUKU,3PANAELAENG,3PANOLONG,3PAMEPET,",
   "3PANEULEUNG,1g PAMAAEH,2en,1fu g PASANGAN MA,4WA,1a gg,2SYA,1bp cz,2ah,2ad,2q,2ak,2ao,2ca,",
   "2av,2aq,2bi,1iw,1a REU,2LEU,2is,2p K,3M,0BATAK a A,2kk A,2HA,2kk HA,2MANDAILING HA,2BA,",
   "2KARO BA,2PA,2kk PA,2NA,2MANDAILING NA,2WA,2kk WA,2PAKPAK WA,2GA,2kk GA,2JA,2DA,2RA,2kk RA,",
   "2MA,2kk MA,2SOUTHERN TA,2NORTHERN TA,2SA,2kk SA,2MANDAILING SA,2YA,2kk YA,2fe,2LA,2kk LA,2gb,",
   "2CA,2NDA,2MBA,2I,2U,1g TOMPI,1bl g E,3PAKPAK E,3EE,3I,3KARO I,3O,3KARO O,3U,4jz kk SA,",
   "1fu g NG,3H,1PANGOLAT,1PANONGONAN,+8,1v BINDU NA METEK,3PINARBORAS,3JUDUL,3PANGOLAT,",
   "0LEPCHA a KA,2KLA,2gg,2GA,2GLA,2fe,2CA,2fy,2JA,2gb,2TA,2gn,2DA,2NA,2PA,2PLA,2hc,2FA,2FLA,2BA,",
   "2BLA,2MA,2MLA,2mr,2TSHA,2DZA,2YA,2RA,2LA,2HA,2HLA,2VA,2SA,2ff,2WA,2A,1SUBJOINED a YA,3RA,",
   "1bl g AA,3I,3O,3OO,3U,3UU,3E,1fu g K,3M,3L,3N,3P,3R,3T,3NYIN-DO,3KANG,1g RAN,2je,+3,",
   "1bv TA-ROL,2NYET THYOOM TA-ROL,2CER-WA,2TSHOOK CER-WA,3,1bp cz,2ah,2ad,2q,2ak,2ao,2ca,2av,",
   "2aq,2bi,+3,1a ib,2gy,2ic,0OL CHIKI bp cz,3ah,3ad,3q,3ak,3ao,3ca,3av,3aq,3bi,2a LA,3AT,3AG,",
   "3ANG,3AL,3LAA,3AAK,3AAJ,3AAM,3AAW,3LI,3IS,3IH,3INY,3IR,3LU,3UC,3UD,3UNN,3UY,3LE,3EP,3EDD,3EN,",
   "3ERR,3LO,3OTT,3OB,3OV,3OH,2MU TTUDDAG,2GAAHLAA TTUDDAAG,2MU-GAAHLAA TTUDDAAG,2RELAA,",
   "2PHAARKAA,2AHAD,2bv MUCAAD,3k MUCAAD,0kd d a ROUNDED VE,3LONG-LEGGED DE,3NARROW O,3WIDE ES,",
   "3TALL TE,3THREE-LEGGED TE,3TALL HARD g,4YAT,3UNBLENDED UK,+7,0GEORGIAN MTAVRULI c a AN,4BAN,",
   "4GAN,4DON,4EN,4VIN,4ZEN,4TAN,4IN,4KAN,4LAS,4MAN,4NAR,4ON,4PAR,4ZHAR,4RAE,4SAN,4TAR,4UN,4PHAR,",
   "4KHAR,4GHAN,4QAR,4jq,4CHIN,4CAN,4JIL,4CIL,4CHAR,4XAN,4JHAN,4HAE,4HE,4HIE,4WE,4HAR,4HOE,4FI,",
   "4YN,4ELIFI,4bs GAN,4lh,+2,4AEN,4HARD g,4LABIAL g,0SUNDANESE bv BINDU SURYA,3PANGLONG,",
   "3PURNAMA,3CAKRA,3LEU SATANGA,3KA SATANGA,3DA SATANGA,3BA SATANGA,+8,0VEDIC dm KARSHANA,",
   "2SHARA,2PRENKHA,1g NIHSHVASA,2YAJURVEDIC MIDLINE SVARITA,",
   "1dm YAJURVEDIC AGGRAVATED mt SVARITA,3mt SVARITA,3KATHAKA mt SVARITA,2md o,",
   "2YAJURVEDIC KATHAKA mt SVARITA SCHROEDER,2k SVARITA,2dw SVARITA,2KATHAKA ANUDATTA,2aj o,",
   "2ad bw o,2q bw o,2RIGVEDIC KASHMIRI mt SVARITA,2ATHARVAVEDIC mt SVARITA,1g ei SVARITA,",
   "3UDATTA,2az ei UDATTA,2ei ANUDATTA,2az ei ANUDATTA,2ei UDATTA b fg,3ANUDATTA b fg,",
   "2cl ANTARGOMUKHA,3BAHIRGOMUKHA,3VAMAGOMUKHA,4b fg,2TIRYAK,2HEXIFORM dl cl,2dl cl,",
   "2RTHANG dl cl,2cl UBHAYATO MUKHA,2ARDHAVISARGA,2cd ARDHAVISARGA,1dm md i,1g JIHVAMULIYA,",
   "2UPADHMANIYA,2ATIKRAMA,1dm cj i,2k cj i,1g k cl ANTARGOMUKHA,+5,0ed a d c A,4AE,1d a bs AE,",
   "1a d c BARRED B,4C,4D,4ETH,4E,1d a bs dh E,4I,1a d c J,4K,4L b u,4M,4az N,4O,4dh O,",
   "1d a SIDEWAYS O,4dh O,4O b u,3bs OE,1a d c OU,1d a jc bd O,3gh bd O,1a d c P,4az R,4bs R,4T,",
   "4U,1d a SIDEWAYS U,4DIAERESIZED U,4bs M,1a d c V,4W,4Z,4EZH,2VOICED LARYNGEAL SPIRANT,2lh,",
   "0jd a d c kh,4LAMDA,4PI,4nt,4PSI,0kd a d c EL,0eq a c A,3AE,3B,3BARRED B,3D,3E,3az E,3G,3H,",
   "3I,3J,3K,3L,3M,3N,3az N,3O,3OU,3P,3R,3T,3U,3W,2d A,3bs A,3gz,3bs AE,3B,3D,3E,3SCHWA,3dh E,",
   "3bs dh E,3G,3bs I,3K,3M,3ENG,3O,3dh O,3jc bd O,3gh bd O,3P,3T,3U,3SIDEWAYS U,3bs M,3V,3lh,",
   "3BETA,3jd kh,3lg,3jd PHI,3CHI,0ed SUBSCRIPT d a I,4R,4U,4V,0jd SUBSCRIPT d a BETA,4kh,4nt,",
   "4PHI,4CHI,0ed d a UE,3B b ab bo,3D b ab bo,3F b ab bo,3M b ab bo,3N b ab bo,3P b ab bo,",
   "3R b ab bo,5FISHHOOK l ab bo,3S b ab bo,3T b ab bo,3Z b ab bo,3bs G,0eq a kd EN,0ed d a ja G,",
   "3TH b STRIKETHROUGH,2c a I b u,2a ji b u,3P b u,2c a U b u,2a ge b u,3B b fx al,3D b fx al,",
   "3F b fx al,3G b fx al,3K b fx al,3L b fx al,3M b fx al,3N b fx al,3P b fx al,3R b fx al,",
   "3S b fx al,3ESH b fx al,3V b fx al,3X b fx al,3Z b fx al,3A b cu al,3gz b cu al,3D b al l fg,",
   "3E b cu al,3dh E b cu al,3az dh E b cu al,3SCHWA b cu al,3I b cu al,3dh O b cu al,",
   "3ESH b cu al,3U b cu al,3EZH b cu al,0eq a d bs gz,3C,4b ms,3ETH,3az dh E,3F,3lj J b u,3ig G,",
   "3bs H,3I b u,3ji,3c I,5b u,3J b kn,3L b cu al,5fx al,3c L,3M b al,3bs M b dl LEG,3N b n al,",
   "5cu al,3c N,3BARRED O,3PHI,3S b al,3ESH,3T b fx al,3U cc,3ge,3c U,3V b al,3bs V,3Z,4b cu al,",
   "5ms,3EZH,3jf,0dd fa de eu,2bx eu,1SNAKE o,1SUSPENSION x,1MACRON-ACUTE,1GRAVE-MACRON,",
   "1MACRON-GRAVE,1ACUTE-MACRON,1GRAVE-ACUTE-GRAVE,1ACUTE-GRAVE-ACUTE,1ed d a R o,1BREVE-MACRON,",
   "1MACRON-BREVE,1k am i,1mp i,1ZIGZAG o,1IS o,1UR i,1US i,1ed d a FLATTENED dh A i,4AE,4AO,4AV,",
   "4C fw,4ja D,4ETH,4G,2a d c G,2d a K,4L,2a d c L,5M,2d a N,2a d c N,5R,2d a R ROTUNDA,4S,",
   "4dl S,4Z,4gz,4B,4BETA,4SCHWA,4F,4L b k ab bo,4O b bk CENTRALIZATION u,4P,4ESH,",
   "4U b bk CENTRALIZATION u,4W,4A b aw,4O b aw,4U b aw,1UP io i,1KAVYKA i h,3n,1aj i n,",
   "1WIDE bm BRIDGE o,1aj o n,1DELETION x,1k bm du o,1ll bf TO o,1n ay i,1h ay l be ay o,",
   "0ed c a A b cj o,1d a A b cj o,1c a B b aj i,1d a B b aj i,1c a B b aj o,1d a B b aj o,",
   "1c a B b ec o,1d a B b ec o,1c a C b fw l bx,1d a C b fw l bx,1c a D b aj i,1d a D b aj i,",
   "1c a D b aj o,1d a D b aj o,1c a D b ec o,1d a D b ec o,1c a D b fw,1d a D b fw,",
   "1c a D b am o,1d a D b am o,1c a E b cp l de,1d a E b cp l de,1c a E b cp l bx,",
   "1d a E b cp l bx,1c a E b am o,1d a E b am o,1c a E b bo o,1d a E b bo o,1c a E b fw l du,",
   "1d a E b fw l du,1c a F b aj i,1d a F b aj i,1c a G b cp,1d a G b cp,1c a H b aj i,",
   "1d a H b aj i,1c a H b aj o,1d a H b aj o,1c a H b aw,1d a H b aw,1c a H b fw,1d a H b fw,",
   "1c a H b du o,1d a H b du o,1c a I b bo o,1d a I b bo o,1c a I b aw l bx,1d a I b aw l bx,",
   "1c a K b bx,1d a K b bx,1c a K b aj o,1d a K b aj o,1c a K b ec o,1d a K b ec o,",
   "1c a L b aj o,1d a L b aj o,1c a L b aj o l cp,1d a L b aj o l cp,1c a L b ec o,",
   "1d a L b ec o,1c a L b am o,1d a L b am o,1c a M b bx,1d a M b bx,1c a M b aj i,",
   "1d a M b aj i,1c a M b aj o,1d a M b aj o,1c a N b aj i,1d a N b aj i,1c a N b aj o,",
   "1d a N b aj o,1c a N b ec o,1d a N b ec o,1c a N b am o,1d a N b am o,1c a O b bo l bx,",
   "1d a O b bo l bx,1c a O b bo l aw,1d a O b bo l aw,1c a O b cp l de,1d a O b cp l de,",
   "1c a O b cp l bx,1d a O b cp l bx,1c a P b bx,1d a P b bx,1c a P b aj i,1d a P b aj i,",
   "1c a R b aj i,1d a R b aj i,1c a R b aj o,1d a R b aj o,1c a R b aj o l cp,",
   "1d a R b aj o l cp,1c a R b ec o,1d a R b ec o,1c a S b aj i,1d a S b aj i,1c a S b aj o,",
   "1d a S b aj o,1c a S b bx l aj i,1d a S b bx l aj i,1c a S b fd l aj i,1d a S b fd l aj i,",
   "1c a S b aj o l aj i,1d a S b aj o l aj i,1c a T b aj i,1d a T b aj i,1c a T b aj o,",
   "1d a T b aj o,1c a T b ec o,1d a T b ec o,1c a T b am o,1d a T b am o,1c a U b aw o,",
   "1d a U b aw o,1c a U b bo o,1d a U b bo o,1c a U b am o,1d a U b am o,1c a U b bo l bx,",
   "1d a U b bo l bx,1c a U b cp l aw,1d a U b cp l aw,1c a V b bo,1d a V b bo,1c a V b aj o,",
   "1d a V b aj o,1c a W b de,1d a W b de,1c a W b bx,1d a W b bx,1c a W b aw,1d a W b aw,",
   "1c a W b aj i,1d a W b aj i,1c a W b aj o,1d a W b aj o,1c a X b aj i,1d a X b aj i,",
   "1c a X b aw,1d a X b aw,1c a Y b aj i,1d a Y b aj i,1c a Z b am,1d a Z b am,1c a Z b aj o,",
   "1d a Z b aj o,1c a Z b ec o,1d a Z b ec o,3H b ec o,3T b aw,3W b cj i,3Y b cj i,3A b h bd cj,",
   "3dl S b aj i,6cy u,6dp u,1c a SHARP S,1d a lg,1c a A b aj o,1d a A b aj o,1c a A b al i,",
   "1d a A b al i,1c a A b am l bx,1d a A b am l bx,1c a A b am l de,1d a A b am l de,",
   "1c a A b am l al i,1d a A b am l al i,1c a A b am l bo,1d a A b am l bo,1c a A b am l aj o,",
   "1d a A b am l aj o,1c a A b du l bx,1d a A b du l bx,1c a A b du l de,1d a A b du l de,",
   "1c a A b du l al i,1d a A b du l al i,1c a A b du l bo,1d a A b du l bo,1c a A b du l aj o,",
   "1d a A b du l aj o,1c a E b aj o,1d a E b aj o,1c a E b al i,1d a E b al i,1c a E b bo,",
   "1d a E b bo,1c a E b am l bx,1d a E b am l bx,1c a E b am l de,1d a E b am l de,",
   "1c a E b am l al i,1d a E b am l al i,1c a E b am l bo,1d a E b am l bo,1c a E b am l aj o,",
   "1d a E b am l aj o,1c a I b al i,1d a I b al i,1c a I b aj o,1d a I b aj o,1c a O b aj o,",
   "1d a O b aj o,1c a O b al i,1d a O b al i,1c a O b am l bx,1d a O b am l bx,1c a O b am l de,",
   "1d a O b am l de,1c a O b am l al i,1d a O b am l al i,1c a O b am l bo,1d a O b am l bo,",
   "1c a O b am l aj o,1d a O b am l aj o,1c a O b in l bx,1d a O b in l bx,1c a O b in l de,",
   "1d a O b in l de,1c a O b in l al i,1d a O b in l al i,1c a O b in l bo,1d a O b in l bo,",
   "1c a O b in l aj o,1d a O b in l aj o,1c a U b aj o,1d a U b aj o,1c a U b al i,",
   "1d a U b al i,1c a U b in l bx,1d a U b in l bx,1c a U b in l de,1d a U b in l de,",
   "1c a U b in l al i,1d a U b in l al i,1c a U b in l bo,1d a U b in l bo,1c a U b in l aj o,",
   "1d a U b in l aj o,1c a Y b de,1d a Y b de,1c a Y b aj o,1d a Y b aj o,1c a Y b al i,",
   "1d a Y b al i,1c a Y b bo,1d a Y b bo,1c a MIDDLE-WELSH LL,1d a MIDDLE-WELSH LL,",
   "1c a MIDDLE-WELSH V,1d a MIDDLE-WELSH V,1c a Y b LOOP,1d a Y b LOOP,0jd d a gz b cq,5co,",
   "5cq l dn,5co l dn,5cq l ek,5co l ek,5cq l bu,5co l bu,1c a gz b cq,5co,5cq l dn,5co l dn,",
   "5cq l ek,5co l ek,5cq l bu,5co l bu,1d a go b cq,5co,5cq l dn,5co l dn,5cq l ek,5co l ek,+2,",
   "1c a go b cq,5co,5cq l dn,5co l dn,5cq l ek,5co l ek,+2,1d a ETA b cq,5co,5cq l dn,5co l dn,",
   "5cq l ek,5co l ek,5cq l bu,5co l bu,1c a ETA b cq,5co,5cq l dn,5co l dn,5cq l ek,5co l ek,",
   "5cq l bu,5co l bu,1d a ji b cq,5co,5cq l dn,5co l dn,5cq l ek,5co l ek,5cq l bu,5co l bu,",
   "1c a ji b cq,5co,5cq l dn,5co l dn,5cq l ek,5co l ek,5cq l bu,5co l bu,1d a jb b cq,5co,",
   "5cq l dn,5co l dn,5cq l ek,5co l ek,+2,1c a jb b cq,5co,5cq l dn,5co l dn,5cq l ek,5co l ek,",
   "+2,1d a ge b cq,5co,5cq l dn,5co l dn,5cq l ek,5co l ek,5cq l bu,5co l bu,+1,1c a ge b co,+1,",
   "6l dn,+1,7ek,+1,7bu,1d a gl b cq,5co,5cq l dn,5co l dn,5cq l ek,5co l ek,5cq l bu,5co l bu,",
   "1c a gl b cq,5co,5cq l dn,5co l dn,5cq l ek,5co l ek,5cq l bu,5co l bu,1d a gz b dn,5ek,",
   "3go b dn,5ek,3ETA b dn,5ek,3ji b dn,5ek,3jb b dn,5ek,3ge b dn,5ek,3gl b dn,5ek,+2,",
   "3gz b cq l bt,5co l bt,5cq l dn l bt,5co l dn l bt,5cq l ek l bt,5co l ek l bt,5cq l bu l bt,",
   "5co l bu l bt,1c a gz b cq l cn,5co l cn,5cq l dn l cn,5co l dn l cn,5cq l ek l cn,",
   "5co l ek l cn,5cq l bu l cn,5co l bu l cn,1d a ETA b cq l bt,5co l bt,5cq l dn l bt,",
   "5co l dn l bt,5cq l ek l bt,5co l ek l bt,5cq l bu l bt,5co l bu l bt,1c a ETA b cq l cn,",
   "5co l cn,5cq l dn l cn,5co l dn l cn,5cq l ek l cn,5co l ek l cn,5cq l bu l cn,5co l bu l cn,",
   "1d a gl b cq l bt,5co l bt,5cq l dn l bt,5co l dn l bt,5cq l ek l bt,5co l ek l bt,",
   "5cq l bu l bt,5co l bu l bt,1c a gl b cq l cn,5co l cn,5cq l dn l cn,5co l dn l cn,",
   "5cq l ek l cn,5co l ek l cn,5cq l bu l cn,5co l bu l cn,1d a gz b VRACHY,5cp,5dn l bt,5bt,",
   "5ek l bt,+1,5bu,6l bt,1c a gz b VRACHY,5cp,5dn,5ek,5cn,1KORONIS,1cn,1cq,1bu,1iz l bu,",
   "1d a ETA b dn l bt,5bt,5ek l bt,+1,5bu,6l bt,1c a go b dn,5ek,3ETA b dn,5ek,5cn,1cq l dn,3ek,",
   "3bu,1d a ji b VRACHY,5cp,5iz l dn,7ek,+2,5bu,5iz l bu,1c a ji b VRACHY,5cp,5dn,5ek,+1,",
   "1co l dn,3ek,3bu,1d a ge b VRACHY,5cp,5iz l dn,7ek,3nt b cq,5co,3ge b bu,5iz l bu,",
   "1c a ge b VRACHY,5cp,5dn,5ek,3nt b co,1iz l dn,3ek,1dn,+2,1d a gl b dn l bt,5bt,5ek l bt,+1,",
   "5bu,6l bt,1c a jb b dn,5ek,3gl b dn,5ek,5cn,1ek,1co,"]

/-! The names of characters from U+2000 to below U+3000: punctuation, arrows and mathematics. -/

/-- These names, in the writing that `DepView.Text.Names` reads. -/
def symbols : List String :=
  ["+1,0EN QUAD,0EM QUAD,0EN kl,0EM kl,0THREE-PER-EM kl,0FOUR-PER-EM kl,0SIX-PER-EM kl,",
   "0FIGURE kl,0bv kl,0THIN kl,0HAIR kl,0cz WIDTH kl,2NON-JOINER,2JOINER,0LEFT-TO-RIGHT x,",
   "0RIGHT-TO-LEFT x,0HYPHEN,0NON-BREAKING HYPHEN,0FIGURE hd,0EN hd,0EM hd,0aa cc,0k r ec,1ds ec,",
   "0n ch dy x,0h ch dy x,0ch LOW-9 dy x,1HIGH-REVERSED-9 dy x,0n k dy x,0h k dy x,0k LOW-9 dy x,",
   "1HIGH-REVERSED-9 dy x,0DAGGER,0k DAGGER,0nf,0fh nf,0ah aj LEADER,0ad aj LEADER,0aa ELLIPSIS,",
   "0HYPHENATION POINT,0ec fm,0PARAGRAPH fm,0LEFT-TO-RIGHT EMBEDDING,0RIGHT-TO-LEFT EMBEDDING,",
   "0POP DIRECTIONAL FORMATTING,0LEFT-TO-RIGHT OVERRIDE,0RIGHT-TO-LEFT OVERRIDE,",
   "0NARROW NO-BREAK kl,0PER MILLE g,1el ae g,0PRIME,0k PRIME,0dw PRIME,0az PRIME,1k PRIME,",
   "1dw PRIME,0CARET,0ch ee dz dy x,1di dz dy x,0REFERENCE x,0k dt x,0INTERROBANG,0OVERLINE,",
   "0UNDERTIE,0no TIE,0CARET INSERTION POINT,0ASTERISM,0HYPHEN nf,0hw SLASH,0n as af b QUILL,",
   "0h as af b QUILL,0k ew x,0ew dt x,0dt ew x,0TIRONIAN g ET,0az PILCROW g,0w s nf,1m nf,0ds cw,",
   "0az kq,0CLOSE UP,0ad ASTERISKS ALIGNED VERTICALLY,0COMMERCIAL mo g,0SWUNG hd,0bm UNDERTIE,",
   "0FLOWER bv x,0q aj bv,0li PRIME,0ak aj bv,0ao aj bv,0ad aj bv,0ak aj x,0fa ey,0TRICOLON,",
   "0r ak bw,0bc MATHEMATICAL kl,0WORD JOINER,0FUNCTION APPLICATION,0INVISIBLE ar,1fm,1bb,+1,",
   "0LEFT-TO-RIGHT ISOLATE,0RIGHT-TO-LEFT ISOLATE,0FIRST STRONG ISOLATE,0POP DIRECTIONAL ISOLATE,",
   "0INHIBIT SYMMETRIC SWAPPING,0ACTIVATE SYMMETRIC SWAPPING,0INHIBIT jy e SHAPING,",
   "0ACTIVATE jy e SHAPING,0NATIONAL bp SHAPES,0NOMINAL bp SHAPES,0ij cz,1ed d a I,+2,1ak,1ao,",
   "1ca,1av,1aq,1bi,1bb g,1mo,1fr g,1n by,1h by,1ed d a N,0SUBSCRIPT cz,1ah,1ad,1q,1ak,1ao,1ca,",
   "1av,1aq,1bi,1bb g,1mo,1fr g,1n by,1h by,+1,0ed SUBSCRIPT d a A,4E,4O,4X,4SCHWA,4H,4K,4L,4M,",
   "4N,4P,4S,4T,+3,0EURO-CURRENCY g,0hp g,0CRUZEIRO g,0FRENCH FRANC g,0LIRA g,0MILL g,0NAIRA g,",
   "0PESETA g,0RUPEE g,0WON g,0NEW SHEQEL g,0DONG g,0EURO g,0KIP g,0TUGRIK g,0DRACHMA g,",
   "0GERMAN PENNY g,0PESO g,0GUARANI g,0AUSTRAL g,0HRYVNIA g,0CEDI g,0LIVRE TOURNOIS g,",
   "0SPESMILO g,0TENGE g,0INDIAN RUPEE g,0TURKISH LIRA g,0NORDIC x g,0MANAT g,0RUBLE g,0LARI g,",
   "0BITCOIN g,0SOM g,+f,0dd n cm i,1h cm i,1dl r ec hi,1ef r ec hi,1ev f i,1jv f i,1n f i,",
   "1h f i,1cj hi,1jv cj hi,1ev cj hi,1q bw i,1ak bw i,1ENCLOSING at,2as,2dv,2at BACKSLASH,",
   "1n h f i,1ENCLOSING SCREEN,2KEYCAP,2UPWARD bn an,1id gx hi,1k r u hi,1ANNUITY v,1dw UNDERDOT,",
   "1WIDE BRIDGE i,1s f hi,1dl k gx hi,1m cm b cr ag,1s cm b cr ag,1n f o,1h f o,1cw i,+f,",
   "0ACCOUNT OF,0ADDRESSED TO kb SUBJECT,0ii c C,0DEGREE CELSIUS,0df ec v,0CARE OF,0CADA UNA,",
   "0EULER CONSTANT,0SCRUPLE,0DEGREE FAHRENHEIT,0ig d G,1c H,0BLACK-LETTER c H,0ii c H,",
   "0PLANCK CONSTANT,2bz ad PI,0ig c I,0BLACK-LETTER c I,0ig c L,1d L,0L B cc v,0ii c N,",
   "0NUMERO g,0nd RECORDING COPYRIGHT,0ig c P,0ii c P,2Q,0ig c R,0BLACK-LETTER c R,0ii c R,",
   "0PRESCRIPTION TAKE,0RESPONSE,0SERVICE x,0ks g,0TRADE x g,0VERSICLE,0ii c Z,0OUNCE g,0OHM g,",
   "0bm OHM g,0BLACK-LETTER c Z,0bs jd d a ji,0KELVIN g,0ANGSTROM g,0ig c B,0BLACK-LETTER c C,",
   "0ESTIMATED v,0ig d E,1c E,2F,0bs c F,0ig c M,1d O,0ce v,0BET v,0nv v,0DALET v,",
   "0INFORMATION SOURCE,0cd c Q,0FACSIMILE g,0ii d PI,2kh,1c kh,2PI,1N-ARY SUMMATION,0bs ez c G,",
   "3L,0az ez c L,0bs ez c Y,0ii ITALIC c D,2d D,3E,3I,3J,0PROPERTY ec,0bs AMPERSAND,0PER g,",
   "0AKTIESELSKAB,0bs d F,0v jz SAMARITAN SOURCE,0VULGAR hw ah SEVENTH,3NINTH,3TENTH,3THIRD,",
   "2ad THIRDS,2ah FIFTH,2ad FIFTHS,2q FIFTHS,2ak FIFTHS,2ah SIXTH,2ao SIXTHS,2ah hg,2q kt,",
   "2ao kt,2av kt,0hw NUMERATOR ah,0ROMAN NUMERAL ah,2ad,2q,2ak,2ao,2ca,2av,2aq,2bi,2el,2ELEVEN,",
   "2nm,2ha,2ah ac,2ao ac,2ah ae,0d ROMAN NUMERAL ah,3ad,3q,3ak,3ao,3ca,3av,3aq,3bi,3el,3ELEVEN,",
   "3nm,3ha,3ah ac,3ao ac,3ah ae,0ROMAN NUMERAL ah ae C D,2ao ae,2el ae,2az ah ac,0ed d a az C,",
   "0ROMAN NUMERAL ca LATE e,2ha EARLY e,3ae,2ah ac ae,0VULGAR hw cz THIRDS,0bs bp ad,2q,+4,0s f,",
   "0ax f,0m f,0ag f,0n h f,0UP be f,0er fn f,1eg f,0fo eg f,1fn f,0s f b u,0m f b u,0s mw f,",
   "0m mw f,0s ad HEADED f,0ax ad HEADED f,0m ad HEADED f,0ag ad HEADED f,0s f b fg,0m f b fg,",
   "0s f jg cc,0ax f jg cc,0m f jg cc,0ag f jg cc,0UP be f b BASE,0s f b al,0m f b al,",
   "0s f b LOOP,0m f b LOOP,0n h mw f,2f b u,0ag ZIGZAG f,0ax f b TIP s,4m,0ag f b TIP s,4m,",
   "0m f b gi ag,0ag f b gi s,0ev jc SEMICIRCLE f,0jv jc SEMICIRCLE f,0er fn f TO dl cc,",
   "0s f TO cc bz m f TO cc,0ev dh at f,0jv dh at f,0s cm b cr ax,4ag,0ax cm b cr m,4s,",
   "0m cm b cr ax,4ag,0ag cm b cr m,4s,0m f bz s f,0ax f s OF ag f,0s f bz m f,1PAIRED lm,",
   "0ax PAIRED lm,0m PAIRED lm,0ag PAIRED lm,0s cm bz m cm,0m cm bz s cm,0s k f b u,0n h k f b u,",
   "0m k f b u,0s k f,0ax k f,0m k f,0ag k f,0n h k f,0UP be k f,0er fn k f,1eg k f,0fo eg k f,",
   "1fn k f,0s dw f,0m dw f,0s SQUIGGLE f,0m SQUIGGLE f,0ax f b k u,0ag f b k u,0s DASHED f,",
   "0ax DASHED f,0m DASHED f,0ag DASHED f,0s f TO cc,0m f TO cc,0s y f,0ax y f,0m y f,0ag y f,",
   "0ax y f jg cc,3ON PEDESTAL,5b aa cc,6r cc,2k f,4ON PEDESTAL,0m y f jg WALL,0er fn f TO gi,",
   "0fo eg f TO gi,0UP be y f,0h f b d at,0ag f s OF ax f,0q m lm,0s f b r u,0m f b r u,",
   "0n h f b r u,0s f b k r u,0m f b k r u,0n h f b k r u,0s OPEN-HEADED f,0m OPEN-HEADED f,",
   "0n h OPEN-HEADED f,0jz ALL,0COMPLEMENT,0PARTIAL DIFFERENTIAL,0THERE EXISTS,1DOES gs EXIST,",
   "0EMPTY SET,0INCREMENT,0NABLA,0ELEMENT OF,0gs AN ELEMENT OF,0d ELEMENT OF,0CONTAINS AS MEMBER,",
   "0DOES gs CONTAIN AS MEMBER,0d CONTAINS AS MEMBER,0mh OF PROOF,0N-ARY mb,1COPRODUCT,",
   "1SUMMATION,0mo g,0MINUS-OR-PLUS g,0aj bb,0DIVISION SLASH,0SET mo,0cw dc,0cj dc,0nf dc,",
   "0as ROOT,0CUBE ROOT,0FOURTH ROOT,0PROPORTIONAL TO,0INFINITY,0h dz,0dz,0MEASURED dz,",
   "0SPHERICAL dz,0DIVIDES,0DOES gs DIVIDE,0PARALLEL TO,0gs PARALLEL TO,0ly l,1OR,0fv,0ne,0hx,",
   "0k hx,0dw hx,0CONTOUR hx,0SURFACE hx,0VOLUME hx,0jv hx,1CONTOUR hx,0ev CONTOUR hx,0THEREFORE,",
   "0BECAUSE,0RATIO,0PROPORTION,0aj mo,0EXCESS,0GEOMETRIC PROPORTION,0HOMOTHETIC,0bo dc,0az bo,",
   "0bm LAZY S,0SINE mw,0WREATH mb,0gs bo,0mo bo,0ASYMPTOTICALLY bf TO,0gs ASYMPTOTICALLY bf TO,",
   "0APPROXIMATELY bf TO,1BUT gs ACTUALLY bf TO,0NEITHER APPROXIMATELY NOR ACTUALLY bf TO,",
   "0ll bf TO,0gs ll bf TO,0ll bf OR bf TO,0dw bo,0ALL bf TO,0ia TO,0GEOMETRICALLY ia TO,",
   "0DIFFERENCE js,0APPROACHES kb LIMIT,0GEOMETRICALLY bf TO,0APPROXIMATELY bf TO OR kb IMAGE OF,",
   "0IMAGE OF OR APPROXIMATELY bf TO,0hp fr,0fr hp,0cj IN bf TO,1bf TO,0CORRESPONDS TO,",
   "0ESTIMATES,0EQUIANGULAR TO,0et fr,0lg bf TO,0bf TO BY DEFINITION,0MEASURED BY,",
   "0QUESTIONED bf TO,0gs bf TO,0IDENTICAL TO,0gs IDENTICAL TO,0STRICTLY ia TO,0bg OR bf TO,",
   "0au OR bf TO,0bg bz bf TO,0au bz bf TO,0bg BUT gs bf TO,0au BUT gs bf TO,0MUCH bg,1au,0js,",
   "0gs ia TO,1bg,1au,0NEITHER bg NOR bf TO,1au NOR bf TO,0bg OR ia TO,0au OR ia TO,",
   "0NEITHER bg NOR ia TO,1au NOR ia TO,0bg OR au,0au OR bg,0NEITHER bg NOR au,1au NOR bg,0kz,",
   "0lc,0kz OR bf TO,0lc OR bf TO,0kz OR ia TO,0lc OR ia TO,0DOES gs PRECEDE,2SUCCEED,0ho OF,",
   "0gk OF,0gs A ho OF,2gk OF,0ho OF OR bf TO,0gk OF OR bf TO,0NEITHER A ho OF NOR bf TO,",
   "2gk OF NOR bf TO,0ho OF b gs bf TO,0gk OF b gs bf TO,0MULTISET,1hq,1ne,0as IMAGE OF,",
   "1ORIGINAL OF,1IMAGE OF OR bf TO,1ORIGINAL OF OR bf TO,1CAP,1CUP,0ct bb,1mo,1ar,",
   "1DIVISION SLASH,1aj dc,1cj dc,1cw dc,1fr,1hd,0ep bb,1mo,1ar,1aj dc,0h io,0n io,0be io,0UP io,",
   "0ASSERTION,0MODELS,0TRUE,0FORCES,0dw r cc h TURNSTILE,0k r cc k h TURNSTILE,0DOES gs PROVE,",
   "0gs TRUE,0DOES gs FORCE,0NEGATED k r cc k h TURNSTILE,0kz UNDER RELATION,0lc UNDER RELATION,",
   "0NORMAL SUBGROUP OF,0CONTAINS AS NORMAL SUBGROUP,0NORMAL SUBGROUP OF OR bf TO,",
   "0CONTAINS AS NORMAL SUBGROUP OR bf TO,0ORIGINAL OF,0IMAGE OF,0MULTIMAP,",
   "0HERMITIAN CONJUGATE MATRIX,0INTERCALATE,0XOR,0NAND,0NOR,0h dz b ARC,1an,0N-ARY ly l,2OR,1fv,",
   "1ne,0dv dc,0aj dc,0et dc,0DIVISION ar,0BOWTIE,0n NORMAL FACTOR SEMIDIRECT mb,",
   "0h NORMAL FACTOR SEMIDIRECT mb,0n SEMIDIRECT mb,0h SEMIDIRECT mb,0az bo fr,0iu ly OR,2l,",
   "0k ho,1gk,1fv,1ne,0PITCHFORK,0bf l PARALLEL TO,0bg b aj,0au b aj,0kf MUCH bg,2au,",
   "0bg bf TO OR au,0au bf TO OR bg,0bf TO OR bg,3au,3kz,3lc,0DOES gs PRECEDE OR bf,",
   "2SUCCEED OR bf,0gs as IMAGE OF OR bf TO,2ORIGINAL OF OR bf TO,0as IMAGE OF OR gs bf TO,",
   "1ORIGINAL OF OR gs bf TO,0bg BUT gs ia TO,0au BUT gs ia TO,0kz BUT gs ia TO,0lc BUT gs ia TO,",
   "0gs NORMAL SUBGROUP OF,0DOES gs CONTAIN AS NORMAL SUBGROUP,0gs NORMAL SUBGROUP OF OR bf TO,",
   "0DOES gs CONTAIN AS NORMAL SUBGROUP OR bf,0r ELLIPSIS,0MIDLINE aa ELLIPSIS,0UP h cy ELLIPSIS,",
   "0be h cy ELLIPSIS,0ELEMENT OF b dl aa u,3r cc AT mh OF aa u,",
   "0d ELEMENT OF b r cc AT mh OF aa u,0ELEMENT OF b aj i,3ma,0d ELEMENT OF b ma,",
   "0ELEMENT OF b fz,3ad aa STROKES,0CONTAINS b dl aa u,2r cc AT mh OF aa u,",
   "0d CONTAINS b r cc AT mh OF aa u,0CONTAINS b ma,0d CONTAINS b ma,0Z NOTATION BAG MEMBERSHIP,",
   "0DIAMETER g,0ELECTRIC f,0HOUSE,0UP ay,0be ay,0PROJECTIVE,0PERSPECTIVE,0WAVY ec,0n CEILING,",
   "0h CEILING,0n FLOOR,0h FLOOR,0gh h CROP,1n CROP,0jc h CROP,1n CROP,0az gs g,0as lz,0ARC,",
   "0SEGMENT,0SECTOR,0ks RECORDER,0POSITION INDICATOR,0VIEWDATA as,0PLACE OF INTEREST g,0bs gs g,",
   "0WATCH,0HOURGLASS,0jc n gi,1h gi,0gh n gi,1h gi,0jc bd hx,0gh bd hx,0FROWN,0SMILE,",
   "0UP ay js ad aa BARS,0OPTION KEY,0ERASE TO kb h,0X IN A RECTANGLE nn,0KEYBOARD,0ee dz af,",
   "0di dz af,0ERASE TO kb n,0BENZENE cj,0CYLINDRICITY,0ALL AROUND-PROFILE,0SYMMETRY,",
   "0TOTAL RUNOUT,0DIMENSION ORIGIN,0CONICAL TAPER,0SLOPE,0COUNTERBORE,0COUNTERSINK,",
   "0APL FUNCTIONAL v I-BEAM,3SQUISH QUAD,3QUAD bf,4DIVIDE,4dv,4JOT,4at,3at STILE,4JOT,3SLASH cc,",
   "3BACKSLASH cc,3QUAD SLASH,4BACKSLASH,4bg,4au,3s VANE,3m VANE,3QUAD s f,4m f,3at BACKSLASH,",
   "3be io fz,3lg STILE,3QUAD be CARET,4lg,3be io JOT,3ax VANE,3QUAD ax f,3UP io ma,3DEL STILE,",
   "3QUAD UP CARET,4DEL,3UP io JOT,3ag VANE,3QUAD ag f,3QUOTE fz,3lg fz,3dv fz,3JOT fz,3at fz,",
   "3UP SHOE JOT,3QUOTE QUAD,3at et,3QUAD hp,3UP io aw,3DEL aw,3et aw,3JOT aw,3at aw,",
   "3be SHOE STILE,3n SHOE STILE,3bo aw,3au aw,3do cc,3DEL bo,3ZILDE,3STILE bo,3kq fz,",
   "3QUAD gs bf,4ew,3be CARET bo,3UP CARET bo,3ji,3nt,3gl,3gz fz,3go fz,3ji fz,3gl fz,3gz,",
   "0gs CHECK x,0h dz b ag ZIGZAG f,0SHOULDERED dh nn,0BELL v,0r ec b ab aj,0INSERTION v,",
   "0CONTINUOUS UNDERLINE v,0DISCONTINUOUS UNDERLINE v,0EMPHASIS v,0COMPOSITION v,",
   "0y as b df r ec,0ENTER v,0ALTERNATIVE KEY v,0HELM v,0ct aa cc b NOTCH,1an be,",
   "0BROKEN at b NORTHWEST f,0UNDO v,0MONOSTABLE v,0HYSTERESIS v,0OPEN-CIRCUIT-OUTPUT H-TYPE v,",
   "1L-TYPE v,0PASSIVE-PULL-DOWN-OUTPUT v,0PASSIVE-PULL-UP-OUTPUT v,0DIRECT CURRENT v e ad,",
   "0SOFTWARE-FUNCTION v,0APL FUNCTIONAL v QUAD,0DECIMAL fm KEY v,0PREVIOUS PAGE,0NEXT PAGE,",
   "0PRINT SCREEN v,0CLEAR SCREEN v,0n by cf al,2EXTENSION,2br al,0h by cf al,2EXTENSION,2br al,",
   "0n as af cf gi,3EXTENSION,3br gi,0h as af cf gi,3EXTENSION,3br gi,0n iu af cf al,3ab PIECE,",
   "3br al,0iu af EXTENSION,0h iu af cf al,3ab PIECE,3br al,0hx EXTENSION,0aa ec EXTENSION,",
   "0cf n OR br h iu af gw,1h OR br n iu af gw,0SUMMATION jc,1gh,0jc as af,0gh as af,",
   "3bz jc as af,0RADICAL v gh,0n r nn ec,0h r nn ec,0aa SCAN LINE-1,2LINE-3,2LINE-7,2LINE-9,",
   "0DENTISTRY v bk r l jc h,5gh h,4b at,3be l aa b at,3UP l aa b at,3r b an,3be l aa b an,",
   "3UP l aa b an,3r l mw,3be l aa b mw,3UP l aa b mw,3be l aa,3UP l aa,3r l jc n,5gh n,0as FOOT,",
   "0RETURN v,0EJECT v,0r ec EXTENSION,0METRICAL du,1dl bz ef,1ef bz dl,1dl bz ad SHORTS,",
   "1ad SHORTS bz dl,3JOINED,1TRISEME,1TETRASEME,1PENTASEME,0EARTH GROUND,0FUSE,0jc by,0gh by,",
   "0jc iu af,0gh iu af,0jc ih jp af,0gh ih jp af,0y TRAPEZIUM,0BENZENE cj b at,0STRAIGHTNESS,",
   "0FLATNESS,0AC CURRENT,0ELECTRICAL fv,0DECIMAL EXPONENT v,0w di k an,1ee k an,1ht k an,",
   "1hl k an,1di k an b r cc,1ee k an b r cc,1di an b k r cc,0ALARM CLOCK,0STOPWATCH,",
   "0TIMER CLOCK,0HOURGLASS b FLOWING SAND,0w bc ee an,2di an,2ht an,2hl an,0k r cc,0w as jz dq,",
   "1at jz RECORD,0POWER v,1ON-OFF v,1ON v,1SLEEP v,0OBSERVER EYE v,0v jz NULL,2START OF HEADING,",
   "4TEXT,2mh OF TEXT,4TRANSMISSION,2ENQUIRY,2ACKNOWLEDGE,2BELL,2BACKSPACE,2aa TABULATION,",
   "2ec FEED,2r TABULATION,2e FEED,2CARRIAGE RETURN,2SHIFT OUT,3IN,2DATA LINK ESCAPE,",
   "2DEVICE CONTROL ah,4ad,4q,4ak,2jm ACKNOWLEDGE,2SYNCHRONOUS IDLE,2mh OF TRANSMISSION dr,",
   "2CANCEL,2mh OF bc,2SUBSTITUTE,2ESCAPE,2FILE fm,2GROUP fm,2RECORD fm,2UNIT fm,2kl,2DELETE,",
   "0BLANK v,0dh nn,0v jz NEWLINE,2DELETE e ad,2SUBSTITUTE e ad,+p,0OCR al,1CHAIR,1FORK,1bm FORK,",
   "1BELT BUCKLE,1BOW TIE,1BRANCH BANK IDENTIFICATION,1AMOUNT OF CHECK,1hd,1CUSTOMER ACCOUNT cs,",
   "1k BACKSLASH,+l,0ct bp ah,2ad,2q,2ak,2ao,2ca,2av,2aq,2bi,1cs el,2ELEVEN,2nm,2THIRTEEN,",
   "2FOURTEEN,2FIFTEEN,2SIXTEEN,2SEVENTEEN,2EIGHTEEN,2NINETEEN,2em,0PARENTHESIZED bp ah,2ad,2q,",
   "2ak,2ao,2ca,2av,2aq,2bi,1cs el,2ELEVEN,2nm,2THIRTEEN,2FOURTEEN,2FIFTEEN,2SIXTEEN,2SEVENTEEN,",
   "2EIGHTEEN,2NINETEEN,2em,0bp ah fs dq,1ad fs dq,1q fs dq,1ak fs dq,1ao fs dq,1ca fs dq,",
   "1av fs dq,1aq fs dq,1bi fs dq,0cs el fs dq,1ELEVEN fs dq,1nm fs dq,1THIRTEEN fs dq,",
   "1FOURTEEN fs dq,1FIFTEEN fs dq,1SIXTEEN fs dq,1SEVENTEEN fs dq,1EIGHTEEN fs dq,",
   "1NINETEEN fs dq,1em fs dq,0PARENTHESIZED ed d a A,4B,4C,4D,4E,4F,4G,4H,4I,4J,4K,4L,4M,4N,4O,",
   "4P,4Q,4R,4S,4T,4U,4V,4W,4X,4Y,4Z,0ct ed c a A,4B,4C,4D,4E,4F,4G,4H,4I,4J,4K,4L,4M,4N,4O,4P,",
   "4Q,4R,4S,4T,4U,4V,4W,4X,4Y,4Z,2d a A,4B,4C,4D,4E,4F,4G,4H,4I,4J,4K,4L,4M,4N,4O,4P,4Q,4R,4S,",
   "4T,4U,4V,4W,4X,4Y,4Z,1bp cz,0jm ct cs ELEVEN,3nm,3THIRTEEN,3FOURTEEN,3FIFTEEN,3SIXTEEN,",
   "3SEVENTEEN,3EIGHTEEN,3NINETEEN,3em,0k ct bp ah,3ad,3q,3ak,3ao,3ca,3av,3aq,3bi,2cs el,",
   "0jm ct bp cz,0nn DRAWINGS bk aa,2ai aa,2bk r,2ai r,2bk dw hd aa,2ai dw hd aa,2bk dw hd r,",
   "2ai dw hd r,2bk li hd aa,2ai li hd aa,2bk li hd r,2ai li hd r,2bk be l h,2be bk l h ai,",
   "3ai l h bk,2ai be l h,2bk be l n,2be bk l n ai,3ai l n bk,2ai be l n,2bk UP l h,",
   "2UP bk l h ai,3ai l h bk,2ai UP l h,2bk UP l n,2UP bk l n ai,3ai l n bk,2ai UP l n,2bk r l h,",
   "2r bk l h ai,2UP ai l h be bk,2be ai l h UP bk,2r ai l h bk,2be bk l h UP ai,",
   "2UP bk l h be ai,2ai r l h,2bk r l n,2r bk l n ai,2UP ai l n be bk,2be ai l n UP bk,",
   "2r ai l n bk,2be bk l n UP ai,2UP bk l n be ai,2ai r l n,2bk be l aa,2n ai l h be bk,",
   "2h ai l n be bk,2be bk l aa ai,3ai l aa bk,2h bk l n be ai,2n bk l h be ai,2ai be l aa,",
   "2bk UP l aa,2n ai l h UP bk,2h ai l n UP bk,2UP bk l aa ai,3ai l aa bk,2h bk l n UP ai,",
   "2n bk l h UP ai,2ai UP l aa,2bk r l aa,2n ai l h r bk,2h ai l n r bk,2r bk l aa ai,",
   "2UP ai l be aa bk,2be ai l UP aa bk,2r ai l aa bk,2n UP ai l h be bk,2h UP ai l n be bk,",
   "2n be ai l h UP bk,2h be ai l n UP bk,2be bk l UP aa ai,2UP bk l be aa ai,2h bk l n r ai,",
   "2n bk l h r ai,2ai r l aa,2bk k hd aa,2ai k hd aa,2bk k hd r,2ai k hd r,2k aa,3r,",
   "2be ch l h k,3k l h ch,2k be l h,2be ch l n k,3k l n ch,2k be l n,2UP ch l h k,3k l h ch,",
   "2k UP l h,2UP ch l n k,3k l n ch,2k UP l n,2r ch l h k,3k l h ch,2k r l h,2r ch l n k,",
   "3k l n ch,2k r l n,2be ch l aa k,3k l aa ch,2k be l aa,2UP ch l aa k,3k l aa ch,2k UP l aa,",
   "2r ch l aa k,3k l aa ch,2k r l aa,2bk ARC be l h,6n,4UP l n,6h,3cy cf h TO br n,5n TO br h,",
   "4ey,3n,3UP,3h,3be,2ai n,3UP,3h,3be,2bk n l ai h,3UP l ai be,2ai n l bk h,3UP l bk be,",
   "0cf bd dr,0br ah hg dr,2ex dr,1q kt dr,1bd dr,1ao kt dr,1q jo dr,1av kt dr,0fs dr,",
   "0n av kt dr,1q jo dr,1ao kt dr,1bd dr,1q kt dr,1ah ex dr,2hg dr,0h bd dr,0bk SHADE,0bc SHADE,",
   "0DARK SHADE,0cf ah hg dr,0h ah hg dr,0jn br n,2h,1cf n,3l br n l br h,5h,4cf h l br n,8h,2h,",
   "3l br n,6l br h,0w as,0y as,2b ROUNDED CORNERS,2CONTAINING w d as,0as b aa FILL,2r FILL,",
   "2ORTHOGONAL CROSSHATCH FILL,2cf n TO br h FILL,3h TO br n FILL,2cy CROSSHATCH FILL,0w d as,",
   "0y d as,0w RECTANGLE,0y RECTANGLE,0w r RECTANGLE,0y r RECTANGLE,0w PARALLELOGRAM,",
   "0y PARALLELOGRAM,0w ht an,0y ht an,0w ht d an,0y ht d an,0w di an,0y di an,0w di d an,",
   "0y di d an,0w di POINTER,0y di POINTER,0w hl an,0y hl an,0w hl d an,0y hl d an,0w ee an,",
   "0y ee an,0w ee d an,0y ee d an,0w ee POINTER,0y ee POINTER,0w dv,0y dv,2CONTAINING w d dv,",
   "0FISHEYE,0lz,0y at,0fa at,0at b r FILL,0BULLSEYE,0w at,0at b n bd w,2h bd w,2br bd w,",
   "2cf bd w,3h jn w,2ALL BUT cf n jn w,0n bd w at,0h bd w at,0INVERSE nf,1y at,",
   "0cf bd INVERSE y at,0br bd INVERSE y at,0cf n jn CIRCULAR ARC,1h jn CIRCULAR ARC,",
   "0br h jn CIRCULAR ARC,1n jn CIRCULAR ARC,0cf bd at,0br bd at,0w br h an,2n an,1cf n an,2h an,",
   "0y nf,0as b n bd w,2h bd w,2cf n cy bd w,2br h cy bd w,0y as b r BISECTING ec,1ht an b aj,",
   "0ht an b n bd w,3h bd w,0da at,0y as b cf n jn,3br n jn,4h jn,3cf h jn,1at b cf n jn,",
   "3br n jn,4h jn,3cf h jn,0cf n an,1h an,0br n an,0y bc as,0w bc as,0y bc d as,0w bc d as,",
   "0br h an,0w SUN b RAYS,0CLOUD,0UMBRELLA,0SNOWMAN,0COMET,0w et,0y et,0LIGHTNING,0THUNDERSTORM,",
   "0SUN,0ASCENDING NODE,0DESCENDING NODE,0CONJUNCTION,0OPPOSITION,0w ks,0y ks,0BALLOT nn,",
   "2b CHECK,3X,0SALTIRE,0UMBRELLA b RAIN DROPS,0HOT BEVERAGE,0y SHOGI PIECE,0w SHOGI PIECE,",
   "0SHAMROCK,0az cd FLORAL ie nf,0w n bn bj,1h bn bj,0y n bn bj,1UP bn bj,1h bn bj,1be bn bj,",
   "0SKULL l CROSSBONES,0CAUTION g,0RADIOACTIVE g,0BIOHAZARD g,0CADUCEUS,0ANKH,0ORTHODOX ey,",
   "0CHI nt,0ey OF LORRAINE,2JERUSALEM,0et l CRESCENT,0FARSI v,0ADI SHAKTI,0HAMMER l SICKLE,",
   "0PEACE v,0YIN YANG,0TRIGRAM jz HEAVEN,2LAKE,2FIRE,2THUNDER,2WIND,2WATER,2MOUNTAIN,2EARTH,",
   "0WHEEL OF DHARMA,0y FROWNING bq,1ju bq,0w ju bq,0y SUN b RAYS,0FIRST ex kx,0LAST ex kx,",
   "0MERCURY,0FEMALE g,0EARTH,0MALE g,0JUPITER,0SATURN,0URANUS,0NEPTUNE,0PLUTO,0ARIES,0TAURUS,",
   "0GEMINI,0CANCER,0LEO,0VIRGO,0LIBRA,0SCORPIUS,0SAGITTARIUS,0CAPRICORN,0AQUARIUS,0PISCES,",
   "0y hj KING,2QUEEN,2ROOK,2BISHOP,2gv,2PAWN,0w hj KING,2QUEEN,2ROOK,2BISHOP,2gv,2PAWN,",
   "1SPADE SUIT,0y ie SUIT,1dv SUIT,0w CLUB SUIT,0y SPADE SUIT,0w ie SUIT,1dv SUIT,0y CLUB SUIT,",
   "0HOT SPRINGS,0ex nx,0hg nx,0BEAMED hg NOTES,1SIXTEENTH NOTES,0MUSIC FLAT g,1NATURAL g,",
   "1SHARP g,0fn SYRIAC ey,0eg SYRIAC ey,0UNIVERSAL RECYCLING v,0RECYCLING v jz TYPE-1 PLASTICS,",
   "3TYPE-2 PLASTICS,3TYPE-3 PLASTICS,3TYPE-4 PLASTICS,3TYPE-5 PLASTICS,3TYPE-6 PLASTICS,",
   "3TYPE-7 PLASTICS,3GENERIC MATERIALS,0w UNIVERSAL RECYCLING v,0RECYCLED PAPER v,",
   "0PARTIALLY-RECYCLED PAPER v,0PERMANENT PAPER g,0WHEELCHAIR v,0DIE FACE-1,1FACE-2,1FACE-3,",
   "1FACE-4,1FACE-5,1FACE-6,0y at b aj h,3ad bw,0w at b y aj h,3ad y bw,0MONOGRAM jz YANG,2YIN,",
   "0DIGRAM jz GREATER YANG,2LESSER YIN,3YANG,2GREATER YIN,0y FLAG,0w FLAG,0HAMMER l PICK,",
   "0ANCHOR,0lx SWORDS,0STAFF OF AESCULAPIUS,0SCALES,0ALEMBIC,0FLOWER,0GEAR,0STAFF OF HERMES,",
   "0ATOM v,0FLEUR-DE-LIS,0OUTLINED y et,0q LINES CONVERGING h,3n,0WARNING g,0dp VOLTAGE g,",
   "0DOUBLED FEMALE g,1MALE g,0INTERLOCKED FEMALE l MALE g,0MALE l FEMALE g,1b u g,",
   "3l MALE l FEMALE g,0r MALE b u g,0aa MALE b u g,0bc y at,1w at,1d y at,0MARRIAGE v,",
   "0DIVORCE v,0UNMARRIED PARTNERSHIP v,0COFFIN,0FUNERAL URN,0NEUTER,0CERES,0PALLAS,0JUNO,0VESTA,",
   "0CHIRON,0w kx LILITH,0SEXTILE,0SEMISEXTILE,0QUINCUNX,0SESQUIQUADRATE,0SOCCER BALL,0BASEBALL,",
   "0ep KEY,0y DRAUGHTS MAN,2KING,0w DRAUGHTS MAN,2KING,0SNOWMAN WITHOUT SNOW,0SUN BEHIND CLOUD,",
   "0RAIN,0w SNOWMAN,0THUNDER CLOUD l RAIN,0bs y SHOGI PIECE,1w SHOGI PIECE,0y dv IN as,",
   "0ej LANES,0DISABLED CAR,0OPHIUCHUS,0PICK,0CAR SLIDING,0HELMET b y ey,0ct ej LANES,0CHAINS,",
   "0NO ENTRY,0ft ONE-WAY n WAY TRAFFIC,0w TWO-WAY n WAY TRAFFIC,0y TWO-WAY n WAY TRAFFIC,",
   "0w n LANE MERGE,0y n LANE MERGE,0DRIVE SLOW g,0ai y hl an,0n fq ENTRY,0ep SALTIRE,",
   "0FALLING cy IN y at IN w as,0w TRUCK,0RESTRICTED n ENTRY-1,2ENTRY-2,",
   "0ASTRONOMICAL v jz URANUS,0ai at b u l ad bw i,0PENTAGRAM,0RIGHT-HANDED INTERLACED PENTAGRAM,",
   "0LEFT-HANDED INTERLACED PENTAGRAM,0bm PENTAGRAM,0w ey ON SHIELD,0SHINTO SHRINE,0CHURCH,",
   "0CASTLE,0HISTORIC SITE,0GEAR WITHOUT HUB,1b HANDLES,0MAP v jz LIGHTHOUSE,0MOUNTAIN,",
   "0UMBRELLA ON GROUND,0FOUNTAIN,0FLAG IN HOLE,0FERRY,0SAILBOAT,0as ak CORNERS,0SKIER,",
   "0ICE SKATE,0lp b BALL,0TENT,0JAPANESE BANK v,0HEADSTONE GRAVEYARD v,0FUEL PUMP,0CUP ON w as,",
   "0y FLAG b aa ab w STRIPE,0w SAFETY SCISSORS,0cf BLADE SCISSORS,0w SCISSORS,",
   "0br BLADE SCISSORS,0y SCISSORS,1ai CHECK x,0ks LOCATION g,0TAPE DRIVE,0AIRPLANE,0ENVELOPE,",
   "0hn FIST,1jh,0VICTORY jh,0WRITING jh,0br h PENCIL,0PENCIL,0cf h PENCIL,0y NIB,0w NIB,",
   "0CHECK x,0ai CHECK x,0hq X,0ai hq X,0BALLOT X,0ai BALLOT X,0OUTLINED jd ey,0ai jd ey,",
   "0dh df ey,0ai dh df ey,0ed ey,0la y ed ey,0OUTLINED ed ey,0MALTESE ey,0et OF DAVID,0ak kw cw,",
   "1BALLOON-SPOKED cw,0ai ak BALLOON-SPOKED cw,0ak CLUB-SPOKED cw,0w ak eo et,0y ak eo et,",
   "0SPARKLES,0STRESS OUTLINED y et,0ct y et,0dh df w et,0w df y et,0OUTLINED w et,",
   "0ai OUTLINED w et,0PINWHEEL et,0la y et,0ai cw,0dh df cw,0aq kr cw,1eo w et,2PINWHEEL et,",
   "0ca eo w et,0aq eo RECTILINEAR w et,0ai aq eo RECTILINEAR w et,0nm eo w et,0SIXTEEN eo cw,",
   "0kw cw,0dh df kw cw,0ai kw cw,0ca PETALLED w l y FLORETTE,0w FLORETTE,0y FLORETTE,",
   "0aq PETALLED OUTLINED w FLORETTE,0ct dh df aq eo et,0ai kw PINWHEEL cw,0SNOWFLAKE,",
   "0TIGHT TRIFOLIATE SNOWFLAKE,0ai CHEVRON SNOWFLAKE,0SPARKLE,0ai SPARKLE,0BALLOON-SPOKED cw,",
   "0aq kw PROPELLER cw,0ai aq kw PROPELLER cw,0ey x,0la y at,0jm ep ey x,",
   "0br h DROP-SHADOWED y as,0cf h DROP-SHADOWED y as,0br h la y as,0cf h la y as,0w ew x cg,",
   "0y ew x cg,1dt x cg,0w dv mo y X,0ai dt x v,0bk r cc,0bc r cc,0ai r cc,1ch bs do dy x cg,",
   "2do dy x cg,1k bs do dy x cg,2do dy x cg,1ds ch do dy x cg,2k do dy x cg,",
   "0CURVED STEM PARAGRAPH g cg,0ai dt x cg,1ie dt x cg,1w ie,0cd ai w ie nf,0FLORAL ie,",
   "0cd FLORAL ie nf,0bc n by cg,1h by cg,1FLATTENED n by cg,2h by cg,1ee dz af cg,1di dz af cg,",
   "0ai ee dz dy x cg,1di dz dy x cg,1ee dz af cg,1di dz af cg,0bk n ih jp af cg,1h ih jp af cg,",
   "0bc n iu af cg,1h iu af cg,0DINGBAT jm ct bp ah,4ad,4q,4ak,4ao,4ca,4av,4aq,4bi,3cs el,",
   "1ct ez bp ah,4ad,4q,4ak,4ao,4ca,4av,4aq,4bi,3cs el,1jm ct ez bp ah,5ad,5q,5ak,5ao,5ca,5av,",
   "5aq,5bi,4cs el,0ai WIDE-HEADED m f,1bb g,1mo g,1DIVISION g,1fo eg f,1m f,1er eg f,",
   "0DRAFTING POINT m f,0ai ROUND-TIPPED m f,0z m f,0ai z m f,0DASHED z m f,0ai DASHED z m f,",
   "0w m f,0THREE-D TOP-LIGHTED m ay,1BOTTOM-LIGHTED m ay,0w m ay,0ai w CURVED ag l m f,",
   "3ax l m f,0SQUAT w m f,0ai CONCAVE-POINTED w m f,0RIGHT-SHADED y m f,0LEFT-SHADED y m f,",
   "0BACK-TILTED la y m f,0FRONT-TILTED la y m f,0ai br RIGHT-SHADOWED y m f,",
   "1cf RIGHT-SHADOWED y m f,0NOTCHED br RIGHT-SHADOWED y m f,0iu LOOP,",
   "0NOTCHED cf RIGHT-SHADOWED y m f,0ct ai y m f,0WHITE-FEATHERED m f,0BLACK-FEATHERED fo eg f,",
   "1m f,1er eg f,0ai BLACK-FEATHERED fo eg f,2m f,2er eg f,0TEARDROP-BARBED m f,",
   "0ai TEARDROP-SHANKED m f,0WEDGE-TAILED m f,0ai WEDGE-TAILED m f,0OPEN-OUTLINED m f,",
   "0k iu LOOP,0q DIMENSIONAL dz,0y an CONTAINING d y an,0PERPENDICULAR,0dh ho,1gk,",
   "0n S-SHAPED BAG DELIMITER,0h S-SHAPED BAG DELIMITER,0OR b aj ka,0id gx PRECEDING ho,",
   "0gk PRECEDING gx,0r cc b aa u,0MATHEMATICAL RISING cy,0dl DIVISION,0MATHEMATICAL FALLING cy,",
   "0ep ly l,2OR,0y dv b CENTRED aj,0l b aj,0ELEMENT OF OPENING ax,0br h gi b aj,0cf n gi b aj,",
   "0n OUTER JOIN,0h OUTER JOIN,0fs OUTER JOIN,0da UP io,1be io,0n l h k TURNSTILE,3io,1MULTIMAP,",
   "0dl h io,1n io,0UP io b at i,0lz DIVIDED BY aa RULE,0y CONCAVE-SIDED dv,3b s TICK,4m TICK,",
   "1as b s TICK,3m TICK,0MATHEMATICAL n y as af,1h y as af,1n dz af,1h dz af,1n k dz af,",
   "1h k dz af,1n y ih jp af,1h y ih jp af,1n FLATTENED by,1h FLATTENED by,0ax li f,0ag li f,",
   "0ev GAPPED at f,0jv GAPPED at f,0h f b ct bb,0dl s f,1m f,1n h f,1s k f,1m k f,1n h k f,",
   "1s f jg cc,1m f jg cc,1s k f jg cc,1m k f jg cc,2SQUIGGLE f,0BRAILLE PATTERN BLANK,2DOTS-1,",
   "2DOTS-2,2DOTS-12,2DOTS-3,2DOTS-13,2DOTS-23,2DOTS-123,2DOTS-4,2DOTS-14,2DOTS-24,2DOTS-124,",
   "2DOTS-34,2DOTS-134,2DOTS-234,2DOTS-1234,2DOTS-5,2DOTS-15,2DOTS-25,2DOTS-125,2DOTS-35,",
   "2DOTS-135,2DOTS-235,2DOTS-1235,2DOTS-45,2DOTS-145,2DOTS-245,2DOTS-1245,2DOTS-345,2DOTS-1345,",
   "2DOTS-2345,2DOTS-12345,2DOTS-6,2DOTS-16,2DOTS-26,2DOTS-126,2DOTS-36,2DOTS-136,2DOTS-236,",
   "2DOTS-1236,2DOTS-46,2DOTS-146,2DOTS-246,2DOTS-1246,2DOTS-346,2DOTS-1346,2DOTS-2346,",
   "2DOTS-12346,2DOTS-56,2DOTS-156,2DOTS-256,2DOTS-1256,2DOTS-356,2DOTS-1356,2DOTS-2356,",
   "2DOTS-12356,2DOTS-456,2DOTS-1456,2DOTS-2456,2DOTS-12456,2DOTS-3456,2DOTS-13456,2DOTS-23456,",
   "2DOTS-123456,2DOTS-7,2DOTS-17,2DOTS-27,2DOTS-127,2DOTS-37,2DOTS-137,2DOTS-237,2DOTS-1237,",
   "2DOTS-47,2DOTS-147,2DOTS-247,2DOTS-1247,2DOTS-347,2DOTS-1347,2DOTS-2347,2DOTS-12347,2DOTS-57,",
   "2DOTS-157,2DOTS-257,2DOTS-1257,2DOTS-357,2DOTS-1357,2DOTS-2357,2DOTS-12357,2DOTS-457,",
   "2DOTS-1457,2DOTS-2457,2DOTS-12457,2DOTS-3457,2DOTS-13457,2DOTS-23457,2DOTS-123457,2DOTS-67,",
   "2DOTS-167,2DOTS-267,2DOTS-1267,2DOTS-367,2DOTS-1367,2DOTS-2367,2DOTS-12367,2DOTS-467,",
   "2DOTS-1467,2DOTS-2467,2DOTS-12467,2DOTS-3467,2DOTS-13467,2DOTS-23467,2DOTS-123467,2DOTS-567,",
   "2DOTS-1567,2DOTS-2567,2DOTS-12567,2DOTS-3567,2DOTS-13567,2DOTS-23567,2DOTS-123567,2DOTS-4567,",
   "2DOTS-14567,2DOTS-24567,2DOTS-124567,2DOTS-34567,2DOTS-134567,2DOTS-234567,2DOTS-1234567,",
   "2DOTS-8,2DOTS-18,2DOTS-28,2DOTS-128,2DOTS-38,2DOTS-138,2DOTS-238,2DOTS-1238,2DOTS-48,",
   "2DOTS-148,2DOTS-248,2DOTS-1248,2DOTS-348,2DOTS-1348,2DOTS-2348,2DOTS-12348,2DOTS-58,",
   "2DOTS-158,2DOTS-258,2DOTS-1258,2DOTS-358,2DOTS-1358,2DOTS-2358,2DOTS-12358,2DOTS-458,",
   "2DOTS-1458,2DOTS-2458,2DOTS-12458,2DOTS-3458,2DOTS-13458,2DOTS-23458,2DOTS-123458,2DOTS-68,",
   "2DOTS-168,2DOTS-268,2DOTS-1268,2DOTS-368,2DOTS-1368,2DOTS-2368,2DOTS-12368,2DOTS-468,",
   "2DOTS-1468,2DOTS-2468,2DOTS-12468,2DOTS-3468,2DOTS-13468,2DOTS-23468,2DOTS-123468,2DOTS-568,",
   "2DOTS-1568,2DOTS-2568,2DOTS-12568,2DOTS-3568,2DOTS-13568,2DOTS-23568,2DOTS-123568,2DOTS-4568,",
   "2DOTS-14568,2DOTS-24568,2DOTS-124568,2DOTS-34568,2DOTS-134568,2DOTS-234568,2DOTS-1234568,",
   "2DOTS-78,2DOTS-178,2DOTS-278,2DOTS-1278,2DOTS-378,2DOTS-1378,2DOTS-2378,2DOTS-12378,",
   "2DOTS-478,2DOTS-1478,2DOTS-2478,2DOTS-12478,2DOTS-3478,2DOTS-13478,2DOTS-23478,2DOTS-123478,",
   "2DOTS-578,2DOTS-1578,2DOTS-2578,2DOTS-12578,2DOTS-3578,2DOTS-13578,2DOTS-23578,2DOTS-123578,",
   "2DOTS-4578,2DOTS-14578,2DOTS-24578,2DOTS-124578,2DOTS-34578,2DOTS-134578,2DOTS-234578,",
   "2DOTS-1234578,2DOTS-678,2DOTS-1678,2DOTS-2678,2DOTS-12678,2DOTS-3678,2DOTS-13678,2DOTS-23678,",
   "2DOTS-123678,2DOTS-4678,2DOTS-14678,2DOTS-24678,2DOTS-124678,2DOTS-34678,2DOTS-134678,",
   "2DOTS-234678,2DOTS-1234678,2DOTS-5678,2DOTS-15678,2DOTS-25678,2DOTS-125678,2DOTS-35678,",
   "2DOTS-135678,2DOTS-235678,2DOTS-1235678,2DOTS-45678,2DOTS-145678,2DOTS-245678,2DOTS-1245678,",
   "2DOTS-345678,2DOTS-1345678,2DOTS-2345678,2DOTS-12345678,0m km f b r u,4k r u,0s k f b r u,",
   "0m k f b r u,0n h k f b r u,0m km f jg cc,0s k f jg cc,0m k f jg cc,0ag f b aa u,",
   "0ax f b aa u,1dw f,0ag dw f,0s k hd f,0m k hd f,0s dw hd f,0m dw hd f,1km dw hd f,",
   "1f b fa STEM,0ax f TO cc,0ag f TO cc,0m f b fg b r u,5k r u,1km f b fg,5b r u,6k r u,",
   "0s ARROW-TAIL,0m ARROW-TAIL,0s k ARROW-TAIL,0m k ARROW-TAIL,0s f TO w dv,0m f TO w dv,",
   "0s f jg cc TO w dv,0m f jg cc TO w dv,0er fn l fo eg f,1eg l fo fn f,1fn f b al,1eg f b al,",
   "0fo eg f b al,1fn f b al,0er fn f l er eg f,1eg f l fo eg f,0fo eg f l fo fn f,",
   "1fn f l er fn f,0RISING cy ej FALLING cy,0FALLING cy ej RISING cy,0fo eg f ej er eg f,",
   "0er eg f ej fo eg f,0FALLING cy ej er eg f,0RISING cy ej fo eg f,0er eg f ej er fn f,",
   "1fn f ej er eg f,0mw f bn DIRECTLY h,0f bn m THEN CURVING ax,5ag,2ag THEN CURVING s,5m,",
   "0RIGHT-SIDE ARC jv f,0LEFT-SIDE ARC ev f,0jc ARC ev f,0gh ARC ev f,0jc ARC jv f b mo,",
   "2ev f b bb,0br h SEMICIRCULAR jv f,1n SEMICIRCULAR ev f,0ev fq at f,0jv fq at f,",
   "0m f i ef s f,0s f i ef m f,0ef m f i s f,0m f b bb o,0s f b bb o,0m f lk X,0n h f lk d at,",
   "0ax km f jg d at,0n cr UP h cr be cm,2be h cr UP cm,0UP cr h be cr n cm,2n be cr h cm,",
   "0n cr UP h cr UP cm,0UP cr h be cr h cm,0n cr be h cr be cm,0UP cr n be cr n cm,",
   "0s cm b cr UP TO cc,0m cm b cr UP TO cc,0ax cm b cr h TO cc,0ag cm b cr h TO cc,",
   "0s cm b cr be TO cc,0m cm b cr be TO cc,0ax cm b cr n TO cc,0ag cm b cr n TO cc,",
   "0s cm b cr UP jg cc,0m cm b cr UP jg cc,0ax cm b cr h jg cc,0ag cm b cr h jg cc,",
   "0s cm b cr be jg cc,0m cm b cr be jg cc,0ax cm b cr n jg cc,0ag cm b cr n jg cc,",
   "0s cm b cr UP i s cm b cr be,0ax cm b cr n BESIDE ax cm b cr h,0m cm b cr UP i m cm b cr be,",
   "0ag cm b cr n BESIDE ag cm b cr h,0s cm b cr UP i m cm b cr UP,4be i m cm b cr be,",
   "0m cm b cr UP i s cm b cr UP,4be i s cm b cr be,0s cm b cr UP i dl hd,4be o dl hd,",
   "0m cm b cr UP i dl hd,4be o dl hd,0ax cm b cr n BESIDE ag cm b cr h,",
   "0ag cm b cr n BESIDE ax cm b cr h,0h k f b ROUNDED HEAD,0fr g i m f,0bo dc i m f,",
   "0s f i bo dc,0m f i bo dc,3ll bf TO,0bg i s f,0s f lk bg,0au i m f,0ho i m f,0s f lk ho,",
   "0gk i s f,0n FISH fg,0h FISH fg,0UP FISH fg,0be FISH fg,0dw r cc DELIMITER,0Z NOTATION SPOT,",
   "2TYPE hp,0n y iu af,0h y iu af,0n y by,0h y by,0Z NOTATION n IMAGE af,2h IMAGE af,",
   "2n BINDING af,2h BINDING af,0n as af b fz,0h as af b fz,0n as af b TICK IN jc gi,",
   "0h as af b TICK IN gh gi,0n as af b TICK IN gh gi,0h as af b TICK IN jc gi,0n dz af b aj,",
   "0h dz af b aj,0n ARC bg af,0h ARC au af,0k n ARC au af,1h ARC bg af,0n w ih jp af,",
   "0h w ih jp af,0fa FENCE,0r ZIGZAG ec,0MEASURED dz OPENING n,0h dz hu b as,",
   "0MEASURED h dz b aj,0dz b S ka,0bx dz,0SPHERICAL dz OPENING n,3UP,0bs dz,0az dz,0dz b fz,",
   "0az dz b fz,0kv dz OPENING UP,3be,0MEASURED dz b dh ARM ENDING IN f bn UP l h,bn,9be l h,bn,",
   "9h l UP,9n l UP,9h l be,9n l be,0az EMPTY SET,0EMPTY SET b ma,3d at i,3h f i,3n f i,",
   "0at b aa cc,0ct r cc,1PARALLEL,1id gx,1PERPENDICULAR,",
   "0at DIVIDED BY aa cc l jc bd DIVIDED BY r cc,1b SUPERIMPOSED X,",
   "0ct ANTICLOCKWISE-ROTATED DIVISION g,0UP f lk at,0ct y nf,1nf,1bg,1au,0at b d at TO kb h,",
   "2ad aa STROKES TO kb h,0ep RISING cy SLASH,1FALLING cy SLASH,1cw,1d at,1as,",
   "0ad JOINED SQUARES,0an b aj i,2fz,0S IN an,0an b SERIFS AT gh,0h an i n an,0n an BESIDE r cc,",
   "0r cc BESIDE h an,0BOWTIE b n bd w,2h bd w,0w BOWTIE,0ar b n bd w,2h bd w,0y HOURGLASS,",
   "0w HOURGLASS,0n WIGGLY FENCE,0h WIGGLY FENCE,0n k WIGGLY FENCE,0h k WIGGLY FENCE,",
   "0INCOMPLETE INFINITY,0TIE bz INFINITY,0INFINITY NEGATED b r cc,0DOUBLE-ENDED MULTIMAP,",
   "0as b CONTOURED OUTLINE,0INCREASES AS,0SHUFFLE mb,0fr g l hs PARALLEL,5b bo i,",
   "0IDENTICAL TO l hs PARALLEL,0GLEICH STARK,0THERMODYNAMIC,0hl an b n bd w,3h bd w,",
   "0w dv b be f,1lz,0y at b be f,0w at b be f,0ERROR-BARRED y as,1w as,1y dv,1w dv,1y at,1w at,",
   "0RULE-DELAYED,0id gx dc,0gx b ma,0id gx b aa u,0BIG gx,1id gx,0k bb,0dw bb,0ee CURVED dz af,",
   "0di CURVED dz af,0TINY,0MINY,0N-ARY ct aj dc,2bb dc,2ar dc,1ne dc b aj,4bb,1as fv dc,2ne dc,",
   "0ad ly l dc,2OR dc,0N-ARY ar dc,0MODULO ad SUM,0SUMMATION b hx,0li hx dc,0FINITE PART hx,",
   "0hx b k u,1AVERAGE b SLASH,0CIRCULATION FUNCTION,0ev INTEGRATION,",
   "0ec INTEGRATION b RECTANGULAR PATH AROUND POLE,3SEMICIRCULAR PATH AROUND POLE,",
   "2gs INCLUDING kb POLE,0hx AROUND A POINT dc,0QUATERNION hx dc,0hx b s f b al,2ar g,2fv,2ne,",
   "2ma,2fz,0JOIN,0da n an dc,0Z NOTATION SCHEMA COMPOSITION,3PIPING,3PROJECTION,0bb g b d at i,",
   "3am eu i,3bo i,3aj o,3bo o,3SUBSCRIPT ad,3w an,0mo g b do i,3aj o,3FALLING bw,3RISING bw,",
   "0bb g IN n bd at,3h bd at,0VECTOR OR ey mb,0hq g b aj i,3fz,0SEMIDIRECT mb b gh fq,0SMASH mb,",
   "0hq g IN n bd at,3h bd at,0ct hq g b am eu,0hq g IN k at,0ct DIVISION g,0bb g IN an,",
   "0mo g IN an,0hq g IN an,0INTERIOR mb,0RIGHTHAND INTERIOR mb,",
   "0Z NOTATION RELATIONAL COMPOSITION,0AMALGAMATION OR COPRODUCT,0fv b aj,0ne b mo g,2ma,",
   "0fv b ma,2ly l,0ne b ly OR,1i fv,0fv i ne,0ne i cc i fv,0fv i cc i ne,",
   "0ne BESIDE l JOINED b ne,0fv BESIDE l JOINED b fv,0fq ne b SERIFS,1fv b SERIFS,0k as fv,2ne,",
   "0fq ne b SERIFS l SMASH mb,0ly l b aj i,1OR b aj i,0k ly l,2OR,0ad INTERSECTING ly l,3OR,",
   "0SLOPING da OR,2l,0ly OR OVERLAPPING ly l,1l b ab STEM,1OR b ab STEM,1l b aa hd,1OR b aa hd,",
   "1l b k ma,3fz,3k fz,0d VEE b fz,0ly OR b k ma,4fz,0Z NOTATION DOMAIN ANTIRESTRICTION,",
   "2RANGE ANTIRESTRICTION,0fr g b aj o,0IDENTICAL b aj i,0dw aa cc b k r u,4dw r u,",
   "0bo dc b aj i,3RISING bw,0SIMILAR mo SIMILAR,0CONGRUENT b aj i,0fr b cw,0ll bf TO b am eu,",
   "0APPROXIMATELY bf OR bf TO,0fr g i bb g,0bb g i fr g,0fr g i bo dc,0k hp bf,",
   "0ad CONSECUTIVE fr SIGNS,0q CONSECUTIVE fr SIGNS,0fr g b ad bw i l ad bw o,0ia b ak bw i,",
   "0bg b at ka,0au b at ka,0bg b ew x i,0au b ew x i,0bg OR hs bf TO,0au OR hs bf TO,",
   "0bg OR hs bf TO b aj ka,0au OR hs bf TO b aj ka,0bg OR hs bf TO b aj i,",
   "0au OR hs bf TO b aj i,0bg OR hs bf TO b aj i h,0au OR hs bf TO b aj i n,0bg OR APPROXIMATE,",
   "0au OR APPROXIMATE,0bg l SINGLE-LINE gs bf TO,0au l SINGLE-LINE gs bf TO,",
   "0bg l gs APPROXIMATE,0au l gs APPROXIMATE,0bg i DOUBLE-LINE bf i au,",
   "0au i DOUBLE-LINE bf i bg,0bg i SIMILAR OR bf,0au i SIMILAR OR bf,0bg i SIMILAR i au,",
   "0au i SIMILAR i bg,0bg i au i DOUBLE-LINE bf,0au i bg i DOUBLE-LINE bf,",
   "0bg i hs bf i au i hs bf,0au i hs bf i bg i hs bf,0hs bf TO OR bg,4au,4bg b aj ka,",
   "4au b aj ka,0DOUBLE-LINE bf TO OR bg,4au,1hs bf TO OR bg,5au,0SIMILAR OR bg,2au,1i bg i fr g,",
   "2au i fr g,0k NESTED bg,2au,2bg b fz,0au OVERLAPPING bg,1BESIDE bg,0bg fq BY mf,0au fq BY mf,",
   "0bg fq BY mf i hs bf,0au fq BY mf i hs bf,0SMALLER THAN,0LARGER THAN,0SMALLER THAN OR bf TO,",
   "0LARGER THAN OR bf TO,0fr g b BUMPY i,0kz i SINGLE-LINE fr g,0lc i SINGLE-LINE fr g,",
   "0kz i SINGLE-LINE gs bf TO,0lc i SINGLE-LINE gs bf TO,0kz i fr g,0lc i fr g,0kz i gs bf TO,",
   "0lc i gs bf TO,0kz i ll bf TO,0lc i ll bf TO,0kz i gs ll bf TO,0lc i gs ll bf TO,0k kz,1lc,",
   "0ho b aj,0gk b aj,0ho b bb g o,0gk b bb g o,0ho b hq g o,0gk b hq g o,0ho OF OR bf TO b aj i,",
   "0gk OF OR bf TO b aj i,0ho OF i fr g,0gk OF i fr g,0ho OF i bo dc,0gk OF i bo dc,",
   "0ho OF i ll bf TO,0gk OF i ll bf TO,0ho OF i gs bf TO,0gk OF i gs bf TO,0as n dh nn dc,",
   "1h dh nn dc,0fq ho,1gk,1ho OR bf TO,1gk OR bf TO,0ho i gk,0gk i ho,0ho i ho,0gk i gk,",
   "1BESIDE ho,2l JOINED BY hd b ho,0ELEMENT OF OPENING ag,0PITCHFORK b TEE jc,0TRANSVERSAL fv,",
   "0FORKING,0NONFORKING,0ef n io,1be io,1UP io,0PERPENDICULAR b S,0r cc dw h TURNSTILE,",
   "0k r cc n TURNSTILE,0r cc k n TURNSTILE,0k r cc k n TURNSTILE,0dl hd jg n MEMBER OF k r,",
   "0ef be io b ma,1UP io b fz,3i ef be io,0k be io,1UP io,1u gs g,0az k u gs g,",
   "0DOES gs DIVIDE b az NEGATION SLASH,0r ec b at i,4o,0be io b at o,0PARALLEL b aa u,2bo dc,",
   "0dw r cc BINARY RELATION,3b aa u,1hp dc,1NESTED bg,2au,0DOUBLE-LINE hs bg OR bf TO,",
   "2au OR bf TO,0dw gx BINARY RELATION,0da dw r cc dc,0k gx dc,0y r cc,0N-ARY y r cc,0er eg y f,",
   "1fn y f,0fo eg y f,1fn y f,0n h y f,0s w f,0ax w f,0ag w f,0er eg w f,1fn w f,0fo eg w f,",
   "1fn w f,0n h w f,0UP be w f,0m f b TIP ag,4ax,0s f b TIP ag,4ax,0as b jc bd w,2gh bd w,",
   "2cf h cy bd w,2br n cy bd w,0dv b n bd w,2h bd w,2jc bd w,2gh bd w,0fa as,0w da as,0y da as,",
   "0w kf d as,0y kf d as,0w PENTAGON,0y PENTAGON,1HEXAGON,0w HEXAGON,0aa w HEXAGON,0w da at,",
   "1bc dv,0y bc dv,0w bc lz,0y bc lz,0w d dv,2lz,0y d lz,0w aa ELLIPSE,0y aa ELLIPSE,",
   "0w r ELLIPSE,0y r ELLIPSE,0n f b d at,0q s lm,0n f b ct bb,0dl s SQUIGGLE f,0s km f b r u,",
   "4k r u,3jg cc,2dw hd f,1f b fa STEM,3fg b r u,5k r u,1km f b fg,5b r u,6k r u,1f lk X,",
   "0mw f bn DIRECTLY n,0fr g i s f,0id bo dc i s f,0s f i id ll bf TO,0m f lk au,3gk,0s li f,",
   "0m li f,0id bo dc i m f,0m f i id ll bf TO,0bo dc i s f,0s f i ll bf TO,3id bo dc,",
   "0m f i id bo dc,0ag z ZIGZAG f,0ef hs er f,1BACKSLANTED fo f,0y bc et,0w d et,0y d et,",
   "0w di PENTAGON,0y di PENTAGON,0ai da at,1OVAL b OVAL ka,1at b at ka,2,1ct SALTIRE,",
   "0hs er f b HOOKED HEAD,0BACKSLANTED fo f b HOOKED fg,0hs er f b aa fg,",
   "0BACKSLANTED fo f b aa fg,0jk f bn ag THEN er eg,0ef jk f bn ag THEN er eg,0s z f,0ax z f,",
   "0m z f,0ag z f,0n h z f,0UP be z f,0er fn z f,1eg z f,0fo eg z f,1fn z f,0s z DASHED f,",
   "0ax z DASHED f,0m z DASHED f,0ag z DASHED f,0jv z dh at f,0ev z dh at f,0s z f TO cc,",
   "0ax z f TO cc,0m z f TO cc,0ag z f TO cc,+2,0er fn z f TO cc,1eg z f TO cc,0fo eg z f TO cc,",
   "1fn z f TO cc,0s z f b k aa u,0ax z f b k aa u,0m z f b k aa u,0ag z f b k aa u,0aa TAB KEY,",
   "0r TAB KEY,0s z f bz m z f,0ax z f s OF ag z f,0m z f bz s z f,0ag z f s OF ax z f,",
   "0s z PAIRED lm,0ax z PAIRED lm,0m z PAIRED lm,0ag z PAIRED lm,0s w ct y f,0ax w ct y f,",
   "0m w ct y f,0ag w ct y f,0ev z h U-SHAPED f,2gh U-SHAPED f,2n U-SHAPED f,2jc U-SHAPED f,",
   "0RETURN n,1h,0NEWLINE n,1h,0ak gi lm CIRCLING ev,0m w f,+1,0v jz TYPE A ELECTRONICS,",
   "0THREE-D TOP-LIGHTED s ea ay,1RIGHT-LIGHTED ax ea ay,1TOP-LIGHTED m ea ay,",
   "1LEFT-LIGHTED ag ea ay,0w s ea ay,1ax ea ay,1m ea ay,1ag ea ay,0ag z f b dl TIP s,6m,",
   "0ax z f b dl TIP s,6m,0s z f b dl TIP ax,0m z f b dl TIP ax,0s z f b dl TIP ag,",
   "0m z f b dl TIP ag,0w CURVED ag l s f,4m f,2ax l s f,4m f,2s l ax f,2m l ax f,2s l ag f,",
   "2m l ag f,0RIBBON f be n,3h,2UP n,3h,2n UP,2h UP,2n be,2h be,0ax y f jg cc b aa cc,",
   "0UP ay IN A RECTANGLE nn,0OVERLAPPING y SQUARES,2l w SQUARES,1w SQUARES,0BALLOT nn b bk X,",
   "0ct X,1jx X,0w as CENTRED,1dv CENTRED,0bs w PENTAGON,0aa w OCTAGON,0w OCTAGON,",
   "1bc ht an CENTRED,2hl an CENTRED,2ee an CENTRED,2di an CENTRED,0NEPTUNE e ad,0jc bd w at,",
   "0gh bd w at,0bk ak eo w CUSP,0cd bk ak eo w CUSP,0y ak eo CUSP,0cd y ak eo CUSP,",
   "0as POSITION INDICATOR,0UNCERTAINTY g,0GROUP x,0PLUTO e ad,2q,2ak,2ao,0TRANSPLUTO,",
   "0PROSERPINA,0ASTRAEA,0HYGIEA,0PHOLUS,0NESSUS,0y kx SELENA,0w dv ON ey,0TRUE bk kx ARTA,",
   "0CUPIDO,0HADES,0ZEUS,0KRONOS,0APOLLON,0ADMETOS,0VULCANUS,0POSEIDON,0n bd w et,0h bd w et,",
   "0et b n bd w,2h bd w,0s km f b an ARROWHEADS,0ax km f b an ARROWHEADS,",
   "0m km f b an ARROWHEADS,0ag km f b an ARROWHEADS,0ERIS e ah,2ad,0SEDNA,",
   "0RUSSIAN ASTROLOGICAL v VIGINTILE,3NOVILE,3QUINTILE,3BINOVILE,3SENTAGON,3TREDECILE,",
   "0fr g b INFINITY o,0UNITED v,0SEPARATED v,0DOUBLED v,0PASSED v,0az h dz,",
   "0HELLSCHREIBER PAUSE v,0GLAGOLITIC c a AZU,3BUKY,3VEDE,3GLAGOLI,3DOBRO,3YESTU,3ZHIVETE,",
   "3DZELO,3ZEMLJA,3IZHE,3t IZHE,3I,3DJERVI,3KAKO,3LJUDIJE,3MYSLITE,3NASHI,3ONU,3POKOJI,3RITSI,",
   "3SLOVO,3TVRIDO,3UKU,3FRITU,3HERU,3OTU,3PE,3SHTA,3TSI,3CHRIVI,3ff,3YERU,3YERI,3YATI,",
   "3SPIDERY HA,3YU,3d my,5b fg,3YO,3IOTATED d my,3BIG my,3IOTATED BIG my,3FITA,3IZHITSA,",
   "3SHTAPIC,3TROKUTASTI A,3LATINATE MYSLITE,3CAUDATE CHRIVI,1d a AZU,3BUKY,3VEDE,3GLAGOLI,",
   "3DOBRO,3YESTU,3ZHIVETE,3DZELO,3ZEMLJA,3IZHE,3t IZHE,3I,3DJERVI,3KAKO,3LJUDIJE,3MYSLITE,",
   "3NASHI,3ONU,3POKOJI,3RITSI,3SLOVO,3TVRIDO,3UKU,3FRITU,3HERU,3OTU,3PE,3SHTA,3TSI,3CHRIVI,3ff,",
   "3YERU,3YERI,3YATI,3SPIDERY HA,3YU,3d my,5b fg,3YO,3IOTATED d my,3BIG my,3IOTATED BIG my,",
   "3FITA,3IZHITSA,3SHTAPIC,3TROKUTASTI A,3LATINATE MYSLITE,3CAUDATE CHRIVI,0ed c a L b k cc,",
   "1d a L b k cc,1c a L b ab bo,3P b u,3R b fg,1d a A b u,3T b cy u,1c a H b cx,1d a H b cx,",
   "1c a K b cx,1d a K b cx,1c a Z b cx,1d a Z b cx,1c a gz,3M b al,3bs A,4gz,1d a V b h al,",
   "1c a W b al,1d a W b al,3V b ms,1c a bd H,1d a bd H,3TAILLESS PHI,3E b NOTCH,3bs R b fg,",
   "3O b ds cj ka,1a d c bs E,1SUBSCRIPT d a J,0eq a c V,0ed c a S b SWASH fg,3Z b SWASH fg,",
   "0hy c a ALFA,1d a ALFA,1c a VIDA,1d a VIDA,1c a kh,1d a kh,1c a DALDA,1d a DALDA,1c a EIE,",
   "1d a EIE,1c a SOU,1d a SOU,1c a ZATA,1d a ZATA,1c a HATE,1d a HATE,1c a THETHE,1d a THETHE,",
   "1c a IAUDA,1d a IAUDA,1c a KAPA,1d a KAPA,1c a LAULA,1d a LAULA,1c a MI,1d a MI,1c a NI,",
   "1d a NI,1c a KSI,1d a KSI,1c a O,1d a O,1c a PI,1d a PI,1c a RO,1d a RO,1c a SIMA,1d a SIMA,",
   "1c a TAU,1d a TAU,1c a UA,1d a UA,1c a FI,1d a FI,1c a KHI,1d a KHI,1c a PSI,1d a PSI,",
   "1c a OOU,1d a OOU,1c a DIALECT-P ce,1d a DIALECT-P ce,1c a hh hy lh,1d a hh hy lh,",
   "1c a jw EIE,1d a jw EIE,1c a DIALECT-P KAPA,1d a DIALECT-P KAPA,1c a DIALECT-P NI,",
   "1d a DIALECT-P NI,1c a jw NI,1d a jw NI,1c a hh hy OOU,1d a hh hy OOU,1c a SAMPI,1d a SAMPI,",
   "1c a lx SHEI,1d a lx SHEI,1c a hh hy SHEI,1d a hh hy SHEI,1c a hh hy ESH,1d a hh hy ESH,",
   "1c a AKHMIMIC KHEI,1d a AKHMIMIC KHEI,1c a DIALECT-P HORI,1d a DIALECT-P HORI,",
   "1c a hh hy HORI,1d a hh hy HORI,1c a hh hy HA,1d a hh hy HA,1c a L-SHAPED HA,",
   "1d a L-SHAPED HA,1c a hh hy HEI,1d a hh hy HEI,1c a hh hy HAT,1d a hh hy HAT,",
   "1c a hh hy GANGIA,1d a hh hy GANGIA,1c a hh hy DJA,1d a hh hy DJA,1c a hh hy SHIMA,",
   "1d a hh hy SHIMA,1c a hh NUBIAN SHIMA,1d a hh NUBIAN SHIMA,1c a hh NUBIAN NGI,",
   "1d a hh NUBIAN NGI,1c a hh NUBIAN NYI,1d a hh NUBIAN NYI,1c a hh NUBIAN WAU,",
   "1d a hh NUBIAN WAU,1v KAI,2MI RO,2PI RO,2STAUROS,2TAU RO,2KHI RO,2SHIMA SIMA,1c a jw SHEI,",
   "1d a jw SHEI,1c a jw GANGIA,1d a jw GANGIA,1dd NI i,2SPIRITUS ASPER,3LENIS,",
   "1c a BOHAIRIC KHEI,1d a BOHAIRIC KHEI,+5,1hh NUBIAN fs dq,3DIRECT ew x,3INDIRECT ew x,",
   "3VERSE DIVIDER,1hw ah bd,1fs dq,1MORPHOLOGICAL DIVIDER,0GEORGIAN d a AN,3BAN,3GAN,3DON,3EN,",
   "3VIN,3ZEN,3TAN,3IN,3KAN,3LAS,3MAN,3NAR,3ON,3PAR,3ZHAR,3RAE,3SAN,3TAR,3UN,3PHAR,3KHAR,3GHAN,",
   "3QAR,3jq,3CHIN,3CAN,3JIL,3CIL,3CHAR,3XAN,3JHAN,3HAE,3HE,3HIE,3WE,3HAR,3HOE,+1,3YN,+5,3AEN,+2,",
   "0TIFINAGH a YA,2YAB,2YABH,2YAG,2YAGHH,2BERBER ACADEMY YAJ,2YAJ,2YAD,2YADH,2YADD,2YADDH,2YEY,",
   "2YAF,2YAK,2TUAREG YAK,2YAKHH,2YAH,2BERBER ACADEMY YAH,2TUAREG YAH,2YAHH,2YAA,2YAKH,",
   "2TUAREG YAKH,2YAQ,2TUAREG YAQ,2YI,2YAZH,2AHAGGAR YAZH,2TUAREG YAZH,2YAL,2YAM,2YAN,",
   "2TUAREG YAGN,3YANG,2YAP,2YU,2YAR,2YARR,2YAGH,2TUAREG YAGH,2AYER YAGH,2YAS,2YASS,2YASH,2YAT,",
   "2YATH,2YACH,2YATT,2YAV,2YAW,2YAY,2YAZ,2TAWELLEMET YAZ,2YAZZ,2YE,2YO,+7,1eq a LABIALIZATION x,",
   "1fm x,+e,1fu JOINER,0ETHIOPIC iy LOA,2MOA,2ROA,2SOA,2SHOA,2BOA,2TOA,2COA,2NOA,2NYOA,2gd OA,",
   "2ZOA,2DOA,2DDOA,2JOA,2THOA,2CHOA,2PHOA,2POA,2GGWA,2GGWI,2GGWEE,2GGWE,+9,2jr,2SSU,2SSI,2SSAA,",
   "2SSEE,2SSE,2SSO,+1,2CCA,2CCU,2CCI,2CCAA,2CCEE,2CCE,2CCO,+1,2ZZA,2ZZU,2ZZI,2ZZAA,2ZZEE,2ZZE,",
   "2ZZO,+1,2CCHA,2CCHU,2CCHI,2CCHAA,2CCHEE,2CCHE,2CCHO,+1,2QYA,2QYU,2QYI,2QYAA,2QYEE,2QYE,2QYO,",
   "+1,2KYA,2KYU,2KYI,2KYAA,2KYEE,2KYE,2KYO,+1,2XYA,2XYU,2XYI,2XYAA,2XYEE,2XYE,2XYO,+1,2GYA,2GYU,",
   "2GYI,2GYAA,2GYEE,2GYE,2GYO,+1,0dd kd a BE,3VE,3GHE,3DE,3ZHE,3ZE,3KA,3EL,3EM,3EN,3O,3PE,3ER,",
   "3ES,3TE,3HA,3TSE,3CHE,3ff,3SHCHA,3FITA,3ES-TE,3A,3IE,3DJERV,3MONOGRAPH UK,3YAT,3YU,3ix A,",
   "3dk my,3BIG my,3ix BIG my,0h dz SUBSTITUTION MARKER,2fa SUBSTITUTION MARKER,",
   "0n SUBSTITUTION af,0h SUBSTITUTION af,0n fa SUBSTITUTION af,0h fa SUBSTITUTION af,",
   "0hn INTERPOLATION MARKER,1fa INTERPOLATION MARKER,0fa TRANSPOSITION MARKER,",
   "0n TRANSPOSITION af,0h TRANSPOSITION af,0hn as,0n hn OMISSION af,0h hn OMISSION af,",
   "0EDITORIAL CORONIS,0PARAGRAPHOS,0FORKED PARAGRAPHOS,0az FORKED PARAGRAPHOS,0HYPODIASTOLE,",
   "0fa OBELOS,0ag ANCORA,0ax ANCORA,0fa di dz,0k kv HYPHEN,0bm INTERROBANG,0PALM BRANCH,",
   "0HYPHEN b aw,0bo b cj i,0n ds PARAPHRASE af,0h ds PARAPHRASE af,0bo b aj i,3o,",
   "0n r cc b QUILL,0h r cc b QUILL,0jc n bd af,1h bd af,0gh n bd af,1h bd af,0n SIDEWAYS U af,",
   "0h SIDEWAYS U af,0n k by,0h k by,0ad bw bz ah aj bv,0ah aj bz ad bw bv,0ep ak aj bv,0ao aj x,",
   "0az ew x,0r bo,0cj POINT,0WORD fm ab aj,0bs do,0hn aj,1do,0bs kq,0DAGGER b n GUARD,2h GUARD,",
   "0bs DAGGER,0jc bd gw g,0TWO-EM hd,0THREE-EM hd,0STENOGRAPHIC fs dq,0r ca bw,0WIGGLY r ec,",
   "0CAPITULUM,0k HYPHEN,0az do,0k LOW-REVERSED-9 dy x,0hd b n UPTURN,0k SUSPENSION x,",
   "0bm ds KAVYKA,3b KAVYKA i,0ds KAVYKA,2b aj,0k STACKED do,0fa gx,0dw DAGGER,0MEDIEVAL do,",
   "0PARAGRAPHUS x,0PUNCTUS ELEVATUS x,0CORNISH VERSE DIVIDER,0ey PATTY b h CROSSBAR,3n CROSSBAR,",
   "0TIRONIAN g c ET,0MEDIEVAL dt x,1ew x,0n as af b u,0h as af b u,0n as af b k u,",
   "0h as af b k u,0jc bd n by,2h by,0gh bd n by,2h by,0kv HYPHEN,+y,0CJK RADICAL REPEAT,2CLIFF,",
   "2SECOND ah,3ad,3q,2lp,2nn,2TABLE,2KNIFE ah,3ad,2DIVINATION,2SEAL,2d ah,3ad,2LAME ah,3ad,3q,",
   "3ak,2SNAKE,2THREAD,2SNOUT ah,3ad,2ie ah,3ad,2jh,2RAP,+1,2CHOKE,2SUN,2kx,2DEATH,2MOTHER,",
   "2CIVILIAN,2WATER ah,3ad,2FIRE,2PAW ah,3ad,2SIMPLIFIED bd TREE TRUNK,2COW,2DOG,2JADE,",
   "2BOLT OF CLOTH,2EYE,2SPIRIT ah,3ad,2BAMBOO,2SILK,2gp SILK,2NET ah,3ad,3q,3ak,2MESH,2SHEEP,",
   "2RAM,2EWE,2hh,2BRUSH ah,3ad,2MEAT,2MORTAR,2GRASS ah,3ad,3q,2TIGER,2CLOTHES,2fn ah,3ad,",
   "2gp SEE,2SIMPLIFIED in,2in,2gp SPEECH,3jp,2FOOT,2gp CART,2SIMPLIFIED WALK,2WALK ah,3ad,2CITY,",
   "2gp GOLD,2dl ah,3ad,2gp dl,3GATE,2MOUND ah,3ad,2RAIN,2BLUE,2gp TANNED LEATHER,3mv,3WIND,3FLY,",
   "2EAT ah,3ad,3q,2gp EAT,2HEAD,2gp HORSE,2BONE,2GHOST,2gp FISH,3BIRD,3SALT,2SIMPLIFIED WHEAT,",
   "3YELLOW,2gp FROG,2J-SIMPLIFIED EVEN,2gp EVEN,2J-SIMPLIFIED TOOTH,2gp TOOTH,",
   "2J-SIMPLIFIED DRAGON,2gp DRAGON,2TURTLE,2J-SIMPLIFIED TURTLE,2gp TURTLE,+c,",
   "0KANGXI RADICAL ah,2ec,2aj,2SLASH,2SECOND,2al,2ad,2LID,2MAN,2LEGS,2ENTER,2aq,2be nn,2COVER,",
   "2ICE,2TABLE,2dh nn,2KNIFE,2POWER,2WRAP,2SPOON,2h dh nn,2HIDING ENCLOSURE,2el,2DIVINATION,",
   "2SEAL,2CLIFF,2PRIVATE,2AGAIN,2ku,2ENCLOSURE,2EARTH,2SCHOLAR,2GO,3SLOWLY,2EVENING,2BIG,2WOMAN,",
   "2CHILD,2ROOF,2INCH,2d,2LAME,2CORPSE,2SPROUT,2MOUNTAIN,2RIVER,2WORK,2ONESELF,2TURBAN,2DRY,",
   "2ef THREAD,2fa CLIFF,2dl STRIDE,2ad HANDS,2SHOOT,2BOW,2SNOUT,2BRISTLE,2STEP,2ie,2HALBERD,",
   "2DOOR,2jh,2BRANCH,2RAP,2ig,2DIPPER,2AXE,2as,2gs,2SUN,2SAY,2kx,2TREE,2LACK,2dq,2DEATH,2WEAPON,",
   "2DO gs,2COMPARE,2FUR,2CLAN,2STEAM,2WATER,2FIRE,2CLAW,2FATHER,2k X,2bd TREE TRUNK,2SLICE,",
   "2FANG,2COW,2DOG,2PROFOUND,2JADE,2MELON,2TILE,2SWEET,2LIFE,2USE,2FIELD,2BOLT OF CLOTH,",
   "2SICKNESS,2fa TENT,2y,2SKIN,2lv,2EYE,2SPEAR,2f,2STONE,2SPIRIT,2TRACK,2GRAIN,2CAVE,2STAND,",
   "2BAMBOO,2RICE,2SILK,2JAR,2NET,2SHEEP,2FEATHER,2hh,2l,2PLOW,2EAR,2BRUSH,2MEAT,2MINISTER,2SELF,",
   "2ARRIVE,2MORTAR,2TONGUE,2OPPOSE,2BOAT,2STOPPING,2COLOR,2GRASS,2TIGER,2INSECT,2BLOOD,",
   "2WALK ENCLOSURE,2CLOTHES,2fn,2SEE,2in,2SPEECH,2VALLEY,2BEAN,2PIG,2BADGER,2jp,2RED,2RUN,2FOOT,",
   "2BODY,2CART,2BITTER,2MORNING,2WALK,2CITY,2WINE,2DISTINGUISH,2VILLAGE,2GOLD,2dl,2GATE,2MOUND,",
   "2SLAVE,2ef TAILED BIRD,2RAIN,2BLUE,2WRONG,2bq,2LEATHER,2TANNED LEATHER,2LEEK,2nd,2mv,2WIND,",
   "2FLY,2EAT,2HEAD,2FRAGRANT,2HORSE,2BONE,2TALL,2HAIR,2FIGHT,2SACRIFICIAL WINE,2CAULDRON,2GHOST,",
   "2FISH,2BIRD,2SALT,2DEER,2WHEAT,2HEMP,2YELLOW,2MILLET,2w,2EMBROIDERY,2FROG,2TRIPOD,2DRUM,2RAT,",
   "2NOSE,2EVEN,2TOOTH,2DRAGON,2TURTLE,2FLUTE,+q,0hb DESCRIPTION no n TO h,3i TO o,3n TO ab l h,",
   "3i TO ab l o,3fs SURROUND,3SURROUND jg i,5o,5n,5cf n,6h,5br n,3OVERLAID,"]

/-!
The names of characters from U+3000 to below U+10000: kana, the Yi and Vai syllables and forms of
letters.
-/

/-- These names, in the writing that `DepView.Text.Names` reads. -/
def forms : List String :=
  ["+4,1kl,1do,1fs dq,0DITTO x,0JAPANESE INDUSTRIAL STANDARD v,0hb nq x,1CLOSING x,1cs cz,",
   "0n dz af,0h dz af,0n k dz af,0h k dz af,0n gi af,0h gi af,0n y gi af,0h y gi af,0n w nw af,",
   "0h w nw af,0POSTAL x,0GETA x,0n ih jp af,0h ih jp af,0n y nw af,0h y nw af,0n y ih jp af,",
   "0h y ih jp af,0n y as af,0h y as af,0mw hd,0az k PRIME dy x,0k PRIME dy x,0ds k PRIME dy x,",
   "0POSTAL x bq,0HANGZHOU NUMERAL ah,2ad,2q,2ak,2ao,2ca,2av,2aq,2bi,0hb LEVEL dm x,1RISING dm x,",
   "1DEPARTING dm x,1ENTERING dm x,0HANGUL ch aj dm x,1k aj dm x,0WAVY hd,0r KANA REPEAT x,",
   "3b VOICED nd x,3x cf bd,3b VOICED nd x cf bd,3x br bd,0ct POSTAL x,",
   "0hb TELEGRAPH ec FEED fm v,0HANGZHOU NUMERAL el,2em,2it,0r hb nq x,0MASU x,",
   "0PART ALTERNATION x,0hb VARIATION INDICATOR,1bd FILL kl,+1,0HIRAGANA a d A,2A,2d I,2I,2d U,",
   "2U,2d E,2E,2d O,2O,2KA,2GA,2KI,2GI,2KU,2GU,2KE,2GE,2KO,2GO,2SA,2ZA,2SI,2ZI,2SU,2ZU,2SE,2ZE,",
   "2SO,2ZO,2TA,2DA,2TI,2DI,2d TU,2TU,2DU,2TE,2DE,2TO,2DO,2NA,2NI,2NU,2NE,2NO,2HA,2BA,2PA,2HI,",
   "2BI,2PI,2HU,2BU,2PU,2HE,2BE,2PE,2HO,2BO,2PO,2MA,2MI,2MU,2ME,2MO,2d YA,2YA,2d YU,2YU,2d YO,",
   "2YO,2RA,2RI,2RU,2RE,2RO,2d WA,2WA,2WI,2WE,2WO,2N,2VU,2d KA,3KE,+2,0dd nb VOICED nd x,",
   "2SEMI-VOICED nd x,0nb VOICED nd x,1SEMI-VOICED nd x,0HIRAGANA nq x,1VOICED nq x,1gc YORI,",
   "0nb k HYPHEN,0mu a d A,2A,2d I,2I,2d U,2U,2d E,2E,2d O,2O,2KA,2GA,2KI,2GI,2KU,2GU,2KE,2GE,",
   "2KO,2GO,2SA,2ZA,2SI,2ZI,2SU,2ZU,2SE,2ZE,2SO,2ZO,2TA,2DA,2TI,2DI,2d TU,2TU,2DU,2TE,2DE,2TO,",
   "2DO,2NA,2NI,2NU,2NE,2NO,2HA,2BA,2PA,2HI,2BI,2PI,2HU,2BU,2PU,2HE,2BE,2PE,2HO,2BO,2PO,2MA,2MI,",
   "2MU,2ME,2MO,2d YA,2YA,2d YU,2YU,2d YO,2YO,2RA,2RI,2RU,2RE,2RO,2d WA,2WA,2WI,2WE,2WO,2N,2VU,",
   "2d KA,3KE,2VA,2VI,2VE,2VO,1ab aj,0nb PROLONGED nd x,0mu nq x,1VOICED nq x,1gc KOTO,+5,",
   "0BOPOMOFO a B,2P,2M,2F,2D,2T,2N,2L,2G,2K,2H,2J,2Q,2X,2ZH,2CH,2SH,2R,2Z,2C,2S,2A,2O,2E,2EH,",
   "2AI,2EI,2AU,2OU,2AN,2EN,2ANG,2ENG,2ER,2I,2U,2IU,2V,2NG,2GN,2IH,2O b aj i,2NN,+1,",
   "0HANGUL a KIYEOK,2SSANGKIYEOK,2KIYEOK-SIOS,2NIEUN,2NIEUN-CIEUC,2NIEUN-HIEUH,2TIKEUT,",
   "2SSANGTIKEUT,2RIEUL,2RIEUL-KIYEOK,2RIEUL-MIEUM,2RIEUL-PIEUP,2RIEUL-SIOS,2RIEUL-THIEUTH,",
   "2RIEUL-PHIEUPH,2RIEUL-HIEUH,2MIEUM,2PIEUP,2SSANGPIEUP,2PIEUP-SIOS,2SIOS,2SSANGSIOS,2IEUNG,",
   "2CIEUC,2SSANGCIEUC,2CHIEUCH,2KHIEUKH,2THIEUTH,2PHIEUPH,2HIEUH,2A,2AE,2YA,2YAE,2EO,2E,2YEO,",
   "2YE,2O,2WA,2WAE,2OE,2YO,2U,2WEO,2WE,2WI,2YU,2EU,2YI,2I,1FILLER,1a SSANGNIEUN,2NIEUN-TIKEUT,",
   "2NIEUN-SIOS,2NIEUN-PANSIOS,2RIEUL-KIYEOK-SIOS,2RIEUL-TIKEUT,2RIEUL-PIEUP-SIOS,2RIEUL-PANSIOS,",
   "2RIEUL-YEORINHIEUH,2MIEUM-PIEUP,2MIEUM-SIOS,2MIEUM-PANSIOS,2KAPYEOUNMIEUM,2PIEUP-KIYEOK,",
   "2PIEUP-TIKEUT,2PIEUP-SIOS-KIYEOK,2PIEUP-SIOS-TIKEUT,2PIEUP-CIEUC,2PIEUP-THIEUTH,",
   "2KAPYEOUNPIEUP,2KAPYEOUNSSANGPIEUP,2SIOS-KIYEOK,2SIOS-NIEUN,2SIOS-TIKEUT,2SIOS-PIEUP,",
   "2SIOS-CIEUC,2PANSIOS,2SSANGIEUNG,2YESIEUNG,2YESIEUNG-SIOS,2YESIEUNG-PANSIOS,2KAPYEOUNPHIEUPH,",
   "2SSANGHIEUH,2YEORINHIEUH,2YO-YA,2YO-YAE,2YO-I,2YU-YEO,2YU-YE,2YU-I,2ARAEA,2ARAEAE,+1,",
   "0hb ANNOTATION LINKING x,2id x,2ah x,2ad x,2q x,2ak x,2jc x,2ab x,2gh x,2FIRST x,2SECOND x,",
   "2THIRD x,2FOURTH x,2HEAVEN x,2EARTH x,2MAN x,0BOPOMOFO a BU,2ZI,2JI,2GU,2EE,2ENN,2OO,2ONN,",
   "2IR,2ANN,2INN,2UNN,2IM,2NGG,2AINN,2AUNN,2AM,2OM,2ONG,2INNN,1p a P,3T,3K,3H,1a GH,2LH,2ZY,",
   "1p a G,1a GW,2KW,2OE,2AH,0CJK u T,2WG,2XG,2BXG,2SW,2HZZ,2HZG,2HP,2HZWG,2SZWG,2HZT,2HZZP,",
   "2HPWG,2HZW,2HZZZ,2N,2H,2S,2P,2SP,2D,2HZ,2HG,2SZ,2SWZ,2ST,2SG,2PD,2PZ,2TN,2SZZ,2SWG,2HXWG,",
   "2HZZZG,2PG,2Q,+c,0mu a d KU,3SI,3SU,3TO,3NU,3HA,3HI,3HU,3HE,3HO,3MU,3RA,3RI,3RU,3RE,3RO,",
   "0PARENTHESIZED HANGUL KIYEOK,2NIEUN,2TIKEUT,2RIEUL,2MIEUM,2PIEUP,2SIOS,2IEUNG,2CIEUC,",
   "2CHIEUCH,2KHIEUKH,2THIEUTH,2PHIEUPH,2HIEUH,2KIYEOK A,2NIEUN A,2TIKEUT A,2RIEUL A,2MIEUM A,",
   "2PIEUP A,2SIOS A,2IEUNG A,2CIEUC A,2CHIEUCH A,2KHIEUKH A,2THIEUTH A,2PHIEUPH A,2HIEUH A,",
   "2CIEUC U,1KOREAN no OJEON,3O HU,+1,1IDEOGRAPH ah,2ad,2q,2ak,2ao,2ca,2av,2aq,2bi,2el,2kx,",
   "2FIRE,2WATER,2WOOD,2METAL,2EARTH,2SUN,2STOCK,2HAVE,2SOCIETY,2NAME,2SPECIAL,2FINANCIAL,",
   "2CONGRATULATION,2LABOR,2REPRESENT,2CALL,2STUDY,2SUPERVISE,2ENTERPRISE,2RESOURCE,2ALLIANCE,",
   "2FESTIVAL,2REST,2SELF,2REACH,0ct IDEOGRAPH ew,2KINDERGARTEN,2SCHOOL,2KOTO,1cs el ON w as,",
   "2em ON w as,2it ON w as,2mi ON w as,2ha ON w as,2nc ON w as,2es ON w as,2mg ON w as,",
   "0PARTNERSHIP g,0ct cs em ah,3ad,3q,3ak,3ao,3ca,3av,3aq,3bi,2it,3ah,3ad,3q,3ak,3ao,",
   "1HANGUL KIYEOK,2NIEUN,2TIKEUT,2RIEUL,2MIEUM,2PIEUP,2SIOS,2IEUNG,2CIEUC,2CHIEUCH,2KHIEUKH,",
   "2THIEUTH,2PHIEUPH,2HIEUH,2KIYEOK A,2NIEUN A,2TIKEUT A,2RIEUL A,2MIEUM A,2PIEUP A,2SIOS A,",
   "2IEUNG A,2CIEUC A,2CHIEUCH A,2KHIEUKH A,2THIEUTH A,2PHIEUPH A,2HIEUH A,1KOREAN no CHAMKO,",
   "3JUEUI,1HANGUL IEUNG U,0KOREAN STANDARD v,0ct IDEOGRAPH ah,2ad,2q,2ak,2ao,2ca,2av,2aq,2bi,",
   "2el,2kx,2FIRE,2WATER,2WOOD,2METAL,2EARTH,2SUN,2STOCK,2HAVE,2SOCIETY,2NAME,2SPECIAL,",
   "2FINANCIAL,2CONGRATULATION,2LABOR,2SECRET,2MALE,2FEMALE,2SUITABLE,2EXCELLENT,2PRINT,",
   "2ATTENTION,2ITEM,2REST,2COPY,2CORRECT,2dp,2df,2ds,2n,2h,2MEDICINE,2RELIGION,2STUDY,",
   "2SUPERVISE,2ENTERPRISE,2RESOURCE,2ALLIANCE,2NIGHT,1cs it ca,3av,3aq,3bi,2mi,3ah,3ad,3q,3ak,",
   "3ao,3ca,3av,3aq,3bi,2ha,0hb TELEGRAPH v jz JANUARY,4FEBRUARY,4MARCH,4APRIL,4MAY,4JUNE,4JULY,",
   "4AUGUST,4SEPTEMBER,4OCTOBER,4NOVEMBER,4DECEMBER,0as HG,1ERG,1EV,0LIMITED LIABILITY g,",
   "0ct mu A,2I,2U,2E,2O,2KA,2KI,2KU,2KE,2KO,2SA,2SI,2SU,2SE,2SO,2TA,2TI,2TU,2TE,2TO,2NA,2NI,2NU,",
   "2NE,2NO,2HA,2HI,2HU,2HE,2HO,2MA,2MI,2MU,2ME,2MO,2YA,2YU,2YO,2RA,2RI,2RU,2RE,2RO,2WA,2WI,2WE,",
   "2WO,0as ERA NAME REIWA,1APAATO,1ARUHUA,1ANPEA,1AARU,1ININGU,1INTI,1UON,1ESUKUUDO,1EEKAA,",
   "1ONSU,1OOMU,1KAIRI,1KARATTO,1KARORII,1GARON,1GANMA,1GIGA,1GINII,1KYURII,1GIRUDAA,1KIRO,",
   "1KIROGURAMU,1KIROMEETORU,1KIROWATTO,1GURAMU,1GURAMUTON,1KURUZEIRO,1KUROONE,1KEESU,1KORUNA,",
   "1KOOPO,1SAIKURU,1SANTIIMU,1SIRINGU,1SENTI,1SENTO,1DAASU,1DESI,1DORU,1TON,1NANO,1NOTTO,1HAITU,",
   "1PAASENTO,1PAATU,1BAARERU,1PIASUTORU,1PIKURU,1PIKO,1BIRU,1HUARADDO,1HUIITO,1BUSSYERU,1HURAN,",
   "1HEKUTAARU,1PESO,1PENIHI,1HERUTU,1PENSU,1PEEZI,1BEETA,1POINTO,1BORUTO,1HON,1PONDO,1HOORU,",
   "1HOON,1MAIKURO,1MAIRU,1MAHHA,1MARUKU,1MANSYON,1MIKURON,1MIRI,1MIRIBAARU,1MEGA,1MEGATON,",
   "1MEETORU,1YAADO,1YAARU,1YUAN,1RITTORU,1RIRA,1RUPII,1RUUBURU,1REMU,1RENTOGEN,1WATTO,",
   "0hb TELEGRAPH v jz HOUR cz,5ah,5ad,5q,5ak,5ao,5ca,5av,5aq,5bi,5el,5ELEVEN,5nm,5THIRTEEN,",
   "5FOURTEEN,5FIFTEEN,5SIXTEEN,5SEVENTEEN,5EIGHTEEN,5NINETEEN,5em,5TWENTY-ONE,5TWENTY-TWO,",
   "5TWENTY-THREE,5TWENTY-FOUR,0as HPA,1DA,1AU,1cc,1OV,1PC,1DM,2ep,2CUBED,1IU,1ERA NAME HEISEI,",
   "3SYOUWA,3TAISYOU,3MEIZI,1CORPORATION,1PA AMPS,1NA,1MU A,1MA,1KA,1KB,1MB,1GB,1CAL,1KCAL,1PF,",
   "1NF,1MU F,2G,1MG,1KG,1HZ,1KHZ,1MHZ,1GHZ,1THZ,1MU L,1ML,1DL,1KL,1FM,1NM,1MU M,1MM,1CM,1KM,",
   "1MM ep,1CM ep,1M ep,1KM ep,1MM CUBED,1CM CUBED,1M CUBED,1KM CUBED,1M bz S,4ep,1PA,1KPA,1MPA,",
   "1GPA,1RAD,2bz S,4ep,1PS,1NS,1MU S,1MS,1PV,1NV,1MU V,1MV,1KV,1MV MEGA,1PW,1NW,1MU W,1MW,1KW,",
   "1MW MEGA,1K OHM,1M OHM,1AM,1BQ,1CC,1CD,1C bz KG,1CO,1DB,1GY,1HA,1HP,1IN,1KK,1KM c,1KT,1LM,",
   "1LN,1LOG,1LX,1MB d,1MIL,1MOL,1PH,1PM,1PPM,1PR,1SR,1SV,1WB,1V bz M,1A bz M,",
   "0hb TELEGRAPH v jz DAY ah,5ad,5q,5ak,5ao,5ca,5av,5aq,5bi,5el,5ELEVEN,5nm,5THIRTEEN,5FOURTEEN,",
   "5FIFTEEN,5SIXTEEN,5SEVENTEEN,5EIGHTEEN,5NINETEEN,5em,5TWENTY-ONE,5TWENTY-TWO,5TWENTY-THREE,",
   "5TWENTY-FOUR,5TWENTY-FIVE,5TWENTY-SIX,5TWENTY-SEVEN,5TWENTY-EIGHT,5TWENTY-NINE,5it,",
   "5THIRTY-ONE,0as GAL,+534,0HEXAGRAM jz kb CREATIVE HEAVEN,3RECEPTIVE EARTH,",
   "2DIFFICULTY AT kb BEGINNING,2YOUTHFUL FOLLY,2WAITING,2CONFLICT,2kb ARMY,2HOLDING TOGETHER,",
   "2d TAMING,2TREADING,2PEACE,2STANDSTILL,2FELLOWSHIP,2GREAT POSSESSION,2MODESTY,2ENTHUSIASM,",
   "2FOLLOWING,2WORK ON kb DECAYED,2APPROACH,2CONTEMPLATION,2BITING lk,2GRACE,2SPLITTING APART,",
   "2RETURN,2INNOCENCE,2GREAT TAMING,2ku CORNERS,2GREAT PREPONDERANCE,2kb ABYSMAL WATER,",
   "3CLINGING FIRE,2INFLUENCE,2DURATION,2RETREAT,2GREAT POWER,2PROGRESS,2DARKENING OF kb bk,",
   "2kb FAMILY,2OPPOSITION,2OBSTRUCTION,2DELIVERANCE,2DECREASE,2INCREASE,2BREAKTHROUGH,",
   "2COMING TO MEET,2GATHERING TOGETHER,2PUSHING UPWARD,2OPPRESSION,2kb WELL,2REVOLUTION,",
   "2kb CAULDRON,3AROUSING THUNDER,3KEEPING STILL MOUNTAIN,2DEVELOPMENT,2kb MARRYING MAIDEN,",
   "2ABUNDANCE,2kb WANDERER,3GENTLE WIND,3JOYOUS LAKE,2DISPERSION,2LIMITATION,2INNER TRUTH,",
   "2d PREPONDERANCE,2AFTER COMPLETION,2BEFORE COMPLETION,+g74,0YI iy IT,2IX,2I,2IP,2IET,2IEX,",
   "2IE,2IEP,2AT,2AX,2A,2AP,2UOX,2UO,2UOP,2OT,2OX,2O,2OP,2EX,2E,2WU,2BIT,2BIX,2BI,2BIP,2BIET,",
   "2BIEX,2BIE,2BIEP,2BAT,2BAX,2BA,2BAP,2BUOX,2BUO,2BUOP,2BOT,2nn,2BO,2BOP,2BEX,2BE,2BEP,2BUT,",
   "2BUX,2BU,2BUP,2BURX,2BUR,2BYT,2BYX,2BY,2BYP,2BYRX,2BYR,2PIT,2PIX,2PI,2PIP,2PIEX,2PIE,2PIEP,",
   "2PAT,2PAX,2PA,2PAP,2PUOX,2PUO,2PUOP,2POT,2POX,2PO,2POP,2PUT,2PUX,2PU,2PUP,2PURX,2PUR,2PYT,",
   "2PYX,2PY,2PYP,2PYRX,2PYR,2BBIT,2BBIX,2BBI,2BBIP,2BBIET,2BBIEX,2BBIE,2BBIEP,2BBAT,2BBAX,2BBA,",
   "2BBAP,2BBUOX,2BBUO,2BBUOP,2BBOT,2BBOX,2BBO,2BBOP,2BBEX,2BBE,2BBEP,2BBUT,2BBUX,2BBU,2BBUP,",
   "2BBURX,2BBUR,2BBYT,2BBYX,2BBY,2BBYP,2NBIT,2NBIX,2NBI,2NBIP,2NBIEX,2NBIE,2NBIEP,2NBAT,2NBAX,",
   "2NBA,2NBAP,2NBOT,2NBOX,2NBO,2NBOP,2NBUT,2NBUX,2NBU,2NBUP,2NBURX,2NBUR,2NBYT,2NBYX,2NBY,2NBYP,",
   "2NBYRX,2NBYR,2HMIT,2HMIX,2HMI,2HMIP,2HMIEX,2HMIE,2HMIEP,2HMAT,2HMAX,2HMA,2HMAP,2HMUOX,2HMUO,",
   "2HMUOP,2HMOT,2HMOX,2HMO,2HMOP,2HMUT,2HMUX,2HMU,2HMUP,2HMURX,2HMUR,2HMYX,2HMY,2HMYP,2HMYRX,",
   "2HMYR,2MIT,2MIX,2MI,2MIP,2MIEX,2MIE,2MIEP,2MAT,2MAX,2MA,2MAP,2MUOT,2MUOX,2MUO,2MUOP,2MOT,",
   "2MOX,2MO,2MOP,2MEX,2ME,2MUT,2MUX,2MU,2MUP,2MURX,2MUR,2MYT,2MYX,2MY,2MYP,2FIT,2FIX,2FI,2FIP,",
   "2FAT,2FAX,2FA,2FAP,2FOX,2FO,2FOP,2FUT,2FUX,2FU,2FUP,2FURX,2FUR,2FYT,2FYX,2FY,2FYP,2VIT,2VIX,",
   "2VI,2VIP,2VIET,2VIEX,2VIE,2VIEP,2VAT,2VAX,2VA,2VAP,2VOT,2VOX,2VO,2VOP,2VEX,2VEP,2VUT,2VUX,",
   "2VU,2VUP,2VURX,2VUR,2VYT,2VYX,2VY,2VYP,2VYRX,2VYR,2DIT,2DIX,2DI,2DIP,2DIEX,2DIE,2DIEP,2DAT,",
   "2DAX,2DA,2DAP,2DUOX,2DUO,2aj,2DOX,2DO,2DOP,2DEX,2DE,2DEP,2DUT,2DUX,2DU,2DUP,2DURX,2DUR,2TIT,",
   "2TIX,2TI,2TIP,2TIEX,2TIE,2TIEP,2TAT,2TAX,2TA,2TAP,2TUOT,2TUOX,2TUO,2TUOP,2TOT,2TOX,2TO,2jc,",
   "2TEX,2TE,2TEP,2TUT,2TUX,2TU,2TUP,2TURX,2TUR,2DDIT,2DDIX,2DDI,2DDIP,2DDIEX,2DDIE,2DDIEP,2DDAT,",
   "2DDAX,2ic,2DDAP,2DDUOX,2DDUO,2DDUOP,2DDOT,2DDOX,2DDO,2DDOP,2DDEX,2DDE,2DDEP,2DDUT,2DDUX,2DDU,",
   "2DDUP,2DDURX,2DDUR,2NDIT,2NDIX,2NDI,2NDIP,2NDIEX,2NDIE,2NDAT,2NDAX,2NDA,2NDAP,2NDOT,2NDOX,",
   "2NDO,2NDOP,2NDEX,2NDE,2NDEP,2NDUT,2NDUX,2NDU,2NDUP,2NDURX,2NDUR,2HNIT,2HNIX,2HNI,2HNIP,",
   "2HNIET,2HNIEX,2HNIE,2HNIEP,2HNAT,2HNAX,2HNA,2HNAP,2HNUOX,2HNUO,2HNOT,2HNOX,2HNOP,2HNEX,2HNE,",
   "2HNEP,2HNUT,2NIT,2NIX,2NI,2NIP,2NIEX,2NIE,2NIEP,2NAX,2NA,2NAP,2NUOX,2NUO,2NUOP,2gs,2NOX,2NO,",
   "2NOP,2NEX,2NE,2NEP,2NUT,2NUX,2NU,2NUP,2NURX,2NUR,2HLIT,2HLIX,2HLI,2HLIP,2HLIEX,2HLIE,2HLIEP,",
   "2HLAT,2HLAX,2HLA,2HLAP,2HLUOX,2HLUO,2HLUOP,2HLOX,2HLO,2HLOP,2HLEX,2HLE,2HLEP,2HLUT,2HLUX,",
   "2HLU,2HLUP,2HLURX,2HLUR,2HLYT,2HLYX,2HLY,2HLYP,2HLYRX,2HLYR,2LIT,2LIX,2LI,2LIP,2LIET,2LIEX,",
   "2LIE,2LIEP,2LAT,2LAX,2LA,2LAP,2LUOT,2LUOX,2LUO,2LUOP,2LOT,2LOX,2LO,2LOP,2LEX,2LE,2LEP,2LUT,",
   "2LUX,2LU,2LUP,2LURX,2LUR,2LYT,2LYX,2LY,2LYP,2LYRX,2LYR,2GIT,2GIX,2GI,2GIP,2GIET,2GIEX,2GIE,",
   "2GIEP,2GAT,2GAX,2GA,2GAP,2GUOT,2GUOX,2GUO,2GUOP,2GOT,2GOX,2GO,2GOP,2GET,2GEX,2GE,2GEP,2GUT,",
   "2GUX,2GU,2GUP,2GURX,2GUR,2KIT,2KIX,2KI,2KIP,2KIEX,2KIE,2KIEP,2KAT,2KAX,2KA,2KAP,2KUOX,2KUO,",
   "2KUOP,2KOT,2KOX,2KO,2KOP,2KET,2KEX,2KE,2KEP,2KUT,2KUX,2KU,2KUP,2KURX,2KUR,2GGIT,2GGIX,2GGI,",
   "2GGIEX,2GGIE,2GGIEP,2GGAT,2GGAX,2GGA,2GGAP,2GGUOT,2GGUOX,2GGUO,2GGUOP,2GGOT,2GGOX,2GGO,2GGOP,",
   "2GGET,2GGEX,2GGE,2GGEP,2GGUT,2GGUX,2GGU,2GGUP,2GGURX,2GGUR,2MGIEX,2MGIE,2MGAT,2MGAX,2MGA,",
   "2MGAP,2MGUOX,2MGUO,2MGUOP,2MGOT,2MGOX,2MGO,2MGOP,2MGEX,2MGE,2MGEP,2MGUT,2MGUX,2MGU,2MGUP,",
   "2MGURX,2MGUR,2HXIT,2HXIX,2HXI,2HXIP,2HXIET,2HXIEX,2HXIE,2HXIEP,2HXAT,2HXAX,2HXA,2HXAP,2HXUOT,",
   "2HXUOX,2HXUO,2HXUOP,2HXOT,2HXOX,2HXO,2HXOP,2HXEX,2HXE,2HXEP,2NGIEX,2NGIE,2NGIEP,2NGAT,2NGAX,",
   "2fe,2NGAP,2NGUOT,2NGUOX,2NGUO,2NGOT,2NGOX,2NGO,2NGOP,2NGEX,2NGE,2NGEP,2HIT,2HIEX,2HIE,2HAT,",
   "2HAX,2HA,2HAP,2HUOT,2HUOX,2HUO,2HUOP,2HOT,2HOX,2HO,2HOP,2HEX,2HE,2HEP,2WAT,2WAX,2WA,2WAP,",
   "2WUOX,2WUO,2WUOP,2WOX,2WO,2WOP,2WEX,2WE,2WEP,2ZIT,2ZIX,2ZI,2ZIP,2ZIEX,2ZIE,2ZIEP,2ZAT,2ZAX,",
   "2ZA,2ZAP,2ZUOX,2ZUO,2ZUOP,2ZOT,2ZOX,2ZO,2ZOP,2ZEX,2ZE,2ZEP,2ZUT,2ZUX,2ZU,2ZUP,2ZURX,2ZUR,",
   "2ZYT,2ZYX,2ZY,2ZYP,2ZYRX,2ZYR,2CIT,2CIX,2CI,2CIP,2CIET,2CIEX,2CIE,2CIEP,2CAT,2CAX,2CA,2CAP,",
   "2CUOX,2CUO,2CUOP,2COT,2COX,2CO,2COP,2CEX,2CE,2CEP,2CUT,2CUX,2CU,2CUP,2CURX,2CUR,2CYT,2CYX,",
   "2CY,2CYP,2CYRX,2CYR,2ZZIT,2ZZIX,2ZZI,2ZZIP,2ZZIET,2ZZIEX,2ZZIE,2ZZIEP,2ZZAT,2ZZAX,2ZZA,2ZZAP,",
   "2ZZOX,2ZZO,2ZZOP,2ZZEX,2ZZE,2ZZEP,2ZZUX,2ZZU,2ZZUP,2ZZURX,2ZZUR,2ZZYT,2ZZYX,2ZZY,2ZZYP,",
   "2ZZYRX,2ZZYR,2NZIT,2NZIX,2NZI,2NZIP,2NZIEX,2NZIE,2NZIEP,2NZAT,2NZAX,2NZA,2NZAP,2NZUOX,2NZUO,",
   "2NZOX,2NZOP,2NZEX,2NZE,2NZUX,2NZU,2NZUP,2NZURX,2NZUR,2NZYT,2NZYX,2NZY,2NZYP,2NZYRX,2NZYR,",
   "2SIT,2ca,2SI,2SIP,2SIEX,2SIE,2SIEP,2SAT,2SAX,2SA,2SAP,2SUOX,2SUO,2SUOP,2SOT,2SOX,2SO,2SOP,",
   "2SEX,2SE,2SEP,2SUT,2SUX,2SU,2SUP,2SURX,2SUR,2SYT,2SYX,2SY,2SYP,2SYRX,2SYR,2SSIT,2SSIX,2SSI,",
   "2SSIP,2SSIEX,2SSIE,2SSIEP,2SSAT,2SSAX,2jr,2SSAP,2SSOT,2SSOX,2SSO,2SSOP,2SSEX,2SSE,2SSEP,",
   "2SSUT,2SSUX,2SSU,2SSUP,2SSYT,2SSYX,2SSY,2SSYP,2SSYRX,2SSYR,2ZHAT,2ZHAX,2ZHA,2ZHAP,2ZHUOX,",
   "2ZHUO,2ZHUOP,2ZHOT,2ZHOX,2ZHO,2ZHOP,2ZHET,2ZHEX,2ZHE,2ZHEP,2ZHUT,2ZHUX,2ZHU,2ZHUP,2ZHURX,",
   "2ZHUR,2ZHYT,2ZHYX,2ZHY,2ZHYP,2ZHYRX,2ZHYR,2CHAT,2CHAX,2fy,2CHAP,2CHUOT,2CHUOX,2CHUO,2CHUOP,",
   "2CHOT,2CHOX,2CHO,2CHOP,2CHET,2CHEX,2CHE,2CHEP,2CHUX,2CHU,2CHUP,2CHURX,2CHUR,2CHYT,2CHYX,2CHY,",
   "2CHYP,2CHYRX,2CHYR,2RRAX,2RRA,2RRUOX,2RRUO,2RROT,2RROX,2RRO,2RROP,2RRET,2RREX,2RRE,2RREP,",
   "2RRUT,2RRUX,2RRU,2RRUP,2RRURX,2RRUR,2RRYT,2RRYX,2RRY,2RRYP,2RRYRX,2RRYR,2NRAT,2NRAX,2NRA,",
   "2NRAP,2NROX,2NRO,2NROP,2NRET,2NREX,2NRE,2NREP,2NRUT,2NRUX,2NRU,2NRUP,2NRURX,2NRUR,2NRYT,",
   "2NRYX,2NRY,2NRYP,2NRYRX,2NRYR,2SHAT,2SHAX,2ff,2SHAP,2SHUOX,2SHUO,2SHUOP,2SHOT,2SHOX,2SHO,",
   "2SHOP,2SHET,2SHEX,2le,2SHEP,2SHUT,2SHUX,2SHU,2SHUP,2SHURX,2SHUR,2SHYT,2SHYX,2SHY,2SHYP,",
   "2SHYRX,2SHYR,2RAT,2RAX,2RA,2RAP,2RUOX,2RUO,2RUOP,2ROT,2ROX,2RO,2ROP,2REX,2RE,2REP,2RUT,2RUX,",
   "2RU,2RUP,2RURX,2RUR,2RYT,2RYX,2RY,2RYP,2RYRX,2RYR,2JIT,2JIX,2JI,2JIP,2JIET,2JIEX,2JIE,2JIEP,",
   "2JUOT,2JUOX,2JUO,2JUOP,2JOT,2JOX,2JO,2JOP,2JUT,2JUX,2JU,2JUP,2JURX,2JUR,2JYT,2JYX,2JY,2JYP,",
   "2JYRX,2JYR,2QIT,2QIX,2QI,2QIP,2QIET,2QIEX,2QIE,2QIEP,2QUOT,2QUOX,2QUO,2QUOP,2QOT,2QOX,2QO,",
   "2QOP,2QUT,2QUX,2QU,2QUP,2QURX,2QUR,2QYT,2QYX,2QY,2QYP,2QYRX,2QYR,2JJIT,2JJIX,2JJI,2JJIP,",
   "2JJIET,2JJIEX,2JJIE,2JJIEP,2JJUOX,2JJUO,2JJUOP,2JJOT,2JJOX,2JJO,2JJOP,2JJUT,2JJUX,2JJU,2JJUP,",
   "2JJURX,2JJUR,2JJYT,2JJYX,2JJY,2JJYP,2NJIT,2NJIX,2NJI,2NJIP,2NJIET,2NJIEX,2NJIE,2NJIEP,2NJUOX,",
   "2NJUO,2NJOT,2NJOX,2NJO,2NJOP,2NJUX,2NJU,2NJUP,2NJURX,2NJUR,2NJYT,2NJYX,2NJY,2NJYP,2NJYRX,",
   "2NJYR,2NYIT,2NYIX,2NYI,2NYIP,2NYIET,2NYIEX,2NYIE,2NYIEP,2NYUOX,2NYUO,2NYUOP,2NYOT,2NYOX,2NYO,",
   "2NYOP,2NYUT,2NYUX,2NYU,2NYUP,2XIT,2XIX,2XI,2XIP,2XIET,2XIEX,2XIE,2XIEP,2XUOX,2XUO,2XOT,2XOX,",
   "2XO,2XOP,2XYT,2XYX,2XY,2XYP,2XYRX,2XYR,2YIT,2YIX,2YI,2YIP,2YIET,2YIEX,2YIE,2YIEP,2YUOT,2YUOX,",
   "2YUO,2YUOP,2YOT,2YOX,2YO,2YOP,2YUT,2YUX,2YU,2YUP,2YURX,2YUR,2YYT,2YYX,2YY,2YYP,2YYRX,2YYR,+3,",
   "1RADICAL QOT,2LI,2KIT,2NYIP,2CYP,2SSI,2GGOP,2GEP,2MI,2HXIT,2LYR,2BBUT,2MOP,2YO,2PUT,2HXUO,",
   "2TAT,2GA,2ZUP,2CYT,2DDUR,2BUR,2GGUO,2NYOP,2TU,2OP,2JJUT,2ZOT,2PYT,2HMO,2YIT,2VUR,2SHY,2VEP,",
   "2ZA,2JO,2NZUP,2JJY,2GOT,2JJIE,2WO,2DU,2SHUR,2LIE,2CY,2CUOP,2CIP,2HXOP,2SHAT,2ZUR,2SHOP,2CHE,",
   "2ZZIET,2NBIE,2KE,+9,0LISU a BA,2PA,2hc,2DA,2TA,2gn,2GA,2KA,2gg,2JA,2CA,2fy,2DZA,2mr,2TSHA,",
   "2MA,2NA,2LA,2SA,2ZHA,2ZA,2fe,2HA,2XA,2HHA,2FA,2WA,2ff,2YA,2ik,2A,2AE,2E,2EU,2I,2O,2U,2UE,2UH,",
   "2OE,2dm MYA TI,3NA PO,3MYA CYA,4BO,4NA,4JEU,1bv do,2fs dq,0VAI iy EE,2EEN,2HEE,2WEE,2WEEN,",
   "2PEE,2BHEE,2BEE,2MBEE,2KPEE,2MGBEE,2GBEE,2FEE,2VEE,2TEE,2THEE,2DHEE,2DHHEE,2LEE,2REE,2DEE,",
   "2NDEE,2SEE,2SHEE,2ZEE,2ZHEE,2CEE,2JEE,2NJEE,2YEE,2KEE,2NGGEE,2GEE,2MEE,2NEE,2NYEE,2I,2IN,2HI,",
   "2HIN,2WI,2WIN,2PI,2BHI,2BI,2MBI,2KPI,2MGBI,2GBI,2FI,2VI,2TI,2THI,2DHI,2DHHI,2LI,2RI,2DI,2NDI,",
   "2SI,2SHI,2ZI,2ZHI,2CI,2JI,2NJI,2YI,2KI,2NGGI,2GI,2MI,2NI,2NYI,2A,2AN,2NGAN,2HA,2HAN,2WA,2WAN,",
   "2PA,2is,2BA,2MBA,2KPA,2KPAN,2MGBA,2GBA,2FA,2VA,2TA,2gn,2if,2DHHA,2LA,2RA,2DA,2NDA,2SA,2ff,",
   "2ZA,2ZHA,2CA,2JA,2NJA,2YA,2KA,2KAN,2NGGA,2GA,2MA,2NA,2gb,2OO,2OON,2HOO,2WOO,2WOON,2POO,2BHOO,",
   "2BOO,2MBOO,2KPOO,2MGBOO,2GBOO,2FOO,2VOO,2TOO,2THOO,2DHOO,2DHHOO,2LOO,2ROO,2DOO,2NDOO,2SOO,",
   "2SHOO,2ZOO,2ZHOO,2COO,2JOO,2NJOO,2YOO,2KOO,2NGGOO,2GOO,2MOO,2NOO,2NYOO,2U,2UN,2HU,2HUN,2WU,",
   "2WUN,2PU,2BHU,2BU,2MBU,2KPU,2MGBU,2GBU,2FU,2VU,2TU,2THU,2DHU,2DHHU,2LU,2RU,2DU,2NDU,2SU,2SHU,",
   "2ZU,2ZHU,2CU,2JU,2NJU,2YU,2KU,2NGGU,2GU,2MU,2NU,2NYU,2O,2ON,2NGON,2HO,2HON,2WO,2WON,2PO,2BHO,",
   "2BO,2MBO,2KPO,2MGBO,2GBO,2GBON,2FO,2VO,2TO,2THO,2DHO,2DHHO,2LO,2RO,2DO,2NDO,2SO,2SHO,2ZO,",
   "2ZHO,2CO,2JO,2NJO,2YO,2KO,2NGGO,2GO,2MO,2NO,2NYO,2E,2EN,2NGEN,2HE,2HEN,2WE,2WEN,2PE,2BHE,2BE,",
   "2MBE,2KPE,2KPEN,2MGBE,2GBE,2GBEN,2FE,2VE,2TE,2kb,2DHE,2DHHE,2LE,2RE,2DE,2NDE,2SE,2le,2ZE,",
   "2ZHE,2CE,2JE,2NJE,2YE,2KE,2NGGE,2NGGEN,2GE,2GEN,2ME,2NE,2NYE,2NG,2LENGTHENER,1do,1fs dq,",
   "1ew x,1iy NDOLE FA,3KA,3SOO,1v FEENG,2KEENG,2TING,2NII,2BANG,2FAA,2TAA,2DANG,2DOONG,2KUNG,",
   "2TONG,2DO-O,2JONG,1bp cz,2ah,2ad,2q,2ak,2ao,2ca,2av,2aq,2bi,1iy NDOLE MA,3DO,+k,",
   "0kd c a ZEMLYA,1d a ZEMLYA,1c a DZELO,1d a DZELO,1c a az DZE,1d a az DZE,1c a ji,1d a ji,",
   "1c a DJERV,1d a DJERV,1c a MONOGRAPH UK,1d a MONOGRAPH UK,1c a BROAD gl,1d a BROAD gl,",
   "1c a hr YER,1d a hr YER,1c a YERU b BACK YER,1d a YERU b BACK YER,1c a ix YAT,1d a ix YAT,",
   "1c a az YU,1d a az YU,1c a ix A,1d a ix A,1c a fq dk my,1d a fq dk my,1c a BLENDED my,",
   "1d a BLENDED my,1c a ix fq dk my,1d a ix fq dk my,1c a YN,1d a YN,1c a az TSE,1d a az TSE,",
   "1c a SOFT DE,1d a SOFT DE,1c a SOFT EL,1d a SOFT EL,1c a SOFT EM,1d a SOFT EM,",
   "1c a MONOCULAR O,1d a MONOCULAR O,1c a BINOCULAR O,1d a BINOCULAR O,1c a k MONOCULAR O,",
   "1d a k MONOCULAR O,1a MULTIOCULAR O,0dd kd VZMET,2el MILLIONS g,2ac MILLIONS g,",
   "2ae MILLIONS g,0SLAVONIC cw,0dd kd a UKRAINIAN IE,3I,3YI,3U,3HARD g,3YERU,3SOFT g,3gl,",
   "2KAVYKA,2PAYEROK,0kd KAVYKA,1PAYEROK,1c a DWE,1d a DWE,1c a DZWE,1d a DZWE,1c a ZHWE,",
   "1d a ZHWE,1c a CCHE,1d a CCHE,1c a DZZE,1d a DZZE,1c a TE b ab al,1d a TE b ab al,1c a TWE,",
   "1d a TWE,1c a TSWE,1d a TSWE,1c a TSSE,1d a TSSE,1c a TCHE,1d a TCHE,1c a HWE,1d a HWE,",
   "1c a SHWE,1d a SHWE,1c a k O,1d a k O,1c a lx O,1d a lx O,0eq a kd HARD g,3SOFT g,",
   "0dd kd a EF,3ix E,0BAMUM a A,2KA,2U,2KU,2EE,2REE,2TAE,2O,2NYI,2I,2LA,2PA,2RII,2RIEE,2LEEEE,",
   "2MEEEE,2TAA,2NDAA,2NJAEM,2M,2SUU,2MU,2SHII,2SI,2SHEUX,2SEUX,2KYEE,2KET,2NUAE,2NU,2NJUAE,2YOQ,",
   "2SHU,2YUQ,2YA,2NSHA,2KEUX,2PEUX,2NJEE,2NTEE,2PUE,2WUE,2PEE,2FEE,2RU,2LU,2MI,2NI,2REUX,2RAE,",
   "2KEN,2NGKWAEN,2NGGA,2fe,2SHO,2PUAE,2FU,2FOM,2WA,2NA,2LI,2PI,2LOQ,2KO,2MBEN,2REN,2MEN,2MA,2TI,",
   "2KI,2MO,2MBAA,2TET,2KPA,2el,2NTUU,2SAMBA,2FAAMAE,2KOVUU,2KOGHOM,1dd x KOQNDON,3TUKWENTIS,",
   "1NJAEMLI,1fs dq,1hp,1do,1kq,1ew x,+8,0eq a CHINESE dm YIN PING,4YANG PING,4YIN SHANG,",
   "4YANG SHANG,4YIN QU,4YANG QU,4YIN RU,4YANG RU,2EXTRA-HIGH fa dm cc,2dp fa dm cc,",
   "2MID fa dm cc,2ds fa dm cc,2EXTRA-LOW fa dm cc,2EXTRA-HIGH fa mm dm cc,2dp fa mm dm cc,",
   "2MID fa mm dm cc,2ds fa mm dm cc,2EXTRA-LOW fa mm dm cc,2EXTRA-HIGH mm dm cc,2dp mm dm cc,",
   "2MID mm dm cc,2ds mm dm cc,2EXTRA-LOW mm dm cc,2aj r cc,3SLASH,3aa cc,2br h gi dz,2hn UP f,",
   "3be f,3dt x,3bm dt x,2ds bm dt x,2STRESS l dp dm,4ds dm,0ed c a EGYPTOLOGICAL ce,",
   "1d a EGYPTOLOGICAL ce,1c a EGYPTOLOGICAL lh,1d a EGYPTOLOGICAL lh,1c a HENG,1d a HENG,",
   "1c a TZ,1d a TZ,1c a TRESILLO,1d a TRESILLO,1c a CUATRILLO,1d a CUATRILLO,",
   "1c a CUATRILLO b do,1d a CUATRILLO b do,1a d c F,4S,1c a AA,1d a AA,1c a AO,1d a AO,1c a AU,",
   "1d a AU,1c a AV,1d a AV,1c a AV b aa cc,1d a AV b aa cc,1c a AY,1d a AY,1c a az C b aj,",
   "1d a az C b aj,1c a K b u,1d a K b u,1c a K b cy u,1d a K b cy u,1c a K b u l cy u,",
   "1d a K b u l cy u,1c a BROKEN L,1d a BROKEN L,1c a L b dp u,1d a L b dp u,1c a O b dl u hi,",
   "1d a O b dl u hi,1c a O b LOOP,1d a O b LOOP,1c a OO,1d a OO,1c a P b u lk cx,",
   "1d a P b u lk cx,1c a P b FLOURISH,1d a P b FLOURISH,1c a P b SQUIRREL fg,",
   "1d a P b SQUIRREL fg,1c a Q b u lk cx,1d a Q b u lk cx,1c a Q b cy u,1d a Q b cy u,",
   "1c a R ROTUNDA,1d a R ROTUNDA,1c a RUM ROTUNDA,1d a RUM ROTUNDA,1c a V b cy u,1d a V b cy u,",
   "1c a VY,1d a VY,1c a VISIGOTHIC Z,1d a VISIGOTHIC Z,1c a THORN b u,1d a THORN b u,",
   "1c a THORN b u lk cx,1d a THORN b u lk cx,1c a VEND,1d a VEND,1c a ET,1d a ET,1c a IS,",
   "1d a IS,1c a CON,1d a CON,0eq a US,0ed d a DUM,3LUM,3MUM,3NUM,3RUM,1a d c RUM,1d a TUM,3UM,",
   "1c a ja D,1d a ja D,1c a ja F,1d a ja F,1c a ja G,3bs ja G,1d a bs ja G,1c a bs L,1d a bs L,",
   "1c a ja R,1d a ja R,1c a ja S,1d a ja S,1c a ja T,1d a ja T,0eq a ds am eu,2hp,2ef fr g,",
   "0ed c a SALTILLO,1d a SALTILLO,1c a bs H,1d a L b cu al l BELT,1a SINOLOGICAL aj,1c a N b cx,",
   "1d a N b cx,1c a C b cc,1d a C b cc,5fx al,3H b fx al,1c a B b FLOURISH,1d a B b FLOURISH,",
   "1c a F b u,1d a F b u,1c a VOLAPUK AE,1d a VOLAPUK AE,1c a VOLAPUK OE,1d a VOLAPUK OE,",
   "1c a VOLAPUK UE,1d a VOLAPUK UE,1c a G b kv u,1d a G b kv u,1c a K b kv u,1d a K b kv u,",
   "1c a N b kv u,1d a N b kv u,1c a R b kv u,1d a R b kv u,1c a S b kv u,1d a S b kv u,",
   "1c a H b al,3az dh E,3ig G,3L b BELT,3d c I,1a d c Q,1c a bs K,4T,3J b kn,3CHI,3BETA,",
   "1d a BETA,1c a gl,1d a gl,1c a U b u,1d a U b u,1c a gd A,1d a gd A,1c a gd I,1d a gd I,",
   "1c a gd U,1d a gd U,1c a hh POLISH O,1d a hh POLISH O,1c a ANGLICANA W,1d a ANGLICANA W,",
   "1c a C b fx al,3S b al,3Z b fx al,3D b ef u hi,1d a D b ef u hi,1c a S b ef u hi,",
   "1d a S b ef u hi,+5,1c a fq ja G,1d a fq ja G,+1,3k THORN,+1,4WYNN,1c a ab SCOTS S,",
   "1d a ab SCOTS S,1c a SIGMOID S,1d a SIGMOID S,+o,0eq a c C,3F,3Q,0ed c a az bd H,",
   "1d a az bd H,1EPIGRAPHIC a SIDEWAYS I,0eq a c H b u,2d eb OE,0ed a d c bs M,",
   "1EPIGRAPHIC a az F,4P,3bm M,3I LONGA,3ir M,0SYLOTI NAGRI a A,3I,2g DVISVARA,2a U,3E,3O,",
   "2g HASANTA,2a KO,3KHO,3GO,3GHO,2g cl,2a CO,3CHO,3JO,3JHO,3TTO,3TTHO,3DDO,3DDHO,3TO,3THO,3DO,",
   "3DHO,3NO,3PO,3PHO,3BO,3BHO,3MO,3RO,3LO,3RRO,3SO,3HO,2bl g A,4I,4U,4E,4OO,2POETRY MARK-1,",
   "3MARK-2,3MARK-3,3MARK-4,2g ft HASANTA,+3,0er INDIC hw ah ex,4bd,3q jo,3ah SIXTEENTH,4hg,",
   "3q SIXTEENTHS,2ex x,2PLACEHOLDER x,2RUPEE x,2QUANTITY x,+6,0PHAGS-PA a KA,2gg,2GA,2fe,2CA,",
   "2fy,2JA,2gb,2TA,2gn,2DA,2NA,2PA,2hc,2BA,2MA,2mr,2TSHA,2DZA,2WA,2ZHA,2ZA,2d A,2YA,2RA,2LA,2ff,",
   "2SA,2HA,2A,2I,2U,2E,2O,2QA,2XA,2FA,2GGA,2EE,1SUBJOINED a WA,3YA,1a ib,2gy,2ic,2iq,2ft YA,",
   "2VOICELESS ff,2VOICED HA,2ASPIRATED FA,1SUBJOINED a RA,1SUPERFIXED a RA,1a dg,1ch HEAD x,",
   "1k HEAD x,1x SHAD,2k SHAD,+8,0SAURASHTRA g cl,2ei,1a A,2AA,2I,2II,2U,2UU,2ci R,3RR,3L,3LL,2E,",
   "2EE,2AI,2O,2OO,2AU,2KA,2gg,2GA,2ik,2fe,2CA,2fy,2JA,2ko,2gb,2ib,2gy,2ic,2hk,2iq,2TA,2gn,2DA,",
   "2if,2NA,2PA,2hc,2BA,2is,2MA,2YA,2RA,2LA,2VA,2ff,2jr,2SA,2HA,2nr,1fu g HAARU,1bl g AA,3I,3II,",
   "3U,3UU,3ci R,4RR,4L,4LL,3E,3EE,3AI,3O,3OO,3AU,1g en,2dg,+8,1hz,1k hz,1bp cz,2ah,2ad,2q,2ak,",
   "2ao,2ca,2av,2aq,2bi,+6,0dd DEVANAGARI bp cz,3ah,3ad,3q,3ak,3ao,3ca,3av,3aq,3bi,2a A,3U,3KA,",
   "3NA,3PA,3RA,3VI,2g iw,0DEVANAGARI g SPACING dg,2dg en,2k dg en,2dg ad,3q,3iw,2PUSHPIKA,",
   "1GAP FILLER,1CARET,1HEADSTROKE,1g SIDDHAM,1JAIN OM,1a AY,1bl g AY,0KAYAH LI bp cz,3ah,3ad,3q,",
   "3ak,3ao,3ca,3av,3aq,3bi,2a KA,3gg,3GA,3fe,3SA,3ff,3ZA,3gb,3TA,3HTA,3NA,3PA,3hc,3MA,3DA,3BA,",
   "3RA,3YA,3LA,3WA,3gn,3HA,3VA,3CA,3A,3OE,3I,3OO,2bl UE,3E,3U,3EE,3O,2dm PLOPHU,3CALYA,4PLOPHU,",
   "2g CWI,3SHYA,0REJANG a KA,2GA,2fe,2TA,2DA,2NA,2PA,2BA,2MA,2CA,2JA,2gb,2SA,2RA,2LA,2YA,2WA,",
   "2HA,2MBA,2NGGA,2NDA,2NYJA,2A,1bl g I,3U,3E,3AI,3O,3AU,3EU,3EA,1fu g NG,3N,3R,3H,1en,+b,1gw x,",
   "0HANGUL CHOSEONG TIKEUT-MIEUM,2TIKEUT-PIEUP,2TIKEUT-SIOS,2TIKEUT-CIEUC,2RIEUL-KIYEOK,",
   "2RIEUL-SSANGKIYEOK,2RIEUL-TIKEUT,2RIEUL-SSANGTIKEUT,2RIEUL-MIEUM,2RIEUL-PIEUP,",
   "2RIEUL-SSANGPIEUP,2RIEUL-KAPYEOUNPIEUP,2RIEUL-SIOS,2RIEUL-CIEUC,2RIEUL-KHIEUKH,2MIEUM-KIYEOK,",
   "2MIEUM-TIKEUT,2MIEUM-SIOS,2PIEUP-SIOS-THIEUTH,2PIEUP-KHIEUKH,2PIEUP-HIEUH,2SSANGSIOS-PIEUP,",
   "2IEUNG-RIEUL,2IEUNG-HIEUH,2SSANGCIEUC-HIEUH,2SSANGTHIEUTH,2PHIEUPH-HIEUH,2HIEUH-SIOS,",
   "2SSANGYEORINHIEUH,+3,0JAVANESE g PANYANGGA,2CECAK,2LAYAR,2WIGNYAN,1a A,2I KAWI,3,2II,2U,",
   "2PA CEREK,2fe LELET,4RASWADI,2E,2AI,2O,2KA,3SASAK,3MURDA,2GA,3MURDA,2fe,2CA,3MURDA,2JA,",
   "2gb MURDA,2JA MAHAPRANA,2gb,2ib,3MAHAPRANA,2ic,3MAHAPRANA,2NA MURDA,2TA,3MURDA,2DA,",
   "3MAHAPRANA,2NA,2PA,3MURDA,2BA,3MURDA,2MA,2YA,2RA,3AGUNG,2LA,2WA,2SA MURDA,3MAHAPRANA,3,2HA,",
   "1g CECAK TELU,1bl g TARUNG,3TOLONG,3WULU,4MELIK,3SUKU,4MENDUT,3TALING,3DIRGA MURE,3PEPET,",
   "1fu g KERET,3PENGKAL,3CAKRA,1PANGKON,1n RERENGGAN,1h RERENGGAN,1PADA ANDAP,2MADYA,2LUHUR,",
   "2WINDU,2PANGKAT,2LINGSA,2LUNGSI,2ADEG,3ADEG,2PISELEH,1bs PADA PISELEH,+1,1PANGRANGKEP,1bp cz,",
   "2ah,2ad,2q,2ak,2ao,2ca,2av,2aq,2bi,+4,1PADA TIRTA TUMETES,2ISEN-ISEN,0MYANMAR a SHAN ik,3fy,",
   "3ko,3iq,3is,1g SHAN SAW,1eq a SHAN REDUPLICATION,1a TAI LAING gb,4FA,4GA,4ik,4JA,4ko,4ic,4hk,",
   "4iq,1TAI LAING bp cz,4ah,4ad,4q,4ak,4ao,4ca,4av,4aq,4bi,1a TAI LAING nr,4DA,4if,4BA,4is,+1,",
   "0CHAM a A,2I,2U,2E,2AI,2O,2KA,2gg,2GA,2ik,2NGUE,2fe,2fy,2CHHA,2JA,2ko,2NHUE,2NHA,2NHJA,2TA,",
   "2gn,2DA,2if,2NUE,2NA,2ic,2PA,2PPA,2hc,2BA,2is,2MUE,2MA,2BBA,2YA,2RA,2LA,2VA,2jr,2SA,2HA,",
   "1bl g AA,3I,3II,3EI,3U,3OE,3O,3AI,3AU,3UE,1fu g YA,3RA,3LA,3WA,+9,1a p K,3G,3NG,1fu g p NG,",
   "1a p CH,3T,3N,3P,3Y,3R,3L,3SS,1fu g p M,4H,+2,1bp cz,2ah,2ad,2q,2ak,2ao,2ca,2av,2aq,2bi,+2,",
   "1bv SPIRAL,2hz,2k hz,2dw hz,0MYANMAR a KHAMTI GA,3CA,3fy,3JA,3ko,3gb,3ib,3gy,3ic,3hk,3if,3NA,",
   "3SA,3HA,3HHA,3FA,1eq a KHAMTI REDUPLICATION,1a KHAMTI XA,3ZA,3RA,1LOGOGRAM KHAMTI OAY,3QN,",
   "3HM,1v AITON dt,3ah,3ad,1a AITON RA,1g PAO KAREN dm,2TAI LAING TONE-2,4TONE-5,",
   "1a SHWE PALAUNG fy,4ff,0TAI VIET a ds KO,3dp KO,3ds KHO,3dp KHO,3ds KHHO,3dp KHHO,3ds GO,",
   "3dp GO,3ds NGO,3dp NGO,3ds CO,3dp CO,3ds CHO,3dp CHO,3ds SO,3dp SO,3ds NYO,3dp NYO,3ds DO,",
   "3dp DO,3ds TO,3dp TO,3ds THO,3dp THO,3ds NO,3dp NO,3ds BO,3dp BO,3ds PO,3dp PO,3ds PHO,",
   "3dp PHO,3ds FO,3dp FO,3ds MO,3dp MO,3ds YO,3dp YO,3ds RO,3dp RO,3ds LO,3dp LO,3ds VO,3dp VO,",
   "3ds HO,3dp HO,3ds O,3dp O,2MAI KANG,2bl AA,3I,3UE,3U,3E,3O,2MAI KHIT,2bl IA,3UEA,3UA,3AUE,",
   "3AY,3AN,3AM,2dm MAI EK,4NUENG,4THO,4SONG,+o,2v KON,3NUENG,3SAM,3HO HOI,3KOI KOI,",
   "0MEETEI MAYEK a E,3O,3fy,3gb,3ib,3gy,3ic,3hk,3iq,3ff,3jr,2bl g II,4UU,4AAI,4AU,4AAU,",
   "2CHEIKHAN,2AHANG KHUDAM,2ANJI,2iy REPETITION x,2WORD REPETITION x,2bl g ei,2en,+a,",
   "0ETHIOPIC iy TTHU,2TTHI,2TTHAA,2TTHEE,2TTHE,2TTHO,+2,2DDHU,2DDHI,2DDHAA,2DDHEE,2DDHE,2DDHO,",
   "+2,2DZU,2DZI,2DZAA,2DZEE,2DZE,2DZO,+9,2CCHHA,2CCHHU,2CCHHI,2CCHHAA,2CCHHEE,2CCHHE,2CCHHO,+1,",
   "2BBA,2BBU,2BBI,2BBAA,2BBEE,2BBE,2BBO,+1,0ed d a BARRED gz,3A REVERSED-SCHWA,3BLACKLETTER E,",
   "3BARRED E,3E b FLOURISH,3LENIS F,3ig G b kn,3L b bm LAZY S,5k ab bo,5ab cj,3M b kn,3N b kn,",
   "3ENG b kn,3BLACKLETTER O,5b u,3dh O b u,3bm OE,3bs OE b u,6aa u,4O OPEN-O,6b u,3STIRRUP R,",
   "1a d c R b h LEG,1d a R WITHOUT HANDLE,3k R,3R b kn,3k R b kn,3ig R,5b cj,3BASELINE ESH,",
   "3U b ef h LEG,4cc b ef h LEG,3UI,3bs UI,3U b n al,3CHI,4b ds h cj,6n SERIF,3X b ds h cj,",
   "5dl n LEG,8l ds h cj,8b SERIF,3Y b ef h LEG,0eq du b bm du,1a d HENG,3L b bm LAZY S,5ab bo,",
   "3U b n al,0ed d a SAKHA YAT,3ix E,3dh OE,3UO,3bm gz,0jd a d c gl,0ed d a DZ gc b cu al,",
   "3TS gc b cu al,3bs R b ab bo,0eq a d bs W,2n io,2h io,+4,0CHEROKEE d a A,3E,3I,3O,3U,3V,3GA,",
   "3KA,3GE,3GI,3GO,3GU,3GV,3HA,3HE,3HI,3HO,3HU,3HV,3LA,3LE,3LI,3LO,3LU,3LV,3MA,3ME,3MI,3MO,3MU,",
   "3NA,3HNA,3NAH,3NE,3NI,3NO,3NU,3NV,3QUA,3QUE,3QUI,3QUO,3QUU,3QUV,3SA,3S,3SE,3SI,3SO,3SU,3SV,",
   "3DA,3TA,3DE,3TE,3DI,3TI,3DO,3DU,3DV,3DLA,3TLA,3TLE,3TLI,3TLO,3TLU,3TLV,3mr,3TSE,3TSI,3TSO,",
   "3TSU,3TSV,3WA,3WE,3WI,3WO,3WU,3WV,3YA,0MEETEI MAYEK a KOK,3SAM,3LAI,3MIT,3PA,3NA,3CHIL,3TIL,",
   "3KHOU,3NGOU,3THOU,3WAI,3YANG,3HUK,3UN,3I,3PHAM,3ATIYA,3GOK,3JHAM,3RAI,3BA,3JIL,3DIL,3GHOU,",
   "3DHOU,3BHAM,3KOK LONSUM,3LAI LONSUM,3MIT LONSUM,3PA LONSUM,3NA LONSUM,3TIL LONSUM,",
   "3NGOU LONSUM,3I LONSUM,2bl g ONAP,4INAP,4ANAP,4YENAP,4SOUNAP,4UNAP,4CHEINAP,4NUNG,2CHEIKHEI,",
   "2LUM IYEK,2APUN IYEK,+2,2bp cz,3ah,3ad,3q,3ak,3ao,3ca,3av,3aq,3bi,+8mu,",
   "0HANGUL JUNGSEONG O-YEO,2O-O-I,2YO-A,2YO-AE,2YO-EO,2U-YEO,2U-I-I,2YU-AE,2YU-O,2EU-A,2EU-EO,",
   "2EU-E,2EU-O,2I-YA-O,2I-YAE,2I-YEO,2I-YE,2I-O-I,2I-YO,2I-YU,2I-I,2ARAEA-A,2ARAEA-E,+4,",
   "1JONGSEONG NIEUN-RIEUL,2NIEUN-CHIEUCH,2SSANGTIKEUT,2SSANGTIKEUT-PIEUP,2TIKEUT-PIEUP,",
   "2TIKEUT-SIOS,2TIKEUT-SIOS-KIYEOK,2TIKEUT-CIEUC,2TIKEUT-CHIEUCH,2TIKEUT-THIEUTH,",
   "2RIEUL-SSANGKIYEOK,2RIEUL-KIYEOK-HIEUH,2SSANGRIEUL-KHIEUKH,2RIEUL-MIEUM-HIEUH,",
   "2RIEUL-PIEUP-TIKEUT,2RIEUL-PIEUP-PHIEUPH,2RIEUL-YESIEUNG,2RIEUL-YEORINHIEUH-HIEUH,",
   "2KAPYEOUNRIEUL,2MIEUM-NIEUN,2MIEUM-SSANGNIEUN,2SSANGMIEUM,2MIEUM-PIEUP-SIOS,2MIEUM-CIEUC,",
   "2PIEUP-TIKEUT,2PIEUP-RIEUL-PHIEUPH,2PIEUP-MIEUM,2SSANGPIEUP,2PIEUP-SIOS-TIKEUT,2PIEUP-CIEUC,",
   "2PIEUP-CHIEUCH,2SIOS-MIEUM,2SIOS-KAPYEOUNPIEUP,2SSANGSIOS-KIYEOK,2SSANGSIOS-TIKEUT,",
   "2SIOS-PANSIOS,2SIOS-CIEUC,2SIOS-CHIEUCH,2SIOS-THIEUTH,2SIOS-HIEUH,2PANSIOS-PIEUP,",
   "2PANSIOS-KAPYEOUNPIEUP,2YESIEUNG-MIEUM,2YESIEUNG-HIEUH,2CIEUC-PIEUP,2CIEUC-SSANGPIEUP,",
   "2SSANGCIEUC,2PHIEUPH-SIOS,2PHIEUPH-THIEUTH,+6x0,0ed d eb FF,3FI,3FL,3FFI,3FFL,3dl S T,3ST,+c,",
   "0ARMENIAN d eb MEN NOW,4ECH,4INI,3VEW NOW,3MEN XEH,+5,0HEBREW a YOD b HIRIQ,",
   "1POINT JUDEO-SPANISH VARIKA,1eb YIDDISH YOD YOD PATAH,1a ALTERNATIVE AYIN,2WIDE ce,3DALET,",
   "3HE,3mj,3LAMED,3p MEM,3RESH,3TAV,2ALTERNATIVE bb g,2jq b jq aj,4SIN aj,4im l jq aj,6SIN aj,",
   "2ce b PATAH,4QAMATS,4MAPIQ,2BET b im,2nv b im,2DALET b im,2HE b MAPIQ,2VAV b im,2ZAYIN b im,",
   "+1,2TET b im,2YOD b im,2p mj b im,2mj b im,2LAMED b im,+1,2MEM b im,+1,2il b im,2lq b im,+1,",
   "2p PE b im,2PE b im,+1,2TSADI b im,2QOF b im,2RESH b im,2jq b im,2TAV b im,2VAV b HOLAM,",
   "2BET b RAFE,2mj b RAFE,2PE b RAFE,1eb ce LAMED,0jy a ce WASLA j e,4p e,2BEEH j e,3p e,3t e,",
   "3bh e,2PEH j e,3p e,3t e,3bh e,2BEHEH j e,3p e,3t e,3bh e,2TTEHEH j e,3p e,3t e,3bh e,",
   "2TEHEH j e,3p e,3t e,3bh e,2TTEH j e,3p e,3t e,3bh e,2VEH j e,3p e,3t e,3bh e,2PEHEH j e,",
   "3p e,3t e,3bh e,2DYEH j e,3p e,3t e,3bh e,2NYEH j e,3p e,3t e,3bh e,2TCHEH j e,3p e,3t e,",
   "3bh e,2TCHEHEH j e,3p e,3t e,3bh e,2DDAHAL j e,3p e,2DAHAL j e,3p e,2DUL j e,3p e,2DDAL j e,",
   "3p e,2JEH j e,3p e,2RREH j e,3p e,2KEHEH j e,3p e,3t e,3bh e,2GAF j e,3p e,3t e,3bh e,",
   "2GUEH j e,3p e,3t e,3bh e,2NGOEH j e,3p e,3t e,3bh e,2hm GHUNNA j e,4p e,2RNOON j e,3p e,",
   "3t e,3bh e,2mx b db i j e,6p e,3GOAL j e,4p e,4t e,4bh e,3DOACHASHMEE j e,4p e,4t e,4bh e,",
   "2db BARREE j e,4p e,4b gq i j e,7p e,1v aj i,3o,2ad bw i,4o,2q bw i,4o,4bn ag i,6o,2ak bw i,",
   "4o,2k r cc o,2ad bw VERTICALLY i,5o,2cj,2d nl i,4o,2WASLA i,+g,1a NG j e,3p e,3t e,3bh e,",
   "2U j e,3p e,2OE j e,3p e,2YU j e,3p e,2U b gq i j e,2VE j e,3p e,2KIRGHIZ OE j e,4p e,",
   "3YU j e,4p e,2E j e,3p e,3t e,3bh e,2UIGHUR KAZAKH KIRGHIZ ce cb t e,7bh e,",
   "1eb db b gq i b ce j e,8p e,7AE j e,8p e,7kc j e,8p e,7U j e,8p e,7OE j e,8p e,7YU j e,8p e,",
   "7E j e,8p e,8t e,2UIGHUR KIRGHIZ db b gq i b ce cb j e,bp e,bt e,1a FARSI db j e,4p e,4t e,",
   "4bh e,1eb db b gq i b dj j e,7dx j e,7ba j e,7ce cb j e,7db j e,2BEH b dj j e,4dx j e,",
   "4fk j e,4ba j e,4ce cb j e,4db j e,2TEH b dj j e,4dx j e,4fk j e,4ba j e,4ce cb j e,4db j e,",
   "2THEH b dj j e,4ba j e,4ce cb j e,4db j e,2dj b dx j e,4ba j e,2dx b dj j e,4ba j e,",
   "2fk b dj j e,4dx j e,4ba j e,2kp b dj j e,4dx j e,4fk j e,4ba j e,2SAD b dx j e,4ba j e,",
   "2DAD b dj j e,4dx j e,4fk j e,4ba j e,2nl b dx j e,4ba j e,2ZAH b ba j e,2lh b dj j e,",
   "4ba j e,2na b dj j e,4ba j e,2FEH b dj j e,4dx j e,4fk j e,4ba j e,4ce cb j e,4db j e,",
   "2QAF b dx j e,4ba j e,4ce cb j e,4db j e,2mj b ce j e,4dj j e,4dx j e,4fk j e,4kg j e,",
   "4ba j e,4ce cb j e,4db j e,2kg b dj j e,4dx j e,4fk j e,4ba j e,4ce cb j e,4db j e,",
   "2ba b dj j e,4dx j e,4fk j e,4ba j e,4ce cb j e,4db j e,2hm b dj j e,4dx j e,4fk j e,4ba j e,",
   "4ce cb j e,4db j e,2mx b dj j e,4ba j e,4ce cb j e,4db j e,2db b dj j e,4dx j e,4fk j e,",
   "4ba j e,4ce cb j e,4db j e,2THAL b ij ce j e,2lu b ij ce j e,2ce cb b ij ce j e,",
   "2SHADDA b DAMMATAN j e,4KASRATAN j e,4FATHA j e,4DAMMA j e,4KASRA j e,4ij ce j e,",
   "2db b gq i b lu p e,7ZAIN p e,7ba p e,7hm p e,7ce cb p e,7db p e,2BEH b lu p e,4ZAIN p e,",
   "4ba p e,4hm p e,4ce cb p e,4db p e,2TEH b lu p e,4ZAIN p e,4ba p e,4hm p e,4ce cb p e,",
   "4db p e,2THEH b lu p e,4ZAIN p e,4ba p e,4hm p e,4ce cb p e,4db p e,2FEH b ce cb p e,4db p e,",
   "2QAF b ce cb p e,4db p e,2mj b ce p e,4kg p e,4ba p e,4ce cb p e,4db p e,2kg b ba p e,",
   "4ce cb p e,4db p e,2ba b ce p e,4ba p e,2hm b lu p e,4ZAIN p e,4ba p e,4hm p e,4ce cb p e,",
   "4db p e,2ce cb b ij ce p e,2db b lu p e,4ZAIN p e,4ba p e,4hm p e,4ce cb p e,4db p e,",
   "4gq i b dj t e,7dx t e,7fk t e,7ba t e,7mx t e,2BEH b dj t e,4dx t e,4fk t e,4ba t e,4mx t e,",
   "2TEH b dj t e,4dx t e,4fk t e,4ba t e,4mx t e,2THEH b ba t e,2dj b dx t e,4ba t e,",
   "2dx b dj t e,4ba t e,2fk b dj t e,4ba t e,2kp b dj t e,4dx t e,4fk t e,4ba t e,2SAD b dx t e,",
   "4fk t e,4ba t e,2DAD b dj t e,4dx t e,4fk t e,4ba t e,2nl b dx t e,2ZAH b ba t e,",
   "2lh b dj t e,4ba t e,2na b dj t e,4ba t e,2FEH b dj t e,4dx t e,4fk t e,4ba t e,",
   "2QAF b dx t e,4ba t e,2mj b dj t e,4dx t e,4fk t e,4kg t e,4ba t e,2kg b dj t e,4dx t e,",
   "4fk t e,4ba t e,4mx t e,2ba b dj t e,4dx t e,4fk t e,4ba t e,2hm b dj t e,4dx t e,4fk t e,",
   "4ba t e,4mx t e,2mx b dj t e,4ba t e,4ij ce t e,2db b dj t e,4dx t e,4fk t e,4ba t e,4mx t e,",
   "4gq i b ba bh e,7mx bh e,2BEH b ba bh e,4mx bh e,2TEH b ba bh e,4mx bh e,2THEH b ba bh e,",
   "4mx bh e,2kp b ba bh e,4mx bh e,2ls b ba bh e,4mx bh e,2mj b kg bh e,4ba bh e,2kg b ba bh e,",
   "2hm b ba bh e,4mx bh e,2db b ba bh e,4mx bh e,2SHADDA b FATHA bh e,4DAMMA bh e,4KASRA bh e,",
   "2nl b ce cb j e,4db j e,2lh b ce cb j e,4db j e,2na b ce cb j e,4db j e,2kp b ce cb j e,",
   "4db j e,2ls b ce cb j e,4db j e,2dx b ce cb j e,4db j e,2dj b ce cb j e,4db j e,",
   "2fk b ce cb j e,4db j e,2SAD b ce cb j e,4db j e,2DAD b ce cb j e,4db j e,2ls b dj j e,",
   "4dx j e,4fk j e,4ba j e,4lu j e,2kp b lu j e,2SAD b lu j e,2DAD b lu j e,2nl b ce cb p e,",
   "4db p e,2lh b ce cb p e,4db p e,2na b ce cb p e,4db p e,2kp b ce cb p e,4db p e,",
   "2ls b ce cb p e,4db p e,2dx b ce cb p e,4db p e,2dj b ce cb p e,4db p e,2fk b ce cb p e,",
   "4db p e,2SAD b ce cb p e,4db p e,2DAD b ce cb p e,4db p e,2ls b dj p e,4dx p e,4fk p e,",
   "4ba p e,4lu p e,2kp b lu p e,2SAD b lu p e,2DAD b lu p e,2ls b dj t e,4dx t e,4fk t e,",
   "4ba t e,2kp b mx t e,2ls b mx t e,2nl b ba t e,2kp b dj bh e,4dx bh e,4fk bh e,2ls b dj bh e,",
   "4dx bh e,4fk bh e,2nl b ba bh e,2ZAH b ba bh e,2ce b FATHATAN p e,5j e,0ORNATE n by,1h by,",
   "0jy eb RAHIMAHU ALLAAH,2RADI ALLAAHU ANH,4ANHAA,4ANHUM,4ANHUMAA,4ANHUNNA,",
   "2SALLALLAAHU ALAYHI WA-AALIH,2ALAYHI AS-SALAAM,2ALAYHIM AS-SALAAM,2ALAYHIMAA AS-SALAAM,",
   "2ALAYHI AS-SALAATU WAS-SALAAM,2QUDDISA SIRRAH,2SALLALLAHU ALAYHI WAAALIHEE WA-SALLAM,",
   "2ALAYHAA AS-SALAAM,2TABAARAKA WA-TAAALAA,2RAHIMAHUM ALLAAH,2TEH b dj b ba t e,4dx b dj p e,",
   "7t e,6ba t e,4fk b ba t e,4ba b dj t e,6dx t e,6fk t e,2dj b ba b dx p e,7t e,",
   "2dx b ba b db p e,6ce cb p e,2kp b dx b dj t e,4dj b dx t e,6ce cb p e,4ba b dx p e,7t e,",
   "6dj t e,6ba p e,7t e,2SAD b dx b dx p e,7t e,4ba b ba p e,2ls b dx b ba p e,7t e,",
   "4dj b db p e,4ba b fk p e,7t e,6ba p e,7t e,2DAD b dx b ce cb p e,4fk b ba p e,7t e,",
   "2nl b ba b dx p e,7t e,6ba t e,6db p e,2lh b dj b ba p e,4ba b ba p e,7t e,6ce cb p e,",
   "2na b ba b ba p e,6db p e,6ce cb p e,2FEH b fk b ba p e,7t e,2QAF b ba b dx p e,6ba p e,",
   "2kg b dx b ba p e,6db p e,6ce cb p e,4dj b dj t e,7p e,4fk b ba p e,7t e,4ba b dx p e,7t e,",
   "2ba b dx b dj t e,6ba t e,6db p e,4dj b dx t e,6ba t e,4fk b dj t e,6ba t e,+2,4dj b fk t e,",
   "2mx b ba b dj t e,6ba t e,2hm b dx b ba t e,6ce cb p e,4dj b ba p e,7t e,6ce cb p e,",
   "4ba b db p e,6ce cb p e,2db b ba b ba p e,7t e,2BEH b fk b db p e,2TEH b dj b db p e,",
   "6ce cb p e,4fk b db p e,6ce cb p e,4ba b db p e,6ce cb p e,2dj b ba b db p e,4dx b ce cb p e,",
   "4ba b ce cb p e,2kp b fk b ce cb p e,2SAD b dx b db p e,2ls b dx b db p e,2DAD b dx b db p e,",
   "2kg b dj b db p e,4ba b db p e,2db b dx b db p e,4dj b db p e,4ba b db p e,2ba b ba b db p e,",
   "2QAF b ba b db p e,2hm b dx b db p e,2QAF b ba b dx t e,2kg b dx b ba t e,2lh b ba b db p e,",
   "2mj b ba b db p e,2hm b dj b dx t e,2ba b fk b db p e,2kg b dj b ba t e,2mj b ba b ba p e,",
   "2kg b dj b ba p e,2hm b dj b dx p e,2dj b dx b db p e,2dx b dj b db p e,2ba b dj b db p e,",
   "2FEH b ba b db p e,2BEH b dx b db p e,2mj b ba b ba t e,2lh b dj b ba t e,2SAD b ba b ba t e,",
   "2kp b fk b db p e,2hm b dj b db p e,+7,2SALAAMUHU ALAYNAA,+w,2SALLA USED AS KORANIC dq g j e,",
   "2QALA USED AS KORANIC dq g j e,2ALLAH j e,2AKBAR j e,2MOHAMMAD j e,2SALAM j e,2RASOUL j e,",
   "2ALAYHE j e,2WASALLAM j e,2SALLA j e,2SALLALLAHOU ALAYHE WASALLAM,2JALLAJALALOUHOU,0RIAL g,",
   "0jy eb BISMILLAH AR-RAHMAN AR-RAHEEM,2SUBHAANAHU WA TAAALAA,2AZZA WA JALL,",
   "0VARIATION SELECTOR-1,1SELECTOR-2,1SELECTOR-3,1SELECTOR-4,1SELECTOR-5,1SELECTOR-6,",
   "1SELECTOR-7,1SELECTOR-8,1SELECTOR-9,1SELECTOR-10,1SELECTOR-11,1SELECTOR-12,1SELECTOR-13,",
   "1SELECTOR-14,1SELECTOR-15,1SELECTOR-16,0PRESENTATION e jz r do,4hb do,5fs dq,4hp,4kq,4dt x,",
   "4ew x,4n y nw af,4h y nw BRAKCET,4aa ELLIPSIS,+6,0dd eb n bd,2h bd,1k bo n bd,3h bd,1cp n bd,",
   "2h bd,1CONJOINING cp,1eb n bd o,2h bd o,1bo n bd o,2h bd o,1cp n bd o,2h bd o,",
   "1CONJOINING cp o,1kd TITLO n bd,3h bd,0PRESENTATION e jz r ad aj LEADER,4EM hd,4EN hd,4ds ec,",
   "4WAVY ds ec,4n by,4h by,4n iu af,4h iu af,4n ih jp af,4h ih jp af,4n w nw af,4h w nw af,",
   "4n k dz af,4h k dz af,4n dz af,4h dz af,4n gi af,4h gi af,4n y gi af,4h y gi af,0SESAME aj,",
   "0y SESAME aj,0PRESENTATION e jz r n as af,4h as af,0DASHED OVERLINE,0CENTRELINE OVERLINE,",
   "0WAVY OVERLINE,0k WAVY OVERLINE,0DASHED ds ec,0CENTRELINE ds ec,0WAVY ds ec,0d do,1hb do,",
   "1fs dq,+1,1kq,1hp,1ew x,1dt x,1EM hd,1n by,1h by,1n iu af,1h iu af,1n ih jp af,1h ih jp af,",
   "1cs g,1AMPERSAND,1cw,1bb g,1HYPHEN-MINUS,1bg g,1au g,1fr g,+1,1id gx,1DOLLAR g,1PERCENT g,",
   "1COMMERCIAL AT,+4,0jy FATHATAN j e,1TATWEEL b FATHATAN i,1DAMMATAN j e,1fg FRAGMENT,",
   "1KASRATAN j e,+1,1FATHA j e,2bh e,1DAMMA j e,2bh e,1KASRA j e,2bh e,1SHADDA j e,2bh e,",
   "1SUKUN j e,2bh e,1a gq j e,2ce b MADDA i j e,6p e,4gq i j e,6p e,2kc b gq i j e,6p e,",
   "2ce b gq o j e,6p e,2db b gq i j e,6p e,6t e,6bh e,2ce j e,3p e,2BEH j e,3p e,3t e,3bh e,",
   "2TEH MARBUTA j e,4p e,3j e,3p e,3t e,3bh e,2THEH j e,3p e,3t e,3bh e,2dj j e,3p e,3t e,3bh e,",
   "2dx j e,3p e,3t e,3bh e,2fk j e,3p e,3t e,3bh e,2DAL j e,3p e,2THAL j e,3p e,2lu j e,3p e,",
   "2ZAIN j e,3p e,2kp j e,3p e,3t e,3bh e,2ls j e,3p e,3t e,3bh e,2SAD j e,3p e,3t e,3bh e,",
   "2DAD j e,3p e,3t e,3bh e,2nl j e,3p e,3t e,3bh e,2ZAH j e,3p e,3t e,3bh e,2lh j e,3p e,3t e,",
   "3bh e,2na j e,3p e,3t e,3bh e,2FEH j e,3p e,3t e,3bh e,2QAF j e,3p e,3t e,3bh e,2mj j e,3p e,",
   "3t e,3bh e,2kg j e,3p e,3t e,3bh e,2ba j e,3p e,3t e,3bh e,2hm j e,3p e,3t e,3bh e,2mx j e,",
   "3p e,3t e,3bh e,2kc j e,3p e,2ce cb j e,4p e,2db j e,3p e,3t e,3bh e,",
   "1eb kg b ce b MADDA i j e,8p e,6gq i j e,8p e,7o j e,8p e,5j e,5p e,+2,0cz WIDTH NO-BREAK kl,",
   "+1,0FULLWIDTH dt x,1dy x,1cs g,1DOLLAR g,1PERCENT g,1AMPERSAND,1mc,1n by,1h by,1cw,1bb g,1do,",
   "1HYPHEN-MINUS,1fs dq,1gx,1bp cz,2ah,2ad,2q,2ak,2ao,2ca,2av,2aq,2bi,1hp,1kq,1bg g,1fr g,1au g,",
   "1ew x,1COMMERCIAL AT,1ed c a A,4B,4C,4D,4E,4F,4G,4H,4I,4J,4K,4L,4M,4N,4O,4P,4Q,4R,4S,4T,4U,",
   "4V,4W,4X,4Y,4Z,1n as af,1id gx,1h as af,1am eu,1ds ec,1de eu,1ed d a A,4B,4C,4D,4E,4F,4G,4H,",
   "4I,4J,4K,4L,4M,4N,4O,4P,4Q,4R,4S,4T,4U,4V,4W,4X,4Y,4Z,1n iu af,1r ec,1h iu af,1bo,1n y by,",
   "1h y by,0HALFWIDTH hb fs dq,1n gi af,1h gi af,1hb do,1mu ab aj,2a WO,3d A,4I,4U,4E,4O,4YA,",
   "4YU,4YO,4TU,1nb PROLONGED nd x,1mu a A,3I,3U,3E,3O,3KA,3KI,3KU,3KE,3KO,3SA,3SI,3SU,3SE,3SO,",
   "3TA,3TI,3TU,3TE,3TO,3NA,3NI,3NU,3NE,3NO,3HA,3HI,3HU,3HE,3HO,3MA,3MI,3MU,3ME,3MO,3YA,3YU,3YO,",
   "3RA,3RI,3RU,3RE,3RO,3WA,3N,2VOICED nd x,2SEMI-VOICED nd x,1HANGUL FILLER,2a KIYEOK,",
   "3SSANGKIYEOK,3KIYEOK-SIOS,3NIEUN,3NIEUN-CIEUC,3NIEUN-HIEUH,3TIKEUT,3SSANGTIKEUT,3RIEUL,",
   "3RIEUL-KIYEOK,3RIEUL-MIEUM,3RIEUL-PIEUP,3RIEUL-SIOS,3RIEUL-THIEUTH,3RIEUL-PHIEUPH,",
   "3RIEUL-HIEUH,3MIEUM,3PIEUP,3SSANGPIEUP,3PIEUP-SIOS,3SIOS,3SSANGSIOS,3IEUNG,3CIEUC,",
   "3SSANGCIEUC,3CHIEUCH,3KHIEUKH,3THIEUTH,3PHIEUPH,3HIEUH,+3,3A,3AE,3YA,3YAE,3EO,3E,+2,3YEO,3YE,",
   "3O,3WA,3WAE,3OE,+2,3YO,3U,3WEO,3WE,3WI,3YU,+2,3EU,3YI,3I,+3,0FULLWIDTH CENT g,1POUND g,1gs g,",
   "1cp,1BROKEN cc,1YEN g,1WON g,+1,0HALFWIDTH FORMS bk r,1s f,1ax f,1m f,1ag f,1w as,1y at,+a,",
   "0INTERLINEAR ANNOTATION ANCHOR,2fm,2TERMINATOR,0OBJECT REPLACEMENT no,0REPLACEMENT no,"]

end DepView.Text.Names
