import RecordSearch.Text.CharacterName.Family

namespace RecordSearch.Text

/-!
# Names of characters: European scripts

The letters and signs of the scripts of Europe, with the marks that go with letters.
-/

/-- The names of characters of European scripts. -/
def europeanNames : List NameFamily := [
  ⟨"", [(0xF7, "DIVISION SIGN"), (0x132, "LATIN CAPITAL LIGATURE IJ"),
    (0x152, "LATIN CAPITAL LIGATURE OE"), (0x2C7, "CARON"),
    (0x2D8, "BREVE,DOT ABOVE,RING ABOVE,OGONEK,,DOUBLE ACUTE ACCENT"),
    (0x58D, "RIGHT-FACING ARMENIAN ETERNITY SIGN,LEFT-FACING ARMENIAN ETERNITY SIGN"),
    (0x10FB, "GEORGIAN PARAGRAPH SEPARATOR"), (0x1680, "OGHAM SPACE MARK"),
    (0x169B, "OGHAM FEATHER MARK,OGHAM REVERSED FEATHER MARK"),
    (0x16EB, "RUNIC SINGLE PUNCTUATION,RUNIC MULTIPLE PUNCTUATION,RUNIC CROSS PUNCTUATION"),
    (0x16EE, "RUNIC ARLAUG SYMBOL,RUNIC TVIMADUR SYMBOL,RUNIC BELGTHOR SYMBOL"),
    (0x1D7B, "LATIN SMALL CAPITAL LETTER I WITH STROKE"),
    (0x1D7E, "LATIN SMALL CAPITAL LETTER U WITH STROKE"), (0xA673, "SLAVONIC ASTERISK"),
    (0xAB5B, "MODIFIER BREVE WITH INVERTED BREVE"), (0x1018E, "NOMISMA SIGN"),
    (0x1019C, "ASCIA SYMBOL"),
    (0x10320, "OLD ITALIC NUMERAL ONE,OLD ITALIC NUMERAL FIVE,OLD ITALIC NUMERAL TEN"),
    (0x10323, "OLD ITALIC NUMERAL FIFTY"), (0x1039F, "UGARITIC WORD DIVIDER"),
    (0x1056F, "CAUCASIAN ALBANIAN CITATION MARK")]⟩,
  ⟨"LATIN CAPITAL LETTER ", [(0x41, "A,B,C,D,E,F,G,H,I,J,K,L,M,N,O,P,Q,R,S,T,U,V,W,X,Y,Z"),
    (0xC6, "AE"), (0xD0, "ETH"), (0xDE, "THORN"), (0x134, "J WITH CIRCUMFLEX"), (0x14A, "ENG"),
    (0x184, "TONE SIX,,OPEN O,,,AFRICAN D,,,,,REVERSED E,SCHWA,OPEN E,F WITH HOOK,,,GAMMA"),
    (0x196, "IOTA,,,,,,TURNED M,,,,,,OI,,,,,TONE TWO,,ESH,,,,,,,,UPSILON,V WITH HOOK"),
    (0x1B7, "EZH,EZH REVERSED,,,,TONE FIVE,,,,,,,,DZ WITH CARON,,,LJ,,,NJ"),
    (0x1E2, "AE WITH MACRON"), (0x1EE, "EZH WITH CARON,,,DZ,,,,,HWAIR,WYNN,,,,,AE WITH ACUTE"),
    (0x21C, "YOGH,,,,,,OU"),
    (0x241, "GLOTTAL STOP,,,U BAR,TURNED V,,,J WITH STROKE,,SMALL Q WITH HOOK TAIL"),
    (0x1E1E, "F WITH DOT ABOVE"), (0x1E3E, "M WITH ACUTE,,M WITH DOT ABOVE,,M WITH DOT BELOW"),
    (0x1E7C, "V WITH TILDE,,V WITH DOT BELOW"), (0x1E8A, "X WITH DOT ABOVE,,X WITH DIAERESIS"),
    (0x1E9E, "SHARP S"), (0x1EFA, "MIDDLE-WELSH LL,,MIDDLE-WELSH V"),
    (0x2C6D, "ALPHA,M WITH HOOK,TURNED A,TURNED ALPHA,,,,,HALF H"),
    (0xA722, "EGYPTOLOGICAL ALEF,,EGYPTOLOGICAL AIN,,HENG,,TZ,,TRESILLO,,CUATRILLO"),
    (0xA72E, "CUATRILLO WITH COMMA,,,,AA,,AO,,AU,,AV,,AV WITH HORIZONTAL BAR,,AY"),
    (0xA73E, "REVERSED C WITH DOT,,,,,,,,BROKEN L,,,,,,,,OO"),
    (0xA756, "Q WITH STROKE THROUGH DESCENDER,,Q WITH DIAGONAL STROKE,,R ROTUNDA"),
    (0xA75C, "RUM ROTUNDA,,V WITH DIAGONAL STROKE,,VY,,VISIGOTHIC Z,,THORN WITH STROKE"),
    (0xA766, "THORN WITH STROKE THROUGH DESCENDER,,VEND,,ET,,IS,,CON"),
    (0xA779, "INSULAR D,,INSULAR F,,INSULAR G,TURNED INSULAR G,,TURNED L,,INSULAR R"),
    (0xA784, "INSULAR S,,INSULAR T,,,,,SALTILLO,,TURNED H"),
    (0xA798, "F WITH STROKE,,VOLAPUK AE,,VOLAPUK OE,,VOLAPUK UE"),
    (0xA7AB, "REVERSED OPEN E,SCRIPT G,,SMALL CAPITAL I,,TURNED K,TURNED T"),
    (0xA7B2, "J WITH CROSSED-TAIL,CHI,BETA,,OMEGA,,,,GLOTTAL A,,GLOTTAL I,,GLOTTAL U"),
    (0xA7C0, "OLD POLISH O,,ANGLICANA W"),
    (0xA7D0, "CLOSED INSULAR G,,,,,,MIDDLE SCOTS S,,SIGMOID S"), (0xA7F5, "REVERSED HALF H")]⟩,
  ⟨"LATIN SMALL LETTER ", [(0x61, "A,B,C,D,E,F,G,H,I,J,K,L,M,N,O,P,Q,R,S,T,U,V,W,X,Y,Z"),
    (0xDF, "SHARP S,,,,,,,AE"), (0xF0, "ETH"), (0xFE, "THORN"),
    (0x131, "DOTLESS I,,,,J WITH CIRCUMFLEX,,,KRA"), (0x149, "N PRECEDED BY APOSTROPHE,,ENG"),
    (0x17F, "LONG S,,,,,,TONE SIX,,,,,,,,TURNED DELTA,,,,,F WITH HOOK,,,HV"),
    (0x19B, "LAMBDA WITH STROKE,,,,,,,,OI,,,,,TONE TWO"),
    (0x1B9, "EZH REVERSED,EZH WITH TAIL,,,TONE FIVE,,,,,,,,,DZ WITH CARON,,,LJ,,,NJ"),
    (0x1DD, "TURNED E,,,,,,AE WITH MACRON"), (0x1EF, "EZH WITH CARON,J WITH CARON,,,DZ"),
    (0x1FD, "AE WITH ACUTE"), (0x21D, "YOGH,,,,,,OU"),
    (0x237, "DOTLESS J,DB DIGRAPH,QP DIGRAPH,,,,,,,,,GLOTTAL STOP,,,,,,,J WITH STROKE"),
    (0x24B, "Q WITH HOOK TAIL,,,,,TURNED A,ALPHA,TURNED ALPHA,,OPEN O,,,,REVERSED E,SCHWA"),
    (0x25A, "SCHWA WITH HOOK,OPEN E,REVERSED OPEN E,REVERSED OPEN E WITH HOOK"),
    (0x25E, "CLOSED REVERSED OPEN E,DOTLESS J WITH STROKE,,SCRIPT G,,GAMMA,RAMS HORN"),
    (0x265, "TURNED H,,HENG WITH HOOK,,IOTA,,,,,LEZH,TURNED M,TURNED M WITH LONG LEG"),
    (0x275, "BARRED O,,CLOSED OMEGA,PHI,TURNED R,TURNED R WITH LONG LEG,TURNED R WITH HOOK"),
    (0x27F, "REVERSED R WITH FISHHOOK,,,,ESH,DOTLESS J WITH STROKE AND HOOK"),
    (0x285, "SQUAT REVERSED ESH,ESH WITH CURL,TURNED T,,U BAR,UPSILON,,TURNED V,TURNED W"),
    (0x28E, "TURNED Y,,,,EZH,EZH WITH CURL,,,,,,,CLOSED OPEN E,,,J WITH CROSSED-TAIL"),
    (0x29E, "TURNED K,,Q WITH HOOK,,,DZ DIGRAPH,DEZH DIGRAPH,DZ DIGRAPH WITH CURL"),
    (0x2A6, "TS DIGRAPH,TESH DIGRAPH,TC DIGRAPH WITH CURL,FENG DIGRAPH,LS DIGRAPH"),
    (0x2AB, "LZ DIGRAPH,,,TURNED H WITH FISHHOOK,TURNED H WITH FISHHOOK AND TAIL"),
    (0x1D02, "TURNED AE,,,,,,TURNED OPEN E,TURNED I,,,,,,,,SIDEWAYS O,SIDEWAYS OPEN O"),
    (0x1D13, "SIDEWAYS O WITH STROKE,TURNED OE,,TOP HALF O,BOTTOM HALF O,,,,,,SIDEWAYS U"),
    (0x1D1E, "SIDEWAYS DIAERESIZED U,SIDEWAYS TURNED M"),
    (0x1D6B, "UE,,,F WITH MIDDLE TILDE,,,,,,,,,TURNED G,,INSULAR G,TH WITH STRIKETHROUGH"),
    (0x1D7C, "IOTA WITH STROKE,,,UPSILON WITH STROKE,,,F WITH PALATAL HOOK"),
    (0x1D8B, "ESH WITH PALATAL HOOK,,,,,ALPHA WITH RETROFLEX HOOK"),
    (0x1D93, "OPEN E WITH RETROFLEX HOOK,REVERSED OPEN E WITH RETROFLEX HOOK"),
    (0x1D95, "SCHWA WITH RETROFLEX HOOK,,OPEN O WITH RETROFLEX HOOK,ESH WITH RETROFLEX HOOK"),
    (0x1D9A, "EZH WITH RETROFLEX HOOK"), (0x1E1F, "F WITH DOT ABOVE"),
    (0x1E9B, "LONG S WITH DOT ABOVE,LONG S WITH DIAGONAL STROKE,LONG S WITH HIGH STROKE"),
    (0x1E9F, "DELTA"), (0x1EFB, "MIDDLE-WELSH LL,,MIDDLE-WELSH V"), (0x2184, "REVERSED C"),
    (0x2C76, "HALF H,TAILLESS PHI,,TURNED R WITH TAIL"),
    (0xA723, "EGYPTOLOGICAL ALEF,,EGYPTOLOGICAL AIN,,HENG,,TZ,,TRESILLO,,CUATRILLO"),
    (0xA72F, "CUATRILLO WITH COMMA,,,,AA,,AO,,AU,,AV,,AV WITH HORIZONTAL BAR,,AY"),
    (0xA73F, "REVERSED C WITH DOT,,,,,,,,BROKEN L,,,,,,,,OO"),
    (0xA757, "Q WITH STROKE THROUGH DESCENDER,,Q WITH DIAGONAL STROKE,,R ROTUNDA"),
    (0xA75D, "RUM ROTUNDA,,,,VY,,VISIGOTHIC Z,,THORN WITH STROKE"),
    (0xA767, "THORN WITH STROKE THROUGH DESCENDER,,VEND,,ET,,IS,,CON,,DUM,LUM,MUM,NUM,RUM"),
    (0xA777, "TUM,UM,,INSULAR D,,INSULAR F,,,TURNED INSULAR G,,TURNED L,,INSULAR R"),
    (0xA785, "INSULAR S,,INSULAR T,,,,,SALTILLO"),
    (0xA799, "F WITH STROKE,,VOLAPUK AE,,VOLAPUK OE,,VOLAPUK UE"),
    (0xA7B5, "BETA,,OMEGA,,,,GLOTTAL A,,GLOTTAL I,,GLOTTAL U,,OLD POLISH O,,ANGLICANA W"),
    (0xA7D1, "CLOSED INSULAR G,,DOUBLE THORN,,DOUBLE WYNN,,MIDDLE SCOTS S,,SIGMOID S"),
    (0xA7F6, "REVERSED HALF H"),
    (0xAB30, "BARRED ALPHA,A REVERSED-SCHWA,BLACKLETTER E,BARRED E,,LENIS F"),
    (0xAB36, "SCRIPT G WITH CROSSED-TAIL,,,,,,ENG WITH CROSSED-TAIL,BLACKLETTER O"),
    (0xAB3E, "BLACKLETTER O WITH STROKE,OPEN O WITH STROKE,INVERTED OE"),
    (0xAB41, "TURNED OE WITH STROKE,TURNED OE WITH HORIZONTAL STROKE,TURNED O OPEN-O"),
    (0xAB44, "TURNED O OPEN-O WITH STROKE,STIRRUP R,,R WITHOUT HANDLE,DOUBLE R"),
    (0xAB4A, "DOUBLE R WITH CROSSED-TAIL,SCRIPT R,SCRIPT R WITH RING,BASELINE ESH"),
    (0xAB4F, "U BAR WITH SHORT RIGHT LEG,UI,TURNED UI,,CHI,CHI WITH LOW RIGHT RING"),
    (0xAB55, "CHI WITH LOW LEFT SERIF"), (0xAB60, "SAKHA YAT,IOTIFIED E,OPEN OE,UO,INVERTED ALPHA"),
    (0xAB66, "DZ DIGRAPH WITH RETROFLEX HOOK,TS DIGRAPH WITH RETROFLEX HOOK"),
    (0xAB68, "TURNED R WITH MIDDLE TILDE"),
    (0x1DF00, "FENG DIGRAPH WITH TRILL,REVERSED SCRIPT G,,REVERSED K"),
    (0x1DF05, "LEZH WITH RETROFLEX HOOK,TURNED Y WITH BELT,REVERSED ENG"),
    (0x1DF08, "TURNED R WITH LONG LEG AND RETROFLEX HOOK,,,ESH WITH DOUBLE BAR"),
    (0x1DF0C, "ESH WITH DOUBLE BAR AND CURL,TURNED T WITH CURL"),
    (0x1DF12, "DEZH DIGRAPH WITH PALATAL HOOK,,ENG WITH PALATAL HOOK"),
    (0x1DF15, "TURNED R WITH PALATAL HOOK,,TESH DIGRAPH WITH PALATAL HOOK"),
    (0x1DF18, "EZH WITH PALATAL HOOK,DEZH DIGRAPH WITH RETROFLEX HOOK"),
    (0x1DF1C, "TESH DIGRAPH WITH RETROFLEX HOOK")]⟩,
  ⟨"LATIN CAPITAL LETTER A WITH ", [(0xC0, "GRAVE,ACUTE,CIRCUMFLEX,TILDE,DIAERESIS,RING ABOVE"),
    (0x100, "MACRON,,BREVE,,OGONEK"), (0x1CD, "CARON"),
    (0x1DE, "DIAERESIS AND MACRON,,DOT ABOVE AND MACRON"),
    (0x1FA, "RING ABOVE AND ACUTE,,,,,,DOUBLE GRAVE,,INVERTED BREVE"), (0x226, "DOT ABOVE"),
    (0x23A, "STROKE"), (0x1E00, "RING BELOW"),
    (0x1EA0, "DOT BELOW,,HOOK ABOVE,,CIRCUMFLEX AND ACUTE,,CIRCUMFLEX AND GRAVE"),
    (0x1EA8, "CIRCUMFLEX AND HOOK ABOVE,,CIRCUMFLEX AND TILDE,,CIRCUMFLEX AND DOT BELOW"),
    (0x1EAE, "BREVE AND ACUTE,,BREVE AND GRAVE,,BREVE AND HOOK ABOVE,,BREVE AND TILDE"),
    (0x1EB6, "BREVE AND DOT BELOW")]⟩,
  ⟨"LATIN CAPITAL LETTER C WITH ", [(0xC7, "CEDILLA"),
    (0x106, "ACUTE,,CIRCUMFLEX,,DOT ABOVE,,CARON"), (0x187, "HOOK"), (0x23B, "STROKE"),
    (0x1E08, "CEDILLA AND ACUTE"), (0xA792, "BAR"), (0xA7C4, "PALATAL HOOK")]⟩,
  ⟨"LATIN CAPITAL LETTER E WITH ", [(0xC8, "GRAVE,ACUTE,CIRCUMFLEX,DIAERESIS"),
    (0x112, "MACRON,,BREVE,,DOT ABOVE,,OGONEK,,CARON"), (0x204, "DOUBLE GRAVE,,INVERTED BREVE"),
    (0x228, "CEDILLA"), (0x246, "STROKE"),
    (0x1E14, "MACRON AND GRAVE,,MACRON AND ACUTE,,CIRCUMFLEX BELOW,,TILDE BELOW"),
    (0x1E1C, "CEDILLA AND BREVE"),
    (0x1EB8, "DOT BELOW,,HOOK ABOVE,,TILDE,,CIRCUMFLEX AND ACUTE,,CIRCUMFLEX AND GRAVE"),
    (0x1EC2, "CIRCUMFLEX AND HOOK ABOVE,,CIRCUMFLEX AND TILDE,,CIRCUMFLEX AND DOT BELOW")]⟩,
  ⟨"LATIN CAPITAL LETTER I WITH ", [(0xCC, "GRAVE,ACUTE,CIRCUMFLEX,DIAERESIS"),
    (0x128, "TILDE,,MACRON,,BREVE,,OGONEK,,DOT ABOVE"), (0x197, "STROKE"), (0x1CF, "CARON"),
    (0x208, "DOUBLE GRAVE,,INVERTED BREVE"), (0x1E2C, "TILDE BELOW,,DIAERESIS AND ACUTE"),
    (0x1EC8, "HOOK ABOVE,,DOT BELOW")]⟩,
  ⟨"LATIN CAPITAL LETTER N WITH ", [(0xD1, "TILDE"), (0x143, "ACUTE,,CEDILLA,,CARON"),
    (0x19D, "LEFT HOOK"), (0x1CB, "SMALL LETTER J"), (0x1F8, "GRAVE"), (0x220, "LONG RIGHT LEG"),
    (0x1E44, "DOT ABOVE,,DOT BELOW,,LINE BELOW,,CIRCUMFLEX BELOW"), (0xA790, "DESCENDER"),
    (0xA7A4, "OBLIQUE STROKE")]⟩,
  ⟨"LATIN CAPITAL LETTER O WITH ", [(0xD2, "GRAVE,ACUTE,CIRCUMFLEX,TILDE,DIAERESIS,,STROKE"),
    (0x14C, "MACRON,,BREVE,,DOUBLE ACUTE"), (0x19F, "MIDDLE TILDE,HORN"), (0x1D1, "CARON"),
    (0x1EA, "OGONEK,,OGONEK AND MACRON"), (0x1FE, "STROKE AND ACUTE"),
    (0x20C, "DOUBLE GRAVE,,INVERTED BREVE"),
    (0x22A, "DIAERESIS AND MACRON,,TILDE AND MACRON,,DOT ABOVE,,DOT ABOVE AND MACRON"),
    (0x1E4C, "TILDE AND ACUTE,,TILDE AND DIAERESIS,,MACRON AND GRAVE,,MACRON AND ACUTE"),
    (0x1ECC, "DOT BELOW,,HOOK ABOVE,,CIRCUMFLEX AND ACUTE,,CIRCUMFLEX AND GRAVE"),
    (0x1ED4, "CIRCUMFLEX AND HOOK ABOVE,,CIRCUMFLEX AND TILDE,,CIRCUMFLEX AND DOT BELOW"),
    (0x1EDA, "HORN AND ACUTE,,HORN AND GRAVE,,HORN AND HOOK ABOVE,,HORN AND TILDE"),
    (0x1EE2, "HORN AND DOT BELOW"), (0xA74A, "LONG STROKE OVERLAY,,LOOP")]⟩,
  ⟨"LATIN CAPITAL LETTER U WITH ", [(0xD9, "GRAVE,ACUTE,CIRCUMFLEX,DIAERESIS"),
    (0x168, "TILDE,,MACRON,,BREVE,,RING ABOVE,,DOUBLE ACUTE,,OGONEK"), (0x1AF, "HORN"),
    (0x1D3, "CARON,,DIAERESIS AND MACRON,,DIAERESIS AND ACUTE,,DIAERESIS AND CARON"),
    (0x1DB, "DIAERESIS AND GRAVE"), (0x214, "DOUBLE GRAVE,,INVERTED BREVE"),
    (0x1E72, "DIAERESIS BELOW,,TILDE BELOW,,CIRCUMFLEX BELOW,,TILDE AND ACUTE"),
    (0x1E7A, "MACRON AND DIAERESIS"),
    (0x1EE4, "DOT BELOW,,HOOK ABOVE,,HORN AND ACUTE,,HORN AND GRAVE,,HORN AND HOOK ABOVE"),
    (0x1EEE, "HORN AND TILDE,,HORN AND DOT BELOW"), (0xA7B8, "STROKE")]⟩,
  ⟨"LATIN CAPITAL LETTER Y WITH ", [(0xDD, "ACUTE"), (0x176, "CIRCUMFLEX,,DIAERESIS"),
    (0x1B3, "HOOK"), (0x232, "MACRON"), (0x24E, "STROKE"), (0x1E8E, "DOT ABOVE"),
    (0x1EF2, "GRAVE,,DOT BELOW,,HOOK ABOVE,,TILDE,,,,,,LOOP")]⟩,
  ⟨"LATIN SMALL LETTER A WITH ", [(0xE0, "GRAVE,ACUTE,CIRCUMFLEX,TILDE,DIAERESIS,RING ABOVE"),
    (0x101, "MACRON,,BREVE,,OGONEK"), (0x1CE, "CARON"),
    (0x1DF, "DIAERESIS AND MACRON,,DOT ABOVE AND MACRON"),
    (0x1FB, "RING ABOVE AND ACUTE,,,,,,DOUBLE GRAVE,,INVERTED BREVE"), (0x227, "DOT ABOVE"),
    (0x1D8F, "RETROFLEX HOOK"), (0x1E01, "RING BELOW"),
    (0x1E9A, "RIGHT HALF RING,,,,,,,DOT BELOW,,HOOK ABOVE,,CIRCUMFLEX AND ACUTE"),
    (0x1EA7, "CIRCUMFLEX AND GRAVE,,CIRCUMFLEX AND HOOK ABOVE,,CIRCUMFLEX AND TILDE"),
    (0x1EAD, "CIRCUMFLEX AND DOT BELOW,,BREVE AND ACUTE,,BREVE AND GRAVE"),
    (0x1EB3, "BREVE AND HOOK ABOVE,,BREVE AND TILDE,,BREVE AND DOT BELOW"), (0x2C65, "STROKE")]⟩,
  ⟨"LATIN SMALL LETTER C WITH ", [(0xE7, "CEDILLA"), (0x107, "ACUTE,,CIRCUMFLEX,,DOT ABOVE,,CARON"),
    (0x188, "HOOK"), (0x23C, "STROKE"), (0x255, "CURL"), (0x1E09, "CEDILLA AND ACUTE"),
    (0xA793, "BAR,PALATAL HOOK"), (0x1DF1D, "RETROFLEX HOOK")]⟩,
  ⟨"LATIN SMALL LETTER E WITH ", [(0xE8, "GRAVE,ACUTE,CIRCUMFLEX,DIAERESIS"),
    (0x113, "MACRON,,BREVE,,DOT ABOVE,,OGONEK,,CARON"), (0x205, "DOUBLE GRAVE,,INVERTED BREVE"),
    (0x229, "CEDILLA"), (0x247, "STROKE"), (0x1D92, "RETROFLEX HOOK"),
    (0x1E15, "MACRON AND GRAVE,,MACRON AND ACUTE,,CIRCUMFLEX BELOW,,TILDE BELOW"),
    (0x1E1D, "CEDILLA AND BREVE"),
    (0x1EB9, "DOT BELOW,,HOOK ABOVE,,TILDE,,CIRCUMFLEX AND ACUTE,,CIRCUMFLEX AND GRAVE"),
    (0x1EC3, "CIRCUMFLEX AND HOOK ABOVE,,CIRCUMFLEX AND TILDE,,CIRCUMFLEX AND DOT BELOW"),
    (0x2C78, "NOTCH"), (0xAB34, "FLOURISH")]⟩,
  ⟨"LATIN SMALL LETTER I WITH ", [(0xEC, "GRAVE,ACUTE,CIRCUMFLEX,DIAERESIS"),
    (0x129, "TILDE,,MACRON,,BREVE,,OGONEK"), (0x1D0, "CARON"),
    (0x209, "DOUBLE GRAVE,,INVERTED BREVE"), (0x268, "STROKE"), (0x1D96, "RETROFLEX HOOK"),
    (0x1E2D, "TILDE BELOW,,DIAERESIS AND ACUTE"), (0x1EC9, "HOOK ABOVE,,DOT BELOW"),
    (0x1DF1A, "STROKE AND RETROFLEX HOOK")]⟩,
  ⟨"LATIN SMALL LETTER N WITH ", [(0xF1, "TILDE"), (0x144, "ACUTE,,CEDILLA,,CARON"),
    (0x19E, "LONG RIGHT LEG"), (0x1F9, "GRAVE"), (0x235, "CURL"),
    (0x272, "LEFT HOOK,RETROFLEX HOOK"), (0x1D70, "MIDDLE TILDE"), (0x1D87, "PALATAL HOOK"),
    (0x1E45, "DOT ABOVE,,DOT BELOW,,LINE BELOW,,CIRCUMFLEX BELOW"), (0xA791, "DESCENDER"),
    (0xA7A5, "OBLIQUE STROKE"), (0xAB3B, "CROSSED-TAIL")]⟩,
  ⟨"LATIN SMALL LETTER O WITH ", [(0xF2, "GRAVE,ACUTE,CIRCUMFLEX,TILDE,DIAERESIS,,STROKE"),
    (0x14D, "MACRON,,BREVE,,DOUBLE ACUTE"), (0x1A1, "HORN"), (0x1D2, "CARON"),
    (0x1EB, "OGONEK,,OGONEK AND MACRON"), (0x1FF, "STROKE AND ACUTE"),
    (0x20D, "DOUBLE GRAVE,,INVERTED BREVE"),
    (0x22B, "DIAERESIS AND MACRON,,TILDE AND MACRON,,DOT ABOVE,,DOT ABOVE AND MACRON"),
    (0x1E4D, "TILDE AND ACUTE,,TILDE AND DIAERESIS,,MACRON AND GRAVE,,MACRON AND ACUTE"),
    (0x1ECD, "DOT BELOW,,HOOK ABOVE,,CIRCUMFLEX AND ACUTE,,CIRCUMFLEX AND GRAVE"),
    (0x1ED5, "CIRCUMFLEX AND HOOK ABOVE,,CIRCUMFLEX AND TILDE,,CIRCUMFLEX AND DOT BELOW"),
    (0x1EDB, "HORN AND ACUTE,,HORN AND GRAVE,,HORN AND HOOK ABOVE,,HORN AND TILDE"),
    (0x1EE3, "HORN AND DOT BELOW"), (0x2C7A, "LOW RING INSIDE"),
    (0xA74B, "LONG STROKE OVERLAY,,LOOP"), (0x1DF1B, "RETROFLEX HOOK")]⟩,
  ⟨"LATIN SMALL LETTER U WITH ", [(0xF9, "GRAVE,ACUTE,CIRCUMFLEX,DIAERESIS"),
    (0x169, "TILDE,,MACRON,,BREVE,,RING ABOVE,,DOUBLE ACUTE,,OGONEK"), (0x1B0, "HORN"),
    (0x1D4, "CARON,,DIAERESIS AND MACRON,,DIAERESIS AND ACUTE,,DIAERESIS AND CARON"),
    (0x1DC, "DIAERESIS AND GRAVE"), (0x215, "DOUBLE GRAVE,,INVERTED BREVE"),
    (0x1D99, "RETROFLEX HOOK"),
    (0x1E73, "DIAERESIS BELOW,,TILDE BELOW,,CIRCUMFLEX BELOW,,TILDE AND ACUTE"),
    (0x1E7B, "MACRON AND DIAERESIS"),
    (0x1EE5, "DOT BELOW,,HOOK ABOVE,,HORN AND ACUTE,,HORN AND GRAVE,,HORN AND HOOK ABOVE"),
    (0x1EEF, "HORN AND TILDE,,HORN AND DOT BELOW"), (0xA7B9, "STROKE"),
    (0xAB4E, "SHORT RIGHT LEG,,,,LEFT HOOK")]⟩,
  ⟨"LATIN SMALL LETTER Y WITH ", [(0xFD, "ACUTE,,DIAERESIS"), (0x177, "CIRCUMFLEX"),
    (0x1B4, "HOOK"), (0x233, "MACRON"), (0x24F, "STROKE"), (0x1E8F, "DOT ABOVE"),
    (0x1E99, "RING ABOVE"), (0x1EF3, "GRAVE,,DOT BELOW,,HOOK ABOVE,,TILDE,,,,,,LOOP"),
    (0xAB5A, "SHORT RIGHT LEG")]⟩,
  ⟨"LATIN CAPITAL LETTER D WITH ", [(0x10E, "CARON,,STROKE"), (0x18A, "HOOK,TOPBAR"),
    (0x1C5, "SMALL LETTER Z WITH CARON"), (0x1F2, "SMALL LETTER Z"),
    (0x1E0A, "DOT ABOVE,,DOT BELOW,,LINE BELOW,,CEDILLA,,CIRCUMFLEX BELOW"),
    (0xA7C7, "SHORT STROKE OVERLAY")]⟩,
  ⟨"LATIN SMALL LETTER D WITH ", [(0x10F, "CARON,,STROKE"), (0x18C, "TOPBAR"), (0x221, "CURL"),
    (0x256, "TAIL,HOOK"), (0x1D6D, "MIDDLE TILDE"), (0x1D81, "PALATAL HOOK"),
    (0x1D91, "HOOK AND TAIL"),
    (0x1E0B, "DOT ABOVE,,DOT BELOW,,LINE BELOW,,CEDILLA,,CIRCUMFLEX BELOW"),
    (0xA7C8, "SHORT STROKE OVERLAY")]⟩,
  ⟨"LATIN CAPITAL LETTER G WITH ", [(0x11C, "CIRCUMFLEX,,BREVE,,DOT ABOVE,,CEDILLA"),
    (0x193, "HOOK"), (0x1E4, "STROKE,,CARON"), (0x1F4, "ACUTE"), (0x1E20, "MACRON"),
    (0xA7A0, "OBLIQUE STROKE")]⟩,
  ⟨"LATIN SMALL LETTER G WITH ", [(0x11D, "CIRCUMFLEX,,BREVE,,DOT ABOVE,,CEDILLA"),
    (0x1E5, "STROKE,,CARON"), (0x1F5, "ACUTE"), (0x260, "HOOK"), (0x1D83, "PALATAL HOOK"),
    (0x1E21, "MACRON"), (0xA7A1, "OBLIQUE STROKE")]⟩,
  ⟨"LATIN CAPITAL LETTER H WITH ", [(0x124, "CIRCUMFLEX,,STROKE"), (0x21E, "CARON"),
    (0x1E22, "DOT ABOVE,,DOT BELOW,,DIAERESIS,,CEDILLA,,BREVE BELOW"), (0x2C67, "DESCENDER"),
    (0xA7AA, "HOOK")]⟩,
  ⟨"LATIN SMALL LETTER H WITH ", [(0x125, "CIRCUMFLEX,,STROKE"), (0x21F, "CARON"), (0x266, "HOOK"),
    (0x1E23, "DOT ABOVE,,DOT BELOW,,DIAERESIS,,CEDILLA,,BREVE BELOW"), (0x1E96, "LINE BELOW"),
    (0x2C68, "DESCENDER"), (0xA795, "PALATAL HOOK")]⟩,
  ⟨"LATIN SMALL LIGATURE ", [(0x133, "IJ"), (0x153, "OE"),
    (0xFB00, "FF,FI,FL,FFI,FFL,LONG S T,ST")]⟩,
  ⟨"LATIN CAPITAL LETTER K WITH ", [(0x136, "CEDILLA"), (0x198, "HOOK"), (0x1E8, "CARON"),
    (0x1E30, "ACUTE,,DOT BELOW,,LINE BELOW"), (0x2C69, "DESCENDER"),
    (0xA740, "STROKE,,DIAGONAL STROKE,,STROKE AND DIAGONAL STROKE"), (0xA7A2, "OBLIQUE STROKE")]⟩,
  ⟨"LATIN SMALL LETTER K WITH ", [(0x137, "CEDILLA"), (0x199, "HOOK"), (0x1E9, "CARON"),
    (0x1D84, "PALATAL HOOK"), (0x1E31, "ACUTE,,DOT BELOW,,LINE BELOW"), (0x2C6A, "DESCENDER"),
    (0xA741, "STROKE,,DIAGONAL STROKE,,STROKE AND DIAGONAL STROKE"), (0xA7A3, "OBLIQUE STROKE")]⟩,
  ⟨"LATIN CAPITAL LETTER L WITH ", [(0x139, "ACUTE,,CEDILLA,,CARON,,MIDDLE DOT,,STROKE"),
    (0x1C8, "SMALL LETTER J"), (0x23D, "BAR"),
    (0x1E36, "DOT BELOW,,DOT BELOW AND MACRON,,LINE BELOW,,CIRCUMFLEX BELOW"),
    (0x2C60, "DOUBLE BAR,,MIDDLE TILDE"), (0xA748, "HIGH STROKE"), (0xA7AD, "BELT")]⟩,
  ⟨"LATIN SMALL LETTER L WITH ", [(0x13A, "ACUTE,,CEDILLA,,CARON,,MIDDLE DOT,,STROKE"),
    (0x19A, "BAR"), (0x234, "CURL"), (0x26B, "MIDDLE TILDE,BELT,RETROFLEX HOOK"),
    (0x1D85, "PALATAL HOOK"),
    (0x1E37, "DOT BELOW,,DOT BELOW AND MACRON,,LINE BELOW,,CIRCUMFLEX BELOW"),
    (0x2C61, "DOUBLE BAR"), (0xA749, "HIGH STROKE"), (0xA78E, "RETROFLEX HOOK AND BELT"),
    (0xAB37, "INVERTED LAZY S,DOUBLE MIDDLE TILDE,MIDDLE RING"),
    (0x1DF11, "FISHHOOK,,BELT AND PALATAL HOOK")]⟩,
  ⟨"LATIN CAPITAL LETTER R WITH ", [(0x154, "ACUTE,,CEDILLA,,CARON"),
    (0x210, "DOUBLE GRAVE,,INVERTED BREVE"), (0x24C, "STROKE"),
    (0x1E58, "DOT ABOVE,,DOT BELOW,,DOT BELOW AND MACRON,,LINE BELOW"), (0x2C64, "TAIL"),
    (0xA7A6, "OBLIQUE STROKE")]⟩,
  ⟨"LATIN SMALL LETTER R WITH ", [(0x155, "ACUTE,,CEDILLA,,CARON"),
    (0x211, "DOUBLE GRAVE,,INVERTED BREVE"), (0x24D, "STROKE"), (0x27C, "LONG LEG,TAIL,FISHHOOK"),
    (0x1D72, "MIDDLE TILDE,FISHHOOK AND MIDDLE TILDE"), (0x1D89, "PALATAL HOOK"),
    (0x1E59, "DOT ABOVE,,DOT BELOW,,DOT BELOW AND MACRON,,LINE BELOW"), (0xA7A7, "OBLIQUE STROKE"),
    (0xAB49, "CROSSED-TAIL"), (0x1DF16, "FISHHOOK AND PALATAL HOOK")]⟩,
  ⟨"LATIN CAPITAL LETTER S WITH ", [(0x15A, "ACUTE,,CIRCUMFLEX,,CEDILLA,,CARON"),
    (0x218, "COMMA BELOW"),
    (0x1E60, "DOT ABOVE,,DOT BELOW,,ACUTE AND DOT ABOVE,,CARON AND DOT ABOVE"),
    (0x1E68, "DOT BELOW AND DOT ABOVE"), (0x2C7E, "SWASH TAIL"), (0xA7A8, "OBLIQUE STROKE"),
    (0xA7C5, "HOOK,,,,SHORT STROKE OVERLAY")]⟩,
  ⟨"LATIN SMALL LETTER S WITH ", [(0x15B, "ACUTE,,CIRCUMFLEX,,CEDILLA,,CARON"),
    (0x219, "COMMA BELOW"), (0x23F, "SWASH TAIL"), (0x282, "HOOK"), (0x1D74, "MIDDLE TILDE"),
    (0x1D8A, "PALATAL HOOK"),
    (0x1E61, "DOT ABOVE,,DOT BELOW,,ACUTE AND DOT ABOVE,,CARON AND DOT ABOVE"),
    (0x1E69, "DOT BELOW AND DOT ABOVE"), (0xA7A9, "OBLIQUE STROKE"),
    (0xA7CA, "SHORT STROKE OVERLAY"), (0x1DF1E, "CURL")]⟩,
  ⟨"LATIN CAPITAL LETTER T WITH ", [(0x162, "CEDILLA,,CARON,,STROKE"),
    (0x1AC, "HOOK,,RETROFLEX HOOK"), (0x21A, "COMMA BELOW"), (0x23E, "DIAGONAL STROKE"),
    (0x1E6A, "DOT ABOVE,,DOT BELOW,,LINE BELOW,,CIRCUMFLEX BELOW")]⟩,
  ⟨"LATIN SMALL LETTER T WITH ", [(0x163, "CEDILLA,,CARON,,STROKE"), (0x1AB, "PALATAL HOOK,,HOOK"),
    (0x21B, "COMMA BELOW"), (0x236, "CURL"), (0x288, "RETROFLEX HOOK"), (0x1D75, "MIDDLE TILDE"),
    (0x1E6B, "DOT ABOVE,,DOT BELOW,,LINE BELOW,,CIRCUMFLEX BELOW"), (0x1E97, "DIAERESIS"),
    (0x2C66, "DIAGONAL STROKE"), (0x1DF09, "HOOK AND RETROFLEX HOOK")]⟩,
  ⟨"LATIN CAPITAL LETTER W WITH ", [(0x174, "CIRCUMFLEX"),
    (0x1E80, "GRAVE,,ACUTE,,DIAERESIS,,DOT ABOVE,,DOT BELOW"), (0x2C72, "HOOK")]⟩,
  ⟨"LATIN SMALL LETTER W WITH ", [(0x175, "CIRCUMFLEX"),
    (0x1E81, "GRAVE,,ACUTE,,DIAERESIS,,DOT ABOVE,,DOT BELOW"), (0x1E98, "RING ABOVE"),
    (0x2C73, "HOOK")]⟩,
  ⟨"LATIN CAPITAL LETTER Z WITH ", [(0x179, "ACUTE,,DOT ABOVE,,CARON"), (0x1B5, "STROKE"),
    (0x224, "HOOK"), (0x1E90, "CIRCUMFLEX,,DOT BELOW,,LINE BELOW"), (0x2C6B, "DESCENDER"),
    (0x2C7F, "SWASH TAIL"), (0xA7C6, "PALATAL HOOK")]⟩,
  ⟨"LATIN SMALL LETTER Z WITH ", [(0x17A, "ACUTE,,DOT ABOVE,,CARON"), (0x1B6, "STROKE"),
    (0x225, "HOOK"), (0x240, "SWASH TAIL"), (0x290, "RETROFLEX HOOK,CURL"),
    (0x1D76, "MIDDLE TILDE"), (0x1D8E, "PALATAL HOOK"),
    (0x1E91, "CIRCUMFLEX,,DOT BELOW,,LINE BELOW"), (0x2C6C, "DESCENDER")]⟩,
  ⟨"LATIN SMALL LETTER B WITH ", [(0x180, "STROKE,,,TOPBAR"), (0x253, "HOOK"),
    (0x1D6C, "MIDDLE TILDE"), (0x1D80, "PALATAL HOOK"),
    (0x1E03, "DOT ABOVE,,DOT BELOW,,LINE BELOW"), (0xA797, "FLOURISH")]⟩,
  ⟨"LATIN CAPITAL LETTER B WITH ", [(0x181, "HOOK,TOPBAR"), (0x243, "STROKE"),
    (0x1E02, "DOT ABOVE,,DOT BELOW,,LINE BELOW"), (0xA796, "FLOURISH")]⟩,
  ⟨"LATIN CAPITAL LETTER P WITH ", [(0x1A4, "HOOK"), (0x1E54, "ACUTE,,DOT ABOVE"),
    (0x2C63, "STROKE"), (0xA750, "STROKE THROUGH DESCENDER,,FLOURISH,,SQUIRREL TAIL")]⟩,
  ⟨"LATIN SMALL LETTER P WITH ", [(0x1A5, "HOOK"), (0x1D71, "MIDDLE TILDE"), (0x1D7D, "STROKE"),
    (0x1D88, "PALATAL HOOK"), (0x1E55, "ACUTE,,DOT ABOVE"),
    (0xA751, "STROKE THROUGH DESCENDER,,FLOURISH,,SQUIRREL TAIL")]⟩,
  ⟨"LATIN LETTER ", [(0x1A6, "YR,,,,REVERSED ESH LOOP"),
    (0x1BB, "TWO WITH STROKE,,,INVERTED GLOTTAL STOP WITH STROKE,WYNN,DENTAL CLICK"),
    (0x1C1, "LATERAL CLICK,ALVEOLAR CLICK,RETROFLEX CLICK"),
    (0x294, "GLOTTAL STOP,PHARYNGEAL VOICED FRICATIVE,INVERTED GLOTTAL STOP,STRETCHED C"),
    (0x298, "BILABIAL CLICK,,,,,,,,,GLOTTAL STOP WITH STROKE"),
    (0x2A2, "REVERSED GLOTTAL STOP WITH STROKE"),
    (0x2AC, "BILABIAL PERCUSSIVE,BIDENTAL PERCUSSIVE"), (0x1D24, "VOICED LARYNGEAL SPIRANT,AIN"),
    (0xA78F, "SINOLOGICAL DOT"),
    (0x1DF0A, "RETROFLEX CLICK WITH RETROFLEX HOOK,,,,INVERTED GLOTTAL STOP WITH CURL"),
    (0x1DF0F, "STRETCHED C WITH CURL")]⟩,
  ⟨"LATIN LETTER SMALL CAPITAL ", [(0x262, "G,,,,,,,,I"), (0x274, "N,,OE"), (0x280, "R,INVERTED R"),
    (0x28F, "Y"), (0x299, "B,,G WITH HOOK,H,,,L"),
    (0x1D00, "A,AE,,BARRED B,C,D,ETH,E,,,J,K,L WITH STROKE,M,REVERSED N,O,OPEN O,,,,,OU,,,P"),
    (0x1D19, "REVERSED R,TURNED R,T,U,,,,V,W,Z,EZH"), (0x2C7B, "TURNED E"), (0xA730, "F,S"),
    (0xA776, "RUM"), (0xA7AF, "Q"), (0xA7FA, "TURNED M"), (0xAB46, "R WITH RIGHT LEG"),
    (0x1DF02, "TURNED G,,L WITH BELT"), (0x1DF10, "TURNED K")]⟩,
  ⟨"LATIN SMALL LETTER M WITH ", [(0x271, "HOOK"), (0x1D6F, "MIDDLE TILDE"),
    (0x1D86, "PALATAL HOOK"), (0x1E3F, "ACUTE,,DOT ABOVE,,DOT BELOW"), (0xAB3A, "CROSSED-TAIL")]⟩,
  ⟨"LATIN SMALL LETTER V WITH ", [(0x28B, "HOOK"), (0x1D8C, "PALATAL HOOK"),
    (0x1E7D, "TILDE,,DOT BELOW"), (0x2C71, "RIGHT HOOK,,,CURL"), (0xA75F, "DIAGONAL STROKE")]⟩,
  ⟨"MODIFIER LETTER SMALL ",
    [(0x2B0, "H,H WITH HOOK,J,R,TURNED R,TURNED R WITH HOOK,CAPITAL INVERTED R,W,Y"),
    (0x2E0, "GAMMA,L,S,X,REVERSED GLOTTAL STOP"),
    (0x1D43, "A,TURNED A,ALPHA,TURNED AE,B,D,E,SCHWA,OPEN E,TURNED OPEN E,G,TURNED I,K,M"),
    (0x1D51, "ENG,O,OPEN O,TOP HALF O,BOTTOM HALF O,P,T,U,SIDEWAYS U,TURNED M,V,AIN,BETA"),
    (0x1D5E, "GREEK GAMMA,DELTA,GREEK PHI,CHI"),
    (0x1D9B, "TURNED ALPHA,C,C WITH CURL,ETH,REVERSED OPEN E,F,DOTLESS J WITH STROKE"),
    (0x1DA2, "SCRIPT G,TURNED H,I WITH STROKE,IOTA,CAPITAL I,CAPITAL I WITH STROKE"),
    (0x1DA8, "J WITH CROSSED-TAIL,L WITH RETROFLEX HOOK,L WITH PALATAL HOOK,CAPITAL L"),
    (0x1DAC, "M WITH HOOK,TURNED M WITH LONG LEG,N WITH LEFT HOOK,N WITH RETROFLEX HOOK"),
    (0x1DB0, "CAPITAL N,BARRED O,PHI,S WITH HOOK,ESH,T WITH PALATAL HOOK,U BAR,UPSILON"),
    (0x1DB8, "CAPITAL U,V WITH HOOK,TURNED V,Z,Z WITH RETROFLEX HOOK,Z WITH CURL,EZH,THETA"),
    (0xA7F9, "LIGATURE OE"),
    (0xAB5C, "HENG,L WITH INVERTED LAZY S,L WITH MIDDLE TILDE,U WITH LEFT HOOK"),
    (0xAB69, "TURNED W"), (0x10780, "CAPITAL AA,,,AE,CAPITAL B,B WITH HOOK,,DZ DIGRAPH"),
    (0x10788, "DZ DIGRAPH WITH RETROFLEX HOOK,DZ DIGRAPH WITH CURL,DEZH DIGRAPH,D WITH TAIL"),
    (0x1078C, "D WITH HOOK,D WITH HOOK AND TAIL,REVERSED E,CLOSED REVERSED OPEN E"),
    (0x10790, "FENG DIGRAPH,RAMS HORN,CAPITAL G,G WITH HOOK,CAPITAL G WITH HOOK"),
    (0x10795, "H WITH STROKE,CAPITAL H,HENG WITH HOOK,DOTLESS J WITH STROKE AND HOOK"),
    (0x10799, "LS DIGRAPH,LZ DIGRAPH,L WITH BELT,CAPITAL L WITH BELT"),
    (0x1079D, "L WITH RETROFLEX HOOK AND BELT,LEZH,LEZH WITH RETROFLEX HOOK,TURNED Y"),
    (0x107A1, "TURNED Y WITH BELT,O WITH STROKE,CAPITAL OE,CLOSED OMEGA,Q"),
    (0x107A6, "TURNED R WITH LONG LEG,TURNED R WITH LONG LEG AND RETROFLEX HOOK,R WITH TAIL"),
    (0x107A9, "R WITH FISHHOOK,CAPITAL R,TC DIGRAPH WITH CURL,TS DIGRAPH"),
    (0x107AD, "TS DIGRAPH WITH RETROFLEX HOOK,TESH DIGRAPH,T WITH RETROFLEX HOOK"),
    (0x107B0, "V WITH RIGHT HOOK,,CAPITAL Y,,,,,,,,S WITH CURL")]⟩,
  ⟨"MODIFIER LETTER ",
    [(0x2B9, "PRIME,DOUBLE PRIME,TURNED COMMA,APOSTROPHE,REVERSED COMMA,RIGHT HALF RING"),
    (0x2BF, "LEFT HALF RING,GLOTTAL STOP,REVERSED GLOTTAL STOP,LEFT ARROWHEAD"),
    (0x2C3, "RIGHT ARROWHEAD,UP ARROWHEAD,DOWN ARROWHEAD,CIRCUMFLEX ACCENT,,VERTICAL LINE"),
    (0x2C9, "MACRON,ACUTE ACCENT,GRAVE ACCENT,LOW VERTICAL LINE,LOW MACRON"),
    (0x2CE, "LOW GRAVE ACCENT,LOW ACUTE ACCENT,TRIANGULAR COLON,HALF TRIANGULAR COLON"),
    (0x2D2, "CENTRED RIGHT HALF RING,CENTRED LEFT HALF RING,UP TACK,DOWN TACK,PLUS SIGN"),
    (0x2D7, "MINUS SIGN,,,,,,,RHOTIC HOOK,CROSS ACCENT,,,,,,EXTRA-HIGH TONE BAR"),
    (0x2E6, "HIGH TONE BAR,MID TONE BAR,LOW TONE BAR,EXTRA-LOW TONE BAR"),
    (0x2EA, "YIN DEPARTING TONE MARK,YANG DEPARTING TONE MARK,VOICING,UNASPIRATED"),
    (0x2EE, "DOUBLE APOSTROPHE,LOW DOWN ARROWHEAD,LOW UP ARROWHEAD,LOW LEFT ARROWHEAD"),
    (0x2F2, "LOW RIGHT ARROWHEAD,LOW RING,MIDDLE GRAVE ACCENT,MIDDLE DOUBLE GRAVE ACCENT"),
    (0x2F6, "MIDDLE DOUBLE ACUTE ACCENT,LOW TILDE,RAISED COLON,BEGIN HIGH TONE"),
    (0x2FA, "END HIGH TONE,BEGIN LOW TONE,END LOW TONE,SHELF,OPEN SHELF,LOW LEFT ARROW"),
    (0x10FC, "GEORGIAN NAR"), (0x1D78, "CYRILLIC EN"),
    (0xA69C, "CYRILLIC HARD SIGN,CYRILLIC SOFT SIGN"),
    (0xA708, "EXTRA-HIGH DOTTED TONE BAR,HIGH DOTTED TONE BAR,MID DOTTED TONE BAR"),
    (0xA70B, "LOW DOTTED TONE BAR,EXTRA-LOW DOTTED TONE BAR"),
    (0xA70D, "EXTRA-HIGH DOTTED LEFT-STEM TONE BAR,HIGH DOTTED LEFT-STEM TONE BAR"),
    (0xA70F, "MID DOTTED LEFT-STEM TONE BAR,LOW DOTTED LEFT-STEM TONE BAR"),
    (0xA711, "EXTRA-LOW DOTTED LEFT-STEM TONE BAR,EXTRA-HIGH LEFT-STEM TONE BAR"),
    (0xA713, "HIGH LEFT-STEM TONE BAR,MID LEFT-STEM TONE BAR,LOW LEFT-STEM TONE BAR"),
    (0xA716, "EXTRA-LOW LEFT-STEM TONE BAR,DOT VERTICAL BAR,DOT SLASH,DOT HORIZONTAL BAR"),
    (0xA71A, "LOWER RIGHT CORNER ANGLE,RAISED UP ARROW,RAISED DOWN ARROW"),
    (0xA71D, "RAISED EXCLAMATION MARK,RAISED INVERTED EXCLAMATION MARK"),
    (0xA71F, "LOW INVERTED EXCLAMATION MARK,STRESS AND HIGH TONE,STRESS AND LOW TONE"),
    (0xA770, "US"), (0xA788, "LOW CIRCUMFLEX ACCENT,COLON,SHORT EQUALS SIGN"),
    (0xAB6A, "LEFT TACK,RIGHT TACK"),
    (0x10781, "SUPERSCRIPT TRIANGULAR COLON,SUPERSCRIPT HALF TRIANGULAR COLON"),
    (0x107B3, "GLOTTAL STOP WITH STROKE,REVERSED GLOTTAL STOP WITH STROKE,BILABIAL CLICK"),
    (0x107B6, "DENTAL CLICK,LATERAL CLICK,ALVEOLAR CLICK,RETROFLEX CLICK WITH RETROFLEX HOOK")]⟩,
  ⟨"COMBINING ",
    [(0x300, "GRAVE ACCENT,ACUTE ACCENT,CIRCUMFLEX ACCENT,TILDE,MACRON,OVERLINE,BREVE"),
    (0x307, "DOT ABOVE,DIAERESIS,HOOK ABOVE,RING ABOVE,DOUBLE ACUTE ACCENT,CARON"),
    (0x30D, "VERTICAL LINE ABOVE,DOUBLE VERTICAL LINE ABOVE,DOUBLE GRAVE ACCENT"),
    (0x310, "CANDRABINDU,INVERTED BREVE,TURNED COMMA ABOVE,COMMA ABOVE"),
    (0x314, "REVERSED COMMA ABOVE,COMMA ABOVE RIGHT,GRAVE ACCENT BELOW,ACUTE ACCENT BELOW"),
    (0x318, "LEFT TACK BELOW,RIGHT TACK BELOW,LEFT ANGLE ABOVE,HORN,LEFT HALF RING BELOW"),
    (0x31D, "UP TACK BELOW,DOWN TACK BELOW,PLUS SIGN BELOW,MINUS SIGN BELOW"),
    (0x321, "PALATALIZED HOOK BELOW,RETROFLEX HOOK BELOW,DOT BELOW,DIAERESIS BELOW"),
    (0x325, "RING BELOW,COMMA BELOW,CEDILLA,OGONEK,VERTICAL LINE BELOW,BRIDGE BELOW"),
    (0x32B, "INVERTED DOUBLE ARCH BELOW,CARON BELOW,CIRCUMFLEX ACCENT BELOW,BREVE BELOW"),
    (0x32F, "INVERTED BREVE BELOW,TILDE BELOW,MACRON BELOW,LOW LINE,DOUBLE LOW LINE"),
    (0x334, "TILDE OVERLAY,SHORT STROKE OVERLAY,LONG STROKE OVERLAY,SHORT SOLIDUS OVERLAY"),
    (0x338, "LONG SOLIDUS OVERLAY,RIGHT HALF RING BELOW,INVERTED BRIDGE BELOW,SQUARE BELOW"),
    (0x33C, "SEAGULL BELOW,X ABOVE,VERTICAL TILDE,DOUBLE OVERLINE,GRAVE TONE MARK"),
    (0x341, "ACUTE TONE MARK,GREEK PERISPOMENI,GREEK KORONIS,GREEK DIALYTIKA TONOS"),
    (0x345, "GREEK YPOGEGRAMMENI,BRIDGE ABOVE,EQUALS SIGN BELOW,DOUBLE VERTICAL LINE BELOW"),
    (0x349, "LEFT ANGLE BELOW,NOT TILDE ABOVE,HOMOTHETIC ABOVE,ALMOST EQUAL TO ABOVE"),
    (0x34D, "LEFT RIGHT ARROW BELOW,UPWARDS ARROW BELOW,GRAPHEME JOINER"),
    (0x350, "RIGHT ARROWHEAD ABOVE,LEFT HALF RING ABOVE,FERMATA,X BELOW"),
    (0x354, "LEFT ARROWHEAD BELOW,RIGHT ARROWHEAD BELOW"),
    (0x356, "RIGHT ARROWHEAD AND UP ARROWHEAD BELOW,RIGHT HALF RING ABOVE,DOT ABOVE RIGHT"),
    (0x359, "ASTERISK BELOW,DOUBLE RING BELOW,ZIGZAG ABOVE,DOUBLE BREVE BELOW,DOUBLE BREVE"),
    (0x35E, "DOUBLE MACRON,DOUBLE MACRON BELOW,DOUBLE TILDE,DOUBLE INVERTED BREVE"),
    (0x362, "DOUBLE RIGHTWARDS ARROW BELOW"),
    (0x1AB0, "DOUBLED CIRCUMFLEX ACCENT,DIAERESIS-RING,INFINITY,DOWNWARDS ARROW,TRIPLE DOT"),
    (0x1AB5, "X-X BELOW,WIGGLY LINE BELOW,OPEN MARK BELOW,DOUBLE OPEN MARK BELOW"),
    (0x1AB9, "LIGHT CENTRALIZATION STROKE BELOW,STRONG CENTRALIZATION STROKE BELOW"),
    (0x1ABB, "PARENTHESES ABOVE,DOUBLE PARENTHESES ABOVE,PARENTHESES BELOW"),
    (0x1ABE, "PARENTHESES OVERLAY,,,LEFT PARENTHESIS ABOVE LEFT"),
    (0x1AC2, "RIGHT PARENTHESIS ABOVE RIGHT,LEFT PARENTHESIS BELOW LEFT"),
    (0x1AC4, "RIGHT PARENTHESIS BELOW RIGHT,SQUARE BRACKETS ABOVE,NUMBER SIGN ABOVE"),
    (0x1AC7, "INVERTED DOUBLE ARCH ABOVE,PLUS SIGN ABOVE,DOUBLE PLUS SIGN ABOVE"),
    (0x1ACA, "DOUBLE PLUS SIGN BELOW,TRIPLE ACUTE ACCENT"),
    (0x1DC0, "DOTTED GRAVE ACCENT,DOTTED ACUTE ACCENT,SNAKE BELOW,SUSPENSION MARK"),
    (0x1DC4, "MACRON-ACUTE,GRAVE-MACRON,MACRON-GRAVE,ACUTE-MACRON,GRAVE-ACUTE-GRAVE"),
    (0x1DC9, "ACUTE-GRAVE-ACUTE,,BREVE-MACRON,MACRON-BREVE,DOUBLE CIRCUMFLEX ABOVE"),
    (0x1DCE, "OGONEK ABOVE,ZIGZAG BELOW,IS BELOW,UR ABOVE,US ABOVE"),
    (0x1DF5, "UP TACK ABOVE,KAVYKA ABOVE RIGHT,KAVYKA ABOVE LEFT,DOT ABOVE LEFT"),
    (0x1DF9, "WIDE INVERTED BRIDGE BELOW,DOT BELOW LEFT,DELETION MARK"),
    (0x1DFC, "DOUBLE INVERTED BREVE BELOW,ALMOST EQUAL TO BELOW,LEFT ARROWHEAD ABOVE"),
    (0x1DFF, "RIGHT ARROWHEAD AND DOWN ARROWHEAD BELOW"),
    (0x20D0, "LEFT HARPOON ABOVE,RIGHT HARPOON ABOVE,LONG VERTICAL LINE OVERLAY"),
    (0x20D3, "SHORT VERTICAL LINE OVERLAY,ANTICLOCKWISE ARROW ABOVE,CLOCKWISE ARROW ABOVE"),
    (0x20D6, "LEFT ARROW ABOVE,RIGHT ARROW ABOVE,RING OVERLAY,CLOCKWISE RING OVERLAY"),
    (0x20DA, "ANTICLOCKWISE RING OVERLAY,THREE DOTS ABOVE,FOUR DOTS ABOVE,ENCLOSING CIRCLE"),
    (0x20DE, "ENCLOSING SQUARE,ENCLOSING DIAMOND,ENCLOSING CIRCLE BACKSLASH"),
    (0x20E1, "LEFT RIGHT ARROW ABOVE,ENCLOSING SCREEN,ENCLOSING KEYCAP"),
    (0x20E4, "ENCLOSING UPWARD POINTING TRIANGLE,REVERSE SOLIDUS OVERLAY"),
    (0x20E6, "DOUBLE VERTICAL STROKE OVERLAY,ANNUITY SYMBOL,TRIPLE UNDERDOT"),
    (0x20E9, "WIDE BRIDGE ABOVE,LEFTWARDS ARROW OVERLAY,LONG DOUBLE SOLIDUS OVERLAY"),
    (0x20EC, "RIGHTWARDS HARPOON WITH BARB DOWNWARDS,LEFTWARDS HARPOON WITH BARB DOWNWARDS"),
    (0x20EE, "LEFT ARROW BELOW,RIGHT ARROW BELOW,ASTERISK ABOVE"),
    (0x3099, "KATAKANA-HIRAGANA VOICED SOUND MARK,KATAKANA-HIRAGANA SEMI-VOICED SOUND MARK"),
    (0xFE20, "LIGATURE LEFT HALF,LIGATURE RIGHT HALF,DOUBLE TILDE LEFT HALF"),
    (0xFE23, "DOUBLE TILDE RIGHT HALF,MACRON LEFT HALF,MACRON RIGHT HALF,CONJOINING MACRON"),
    (0xFE27, "LIGATURE LEFT HALF BELOW,LIGATURE RIGHT HALF BELOW,TILDE LEFT HALF BELOW"),
    (0xFE2A, "TILDE RIGHT HALF BELOW,MACRON LEFT HALF BELOW,MACRON RIGHT HALF BELOW"),
    (0xFE2D, "CONJOINING MACRON BELOW"), (0x1133B, "BINDU BELOW"),
    (0x1D242, "GREEK MUSICAL TRISEME,GREEK MUSICAL TETRASEME,GREEK MUSICAL PENTASEME")]⟩,
  ⟨"COMBINING LATIN SMALL LETTER ", [(0x363, "A,E,I,O,U,C,D,H,M,R,T,V,X"),
    (0x1ABF, "W BELOW,TURNED W BELOW"), (0x1ACC, "INSULAR G,INSULAR R,INSULAR T"),
    (0x1DCA, "R BELOW,,,,,,,,,FLATTENED OPEN A ABOVE,AE,AO,AV,C CEDILLA,INSULAR D,ETH,G,,K"),
    (0x1DDD, "L,,,N,,,R ROTUNDA,S,LONG S,Z,ALPHA,B,BETA,SCHWA,F,L WITH DOUBLE MIDDLE TILDE"),
    (0x1DED, "O WITH LIGHT CENTRALIZATION STROKE,P,ESH,U WITH LIGHT CENTRALIZATION STROKE,W"),
    (0x1DF2, "A WITH DIAERESIS,O WITH DIAERESIS,U WITH DIAERESIS")]⟩,
  ⟨"GREEK CAPITAL LETTER ", [(0x370, "HETA,,ARCHAIC SAMPI,,,,PAMPHYLIAN DIGAMMA,,,,,,,,,YOT"),
    (0x391, "ALPHA,BETA,GAMMA,DELTA,EPSILON,ZETA,ETA,THETA,IOTA,KAPPA,LAMDA,MU,NU,XI"),
    (0x39F, "OMICRON,PI,RHO,,SIGMA,TAU,UPSILON,PHI,CHI,PSI,OMEGA"), (0x3F7, "SHO,,,SAN"),
    (0x1FEC, "RHO WITH DASIA")]⟩,
  ⟨"GREEK SMALL LETTER ", [(0x371, "HETA,,ARCHAIC SAMPI,,,,PAMPHYLIAN DIGAMMA"),
    (0x3B1, "ALPHA,BETA,GAMMA,DELTA,EPSILON,ZETA,ETA,THETA,IOTA,KAPPA,LAMDA,MU,NU,XI"),
    (0x3BF, "OMICRON,PI,RHO,FINAL SIGMA,SIGMA,TAU,UPSILON,PHI,CHI,PSI,OMEGA"),
    (0x3D9, "ARCHAIC KOPPA,,STIGMA,,DIGAMMA,,KOPPA,,SAMPI"), (0x3F8, "SHO,,,SAN"),
    (0x1FE4, "RHO WITH PSILI,RHO WITH DASIA")]⟩,
  ⟨"GREEK ", [(0x374, "NUMERAL SIGN,LOWER NUMERAL SIGN,,,,,YPOGEGRAMMENI"),
    (0x37B, "SMALL REVERSED LUNATE SIGMA SYMBOL,SMALL DOTTED LUNATE SIGMA SYMBOL"),
    (0x37D, "SMALL REVERSED DOTTED LUNATE SIGMA SYMBOL,QUESTION MARK,,,,,,TONOS"),
    (0x385, "DIALYTIKA TONOS,,ANO TELEIA"),
    (0x3CF, "CAPITAL KAI SYMBOL,BETA SYMBOL,THETA SYMBOL,UPSILON WITH HOOK SYMBOL"),
    (0x3D3, "UPSILON WITH ACUTE AND HOOK SYMBOL,UPSILON WITH DIAERESIS AND HOOK SYMBOL"),
    (0x3D5, "PHI SYMBOL,PI SYMBOL,KAI SYMBOL,LETTER ARCHAIC KOPPA,,LETTER STIGMA"),
    (0x3DC, "LETTER DIGAMMA,,LETTER KOPPA,,LETTER SAMPI"),
    (0x3F0, "KAPPA SYMBOL,RHO SYMBOL,LUNATE SIGMA SYMBOL,LETTER YOT,CAPITAL THETA SYMBOL"),
    (0x3F5, "LUNATE EPSILON SYMBOL,REVERSED LUNATE EPSILON SYMBOL"),
    (0x3F9, "CAPITAL LUNATE SIGMA SYMBOL,,,RHO WITH STROKE SYMBOL"),
    (0x3FD, "CAPITAL REVERSED LUNATE SIGMA SYMBOL,CAPITAL DOTTED LUNATE SIGMA SYMBOL"),
    (0x3FF, "CAPITAL REVERSED DOTTED LUNATE SIGMA SYMBOL"),
    (0x1FBD, "KORONIS,PROSGEGRAMMENI,PSILI,PERISPOMENI,DIALYTIKA AND PERISPOMENI"),
    (0x1FCD, "PSILI AND VARIA,PSILI AND OXIA,PSILI AND PERISPOMENI"),
    (0x1FDD, "DASIA AND VARIA,DASIA AND OXIA,DASIA AND PERISPOMENI"),
    (0x1FED, "DIALYTIKA AND VARIA,DIALYTIKA AND OXIA,VARIA"), (0x1FFD, "OXIA,DASIA"),
    (0x10175, "ONE HALF SIGN,ONE HALF SIGN ALTERNATE FORM,TWO THIRDS SIGN"),
    (0x10178, "THREE QUARTERS SIGN,YEAR SIGN,TALENT SIGN,DRACHMA SIGN,OBOL SIGN"),
    (0x1017D, "TWO OBOLS SIGN,THREE OBOLS SIGN,FOUR OBOLS SIGN,FIVE OBOLS SIGN,METRETES SIGN"),
    (0x10182, "KYATHOS BASE SIGN,LITRA SIGN,OUNKIA SIGN,XESTES SIGN,ARTABE SIGN,AROURA SIGN"),
    (0x10188, "GRAMMA SIGN,TRYBLION BASE SIGN,ZERO SIGN,ONE QUARTER SIGN,SINUSOID SIGN"),
    (0x1018D, "INDICTION SIGN"), (0x101A0, "SYMBOL TAU RHO"), (0x1D245, "MUSICAL LEIMMA")]⟩,
  ⟨"GREEK CAPITAL LETTER ALPHA WITH ", [(0x386, "TONOS"),
    (0x1F08, "PSILI,DASIA,PSILI AND VARIA,DASIA AND VARIA,PSILI AND OXIA,DASIA AND OXIA"),
    (0x1F0E, "PSILI AND PERISPOMENI,DASIA AND PERISPOMENI"),
    (0x1F88, "PSILI AND PROSGEGRAMMENI,DASIA AND PROSGEGRAMMENI"),
    (0x1F8A, "PSILI AND VARIA AND PROSGEGRAMMENI,DASIA AND VARIA AND PROSGEGRAMMENI"),
    (0x1F8C, "PSILI AND OXIA AND PROSGEGRAMMENI,DASIA AND OXIA AND PROSGEGRAMMENI"),
    (0x1F8E, "PSILI AND PERISPOMENI AND PROSGEGRAMMENI"),
    (0x1F8F, "DASIA AND PERISPOMENI AND PROSGEGRAMMENI"),
    (0x1FB8, "VRACHY,MACRON,VARIA,OXIA,PROSGEGRAMMENI")]⟩,
  ⟨"GREEK CAPITAL LETTER EPSILON WITH ", [(0x388, "TONOS"),
    (0x1F18, "PSILI,DASIA,PSILI AND VARIA,DASIA AND VARIA,PSILI AND OXIA,DASIA AND OXIA"),
    (0x1FC8, "VARIA,OXIA")]⟩,
  ⟨"GREEK CAPITAL LETTER ETA WITH ", [(0x389, "TONOS"),
    (0x1F28, "PSILI,DASIA,PSILI AND VARIA,DASIA AND VARIA,PSILI AND OXIA,DASIA AND OXIA"),
    (0x1F2E, "PSILI AND PERISPOMENI,DASIA AND PERISPOMENI"),
    (0x1F98, "PSILI AND PROSGEGRAMMENI,DASIA AND PROSGEGRAMMENI"),
    (0x1F9A, "PSILI AND VARIA AND PROSGEGRAMMENI,DASIA AND VARIA AND PROSGEGRAMMENI"),
    (0x1F9C, "PSILI AND OXIA AND PROSGEGRAMMENI,DASIA AND OXIA AND PROSGEGRAMMENI"),
    (0x1F9E, "PSILI AND PERISPOMENI AND PROSGEGRAMMENI"),
    (0x1F9F, "DASIA AND PERISPOMENI AND PROSGEGRAMMENI"), (0x1FCA, "VARIA,OXIA,PROSGEGRAMMENI")]⟩,
  ⟨"GREEK CAPITAL LETTER IOTA WITH ", [(0x38A, "TONOS"), (0x3AA, "DIALYTIKA"),
    (0x1F38, "PSILI,DASIA,PSILI AND VARIA,DASIA AND VARIA,PSILI AND OXIA,DASIA AND OXIA"),
    (0x1F3E, "PSILI AND PERISPOMENI,DASIA AND PERISPOMENI"), (0x1FD8, "VRACHY,MACRON,VARIA,OXIA")]⟩,
  ⟨"GREEK CAPITAL LETTER OMICRON WITH ", [(0x38C, "TONOS"),
    (0x1F48, "PSILI,DASIA,PSILI AND VARIA,DASIA AND VARIA,PSILI AND OXIA,DASIA AND OXIA"),
    (0x1FF8, "VARIA,OXIA")]⟩,
  ⟨"GREEK CAPITAL LETTER UPSILON WITH ", [(0x38E, "TONOS"), (0x3AB, "DIALYTIKA"),
    (0x1F59, "DASIA,,DASIA AND VARIA,,DASIA AND OXIA,,DASIA AND PERISPOMENI"),
    (0x1FE8, "VRACHY,MACRON,VARIA,OXIA")]⟩,
  ⟨"GREEK CAPITAL LETTER OMEGA WITH ", [(0x38F, "TONOS"),
    (0x1F68, "PSILI,DASIA,PSILI AND VARIA,DASIA AND VARIA,PSILI AND OXIA,DASIA AND OXIA"),
    (0x1F6E, "PSILI AND PERISPOMENI,DASIA AND PERISPOMENI"),
    (0x1FA8, "PSILI AND PROSGEGRAMMENI,DASIA AND PROSGEGRAMMENI"),
    (0x1FAA, "PSILI AND VARIA AND PROSGEGRAMMENI,DASIA AND VARIA AND PROSGEGRAMMENI"),
    (0x1FAC, "PSILI AND OXIA AND PROSGEGRAMMENI,DASIA AND OXIA AND PROSGEGRAMMENI"),
    (0x1FAE, "PSILI AND PERISPOMENI AND PROSGEGRAMMENI"),
    (0x1FAF, "DASIA AND PERISPOMENI AND PROSGEGRAMMENI"), (0x1FFA, "VARIA,OXIA,PROSGEGRAMMENI")]⟩,
  ⟨"GREEK SMALL LETTER IOTA WITH ", [(0x390, "DIALYTIKA AND TONOS"), (0x3AF, "TONOS"),
    (0x3CA, "DIALYTIKA"),
    (0x1F30, "PSILI,DASIA,PSILI AND VARIA,DASIA AND VARIA,PSILI AND OXIA,DASIA AND OXIA"),
    (0x1F36, "PSILI AND PERISPOMENI,DASIA AND PERISPOMENI"), (0x1F76, "VARIA,OXIA"),
    (0x1FD0, "VRACHY,MACRON,DIALYTIKA AND VARIA,DIALYTIKA AND OXIA,,,PERISPOMENI"),
    (0x1FD7, "DIALYTIKA AND PERISPOMENI")]⟩,
  ⟨"GREEK SMALL LETTER ALPHA WITH ", [(0x3AC, "TONOS"),
    (0x1F00, "PSILI,DASIA,PSILI AND VARIA,DASIA AND VARIA,PSILI AND OXIA,DASIA AND OXIA"),
    (0x1F06, "PSILI AND PERISPOMENI,DASIA AND PERISPOMENI"), (0x1F70, "VARIA,OXIA"),
    (0x1F80, "PSILI AND YPOGEGRAMMENI,DASIA AND YPOGEGRAMMENI"),
    (0x1F82, "PSILI AND VARIA AND YPOGEGRAMMENI,DASIA AND VARIA AND YPOGEGRAMMENI"),
    (0x1F84, "PSILI AND OXIA AND YPOGEGRAMMENI,DASIA AND OXIA AND YPOGEGRAMMENI"),
    (0x1F86, "PSILI AND PERISPOMENI AND YPOGEGRAMMENI"),
    (0x1F87, "DASIA AND PERISPOMENI AND YPOGEGRAMMENI"),
    (0x1FB0, "VRACHY,MACRON,VARIA AND YPOGEGRAMMENI,YPOGEGRAMMENI,OXIA AND YPOGEGRAMMENI"),
    (0x1FB6, "PERISPOMENI,PERISPOMENI AND YPOGEGRAMMENI")]⟩,
  ⟨"GREEK SMALL LETTER EPSILON WITH ", [(0x3AD, "TONOS"),
    (0x1F10, "PSILI,DASIA,PSILI AND VARIA,DASIA AND VARIA,PSILI AND OXIA,DASIA AND OXIA"),
    (0x1F72, "VARIA,OXIA")]⟩,
  ⟨"GREEK SMALL LETTER ETA WITH ", [(0x3AE, "TONOS"),
    (0x1F20, "PSILI,DASIA,PSILI AND VARIA,DASIA AND VARIA,PSILI AND OXIA,DASIA AND OXIA"),
    (0x1F26, "PSILI AND PERISPOMENI,DASIA AND PERISPOMENI"), (0x1F74, "VARIA,OXIA"),
    (0x1F90, "PSILI AND YPOGEGRAMMENI,DASIA AND YPOGEGRAMMENI"),
    (0x1F92, "PSILI AND VARIA AND YPOGEGRAMMENI,DASIA AND VARIA AND YPOGEGRAMMENI"),
    (0x1F94, "PSILI AND OXIA AND YPOGEGRAMMENI,DASIA AND OXIA AND YPOGEGRAMMENI"),
    (0x1F96, "PSILI AND PERISPOMENI AND YPOGEGRAMMENI"),
    (0x1F97, "DASIA AND PERISPOMENI AND YPOGEGRAMMENI"),
    (0x1FC2, "VARIA AND YPOGEGRAMMENI,YPOGEGRAMMENI,OXIA AND YPOGEGRAMMENI,,PERISPOMENI"),
    (0x1FC7, "PERISPOMENI AND YPOGEGRAMMENI")]⟩,
  ⟨"GREEK SMALL LETTER UPSILON WITH ", [(0x3B0, "DIALYTIKA AND TONOS"), (0x3CB, "DIALYTIKA,,TONOS"),
    (0x1F50, "PSILI,DASIA,PSILI AND VARIA,DASIA AND VARIA,PSILI AND OXIA,DASIA AND OXIA"),
    (0x1F56, "PSILI AND PERISPOMENI,DASIA AND PERISPOMENI"), (0x1F7A, "VARIA,OXIA"),
    (0x1FE0, "VRACHY,MACRON,DIALYTIKA AND VARIA,DIALYTIKA AND OXIA,,,PERISPOMENI"),
    (0x1FE7, "DIALYTIKA AND PERISPOMENI")]⟩,
  ⟨"GREEK SMALL LETTER OMICRON WITH ", [(0x3CC, "TONOS"),
    (0x1F40, "PSILI,DASIA,PSILI AND VARIA,DASIA AND VARIA,PSILI AND OXIA,DASIA AND OXIA"),
    (0x1F78, "VARIA,OXIA")]⟩,
  ⟨"GREEK SMALL LETTER OMEGA WITH ", [(0x3CE, "TONOS"),
    (0x1F60, "PSILI,DASIA,PSILI AND VARIA,DASIA AND VARIA,PSILI AND OXIA,DASIA AND OXIA"),
    (0x1F66, "PSILI AND PERISPOMENI,DASIA AND PERISPOMENI"), (0x1F7C, "VARIA,OXIA"),
    (0x1FA0, "PSILI AND YPOGEGRAMMENI,DASIA AND YPOGEGRAMMENI"),
    (0x1FA2, "PSILI AND VARIA AND YPOGEGRAMMENI,DASIA AND VARIA AND YPOGEGRAMMENI"),
    (0x1FA4, "PSILI AND OXIA AND YPOGEGRAMMENI,DASIA AND OXIA AND YPOGEGRAMMENI"),
    (0x1FA6, "PSILI AND PERISPOMENI AND YPOGEGRAMMENI"),
    (0x1FA7, "DASIA AND PERISPOMENI AND YPOGEGRAMMENI"),
    (0x1FF2, "VARIA AND YPOGEGRAMMENI,YPOGEGRAMMENI,OXIA AND YPOGEGRAMMENI,,PERISPOMENI"),
    (0x1FF7, "PERISPOMENI AND YPOGEGRAMMENI")]⟩,
  ⟨"CYRILLIC CAPITAL LETTER ",
    [(0x400, "IE WITH GRAVE,IO,DJE,GJE,UKRAINIAN IE,DZE,BYELORUSSIAN-UKRAINIAN I,YI,JE,LJE"),
    (0x40A, "NJE,TSHE,KJE,I WITH GRAVE,SHORT U,DZHE,A,BE,VE,GHE,DE,IE,ZHE,ZE,I,SHORT I,KA"),
    (0x41B, "EL,EM,EN,O,PE,ER,ES,TE,U,EF,HA,TSE,CHE,SHA,SHCHA,HARD SIGN,YERU,SOFT SIGN,E"),
    (0x42E, "YU,YA"), (0x460, "OMEGA,,YAT,,IOTIFIED E,,LITTLE YUS,,IOTIFIED LITTLE YUS,,BIG YUS"),
    (0x46C, "IOTIFIED BIG YUS,,KSI,,PSI,,FITA,,IZHITSA,,IZHITSA WITH DOUBLE GRAVE ACCENT"),
    (0x478, "UK,,ROUND OMEGA,,OMEGA WITH TITLO,,OT,,KOPPA"),
    (0x48A, "SHORT I WITH TAIL,,SEMISOFT SIGN,,ER WITH TICK,,GHE WITH UPTURN"),
    (0x492, "GHE WITH STROKE,,GHE WITH MIDDLE HOOK,,ZHE WITH DESCENDER,,ZE WITH DESCENDER"),
    (0x49A, "KA WITH DESCENDER,,KA WITH VERTICAL STROKE,,KA WITH STROKE,,BASHKIR KA"),
    (0x4A2, "EN WITH DESCENDER,,,,PE WITH MIDDLE HOOK,,ABKHASIAN HA,,ES WITH DESCENDER"),
    (0x4AC, "TE WITH DESCENDER,,STRAIGHT U,,STRAIGHT U WITH STROKE,,HA WITH DESCENDER"),
    (0x4B6, "CHE WITH DESCENDER,,CHE WITH VERTICAL STROKE,,SHHA,,ABKHASIAN CHE"),
    (0x4BE, "ABKHASIAN CHE WITH DESCENDER,,,ZHE WITH BREVE,,KA WITH HOOK,,EL WITH TAIL"),
    (0x4C7, "EN WITH HOOK,,EN WITH TAIL,,KHAKASSIAN CHE,,EM WITH TAIL,,,A WITH BREVE"),
    (0x4D2, "A WITH DIAERESIS,,,,IE WITH BREVE,,SCHWA,,SCHWA WITH DIAERESIS"),
    (0x4DC, "ZHE WITH DIAERESIS,,ZE WITH DIAERESIS,,ABKHASIAN DZE,,I WITH MACRON"),
    (0x4E4, "I WITH DIAERESIS,,O WITH DIAERESIS,,BARRED O,,BARRED O WITH DIAERESIS"),
    (0x4EC, "E WITH DIAERESIS,,U WITH MACRON,,U WITH DIAERESIS,,U WITH DOUBLE ACUTE"),
    (0x4F4, "CHE WITH DIAERESIS,,GHE WITH DESCENDER,,YERU WITH DIAERESIS"),
    (0x4FA, "GHE WITH STROKE AND HOOK,,HA WITH HOOK,,HA WITH STROKE,,KOMI DE,,KOMI DJE"),
    (0x504, "KOMI ZJE,,KOMI DZJE,,KOMI LJE,,KOMI NJE,,KOMI SJE,,KOMI TJE,,REVERSED ZE"),
    (0x512, "EL WITH HOOK,,LHA,,RHA,,YAE,,QA,,WE,,ALEUT KA,,EL WITH MIDDLE HOOK"),
    (0x522, "EN WITH MIDDLE HOOK,,PE WITH DESCENDER,,SHHA WITH DESCENDER"),
    (0x528, "EN WITH LEFT HOOK,,DZZHE,,DCHE,,EL WITH DESCENDER"),
    (0xA640, "ZEMLYA,,DZELO,,REVERSED DZE,,IOTA,,DJERV,,MONOGRAPH UK,,BROAD OMEGA"),
    (0xA64E, "NEUTRAL YER,,YERU WITH BACK YER,,IOTIFIED YAT,,REVERSED YU,,IOTIFIED A"),
    (0xA658, "CLOSED LITTLE YUS,,BLENDED YUS,,IOTIFIED CLOSED LITTLE YUS,,YN,,REVERSED TSE"),
    (0xA662, "SOFT DE,,SOFT EL,,SOFT EM,,MONOCULAR O,,BINOCULAR O,,DOUBLE MONOCULAR O"),
    (0xA680, "DWE,,DZWE,,ZHWE,,CCHE,,DZZE,,TE WITH MIDDLE HOOK,,TWE,,TSWE,,TSSE,,TCHE,,HWE"),
    (0xA696, "SHWE,,DOUBLE O,,CROSSED O")]⟩,
  ⟨"CYRILLIC SMALL LETTER ",
    [(0x430, "A,BE,VE,GHE,DE,IE,ZHE,ZE,I,SHORT I,KA,EL,EM,EN,O,PE,ER,ES,TE,U,EF,HA,TSE,CHE"),
    (0x448, "SHA,SHCHA,HARD SIGN,YERU,SOFT SIGN,E,YU,YA,IE WITH GRAVE,IO,DJE,GJE"),
    (0x454, "UKRAINIAN IE,DZE,BYELORUSSIAN-UKRAINIAN I,YI,JE,LJE,NJE,TSHE,KJE,I WITH GRAVE"),
    (0x45E, "SHORT U,DZHE,,OMEGA,,YAT,,IOTIFIED E,,LITTLE YUS,,IOTIFIED LITTLE YUS"),
    (0x46B, "BIG YUS,,IOTIFIED BIG YUS,,KSI,,PSI,,FITA,,IZHITSA"),
    (0x477, "IZHITSA WITH DOUBLE GRAVE ACCENT,,UK,,ROUND OMEGA,,OMEGA WITH TITLO,,OT"),
    (0x481, "KOPPA"), (0x48B, "SHORT I WITH TAIL,,SEMISOFT SIGN,,ER WITH TICK,,GHE WITH UPTURN"),
    (0x493, "GHE WITH STROKE,,GHE WITH MIDDLE HOOK,,ZHE WITH DESCENDER,,ZE WITH DESCENDER"),
    (0x49B, "KA WITH DESCENDER,,KA WITH VERTICAL STROKE,,KA WITH STROKE,,BASHKIR KA"),
    (0x4A3, "EN WITH DESCENDER,,,,PE WITH MIDDLE HOOK,,ABKHASIAN HA,,ES WITH DESCENDER"),
    (0x4AD, "TE WITH DESCENDER,,STRAIGHT U,,STRAIGHT U WITH STROKE,,HA WITH DESCENDER"),
    (0x4B7, "CHE WITH DESCENDER,,CHE WITH VERTICAL STROKE,,SHHA,,ABKHASIAN CHE"),
    (0x4BF, "ABKHASIAN CHE WITH DESCENDER,,,ZHE WITH BREVE,,KA WITH HOOK,,EL WITH TAIL"),
    (0x4C8, "EN WITH HOOK,,EN WITH TAIL,,KHAKASSIAN CHE,,EM WITH TAIL,PALOCHKA"),
    (0x4D1, "A WITH BREVE,,A WITH DIAERESIS,,,,IE WITH BREVE,,SCHWA,,SCHWA WITH DIAERESIS"),
    (0x4DD, "ZHE WITH DIAERESIS,,ZE WITH DIAERESIS,,ABKHASIAN DZE,,I WITH MACRON"),
    (0x4E5, "I WITH DIAERESIS,,O WITH DIAERESIS,,BARRED O,,BARRED O WITH DIAERESIS"),
    (0x4ED, "E WITH DIAERESIS,,U WITH MACRON,,U WITH DIAERESIS,,U WITH DOUBLE ACUTE"),
    (0x4F5, "CHE WITH DIAERESIS,,GHE WITH DESCENDER,,YERU WITH DIAERESIS"),
    (0x4FB, "GHE WITH STROKE AND HOOK,,HA WITH HOOK,,HA WITH STROKE,,KOMI DE,,KOMI DJE"),
    (0x505, "KOMI ZJE,,KOMI DZJE,,KOMI LJE,,KOMI NJE,,KOMI SJE,,KOMI TJE,,REVERSED ZE"),
    (0x513, "EL WITH HOOK,,LHA,,RHA,,YAE,,QA,,WE,,ALEUT KA,,EL WITH MIDDLE HOOK"),
    (0x523, "EN WITH MIDDLE HOOK,,PE WITH DESCENDER,,SHHA WITH DESCENDER"),
    (0x529, "EN WITH LEFT HOOK,,DZZHE,,DCHE,,EL WITH DESCENDER"),
    (0x1C80, "ROUNDED VE,LONG-LEGGED DE,NARROW O,WIDE ES,TALL TE,THREE-LEGGED TE"),
    (0x1C86, "TALL HARD SIGN,TALL YAT,UNBLENDED UK"),
    (0xA641, "ZEMLYA,,DZELO,,REVERSED DZE,,IOTA,,DJERV,,MONOGRAPH UK,,BROAD OMEGA"),
    (0xA64F, "NEUTRAL YER,,YERU WITH BACK YER,,IOTIFIED YAT,,REVERSED YU,,IOTIFIED A"),
    (0xA659, "CLOSED LITTLE YUS,,BLENDED YUS,,IOTIFIED CLOSED LITTLE YUS,,YN,,REVERSED TSE"),
    (0xA663, "SOFT DE,,SOFT EL,,SOFT EM,,MONOCULAR O,,BINOCULAR O,,DOUBLE MONOCULAR O"),
    (0xA681, "DWE,,DZWE,,ZHWE,,CCHE,,DZZE,,TE WITH MIDDLE HOOK,,TWE,,TSWE,,TSSE,,TCHE,,HWE"),
    (0xA697, "SHWE,,DOUBLE O,,CROSSED O")]⟩,
  ⟨"CYRILLIC ", [(0x482, "THOUSANDS SIGN"),
    (0x4A4, "CAPITAL LIGATURE EN GHE,SMALL LIGATURE EN GHE"),
    (0x4B4, "CAPITAL LIGATURE TE TSE,SMALL LIGATURE TE TSE"), (0x4C0, "LETTER PALOCHKA"),
    (0x4D4, "CAPITAL LIGATURE A IE,SMALL LIGATURE A IE"), (0x1D2B, "LETTER SMALL CAPITAL EL"),
    (0xA66E, "LETTER MULTIOCULAR O"), (0xA67E, "KAVYKA,PAYEROK")]⟩,
  ⟨"COMBINING CYRILLIC ", [(0x483, "TITLO,PALATALIZATION,DASIA PNEUMATA,PSILI PNEUMATA,POKRYTIE"),
    (0x488, "HUNDRED THOUSANDS SIGN,MILLIONS SIGN"),
    (0xA66F, "VZMET,TEN MILLIONS SIGN,HUNDRED MILLIONS SIGN,THOUSAND MILLIONS SIGN"),
    (0xA67C, "KAVYKA,PAYEROK"), (0xFE2E, "TITLO LEFT HALF,TITLO RIGHT HALF")]⟩,
  ⟨"ARMENIAN CAPITAL LETTER ",
    [(0x531, "AYB,BEN,GIM,DA,ECH,ZA,EH,ET,TO,ZHE,INI,LIWN,XEH,CA,KEN,HO,JA,GHAD,CHEH,MEN,YI"),
    (0x546, "NOW,SHA,VO,CHA,PEH,JHEH,RA,SEH,VEW,TIWN,REH,CO,YIWN,PIWR,KEH,OH,FEH")]⟩,
  ⟨"ARMENIAN ",
    [(0x559, "MODIFIER LETTER LEFT HALF RING,APOSTROPHE,EMPHASIS MARK,EXCLAMATION MARK"),
    (0x55D, "COMMA,QUESTION MARK,ABBREVIATION MARK"),
    (0x587, "SMALL LIGATURE ECH YIWN,,FULL STOP,HYPHEN,,,,,DRAM SIGN"),
    (0xFB13, "SMALL LIGATURE MEN NOW,SMALL LIGATURE MEN ECH,SMALL LIGATURE MEN INI"),
    (0xFB16, "SMALL LIGATURE VEW NOW,SMALL LIGATURE MEN XEH")]⟩,
  ⟨"ARMENIAN SMALL LETTER ",
    [(0x560, "TURNED AYB,AYB,BEN,GIM,DA,ECH,ZA,EH,ET,TO,ZHE,INI,LIWN,XEH,CA,KEN,HO,JA,GHAD"),
    (0x573, "CHEH,MEN,YI,NOW,SHA,VO,CHA,PEH,JHEH,RA,SEH,VEW,TIWN,REH,CO,YIWN,PIWR,KEH,OH"),
    (0x586, "FEH,,YI WITH STROKE")]⟩,
  ⟨"GEORGIAN CAPITAL LETTER ",
    [(0x10A0, "AN,BAN,GAN,DON,EN,VIN,ZEN,TAN,IN,KAN,LAS,MAN,NAR,ON,PAR,ZHAR,RAE,SAN,TAR,UN"),
    (0x10B4, "PHAR,KHAR,GHAN,QAR,SHIN,CHIN,CAN,JIL,CIL,CHAR,XAN,JHAN,HAE,HE,HIE,WE,HAR,HOE"),
    (0x10C7, "YN,,,,,,AEN")]⟩,
  ⟨"GEORGIAN LETTER ",
    [(0x10D0, "AN,BAN,GAN,DON,EN,VIN,ZEN,TAN,IN,KAN,LAS,MAN,NAR,ON,PAR,ZHAR,RAE,SAN,TAR,UN"),
    (0x10E4, "PHAR,KHAR,GHAN,QAR,SHIN,CHIN,CAN,JIL,CIL,CHAR,XAN,JHAN,HAE,HE,HIE,WE,HAR,HOE"),
    (0x10F6, "FI,YN,ELIFI,TURNED GAN,AIN,,,AEN,HARD SIGN,LABIAL SIGN")]⟩,
  ⟨"OGHAM LETTER ",
    [(0x1681, "BEITH,LUIS,FEARN,SAIL,NION,UATH,DAIR,TINNE,COLL,CEIRT,MUIN,GORT,NGEADAL"),
    (0x168E, "STRAIF,RUIS,AILM,ONN,UR,EADHADH,IODHADH,EABHADH,OR,UILLEANN,IFIN,EAMHANCHOLL"),
    (0x169A, "PEITH")]⟩,
  ⟨"RUNIC LETTER ",
    [(0x16A0, "FEHU FEOH FE F,V,URUZ UR U,YR,Y,W,THURISAZ THURS THORN,ETH,ANSUZ A,OS O,AC A"),
    (0x16AB, "AESC,,,O,OE,ON,RAIDO RAD REID R,KAUNA,CEN,KAUN K,G,ENG,GEBO GYFU G,GAR"),
    (0x16B9, "WUNJO WYNN W,HAGLAZ H,HAEGL H,,,NAUDIZ NYD NAUD N,,DOTTED-N,ISAZ IS ISS I,E"),
    (0x16C3, "JERAN J,GER,,,IWAZ EOH,PERTHO PEORTH P,ALGIZ EOLHX,SOWILO S"),
    (0x16CB, "SIGEL LONG-BRANCH-SOL S,,C,Z,TIWAZ TIR TYR T,,D,BERKANAN BEORC BJARKAN B"),
    (0x16D4, "DOTTED-P,OPEN-P,EHWAZ EH E,MANNAZ MAN M,,,LAUKAZ LAGU LOGR L,DOTTED-L,INGWAZ"),
    (0x16DD, "ING,DAGAZ DAEG D,OTHALAN ETHEL O,EAR,IOR,CWEORTH,CALC,CEALC,STAN"),
    (0x16E8, "ICELANDIC-YR,Q,X,,,,,,,K,SH,OO")]⟩,
  ⟨"RUNIC LETTER LONG-BRANCH-", [(0x16AC, "OSS O"), (0x16BC, "HAGALL H,,,,,,,,,AR AE"),
    (0x16D8, "MADR M"), (0x16E6, "YR")]⟩,
  ⟨"RUNIC LETTER SHORT-TWIG-", [(0x16AD, "OSS O"),
    (0x16BD, "HAGALL H,,NAUD N,,,,,,,AR A,,,,,,SOL S,,,,TYR T,,,BJARKAN B,,,,,,MADR M"),
    (0x16E7, "YR")]⟩,
  ⟨"RUNIC LETTER FRANKS CASKET ", [(0x16F4, "OS,IS,EH,AC,AESC")]⟩,
  ⟨"GEORGIAN MTAVRULI CAPITAL LETTER ",
    [(0x1C90, "AN,BAN,GAN,DON,EN,VIN,ZEN,TAN,IN,KAN,LAS,MAN,NAR,ON,PAR,ZHAR,RAE,SAN,TAR,UN"),
    (0x1CA4, "PHAR,KHAR,GHAN,QAR,SHIN,CHIN,CAN,JIL,CIL,CHAR,XAN,JHAN,HAE,HE,HIE,WE,HAR,HOE"),
    (0x1CB6, "FI,YN,ELIFI,TURNED GAN,AIN,,,AEN,HARD SIGN,LABIAL SIGN")]⟩,
  ⟨"GREEK LETTER SMALL CAPITAL ", [(0x1D26, "GAMMA,LAMDA,PI,RHO,PSI"), (0xAB65, "OMEGA")]⟩,
  ⟨"MODIFIER LETTER CAPITAL ",
    [(0x1D2C, "A,AE,B,BARRED B,D,E,REVERSED E,G,H,I,J,K,L,M,N,REVERSED N,O,OU,P,R,T,U,W"),
    (0x2C7D, "V"), (0xA7F2, "C,F,Q,,,,H WITH STROKE")]⟩,
  ⟨"GREEK SUBSCRIPT SMALL LETTER ", [(0x1D66, "BETA,GAMMA,RHO,PHI,CHI")]⟩,
  ⟨"LATIN SMALL LETTER X WITH ", [(0x1D8D, "PALATAL HOOK"), (0x1E8B, "DOT ABOVE,,DIAERESIS"),
    (0xAB56, "LOW RIGHT RING,LONG LEFT LEG,LONG LEFT LEG AND LOW RIGHT RING"),
    (0xAB59, "LONG LEFT LEG WITH SERIF")]⟩,
  ⟨"COMBINING LATIN LETTER SMALL CAPITAL ", [(0x1DDB, "G,,,L,M,,N,R")]⟩,
  ⟨"GLAGOLITIC CAPITAL LETTER ",
    [(0x2C00, "AZU,BUKY,VEDE,GLAGOLI,DOBRO,YESTU,ZHIVETE,DZELO,ZEMLJA,IZHE,INITIAL IZHE,I"),
    (0x2C0C, "DJERVI,KAKO,LJUDIJE,MYSLITE,NASHI,ONU,POKOJI,RITSI,SLOVO,TVRIDO,UKU,FRITU"),
    (0x2C18, "HERU,OTU,PE,SHTA,TSI,CHRIVI,SHA,YERU,YERI,YATI,SPIDERY HA,YU,SMALL YUS"),
    (0x2C25, "SMALL YUS WITH TAIL,YO,IOTATED SMALL YUS,BIG YUS,IOTATED BIG YUS,FITA,IZHITSA"),
    (0x2C2C, "SHTAPIC,TROKUTASTI A,LATINATE MYSLITE,CAUDATE CHRIVI")]⟩,
  ⟨"GLAGOLITIC SMALL LETTER ",
    [(0x2C30, "AZU,BUKY,VEDE,GLAGOLI,DOBRO,YESTU,ZHIVETE,DZELO,ZEMLJA,IZHE,INITIAL IZHE,I"),
    (0x2C3C, "DJERVI,KAKO,LJUDIJE,MYSLITE,NASHI,ONU,POKOJI,RITSI,SLOVO,TVRIDO,UKU,FRITU"),
    (0x2C48, "HERU,OTU,PE,SHTA,TSI,CHRIVI,SHA,YERU,YERI,YATI,SPIDERY HA,YU,SMALL YUS"),
    (0x2C55, "SMALL YUS WITH TAIL,YO,IOTATED SMALL YUS,BIG YUS,IOTATED BIG YUS,FITA,IZHITSA"),
    (0x2C5C, "SHTAPIC,TROKUTASTI A,LATINATE MYSLITE,CAUDATE CHRIVI")]⟩,
  ⟨"GEORGIAN SMALL LETTER ",
    [(0x2D00, "AN,BAN,GAN,DON,EN,VIN,ZEN,TAN,IN,KAN,LAS,MAN,NAR,ON,PAR,ZHAR,RAE,SAN,TAR,UN"),
    (0x2D14, "PHAR,KHAR,GHAN,QAR,SHIN,CHIN,CAN,JIL,CIL,CHAR,XAN,JHAN,HAE,HE,HIE,WE,HAR,HOE"),
    (0x2D27, "YN,,,,,,AEN")]⟩,
  ⟨"COMBINING CYRILLIC LETTER ",
    [(0x2DE0, "BE,VE,GHE,DE,ZHE,ZE,KA,EL,EM,EN,O,PE,ER,ES,TE,HA,TSE,CHE,SHA,SHCHA,FITA,ES-TE"),
    (0x2DF6, "A,IE,DJERV,MONOGRAPH UK,YAT,YU,IOTIFIED A,LITTLE YUS,BIG YUS,IOTIFIED BIG YUS"),
    (0xA674, "UKRAINIAN IE,I,YI,U,HARD SIGN,YERU,SOFT SIGN,OMEGA"), (0xA69E, "EF,IOTIFIED E")]⟩,
  ⟨"MODIFIER LETTER CHINESE TONE ",
    [(0xA700, "YIN PING,YANG PING,YIN SHANG,YANG SHANG,YIN QU,YANG QU,YIN RU,YANG RU")]⟩,
  ⟨"LATIN EPIGRAPHIC LETTER ",
    [(0xA7F7, "SIDEWAYS I,,,,REVERSED F,REVERSED P,INVERTED M,I LONGA,ARCHAIC M")]⟩,
  ⟨"LINEAR B SYLLABLE ",
    [(0x10000, "B008 A,B038 E,B028 I,B061 O,B010 U,B001 DA,B045 DE,B007 DI,B014 DO,B051 DU"),
    (0x1000A, "B057 JA,B046 JE,,B036 JO,B065 JU,B077 KA,B044 KE,B067 KI,B070 KO,B081 KU"),
    (0x10014, "B080 MA,B013 ME,B073 MI,B015 MO,B023 MU,B006 NA,B024 NE,B030 NI,B052 NO"),
    (0x1001D, "B055 NU,B003 PA,B072 PE,B039 PI,B011 PO,B050 PU,B016 QA,B078 QE,B021 QI"),
    (0x10026, "B032 QO,,B060 RA,B027 RE,B053 RI,B002 RO,B026 RU,B031 SA,B009 SE,B041 SI"),
    (0x10030, "B012 SO,B058 SU,B059 TA,B004 TE,B037 TI,B005 TO,B069 TU,B054 WA,B075 WE"),
    (0x10039, "B040 WI,B042 WO,,B017 ZA,B074 ZE,,B020 ZO,B025 A2,B043 A3,B085 AU,B071 DWE"),
    (0x10044, "B090 DWO,B048 NWA,B029 PU2,B062 PTE,B076 RA2,B033 RA3,B068 RO2,B066 TA2"),
    (0x1004C, "B087 TWE,B091 TWO")]⟩,
  ⟨"LINEAR B SYMBOL ",
    [(0x10050, "B018,B019,B022,B034,B047,B049,B056,B063,B064,B079,B082,B083,B086,B089")]⟩,
  ⟨"LINEAR B IDEOGRAM ",
    [(0x10080, "B100 MAN,B102 WOMAN,B104 DEER,B105 EQUID,B105F MARE,B105M STALLION,B106F EWE"),
    (0x10087, "B106M RAM,B107F SHE-GOAT,B107M HE-GOAT,B108F SOW,B108M BOAR,B109F COW"),
    (0x1008D, "B109M BULL,B120 WHEAT,B121 BARLEY,B122 OLIVE,B123 SPICE,B125 CYPERUS"),
    (0x10095, "B130 OIL,B131 WINE,B132,,,B140 BRONZE,B141 GOLD,B142,B145 WOOL,B146,B150"),
    (0x100A0, "B151 HORN,B152,B153,B154,,B157,B158,B159 CLOTH,B160,B161,B162 GARMENT"),
    (0x100AB, "B163 ARMOUR,B164,B165,B166,B167,B168,B169,B170,B171,B172,B173 MONTH,B174"),
    (0x100B7, "B176 TREE,B177,B178,B179,B180,B181,B182,B183,B184,B185,B189,B190,B191 HELMET"),
    (0x100C4, "B220 FOOTSTOOL,B225 BATHTUB,B230 SPEAR,B231 ARROW,B232,B233 SWORD,B234,B236"),
    (0x100CC, "B240 WHEELED CHARIOT,B241 CHARIOT,B242 CHARIOT FRAME,B243 WHEEL,B245,B246"),
    (0x100D3, "B248,B249,B251,B252,B253,B254 DART,B255,B256,B257,B258,B259")]⟩,
  ⟨"LINEAR B MONOGRAM ", [(0x10093, "B127 KAPO,B128 KANAKO,,,,B133 AREPA,B135 MERI"),
    (0x100A4, "B156 TURO2"), (0x100D2, "B247 DIPTE")]⟩,
  ⟨"LINEAR B IDEOGRAM VESSEL ",
    [(0x100DE, "B155,B200,B201,B202,B203,B204,B205,B206,B207,B208,B209,B210,B211,B212,B213"),
    (0x100ED, "B214,B215,B216,B217,B218,B219,B221,B222,B226,B227,B228,B229,B250,B305")]⟩,
  ⟨"AEGEAN ", [(0x10100, "WORD SEPARATOR LINE,WORD SEPARATOR DOT,CHECK MARK"),
    (0x10137, "WEIGHT BASE UNIT,WEIGHT FIRST SUBUNIT,WEIGHT SECOND SUBUNIT"),
    (0x1013A, "WEIGHT THIRD SUBUNIT,WEIGHT FOURTH SUBUNIT,DRY MEASURE FIRST SUBUNIT"),
    (0x1013D, "LIQUID MEASURE FIRST SUBUNIT,MEASURE SECOND SUBUNIT,MEASURE THIRD SUBUNIT")]⟩,
  ⟨"AEGEAN NUMBER ",
    [(0x10107, "ONE,TWO,THREE,FOUR,FIVE,SIX,SEVEN,EIGHT,NINE,TEN,TWENTY,THIRTY,FORTY,FIFTY"),
    (0x10115, "SIXTY,SEVENTY,EIGHTY,NINETY,ONE HUNDRED,TWO HUNDRED,THREE HUNDRED"),
    (0x1011C, "FOUR HUNDRED,FIVE HUNDRED,SIX HUNDRED,SEVEN HUNDRED,EIGHT HUNDRED"),
    (0x10121, "NINE HUNDRED,ONE THOUSAND,TWO THOUSAND,THREE THOUSAND,FOUR THOUSAND"),
    (0x10126, "FIVE THOUSAND,SIX THOUSAND,SEVEN THOUSAND,EIGHT THOUSAND,NINE THOUSAND"),
    (0x1012B, "TEN THOUSAND,TWENTY THOUSAND,THIRTY THOUSAND,FORTY THOUSAND,FIFTY THOUSAND"),
    (0x10130, "SIXTY THOUSAND,SEVENTY THOUSAND,EIGHTY THOUSAND,NINETY THOUSAND")]⟩,
  ⟨"GREEK ACROPHONIC ATTIC ",
    [(0x10140, "ONE QUARTER,ONE HALF,ONE DRACHMA,FIVE,FIFTY,FIVE HUNDRED,FIVE THOUSAND"),
    (0x10147, "FIFTY THOUSAND,FIVE TALENTS,TEN TALENTS,FIFTY TALENTS,ONE HUNDRED TALENTS"),
    (0x1014C, "FIVE HUNDRED TALENTS,ONE THOUSAND TALENTS,FIVE THOUSAND TALENTS,FIVE STATERS"),
    (0x10150, "TEN STATERS,FIFTY STATERS,ONE HUNDRED STATERS,FIVE HUNDRED STATERS"),
    (0x10154, "ONE THOUSAND STATERS,TEN THOUSAND STATERS,FIFTY THOUSAND STATERS,TEN MNAS")]⟩,
  ⟨"GREEK ACROPHONIC ",
    [(0x10158, "HERAEUM ONE PLETHRON,THESPIAN ONE,HERMIONIAN ONE,EPIDAUREAN TWO,THESPIAN TWO"),
    (0x1015D, "CYRENAIC TWO DRACHMAS,EPIDAUREAN TWO DRACHMAS,TROEZENIAN FIVE,TROEZENIAN TEN"),
    (0x10161, "TROEZENIAN TEN ALTERNATE FORM,HERMIONIAN TEN,MESSENIAN TEN,THESPIAN TEN"),
    (0x10165, "THESPIAN THIRTY,TROEZENIAN FIFTY,TROEZENIAN FIFTY ALTERNATE FORM"),
    (0x10168, "HERMIONIAN FIFTY,THESPIAN FIFTY,THESPIAN ONE HUNDRED,THESPIAN THREE HUNDRED"),
    (0x1016C, "EPIDAUREAN FIVE HUNDRED,TROEZENIAN FIVE HUNDRED,THESPIAN FIVE HUNDRED"),
    (0x1016F, "CARYSTIAN FIVE HUNDRED,NAXIAN FIVE HUNDRED,THESPIAN ONE THOUSAND"),
    (0x10172, "THESPIAN FIVE THOUSAND,DELPHIC FIVE MNAS,STRATIAN FIFTY MNAS")]⟩,
  ⟨"ROMAN ", [(0x10190, "SEXTANS SIGN,UNCIA SIGN,SEMUNCIA SIGN,SEXTULA SIGN,DIMIDIA SEXTULA SIGN"),
    (0x10195, "SILIQUA SIGN,DENARIUS SIGN,QUINARIUS SIGN,SESTERTIUS SIGN,DUPONDIUS SIGN"),
    (0x1019A, "AS SIGN,CENTURIAL SIGN")]⟩,
  ⟨"PHAISTOS DISC SIGN ",
    [(0x101D0, "PEDESTRIAN,PLUMED HEAD,TATTOOED HEAD,CAPTIVE,CHILD,WOMAN,HELMET,GAUNTLET"),
    (0x101D8, "TIARA,ARROW,BOW,SHIELD,CLUB,MANACLES,MATTOCK,SAW,LID,BOOMERANG"),
    (0x101E2, "CARPENTRY PLANE,DOLIUM,COMB,SLING,COLUMN,BEEHIVE,SHIP,HORN,HIDE,BULLS LEG,CAT"),
    (0x101ED, "RAM,EAGLE,DOVE,TUNNY,BEE,PLANE TREE,VINE,PAPYRUS,ROSETTE,LILY,OX BACK,FLUTE"),
    (0x101F9, "GRATER,STRAINER,SMALL AXE,WAVY BAND,COMBINING OBLIQUE STROKE")]⟩,
  ⟨"LYCIAN LETTER ",
    [(0x10280, "A,E,B,BH,G,D,I,W,Z,TH,J,K,Q,L,M,N,MM,NN,U,P,KK,R,S,T,TT,AN,EN,H,X")]⟩,
  ⟨"CARIAN LETTER ",
    [(0x102A0, "A,P2,D,L,UUU,R,LD,A2,Q,B,M,O,D2,T,SH,SH2,S,C-18,U,NN,X,N,TT2,P,SS,I,E,UUUU,K"),
    (0x102BD, "K2,ND,UU,G,G2,ST,ST2,NG,II,C-39,TT,UUU2,RR,MB,MB2,MB3,MB4,LD2,E2,UUU3")]⟩,
  ⟨"COPTIC EPACT ",
    [(0x102E0, "THOUSANDS MARK,DIGIT ONE,DIGIT TWO,DIGIT THREE,DIGIT FOUR,DIGIT FIVE"),
    (0x102E6, "DIGIT SIX,DIGIT SEVEN,DIGIT EIGHT,DIGIT NINE")]⟩,
  ⟨"COPTIC EPACT NUMBER ",
    [(0x102EA, "TEN,TWENTY,THIRTY,FORTY,FIFTY,SIXTY,SEVENTY,EIGHTY,NINETY,ONE HUNDRED"),
    (0x102F4, "TWO HUNDRED,THREE HUNDRED,FOUR HUNDRED,FIVE HUNDRED,SIX HUNDRED,SEVEN HUNDRED"),
    (0x102FA, "EIGHT HUNDRED,NINE HUNDRED")]⟩,
  ⟨"OLD ITALIC LETTER ",
    [(0x10300, "A,BE,KE,DE,E,VE,ZE,HE,THE,I,KA,EL,EM,EN,ESH,O,PE,SHE,KU,ER,ES,TE,U,EKS,PHE"),
    (0x10319, "KHE,EF,ERS,CHE,II,UU,ESS"), (0x1032D, "YE,NORTHERN TSE,SOUTHERN TSE")]⟩,
  ⟨"GOTHIC LETTER ",
    [(0x10330, "AHSA,BAIRKAN,GIBA,DAGS,AIHVUS,QAIRTHRA,IUJA,HAGL,THIUTH,EIS,KUSMA,LAGUS,MANNA"),
    (0x1033D, "NAUTHS,JER,URUS,PAIRTHRA,NINETY,RAIDA,SAUIL,TEIWS,WINJA,FAIHU,IGGWS,HWAIR"),
    (0x10349, "OTHAL,NINE HUNDRED")]⟩,
  ⟨"OLD PERMIC LETTER ",
    [(0x10350, "AN,BUR,GAI,DOI,E,ZHOI,DZHOI,ZATA,DZITA,I,KOKE,LEI,MENOE,NENOE,VOOI,PEEI,REI"),
    (0x10361, "SII,TAI,U,CHERY,SHOOI,SHCHOOI,YRY,YERU,O,OO,EF,HA,TSIU,VER,YER,YERI,YAT,IE,YU"),
    (0x10374, "YA,IA")]⟩,
  ⟨"COMBINING OLD PERMIC LETTER ", [(0x10376, "AN,DOI,ZATA,NENOE,SII")]⟩,
  ⟨"UGARITIC LETTER ",
    [(0x10380, "ALPA,BETA,GAMLA,KHA,DELTA,HO,WO,ZETA,HOTA,TET,YOD,KAF,SHIN,LAMDA,MEM,DHAL,NUN"),
    (0x10391, "ZU,SAMKA,AIN,PU,SADE,QOPA,RASHA,THANNA,GHAIN,TO,I,U,SSU")]⟩,
  ⟨"OLD PERSIAN SIGN ",
    [(0x103A0, "A,I,U,KA,KU,GA,GU,XA,CA,JA,JI,TA,TU,DA,DI,DU,THA,PA,BA,FA,NA,NU,MA,MI,MU,YA"),
    (0x103BA, "VA,VI,RA,RU,LA,SA,ZA,SHA,SSA,HA,,,,,AURAMAZDAA,AURAMAZDAA-2,AURAMAZDAAHA"),
    (0x103CB, "XSHAAYATHIYA,DAHYAAUSH,DAHYAAUSH-2,BAGA,BUUMISH")]⟩,
  ⟨"OLD PERSIAN ",
    [(0x103D0, "WORD DIVIDER,NUMBER ONE,NUMBER TWO,NUMBER TEN,NUMBER TWENTY,NUMBER HUNDRED")]⟩,
  ⟨"DESERET CAPITAL LETTER ",
    [(0x10400, "LONG I,LONG E,LONG A,LONG AH,LONG O,LONG OO,SHORT I,SHORT E,SHORT A,SHORT AH"),
    (0x1040A, "SHORT O,SHORT OO,AY,OW,WU,YEE,H,PEE,BEE,TEE,DEE,CHEE,JEE,KAY,GAY,EF,VEE,ETH"),
    (0x1041C, "THEE,ES,ZEE,ESH,ZHEE,ER,EL,EM,EN,ENG,OI,EW")]⟩,
  ⟨"DESERET SMALL LETTER ",
    [(0x10428, "LONG I,LONG E,LONG A,LONG AH,LONG O,LONG OO,SHORT I,SHORT E,SHORT A,SHORT AH"),
    (0x10432, "SHORT O,SHORT OO,AY,OW,WU,YEE,H,PEE,BEE,TEE,DEE,CHEE,JEE,KAY,GAY,EF,VEE,ETH"),
    (0x10444, "THEE,ES,ZEE,ESH,ZHEE,ER,EL,EM,EN,ENG,OI,EW")]⟩,
  ⟨"ELBASAN LETTER ",
    [(0x10500, "A,BE,CE,CHE,DE,NDE,DHE,EI,E,FE,GE,GJE,HE,I,JE,KE,LE,LLE,ME,NE,NA,NJE,O,PE,QE"),
    (0x10519, "RE,RRE,SE,SHE,TE,THE,U,VE,XE,Y,ZE,ZHE,GHE,GHAMMA,KHE")]⟩,
  ⟨"CAUCASIAN ALBANIAN LETTER ",
    [(0x10530, "ALT,BET,GIM,DAT,EB,ZARL,EYN,ZHIL,TAS,CHA,YOWD,ZHA,IRB,SHA,LAN,INYA,XEYN,DYAN"),
    (0x10542, "CAR,JHOX,KAR,LYIT,HEYT,QAY,AOR,CHOY,CHI,CYAY,MAQ,QAR,NOWC,DZYAY,SHAK,JAYN,ON"),
    (0x10553, "TYAY,FAM,DZAY,CHAT,PEN,GHEYS,RAT,SEYK,VEYZ,TIWR,SHOY,IWN,CYAW,CAYN,YAYD,PIWR"),
    (0x10563, "KIW")]⟩,
  ⟨"VITHKUQI CAPITAL LETTER ",
    [(0x10570, "A,BBE,BE,CE,CHE,DE,DHE,EI,E,FE,GA,,HA,HHA,I,IJE,JE,KA,LA,LLA,ME,NE,NJE,O,PE"),
    (0x10589, "QA,RE,,SE,SHE,TE,THE,U,VE,XE,,Y,ZE")]⟩,
  ⟨"VITHKUQI SMALL LETTER ",
    [(0x10597, "A,BBE,BE,CE,CHE,DE,DHE,EI,E,FE,GA,,HA,HHA,I,IJE,JE,KA,LA,LLA,ME,NE,NJE,O,PE"),
    (0x105B0, "QA,RE,,SE,SHE,TE,THE,U,VE,XE,,Y,ZE")]⟩,
  ⟨"LINEAR A SIGN ",
    [(0x10600, "AB001,AB002,AB003,AB004,AB005,AB006,AB007,AB008,AB009,AB010,AB011,AB013,AB016"),
    (0x1060D, "AB017,AB020,AB021,AB021F,AB021M,AB022,AB022F,AB022M,AB023,AB023M,AB024,AB026"),
    (0x10619, "AB027,AB028,A028B,AB029,AB030,AB031,AB034,AB037,AB038,AB039,AB040,AB041,AB044"),
    (0x10626, "AB045,AB046,AB047,AB048,AB049,AB050,AB051,AB053,AB054,AB055,AB056,AB057,AB058"),
    (0x10633, "AB059,AB060,AB061,AB065,AB066,AB067,AB069,AB070,AB073,AB074,AB076,AB077,AB078"),
    (0x10640, "AB079,AB080,AB081,AB082,AB085,AB086,AB087,A100-102,AB118,AB120,A120B,AB122"),
    (0x1064C, "AB123,AB131A,AB131B,A131C,AB164,AB171,AB180,AB188,AB191,A301,A302,A303,A304"),
    (0x10659, "A305,A306,A307,A308,A309A,A309B,A309C,A310,A311,A312,A313A,A313B,A313C,A314"),
    (0x10667, "A315,A316,A317,A318,A319,A320,A321,A322,A323,A324,A325,A326,A327,A328,A329"),
    (0x10676, "A330,A331,A332,A333,A334,A335,A336,A337,A338,A339,A340,A341,A342,A343,A344"),
    (0x10685, "A345,A346,A347,A348,A349,A350,A351,A352,A353,A354,A355,A356,A357,A358,A359"),
    (0x10694, "A360,A361,A362,A363,A364,A365,A366,A367,A368,A369,A370,A371,A400-VAS,A401-VAS"),
    (0x106A2, "A402-VAS,A403-VAS,A404-VAS,A405-VAS,A406-VAS,A407-VAS,A408-VAS,A409-VAS"),
    (0x106AA, "A410-VAS,A411-VAS,A412-VAS,A413-VAS,A414-VAS,A415-VAS,A416-VAS,A417-VAS"),
    (0x106B2, "A418-VAS,A501,A502,A503,A504,A505,A506,A508,A509,A510,A511,A512,A513,A515"),
    (0x106C0, "A516,A520,A521,A523,A524,A525,A526,A527,A528,A529,A530,A531,A532,A534,A535"),
    (0x106CF, "A536,A537,A538,A539,A540,A541,A542,A545,A547,A548,A549,A550,A551,A552,A553"),
    (0x106DE, "A554,A555,A556,A557,A559,A563,A564,A565,A566,A568,A569,A570,A571,A572,A573"),
    (0x106ED, "A574,A575,A576,A577,A578,A579,A580,A581,A582,A583,A584,A585,A586,A587,A588"),
    (0x106FC, "A589,A591,A592,A594,A595,A596,A598,A600,A601,A602,A603,A604,A606,A608,A609"),
    (0x1070B, "A610,A611,A612,A613,A614,A615,A616,A617,A618,A619,A620,A621,A622,A623,A624"),
    (0x1071A, "A626,A627,A628,A629,A634,A637,A638,A640,A642,A643,A644,A645,A646,A648,A649"),
    (0x10729, "A651,A652,A653,A654,A655,A656,A657,A658,A659,A660,A661,A662,A663,A664"),
    (0x10740, "A701 A,A702 B,A703 D,A704 E,A705 F,A706 H,A707 J,A708 K,A709 L,A709-2 L2"),
    (0x1074A, "A709-3 L3,A709-4 L4,A709-6 L6,A710 W,A711 X,A712 Y,A713 OMEGA,A714 ABB"),
    (0x10752, "A715 BB,A717 DD,A726 EYYY,A732 JE"),
    (0x10760, "A800,A801,A802,A803,A804,A805,A806,A807")]⟩,
  ⟨"CYPRO-MINOAN SIGN ",
    [(0x12F90, "CM001,CM002,CM004,CM005,CM006,CM007,CM008,CM009,CM010,CM011,CM012,CM012B"),
    (0x12F9C, "CM013,CM015,CM017,CM019,CM021,CM023,CM024,CM025,CM026,CM027,CM028,CM029,CM030"),
    (0x12FA9, "CM033,CM034,CM035,CM036,CM037,CM038,CM039,CM040,CM041,CM044,CM046,CM047,CM049"),
    (0x12FB6, "CM050,CM051,CM052,CM053,CM054,CM055,CM056,CM058,CM059,CM060,CM061,CM062,CM063"),
    (0x12FC3, "CM064,CM066,CM067,CM068,CM069,CM070,CM071,CM072,CM073,CM074,CM075,CM075B"),
    (0x12FCF, "CM076,CM078,CM079,CM080,CM081,CM082,CM083,CM084,CM085,CM086,CM087,CM088,CM089"),
    (0x12FDC, "CM090,CM091,CM092,CM094,CM095,CM096,CM097,CM098,CM099,CM100,CM101,CM102,CM103"),
    (0x12FE9, "CM104,CM105,CM107,CM108,CM109,CM110,CM112,CM114,CM301,CM302")]⟩]

end RecordSearch.Text
