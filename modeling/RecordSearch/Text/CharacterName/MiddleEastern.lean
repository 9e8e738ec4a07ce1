import RecordSearch.Text.CharacterName.Family

namespace RecordSearch.Text

/-!
# Names of characters: scripts of the Middle East

The letters and signs of the scripts of the Middle East, but for the wedges of clay tablets.
-/

/-- The names of characters of scripts of the Middle East. -/
def middleEasternNames : List NameFamily := [
  ⟨"", [(0x606, "ARABIC-INDIC CUBE ROOT,ARABIC-INDIC FOURTH ROOT,,ARABIC-INDIC PER MILLE SIGN"),
    (0x60A, "ARABIC-INDIC PER TEN THOUSAND SIGN,AFGHANI SIGN"),
    (0x859, "MANDAIC AFFRICATION MARK,MANDAIC VOCALIZATION MARK,MANDAIC GEMINATION MARK"),
    (0x85E, "MANDAIC PUNCTUATION"), (0xFD3E, "ORNATE LEFT PARENTHESIS,ORNATE RIGHT PARENTHESIS"),
    (0xFDFC, "RIAL SIGN"), (0x1093F, "LYDIAN TRIANGULAR MARK"),
    (0x1099E, "MEROITIC HIEROGLYPHIC SYMBOL VIDJ,MEROITIC HIEROGLYPHIC SYMBOL VIDJ-2"),
    (0x109BE, "MEROITIC CURSIVE LOGOGRAM RMT,MEROITIC CURSIVE LOGOGRAM IMN"),
    (0x10A7D, "OLD SOUTH ARABIAN NUMBER ONE,OLD SOUTH ARABIAN NUMBER FIFTY"),
    (0x10A7F, "OLD SOUTH ARABIAN NUMERIC INDICATOR"),
    (0x10A9D, "OLD NORTH ARABIAN NUMBER ONE,OLD NORTH ARABIAN NUMBER TEN"),
    (0x10A9F, "OLD NORTH ARABIAN NUMBER TWENTY"),
    (0x10B39, "AVESTAN ABBREVIATION MARK,TINY TWO DOTS OVER ONE DOT PUNCTUATION"),
    (0x10E7B, "RUMI FRACTION ONE HALF,RUMI FRACTION ONE QUARTER,RUMI FRACTION ONE THIRD"),
    (0x10E7E, "RUMI FRACTION TWO THIRDS"),
    (0x10EAB, "YEZIDI COMBINING HAMZA MARK,YEZIDI COMBINING MADDA MARK"),
    (0x10EAD, "YEZIDI HYPHENATION MARK"),
    (0x10F26, "OLD SOGDIAN FRACTION ONE HALF,OLD SOGDIAN LIGATURE AYIN-DALETH"),
    (0x10FF6, "ELYMAIC LIGATURE ZAYIN-YODH"), (0x1ED2E, "OTTOMAN SIYAQ MARRATAN"),
    (0x1ED3C, "OTTOMAN SIYAQ FRACTION ONE HALF,OTTOMAN SIYAQ FRACTION ONE SIXTH")]⟩,
  ⟨"HEBREW ACCENT ",
    [(0x591, "ETNAHTA,SEGOL,SHALSHELET,ZAQEF QATAN,ZAQEF GADOL,TIPEHA,REVIA,ZARQA,PASHTA"),
    (0x59A, "YETIV,TEVIR,GERESH,GERESH MUQDAM,GERSHAYIM,QARNEY PARA,TELISHA GEDOLA,PAZER"),
    (0x5A2, "ATNAH HAFUKH,MUNAH,MAHAPAKH,MERKHA,MERKHA KEFULA,DARGA,QADMA,TELISHA QETANA"),
    (0x5AA, "YERAH BEN YOMO,OLE,ILUY,DEHI,ZINOR")]⟩,
  ⟨"HEBREW ", [(0x5AF, "MARK MASORA CIRCLE"),
    (0x5BE, "PUNCTUATION MAQAF,,PUNCTUATION PASEQ,,,PUNCTUATION SOF PASUQ,MARK UPPER DOT"),
    (0x5C5, "MARK LOWER DOT,PUNCTUATION NUN HAFUKHA"),
    (0x5EF, "YOD TRIANGLE,LIGATURE YIDDISH DOUBLE VAV,LIGATURE YIDDISH VAV YOD"),
    (0x5F2, "LIGATURE YIDDISH DOUBLE YOD,PUNCTUATION GERESH,PUNCTUATION GERSHAYIM"),
    (0xFB1F, "LIGATURE YIDDISH YOD YOD PATAH"), (0xFB4F, "LIGATURE ALEF LAMED")]⟩,
  ⟨"HEBREW POINT ",
    [(0x5B0, "SHEVA,HATAF SEGOL,HATAF PATAH,HATAF QAMATS,HIRIQ,TSERE,SEGOL,PATAH,QAMATS"),
    (0x5B9, "HOLAM,HOLAM HASER FOR VAV,QUBUTS,DAGESH OR MAPIQ,METEG,,RAFE,,SHIN DOT"),
    (0x5C2, "SIN DOT,,,,,QAMATS QATAN"), (0xFB1E, "JUDEO-SPANISH VARIKA")]⟩,
  ⟨"HEBREW LETTER ",
    [(0x5D0, "ALEF,BET,GIMEL,DALET,HE,VAV,ZAYIN,HET,TET,YOD,FINAL KAF,KAF,LAMED,FINAL MEM"),
    (0x5DE, "MEM,FINAL NUN,NUN,SAMEKH,AYIN,FINAL PE,PE,FINAL TSADI,TSADI,QOF,RESH,SHIN,TAV"),
    (0xFB1D, "YOD WITH HIRIQ,,,ALTERNATIVE AYIN,WIDE ALEF,WIDE DALET,WIDE HE,WIDE KAF"),
    (0xFB25, "WIDE LAMED,WIDE FINAL MEM,WIDE RESH,WIDE TAV,ALTERNATIVE PLUS SIGN"),
    (0xFB2A, "SHIN WITH SHIN DOT,SHIN WITH SIN DOT,SHIN WITH DAGESH AND SHIN DOT"),
    (0xFB2D, "SHIN WITH DAGESH AND SIN DOT,ALEF WITH PATAH,ALEF WITH QAMATS,ALEF WITH MAPIQ"),
    (0xFB31, "BET WITH DAGESH,GIMEL WITH DAGESH,DALET WITH DAGESH,HE WITH MAPIQ"),
    (0xFB35, "VAV WITH DAGESH,ZAYIN WITH DAGESH,,TET WITH DAGESH,YOD WITH DAGESH"),
    (0xFB3A, "FINAL KAF WITH DAGESH,KAF WITH DAGESH,LAMED WITH DAGESH,,MEM WITH DAGESH"),
    (0xFB40, "NUN WITH DAGESH,SAMEKH WITH DAGESH,,FINAL PE WITH DAGESH,PE WITH DAGESH"),
    (0xFB46, "TSADI WITH DAGESH,QOF WITH DAGESH,RESH WITH DAGESH,SHIN WITH DAGESH"),
    (0xFB4A, "TAV WITH DAGESH,VAV WITH HOLAM,BET WITH RAFE,KAF WITH RAFE,PE WITH RAFE")]⟩,
  ⟨"ARABIC ", [(0x600, "NUMBER SIGN,SIGN SANAH,FOOTNOTE MARKER,SIGN SAFHA,SIGN SAMVAT"),
    (0x605, "NUMBER MARK ABOVE,,,RAY,,,,COMMA,DATE SEPARATOR,POETIC VERSE SIGN,SIGN MISRA"),
    (0x610, "SIGN SALLALLAHOU ALAYHE WASSALLAM,SIGN ALAYHE ASSALLAM"),
    (0x612, "SIGN RAHMATULLAH ALAYHE,SIGN RADI ALLAHOU ANHU,SIGN TAKHALLUS,,,,SMALL FATHA"),
    (0x619, "SMALL DAMMA,SMALL KASRA,SEMICOLON,,END OF TEXT MARK"),
    (0x61E, "TRIPLE DOT PUNCTUATION MARK,QUESTION MARK"), (0x640, "TATWEEL"),
    (0x64B, "FATHATAN,DAMMATAN,KASRATAN,FATHA,DAMMA,KASRA,SHADDA,SUKUN,MADDAH ABOVE"),
    (0x654, "HAMZA ABOVE,HAMZA BELOW,SUBSCRIPT ALEF,INVERTED DAMMA,MARK NOON GHUNNA"),
    (0x659, "ZWARAKAY,VOWEL SIGN SMALL V ABOVE,VOWEL SIGN INVERTED SMALL V ABOVE"),
    (0x65C, "VOWEL SIGN DOT BELOW,REVERSED DAMMA,FATHA WITH TWO DOTS,WAVY HAMZA BELOW"),
    (0x66A, "PERCENT SIGN,DECIMAL SEPARATOR,THOUSANDS SEPARATOR,FIVE POINTED STAR"),
    (0x6D4, "FULL STOP,,,,,,,,,END OF AYAH,START OF RUB EL HIZB,,,,,SMALL LOW SEEN"),
    (0x6E5, "SMALL WAW,SMALL YEH,,,PLACE OF SAJDAH,EMPTY CENTRE LOW STOP"),
    (0x6EB, "EMPTY CENTRE HIGH STOP,ROUNDED HIGH STOP WITH FILLED CENTRE,SMALL LOW MEEM"),
    (0x6FD, "SIGN SINDHI AMPERSAND,SIGN SINDHI POSTPOSITION MEN"),
    (0x883, "TATWEEL WITH OVERSTRUCK HAMZA,TATWEEL WITH OVERSTRUCK WAW"),
    (0x885, "TATWEEL WITH TWO DOTS BELOW,,BASELINE ROUND DOT,RAISED ROUND DOT"),
    (0x88E, "VERTICAL TAIL,,POUND MARK ABOVE,PIASTRE MARK ABOVE"),
    (0x899, "SMALL LOW WORD ISHMAAM,SMALL LOW WORD IMAALA,SMALL LOW WORD TASHEEL"),
    (0x89C, "MADDA WAAJIB,SUPERSCRIPT ALEF MOKHASSAS,DOUBLED MADDA,HALF MADDA OVER MADDA"),
    (0x8C9, "SMALL FARSI YEH,,,,,LARGE ROUND DOT ABOVE,LARGE ROUND DOT BELOW,SUKUN BELOW"),
    (0x8D1, "LARGE CIRCLE BELOW,LARGE ROUND DOT INSIDE CIRCLE BELOW,SMALL LOW WAW"),
    (0x8D9, "SMALL LOW NOON WITH KASRA,,,,,,,,,DISPUTED END OF AYAH,TURNED DAMMA BELOW"),
    (0x8E4, "CURLY FATHA,CURLY DAMMA,CURLY KASRA,CURLY FATHATAN,CURLY DAMMATAN"),
    (0x8E9, "CURLY KASRATAN,TONE ONE DOT ABOVE,TONE TWO DOTS ABOVE,TONE LOOP ABOVE"),
    (0x8ED, "TONE ONE DOT BELOW,TONE TWO DOTS BELOW,TONE LOOP BELOW,OPEN FATHATAN"),
    (0x8F1, "OPEN DAMMATAN,OPEN KASRATAN,,FATHA WITH RING,FATHA WITH DOT ABOVE"),
    (0x8F6, "KASRA WITH DOT BELOW,LEFT ARROWHEAD ABOVE,RIGHT ARROWHEAD ABOVE"),
    (0x8F9, "LEFT ARROWHEAD BELOW,RIGHT ARROWHEAD BELOW,DOUBLE RIGHT ARROWHEAD ABOVE"),
    (0x8FC, "DOUBLE RIGHT ARROWHEAD ABOVE WITH DOT,RIGHT ARROWHEAD ABOVE WITH DOT"),
    (0x8FE, "DAMMA WITH DOT,MARK SIDEWAYS NOON GHUNNA"),
    (0xFE70, "FATHATAN ISOLATED FORM,TATWEEL WITH FATHATAN ABOVE,DAMMATAN ISOLATED FORM"),
    (0xFE73, "TAIL FRAGMENT,KASRATAN ISOLATED FORM,,FATHA ISOLATED FORM,FATHA MEDIAL FORM"),
    (0xFE78, "DAMMA ISOLATED FORM,DAMMA MEDIAL FORM,KASRA ISOLATED FORM,KASRA MEDIAL FORM"),
    (0xFE7C, "SHADDA ISOLATED FORM,SHADDA MEDIAL FORM,SUKUN ISOLATED FORM,SUKUN MEDIAL FORM")]⟩,
  ⟨"ARABIC SMALL HIGH ", [(0x615, "TAH,LIGATURE ALEF WITH LAM WITH YEH,ZAIN"),
    (0x6D6, "LIGATURE SAD WITH LAM WITH ALEF MAKSURA"),
    (0x6D7, "LIGATURE QAF WITH LAM WITH ALEF MAKSURA,MEEM INITIAL FORM,LAM ALEF,JEEM"),
    (0x6DB, "THREE DOTS,SEEN,,,ROUNDED ZERO,UPRIGHT RECTANGULAR ZERO,DOTLESS HEAD OF KHAH"),
    (0x6E2, "MEEM ISOLATED FORM,,MADDA,,,YEH,NOON"), (0x898, "WORD AL-JUZ"),
    (0x8CA, "FARSI YEH,YEH BARREE WITH TWO DOTS BELOW,WORD SAH,ZAH,,,,,,,WORD AR-RUB,SAD"),
    (0x8D6, "AIN,QAF,NOON WITH KASRA,,WORD ATH-THALATHA,WORD AS-SAJDA,WORD AN-NISF"),
    (0x8DD, "WORD SAKTA,WORD QIF,WORD WAQFA,FOOTNOTE MARKER,SIGN SAFHA"), (0x8F3, "WAW")]⟩,
  ⟨"ARABIC LETTER ",
    [(0x61C, "MARK,,,,KASHMIRI YEH,HAMZA,,,WAW WITH HAMZA ABOVE,,YEH WITH HAMZA ABOVE,ALEF"),
    (0x628, "BEH,TEH MARBUTA,TEH,THEH,JEEM,HAH,KHAH,DAL,THAL,REH,ZAIN,SEEN,SHEEN,SAD,DAD"),
    (0x637, "TAH,ZAH,AIN,GHAIN,KEHEH WITH TWO DOTS ABOVE,KEHEH WITH THREE DOTS BELOW"),
    (0x63D, "FARSI YEH WITH INVERTED V,FARSI YEH WITH TWO DOTS ABOVE"),
    (0x63F, "FARSI YEH WITH THREE DOTS ABOVE,,FEH,QAF,KAF,LAM,MEEM,NOON,HEH,WAW"),
    (0x649, "ALEF MAKSURA,YEH"),
    (0x66E, "DOTLESS BEH,DOTLESS QAF,SUPERSCRIPT ALEF,ALEF WASLA,,,HIGH HAMZA"),
    (0x675, "HIGH HAMZA ALEF,HIGH HAMZA WAW,U WITH HAMZA ABOVE,HIGH HAMZA YEH,TTEH,TTEHEH"),
    (0x67B, "BEEH,TEH WITH RING,TEH WITH THREE DOTS ABOVE DOWNWARDS,PEH,TEHEH,BEHEH"),
    (0x681, "HAH WITH HAMZA ABOVE,HAH WITH TWO DOTS VERTICAL ABOVE,NYEH,DYEH"),
    (0x685, "HAH WITH THREE DOTS ABOVE,TCHEH,TCHEHEH,DDAL,DAL WITH RING,DAL WITH DOT BELOW"),
    (0x68B, "DAL WITH DOT BELOW AND SMALL TAH,DAHAL,DDAHAL,DUL"),
    (0x68F, "DAL WITH THREE DOTS ABOVE DOWNWARDS,DAL WITH FOUR DOTS ABOVE,RREH,,,,,,,JEH"),
    (0x69A, "SEEN WITH DOT BELOW AND DOT ABOVE,SEEN WITH THREE DOTS BELOW"),
    (0x69C, "SEEN WITH THREE DOTS BELOW AND THREE DOTS ABOVE,SAD WITH TWO DOTS BELOW"),
    (0x69E, "SAD WITH THREE DOTS ABOVE,TAH WITH THREE DOTS ABOVE,AIN WITH THREE DOTS ABOVE"),
    (0x6A1, "DOTLESS FEH,FEH WITH DOT MOVED BELOW,FEH WITH DOT BELOW,VEH"),
    (0x6A5, "FEH WITH THREE DOTS BELOW,PEHEH,QAF WITH DOT ABOVE,QAF WITH THREE DOTS ABOVE"),
    (0x6A9, "KEHEH,SWASH KAF,KAF WITH RING,KAF WITH DOT ABOVE,NG,KAF WITH THREE DOTS BELOW"),
    (0x6AF, "GAF,GAF WITH RING,NGOEH,GAF WITH TWO DOTS BELOW,GUEH"),
    (0x6B4, "GAF WITH THREE DOTS ABOVE,LAM WITH SMALL V,LAM WITH DOT ABOVE"),
    (0x6B7, "LAM WITH THREE DOTS ABOVE,LAM WITH THREE DOTS BELOW,NOON WITH DOT BELOW"),
    (0x6BA, "NOON GHUNNA,RNOON,NOON WITH RING,NOON WITH THREE DOTS ABOVE,HEH DOACHASHMEE"),
    (0x6BF, "TCHEH WITH DOT ABOVE,HEH WITH YEH ABOVE,HEH GOAL,HEH GOAL WITH HAMZA ABOVE"),
    (0x6C3, "TEH MARBUTA GOAL,WAW WITH RING,KIRGHIZ OE,OE,U,YU,KIRGHIZ YU"),
    (0x6CA, "WAW WITH TWO DOTS ABOVE,VE,FARSI YEH,YEH WITH TAIL,YEH WITH SMALL V"),
    (0x6CF, "WAW WITH DOT ABOVE,E,YEH WITH THREE DOTS BELOW,YEH BARREE"),
    (0x6D3, "YEH BARREE WITH HAMZA ABOVE,,AE"), (0x6EE, "DAL WITH INVERTED V"),
    (0x6FA, "SHEEN WITH DOT BELOW,DAD WITH DOT BELOW,GHAIN WITH DOT BELOW"),
    (0x6FF, "HEH WITH INVERTED V"), (0x750, "BEH WITH THREE DOTS HORIZONTALLY BELOW"),
    (0x751, "BEH WITH DOT BELOW AND THREE DOTS ABOVE"),
    (0x752, "BEH WITH THREE DOTS POINTING UPWARDS BELOW"),
    (0x753, "BEH WITH THREE DOTS POINTING UPWARDS BELOW AND TWO DOTS ABOVE"),
    (0x754, "BEH WITH TWO DOTS BELOW AND DOT ABOVE,BEH WITH INVERTED SMALL V BELOW"),
    (0x756, "BEH WITH SMALL V,HAH WITH TWO DOTS ABOVE"),
    (0x758, "HAH WITH THREE DOTS POINTING UPWARDS BELOW"),
    (0x759, "DAL WITH TWO DOTS VERTICALLY BELOW AND SMALL TAH"),
    (0x75A, "DAL WITH INVERTED SMALL V BELOW,,SEEN WITH FOUR DOTS ABOVE"),
    (0x75D, "AIN WITH TWO DOTS ABOVE,AIN WITH THREE DOTS POINTING DOWNWARDS ABOVE"),
    (0x75F, "AIN WITH TWO DOTS VERTICALLY ABOVE,FEH WITH TWO DOTS BELOW"),
    (0x761, "FEH WITH THREE DOTS POINTING UPWARDS BELOW,KEHEH WITH DOT ABOVE"),
    (0x763, "KEHEH WITH THREE DOTS ABOVE,KEHEH WITH THREE DOTS POINTING UPWARDS BELOW"),
    (0x765, "MEEM WITH DOT ABOVE,MEEM WITH DOT BELOW,NOON WITH TWO DOTS BELOW"),
    (0x768, "NOON WITH SMALL TAH,NOON WITH SMALL V,LAM WITH BAR"),
    (0x76D, "SEEN WITH TWO DOTS VERTICALLY ABOVE,HAH WITH SMALL ARABIC LETTER TAH BELOW"),
    (0x76F, "HAH WITH SMALL ARABIC LETTER TAH AND TWO DOTS"),
    (0x770, "SEEN WITH SMALL ARABIC LETTER TAH AND TWO DOTS"),
    (0x772, "HAH WITH SMALL ARABIC LETTER TAH ABOVE"),
    (0x775, "FARSI YEH WITH EXTENDED ARABIC-INDIC DIGIT TWO ABOVE"),
    (0x776, "FARSI YEH WITH EXTENDED ARABIC-INDIC DIGIT THREE ABOVE"),
    (0x777, "FARSI YEH WITH EXTENDED ARABIC-INDIC DIGIT FOUR BELOW"),
    (0x778, "WAW WITH EXTENDED ARABIC-INDIC DIGIT TWO ABOVE"),
    (0x779, "WAW WITH EXTENDED ARABIC-INDIC DIGIT THREE ABOVE"),
    (0x77A, "YEH BARREE WITH EXTENDED ARABIC-INDIC DIGIT TWO ABOVE"),
    (0x77B, "YEH BARREE WITH EXTENDED ARABIC-INDIC DIGIT THREE ABOVE"),
    (0x77C, "HAH WITH EXTENDED ARABIC-INDIC DIGIT FOUR BELOW"),
    (0x77D, "SEEN WITH EXTENDED ARABIC-INDIC DIGIT FOUR ABOVE,SEEN WITH INVERTED V"),
    (0x77F, "KAF WITH TWO DOTS ABOVE"),
    (0x886, "THIN YEH,,,NOON WITH INVERTED SMALL V,HAH WITH INVERTED SMALL V BELOW"),
    (0x88B, "TAH WITH DOT BELOW,TAH WITH THREE DOTS BELOW"),
    (0x88D, "KEHEH WITH TWO DOTS VERTICALLY BELOW"),
    (0x8A0, "BEH WITH SMALL V BELOW,BEH WITH HAMZA ABOVE,JEEM WITH TWO DOTS ABOVE"),
    (0x8A3, "TAH WITH TWO DOTS ABOVE,FEH WITH DOT BELOW AND THREE DOTS ABOVE"),
    (0x8A5, "QAF WITH DOT BELOW,LAM WITH DOUBLE BAR,MEEM WITH THREE DOTS ABOVE"),
    (0x8A8, "YEH WITH TWO DOTS BELOW AND HAMZA ABOVE,YEH WITH TWO DOTS BELOW AND DOT ABOVE"),
    (0x8AB, "WAW WITH DOT WITHIN,ROHINGYA YEH,LOW ALEF,DAL WITH THREE DOTS BELOW"),
    (0x8AF, "SAD WITH THREE DOTS BELOW,GAF WITH INVERTED STROKE,STRAIGHT WAW"),
    (0x8B2, "ZAIN WITH INVERTED V ABOVE,AIN WITH THREE DOTS BELOW,KAF WITH DOT BELOW"),
    (0x8B5, "QAF WITH DOT BELOW AND NO DOTS ABOVE,BEH WITH SMALL MEEM ABOVE"),
    (0x8B7, "PEH WITH SMALL MEEM ABOVE,TEH WITH SMALL TEH ABOVE"),
    (0x8BA, "YEH WITH TWO DOTS BELOW AND SMALL NOON ABOVE,AFRICAN FEH,AFRICAN QAF"),
    (0x8BD, "AFRICAN NOON,PEH WITH SMALL V,TEH WITH SMALL V,TTEH WITH SMALL V"),
    (0x8C1, "TCHEH WITH SMALL V,KEHEH WITH SMALL V,GHAIN WITH THREE DOTS ABOVE"),
    (0x8C4, "AFRICAN QAF WITH THREE DOTS ABOVE,JEEM WITH THREE DOTS ABOVE"),
    (0x8C6, "JEEM WITH THREE DOTS BELOW,LAM WITH SMALL ARABIC LETTER TAH ABOVE,GRAF"),
    (0xFB50, "ALEF WASLA ISOLATED FORM,ALEF WASLA FINAL FORM,BEEH ISOLATED FORM"),
    (0xFB53, "BEEH FINAL FORM,BEEH INITIAL FORM,BEEH MEDIAL FORM,PEH ISOLATED FORM"),
    (0xFB57, "PEH FINAL FORM,PEH INITIAL FORM,PEH MEDIAL FORM,BEHEH ISOLATED FORM"),
    (0xFB5B, "BEHEH FINAL FORM,BEHEH INITIAL FORM,BEHEH MEDIAL FORM,TTEHEH ISOLATED FORM"),
    (0xFB5F, "TTEHEH FINAL FORM,TTEHEH INITIAL FORM,TTEHEH MEDIAL FORM,TEHEH ISOLATED FORM"),
    (0xFB63, "TEHEH FINAL FORM,TEHEH INITIAL FORM,TEHEH MEDIAL FORM,TTEH ISOLATED FORM"),
    (0xFB67, "TTEH FINAL FORM,TTEH INITIAL FORM,TTEH MEDIAL FORM,VEH ISOLATED FORM"),
    (0xFB6B, "VEH FINAL FORM,VEH INITIAL FORM,VEH MEDIAL FORM,PEHEH ISOLATED FORM"),
    (0xFB6F, "PEHEH FINAL FORM,PEHEH INITIAL FORM,PEHEH MEDIAL FORM,DYEH ISOLATED FORM"),
    (0xFB73, "DYEH FINAL FORM,DYEH INITIAL FORM,DYEH MEDIAL FORM,NYEH ISOLATED FORM"),
    (0xFB77, "NYEH FINAL FORM,NYEH INITIAL FORM,NYEH MEDIAL FORM,TCHEH ISOLATED FORM"),
    (0xFB7B, "TCHEH FINAL FORM,TCHEH INITIAL FORM,TCHEH MEDIAL FORM,TCHEHEH ISOLATED FORM"),
    (0xFB7F, "TCHEHEH FINAL FORM,TCHEHEH INITIAL FORM,TCHEHEH MEDIAL FORM"),
    (0xFB82, "DDAHAL ISOLATED FORM,DDAHAL FINAL FORM,DAHAL ISOLATED FORM,DAHAL FINAL FORM"),
    (0xFB86, "DUL ISOLATED FORM,DUL FINAL FORM,DDAL ISOLATED FORM,DDAL FINAL FORM"),
    (0xFB8A, "JEH ISOLATED FORM,JEH FINAL FORM,RREH ISOLATED FORM,RREH FINAL FORM"),
    (0xFB8E, "KEHEH ISOLATED FORM,KEHEH FINAL FORM,KEHEH INITIAL FORM,KEHEH MEDIAL FORM"),
    (0xFB92, "GAF ISOLATED FORM,GAF FINAL FORM,GAF INITIAL FORM,GAF MEDIAL FORM"),
    (0xFB96, "GUEH ISOLATED FORM,GUEH FINAL FORM,GUEH INITIAL FORM,GUEH MEDIAL FORM"),
    (0xFB9A, "NGOEH ISOLATED FORM,NGOEH FINAL FORM,NGOEH INITIAL FORM,NGOEH MEDIAL FORM"),
    (0xFB9E, "NOON GHUNNA ISOLATED FORM,NOON GHUNNA FINAL FORM,RNOON ISOLATED FORM"),
    (0xFBA1, "RNOON FINAL FORM,RNOON INITIAL FORM,RNOON MEDIAL FORM"),
    (0xFBA4, "HEH WITH YEH ABOVE ISOLATED FORM,HEH WITH YEH ABOVE FINAL FORM"),
    (0xFBA6, "HEH GOAL ISOLATED FORM,HEH GOAL FINAL FORM,HEH GOAL INITIAL FORM"),
    (0xFBA9, "HEH GOAL MEDIAL FORM,HEH DOACHASHMEE ISOLATED FORM,HEH DOACHASHMEE FINAL FORM"),
    (0xFBAC, "HEH DOACHASHMEE INITIAL FORM,HEH DOACHASHMEE MEDIAL FORM"),
    (0xFBAE, "YEH BARREE ISOLATED FORM,YEH BARREE FINAL FORM"),
    (0xFBB0, "YEH BARREE WITH HAMZA ABOVE ISOLATED FORM"),
    (0xFBB1, "YEH BARREE WITH HAMZA ABOVE FINAL FORM"),
    (0xFBD3, "NG ISOLATED FORM,NG FINAL FORM,NG INITIAL FORM,NG MEDIAL FORM,U ISOLATED FORM"),
    (0xFBD8, "U FINAL FORM,OE ISOLATED FORM,OE FINAL FORM,YU ISOLATED FORM,YU FINAL FORM"),
    (0xFBDD, "U WITH HAMZA ABOVE ISOLATED FORM,VE ISOLATED FORM,VE FINAL FORM"),
    (0xFBE0, "KIRGHIZ OE ISOLATED FORM,KIRGHIZ OE FINAL FORM,KIRGHIZ YU ISOLATED FORM"),
    (0xFBE3, "KIRGHIZ YU FINAL FORM,E ISOLATED FORM,E FINAL FORM,E INITIAL FORM"),
    (0xFBE7, "E MEDIAL FORM,UIGHUR KAZAKH KIRGHIZ ALEF MAKSURA INITIAL FORM"),
    (0xFBE9, "UIGHUR KAZAKH KIRGHIZ ALEF MAKSURA MEDIAL FORM"),
    (0xFBFC, "FARSI YEH ISOLATED FORM,FARSI YEH FINAL FORM,FARSI YEH INITIAL FORM"),
    (0xFBFF, "FARSI YEH MEDIAL FORM"),
    (0xFE80, "HAMZA ISOLATED FORM,,,,,WAW WITH HAMZA ABOVE ISOLATED FORM"),
    (0xFE86, "WAW WITH HAMZA ABOVE FINAL FORM,,,YEH WITH HAMZA ABOVE ISOLATED FORM"),
    (0xFE8A, "YEH WITH HAMZA ABOVE FINAL FORM,YEH WITH HAMZA ABOVE INITIAL FORM"),
    (0xFE8C, "YEH WITH HAMZA ABOVE MEDIAL FORM,ALEF ISOLATED FORM,ALEF FINAL FORM"),
    (0xFE8F, "BEH ISOLATED FORM,BEH FINAL FORM,BEH INITIAL FORM,BEH MEDIAL FORM"),
    (0xFE93, "TEH MARBUTA ISOLATED FORM,TEH MARBUTA FINAL FORM,TEH ISOLATED FORM"),
    (0xFE96, "TEH FINAL FORM,TEH INITIAL FORM,TEH MEDIAL FORM,THEH ISOLATED FORM"),
    (0xFE9A, "THEH FINAL FORM,THEH INITIAL FORM,THEH MEDIAL FORM,JEEM ISOLATED FORM"),
    (0xFE9E, "JEEM FINAL FORM,JEEM INITIAL FORM,JEEM MEDIAL FORM,HAH ISOLATED FORM"),
    (0xFEA2, "HAH FINAL FORM,HAH INITIAL FORM,HAH MEDIAL FORM,KHAH ISOLATED FORM"),
    (0xFEA6, "KHAH FINAL FORM,KHAH INITIAL FORM,KHAH MEDIAL FORM,DAL ISOLATED FORM"),
    (0xFEAA, "DAL FINAL FORM,THAL ISOLATED FORM,THAL FINAL FORM,REH ISOLATED FORM"),
    (0xFEAE, "REH FINAL FORM,ZAIN ISOLATED FORM,ZAIN FINAL FORM,SEEN ISOLATED FORM"),
    (0xFEB2, "SEEN FINAL FORM,SEEN INITIAL FORM,SEEN MEDIAL FORM,SHEEN ISOLATED FORM"),
    (0xFEB6, "SHEEN FINAL FORM,SHEEN INITIAL FORM,SHEEN MEDIAL FORM,SAD ISOLATED FORM"),
    (0xFEBA, "SAD FINAL FORM,SAD INITIAL FORM,SAD MEDIAL FORM,DAD ISOLATED FORM"),
    (0xFEBE, "DAD FINAL FORM,DAD INITIAL FORM,DAD MEDIAL FORM,TAH ISOLATED FORM"),
    (0xFEC2, "TAH FINAL FORM,TAH INITIAL FORM,TAH MEDIAL FORM,ZAH ISOLATED FORM"),
    (0xFEC6, "ZAH FINAL FORM,ZAH INITIAL FORM,ZAH MEDIAL FORM,AIN ISOLATED FORM"),
    (0xFECA, "AIN FINAL FORM,AIN INITIAL FORM,AIN MEDIAL FORM,GHAIN ISOLATED FORM"),
    (0xFECE, "GHAIN FINAL FORM,GHAIN INITIAL FORM,GHAIN MEDIAL FORM,FEH ISOLATED FORM"),
    (0xFED2, "FEH FINAL FORM,FEH INITIAL FORM,FEH MEDIAL FORM,QAF ISOLATED FORM"),
    (0xFED6, "QAF FINAL FORM,QAF INITIAL FORM,QAF MEDIAL FORM,KAF ISOLATED FORM"),
    (0xFEDA, "KAF FINAL FORM,KAF INITIAL FORM,KAF MEDIAL FORM,LAM ISOLATED FORM"),
    (0xFEDE, "LAM FINAL FORM,LAM INITIAL FORM,LAM MEDIAL FORM,MEEM ISOLATED FORM"),
    (0xFEE2, "MEEM FINAL FORM,MEEM INITIAL FORM,MEEM MEDIAL FORM,NOON ISOLATED FORM"),
    (0xFEE6, "NOON FINAL FORM,NOON INITIAL FORM,NOON MEDIAL FORM,HEH ISOLATED FORM"),
    (0xFEEA, "HEH FINAL FORM,HEH INITIAL FORM,HEH MEDIAL FORM,WAW ISOLATED FORM"),
    (0xFEEE, "WAW FINAL FORM,ALEF MAKSURA ISOLATED FORM,ALEF MAKSURA FINAL FORM"),
    (0xFEF1, "YEH ISOLATED FORM,YEH FINAL FORM,YEH INITIAL FORM,YEH MEDIAL FORM")]⟩,
  ⟨"ARABIC LETTER ALEF WITH ", [(0x622, "MADDA ABOVE,HAMZA ABOVE,,HAMZA BELOW"),
    (0x672, "WAVY HAMZA ABOVE,WAVY HAMZA BELOW"),
    (0x773, "EXTENDED ARABIC-INDIC DIGIT TWO ABOVE,EXTENDED ARABIC-INDIC DIGIT THREE ABOVE"),
    (0x872, "RIGHT MIDDLE STROKE,LEFT MIDDLE STROKE,,,,,,,DOT ABOVE"),
    (0x87C, "RIGHT MIDDLE STROKE AND DOT ABOVE,,,RIGHT MIDDLE STROKE AND LEFT RING"),
    (0xFE81, "MADDA ABOVE ISOLATED FORM,MADDA ABOVE FINAL FORM,HAMZA ABOVE ISOLATED FORM"),
    (0xFE84, "HAMZA ABOVE FINAL FORM,,,HAMZA BELOW ISOLATED FORM,HAMZA BELOW FINAL FORM")]⟩,
  ⟨"ARABIC-INDIC DIGIT ", [(0x660, "ZERO,ONE,TWO,THREE,FOUR,FIVE,SIX,SEVEN,EIGHT,NINE")]⟩,
  ⟨"ARABIC LETTER REH WITH ",
    [(0x692, "SMALL V,RING,DOT BELOW,SMALL V BELOW,DOT BELOW AND DOT ABOVE,TWO DOTS ABOVE"),
    (0x699, "FOUR DOTS ABOVE"), (0x6EF, "INVERTED V"), (0x75B, "STROKE"),
    (0x76B, "TWO DOTS VERTICALLY ABOVE,HAMZA ABOVE"),
    (0x771, "SMALL ARABIC LETTER TAH AND TWO DOTS"), (0x8AA, "LOOP"), (0x8B9, "SMALL NOON ABOVE")]⟩,
  ⟨"EXTENDED ARABIC-INDIC DIGIT ", [(0x6F0, "ZERO,ONE,TWO,THREE,FOUR,FIVE,SIX,SEVEN,EIGHT,NINE")]⟩,
  ⟨"SYRIAC ",
    [(0x700, "END OF PARAGRAPH,SUPRALINEAR FULL STOP,SUBLINEAR FULL STOP,SUPRALINEAR COLON"),
    (0x704, "SUBLINEAR COLON,HORIZONTAL COLON,COLON SKEWED LEFT,COLON SKEWED RIGHT"),
    (0x708, "SUPRALINEAR COLON SKEWED LEFT,SUBLINEAR COLON SKEWED RIGHT,CONTRACTION"),
    (0x70B, "HARKLEAN OBELUS,HARKLEAN METOBELUS,HARKLEAN ASTERISCUS,,ABBREVIATION MARK"),
    (0x730, "PTHAHA ABOVE,PTHAHA BELOW,PTHAHA DOTTED,ZQAPHA ABOVE,ZQAPHA BELOW"),
    (0x735, "ZQAPHA DOTTED,RBASA ABOVE,RBASA BELOW,DOTTED ZLAMA HORIZONTAL"),
    (0x739, "DOTTED ZLAMA ANGULAR,HBASA ABOVE,HBASA BELOW,HBASA-ESASA DOTTED,ESASA ABOVE"),
    (0x73E, "ESASA BELOW,RWAHA,FEMININE DOT,QUSHSHAYA,RUKKAKHA,TWO VERTICAL DOTS ABOVE"),
    (0x744, "TWO VERTICAL DOTS BELOW,THREE DOTS ABOVE,THREE DOTS BELOW,OBLIQUE LINE ABOVE"),
    (0x748, "OBLIQUE LINE BELOW,MUSIC,BARREKH")]⟩,
  ⟨"SYRIAC LETTER ",
    [(0x710, "ALAPH,SUPERSCRIPT ALAPH,BETH,GAMAL,GAMAL GARSHUNI,DALATH,DOTLESS DALATH RISH"),
    (0x717, "HE,WAW,ZAIN,HETH,TETH,TETH GARSHUNI,YUDH,YUDH HE,KAPH,LAMADH,MIM,NUN,SEMKATH"),
    (0x724, "FINAL SEMKATH,E,PE,REVERSED PE,SADHE,QAPH,RISH,SHIN,TAW,PERSIAN BHETH"),
    (0x72E, "PERSIAN GHAMAL,PERSIAN DHALATH"), (0x74D, "SOGDIAN ZHAIN,SOGDIAN KHAPH,SOGDIAN FE")]⟩,
  ⟨"THAANA LETTER ",
    [(0x780, "HAA,SHAVIYANI,NOONU,RAA,BAA,LHAVIYANI,KAAFU,ALIFU,VAAVU,MEEMU,FAAFU,DHAALU"),
    (0x78C, "THAA,LAAMU,GAAFU,GNAVIYANI,SEENU,DAVIYANI,ZAVIYANI,TAVIYANI,YAA,PAVIYANI"),
    (0x796, "JAVIYANI,CHAVIYANI,TTAA,HHAA,KHAA,THAALU,ZAA,SHEENU,SAADHU,DAADHU,TO,ZO,AINU"),
    (0x7A3, "GHAINU,QAAFU,WAAVU"), (0x7B1, "NAA")]⟩,
  ⟨"THAANA ", [(0x7A6, "ABAFILI,AABAAFILI,IBIFILI,EEBEEFILI,UBUFILI,OOBOOFILI,EBEFILI,EYBEYFILI"),
    (0x7AE, "OBOFILI,OABOAFILI,SUKUN")]⟩,
  ⟨"SAMARITAN LETTER ",
    [(0x800, "ALAF,BIT,GAMAN,DALAT,IY,BAA,ZEN,IT,TIT,YUT,KAAF,LABAT,MIM,NUN,SINGAAT,IN,FI"),
    (0x811, "TSAADIY,QUF,RISH,SHAN,TAAF")]⟩,
  ⟨"SAMARITAN ", [(0x816, "MARK IN,MARK IN-ALAF,MARK OCCLUSION,MARK DAGESH"),
    (0x81A, "MODIFIER LETTER EPENTHETIC YUT,MARK EPENTHETIC YUT"),
    (0x824, "MODIFIER LETTER SHORT A,,,,MODIFIER LETTER I,,,,,MARK NEQUDAA"),
    (0x836, "ABBREVIATION MARK")]⟩,
  ⟨"SAMARITAN VOWEL SIGN ",
    [(0x81C, "LONG E,E,OVERLONG AA,LONG AA,AA,OVERLONG A,LONG A,A,,SHORT A,LONG U,U,,LONG I"),
    (0x82A, "I,O,SUKUN")]⟩,
  ⟨"SAMARITAN PUNCTUATION ",
    [(0x830, "NEQUDAA,AFSAAQ,ANGED,BAU,ATMAAU,SHIYYAALAA,,MELODIC QITSA,ZIQAA,QITSA,ZAEF"),
    (0x83B, "TURU,ARKAANU,SOF MASHFAAT,ANNAAU")]⟩,
  ⟨"MANDAIC LETTER ",
    [(0x840, "HALQA,AB,AG,AD,AH,USHENNA,AZ,IT,ATT,AKSA,AK,AL,AM,AN,AS,IN,AP,ASZ,AQ,AR,ASH"),
    (0x855, "AT,DUSHENNA,KAD,AIN")]⟩,
  ⟨"SYRIAC LETTER MALAYALAM ", [(0x860, "NGA,JA,NYA,TTA,NNA,NNNA,BHA,RA,LLA,LLLA,SSA")]⟩,
  ⟨"ARABIC LETTER ALEF WITH ATTACHED ",
    [(0x870, "FATHA,TOP RIGHT FATHA,,,KASRA,BOTTOM RIGHT KASRA,ROUND DOT ABOVE"),
    (0x877, "RIGHT ROUND DOT,LEFT ROUND DOT,ROUND DOT BELOW,,TOP RIGHT FATHA AND DOT ABOVE"),
    (0x87D, "BOTTOM RIGHT KASRA AND DOT ABOVE,TOP RIGHT FATHA AND LEFT RING"),
    (0x880, "BOTTOM RIGHT KASRA AND LEFT RING,RIGHT HAMZA,LEFT HAMZA")]⟩,
  ⟨"ARABIC SYMBOL ",
    [(0xFBB2, "DOT ABOVE,DOT BELOW,TWO DOTS ABOVE,TWO DOTS BELOW,THREE DOTS ABOVE"),
    (0xFBB7, "THREE DOTS BELOW,THREE DOTS POINTING DOWNWARDS ABOVE"),
    (0xFBB9, "THREE DOTS POINTING DOWNWARDS BELOW,FOUR DOTS ABOVE,FOUR DOTS BELOW"),
    (0xFBBC, "DOUBLE VERTICAL BAR BELOW,TWO DOTS VERTICALLY ABOVE,TWO DOTS VERTICALLY BELOW"),
    (0xFBBF, "RING,SMALL TAH ABOVE,SMALL TAH BELOW,WASLA ABOVE")]⟩,
  ⟨"ARABIC LIGATURE YEH WITH HAMZA ABOVE WITH ",
    [(0xFBEA, "ALEF ISOLATED FORM,ALEF FINAL FORM,AE ISOLATED FORM,AE FINAL FORM"),
    (0xFBEE, "WAW ISOLATED FORM,WAW FINAL FORM,U ISOLATED FORM,U FINAL FORM"),
    (0xFBF2, "OE ISOLATED FORM,OE FINAL FORM,YU ISOLATED FORM,YU FINAL FORM,E ISOLATED FORM"),
    (0xFBF7, "E FINAL FORM,E INITIAL FORM,,,,,,,,JEEM ISOLATED FORM,HAH ISOLATED FORM"),
    (0xFC02, "MEEM ISOLATED FORM,ALEF MAKSURA ISOLATED FORM,YEH ISOLATED FORM"),
    (0xFC64, "REH FINAL FORM,ZAIN FINAL FORM,MEEM FINAL FORM,NOON FINAL FORM"),
    (0xFC68, "ALEF MAKSURA FINAL FORM,YEH FINAL FORM"),
    (0xFC97, "JEEM INITIAL FORM,HAH INITIAL FORM,KHAH INITIAL FORM,MEEM INITIAL FORM"),
    (0xFC9B, "HEH INITIAL FORM"), (0xFCDF, "MEEM MEDIAL FORM,HEH MEDIAL FORM")]⟩,
  ⟨"ARABIC LIGATURE ",
    [(0xFBF9, "UIGHUR KIRGHIZ YEH WITH HAMZA ABOVE WITH ALEF MAKSURA ISOLATED FORM"),
    (0xFBFA, "UIGHUR KIRGHIZ YEH WITH HAMZA ABOVE WITH ALEF MAKSURA FINAL FORM"),
    (0xFBFB, "UIGHUR KIRGHIZ YEH WITH HAMZA ABOVE WITH ALEF MAKSURA INITIAL FORM"),
    (0xFC28, "ZAH WITH MEEM ISOLATED FORM"), (0xFC5B, "THAL WITH SUPERSCRIPT ALEF ISOLATED FORM"),
    (0xFC5C, "REH WITH SUPERSCRIPT ALEF ISOLATED FORM"),
    (0xFC5D, "ALEF MAKSURA WITH SUPERSCRIPT ALEF ISOLATED FORM"),
    (0xFC90, "ALEF MAKSURA WITH SUPERSCRIPT ALEF FINAL FORM"),
    (0xFCB9, "ZAH WITH MEEM INITIAL FORM"),
    (0xFD3B, "ZAH WITH MEEM MEDIAL FORM,ALEF WITH FATHATAN FINAL FORM"),
    (0xFD3D, "ALEF WITH FATHATAN ISOLATED FORM,,,RAHIMAHU ALLAAH"),
    (0xFD46, "SALLALLAAHU ALAYHI WA-AALIH,ALAYHI AS-SALAAM,ALAYHIM AS-SALAAM"),
    (0xFD49, "ALAYHIMAA AS-SALAAM,ALAYHI AS-SALAATU WAS-SALAAM,QUDDISA SIRRAH"),
    (0xFD4C, "SALLALLAHU ALAYHI WAAALIHEE WA-SALLAM,ALAYHAA AS-SALAAM,TABAARAKA WA-TAAALAA"),
    (0xFD4F, "RAHIMAHUM ALLAAH"), (0xFDCF, "SALAAMUHU ALAYNAA"),
    (0xFDF0, "SALLA USED AS KORANIC STOP SIGN ISOLATED FORM"),
    (0xFDF1, "QALA USED AS KORANIC STOP SIGN ISOLATED FORM,ALLAH ISOLATED FORM"),
    (0xFDF3, "AKBAR ISOLATED FORM,MOHAMMAD ISOLATED FORM,SALAM ISOLATED FORM"),
    (0xFDF6, "RASOUL ISOLATED FORM,ALAYHE ISOLATED FORM,WASALLAM ISOLATED FORM"),
    (0xFDF9, "SALLA ISOLATED FORM,SALLALLAHOU ALAYHE WASALLAM,JALLAJALALOUHOU"),
    (0xFDFD, "BISMILLAH AR-RAHMAN AR-RAHEEM,SUBHAANAHU WA TAAALAA,AZZA WA JALL")]⟩,
  ⟨"ARABIC LIGATURE BEH WITH ",
    [(0xFC05, "JEEM ISOLATED FORM,HAH ISOLATED FORM,KHAH ISOLATED FORM,MEEM ISOLATED FORM"),
    (0xFC09, "ALEF MAKSURA ISOLATED FORM,YEH ISOLATED FORM"),
    (0xFC6A, "REH FINAL FORM,ZAIN FINAL FORM,MEEM FINAL FORM,NOON FINAL FORM"),
    (0xFC6E, "ALEF MAKSURA FINAL FORM,YEH FINAL FORM"),
    (0xFC9C, "JEEM INITIAL FORM,HAH INITIAL FORM,KHAH INITIAL FORM,MEEM INITIAL FORM"),
    (0xFCA0, "HEH INITIAL FORM"), (0xFCE1, "MEEM MEDIAL FORM,HEH MEDIAL FORM"),
    (0xFD9E, "KHAH WITH YEH FINAL FORM"), (0xFDC2, "HAH WITH YEH FINAL FORM")]⟩,
  ⟨"ARABIC LIGATURE TEH WITH ",
    [(0xFC0B, "JEEM ISOLATED FORM,HAH ISOLATED FORM,KHAH ISOLATED FORM,MEEM ISOLATED FORM"),
    (0xFC0F, "ALEF MAKSURA ISOLATED FORM,YEH ISOLATED FORM"),
    (0xFC70, "REH FINAL FORM,ZAIN FINAL FORM,MEEM FINAL FORM,NOON FINAL FORM"),
    (0xFC74, "ALEF MAKSURA FINAL FORM,YEH FINAL FORM"),
    (0xFCA1, "JEEM INITIAL FORM,HAH INITIAL FORM,KHAH INITIAL FORM,MEEM INITIAL FORM"),
    (0xFCA5, "HEH INITIAL FORM"), (0xFCE3, "MEEM MEDIAL FORM,HEH MEDIAL FORM"),
    (0xFD50, "JEEM WITH MEEM INITIAL FORM,HAH WITH JEEM FINAL FORM"),
    (0xFD52, "HAH WITH JEEM INITIAL FORM,HAH WITH MEEM INITIAL FORM"),
    (0xFD54, "KHAH WITH MEEM INITIAL FORM,MEEM WITH JEEM INITIAL FORM"),
    (0xFD56, "MEEM WITH HAH INITIAL FORM,MEEM WITH KHAH INITIAL FORM"),
    (0xFD9F, "JEEM WITH YEH FINAL FORM,JEEM WITH ALEF MAKSURA FINAL FORM"),
    (0xFDA1, "KHAH WITH YEH FINAL FORM,KHAH WITH ALEF MAKSURA FINAL FORM"),
    (0xFDA3, "MEEM WITH YEH FINAL FORM,MEEM WITH ALEF MAKSURA FINAL FORM")]⟩,
  ⟨"ARABIC LIGATURE THEH WITH ",
    [(0xFC11, "JEEM ISOLATED FORM,MEEM ISOLATED FORM,ALEF MAKSURA ISOLATED FORM"),
    (0xFC14, "YEH ISOLATED FORM"),
    (0xFC76, "REH FINAL FORM,ZAIN FINAL FORM,MEEM FINAL FORM,NOON FINAL FORM"),
    (0xFC7A, "ALEF MAKSURA FINAL FORM,YEH FINAL FORM"), (0xFCA6, "MEEM INITIAL FORM"),
    (0xFCE5, "MEEM MEDIAL FORM,HEH MEDIAL FORM")]⟩,
  ⟨"ARABIC LIGATURE JEEM WITH ", [(0xFC15, "HAH ISOLATED FORM,MEEM ISOLATED FORM"),
    (0xFCA7, "HAH INITIAL FORM,MEEM INITIAL FORM"),
    (0xFD01, "ALEF MAKSURA ISOLATED FORM,YEH ISOLATED FORM"),
    (0xFD1D, "ALEF MAKSURA FINAL FORM,YEH FINAL FORM"),
    (0xFD58, "MEEM WITH HAH FINAL FORM,MEEM WITH HAH INITIAL FORM"),
    (0xFDA5, "MEEM WITH YEH FINAL FORM,HAH WITH ALEF MAKSURA FINAL FORM"),
    (0xFDA7, "MEEM WITH ALEF MAKSURA FINAL FORM"), (0xFDBE, "HAH WITH YEH FINAL FORM")]⟩,
  ⟨"ARABIC LIGATURE HAH WITH ", [(0xFC17, "JEEM ISOLATED FORM,MEEM ISOLATED FORM"),
    (0xFCA9, "JEEM INITIAL FORM,MEEM INITIAL FORM"),
    (0xFCFF, "ALEF MAKSURA ISOLATED FORM,YEH ISOLATED FORM"),
    (0xFD1B, "ALEF MAKSURA FINAL FORM,YEH FINAL FORM"),
    (0xFD5A, "MEEM WITH YEH FINAL FORM,MEEM WITH ALEF MAKSURA FINAL FORM"),
    (0xFDBF, "JEEM WITH YEH FINAL FORM")]⟩,
  ⟨"ARABIC LIGATURE KHAH WITH ",
    [(0xFC19, "JEEM ISOLATED FORM,HAH ISOLATED FORM,MEEM ISOLATED FORM"),
    (0xFCAB, "JEEM INITIAL FORM,MEEM INITIAL FORM"),
    (0xFD03, "ALEF MAKSURA ISOLATED FORM,YEH ISOLATED FORM"),
    (0xFD1F, "ALEF MAKSURA FINAL FORM,YEH FINAL FORM")]⟩,
  ⟨"ARABIC LIGATURE SEEN WITH ",
    [(0xFC1C, "JEEM ISOLATED FORM,HAH ISOLATED FORM,KHAH ISOLATED FORM,MEEM ISOLATED FORM"),
    (0xFCAD, "JEEM INITIAL FORM,HAH INITIAL FORM,KHAH INITIAL FORM,MEEM INITIAL FORM"),
    (0xFCE7, "MEEM MEDIAL FORM,HEH MEDIAL FORM"),
    (0xFCFB, "ALEF MAKSURA ISOLATED FORM,YEH ISOLATED FORM"),
    (0xFD0E, "REH ISOLATED FORM,,,,,,,,,ALEF MAKSURA FINAL FORM,YEH FINAL FORM"),
    (0xFD2A, "REH FINAL FORM,,,,,,,HEH INITIAL FORM,,,JEEM MEDIAL FORM,HAH MEDIAL FORM"),
    (0xFD36, "KHAH MEDIAL FORM"), (0xFD5C, "HAH WITH JEEM INITIAL FORM,JEEM WITH HAH INITIAL FORM"),
    (0xFD5E, "JEEM WITH ALEF MAKSURA FINAL FORM,MEEM WITH HAH FINAL FORM"),
    (0xFD60, "MEEM WITH HAH INITIAL FORM,MEEM WITH JEEM INITIAL FORM"),
    (0xFD62, "MEEM WITH MEEM FINAL FORM,MEEM WITH MEEM INITIAL FORM"),
    (0xFDA8, "KHAH WITH ALEF MAKSURA FINAL FORM"), (0xFDC6, "KHAH WITH YEH FINAL FORM")]⟩,
  ⟨"ARABIC LIGATURE SAD WITH ", [(0xFC20, "HAH ISOLATED FORM,MEEM ISOLATED FORM"),
    (0xFCB1, "HAH INITIAL FORM,KHAH INITIAL FORM,MEEM INITIAL FORM"),
    (0xFD05, "ALEF MAKSURA ISOLATED FORM,YEH ISOLATED FORM,,,,,,,,,REH ISOLATED FORM"),
    (0xFD21, "ALEF MAKSURA FINAL FORM,YEH FINAL FORM,,,,,,,,,REH FINAL FORM"),
    (0xFD64, "HAH WITH HAH FINAL FORM,HAH WITH HAH INITIAL FORM,MEEM WITH MEEM FINAL FORM"),
    (0xFDA9, "HAH WITH YEH FINAL FORM"), (0xFDC5, "MEEM WITH MEEM INITIAL FORM")]⟩,
  ⟨"ARABIC LIGATURE DAD WITH ",
    [(0xFC22, "JEEM ISOLATED FORM,HAH ISOLATED FORM,KHAH ISOLATED FORM,MEEM ISOLATED FORM"),
    (0xFCB4, "JEEM INITIAL FORM,HAH INITIAL FORM,KHAH INITIAL FORM,MEEM INITIAL FORM"),
    (0xFD07, "ALEF MAKSURA ISOLATED FORM,YEH ISOLATED FORM,,,,,,,,REH ISOLATED FORM"),
    (0xFD23, "ALEF MAKSURA FINAL FORM,YEH FINAL FORM,,,,,,,,REH FINAL FORM"),
    (0xFD6E, "HAH WITH ALEF MAKSURA FINAL FORM,KHAH WITH MEEM FINAL FORM"),
    (0xFD70, "KHAH WITH MEEM INITIAL FORM"), (0xFDAB, "HAH WITH YEH FINAL FORM")]⟩,
  ⟨"ARABIC LIGATURE TAH WITH ", [(0xFC26, "HAH ISOLATED FORM,MEEM ISOLATED FORM"),
    (0xFCB8, "HAH INITIAL FORM"), (0xFCF5, "ALEF MAKSURA ISOLATED FORM,YEH ISOLATED FORM"),
    (0xFD11, "ALEF MAKSURA FINAL FORM,YEH FINAL FORM"),
    (0xFD33, "MEEM INITIAL FORM,,,,,,,MEEM MEDIAL FORM"),
    (0xFD71, "MEEM WITH HAH FINAL FORM,MEEM WITH HAH INITIAL FORM"),
    (0xFD73, "MEEM WITH MEEM INITIAL FORM,MEEM WITH YEH FINAL FORM")]⟩,
  ⟨"ARABIC LIGATURE AIN WITH ", [(0xFC29, "JEEM ISOLATED FORM,MEEM ISOLATED FORM"),
    (0xFCBA, "JEEM INITIAL FORM,MEEM INITIAL FORM"),
    (0xFCF7, "ALEF MAKSURA ISOLATED FORM,YEH ISOLATED FORM"),
    (0xFD13, "ALEF MAKSURA FINAL FORM,YEH FINAL FORM"),
    (0xFD75, "JEEM WITH MEEM FINAL FORM,MEEM WITH MEEM FINAL FORM"),
    (0xFD77, "MEEM WITH MEEM INITIAL FORM,MEEM WITH ALEF MAKSURA FINAL FORM"),
    (0xFDB6, "MEEM WITH YEH FINAL FORM"), (0xFDC4, "JEEM WITH MEEM INITIAL FORM")]⟩,
  ⟨"ARABIC LIGATURE GHAIN WITH ", [(0xFC2B, "JEEM ISOLATED FORM,MEEM ISOLATED FORM"),
    (0xFCBC, "JEEM INITIAL FORM,MEEM INITIAL FORM"),
    (0xFCF9, "ALEF MAKSURA ISOLATED FORM,YEH ISOLATED FORM"),
    (0xFD15, "ALEF MAKSURA FINAL FORM,YEH FINAL FORM"),
    (0xFD79, "MEEM WITH MEEM FINAL FORM,MEEM WITH YEH FINAL FORM"),
    (0xFD7B, "MEEM WITH ALEF MAKSURA FINAL FORM")]⟩,
  ⟨"ARABIC LIGATURE FEH WITH ",
    [(0xFC2D, "JEEM ISOLATED FORM,HAH ISOLATED FORM,KHAH ISOLATED FORM,MEEM ISOLATED FORM"),
    (0xFC31, "ALEF MAKSURA ISOLATED FORM,YEH ISOLATED FORM"),
    (0xFC7C, "ALEF MAKSURA FINAL FORM,YEH FINAL FORM"),
    (0xFCBE, "JEEM INITIAL FORM,HAH INITIAL FORM,KHAH INITIAL FORM,MEEM INITIAL FORM"),
    (0xFD7C, "KHAH WITH MEEM FINAL FORM,KHAH WITH MEEM INITIAL FORM"),
    (0xFDC1, "MEEM WITH YEH FINAL FORM")]⟩,
  ⟨"ARABIC LIGATURE QAF WITH ",
    [(0xFC33, "HAH ISOLATED FORM,MEEM ISOLATED FORM,ALEF MAKSURA ISOLATED FORM"),
    (0xFC36, "YEH ISOLATED FORM"), (0xFC7E, "ALEF MAKSURA FINAL FORM,YEH FINAL FORM"),
    (0xFCC2, "HAH INITIAL FORM,MEEM INITIAL FORM"),
    (0xFD7E, "MEEM WITH HAH FINAL FORM,MEEM WITH MEEM FINAL FORM"),
    (0xFDB2, "MEEM WITH YEH FINAL FORM,,MEEM WITH HAH INITIAL FORM")]⟩,
  ⟨"ARABIC LIGATURE KAF WITH ",
    [(0xFC37, "ALEF ISOLATED FORM,JEEM ISOLATED FORM,HAH ISOLATED FORM,KHAH ISOLATED FORM"),
    (0xFC3B, "LAM ISOLATED FORM,MEEM ISOLATED FORM,ALEF MAKSURA ISOLATED FORM"),
    (0xFC3E, "YEH ISOLATED FORM"),
    (0xFC80, "ALEF FINAL FORM,LAM FINAL FORM,MEEM FINAL FORM,ALEF MAKSURA FINAL FORM"),
    (0xFC84, "YEH FINAL FORM"),
    (0xFCC4, "JEEM INITIAL FORM,HAH INITIAL FORM,KHAH INITIAL FORM,LAM INITIAL FORM"),
    (0xFCC8, "MEEM INITIAL FORM"), (0xFCEB, "LAM MEDIAL FORM,MEEM MEDIAL FORM"),
    (0xFDB7, "MEEM WITH YEH FINAL FORM,,,,MEEM WITH MEEM FINAL FORM"),
    (0xFDC3, "MEEM WITH MEEM INITIAL FORM")]⟩,
  ⟨"ARABIC LIGATURE LAM WITH ",
    [(0xFC3F, "JEEM ISOLATED FORM,HAH ISOLATED FORM,KHAH ISOLATED FORM,MEEM ISOLATED FORM"),
    (0xFC43, "ALEF MAKSURA ISOLATED FORM,YEH ISOLATED FORM"),
    (0xFC85, "MEEM FINAL FORM,ALEF MAKSURA FINAL FORM,YEH FINAL FORM"),
    (0xFCC9, "JEEM INITIAL FORM,HAH INITIAL FORM,KHAH INITIAL FORM,MEEM INITIAL FORM"),
    (0xFCCD, "HEH INITIAL FORM"), (0xFCED, "MEEM MEDIAL FORM"),
    (0xFD80, "HAH WITH MEEM FINAL FORM,HAH WITH YEH FINAL FORM"),
    (0xFD82, "HAH WITH ALEF MAKSURA FINAL FORM,JEEM WITH JEEM INITIAL FORM"),
    (0xFD84, "JEEM WITH JEEM FINAL FORM,KHAH WITH MEEM FINAL FORM"),
    (0xFD86, "KHAH WITH MEEM INITIAL FORM,MEEM WITH HAH FINAL FORM"),
    (0xFD88, "MEEM WITH HAH INITIAL FORM"),
    (0xFDAC, "JEEM WITH YEH FINAL FORM,MEEM WITH YEH FINAL FORM"),
    (0xFDB5, "HAH WITH MEEM INITIAL FORM,,,,,JEEM WITH MEEM INITIAL FORM"),
    (0xFDBC, "JEEM WITH MEEM FINAL FORM"),
    (0xFEF5, "ALEF WITH MADDA ABOVE ISOLATED FORM,ALEF WITH MADDA ABOVE FINAL FORM"),
    (0xFEF7, "ALEF WITH HAMZA ABOVE ISOLATED FORM,ALEF WITH HAMZA ABOVE FINAL FORM"),
    (0xFEF9, "ALEF WITH HAMZA BELOW ISOLATED FORM,ALEF WITH HAMZA BELOW FINAL FORM"),
    (0xFEFB, "ALEF ISOLATED FORM,ALEF FINAL FORM")]⟩,
  ⟨"ARABIC LIGATURE MEEM WITH ",
    [(0xFC45, "JEEM ISOLATED FORM,HAH ISOLATED FORM,KHAH ISOLATED FORM,MEEM ISOLATED FORM"),
    (0xFC49, "ALEF MAKSURA ISOLATED FORM,YEH ISOLATED FORM"),
    (0xFC88, "ALEF FINAL FORM,MEEM FINAL FORM"),
    (0xFCCE, "JEEM INITIAL FORM,HAH INITIAL FORM,KHAH INITIAL FORM,MEEM INITIAL FORM"),
    (0xFD89, "HAH WITH JEEM INITIAL FORM,HAH WITH MEEM INITIAL FORM,HAH WITH YEH FINAL FORM"),
    (0xFD8C, "JEEM WITH HAH INITIAL FORM,JEEM WITH MEEM INITIAL FORM"),
    (0xFD8E, "KHAH WITH JEEM INITIAL FORM,KHAH WITH MEEM INITIAL FORM"),
    (0xFD92, "JEEM WITH KHAH INITIAL FORM"),
    (0xFDB1, "MEEM WITH YEH FINAL FORM,,,,,,,,KHAH WITH YEH FINAL FORM"),
    (0xFDC0, "JEEM WITH YEH FINAL FORM")]⟩,
  ⟨"ARABIC LIGATURE NOON WITH ",
    [(0xFC4B, "JEEM ISOLATED FORM,HAH ISOLATED FORM,KHAH ISOLATED FORM,MEEM ISOLATED FORM"),
    (0xFC4F, "ALEF MAKSURA ISOLATED FORM,YEH ISOLATED FORM"),
    (0xFC8A, "REH FINAL FORM,ZAIN FINAL FORM,MEEM FINAL FORM,NOON FINAL FORM"),
    (0xFC8E, "ALEF MAKSURA FINAL FORM,YEH FINAL FORM"),
    (0xFCD2, "JEEM INITIAL FORM,HAH INITIAL FORM,KHAH INITIAL FORM,MEEM INITIAL FORM"),
    (0xFCD6, "HEH INITIAL FORM"), (0xFCEE, "MEEM MEDIAL FORM,HEH MEDIAL FORM"),
    (0xFD95, "HAH WITH MEEM INITIAL FORM,HAH WITH ALEF MAKSURA FINAL FORM"),
    (0xFD97, "JEEM WITH MEEM FINAL FORM,JEEM WITH MEEM INITIAL FORM"),
    (0xFD99, "JEEM WITH ALEF MAKSURA FINAL FORM,MEEM WITH YEH FINAL FORM"),
    (0xFD9B, "MEEM WITH ALEF MAKSURA FINAL FORM"),
    (0xFDB3, "HAH WITH YEH FINAL FORM,,,,,JEEM WITH HAH INITIAL FORM"),
    (0xFDBD, "JEEM WITH HAH FINAL FORM"), (0xFDC7, "JEEM WITH YEH FINAL FORM")]⟩,
  ⟨"ARABIC LIGATURE HEH WITH ",
    [(0xFC51, "JEEM ISOLATED FORM,MEEM ISOLATED FORM,ALEF MAKSURA ISOLATED FORM"),
    (0xFC54, "YEH ISOLATED FORM"),
    (0xFCD7, "JEEM INITIAL FORM,MEEM INITIAL FORM,SUPERSCRIPT ALEF INITIAL FORM"),
    (0xFD93, "MEEM WITH JEEM INITIAL FORM,MEEM WITH MEEM INITIAL FORM")]⟩,
  ⟨"ARABIC LIGATURE YEH WITH ",
    [(0xFC55, "JEEM ISOLATED FORM,HAH ISOLATED FORM,KHAH ISOLATED FORM,MEEM ISOLATED FORM"),
    (0xFC59, "ALEF MAKSURA ISOLATED FORM,YEH ISOLATED FORM"),
    (0xFC91, "REH FINAL FORM,ZAIN FINAL FORM,MEEM FINAL FORM,NOON FINAL FORM"),
    (0xFC95, "ALEF MAKSURA FINAL FORM,YEH FINAL FORM"),
    (0xFCDA, "JEEM INITIAL FORM,HAH INITIAL FORM,KHAH INITIAL FORM,MEEM INITIAL FORM"),
    (0xFCDE, "HEH INITIAL FORM"), (0xFCF0, "MEEM MEDIAL FORM,HEH MEDIAL FORM"),
    (0xFD9C, "MEEM WITH MEEM FINAL FORM,MEEM WITH MEEM INITIAL FORM"),
    (0xFDAE, "HAH WITH YEH FINAL FORM,JEEM WITH YEH FINAL FORM,MEEM WITH YEH FINAL FORM")]⟩,
  ⟨"ARABIC LIGATURE SHADDA WITH ",
    [(0xFC5E, "DAMMATAN ISOLATED FORM,KASRATAN ISOLATED FORM,FATHA ISOLATED FORM"),
    (0xFC61, "DAMMA ISOLATED FORM,KASRA ISOLATED FORM,SUPERSCRIPT ALEF ISOLATED FORM"),
    (0xFCF2, "FATHA MEDIAL FORM,DAMMA MEDIAL FORM,KASRA MEDIAL FORM")]⟩,
  ⟨"ARABIC LIGATURE SHEEN WITH ", [(0xFCE9, "MEEM MEDIAL FORM,HEH MEDIAL FORM"),
    (0xFCFD, "ALEF MAKSURA ISOLATED FORM,YEH ISOLATED FORM"),
    (0xFD09, "JEEM ISOLATED FORM,HAH ISOLATED FORM,KHAH ISOLATED FORM,MEEM ISOLATED FORM"),
    (0xFD0D, "REH ISOLATED FORM"), (0xFD19, "ALEF MAKSURA FINAL FORM,YEH FINAL FORM"),
    (0xFD25, "JEEM FINAL FORM,HAH FINAL FORM,KHAH FINAL FORM,MEEM FINAL FORM,REH FINAL FORM"),
    (0xFD2D, "JEEM INITIAL FORM,HAH INITIAL FORM,KHAH INITIAL FORM,MEEM INITIAL FORM"),
    (0xFD32, "HEH INITIAL FORM,,,,,JEEM MEDIAL FORM,HAH MEDIAL FORM,KHAH MEDIAL FORM"),
    (0xFD67, "HAH WITH MEEM FINAL FORM,HAH WITH MEEM INITIAL FORM,JEEM WITH YEH FINAL FORM"),
    (0xFD6A, "MEEM WITH KHAH FINAL FORM,MEEM WITH KHAH INITIAL FORM"),
    (0xFD6C, "MEEM WITH MEEM FINAL FORM,MEEM WITH MEEM INITIAL FORM"),
    (0xFDAA, "HAH WITH YEH FINAL FORM")]⟩,
  ⟨"ARABIC LIGATURE RADI ALLAAHU ", [(0xFD41, "ANH,ANHAA,ANHUM,ANHUMAA,ANHUNNA")]⟩,
  ⟨"CYPRIOT SYLLABLE ",
    [(0x10800, "A,E,I,O,U,JA,,,JO,,KA,KE,KI,KO,KU,LA,LE,LI,LO,LU,MA,ME,MI,MO,MU,NA,NE,NI,NO"),
    (0x1081D, "NU,PA,PE,PI,PO,PU,RA,RE,RI,RO,RU,SA,SE,SI,SO,SU,TA,TE,TI,TO,TU,WA,WE,WI,WO"),
    (0x10837, "XA,XE,,,,ZA,,,ZO")]⟩,
  ⟨"IMPERIAL ARAMAIC LETTER ",
    [(0x10840, "ALEPH,BETH,GIMEL,DALETH,HE,WAW,ZAYIN,HETH,TETH,YODH,KAPH,LAMEDH,MEM,NUN"),
    (0x1084E, "SAMEKH,AYIN,PE,SADHE,QOPH,RESH,SHIN,TAW")]⟩,
  ⟨"IMPERIAL ARAMAIC ",
    [(0x10857, "SECTION SIGN,NUMBER ONE,NUMBER TWO,NUMBER THREE,NUMBER TEN,NUMBER TWENTY"),
    (0x1085D, "NUMBER ONE HUNDRED,NUMBER ONE THOUSAND,NUMBER TEN THOUSAND")]⟩,
  ⟨"PALMYRENE LETTER ",
    [(0x10860, "ALEPH,BETH,GIMEL,DALETH,HE,WAW,ZAYIN,HETH,TETH,YODH,KAPH,LAMEDH,MEM,FINAL NUN"),
    (0x1086E, "NUN,SAMEKH,AYIN,PE,SADHE,QOPH,RESH,SHIN,TAW")]⟩,
  ⟨"PALMYRENE ", [(0x10877, "LEFT-POINTING FLEURON,RIGHT-POINTING FLEURON,NUMBER ONE,NUMBER TWO"),
    (0x1087B, "NUMBER THREE,NUMBER FOUR,NUMBER FIVE,NUMBER TEN,NUMBER TWENTY")]⟩,
  ⟨"NABATAEAN LETTER ",
    [(0x10880, "FINAL ALEPH,ALEPH,FINAL BETH,BETH,GIMEL,DALETH,FINAL HE,HE,WAW,ZAYIN,HETH"),
    (0x1088B, "TETH,FINAL YODH,YODH,FINAL KAPH,KAPH,FINAL LAMEDH,LAMEDH,FINAL MEM,MEM"),
    (0x10894, "FINAL NUN,NUN,SAMEKH,AYIN,PE,SADHE,QOPH,RESH,FINAL SHIN,SHIN,TAW")]⟩,
  ⟨"NABATAEAN ", [(0x108A7, "NUMBER ONE,NUMBER TWO,NUMBER THREE,NUMBER FOUR,CRUCIFORM NUMBER FOUR"),
    (0x108AC, "NUMBER FIVE,NUMBER TEN,NUMBER TWENTY,NUMBER ONE HUNDRED")]⟩,
  ⟨"HATRAN LETTER ",
    [(0x108E0, "ALEPH,BETH,GIMEL,DALETH-RESH,HE,WAW,ZAYN,HETH,TETH,YODH,KAPH,LAMEDH,MEM,NUN"),
    (0x108EE, "SAMEKH,AYN,PE,SADHE,QOPH,,SHIN,TAW")]⟩,
  ⟨"HATRAN NUMBER ", [(0x108FB, "ONE,FIVE,TEN,TWENTY,ONE HUNDRED")]⟩,
  ⟨"PHOENICIAN LETTER ",
    [(0x10900, "ALF,BET,GAML,DELT,HE,WAU,ZAI,HET,TET,YOD,KAF,LAMD,MEM,NUN,SEMK,AIN,PE,SADE"),
    (0x10912, "QOF,ROSH,SHIN,TAU")]⟩,
  ⟨"PHOENICIAN ", [(0x10916, "NUMBER ONE,NUMBER TEN,NUMBER TWENTY,NUMBER ONE HUNDRED,NUMBER TWO"),
    (0x1091B, "NUMBER THREE,,,,WORD SEPARATOR")]⟩,
  ⟨"LYDIAN LETTER ", [(0x10920, "A,B,G,D,E,V,I,Y,K,L,M,N,O,R,SS,T,U,F,Q,S,TT,AN,EN,LY,NN,C")]⟩,
  ⟨"MEROITIC HIEROGLYPHIC LETTER ",
    [(0x10980, "A,E,I,O,YA,WA,BA,BA-2,PA,MA,NA,NA-2,NE,NE-2,RA,RA-2,LA,KHA,HHA,SA,SA-2,SE,KA"),
    (0x10997, "QA,TA,TA-2,TE,TE-2,TO,DA")]⟩,
  ⟨"MEROITIC CURSIVE LETTER ",
    [(0x109A0, "A,E,I,O,YA,WA,BA,PA,MA,NA,NE,RA,LA,KHA,HHA,SA,ARCHAIC SA,SE,KA,QA,TA,TE,TO,DA")]⟩,
  ⟨"MEROITIC CURSIVE FRACTION ", [(0x109BC, "ELEVEN TWELFTHS,ONE HALF"),
    (0x109F6, "ONE TWELFTH,TWO TWELFTHS,THREE TWELFTHS,FOUR TWELFTHS,FIVE TWELFTHS"),
    (0x109FB, "SIX TWELFTHS,SEVEN TWELFTHS,EIGHT TWELFTHS,NINE TWELFTHS,TEN TWELFTHS")]⟩,
  ⟨"MEROITIC CURSIVE NUMBER ",
    [(0x109C0, "ONE,TWO,THREE,FOUR,FIVE,SIX,SEVEN,EIGHT,NINE,TEN,TWENTY,THIRTY,FORTY,FIFTY"),
    (0x109CE, "SIXTY,SEVENTY,,,ONE HUNDRED,TWO HUNDRED,THREE HUNDRED,FOUR HUNDRED"),
    (0x109D6, "FIVE HUNDRED,SIX HUNDRED,SEVEN HUNDRED,EIGHT HUNDRED,NINE HUNDRED"),
    (0x109DB, "ONE THOUSAND,TWO THOUSAND,THREE THOUSAND,FOUR THOUSAND,FIVE THOUSAND"),
    (0x109E0, "SIX THOUSAND,SEVEN THOUSAND,EIGHT THOUSAND,NINE THOUSAND,TEN THOUSAND"),
    (0x109E5, "TWENTY THOUSAND,THIRTY THOUSAND,FORTY THOUSAND,FIFTY THOUSAND,SIXTY THOUSAND"),
    (0x109EA, "SEVENTY THOUSAND,EIGHTY THOUSAND,NINETY THOUSAND,ONE HUNDRED THOUSAND"),
    (0x109EE, "TWO HUNDRED THOUSAND,THREE HUNDRED THOUSAND,FOUR HUNDRED THOUSAND"),
    (0x109F1, "FIVE HUNDRED THOUSAND,SIX HUNDRED THOUSAND,SEVEN HUNDRED THOUSAND"),
    (0x109F4, "EIGHT HUNDRED THOUSAND,NINE HUNDRED THOUSAND")]⟩,
  ⟨"KHAROSHTHI LETTER ", [(0x10A00, "A"),
    (0x10A10, "KA,KHA,GA,GHA,,CA,CHA,JA,,NYA,TTA,TTHA,DDA,DDHA,NNA,TA,THA,DA,DHA,NA,PA,PHA"),
    (0x10A26, "BA,BHA,MA,YA,RA,LA,VA,SHA,SSA,SA,ZA,HA,KKA,TTTHA,TTTA,VHA")]⟩,
  ⟨"KHAROSHTHI ",
    [(0x10A01, "VOWEL SIGN I,VOWEL SIGN U,VOWEL SIGN VOCALIC R,,VOWEL SIGN E,VOWEL SIGN O"),
    (0x10A0C, "VOWEL LENGTH MARK,SIGN DOUBLE RING BELOW,SIGN ANUSVARA,SIGN VISARGA"),
    (0x10A38, "SIGN BAR ABOVE,SIGN CAUDA,SIGN DOT BELOW,,,,,VIRAMA,DIGIT ONE,DIGIT TWO"),
    (0x10A42, "DIGIT THREE,DIGIT FOUR,NUMBER TEN,NUMBER TWENTY,NUMBER ONE HUNDRED"),
    (0x10A47, "NUMBER ONE THOUSAND,FRACTION ONE HALF")]⟩,
  ⟨"KHAROSHTHI PUNCTUATION ",
    [(0x10A50, "DOT,SMALL CIRCLE,CIRCLE,CRESCENT BAR,MANGALAM,LOTUS,DANDA,DOUBLE DANDA,LINES")]⟩,
  ⟨"OLD SOUTH ARABIAN LETTER ",
    [(0x10A60, "HE,LAMEDH,HETH,MEM,QOPH,WAW,SHIN,RESH,BETH,TAW,SAT,KAPH,NUN,KHETH,SADHE"),
    (0x10A6F, "SAMEKH,FE,ALEF,AYN,DHADHE,GIMEL,DALETH,GHAYN,TETH,ZAYN,DHALETH,YODH,THAW"),
    (0x10A7C, "THETH")]⟩,
  ⟨"OLD NORTH ARABIAN LETTER ",
    [(0x10A80, "HEH,LAM,HAH,MEEM,QAF,WAW,ES-2,REH,BEH,TEH,ES-1,KAF,NOON,KHAH,SAD,ES-3,FEH"),
    (0x10A91, "ALEF,AIN,DAD,GEEM,DAL,GHAIN,TAH,ZAIN,THAL,YEH,THEH,ZAH")]⟩,
  ⟨"MANICHAEAN LETTER ",
    [(0x10AC0, "ALEPH,BETH,BHETH,GIMEL,GHIMEL,DALETH,HE,WAW,,ZAYIN,ZHAYIN,JAYIN,JHAYIN,HETH"),
    (0x10ACE, "TETH,YODH,KAPH,XAPH,KHAPH,LAMEDH,DHAMEDH,THAMEDH,MEM,NUN,SAMEKH,AYIN,AAYIN,PE"),
    (0x10ADC, "FE,SADHE,QOPH,XOPH,QHOPH,RESH,SHIN,SSHIN,TAW")]⟩,
  ⟨"MANICHAEAN ", [(0x10AC8, "SIGN UD"),
    (0x10AE5, "ABBREVIATION MARK ABOVE,ABBREVIATION MARK BELOW,,,,,NUMBER ONE,NUMBER FIVE"),
    (0x10AED, "NUMBER TEN,NUMBER TWENTY,NUMBER ONE HUNDRED")]⟩,
  ⟨"MANICHAEAN PUNCTUATION ",
    [(0x10AF0, "STAR,FLEURON,DOUBLE DOT WITHIN DOT,DOT WITHIN DOT,DOT,TWO DOTS,LINE FILLER")]⟩,
  ⟨"AVESTAN LETTER ",
    [(0x10B00, "A,AA,AO,AAO,AN,AAN,AE,AEE,E,EE,O,OO,I,II,U,UU,KE,XE,XYE,XVE,GE,GGE,GHE,CE,JE"),
    (0x10B19, "TE,THE,DE,DHE,TTE,PE,FE,BE,BHE,NGE,NGYE,NGVE,NE,NYE,NNE,ME,HME,YYE,YE,VE,RE"),
    (0x10B2E, "LE,SE,ZE,SHE,ZHE,SHYE,SSHE,HE")]⟩,
  ⟨"INSCRIPTIONAL PARTHIAN LETTER ",
    [(0x10B40, "ALEPH,BETH,GIMEL,DALETH,HE,WAW,ZAYIN,HETH,TETH,YODH,KAPH,LAMEDH,MEM,NUN"),
    (0x10B4E, "SAMEKH,AYIN,PE,SADHE,QOPH,RESH,SHIN,TAW")]⟩,
  ⟨"INSCRIPTIONAL PARTHIAN NUMBER ",
    [(0x10B58, "ONE,TWO,THREE,FOUR,TEN,TWENTY,ONE HUNDRED,ONE THOUSAND")]⟩,
  ⟨"INSCRIPTIONAL PAHLAVI LETTER ",
    [(0x10B60, "ALEPH,BETH,GIMEL,DALETH,HE,WAW-AYIN-RESH,ZAYIN,HETH,TETH,YODH,KAPH,LAMEDH"),
    (0x10B6C, "MEM-QOPH,NUN,SAMEKH,PE,SADHE,SHIN,TAW")]⟩,
  ⟨"INSCRIPTIONAL PAHLAVI NUMBER ",
    [(0x10B78, "ONE,TWO,THREE,FOUR,TEN,TWENTY,ONE HUNDRED,ONE THOUSAND")]⟩,
  ⟨"PSALTER PAHLAVI LETTER ",
    [(0x10B80, "ALEPH,BETH,GIMEL,DALETH,HE,WAW-AYIN-RESH,ZAYIN,HETH,YODH,KAPH,LAMEDH,MEM-QOPH"),
    (0x10B8C, "NUN,SAMEKH,PE,SADHE,SHIN,TAW")]⟩,
  ⟨"PSALTER PAHLAVI ",
    [(0x10B99, "SECTION MARK,TURNED SECTION MARK,FOUR DOTS WITH CROSS,FOUR DOTS WITH DOT"),
    (0x10BA9, "NUMBER ONE,NUMBER TWO,NUMBER THREE,NUMBER FOUR,NUMBER TEN,NUMBER TWENTY"),
    (0x10BAF, "NUMBER ONE HUNDRED")]⟩,
  ⟨"OLD TURKIC LETTER ORKHON ",
    [(0x10C00, "A,,,I,,,O,OE,,AB,,AEB,,AG,,AEG,,AD,,AED,EZ,,AY,,AEY,,AEK,,OEK,,AL,,AEL,ELT,EM"),
    (0x10C23, "AN,AEN,,ENT,,ENC,,ENY,,,ENG,,EP,OP,IC,EC,,AQ,,IQ,,OQ,,AR,,AER,AS,AES,ASH,,ESH"),
    (0x10C43, "AT,,AET,,OT,BASH")]⟩,
  ⟨"OLD TURKIC LETTER YENISEI ",
    [(0x10C01, "A,AE,,I,E,,,OE,,AB,,AEB,,AG,,AEG,,AD,,,EZ,,AY,,AEY,,AEK,,OEK,,AL,,,,,,AEN"),
    (0x10C27, "ENT,,ENC,,ENY,ANG,,AENG,,,,,EC,,AQ,,IQ,,OQ,,AR,,,,,ASH,,ESH,,AT,,AET")]⟩,
  ⟨"OLD HUNGARIAN CAPITAL LETTER ",
    [(0x10C80, "A,AA,EB,AMB,EC,ENC,ECS,ED,AND,E,CLOSE E,EE,EF,EG,EGY,EH,I,II,EJ,EK,AK,UNK,EL"),
    (0x10C97, "ELY,EM,EN,ENY,O,OO,NIKOLSBURG OE,RUDIMENTA OE,OEE,EP,EMP,ER,SHORT ER,ES,ESZ"),
    (0x10CA6, "ET,ENT,ETY,ECH,U,UU,NIKOLSBURG UE,RUDIMENTA UE,EV,EZ,EZS,ENT-SHAPED SIGN,US")]⟩,
  ⟨"OLD HUNGARIAN SMALL LETTER ",
    [(0x10CC0, "A,AA,EB,AMB,EC,ENC,ECS,ED,AND,E,CLOSE E,EE,EF,EG,EGY,EH,I,II,EJ,EK,AK,UNK,EL"),
    (0x10CD7, "ELY,EM,EN,ENY,O,OO,NIKOLSBURG OE,RUDIMENTA OE,OEE,EP,EMP,ER,SHORT ER,ES,ESZ"),
    (0x10CE6, "ET,ENT,ETY,ECH,U,UU,NIKOLSBURG UE,RUDIMENTA UE,EV,EZ,EZS,ENT-SHAPED SIGN,US")]⟩,
  ⟨"OLD HUNGARIAN NUMBER ", [(0x10CFA, "ONE,FIVE,TEN,FIFTY,ONE HUNDRED,ONE THOUSAND")]⟩,
  ⟨"HANIFI ROHINGYA LETTER ",
    [(0x10D00, "A,BA,PA,TA,TTA,JA,CA,HA,KHA,FA,DA,DDA,RA,RRA,ZA,SA,SHA,KA,GA,LA,MA,NA,WA"),
    (0x10D17, "KINNA WA,YA,KINNA YA,NGA,NYA,VA")]⟩,
  ⟨"HANIFI ROHINGYA ",
    [(0x10D1D, "VOWEL A,VOWEL I,VOWEL U,VOWEL E,VOWEL O,MARK SAKIN,MARK NA KHONNA"),
    (0x10D24, "SIGN HARBAHAY,SIGN TAHALA,SIGN TANA,SIGN TASSI")]⟩,
  ⟨"HANIFI ROHINGYA DIGIT ", [(0x10D30, "ZERO,ONE,TWO,THREE,FOUR,FIVE,SIX,SEVEN,EIGHT,NINE")]⟩,
  ⟨"RUMI DIGIT ", [(0x10E60, "ONE,TWO,THREE,FOUR,FIVE,SIX,SEVEN,EIGHT,NINE")]⟩,
  ⟨"RUMI NUMBER ",
    [(0x10E69, "TEN,TWENTY,THIRTY,FORTY,FIFTY,SIXTY,SEVENTY,EIGHTY,NINETY,ONE HUNDRED"),
    (0x10E73, "TWO HUNDRED,THREE HUNDRED,FOUR HUNDRED,FIVE HUNDRED,SIX HUNDRED,SEVEN HUNDRED"),
    (0x10E79, "EIGHT HUNDRED,NINE HUNDRED")]⟩,
  ⟨"YEZIDI LETTER ",
    [(0x10E80, "ELIF,BE,PE,PHE,THE,SE,CIM,CHIM,CHHIM,HHA,XA,DAL,ZAL,RA,RHA,ZA,JA,SIN,SHIN,SAD"),
    (0x10E94, "DAD,TA,ZE,EYN,XHEYN,FA,VA,VA ALTERNATE FORM,QAF,KAF,KHAF,GAF,LAM,MIM,NUN,UM"),
    (0x10EA4, "WAW,OW,EW,HAY,YOT,ET,,,,,,,LAM WITH DOT ABOVE,YOT WITH CIRCUMFLEX ABOVE")]⟩,
  ⟨"OLD SOGDIAN LETTER ",
    [(0x10F00, "ALEPH,FINAL ALEPH,BETH,FINAL BETH,GIMEL,HE,FINAL HE,WAW,ZAYIN,HETH,YODH,KAPH"),
    (0x10F0C, "LAMEDH,MEM,NUN,FINAL NUN,FINAL NUN WITH VERTICAL TAIL,SAMEKH,AYIN"),
    (0x10F13, "ALTERNATE AYIN,PE,SADHE,FINAL SADHE,FINAL SADHE WITH VERTICAL TAIL"),
    (0x10F18, "RESH-AYIN-DALETH,SHIN,TAW,FINAL TAW,FINAL TAW WITH VERTICAL TAIL")]⟩,
  ⟨"OLD SOGDIAN NUMBER ", [(0x10F1D, "ONE,TWO,THREE,FOUR,FIVE,TEN,TWENTY,THIRTY,ONE HUNDRED")]⟩,
  ⟨"SOGDIAN LETTER ",
    [(0x10F30, "ALEPH,BETH,GIMEL,HE,WAW,ZAYIN,HETH,YODH,KAPH,LAMEDH,MEM,NUN,SAMEKH,AYIN,PE"),
    (0x10F3F, "SADHE,RESH-AYIN,SHIN,TAW,FETH,LESH")]⟩,
  ⟨"SOGDIAN ", [(0x10F45, "INDEPENDENT SHIN"),
    (0x10F51, "NUMBER ONE,NUMBER TEN,NUMBER TWENTY,NUMBER ONE HUNDRED"),
    (0x10F55, "PUNCTUATION TWO VERTICAL BARS,PUNCTUATION TWO VERTICAL BARS WITH DOTS"),
    (0x10F57, "PUNCTUATION CIRCLE WITH DOT,PUNCTUATION TWO CIRCLES WITH DOTS"),
    (0x10F59, "PUNCTUATION HALF CIRCLE WITH DOT")]⟩,
  ⟨"SOGDIAN COMBINING ",
    [(0x10F46, "DOT BELOW,TWO DOTS BELOW,DOT ABOVE,TWO DOTS ABOVE,CURVE ABOVE,CURVE BELOW"),
    (0x10F4C, "HOOK ABOVE,HOOK BELOW,LONG HOOK BELOW,RESH BELOW,STROKE BELOW")]⟩,
  ⟨"OLD UYGHUR LETTER ",
    [(0x10F70, "ALEPH,BETH,GIMEL-HETH,WAW,ZAYIN,FINAL HETH,YODH,KAPH,LAMEDH,MEM,NUN,SAMEKH,PE"),
    (0x10F7D, "SADHE,RESH,SHIN,TAW,LESH")]⟩,
  ⟨"OLD UYGHUR ", [(0x10F82, "COMBINING DOT ABOVE,COMBINING DOT BELOW,COMBINING TWO DOTS ABOVE"),
    (0x10F85, "COMBINING TWO DOTS BELOW,PUNCTUATION BAR,PUNCTUATION TWO BARS"),
    (0x10F88, "PUNCTUATION TWO DOTS,PUNCTUATION FOUR DOTS")]⟩,
  ⟨"CHORASMIAN LETTER ",
    [(0x10FB0, "ALEPH,SMALL ALEPH,BETH,GIMEL,DALETH,HE,WAW,CURLED WAW,ZAYIN,HETH,YODH,KAPH"),
    (0x10FBC, "LAMEDH,MEM,NUN,SAMEKH,AYIN,PE,RESH,SHIN,TAW")]⟩,
  ⟨"CHORASMIAN NUMBER ", [(0x10FC5, "ONE,TWO,THREE,FOUR,TEN,TWENTY,ONE HUNDRED")]⟩,
  ⟨"ELYMAIC LETTER ",
    [(0x10FE0, "ALEPH,BETH,GIMEL,DALETH,HE,WAW,ZAYIN,HETH,TETH,YODH,KAPH,LAMEDH,MEM,NUN"),
    (0x10FEE, "SAMEKH,AYIN,PE,SADHE,QOPH,RESH,SHIN,TAW")]⟩,
  ⟨"ANATOLIAN HIEROGLYPH ",
    [(0x14400, "A001,A002,A003,A004,A005,A006,A007,A008,A009,A010,A010A,A011,A012,A013,A014"),
    (0x1440F, "A015,A016,A017,A018,A019,A020,A021,A022,A023,A024,A025,A026,A026A,A027,A028"),
    (0x1441E, "A029,A030,A031,A032,A033,A034,A035,A036,A037,A038,A039,A039A,A040,A041,A041A"),
    (0x1442D, "A042,A043,A044,A045,A045A,A046,A046A,A046B,A047,A048,A049,A050,A051,A052,A053"),
    (0x1443C, "A054,A055,A056,A057,A058,A059,A060,A061,A062,A063,A064,A065,A066,A066A,A066B"),
    (0x1444B, "A066C,A067,A068,A069,A070,A071,A072,A073,A074,A075,A076,A077,A078,A079,A080"),
    (0x1445A, "A081,A082,A083,A084,A085,A086,A087,A088,A089,A090,A091,A092,A093,A094,A095"),
    (0x14469, "A096,A097,A097A,A098,A098A,A099,A100,A100A,A101,A101A,A102,A102A,A103,A104"),
    (0x14477, "A104A,A104B,A104C,A105,A105A,A105B,A106,A107,A107A,A107B,A107C,A108,A109,A110"),
    (0x14485, "A110A,A110B,A111,A112,A113,A114,A115,A115A,A116,A117,A118,A119,A120,A121,A122"),
    (0x14494, "A123,A124,A125,A125A,A126,A127,A128,A129,A130,A131,A132,A133,A134,A135,A135A"),
    (0x144A3, "A136,A137,A138,A139,A140,A141,A142,A143,A144,A145,A146,A147,A148,A149,A150"),
    (0x144B2, "A151,A152,A153,A154,A155,A156,A157,A158,A159,A160,A161,A162,A163,A164,A165"),
    (0x144C1, "A166,A167,A168,A169,A170,A171,A172,A173,A174,A175,A176,A177,A178,A179,A180"),
    (0x144D0, "A181,A182,A183,A184,A185,A186,A187,A188,A189,A190,A191,A192,A193,A194,A195"),
    (0x144DF, "A196,A197,A198,A199,A200,A201,A202,A202A,A202B,A203,A204,A205,A206,A207,A207A"),
    (0x144EE, "A208,A209,A209A,A210,A211,A212,A213,A214,A215,A215A,A216,A216A,A217,A218,A219"),
    (0x144FD, "A220,A221,A222,A223,A224,A225,A226,A227,A227A,A228,A229,A230,A231,A232,A233"),
    (0x1450C, "A234,A235,A236,A237,A238,A239,A240,A241,A242,A243,A244,A245,A246,A247,A248"),
    (0x1451B, "A249,A250,A251,A252,A253,A254,A255,A256,A257,A258,A259,A260,A261,A262,A263"),
    (0x1452A, "A264,A265,A266,A267,A267A,A268,A269,A270,A271,A272,A273,A274,A275,A276,A277"),
    (0x14539, "A278,A279,A280,A281,A282,A283,A284,A285,A286,A287,A288,A289,A289A,A290,A291"),
    (0x14548, "A292,A293,A294,A294A,A295,A296,A297,A298,A299,A299A,A300,A301,A302,A303,A304"),
    (0x14557, "A305,A306,A307,A308,A309,A309A,A310,A311,A312,A313,A314,A315,A316,A317,A318"),
    (0x14566, "A319,A320,A321,A322,A323,A324,A325,A326,A327,A328,A329,A329A,A330,A331,A332A"),
    (0x14575, "A332B,A332C,A333,A334,A335,A336,A336A,A336B,A336C,A337,A338,A339,A340,A341"),
    (0x14583, "A342,A343,A344,A345,A346,A347,A348,A349,A350,A351,A352,A353,A354,A355,A356"),
    (0x14592, "A357,A358,A359,A359A,A360,A361,A362,A363,A364,A364A,A365,A366,A367,A368,A368A"),
    (0x145A1, "A369,A370,A371,A371A,A372,A373,A374,A375,A376,A377,A378,A379,A380,A381,A381A"),
    (0x145B0, "A382,A383 RA OR RI,A383A,A384,A385,A386,A386A,A387,A388,A389,A390,A391,A392"),
    (0x145BD, "A393 EIGHT,A394,A395,A396,A397,A398,A399,A400,A401,A402,A403,A404,A405,A406"),
    (0x145CB, "A407,A408,A409,A410 BEGIN LOGOGRAM MARK,A410A END LOGOGRAM MARK,A411,A412"),
    (0x145D2, "A413,A414,A415,A416,A417,A418,A419,A420,A421,A422,A423,A424,A425,A426,A427"),
    (0x145E1, "A428,A429,A430,A431,A432,A433,A434,A435,A436,A437,A438,A439,A440,A441,A442"),
    (0x145F0, "A443,A444,A445,A446,A447,A448,A449,A450,A450A,A451,A452,A453,A454,A455,A456"),
    (0x145FF, "A457,A457A,A458,A459,A460,A461,A462,A463,A464,A465,A466,A467,A468,A469,A470"),
    (0x1460E, "A471,A472,A473,A474,A475,A476,A477,A478,A479,A480,A481,A482,A483,A484,A485"),
    (0x1461D, "A486,A487,A488,A489,A490,A491,A492,A493,A494,A495,A496,A497,A501,A502,A503"),
    (0x1462C, "A504,A505,A506,A507,A508,A509,A510,A511,A512,A513,A514,A515,A516,A517,A518"),
    (0x1463B, "A519,A520,A521,A522,A523,A524,A525,A526,A527,A528,A529,A530")]⟩,
  ⟨"INDIC SIYAQ NUMBER ",
    [(0x1EC71, "ONE,TWO,THREE,FOUR,FIVE,SIX,SEVEN,EIGHT,NINE,TEN,TWENTY,THIRTY,FORTY,FIFTY"),
    (0x1EC7F, "SIXTY,SEVENTY,EIGHTY,NINETY,ONE HUNDRED,TWO HUNDRED,THREE HUNDRED"),
    (0x1EC86, "FOUR HUNDRED,FIVE HUNDRED,SIX HUNDRED,SEVEN HUNDRED,EIGHT HUNDRED"),
    (0x1EC8B, "NINE HUNDRED,ONE THOUSAND,TWO THOUSAND,THREE THOUSAND,FOUR THOUSAND"),
    (0x1EC90, "FIVE THOUSAND,SIX THOUSAND,SEVEN THOUSAND,EIGHT THOUSAND,NINE THOUSAND"),
    (0x1EC95, "TEN THOUSAND,TWENTY THOUSAND,THIRTY THOUSAND,FORTY THOUSAND,FIFTY THOUSAND"),
    (0x1EC9A, "SIXTY THOUSAND,SEVENTY THOUSAND,EIGHTY THOUSAND,NINETY THOUSAND,LAKH,LAKHAN"),
    (0x1ECA1, "KAROR,KARORAN"), (0x1ECB1, "ALTERNATE ONE,ALTERNATE TWO,ALTERNATE TEN THOUSAND")]⟩,
  ⟨"INDIC SIYAQ ", [(0x1ECA0, "LAKH MARK"),
    (0x1ECAC, "PLACEHOLDER,FRACTION ONE QUARTER,FRACTION ONE HALF,FRACTION THREE QUARTERS"),
    (0x1ECB0, "RUPEE MARK,,,,ALTERNATE LAKH MARK")]⟩,
  ⟨"INDIC SIYAQ NUMBER PREFIXED ", [(0x1ECA3, "ONE,TWO,THREE,FOUR,FIVE,SIX,SEVEN,EIGHT,NINE")]⟩,
  ⟨"OTTOMAN SIYAQ NUMBER ",
    [(0x1ED01, "ONE,TWO,THREE,FOUR,FIVE,SIX,SEVEN,EIGHT,NINE,TEN,TWENTY,THIRTY,FORTY,FIFTY"),
    (0x1ED0F, "SIXTY,SEVENTY,EIGHTY,NINETY,ONE HUNDRED,TWO HUNDRED,THREE HUNDRED"),
    (0x1ED16, "FOUR HUNDRED,FIVE HUNDRED,SIX HUNDRED,SEVEN HUNDRED,EIGHT HUNDRED"),
    (0x1ED1B, "NINE HUNDRED,ONE THOUSAND,TWO THOUSAND,THREE THOUSAND,FOUR THOUSAND"),
    (0x1ED20, "FIVE THOUSAND,SIX THOUSAND,SEVEN THOUSAND,EIGHT THOUSAND,NINE THOUSAND"),
    (0x1ED25, "TEN THOUSAND,TWENTY THOUSAND,THIRTY THOUSAND,FORTY THOUSAND,FIFTY THOUSAND"),
    (0x1ED2A, "SIXTY THOUSAND,SEVENTY THOUSAND,EIGHTY THOUSAND,NINETY THOUSAND")]⟩,
  ⟨"OTTOMAN SIYAQ ALTERNATE NUMBER ",
    [(0x1ED2F, "TWO,THREE,FOUR,FIVE,SIX,SEVEN,EIGHT,NINE,TEN,FOUR HUNDRED,SIX HUNDRED"),
    (0x1ED3A, "TWO THOUSAND,TEN THOUSAND")]⟩,
  ⟨"ARABIC MATHEMATICAL ",
    [(0x1EE00, "ALEF,BEH,JEEM,DAL,,WAW,ZAIN,HAH,TAH,YEH,KAF,LAM,MEEM,NOON,SEEN,AIN,FEH,SAD"),
    (0x1EE12, "QAF,REH,SHEEN,TEH,THEH,KHAH,THAL,DAD,ZAH,GHAIN,DOTLESS BEH,DOTLESS NOON"),
    (0x1EE1E, "DOTLESS FEH,DOTLESS QAF"),
    (0x1EEF0, "OPERATOR MEEM WITH HAH WITH TATWEEL,OPERATOR HAH WITH DAL")]⟩,
  ⟨"ARABIC MATHEMATICAL INITIAL ",
    [(0x1EE21, "BEH,JEEM,,HEH,,,HAH,,YEH,KAF,LAM,MEEM,NOON,SEEN,AIN,FEH,SAD,QAF,,SHEEN,TEH"),
    (0x1EE36, "THEH,KHAH,,DAD,,GHAIN")]⟩,
  ⟨"ARABIC MATHEMATICAL TAILED ",
    [(0x1EE42, "JEEM,,,,,HAH,,YEH,,LAM,,NOON,SEEN,AIN,,SAD,QAF,,SHEEN,,,KHAH,,DAD,,GHAIN"),
    (0x1EE5D, "DOTLESS NOON,,DOTLESS QAF")]⟩,
  ⟨"ARABIC MATHEMATICAL STRETCHED ",
    [(0x1EE61, "BEH,JEEM,,HEH,,,HAH,TAH,YEH,KAF,,MEEM,NOON,SEEN,AIN,FEH,SAD,QAF,,SHEEN,TEH"),
    (0x1EE76, "THEH,KHAH,,DAD,ZAH,GHAIN,DOTLESS BEH,,DOTLESS FEH")]⟩,
  ⟨"ARABIC MATHEMATICAL LOOPED ",
    [(0x1EE80, "ALEF,BEH,JEEM,DAL,HEH,WAW,ZAIN,HAH,TAH,YEH,,LAM,MEEM,NOON,SEEN,AIN,FEH,SAD"),
    (0x1EE92, "QAF,REH,SHEEN,TEH,THEH,KHAH,THAL,DAD,ZAH,GHAIN")]⟩,
  ⟨"ARABIC MATHEMATICAL DOUBLE-STRUCK ",
    [(0x1EEA1, "BEH,JEEM,DAL,,WAW,ZAIN,HAH,TAH,YEH,,LAM,MEEM,NOON,SEEN,AIN,FEH,SAD,QAF,REH"),
    (0x1EEB4, "SHEEN,TEH,THEH,KHAH,THAL,DAD,ZAH,GHAIN")]⟩]

end RecordSearch.Text
