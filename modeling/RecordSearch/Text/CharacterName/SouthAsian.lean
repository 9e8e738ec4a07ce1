import RecordSearch.Text.CharacterName.Family

namespace RecordSearch.Text

/-!
# Names of characters: scripts of South and Central Asia

The letters and signs of the scripts of South and Central Asia.
-/

/-- The names of characters of scripts of South and Central Asia. -/
def southAsianNames : List NameFamily := [
  ⟨"", [(0xC55, "TELUGU LENGTH MARK,TELUGU AI LENGTH MARK"),
    (0xCD5, "KANNADA LENGTH MARK,KANNADA AI LENGTH MARK"),
    (0xFD5, "RIGHT-FACING SVASTI SIGN,LEFT-FACING SVASTI SIGN"),
    (0xFD7, "RIGHT-FACING SVASTI SIGN WITH DOTS,LEFT-FACING SVASTI SIGN WITH DOTS"),
    (0x11173, "MAHAJANI SIGN NUKTA,MAHAJANI ABBREVIATION SIGN,MAHAJANI SECTION MARK"),
    (0x11176, "MAHAJANI LIGATURE SHRI"), (0x112A9, "MULTANI SECTION MARK"),
    (0x112DF, "KHUDAWADI SIGN ANUSVARA"), (0x112E9, "KHUDAWADI SIGN NUKTA,KHUDAWADI SIGN VIRAMA"),
    (0x116AB, "TAKRI SIGN ANUSVARA,TAKRI SIGN VISARGA"),
    (0x116B6, "TAKRI SIGN VIRAMA,TAKRI SIGN NUKTA,,TAKRI ABBREVIATION SIGN"),
    (0x11837, "DOGRA SIGN ANUSVARA,DOGRA SIGN VISARGA,DOGRA SIGN VIRAMA,DOGRA SIGN NUKTA"),
    (0x1183B, "DOGRA ABBREVIATION SIGN"), (0x118FF, "WARANG CITI OM"),
    (0x11D95, "GUNJALA GONDI SIGN ANUSVARA,GUNJALA GONDI SIGN VISARGA,GUNJALA GONDI VIRAMA"),
    (0x11D98, "GUNJALA GONDI OM"), (0x16A6E, "MRO DANDA,MRO DOUBLE DANDA")]⟩,
  ⟨"DEVANAGARI ", [(0x900, "SIGN INVERTED CANDRABINDU,SIGN CANDRABINDU,SIGN ANUSVARA,SIGN VISARGA"),
    (0x93C, "SIGN NUKTA,SIGN AVAGRAHA"),
    (0x94D, "SIGN VIRAMA,,,OM,STRESS SIGN UDATTA,STRESS SIGN ANUDATTA,GRAVE ACCENT"),
    (0x954, "ACUTE ACCENT"),
    (0x964, "DANDA,DOUBLE DANDA,DIGIT ZERO,DIGIT ONE,DIGIT TWO,DIGIT THREE,DIGIT FOUR"),
    (0x96B, "DIGIT FIVE,DIGIT SIX,DIGIT SEVEN,DIGIT EIGHT,DIGIT NINE,ABBREVIATION SIGN"),
    (0x971, "SIGN HIGH SPACING DOT"), (0xA8F2, "SIGN SPACING CANDRABINDU,SIGN CANDRABINDU VIRAMA"),
    (0xA8F4, "SIGN DOUBLE CANDRABINDU VIRAMA,SIGN CANDRABINDU TWO,SIGN CANDRABINDU THREE"),
    (0xA8F7, "SIGN CANDRABINDU AVAGRAHA,SIGN PUSHPIKA,GAP FILLER,CARET,HEADSTROKE"),
    (0xA8FC, "SIGN SIDDHAM,JAIN OM")]⟩,
  ⟨"DEVANAGARI LETTER ",
    [(0x904, "SHORT A,A,AA,I,II,U,UU,VOCALIC R,VOCALIC L,CANDRA E,SHORT E,E,AI,CANDRA O"),
    (0x912, "SHORT O,O,AU,KA,KHA,GA,GHA,NGA,CA,CHA,JA,JHA,NYA,TTA,TTHA,DDA,DDHA,NNA,TA,THA"),
    (0x926, "DA,DHA,NA,NNNA,PA,PHA,BA,BHA,MA,YA,RA,RRA,LA,LLA,LLLA,VA,SHA,SSA,SA,HA"),
    (0x958, "QA,KHHA,GHHA,ZA,DDDHA,RHA,FA,YYA,VOCALIC RR,VOCALIC LL"),
    (0x972, "CANDRA A,OE,OOE,AW,UE,UUE,MARWARI DDA,ZHA,HEAVY YA,GGA,JJA,GLOTTAL STOP,DDDA"),
    (0x97F, "BBA"), (0xA8FE, "AY")]⟩,
  ⟨"DEVANAGARI VOWEL SIGN ",
    [(0x93A, "OE,OOE,,,AA,I,II,U,UU,VOCALIC R,VOCALIC RR,CANDRA E,SHORT E,E,AI,CANDRA O"),
    (0x94A, "SHORT O,O,AU,,PRISHTHAMATRA E,AW,,,,,,CANDRA LONG E,UE,UUE"),
    (0x962, "VOCALIC L,VOCALIC LL"), (0xA8FF, "AY")]⟩,
  ⟨"BENGALI ", [(0x980, "ANJI,SIGN CANDRABINDU,SIGN ANUSVARA,SIGN VISARGA"),
    (0x9BC, "SIGN NUKTA,SIGN AVAGRAHA"), (0x9CD, "SIGN VIRAMA"), (0x9D7, "AU LENGTH MARK"),
    (0x9F2, "RUPEE MARK,RUPEE SIGN,CURRENCY NUMERATOR ONE,CURRENCY NUMERATOR TWO"),
    (0x9F6, "CURRENCY NUMERATOR THREE,CURRENCY NUMERATOR FOUR"),
    (0x9F8, "CURRENCY NUMERATOR ONE LESS THAN THE DENOMINATOR,CURRENCY DENOMINATOR SIXTEEN"),
    (0x9FA, "ISSHAR,GANDA MARK,,ABBREVIATION SIGN,SANDHI MARK")]⟩,
  ⟨"BENGALI LETTER ",
    [(0x985, "A,AA,I,II,U,UU,VOCALIC R,VOCALIC L,,,E,AI,,,O,AU,KA,KHA,GA,GHA,NGA,CA,CHA,JA"),
    (0x99D, "JHA,NYA,TTA,TTHA,DDA,DDHA,NNA,TA,THA,DA,DHA,NA,,PA,PHA,BA,BHA,MA,YA,RA,,LA"),
    (0x9B6, "SHA,SSA,SA,HA"), (0x9CE, "KHANDA TA"), (0x9DC, "RRA,RHA,,YYA,VOCALIC RR,VOCALIC LL"),
    (0x9F0, "RA WITH MIDDLE DIAGONAL,RA WITH LOWER DIAGONAL"), (0x9FC, "VEDIC ANUSVARA")]⟩,
  ⟨"BENGALI VOWEL SIGN ", [(0x9BE, "AA,I,II,U,UU,VOCALIC R,VOCALIC RR,,,E,AI,,,O,AU"),
    (0x9E2, "VOCALIC L,VOCALIC LL")]⟩,
  ⟨"BENGALI DIGIT ", [(0x9E6, "ZERO,ONE,TWO,THREE,FOUR,FIVE,SIX,SEVEN,EIGHT,NINE")]⟩,
  ⟨"GURMUKHI ", [(0xA01, "SIGN ADAK BINDI,SIGN BINDI,SIGN VISARGA"), (0xA3C, "SIGN NUKTA"),
    (0xA4D, "SIGN VIRAMA,,,,SIGN UDAAT"),
    (0xA70, "TIPPI,ADDAK,IRI,URA,EK ONKAR,SIGN YAKASH,ABBREVIATION SIGN")]⟩,
  ⟨"GURMUKHI LETTER ",
    [(0xA05, "A,AA,I,II,U,UU,,,,,EE,AI,,,OO,AU,KA,KHA,GA,GHA,NGA,CA,CHA,JA,JHA,NYA,TTA,TTHA"),
    (0xA21, "DDA,DDHA,NNA,TA,THA,DA,DHA,NA,,PA,PHA,BA,BHA,MA,YA,RA,,LA,LLA,,VA,SHA,,SA,HA"),
    (0xA59, "KHHA,GHHA,ZA,RRA,,FA")]⟩,
  ⟨"GURMUKHI VOWEL SIGN ", [(0xA3E, "AA,I,II,U,UU,,,,,EE,AI,,,OO,AU")]⟩,
  ⟨"GURMUKHI DIGIT ", [(0xA66, "ZERO,ONE,TWO,THREE,FOUR,FIVE,SIX,SEVEN,EIGHT,NINE")]⟩,
  ⟨"GUJARATI ", [(0xA81, "SIGN CANDRABINDU,SIGN ANUSVARA,SIGN VISARGA"),
    (0xA8D, "VOWEL CANDRA E,,,,VOWEL CANDRA O"), (0xABC, "SIGN NUKTA,SIGN AVAGRAHA"),
    (0xACD, "SIGN VIRAMA,,,OM"),
    (0xAF0, "ABBREVIATION SIGN,RUPEE SIGN,,,,,,,,,SIGN SUKUN,SIGN SHADDA,SIGN MADDAH"),
    (0xAFD, "SIGN THREE-DOT NUKTA ABOVE,SIGN CIRCLE NUKTA ABOVE"),
    (0xAFF, "SIGN TWO-CIRCLE NUKTA ABOVE")]⟩,
  ⟨"GUJARATI LETTER ",
    [(0xA85, "A,AA,I,II,U,UU,VOCALIC R,VOCALIC L,,,E,AI,,,O,AU,KA,KHA,GA,GHA,NGA,CA,CHA,JA"),
    (0xA9D, "JHA,NYA,TTA,TTHA,DDA,DDHA,NNA,TA,THA,DA,DHA,NA,,PA,PHA,BA,BHA,MA,YA,RA,,LA"),
    (0xAB3, "LLA,,VA,SHA,SSA,SA,HA"), (0xAE0, "VOCALIC RR,VOCALIC LL"), (0xAF9, "ZHA")]⟩,
  ⟨"GUJARATI VOWEL SIGN ",
    [(0xABE, "AA,I,II,U,UU,VOCALIC R,VOCALIC RR,CANDRA E,,E,AI,CANDRA O,,O,AU"),
    (0xAE2, "VOCALIC L,VOCALIC LL")]⟩,
  ⟨"GUJARATI DIGIT ", [(0xAE6, "ZERO,ONE,TWO,THREE,FOUR,FIVE,SIX,SEVEN,EIGHT,NINE")]⟩,
  ⟨"ORIYA ", [(0xB01, "SIGN CANDRABINDU,SIGN ANUSVARA,SIGN VISARGA"),
    (0xB3C, "SIGN NUKTA,SIGN AVAGRAHA"),
    (0xB4D, "SIGN VIRAMA,,,,,,,,SIGN OVERLINE,AI LENGTH MARK,AU LENGTH MARK"),
    (0xB70, "ISSHAR,,FRACTION ONE QUARTER,FRACTION ONE HALF,FRACTION THREE QUARTERS"),
    (0xB75, "FRACTION ONE SIXTEENTH,FRACTION ONE EIGHTH,FRACTION THREE SIXTEENTHS")]⟩,
  ⟨"ORIYA LETTER ",
    [(0xB05, "A,AA,I,II,U,UU,VOCALIC R,VOCALIC L,,,E,AI,,,O,AU,KA,KHA,GA,GHA,NGA,CA,CHA,JA"),
    (0xB1D, "JHA,NYA,TTA,TTHA,DDA,DDHA,NNA,TA,THA,DA,DHA,NA,,PA,PHA,BA,BHA,MA,YA,RA,,LA"),
    (0xB33, "LLA,,VA,SHA,SSA,SA,HA"), (0xB5C, "RRA,RHA,,YYA,VOCALIC RR,VOCALIC LL"),
    (0xB71, "WA")]⟩,
  ⟨"ORIYA VOWEL SIGN ", [(0xB3E, "AA,I,II,U,UU,VOCALIC R,VOCALIC RR,,,E,AI,,,O,AU"),
    (0xB62, "VOCALIC L,VOCALIC LL")]⟩,
  ⟨"ORIYA DIGIT ", [(0xB66, "ZERO,ONE,TWO,THREE,FOUR,FIVE,SIX,SEVEN,EIGHT,NINE")]⟩,
  ⟨"TAMIL SIGN ", [(0xB82, "ANUSVARA,VISARGA"), (0xBCD, "VIRAMA"),
    (0x11FD5, "NEL,CEVITU,AAZHAAKKU,UZHAKKU,MUUVUZHAKKU,KURUNI,PATHAKKU,MUKKURUNI,KAACU"),
    (0x11FDE, "PANAM,PON,VARAAKAN,PAARAM,KUZHI,VELI"), (0x11FF0, "MUTHALIYA,VAKAIYARAA")]⟩,
  ⟨"TAMIL LETTER ",
    [(0xB85, "A,AA,I,II,U,UU,,,,E,EE,AI,,O,OO,AU,KA,,,,NGA,CA,,JA,,NYA,TTA,,,,NNA,TA,,,,NA"),
    (0xBA9, "NNNA,PA,,,,MA,YA,RA,RRA,LA,LLA,LLLA,VA,SHA,SSA,SA,HA")]⟩,
  ⟨"TAMIL VOWEL SIGN ", [(0xBBE, "AA,I,II,U,UU,,,,E,EE,AI,,O,OO,AU")]⟩,
  ⟨"TAMIL ", [(0xBD0, "OM,,,,,,,AU LENGTH MARK"),
    (0xBF0, "NUMBER TEN,NUMBER ONE HUNDRED,NUMBER ONE THOUSAND,DAY SIGN,MONTH SIGN"),
    (0xBF5, "YEAR SIGN,DEBIT SIGN,CREDIT SIGN,AS ABOVE SIGN,RUPEE SIGN,NUMBER SIGN"),
    (0x11FE4, "WET CULTIVATION SIGN,DRY CULTIVATION SIGN,LAND SIGN,SALT PAN SIGN"),
    (0x11FE8, "TRADITIONAL CREDIT SIGN,TRADITIONAL NUMBER SIGN,CURRENT SIGN,AND ODD SIGN"),
    (0x11FEC, "SPENT SIGN,TOTAL SIGN,IN POSSESSION SIGN,STARTING FROM SIGN"),
    (0x11FFF, "PUNCTUATION END OF TEXT")]⟩,
  ⟨"TAMIL DIGIT ", [(0xBE6, "ZERO,ONE,TWO,THREE,FOUR,FIVE,SIX,SEVEN,EIGHT,NINE")]⟩,
  ⟨"TELUGU SIGN ", [(0xC00, "COMBINING CANDRABINDU ABOVE,CANDRABINDU,ANUSVARA,VISARGA"),
    (0xC04, "COMBINING ANUSVARA ABOVE"), (0xC3C, "NUKTA,AVAGRAHA"), (0xC4D, "VIRAMA"),
    (0xC77, "SIDDHAM,,,,,,,,TUUMU")]⟩,
  ⟨"TELUGU LETTER ",
    [(0xC05, "A,AA,I,II,U,UU,VOCALIC R,VOCALIC L,,E,EE,AI,,O,OO,AU,KA,KHA,GA,GHA,NGA,CA,CHA"),
    (0xC1C, "JA,JHA,NYA,TTA,TTHA,DDA,DDHA,NNA,TA,THA,DA,DHA,NA,,PA,PHA,BA,BHA,MA,YA,RA,RRA"),
    (0xC32, "LA,LLA,LLLA,VA,SHA,SSA,SA,HA"),
    (0xC58, "TSA,DZA,RRRA,,,NAKAARA POLLU,,,VOCALIC RR,VOCALIC LL")]⟩,
  ⟨"TELUGU VOWEL SIGN ", [(0xC3E, "AA,I,II,U,UU,VOCALIC R,VOCALIC RR,,E,EE,AI,,O,OO,AU"),
    (0xC62, "VOCALIC L,VOCALIC LL")]⟩,
  ⟨"TELUGU DIGIT ", [(0xC66, "ZERO,ONE,TWO,THREE,FOUR,FIVE,SIX,SEVEN,EIGHT,NINE")]⟩,
  ⟨"TELUGU FRACTION DIGIT ", [(0xC78, "ZERO FOR ODD POWERS OF FOUR,ONE FOR ODD POWERS OF FOUR"),
    (0xC7A, "TWO FOR ODD POWERS OF FOUR,THREE FOR ODD POWERS OF FOUR"),
    (0xC7C, "ONE FOR EVEN POWERS OF FOUR,TWO FOR EVEN POWERS OF FOUR"),
    (0xC7E, "THREE FOR EVEN POWERS OF FOUR")]⟩,
  ⟨"KANNADA SIGN ", [(0xC80, "SPACING CANDRABINDU,CANDRABINDU,ANUSVARA,VISARGA,SIDDHAM"),
    (0xCBC, "NUKTA,AVAGRAHA"), (0xCCD, "VIRAMA"), (0xCF1, "JIHVAMULIYA,UPADHMANIYA")]⟩,
  ⟨"KANNADA LETTER ",
    [(0xC85, "A,AA,I,II,U,UU,VOCALIC R,VOCALIC L,,E,EE,AI,,O,OO,AU,KA,KHA,GA,GHA,NGA,CA,CHA"),
    (0xC9C, "JA,JHA,NYA,TTA,TTHA,DDA,DDHA,NNA,TA,THA,DA,DHA,NA,,PA,PHA,BA,BHA,MA,YA,RA,RRA"),
    (0xCB2, "LA,LLA,,VA,SHA,SSA,SA,HA"), (0xCDD, "NAKAARA POLLU,FA,,VOCALIC RR,VOCALIC LL")]⟩,
  ⟨"KANNADA VOWEL SIGN ", [(0xCBE, "AA,I,II,U,UU,VOCALIC R,VOCALIC RR,,E,EE,AI,,O,OO,AU"),
    (0xCE2, "VOCALIC L,VOCALIC LL")]⟩,
  ⟨"KANNADA DIGIT ", [(0xCE6, "ZERO,ONE,TWO,THREE,FOUR,FIVE,SIX,SEVEN,EIGHT,NINE")]⟩,
  ⟨"MALAYALAM ",
    [(0xD00, "SIGN COMBINING ANUSVARA ABOVE,SIGN CANDRABINDU,SIGN ANUSVARA,SIGN VISARGA"),
    (0xD3B, "SIGN VERTICAL BAR VIRAMA,SIGN CIRCULAR VIRAMA,SIGN AVAGRAHA"),
    (0xD4D, "SIGN VIRAMA,,SIGN PARA,,,,,,,,AU LENGTH MARK"),
    (0xD70, "NUMBER TEN,NUMBER ONE HUNDRED,NUMBER ONE THOUSAND,,,,,,,DATE MARK")]⟩,
  ⟨"MALAYALAM LETTER ",
    [(0xD04, "VEDIC ANUSVARA,A,AA,I,II,U,UU,VOCALIC R,VOCALIC L,,E,EE,AI,,O,OO,AU,KA,KHA,GA"),
    (0xD18, "GHA,NGA,CA,CHA,JA,JHA,NYA,TTA,TTHA,DDA,DDHA,NNA,TA,THA,DA,DHA,NA,NNNA,PA,PHA"),
    (0xD2C, "BA,BHA,MA,YA,RA,RRA,LA,LLA,LLLA,VA,SHA,SSA,SA,HA,TTTA"),
    (0xD4E, "DOT REPH,,,,,,CHILLU M,CHILLU Y,CHILLU LLL,,,,,,,,,ARCHAIC II,VOCALIC RR"),
    (0xD61, "VOCALIC LL"), (0xD7A, "CHILLU NN,CHILLU N,CHILLU RR,CHILLU L,CHILLU LL,CHILLU K")]⟩,
  ⟨"MALAYALAM VOWEL SIGN ", [(0xD3E, "AA,I,II,U,UU,VOCALIC R,VOCALIC RR,,E,EE,AI,,O,OO,AU"),
    (0xD62, "VOCALIC L,VOCALIC LL")]⟩,
  ⟨"MALAYALAM FRACTION ",
    [(0xD58, "ONE ONE-HUNDRED-AND-SIXTIETH,ONE FORTIETH,THREE EIGHTIETHS,ONE TWENTIETH"),
    (0xD5C, "ONE TENTH,THREE TWENTIETHS,ONE FIFTH"),
    (0xD73, "ONE QUARTER,ONE HALF,THREE QUARTERS,ONE SIXTEENTH,ONE EIGHTH,THREE SIXTEENTHS")]⟩,
  ⟨"MALAYALAM DIGIT ", [(0xD66, "ZERO,ONE,TWO,THREE,FOUR,FIVE,SIX,SEVEN,EIGHT,NINE")]⟩,
  ⟨"SINHALA ", [(0xD81, "SIGN CANDRABINDU,SIGN ANUSVARAYA,SIGN VISARGAYA"),
    (0xDCA, "SIGN AL-LAKUNA"), (0xDF4, "PUNCTUATION KUNDDALIYA")]⟩,
  ⟨"SINHALA LETTER ",
    [(0xD85, "AYANNA,AAYANNA,AEYANNA,AEEYANNA,IYANNA,IIYANNA,UYANNA,UUYANNA,IRUYANNA"),
    (0xD8E, "IRUUYANNA,ILUYANNA,ILUUYANNA,EYANNA,EEYANNA,AIYANNA,OYANNA,OOYANNA,AUYANNA"),
    (0xD9E, "KANTAJA NAASIKYAYA,SANYAKA GAYANNA,,,,,TAALUJA NAASIKYAYA"),
    (0xDA5, "TAALUJA SANYOOGA NAAKSIKYAYA,SANYAKA JAYANNA,,,,,MUURDHAJA NAYANNA"),
    (0xDAC, "SANYAKA DDAYANNA,,,,,DANTAJA NAYANNA,,SANYAKA DAYANNA,,,,,MAYANNA"),
    (0xDB9, "AMBA BAYANNA,YAYANNA,RAYANNA,,DANTAJA LAYANNA,,,VAYANNA,TAALUJA SAYANNA"),
    (0xDC2, "MUURDHAJA SAYANNA,DANTAJA SAYANNA,HAYANNA,MUURDHAJA LAYANNA,FAYANNA")]⟩,
  ⟨"SINHALA LETTER ALPAPRAANA ",
    [(0xD9A, "KAYANNA,,GAYANNA,,,,CAYANNA,,JAYANNA,,,,,TTAYANNA,,DDAYANNA,,,,TAYANNA"),
    (0xDAF, "DAYANNA,,,,,PAYANNA,,BAYANNA")]⟩,
  ⟨"SINHALA LETTER MAHAAPRAANA ",
    [(0xD9B, "KAYANNA,,GAYANNA,,,,CAYANNA,,JAYANNA,,,,,TTAYANNA,,DDAYANNA,,,,TAYANNA"),
    (0xDB0, "DAYANNA,,,,,PAYANNA,,BAYANNA")]⟩,
  ⟨"SINHALA VOWEL SIGN ",
    [(0xDCF, "AELA-PILLA,KETTI AEDA-PILLA,DIGA AEDA-PILLA,KETTI IS-PILLA,DIGA IS-PILLA"),
    (0xDD4, "KETTI PAA-PILLA,,DIGA PAA-PILLA,,GAETTA-PILLA,KOMBUVA,DIGA KOMBUVA,KOMBU DEKA"),
    (0xDDC, "KOMBUVA HAA AELA-PILLA,KOMBUVA HAA DIGA AELA-PILLA,KOMBUVA HAA GAYANUKITTA"),
    (0xDDF, "GAYANUKITTA"), (0xDF2, "DIGA GAETTA-PILLA,DIGA GAYANUKITTA")]⟩,
  ⟨"SINHALA LITH DIGIT ", [(0xDE6, "ZERO,ONE,TWO,THREE,FOUR,FIVE,SIX,SEVEN,EIGHT,NINE")]⟩,
  ⟨"TIBETAN ", [(0xF00, "SYLLABLE OM"),
    (0xF15, "LOGOTYPE SIGN CHAD RTAGS,LOGOTYPE SIGN LHAG RTAGS"),
    (0xF17, "ASTROLOGICAL SIGN SGRA GCAN -CHAR RTAGS,ASTROLOGICAL SIGN -KHYUD PA"),
    (0xF19, "ASTROLOGICAL SIGN SDONG TSHUGS"),
    (0xF8D, "SUBJOINED SIGN LCE TSA CAN,SUBJOINED SIGN MCHU CAN"),
    (0xF8F, "SUBJOINED SIGN INVERTED MCHU CAN"),
    (0xFBE, "KU RU KHA,KU RU KHA BZHI MIG CAN,CANTILLATION SIGN HEAVY BEAT"),
    (0xFC1, "CANTILLATION SIGN LIGHT BEAT,CANTILLATION SIGN CANG TE-U"),
    (0xFC3, "CANTILLATION SIGN SBUB -CHAL,SYMBOL DRIL BU,SYMBOL RDO RJE,SYMBOL PADMA GDAN"),
    (0xFC7, "SYMBOL RDO RJE RGYA GRAM,SYMBOL PHUR PA,SYMBOL NOR BU"),
    (0xFCA, "SYMBOL NOR BU NYIS -KHYIL,SYMBOL NOR BU GSUM -KHYIL,SYMBOL NOR BU BZHI -KHYIL")]⟩,
  ⟨"TIBETAN MARK ", [(0xF01, "GTER YIG MGO TRUNCATED A,GTER YIG MGO -UM RNAM BCAD MA"),
    (0xF03, "GTER YIG MGO -UM GTER TSHEG MA,INITIAL YIG MGO MDUN MA"),
    (0xF05, "CLOSING YIG MGO SGAB MA,CARET YIG MGO PHUR SHAD MA,YIG MGO TSHEG SHAD MA"),
    (0xF08, "SBRUL SHAD,BSKUR YIG MGO,BKA- SHOG YIG MGO,INTERSYLLABIC TSHEG"),
    (0xF0C, "DELIMITER TSHEG BSTAR,SHAD,NYIS SHAD,TSHEG SHAD,NYIS TSHEG SHAD"),
    (0xF11, "RIN CHEN SPUNGS SHAD,RGYA GRAM SHAD,CARET -DZUD RTAGS ME LONG CAN,GTER TSHEG"),
    (0xF34, "BSDUS RTAGS,NGAS BZUNG NYI ZLA,CARET -DZUD RTAGS BZHI MIG CAN"),
    (0xF37, "NGAS BZUNG SGOR RTAGS,CHE MGO,TSA -PHRU,GUG RTAGS GYON,GUG RTAGS GYAS"),
    (0xF3C, "ANG KHANG GYON,ANG KHANG GYAS"), (0xF84, "HALANTA,PALUTA"),
    (0xFD0, "BSKA- SHOG GI MGO RGYAN,MNYAM YIG GI MGO RGYAN,NYIS TSHEG"),
    (0xFD3, "INITIAL BRDA RNYING YIG MGO MDUN MA,CLOSING BRDA RNYING YIG MGO SGAB MA"),
    (0xFD9, "LEADING MCHAN RTAGS,TRAILING MCHAN RTAGS")]⟩,
  ⟨"TIBETAN SIGN ",
    [(0xF1A, "RDEL DKAR GCIG,RDEL DKAR GNYIS,RDEL DKAR GSUM,RDEL NAG GCIG,RDEL NAG GNYIS"),
    (0xF1F, "RDEL DKAR RDEL NAG"), (0xF3E, "YAR TSHES,MAR TSHES"),
    (0xF7E, "RJES SU NGA RO,RNAM BCAD,,,NYI ZLA NAA DA,SNA LDAN,,,LCI RTAGS,YANG RTAGS"),
    (0xF88, "LCE TSA CAN,MCHU CAN,GRU CAN RGYINGS,GRU MED RGYINGS,INVERTED MCHU CAN"),
    (0xFCE, "RDEL NAG RDEL DKAR,RDEL NAG GSUM")]⟩,
  ⟨"TIBETAN DIGIT ",
    [(0xF20, "ZERO,ONE,TWO,THREE,FOUR,FIVE,SIX,SEVEN,EIGHT,NINE,HALF ONE,HALF TWO"),
    (0xF2C, "HALF THREE,HALF FOUR,HALF FIVE,HALF SIX,HALF SEVEN,HALF EIGHT,HALF NINE"),
    (0xF33, "HALF ZERO")]⟩,
  ⟨"TIBETAN LETTER ",
    [(0xF40, "KA,KHA,GA,GHA,NGA,CA,CHA,JA,,NYA,TTA,TTHA,DDA,DDHA,NNA,TA,THA,DA,DHA,NA,PA"),
    (0xF55, "PHA,BA,BHA,MA,TSA,TSHA,DZA,DZHA,WA,ZHA,ZA,-A,YA,RA,LA,SHA,SSA,SA,HA,A,KSSA"),
    (0xF6A, "FIXED-FORM RA,KKA,RRA")]⟩,
  ⟨"TIBETAN VOWEL SIGN ",
    [(0xF71, "AA,I,II,U,UU,VOCALIC R,VOCALIC RR,VOCALIC L,VOCALIC LL,E,EE,O,OO,,,REVERSED I"),
    (0xF81, "REVERSED II")]⟩,
  ⟨"TIBETAN SUBJOINED LETTER ",
    [(0xF90, "KA,KHA,GA,GHA,NGA,CA,CHA,JA,,NYA,TTA,TTHA,DDA,DDHA,NNA,TA,THA,DA,DHA,NA,PA"),
    (0xFA5, "PHA,BA,BHA,MA,TSA,TSHA,DZA,DZHA,WA,ZHA,ZA,-A,YA,RA,LA,SHA,SSA,SA,HA,A,KSSA"),
    (0xFBA, "FIXED-FORM WA,FIXED-FORM YA,FIXED-FORM RA")]⟩,
  ⟨"MONGOLIAN ", [(0x1800, "BIRGA,ELLIPSIS,COMMA,FULL STOP,COLON,FOUR DOTS,TODO SOFT HYPHEN"),
    (0x1807, "SIBE SYLLABLE BOUNDARY MARKER,MANCHU COMMA,MANCHU FULL STOP,NIRUGU"),
    (0x180E, "VOWEL SEPARATOR"),
    (0x11660, "BIRGA WITH ORNAMENT,ROTATED BIRGA,DOUBLE BIRGA WITH ORNAMENT"),
    (0x11663, "TRIPLE BIRGA WITH ORNAMENT,BIRGA WITH DOUBLE ORNAMENT"),
    (0x11665, "ROTATED BIRGA WITH ORNAMENT,ROTATED BIRGA WITH DOUBLE ORNAMENT,INVERTED BIRGA"),
    (0x11668, "INVERTED BIRGA WITH DOUBLE ORNAMENT,SWIRL BIRGA,SWIRL BIRGA WITH ORNAMENT"),
    (0x1166B, "SWIRL BIRGA WITH DOUBLE ORNAMENT,TURNED SWIRL BIRGA WITH DOUBLE ORNAMENT")]⟩,
  ⟨"MONGOLIAN FREE VARIATION ",
    [(0x180B, "SELECTOR ONE,SELECTOR TWO,SELECTOR THREE,,SELECTOR FOUR")]⟩,
  ⟨"MONGOLIAN DIGIT ", [(0x1810, "ZERO,ONE,TWO,THREE,FOUR,FIVE,SIX,SEVEN,EIGHT,NINE")]⟩,
  ⟨"MONGOLIAN LETTER ",
    [(0x1820, "A,E,I,O,U,OE,UE,EE,NA,ANG,BA,PA,QA,GA,MA,LA,SA,SHA,TA,DA,CHA,JA,YA,RA,WA,FA"),
    (0x183A, "KA,KHA,TSA,ZA,HAA,ZRA,LHA,ZHI,CHI"),
    (0x1873, "MANCHU I,MANCHU KA,MANCHU RA,MANCHU FA,MANCHU ZHA,CHA WITH TWO DOTS")]⟩,
  ⟨"MONGOLIAN LETTER TODO ",
    [(0x1843, "LONG VOWEL SIGN,E,I,O,U,OE,UE,ANG,BA,PA,QA,GA,MA,TA,DA,CHA,JA,TSA,YA,WA,KA"),
    (0x1858, "GAA,HAA,JIA,NIA,DZA"), (0x1898, "ALI GALI TA,ALI GALI ZHA")]⟩,
  ⟨"MONGOLIAN LETTER SIBE ",
    [(0x185D, "E,I,IY,UE,U,ANG,KA,GA,HA,PA,SHA,TA,DA,JA,FA,GAA,HAA,TSA,ZA,RAA,CHA,ZHA")]⟩,
  ⟨"MONGOLIAN LETTER ALI GALI ",
    [(0x1880, "ANUSVARA ONE,VISARGA ONE,DAMARU,UBADAMA,INVERTED UBADAMA,BALUDA,THREE BALUDA"),
    (0x1887, "A,I,KA,NGA,CA,TTA,TTHA,DDA,NNA,TA,DA,PA,PHA,SSA,ZHA,ZA,AH"),
    (0x18A6, "HALF U,HALF YA,,DAGALGA")]⟩,
  ⟨"MONGOLIAN LETTER MANCHU ALI GALI ",
    [(0x189A, "GHA,NGA,CA,JHA,TTA,DDHA,TA,DHA,SSA,CYA,ZHA,ZA,,,BHA,,LHA")]⟩,
  ⟨"LIMBU ", [(0x1900, "VOWEL-CARRIER LETTER"),
    (0x1929, "SUBJOINED LETTER YA,SUBJOINED LETTER RA,SUBJOINED LETTER WA"),
    (0x1939, "SIGN MUKPHRENG,SIGN KEMPHRENG,SIGN SA-I,,,,,SIGN LOO,,,,EXCLAMATION MARK"),
    (0x1945, "QUESTION MARK")]⟩,
  ⟨"LIMBU LETTER ",
    [(0x1901, "KA,KHA,GA,GHA,NGA,CA,CHA,JA,JHA,YAN,TA,THA,DA,DHA,NA,PA,PHA,BA,BHA,MA,YA,RA"),
    (0x1917, "LA,WA,SHA,SSA,SA,HA,GYAN,TRA")]⟩,
  ⟨"LIMBU VOWEL SIGN ", [(0x1920, "A,I,U,EE,AI,OO,AU,E,O")]⟩,
  ⟨"LIMBU SMALL LETTER ", [(0x1930, "KA,NGA,ANUSVARA,TA,NA,PA,MA,RA,LA")]⟩,
  ⟨"LIMBU DIGIT ", [(0x1946, "ZERO,ONE,TWO,THREE,FOUR,FIVE,SIX,SEVEN,EIGHT,NINE")]⟩,
  ⟨"LEPCHA LETTER ",
    [(0x1C00, "KA,KLA,KHA,GA,GLA,NGA,CA,CHA,JA,NYA,TA,THA,DA,NA,PA,PLA,PHA,FA,FLA,BA,BLA,MA"),
    (0x1C16, "MLA,TSA,TSHA,DZA,YA,RA,LA,HA,HLA,VA,SA,SHA,WA,A"), (0x1C4D, "TTA,TTHA,DDA")]⟩,
  ⟨"LEPCHA ", [(0x1C24, "SUBJOINED LETTER YA,SUBJOINED LETTER RA"),
    (0x1C36, "SIGN RAN,SIGN NUKTA,,,,PUNCTUATION TA-ROL,PUNCTUATION NYET THYOOM TA-ROL"),
    (0x1C3D, "PUNCTUATION CER-WA,PUNCTUATION TSHOOK CER-WA,PUNCTUATION TSHOOK")]⟩,
  ⟨"LEPCHA VOWEL SIGN ", [(0x1C26, "AA,I,O,OO,U,UU,E")]⟩,
  ⟨"LEPCHA CONSONANT SIGN ", [(0x1C2D, "K,M,L,N,P,R,T,NYIN-DO,KANG")]⟩,
  ⟨"LEPCHA DIGIT ", [(0x1C40, "ZERO,ONE,TWO,THREE,FOUR,FIVE,SIX,SEVEN,EIGHT,NINE")]⟩,
  ⟨"OL CHIKI DIGIT ", [(0x1C50, "ZERO,ONE,TWO,THREE,FOUR,FIVE,SIX,SEVEN,EIGHT,NINE")]⟩,
  ⟨"OL CHIKI LETTER ",
    [(0x1C5A, "LA,AT,AG,ANG,AL,LAA,AAK,AAJ,AAM,AAW,LI,IS,IH,INY,IR,LU,UC,UD,UNN,UY,LE,EP,EDD"),
    (0x1C71, "EN,ERR,LO,OTT,OB,OV,OH")]⟩,
  ⟨"OL CHIKI ", [(0x1C78, "MU TTUDDAG,GAAHLAA TTUDDAAG,MU-GAAHLAA TTUDDAAG,RELAA,PHAARKAA,AHAD"),
    (0x1C7E, "PUNCTUATION MUCAAD,PUNCTUATION DOUBLE MUCAAD")]⟩,
  ⟨"SUNDANESE PUNCTUATION BINDU ",
    [(0x1CC0, "SURYA,PANGLONG,PURNAMA,CAKRA,LEU SATANGA,KA SATANGA,DA SATANGA,BA SATANGA")]⟩,
  ⟨"VEDIC TONE ", [(0x1CD0, "KARSHANA,SHARA,PRENKHA,,,YAJURVEDIC AGGRAVATED INDEPENDENT SVARITA"),
    (0x1CD6, "YAJURVEDIC INDEPENDENT SVARITA,YAJURVEDIC KATHAKA INDEPENDENT SVARITA"),
    (0x1CD8, "CANDRA BELOW,YAJURVEDIC KATHAKA INDEPENDENT SVARITA SCHROEDER,DOUBLE SVARITA"),
    (0x1CDB, "TRIPLE SVARITA,KATHAKA ANUDATTA,DOT BELOW,TWO DOTS BELOW,THREE DOTS BELOW"),
    (0x1CE0, "RIGVEDIC KASHMIRI INDEPENDENT SVARITA,ATHARVAVEDIC INDEPENDENT SVARITA"),
    (0x1CF4, "CANDRA ABOVE,,,,RING ABOVE,DOUBLE RING ABOVE")]⟩,
  ⟨"VEDIC SIGN ", [(0x1CD3, "NIHSHVASA,YAJURVEDIC MIDLINE SVARITA"),
    (0x1CE2, "VISARGA SVARITA,VISARGA UDATTA,REVERSED VISARGA UDATTA,VISARGA ANUDATTA"),
    (0x1CE6, "REVERSED VISARGA ANUDATTA,VISARGA UDATTA WITH TAIL,VISARGA ANUDATTA WITH TAIL"),
    (0x1CE9, "ANUSVARA ANTARGOMUKHA,ANUSVARA BAHIRGOMUKHA,ANUSVARA VAMAGOMUKHA"),
    (0x1CEC, "ANUSVARA VAMAGOMUKHA WITH TAIL,TIRYAK,HEXIFORM LONG ANUSVARA,LONG ANUSVARA"),
    (0x1CF0, "RTHANG LONG ANUSVARA,ANUSVARA UBHAYATO MUKHA,ARDHAVISARGA"),
    (0x1CF3, "ROTATED ARDHAVISARGA,,JIHVAMULIYA,UPADHMANIYA,ATIKRAMA"),
    (0x1CFA, "DOUBLE ANUSVARA ANTARGOMUKHA")]⟩,
  ⟨"SYLOTI NAGRI LETTER ",
    [(0xA800, "A,I,,U,E,O,,KO,KHO,GO,GHO,,CO,CHO,JO,JHO,TTO,TTHO,DDO,DDHO,TO,THO,DO,DHO,NO"),
    (0xA819, "PO,PHO,BO,BHO,MO,RO,LO,RRO,SO,HO")]⟩,
  ⟨"SYLOTI NAGRI ", [(0xA802, "SIGN DVISVARA,,,,SIGN HASANTA,,,,,SIGN ANUSVARA"),
    (0xA823, "VOWEL SIGN A,VOWEL SIGN I,VOWEL SIGN U,VOWEL SIGN E,VOWEL SIGN OO"),
    (0xA828, "POETRY MARK-1,POETRY MARK-2,POETRY MARK-3,POETRY MARK-4"),
    (0xA82C, "SIGN ALTERNATE HASANTA")]⟩,
  ⟨"NORTH INDIC ", [(0xA830, "FRACTION ONE QUARTER,FRACTION ONE HALF,FRACTION THREE QUARTERS"),
    (0xA833, "FRACTION ONE SIXTEENTH,FRACTION ONE EIGHTH,FRACTION THREE SIXTEENTHS"),
    (0xA836, "QUARTER MARK,PLACEHOLDER MARK,RUPEE MARK,QUANTITY MARK")]⟩,
  ⟨"PHAGS-PA LETTER ",
    [(0xA840, "KA,KHA,GA,NGA,CA,CHA,JA,NYA,TA,THA,DA,NA,PA,PHA,BA,MA,TSA,TSHA,DZA,WA,ZHA,ZA"),
    (0xA856, "SMALL A,YA,RA,LA,SHA,SA,HA,A,I,U,E,O,QA,XA,FA,GGA,EE,,,TTA,TTHA,DDA,NNA"),
    (0xA86D, "ALTERNATE YA,VOICELESS SHA,VOICED HA,ASPIRATED FA,,,CANDRABINDU")]⟩,
  ⟨"PHAGS-PA ", [(0xA867, "SUBJOINED LETTER WA,SUBJOINED LETTER YA,,,,,,,,,SUBJOINED LETTER RA"),
    (0xA872, "SUPERFIXED LETTER RA,,SINGLE HEAD MARK,DOUBLE HEAD MARK,MARK SHAD"),
    (0xA877, "MARK DOUBLE SHAD")]⟩,
  ⟨"SAURASHTRA ", [(0xA880, "SIGN ANUSVARA,SIGN VISARGA"), (0xA8B4, "CONSONANT SIGN HAARU"),
    (0xA8C4, "SIGN VIRAMA,SIGN CANDRABINDU,,,,,,,,,DANDA,DOUBLE DANDA,DIGIT ZERO,DIGIT ONE"),
    (0xA8D2, "DIGIT TWO,DIGIT THREE,DIGIT FOUR,DIGIT FIVE,DIGIT SIX,DIGIT SEVEN,DIGIT EIGHT"),
    (0xA8D9, "DIGIT NINE")]⟩,
  ⟨"SAURASHTRA LETTER ",
    [(0xA882, "A,AA,I,II,U,UU,VOCALIC R,VOCALIC RR,VOCALIC L,VOCALIC LL,E,EE,AI,O,OO,AU,KA"),
    (0xA893, "KHA,GA,GHA,NGA,CA,CHA,JA,JHA,NYA,TTA,TTHA,DDA,DDHA,NNA,TA,THA,DA,DHA,NA,PA"),
    (0xA8A7, "PHA,BA,BHA,MA,YA,RA,LA,VA,SHA,SSA,SA,HA,LLA")]⟩,
  ⟨"SAURASHTRA VOWEL SIGN ",
    [(0xA8B5, "AA,I,II,U,UU,VOCALIC R,VOCALIC RR,VOCALIC L,VOCALIC LL,E,EE,AI,O,OO,AU")]⟩,
  ⟨"COMBINING DEVANAGARI ",
    [(0xA8E0, "DIGIT ZERO,DIGIT ONE,DIGIT TWO,DIGIT THREE,DIGIT FOUR,DIGIT FIVE,DIGIT SIX"),
    (0xA8E7, "DIGIT SEVEN,DIGIT EIGHT,DIGIT NINE,LETTER A,LETTER U,LETTER KA,LETTER NA"),
    (0xA8EE, "LETTER PA,LETTER RA,LETTER VI,SIGN AVAGRAHA")]⟩,
  ⟨"KAYAH LI DIGIT ", [(0xA900, "ZERO,ONE,TWO,THREE,FOUR,FIVE,SIX,SEVEN,EIGHT,NINE")]⟩,
  ⟨"KAYAH LI LETTER ",
    [(0xA90A, "KA,KHA,GA,NGA,SA,SHA,ZA,NYA,TA,HTA,NA,PA,PHA,MA,DA,BA,RA,YA,LA,WA,THA,HA,VA"),
    (0xA921, "CA,A,OE,I,OO")]⟩,
  ⟨"KAYAH LI ", [(0xA926, "VOWEL UE,VOWEL E,VOWEL U,VOWEL EE,VOWEL O,TONE PLOPHU,TONE CALYA"),
    (0xA92D, "TONE CALYA PLOPHU,SIGN CWI,SIGN SHYA")]⟩,
  ⟨"MEETEI MAYEK LETTER ", [(0xAAE0, "E,O,CHA,NYA,TTA,TTHA,DDA,DDHA,NNA,SHA,SSA"),
    (0xABC0, "KOK,SAM,LAI,MIT,PA,NA,CHIL,TIL,KHOU,NGOU,THOU,WAI,YANG,HUK,UN,I,PHAM,ATIYA"),
    (0xABD2, "GOK,JHAM,RAI,BA,JIL,DIL,GHOU,DHOU,BHAM,KOK LONSUM,LAI LONSUM,MIT LONSUM"),
    (0xABDE, "PA LONSUM,NA LONSUM,TIL LONSUM,NGOU LONSUM,I LONSUM")]⟩,
  ⟨"MEETEI MAYEK VOWEL SIGN ", [(0xAAEB, "II,UU,AAI,AU,AAU,,,,,,VISARGA"),
    (0xABE3, "ONAP,INAP,ANAP,YENAP,SOUNAP,UNAP,CHEINAP,NUNG")]⟩,
  ⟨"MEETEI MAYEK ",
    [(0xAAF0, "CHEIKHAN,AHANG KHUDAM,ANJI,SYLLABLE REPETITION MARK,WORD REPETITION MARK"),
    (0xAAF6, "VIRAMA"),
    (0xABEB, "CHEIKHEI,LUM IYEK,APUN IYEK,,,DIGIT ZERO,DIGIT ONE,DIGIT TWO,DIGIT THREE"),
    (0xABF4, "DIGIT FOUR,DIGIT FIVE,DIGIT SIX,DIGIT SEVEN,DIGIT EIGHT,DIGIT NINE")]⟩,
  ⟨"BRAHMI ",
    [(0x11000, "SIGN CANDRABINDU,SIGN ANUSVARA,SIGN VISARGA,SIGN JIHVAMULIYA,SIGN UPADHMANIYA"),
    (0x11046, "VIRAMA,DANDA,DOUBLE DANDA,PUNCTUATION DOT,PUNCTUATION DOUBLE DOT"),
    (0x1104B, "PUNCTUATION LINE,PUNCTUATION CRESCENT BAR,PUNCTUATION LOTUS"),
    (0x11070, "SIGN OLD TAMIL VIRAMA")]⟩,
  ⟨"BRAHMI LETTER ",
    [(0x11005, "A,AA,I,II,U,UU,VOCALIC R,VOCALIC RR,VOCALIC L,VOCALIC LL,E,AI,O,AU,KA,KHA,GA"),
    (0x11016, "GHA,NGA,CA,CHA,JA,JHA,NYA,TTA,TTHA,DDA,DDHA,NNA,TA,THA,DA,DHA,NA,PA,PHA,BA"),
    (0x1102A, "BHA,MA,YA,RA,LA,VA,SHA,SSA,SA,HA,LLA")]⟩,
  ⟨"BRAHMI LETTER OLD TAMIL ", [(0x11035, "LLLA,RRA,NNNA"), (0x11071, "SHORT E,SHORT O,,,LLA")]⟩,
  ⟨"BRAHMI VOWEL SIGN ",
    [(0x11038, "AA,BHATTIPROLU AA,I,II,U,UU,VOCALIC R,VOCALIC RR,VOCALIC L,VOCALIC LL,E,AI,O"),
    (0x11045, "AU"), (0x11073, "OLD TAMIL SHORT E,OLD TAMIL SHORT O")]⟩,
  ⟨"BRAHMI NUMBER ",
    [(0x11052, "ONE,TWO,THREE,FOUR,FIVE,SIX,SEVEN,EIGHT,NINE,TEN,TWENTY,THIRTY,FORTY,FIFTY"),
    (0x11060, "SIXTY,SEVENTY,EIGHTY,NINETY,ONE HUNDRED,ONE THOUSAND"), (0x1107F, "JOINER")]⟩,
  ⟨"BRAHMI DIGIT ", [(0x11066, "ZERO,ONE,TWO,THREE,FOUR,FIVE,SIX,SEVEN,EIGHT,NINE")]⟩,
  ⟨"KAITHI ", [(0x11080, "SIGN CANDRABINDU,SIGN ANUSVARA,SIGN VISARGA"),
    (0x110B9, "SIGN VIRAMA,SIGN NUKTA,ABBREVIATION SIGN,ENUMERATION SIGN,NUMBER SIGN"),
    (0x110BE, "SECTION MARK,DOUBLE SECTION MARK,DANDA,DOUBLE DANDA"),
    (0x110CD, "NUMBER SIGN ABOVE")]⟩,
  ⟨"KAITHI LETTER ",
    [(0x11083, "A,AA,I,II,U,UU,E,AI,O,AU,KA,KHA,GA,GHA,NGA,CA,CHA,JA,JHA,NYA,TTA,TTHA,DDA"),
    (0x1109A, "DDDHA,DDHA,RHA,NNA,TA,THA,DA,DHA,NA,PA,PHA,BA,BHA,MA,YA,RA,LA,VA,SHA,SSA,SA"),
    (0x110AF, "HA")]⟩,
  ⟨"KAITHI VOWEL SIGN ", [(0x110B0, "AA,I,II,U,UU,E,AI,O,AU"), (0x110C2, "VOCALIC R")]⟩,
  ⟨"SORA SOMPENG LETTER ",
    [(0x110D0, "SAH,TAH,BAH,CAH,DAH,GAH,MAH,NGAH,LAH,NAH,VAH,PAH,YAH,RAH,HAH,KAH,JAH,NYAH,AH"),
    (0x110E3, "EEH,IH,UH,OH,EH,MAE")]⟩,
  ⟨"SORA SOMPENG DIGIT ", [(0x110F0, "ZERO,ONE,TWO,THREE,FOUR,FIVE,SIX,SEVEN,EIGHT,NINE")]⟩,
  ⟨"CHAKMA ", [(0x11100, "SIGN CANDRABINDU,SIGN ANUSVARA,SIGN VISARGA"),
    (0x11131, "O MARK,AU MARK,VIRAMA,MAAYYAA,,DIGIT ZERO,DIGIT ONE,DIGIT TWO,DIGIT THREE"),
    (0x1113A, "DIGIT FOUR,DIGIT FIVE,DIGIT SIX,DIGIT SEVEN,DIGIT EIGHT,DIGIT NINE"),
    (0x11140, "SECTION MARK,DANDA,DOUBLE DANDA,QUESTION MARK")]⟩,
  ⟨"CHAKMA LETTER ",
    [(0x11103, "AA,I,U,E,KAA,KHAA,GAA,GHAA,NGAA,CAA,CHAA,JAA,JHAA,NYAA,TTAA,TTHAA,DDAA,DDHAA"),
    (0x11115, "NNAA,TAA,THAA,DAA,DHAA,NAA,PAA,PHAA,BAA,BHAA,MAA,YYAA,YAA,RAA,LAA,WAA,SAA,HAA"),
    (0x11144, "LHAA,,,VAA")]⟩,
  ⟨"CHAKMA VOWEL SIGN ", [(0x11127, "A,I,II,U,UU,E,AI,O,AU,OI"), (0x11145, "AA,EI")]⟩,
  ⟨"MAHAJANI LETTER ",
    [(0x11150, "A,I,U,E,O,KA,KHA,GA,GHA,CA,CHA,JA,JHA,NYA,TTA,TTHA,DDA,DDHA,NNA,TA,THA,DA,DHA"),
    (0x11167, "NA,PA,PHA,BA,BHA,MA,RA,LA,VA,SA,HA,RRA")]⟩,
  ⟨"SHARADA ", [(0x11180, "SIGN CANDRABINDU,SIGN ANUSVARA,SIGN VISARGA"),
    (0x111C0, "SIGN VIRAMA,SIGN AVAGRAHA,SIGN JIHVAMULIYA,SIGN UPADHMANIYA,OM,DANDA"),
    (0x111C6, "DOUBLE DANDA,ABBREVIATION SIGN,SEPARATOR,SANDHI MARK,SIGN NUKTA"),
    (0x111CB, "VOWEL MODIFIER MARK,EXTRA SHORT VOWEL MARK,SUTRA MARK"),
    (0x111CF, "SIGN INVERTED CANDRABINDU,DIGIT ZERO,DIGIT ONE,DIGIT TWO,DIGIT THREE"),
    (0x111D4, "DIGIT FOUR,DIGIT FIVE,DIGIT SIX,DIGIT SEVEN,DIGIT EIGHT,DIGIT NINE,EKAM"),
    (0x111DB, "SIGN SIDDHAM,HEADSTROKE,CONTINUATION SIGN,SECTION MARK-1,SECTION MARK-2")]⟩,
  ⟨"SHARADA LETTER ",
    [(0x11183, "A,AA,I,II,U,UU,VOCALIC R,VOCALIC RR,VOCALIC L,VOCALIC LL,E,AI,O,AU,KA,KHA,GA"),
    (0x11194, "GHA,NGA,CA,CHA,JA,JHA,NYA,TTA,TTHA,DDA,DDHA,NNA,TA,THA,DA,DHA,NA,PA,PHA,BA"),
    (0x111A8, "BHA,MA,YA,RA,LA,LLA,VA,SHA,SSA,SA,HA")]⟩,
  ⟨"SHARADA VOWEL SIGN ",
    [(0x111B3, "AA,I,II,U,UU,VOCALIC R,VOCALIC RR,VOCALIC L,VOCALIC LL,E,AI,O,AU"),
    (0x111CE, "PRISHTHAMATRA E")]⟩,
  ⟨"SINHALA ARCHAIC DIGIT ", [(0x111E1, "ONE,TWO,THREE,FOUR,FIVE,SIX,SEVEN,EIGHT,NINE")]⟩,
  ⟨"SINHALA ARCHAIC NUMBER ",
    [(0x111EA, "TEN,TWENTY,THIRTY,FORTY,FIFTY,SIXTY,SEVENTY,EIGHTY,NINETY,ONE HUNDRED"),
    (0x111F4, "ONE THOUSAND")]⟩,
  ⟨"KHOJKI LETTER ",
    [(0x11200, "A,AA,I,U,E,AI,O,AU,KA,KHA,GA,GGA,GHA,NGA,CA,CHA,JA,JJA,,NYA,TTA,TTHA,DDA,DDHA"),
    (0x11218, "NNA,TA,THA,DA,DDDA,DHA,NA,PA,PHA,BA,BBA,BHA,MA,YA,RA,LA,VA,SA,HA,LLA")]⟩,
  ⟨"KHOJKI VOWEL SIGN ", [(0x1122C, "AA,I,II,U,E,AI,O,AU")]⟩,
  ⟨"KHOJKI ", [(0x11234, "SIGN ANUSVARA,SIGN VIRAMA,SIGN NUKTA,SIGN SHADDA,DANDA,DOUBLE DANDA"),
    (0x1123A, "WORD SEPARATOR,SECTION MARK,DOUBLE SECTION MARK,ABBREVIATION SIGN,SIGN SUKUN")]⟩,
  ⟨"MULTANI LETTER ",
    [(0x11280, "A,I,U,E,KA,KHA,GA,,GHA,,CA,CHA,JA,JJA,,NYA,TTA,TTHA,DDA,DDDA,DDHA,NNA,TA,THA"),
    (0x11298, "DA,DHA,NA,PA,PHA,BA,,BHA,MA,YA,RA,LA,VA,SA,HA,RRA,RHA")]⟩,
  ⟨"KHUDAWADI LETTER ",
    [(0x112B0, "A,AA,I,II,U,UU,E,AI,O,AU,KA,KHA,GA,GGA,GHA,NGA,CA,CHA,JA,JJA,JHA,NYA,TTA,TTHA"),
    (0x112C8, "DDA,DDDA,RRA,DDHA,NNA,TA,THA,DA,DHA,NA,PA,PHA,BA,BBA,BHA,MA,YA,RA,LA,VA,SHA"),
    (0x112DD, "SA,HA")]⟩,
  ⟨"KHUDAWADI VOWEL SIGN ", [(0x112E0, "AA,I,II,U,UU,E,AI,O,AU")]⟩,
  ⟨"KHUDAWADI DIGIT ", [(0x112F0, "ZERO,ONE,TWO,THREE,FOUR,FIVE,SIX,SEVEN,EIGHT,NINE")]⟩,
  ⟨"GRANTHA ",
    [(0x11300, "SIGN COMBINING ANUSVARA ABOVE,SIGN CANDRABINDU,SIGN ANUSVARA,SIGN VISARGA"),
    (0x1133C, "SIGN NUKTA,SIGN AVAGRAHA"),
    (0x1134D, "SIGN VIRAMA,,,OM,,,,,,,AU LENGTH MARK,,,,,,SIGN PLUTA")]⟩,
  ⟨"GRANTHA LETTER ",
    [(0x11305, "A,AA,I,II,U,UU,VOCALIC R,VOCALIC L,,,EE,AI,,,OO,AU,KA,KHA,GA,GHA,NGA,CA,CHA"),
    (0x1131C, "JA,JHA,NYA,TTA,TTHA,DDA,DDHA,NNA,TA,THA,DA,DHA,NA,,PA,PHA,BA,BHA,MA,YA,RA,,LA"),
    (0x11333, "LLA,,VA,SHA,SSA,SA,HA"),
    (0x1135E, "VEDIC ANUSVARA,VEDIC DOUBLE ANUSVARA,VOCALIC RR,VOCALIC LL")]⟩,
  ⟨"GRANTHA VOWEL SIGN ", [(0x1133E, "AA,I,II,U,UU,VOCALIC R,VOCALIC RR,,,EE,AI,,,OO,AU"),
    (0x11362, "VOCALIC L,VOCALIC LL")]⟩,
  ⟨"COMBINING GRANTHA ",
    [(0x11366, "DIGIT ZERO,DIGIT ONE,DIGIT TWO,DIGIT THREE,DIGIT FOUR,DIGIT FIVE,DIGIT SIX"),
    (0x11370, "LETTER A,LETTER KA,LETTER NA,LETTER VI,LETTER PA")]⟩,
  ⟨"NEWA LETTER ",
    [(0x11400, "A,AA,I,II,U,UU,VOCALIC R,VOCALIC RR,VOCALIC L,VOCALIC LL,E,AI,O,AU,KA,KHA,GA"),
    (0x11411, "GHA,NGA,NGHA,CA,CHA,JA,JHA,NYA,NYHA,TTA,TTHA,DDA,DDHA,NNA,TA,THA,DA,DHA,NA"),
    (0x11424, "NHA,PA,PHA,BA,BHA,MA,MHA,YA,RA,RHA,LA,LHA,WA,SHA,SSA,SA,HA"),
    (0x1145F, "VEDIC ANUSVARA")]⟩,
  ⟨"NEWA VOWEL SIGN ",
    [(0x11435, "AA,I,II,U,UU,VOCALIC R,VOCALIC RR,VOCALIC L,VOCALIC LL,E,AI,O,AU")]⟩,
  ⟨"NEWA ", [(0x11442, "SIGN VIRAMA,SIGN CANDRABINDU,SIGN ANUSVARA,SIGN VISARGA,SIGN NUKTA"),
    (0x11447, "SIGN AVAGRAHA,SIGN FINAL ANUSVARA,OM,SIDDHI,DANDA,DOUBLE DANDA,COMMA"),
    (0x1144E, "GAP FILLER,ABBREVIATION SIGN,DIGIT ZERO,DIGIT ONE,DIGIT TWO,DIGIT THREE"),
    (0x11454, "DIGIT FOUR,DIGIT FIVE,DIGIT SIX,DIGIT SEVEN,DIGIT EIGHT,DIGIT NINE"),
    (0x1145A, "DOUBLE COMMA,PLACEHOLDER MARK,,INSERTION SIGN,SANDHI MARK,,SIGN JIHVAMULIYA"),
    (0x11461, "SIGN UPADHMANIYA")]⟩,
  ⟨"TIRHUTA ", [(0x11480, "ANJI"),
    (0x114BF, "SIGN CANDRABINDU,SIGN ANUSVARA,SIGN VISARGA,SIGN VIRAMA,SIGN NUKTA"),
    (0x114C4, "SIGN AVAGRAHA,GVANG,ABBREVIATION SIGN,OM")]⟩,
  ⟨"TIRHUTA LETTER ",
    [(0x11481, "A,AA,I,II,U,UU,VOCALIC R,VOCALIC RR,VOCALIC L,VOCALIC LL,E,AI,O,AU,KA,KHA,GA"),
    (0x11492, "GHA,NGA,CA,CHA,JA,JHA,NYA,TTA,TTHA,DDA,DDHA,NNA,TA,THA,DA,DHA,NA,PA,PHA,BA"),
    (0x114A6, "BHA,MA,YA,RA,LA,VA,SHA,SSA,SA,HA")]⟩,
  ⟨"TIRHUTA VOWEL SIGN ",
    [(0x114B0, "AA,I,II,U,UU,VOCALIC R,VOCALIC RR,VOCALIC L,VOCALIC LL,E,SHORT E,AI,O,SHORT O"),
    (0x114BE, "AU")]⟩,
  ⟨"TIRHUTA DIGIT ", [(0x114D0, "ZERO,ONE,TWO,THREE,FOUR,FIVE,SIX,SEVEN,EIGHT,NINE")]⟩,
  ⟨"SIDDHAM LETTER ",
    [(0x11580, "A,AA,I,II,U,UU,VOCALIC R,VOCALIC RR,VOCALIC L,VOCALIC LL,E,AI,O,AU,KA,KHA,GA"),
    (0x11591, "GHA,NGA,CA,CHA,JA,JHA,NYA,TTA,TTHA,DDA,DDHA,NNA,TA,THA,DA,DHA,NA,PA,PHA,BA"),
    (0x115A5, "BHA,MA,YA,RA,LA,VA,SHA,SSA,SA,HA"),
    (0x115D8, "THREE-CIRCLE ALTERNATE I,TWO-CIRCLE ALTERNATE I,TWO-CIRCLE ALTERNATE II"),
    (0x115DB, "ALTERNATE U")]⟩,
  ⟨"SIDDHAM VOWEL SIGN ", [(0x115AF, "AA,I,II,U,UU,VOCALIC R,VOCALIC RR,,,E,AI,O,AU"),
    (0x115DC, "ALTERNATE U,ALTERNATE UU")]⟩,
  ⟨"SIDDHAM ", [(0x115BC, "SIGN CANDRABINDU,SIGN ANUSVARA,SIGN VISARGA,SIGN VIRAMA,SIGN NUKTA"),
    (0x115C1, "SIGN SIDDHAM,DANDA,DOUBLE DANDA,SEPARATOR DOT,SEPARATOR BAR,REPETITION MARK-1"),
    (0x115C7, "REPETITION MARK-2,REPETITION MARK-3,END OF TEXT MARK")]⟩,
  ⟨"SIDDHAM SECTION MARK ",
    [(0x115CA, "WITH TRIDENT AND U-SHAPED ORNAMENTS,WITH TRIDENT AND DOTTED CRESCENTS"),
    (0x115CC, "WITH RAYS AND DOTTED CRESCENTS,WITH RAYS AND DOTTED DOUBLE CRESCENTS"),
    (0x115CE, "WITH RAYS AND DOTTED TRIPLE CRESCENTS,DOUBLE RING,DOUBLE RING WITH RAYS"),
    (0x115D1, "WITH DOUBLE CRESCENTS,WITH TRIPLE CRESCENTS,WITH QUADRUPLE CRESCENTS"),
    (0x115D4, "WITH SEPTUPLE CRESCENTS,WITH CIRCLES AND RAYS,WITH CIRCLES AND TWO ENCLOSURES"),
    (0x115D7, "WITH CIRCLES AND FOUR ENCLOSURES")]⟩,
  ⟨"MODI LETTER ",
    [(0x11600, "A,AA,I,II,U,UU,VOCALIC R,VOCALIC RR,VOCALIC L,VOCALIC LL,E,AI,O,AU,KA,KHA,GA"),
    (0x11611, "GHA,NGA,CA,CHA,JA,JHA,NYA,TTA,TTHA,DDA,DDHA,NNA,TA,THA,DA,DHA,NA,PA,PHA,BA"),
    (0x11625, "BHA,MA,YA,RA,LA,VA,SHA,SSA,SA,HA,LLA")]⟩,
  ⟨"MODI VOWEL SIGN ",
    [(0x11630, "AA,I,II,U,UU,VOCALIC R,VOCALIC RR,VOCALIC L,VOCALIC LL,E,AI,O,AU")]⟩,
  ⟨"MODI ",
    [(0x1163D, "SIGN ANUSVARA,SIGN VISARGA,SIGN VIRAMA,SIGN ARDHACANDRA,DANDA,DOUBLE DANDA"),
    (0x11643, "ABBREVIATION SIGN,SIGN HUVA")]⟩,
  ⟨"MODI DIGIT ", [(0x11650, "ZERO,ONE,TWO,THREE,FOUR,FIVE,SIX,SEVEN,EIGHT,NINE")]⟩,
  ⟨"TAKRI LETTER ",
    [(0x11680, "A,AA,I,II,U,UU,E,AI,O,AU,KA,KHA,GA,GHA,NGA,CA,CHA,JA,JHA,NYA,TTA,TTHA,DDA"),
    (0x11697, "DDHA,NNA,TA,THA,DA,DHA,NA,PA,PHA,BA,BHA,MA,YA,RA,LA,VA,SHA,SA,HA,RRA"),
    (0x116B8, "ARCHAIC KHA")]⟩,
  ⟨"TAKRI VOWEL SIGN ", [(0x116AD, "AA,I,II,U,UU,E,AI,O,AU")]⟩,
  ⟨"TAKRI DIGIT ", [(0x116C0, "ZERO,ONE,TWO,THREE,FOUR,FIVE,SIX,SEVEN,EIGHT,NINE")]⟩,
  ⟨"AHOM LETTER ",
    [(0x11700, "KA,KHA,NGA,NA,TA,ALTERNATE TA,PA,PHA,BA,MA,JA,CHA,THA,RA,LA,SA,NYA,HA,A,DA"),
    (0x11714, "DHA,GA,ALTERNATE GA,GHA,BHA,JHA,ALTERNATE BA"),
    (0x11740, "CA,TTA,TTHA,DDA,DDHA,NNA,LLA")]⟩,
  ⟨"AHOM ", [(0x1171D, "CONSONANT SIGN MEDIAL LA,CONSONANT SIGN MEDIAL RA"),
    (0x1171F, "CONSONANT SIGN MEDIAL LIGATING RA"),
    (0x1172B, "SIGN KILLER,,,,,DIGIT ZERO,DIGIT ONE,DIGIT TWO,DIGIT THREE,DIGIT FOUR"),
    (0x11735, "DIGIT FIVE,DIGIT SIX,DIGIT SEVEN,DIGIT EIGHT,DIGIT NINE,NUMBER TEN"),
    (0x1173B, "NUMBER TWENTY,SIGN SMALL SECTION,SIGN SECTION,SIGN RULAI,SYMBOL VI")]⟩,
  ⟨"AHOM VOWEL SIGN ", [(0x11720, "A,AA,I,II,U,UU,E,AW,O,AI,AM")]⟩,
  ⟨"DOGRA LETTER ",
    [(0x11800, "A,AA,I,II,U,UU,E,AI,O,AU,KA,KHA,GA,GHA,NGA,CA,CHA,JA,JHA,NYA,TTA,TTHA,DDA"),
    (0x11817, "DDHA,NNA,TA,THA,DA,DHA,NA,PA,PHA,BA,BHA,MA,YA,RA,LA,VA,SHA,SSA,SA,HA,RRA")]⟩,
  ⟨"DOGRA VOWEL SIGN ", [(0x1182C, "AA,I,II,U,UU,VOCALIC R,VOCALIC RR,E,AI,O,AU")]⟩,
  ⟨"WARANG CITI CAPITAL LETTER ",
    [(0x118A0, "NGAA,A,WI,YU,YA,YO,II,UU,E,O,ANG,GA,KO,ENY,YUJ,UC,ENN,ODD,TTE,NUNG,DA,AT,AM"),
    (0x118B7, "BU,PU,HIYO,HOLO,HORR,HAR,SSUU,SII,VIYO")]⟩,
  ⟨"WARANG CITI SMALL LETTER ",
    [(0x118C0, "NGAA,A,WI,YU,YA,YO,II,UU,E,O,ANG,GA,KO,ENY,YUJ,UC,ENN,ODD,TTE,NUNG,DA,AT,AM"),
    (0x118D7, "BU,PU,HIYO,HOLO,HORR,HAR,SSUU,SII,VIYO")]⟩,
  ⟨"WARANG CITI DIGIT ", [(0x118E0, "ZERO,ONE,TWO,THREE,FOUR,FIVE,SIX,SEVEN,EIGHT,NINE")]⟩,
  ⟨"WARANG CITI NUMBER ", [(0x118EA, "TEN,TWENTY,THIRTY,FORTY,FIFTY,SIXTY,SEVENTY,EIGHTY,NINETY")]⟩,
  ⟨"DIVES AKURU LETTER ",
    [(0x11900, "A,AA,I,II,U,UU,E,,,O,,,KA,KHA,GA,GHA,NGA,CA,CHA,JA,,NYA,TTA,,DDA,DDHA,NNA,TA"),
    (0x1191C, "THA,DA,DHA,NA,PA,PHA,BA,BHA,MA,YA,YYA,RA,LA,VA,SHA,SSA,SA,HA,LLA,ZA")]⟩,
  ⟨"DIVES AKURU VOWEL SIGN ", [(0x11930, "AA,I,II,U,UU,E,,AI,O")]⟩,
  ⟨"DIVES AKURU ",
    [(0x1193B, "SIGN ANUSVARA,SIGN CANDRABINDU,SIGN HALANTA,VIRAMA,PREFIXED NASAL SIGN"),
    (0x11940, "MEDIAL YA,INITIAL RA,MEDIAL RA,SIGN NUKTA,DOUBLE DANDA,GAP FILLER"),
    (0x11946, "END OF TEXT MARK")]⟩,
  ⟨"DIVES AKURU DIGIT ", [(0x11950, "ZERO,ONE,TWO,THREE,FOUR,FIVE,SIX,SEVEN,EIGHT,NINE")]⟩,
  ⟨"NANDINAGARI LETTER ",
    [(0x119A0, "A,AA,I,II,U,UU,VOCALIC R,VOCALIC RR,,,E,AI,O,AU,KA,KHA,GA,GHA,NGA,CA,CHA,JA"),
    (0x119B6, "JHA,NYA,TTA,TTHA,DDA,DDHA,NNA,TA,THA,DA,DHA,NA,PA,PHA,BA,BHA,MA,YA,RA,LA,VA"),
    (0x119CB, "SHA,SSA,SA,HA,LLA,RRA")]⟩,
  ⟨"NANDINAGARI VOWEL SIGN ",
    [(0x119D1, "AA,I,II,U,UU,VOCALIC R,VOCALIC RR,,,E,AI,O,AU,,,,,,,PRISHTHAMATRA E")]⟩,
  ⟨"NANDINAGARI ",
    [(0x119DE, "SIGN ANUSVARA,SIGN VISARGA,SIGN VIRAMA,SIGN AVAGRAHA,SIGN SIDDHAM,HEADSTROKE")]⟩,
  ⟨"ZANABAZAR SQUARE LETTER ", [(0x11A00, "A"),
    (0x11A0B, "KA,KHA,GA,GHA,NGA,CA,CHA,JA,NYA,TTA,TTHA,DDA,DDHA,NNA,TA,THA,DA,DHA,NA,PA,PHA"),
    (0x11A20, "BA,BHA,MA,TSA,TSHA,DZA,DZHA,ZHA,ZA,-A,YA,RA,LA,VA,SHA,SSA,SA,HA,KSSA")]⟩,
  ⟨"ZANABAZAR SQUARE VOWEL ",
    [(0x11A01, "SIGN I,SIGN UE,SIGN U,SIGN E,SIGN OE,SIGN O,SIGN AI,SIGN AU,SIGN REVERSED I"),
    (0x11A0A, "LENGTH MARK")]⟩,
  ⟨"ZANABAZAR SQUARE ", [(0x11A33, "FINAL CONSONANT MARK,SIGN VIRAMA,SIGN CANDRABINDU"),
    (0x11A36, "SIGN CANDRABINDU WITH ORNAMENT,SIGN CANDRA WITH ORNAMENT,SIGN ANUSVARA"),
    (0x11A39, "SIGN VISARGA,CLUSTER-INITIAL LETTER RA,CLUSTER-FINAL LETTER YA"),
    (0x11A3C, "CLUSTER-FINAL LETTER RA,CLUSTER-FINAL LETTER LA,CLUSTER-FINAL LETTER VA"),
    (0x11A3F, "INITIAL HEAD MARK,CLOSING HEAD MARK,MARK TSHEG,MARK SHAD,MARK DOUBLE SHAD"),
    (0x11A44, "MARK LONG TSHEG,INITIAL DOUBLE-LINED HEAD MARK,CLOSING DOUBLE-LINED HEAD MARK"),
    (0x11A47, "SUBJOINER")]⟩,
  ⟨"SOYOMBO LETTER ", [(0x11A50, "A"),
    (0x11A5C, "KA,KHA,GA,GHA,NGA,CA,CHA,JA,JHA,NYA,TTA,TTHA,DDA,DDHA,NNA,TA,THA,DA,DHA,NA,PA"),
    (0x11A71, "PHA,BA,BHA,MA,TSA,TSHA,DZA,ZHA,ZA,-A,YA,RA,LA,VA,SHA,SSA,SA,HA,KSSA")]⟩,
  ⟨"SOYOMBO VOWEL ",
    [(0x11A51, "SIGN I,SIGN UE,SIGN U,SIGN E,SIGN O,SIGN OE,SIGN AI,SIGN AU,SIGN VOCALIC R"),
    (0x11A5A, "SIGN VOCALIC L,LENGTH MARK")]⟩,
  ⟨"SOYOMBO ", [(0x11A84, "SIGN JIHVAMULIYA,SIGN UPADHMANIYA"),
    (0x11A96, "SIGN ANUSVARA,SIGN VISARGA,GEMINATION MARK,SUBJOINER,MARK TSHEG,MARK SHAD"),
    (0x11A9C, "MARK DOUBLE SHAD,MARK PLUTA,HEAD MARK WITH MOON AND SUN AND TRIPLE FLAME"),
    (0x11A9F, "HEAD MARK WITH MOON AND SUN AND FLAME,HEAD MARK WITH MOON AND SUN"),
    (0x11AA1, "TERMINAL MARK-1,TERMINAL MARK-2")]⟩,
  ⟨"SOYOMBO CLUSTER-INITIAL ", [(0x11A86, "LETTER RA,LETTER LA,LETTER SHA,LETTER SA")]⟩,
  ⟨"SOYOMBO FINAL CONSONANT SIGN ", [(0x11A8A, "G,K,NG,D,N,B,M,R,L,SH,S,-A")]⟩,
  ⟨"CANADIAN SYLLABICS NATTILIK ",
    [(0x11AB0, "HI,HII,HO,HOO,HA,HAA,SHRI,SHRII,SHRO,SHROO,SHRA,SHRAA")]⟩,
  ⟨"PAU CIN HAU LETTER ",
    [(0x11AC0, "PA,KA,LA,MA,DA,ZA,VA,NGA,HA,GA,KHA,SA,BA,CA,TA,THA,NA,PHA,RA,FA,CHA,A,E,I,O,U"),
    (0x11ADA, "UA,IA,FINAL P,FINAL K,FINAL T,FINAL M,FINAL N,FINAL L,FINAL W,FINAL NG"),
    (0x11AE4, "FINAL Y")]⟩,
  ⟨"PAU CIN HAU ",
    [(0x11AE5, "RISING TONE LONG,RISING TONE,SANDHI GLOTTAL STOP,RISING TONE LONG FINAL"),
    (0x11AE9, "RISING TONE FINAL,SANDHI GLOTTAL STOP FINAL,SANDHI TONE LONG,SANDHI TONE"),
    (0x11AED, "SANDHI TONE LONG FINAL,SANDHI TONE FINAL,MID-LEVEL TONE,GLOTTAL STOP VARIANT"),
    (0x11AF1, "MID-LEVEL TONE LONG FINAL,MID-LEVEL TONE FINAL,,,GLOTTAL STOP"),
    (0x11AF8, "GLOTTAL STOP FINAL")]⟩,
  ⟨"PAU CIN HAU LOW-FALLING ", [(0x11AF3, "TONE LONG,TONE,,TONE LONG FINAL,TONE FINAL")]⟩,
  ⟨"BHAIKSUKI LETTER ",
    [(0x11C00, "A,AA,I,II,U,UU,VOCALIC R,VOCALIC RR,VOCALIC L,,E,AI,O,AU,KA,KHA,GA,GHA,NGA,CA"),
    (0x11C14, "CHA,JA,JHA,NYA,TTA,TTHA,DDA,DDHA,NNA,TA,THA,DA,DHA,NA,PA,PHA,BA,BHA,MA,YA,RA"),
    (0x11C29, "LA,VA,SHA,SSA,SA,HA")]⟩,
  ⟨"BHAIKSUKI VOWEL SIGN ", [(0x11C2F, "AA,I,II,U,UU,VOCALIC R,VOCALIC RR,VOCALIC L,,E,AI,O,AU")]⟩,
  ⟨"BHAIKSUKI ",
    [(0x11C3C, "SIGN CANDRABINDU,SIGN ANUSVARA,SIGN VISARGA,SIGN VIRAMA,SIGN AVAGRAHA,DANDA"),
    (0x11C42, "DOUBLE DANDA,WORD SEPARATOR,GAP FILLER-1,GAP FILLER-2"),
    (0x11C6C, "HUNDREDS UNIT MARK")]⟩,
  ⟨"BHAIKSUKI DIGIT ", [(0x11C50, "ZERO,ONE,TWO,THREE,FOUR,FIVE,SIX,SEVEN,EIGHT,NINE")]⟩,
  ⟨"BHAIKSUKI NUMBER ",
    [(0x11C5A, "ONE,TWO,THREE,FOUR,FIVE,SIX,SEVEN,EIGHT,NINE,TEN,TWENTY,THIRTY,FORTY,FIFTY"),
    (0x11C68, "SIXTY,SEVENTY,EIGHTY,NINETY")]⟩,
  ⟨"MARCHEN ", [(0x11C70, "HEAD MARK,MARK SHAD"),
    (0x11CB0, "VOWEL SIGN AA,VOWEL SIGN I,VOWEL SIGN U,VOWEL SIGN E,VOWEL SIGN O"),
    (0x11CB5, "SIGN ANUSVARA,SIGN CANDRABINDU")]⟩,
  ⟨"MARCHEN LETTER ",
    [(0x11C72, "KA,KHA,GA,NGA,CA,CHA,JA,NYA,TA,THA,DA,NA,PA,PHA,BA,MA,TSA,TSHA,DZA,WA,ZHA,ZA"),
    (0x11C88, "-A,YA,RA,LA,SHA,SA,HA,A")]⟩,
  ⟨"MARCHEN SUBJOINED LETTER ",
    [(0x11C92, "KA,KHA,GA,NGA,CA,CHA,JA,NYA,TA,THA,DA,NA,PA,PHA,BA,MA,TSA,TSHA,DZA,WA,ZHA,ZA"),
    (0x11CA9, "YA,RA,LA,SHA,SA,HA,A")]⟩,
  ⟨"MASARAM GONDI LETTER ",
    [(0x11D00, "A,AA,I,II,U,UU,E,,AI,O,,AU,KA,KHA,GA,GHA,NGA,CA,CHA,JA,JHA,NYA,TTA,TTHA,DDA"),
    (0x11D19, "DDHA,NNA,TA,THA,DA,DHA,NA,PA,PHA,BA,BHA,MA,YA,RA,LA,VA,SHA,SSA,SA,HA,LLA,KSSA"),
    (0x11D2F, "JNYA,TRA")]⟩,
  ⟨"MASARAM GONDI VOWEL SIGN ", [(0x11D31, "AA,I,II,U,UU,VOCALIC R,,,,E,,AI,O,,AU")]⟩,
  ⟨"MASARAM GONDI ",
    [(0x11D40, "SIGN ANUSVARA,SIGN VISARGA,SIGN NUKTA,SIGN CANDRA,SIGN HALANTA,VIRAMA,REPHA"),
    (0x11D47, "RA-KARA")]⟩,
  ⟨"MASARAM GONDI DIGIT ", [(0x11D50, "ZERO,ONE,TWO,THREE,FOUR,FIVE,SIX,SEVEN,EIGHT,NINE")]⟩,
  ⟨"GUNJALA GONDI LETTER ",
    [(0x11D60, "A,AA,I,II,U,UU,,EE,AI,,OO,AU,YA,VA,BA,BHA,MA,KA,KHA,TA,THA,LA,GA,GHA,DA,DHA"),
    (0x11D7A, "NA,CA,CHA,TTA,TTHA,LLA,JA,JHA,DDA,DDHA,NGA,PA,PHA,HA,RA,SA")]⟩,
  ⟨"GUNJALA GONDI VOWEL SIGN ", [(0x11D8A, "AA,I,II,U,UU,,EE,AI,,OO,AU")]⟩,
  ⟨"GUNJALA GONDI DIGIT ", [(0x11DA0, "ZERO,ONE,TWO,THREE,FOUR,FIVE,SIX,SEVEN,EIGHT,NINE")]⟩,
  ⟨"MAKASAR LETTER ", [(0x11EE0, "KA,GA,NGA,PA,BA,MA,TA,DA,NA,CA,JA,NYA,YA,RA,LA,VA,SA,A")]⟩,
  ⟨"MAKASAR ", [(0x11EF2, "ANGKA,VOWEL SIGN I,VOWEL SIGN U,VOWEL SIGN E,VOWEL SIGN O,PASSIMBANG"),
    (0x11EF8, "END OF SECTION")]⟩,
  ⟨"TAMIL FRACTION ",
    [(0x11FC0, "ONE THREE-HUNDRED-AND-TWENTIETH,ONE ONE-HUNDRED-AND-SIXTIETH,ONE EIGHTIETH"),
    (0x11FC3, "ONE SIXTY-FOURTH,ONE FORTIETH,ONE THIRTY-SECOND,THREE EIGHTIETHS"),
    (0x11FC7, "THREE SIXTY-FOURTHS,ONE TWENTIETH,ONE SIXTEENTH-1,ONE SIXTEENTH-2,ONE TENTH"),
    (0x11FCC, "ONE EIGHTH,THREE TWENTIETHS,THREE SIXTEENTHS,ONE FIFTH,ONE QUARTER,ONE HALF-1"),
    (0x11FD2, "ONE HALF-2,THREE QUARTERS,DOWNSCALING FACTOR KIIZH")]⟩,
  ⟨"MRO LETTER ",
    [(0x16A40, "TA,NGI,YO,MIM,BA,DA,A,PHI,KHAI,HAO,DAI,CHU,KEAAE,OL,MAEM,NIN,PA,OO,O,RO,SHI"),
    (0x16A55, "THEA,EA,WA,E,KO,LAN,LA,HAI,RI,TEK")]⟩,
  ⟨"MRO DIGIT ", [(0x16A60, "ZERO,ONE,TWO,THREE,FOUR,FIVE,SIX,SEVEN,EIGHT,NINE")]⟩,
  ⟨"TANGSA LETTER ",
    [(0x16A70, "OZ,OC,OQ,OX,AZ,AC,AQ,AX,VZ,VC,VQ,VX,EZ,EC,EQ,EX,IZ,IC,IQ,IX,UZ,UC,UQ,UX,AWZ"),
    (0x16A89, "AWC,AWQ,AWX,UIZ,UIC,UIQ,UIX,FINAL NG,LONG UEX,SHORT UEZ,SHORT AWX,UEC,UEZ,UEQ"),
    (0x16A97, "UEX,UIUZ,UIUC,UIUQ,UIUX,MZ,MC,MQ,MX,KA,KHA,GA,NGA,SA,YA,WA,PA,NYA,PHA,BA,MA"),
    (0x16AAC, "NA,HA,LA,HTA,TA,DA,RA,NHA,SHA,CA,TSA,GHA,HTTA,THA,XA,FA,DHA,CHA,ZA")]⟩,
  ⟨"TANGSA DIGIT ", [(0x16AC0, "ZERO,ONE,TWO,THREE,FOUR,FIVE,SIX,SEVEN,EIGHT,NINE")]⟩]

end RecordSearch.Text
