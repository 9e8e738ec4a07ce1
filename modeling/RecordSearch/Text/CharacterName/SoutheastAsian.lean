import RecordSearch.Text.CharacterName.Family

namespace RecordSearch.Text

/-!
# Names of characters: scripts of Southeast Asia

The letters and signs of the scripts of Southeast Asia.
-/

/-- The names of characters of scripts of Southeast Asia. -/
def southeastAsianNames : List NameFamily := [
  ⟨"", [(0xE3F, "THAI CURRENCY SYMBOL BAHT"),
    (0x1712, "TAGALOG VOWEL SIGN I,TAGALOG VOWEL SIGN U,TAGALOG SIGN VIRAMA"),
    (0x1715, "TAGALOG SIGN PAMUDPOD"),
    (0x1732, "HANUNOO VOWEL SIGN I,HANUNOO VOWEL SIGN U,HANUNOO SIGN PAMUDPOD"),
    (0x1735, "PHILIPPINE SINGLE PUNCTUATION,PHILIPPINE DOUBLE PUNCTUATION"),
    (0x1752, "BUHID VOWEL SIGN I,BUHID VOWEL SIGN U"),
    (0x1772, "TAGBANWA VOWEL SIGN I,TAGBANWA VOWEL SIGN U"),
    (0x17B4, "KHMER VOWEL INHERENT AQ,KHMER VOWEL INHERENT AA"),
    (0x17DB, "KHMER CURRENCY SYMBOL RIEL"), (0x1A7F, "TAI THAM COMBINING CRYPTOGRAMMIC DOT"),
    (0xAA5C, "CHAM PUNCTUATION SPIRAL,CHAM PUNCTUATION DANDA,CHAM PUNCTUATION DOUBLE DANDA"),
    (0xAA5F, "CHAM PUNCTUATION TRIPLE DANDA"), (0x1E2AE, "TOTO SIGN RISING TONE")]⟩,
  ⟨"THAI CHARACTER ",
    [(0xE01, "KO KAI,KHO KHAI,KHO KHUAT,KHO KHWAI,KHO KHON,KHO RAKHANG,NGO NGU,CHO CHAN"),
    (0xE09, "CHO CHING,CHO CHANG,SO SO,CHO CHOE,YO YING,DO CHADA,TO PATAK,THO THAN"),
    (0xE11, "THO NANGMONTHO,THO PHUTHAO,NO NEN,DO DEK,TO TAO,THO THUNG,THO THAHAN"),
    (0xE18, "THO THONG,NO NU,BO BAIMAI,PO PLA,PHO PHUNG,FO FA,PHO PHAN,FO FAN,PHO SAMPHAO"),
    (0xE21, "MO MA,YO YAK,RO RUA,RU,LO LING,LU,WO WAEN,SO SALA,SO RUSI,SO SUA,HO HIP"),
    (0xE2C, "LO CHULA,O ANG,HO NOKHUK,PAIYANNOI,SARA A,MAI HAN-AKAT,SARA AA,SARA AM,SARA I"),
    (0xE35, "SARA II,SARA UE,SARA UEE,SARA U,SARA UU,PHINTHU,,,,,,SARA E,SARA AE,SARA O"),
    (0xE43, "SARA AI MAIMUAN,SARA AI MAIMALAI,LAKKHANGYAO,MAIYAMOK,MAITAIKHU,MAI EK"),
    (0xE49, "MAI THO,MAI TRI,MAI CHATTAWA,THANTHAKHAT,NIKHAHIT,YAMAKKAN,FONGMAN"),
    (0xE5A, "ANGKHANKHU,KHOMUT")]⟩,
  ⟨"THAI DIGIT ", [(0xE50, "ZERO,ONE,TWO,THREE,FOUR,FIVE,SIX,SEVEN,EIGHT,NINE")]⟩,
  ⟨"LAO LETTER ",
    [(0xE81, "KO,KHO SUNG,,KHO TAM,,PALI GHA,NGO,CO,PALI CHA,SO TAM,,PALI JHA,NYO,PALI NYA"),
    (0xE8F, "PALI TTA,PALI TTHA,PALI DDA,PALI DDHA,PALI NNA,DO,TO,THO SUNG,THO TAM"),
    (0xE98, "PALI DHA,NO,BO,PO,PHO SUNG,FO TAM,PHO TAM,FO SUNG,PALI BHA,MO,YO,LO LING"),
    (0xEA5, "LO LOOT,,WO,SANSKRIT SHA,SANSKRIT SSA,SO SUNG,HO SUNG,PALI LLA,O,HO TAM"),
    (0xEDE, "KHMU GO,KHMU NYO")]⟩,
  ⟨"LAO ", [(0xEAF, "ELLIPSIS"),
    (0xEBA, "SIGN PALI VIRAMA,,SEMIVOWEL SIGN LO,SEMIVOWEL SIGN NYO,,,,,,,,,KO LA"),
    (0xEC8, "TONE MAI EK,TONE MAI THO,TONE MAI TI,TONE MAI CATAWA,CANCELLATION MARK"),
    (0xECD, "NIGGAHITA,,,DIGIT ZERO,DIGIT ONE,DIGIT TWO,DIGIT THREE,DIGIT FOUR,DIGIT FIVE"),
    (0xED6, "DIGIT SIX,DIGIT SEVEN,DIGIT EIGHT,DIGIT NINE,,,HO NO,HO MO")]⟩,
  ⟨"LAO VOWEL SIGN ", [(0xEB0, "A,MAI KAN,AA,AM,I,II,Y,YY,U,UU,,MAI KON,,,,,E,EI,O,AY,AI")]⟩,
  ⟨"MYANMAR LETTER ",
    [(0x1000, "KA,KHA,GA,GHA,NGA,CA,CHA,JA,JHA,NYA,NNYA,TTA,TTHA,DDA,DDHA,NNA,TA,THA,DA,DHA"),
    (0x1014, "NA,PA,PHA,BA,BHA,MA,YA,RA,LA,WA,SA,HA,LLA,A,,I,II,U,UU,E,MON E,O,AU"),
    (0x103F, "GREAT SA"),
    (0x1050, "SHA,SSA,VOCALIC R,VOCALIC RR,VOCALIC L,VOCALIC LL,,,,,MON NGA,MON JHA,MON BBA"),
    (0x105D, "MON BBE,,,,SGAW KAREN SHA,,,,WESTERN PWO KAREN THA,WESTERN PWO KAREN PWA"),
    (0x106E, "EASTERN PWO KAREN NNA,EASTERN PWO KAREN YWA,EASTERN PWO KAREN GHWA"),
    (0x108E, "RUMAI PALAUNG FA"), (0xAA7A, "AITON RA,,,,SHWE PALAUNG CHA,SHWE PALAUNG SHA")]⟩,
  ⟨"MYANMAR LETTER SHAN ", [(0x1022, "A"), (0x1075, "KA,KHA,GA,CA,ZA,NYA,DA,NA,PHA,FA,BA,THA,HA"),
    (0xA9E0, "GHA,CHA,JHA,NNA,BHA")]⟩,
  ⟨"MYANMAR VOWEL SIGN ", [(0x102B, "TALL AA,AA,I,II,U,UU,E,AI,MON II,MON O,E ABOVE"),
    (0x1056, "VOCALIC R,VOCALIC RR,VOCALIC L,VOCALIC LL,,,,,,,,,SGAW KAREN EU"),
    (0x1067, "WESTERN PWO KAREN EU,WESTERN PWO KAREN UE,,,,,,,,,GEBA KAREN I,KAYAH OE"),
    (0x1073, "KAYAH U,KAYAH EE"), (0x1083, "SHAN AA,SHAN E,SHAN E ABOVE,SHAN FINAL Y"),
    (0x109C, "AITON A,AITON AI")]⟩,
  ⟨"MYANMAR SIGN ", [(0x1036, "ANUSVARA,DOT BELOW,VISARGA,VIRAMA,ASAT"),
    (0x104A, "LITTLE SECTION,SECTION"),
    (0x1069, "WESTERN PWO KAREN TONE-1,WESTERN PWO KAREN TONE-2,WESTERN PWO KAREN TONE-3"),
    (0x106C, "WESTERN PWO KAREN TONE-4,WESTERN PWO KAREN TONE-5"),
    (0x1087, "SHAN TONE-2,SHAN TONE-3,SHAN TONE-5,SHAN TONE-6,SHAN COUNCIL TONE-2"),
    (0x108C, "SHAN COUNCIL TONE-3,SHAN COUNCIL EMPHATIC TONE,,RUMAI PALAUNG TONE-5"),
    (0x109A, "KHAMTI TONE-1,KHAMTI TONE-3"), (0xA9E5, "SHAN SAW"),
    (0xAA7B, "PAO KAREN TONE,TAI LAING TONE-2,TAI LAING TONE-5")]⟩,
  ⟨"MYANMAR CONSONANT SIGN ", [(0x103B, "MEDIAL YA,MEDIAL RA,MEDIAL WA,MEDIAL HA"),
    (0x105E, "MON MEDIAL NA,MON MEDIAL MA,MON MEDIAL LA"), (0x1082, "SHAN MEDIAL WA")]⟩,
  ⟨"MYANMAR ",
    [(0x1040, "DIGIT ZERO,DIGIT ONE,DIGIT TWO,DIGIT THREE,DIGIT FOUR,DIGIT FIVE,DIGIT SIX"),
    (0x1047, "DIGIT SEVEN,DIGIT EIGHT,DIGIT NINE,,,SYMBOL LOCATIVE,SYMBOL COMPLETED"),
    (0x104E, "SYMBOL AFOREMENTIONED,SYMBOL GENITIVE"),
    (0x1063, "TONE MARK SGAW KAREN HATHI,TONE MARK SGAW KAREN KE PHO"),
    (0x109E, "SYMBOL SHAN ONE,SYMBOL SHAN EXCLAMATION"),
    (0xA9E6, "MODIFIER LETTER SHAN REDUPLICATION"),
    (0xAA70, "MODIFIER LETTER KHAMTI REDUPLICATION,,,,LOGOGRAM KHAMTI OAY"),
    (0xAA75, "LOGOGRAM KHAMTI QN,LOGOGRAM KHAMTI HM,SYMBOL AITON EXCLAMATION"),
    (0xAA78, "SYMBOL AITON ONE,SYMBOL AITON TWO")]⟩,
  ⟨"MYANMAR SHAN DIGIT ", [(0x1090, "ZERO,ONE,TWO,THREE,FOUR,FIVE,SIX,SEVEN,EIGHT,NINE")]⟩,
  ⟨"TAGALOG LETTER ", [(0x1700, "A,I,U,KA,GA,NGA,TA,DA,NA,PA,BA,MA,YA,RA,LA,WA,SA,HA"),
    (0x171F, "ARCHAIC RA")]⟩,
  ⟨"HANUNOO LETTER ", [(0x1720, "A,I,U,KA,GA,NGA,TA,DA,NA,PA,BA,MA,YA,RA,LA,WA,SA,HA")]⟩,
  ⟨"BUHID LETTER ", [(0x1740, "A,I,U,KA,GA,NGA,TA,DA,NA,PA,BA,MA,YA,RA,LA,WA,SA,HA")]⟩,
  ⟨"TAGBANWA LETTER ", [(0x1760, "A,I,U,KA,GA,NGA,TA,DA,NA,PA,BA,MA,YA,,LA,WA,SA")]⟩,
  ⟨"KHMER LETTER ",
    [(0x1780, "KA,KHA,KO,KHO,NGO,CA,CHA,CO,CHO,NYO,DA,TTHA,DO,TTHO,NNO,TA,THA,TO,THO,NO,BA"),
    (0x1795, "PHA,PO,PHO,MO,YO,RO,LO,VO,SHA,SSO,SA,HA,LA,QA")]⟩,
  ⟨"KHMER INDEPENDENT VOWEL ",
    [(0x17A3, "QAQ,QAA,QI,QII,QU,QUK,QUU,QUUV,RY,RYY,LY,LYY,QE,QAI,QOO TYPE ONE,QOO TYPE TWO"),
    (0x17B3, "QAU")]⟩,
  ⟨"KHMER VOWEL SIGN ", [(0x17B6, "AA,I,II,Y,YY,U,UU,UA,OE,YA,IE,E,AE,AI,OO,AU")]⟩,
  ⟨"KHMER SIGN ",
    [(0x17C6, "NIKAHIT,REAHMUK,YUUKALEAPINTU,MUUSIKATOAN,TRIISAP,BANTOC,ROBAT,TOANDAKHIAT"),
    (0x17CE, "KAKABAT,AHSDA,SAMYOK SANNYA,VIRIAM,COENG,BATHAMASAT,KHAN,BARIYOOSAN"),
    (0x17D6, "CAMNUC PII KUUH,LEK TOO,BEYYAL,PHNAEK MUAN,KOOMUUT,,AVAKRAHASANYA,ATTHACAN")]⟩,
  ⟨"KHMER DIGIT ", [(0x17E0, "ZERO,ONE,TWO,THREE,FOUR,FIVE,SIX,SEVEN,EIGHT,NINE")]⟩,
  ⟨"KHMER SYMBOL LEK ATTAK ",
    [(0x17F0, "SON,MUOY,PII,BEI,BUON,PRAM,PRAM-MUOY,PRAM-PII,PRAM-BEI,PRAM-BUON")]⟩,
  ⟨"TAI LE LETTER ",
    [(0x1950, "KA,XA,NGA,TSA,SA,YA,TA,THA,LA,PA,PHA,MA,FA,VA,HA,QA,KHA,TSHA,NA,A,I,EE,EH,U"),
    (0x1968, "OO,O,UE,E,AUE,AI,,,TONE-2,TONE-3,TONE-4,TONE-5,TONE-6")]⟩,
  ⟨"NEW TAI LUE LETTER HIGH ",
    [(0x1980, "QA,,KA,XA,NGA,,,,TSA,SA,YA,,,,TA,THA,NA,,,,PA,PHA,MA,,,,FA,VA,LA,,,,HA,DA,BA"),
    (0x19A6, "KVA,XVA,,,SUA")]⟩,
  ⟨"NEW TAI LUE LETTER LOW ",
    [(0x1981, "QA,,,,KA,XA,NGA,,,,TSA,SA,YA,,,,TA,THA,NA,,,,PA,PHA,MA,,,,FA,VA,LA,,,,HA,DA"),
    (0x19A5, "BA,,,KVA,XVA,,SUA")]⟩,
  ⟨"NEW TAI LUE VOWEL SIGN ",
    [(0x19B0, "VOWEL SHORTENER,AA,II,U,UU,E,AE,O,OA,UE,AY,AAY,UY,OY,OAY,UEY,IY")]⟩,
  ⟨"NEW TAI LUE ",
    [(0x19C1, "LETTER FINAL V,LETTER FINAL NG,LETTER FINAL N,LETTER FINAL M,LETTER FINAL K"),
    (0x19C6, "LETTER FINAL D,LETTER FINAL B,TONE MARK-1,TONE MARK-2,,,,,,,DIGIT ZERO"),
    (0x19D1, "DIGIT ONE,DIGIT TWO,DIGIT THREE,DIGIT FOUR,DIGIT FIVE,DIGIT SIX,DIGIT SEVEN"),
    (0x19D8, "DIGIT EIGHT,DIGIT NINE,THAM DIGIT ONE,,,,SIGN LAE,SIGN LAEV")]⟩,
  ⟨"KHMER SYMBOL ",
    [(0x19E0, "PATHAMASAT,MUOY KOET,PII KOET,BEI KOET,BUON KOET,PRAM KOET,PRAM-MUOY KOET"),
    (0x19E7, "PRAM-PII KOET,PRAM-BEI KOET,PRAM-BUON KOET,DAP KOET,DAP-MUOY KOET"),
    (0x19EC, "DAP-PII KOET,DAP-BEI KOET,DAP-BUON KOET,DAP-PRAM KOET,TUTEYASAT,MUOY ROC"),
    (0x19F2, "PII ROC,BEI ROC,BUON ROC,PRAM ROC,PRAM-MUOY ROC,PRAM-PII ROC,PRAM-BEI ROC"),
    (0x19F9, "PRAM-BUON ROC,DAP ROC,DAP-MUOY ROC,DAP-PII ROC,DAP-BEI ROC,DAP-BUON ROC"),
    (0x19FF, "DAP-PRAM ROC")]⟩,
  ⟨"BUGINESE LETTER ",
    [(0x1A00, "KA,GA,NGA,NGKA,PA,BA,MA,MPA,TA,DA,NA,NRA,CA,JA,NYA,NYCA,YA,RA,LA,VA,SA,A,HA")]⟩,
  ⟨"BUGINESE ",
    [(0x1A17, "VOWEL SIGN I,VOWEL SIGN U,VOWEL SIGN E,VOWEL SIGN O,VOWEL SIGN AE,,,PALLAWA"),
    (0x1A1F, "END OF SECTION")]⟩,
  ⟨"TAI THAM LETTER ",
    [(0x1A20, "HIGH KA,HIGH KHA,HIGH KXA,LOW KA,LOW KXA,LOW KHA,NGA,HIGH CA,HIGH CHA,LOW CA"),
    (0x1A2A, "LOW SA,LOW CHA,NYA,RATA,HIGH RATHA,DA,LOW RATHA,RANA,HIGH TA,HIGH THA,LOW TA"),
    (0x1A35, "LOW THA,NA,BA,HIGH PA,HIGH PHA,HIGH FA,LOW PA,LOW FA,LOW PHA,MA,LOW YA"),
    (0x1A40, "HIGH YA,RA,RUE,LA,LUE,WA,HIGH SHA,HIGH SSA,HIGH SA,HIGH HA,LLA,A,LOW HA,I,II"),
    (0x1A4F, "U,UU,EE,OO,LAE,GREAT SA")]⟩,
  ⟨"TAI THAM CONSONANT SIGN ",
    [(0x1A55, "MEDIAL RA,MEDIAL LA,LA TANG LAI,,FINAL NGA,LOW PA,HIGH RATHA OR LOW PA,MA,BA"),
    (0x1A5E, "SA")]⟩,
  ⟨"TAI THAM SIGN ", [(0x1A58, "MAI KANG LAI,,,,,,,,SAKOT"),
    (0x1A74, "MAI KANG,TONE-1,TONE-2,KHUEN TONE-3,KHUEN TONE-4,KHUEN TONE-5,RA HAAM,MAI SAM"),
    (0x1A7C, "KHUEN-LUE KARAN"),
    (0x1AA0, "WIANG,WIANGWAAK,SAWAN,KEOW,HOY,DOKMAI,REVERSED ROTATED RANA,MAI YAMOK,KAAN"),
    (0x1AA9, "KAANKUU,SATKAAN,SATKAANKUU,HANG,CAANG")]⟩,
  ⟨"TAI THAM VOWEL SIGN ",
    [(0x1A61, "A,MAI SAT,AA,TALL AA,I,II,UE,UUE,U,UU,O,OA BELOW,OY,E,AE,OO,AI,THAM AI"),
    (0x1A73, "OA ABOVE")]⟩,
  ⟨"TAI THAM HORA DIGIT ", [(0x1A80, "ZERO,ONE,TWO,THREE,FOUR,FIVE,SIX,SEVEN,EIGHT,NINE")]⟩,
  ⟨"TAI THAM THAM DIGIT ", [(0x1A90, "ZERO,ONE,TWO,THREE,FOUR,FIVE,SIX,SEVEN,EIGHT,NINE")]⟩,
  ⟨"BALINESE ", [(0x1B00, "SIGN ULU RICEM,SIGN ULU CANDRA,SIGN CECEK,SIGN SURANG,SIGN BISAH"),
    (0x1B34, "SIGN REREKAN"), (0x1B44, "ADEG ADEG"),
    (0x1B5A, "PANTI,PAMADA,WINDU,CARIK PAMUNGKAH,CARIK SIKI,CARIK PAREREN,PAMENENG"),
    (0x1B7D, "PANTI LANTANG,PAMADA LANTANG")]⟩,
  ⟨"BALINESE LETTER ",
    [(0x1B05, "AKARA,AKARA TEDUNG,IKARA,IKARA TEDUNG,UKARA,UKARA TEDUNG,RA REPA"),
    (0x1B0C, "RA REPA TEDUNG,LA LENGA,LA LENGA TEDUNG,EKARA,AIKARA,OKARA,OKARA TEDUNG,KA"),
    (0x1B14, "KA MAHAPRANA,GA,GA GORA,NGA,CA,CA LACA,JA,JA JERA,NYA,TA LATIK"),
    (0x1B1E, "TA MURDA MAHAPRANA,DA MURDA ALPAPRANA,DA MURDA MAHAPRANA,NA RAMBAT,TA,TA TAWA"),
    (0x1B24, "DA,DA MADU,NA,PA,PA KAPAL,BA,BA KEMBANG,MA,YA,RA,LA,WA,SA SAGA,SA SAPA,SA,HA"),
    (0x1B45, "KAF SASAK,KHOT SASAK,TZIR SASAK,EF SASAK,VE SASAK,ZAL SASAK,ASYURA SASAK"),
    (0x1B4C, "ARCHAIC JNYA")]⟩,
  ⟨"BALINESE VOWEL SIGN ",
    [(0x1B35, "TEDUNG,ULU,ULU SARI,SUKU,SUKU ILUT,RA REPA,RA REPA TEDUNG,LA LENGA"),
    (0x1B3D, "LA LENGA TEDUNG,TALING,TALING REPA,TALING TEDUNG,TALING REPA TEDUNG,PEPET"),
    (0x1B43, "PEPET TEDUNG")]⟩,
  ⟨"BALINESE DIGIT ", [(0x1B50, "ZERO,ONE,TWO,THREE,FOUR,FIVE,SIX,SEVEN,EIGHT,NINE")]⟩,
  ⟨"BALINESE MUSICAL SYMBOL ",
    [(0x1B61, "DONG,DENG,DUNG,DANG,DANG SURANG,DING,DAENG,DEUNG,DAING,DANG GEDE"),
    (0x1B6B, "COMBINING TEGEH,COMBINING ENDEP,COMBINING KEMPUL,COMBINING KEMPLI"),
    (0x1B6F, "COMBINING JEGOGAN,COMBINING KEMPUL WITH JEGOGAN,COMBINING KEMPLI WITH JEGOGAN"),
    (0x1B72, "COMBINING BENDE,COMBINING GONG,RIGHT-HAND OPEN DUG,RIGHT-HAND OPEN DAG"),
    (0x1B76, "RIGHT-HAND CLOSED TUK,RIGHT-HAND CLOSED TAK,LEFT-HAND OPEN PANG"),
    (0x1B79, "LEFT-HAND OPEN PUNG,LEFT-HAND CLOSED PLAK,LEFT-HAND CLOSED PLUK"),
    (0x1B7C, "LEFT-HAND OPEN PING")]⟩,
  ⟨"SUNDANESE ", [(0x1B80, "SIGN PANYECEK,SIGN PANGLAYAR,SIGN PANGWISAD"),
    (0x1BA1, "CONSONANT SIGN PAMINGKAL,CONSONANT SIGN PANYAKRA,CONSONANT SIGN PANYIKU"),
    (0x1BAA, "SIGN PAMAAEH,SIGN VIRAMA,CONSONANT SIGN PASANGAN MA"),
    (0x1BAD, "CONSONANT SIGN PASANGAN WA,,,DIGIT ZERO,DIGIT ONE,DIGIT TWO,DIGIT THREE"),
    (0x1BB4, "DIGIT FOUR,DIGIT FIVE,DIGIT SIX,DIGIT SEVEN,DIGIT EIGHT,DIGIT NINE,AVAGRAHA")]⟩,
  ⟨"SUNDANESE LETTER ",
    [(0x1B83, "A,I,U,AE,O,E,EU,KA,QA,GA,NGA,CA,JA,ZA,NYA,TA,DA,NA,PA,FA,VA,BA,MA,YA,RA,LA,WA"),
    (0x1B9E, "SA,XA,HA"), (0x1BAE, "KHA,SYA"), (0x1BBB, "REU,LEU,BHA,FINAL K,FINAL M")]⟩,
  ⟨"SUNDANESE VOWEL SIGN ", [(0x1BA4, "PANGHULU,PANYUKU,PANAELAENG,PANOLONG,PAMEPET,PANEULEUNG")]⟩,
  ⟨"BATAK LETTER ",
    [(0x1BC0, "A,,HA,,MANDAILING HA,BA,KARO BA,PA,,NA,MANDAILING NA,WA,,PAKPAK WA,GA,,JA,DA"),
    (0x1BD2, "RA,,MA,,SOUTHERN TA,NORTHERN TA,SA,,MANDAILING SA,YA,,NGA,LA,,NYA,CA,NDA,MBA"),
    (0x1BE4, "I,U")]⟩,
  ⟨"BATAK LETTER SIMALUNGUN ", [(0x1BC1, "A,,HA,,,,,PA,,,,WA,,,GA,,,,RA,,MA,,,,SA,,,YA,,,LA")]⟩,
  ⟨"BATAK ", [(0x1BE6, "SIGN TOMPI"),
    (0x1BF0, "CONSONANT SIGN NG,CONSONANT SIGN H,PANGOLAT,PANONGONAN"),
    (0x1BFC, "SYMBOL BINDU NA METEK,SYMBOL BINDU PINARBORAS,SYMBOL BINDU JUDUL"),
    (0x1BFF, "SYMBOL BINDU PANGOLAT")]⟩,
  ⟨"BATAK VOWEL SIGN ", [(0x1BE7, "E,PAKPAK E,EE,I,KARO I,O,KARO O,U,U FOR SIMALUNGUN SA")]⟩,
  ⟨"REJANG LETTER ",
    [(0xA930, "KA,GA,NGA,TA,DA,NA,PA,BA,MA,CA,JA,NYA,SA,RA,LA,YA,WA,HA,MBA,NGGA,NDA,NYJA,A")]⟩,
  ⟨"REJANG VOWEL SIGN ", [(0xA947, "I,U,E,AI,O,AU,EU,EA")]⟩,
  ⟨"REJANG ",
    [(0xA94F, "CONSONANT SIGN NG,CONSONANT SIGN N,CONSONANT SIGN R,CONSONANT SIGN H,VIRAMA"),
    (0xA95F, "SECTION MARK")]⟩,
  ⟨"JAVANESE ", [(0xA980, "SIGN PANYANGGA,SIGN CECAK,SIGN LAYAR,SIGN WIGNYAN"),
    (0xA9B3, "SIGN CECAK TELU"),
    (0xA9BD, "CONSONANT SIGN KERET,CONSONANT SIGN PENGKAL,CONSONANT SIGN CAKRA,PANGKON"),
    (0xA9C1, "LEFT RERENGGAN,RIGHT RERENGGAN,PADA ANDAP,PADA MADYA,PADA LUHUR,PADA WINDU"),
    (0xA9C7, "PADA PANGKAT,PADA LINGSA,PADA LUNGSI,PADA ADEG,PADA ADEG ADEG,PADA PISELEH"),
    (0xA9CD, "TURNED PADA PISELEH,,PANGRANGKEP,DIGIT ZERO,DIGIT ONE,DIGIT TWO,DIGIT THREE"),
    (0xA9D4, "DIGIT FOUR,DIGIT FIVE,DIGIT SIX,DIGIT SEVEN,DIGIT EIGHT,DIGIT NINE"),
    (0xA9DE, "PADA TIRTA TUMETES,PADA ISEN-ISEN")]⟩,
  ⟨"JAVANESE LETTER ",
    [(0xA984, "A,I KAWI,I,II,U,PA CEREK,NGA LELET,NGA LELET RASWADI,E,AI,O,KA,KA SASAK"),
    (0xA991, "KA MURDA,GA,GA MURDA,NGA,CA,CA MURDA,JA,NYA MURDA,JA MAHAPRANA,NYA,TTA"),
    (0xA99C, "TTA MAHAPRANA,DDA,DDA MAHAPRANA,NA MURDA,TA,TA MURDA,DA,DA MAHAPRANA,NA,PA"),
    (0xA9A6, "PA MURDA,BA,BA MURDA,MA,YA,RA,RA AGUNG,LA,WA,SA MURDA,SA MAHAPRANA,SA,HA")]⟩,
  ⟨"JAVANESE VOWEL SIGN ",
    [(0xA9B4, "TARUNG,TOLONG,WULU,WULU MELIK,SUKU,SUKU MENDUT,TALING,DIRGA MURE,PEPET")]⟩,
  ⟨"MYANMAR LETTER TAI LAING ", [(0xA9E7, "NYA,FA,GA,GHA,JA,JHA,DDA,DDHA,NNA"),
    (0xA9FA, "LLA,DA,DHA,BA,BHA")]⟩,
  ⟨"MYANMAR TAI LAING DIGIT ", [(0xA9F0, "ZERO,ONE,TWO,THREE,FOUR,FIVE,SIX,SEVEN,EIGHT,NINE")]⟩,
  ⟨"CHAM LETTER ",
    [(0xAA00, "A,I,U,E,AI,O,KA,KHA,GA,GHA,NGUE,NGA,CHA,CHHA,JA,JHA,NHUE,NHA,NHJA,TA,THA,DA"),
    (0xAA16, "DHA,NUE,NA,DDA,PA,PPA,PHA,BA,BHA,MUE,MA,BBA,YA,RA,LA,VA,SSA,SA,HA")]⟩,
  ⟨"CHAM VOWEL SIGN ", [(0xAA29, "AA,I,II,EI,U,OE,O,AI,AU,UE")]⟩,
  ⟨"CHAM CONSONANT SIGN ", [(0xAA33, "YA,RA,LA,WA"), (0xAA43, "FINAL NG,,,,,,,,,FINAL M,FINAL H")]⟩,
  ⟨"CHAM LETTER FINAL ", [(0xAA40, "K,G,NG,,CH,T,N,P,Y,R,L,SS")]⟩,
  ⟨"CHAM DIGIT ", [(0xAA50, "ZERO,ONE,TWO,THREE,FOUR,FIVE,SIX,SEVEN,EIGHT,NINE")]⟩,
  ⟨"MYANMAR LETTER KHAMTI ",
    [(0xAA60, "GA,CA,CHA,JA,JHA,NYA,TTA,TTHA,DDA,DDHA,DHA,NA,SA,HA,HHA,FA,,XA,ZA,RA")]⟩,
  ⟨"TAI VIET LETTER LOW ",
    [(0xAA80, "KO,,KHO,,KHHO,,GO,,NGO,,CO,,CHO,,SO,,NYO,,DO,,TO,,THO,,NO,,BO,,PO,,PHO,,FO"),
    (0xAAA2, "MO,,YO,,RO,,LO,,VO,,HO,,O")]⟩,
  ⟨"TAI VIET LETTER HIGH ",
    [(0xAA81, "KO,,KHO,,KHHO,,GO,,NGO,,CO,,CHO,,SO,,NYO,,DO,,TO,,THO,,NO,,BO,,PO,,PHO,,FO"),
    (0xAAA3, "MO,,YO,,RO,,LO,,VO,,HO,,O")]⟩,
  ⟨"TAI VIET ", [(0xAAB0, "MAI KANG,,,,,,,MAI KHIT,,,,,,,,TONE MAI EK,TONE MAI NUENG,TONE MAI THO"),
    (0xAAC2, "TONE MAI SONG"),
    (0xAADB, "SYMBOL KON,SYMBOL NUENG,SYMBOL SAM,SYMBOL HO HOI,SYMBOL KOI KOI")]⟩,
  ⟨"TAI VIET VOWEL ", [(0xAAB1, "AA,I,UE,U,E,O,,IA,UEA,UA,AUE,AY,AN,AM")]⟩,
  ⟨"PAHAWH HMONG VOWEL ",
    [(0x16B00, "KEEB,KEEV,KIB,KIV,KAUB,KAUV,KUB,KUV,KEB,KEV,KAIB,KAIV,KOOB,KOOV,KAWB,KAWV"),
    (0x16B10, "KUAB,KUAV,KOB,KOV,KIAB,KIAV,KAB,KAV,KWB,KWV,KAAB,KAAV")]⟩,
  ⟨"PAHAWH HMONG CONSONANT ",
    [(0x16B1C, "VAU,NTSAU,LAU,HAU,NLAU,RAU,NKAU,QHAU,YAU,HLAU,MAU,CHAU,NCHAU,HNAU,PLHAU,NTHAU"),
    (0x16B2C, "NAU,AU,XAU,CAU")]⟩,
  ⟨"PAHAWH HMONG ", [(0x16B30, "MARK CIM TUB,MARK CIM SO,MARK CIM KES,MARK CIM KHAV,MARK CIM SUAM"),
    (0x16B35, "MARK CIM HOM,MARK CIM TAUM"),
    (0x16B50, "DIGIT ZERO,DIGIT ONE,DIGIT TWO,DIGIT THREE,DIGIT FOUR,DIGIT FIVE,DIGIT SIX"),
    (0x16B57, "DIGIT SEVEN,DIGIT EIGHT,DIGIT NINE,,NUMBER TENS,NUMBER HUNDREDS"),
    (0x16B5D, "NUMBER TEN THOUSANDS,NUMBER MILLIONS,NUMBER HUNDRED MILLIONS"),
    (0x16B60, "NUMBER TEN BILLIONS,NUMBER TRILLIONS")]⟩,
  ⟨"PAHAWH HMONG SIGN ",
    [(0x16B37, "VOS THOM,VOS TSHAB CEEB,CIM CHEEM,VOS THIAB,VOS FEEM,XYEEM NTXIV,XYEEM RHO"),
    (0x16B3E, "XYEEM TOV,XYEEM FAIB,VOS SEEV,MEEJ SUAB,VOS NRUA,IB YAM,XAUS,CIM TSOV ROG"),
    (0x16B63, "VOS LUB,XYOO,HLI,THIRD-STAGE HLI,ZWJ THAJ,HNUB,NQIG,XIAB,NTUJ,AV,TXHEEJ CEEV"),
    (0x16B6E, "MEEJ TSEEB,TAU,LOS,MUS,CIM HAIS LUS NTOG NTOG,CIM CUAM TSHOOJ,CIM TXWV"),
    (0x16B75, "CIM TXWV CHWV,CIM PUB DAWB,CIM NRES TOS")]⟩,
  ⟨"PAHAWH HMONG CLAN SIGN ",
    [(0x16B7D, "TSHEEJ,YEEG,LIS,LAUJ,XYOOJ,KOO,HAWJ,MUAS,THOJ,TSAB,PHAB,KHAB,HAM,VAJ,FAJ,YAJ"),
    (0x16B8D, "TSWB,KWM,VWJ")]⟩,
  ⟨"COMBINING GLAGOLITIC LETTER ",
    [(0x1E000, "AZU,BUKY,VEDE,GLAGOLI,DOBRO,YESTU,ZHIVETE,,ZEMLJA,IZHE,INITIAL IZHE,I,DJERVI"),
    (0x1E00D, "KAKO,LJUDIJE,MYSLITE,NASHI,ONU,POKOJI,RITSI,SLOVO,TVRIDO,UKU,FRITU,HERU"),
    (0x1E01B, "SHTA,TSI,CHRIVI,SHA,YERU,YERI,YATI,,YU,SMALL YUS,,YO,IOTATED SMALL YUS"),
    (0x1E028, "BIG YUS,IOTATED BIG YUS,FITA")]⟩,
  ⟨"NYIAKENG PUACHUE HMONG LETTER ",
    [(0x1E100, "MA,TSA,NTA,TA,HA,NA,XA,NKA,CA,LA,SA,ZA,NCA,NTSA,KA,DA,NYA,NRA,VA,NTXA,TXA,FA"),
    (0x1E116, "RA,QA,YA,NQA,PA,XYA,NPA,DLA,NPLA,HAH,MLA,PLA,GA,RRA,A,AA,I,U,O,OO,E,EE,W")]⟩,
  ⟨"NYIAKENG PUACHUE HMONG ",
    [(0x1E130, "TONE-B,TONE-M,TONE-J,TONE-V,TONE-S,TONE-G,TONE-D,SIGN FOR PERSON"),
    (0x1E138, "SIGN FOR THING,SIGN FOR LOCATION,SIGN FOR ANIMAL,SIGN FOR INVERTEBRATE"),
    (0x1E13C, "SIGN XW XW,SYLLABLE LENGTHENER,,,DIGIT ZERO,DIGIT ONE,DIGIT TWO,DIGIT THREE"),
    (0x1E144, "DIGIT FOUR,DIGIT FIVE,DIGIT SIX,DIGIT SEVEN,DIGIT EIGHT,DIGIT NINE"),
    (0x1E14E, "LOGOGRAM NYAJ,CIRCLED CA")]⟩,
  ⟨"TOTO LETTER ",
    [(0x1E290, "PA,BA,TA,DA,KA,GA,MA,NA,NGA,SA,CHA,YA,WA,JA,HA,RA,LA,I,BREATHY I,IU"),
    (0x1E2A4, "BREATHY IU,U,E,BREATHY E,EO,BREATHY EO,O,AE,BREATHY AE,A")]⟩,
  ⟨"WANCHO LETTER ",
    [(0x1E2C0, "AA,A,BA,CA,DA,GA,YA,PHA,LA,NA,PA,TA,THA,FA,SA,SHA,JA,ZA,WA,VA,KA,O,AU,RA,MA"),
    (0x1E2D9, "KHA,HA,E,I,NGA,U,LLHA,TSA,TRA,ONG,AANG,ANG,ING,ON,EN,AAN,NYA,UEN,YIH")]⟩,
  ⟨"WANCHO ", [(0x1E2EC, "TONE TUP,TONE TUPNI,TONE KOI,TONE KOINI,DIGIT ZERO,DIGIT ONE,DIGIT TWO"),
    (0x1E2F3, "DIGIT THREE,DIGIT FOUR,DIGIT FIVE,DIGIT SIX,DIGIT SEVEN,DIGIT EIGHT"),
    (0x1E2F9, "DIGIT NINE,,,,,,NGUN SIGN")]⟩]

end RecordSearch.Text
