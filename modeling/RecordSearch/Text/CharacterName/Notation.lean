import RecordSearch.Text.CharacterName.Family

namespace RecordSearch.Text

/-!
# Names of characters: notations

Signs of music, shorthand, sign writing, and patterns of dots and lines.
-/

/-- The names of signs of notations. -/
def notationNames : List NameFamily := [
  ⟨"", [(0x2800, "BRAILLE PATTERN BLANK"),
    (0x1BC9C, "DUPLOYAN SIGN O WITH CROSS,DUPLOYAN THICK LETTER SELECTOR"),
    (0x1BC9E, "DUPLOYAN DOUBLE MARK,DUPLOYAN PUNCTUATION CHINOOK FULL STOP"),
    (0x1D300, "MONOGRAM FOR EARTH"), (0x1D377, "TALLY MARK ONE,TALLY MARK FIVE")]⟩,
  ⟨"DIGRAM FOR ", [(0x268C, "GREATER YANG,LESSER YIN,LESSER YANG,GREATER YIN"),
    (0x1D301, "HEAVENLY EARTH,HUMAN EARTH,EARTHLY HEAVEN,EARTHLY HUMAN,EARTH")]⟩,
  ⟨"BRAILLE PATTERN DOTS-",
    [(0x2801, "1,2,12,3,13,23,123,4,14,24,124,34,134,234,1234,5,15,25,125,35,135,235,1235,45"),
    (0x2819, "145,245,1245,345,1345,2345,12345,6,16,26,126,36,136,236,1236,46,146,246,1246"),
    (0x282C, "346,1346,2346,12346,56,156,256,1256,356,1356,2356,12356,456,1456,2456,12456"),
    (0x283C, "3456,13456,23456,123456,7,17,27,127,37,137,237,1237,47,147,247,1247,347,1347"),
    (0x284E, "2347,12347,57,157,257,1257,357,1357,2357,12357,457,1457,2457,12457,3457,13457"),
    (0x285E, "23457,123457,67,167,267,1267,367,1367,2367,12367,467,1467,2467,12467,3467"),
    (0x286D, "13467,23467,123467,567,1567,2567,12567,3567,13567,23567,123567,4567,14567"),
    (0x287A, "24567,124567,34567,134567,234567,1234567,8,18,28,128,38,138,238,1238,48,148"),
    (0x288A, "248,1248,348,1348,2348,12348,58,158,258,1258,358,1358,2358,12358,458,1458"),
    (0x289A, "2458,12458,3458,13458,23458,123458,68,168,268,1268,368,1368,2368,12368,468"),
    (0x28A9, "1468,2468,12468,3468,13468,23468,123468,568,1568,2568,12568,3568,13568,23568"),
    (0x28B7, "123568,4568,14568,24568,124568,34568,134568,234568,1234568,78,178,278,1278"),
    (0x28C4, "378,1378,2378,12378,478,1478,2478,12478,3478,13478,23478,123478,578,1578,2578"),
    (0x28D3, "12578,3578,13578,23578,123578,4578,14578,24578,124578,34578,134578,234578"),
    (0x28DF, "1234578,678,1678,2678,12678,3678,13678,23678,123678,4678,14678,24678,124678"),
    (0x28EC, "34678,134678,234678,1234678,5678,15678,25678,125678,35678,135678,235678"),
    (0x28F7, "1235678,45678,145678,245678,1245678,345678,1345678,2345678,12345678")]⟩,
  ⟨"HEXAGRAM FOR ",
    [(0x4DC0, "THE CREATIVE HEAVEN,THE RECEPTIVE EARTH,DIFFICULTY AT THE BEGINNING"),
    (0x4DC3, "YOUTHFUL FOLLY,WAITING,CONFLICT,THE ARMY,HOLDING TOGETHER,SMALL TAMING"),
    (0x4DC9, "TREADING,PEACE,STANDSTILL,FELLOWSHIP,GREAT POSSESSION,MODESTY,ENTHUSIASM"),
    (0x4DD0, "FOLLOWING,WORK ON THE DECAYED,APPROACH,CONTEMPLATION,BITING THROUGH,GRACE"),
    (0x4DD6, "SPLITTING APART,RETURN,INNOCENCE,GREAT TAMING,MOUTH CORNERS"),
    (0x4DDB, "GREAT PREPONDERANCE,THE ABYSMAL WATER,THE CLINGING FIRE,INFLUENCE,DURATION"),
    (0x4DE0, "RETREAT,GREAT POWER,PROGRESS,DARKENING OF THE LIGHT,THE FAMILY,OPPOSITION"),
    (0x4DE6, "OBSTRUCTION,DELIVERANCE,DECREASE,INCREASE,BREAKTHROUGH,COMING TO MEET"),
    (0x4DEC, "GATHERING TOGETHER,PUSHING UPWARD,OPPRESSION,THE WELL,REVOLUTION,THE CAULDRON"),
    (0x4DF2, "THE AROUSING THUNDER,THE KEEPING STILL MOUNTAIN,DEVELOPMENT"),
    (0x4DF5, "THE MARRYING MAIDEN,ABUNDANCE,THE WANDERER,THE GENTLE WIND,THE JOYOUS LAKE"),
    (0x4DFA, "DISPERSION,LIMITATION,INNER TRUTH,SMALL PREPONDERANCE,AFTER COMPLETION"),
    (0x4DFF, "BEFORE COMPLETION")]⟩,
  ⟨"DUPLOYAN LETTER ",
    [(0x1BC00, "H,X,P,T,F,K,L,B,D,V,G,R,P N,D S,F N,K M,R S,TH,SLOAN DH,DH,KK,SLOAN J,HL,LH"),
    (0x1BC18, "RH,M,N,J,S,M N,N M,J M,S J,M WITH DOT,N WITH DOT,J WITH DOT"),
    (0x1BC24, "J WITH DOTS INSIDE AND ABOVE,S WITH DOT,S WITH DOT BELOW,M S,N S,J S,S S"),
    (0x1BC2B, "M N S,N M S,J M S,S J S,J S WITH DOT,J N,J N S,S T,S T R,S P,S P R,T S,T R S"),
    (0x1BC38, "W,WH,W R,S N,S M,K R S,G R S,S K,S K R,A,SLOAN OW,OA,O,AOU,I,E,IE,SHORT I,UI"),
    (0x1BC4B, "EE,SLOAN EH,ROMANIAN I,SLOAN EE,LONG I,YE,U,EU,XW,U N,LONG U,ROMANIAN U,UH"),
    (0x1BC58, "SLOAN U,OOH,OW,OU,WA,WO,WI,WEI,WOW,NASAL U,NASAL O,NASAL I,NASAL A,PERNIN AN"),
    (0x1BC66, "PERNIN AM,SLOAN EN,SLOAN AN,SLOAN ON,VOCALIC M")]⟩,
  ⟨"DUPLOYAN AFFIX ",
    [(0x1BC70, "LEFT HORIZONTAL SECANT,MID HORIZONTAL SECANT,RIGHT HORIZONTAL SECANT"),
    (0x1BC73, "LOW VERTICAL SECANT,MID VERTICAL SECANT,HIGH VERTICAL SECANT,ATTACHED SECANT"),
    (0x1BC77, "ATTACHED LEFT-TO-RIGHT SECANT,ATTACHED TANGENT,ATTACHED TAIL,ATTACHED E HOOK"),
    (0x1BC7B, "ATTACHED I HOOK,ATTACHED TANGENT HOOK,,,,HIGH ACUTE,HIGH TIGHT ACUTE"),
    (0x1BC82, "HIGH GRAVE,HIGH LONG GRAVE,HIGH DOT,HIGH CIRCLE,HIGH LINE,HIGH WAVE"),
    (0x1BC88, "HIGH VERTICAL,,,,,,,,LOW ACUTE,LOW TIGHT ACUTE,LOW GRAVE,LOW LONG GRAVE"),
    (0x1BC94, "LOW DOT,LOW CIRCLE,LOW LINE,LOW WAVE,LOW VERTICAL,LOW ARROW")]⟩,
  ⟨"SHORTHAND FORMAT ", [(0x1BCA0, "LETTER OVERLAP,CONTINUING OVERLAP,DOWN STEP,UP STEP")]⟩,
  ⟨"ZNAMENNY COMBINING MARK ",
    [(0x1CF00, "GORAZDO NIZKO S KRYZHEM ON LEFT,NIZKO S KRYZHEM ON LEFT,TSATA ON LEFT"),
    (0x1CF03, "GORAZDO NIZKO ON LEFT,NIZKO ON LEFT,SREDNE ON LEFT,,POVYSHE ON LEFT"),
    (0x1CF08, "VYSOKO ON LEFT,,POVYSHE S KHOKHLOM ON LEFT,VYSOKO S KHOKHLOM ON LEFT"),
    (0x1CF0C, "GORAZDO NIZKO S KRYZHEM ON RIGHT,NIZKO S KRYZHEM ON RIGHT,TSATA ON RIGHT"),
    (0x1CF0F, "GORAZDO NIZKO ON RIGHT,NIZKO ON RIGHT,SREDNE ON RIGHT,,POVYSHE ON RIGHT"),
    (0x1CF14, "VYSOKO ON RIGHT,,POVYSHE S KHOKHLOM ON RIGHT,VYSOKO S KHOKHLOM ON RIGHT"),
    (0x1CF18, "TSATA S KRYZHEM,,STRANNO MALO POVYSHE,POVYSHE S KRYZHEM,POVYSHE STRANNO"),
    (0x1CF1D, "VYSOKO S KRYZHEM,,GORAZDO VYSOKO,ZELO,ON,RAVNO,TIKHAYA,BORZAYA,UDARKA"),
    (0x1CF26, "PODVERTKA,LOMKA,KUPNAYA,KACHKA,ZEVOK,SKOBA,RAZSEKA,KRYZH ON LEFT"),
    (0x1CF33, "ZADERZHKA,DEMESTVENNY ZADERZHKA,OTSECHKA,PODCHASHIE"),
    (0x1CF37, "PODCHASHIE WITH VERTICAL STROKE,CHASHKA,CHASHKA POLNAYA,OBLACHKO"),
    (0x1CF3B, "SOROCHYA NOZHKA,TOCHKA,DVOETOCHIE,,CURVED OMET,KRYZH")]⟩,
  ⟨"ZNAMENNY COMBINING MARK MALO POVYSHE ",
    [(0x1CF06, "ON LEFT,,,S KHOKHLOM ON LEFT,,,,,,,,,ON RIGHT,,,S KHOKHLOM ON RIGHT"),
    (0x1CF19, "S KRYZHEM,,,,,STRANNO")]⟩,
  ⟨"ZNAMENNY COMBINING ",
    [(0x1CF30, "TONAL RANGE MARK MRACHNO,TONAL RANGE MARK SVETLO,TONAL RANGE MARK TRESVETLO"),
    (0x1CF3E, "ATTACHING VERTICAL OMET,,,LOWER TONAL RANGE INDICATOR")]⟩,
  ⟨"ZNAMENNY PRIZNAK MODIFIER ", [(0x1CF42, "LEVEL-2,LEVEL-3,DIRECTION FLIP,KRYZH,ROG")]⟩,
  ⟨"ZNAMENNY NEUME ",
    [(0x1CF50, "KRYUK,KRYUK TIKHY,PARAKLIT,DVA V CHELNU,KLYUCH,ZANOZHEK,STOPITSA"),
    (0x1CF57, "STOPITSA S OCHKOM,PEREVODKA,PEREVODKA NEPOSTOYANNAYA"),
    (0x1CF5A, "STOPITSA WITH SOROCHYA NOZHKA,CHELYUSTKA,PALKA,ZAPYATAYA,GOLUBCHIK BORZY"),
    (0x1CF5F, "GOLUBCHIK TIKHY,GOLUBCHIK MRACHNY,GOLUBCHIK SVETLY,GOLUBCHIK TRESVETLY"),
    (0x1CF63, "VRAKHIYA PROSTAYA,VRAKHIYA MRACHNAYA,VRAKHIYA SVETLAYA,VRAKHIYA TRESVETLAYA"),
    (0x1CF67, "VRAKHIYA KLYUCHEVAYA PROSTAYA,VRAKHIYA KLYUCHEVAYA MRACHNAYA"),
    (0x1CF69, "VRAKHIYA KLYUCHEVAYA SVETLAYA,VRAKHIYA KLYUCHEVAYA TRESVETLAYA"),
    (0x1CF6B, "DOUBLE ZAPYATAYA,REVERSED CHELYUSTKA,DERBITSA,KHAMILO,CHASHKA,PODCHASHIE"),
    (0x1CF75, "DEMESTVENNY KLYUCH,,,,,,,,SLOZHITIE,SLOZHITIE S ZAPYATOY,SLOZHITIE ZAKRYTOE"),
    (0x1CF80, "SLOZHITIE S KRYZHEM,KRYZH,ROG,FITA,KOBYLA,ZMEYTSA,STATYA,STATYA S ZAPYATOY"),
    (0x1CF88, "STATYA S KRYZHEM,STATYA S ZAPYATOY I KRYZHEM,STATYA S KRYZHEM I ZAPYATOY"),
    (0x1CF8B, "STATYA ZAKRYTAYA,STATYA ZAKRYTAYA S ZAPYATOY,STATYA S ROGOM"),
    (0x1CF8E, "STATYA S DVUMYA ZAPYATYMI,STATYA S ZAPYATOY I PODCHASHIEM,POLKULIZMY"),
    (0x1CF91, "STATYA NEPOSTOYANNAYA"),
    (0x1CFA7, "MECHIK,MECHIK POVODNY,MECHIK KLYUCHEVOY,MECHIK KLYUCHEPOVODNY"),
    (0x1CFAB, "MECHIK KLYUCHENEPOSTOYANNY,,,,OSOKA,OSOKA SVETLAYA,OSOKA TRESVETLAYA"),
    (0x1CFB2, "OSOKA KRYUKOVAYA SVETLAYA,OSOKA KLYUCHEVAYA SVETLAYA"),
    (0x1CFB4, "OSOKA KLYUCHEVAYA NEPOSTOYANNAYA"), (0x1CFBF, "KUFISMA,OBLAKO,DUDA,NEMKA,PAUK")]⟩,
  ⟨"ZNAMENNY NEUME SKAMEYTSA ",
    [(0x1CF71, "MRACHNAYA,SVETLAYA,TRESVETLAYA,TIKHAYA,,KLYUCHEVAYA SVETLAYA"),
    (0x1CF77, "KLYUCHENEPOSTOYANNAYA,KLYUCHEVAYA TIKHAYA,DVOECHELNAYA PROSTAYA"),
    (0x1CF7A, "DVOECHELNAYA SVETLAYA,DVOECHELNAYA NEPOSTOYANNAYA,DVOECHELNAYA KLYUCHEVAYA")]⟩,
  ⟨"ZNAMENNY NEUME STRELA ",
    [(0x1CF92, "PROSTAYA,MRACHNOTIKHAYA,KRYZHEVAYA,POLUPOVODNAYA,POVODNAYA,NEPOSTOYANNAYA"),
    (0x1CF98, "KLYUCHEPOVODNAYA,KLYUCHENEPOSTOYANNAYA,TIKHAYA PUTNAYA,DVOECHELNAYA"),
    (0x1CF9C, "DVOECHELNOKRYZHEVAYA,DVOECHELNOPOVODNAYA,DVOECHELNAYA KLYUCHEVAYA"),
    (0x1CF9F, "DVOECHELNOPOVODNAYA KLYUCHEVAYA,GROMNAYA WITH SINGLE ZAPYATAYA"),
    (0x1CFA1, "GROMOPOVODNAYA WITH SINGLE ZAPYATAYA,GROMNAYA,GROMOPOVODNAYA"),
    (0x1CFA4, "GROMOPOVODNAYA WITH DOUBLE ZAPYATAYA,GROMOKRYZHEVAYA"),
    (0x1CFA6, "GROMOKRYZHEVAYA POVODNAYA,,,,,,TRYASOGLASNAYA,TRYASOPOVODNAYA,TRYASOSTRELNAYA"),
    (0x1CFB5, "KRYUKOVAYA")]⟩,
  ⟨"ZNAMENNY NEUME STRELA KRYUKOVAYA ",
    [(0x1CFB6, "POVODNAYA,GROMNAYA WITH SINGLE ZAPYATAYA,GROMOPOVODNAYA WITH SINGLE ZAPYATAYA"),
    (0x1CFB9, "GROMNAYA,GROMOPOVODNAYA,GROMOPOVODNAYA WITH DOUBLE ZAPYATAYA,GROMOKRYZHEVAYA"),
    (0x1CFBD, "GROMOKRYZHEVAYA POVODNAYA,TRYASKA")]⟩,
  ⟨"BYZANTINE MUSICAL SYMBOL ",
    [(0x1D000, "PSILI,DASEIA,PERISPOMENI,OXEIA EKFONITIKON,OXEIA DIPLI,VAREIA EKFONITIKON"),
    (0x1D006, "VAREIA DIPLI,KATHISTI,SYRMATIKI,PARAKLITIKI,YPOKRISIS,YPOKRISIS DIPLI"),
    (0x1D00C, "KREMASTI,APESO EKFONITIKON,EXO EKFONITIKON,TELEIA,KENTIMATA,APOSTROFOS"),
    (0x1D012, "APOSTROFOS DIPLI,SYNEVMA,THITA,OLIGON ARCHAION,GORGON ARCHAION,PSILON"),
    (0x1D018, "CHAMILON,VATHY,ISON ARCHAION,KENTIMA ARCHAION,KENTIMATA ARCHAION,SAXIMATA"),
    (0x1D01E, "PARICHON,STAVROS APODEXIA,OXEIAI ARCHAION,VAREIAI ARCHAION,APODERMA ARCHAION"),
    (0x1D023, "APOTHEMA,KLASMA,REVMA,PIASMA ARCHAION,TINAGMA,ANATRICHISMA,SEISMA"),
    (0x1D02A, "SYNAGMA ARCHAION,SYNAGMA META STAVROU,OYRANISMA ARCHAION,THEMA,LEMOI,DYO,TRIA"),
    (0x1D031, "TESSERA,KRATIMATA,APESO EXO NEO,,IMIFTHORA,TROMIKON ARCHAION,KATAVA TROMIKON"),
    (0x1D038, "PELASTON,PSIFISTON,KONTEVMA,CHOREVMA ARCHAION,RAPISMA,PARAKALESMA ARCHAION"),
    (0x1D03E, "PARAKLITIKI ARCHAION,ICHADIN,NANA,PETASMA,KONTEVMA ALLO,TROMIKON ALLO"),
    (0x1D044, "STRAGGISMATA,GRONTHISMATA,ISON NEO,OLIGON NEO,OXEIA NEO,PETASTI,KOUFISMA"),
    (0x1D04B, "PETASTOKOUFISMA,KRATIMOKOUFISMA,PELASTON NEO,KENTIMATA NEO ANO"),
    (0x1D04F, "KENTIMA NEO ANO,YPSILI,APOSTROFOS NEO,APOSTROFOI SYNDESMOS NEO,YPORROI"),
    (0x1D054, "KRATIMOYPORROON,ELAFRON,CHAMILI,MIKRON ISON,VAREIA NEO,PIASMA NEO"),
    (0x1D05A, "PSIFISTON NEO,OMALON,ANTIKENOMA,LYGISMA,PARAKLITIKI NEO,PARAKALESMA NEO"),
    (0x1D060, "ETERON PARAKALESMA,KYLISMA,ANTIKENOKYLISMA,TROMIKON NEO,EKSTREPTON"),
    (0x1D065, "SYNAGMA NEO,SYRMA,CHOREVMA NEO,EPEGERMA,SEISMA NEO,XIRON KLASMA"),
    (0x1D06B, "TROMIKOPSIFISTON,PSIFISTOLYGISMA,TROMIKOLYGISMA,TROMIKOPARAKALESMA"),
    (0x1D06F, "PSIFISTOPARAKALESMA,TROMIKOSYNAGMA,PSIFISTOSYNAGMA,GORGOSYNTHETON"),
    (0x1D073, "ARGOSYNTHETON,ETERON ARGOSYNTHETON,OYRANISMA NEO,THEMATISMOS ESO"),
    (0x1D077, "THEMATISMOS EXO,THEMA APLOUN,THES KAI APOTHES,KATAVASMA,ENDOFONON,YFEN KATO"),
    (0x1D07D, "YFEN ANO,STAVROS,KLASMA ANO,DIPLI ARCHAION,KRATIMA ARCHAION,KRATIMA ALLO"),
    (0x1D083, "KRATIMA NEO,APODERMA NEO,APLI,DIPLI,TRIPLI,TETRAPLI,KORONIS"),
    (0x1D08A, "LEIMMA ENOS CHRONOU,LEIMMA DYO CHRONON,LEIMMA TRION CHRONON"),
    (0x1D08D, "LEIMMA TESSARON CHRONON,LEIMMA IMISEOS CHRONOU,GORGON NEO ANO"),
    (0x1D090, "GORGON PARESTIGMENON ARISTERA,GORGON PARESTIGMENON DEXIA,DIGORGON"),
    (0x1D093, "DIGORGON PARESTIGMENON ARISTERA KATO,DIGORGON PARESTIGMENON ARISTERA ANO"),
    (0x1D095, "DIGORGON PARESTIGMENON DEXIA,TRIGORGON,ARGON,IMIDIARGON,DIARGON"),
    (0x1D09A, "AGOGI POLI ARGI,AGOGI ARGOTERI,AGOGI ARGI,AGOGI METRIA,AGOGI MESI,AGOGI GORGI"),
    (0x1D0A0, "AGOGI GORGOTERI,AGOGI POLI GORGI"),
    (0x1D0AC, "ISAKIA TELOUS ICHIMATOS,APOSTROFOI TELOUS ICHIMATOS,FANEROSIS TETRAFONIAS"),
    (0x1D0AF, "FANEROSIS MONOFONIAS,FANEROSIS DIFONIAS,,,,GORTHMIKON N APLOUN"),
    (0x1D0B5, "GORTHMIKON N DIPLOUN,ENARXIS KAI FTHORA VOU,IMIFONON,IMIFTHORON"),
    (0x1D0C5, "FHTORA SKLIRON CHROMA VASIS,,,CHROA ZYGOS,CHROA KLITON,CHROA SPATHI"),
    (0x1D0CD, "YFESIS TRITIMORION,DIESIS TRITIMORION,DIESIS TETARTIMORION"),
    (0x1D0D0, "DIESIS APLI DYO DODEKATA,DIESIS MONOGRAMMOS TESSERA DODEKATA"),
    (0x1D0D2, "DIESIS DIGRAMMOS EX DODEKATA,DIESIS TRIGRAMMOS OKTO DODEKATA"),
    (0x1D0D4, "YFESIS APLI DYO DODEKATA,YFESIS MONOGRAMMOS TESSERA DODEKATA"),
    (0x1D0D6, "YFESIS DIGRAMMOS EX DODEKATA,YFESIS TRIGRAMMOS OKTO DODEKATA,GENIKI DIESIS"),
    (0x1D0D9, "GENIKI YFESIS,DIASTOLI APLI MIKRI,DIASTOLI APLI MEGALI,DIASTOLI DIPLI"),
    (0x1D0DD, "DIASTOLI THESEOS,SIMANSIS THESEOS,SIMANSIS THESEOS DISIMOU"),
    (0x1D0E0, "SIMANSIS THESEOS TRISIMOU,SIMANSIS THESEOS TETRASIMOU,SIMANSIS ARSEOS"),
    (0x1D0E3, "SIMANSIS ARSEOS DISIMOU,SIMANSIS ARSEOS TRISIMOU,SIMANSIS ARSEOS TETRASIMOU"),
    (0x1D0E6, "DIGRAMMA GG,DIFTOGGOS OU,STIGMA,ARKTIKO PA,ARKTIKO VOU,ARKTIKO GA,ARKTIKO DI"),
    (0x1D0ED, "ARKTIKO KE,ARKTIKO ZO,ARKTIKO NI,KENTIMATA NEO MESO,KENTIMA NEO MESO"),
    (0x1D0F2, "KENTIMATA NEO KATO,KENTIMA NEO KATO,KLASMA KATO,GORGON NEO KATO")]⟩,
  ⟨"BYZANTINE MUSICAL SYMBOL FTHORA ", [(0x1D034, "ARCHAION"),
    (0x1D0B9, "ARCHAION DEYTEROU ICHOU,DIATONIKI PA,DIATONIKI NANA,NAOS ICHOS,DIATONIKI DI"),
    (0x1D0BE, "SKLIRON DIATONON DI,DIATONIKI KE,DIATONIKI ZO,DIATONIKI NI KATO"),
    (0x1D0C2, "DIATONIKI NI ANO,MALAKON CHROMA DIFONIAS,MALAKON CHROMA MONOFONIAS"),
    (0x1D0C6, "SKLIRON CHROMA SYNAFI,NENANO,,,,I YFESIS TETARTIMORION,ENARMONIOS ANTIFONIA")]⟩,
  ⟨"BYZANTINE MUSICAL SYMBOL MARTYRIA ",
    [(0x1D0A2, "PROTOS ICHOS,ALLI PROTOS ICHOS,DEYTEROS ICHOS,ALLI DEYTEROS ICHOS"),
    (0x1D0A6, "TRITOS ICHOS,TRIFONIAS,TETARTOS ICHOS,TETARTOS LEGETOS ICHOS,LEGETOS ICHOS"),
    (0x1D0AB, "PLAGIOS ICHOS,,,,,,VARYS ICHOS,PROTOVARYS ICHOS,PLAGIOS TETARTOS ICHOS")]⟩,
  ⟨"MUSICAL SYMBOL ",
    [(0x1D100, "SINGLE BARLINE,DOUBLE BARLINE,FINAL BARLINE,REVERSE FINAL BARLINE"),
    (0x1D104, "DASHED BARLINE,SHORT BARLINE,LEFT REPEAT SIGN,RIGHT REPEAT SIGN,REPEAT DOTS"),
    (0x1D109, "DAL SEGNO,DA CAPO,SEGNO,CODA,REPEATED FIGURE-1,REPEATED FIGURE-2"),
    (0x1D10F, "REPEATED FIGURE-3,FERMATA,FERMATA BELOW,BREATH MARK,CAESURA,BRACE,BRACKET"),
    (0x1D116, "ONE-LINE STAFF,TWO-LINE STAFF,THREE-LINE STAFF,FOUR-LINE STAFF"),
    (0x1D11A, "FIVE-LINE STAFF,SIX-LINE STAFF,SIX-STRING FRETBOARD,FOUR-STRING FRETBOARD"),
    (0x1D11E, "G CLEF,G CLEF OTTAVA ALTA,G CLEF OTTAVA BASSA,C CLEF,F CLEF"),
    (0x1D123, "F CLEF OTTAVA ALTA,F CLEF OTTAVA BASSA,DRUM CLEF-1,DRUM CLEF-2"),
    (0x1D129, "MULTIPLE MEASURE REST,DOUBLE SHARP,DOUBLE FLAT,FLAT UP,FLAT DOWN,NATURAL UP"),
    (0x1D12F, "NATURAL DOWN,SHARP UP,SHARP DOWN,QUARTER TONE SHARP,QUARTER TONE FLAT"),
    (0x1D134, "COMMON TIME,CUT TIME,OTTAVA ALTA,OTTAVA BASSA,QUINDICESIMA ALTA"),
    (0x1D139, "QUINDICESIMA BASSA,MULTI REST,WHOLE REST,HALF REST,QUARTER REST,EIGHTH REST"),
    (0x1D13F, "SIXTEENTH REST,THIRTY-SECOND REST,SIXTY-FOURTH REST"),
    (0x1D142, "ONE HUNDRED TWENTY-EIGHTH REST,X NOTEHEAD,PLUS NOTEHEAD,CIRCLE X NOTEHEAD"),
    (0x1D146, "SQUARE NOTEHEAD WHITE,SQUARE NOTEHEAD BLACK"),
    (0x1D152, "MOON NOTEHEAD WHITE,MOON NOTEHEAD BLACK,TRIANGLE-ROUND NOTEHEAD DOWN WHITE"),
    (0x1D155, "TRIANGLE-ROUND NOTEHEAD DOWN BLACK,PARENTHESIS NOTEHEAD,VOID NOTEHEAD"),
    (0x1D158, "NOTEHEAD BLACK,NULL NOTEHEAD,CLUSTER NOTEHEAD WHITE,CLUSTER NOTEHEAD BLACK"),
    (0x1D15C, "BREVE,WHOLE NOTE,HALF NOTE,QUARTER NOTE,EIGHTH NOTE,SIXTEENTH NOTE"),
    (0x1D162, "THIRTY-SECOND NOTE,SIXTY-FOURTH NOTE,ONE HUNDRED TWENTY-EIGHTH NOTE"),
    (0x1D16A, "FINGERED TREMOLO-1,FINGERED TREMOLO-2,FINGERED TREMOLO-3,,,,,,,BEGIN BEAM"),
    (0x1D174, "END BEAM,BEGIN TIE,END TIE,BEGIN SLUR,END SLUR,BEGIN PHRASE,END PHRASE"),
    (0x1D183, "ARPEGGIATO UP,ARPEGGIATO DOWN,,,,,,,,RINFORZANDO,SUBITO,Z,PIANO,MEZZO,FORTE"),
    (0x1D192, "CRESCENDO,DECRESCENDO,GRACE NOTE SLASH,GRACE NOTE NO SLASH,TR,TURN"),
    (0x1D198, "INVERTED TURN,TURN SLASH,TURN UP"),
    (0x1D1A6, "HAUPTSTIMME,NEBENSTIMME,END OF STIMME,DEGREE SLASH,,,,,PEDAL MARK"),
    (0x1D1AF, "PEDAL UP MARK,HALF PEDAL MARK,GLISSANDO UP,GLISSANDO DOWN,WITH FINGERNAILS"),
    (0x1D1B4, "DAMP,DAMP ALL,MAXIMA,LONGA,BREVIS,SEMIBREVIS WHITE,SEMIBREVIS BLACK,MINIMA"),
    (0x1D1BC, "MINIMA BLACK,SEMIMINIMA WHITE,SEMIMINIMA BLACK,FUSA WHITE,FUSA BLACK"),
    (0x1D1C1, "LONGA PERFECTA REST,LONGA IMPERFECTA REST,BREVIS REST,SEMIBREVIS REST"),
    (0x1D1C5, "MINIMA REST,SEMIMINIMA REST,TEMPUS PERFECTUM CUM PROLATIONE PERFECTA"),
    (0x1D1C8, "TEMPUS PERFECTUM CUM PROLATIONE IMPERFECTA"),
    (0x1D1C9, "TEMPUS PERFECTUM CUM PROLATIONE PERFECTA DIMINUTION-1,,,,,,CROIX"),
    (0x1D1D0, "GREGORIAN C CLEF,GREGORIAN F CLEF,SQUARE B,VIRGA,PODATUS,CLIVIS,SCANDICUS"),
    (0x1D1D7, "CLIMACUS,TORCULUS,PORRECTUS,PORRECTUS FLEXUS,SCANDICUS FLEXUS"),
    (0x1D1DC, "TORCULUS RESUPINUS,PES SUBPUNCTIS,KIEVAN C CLEF,KIEVAN END OF PIECE"),
    (0x1D1E0, "KIEVAN FINAL NOTE,KIEVAN RECITATIVE MARK,KIEVAN WHOLE NOTE,KIEVAN HALF NOTE"),
    (0x1D1E4, "KIEVAN QUARTER NOTE STEM DOWN,KIEVAN QUARTER NOTE STEM UP"),
    (0x1D1E6, "KIEVAN EIGHTH NOTE STEM DOWN,KIEVAN EIGHTH NOTE STEM UP,KIEVAN FLAT SIGN,SORI"),
    (0x1D1EA, "KORON")]⟩,
  ⟨"MUSICAL SYMBOL TRIANGLE NOTEHEAD ",
    [(0x1D148, "UP WHITE,UP BLACK,LEFT WHITE,LEFT BLACK,RIGHT WHITE,RIGHT BLACK,DOWN WHITE"),
    (0x1D14F, "DOWN BLACK,UP RIGHT WHITE,UP RIGHT BLACK")]⟩,
  ⟨"MUSICAL SYMBOL COMBINING ",
    [(0x1D165, "STEM,SPRECHGESANG STEM,TREMOLO-1,TREMOLO-2,TREMOLO-3,,,,AUGMENTATION DOT"),
    (0x1D16E, "FLAG-1,FLAG-2,FLAG-3,FLAG-4,FLAG-5,,,,,,,,,ACCENT,STACCATO,TENUTO"),
    (0x1D17E, "STACCATISSIMO,MARCATO,MARCATO-STACCATO,ACCENT-STACCATO,LOURE,,,DOIT,RIP,FLIP"),
    (0x1D188, "SMEAR,BEND,DOUBLE TONGUE,TRIPLE TONGUE"),
    (0x1D1AA, "DOWN BOW,UP BOW,HARMONIC,SNAP PIZZICATO")]⟩,
  ⟨"MUSICAL SYMBOL ORNAMENT STROKE-", [(0x1D19B, "1,2,3,4,5,6,7,8,9,10,11")]⟩,
  ⟨"MUSICAL SYMBOL TEMPUS IMPERFECTUM CUM PROLATIONE ",
    [(0x1D1CA, "PERFECTA,IMPERFECTA,IMPERFECTA DIMINUTION-1,IMPERFECTA DIMINUTION-2"),
    (0x1D1CE, "IMPERFECTA DIMINUTION-3")]⟩,
  ⟨"GREEK VOCAL NOTATION SYMBOL-",
    [(0x1D200, "1,2,3,4,5,6,7,8,9,10,11,12,13,14,15,16,17,18,19,20,21,22,23,24,50,51,52,53,54")]⟩,
  ⟨"GREEK INSTRUMENTAL NOTATION SYMBOL-",
    [(0x1D21D, "1,2,4,5,7,8,11,12,13,14,17,18,19,23,24,25,26,27,29,30,32,36,37,38,39,40,42,43"),
    (0x1D239, "45,47,48,49,50,51,52,53,54")]⟩,
  ⟨"MAYAN NUMERAL ",
    [(0x1D2E0, "ZERO,ONE,TWO,THREE,FOUR,FIVE,SIX,SEVEN,EIGHT,NINE,TEN,ELEVEN,TWELVE,THIRTEEN"),
    (0x1D2EE, "FOURTEEN,FIFTEEN,SIXTEEN,SEVENTEEN,EIGHTEEN,NINETEEN")]⟩,
  ⟨"TETRAGRAM FOR ",
    [(0x1D306, "CENTRE,FULL CIRCLE,MIRED,BARRIER,KEEPING SMALL,CONTRARIETY,ASCENT,OPPOSITION"),
    (0x1D30E, "BRANCHING OUT,DEFECTIVENESS OR DISTORTION,DIVERGENCE,YOUTHFULNESS,INCREASE"),
    (0x1D313, "PENETRATION,REACH,CONTACT,HOLDING BACK,WAITING,FOLLOWING,ADVANCE,RELEASE"),
    (0x1D31B, "RESISTANCE,EASE,JOY,CONTENTION,ENDEAVOUR,DUTIES,CHANGE,DECISIVENESS"),
    (0x1D323, "BOLD RESOLUTION,PACKING,LEGION,CLOSENESS,KINSHIP,GATHERING,STRENGTH,PURITY"),
    (0x1D32B, "FULLNESS,RESIDENCE,LAW OR MODEL,RESPONSE,GOING TO MEET,ENCOUNTERS,STOVE"),
    (0x1D332, "GREATNESS,ENLARGEMENT,PATTERN,RITUAL,FLIGHT,VASTNESS OR WASTING,CONSTANCY"),
    (0x1D339, "MEASURE,ETERNITY,UNITY,DIMINISHMENT,CLOSED MOUTH,GUARDEDNESS,GATHERING IN"),
    (0x1D340, "MASSING,ACCUMULATION,EMBELLISHMENT,DOUBT,WATCH,SINKING,INNER,DEPARTURE"),
    (0x1D348, "DARKENING,DIMMING,EXHAUSTION,SEVERANCE,STOPPAGE,HARDNESS,COMPLETION,CLOSURE"),
    (0x1D350, "FAILURE,AGGRAVATION,COMPLIANCE,ON THE VERGE,DIFFICULTIES,LABOURING,FOSTERING")]⟩,
  ⟨"COUNTING ROD UNIT DIGIT ", [(0x1D360, "ONE,TWO,THREE,FOUR,FIVE,SIX,SEVEN,EIGHT,NINE")]⟩,
  ⟨"COUNTING ROD TENS DIGIT ", [(0x1D369, "ONE,TWO,THREE,FOUR,FIVE,SIX,SEVEN,EIGHT,NINE")]⟩,
  ⟨"SIGNWRITING HAND-FIST ",
    [(0x1D800, "INDEX,,,,,,INDEX BENT,,THUMB UNDER INDEX BENT,INDEX RAISED KNUCKLE"),
    (0x1D80A, "INDEX CUPPED,INDEX HINGED,INDEX HINGED LOW,,INDEX MIDDLE"),
    (0x1D813, "INDEX UP MIDDLE HINGED,INDEX HINGED MIDDLE UP,,,,,,,,,INDEX BENT OVER MIDDLE"),
    (0x1D824, "INDEX UP MIDDLE HINGED THUMB SIDE,INDEX UP MIDDLE HINGED THUMB CONJOINED"),
    (0x1D826, "INDEX HINGED MIDDLE UP THUMB SIDE,,,,,,THUMB BETWEEN INDEX MIDDLE STRAIGHT"),
    (0x1D84A, "FOUR FINGERS CONJOINED BENT"), (0x1D893, "THUMB UNDER LITTLE UP"),
    (0x1D8AB, "RING DOWN,,,RING UP,RING RAISED KNUCKLE,RING LITTLE,,,,RING MIDDLE"),
    (0x1D8B5, "RING MIDDLE CONJOINED,RING MIDDLE RAISED KNUCKLES,RING INDEX,RING THUMB"),
    (0x1D8BA, "INDEX RING LITTLE"),
    (0x1D8F5, "THUMB,THUMB HEEL,THUMB SIDE DIAGONAL,THUMB SIDE CONJOINED,THUMB SIDE BENT"),
    (0x1D8FA, "THUMB FORWARD,THUMB BETWEEN INDEX MIDDLE,THUMB BETWEEN MIDDLE RING"),
    (0x1D8FD, "THUMB BETWEEN RING LITTLE,THUMB UNDER TWO FINGERS,THUMB OVER TWO FINGERS"),
    (0x1D900, "THUMB UNDER THREE FINGERS,THUMB UNDER FOUR FINGERS"),
    (0x1D902, "THUMB OVER FOUR RAISED KNUCKLES,,HEEL")]⟩,
  ⟨"SIGNWRITING HAND-",
    [(0x1D801, "CIRCLE INDEX,CUP INDEX,OVAL INDEX,HINGE INDEX,ANGLE INDEX,,CIRCLE INDEX BENT"),
    (0x1D80D, "CIRCLE INDEX HINGE,,CIRCLE INDEX MIDDLE"),
    (0x1D81B, "CIRCLE INDEX MIDDLE CROSSED,,,,CIRCLE INDEX MIDDLE THUMB"),
    (0x1D844, "FLAT FOUR FINGERS,FLAT FOUR FINGERS BENT,FLAT FOUR FINGERS HINGED"),
    (0x1D847, "FLAT FOUR FINGERS CONJOINED,FLAT FOUR FINGERS CONJOINED SPLIT"),
    (0x1D849, "CLAW FOUR FINGERS CONJOINED,,HINGE FOUR FINGERS CONJOINED"),
    (0x1D84D, "FLAT HEEL FIVE FINGERS SPREAD,,FLAT HEEL FIVE FINGERS SPREAD FOUR BENT"),
    (0x1D851, "FLAT HEEL FIVE FINGERS SPREAD BENT,,CUP FIVE FINGERS SPREAD"),
    (0x1D854, "CUP FIVE FINGERS SPREAD OPEN,HINGE FIVE FINGERS SPREAD OPEN"),
    (0x1D856, "OVAL FIVE FINGERS SPREAD,,,,FLAT,FLAT BETWEEN PALM FACINGS,FLAT HEEL"),
    (0x1D85D, "FLAT THUMB SIDE,FLAT HEEL THUMB SIDE,FLAT THUMB BENT,FLAT THUMB FORWARD"),
    (0x1D861, "FLAT SPLIT INDEX THUMB SIDE,FLAT SPLIT CENTRE,FLAT SPLIT CENTRE THUMB SIDE"),
    (0x1D864, "FLAT SPLIT CENTRE THUMB SIDE BENT,FLAT SPLIT LITTLE,CLAW,CLAW THUMB SIDE"),
    (0x1D868, "CLAW NO THUMB,CLAW THUMB FORWARD,HOOK CURLICUE,HOOK,CUP OPEN,CUP"),
    (0x1D86E, "CUP OPEN THUMB SIDE,CUP THUMB SIDE,CUP OPEN NO THUMB,CUP NO THUMB"),
    (0x1D872, "CUP OPEN THUMB FORWARD,CUP THUMB FORWARD,CURLICUE OPEN,CURLICUE,CIRCLE,OVAL"),
    (0x1D878, "OVAL THUMB SIDE,OVAL NO THUMB,OVAL THUMB FORWARD,HINGE OPEN"),
    (0x1D87C, "HINGE OPEN THUMB FORWARD,HINGE,HINGE SMALL,HINGE OPEN THUMB SIDE"),
    (0x1D880, "HINGE THUMB SIDE,HINGE OPEN NO THUMB,HINGE NO THUMB"),
    (0x1D883, "HINGE THUMB SIDE TOUCHING INDEX,HINGE THUMB BETWEEN MIDDLE RING,ANGLE"),
    (0x1D887, "CIRCLE INDEX MIDDLE RING,HINGE INDEX MIDDLE RING,ANGLE INDEX MIDDLE RING"),
    (0x1D88A, "HINGE LITTLE,,,HINGE INDEX MIDDLE RING CONJOINED,,,,,,,CIRCLE LITTLE UP"),
    (0x1D895, "OVAL LITTLE UP,ANGLE LITTLE UP,,,,,HINGE LITTLE THUMB"),
    (0x1D89D, "HINGE LITTLE INDEX THUMB,ANGLE LITTLE INDEX THUMB INDEX THUMB OUT"),
    (0x1D89F, "ANGLE LITTLE INDEX THUMB INDEX THUMB,,CIRCLE LITTLE INDEX,HINGE LITTLE INDEX"),
    (0x1D8A3, "ANGLE LITTLE INDEX,,CIRCLE INDEX MIDDLE LITTLE,HINGE INDEX MIDDLE LITTLE"),
    (0x1D8A7, "HINGE RING,ANGLE INDEX MIDDLE LITTLE,,CIRCLE INDEX MIDDLE CROSS LITTLE"),
    (0x1D8AC, "HINGE RING DOWN INDEX THUMB HOOK MIDDLE"),
    (0x1D8AD, "ANGLE RING DOWN MIDDLE THUMB INDEX CROSS,,,,CIRCLE RING LITTLE"),
    (0x1D8B2, "OVAL RING LITTLE,ANGLE RING LITTLE,,,,,,HOOK RING THUMB"),
    (0x1D8BB, "CIRCLE INDEX RING LITTLE,CURLICUE INDEX RING LITTLE ON"),
    (0x1D8BD, "HOOK INDEX RING LITTLE OUT,HOOK INDEX RING LITTLE IN"),
    (0x1D8BF, "HOOK INDEX RING LITTLE UNDER,CUP INDEX RING LITTLE,HINGE INDEX RING LITTLE"),
    (0x1D8C2, "ANGLE INDEX RING LITTLE OUT,ANGLE INDEX RING LITTLE,,HINGE MIDDLE"),
    (0x1D8C7, "CIRCLE MIDDLE UP,,,HOOK MIDDLE THUMB,,,,CIRCLE MIDDLE RING LITTLE"),
    (0x1D8CF, "CURLICUE MIDDLE RING LITTLE ON,CUP MIDDLE RING LITTLE"),
    (0x1D8D1, "HINGE MIDDLE RING LITTLE,ANGLE MIDDLE RING LITTLE OUT"),
    (0x1D8D3, "ANGLE MIDDLE RING LITTLE IN,ANGLE MIDDLE RING LITTLE"),
    (0x1D8D5, "CIRCLE MIDDLE RING LITTLE BENT,CLAW MIDDLE RING LITTLE CONJOINED"),
    (0x1D8D7, "CLAW MIDDLE RING LITTLE CONJOINED SIDE,HOOK MIDDLE RING LITTLE CONJOINED OUT"),
    (0x1D8D9, "HOOK MIDDLE RING LITTLE CONJOINED IN,HOOK MIDDLE RING LITTLE CONJOINED"),
    (0x1D8DB, "HINGE INDEX HINGED,,HINGE INDEX THUMB SIDE"),
    (0x1D8E9, "CLAW INDEX THUMB CURVE THUMB INSIDE,,,CUP INDEX THUMB,CUP INDEX THUMB OPEN"),
    (0x1D8EE, "HINGE INDEX THUMB OPEN,HINGE INDEX THUMB LARGE,HINGE INDEX THUMB"),
    (0x1D8F1, "HINGE INDEX THUMB SMALL,ANGLE INDEX THUMB OUT,ANGLE INDEX THUMB IN"),
    (0x1D8F4, "ANGLE INDEX THUMB"), (0x1D903, "FIST")]⟩,
  ⟨"SIGNWRITING HAND-FIST INDEX MIDDLE ",
    [(0x1D810, "BENT,RAISED KNUCKLES,HINGED,,,CONJOINED,CONJOINED INDEX BENT"),
    (0x1D817, "CONJOINED MIDDLE BENT,CONJOINED CUPPED,CONJOINED HINGED,CROSSED,,,,THUMB"),
    (0x1D820, "STRAIGHT THUMB BENT,BENT THUMB STRAIGHT,THUMB BENT,HINGED SPREAD THUMB SIDE"),
    (0x1D827, "UP SPREAD THUMB FORWARD,THUMB CUPPED,THUMB CIRCLED,THUMB HOOKED,THUMB HINGED"),
    (0x1D82D, "CONJOINED THUMB SIDE,CONJOINED THUMB SIDE CONJOINED,CONJOINED THUMB SIDE BENT"),
    (0x1D832, "CONJOINED HINGED THUMB SIDE,CROSSED THUMB SIDE,CONJOINED THUMB FORWARD"),
    (0x1D835, "CONJOINED CUPPED THUMB FORWARD,,,,,,,,THUMB CONJOINED HINGED,THUMB ANGLED OUT"),
    (0x1D83F, "THUMB ANGLED"), (0x1D886, "RING,,,,,RING BENT,RING CONJOINED"),
    (0x1D8A4, "LITTLE,,,,,CROSS LITTLE")]⟩,
  ⟨"SIGNWRITING HAND-FIST MIDDLE ", [(0x1D81C, "BENT OVER INDEX"),
    (0x1D830, "THUMB HOOKED INDEX UP,,,,,,THUMB CUPPED INDEX UP,,THUMB CIRCLED INDEX UP"),
    (0x1D839, "THUMB CIRCLED INDEX HINGED,,,,,,,THUMB ANGLED OUT INDEX UP"),
    (0x1D841, "THUMB ANGLED OUT INDEX CROSSED,THUMB ANGLED INDEX UP"),
    (0x1D8C4, "DOWN,,UP,,RAISED KNUCKLE,UP THUMB SIDE,,THUMB LITTLE,LITTLE,RING LITTLE")]⟩,
  ⟨"SIGNWRITING HAND-FIST INDEX THUMB ",
    [(0x1D831, "HOOKED MIDDLE UP,,,,,,CUPPED MIDDLE UP,,,ANGLED OUT MIDDLE UP"),
    (0x1D83B, "ANGLED IN MIDDLE UP,CIRCLED MIDDLE UP,,,,,,,HOOKED MIDDLE HINGED"),
    (0x1D8DC, "SIDE,,SIDE THUMB DIAGONAL,SIDE THUMB CONJOINED,SIDE THUMB BENT"),
    (0x1D8E1, "SIDE INDEX BENT,SIDE BOTH BENT,SIDE INDEX HINGE,FORWARD INDEX STRAIGHT"),
    (0x1D8E5, "FORWARD INDEX BENT,HOOK,CURLICUE,CURVE THUMB INSIDE,,CURVE THUMB UNDER,CIRCLE")]⟩,
  ⟨"SIGNWRITING HAND-FLAT FIVE FINGERS ",
    [(0x1D84C, "SPREAD,,SPREAD FOUR BENT,,SPREAD BENT,,SPREAD THUMB FORWARD,,,,,SPREAD HINGED"),
    (0x1D858, "SPREAD HINGED THUMB SIDE,SPREAD HINGED NO THUMB")]⟩,
  ⟨"SIGNWRITING HAND-FIST LITTLE ",
    [(0x1D88E, "DOWN,DOWN RIPPLE STRAIGHT,DOWN RIPPLE CURVED,DOWN OTHERS CIRCLED,UP"),
    (0x1D897, "RAISED KNUCKLE,BENT,TOUCHES THUMB,THUMB,,INDEX THUMB,,,,INDEX")]⟩,
  ⟨"SIGNWRITING ",
    [(0x1D905, "TOUCH SINGLE,TOUCH MULTIPLE,TOUCH BETWEEN,GRASP SINGLE,GRASP MULTIPLE"),
    (0x1D90A, "GRASP BETWEEN,STRIKE SINGLE,STRIKE MULTIPLE,STRIKE BETWEEN,BRUSH SINGLE"),
    (0x1D90F, "BRUSH MULTIPLE,BRUSH BETWEEN,RUB SINGLE,RUB MULTIPLE,RUB BETWEEN"),
    (0x1D914, "SURFACE SYMBOLS,SURFACE BETWEEN,SQUEEZE LARGE SINGLE,SQUEEZE SMALL SINGLE"),
    (0x1D918, "SQUEEZE LARGE MULTIPLE,SQUEEZE SMALL MULTIPLE,SQUEEZE SEQUENTIAL"),
    (0x1D91B, "FLICK LARGE SINGLE,FLICK SMALL SINGLE,FLICK LARGE MULTIPLE"),
    (0x1D91E, "FLICK SMALL MULTIPLE,FLICK SEQUENTIAL,SQUEEZE FLICK ALTERNATING"),
    (0x1D9FF, "HEAD,HEAD RIM,HEAD MOVEMENT-WALLPLANE STRAIGHT,HEAD MOVEMENT-WALLPLANE TILT"),
    (0x1DA03, "HEAD MOVEMENT-FLOORPLANE STRAIGHT,HEAD MOVEMENT-WALLPLANE CURVE"),
    (0x1DA05, "HEAD MOVEMENT-FLOORPLANE CURVE,HEAD MOVEMENT CIRCLE"),
    (0x1DA07, "FACE DIRECTION POSITION NOSE FORWARD TILTING"),
    (0x1DA08, "FACE DIRECTION POSITION NOSE UP OR DOWN"),
    (0x1DA09, "FACE DIRECTION POSITION NOSE UP OR DOWN TILTING,EYEBROWS STRAIGHT UP"),
    (0x1DA0B, "EYEBROWS STRAIGHT NEUTRAL,EYEBROWS STRAIGHT DOWN,,,,,FOREHEAD NEUTRAL"),
    (0x1DA12, "FOREHEAD CONTACT,FOREHEAD WRINKLED,EYES OPEN,EYES SQUEEZED,EYES CLOSED"),
    (0x1DA17, "EYE BLINK SINGLE,EYE BLINK MULTIPLE,EYES HALF OPEN,EYES WIDE OPEN"),
    (0x1DA1B, "EYES HALF CLOSED,EYES WIDENING MOVEMENT,EYE WINK,EYELASHES UP,EYELASHES DOWN"),
    (0x1DA20, "EYELASHES FLUTTERING,EYEGAZE-WALLPLANE STRAIGHT"),
    (0x1DA22, "EYEGAZE-WALLPLANE STRAIGHT DOUBLE,EYEGAZE-WALLPLANE STRAIGHT ALTERNATING"),
    (0x1DA24, "EYEGAZE-FLOORPLANE STRAIGHT,EYEGAZE-FLOORPLANE STRAIGHT DOUBLE"),
    (0x1DA26, "EYEGAZE-FLOORPLANE STRAIGHT ALTERNATING,EYEGAZE-WALLPLANE CURVED"),
    (0x1DA28, "EYEGAZE-FLOORPLANE CURVED,EYEGAZE-WALLPLANE CIRCLING,CHEEKS PUFFED"),
    (0x1DA2B, "CHEEKS NEUTRAL,CHEEKS SUCKED,TENSE CHEEKS HIGH,TENSE CHEEKS MIDDLE"),
    (0x1DA2F, "TENSE CHEEKS LOW,EARS,NOSE NEUTRAL,NOSE CONTACT,NOSE WRINKLES,NOSE WIGGLES"),
    (0x1DA35, "AIR BLOWING OUT,AIR SUCKING IN,AIR BLOW SMALL ROTATIONS"),
    (0x1DA38, "AIR SUCK SMALL ROTATIONS,BREATH INHALE,BREATH EXHALE"),
    (0x1DA53, "LIPS PRESSED TOGETHER,LIP LOWER OVER UPPER,LIP UPPER OVER LOWER"),
    (0x1DA59, "TONGUE STICKING OUT FAR,TONGUE LICKING LIPS,TONGUE TIP BETWEEN LIPS"),
    (0x1DA5C, "TONGUE TIP TOUCHING INSIDE MOUTH,TONGUE INSIDE MOUTH RELAXED"),
    (0x1DA5E, "TONGUE MOVES AGAINST CHEEK,TONGUE CENTRE STICKING OUT"),
    (0x1DA60, "TONGUE CENTRE INSIDE MOUTH,TEETH,TEETH MOVEMENT,TEETH ON TONGUE"),
    (0x1DA64, "TEETH ON TONGUE MOVEMENT,TEETH ON LIPS,TEETH ON LIPS MOVEMENT,TEETH BITE LIPS"),
    (0x1DA6A, "NECK,HAIR,EXCITEMENT,SHOULDER HIP SPINE,SHOULDER HIP POSITIONS"),
    (0x1DA6F, "WALLPLANE SHOULDER HIP MOVE,FLOORPLANE SHOULDER HIP MOVE"),
    (0x1DA71, "SHOULDER TILTING FROM WAIST,TORSO-WALLPLANE STRAIGHT STRETCH"),
    (0x1DA73, "TORSO-WALLPLANE CURVED BEND,TORSO-FLOORPLANE TWISTING"),
    (0x1DA75, "UPPER BODY TILTING FROM HIP JOINTS,LIMB COMBINATION,LIMB LENGTH-1"),
    (0x1DA78, "LIMB LENGTH-2,LIMB LENGTH-3,LIMB LENGTH-4,LIMB LENGTH-5,LIMB LENGTH-6"),
    (0x1DA7D, "LIMB LENGTH-7,FINGER,LOCATION-WALLPLANE SPACE,LOCATION-FLOORPLANE SPACE"),
    (0x1DA81, "LOCATION HEIGHT,LOCATION WIDTH,LOCATION DEPTH,LOCATION HEAD NECK"),
    (0x1DA85, "LOCATION TORSO,LOCATION LIMBS DIGITS,COMMA,FULL STOP,SEMICOLON,COLON"),
    (0x1DA8B, "PARENTHESIS")]⟩,
  ⟨"SIGNWRITING MOVEMENT-HINGE ",
    [(0x1D921, "UP DOWN LARGE,UP DOWN SMALL,UP SEQUENTIAL,DOWN SEQUENTIAL"),
    (0x1D925, "UP DOWN ALTERNATING LARGE,UP DOWN ALTERNATING SMALL,SIDE TO SIDE SCISSORS")]⟩,
  ⟨"SIGNWRITING MOVEMENT-WALLPLANE ",
    [(0x1D928, "FINGER CONTACT,,SINGLE STRAIGHT SMALL,SINGLE STRAIGHT MEDIUM"),
    (0x1D92C, "SINGLE STRAIGHT LARGE,SINGLE STRAIGHT LARGEST,SINGLE WRIST FLEX"),
    (0x1D92F, "DOUBLE STRAIGHT,DOUBLE WRIST FLEX,DOUBLE ALTERNATING"),
    (0x1D932, "DOUBLE ALTERNATING WRIST FLEX,CROSS,TRIPLE STRAIGHT MOVEMENT"),
    (0x1D935, "TRIPLE WRIST FLEX,TRIPLE ALTERNATING,TRIPLE ALTERNATING WRIST FLEX,BEND SMALL"),
    (0x1D939, "BEND MEDIUM,BEND LARGE,CORNER SMALL,CORNER MEDIUM,CORNER LARGE"),
    (0x1D93E, "CORNER ROTATION,CHECK SMALL,CHECK MEDIUM,CHECK LARGE,BOX SMALL,BOX MEDIUM"),
    (0x1D944, "BOX LARGE,ZIGZAG SMALL,ZIGZAG MEDIUM,ZIGZAG LARGE,PEAKS SMALL,PEAKS MEDIUM"),
    (0x1D94A, "PEAKS LARGE"),
    (0x1D988, "CURVE QUARTER SMALL,CURVE QUARTER MEDIUM,CURVE QUARTER LARGE"),
    (0x1D98B, "CURVE QUARTER LARGEST,CURVE HALF-CIRCLE SMALL,CURVE HALF-CIRCLE MEDIUM"),
    (0x1D98E, "CURVE HALF-CIRCLE LARGE,CURVE HALF-CIRCLE LARGEST"),
    (0x1D990, "CURVE THREE-QUARTER CIRCLE SMALL,CURVE THREE-QUARTER CIRCLE MEDIUM,HUMP SMALL"),
    (0x1D993, "HUMP MEDIUM,HUMP LARGE,LOOP SMALL,LOOP MEDIUM,LOOP LARGE,LOOP SMALL DOUBLE"),
    (0x1D999, "WAVE CURVE DOUBLE SMALL,WAVE CURVE DOUBLE MEDIUM,WAVE CURVE DOUBLE LARGE"),
    (0x1D99C, "WAVE CURVE TRIPLE SMALL,WAVE CURVE TRIPLE MEDIUM,WAVE CURVE TRIPLE LARGE"),
    (0x1D99F, "CURVE THEN STRAIGHT,CURVED CROSS SMALL,CURVED CROSS MEDIUM,,,,SHAKING"),
    (0x1D9A6, "CURVE HITTING FRONT WALL,HUMP HITTING FRONT WALL,LOOP HITTING FRONT WALL"),
    (0x1D9A9, "WAVE HITTING FRONT WALL,,,,CURVE HITTING CHEST,HUMP HITTING CHEST"),
    (0x1D9AF, "LOOP HITTING CHEST,WAVE HITTING CHEST,,,,WAVE DIAGONAL PATH SMALL"),
    (0x1D9B5, "WAVE DIAGONAL PATH MEDIUM,WAVE DIAGONAL PATH LARGE"),
    (0x1D9E3, "ARM CIRCLE SMALL SINGLE,ARM CIRCLE MEDIUM SINGLE,ARM CIRCLE SMALL DOUBLE"),
    (0x1D9E6, "ARM CIRCLE MEDIUM DOUBLE,,,,,,,WRIST CIRCLE FRONT SINGLE"),
    (0x1D9EE, "WRIST CIRCLE FRONT DOUBLE,,,FINGER CIRCLES SINGLE,FINGER CIRCLES DOUBLE"),
    (0x1DA68, "JAW")]⟩,
  ⟨"SIGNWRITING MOVEMENT-FLOORPLANE ", [(0x1D929, "FINGER CONTACT"),
    (0x1D965, "SINGLE STRAIGHT SMALL,SINGLE STRAIGHT MEDIUM,SINGLE STRAIGHT LARGE"),
    (0x1D968, "SINGLE STRAIGHT LARGEST,SINGLE WRIST FLEX,DOUBLE STRAIGHT,DOUBLE WRIST FLEX"),
    (0x1D96C, "DOUBLE ALTERNATING,DOUBLE ALTERNATING WRIST FLEX,CROSS"),
    (0x1D96F, "TRIPLE STRAIGHT MOVEMENT,TRIPLE WRIST FLEX,TRIPLE ALTERNATING MOVEMENT"),
    (0x1D972, "TRIPLE ALTERNATING WRIST FLEX,BEND,CORNER SMALL,CORNER MEDIUM,CORNER LARGE"),
    (0x1D977, "CHECK,BOX SMALL,BOX MEDIUM,BOX LARGE,ZIGZAG SMALL,ZIGZAG MEDIUM,ZIGZAG LARGE"),
    (0x1D97E, "PEAKS SMALL,PEAKS MEDIUM,PEAKS LARGE"),
    (0x1D9B7, "CURVE HITTING CEILING SMALL,CURVE HITTING CEILING LARGE"),
    (0x1D9B9, "HUMP HITTING CEILING SMALL DOUBLE,HUMP HITTING CEILING LARGE DOUBLE"),
    (0x1D9BB, "HUMP HITTING CEILING SMALL TRIPLE,HUMP HITTING CEILING LARGE TRIPLE"),
    (0x1D9BD, "LOOP HITTING CEILING SMALL SINGLE,LOOP HITTING CEILING LARGE SINGLE"),
    (0x1D9BF, "LOOP HITTING CEILING SMALL DOUBLE,LOOP HITTING CEILING LARGE DOUBLE"),
    (0x1D9C1, "WAVE HITTING CEILING SMALL,WAVE HITTING CEILING LARGE"),
    (0x1D9C6, "CURVE HITTING FLOOR SMALL,CURVE HITTING FLOOR LARGE"),
    (0x1D9C8, "HUMP HITTING FLOOR SMALL DOUBLE,HUMP HITTING FLOOR LARGE DOUBLE"),
    (0x1D9CA, "HUMP HITTING FLOOR TRIPLE SMALL TRIPLE,HUMP HITTING FLOOR TRIPLE LARGE TRIPLE"),
    (0x1D9CC, "LOOP HITTING FLOOR SMALL SINGLE,LOOP HITTING FLOOR LARGE SINGLE"),
    (0x1D9CE, "LOOP HITTING FLOOR SMALL DOUBLE,LOOP HITTING FLOOR LARGE DOUBLE"),
    (0x1D9D0, "WAVE HITTING FLOOR SMALL,WAVE HITTING FLOOR LARGE,,,,CURVE SMALL,CURVE MEDIUM"),
    (0x1D9D7, "CURVE LARGE,CURVE LARGEST,CURVE COMBINED,HUMP SMALL,LOOP SMALL,WAVE SNAKE"),
    (0x1D9DD, "WAVE SMALL,WAVE LARGE,,,,SHAKING PARALLEL"),
    (0x1D9EF, "WRIST CIRCLE HITTING WALL SINGLE,WRIST CIRCLE HITTING WALL DOUBLE"),
    (0x1D9F3, "FINGER CIRCLES HITTING WALL SINGLE,FINGER CIRCLES HITTING WALL DOUBLE"),
    (0x1DA69, "JAW")]⟩,
  ⟨"SIGNWRITING TRAVEL-WALLPLANE ",
    [(0x1D94B, "ROTATION-WALLPLANE SINGLE,ROTATION-WALLPLANE DOUBLE"),
    (0x1D94D, "ROTATION-WALLPLANE ALTERNATING,ROTATION-FLOORPLANE SINGLE"),
    (0x1D94F, "ROTATION-FLOORPLANE DOUBLE,ROTATION-FLOORPLANE ALTERNATING,SHAKING"),
    (0x1D952, "ARM SPIRAL SINGLE,ARM SPIRAL DOUBLE,ARM SPIRAL TRIPLE")]⟩,
  ⟨"SIGNWRITING MOVEMENT-DIAGONAL ",
    [(0x1D955, "AWAY SMALL,AWAY MEDIUM,AWAY LARGE,AWAY LARGEST,TOWARDS SMALL,TOWARDS MEDIUM"),
    (0x1D95B, "TOWARDS LARGE,TOWARDS LARGEST,BETWEEN AWAY SMALL,BETWEEN AWAY MEDIUM"),
    (0x1D95F, "BETWEEN AWAY LARGE,BETWEEN AWAY LARGEST,BETWEEN TOWARDS SMALL"),
    (0x1D962, "BETWEEN TOWARDS MEDIUM,BETWEEN TOWARDS LARGE,BETWEEN TOWARDS LARGEST")]⟩,
  ⟨"SIGNWRITING TRAVEL-FLOORPLANE ",
    [(0x1D981, "ROTATION-FLOORPLANE SINGLE,ROTATION-FLOORPLANE DOUBLE"),
    (0x1D983, "ROTATION-FLOORPLANE ALTERNATING,ROTATION-WALLPLANE SINGLE"),
    (0x1D985, "ROTATION-WALLPLANE DOUBLE,ROTATION-WALLPLANE ALTERNATING,SHAKING")]⟩,
  ⟨"SIGNWRITING ROTATION-WALLPLANE ",
    [(0x1D9A2, "SINGLE,DOUBLE,ALTERNATE,,,,,,SINGLE HITTING FRONT WALL"),
    (0x1D9AB, "DOUBLE HITTING FRONT WALL,ALTERNATING HITTING FRONT WALL"),
    (0x1D9B1, "SINGLE HITTING CHEST,DOUBLE HITTING CHEST,ALTERNATING HITTING CHEST")]⟩,
  ⟨"SIGNWRITING ROTATION-FLOORPLANE ",
    [(0x1D9C3, "SINGLE HITTING CEILING,DOUBLE HITTING CEILING,ALTERNATING HITTING CEILING"),
    (0x1D9D2, "SINGLE HITTING FLOOR,DOUBLE HITTING FLOOR,ALTERNATING HITTING FLOOR"),
    (0x1D9DF, "SINGLE,DOUBLE,ALTERNATING")]⟩,
  ⟨"SIGNWRITING MOVEMENT-FLOORPLANE ARM CIRCLE HITTING ",
    [(0x1D9E7, "WALL SMALL SINGLE,WALL MEDIUM SINGLE,WALL LARGE SINGLE,WALL SMALL DOUBLE"),
    (0x1D9EB, "WALL MEDIUM DOUBLE,WALL LARGE DOUBLE")]⟩,
  ⟨"SIGNWRITING DYNAMIC ",
    [(0x1D9F5, "ARROWHEAD SMALL,ARROWHEAD LARGE,FAST,SLOW,TENSE,RELAXED,SIMULTANEOUS"),
    (0x1D9FC, "SIMULTANEOUS ALTERNATING,EVERY OTHER TIME,GRADUAL")]⟩,
  ⟨"SIGNWRITING DREAMY EYEBROWS ", [(0x1DA0D, "NEUTRAL DOWN,DOWN NEUTRAL,UP NEUTRAL,NEUTRAL UP")]⟩,
  ⟨"SIGNWRITING MOUTH ",
    [(0x1DA3B, "CLOSED NEUTRAL,CLOSED FORWARD,CLOSED CONTACT,SMILE,SMILE WRINKLED,SMILE OPEN"),
    (0x1DA41, "FROWN,FROWN WRINKLED,FROWN OPEN,OPEN CIRCLE,OPEN FORWARD,OPEN WRINKLED"),
    (0x1DA47, "OPEN OVAL,OPEN OVAL WRINKLED,OPEN OVAL YAWN,OPEN RECTANGLE"),
    (0x1DA4B, "OPEN RECTANGLE WRINKLED,OPEN RECTANGLE YAWN,KISS,KISS FORWARD,KISS WRINKLED"),
    (0x1DA50, "TENSE,TENSE FORWARD,TENSE SUCKED,,,,CORNERS,WRINKLES SINGLE,WRINKLES DOUBLE")]⟩,
  ⟨"SIGNWRITING FILL MODIFIER-", [(0x1DA9B, "2,3,4,5,6")]⟩,
  ⟨"SIGNWRITING ROTATION MODIFIER-", [(0x1DAA1, "2,3,4,5,6,7,8,9,10,11,12,13,14,15,16")]⟩]

end RecordSearch.Text
