import RecordSearch.Text.CharacterName.Family

namespace RecordSearch.Text

/-!
# Names of characters: African scripts

The letters and signs of the scripts of Africa.
-/

/-- The names of characters of African scripts. -/
def africanNames : List NameFamily := [
  ⟨"", [(0x2D6F, "TIFINAGH MODIFIER LETTER LABIALIZATION MARK,TIFINAGH SEPARATOR MARK"),
    (0x2D7F, "TIFINAGH CONSONANT JOINER"), (0xA60D, "VAI COMMA,VAI FULL STOP,VAI QUESTION MARK")]⟩,
  ⟨"COPTIC CAPITAL LETTER ", [(0x3E2, "SHEI,,FEI,,KHEI,,HORI,,GANGIA,,SHIMA,,DEI"),
    (0x2C80, "ALFA,,VIDA,,GAMMA,,DALDA,,EIE,,SOU,,ZATA,,HATE,,THETHE,,IAUDA,,KAPA,,LAULA"),
    (0x2C98, "MI,,NI,,KSI,,O,,PI,,RO,,SIMA,,TAU,,UA,,FI,,KHI,,PSI,,OOU,,DIALECT-P ALEF"),
    (0x2CB6, "CRYPTOGRAMMIC EIE,,DIALECT-P KAPA,,DIALECT-P NI,,CRYPTOGRAMMIC NI,,,,SAMPI"),
    (0x2CC2, "CROSSED SHEI,,,,,,AKHMIMIC KHEI,,DIALECT-P HORI,,,,,,L-SHAPED HA"),
    (0x2CDC, "OLD NUBIAN SHIMA,,OLD NUBIAN NGI,,OLD NUBIAN NYI,,OLD NUBIAN WAU"),
    (0x2CEB, "CRYPTOGRAMMIC SHEI,,CRYPTOGRAMMIC GANGIA,,,,,BOHAIRIC KHEI")]⟩,
  ⟨"COPTIC SMALL LETTER ", [(0x3E3, "SHEI,,FEI,,KHEI,,HORI,,GANGIA,,SHIMA,,DEI"),
    (0x2C81, "ALFA,,VIDA,,GAMMA,,DALDA,,EIE,,SOU,,ZATA,,HATE,,THETHE,,IAUDA,,KAPA,,LAULA"),
    (0x2C99, "MI,,NI,,KSI,,O,,PI,,RO,,SIMA,,TAU,,UA,,FI,,KHI,,PSI,,OOU,,DIALECT-P ALEF"),
    (0x2CB7, "CRYPTOGRAMMIC EIE,,DIALECT-P KAPA,,DIALECT-P NI,,CRYPTOGRAMMIC NI,,,,SAMPI"),
    (0x2CC3, "CROSSED SHEI,,,,,,AKHMIMIC KHEI,,DIALECT-P HORI,,,,,,L-SHAPED HA"),
    (0x2CDD, "OLD NUBIAN SHIMA,,OLD NUBIAN NGI,,OLD NUBIAN NYI,,OLD NUBIAN WAU"),
    (0x2CEC, "CRYPTOGRAMMIC SHEI,,CRYPTOGRAMMIC GANGIA,,,,,BOHAIRIC KHEI")]⟩,
  ⟨"NKO DIGIT ", [(0x7C0, "ZERO,ONE,TWO,THREE,FOUR,FIVE,SIX,SEVEN,EIGHT,NINE")]⟩,
  ⟨"NKO LETTER ",
    [(0x7CA, "A,EE,I,E,U,OO,O,DAGBASINNA,N,BA,PA,TA,JA,CHA,DA,RA,RRA,SA,GBA,FA,KA,LA"),
    (0x7E0, "NA WOLOSO,MA,NYA,NA,HA,WA,YA,NYA WOLOSO,JONA JA,JONA CHA,JONA RA")]⟩,
  ⟨"NKO COMBINING ",
    [(0x7EB, "SHORT HIGH TONE,SHORT LOW TONE,SHORT RISING TONE,LONG DESCENDING TONE"),
    (0x7EF, "LONG HIGH TONE,LONG LOW TONE,LONG RISING TONE,NASALIZATION MARK"),
    (0x7F3, "DOUBLE DOT ABOVE")]⟩,
  ⟨"NKO ", [(0x7F4, "HIGH TONE APOSTROPHE,LOW TONE APOSTROPHE,SYMBOL OO DENNEN,SYMBOL GBAKURUNEN"),
    (0x7F8, "COMMA,EXCLAMATION MARK,LAJANYALAN,,,DANTAYALAN,DOROME SIGN,TAMAN SIGN")]⟩,
  ⟨"ETHIOPIC SYLLABLE ",
    [(0x1200, "HA,HU,HI,HAA,HEE,HE,HO,HOA,LA,LU,LI,LAA,LEE,LE,LO,LWA,HHA,HHU,HHI,HHAA,HHEE"),
    (0x1215, "HHE,HHO,HHWA,MA,MU,MI,MAA,MEE,ME,MO,MWA,SZA,SZU,SZI,SZAA,SZEE,SZE,SZO,SZWA,RA"),
    (0x1229, "RU,RI,RAA,REE,RE,RO,RWA,SA,SU,SI,SAA,SEE,SE,SO,SWA,SHA,SHU,SHI,SHAA,SHEE,SHE"),
    (0x123E, "SHO,SHWA,QA,QU,QI,QAA,QEE,QE,QO,QOA,QWA,,QWI,QWAA,QWEE,QWE,,,QHA,QHU,QHI,QHAA"),
    (0x1254, "QHEE,QHE,QHO,,QHWA,,QHWI,QHWAA,QHWEE,QHWE,,,BA,BU,BI,BAA,BEE,BE,BO,BWA,VA,VU"),
    (0x126A, "VI,VAA,VEE,VE,VO,VWA,TA,TU,TI,TAA,TEE,TE,TO,TWA,CA,CU,CI,CAA,CEE,CE,CO,CWA,XA"),
    (0x1281, "XU,XI,XAA,XEE,XE,XO,XOA,XWA,,XWI,XWAA,XWEE,XWE,,,NA,NU,NI,NAA,NEE,NE,NO,NWA"),
    (0x1298, "NYA,NYU,NYI,NYAA,NYEE,NYE,NYO,NYWA,GLOTTAL A,GLOTTAL U,GLOTTAL I,GLOTTAL AA"),
    (0x12A4, "GLOTTAL EE,GLOTTAL E,GLOTTAL O,GLOTTAL WA,KA,KU,KI,KAA,KEE,KE,KO,KOA,KWA,,KWI"),
    (0x12B3, "KWAA,KWEE,KWE,,,KXA,KXU,KXI,KXAA,KXEE,KXE,KXO,,KXWA,,KXWI,KXWAA,KXWEE,KXWE"),
    (0x12C8, "WA,WU,WI,WAA,WEE,WE,WO,WOA,PHARYNGEAL A,PHARYNGEAL U,PHARYNGEAL I"),
    (0x12D3, "PHARYNGEAL AA,PHARYNGEAL EE,PHARYNGEAL E,PHARYNGEAL O,,ZA,ZU,ZI,ZAA,ZEE,ZE,ZO"),
    (0x12DF, "ZWA,ZHA,ZHU,ZHI,ZHAA,ZHEE,ZHE,ZHO,ZHWA,YA,YU,YI,YAA,YEE,YE,YO,YOA,DA,DU,DI"),
    (0x12F3, "DAA,DEE,DE,DO,DWA,DDA,DDU,DDI,DDAA,DDEE,DDE,DDO,DDWA,JA,JU,JI,JAA,JEE,JE,JO"),
    (0x1307, "JWA,GA,GU,GI,GAA,GEE,GE,GO,GOA,GWA,,GWI,GWAA,GWEE,GWE,,,GGA,GGU,GGI,GGAA,GGEE"),
    (0x131D, "GGE,GGO,GGWAA,THA,THU,THI,THAA,THEE,THE,THO,THWA,CHA,CHU,CHI,CHAA,CHEE,CHE"),
    (0x132E, "CHO,CHWA,PHA,PHU,PHI,PHAA,PHEE,PHE,PHO,PHWA,TSA,TSU,TSI,TSAA,TSEE,TSE,TSO"),
    (0x133F, "TSWA,TZA,TZU,TZI,TZAA,TZEE,TZE,TZO,TZOA,FA,FU,FI,FAA,FEE,FE,FO,FWA,PA,PU,PI"),
    (0x1353, "PAA,PEE,PE,PO,PWA,RYA,MYA,FYA"),
    (0x1380, "SEBATBEIT MWA,MWI,MWEE,MWE,SEBATBEIT BWA,BWI,BWEE,BWE,SEBATBEIT FWA,FWI,FWEE"),
    (0x138B, "FWE,SEBATBEIT PWA,PWI,PWEE,PWE"),
    (0x2D80, "LOA,MOA,ROA,SOA,SHOA,BOA,TOA,COA,NOA,NYOA,GLOTTAL OA,ZOA,DOA,DDOA,JOA,THOA"),
    (0x2D90, "CHOA,PHOA,POA,GGWA,GGWI,GGWEE,GGWE"),
    (0x2DA0, "SSA,SSU,SSI,SSAA,SSEE,SSE,SSO,,CCA,CCU,CCI,CCAA,CCEE,CCE,CCO,,ZZA,ZZU,ZZI"),
    (0x2DB3, "ZZAA,ZZEE,ZZE,ZZO,,CCHA,CCHU,CCHI,CCHAA,CCHEE,CCHE,CCHO,,QYA,QYU,QYI,QYAA"),
    (0x2DC4, "QYEE,QYE,QYO,,KYA,KYU,KYI,KYAA,KYEE,KYE,KYO,,XYA,XYU,XYI,XYAA,XYEE,XYE,XYO"),
    (0x2DD8, "GYA,GYU,GYI,GYAA,GYEE,GYE,GYO"),
    (0xAB01, "TTHU,TTHI,TTHAA,TTHEE,TTHE,TTHO,,,DDHU,DDHI,DDHAA,DDHEE,DDHE,DDHO,,,DZU,DZI"),
    (0xAB13, "DZAA,DZEE,DZE,DZO"),
    (0xAB20, "CCHHA,CCHHU,CCHHI,CCHHAA,CCHHEE,CCHHE,CCHHO,,BBA,BBU,BBI,BBAA,BBEE,BBE,BBO"),
    (0x1E7E0, "HHYA,HHYU,HHYI,HHYAA,HHYEE,HHYE,HHYO,,,HHWI,HHWEE,HHWE")]⟩,
  ⟨"ETHIOPIC ", [(0x135D, "COMBINING GEMINATION AND VOWEL LENGTH MARK,COMBINING VOWEL LENGTH MARK"),
    (0x135F, "COMBINING GEMINATION MARK,SECTION MARK,WORDSPACE,FULL STOP,COMMA,SEMICOLON"),
    (0x1365, "COLON,PREFACE COLON,QUESTION MARK,PARAGRAPH SEPARATOR,DIGIT ONE,DIGIT TWO"),
    (0x136B, "DIGIT THREE,DIGIT FOUR,DIGIT FIVE,DIGIT SIX,DIGIT SEVEN,DIGIT EIGHT"),
    (0x1371, "DIGIT NINE")]⟩,
  ⟨"ETHIOPIC NUMBER ",
    [(0x1372, "TEN,TWENTY,THIRTY,FORTY,FIFTY,SIXTY,SEVENTY,EIGHTY,NINETY,HUNDRED"),
    (0x137C, "TEN THOUSAND")]⟩,
  ⟨"ETHIOPIC TONAL MARK ",
    [(0x1390, "YIZET,DERET,RIKRIK,SHORT RIKRIK,DIFAT,KENAT,CHIRET,HIDET,DERET-HIDET,KURT")]⟩,
  ⟨"COPTIC CAPITAL LETTER OLD COPTIC ", [(0x2CB4, "AIN"),
    (0x2CBE, "OOU,,,,,,SHEI,,ESH,,,,,,HORI,,HA,,,,HEI,,HAT,,GANGIA,,DJA,,SHIMA")]⟩,
  ⟨"COPTIC SMALL LETTER OLD COPTIC ", [(0x2CB5, "AIN"),
    (0x2CBF, "OOU,,,,,,SHEI,,ESH,,,,,,HORI,,HA,,,,HEI,,HAT,,GANGIA,,DJA,,SHIMA")]⟩,
  ⟨"COPTIC ", [(0x2CE4, "SYMBOL KAI,SYMBOL MI RO,SYMBOL PI RO,SYMBOL STAUROS,SYMBOL TAU RO"),
    (0x2CE9, "SYMBOL KHI RO,SYMBOL SHIMA SIMA,,,,,COMBINING NI ABOVE"),
    (0x2CF0, "COMBINING SPIRITUS ASPER,COMBINING SPIRITUS LENIS"),
    (0x2CFD, "FRACTION ONE HALF,FULL STOP,MORPHOLOGICAL DIVIDER")]⟩,
  ⟨"COPTIC OLD NUBIAN ",
    [(0x2CF9, "FULL STOP,DIRECT QUESTION MARK,INDIRECT QUESTION MARK,VERSE DIVIDER")]⟩,
  ⟨"TIFINAGH LETTER ",
    [(0x2D30, "YA,YAB,YABH,YAG,YAGHH,BERBER ACADEMY YAJ,YAJ,YAD,YADH,YADD,YADDH,YEY,YAF,YAK"),
    (0x2D3E, "TUAREG YAK,YAKHH,YAH,BERBER ACADEMY YAH,TUAREG YAH,YAHH,YAA,YAKH,TUAREG YAKH"),
    (0x2D47, "YAQ,TUAREG YAQ,YI,YAZH,AHAGGAR YAZH,TUAREG YAZH,YAL,YAM,YAN,TUAREG YAGN"),
    (0x2D51, "TUAREG YANG,YAP,YU,YAR,YARR,YAGH,TUAREG YAGH,AYER YAGH,YAS,YASS,YASH,YAT,YATH"),
    (0x2D5E, "YACH,YATT,YAV,YAW,YAY,YAZ,TAWELLEMET YAZ,YAZZ,YE,YO")]⟩,
  ⟨"VAI SYLLABLE ",
    [(0xA500, "EE,EEN,HEE,WEE,WEEN,PEE,BHEE,BEE,MBEE,KPEE,MGBEE,GBEE,FEE,VEE,TEE,THEE,DHEE"),
    (0xA511, "DHHEE,LEE,REE,DEE,NDEE,SEE,SHEE,ZEE,ZHEE,CEE,JEE,NJEE,YEE,KEE,NGGEE,GEE,MEE"),
    (0xA522, "NEE,NYEE,I,IN,HI,HIN,WI,WIN,PI,BHI,BI,MBI,KPI,MGBI,GBI,FI,VI,TI,THI,DHI,DHHI"),
    (0xA537, "LI,RI,DI,NDI,SI,SHI,ZI,ZHI,CI,JI,NJI,YI,KI,NGGI,GI,MI,NI,NYI,A,AN,NGAN,HA,HAN"),
    (0xA54E, "WA,WAN,PA,BHA,BA,MBA,KPA,KPAN,MGBA,GBA,FA,VA,TA,THA,DHA,DHHA,LA,RA,DA,NDA,SA"),
    (0xA563, "SHA,ZA,ZHA,CA,JA,NJA,YA,KA,KAN,NGGA,GA,MA,NA,NYA,OO,OON,HOO,WOO,WOON,POO,BHOO"),
    (0xA578, "BOO,MBOO,KPOO,MGBOO,GBOO,FOO,VOO,TOO,THOO,DHOO,DHHOO,LOO,ROO,DOO,NDOO,SOO"),
    (0xA588, "SHOO,ZOO,ZHOO,COO,JOO,NJOO,YOO,KOO,NGGOO,GOO,MOO,NOO,NYOO,U,UN,HU,HUN,WU,WUN"),
    (0xA59B, "PU,BHU,BU,MBU,KPU,MGBU,GBU,FU,VU,TU,THU,DHU,DHHU,LU,RU,DU,NDU,SU,SHU,ZU,ZHU"),
    (0xA5B0, "CU,JU,NJU,YU,KU,NGGU,GU,MU,NU,NYU,O,ON,NGON,HO,HON,WO,WON,PO,BHO,BO,MBO,KPO"),
    (0xA5C6, "MGBO,GBO,GBON,FO,VO,TO,THO,DHO,DHHO,LO,RO,DO,NDO,SO,SHO,ZO,ZHO,CO,JO,NJO,YO"),
    (0xA5DB, "KO,NGGO,GO,MO,NO,NYO,E,EN,NGEN,HE,HEN,WE,WEN,PE,BHE,BE,MBE,KPE,KPEN,MGBE,GBE"),
    (0xA5F0, "GBEN,FE,VE,TE,THE,DHE,DHHE,LE,RE,DE,NDE,SE,SHE,ZE,ZHE,CE,JE,NJE,YE,KE,NGGE"),
    (0xA605, "NGGEN,GE,GEN,ME,NE,NYE,NG,LENGTHENER,,,,NDOLE FA,NDOLE KA,NDOLE SOO"),
    (0xA62A, "NDOLE MA,NDOLE DO")]⟩,
  ⟨"VAI SYMBOL ", [(0xA613, "FEENG,KEENG,TING,NII,BANG,FAA,TAA,DANG,DOONG,KUNG,TONG,DO-O,JONG")]⟩,
  ⟨"VAI DIGIT ", [(0xA620, "ZERO,ONE,TWO,THREE,FOUR,FIVE,SIX,SEVEN,EIGHT,NINE")]⟩,
  ⟨"BAMUM LETTER ",
    [(0xA6A0, "A,KA,U,KU,EE,REE,TAE,O,NYI,I,LA,PA,RII,RIEE,LEEEE,MEEEE,TAA,NDAA,NJAEM,M,SUU"),
    (0xA6B5, "MU,SHII,SI,SHEUX,SEUX,KYEE,KET,NUAE,NU,NJUAE,YOQ,SHU,YUQ,YA,NSHA,KEUX,PEUX"),
    (0xA6C6, "NJEE,NTEE,PUE,WUE,PEE,FEE,RU,LU,MI,NI,REUX,RAE,KEN,NGKWAEN,NGGA,NGA,SHO,PUAE"),
    (0xA6D8, "FU,FOM,WA,NA,LI,PI,LOQ,KO,MBEN,REN,MEN,MA,TI,KI,MO,MBAA,TET,KPA,TEN,NTUU"),
    (0xA6EC, "SAMBA,FAAMAE,KOVUU,KOGHOM")]⟩,
  ⟨"BAMUM ",
    [(0xA6F0, "COMBINING MARK KOQNDON,COMBINING MARK TUKWENTIS,NJAEMLI,FULL STOP,COLON,COMMA"),
    (0xA6F6, "SEMICOLON,QUESTION MARK")]⟩,
  ⟨"SHAVIAN LETTER ",
    [(0x10450, "PEEP,TOT,KICK,FEE,THIGH,SO,SURE,CHURCH,YEA,HUNG,BIB,DEAD,GAG,VOW,THEY,ZOO"),
    (0x10460, "MEASURE,JUDGE,WOE,HA-HA,LOLL,MIME,IF,EGG,ASH,ADO,ON,WOOL,OUT,AH,ROAR,NUN,EAT"),
    (0x10471, "AGE,ICE,UP,OAK,OOZE,OIL,AWE,ARE,OR,AIR,ERR,ARRAY,EAR,IAN,YEW")]⟩,
  ⟨"OSMANYA LETTER ",
    [(0x10480, "ALEF,BA,TA,JA,XA,KHA,DEEL,RA,SA,SHIIN,DHA,CAYN,GA,FA,QAAF,KAAF,LAAN,MIIN,NUUN"),
    (0x10493, "WAW,HA,YA,A,E,I,O,U,AA,EE,OO")]⟩,
  ⟨"OSMANYA DIGIT ", [(0x104A0, "ZERO,ONE,TWO,THREE,FOUR,FIVE,SIX,SEVEN,EIGHT,NINE")]⟩,
  ⟨"EGYPTIAN HIEROGLYPH ",
    [(0x13000, "A001,A002,A003,A004,A005,A005A,A006,A006A,A006B,A007,A008,A009,A010,A011,A012"),
    (0x1300F, "A013,A014,A014A,A015,A016,A017,A017A,A018,A019,A020,A021,A022,A023,A024,A025"),
    (0x1301E, "A026,A027,A028,A029,A030,A031,A032,A032A,A033,A034,A035,A036,A037,A038,A039"),
    (0x1302D, "A040,A040A,A041,A042,A042A,A043,A043A,A044,A045,A045A,A046,A047,A048,A049"),
    (0x1303B, "A050,A051,A052,A053,A054,A055,A056,A057,A058,A059,A060,A061,A062,A063,A064"),
    (0x1304A, "A065,A066,A067,A068,A069,A070,B001,B002,B003,B004,B005,B005A,B006,B007,B008"),
    (0x13059, "B009,C001,C002,C002A,C002B,C002C,C003,C004,C005,C006,C007,C008,C009,C010"),
    (0x13067, "C010A,C011,C012,C013,C014,C015,C016,C017,C018,C019,C020,C021,C022,C023,C024"),
    (0x13076, "D001,D002,D003,D004,D005,D006,D007,D008,D008A,D009,D010,D011,D012,D013,D014"),
    (0x13085, "D015,D016,D017,D018,D019,D020,D021,D022,D023,D024,D025,D026,D027,D027A,D028"),
    (0x13094, "D029,D030,D031,D031A,D032,D033,D034,D034A,D035,D036,D037,D038,D039,D040,D041"),
    (0x130A3, "D042,D043,D044,D045,D046,D046A,D047,D048,D048A,D049,D050,D050A,D050B,D050C"),
    (0x130B1, "D050D,D050E,D050F,D050G,D050H,D050I,D051,D052,D052A,D053,D054,D054A,D055,D056"),
    (0x130BF, "D057,D058,D059,D060,D061,D062,D063,D064,D065,D066,D067,D067A,D067B,D067C"),
    (0x130CD, "D067D,D067E,D067F,D067G,D067H,E001,E002,E003,E004,E005,E006,E007,E008,E008A"),
    (0x130DB, "E009,E009A,E010,E011,E012,E013,E014,E015,E016,E016A,E017,E017A,E018,E019,E020"),
    (0x130EA, "E020A,E021,E022,E023,E024,E025,E026,E027,E028,E028A,E029,E030,E031,E032,E033"),
    (0x130F9, "E034,E034A,E036,E037,E038,F001,F001A,F002,F003,F004,F005,F006,F007,F008,F009"),
    (0x13108, "F010,F011,F012,F013,F013A,F014,F015,F016,F017,F018,F019,F020,F021,F021A,F022"),
    (0x13117, "F023,F024,F025,F026,F027,F028,F029,F030,F031,F031A,F032,F033,F034,F035,F036"),
    (0x13126, "F037,F037A,F038,F038A,F039,F040,F041,F042,F043,F044,F045,F045A,F046,F046A"),
    (0x13134, "F047,F047A,F048,F049,F050,F051,F051A,F051B,F051C,F052,F053,G001,G002,G003"),
    (0x13142, "G004,G005,G006,G006A,G007,G007A,G007B,G008,G009,G010,G011,G011A,G012,G013"),
    (0x13150, "G014,G015,G016,G017,G018,G019,G020,G020A,G021,G022,G023,G024,G025,G026,G026A"),
    (0x1315F, "G027,G028,G029,G030,G031,G032,G033,G034,G035,G036,G036A,G037,G037A,G038,G039"),
    (0x1316E, "G040,G041,G042,G043,G043A,G044,G045,G045A,G046,G047,G048,G049,G050,G051,G052"),
    (0x1317D, "G053,G054,H001,H002,H003,H004,H005,H006,H006A,H007,H008,I001,I002,I003,I004"),
    (0x1318C, "I005,I005A,I006,I007,I008,I009,I009A,I010,I010A,I011,I011A,I012,I013,I014"),
    (0x1319A, "I015,K001,K002,K003,K004,K005,K006,K007,K008,L001,L002,L002A,L003,L004,L005"),
    (0x131A9, "L006,L006A,L007,L008,M001,M001A,M001B,M002,M003,M003A,M004,M005,M006,M007"),
    (0x131B7, "M008,M009,M010,M010A,M011,M012,M012A,M012B,M012C,M012D,M012E,M012F,M012G"),
    (0x131C4, "M012H,M013,M014,M015,M015A,M016,M016A,M017,M017A,M018,M019,M020,M021,M022"),
    (0x131D2, "M022A,M023,M024,M024A,M025,M026,M027,M028,M028A,M029,M030,M031,M031A,M032"),
    (0x131E0, "M033,M033A,M033B,M034,M035,M036,M037,M038,M039,M040,M040A,M041,M042,M043,M044"),
    (0x131EF, "N001,N002,N003,N004,N005,N006,N007,N008,N009,N010,N011,N012,N013,N014,N015"),
    (0x131FE, "N016,N017,N018,N018A,N018B,N019,N020,N021,N022,N023,N024,N025,N025A,N026,N027"),
    (0x1320D, "N028,N029,N030,N031,N032,N033,N033A,N034,N034A,N035,N035A,N036,N037,N037A"),
    (0x1321B, "N038,N039,N040,N041,N042,NL001,NL002,NL003,NL004,NL005,NL005A,NL006,NL007"),
    (0x13228, "NL008,NL009,NL010,NL011,NL012,NL013,NL014,NL015,NL016,NL017,NL017A,NL018"),
    (0x13234, "NL019,NL020,NU001,NU002,NU003,NU004,NU005,NU006,NU007,NU008,NU009,NU010"),
    (0x13240, "NU010A,NU011,NU011A,NU012,NU013,NU014,NU015,NU016,NU017,NU018,NU018A,NU019"),
    (0x1324C, "NU020,NU021,NU022,NU022A,O001,O001A,O002,O003,O004,O005,O005A,O006,O006A"),
    (0x13259, "O006B,O006C,O006D,O006E,O006F,O007,O008,O009,O010,O010A,O010B,O010C,O011,O012"),
    (0x13267, "O013,O014,O015,O016,O017,O018,O019,O019A,O020,O020A,O021,O022,O023,O024,O024A"),
    (0x13276, "O025,O025A,O026,O027,O028,O029,O029A,O030,O030A,O031,O032,O033,O033A,O034"),
    (0x13284, "O035,O036,O036A,O036B,O036C,O036D,O037,O038,O039,O040,O041,O042,O043,O044"),
    (0x13292, "O045,O046,O047,O048,O049,O050,O050A,O050B,O051,P001,P001A,P002,P003,P003A"),
    (0x132A0, "P004,P005,P006,P007,P008,P009,P010,P011,Q001,Q002,Q003,Q004,Q005,Q006,Q007"),
    (0x132AF, "R001,R002,R002A,R003,R003A,R003B,R004,R005,R006,R007,R008,R009,R010,R010A"),
    (0x132BD, "R011,R012,R013,R014,R015,R016,R016A,R017,R018,R019,R020,R021,R022,R023,R024"),
    (0x132CC, "R025,R026,R027,R028,R029,S001,S002,S002A,S003,S004,S005,S006,S006A,S007,S008"),
    (0x132DB, "S009,S010,S011,S012,S013,S014,S014A,S014B,S015,S016,S017,S017A,S018,S019,S020"),
    (0x132EA, "S021,S022,S023,S024,S025,S026,S026A,S026B,S027,S028,S029,S030,S031,S032,S033"),
    (0x132F9, "S034,S035,S035A,S036,S037,S038,S039,S040,S041,S042,S043,S044,S045,S046,T001"),
    (0x13308, "T002,T003,T003A,T004,T005,T006,T007,T007A,T008,T008A,T009,T009A,T010,T011"),
    (0x13316, "T011A,T012,T013,T014,T015,T016,T016A,T017,T018,T019,T020,T021,T022,T023,T024"),
    (0x13325, "T025,T026,T027,T028,T029,T030,T031,T032,T032A,T033,T033A,T034,T035,T036,U001"),
    (0x13334, "U002,U003,U004,U005,U006,U006A,U006B,U007,U008,U009,U010,U011,U012,U013,U014"),
    (0x13343, "U015,U016,U017,U018,U019,U020,U021,U022,U023,U023A,U024,U025,U026,U027,U028"),
    (0x13352, "U029,U029A,U030,U031,U032,U032A,U033,U034,U035,U036,U037,U038,U039,U040,U041"),
    (0x13361, "U042,V001,V001A,V001B,V001C,V001D,V001E,V001F,V001G,V001H,V001I,V002,V002A"),
    (0x1336E, "V003,V004,V005,V006,V007,V007A,V007B,V008,V009,V010,V011,V011A,V011B,V011C"),
    (0x1337C, "V012,V012A,V012B,V013,V014,V015,V016,V017,V018,V019,V020,V020A,V020B,V020C"),
    (0x1338A, "V020D,V020E,V020F,V020G,V020H,V020I,V020J,V020K,V020L,V021,V022,V023,V023A"),
    (0x13397, "V024,V025,V026,V027,V028,V028A,V029,V029A,V030,V030A,V031,V031A,V032,V033"),
    (0x133A5, "V033A,V034,V035,V036,V037,V037A,V038,V039,V040,V040A,W001,W002,W003,W003A"),
    (0x133B3, "W004,W005,W006,W007,W008,W009,W009A,W010,W010A,W011,W012,W013,W014,W014A,W015"),
    (0x133C2, "W016,W017,W017A,W018,W018A,W019,W020,W021,W022,W023,W024,W024A,W025,X001,X002"),
    (0x133D1, "X003,X004,X004A,X004B,X005,X006,X006A,X007,X008,X008A,Y001,Y001A,Y002,Y003"),
    (0x133DF, "Y004,Y005,Y006,Y007,Y008,Z001,Z002,Z002A,Z002B,Z002C,Z002D,Z003,Z003A,Z003B"),
    (0x133ED, "Z004,Z004A,Z005,Z005A,Z006,Z007,Z008,Z009,Z010,Z011,Z012,Z013,Z014,Z015,Z015A"),
    (0x133FC, "Z015B,Z015C,Z015D,Z015E,Z015F,Z015G,Z015H,Z015I,Z016,Z016A,Z016B,Z016C,Z016D"),
    (0x13409, "Z016E,Z016F,Z016G,Z016H,AA001,AA002,AA003,AA004,AA005,AA006,AA007,AA007A"),
    (0x13415, "AA007B,AA008,AA009,AA010,AA011,AA012,AA013,AA014,AA015,AA016,AA017,AA018"),
    (0x13421, "AA019,AA020,AA021,AA022,AA023,AA024,AA025,AA026,AA027,AA028,AA029,AA030,AA031"),
    (0x1342E, "AA032,,VERTICAL JOINER,HORIZONTAL JOINER,INSERT AT TOP START"),
    (0x13433, "INSERT AT BOTTOM START,INSERT AT TOP END,INSERT AT BOTTOM END,OVERLAY MIDDLE"),
    (0x13437, "BEGIN SEGMENT,END SEGMENT")]⟩,
  ⟨"BAMUM LETTER PHASE-A ",
    [(0x16800, "NGKUE MFON,GBIEE FON,PON MFON PIPAEMGBIEE,PON MFON PIPAEMBA,NAA MFON"),
    (0x16805, "SHUENSHUET,TITA MFON,NZA MFON,SHINDA PA NJI,PON PA NJI PIPAEMGBIEE"),
    (0x1680A, "PON PA NJI PIPAEMBA,MAEMBGBIEE,TU MAEMBA,NGANGU,MAEMVEUX,MANSUAE,MVEUAENGAM"),
    (0x16811, "SEUNYAM,NTOQPEN,KEUKEUTNDA,NKINDI,SUU,NGKUENZEUM,LAPAQ,LET KUT,NTAP MFAA"),
    (0x1681A, "MAEKEUP,PASHAE,GHEUAERAE,PAMSHAE,MON NGGEUAET,NZUN MEUT,U YUQ NAE"),
    (0x16821, "GHEUAEGHEUAE,NTAP NTAA,SISA,MGBASA,MEUNJOMNDEUQ,MOOMPUQ,KAFA,PA LEERAEWA"),
    (0x16829, "NDA LEERAEWA,PET,MAEMKPEN,NIKA,PUP,TUAEP,LUAEP,SONJAM,TEUTEUWEN,MAENYI,KET"),
    (0x16834, "NDAANGGEUAET,KUOQ,MOOMEUT,SHUM,LOMMAE,FIRI,ROM,KPOQ,SOQ,MAP PIEET,SHIRAE,NTAP"),
    (0x16840, "SHOQ NSHUT YUM,NYIT MONGKEUAEQ,PAARAE,NKAARAE,UNKNOWN,NGGEN,MAESI,NJAM,MBANYI"),
    (0x16849, "NYET,TEUAEN,SOT,PAAM,NSHIEE,MAEM,NYI,KAQ,NSHA,VEE,LU,NEN,NAQ,MBAQ")]⟩,
  ⟨"BAMUM LETTER PHASE-B ",
    [(0x16857, "NSHUET,TU MAEMGBIEE,SIEE,SET TU,LOM NTEUM,MBA MAELEE,KIEEM,YEURAE,MBAARAE,KAM"),
    (0x16861, "PEESHI,YAFU LEERAEWA,LAM NSHUT NYAM,NTIEE SHEUOQ,NDU NJAA,GHEUGHEUAEM,PIT"),
    (0x16868, "TU NSIEE,SHET NJAQ,SHEUAEQTU,MFON TEUAEQ,MBIT MBAAKET,NYI NTEUM,KEUPUQ"),
    (0x1686F, "GHEUGHEN,KEUYEUX,LAANAE,PARUM,VEUM,NGKINDI MVOP,NGGEU MBU,WUAET,SAKEUAE,TAAM"),
    (0x16879, "MEUQ,NGGUOQ,NGGUOQ LARGE,MFIYAQ,SUE,MBEURI,MONTIEEN,NYAEMAE,PUNGAAM"),
    (0x16882, "MEUT NGGEET,FEUX,MBUOQ,FEE,KEUAEM,MA NJEUAENA,MA NJUQA,LET,NGGAAM,NSEN,MA,KIQ"),
    (0x1688E, "NGOM")]⟩,
  ⟨"BAMUM LETTER PHASE-C ",
    [(0x1688F, "NGKUE MAEMBA,NZA,YUM,WANGKUOQ,NGGEN,NDEUAEREE,NGKAQ,GHARAE,MBEEKEET,GBAYI"),
    (0x16899, "NYIR MKPARAQ MEUN,NTU MBIT,MBEUM,PIRIEEN,NDOMBU,MBAA CABBAGE-TREE,KEUSHEUAEP"),
    (0x168A0, "GHAP,KEUKAQ,YU MUOMAE,NZEUM,MBUE,NSEUAEN,MBIT,YEUQ,KPARAQ,KAA,SEUX,NDIDA"),
    (0x168AC, "TAASHAE,NJUEQ,TITA YUE,SUAET,NGGUAEN NYAM,VEUX,NANSANAQ,MA KEUAERI,NTAA"),
    (0x168B5, "NGGUON,LAP,MBIRIEEN,MGBASAQ,NTEUNGBA,TEUTEUX,NGGUM,FUE,NDEUT,NSA,NSHAQ,BUNG"),
    (0x168C1, "VEUAEPEN,MBERAE,RU,NJAEM,LAM,TITUAEP,NSUOT NGOM,NJEEEE,KET,NGGU,MAESI,MBUAEM"),
    (0x168CD, "LU,KUT,NJAM,NGOM,WUP,NGGUEET,NSOM,NTEN,KUOP NKAARAE,NSUN,NDAM,MA NSIEE,YAA"),
    (0x168DA, "NDAP,SHUEQ,SETFON,MBI,MAEMBA,MBANYI,KEUSEUX,MBEUX,KEUM,MBAA PICKET,YUWOQ"),
    (0x168E5, "NJEUX,MIEE,MUAE,SHIQ,KEN LAW,KEN FATIGUE,NGAQ,NAQ,LIQ,PIN,PEN,TET")]⟩,
  ⟨"BAMUM LETTER PHASE-D ",
    [(0x168F1, "MBUO,WAP,NJI,MFON,NJIEE,LIEE,NJEUT,NSHEE,NGGAAMAE,NYAM,WUAEN,NGKUN,SHEE,NGKAP"),
    (0x168FF, "KEUAETMEUN,TEUT,SHEUAE,NJAP,SUE,KET,YAEMMAE,KUOM,SAP,MFEUT,NDEUX,MALEERI,MEUT"),
    (0x1690C, "SEUAEQ,YEN,NJEUAEM,KEUOT MBUAE,NGKEURI,TU,GHAA,NGKYEE,FEUFEUAET,NDEE,MGBOFUM"),
    (0x16917, "LEUAEP,NDON,MONI,MGBEUN,PUUT,MGBIEE,MFO,LUM,NSIEEP,MBAA,KWAET,NYET,TEUAEN,SOT"),
    (0x16925, "YUWOQ,KEUM,RAEM,TEEEE,NGKEUAEQ,MFEUAE,NSIEET,KEUP,PIP,PEUTAE,NYUE,LET,NGGAAM"),
    (0x16932, "MFIEE,NGGWAEN,YUOM,PAP,YUOP,NDAM,NTEUM,SUAE,KUN,NGGEUX,NGKIEE,TUOT,MEUN,KUQ"),
    (0x16940, "NSUM,TEUN,MAENJET,NGGAP,LEUM,NGGUOM,NSHUT,NJUEQ,GHEUAE,KU,REN OLD,TAE,TOQ,NYI"),
    (0x1694E, "RII,LEEEE,MEEEE,M,SUU,MU,SHII,SHEUX,KYEE,NU,SHU,NTEE,PEE,NI,SHOQ,PUQ,MVOP,LOQ"),
    (0x16960, "REN MUCH,TI,NTUU,MBAA SEVEN,SAQ,FAA")]⟩,
  ⟨"BAMUM LETTER PHASE-E ",
    [(0x16966, "NDAP,TOON,MBEUM,LAP,VOM,LOON,PAA,SOM,RAQ,NSHUOP,NDUN,PUAE,TAM,NGKA,KPEUX,WUO"),
    (0x16976, "SEE,NGGEUAET,PAAM,TOO,KUOP,LOM,NSHIEE,NGOP,MAEM,NGKEUX,NGOQ,NSHUE,RIMGBA"),
    (0x16983, "NJEUX,PEEM,SAA,NGGURAE,MGBA,GHEUX,NGKEUAEM,NJAEMLI,MAP,LOOT,NGGEEEE,NDIQ"),
    (0x1698F, "TAEN NTEUM,SET,PUM,NDAA SOFTNESS,NGGUAESHAE NYAM,YIEE,GHEUN,TUAE,YEUAE,PO"),
    (0x16999, "TUMAE,KEUAE,SUAEN,TEUAEQ,VEUAE,WEUX,LAAM,PU,TAAQ,GHAAMAE,NGEUREUT,SHEUAEQ"),
    (0x169A5, "MGBEN,MBEE,NZAQ,NKOM,GBET,TUM,KUET,YAP,NYI CLEAVER,YIT,MFEUQ,NDIAQ,PIEEQ,YUEQ"),
    (0x169B3, "LEUAEM,FUE,GBEUX,NGKUP,KET,MAE,NGKAAMI,GHET,FA,NTUM,PEUT,YEUM,NGGEUAE"),
    (0x169C0, "NYI BETWEEN,NZUQ,POON,MIEE,FUET,NAE,MUAE,GHEUAE,FU I,MVI,PUAQ,NGKUM,KUT,PIET"),
    (0x169CE, "NTAP,YEUAET,NGGUP,PA PEOPLE,FU CALL,FOM,NJEE,A,TOQ,O,I,LAQ,PA PLURAL,TAA,TAQ"),
    (0x169DD, "NDAA MY HOUSE,SHIQ,YEUX,NGUAE,YUAEN,YOQ SWIMMING,YOQ COVER,YUQ,YUN,KEUX,PEUX"),
    (0x169E8, "NJEE EPOCH,PUE,WUE,FEE,VEE,LU,MI,REUX,RAE,NGUAET,NGA,SHO,SHOQ,FU REMEDY,NA,PI"),
    (0x169F8, "LOQ,KO,MEN,MA,MAQ,TEU,KI,MON,TEN,FAQ,GHOM")]⟩,
  ⟨"BAMUM LETTER PHASE-F ",
    [(0x16A03, "KA,U,KU,EE,REE,TAE,NYI,LA,RII,RIEE,MEEEE,TAA,NDAA,NJAEM,M,SUU,SHII,SI,SEUX"),
    (0x16A16, "KYEE,KET,NUAE,NU,NJUAE,YOQ,SHU,YA,NSHA,PEUX,NTEE,WUE,PEE,RU,NI,REUX,KEN"),
    (0x16A27, "NGKWAEN,NGGA,SHO,PUAE,FOM,WA,LI,LOQ,KO,MBEN,REN,MA,MO,MBAA,TET,KPA,SAMBA,VUEQ")]⟩,
  ⟨"BASSA VAH LETTER ",
    [(0x16AD0, "ENNI,KA,SE,FA,MBE,YIE,GAH,DHII,KPAH,JO,HWAH,WA,ZO,GBU,DO,CE,UWU,TO,BA,VU,YEIN"),
    (0x16AE5, "PA,WADDA,A,O,OO,U,EE,E,I")]⟩,
  ⟨"BASSA VAH ", [(0x16AF0, "COMBINING HIGH TONE,COMBINING LOW TONE,COMBINING MID TONE"),
    (0x16AF3, "COMBINING LOW-MID TONE,COMBINING HIGH-LOW TONE,FULL STOP")]⟩,
  ⟨"MEDEFAIDRIN CAPITAL LETTER ",
    [(0x16E40, "M,S,V,W,ATIU,Z,KP,P,T,G,F,I,K,A,J,E,B,C,U,YU,L,Q,HP,NY,X,D,OE,N,R,O,AI,Y")]⟩,
  ⟨"MEDEFAIDRIN SMALL LETTER ",
    [(0x16E60, "M,S,V,W,ATIU,Z,KP,P,T,G,F,I,K,A,J,E,B,C,U,YU,L,Q,HP,NY,X,D,OE,N,R,O,AI,Y")]⟩,
  ⟨"MEDEFAIDRIN DIGIT ", [(0x16E80, "ZERO,ONE,TWO,THREE,FOUR,FIVE,SIX,SEVEN,EIGHT,NINE"),
    (0x16E94, "ONE ALTERNATE FORM,TWO ALTERNATE FORM,THREE ALTERNATE FORM")]⟩,
  ⟨"MEDEFAIDRIN ",
    [(0x16E8A, "NUMBER TEN,NUMBER ELEVEN,NUMBER TWELVE,NUMBER THIRTEEN,NUMBER FOURTEEN"),
    (0x16E8F, "NUMBER FIFTEEN,NUMBER SIXTEEN,NUMBER SEVENTEEN,NUMBER EIGHTEEN"),
    (0x16E93, "NUMBER NINETEEN,,,,COMMA,FULL STOP,SYMBOL AIVA,EXCLAMATION OH")]⟩,
  ⟨"ETHIOPIC SYLLABLE GURAGE ",
    [(0x1E7E8, "HHWA,,,,,MWI,MWEE,,QWI,QWEE,QWE,BWI,BWEE,KWI,KWEE,KWE,GWI,GWEE,GWE,FWI,FWEE"),
    (0x1E7FD, "PWI,PWEE")]⟩,
  ⟨"MENDE KIKAKUI SYLLABLE ",
    [(0x1E800, "M001 KI,M002 KA,M003 KU,M065 KEE,M095 KE,M076 KOO,M048 KO,M179 KUA,M004 WI"),
    (0x1E809, "M005 WA,M006 WU,M126 WEE,M118 WE,M114 WOO,M045 WO,M194 WUI,M143 WEI,M061 WVI"),
    (0x1E812, "M049 WVA,M139 WVE,M007 MIN,M008 MAN,M009 MUN,M059 MEN,M094 MON,M154 MUAN"),
    (0x1E81A, "M189 MUEN,M010 BI,M011 BA,M012 BU,M150 BEE,M097 BE,M103 BOO,M138 BO,M013 I"),
    (0x1E823, "M014 A,M015 U,M163 EE,M100 E,M165 OO,M147 O,M137 EI,M131 IN,M135 IN,M195 AN"),
    (0x1E82D, "M178 EN,M019 SI,M020 SA,M021 SU,M162 SEE,M116 SE,M136 SOO,M079 SO,M196 SIA"),
    (0x1E836, "M025 LI,M026 LA,M027 LU,M084 LEE,M073 LE,M054 LOO,M153 LO,M110 LONG LE"),
    (0x1E83E, "M016 DI,M017 DA,M018 DU,M089 DEE,M180 DOO,M181 DO,M022 TI,M023 TA,M024 TU"),
    (0x1E847, "M091 TEE,M055 TE,M104 TOO,M069 TO,M028 JI,M029 JA,M030 JU,M157 JEE,M113 JE"),
    (0x1E850, "M160 JOO,M063 JO,M175 LONG JO,M031 YI,M032 YA,M033 YU,M109 YEE,M080 YE"),
    (0x1E858, "M141 YOO,M121 YO,M034 FI,M035 FA,M036 FU,M078 FEE,M075 FE,M133 FOO,M088 FO"),
    (0x1E861, "M197 FUA,M101 FAN,M037 NIN,M038 NAN,M039 NUN,M117 NEN,M169 NON,M176 HI"),
    (0x1E869, "M041 HA,M186 HU,M040 HEE,M096 HE,M042 HOO,M140 HO,M083 HEEI,M128 HOOU"),
    (0x1E871, "M053 HIN,M130 HAN,M087 HUN,M052 HEN,M193 HON,M046 HUAN,M090 NGGI,M043 NGGA"),
    (0x1E879, "M082 NGGU,M115 NGGEE,M146 NGGE,M156 NGGOO,M120 NGGO,M159 NGGAA,M127 NGGUA"),
    (0x1E880, "M086 LONG NGGE,M106 LONG NGGOO,M183 LONG NGGO,M155 GI,M111 GA,M168 GU"),
    (0x1E886, "M190 GEE,M166 GUEI,M167 GUAN,M184 NGEN,M057 NGON,M177 NGUAN,M068 PI,M099 PA"),
    (0x1E88E, "M050 PU,M081 PEE,M051 PE,M102 POO,M066 PO,M145 MBI,M062 MBA,M122 MBU"),
    (0x1E896, "M047 MBEE,M188 MBEE,M072 MBE,M172 MBOO,M174 MBO,M187 MBUU,M161 LONG MBE"),
    (0x1E89D, "M105 LONG MBOO,M142 LONG MBO,M132 KPI,M092 KPA,M074 KPU,M044 KPEE,M108 KPE"),
    (0x1E8A4, "M112 KPOO,M158 KPO,M124 GBI,M056 GBA,M148 GBU,M093 GBEE,M107 GBE,M071 GBOO"),
    (0x1E8AC, "M070 GBO,M171 RA,M123 NDI,M129 NDA,M125 NDU,M191 NDEE,M119 NDE,M067 NDOO"),
    (0x1E8B4, "M064 NDO,M152 NJA,M192 NJU,M149 NJEE,M134 NJOO,M182 VI,M185 VA,M151 VU"),
    (0x1E8BC, "M173 VEE,M085 VE,M144 VOO,M077 VO,M164 NYIN,M058 NYAN,M170 NYUN,M098 NYEN"),
    (0x1E8C4, "M060 NYON")]⟩,
  ⟨"MENDE KIKAKUI DIGIT ", [(0x1E8C7, "ONE,TWO,THREE,FOUR,FIVE,SIX,SEVEN,EIGHT,NINE")]⟩,
  ⟨"MENDE KIKAKUI COMBINING NUMBER ",
    [(0x1E8D0, "TEENS,TENS,HUNDREDS,THOUSANDS,TEN THOUSANDS,HUNDRED THOUSANDS,MILLIONS")]⟩,
  ⟨"ADLAM CAPITAL LETTER ",
    [(0x1E900, "ALIF,DAALI,LAAM,MIIM,BA,SINNYIIYHE,PE,BHE,RA,E,FA,I,O,DHA,YHE,WAW,NUN,KAF,YA"),
    (0x1E913, "U,JIIM,CHI,HA,QAAF,GA,NYA,TU,NHA,VA,KHA,GBE,ZAL,KPO,SHA")]⟩,
  ⟨"ADLAM SMALL LETTER ",
    [(0x1E922, "ALIF,DAALI,LAAM,MIIM,BA,SINNYIIYHE,PE,BHE,RA,E,FA,I,O,DHA,YHE,WAW,NUN,KAF,YA"),
    (0x1E935, "U,JIIM,CHI,HA,QAAF,GA,NYA,TU,NHA,VA,KHA,GBE,ZAL,KPO,SHA")]⟩,
  ⟨"ADLAM ",
    [(0x1E944, "ALIF LENGTHENER,VOWEL LENGTHENER,GEMINATION MARK,HAMZA,CONSONANT MODIFIER"),
    (0x1E949, "GEMINATE CONSONANT MODIFIER,NUKTA,NASALIZATION MARK,,,,,DIGIT ZERO,DIGIT ONE"),
    (0x1E952, "DIGIT TWO,DIGIT THREE,DIGIT FOUR,DIGIT FIVE,DIGIT SIX,DIGIT SEVEN,DIGIT EIGHT"),
    (0x1E959, "DIGIT NINE,,,,,INITIAL EXCLAMATION MARK,INITIAL QUESTION MARK")]⟩]

end RecordSearch.Text
