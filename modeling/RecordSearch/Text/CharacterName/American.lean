import RecordSearch.Text.CharacterName.Family

namespace RecordSearch.Text

/-!
# Names of characters: American scripts

The letters and signs of the scripts of the Americas.
-/

/-- The names of characters of American scripts. -/
def americanNames : List NameFamily := [
  ⟨"CHEROKEE LETTER ",
    [(0x13A0, "A,E,I,O,U,V,GA,KA,GE,GI,GO,GU,GV,HA,HE,HI,HO,HU,HV,LA,LE,LI,LO,LU,LV,MA,ME,MI"),
    (0x13BC, "MO,MU,NA,HNA,NAH,NE,NI,NO,NU,NV,QUA,QUE,QUI,QUO,QUU,QUV,SA,S,SE,SI,SO,SU,SV"),
    (0x13D3, "DA,TA,DE,TE,DI,TI,DO,DU,DV,DLA,TLA,TLE,TLI,TLO,TLU,TLV,TSA,TSE,TSI,TSO,TSU"),
    (0x13E8, "TSV,WA,WE,WI,WO,WU,WV,YA,YE,YI,YO,YU,YV,MV")]⟩,
  ⟨"CHEROKEE SMALL LETTER ", [(0x13F8, "YE,YI,YO,YU,YV,MV"),
    (0xAB70, "A,E,I,O,U,V,GA,KA,GE,GI,GO,GU,GV,HA,HE,HI,HO,HU,HV,LA,LE,LI,LO,LU,LV,MA,ME,MI"),
    (0xAB8C, "MO,MU,NA,HNA,NAH,NE,NI,NO,NU,NV,QUA,QUE,QUI,QUO,QUU,QUV,SA,S,SE,SI,SO,SU,SV"),
    (0xABA3, "DA,TA,DE,TE,DI,TI,DO,DU,DV,DLA,TLA,TLE,TLI,TLO,TLU,TLV,TSA,TSE,TSI,TSO,TSU"),
    (0xABB8, "TSV,WA,WE,WI,WO,WU,WV,YA")]⟩,
  ⟨"CANADIAN SYLLABICS ",
    [(0x1400, "HYPHEN,E,AAI,I,II,O,OO,,,,A,AA,WE,,WI,,WII,,WO,,WOO,,NASKAPI WOO,WA,,WAA"),
    (0x141B, "NASKAPI WAA,AI,,GLOTTAL STOP,FINAL ACUTE,FINAL GRAVE,FINAL BOTTOM HALF RING"),
    (0x1422, "FINAL TOP HALF RING,FINAL RIGHT HALF RING,FINAL RING,FINAL DOUBLE ACUTE"),
    (0x1426, "FINAL DOUBLE SHORT VERTICAL STROKES,FINAL MIDDLE DOT"),
    (0x1428, "FINAL SHORT HORIZONTAL STROKE,FINAL PLUS,FINAL DOWN TACK,EN,IN,ON,AN,PE,PAAI"),
    (0x1431, "PI,PII,PO,POO,,,,PA,PAA,PWE,,PWI,,PWII,,PWO,,PWOO,,PWA,,PWAA,,,P,,,TE,TAAI,TI"),
    (0x144F, "TII,TO,TOO,,,,TA,TAA,TWE,,TWI,,TWII,,TWO,,TWOO,,TWA,,TWAA,,NASKAPI TWAA,T,TTE"),
    (0x1468, "TTI,TTO,TTA,KE,KAAI,KI,KII,KO,KOO,,KA,KAA,KWE,,KWI,,KWII,,KWO,,KWOO,,KWA"),
    (0x1480, "KWAA,,NASKAPI KWAA,K,KW,SOUTH-SLAVEY KEH,SOUTH-SLAVEY KIH,SOUTH-SLAVEY KOH"),
    (0x1488, "SOUTH-SLAVEY KAH,CE,CAAI,CI,CII,CO,COO,,CA,CAA,CWE,,CWI,,CWII,,CWO,,CWOO,,CWA"),
    (0x149E, "CWAA,,NASKAPI CWAA,C,SAYISI TH,ME,MAAI,MI,MII,MO,MOO,,MA,MAA,MWE,,MWI,,MWII"),
    (0x14B2, "MWO,,MWOO,,MWA,,MWAA,,NASKAPI MWAA,M,,MH,ATHAPASCAN M,SAYISI M,NE,NAAI,NI,NII"),
    (0x14C4, "NO,NOO,,NA,NAA,NWE,,NWA,,NWAA,,NASKAPI NWAA,N,,NH,LE,LAAI,LI,LII,LO,LOO,,LA"),
    (0x14DB, "LAA,LWE,,LWI,,LWII,,LWO,,LWOO,,LWA,,LWAA,,L,,MEDIAL L,SE,SAAI,SI,SII,SO,SOO"),
    (0x14F4, "SA,SAA,SWE,,SWI,,SWII,,SWO,,SWOO,,SWA,,SWAA,,NASKAPI SWAA,S,ATHAPASCAN S,SW"),
    (0x1509, "MOOSE-CREE SK,NASKAPI SKW,NASKAPI S-W,NASKAPI SPWA,NASKAPI STWA,NASKAPI SKWA"),
    (0x150F, "NASKAPI SCWA,SHE,SHI,SHII,SHO,SHOO,SHA,SHAA,SHWE,,SHWI,,SHWII,,SHWO,,SHWOO"),
    (0x1521, "SHWA,,SHWAA,,SH,YE,YAAI,YI,YII,YO,YOO,,YA,YAA,YWE,,YWI,,YWII,,YWO,,YWOO,,YWA"),
    (0x153B, "YWAA,,NASKAPI YWAA,Y,BIBLE-CREE Y,,SAYISI YI,RE,R-CREE RE,,RAAI,RI,RII,RO,ROO"),
    (0x154B, "RA,RAA,,RWAA,,R,,MEDIAL R,FE,FAAI,FI,FII,FO,FOO,FA,FAA,FWAA,,F,THE,N-CREE THE"),
    (0x1560, "THI,N-CREE THI,THII,N-CREE THII,THO,THOO,THA,THAA,THWAA,,TH,TTHE,TTHI,TTHO"),
    (0x156E, "TTHA,TTH,TYE,TYI,TYO,TYA,NUNAVIK HE,NUNAVIK HI,NUNAVIK HII,NUNAVIK HO"),
    (0x1578, "NUNAVIK HOO,NUNAVIK HA,NUNAVIK HAA,NUNAVIK H,NUNAVUT H,HK,QAAI,QI,QII,QO,QOO"),
    (0x1583, "QA,QAA,Q,TLHE,TLHI,TLHO,TLHA,,,,,NGAAI,NGI,NGII,NGO,NGOO,NGA,NGAA,NG,NNG"),
    (0x1597, "SAYISI SHE,SAYISI SHI,SAYISI SHO,SAYISI SHA,,,,,,LHI,LHII,LHO,LHOO,LHA,LHAA"),
    (0x15A6, "LH,,,,,,,,,AIVILIK B"), (0x15C0, "SAYISI HE,SAYISI HI,SAYISI HO,SAYISI HA"),
    (0x1615, "SAYISI JU,,,,,SAYISI JI"),
    (0x166D, "CHI SIGN,FULL STOP,QAI,NGAI,NNGI,NNGII,NNGO,NNGOO,NNGA,NNGAA"),
    (0x18B0, "OY,AY,AAY,WAY,POY,PAY,PWOY,TAY,KAY,KWAY,MAY,NOY,NAY,LAY,SOY,SAY,SHOY,SHAY"),
    (0x18C2, "SHWOY,YOY,YAY,RAY,NWI,,NWII,,NWO,,NWOO,,RWEE,RWI,RWII,RWO,RWOO,RWA"),
    (0x18DC, "EASTERN W,WESTERN W,FINAL SMALL RING,FINAL RAISED DOT,R-CREE RWE,,,THWE,THWA"),
    (0x18E5, "TTHWE,TTHOO,TTHAA,TLHWE,TLHOO,SAYISI SHWE,SAYISI SHOO,SAYISI HOO"),
    (0x18F1, "SAYISI JUU,,BEAVER DENE L,BEAVER DENE R"), (0x11ABC, "SPE,SPI,SPO,SPA")]⟩,
  ⟨"CANADIAN SYLLABICS Y-CREE ", [(0x1407, "OO"), (0x141D, "W"), (0x1435, "POO"), (0x1448, "PWAA"),
    (0x1452, "TOO"), (0x1471, "KOO"), (0x148F, "COO"), (0x14A9, "MOO"), (0x14C6, "NOO"),
    (0x14D9, "LOO"), (0x14F3, "SOO"), (0x152C, "YOO")]⟩,
  ⟨"CANADIAN SYLLABICS CARRIER ", [(0x1408, "EE,I"), (0x1436, "HEE,HI"),
    (0x144B, "H,,,,,,,,DEE,DI"), (0x14D1, "NG"),
    (0x15C4, "GHU,GHO,GHE,GHEE,GHI,GHA,RU,RO,RE,REE,RI,RA,WU,WO,WE,WEE,WI,WA,HWU,HWO,HWE"),
    (0x15D9, "HWEE,HWI,HWA,THU,THO,THE,THEE,THI,THA,TTU,TTO,TTE,TTEE,TTI,TTA,PU,PO,PE,PEE"),
    (0x15EC, "PI,PA,P,GU,GO,GE,GEE,GI,GA,KHU,KHO,KHE,KHEE,KHI,KHA,KKU,KKO,KKE,KKEE,KKI,KKA"),
    (0x1601, "KK,NU,NO,NE,NEE,NI,NA,MU,MO,ME,MEE,MI,MA,YU,YO,YE,YEE,YI,YA,JU,,JO,JE,JEE,JI"),
    (0x161B, "JA,JJU,JJO,JJE,JJEE,JJI,JJA,LU,LO,LE,LEE,LI,LA,DLU,DLO,DLE,DLEE,DLI,DLA,LHU"),
    (0x162F, "LHO,LHE,LHEE,LHI,LHA,TLHU,TLHO,TLHE,TLHEE,TLHI,TLHA,TLU,TLO,TLE,TLEE,TLI,TLA"),
    (0x1640, "ZU,ZO,ZE,ZEE,ZI,ZA,Z,INITIAL Z,DZU,DZO,DZE,DZEE,DZI,DZA,SU,SO,SE,SEE,SI,SA"),
    (0x1654, "SHU,SHO,SHE,SHEE,SHI,SHA,SH,TSU,TSO,TSE,TSEE,TSI,TSA,CHU,CHO,CHE,CHEE,CHI,CHA"),
    (0x1667, "TTSU,TTSO,TTSE,TTSEE,TTSI,TTSA"), (0x18ED, "GWU,DENE GEE,GAA,GWA,,JWA,,,DENTAL S")]⟩,
  ⟨"CANADIAN SYLLABICS WEST-CREE ", [(0x140D, "WE,,WI,,WII,,WO,,WOO,,,WA,,WAA"),
    (0x143B, "PWE,,PWI,,PWII,,PWO,,PWOO,,PWA,,PWAA,,,P"),
    (0x1458, "TWE,,TWI,,TWII,,TWO,,TWOO,,TWA,,TWAA"),
    (0x1475, "KWE,,KWI,,KWII,,KWO,,KWOO,,KWA,,KWAA"),
    (0x1493, "CWE,,CWI,,CWII,,CWO,,CWOO,,CWA,,CWAA"),
    (0x14AD, "MWE,,MWI,,MWII,,MWO,,MWOO,,MWA,,MWAA,,,M"), (0x14CA, "NWE,,NWA,,NWAA"),
    (0x14DD, "LWE,,LWI,,LWII,,LWO,,LWOO,,LWA,,LWAA,,L"),
    (0x14F7, "SWE,,SWI,,SWII,,SWO,,SWOO,,SWA,,SWAA"),
    (0x1518, "SHWE,,SHWI,,SHWII,,SHWO,,SHWOO,,SHWA,,SHWAA"),
    (0x1530, "YWE,,YWI,,YWII,,YWO,,YWOO,,YWA,,YWAA,,,,Y,,,,LE,,,,,,LO,,,LA,,RWAA,,R"),
    (0x155C, "FWAA"), (0x1569, "THWAA"), (0x158A, "RE,RI,RO,RA"), (0x18E1, "LOO,LAA")]⟩,
  ⟨"CANADIAN SYLLABICS BLACKFOOT ", [(0x1508, "S"),
    (0x15B0, "E,I,O,A,WE,WI,WO,WA,NE,NI,NO,NA,KE,KI,KO,KA"), (0x167F, "W")]⟩,
  ⟨"CANADIAN SYLLABICS WOODS-CREE ", [(0x159B, "THE,THI,THO,THA,TH"),
    (0x1677, "THWEE,THWI,THWII,THWO,THWOO,THWA,THWAA,FINAL TH")]⟩,
  ⟨"CANADIAN SYLLABICS TH-CREE ", [(0x15A7, "THE,THI,THII,THO,THOO,THA,THAA,TH")]⟩,
  ⟨"CANADIAN SYLLABICS OJIBWAY ", [(0x18C7, "NWI,,NWII,,NWO,,NWOO,,,,,,,P,T,K,C,M,N,S,SH")]⟩,
  ⟨"OSAGE CAPITAL LETTER ",
    [(0x104B0, "A,AI,AIN,AH,BRA,CHA,EHCHA,E,EIN,HA,HYA,I,KA,EHKA,KYA,LA,MA,NA,O,OIN,PA,EHPA"),
    (0x104C6, "SA,SHA,TA,EHTA,TSA,EHTSA,TSHA,DHA,U,WA,KHA,GHA,ZA,ZHA")]⟩,
  ⟨"OSAGE SMALL LETTER ",
    [(0x104D8, "A,AI,AIN,AH,BRA,CHA,EHCHA,E,EIN,HA,HYA,I,KA,EHKA,KYA,LA,MA,NA,O,OIN,PA,EHPA"),
    (0x104EE, "SA,SHA,TA,EHTA,TSA,EHTSA,TSHA,DHA,U,WA,KHA,GHA,ZA,ZHA")]⟩]

end RecordSearch.Text
