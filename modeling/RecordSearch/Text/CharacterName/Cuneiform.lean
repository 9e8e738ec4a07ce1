import RecordSearch.Text.CharacterName.Family

namespace RecordSearch.Text

/-!
# Names of characters: cuneiform

The signs that are pressed into clay tablets as wedges.
-/

/-- The names of characters of cuneiform. -/
def cuneiformNames : List NameFamily := [
  ⟨"CUNEIFORM SIGN ", [(0x12000, "A,,,,,,,,,A2,AB"),
    (0x12015, "AB GUNU,AB2,,,,,,AD,AK,AK TIMES ERIN2,AK TIMES SHITA PLUS GISH,AL"),
    (0x12029, "ALAN,ALEPH,AMAR,AMAR TIMES SHE,AN,AN OVER AN,AN THREE TIMES"),
    (0x12030, "AN PLUS NAGA OPPOSING AN PLUS NAGA,AN PLUS NAGA SQUARED,ANSHE,APIN,ARAD"),
    (0x12035, "ARAD TIMES KUR,ARKAB,ASAL2,ASH,ASH ZIDA TENU,ASH KABA TENU"),
    (0x1203B, "ASH OVER ASH TUG2 OVER TUG2 TUG2 OVER TUG2 PAP,ASH OVER ASH OVER ASH"),
    (0x1203D, "ASH OVER ASH OVER ASH CROSSING ASH OVER ASH OVER ASH,ASH2,ASHGAB,BA,BAD,BAG3"),
    (0x12043, "BAHAR2,BAL,BAL OVER BAL,BALAG,BAR,BARA2,BI,BI TIMES A,BI TIMES GAR"),
    (0x1204C, "BI TIMES IGI GUNU,BU,BU OVER BU AB,BU OVER BU UN,BU CROSSING BU,BULUG"),
    (0x12052, "BULUG OVER BULUG,BUR,BUR2,DA,DAG"),
    (0x1206E, "DAM,DAR,DARA3,DARA4,DI,DIB,DIM,DIM TIMES SHE,DIM2,DIN,DIN KASKAL U GUNU DISH"),
    (0x12079, "DISH,DU,DU OVER DU,DU GUNU,DU SHESHIG,DUB,DUB TIMES ESH2,DUB2,DUG,DUGUD,DUH"),
    (0x12084, "DUN,DUN3,DUN3 GUNU,DUN3 GUNU GUNU,DUN4,DUR2,E,E TIMES PAP"),
    (0x1208C, "E OVER E NUN OVER NUN,E2,,,,,,,EDIN,EGIR,EL,EN,EN TIMES GAN2"),
    (0x12099, "EN TIMES GAN2 TENU,EN TIMES ME,EN CROSSING EN,EN OPPOSING EN,EN SQUARED,EREN"),
    (0x1209F, "ERIN2,ESH2,EZEN"), (0x120B5, "GA,GA GUNU,GA2"),
    (0x120ED, "GA2 OVER GA2,GABA,GABA CROSSING GABA,GAD,GAD OVER GAD GAR OVER GAR,GAL"),
    (0x120F3, "GAL GAD OVER GAD GAR OVER GAR,GALAM,GAM,GAN,GAN2,GAN2 TENU,GAN2 OVER GAN2"),
    (0x120FA, "GAN2 CROSSING GAN2,GAR,GAR3,GASHAN,GESHTIN,GESHTIN TIMES KUR,GI,GI TIMES E"),
    (0x12102, "GI TIMES U,GI CROSSING GI,GI4,GI4 OVER GI4,GI4 CROSSING GI4,GIDIM,GIR2"),
    (0x12109, "GIR2 GUNU,GIR3,GIR3 TIMES A PLUS IGI,GIR3 TIMES GAN2 TENU,GIR3 TIMES IGI"),
    (0x1210E, "GIR3 TIMES LU PLUS IGI,GIR3 TIMES PA,GISAL,GISH,GISH CROSSING GISH"),
    (0x12113, "GISH TIMES BAD,GISH TIMES TAK4,GISH TENU,GU,GU CROSSING GU,GU2,GU2 TIMES KAK"),
    (0x1211A, "GU2 TIMES KAK TIMES IGI GUNU,GU2 TIMES NUN,GU2 TIMES SAL PLUS TUG2,GU2 GUNU"),
    (0x1211E, "GUD,GUD TIMES A PLUS KUR,GUD TIMES KUR,GUD OVER GUD LUGAL,GUL,GUM"),
    (0x12124, "GUM TIMES SHE,GUR,GUR7,GURUN,GURUSH,HA,HA TENU,HA GUNU,HAL,HI"),
    (0x12137, "HU,HUB2,HUB2 TIMES AN,HUB2 TIMES HAL,HUB2 TIMES KASKAL,HUB2 TIMES LISH"),
    (0x1213D, "HUB2 TIMES UD,HUL2,I,I A,IB,IDIM,IDIM OVER IDIM BUR,IDIM OVER IDIM SQUARED,IG"),
    (0x12146, "IGI,IGI DIB,IGI RI,IGI OVER IGI SHIR OVER SHIR UD OVER UD,IGI GUNU,IL"),
    (0x1214C, "IL TIMES GAN2 TENU,IL2,IM,IM TIMES TAK4,IM CROSSING IM,IM OPPOSING IM"),
    (0x12152, "IM SQUARED,IMIN,IN,IR,ISH,KA"),
    (0x1218D, "KA2,KA2 CROSSING KA2,KAB,KAD2,KAD3,KAD4,KAD5,KAD5 OVER KAD5,KAK"),
    (0x12196, "KAK TIMES IGI GUNU,KAL,KAL TIMES BAD,KAL CROSSING KAL,KAM2,KAM4,KASKAL"),
    (0x1219D, "KASKAL LAGAB TIMES U OVER LAGAB TIMES U"),
    (0x1219E, "KASKAL OVER KASKAL LAGAB TIMES U OVER LAGAB TIMES U,KESH2,KI,KI TIMES BAD"),
    (0x121A2, "KI TIMES U,KI TIMES UD,KID,KIN,KISAL,KISH,KISIM5,KISIM5 OVER KISIM5,KU"),
    (0x121AB, "KU OVER HI TIMES ASH2 KU OVER HI TIMES ASH2,KU3,KU4,KU4 VARIANT FORM,KU7,KUL"),
    (0x121B1, "KUL GUNU,KUN,KUR,KUR OPPOSING KUR,KUSHU2,KWU318,LA,LAGAB"),
    (0x121EB, "LAGAB SQUARED,LAGAR,LAGAR TIMES SHE,LAGAR TIMES SHE PLUS SUM,LAGAR GUNU"),
    (0x121F0, "LAGAR GUNU OVER LAGAR GUNU SHE,LAHSHU,LAL,LAL TIMES LAL,LAM,LAM TIMES KUR"),
    (0x121F6, "LAM TIMES KUR PLUS RU,LI,LIL,LIMMU2,LISH,LU,LU TIMES BAD,LU2"),
    (0x12211, "LU2 TENU,LU2 CROSSING LU2,LU2 OPPOSING LU2,LU2 SQUARED,LU2 SHESHIG,LU3,LUGAL"),
    (0x12218, "LUGAL OVER LUGAL,LUGAL OPPOSING LUGAL,LUGAL SHESHIG,LUH,LUL,LUM,LUM OVER LUM"),
    (0x1221F, "LUM OVER LUM GAR OVER GAR,MA,MA TIMES TAK4,MA GUNU,MA2,MAH,MAR,MASH,MASH2,ME"),
    (0x12229, "MES,MI,MIN,MU,MU OVER MU,MUG,MUG GUNU,MUNSUB,MURGU2,MUSH,MUSH TIMES A"),
    (0x12234, "MUSH TIMES KUR,MUSH TIMES ZA,MUSH OVER MUSH,MUSH OVER MUSH TIMES A PLUS NA"),
    (0x12238, "MUSH CROSSING MUSH,MUSH3,MUSH3 TIMES A,MUSH3 TIMES A PLUS DI,MUSH3 TIMES DI"),
    (0x1223D, "MUSH3 GUNU,NA,NA2,NAGA,NAGA INVERTED,NAGA TIMES SHU TENU,NAGA OPPOSING NAGA"),
    (0x12244, "NAGAR,NAM NUTILLU,NAM,NAM2,NE,NE TIMES A,NE TIMES UD,NE SHESHIG,NI,NI TIMES E"),
    (0x1224E, "NI2,NIM,NIM TIMES GAN2 TENU,NIM TIMES GAR PLUS GAN2 TENU,NINDA2"),
    (0x12260, "NISAG,NU,NU11,NUN,NUN LAGAR TIMES GAR,NUN LAGAR TIMES MASH"),
    (0x12266, "NUN LAGAR TIMES SAL,NUN LAGAR TIMES SAL OVER NUN LAGAR TIMES SAL"),
    (0x12268, "NUN LAGAR TIMES USH,NUN TENU,NUN OVER NUN,NUN CROSSING NUN"),
    (0x1226C, "NUN CROSSING NUN LAGAR OVER LAGAR,NUNUZ"),
    (0x12278, "NUNUZ KISIM5 TIMES BI,NUNUZ KISIM5 TIMES BI U,PA,PAD,PAN,PAP,PESH2,PI"),
    (0x12280, "PI TIMES A,PI TIMES AB,PI TIMES BI,PI TIMES BU,PI TIMES E,PI TIMES I"),
    (0x12286, "PI TIMES IB,PI TIMES U,PI TIMES U2,PI CROSSING PI,PIRIG,PIRIG TIMES KAL"),
    (0x1228C, "PIRIG TIMES UD,PIRIG TIMES ZA,PIRIG OPPOSING PIRIG,RA,RAB,RI,RU,SA"),
    (0x12294, "SAG NUTILLU,SAG"),
    (0x122A7, "SAG OVER SAG,SAG GUNU,SAL,SAL LAGAB TIMES ASH2,SANGA2,SAR,SHA,SHA3"),
    (0x122B7, "SHA6,SHAB6,SHAR2,SHE,SHE HU,SHE OVER SHE GAD OVER GAD GAR OVER GAR"),
    (0x122BD, "SHE OVER SHE TAB OVER TAB GAR OVER GAR,SHEG9,SHEN,SHESH,SHESH2,SHESHLAM,SHID"),
    (0x122C4, "SHID TIMES A,SHID TIMES IM,SHIM"),
    (0x122D2, "SHINIG,SHIR,SHIR TENU,SHIR OVER SHIR BUR OVER BUR,SHITA,SHU"),
    (0x122D8, "SHU OVER INVERTED SHU,SHU2,SHUBUR,SI,SI GUNU,SIG,SIG4,SIG4 OVER SIG4 SHU2"),
    (0x122E0, "SIK2,SILA3,SU,SU OVER SU,SUD,SUD2,SUHUR,SUM,SUMASH,SUR,SUR9,TA,TA ASTERISK"),
    (0x122ED, "TA TIMES HI,TA TIMES MI,TA GUNU,TAB,TAB OVER TAB NI OVER NI DISH OVER DISH"),
    (0x122F2, "TAB SQUARED,TAG,,,,,,,TAK4,TAR,TE,TE GUNU,TI,TI TENU,TIL,TIR,TIR TIMES TAK4"),
    (0x12303, "TIR OVER TIR,TIR OVER TIR GAD OVER GAD GAR OVER GAR,TU,TUG2,TUK,TUM,TUR"),
    (0x1230A, "TUR OVER TUR ZA OVER ZA,U,U GUD,U U U,U OVER U PA OVER PA GAR OVER GAR"),
    (0x1230F, "U OVER U SUR OVER SUR,U OVER U U REVERSED OVER U REVERSED,U2,UB,UD,UD KUSHU2"),
    (0x12315, "UD TIMES BAD,UD TIMES MI,UD TIMES U PLUS U PLUS U"),
    (0x12318, "UD TIMES U PLUS U PLUS U GUNU,UD GUNU,UD SHESHIG,UD SHESHIG TIMES BAD,UDUG,UM"),
    (0x1231E, "UM TIMES LAGAB,UM TIMES ME PLUS DA,UM TIMES SHA3,UM TIMES U,UMBIN,UMUM"),
    (0x12324, "UMUM TIMES KASKAL,UMUM TIMES PA,UN,UN GUNU,UR,UR CROSSING UR,UR SHESHIG,UR2"),
    (0x1232C, "UR2 TIMES A PLUS HA,UR2 TIMES A PLUS NA,UR2 TIMES AL,UR2 TIMES HA"),
    (0x12330, "UR2 TIMES NUN,UR2 TIMES U2,UR2 TIMES U2 PLUS ASH,UR2 TIMES U2 PLUS BI,UR4,URI"),
    (0x12336, "URI3,URU"),
    (0x1234F, "URUDA,URUDA TIMES U,USH,USH TIMES A,USH TIMES KU,USH TIMES KUR,USH TIMES TAK4"),
    (0x12356, "USHX,USH2,USHUMX,UTUKI,UZ3,UZ3 TIMES KASKAL,UZU,ZA,ZA TENU"),
    (0x1235F, "ZA SQUARED TIMES KUR,ZAG,ZAMX,ZE2,ZI,ZI OVER ZI,ZI3,ZIB,ZIB KABA TENU,ZIG"),
    (0x12369, "ZIZ2,ZU,ZU5,ZU5 TIMES A,ZUBUR,ZUM,KAP ELAMITE,,,AMAR TIMES KUG,,DAG3"),
    (0x12375, "DISH PLUS SHU,DUB TIMES SHE,,,,,GE22,GIG,HUSH"),
    (0x12389, "LU2 SHESHIG TIMES BAD,,,MESH,MUSH3 TIMES ZA,NA4,NIN,NIN9"),
    (0x12393, "NU11 ROTATED NINETY DEGREES,PESH2 ASTERISK,PIR2,,TI2,UM TIMES ME,U U"),
    (0x12482, "AD TIMES ESH2,BAD TIMES DISH TENU,BAHAR2 TIMES AB2,BAHAR2 TIMES NI"),
    (0x12486, "BAHAR2 TIMES ZA,BU OVER BU TIMES NA2,DA TIMES TAK4,DAG TIMES KUR"),
    (0x1248A, "DIM TIMES IGI,DIM TIMES U U U,DIM2 TIMES UD"),
    (0x124AB, "ERIN2 X,ESH2 CROSSING ESH2"),
    (0x124C9, "GABA ROTATED NINETY DEGREES,GESHTIN TIMES U,GISH TIMES GISH CROSSING GISH"),
    (0x124CC, "GU2 TIMES IGI GUNU,GUD PLUS GISH TIMES TAK4,HA TENU GUNU"),
    (0x12519, "LU2 GUNU TIMES ASH,,,,,,MI PLUS ZA7,MUSH OVER MUSH TIMES GA"),
    (0x12521, "MUSH OVER MUSH TIMES KAK"),
    (0x1252D, "SAG GUNU TIMES HA,,,,SHA6 TENU,SHE OVER SHE,SHE PLUS HUB2,SHE PLUS NAM2"),
    (0x12535, "SHE PLUS SAR,SHU2 PLUS DUG TIMES NI,SHU2 PLUS E2 TIMES AN,SI TIMES TAK4"),
    (0x12539, "TAK4 PLUS SAG,TUM TIMES GAN2 TENU,TUM TIMES THREE DISH,UR2 INVERTED"),
    (0x1253D, "UR2 TIMES UD,,,,ZA7,ZU OVER ZU PLUS SAR,ZU5 TIMES THREE DISH TENU")]⟩,
  ⟨"CUNEIFORM SIGN A TIMES ", [(0x12001, "A,BAD,GAN2 TENU,HA,IGI,LAGAR GUNU,MUSH,SAG")]⟩,
  ⟨"CUNEIFORM SIGN AB TIMES ",
    [(0x1200B, "ASH2,DUN3 GUNU,GAL,GAN2 TENU,HA,IGI GUNU,IMIN,LAGAB,SHESH,U PLUS U PLUS U"),
    (0x12370, "NUN"), (0x12480, "NUN TENU,SHU2")]⟩,
  ⟨"CUNEIFORM SIGN AB2 TIMES ", [(0x12017, "BALAG,GAN2 TENU,ME PLUS EN,SHA3,TAK4"),
    (0x12371, "A")]⟩,
  ⟨"CUNEIFORM SIGN AL TIMES ", [(0x12021, "AL,DIM2,GISH,HA,KAD3,KI,SHE,USH")]⟩,
  ⟨"CUNEIFORM SIGN DAG KISIM5 TIMES ",
    [(0x12057, "A PLUS MASH,AMAR,BALAG,BI,GA,GA PLUS MASH,GI,GIR2,GUD,HA,IR,IR PLUS LU,KAK,LA"),
    (0x12065, "LU,LU PLUS MASH2,LUM,NE,PAP PLUS PAP,SI,TAK4,U2 PLUS GIR2,USH"),
    (0x12373, "U2 PLUS MASH")]⟩,
  ⟨"CUNEIFORM SIGN E2 TIMES ", [(0x1208E, "A PLUS HA PLUS DA,GAR,MI,SAL,SHE,U"),
    (0x124A9, "KUR,PAP")]⟩,
  ⟨"CUNEIFORM SIGN EZEN TIMES ",
    [(0x120A2, "A,A PLUS LAL,A PLUS LAL TIMES LAL,AN,BAD,DUN3 GUNU,DUN3 GUNU GUNU,HA,HA GUNU"),
    (0x120AB, "IGI GUNU,KASKAL,KASKAL SQUARED,KU3,LA,LAL TIMES LAL,LI,LU,U2,UD"),
    (0x12377, "GUD,SHE"), (0x124B5, "SU")]⟩,
  ⟨"CUNEIFORM SIGN GA2 TIMES ",
    [(0x120B8, "A PLUS DA PLUS HA,A PLUS HA,A PLUS IGI,AB2 TENU PLUS TAB,AN,ASH,ASH2 PLUS GAL"),
    (0x120BF, "BAD,BAR PLUS RA,BUR,BUR PLUS RA,DA,DI,DIM TIMES SHE,DUB,EL,EL PLUS LA,EN"),
    (0x120CA, "EN TIMES GAN2 TENU,GAN2 TENU,GAR,GI,GI4,GI4 PLUS A,GIR2 PLUS SU"),
    (0x120D1, "HA PLUS LU PLUS ESH2,HAL,HAL PLUS LA,HI PLUS LI,HUB2,IGI GUNU"),
    (0x120D7, "ISH PLUS HU PLUS ASH,KAK,KASKAL,KID,KID PLUS LAL,KU3 PLUS AN,LA,ME PLUS EN,MI"),
    (0x120E0, "NUN,NUN OVER NUN,PA,SAL,SAR,SHE,SHE PLUS TUR,SHID,SUM,TAK4,U,UD,UD PLUS DU"),
    (0x12379, "AN PLUS KAK PLUS A,ASH2"),
    (0x124B6, "BAHAR2,DIM GUNU,DUG TIMES IGI GUNU,DUG TIMES KASKAL,EREN,GA,GAR PLUS DI"),
    (0x124BD, "GAR PLUS NE,HA PLUS A,KUSHU2 PLUS KASKAL,LAM,LAM TIMES KUR,LUH,MUSH,NE"),
    (0x124C5, "NE PLUS E2,NE PLUS GI,SHIM,ZIZ2")]⟩,
  ⟨"CUNEIFORM SIGN HI TIMES ", [(0x1212E, "ASH,ASH2,BAD,DISH,GAD,KIN,NUN,SHE,U"),
    (0x124CF, "ASH OVER HI TIMES ASH")]⟩,
  ⟨"CUNEIFORM SIGN KA TIMES ",
    [(0x12158, "A,AD,AD PLUS KU3,ASH2,BAD,BALAG,BAR,BI,ERIN2,ESH2,GA,GAL,GAN2 TENU,GAR"),
    (0x12166, "GAR PLUS SHA3 PLUS A,GI,GIR2,GISH PLUS SAR,GISH CROSSING GISH,GU,GUR7,IGI,IM"),
    (0x1216F, "KAK,KI,KID,LI,LU,ME,ME PLUS DU,ME PLUS GI,ME PLUS TE,MI,MI PLUS NUNUZ,NE,NUN"),
    (0x1217C, "PI,RU,SA,SAR,SHA,SHE,SHID,SHU,SIG,SUHUR,TAR,U,U2,UD,UMUM TIMES PA,USH,ZI"),
    (0x1237E, "ANSHE,ASH3,GISH,GUD,HI TIMES ASH2,LUM,PA,SHUL,TU,UR2"),
    (0x124D0, "BU,KA,U U U,UR")]⟩,
  ⟨"CUNEIFORM SIGN LAGAB TIMES ",
    [(0x121B9, "A,A PLUS DA PLUS HA,A PLUS GAR,A PLUS LAL,AL,AN,ASH ZIDA TENU,BAD,BI,DAR,EN"),
    (0x121C4, "GA,GAR,GUD,GUD PLUS GUD,HA,HAL,HI TIMES NUN,IGI GUNU,IM,IM PLUS HA,IM PLUS LU"),
    (0x121CF, "KI,KIN,KU3,KUL,KUL PLUS HI PLUS A,LAGAB,LISH,LU,LUL,ME,ME PLUS EN,MUSH,NE"),
    (0x121DC, "SHE PLUS SUM,SHITA PLUS GISH PLUS ERIN2,SHITA PLUS GISH TENU,SHU2"),
    (0x121E0, "SHU2 PLUS SHU2,SUM,TAG,TAK4,TE PLUS A PLUS SU PLUS NA,U,U PLUS A"),
    (0x121E7, "U PLUS U PLUS U,U2 PLUS ASH,UD,USH"), (0x12388, "GI"), (0x124D4, "ZU OVER ZU")]⟩,
  ⟨"CUNEIFORM SIGN LU2 TIMES ",
    [(0x121FE, "AL,BAD,ESH2,ESH2 TENU,GAN2 TENU,HI TIMES BAD,IM,KAD2,KAD3,KAD3 PLUS ASH,KI"),
    (0x12209, "LA PLUS ASH,LAGAB,ME PLUS EN,NE,NU,SI PLUS ASH,SIK2 PLUS BU,TUG2"),
    (0x1238A, "ESH2 PLUS LAL,SHU"), (0x1251A, "DISH,HAL,PAP,PAP PLUS PAP PLUS LU3,TAK4")]⟩,
  ⟨"CUNEIFORM SIGN NINDA2 TIMES ",
    [(0x12253, "AN,ASH,ASH PLUS ASH,GUD,ME PLUS GAN2 TENU,NE,NUN,SHE,SHE PLUS A AN"),
    (0x1225C, "SHE PLUS ASH,SHE PLUS ASH PLUS ASH,U2 PLUS ASH,USH"), (0x12391, "BAL,GI"),
    (0x12522, "DIM GUNU,GISH,GUL,HI,KESH2,LAK-050,MASH,PAP PLUS PAP,U,U PLUS U,URUDA")]⟩,
  ⟨"CUNEIFORM SIGN NUNUZ AB2 TIMES ",
    [(0x1226E, "ASHGAB,BI,DUG,GUD,IGI GUNU,KAD3,LA,NE,SILA3,U2")]⟩,
  ⟨"CUNEIFORM SIGN SAG TIMES ",
    [(0x12296, "A,DU,DUB,HA,KAK,KUR,LUM,MI,NUN,SAL,SHID,TAB,U2,UB,UM,UR,USH"),
    (0x12396, "IGI GUNU"), (0x1252E, "EN,SHE AT LEFT,TAK4")]⟩,
  ⟨"CUNEIFORM SIGN SHA3 TIMES ", [(0x122AF, "A,BAD,GISH,NE,SHU2,TUR,U,U PLUS A")]⟩,
  ⟨"CUNEIFORM SIGN SHIM TIMES ",
    [(0x122C7, "A,BAL,BULUG,DIN,GAR,IGI,IGI GUNU,KUSHU2,LUL,MUG,SAL")]⟩,
  ⟨"CUNEIFORM SIGN TAG TIMES ", [(0x122F4, "BI,GUD,SHE,SHU,TUG2,UD")]⟩,
  ⟨"CUNEIFORM SIGN URU TIMES ",
    [(0x12338, "A,ASHGAB,BAR,DUN,GA,GAL,GAN2 TENU,GAR,GU,HA,IGI,IM,ISH,KI,LUM,MIN,PA,SHE,SIG4"),
    (0x1234B, "TU,U PLUS GUD,UD,URUDA"), (0x1253E, "DARA3,LAK-668,LU3")]⟩,
  ⟨"CUNEIFORM NUMERIC SIGN ",
    [(0x12400, "TWO ASH,THREE ASH,FOUR ASH,FIVE ASH,SIX ASH,SEVEN ASH,EIGHT ASH,NINE ASH"),
    (0x12408, "THREE DISH,FOUR DISH,FIVE DISH,SIX DISH,SEVEN DISH,EIGHT DISH,NINE DISH"),
    (0x1240F, "FOUR U,FIVE U,SIX U,SEVEN U,EIGHT U,NINE U,ONE GESH2,TWO GESH2,THREE GESH2"),
    (0x12418, "FOUR GESH2,FIVE GESH2,SIX GESH2,SEVEN GESH2,EIGHT GESH2,NINE GESH2,ONE GESHU"),
    (0x1241F, "TWO GESHU,THREE GESHU,FOUR GESHU,FIVE GESHU,TWO SHAR2,THREE SHAR2"),
    (0x12425, "THREE SHAR2 VARIANT FORM,FOUR SHAR2,FIVE SHAR2,SIX SHAR2,SEVEN SHAR2"),
    (0x1242A, "EIGHT SHAR2,NINE SHAR2,ONE SHARU,TWO SHARU,THREE SHARU"),
    (0x1242F, "THREE SHARU VARIANT FORM,FOUR SHARU,FIVE SHARU,SHAR2 TIMES GAL PLUS DISH"),
    (0x12433, "SHAR2 TIMES GAL PLUS MIN,ONE BURU,TWO BURU,THREE BURU,THREE BURU VARIANT FORM"),
    (0x12438, "FOUR BURU,FIVE BURU,THREE VARIANT FORM ESH16,THREE VARIANT FORM ESH21"),
    (0x1243C, "FOUR VARIANT FORM LIMMU,FOUR VARIANT FORM LIMMU4,FOUR VARIANT FORM LIMMU A"),
    (0x1243F, "FOUR VARIANT FORM LIMMU B,SIX VARIANT FORM ASH9,SEVEN VARIANT FORM IMIN3"),
    (0x12442, "SEVEN VARIANT FORM IMIN A,SEVEN VARIANT FORM IMIN B,EIGHT VARIANT FORM USSU"),
    (0x12445, "EIGHT VARIANT FORM USSU3,NINE VARIANT FORM ILIMMU,NINE VARIANT FORM ILIMMU3"),
    (0x12448, "NINE VARIANT FORM ILIMMU4,NINE VARIANT FORM ILIMMU A,TWO ASH TENU"),
    (0x1244B, "THREE ASH TENU,FOUR ASH TENU,FIVE ASH TENU,SIX ASH TENU,ONE BAN2,TWO BAN2"),
    (0x12451, "THREE BAN2,FOUR BAN2,FOUR BAN2 VARIANT FORM,FIVE BAN2,FIVE BAN2 VARIANT FORM"),
    (0x12456, "NIGIDAMIN,NIGIDAESH,ONE ESHE3,TWO ESHE3,ONE THIRD DISH,TWO THIRDS DISH"),
    (0x1245C, "FIVE SIXTHS DISH,ONE THIRD VARIANT FORM A,TWO THIRDS VARIANT FORM A"),
    (0x1245F, "ONE EIGHTH ASH,ONE QUARTER ASH,OLD ASSYRIAN ONE SIXTH"),
    (0x12462, "OLD ASSYRIAN ONE QUARTER,ONE QUARTER GUR,ONE HALF GUR,ELAMITE ONE THIRD"),
    (0x12466, "ELAMITE TWO THIRDS,ELAMITE FORTY,ELAMITE FIFTY,FOUR U VARIANT FORM"),
    (0x1246A, "FIVE U VARIANT FORM,SIX U VARIANT FORM,SEVEN U VARIANT FORM"),
    (0x1246D, "EIGHT U VARIANT FORM,NINE U VARIANT FORM")]⟩,
  ⟨"CUNEIFORM PUNCTUATION ",
    [(0x12470, "SIGN OLD ASSYRIAN WORD DIVIDER,SIGN VERTICAL COLON,SIGN DIAGONAL COLON"),
    (0x12473, "SIGN DIAGONAL TRICOLON,SIGN DIAGONAL QUADCOLON")]⟩,
  ⟨"CUNEIFORM SIGN DUG TIMES ",
    [(0x1248D, "ANSHE,ASH,ASH AT LEFT,DIN,DUN,ERIN2,GA,GI,GIR2 GUNU,GISH,HA,HI,IGI GUNU"),
    (0x1249A, "KASKAL,KUR,KUSHU2,KUSHU2 PLUS KASKAL,LAK-020,LAM,LAM TIMES KUR,LUH PLUS GISH"),
    (0x124A2, "MASH,MES,MI,NI,PI,SHE,SI GUNU")]⟩,
  ⟨"CUNEIFORM SIGN EZEN SHESHIG TIMES ", [(0x124AD, "ASH,HI,IGI GUNU,LA,LAL,ME,MES,SU")]⟩,
  ⟨"CUNEIFORM SIGN LAK-",
    [(0x124D5, "003,021,025,030,050,051,062,079 OVER LAK-079 GUNU,080,081 OVER LAK-081,092"),
    (0x124E0, "130,142,210,219,220,225,228,238,265,266,343,347,348,383,384,390,441,449"),
    (0x124F2, "449 TIMES GU,449 TIMES IGI,449 TIMES PAP PLUS LU3"),
    (0x124F5, "449 TIMES PAP PLUS PAP PLUS LU3,449 TIMES U2 PLUS BA,450,457,470,483,490,492"),
    (0x124FD, "493,495,550,608,617"), (0x1250C, "636,648"), (0x12517, "724,749")]⟩,
  ⟨"CUNEIFORM SIGN LAK-617 TIMES ",
    [(0x12502, "ASH,BAD,DUN3 GUNU GUNU,KU3,LA,TAR,TE,U2,UD,URUDA")]⟩,
  ⟨"CUNEIFORM SIGN LAK-648 TIMES ",
    [(0x1250E, "DUB,GA,IGI,IGI GUNU,NI,PAP PLUS PAP PLUS LU3,SHESH PLUS KI,UD,URUDA")]⟩]

end RecordSearch.Text
