import RecordSearch.Text.CharacterName.Family

namespace RecordSearch.Text

/-!
# Names of characters: East Asian scripts

The letters and signs of the scripts of East Asia, but for those that are named by number.
-/

/-- The names of characters of East Asian scripts. -/
def eastAsianNames : List NameFamily := [
  ⟨"", [(0x3003, "DITTO MARK,JAPANESE INDUSTRIAL STANDARD SYMBOL,,,,LEFT ANGLE BRACKET"),
    (0x3009, "RIGHT ANGLE BRACKET,LEFT DOUBLE ANGLE BRACKET,RIGHT DOUBLE ANGLE BRACKET"),
    (0x300C, "LEFT CORNER BRACKET,RIGHT CORNER BRACKET,LEFT WHITE CORNER BRACKET"),
    (0x300F, "RIGHT WHITE CORNER BRACKET,LEFT BLACK LENTICULAR BRACKET"),
    (0x3011, "RIGHT BLACK LENTICULAR BRACKET,POSTAL MARK,GETA MARK"),
    (0x3014, "LEFT TORTOISE SHELL BRACKET,RIGHT TORTOISE SHELL BRACKET"),
    (0x3016, "LEFT WHITE LENTICULAR BRACKET,RIGHT WHITE LENTICULAR BRACKET"),
    (0x3018, "LEFT WHITE TORTOISE SHELL BRACKET,RIGHT WHITE TORTOISE SHELL BRACKET"),
    (0x301A, "LEFT WHITE SQUARE BRACKET,RIGHT WHITE SQUARE BRACKET,WAVE DASH"),
    (0x301D, "REVERSED DOUBLE PRIME QUOTATION MARK,DOUBLE PRIME QUOTATION MARK"),
    (0x301F, "LOW DOUBLE PRIME QUOTATION MARK,POSTAL MARK FACE"),
    (0x302E, "HANGUL SINGLE DOT TONE MARK,HANGUL DOUBLE DOT TONE MARK,WAVY DASH"),
    (0x303B, "VERTICAL IDEOGRAPHIC ITERATION MARK,MASU MARK,PART ALTERNATION MARK"),
    (0x309D, "HIRAGANA ITERATION MARK,HIRAGANA VOICED ITERATION MARK,HIRAGANA DIGRAPH YORI"),
    (0x30FB, "KATAKANA MIDDLE DOT,,KATAKANA ITERATION MARK,KATAKANA VOICED ITERATION MARK"),
    (0x30FF, "KATAKANA DIGRAPH KOTO"), (0x3164, "HANGUL FILLER"),
    (0x321D, "PARENTHESIZED KOREAN CHARACTER OJEON,PARENTHESIZED KOREAN CHARACTER O HU"),
    (0x3250, "PARTNERSHIP SIGN"), (0x327F, "KOREAN STANDARD SYMBOL"),
    (0x32CF, "LIMITED LIABILITY SIGN"),
    (0xA4FE, "LISU PUNCTUATION COMMA,LISU PUNCTUATION FULL STOP"),
    (0xFFFC, "OBJECT REPLACEMENT CHARACTER,REPLACEMENT CHARACTER"),
    (0x16FE0, "TANGUT ITERATION MARK,NUSHU ITERATION MARK,OLD CHINESE HOOK MARK"),
    (0x16FE3, "OLD CHINESE ITERATION MARK,KHITAN SMALL SCRIPT FILLER"),
    (0x16FF0, "VIETNAMESE ALTERNATE READING MARK CA,VIETNAMESE ALTERNATE READING MARK NHAY")]⟩,
  ⟨"HANGUL CHOSEONG ",
    [(0x1100, "KIYEOK,SSANGKIYEOK,NIEUN,TIKEUT,SSANGTIKEUT,RIEUL,MIEUM,PIEUP,SSANGPIEUP,SIOS"),
    (0x110A, "SSANGSIOS,IEUNG,CIEUC,SSANGCIEUC,CHIEUCH,KHIEUKH,THIEUTH,PHIEUPH,HIEUH"),
    (0x1113, "NIEUN-KIYEOK,SSANGNIEUN,NIEUN-TIKEUT,NIEUN-PIEUP,TIKEUT-KIYEOK,RIEUL-NIEUN"),
    (0x1119, "SSANGRIEUL,RIEUL-HIEUH,KAPYEOUNRIEUL,MIEUM-PIEUP,KAPYEOUNMIEUM"),
    (0x112B, "KAPYEOUNPIEUP,KAPYEOUNSSANGPIEUP,SIOS-KIYEOK,SIOS-NIEUN,SIOS-TIKEUT"),
    (0x1130, "SIOS-RIEUL,SIOS-MIEUM,SIOS-PIEUP,SIOS-PIEUP-KIYEOK,SIOS-SSANGSIOS,SIOS-IEUNG"),
    (0x1136, "SIOS-CIEUC,SIOS-CHIEUCH,SIOS-KHIEUKH,SIOS-THIEUTH,SIOS-PHIEUPH,SIOS-HIEUH"),
    (0x113C, "CHITUEUMSIOS,CHITUEUMSSANGSIOS,CEONGCHIEUMSIOS,CEONGCHIEUMSSANGSIOS,PANSIOS"),
    (0x1141, "IEUNG-KIYEOK,IEUNG-TIKEUT,IEUNG-MIEUM,IEUNG-PIEUP,IEUNG-SIOS,IEUNG-PANSIOS"),
    (0x1147, "SSANGIEUNG,IEUNG-CIEUC,IEUNG-CHIEUCH,IEUNG-THIEUTH,IEUNG-PHIEUPH,YESIEUNG"),
    (0x114D, "CIEUC-IEUNG,CHITUEUMCIEUC,CHITUEUMSSANGCIEUC,CEONGCHIEUMCIEUC"),
    (0x1151, "CEONGCHIEUMSSANGCIEUC,CHIEUCH-KHIEUKH,CHIEUCH-HIEUH,CHITUEUMCHIEUCH"),
    (0x1155, "CEONGCHIEUMCHIEUCH,PHIEUPH-PIEUP,KAPYEOUNPHIEUPH,SSANGHIEUH,YEORINHIEUH"),
    (0x115A, "KIYEOK-TIKEUT,NIEUN-SIOS,NIEUN-CIEUC,NIEUN-HIEUH,TIKEUT-RIEUL,FILLER"),
    (0xA960, "TIKEUT-MIEUM,TIKEUT-PIEUP,TIKEUT-SIOS,TIKEUT-CIEUC,RIEUL-KIYEOK"),
    (0xA965, "RIEUL-SSANGKIYEOK,RIEUL-TIKEUT,RIEUL-SSANGTIKEUT,RIEUL-MIEUM,RIEUL-PIEUP"),
    (0xA96A, "RIEUL-SSANGPIEUP,RIEUL-KAPYEOUNPIEUP,RIEUL-SIOS,RIEUL-CIEUC,RIEUL-KHIEUKH"),
    (0xA96F, "MIEUM-KIYEOK,MIEUM-TIKEUT,MIEUM-SIOS,,,,SSANGSIOS-PIEUP,IEUNG-RIEUL"),
    (0xA977, "IEUNG-HIEUH,SSANGCIEUC-HIEUH,SSANGTHIEUTH,PHIEUPH-HIEUH,HIEUH-SIOS"),
    (0xA97C, "SSANGYEORINHIEUH")]⟩,
  ⟨"HANGUL CHOSEONG PIEUP-",
    [(0x111E, "KIYEOK,NIEUN,TIKEUT,SIOS,SIOS-KIYEOK,SIOS-TIKEUT,SIOS-PIEUP,SSANGSIOS"),
    (0x1126, "SIOS-CIEUC,CIEUC,CHIEUCH,THIEUTH,PHIEUPH"), (0xA972, "SIOS-THIEUTH,KHIEUKH,HIEUH")]⟩,
  ⟨"HANGUL JUNGSEONG ",
    [(0x1160, "FILLER,A,AE,YA,YAE,EO,E,YEO,YE,O,WA,WAE,OE,YO,U,WEO,WE,WI,YU,EU,YI,I,A-O,A-U"),
    (0x1178, "YA-O,YA-YO,EO-O,EO-U,EO-EU,YEO-O,YEO-U,O-EO,O-E,O-YE,O-O,O-U,YO-YA,YO-YAE"),
    (0x1186, "YO-YEO,YO-O,YO-I,U-A,U-AE,U-EO-EU,U-YE,U-U,YU-A,YU-EO,YU-E,YU-YEO,YU-YE,YU-U"),
    (0x1194, "YU-I,EU-U,EU-EU,YI-U,I-A,I-YA,I-O,I-U,I-EU,I-ARAEA,ARAEA,ARAEA-EO,ARAEA-U"),
    (0x11A1, "ARAEA-I,SSANGARAEA,A-EU,YA-U,YEO-YA,O-YA,O-YAE"),
    (0xD7B0, "O-YEO,O-O-I,YO-A,YO-AE,YO-EO,U-YEO,U-I-I,YU-AE,YU-O,EU-A,EU-EO,EU-E,EU-O"),
    (0xD7BD, "I-YA-O,I-YAE,I-YEO,I-YE,I-O-I,I-YO,I-YU,I-I,ARAEA-A,ARAEA-E")]⟩,
  ⟨"HANGUL JONGSEONG ",
    [(0x11A8, "KIYEOK,SSANGKIYEOK,KIYEOK-SIOS,NIEUN,NIEUN-CIEUC,NIEUN-HIEUH,TIKEUT,RIEUL"),
    (0x11B7, "MIEUM,PIEUP,PIEUP-SIOS,SIOS,SSANGSIOS,IEUNG,CIEUC,CHIEUCH,KHIEUKH,THIEUTH"),
    (0x11C1, "PHIEUPH,HIEUH,KIYEOK-RIEUL,KIYEOK-SIOS-KIYEOK,NIEUN-KIYEOK,NIEUN-TIKEUT"),
    (0x11C7, "NIEUN-SIOS,NIEUN-PANSIOS,NIEUN-THIEUTH,TIKEUT-KIYEOK,TIKEUT-RIEUL"),
    (0x11D0, "SSANGRIEUL"),
    (0x11DA, "MIEUM-KIYEOK,MIEUM-RIEUL,MIEUM-PIEUP,MIEUM-SIOS,MIEUM-SSANGSIOS,MIEUM-PANSIOS"),
    (0x11E0, "MIEUM-CHIEUCH,MIEUM-HIEUH,KAPYEOUNMIEUM,PIEUP-RIEUL,PIEUP-PHIEUPH,PIEUP-HIEUH"),
    (0x11E6, "KAPYEOUNPIEUP,SIOS-KIYEOK,SIOS-TIKEUT,SIOS-RIEUL,SIOS-PIEUP,PANSIOS"),
    (0x11EC, "IEUNG-KIYEOK,IEUNG-SSANGKIYEOK,SSANGIEUNG,IEUNG-KHIEUKH,YESIEUNG"),
    (0x11F3, "PHIEUPH-PIEUP,KAPYEOUNPHIEUPH,HIEUH-NIEUN,HIEUH-RIEUL,HIEUH-MIEUM,HIEUH-PIEUP"),
    (0x11F9, "YEORINHIEUH,KIYEOK-NIEUN,KIYEOK-PIEUP,KIYEOK-CHIEUCH,KIYEOK-KHIEUKH"),
    (0x11FE, "KIYEOK-HIEUH,SSANGNIEUN"),
    (0xD7CB, "NIEUN-RIEUL,NIEUN-CHIEUCH,SSANGTIKEUT,SSANGTIKEUT-PIEUP,TIKEUT-PIEUP"),
    (0xD7D0, "TIKEUT-SIOS,TIKEUT-SIOS-KIYEOK,TIKEUT-CIEUC,TIKEUT-CHIEUCH,TIKEUT-THIEUTH"),
    (0xD7D7, "SSANGRIEUL-KHIEUKH,,,,,,KAPYEOUNRIEUL,MIEUM-NIEUN,MIEUM-SSANGNIEUN,SSANGMIEUM"),
    (0xD7E1, "MIEUM-PIEUP-SIOS,MIEUM-CIEUC,PIEUP-TIKEUT,PIEUP-RIEUL-PHIEUPH,PIEUP-MIEUM"),
    (0xD7E6, "SSANGPIEUP,PIEUP-SIOS-TIKEUT,PIEUP-CIEUC,PIEUP-CHIEUCH,SIOS-MIEUM"),
    (0xD7EB, "SIOS-KAPYEOUNPIEUP,SSANGSIOS-KIYEOK,SSANGSIOS-TIKEUT,SIOS-PANSIOS,SIOS-CIEUC"),
    (0xD7F0, "SIOS-CHIEUCH,SIOS-THIEUTH,SIOS-HIEUH,PANSIOS-PIEUP,PANSIOS-KAPYEOUNPIEUP"),
    (0xD7F7, "CIEUC-PIEUP,CIEUC-SSANGPIEUP,SSANGCIEUC,PHIEUPH-SIOS,PHIEUPH-THIEUTH")]⟩,
  ⟨"HANGUL JONGSEONG RIEUL-", [(0x11B0, "KIYEOK,MIEUM,PIEUP,SIOS,THIEUTH,PHIEUPH,HIEUH"),
    (0x11CC, "KIYEOK-SIOS,NIEUN,TIKEUT,TIKEUT-HIEUH,,MIEUM-KIYEOK,MIEUM-SIOS,PIEUP-SIOS"),
    (0x11D4, "PIEUP-HIEUH,KAPYEOUNPIEUP,SSANGSIOS,PANSIOS,KHIEUKH,YEORINHIEUH"),
    (0xD7D5, "SSANGKIYEOK,KIYEOK-HIEUH,,MIEUM-HIEUH,PIEUP-TIKEUT,PIEUP-PHIEUPH,YESIEUNG"),
    (0xD7DC, "YEORINHIEUH-HIEUH")]⟩,
  ⟨"HANGUL JONGSEONG YESIEUNG-", [(0x11F1, "SIOS,PANSIOS"), (0xD7F5, "MIEUM,HIEUH")]⟩,
  ⟨"SQUARE ", [(0x221A, "ROOT"), (0x228F, "IMAGE OF,,IMAGE OF OR EQUAL TO,,CAP,CUP"),
    (0x22E4, "IMAGE OF OR NOT EQUAL TO"), (0x2311, "LOZENGE"), (0x23CD, "FOOT"),
    (0x26F6, "FOUR CORNERS"), (0x2ACD, "LEFT OPEN BOX OPERATOR,RIGHT OPEN BOX OPERATOR"),
    (0x2BD0, "POSITION INDICATOR"), (0x32CC, "HG,ERG,EV"),
    (0x32FF, "ERA NAME REIWA,APAATO,ARUHUA,ANPEA,AARU,ININGU,INTI,UON,ESUKUUDO,EEKAA,ONSU"),
    (0x330A, "OOMU,KAIRI,KARATTO,KARORII,GARON,GANMA,GIGA,GINII,KYURII,GIRUDAA,KIRO"),
    (0x3315, "KIROGURAMU,KIROMEETORU,KIROWATTO,GURAMU,GURAMUTON,KURUZEIRO,KUROONE,KEESU"),
    (0x331D, "KORUNA,KOOPO,SAIKURU,SANTIIMU,SIRINGU,SENTI,SENTO,DAASU,DESI,DORU,TON,NANO"),
    (0x3329, "NOTTO,HAITU,PAASENTO,PAATU,BAARERU,PIASUTORU,PIKURU,PIKO,BIRU,HUARADDO,HUIITO"),
    (0x3334, "BUSSYERU,HURAN,HEKUTAARU,PESO,PENIHI,HERUTU,PENSU,PEEZI,BEETA,POINTO,BORUTO"),
    (0x333F, "HON,PONDO,HOORU,HOON,MAIKURO,MAIRU,MAHHA,MARUKU,MANSYON,MIKURON,MIRI"),
    (0x334A, "MIRIBAARU,MEGA,MEGATON,MEETORU,YAADO,YAARU,YUAN,RITTORU,RIRA,RUPII,RUUBURU"),
    (0x3355, "REMU,RENTOGEN,WATTO"),
    (0x3371, "HPA,DA,AU,BAR,OV,PC,DM,DM SQUARED,DM CUBED,IU,ERA NAME HEISEI,ERA NAME SYOUWA"),
    (0x337D, "ERA NAME TAISYOU,ERA NAME MEIZI,CORPORATION,PA AMPS,NA,MU A,MA,KA,KB,MB,GB"),
    (0x3388, "CAL,KCAL,PF,NF,MU F,MU G,MG,KG,HZ,KHZ,MHZ,GHZ,THZ,MU L,ML,DL,KL,FM,NM,MU M,MM"),
    (0x339D, "CM,KM,MM SQUARED,CM SQUARED,M SQUARED,KM SQUARED,MM CUBED,CM CUBED,M CUBED"),
    (0x33A6, "KM CUBED,M OVER S,M OVER S SQUARED,PA,KPA,MPA,GPA,RAD,RAD OVER S"),
    (0x33AF, "RAD OVER S SQUARED,PS,NS,MU S,MS,PV,NV,MU V,MV,KV,MV MEGA,PW,NW,MU W,MW,KW"),
    (0x33BF, "MW MEGA,K OHM,M OHM,AM,BQ,CC,CD,C OVER KG,CO,DB,GY,HA,HP,IN,KK,KM CAPITAL,KT"),
    (0x33D0, "LM,LN,LOG,LX,MB SMALL,MIL,MOL,PH,PM,PPM,PR,SR,SV,WB,V OVER M,A OVER M"),
    (0x33FF, "GAL"), (0x1F190, "DJ"), (0x1F200, "HIRAGANA HOKA"), (0x1F796, "TARGET")]⟩,
  ⟨"CIRCLED NUMBER ",
    [(0x2469, "TEN,ELEVEN,TWELVE,THIRTEEN,FOURTEEN,FIFTEEN,SIXTEEN,SEVENTEEN,EIGHTEEN"),
    (0x2472, "NINETEEN,TWENTY"),
    (0x3248, "TEN ON BLACK SQUARE,TWENTY ON BLACK SQUARE,THIRTY ON BLACK SQUARE"),
    (0x324B, "FORTY ON BLACK SQUARE,FIFTY ON BLACK SQUARE,SIXTY ON BLACK SQUARE"),
    (0x324E, "SEVENTY ON BLACK SQUARE,EIGHTY ON BLACK SQUARE,,TWENTY ONE,TWENTY TWO"),
    (0x3253, "TWENTY THREE,TWENTY FOUR,TWENTY FIVE,TWENTY SIX,TWENTY SEVEN,TWENTY EIGHT"),
    (0x3259, "TWENTY NINE,THIRTY,THIRTY ONE,THIRTY TWO,THIRTY THREE,THIRTY FOUR,THIRTY FIVE"),
    (0x32B1, "THIRTY SIX,THIRTY SEVEN,THIRTY EIGHT,THIRTY NINE,FORTY,FORTY ONE,FORTY TWO"),
    (0x32B8, "FORTY THREE,FORTY FOUR,FORTY FIVE,FORTY SIX,FORTY SEVEN,FORTY EIGHT"),
    (0x32BE, "FORTY NINE,FIFTY")]⟩,
  ⟨"CJK RADICAL ",
    [(0x2E80, "REPEAT,CLIFF,SECOND ONE,SECOND TWO,SECOND THREE,PERSON,BOX,TABLE,KNIFE ONE"),
    (0x2E89, "KNIFE TWO,DIVINATION,SEAL,SMALL ONE,SMALL TWO,LAME ONE,LAME TWO,LAME THREE"),
    (0x2E91, "LAME FOUR,SNAKE,THREAD,SNOUT ONE,SNOUT TWO,HEART ONE,HEART TWO,HAND,RAP"),
    (0x2E9B, "CHOKE,SUN,MOON,DEATH,MOTHER,CIVILIAN,WATER ONE,WATER TWO,FIRE,PAW ONE,PAW TWO"),
    (0x2EA6, "SIMPLIFIED HALF TREE TRUNK,COW,DOG,JADE,BOLT OF CLOTH,EYE,SPIRIT ONE"),
    (0x2EAD, "SPIRIT TWO,BAMBOO,SILK,,NET ONE,NET TWO,NET THREE,NET FOUR,MESH,SHEEP,RAM,EWE"),
    (0x2EB9, "OLD,BRUSH ONE,BRUSH TWO,MEAT,MORTAR,GRASS ONE,GRASS TWO,GRASS THREE,TIGER"),
    (0x2EC2, "CLOTHES,WEST ONE,WEST TWO,,SIMPLIFIED HORN,HORN,,,FOOT,,SIMPLIFIED WALK"),
    (0x2ECD, "WALK ONE,WALK TWO,CITY,,LONG ONE,LONG TWO,,,MOUND ONE,MOUND TWO,RAIN,BLUE"),
    (0x2EDD, "EAT ONE,EAT TWO,EAT THREE,,HEAD,,BONE,GHOST,,,,SIMPLIFIED WHEAT"),
    (0x2EE9, "SIMPLIFIED YELLOW,,,,,,,,TURTLE")]⟩,
  ⟨"CJK RADICAL C-SIMPLIFIED ", [(0x2EB0, "SILK"),
    (0x2EC5, "SEE,,,SPEECH,SHELL,,CART,,,,,GOLD,,,LONG,GATE,,,,,TANNED LEATHER,LEAF,WIND"),
    (0x2EDC, "FLY,,,,EAT,,HORSE,,,FISH,BIRD,SALT,,,FROG,,EVEN,,TOOTH,,DRAGON,,,TURTLE")]⟩,
  ⟨"CJK RADICAL J-SIMPLIFIED ", [(0x2EEB, "EVEN,,TOOTH,,DRAGON,,,TURTLE")]⟩,
  ⟨"KANGXI RADICAL ",
    [(0x2F00, "ONE,LINE,DOT,SLASH,SECOND,HOOK,TWO,LID,MAN,LEGS,ENTER,EIGHT,DOWN BOX,COVER"),
    (0x2F0E, "ICE,TABLE,OPEN BOX,KNIFE,POWER,WRAP,SPOON,RIGHT OPEN BOX,HIDING ENCLOSURE,TEN"),
    (0x2F18, "DIVINATION,SEAL,CLIFF,PRIVATE,AGAIN,MOUTH,ENCLOSURE,EARTH,SCHOLAR,GO"),
    (0x2F22, "GO SLOWLY,EVENING,BIG,WOMAN,CHILD,ROOF,INCH,SMALL,LAME,CORPSE,SPROUT,MOUNTAIN"),
    (0x2F2E, "RIVER,WORK,ONESELF,TURBAN,DRY,SHORT THREAD,DOTTED CLIFF,LONG STRIDE,TWO HANDS"),
    (0x2F37, "SHOOT,BOW,SNOUT,BRISTLE,STEP,HEART,HALBERD,DOOR,HAND,BRANCH,RAP,SCRIPT,DIPPER"),
    (0x2F44, "AXE,SQUARE,NOT,SUN,SAY,MOON,TREE,LACK,STOP,DEATH,WEAPON,DO NOT,COMPARE,FUR"),
    (0x2F52, "CLAN,STEAM,WATER,FIRE,CLAW,FATHER,DOUBLE X,HALF TREE TRUNK,SLICE,FANG,COW,DOG"),
    (0x2F5E, "PROFOUND,JADE,MELON,TILE,SWEET,LIFE,USE,FIELD,BOLT OF CLOTH,SICKNESS"),
    (0x2F68, "DOTTED TENT,WHITE,SKIN,DISH,EYE,SPEAR,ARROW,STONE,SPIRIT,TRACK,GRAIN,CAVE"),
    (0x2F74, "STAND,BAMBOO,RICE,SILK,JAR,NET,SHEEP,FEATHER,OLD,AND,PLOW,EAR,BRUSH,MEAT"),
    (0x2F82, "MINISTER,SELF,ARRIVE,MORTAR,TONGUE,OPPOSE,BOAT,STOPPING,COLOR,GRASS,TIGER"),
    (0x2F8D, "INSECT,BLOOD,WALK ENCLOSURE,CLOTHES,WEST,SEE,HORN,SPEECH,VALLEY,BEAN,PIG"),
    (0x2F98, "BADGER,SHELL,RED,RUN,FOOT,BODY,CART,BITTER,MORNING,WALK,CITY,WINE,DISTINGUISH"),
    (0x2FA5, "VILLAGE,GOLD,LONG,GATE,MOUND,SLAVE,SHORT TAILED BIRD,RAIN,BLUE,WRONG,FACE"),
    (0x2FB0, "LEATHER,TANNED LEATHER,LEEK,SOUND,LEAF,WIND,FLY,EAT,HEAD,FRAGRANT,HORSE,BONE"),
    (0x2FBC, "TALL,HAIR,FIGHT,SACRIFICIAL WINE,CAULDRON,GHOST,FISH,BIRD,SALT,DEER,WHEAT"),
    (0x2FC7, "HEMP,YELLOW,MILLET,BLACK,EMBROIDERY,FROG,TRIPOD,DRUM,RAT,NOSE,EVEN,TOOTH"),
    (0x2FD3, "DRAGON,TURTLE,FLUTE")]⟩,
  ⟨"IDEOGRAPHIC DESCRIPTION CHARACTER ",
    [(0x2FF0, "LEFT TO RIGHT,ABOVE TO BELOW,LEFT TO MIDDLE AND RIGHT"),
    (0x2FF3, "ABOVE TO MIDDLE AND BELOW,FULL SURROUND,SURROUND FROM ABOVE"),
    (0x2FF6, "SURROUND FROM BELOW,SURROUND FROM LEFT,SURROUND FROM UPPER LEFT"),
    (0x2FF9, "SURROUND FROM UPPER RIGHT,SURROUND FROM LOWER LEFT,OVERLAID")]⟩,
  ⟨"IDEOGRAPHIC ", [(0x3000, "SPACE,COMMA,FULL STOP,,,ITERATION MARK,CLOSING MARK,NUMBER ZERO"),
    (0x302A, "LEVEL TONE MARK,RISING TONE MARK,DEPARTING TONE MARK,ENTERING TONE MARK"),
    (0x3037, "TELEGRAPH LINE FEED SEPARATOR SYMBOL,,,,,,,VARIATION INDICATOR"),
    (0x303F, "HALF FILL SPACE"),
    (0x1D372, "TALLY MARK ONE,TALLY MARK TWO,TALLY MARK THREE,TALLY MARK FOUR"),
    (0x1D376, "TALLY MARK FIVE")]⟩,
  ⟨"HANGZHOU NUMERAL ", [(0x3021, "ONE,TWO,THREE,FOUR,FIVE,SIX,SEVEN,EIGHT,NINE"),
    (0x3038, "TEN,TWENTY,THIRTY")]⟩,
  ⟨"VERTICAL KANA REPEAT ",
    [(0x3031, "MARK,WITH VOICED SOUND MARK,MARK UPPER HALF,WITH VOICED SOUND MARK UPPER HALF"),
    (0x3035, "MARK LOWER HALF")]⟩,
  ⟨"HIRAGANA LETTER ",
    [(0x3041, "SMALL A,A,SMALL I,I,SMALL U,U,SMALL E,E,SMALL O,O,KA,GA,KI,GI,KU,GU,KE,GE,KO"),
    (0x3054, "GO,SA,ZA,SI,ZI,SU,ZU,SE,ZE,SO,ZO,TA,DA,TI,DI,SMALL TU,TU,DU,TE,DE,TO,DO,NA,NI"),
    (0x306C, "NU,NE,NO,HA,BA,PA,HI,BI,PI,HU,BU,PU,HE,BE,PE,HO,BO,PO,MA,MI,MU,ME,MO,SMALL YA"),
    (0x3084, "YA,SMALL YU,YU,SMALL YO,YO,RA,RI,RU,RE,RO,SMALL WA,WA,WI,WE,WO,N,VU,SMALL KA"),
    (0x3096, "SMALL KE"), (0x1B001, "ARCHAIC YE"), (0x1B11F, "ARCHAIC WU"),
    (0x1B150, "SMALL WI,SMALL WE,SMALL WO")]⟩,
  ⟨"KATAKANA-HIRAGANA ", [(0x309B, "VOICED SOUND MARK,SEMI-VOICED SOUND MARK,,,,DOUBLE HYPHEN"),
    (0x30FC, "PROLONGED SOUND MARK")]⟩,
  ⟨"KATAKANA LETTER SMALL ", [(0x30A1, "A,,I,,U,,E,,O"), (0x30C3, "TU"),
    (0x30E3, "YA,,YU,,YO,,,,,,,WA,,,,,,,KA,KE"),
    (0x31F0, "KU,SI,SU,TO,NU,HA,HI,HU,HE,HO,MU,RA,RI,RU,RE,RO"), (0x1B164, "WI,WE,WO,N")]⟩,
  ⟨"KATAKANA LETTER ",
    [(0x30A2, "A,,I,,U,,E,,O,KA,GA,KI,GI,KU,GU,KE,GE,KO,GO,SA,ZA,SI,ZI,SU,ZU,SE,ZE,SO,ZO,TA"),
    (0x30C0, "DA,TI,DI,,TU,DU,TE,DE,TO,DO,NA,NI,NU,NE,NO,HA,BA,PA,HI,BI,PI,HU,BU,PU,HE,BE"),
    (0x30DA, "PE,HO,BO,PO,MA,MI,MU,ME,MO,,YA,,YU,,YO,RA,RI,RU,RE,RO,,WA,WI,WE,WO,N,VU,,,VA"),
    (0x30F8, "VI,VE,VO"), (0x1B000, "ARCHAIC E"), (0x1B120, "ARCHAIC YI,ARCHAIC YE,ARCHAIC WU")]⟩,
  ⟨"BOPOMOFO LETTER ",
    [(0x3105, "B,P,M,F,D,T,N,L,G,K,H,J,Q,X,ZH,CH,SH,R,Z,C,S,A,O,E,EH,AI,EI,AU,OU,AN,EN,ANG"),
    (0x3125, "ENG,ER,I,U,IU,V,NG,GN,IH,O WITH DOT ABOVE,NN"),
    (0x31A0, "BU,ZI,JI,GU,EE,ENN,OO,ONN,IR,ANN,INN,UNN,IM,NGG,AINN,AUNN,AM,OM,ONG,INNN"),
    (0x31B8, "GH,LH,ZY,,GW,KW,OE,AH")]⟩,
  ⟨"HANGUL LETTER ",
    [(0x3131, "KIYEOK,SSANGKIYEOK,KIYEOK-SIOS,NIEUN,NIEUN-CIEUC,NIEUN-HIEUH,TIKEUT"),
    (0x3138, "SSANGTIKEUT,RIEUL,RIEUL-KIYEOK,RIEUL-MIEUM,RIEUL-PIEUP,RIEUL-SIOS"),
    (0x313E, "RIEUL-THIEUTH,RIEUL-PHIEUPH,RIEUL-HIEUH,MIEUM,PIEUP,SSANGPIEUP,PIEUP-SIOS"),
    (0x3145, "SIOS,SSANGSIOS,IEUNG,CIEUC,SSANGCIEUC,CHIEUCH,KHIEUKH,THIEUTH,PHIEUPH,HIEUH,A"),
    (0x3150, "AE,YA,YAE,EO,E,YEO,YE,O,WA,WAE,OE,YO,U,WEO,WE,WI,YU,EU,YI,I,,SSANGNIEUN"),
    (0x3166, "NIEUN-TIKEUT,NIEUN-SIOS,NIEUN-PANSIOS,RIEUL-KIYEOK-SIOS,RIEUL-TIKEUT"),
    (0x316B, "RIEUL-PIEUP-SIOS,RIEUL-PANSIOS,RIEUL-YEORINHIEUH,MIEUM-PIEUP,MIEUM-SIOS"),
    (0x3170, "MIEUM-PANSIOS,KAPYEOUNMIEUM,PIEUP-KIYEOK,PIEUP-TIKEUT,PIEUP-SIOS-KIYEOK"),
    (0x3175, "PIEUP-SIOS-TIKEUT,PIEUP-CIEUC,PIEUP-THIEUTH,KAPYEOUNPIEUP,KAPYEOUNSSANGPIEUP"),
    (0x317A, "SIOS-KIYEOK,SIOS-NIEUN,SIOS-TIKEUT,SIOS-PIEUP,SIOS-CIEUC,PANSIOS,SSANGIEUNG"),
    (0x3181, "YESIEUNG,YESIEUNG-SIOS,YESIEUNG-PANSIOS,KAPYEOUNPHIEUPH,SSANGHIEUH"),
    (0x3186, "YEORINHIEUH,YO-YA,YO-YAE,YO-I,YU-YEO,YU-YE,YU-I,ARAEA,ARAEAE")]⟩,
  ⟨"IDEOGRAPHIC ANNOTATION ",
    [(0x3190, "LINKING MARK,REVERSE MARK,ONE MARK,TWO MARK,THREE MARK,FOUR MARK,TOP MARK"),
    (0x3197, "MIDDLE MARK,BOTTOM MARK,FIRST MARK,SECOND MARK,THIRD MARK,FOURTH MARK"),
    (0x319D, "HEAVEN MARK,EARTH MARK,MAN MARK")]⟩,
  ⟨"BOPOMOFO FINAL LETTER ", [(0x31B4, "P,T,K,H,,,,G")]⟩,
  ⟨"CJK STROKE ",
    [(0x31C0, "T,WG,XG,BXG,SW,HZZ,HZG,HP,HZWG,SZWG,HZT,HZZP,HPWG,HZW,HZZZ,N,H,S,P,SP,D,HZ,HG"),
    (0x31D7, "SZ,SWZ,ST,SG,PD,PZ,TN,SZZ,SWG,HXWG,HZZZG,PG,Q")]⟩,
  ⟨"PARENTHESIZED HANGUL ",
    [(0x3200, "KIYEOK,NIEUN,TIKEUT,RIEUL,MIEUM,PIEUP,SIOS,IEUNG,CIEUC,CHIEUCH,KHIEUKH"),
    (0x320B, "THIEUTH,PHIEUPH,HIEUH,KIYEOK A,NIEUN A,TIKEUT A,RIEUL A,MIEUM A,PIEUP A"),
    (0x3214, "SIOS A,IEUNG A,CIEUC A,CHIEUCH A,KHIEUKH A,THIEUTH A,PHIEUPH A,HIEUH A"),
    (0x321C, "CIEUC U")]⟩,
  ⟨"PARENTHESIZED IDEOGRAPH ",
    [(0x3220, "ONE,TWO,THREE,FOUR,FIVE,SIX,SEVEN,EIGHT,NINE,TEN,MOON,FIRE,WATER,WOOD,METAL"),
    (0x322F, "EARTH,SUN,STOCK,HAVE,SOCIETY,NAME,SPECIAL,FINANCIAL,CONGRATULATION,LABOR"),
    (0x3239, "REPRESENT,CALL,STUDY,SUPERVISE,ENTERPRISE,RESOURCE,ALLIANCE,FESTIVAL,REST"),
    (0x3242, "SELF,REACH")]⟩,
  ⟨"CIRCLED IDEOGRAPH ", [(0x3244, "QUESTION,KINDERGARTEN,SCHOOL,KOTO"),
    (0x3280, "ONE,TWO,THREE,FOUR,FIVE,SIX,SEVEN,EIGHT,NINE,TEN,MOON,FIRE,WATER,WOOD,METAL"),
    (0x328F, "EARTH,SUN,STOCK,HAVE,SOCIETY,NAME,SPECIAL,FINANCIAL,CONGRATULATION,LABOR"),
    (0x3299, "SECRET,MALE,FEMALE,SUITABLE,EXCELLENT,PRINT,ATTENTION,ITEM,REST,COPY,CORRECT"),
    (0x32A4, "HIGH,CENTRE,LOW,LEFT,RIGHT,MEDICINE,RELIGION,STUDY,SUPERVISE,ENTERPRISE"),
    (0x32AE, "RESOURCE,ALLIANCE,NIGHT"), (0x1F250, "ADVANTAGE,ACCEPT")]⟩,
  ⟨"CIRCLED HANGUL ",
    [(0x3260, "KIYEOK,NIEUN,TIKEUT,RIEUL,MIEUM,PIEUP,SIOS,IEUNG,CIEUC,CHIEUCH,KHIEUKH"),
    (0x326B, "THIEUTH,PHIEUPH,HIEUH,KIYEOK A,NIEUN A,TIKEUT A,RIEUL A,MIEUM A,PIEUP A"),
    (0x3274, "SIOS A,IEUNG A,CIEUC A,CHIEUCH A,KHIEUKH A,THIEUTH A,PHIEUPH A,HIEUH A"),
    (0x327E, "IEUNG U")]⟩,
  ⟨"IDEOGRAPHIC TELEGRAPH SYMBOL FOR ",
    [(0x32C0, "JANUARY,FEBRUARY,MARCH,APRIL,MAY,JUNE,JULY,AUGUST,SEPTEMBER,OCTOBER,NOVEMBER"),
    (0x32CB, "DECEMBER")]⟩,
  ⟨"CIRCLED KATAKANA ",
    [(0x32D0, "A,I,U,E,O,KA,KI,KU,KE,KO,SA,SI,SU,SE,SO,TA,TI,TU,TE,TO,NA,NI,NU,NE,NO,HA,HI"),
    (0x32EB, "HU,HE,HO,MA,MI,MU,ME,MO,YA,YU,YO,RA,RI,RU,RE,RO,WA,WI,WE,WO")]⟩,
  ⟨"IDEOGRAPHIC TELEGRAPH SYMBOL FOR HOUR ",
    [(0x3358, "ZERO,ONE,TWO,THREE,FOUR,FIVE,SIX,SEVEN,EIGHT,NINE,TEN,ELEVEN,TWELVE,THIRTEEN"),
    (0x3366, "FOURTEEN,FIFTEEN,SIXTEEN,SEVENTEEN,EIGHTEEN,NINETEEN,TWENTY,TWENTY-ONE"),
    (0x336E, "TWENTY-TWO,TWENTY-THREE,TWENTY-FOUR")]⟩,
  ⟨"IDEOGRAPHIC TELEGRAPH SYMBOL FOR DAY ",
    [(0x33E0, "ONE,TWO,THREE,FOUR,FIVE,SIX,SEVEN,EIGHT,NINE,TEN,ELEVEN,TWELVE,THIRTEEN"),
    (0x33ED, "FOURTEEN,FIFTEEN,SIXTEEN,SEVENTEEN,EIGHTEEN,NINETEEN,TWENTY,TWENTY-ONE"),
    (0x33F5, "TWENTY-TWO,TWENTY-THREE,TWENTY-FOUR,TWENTY-FIVE,TWENTY-SIX,TWENTY-SEVEN"),
    (0x33FB, "TWENTY-EIGHT,TWENTY-NINE,THIRTY,THIRTY-ONE")]⟩,
  ⟨"YI SYLLABLE ",
    [(0xA000, "IT,IX,I,IP,IET,IEX,IE,IEP,AT,AX,A,AP,UOX,UO,UOP,OT,OX,O,OP,EX,E,WU,BIT,BIX,BI"),
    (0xA019, "BIP,BIET,BIEX,BIE,BIEP,BAT,BAX,BA,BAP,BUOX,BUO,BUOP,BOT,BOX,BO,BOP,BEX,BE,BEP"),
    (0xA02C, "BUT,BUX,BU,BUP,BURX,BUR,BYT,BYX,BY,BYP,BYRX,BYR,PIT,PIX,PI,PIP,PIEX,PIE,PIEP"),
    (0xA03F, "PAT,PAX,PA,PAP,PUOX,PUO,PUOP,POT,POX,PO,POP,PUT,PUX,PU,PUP,PURX,PUR,PYT,PYX"),
    (0xA052, "PY,PYP,PYRX,PYR,BBIT,BBIX,BBI,BBIP,BBIET,BBIEX,BBIE,BBIEP,BBAT,BBAX,BBA,BBAP"),
    (0xA062, "BBUOX,BBUO,BBUOP,BBOT,BBOX,BBO,BBOP,BBEX,BBE,BBEP,BBUT,BBUX,BBU,BBUP,BBURX"),
    (0xA071, "BBUR,BBYT,BBYX,BBY,BBYP,NBIT,NBIX,NBI,NBIP,NBIEX,NBIE,NBIEP,NBAT,NBAX,NBA"),
    (0xA080, "NBAP,NBOT,NBOX,NBO,NBOP,NBUT,NBUX,NBU,NBUP,NBURX,NBUR,NBYT,NBYX,NBY,NBYP"),
    (0xA08F, "NBYRX,NBYR,HMIT,HMIX,HMI,HMIP,HMIEX,HMIE,HMIEP,HMAT,HMAX,HMA,HMAP,HMUOX,HMUO"),
    (0xA09E, "HMUOP,HMOT,HMOX,HMO,HMOP,HMUT,HMUX,HMU,HMUP,HMURX,HMUR,HMYX,HMY,HMYP,HMYRX"),
    (0xA0AD, "HMYR,MIT,MIX,MI,MIP,MIEX,MIE,MIEP,MAT,MAX,MA,MAP,MUOT,MUOX,MUO,MUOP,MOT,MOX"),
    (0xA0BF, "MO,MOP,MEX,ME,MUT,MUX,MU,MUP,MURX,MUR,MYT,MYX,MY,MYP,FIT,FIX,FI,FIP,FAT,FAX"),
    (0xA0D3, "FA,FAP,FOX,FO,FOP,FUT,FUX,FU,FUP,FURX,FUR,FYT,FYX,FY,FYP,VIT,VIX,VI,VIP,VIET"),
    (0xA0E7, "VIEX,VIE,VIEP,VAT,VAX,VA,VAP,VOT,VOX,VO,VOP,VEX,VEP,VUT,VUX,VU,VUP,VURX,VUR"),
    (0xA0FA, "VYT,VYX,VY,VYP,VYRX,VYR,DIT,DIX,DI,DIP,DIEX,DIE,DIEP,DAT,DAX,DA,DAP,DUOX,DUO"),
    (0xA10D, "DOT,DOX,DO,DOP,DEX,DE,DEP,DUT,DUX,DU,DUP,DURX,DUR,TIT,TIX,TI,TIP,TIEX,TIE"),
    (0xA120, "TIEP,TAT,TAX,TA,TAP,TUOT,TUOX,TUO,TUOP,TOT,TOX,TO,TOP,TEX,TE,TEP,TUT,TUX,TU"),
    (0xA133, "TUP,TURX,TUR,DDIT,DDIX,DDI,DDIP,DDIEX,DDIE,DDIEP,DDAT,DDAX,DDA,DDAP,DDUOX"),
    (0xA142, "DDUO,DDUOP,DDOT,DDOX,DDO,DDOP,DDEX,DDE,DDEP,DDUT,DDUX,DDU,DDUP,DDURX,DDUR"),
    (0xA151, "NDIT,NDIX,NDI,NDIP,NDIEX,NDIE,NDAT,NDAX,NDA,NDAP,NDOT,NDOX,NDO,NDOP,NDEX,NDE"),
    (0xA161, "NDEP,NDUT,NDUX,NDU,NDUP,NDURX,NDUR,HNIT,HNIX,HNI,HNIP,HNIET,HNIEX,HNIE,HNIEP"),
    (0xA170, "HNAT,HNAX,HNA,HNAP,HNUOX,HNUO,HNOT,HNOX,HNOP,HNEX,HNE,HNEP,HNUT,NIT,NIX,NI"),
    (0xA180, "NIP,NIEX,NIE,NIEP,NAX,NA,NAP,NUOX,NUO,NUOP,NOT,NOX,NO,NOP,NEX,NE,NEP,NUT,NUX"),
    (0xA193, "NU,NUP,NURX,NUR,HLIT,HLIX,HLI,HLIP,HLIEX,HLIE,HLIEP,HLAT,HLAX,HLA,HLAP,HLUOX"),
    (0xA1A3, "HLUO,HLUOP,HLOX,HLO,HLOP,HLEX,HLE,HLEP,HLUT,HLUX,HLU,HLUP,HLURX,HLUR,HLYT"),
    (0xA1B2, "HLYX,HLY,HLYP,HLYRX,HLYR,LIT,LIX,LI,LIP,LIET,LIEX,LIE,LIEP,LAT,LAX,LA,LAP"),
    (0xA1C3, "LUOT,LUOX,LUO,LUOP,LOT,LOX,LO,LOP,LEX,LE,LEP,LUT,LUX,LU,LUP,LURX,LUR,LYT,LYX"),
    (0xA1D6, "LY,LYP,LYRX,LYR,GIT,GIX,GI,GIP,GIET,GIEX,GIE,GIEP,GAT,GAX,GA,GAP,GUOT,GUOX"),
    (0xA1E8, "GUO,GUOP,GOT,GOX,GO,GOP,GET,GEX,GE,GEP,GUT,GUX,GU,GUP,GURX,GUR,KIT,KIX,KI,KIP"),
    (0xA1FC, "KIEX,KIE,KIEP,KAT,KAX,KA,KAP,KUOX,KUO,KUOP,KOT,KOX,KO,KOP,KET,KEX,KE,KEP,KUT"),
    (0xA20F, "KUX,KU,KUP,KURX,KUR,GGIT,GGIX,GGI,GGIEX,GGIE,GGIEP,GGAT,GGAX,GGA,GGAP,GGUOT"),
    (0xA21F, "GGUOX,GGUO,GGUOP,GGOT,GGOX,GGO,GGOP,GGET,GGEX,GGE,GGEP,GGUT,GGUX,GGU,GGUP"),
    (0xA22E, "GGURX,GGUR,MGIEX,MGIE,MGAT,MGAX,MGA,MGAP,MGUOX,MGUO,MGUOP,MGOT,MGOX,MGO,MGOP"),
    (0xA23D, "MGEX,MGE,MGEP,MGUT,MGUX,MGU,MGUP,MGURX,MGUR,HXIT,HXIX,HXI,HXIP,HXIET,HXIEX"),
    (0xA24C, "HXIE,HXIEP,HXAT,HXAX,HXA,HXAP,HXUOT,HXUOX,HXUO,HXUOP,HXOT,HXOX,HXO,HXOP,HXEX"),
    (0xA25B, "HXE,HXEP,NGIEX,NGIE,NGIEP,NGAT,NGAX,NGA,NGAP,NGUOT,NGUOX,NGUO,NGOT,NGOX,NGO"),
    (0xA26A, "NGOP,NGEX,NGE,NGEP,HIT,HIEX,HIE,HAT,HAX,HA,HAP,HUOT,HUOX,HUO,HUOP,HOT,HOX,HO"),
    (0xA27C, "HOP,HEX,HE,HEP,WAT,WAX,WA,WAP,WUOX,WUO,WUOP,WOX,WO,WOP,WEX,WE,WEP,ZIT,ZIX,ZI"),
    (0xA290, "ZIP,ZIEX,ZIE,ZIEP,ZAT,ZAX,ZA,ZAP,ZUOX,ZUO,ZUOP,ZOT,ZOX,ZO,ZOP,ZEX,ZE,ZEP,ZUT"),
    (0xA2A3, "ZUX,ZU,ZUP,ZURX,ZUR,ZYT,ZYX,ZY,ZYP,ZYRX,ZYR,CIT,CIX,CI,CIP,CIET,CIEX,CIE,CIEP"),
    (0xA2B6, "CAT,CAX,CA,CAP,CUOX,CUO,CUOP,COT,COX,CO,COP,CEX,CE,CEP,CUT,CUX,CU,CUP,CURX"),
    (0xA2C9, "CUR,CYT,CYX,CY,CYP,CYRX,CYR,ZZIT,ZZIX,ZZI,ZZIP,ZZIET,ZZIEX,ZZIE,ZZIEP,ZZAT"),
    (0xA2D9, "ZZAX,ZZA,ZZAP,ZZOX,ZZO,ZZOP,ZZEX,ZZE,ZZEP,ZZUX,ZZU,ZZUP,ZZURX,ZZUR,ZZYT,ZZYX"),
    (0xA2E9, "ZZY,ZZYP,ZZYRX,ZZYR,NZIT,NZIX,NZI,NZIP,NZIEX,NZIE,NZIEP,NZAT,NZAX,NZA,NZAP"),
    (0xA2F8, "NZUOX,NZUO,NZOX,NZOP,NZEX,NZE,NZUX,NZU,NZUP,NZURX,NZUR,NZYT,NZYX,NZY,NZYP"),
    (0xA307, "NZYRX,NZYR,SIT,SIX,SI,SIP,SIEX,SIE,SIEP,SAT,SAX,SA,SAP,SUOX,SUO,SUOP,SOT,SOX"),
    (0xA319, "SO,SOP,SEX,SE,SEP,SUT,SUX,SU,SUP,SURX,SUR,SYT,SYX,SY,SYP,SYRX,SYR,SSIT,SSIX"),
    (0xA32C, "SSI,SSIP,SSIEX,SSIE,SSIEP,SSAT,SSAX,SSA,SSAP,SSOT,SSOX,SSO,SSOP,SSEX,SSE,SSEP"),
    (0xA33C, "SSUT,SSUX,SSU,SSUP,SSYT,SSYX,SSY,SSYP,SSYRX,SSYR,ZHAT,ZHAX,ZHA,ZHAP,ZHUOX"),
    (0xA34B, "ZHUO,ZHUOP,ZHOT,ZHOX,ZHO,ZHOP,ZHET,ZHEX,ZHE,ZHEP,ZHUT,ZHUX,ZHU,ZHUP,ZHURX"),
    (0xA35A, "ZHUR,ZHYT,ZHYX,ZHY,ZHYP,ZHYRX,ZHYR,CHAT,CHAX,CHA,CHAP,CHUOT,CHUOX,CHUO,CHUOP"),
    (0xA369, "CHOT,CHOX,CHO,CHOP,CHET,CHEX,CHE,CHEP,CHUX,CHU,CHUP,CHURX,CHUR,CHYT,CHYX,CHY"),
    (0xA379, "CHYP,CHYRX,CHYR,RRAX,RRA,RRUOX,RRUO,RROT,RROX,RRO,RROP,RRET,RREX,RRE,RREP"),
    (0xA388, "RRUT,RRUX,RRU,RRUP,RRURX,RRUR,RRYT,RRYX,RRY,RRYP,RRYRX,RRYR,NRAT,NRAX,NRA"),
    (0xA397, "NRAP,NROX,NRO,NROP,NRET,NREX,NRE,NREP,NRUT,NRUX,NRU,NRUP,NRURX,NRUR,NRYT,NRYX"),
    (0xA3A7, "NRY,NRYP,NRYRX,NRYR,SHAT,SHAX,SHA,SHAP,SHUOX,SHUO,SHUOP,SHOT,SHOX,SHO,SHOP"),
    (0xA3B6, "SHET,SHEX,SHE,SHEP,SHUT,SHUX,SHU,SHUP,SHURX,SHUR,SHYT,SHYX,SHY,SHYP,SHYRX"),
    (0xA3C5, "SHYR,RAT,RAX,RA,RAP,RUOX,RUO,RUOP,ROT,ROX,RO,ROP,REX,RE,REP,RUT,RUX,RU,RUP"),
    (0xA3D8, "RURX,RUR,RYT,RYX,RY,RYP,RYRX,RYR,JIT,JIX,JI,JIP,JIET,JIEX,JIE,JIEP,JUOT,JUOX"),
    (0xA3EA, "JUO,JUOP,JOT,JOX,JO,JOP,JUT,JUX,JU,JUP,JURX,JUR,JYT,JYX,JY,JYP,JYRX,JYR,QIT"),
    (0xA3FD, "QIX,QI,QIP,QIET,QIEX,QIE,QIEP,QUOT,QUOX,QUO,QUOP,QOT,QOX,QO,QOP,QUT,QUX,QU"),
    (0xA40F, "QUP,QURX,QUR,QYT,QYX,QY,QYP,QYRX,QYR,JJIT,JJIX,JJI,JJIP,JJIET,JJIEX,JJIE"),
    (0xA41F, "JJIEP,JJUOX,JJUO,JJUOP,JJOT,JJOX,JJO,JJOP,JJUT,JJUX,JJU,JJUP,JJURX,JJUR,JJYT"),
    (0xA42E, "JJYX,JJY,JJYP,NJIT,NJIX,NJI,NJIP,NJIET,NJIEX,NJIE,NJIEP,NJUOX,NJUO,NJOT,NJOX"),
    (0xA43D, "NJO,NJOP,NJUX,NJU,NJUP,NJURX,NJUR,NJYT,NJYX,NJY,NJYP,NJYRX,NJYR,NYIT,NYIX,NYI"),
    (0xA44D, "NYIP,NYIET,NYIEX,NYIE,NYIEP,NYUOX,NYUO,NYUOP,NYOT,NYOX,NYO,NYOP,NYUT,NYUX,NYU"),
    (0xA45C, "NYUP,XIT,XIX,XI,XIP,XIET,XIEX,XIE,XIEP,XUOX,XUO,XOT,XOX,XO,XOP,XYT,XYX,XY,XYP"),
    (0xA46F, "XYRX,XYR,YIT,YIX,YI,YIP,YIET,YIEX,YIE,YIEP,YUOT,YUOX,YUO,YUOP,YOT,YOX,YO,YOP"),
    (0xA481, "YUT,YUX,YU,YUP,YURX,YUR,YYT,YYX,YY,YYP,YYRX,YYR")]⟩,
  ⟨"YI RADICAL ",
    [(0xA490, "QOT,LI,KIT,NYIP,CYP,SSI,GGOP,GEP,MI,HXIT,LYR,BBUT,MOP,YO,PUT,HXUO,TAT,GA,ZUP"),
    (0xA4A3, "CYT,DDUR,BUR,GGUO,NYOP,TU,OP,JJUT,ZOT,PYT,HMO,YIT,VUR,SHY,VEP,ZA,JO,NZUP,JJY"),
    (0xA4B6, "GOT,JJIE,WO,DU,SHUR,LIE,CY,CUOP,CIP,HXOP,SHAT,ZUR,SHOP,CHE,ZZIET,NBIE,KE")]⟩,
  ⟨"LISU LETTER ",
    [(0xA4D0, "BA,PA,PHA,DA,TA,THA,GA,KA,KHA,JA,CA,CHA,DZA,TSA,TSHA,MA,NA,LA,SA,ZHA,ZA,NGA"),
    (0xA4E6, "HA,XA,HHA,FA,WA,SHA,YA,GHA,A,AE,E,EU,I,O,U,UE,UH,OE,TONE MYA TI,TONE NA PO"),
    (0xA4FA, "TONE MYA CYA,TONE MYA BO,TONE MYA NA,TONE MYA JEU"), (0x11FB0, "YHA")]⟩,
  ⟨"FULLWIDTH ", [(0xFF01, "EXCLAMATION MARK,QUOTATION MARK,NUMBER SIGN,DOLLAR SIGN,PERCENT SIGN"),
    (0xFF06, "AMPERSAND,APOSTROPHE,LEFT PARENTHESIS,RIGHT PARENTHESIS,ASTERISK,PLUS SIGN"),
    (0xFF0C, "COMMA,HYPHEN-MINUS,FULL STOP,SOLIDUS,DIGIT ZERO,DIGIT ONE,DIGIT TWO"),
    (0xFF13, "DIGIT THREE,DIGIT FOUR,DIGIT FIVE,DIGIT SIX,DIGIT SEVEN,DIGIT EIGHT"),
    (0xFF19, "DIGIT NINE,COLON,SEMICOLON,LESS-THAN SIGN,EQUALS SIGN,GREATER-THAN SIGN"),
    (0xFF1F, "QUESTION MARK,COMMERCIAL AT"),
    (0xFF3B, "LEFT SQUARE BRACKET,REVERSE SOLIDUS,RIGHT SQUARE BRACKET,CIRCUMFLEX ACCENT"),
    (0xFF3F, "LOW LINE,GRAVE ACCENT"),
    (0xFF5B, "LEFT CURLY BRACKET,VERTICAL LINE,RIGHT CURLY BRACKET,TILDE"),
    (0xFF5F, "LEFT WHITE PARENTHESIS,RIGHT WHITE PARENTHESIS"),
    (0xFFE0, "CENT SIGN,POUND SIGN,NOT SIGN,MACRON,BROKEN BAR,YEN SIGN,WON SIGN")]⟩,
  ⟨"FULLWIDTH LATIN CAPITAL LETTER ",
    [(0xFF21, "A,B,C,D,E,F,G,H,I,J,K,L,M,N,O,P,Q,R,S,T,U,V,W,X,Y,Z")]⟩,
  ⟨"FULLWIDTH LATIN SMALL LETTER ",
    [(0xFF41, "A,B,C,D,E,F,G,H,I,J,K,L,M,N,O,P,Q,R,S,T,U,V,W,X,Y,Z")]⟩,
  ⟨"HALFWIDTH ", [(0xFF61, "IDEOGRAPHIC FULL STOP,LEFT CORNER BRACKET,RIGHT CORNER BRACKET"),
    (0xFF64, "IDEOGRAPHIC COMMA,KATAKANA MIDDLE DOT"),
    (0xFF70, "KATAKANA-HIRAGANA PROLONGED SOUND MARK"),
    (0xFF9E, "KATAKANA VOICED SOUND MARK,KATAKANA SEMI-VOICED SOUND MARK,HANGUL FILLER"),
    (0xFFE8, "FORMS LIGHT VERTICAL,LEFTWARDS ARROW,UPWARDS ARROW,RIGHTWARDS ARROW"),
    (0xFFEC, "DOWNWARDS ARROW,BLACK SQUARE,WHITE CIRCLE")]⟩,
  ⟨"HALFWIDTH KATAKANA LETTER ",
    [(0xFF66, "WO,SMALL A,SMALL I,SMALL U,SMALL E,SMALL O,SMALL YA,SMALL YU,SMALL YO"),
    (0xFF6F, "SMALL TU,,A,I,U,E,O,KA,KI,KU,KE,KO,SA,SI,SU,SE,SO,TA,TI,TU,TE,TO,NA,NI,NU,NE"),
    (0xFF89, "NO,HA,HI,HU,HE,HO,MA,MI,MU,ME,MO,YA,YU,YO,RA,RI,RU,RE,RO,WA,N")]⟩,
  ⟨"HALFWIDTH HANGUL LETTER ",
    [(0xFFA1, "KIYEOK,SSANGKIYEOK,KIYEOK-SIOS,NIEUN,NIEUN-CIEUC,NIEUN-HIEUH,TIKEUT"),
    (0xFFA8, "SSANGTIKEUT,RIEUL,RIEUL-KIYEOK,RIEUL-MIEUM,RIEUL-PIEUP,RIEUL-SIOS"),
    (0xFFAE, "RIEUL-THIEUTH,RIEUL-PHIEUPH,RIEUL-HIEUH,MIEUM,PIEUP,SSANGPIEUP,PIEUP-SIOS"),
    (0xFFB5, "SIOS,SSANGSIOS,IEUNG,CIEUC,SSANGCIEUC,CHIEUCH,KHIEUKH,THIEUTH,PHIEUPH,HIEUH"),
    (0xFFC2, "A,AE,YA,YAE,EO,E,,,YEO,YE,O,WA,WAE,OE,,,YO,U,WEO,WE,WI,YU,,,EU,YI,I")]⟩,
  ⟨"INTERLINEAR ANNOTATION ", [(0xFFF9, "ANCHOR,SEPARATOR,TERMINATOR")]⟩,
  ⟨"MIAO LETTER ",
    [(0x16F00, "PA,BA,YI PA,PLA,MA,MHA,ARCHAIC MA,FA,VA,VFA,TA,DA,YI TTA,YI TA,TTA,DDA,NA,NHA"),
    (0x16F12, "YI NNA,ARCHAIC NA,NNA,NNHA,LA,LYA,LHA,LHYA,TLHA,DLHA,TLHYA,DLHYA,KA,GA,YI KA"),
    (0x16F21, "QA,QGA,NGA,NGHA,ARCHAIC NGA,HA,XA,GHA,GHHA,TSSA,DZZA,NYA,NYHA,TSHA,DZHA"),
    (0x16F30, "YI TSHA,YI DZHA,REFORMED TSHA,SHA,SSA,ZHA,ZSHA,TSA,DZA,YI TSA,SA,ZA,ZSA,ZZA"),
    (0x16F3E, "ZZSA,ARCHAIC ZZA,ZZYA,ZZSYA,WA,AH,HHA,BRI,SYI,DZYI,TE,TSE,RTE"),
    (0x16F50, "NASALIZATION"),
    (0x16F93, "TONE-2,TONE-3,TONE-4,TONE-5,TONE-6,TONE-7,TONE-8,REFORMED TONE-1"),
    (0x16F9B, "REFORMED TONE-2,REFORMED TONE-4,REFORMED TONE-5,REFORMED TONE-6"),
    (0x16F9F, "REFORMED TONE-8")]⟩,
  ⟨"MIAO ", [(0x16F4F, "SIGN CONSONANT MODIFIER BAR,,SIGN ASPIRATION,SIGN REFORMED VOICING"),
    (0x16F53, "SIGN REFORMED ASPIRATION"),
    (0x16F8F, "TONE RIGHT,TONE TOP RIGHT,TONE ABOVE,TONE BELOW")]⟩,
  ⟨"MIAO VOWEL SIGN ",
    [(0x16F54, "A,AA,AHH,AN,ANG,O,OO,WO,W,E,EN,ENG,OEY,I,IA,IAN,IANG,IO,IE,II,IU,ING,U,UA,UAN"),
    (0x16F6D, "UANG,UU,UEI,UNG,Y,YI,AE,AEE,ERR,ROUNDED ERR,ER,ROUNDED ER,AI,EI,AU,OU,N,NG"),
    (0x16F7F, "UOG,YUI,OG,OER,VW,IG,EA,IONG,UI")]⟩,
  ⟨"TANGUT COMPONENT-",
    [(0x18800, "001,002,003,004,005,006,007,008,009,010,011,012,013,014,015,016,017,018,019"),
    (0x18813, "020,021,022,023,024,025,026,027,028,029,030,031,032,033,034,035,036,037,038"),
    (0x18826, "039,040,041,042,043,044,045,046,047,048,049,050,051,052,053,054,055,056,057"),
    (0x18839, "058,059,060,061,062,063,064,065,066,067,068,069,070,071,072,073,074,075,076"),
    (0x1884C, "077,078,079,080,081,082,083,084,085,086,087,088,089,090,091,092,093,094,095"),
    (0x1885F, "096,097,098,099,100,101,102,103,104,105,106,107,108,109,110,111,112,113,114"),
    (0x18872, "115,116,117,118,119,120,121,122,123,124,125,126,127,128,129,130,131,132,133"),
    (0x18885, "134,135,136,137,138,139,140,141,142,143,144,145,146,147,148,149,150,151,152"),
    (0x18898, "153,154,155,156,157,158,159,160,161,162,163,164,165,166,167,168,169,170,171"),
    (0x188AB, "172,173,174,175,176,177,178,179,180,181,182,183,184,185,186,187,188,189,190"),
    (0x188BE, "191,192,193,194,195,196,197,198,199,200,201,202,203,204,205,206,207,208,209"),
    (0x188D1, "210,211,212,213,214,215,216,217,218,219,220,221,222,223,224,225,226,227,228"),
    (0x188E4, "229,230,231,232,233,234,235,236,237,238,239,240,241,242,243,244,245,246,247"),
    (0x188F7, "248,249,250,251,252,253,254,255,256,257,258,259,260,261,262,263,264,265,266"),
    (0x1890A, "267,268,269,270,271,272,273,274,275,276,277,278,279,280,281,282,283,284,285"),
    (0x1891D, "286,287,288,289,290,291,292,293,294,295,296,297,298,299,300,301,302,303,304"),
    (0x18930, "305,306,307,308,309,310,311,312,313,314,315,316,317,318,319,320,321,322,323"),
    (0x18943, "324,325,326,327,328,329,330,331,332,333,334,335,336,337,338,339,340,341,342"),
    (0x18956, "343,344,345,346,347,348,349,350,351,352,353,354,355,356,357,358,359,360,361"),
    (0x18969, "362,363,364,365,366,367,368,369,370,371,372,373,374,375,376,377,378,379,380"),
    (0x1897C, "381,382,383,384,385,386,387,388,389,390,391,392,393,394,395,396,397,398,399"),
    (0x1898F, "400,401,402,403,404,405,406,407,408,409,410,411,412,413,414,415,416,417,418"),
    (0x189A2, "419,420,421,422,423,424,425,426,427,428,429,430,431,432,433,434,435,436,437"),
    (0x189B5, "438,439,440,441,442,443,444,445,446,447,448,449,450,451,452,453,454,455,456"),
    (0x189C8, "457,458,459,460,461,462,463,464,465,466,467,468,469,470,471,472,473,474,475"),
    (0x189DB, "476,477,478,479,480,481,482,483,484,485,486,487,488,489,490,491,492,493,494"),
    (0x189EE, "495,496,497,498,499,500,501,502,503,504,505,506,507,508,509,510,511,512,513"),
    (0x18A01, "514,515,516,517,518,519,520,521,522,523,524,525,526,527,528,529,530,531,532"),
    (0x18A14, "533,534,535,536,537,538,539,540,541,542,543,544,545,546,547,548,549,550,551"),
    (0x18A27, "552,553,554,555,556,557,558,559,560,561,562,563,564,565,566,567,568,569,570"),
    (0x18A3A, "571,572,573,574,575,576,577,578,579,580,581,582,583,584,585,586,587,588,589"),
    (0x18A4D, "590,591,592,593,594,595,596,597,598,599,600,601,602,603,604,605,606,607,608"),
    (0x18A60, "609,610,611,612,613,614,615,616,617,618,619,620,621,622,623,624,625,626,627"),
    (0x18A73, "628,629,630,631,632,633,634,635,636,637,638,639,640,641,642,643,644,645,646"),
    (0x18A86, "647,648,649,650,651,652,653,654,655,656,657,658,659,660,661,662,663,664,665"),
    (0x18A99, "666,667,668,669,670,671,672,673,674,675,676,677,678,679,680,681,682,683,684"),
    (0x18AAC, "685,686,687,688,689,690,691,692,693,694,695,696,697,698,699,700,701,702,703"),
    (0x18ABF, "704,705,706,707,708,709,710,711,712,713,714,715,716,717,718,719,720,721,722"),
    (0x18AD2, "723,724,725,726,727,728,729,730,731,732,733,734,735,736,737,738,739,740,741"),
    (0x18AE5, "742,743,744,745,746,747,748,749,750,751,752,753,754,755,756,757,758,759,760"),
    (0x18AF8, "761,762,763,764,765,766,767,768")]⟩,
  ⟨"KATAKANA LETTER MINNAN ",
    [(0x1AFF0, "TONE-2,TONE-3,TONE-4,TONE-5,,TONE-7,TONE-8,NASALIZED TONE-1,NASALIZED TONE-2"),
    (0x1AFF9, "NASALIZED TONE-3,NASALIZED TONE-4,NASALIZED TONE-5,,NASALIZED TONE-7"),
    (0x1AFFE, "NASALIZED TONE-8")]⟩,
  ⟨"HENTAIGANA LETTER ",
    [(0x1B002, "A-1,A-2,A-3,A-WO,I-1,I-2,I-3,I-4,U-1,U-2,U-3,U-4,U-5,E-2,E-3,E-4,E-5,E-6,O-1"),
    (0x1B015, "O-2,O-3,KA-1,KA-2,KA-3,KA-4,KA-5,KA-6,KA-7,KA-8,KA-9,KA-10,KA-11,KA-KE,KI-1"),
    (0x1B024, "KI-2,KI-3,KI-4,KI-5,KI-6,KI-7,KI-8,KU-1,KU-2,KU-3,KU-4,KU-5,KU-6,KU-7,KE-1"),
    (0x1B033, "KE-2,KE-3,KE-4,KE-5,KE-6,KO-1,KO-2,KO-3,KO-KI,SA-1,SA-2,SA-3,SA-4,SA-5,SA-6"),
    (0x1B042, "SA-7,SA-8,SI-1,SI-2,SI-3,SI-4,SI-5,SI-6,SU-1,SU-2,SU-3,SU-4,SU-5,SU-6,SU-7"),
    (0x1B051, "SU-8,SE-1,SE-2,SE-3,SE-4,SE-5,SO-1,SO-2,SO-3,SO-4,SO-5,SO-6,SO-7,TA-1,TA-2"),
    (0x1B060, "TA-3,TA-4,TI-1,TI-2,TI-3,TI-4,TI-5,TI-6,TI-7,TU-1,TU-2,TU-3,TU-4,TU-TO,TE-1"),
    (0x1B06F, "TE-2,TE-3,TE-4,TE-5,TE-6,TE-7,TE-8,TE-9,TO-1,TO-2,TO-3,TO-4,TO-5,TO-6,TO-RA"),
    (0x1B07E, "NA-1,NA-2,NA-3,NA-4,NA-5,NA-6,NA-7,NA-8,NA-9,NI-1,NI-2,NI-3,NI-4,NI-5,NI-6"),
    (0x1B08D, "NI-7,NI-TE,NU-1,NU-2,NU-3,NE-1,NE-2,NE-3,NE-4,NE-5,NE-6,NE-KO,NO-1,NO-2,NO-3"),
    (0x1B09C, "NO-4,NO-5,HA-1,HA-2,HA-3,HA-4,HA-5,HA-6,HA-7,HA-8,HA-9,HA-10,HA-11,HI-1,HI-2"),
    (0x1B0AB, "HI-3,HI-4,HI-5,HI-6,HI-7,HU-1,HU-2,HU-3,HE-1,HE-2,HE-3,HE-4,HE-5,HE-6,HE-7"),
    (0x1B0BA, "HO-1,HO-2,HO-3,HO-4,HO-5,HO-6,HO-7,HO-8,MA-1,MA-2,MA-3,MA-4,MA-5,MA-6,MA-7"),
    (0x1B0C9, "MI-1,MI-2,MI-3,MI-4,MI-5,MI-6,MI-7,MU-1,MU-2,MU-3,MU-4,ME-1,ME-2,ME-MA,MO-1"),
    (0x1B0D8, "MO-2,MO-3,MO-4,MO-5,MO-6,YA-1,YA-2,YA-3,YA-4,YA-5,YA-YO,YU-1,YU-2,YU-3,YU-4"),
    (0x1B0E7, "YO-1,YO-2,YO-3,YO-4,YO-5,YO-6,RA-1,RA-2,RA-3,RA-4,RI-1,RI-2,RI-3,RI-4,RI-5"),
    (0x1B0F6, "RI-6,RI-7,RU-1,RU-2,RU-3,RU-4,RU-5,RU-6,RE-1,RE-2,RE-3,RE-4,RO-1,RO-2,RO-3"),
    (0x1B105, "RO-4,RO-5,RO-6,WA-1,WA-2,WA-3,WA-4,WA-5,WI-1,WI-2,WI-3,WI-4,WI-5,WE-1,WE-2"),
    (0x1B114, "WE-3,WE-4,WO-1,WO-2,WO-3,WO-4,WO-5,WO-6,WO-7,N-MU-MO-1,N-MU-MO-2")]⟩]

end RecordSearch.Text
