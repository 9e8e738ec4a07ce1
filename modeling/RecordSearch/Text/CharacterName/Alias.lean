import RecordSearch.Text.CharacterName.Family

namespace RecordSearch.Text

/-!
# Names of characters: further names

Names of control characters, which have no others, and further names of other characters.
-/

/-- Further names of characters. -/
def aliasNames : List NameFamily := [
  ⟨"", [(0x0, "NUL"), (0x0, "NULL,SOH"), (0x1, "START OF HEADING,START OF TEXT"),
    (0x2, "STX,END OF TEXT"), (0x3, "ETX,END OF TRANSMISSION"), (0x4, "EOT,ENQ"),
    (0x5, "ENQUIRY,ACK"), (0x6, "ACKNOWLEDGE,ALERT"), (0x7, "BEL,BACKSPACE"),
    (0x8, "BS,CHARACTER TABULATION"), (0x9, "HORIZONTAL TABULATION"), (0x9, "HT"),
    (0x9, "TAB,END OF LINE"), (0xA, "EOL"), (0xA, "LF"), (0xA, "LINE FEED"), (0xA, "NEW LINE"),
    (0xA, "NL,LINE TABULATION"), (0xB, "VERTICAL TABULATION"), (0xB, "VT,FF"),
    (0xC, "FORM FEED,CARRIAGE RETURN"), (0xD, "CR,LOCKING-SHIFT ONE"), (0xE, "SHIFT OUT"),
    (0xE, "SO,LOCKING-SHIFT ZERO"), (0xF, "SHIFT IN"), (0xF, "SI,DATA LINK ESCAPE"),
    (0x10, "DLE,DC1"), (0x11, "DEVICE CONTROL ONE,DC2"), (0x12, "DEVICE CONTROL TWO,DC3"),
    (0x13, "DEVICE CONTROL THREE,DC4"), (0x14, "DEVICE CONTROL FOUR,NAK"),
    (0x15, "NEGATIVE ACKNOWLEDGE,SYN"), (0x16, "SYNCHRONOUS IDLE,END OF TRANSMISSION BLOCK"),
    (0x17, "ETB,CAN"), (0x18, "CANCEL,END OF MEDIUM"), (0x19, "EOM,SUB"), (0x1A, "SUBSTITUTE,ESC"),
    (0x1B, "ESCAPE,FILE SEPARATOR"), (0x1C, "FS"),
    (0x1C, "INFORMATION SEPARATOR FOUR,GROUP SEPARATOR"), (0x1D, "GS"),
    (0x1D, "INFORMATION SEPARATOR THREE,INFORMATION SEPARATOR TWO"), (0x1E, "RECORD SEPARATOR"),
    (0x1E, "RS,INFORMATION SEPARATOR ONE"), (0x1F, "UNIT SEPARATOR"), (0x1F, "US,SP"),
    (0x7F, "DEL"), (0x7F, "DELETE,PAD"), (0x80, "PADDING CHARACTER,HIGH OCTET PRESET"),
    (0x81, "HOP,BPH"), (0x82, "BREAK PERMITTED HERE,NBH"), (0x83, "NO BREAK HERE,IND"),
    (0x84, "INDEX,NEL"), (0x85, "NEXT LINE,SSA"),
    (0x86, "START OF SELECTED AREA,END OF SELECTED AREA"), (0x87, "ESA,CHARACTER TABULATION SET"),
    (0x88, "HORIZONTAL TABULATION SET"), (0x88, "HTS,CHARACTER TABULATION WITH JUSTIFICATION"),
    (0x89, "HORIZONTAL TABULATION WITH JUSTIFICATION"), (0x89, "HTJ,LINE TABULATION SET"),
    (0x8A, "VERTICAL TABULATION SET"), (0x8A, "VTS,PARTIAL LINE DOWN"),
    (0x8B, "PARTIAL LINE FORWARD"), (0x8B, "PLD,PARTIAL LINE BACKWARD"), (0x8C, "PARTIAL LINE UP"),
    (0x8C, "PLU,REVERSE INDEX"), (0x8D, "REVERSE LINE FEED"), (0x8D, "RI,SINGLE SHIFT TWO"),
    (0x8E, "SINGLE-SHIFT-2"), (0x8E, "SS2,SINGLE SHIFT THREE"), (0x8F, "SINGLE-SHIFT-3"),
    (0x8F, "SS3,DCS"), (0x90, "DEVICE CONTROL STRING,PRIVATE USE ONE"), (0x91, "PRIVATE USE-1"),
    (0x91, "PU1,PRIVATE USE TWO"), (0x92, "PRIVATE USE-2"), (0x92, "PU2,SET TRANSMIT STATE"),
    (0x93, "STS,CANCEL CHARACTER"), (0x94, "CCH,MESSAGE WAITING"), (0x95, "MW,SPA"),
    (0x96, "START OF GUARDED AREA"), (0x96, "START OF PROTECTED AREA,END OF GUARDED AREA"),
    (0x97, "END OF PROTECTED AREA"), (0x97, "EPA,SOS"), (0x98, "START OF STRING,SGC"),
    (0x99, "SINGLE GRAPHIC CHARACTER INTRODUCER,SCI"),
    (0x9A, "SINGLE CHARACTER INTRODUCER,CONTROL SEQUENCE INTRODUCER"), (0x9B, "CSI,ST"),
    (0x9C, "STRING TERMINATOR,OPERATING SYSTEM COMMAND"), (0x9D, "OSC,PM"),
    (0x9E, "PRIVACY MESSAGE,APC"), (0x9F, "APPLICATION PROGRAM COMMAND,NBSP"), (0xAD, "SHY"),
    (0x1A2, "LATIN CAPITAL LETTER GHA,LATIN SMALL LETTER GHA"), (0x34F, "CGJ"), (0x61C, "ALM"),
    (0x709, "SYRIAC SUBLINEAR COLON SKEWED LEFT"), (0xCDE, "KANNADA LETTER LLLA"),
    (0xE9D, "LAO LETTER FO FON,,LAO LETTER FO FAY,,,,LAO LETTER RO,,LAO LETTER LO"),
    (0xFD0, "TIBETAN MARK BKA- SHOG GI MGO RGYAN"),
    (0x11EC, "HANGUL JONGSEONG YESIEUNG-KIYEOK,HANGUL JONGSEONG YESIEUNG-SSANGKIYEOK"),
    (0x11EE, "HANGUL JONGSEONG SSANGYESIEUNG,HANGUL JONGSEONG YESIEUNG-KHIEUKH"), (0x180E, "MVS"),
    (0x200B, "ZWSP,ZWNJ,ZWJ,LRM,RLM"), (0x202A, "LRE,RLE,PDF,LRO,RLO,NNBSP"),
    (0x205F, "MMSP,WJ,,,,,,LRI,RLI,FSI,PDI"), (0x2118, "WEIERSTRASS ELLIPTIC FUNCTION"),
    (0x2448, "MICR ON US SYMBOL,MICR DASH SYMBOL"),
    (0x2B7A, "LEFTWARDS TRIANGLE-HEADED ARROW WITH DOUBLE VERTICAL STROKE"),
    (0x2B7C, "RIGHTWARDS TRIANGLE-HEADED ARROW WITH DOUBLE VERTICAL STROKE"),
    (0xA015, "YI SYLLABLE ITERATION MARK"), (0xAA6E, "MYANMAR LETTER KHAMTI LLA"),
    (0xFE18, "PRESENTATION FORM FOR VERTICAL RIGHT WHITE LENTICULAR BRACKET"), (0xFEFF, "BOM"),
    (0xFEFF, "BYTE ORDER MARK"), (0xFEFF, "ZWNBSP"),
    (0x122D4, "CUNEIFORM SIGN NU11 TENU,CUNEIFORM SIGN NU11 OVER NU11 BUR OVER BUR"),
    (0x16E56, "MEDEFAIDRIN CAPITAL LETTER H,MEDEFAIDRIN CAPITAL LETTER NG"),
    (0x16E76, "MEDEFAIDRIN SMALL LETTER H,MEDEFAIDRIN SMALL LETTER NG"),
    (0x1B001, "HENTAIGANA LETTER E-1"),
    (0x1D0C5, "BYZANTINE MUSICAL SYMBOL FTHORA SKLIRON CHROMA VASIS")]⟩,
  ⟨"FVS", [(0x180B, "1,2,3,,4")]⟩,
  ⟨"VS", [(0xFE00, "1,2,3,4,5,6,7,8,9,10,11,12,13,14,15,16"),
    (0xE0100, "17,18,19,20,21,22,23,24,25,26,27,28,29,30,31,32,33,34,35,36,37,38,39,40,41,42"),
    (0xE011A, "43,44,45,46,47,48,49,50,51,52,53,54,55,56,57,58,59,60,61,62,63,64,65,66,67,68"),
    (0xE0134, "69,70,71,72,73,74,75,76,77,78,79,80,81,82,83,84,85,86,87,88,89,90,91,92,93,94"),
    (0xE014E, "95,96,97,98,99,100,101,102,103,104,105,106,107,108,109,110,111,112,113,114"),
    (0xE0162, "115,116,117,118,119,120,121,122,123,124,125,126,127,128,129,130,131,132,133"),
    (0xE0175, "134,135,136,137,138,139,140,141,142,143,144,145,146,147,148,149,150,151,152"),
    (0xE0188, "153,154,155,156,157,158,159,160,161,162,163,164,165,166,167,168,169,170,171"),
    (0xE019B, "172,173,174,175,176,177,178,179,180,181,182,183,184,185,186,187,188,189,190"),
    (0xE01AE, "191,192,193,194,195,196,197,198,199,200,201,202,203,204,205,206,207,208,209"),
    (0xE01C1, "210,211,212,213,214,215,216,217,218,219,220,221,222,223,224,225,226,227,228"),
    (0xE01D4, "229,230,231,232,233,234,235,236,237,238,239,240,241,242,243,244,245,246,247"),
    (0xE01E7, "248,249,250,251,252,253,254,255,256")]⟩]

end RecordSearch.Text
