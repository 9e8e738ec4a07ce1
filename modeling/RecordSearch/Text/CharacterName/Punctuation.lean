import RecordSearch.Text.CharacterName.Family

namespace RecordSearch.Text

/-!
# Names of characters: punctuation and enclosed characters

Punctuation marks, spaces, forms of letters and numbers, and characters in frames.
-/

/-- The names of punctuation marks and enclosed characters. -/
def punctuationNames : List NameFamily := [
  ⟨"", [(0x20, "SPACE,EXCLAMATION MARK,QUOTATION MARK,,DOLLAR SIGN,PERCENT SIGN,AMPERSAND"),
    (0x27, "APOSTROPHE,LEFT PARENTHESIS,RIGHT PARENTHESIS,ASTERISK,PLUS SIGN,COMMA"),
    (0x2D, "HYPHEN-MINUS,FULL STOP,SOLIDUS"),
    (0x3A, "COLON,SEMICOLON,,EQUALS SIGN,,QUESTION MARK,COMMERCIAL AT"),
    (0x5B, "LEFT SQUARE BRACKET,REVERSE SOLIDUS,RIGHT SQUARE BRACKET,CIRCUMFLEX ACCENT"),
    (0x5F, "LOW LINE,GRAVE ACCENT"),
    (0x7B, "LEFT CURLY BRACKET,VERTICAL LINE,RIGHT CURLY BRACKET,TILDE"),
    (0xA0, "NO-BREAK SPACE,INVERTED EXCLAMATION MARK,CENT SIGN,POUND SIGN,CURRENCY SIGN"),
    (0xA5, "YEN SIGN,BROKEN BAR,SECTION SIGN,DIAERESIS,,FEMININE ORDINAL INDICATOR"),
    (0xAB, "LEFT-POINTING DOUBLE ANGLE QUOTATION MARK,NOT SIGN,SOFT HYPHEN"),
    (0xAE, "REGISTERED SIGN,MACRON,DEGREE SIGN,PLUS-MINUS SIGN,,,ACUTE ACCENT,MICRO SIGN"),
    (0xB6, "PILCROW SIGN,MIDDLE DOT,CEDILLA,,MASCULINE ORDINAL INDICATOR"),
    (0xBB, "RIGHT-POINTING DOUBLE ANGLE QUOTATION MARK,,,,INVERTED QUESTION MARK"),
    (0x2000, "EN QUAD,EM QUAD,EN SPACE,EM SPACE,THREE-PER-EM SPACE,FOUR-PER-EM SPACE"),
    (0x2006, "SIX-PER-EM SPACE,FIGURE SPACE,PUNCTUATION SPACE,THIN SPACE,HAIR SPACE"),
    (0x200E, "LEFT-TO-RIGHT MARK,RIGHT-TO-LEFT MARK,HYPHEN,NON-BREAKING HYPHEN,FIGURE DASH"),
    (0x2013, "EN DASH,EM DASH,,DOUBLE VERTICAL LINE,DOUBLE LOW LINE"),
    (0x2018, "LEFT SINGLE QUOTATION MARK,RIGHT SINGLE QUOTATION MARK"),
    (0x201C, "LEFT DOUBLE QUOTATION MARK,RIGHT DOUBLE QUOTATION MARK"),
    (0x201E, "DOUBLE LOW-9 QUOTATION MARK,DOUBLE HIGH-REVERSED-9 QUOTATION MARK,DAGGER"),
    (0x2021, "DOUBLE DAGGER,BULLET,TRIANGULAR BULLET,ONE DOT LEADER,TWO DOT LEADER"),
    (0x2027, "HYPHENATION POINT,LINE SEPARATOR,PARAGRAPH SEPARATOR,LEFT-TO-RIGHT EMBEDDING"),
    (0x202B, "RIGHT-TO-LEFT EMBEDDING,POP DIRECTIONAL FORMATTING,LEFT-TO-RIGHT OVERRIDE"),
    (0x202E, "RIGHT-TO-LEFT OVERRIDE,NARROW NO-BREAK SPACE,PER MILLE SIGN"),
    (0x2031, "PER TEN THOUSAND SIGN,PRIME,DOUBLE PRIME,TRIPLE PRIME,REVERSED PRIME"),
    (0x2036, "REVERSED DOUBLE PRIME,REVERSED TRIPLE PRIME,CARET,,,REFERENCE MARK"),
    (0x203C, "DOUBLE EXCLAMATION MARK,INTERROBANG,OVERLINE,UNDERTIE,CHARACTER TIE"),
    (0x2041, "CARET INSERTION POINT,ASTERISM,HYPHEN BULLET,FRACTION SLASH"),
    (0x2047, "DOUBLE QUESTION MARK,QUESTION EXCLAMATION MARK,EXCLAMATION QUESTION MARK"),
    (0x204A, "TIRONIAN SIGN ET,REVERSED PILCROW SIGN,BLACK LEFTWARDS BULLET"),
    (0x204D, "BLACK RIGHTWARDS BULLET,LOW ASTERISK,REVERSED SEMICOLON,CLOSE UP"),
    (0x2051, "TWO ASTERISKS ALIGNED VERTICALLY,COMMERCIAL MINUS SIGN,SWUNG DASH"),
    (0x2054, "INVERTED UNDERTIE,FLOWER PUNCTUATION MARK,THREE DOT PUNCTUATION"),
    (0x2057, "QUADRUPLE PRIME,FOUR DOT PUNCTUATION,FIVE DOT PUNCTUATION,TWO DOT PUNCTUATION"),
    (0x205B, "FOUR DOT MARK,DOTTED CROSS,TRICOLON,VERTICAL FOUR DOTS"),
    (0x205F, "MEDIUM MATHEMATICAL SPACE,WORD JOINER,FUNCTION APPLICATION,INVISIBLE TIMES"),
    (0x2063, "INVISIBLE SEPARATOR,INVISIBLE PLUS,,LEFT-TO-RIGHT ISOLATE"),
    (0x2067, "RIGHT-TO-LEFT ISOLATE,FIRST STRONG ISOLATE,POP DIRECTIONAL ISOLATE"),
    (0x206A, "INHIBIT SYMMETRIC SWAPPING,ACTIVATE SYMMETRIC SWAPPING"),
    (0x206C, "INHIBIT ARABIC FORM SHAPING,ACTIVATE ARABIC FORM SHAPING"),
    (0x206E, "NATIONAL DIGIT SHAPES,NOMINAL DIGIT SHAPES"),
    (0x20A0, "EURO-CURRENCY SIGN,COLON SIGN,CRUZEIRO SIGN,FRENCH FRANC SIGN,LIRA SIGN"),
    (0x20A5, "MILL SIGN,NAIRA SIGN,PESETA SIGN,RUPEE SIGN,WON SIGN,NEW SHEQEL SIGN"),
    (0x20AB, "DONG SIGN,EURO SIGN,KIP SIGN,TUGRIK SIGN,DRACHMA SIGN,GERMAN PENNY SIGN"),
    (0x20B1, "PESO SIGN,GUARANI SIGN,AUSTRAL SIGN,HRYVNIA SIGN,CEDI SIGN"),
    (0x20B6, "LIVRE TOURNOIS SIGN,SPESMILO SIGN,TENGE SIGN,INDIAN RUPEE SIGN"),
    (0x20BA, "TURKISH LIRA SIGN,NORDIC MARK SIGN,MANAT SIGN,RUBLE SIGN,LARI SIGN"),
    (0x20BF, "BITCOIN SIGN,SOM SIGN"),
    (0x2100, "ACCOUNT OF,ADDRESSED TO THE SUBJECT,,DEGREE CELSIUS,CENTRE LINE SYMBOL"),
    (0x2105, "CARE OF,CADA UNA,EULER CONSTANT,SCRUPLE,DEGREE FAHRENHEIT,,,,,PLANCK CONSTANT"),
    (0x210F, "PLANCK CONSTANT OVER TWO PI,,,,,L B BAR SYMBOL,,NUMERO SIGN"),
    (0x211E, "PRESCRIPTION TAKE,RESPONSE,SERVICE MARK,TELEPHONE SIGN,TRADE MARK SIGN"),
    (0x2123, "VERSICLE,,OUNCE SIGN,OHM SIGN,INVERTED OHM SIGN"),
    (0x2129, "TURNED GREEK SMALL LETTER IOTA,KELVIN SIGN,ANGSTROM SIGN,,,ESTIMATED SYMBOL"),
    (0x2132, "TURNED CAPITAL F,,,ALEF SYMBOL,BET SYMBOL,GIMEL SYMBOL,DALET SYMBOL"),
    (0x2139, "INFORMATION SOURCE,ROTATED CAPITAL Q,FACSIMILE SIGN"),
    (0x2141, "TURNED SANS-SERIF CAPITAL G,TURNED SANS-SERIF CAPITAL L"),
    (0x2143, "REVERSED SANS-SERIF CAPITAL L,TURNED SANS-SERIF CAPITAL Y,,,,,,PROPERTY LINE"),
    (0x214B, "TURNED AMPERSAND,PER SIGN,AKTIESELSKAB,TURNED SMALL F"),
    (0x215F, "FRACTION NUMERATOR ONE"), (0x218A, "TURNED DIGIT TWO,TURNED DIGIT THREE"),
    (0x2422, "BLANK SYMBOL,OPEN BOX"),
    (0x2E00, "RIGHT ANGLE SUBSTITUTION MARKER,RIGHT ANGLE DOTTED SUBSTITUTION MARKER"),
    (0x2E02, "LEFT SUBSTITUTION BRACKET,RIGHT SUBSTITUTION BRACKET"),
    (0x2E04, "LEFT DOTTED SUBSTITUTION BRACKET,RIGHT DOTTED SUBSTITUTION BRACKET"),
    (0x2E06, "RAISED INTERPOLATION MARKER,RAISED DOTTED INTERPOLATION MARKER"),
    (0x2E08, "DOTTED TRANSPOSITION MARKER,LEFT TRANSPOSITION BRACKET"),
    (0x2E0A, "RIGHT TRANSPOSITION BRACKET,RAISED SQUARE,LEFT RAISED OMISSION BRACKET"),
    (0x2E0D, "RIGHT RAISED OMISSION BRACKET,EDITORIAL CORONIS,PARAGRAPHOS"),
    (0x2E10, "FORKED PARAGRAPHOS,REVERSED FORKED PARAGRAPHOS,HYPODIASTOLE,DOTTED OBELOS"),
    (0x2E14, "DOWNWARDS ANCORA,UPWARDS ANCORA,DOTTED RIGHT-POINTING ANGLE"),
    (0x2E17, "DOUBLE OBLIQUE HYPHEN,INVERTED INTERROBANG,PALM BRANCH,HYPHEN WITH DIAERESIS"),
    (0x2E1B, "TILDE WITH RING ABOVE,LEFT LOW PARAPHRASE BRACKET"),
    (0x2E1D, "RIGHT LOW PARAPHRASE BRACKET,TILDE WITH DOT ABOVE,TILDE WITH DOT BELOW"),
    (0x2E20, "LEFT VERTICAL BAR WITH QUILL,RIGHT VERTICAL BAR WITH QUILL"),
    (0x2E22, "TOP LEFT HALF BRACKET,TOP RIGHT HALF BRACKET,BOTTOM LEFT HALF BRACKET"),
    (0x2E25, "BOTTOM RIGHT HALF BRACKET,LEFT SIDEWAYS U BRACKET,RIGHT SIDEWAYS U BRACKET"),
    (0x2E28, "LEFT DOUBLE PARENTHESIS,RIGHT DOUBLE PARENTHESIS"),
    (0x2E2A, "TWO DOTS OVER ONE DOT PUNCTUATION,ONE DOT OVER TWO DOTS PUNCTUATION"),
    (0x2E2D, "FIVE DOT MARK,REVERSED QUESTION MARK,VERTICAL TILDE,RING POINT"),
    (0x2E31, "WORD SEPARATOR MIDDLE DOT,TURNED COMMA,RAISED DOT,RAISED COMMA"),
    (0x2E35, "TURNED SEMICOLON,DAGGER WITH LEFT GUARD,DAGGER WITH RIGHT GUARD,TURNED DAGGER"),
    (0x2E39, "TOP HALF SECTION SIGN,TWO-EM DASH,THREE-EM DASH,STENOGRAPHIC FULL STOP"),
    (0x2E3D, "VERTICAL SIX DOTS,WIGGLY VERTICAL LINE,CAPITULUM,DOUBLE HYPHEN,REVERSED COMMA"),
    (0x2E42, "DOUBLE LOW-REVERSED-9 QUOTATION MARK,DASH WITH LEFT UPTURN"),
    (0x2E44, "DOUBLE SUSPENSION MARK,INVERTED LOW KAVYKA"),
    (0x2E46, "INVERTED LOW KAVYKA WITH KAVYKA ABOVE,LOW KAVYKA,LOW KAVYKA WITH DOT"),
    (0x2E49, "DOUBLE STACKED COMMA,DOTTED SOLIDUS,TRIPLE DAGGER,MEDIEVAL COMMA"),
    (0x2E4D, "PARAGRAPHUS MARK,PUNCTUS ELEVATUS MARK,CORNISH VERSE DIVIDER"),
    (0x2E50, "CROSS PATTY WITH RIGHT CROSSBAR,CROSS PATTY WITH LEFT CROSSBAR"),
    (0x2E52, "TIRONIAN SIGN CAPITAL ET,MEDIEVAL EXCLAMATION MARK,MEDIEVAL QUESTION MARK"),
    (0x2E59, "TOP HALF LEFT PARENTHESIS,TOP HALF RIGHT PARENTHESIS"),
    (0x2E5B, "BOTTOM HALF LEFT PARENTHESIS,BOTTOM HALF RIGHT PARENTHESIS,OBLIQUE HYPHEN"),
    (0xFE45, "SESAME DOT,WHITE SESAME DOT,,,DASHED OVERLINE,CENTRELINE OVERLINE"),
    (0xFE4B, "WAVY OVERLINE,DOUBLE WAVY OVERLINE,DASHED LOW LINE,CENTRELINE LOW LINE"),
    (0xFE4F, "WAVY LOW LINE"), (0x1F12A, "TORTOISE SHELL BRACKETED LATIN CAPITAL LETTER S"),
    (0x1F16A, "RAISED MC SIGN,RAISED MD SIGN,RAISED MR SIGN"),
    (0x1F18A, "CROSSED NEGATIVE SQUARED LATIN CAPITAL LETTER P"), (0x1F1AD, "MASK WORK SYMBOL")]⟩,
  ⟨"NUMBER ", [(0x23, "SIGN"),
    (0x2491, "TEN FULL STOP,ELEVEN FULL STOP,TWELVE FULL STOP,THIRTEEN FULL STOP"),
    (0x2495, "FOURTEEN FULL STOP,FIFTEEN FULL STOP,SIXTEEN FULL STOP,SEVENTEEN FULL STOP"),
    (0x2499, "EIGHTEEN FULL STOP,NINETEEN FULL STOP,TWENTY FULL STOP")]⟩,
  ⟨"DIGIT ", [(0x30, "ZERO,ONE,TWO,THREE,FOUR,FIVE,SIX,SEVEN,EIGHT,NINE"),
    (0x2488, "ONE FULL STOP,TWO FULL STOP,THREE FULL STOP,FOUR FULL STOP,FIVE FULL STOP"),
    (0x248D, "SIX FULL STOP,SEVEN FULL STOP,EIGHT FULL STOP,NINE FULL STOP"),
    (0x1F100, "ZERO FULL STOP,ZERO COMMA,ONE COMMA,TWO COMMA,THREE COMMA,FOUR COMMA"),
    (0x1F106, "FIVE COMMA,SIX COMMA,SEVEN COMMA,EIGHT COMMA,NINE COMMA")]⟩,
  ⟨"COPY", [(0xA9, "RIGHT SIGN"), (0x1F12F, "LEFT SYMBOL")]⟩,
  ⟨"SUPERSCRIPT ", [(0xB2, "TWO,THREE,,,,,,ONE"),
    (0x2070, "ZERO,LATIN SMALL LETTER I,,,FOUR,FIVE,SIX,SEVEN,EIGHT,NINE,PLUS SIGN,MINUS"),
    (0x207C, "EQUALS SIGN,LEFT PARENTHESIS,RIGHT PARENTHESIS,LATIN SMALL LETTER N")]⟩,
  ⟨"VULGAR FRACTION ", [(0xBC, "ONE QUARTER,ONE HALF,THREE QUARTERS"),
    (0x2150, "ONE SEVENTH,ONE NINTH,ONE TENTH,ONE THIRD,TWO THIRDS,ONE FIFTH,TWO FIFTHS"),
    (0x2157, "THREE FIFTHS,FOUR FIFTHS,ONE SIXTH,FIVE SIXTHS,ONE EIGHTH,THREE EIGHTHS"),
    (0x215D, "FIVE EIGHTHS,SEVEN EIGHTHS"), (0x2189, "ZERO THIRDS")]⟩,
  ⟨"SMALL ", [(0x2DC, "TILDE"), (0x220A, "ELEMENT OF,,,CONTAINS AS MEMBER"),
    (0x22F4, "ELEMENT OF WITH VERTICAL BAR AT END OF HORIZONTAL STROKE"),
    (0x22F7, "ELEMENT OF WITH OVERBAR"),
    (0x22FC, "CONTAINS WITH VERTICAL BAR AT END OF HORIZONTAL STROKE,,CONTAINS WITH OVERBAR"),
    (0x2A61, "VEE WITH UNDERBAR"),
    (0xFE50, "COMMA,IDEOGRAPHIC COMMA,FULL STOP,,SEMICOLON,COLON,QUESTION MARK"),
    (0xFE57, "EXCLAMATION MARK,EM DASH,LEFT PARENTHESIS,RIGHT PARENTHESIS"),
    (0xFE5B, "LEFT CURLY BRACKET,RIGHT CURLY BRACKET,LEFT TORTOISE SHELL BRACKET"),
    (0xFE5E, "RIGHT TORTOISE SHELL BRACKET,NUMBER SIGN,AMPERSAND,ASTERISK,PLUS SIGN"),
    (0xFE63, "HYPHEN-MINUS,LESS-THAN SIGN,GREATER-THAN SIGN,EQUALS SIGN,,REVERSE SOLIDUS"),
    (0xFE69, "DOLLAR SIGN,PERCENT SIGN,COMMERCIAL AT"),
    (0x10B3B, "TWO DOTS OVER ONE DOT PUNCTUATION"), (0x1F538, "ORANGE DIAMOND,BLUE DIAMOND"),
    (0x1F6E9, "AIRPLANE")]⟩,
  ⟨"LATIN SUBSCRIPT SMALL LETTER ", [(0x1D62, "I,R,U,V"), (0x2090, "A,E,O,X,SCHWA,H,K,L,M,N,P,S,T"),
    (0x2C7C, "J")]⟩,
  ⟨"ZERO WIDTH ", [(0x200B, "SPACE,NON-JOINER,JOINER"), (0xFEFF, "NO-BREAK SPACE")]⟩,
  ⟨"SINGLE ", [(0x201A, "LOW-9 QUOTATION MARK,HIGH-REVERSED-9 QUOTATION MARK"),
    (0x2039, "LEFT-POINTING ANGLE QUOTATION MARK,RIGHT-POINTING ANGLE QUOTATION MARK")]⟩,
  ⟨"SUBSCRIPT ",
    [(0x2080, "ZERO,ONE,TWO,THREE,FOUR,FIVE,SIX,SEVEN,EIGHT,NINE,PLUS SIGN,MINUS,EQUALS SIGN"),
    (0x208D, "LEFT PARENTHESIS,RIGHT PARENTHESIS")]⟩,
  ⟨"DOUBLE-STRUCK CAPITAL ", [(0x2102, "C"), (0x210D, "H,,,,,,,,N,,,,P,Q,,,R,,,,,,,Z"),
    (0x213E, "GAMMA,PI")]⟩,
  ⟨"SCRIPT ",
    [(0x210A, "SMALL G,CAPITAL H,,,,,CAPITAL I,,CAPITAL L,SMALL L,,,,,CAPITAL P,,,CAPITAL R"),
    (0x212C, "CAPITAL B,,,SMALL E,CAPITAL E,CAPITAL F,,CAPITAL M,SMALL O"),
    (0x1F670, "LIGATURE ET ORNAMENT")]⟩,
  ⟨"BLACK-LETTER CAPITAL ", [(0x210C, "H,,,,,I"), (0x211C, "R"), (0x2128, "Z,,,,,C")]⟩,
  ⟨"SOUND RECORDING COPY", [(0x2117, "RIGHT")]⟩,
  ⟨"DOUBLE-STRUCK ",
    [(0x213C, "SMALL PI,SMALL GAMMA,,,N-ARY SUMMATION,,,,,ITALIC CAPITAL D,ITALIC SMALL D"),
    (0x2147, "ITALIC SMALL E,ITALIC SMALL I,ITALIC SMALL J")]⟩,
  ⟨"SYMBOL FOR ", [(0x214F, "SAMARITAN SOURCE"),
    (0x2400, "NULL,START OF HEADING,START OF TEXT,END OF TEXT,END OF TRANSMISSION,ENQUIRY"),
    (0x2406, "ACKNOWLEDGE,BELL,BACKSPACE,HORIZONTAL TABULATION,LINE FEED"),
    (0x240B, "VERTICAL TABULATION,FORM FEED,CARRIAGE RETURN,SHIFT OUT,SHIFT IN"),
    (0x2410, "DATA LINK ESCAPE,DEVICE CONTROL ONE,DEVICE CONTROL TWO,DEVICE CONTROL THREE"),
    (0x2414, "DEVICE CONTROL FOUR,NEGATIVE ACKNOWLEDGE,SYNCHRONOUS IDLE"),
    (0x2417, "END OF TRANSMISSION BLOCK,CANCEL,END OF MEDIUM,SUBSTITUTE,ESCAPE"),
    (0x241C, "FILE SEPARATOR,GROUP SEPARATOR,RECORD SEPARATOR,UNIT SEPARATOR,SPACE,DELETE"),
    (0x2424, "NEWLINE,DELETE FORM TWO,SUBSTITUTE FORM TWO"), (0x2B97, "TYPE A ELECTRONICS"),
    (0x1F545, "MARKS CHAPTER")]⟩,
  ⟨"ROMAN NUMERAL ",
    [(0x2160, "ONE,TWO,THREE,FOUR,FIVE,SIX,SEVEN,EIGHT,NINE,TEN,ELEVEN,TWELVE,FIFTY"),
    (0x216D, "ONE HUNDRED,FIVE HUNDRED,ONE THOUSAND"),
    (0x2180, "ONE THOUSAND C D,FIVE THOUSAND,TEN THOUSAND,REVERSED ONE HUNDRED"),
    (0x2185, "SIX LATE FORM,FIFTY EARLY FORM,FIFTY THOUSAND,ONE HUNDRED THOUSAND")]⟩,
  ⟨"SMALL ROMAN NUMERAL ",
    [(0x2170, "ONE,TWO,THREE,FOUR,FIVE,SIX,SEVEN,EIGHT,NINE,TEN,ELEVEN,TWELVE,FIFTY"),
    (0x217D, "ONE HUNDRED,FIVE HUNDRED,ONE THOUSAND")]⟩,
  ⟨"SQUARED ", [(0x229E, "PLUS,MINUS,TIMES,DOT OPERATOR"), (0x26BF, "KEY"), (0x26DD, "SALTIRE"),
    (0x27CE, "LOGICAL AND,LOGICAL OR"),
    (0x29C4, "RISING DIAGONAL SLASH,FALLING DIAGONAL SLASH,ASTERISK,SMALL CIRCLE,SQUARE"),
    (0x2E2C, "FOUR DOT PUNCTUATION"), (0x1F14A, "HV,MV,SD,SS,PPV,WC"),
    (0x1F191, "CL,COOL,FREE,ID,NEW,NG,OK,SOS,UP WITH EXCLAMATION MARK,VS,THREE D"),
    (0x1F19C, "SECOND SCREEN,TWO K,FOUR K,EIGHT K,FIVE POINT ONE,SEVEN POINT ONE"),
    (0x1F1A2, "TWENTY-TWO POINT TWO,SIXTY P,ONE HUNDRED TWENTY P,LATIN SMALL LETTER D,HC,HDR"),
    (0x1F1A8, "HI-RES,LOSSLESS,SHV,UHD,VOD"), (0x1F201, "KATAKANA KOKO,KATAKANA SA"),
    (0x1F213, "KATAKANA DE")]⟩,
  ⟨"OCR ",
    [(0x2440, "HOOK,CHAIR,FORK,INVERTED FORK,BELT BUCKLE,BOW TIE,BRANCH BANK IDENTIFICATION"),
    (0x2447, "AMOUNT OF CHECK,DASH,CUSTOMER ACCOUNT NUMBER,DOUBLE BACKSLASH")]⟩,
  ⟨"CIRCLED DIGIT ", [(0x2460, "ONE,TWO,THREE,FOUR,FIVE,SIX,SEVEN,EIGHT,NINE"), (0x24EA, "ZERO")]⟩,
  ⟨"PARENTHESIZED DIGIT ", [(0x2474, "ONE,TWO,THREE,FOUR,FIVE,SIX,SEVEN,EIGHT,NINE")]⟩,
  ⟨"PARENTHESIZED NUMBER ",
    [(0x247D, "TEN,ELEVEN,TWELVE,THIRTEEN,FOURTEEN,FIFTEEN,SIXTEEN,SEVENTEEN,EIGHTEEN"),
    (0x2486, "NINETEEN,TWENTY")]⟩,
  ⟨"PARENTHESIZED LATIN SMALL LETTER ",
    [(0x249C, "A,B,C,D,E,F,G,H,I,J,K,L,M,N,O,P,Q,R,S,T,U,V,W,X,Y,Z")]⟩,
  ⟨"CIRCLED LATIN CAPITAL LETTER ",
    [(0x24B6, "A,B,C,D,E,F,G,H,I,J,K,L,M,N,O,P,Q,R,S,T,U,V,W,X,Y,Z")]⟩,
  ⟨"CIRCLED LATIN SMALL LETTER ",
    [(0x24D0, "A,B,C,D,E,F,G,H,I,J,K,L,M,N,O,P,Q,R,S,T,U,V,W,X,Y,Z")]⟩,
  ⟨"NEGATIVE CIRCLED NUMBER ",
    [(0x24EB, "ELEVEN,TWELVE,THIRTEEN,FOURTEEN,FIFTEEN,SIXTEEN,SEVENTEEN,EIGHTEEN,NINETEEN"),
    (0x24F4, "TWENTY")]⟩,
  ⟨"DOUBLE CIRCLED ",
    [(0x24F5, "DIGIT ONE,DIGIT TWO,DIGIT THREE,DIGIT FOUR,DIGIT FIVE,DIGIT SIX,DIGIT SEVEN"),
    (0x24FC, "DIGIT EIGHT,DIGIT NINE,NUMBER TEN")]⟩,
  ⟨"PRESENTATION FORM FOR VERTICAL ",
    [(0xFE10, "COMMA,IDEOGRAPHIC COMMA,IDEOGRAPHIC FULL STOP,COLON,SEMICOLON"),
    (0xFE15, "EXCLAMATION MARK,QUESTION MARK,LEFT WHITE LENTICULAR BRACKET"),
    (0xFE18, "RIGHT WHITE LENTICULAR BRAKCET,HORIZONTAL ELLIPSIS"),
    (0xFE30, "TWO DOT LEADER,EM DASH,EN DASH,LOW LINE,WAVY LOW LINE,LEFT PARENTHESIS"),
    (0xFE36, "RIGHT PARENTHESIS,LEFT CURLY BRACKET,RIGHT CURLY BRACKET"),
    (0xFE39, "LEFT TORTOISE SHELL BRACKET,RIGHT TORTOISE SHELL BRACKET"),
    (0xFE3B, "LEFT BLACK LENTICULAR BRACKET,RIGHT BLACK LENTICULAR BRACKET"),
    (0xFE3D, "LEFT DOUBLE ANGLE BRACKET,RIGHT DOUBLE ANGLE BRACKET,LEFT ANGLE BRACKET"),
    (0xFE40, "RIGHT ANGLE BRACKET,LEFT CORNER BRACKET,RIGHT CORNER BRACKET"),
    (0xFE43, "LEFT WHITE CORNER BRACKET,RIGHT WHITE CORNER BRACKET,,,LEFT SQUARE BRACKET"),
    (0xFE48, "RIGHT SQUARE BRACKET")]⟩,
  ⟨"PARENTHESIZED LATIN CAPITAL LETTER ",
    [(0x1F110, "A,B,C,D,E,F,G,H,I,J,K,L,M,N,O,P,Q,R,S,T,U,V,W,X,Y,Z")]⟩,
  ⟨"SQUARED LATIN CAPITAL LETTER ",
    [(0x1F130, "A,B,C,D,E,F,G,H,I,J,K,L,M,N,O,P,Q,R,S,T,U,V,W,X,Y,Z")]⟩,
  ⟨"NEGATIVE CIRCLED LATIN CAPITAL LETTER ",
    [(0x1F150, "A,B,C,D,E,F,G,H,I,J,K,L,M,N,O,P,Q,R,S,T,U,V,W,X,Y,Z")]⟩,
  ⟨"NEGATIVE SQUARED LATIN CAPITAL LETTER ",
    [(0x1F170, "A,B,C,D,E,F,G,H,I,J,K,L,M,N,O,P,Q,R,S,T,U,V,W,X,Y,Z")]⟩,
  ⟨"REGIONAL INDICATOR SYMBOL LETTER ",
    [(0x1F1E6, "A,B,C,D,E,F,G,H,I,J,K,L,M,N,O,P,Q,R,S,T,U,V,W,X,Y,Z")]⟩,
  ⟨"SQUARED CJK UNIFIED IDEOGRAPH-",
    [(0x1F210, "624B,5B57,53CC,,4E8C,591A,89E3,5929,4EA4,6620,7121,6599,524D,5F8C,518D,65B0"),
    (0x1F220, "521D,7D42,751F,8CA9,58F0,5439,6F14,6295,6355,4E00,4E09,904A,5DE6,4E2D,53F3"),
    (0x1F22F, "6307,8D70,6253,7981,7A7A,5408,6E80,6709,6708,7533,5272,55B6,914D")]⟩,
  ⟨"TORTOISE SHELL BRACKETED CJK UNIFIED IDEOGRAPH-",
    [(0x1F240, "672C,4E09,4E8C,5B89,70B9,6253,76D7,52DD,6557")]⟩,
  ⟨"ROUNDED SYMBOL ", [(0x1F260, "FOR FU,FOR LU,FOR SHOU,FOR XI,FOR SHUANGXI,FOR CAI")]⟩]

end RecordSearch.Text
