import RecordSearch.Text.CharacterName.Family

namespace RecordSearch.Text

/-!
# Names of characters: mathematics and technique

Signs of mathematics and technique, arrows, and geometric shapes.
-/

/-- The names of signs of mathematics and technique. -/
def mathematicsNames : List NameFamily := [
  ⟨"", [(0x2191, "UPWARDS ARROW,,DOWNWARDS ARROW,,UP DOWN ARROW,NORTH WEST ARROW"),
    (0x2197, "NORTH EAST ARROW,SOUTH EAST ARROW,SOUTH WEST ARROW"),
    (0x219F, "UPWARDS TWO HEADED ARROW,,DOWNWARDS TWO HEADED ARROW"),
    (0x21A5, "UPWARDS ARROW FROM BAR,,DOWNWARDS ARROW FROM BAR,UP DOWN ARROW WITH BASE"),
    (0x21AF, "DOWNWARDS ZIGZAG ARROW,UPWARDS ARROW WITH TIP LEFTWARDS"),
    (0x21B1, "UPWARDS ARROW WITH TIP RIGHTWARDS,,,,,ANTICLOCKWISE TOP SEMICIRCLE ARROW"),
    (0x21B7, "CLOCKWISE TOP SEMICIRCLE ARROW,NORTH WEST ARROW TO LONG BAR"),
    (0x21BA, "ANTICLOCKWISE OPEN CIRCLE ARROW,CLOCKWISE OPEN CIRCLE ARROW"),
    (0x21C5, "UPWARDS ARROW LEFTWARDS OF DOWNWARDS ARROW,,,UPWARDS PAIRED ARROWS"),
    (0x21CA, "DOWNWARDS PAIRED ARROWS,,,,,,,UPWARDS DOUBLE ARROW,,DOWNWARDS DOUBLE ARROW"),
    (0x21D5, "UP DOWN DOUBLE ARROW,NORTH WEST DOUBLE ARROW,NORTH EAST DOUBLE ARROW"),
    (0x21D8, "SOUTH EAST DOUBLE ARROW,SOUTH WEST DOUBLE ARROW"),
    (0x21DE, "UPWARDS ARROW WITH DOUBLE STROKE,,,UPWARDS DASHED ARROW"),
    (0x21E3, "DOWNWARDS DASHED ARROW,,,,UPWARDS WHITE ARROW,,DOWNWARDS WHITE ARROW"),
    (0x21EA, "UPWARDS WHITE ARROW FROM BAR,UPWARDS WHITE ARROW ON PEDESTAL"),
    (0x21EC, "UPWARDS WHITE ARROW ON PEDESTAL WITH HORIZONTAL BAR"),
    (0x21ED, "UPWARDS WHITE ARROW ON PEDESTAL WITH VERTICAL BAR,UPWARDS WHITE DOUBLE ARROW"),
    (0x21EF, "UPWARDS WHITE DOUBLE ARROW ON PEDESTAL,,NORTH WEST ARROW TO CORNER"),
    (0x21F2, "SOUTH EAST ARROW TO CORNER,UP DOWN WHITE ARROW,RIGHT ARROW WITH SMALL CIRCLE"),
    (0x21F5, "DOWNWARDS ARROW LEFTWARDS OF UPWARDS ARROW,THREE RIGHTWARDS ARROWS"),
    (0x2200, "FOR ALL,COMPLEMENT,PARTIAL DIFFERENTIAL,THERE EXISTS,THERE DOES NOT EXIST"),
    (0x2205, "EMPTY SET,INCREMENT,NABLA,ELEMENT OF,NOT AN ELEMENT OF,,CONTAINS AS MEMBER"),
    (0x220E, "END OF PROOF,,,,MINUS SIGN,MINUS-OR-PLUS SIGN,DOT PLUS,DIVISION SLASH"),
    (0x2216, "SET MINUS,ASTERISK OPERATOR,RING OPERATOR,BULLET OPERATOR,,CUBE ROOT"),
    (0x221C, "FOURTH ROOT,PROPORTIONAL TO,INFINITY,RIGHT ANGLE,ANGLE,MEASURED ANGLE"),
    (0x2222, "SPHERICAL ANGLE,DIVIDES,,PARALLEL TO,NOT PARALLEL TO,LOGICAL AND,LOGICAL OR"),
    (0x2229, "INTERSECTION,UNION,INTEGRAL,DOUBLE INTEGRAL,TRIPLE INTEGRAL,CONTOUR INTEGRAL"),
    (0x222F, "SURFACE INTEGRAL,VOLUME INTEGRAL,CLOCKWISE INTEGRAL"),
    (0x2232, "CLOCKWISE CONTOUR INTEGRAL,ANTICLOCKWISE CONTOUR INTEGRAL,THEREFORE,BECAUSE"),
    (0x2236, "RATIO,PROPORTION,DOT MINUS,EXCESS,GEOMETRIC PROPORTION,HOMOTHETIC"),
    (0x223C, "TILDE OPERATOR,REVERSED TILDE,INVERTED LAZY S,SINE WAVE,WREATH PRODUCT"),
    (0x2241, "NOT TILDE,MINUS TILDE,ASYMPTOTICALLY EQUAL TO,NOT ASYMPTOTICALLY EQUAL TO"),
    (0x2245, "APPROXIMATELY EQUAL TO,APPROXIMATELY BUT NOT ACTUALLY EQUAL TO"),
    (0x2247, "NEITHER APPROXIMATELY NOR ACTUALLY EQUAL TO,ALMOST EQUAL TO"),
    (0x2249, "NOT ALMOST EQUAL TO,ALMOST EQUAL OR EQUAL TO,TRIPLE TILDE,ALL EQUAL TO"),
    (0x224D, "EQUIVALENT TO,GEOMETRICALLY EQUIVALENT TO,DIFFERENCE BETWEEN"),
    (0x2250, "APPROACHES THE LIMIT,GEOMETRICALLY EQUAL TO"),
    (0x2252, "APPROXIMATELY EQUAL TO OR THE IMAGE OF,IMAGE OF OR APPROXIMATELY EQUAL TO"),
    (0x2254, "COLON EQUALS,EQUALS COLON,RING IN EQUAL TO,RING EQUAL TO,CORRESPONDS TO"),
    (0x2259, "ESTIMATES,EQUIANGULAR TO,STAR EQUALS,DELTA EQUAL TO,EQUAL TO BY DEFINITION"),
    (0x225E, "MEASURED BY,QUESTIONED EQUAL TO,NOT EQUAL TO,IDENTICAL TO,NOT IDENTICAL TO"),
    (0x2263, "STRICTLY EQUIVALENT TO,,,,,,,MUCH LESS-THAN,MUCH GREATER-THAN,BETWEEN"),
    (0x226D, "NOT EQUIVALENT TO,NOT LESS-THAN,NOT GREATER-THAN"),
    (0x2270, "NEITHER LESS-THAN NOR EQUAL TO,NEITHER GREATER-THAN NOR EQUAL TO"),
    (0x2274, "NEITHER LESS-THAN NOR EQUIVALENT TO,NEITHER GREATER-THAN NOR EQUIVALENT TO"),
    (0x2278, "NEITHER LESS-THAN NOR GREATER-THAN,NEITHER GREATER-THAN NOR LESS-THAN"),
    (0x227A, "PRECEDES,SUCCEEDS,PRECEDES OR EQUAL TO,SUCCEEDS OR EQUAL TO"),
    (0x227E, "PRECEDES OR EQUIVALENT TO,SUCCEEDS OR EQUIVALENT TO,,,SUBSET OF"),
    (0x2284, "NOT A SUBSET OF,NOT A SUPERSET OF,SUBSET OF OR EQUAL TO"),
    (0x2288, "NEITHER A SUBSET OF NOR EQUAL TO,NEITHER A SUPERSET OF NOR EQUAL TO"),
    (0x228A, "SUBSET OF WITH NOT EQUAL TO,,MULTISET,MULTISET MULTIPLICATION,MULTISET UNION"),
    (0x22A2, "RIGHT TACK,LEFT TACK,DOWN TACK,UP TACK,ASSERTION,MODELS,TRUE,FORCES"),
    (0x22AA, "TRIPLE VERTICAL BAR RIGHT TURNSTILE"),
    (0x22AB, "DOUBLE VERTICAL BAR DOUBLE RIGHT TURNSTILE,,NOT TRUE"),
    (0x22AF, "NEGATED DOUBLE VERTICAL BAR DOUBLE RIGHT TURNSTILE,PRECEDES UNDER RELATION"),
    (0x22B1, "SUCCEEDS UNDER RELATION,NORMAL SUBGROUP OF,CONTAINS AS NORMAL SUBGROUP"),
    (0x22B4, "NORMAL SUBGROUP OF OR EQUAL TO,CONTAINS AS NORMAL SUBGROUP OR EQUAL TO"),
    (0x22B7, "IMAGE OF,MULTIMAP,HERMITIAN CONJUGATE MATRIX,INTERCALATE,XOR,NAND,NOR"),
    (0x22BE, "RIGHT ANGLE WITH ARC,RIGHT TRIANGLE,,,,,DIAMOND OPERATOR,DOT OPERATOR"),
    (0x22C6, "STAR OPERATOR,DIVISION TIMES,BOWTIE,LEFT NORMAL FACTOR SEMIDIRECT PRODUCT"),
    (0x22CA, "RIGHT NORMAL FACTOR SEMIDIRECT PRODUCT,LEFT SEMIDIRECT PRODUCT"),
    (0x22CC, "RIGHT SEMIDIRECT PRODUCT,REVERSED TILDE EQUALS,CURLY LOGICAL OR"),
    (0x22CF, "CURLY LOGICAL AND,DOUBLE SUBSET,DOUBLE SUPERSET,DOUBLE INTERSECTION"),
    (0x22D3, "DOUBLE UNION,PITCHFORK,EQUAL AND PARALLEL TO,,,VERY MUCH LESS-THAN"),
    (0x22D9, "VERY MUCH GREATER-THAN,,,EQUAL TO OR LESS-THAN,EQUAL TO OR GREATER-THAN"),
    (0x22DE, "EQUAL TO OR PRECEDES,EQUAL TO OR SUCCEEDS,,,NOT SQUARE IMAGE OF OR EQUAL TO"),
    (0x22E8, "PRECEDES BUT NOT EQUIVALENT TO,SUCCEEDS BUT NOT EQUIVALENT TO"),
    (0x22EA, "NOT NORMAL SUBGROUP OF,,NOT NORMAL SUBGROUP OF OR EQUAL TO,,VERTICAL ELLIPSIS"),
    (0x22EF, "MIDLINE HORIZONTAL ELLIPSIS,UP RIGHT DIAGONAL ELLIPSIS"),
    (0x22F1, "DOWN RIGHT DIAGONAL ELLIPSIS,ELEMENT OF WITH LONG HORIZONTAL STROKE"),
    (0x22F3, "ELEMENT OF WITH VERTICAL BAR AT END OF HORIZONTAL STROKE"),
    (0x22F5, "ELEMENT OF WITH DOT ABOVE,ELEMENT OF WITH OVERBAR,,ELEMENT OF WITH UNDERBAR"),
    (0x22F9, "ELEMENT OF WITH TWO HORIZONTAL STROKES,CONTAINS WITH LONG HORIZONTAL STROKE"),
    (0x22FB, "CONTAINS WITH VERTICAL BAR AT END OF HORIZONTAL STROKE,,CONTAINS WITH OVERBAR"),
    (0x2300, "DIAMETER SIGN,ELECTRIC ARROW,HOUSE,UP ARROWHEAD,DOWN ARROWHEAD,PROJECTIVE"),
    (0x2306, "PERSPECTIVE,WAVY LINE,LEFT CEILING,RIGHT CEILING,LEFT FLOOR,RIGHT FLOOR"),
    (0x230C, "BOTTOM RIGHT CROP,BOTTOM LEFT CROP,TOP RIGHT CROP,TOP LEFT CROP"),
    (0x2310, "REVERSED NOT SIGN,,ARC,SEGMENT,SECTOR,TELEPHONE RECORDER,POSITION INDICATOR"),
    (0x2317, "VIEWDATA SQUARE,PLACE OF INTEREST SIGN,TURNED NOT SIGN,WATCH,HOURGLASS"),
    (0x231C, "TOP LEFT CORNER,TOP RIGHT CORNER,BOTTOM LEFT CORNER,BOTTOM RIGHT CORNER"),
    (0x2320, "TOP HALF INTEGRAL,BOTTOM HALF INTEGRAL,FROWN,SMILE"),
    (0x2324, "UP ARROWHEAD BETWEEN TWO HORIZONTAL BARS,OPTION KEY,ERASE TO THE RIGHT"),
    (0x2327, "X IN A RECTANGLE BOX,KEYBOARD,LEFT-POINTING ANGLE BRACKET"),
    (0x232A, "RIGHT-POINTING ANGLE BRACKET,ERASE TO THE LEFT,BENZENE RING,CYLINDRICITY"),
    (0x232E, "ALL AROUND-PROFILE,SYMMETRY,TOTAL RUNOUT,DIMENSION ORIGIN,CONICAL TAPER,SLOPE"),
    (0x2334, "COUNTERBORE,COUNTERSINK"),
    (0x237B, "NOT CHECK MARK,RIGHT ANGLE WITH DOWNWARDS ZIGZAG ARROW,SHOULDERED OPEN BOX"),
    (0x237E, "BELL SYMBOL,VERTICAL LINE WITH MIDDLE DOT,INSERTION SYMBOL"),
    (0x2381, "CONTINUOUS UNDERLINE SYMBOL,DISCONTINUOUS UNDERLINE SYMBOL,EMPHASIS SYMBOL"),
    (0x2384, "COMPOSITION SYMBOL,WHITE SQUARE WITH CENTRE VERTICAL LINE,ENTER SYMBOL"),
    (0x2387, "ALTERNATIVE KEY SYMBOL,HELM SYMBOL,,,BROKEN CIRCLE WITH NORTHWEST ARROW"),
    (0x238C, "UNDO SYMBOL,MONOSTABLE SYMBOL,HYSTERESIS SYMBOL"),
    (0x238F, "OPEN-CIRCUIT-OUTPUT H-TYPE SYMBOL,OPEN-CIRCUIT-OUTPUT L-TYPE SYMBOL"),
    (0x2391, "PASSIVE-PULL-DOWN-OUTPUT SYMBOL,PASSIVE-PULL-UP-OUTPUT SYMBOL"),
    (0x2393, "DIRECT CURRENT SYMBOL FORM TWO,SOFTWARE-FUNCTION SYMBOL"),
    (0x2396, "DECIMAL SEPARATOR KEY SYMBOL,PREVIOUS PAGE,NEXT PAGE,PRINT SCREEN SYMBOL"),
    (0x239A, "CLEAR SCREEN SYMBOL,LEFT PARENTHESIS UPPER HOOK,LEFT PARENTHESIS EXTENSION"),
    (0x239D, "LEFT PARENTHESIS LOWER HOOK,RIGHT PARENTHESIS UPPER HOOK"),
    (0x239F, "RIGHT PARENTHESIS EXTENSION,RIGHT PARENTHESIS LOWER HOOK"),
    (0x23A7, "LEFT CURLY BRACKET UPPER HOOK,LEFT CURLY BRACKET MIDDLE PIECE"),
    (0x23A9, "LEFT CURLY BRACKET LOWER HOOK,CURLY BRACKET EXTENSION"),
    (0x23AB, "RIGHT CURLY BRACKET UPPER HOOK,RIGHT CURLY BRACKET MIDDLE PIECE"),
    (0x23AD, "RIGHT CURLY BRACKET LOWER HOOK"),
    (0x23B0, "UPPER LEFT OR LOWER RIGHT CURLY BRACKET SECTION"),
    (0x23B1, "UPPER RIGHT OR LOWER LEFT CURLY BRACKET SECTION,SUMMATION TOP"),
    (0x23B3, "SUMMATION BOTTOM,TOP SQUARE BRACKET,BOTTOM SQUARE BRACKET"),
    (0x23B6, "BOTTOM SQUARE BRACKET OVER TOP SQUARE BRACKET,RADICAL SYMBOL BOTTOM"),
    (0x23B8, "LEFT VERTICAL BOX LINE,RIGHT VERTICAL BOX LINE"),
    (0x23CE, "RETURN SYMBOL,EJECT SYMBOL,VERTICAL LINE EXTENSION"),
    (0x23DA, "EARTH GROUND,FUSE,TOP PARENTHESIS,BOTTOM PARENTHESIS,TOP CURLY BRACKET"),
    (0x23DF, "BOTTOM CURLY BRACKET,TOP TORTOISE SHELL BRACKET,BOTTOM TORTOISE SHELL BRACKET"),
    (0x23E2, "WHITE TRAPEZIUM,BENZENE RING WITH CIRCLE,STRAIGHTNESS,FLATNESS,AC CURRENT"),
    (0x23E7, "ELECTRICAL INTERSECTION,DECIMAL EXPONENT SYMBOL,,,,,,,,ALARM CLOCK,STOPWATCH"),
    (0x23F2, "TIMER CLOCK,HOURGLASS WITH FLOWING SAND,BLACK MEDIUM LEFT-POINTING TRIANGLE"),
    (0x23F5, "BLACK MEDIUM RIGHT-POINTING TRIANGLE,BLACK MEDIUM UP-POINTING TRIANGLE"),
    (0x23F7, "BLACK MEDIUM DOWN-POINTING TRIANGLE,DOUBLE VERTICAL BAR,BLACK SQUARE FOR STOP"),
    (0x23FA, "BLACK CIRCLE FOR RECORD,POWER SYMBOL,POWER ON-OFF SYMBOL,POWER ON SYMBOL"),
    (0x23FE, "POWER SLEEP SYMBOL,OBSERVER EYE SYMBOL"),
    (0x2580, "UPPER HALF BLOCK,LOWER ONE EIGHTH BLOCK,LOWER ONE QUARTER BLOCK"),
    (0x2583, "LOWER THREE EIGHTHS BLOCK,LOWER HALF BLOCK,LOWER FIVE EIGHTHS BLOCK"),
    (0x2586, "LOWER THREE QUARTERS BLOCK,LOWER SEVEN EIGHTHS BLOCK,FULL BLOCK"),
    (0x2589, "LEFT SEVEN EIGHTHS BLOCK,LEFT THREE QUARTERS BLOCK,LEFT FIVE EIGHTHS BLOCK"),
    (0x258C, "LEFT HALF BLOCK,LEFT THREE EIGHTHS BLOCK,LEFT ONE QUARTER BLOCK"),
    (0x258F, "LEFT ONE EIGHTH BLOCK,RIGHT HALF BLOCK,LIGHT SHADE,MEDIUM SHADE,DARK SHADE"),
    (0x2594, "UPPER ONE EIGHTH BLOCK,RIGHT ONE EIGHTH BLOCK"),
    (0x25A0, "BLACK SQUARE,WHITE SQUARE,WHITE SQUARE WITH ROUNDED CORNERS"),
    (0x25A3, "WHITE SQUARE CONTAINING BLACK SMALL SQUARE,,,,,,,BLACK SMALL SQUARE"),
    (0x25AB, "WHITE SMALL SQUARE,BLACK RECTANGLE,WHITE RECTANGLE,BLACK VERTICAL RECTANGLE"),
    (0x25AF, "WHITE VERTICAL RECTANGLE,BLACK PARALLELOGRAM,WHITE PARALLELOGRAM"),
    (0x25BD, "WHITE DOWN-POINTING TRIANGLE,,WHITE DOWN-POINTING SMALL TRIANGLE"),
    (0x25C1, "WHITE LEFT-POINTING TRIANGLE,,WHITE LEFT-POINTING SMALL TRIANGLE"),
    (0x25C5, "WHITE LEFT-POINTING POINTER,BLACK DIAMOND,WHITE DIAMOND"),
    (0x25C8, "WHITE DIAMOND CONTAINING BLACK SMALL DIAMOND,FISHEYE,LOZENGE,WHITE CIRCLE"),
    (0x25CC, "DOTTED CIRCLE,CIRCLE WITH VERTICAL FILL,BULLSEYE,BLACK CIRCLE"),
    (0x25D0, "CIRCLE WITH LEFT HALF BLACK,CIRCLE WITH RIGHT HALF BLACK"),
    (0x25D2, "CIRCLE WITH LOWER HALF BLACK,CIRCLE WITH UPPER HALF BLACK"),
    (0x25D4, "CIRCLE WITH UPPER RIGHT QUADRANT BLACK"),
    (0x25D5, "CIRCLE WITH ALL BUT UPPER LEFT QUADRANT BLACK,LEFT HALF BLACK CIRCLE"),
    (0x25D7, "RIGHT HALF BLACK CIRCLE,INVERSE BULLET,INVERSE WHITE CIRCLE"),
    (0x25DA, "UPPER HALF INVERSE WHITE CIRCLE,LOWER HALF INVERSE WHITE CIRCLE"),
    (0x25DC, "UPPER LEFT QUADRANT CIRCULAR ARC,UPPER RIGHT QUADRANT CIRCULAR ARC"),
    (0x25DE, "LOWER RIGHT QUADRANT CIRCULAR ARC,LOWER LEFT QUADRANT CIRCULAR ARC"),
    (0x25E0, "UPPER HALF CIRCLE,LOWER HALF CIRCLE,BLACK LOWER RIGHT TRIANGLE"),
    (0x25E3, "BLACK LOWER LEFT TRIANGLE,BLACK UPPER LEFT TRIANGLE"),
    (0x25E5, "BLACK UPPER RIGHT TRIANGLE,WHITE BULLET"),
    (0x25EB, "WHITE SQUARE WITH VERTICAL BISECTING LINE"),
    (0x25F0, "WHITE SQUARE WITH UPPER LEFT QUADRANT,WHITE SQUARE WITH LOWER LEFT QUADRANT"),
    (0x25F2, "WHITE SQUARE WITH LOWER RIGHT QUADRANT,WHITE SQUARE WITH UPPER RIGHT QUADRANT"),
    (0x25F4, "WHITE CIRCLE WITH UPPER LEFT QUADRANT,WHITE CIRCLE WITH LOWER LEFT QUADRANT"),
    (0x25F6, "WHITE CIRCLE WITH LOWER RIGHT QUADRANT,WHITE CIRCLE WITH UPPER RIGHT QUADRANT"),
    (0x25F8, "UPPER LEFT TRIANGLE,UPPER RIGHT TRIANGLE,LOWER LEFT TRIANGLE"),
    (0x25FB, "WHITE MEDIUM SQUARE,BLACK MEDIUM SQUARE,WHITE MEDIUM SMALL SQUARE"),
    (0x25FE, "BLACK MEDIUM SMALL SQUARE,LOWER RIGHT TRIANGLE"),
    (0x27C0, "THREE DIMENSIONAL ANGLE,WHITE TRIANGLE CONTAINING SMALL WHITE TRIANGLE"),
    (0x27C2, "PERPENDICULAR,OPEN SUBSET,OPEN SUPERSET,LEFT S-SHAPED BAG DELIMITER"),
    (0x27C6, "RIGHT S-SHAPED BAG DELIMITER,OR WITH DOT INSIDE"),
    (0x27C8, "REVERSE SOLIDUS PRECEDING SUBSET,,VERTICAL BAR WITH HORIZONTAL STROKE"),
    (0x27CC, "LONG DIVISION,,,,WHITE DIAMOND WITH CENTRED DOT,AND WITH DOT"),
    (0x27D2, "ELEMENT OF OPENING UPWARDS,LOWER RIGHT CORNER WITH DOT"),
    (0x27D4, "UPPER LEFT CORNER WITH DOT,LEFT OUTER JOIN,RIGHT OUTER JOIN,FULL OUTER JOIN"),
    (0x27DA, "LEFT AND RIGHT DOUBLE TURNSTILE,LEFT AND RIGHT TACK,LEFT MULTIMAP"),
    (0x27DD, "LONG RIGHT TACK,LONG LEFT TACK,UP TACK WITH CIRCLE ABOVE"),
    (0x27E0, "LOZENGE DIVIDED BY HORIZONTAL RULE,WHITE CONCAVE-SIDED DIAMOND"),
    (0x27E2, "WHITE CONCAVE-SIDED DIAMOND WITH LEFTWARDS TICK"),
    (0x27E3, "WHITE CONCAVE-SIDED DIAMOND WITH RIGHTWARDS TICK"),
    (0x27E4, "WHITE SQUARE WITH LEFTWARDS TICK,WHITE SQUARE WITH RIGHTWARDS TICK"),
    (0x27F0, "UPWARDS QUADRUPLE ARROW,DOWNWARDS QUADRUPLE ARROW"),
    (0x27F2, "ANTICLOCKWISE GAPPED CIRCLE ARROW,CLOCKWISE GAPPED CIRCLE ARROW"),
    (0x27F4, "RIGHT ARROW WITH CIRCLED PLUS,LONG LEFTWARDS ARROW,LONG RIGHTWARDS ARROW"),
    (0x27F7, "LONG LEFT RIGHT ARROW,LONG LEFTWARDS DOUBLE ARROW"),
    (0x27F9, "LONG RIGHTWARDS DOUBLE ARROW,LONG LEFT RIGHT DOUBLE ARROW"),
    (0x27FB, "LONG LEFTWARDS ARROW FROM BAR,LONG RIGHTWARDS ARROW FROM BAR"),
    (0x27FD, "LONG LEFTWARDS DOUBLE ARROW FROM BAR,LONG RIGHTWARDS DOUBLE ARROW FROM BAR"),
    (0x27FF, "LONG RIGHTWARDS SQUIGGLE ARROW"),
    (0x2909, "UPWARDS ARROW WITH HORIZONTAL STROKE,UPWARDS TRIPLE ARROW"),
    (0x290B, "DOWNWARDS TRIPLE ARROW,,,,,,,UPWARDS ARROW TO BAR,DOWNWARDS ARROW TO BAR"),
    (0x2921, "NORTH WEST AND SOUTH EAST ARROW,NORTH EAST AND SOUTH WEST ARROW"),
    (0x2923, "NORTH WEST ARROW WITH HOOK,NORTH EAST ARROW WITH HOOK"),
    (0x2925, "SOUTH EAST ARROW WITH HOOK,SOUTH WEST ARROW WITH HOOK"),
    (0x2927, "NORTH WEST ARROW AND NORTH EAST ARROW,NORTH EAST ARROW AND SOUTH EAST ARROW"),
    (0x2929, "SOUTH EAST ARROW AND SOUTH WEST ARROW,SOUTH WEST ARROW AND NORTH WEST ARROW"),
    (0x292B, "RISING DIAGONAL CROSSING FALLING DIAGONAL"),
    (0x292C, "FALLING DIAGONAL CROSSING RISING DIAGONAL"),
    (0x292D, "SOUTH EAST ARROW CROSSING NORTH EAST ARROW"),
    (0x292E, "NORTH EAST ARROW CROSSING SOUTH EAST ARROW"),
    (0x292F, "FALLING DIAGONAL CROSSING NORTH EAST ARROW"),
    (0x2930, "RISING DIAGONAL CROSSING SOUTH EAST ARROW"),
    (0x2931, "NORTH EAST ARROW CROSSING NORTH WEST ARROW"),
    (0x2932, "NORTH WEST ARROW CROSSING NORTH EAST ARROW,WAVE ARROW POINTING DIRECTLY RIGHT"),
    (0x2938, "RIGHT-SIDE ARC CLOCKWISE ARROW,LEFT-SIDE ARC ANTICLOCKWISE ARROW"),
    (0x293A, "TOP ARC ANTICLOCKWISE ARROW,BOTTOM ARC ANTICLOCKWISE ARROW"),
    (0x293C, "TOP ARC CLOCKWISE ARROW WITH MINUS,TOP ARC ANTICLOCKWISE ARROW WITH PLUS"),
    (0x293E, "LOWER RIGHT SEMICIRCULAR CLOCKWISE ARROW"),
    (0x293F, "LOWER LEFT SEMICIRCULAR ANTICLOCKWISE ARROW,ANTICLOCKWISE CLOSED CIRCLE ARROW"),
    (0x2941, "CLOCKWISE CLOSED CIRCLE ARROW,,,SHORT RIGHTWARDS ARROW ABOVE LEFTWARDS ARROW"),
    (0x2949, "UPWARDS TWO-HEADED ARROW FROM SMALL CIRCLE"),
    (0x294A, "LEFT BARB UP RIGHT BARB DOWN HARPOON,LEFT BARB DOWN RIGHT BARB UP HARPOON"),
    (0x294C, "UP BARB RIGHT DOWN BARB LEFT HARPOON,UP BARB LEFT DOWN BARB RIGHT HARPOON"),
    (0x294E, "LEFT BARB UP RIGHT BARB UP HARPOON,UP BARB RIGHT DOWN BARB RIGHT HARPOON"),
    (0x2950, "LEFT BARB DOWN RIGHT BARB DOWN HARPOON,UP BARB LEFT DOWN BARB LEFT HARPOON"),
    (0x2970, "RIGHT DOUBLE ARROW WITH ROUNDED HEAD,EQUALS SIGN ABOVE RIGHTWARDS ARROW"),
    (0x2972, "TILDE OPERATOR ABOVE RIGHTWARDS ARROW,,,,,,,SUBSET ABOVE RIGHTWARDS ARROW"),
    (0x297C, "LEFT FISH TAIL,RIGHT FISH TAIL,UP FISH TAIL,DOWN FISH TAIL"),
    (0x2980, "TRIPLE VERTICAL BAR DELIMITER,,,LEFT WHITE CURLY BRACKET"),
    (0x2984, "RIGHT WHITE CURLY BRACKET,LEFT WHITE PARENTHESIS,RIGHT WHITE PARENTHESIS"),
    (0x2991, "LEFT ANGLE BRACKET WITH DOT,RIGHT ANGLE BRACKET WITH DOT"),
    (0x2993, "LEFT ARC LESS-THAN BRACKET,RIGHT ARC GREATER-THAN BRACKET"),
    (0x2995, "DOUBLE LEFT ARC GREATER-THAN BRACKET,DOUBLE RIGHT ARC LESS-THAN BRACKET"),
    (0x2997, "LEFT BLACK TORTOISE SHELL BRACKET,RIGHT BLACK TORTOISE SHELL BRACKET"),
    (0x2999, "DOTTED FENCE,VERTICAL ZIGZAG LINE,MEASURED ANGLE OPENING LEFT"),
    (0x299C, "RIGHT ANGLE VARIANT WITH SQUARE,MEASURED RIGHT ANGLE WITH DOT"),
    (0x299E, "ANGLE WITH S INSIDE,ACUTE ANGLE,SPHERICAL ANGLE OPENING LEFT"),
    (0x29A1, "SPHERICAL ANGLE OPENING UP,TURNED ANGLE,REVERSED ANGLE,ANGLE WITH UNDERBAR"),
    (0x29A5, "REVERSED ANGLE WITH UNDERBAR,OBLIQUE ANGLE OPENING UP"),
    (0x29A7, "OBLIQUE ANGLE OPENING DOWN,,,,,,,,,REVERSED EMPTY SET,EMPTY SET WITH OVERBAR"),
    (0x29B2, "EMPTY SET WITH SMALL CIRCLE ABOVE,EMPTY SET WITH RIGHT ARROW ABOVE"),
    (0x29B4, "EMPTY SET WITH LEFT ARROW ABOVE,CIRCLE WITH HORIZONTAL BAR"),
    (0x29BA, "CIRCLE DIVIDED BY HORIZONTAL BAR AND TOP HALF DIVIDED BY VERTICAL BAR"),
    (0x29BB, "CIRCLE WITH SUPERIMPOSED X,,UP ARROW THROUGH CIRCLE"),
    (0x29C2, "CIRCLE WITH SMALL CIRCLE TO THE RIGHT"),
    (0x29C3, "CIRCLE WITH TWO HORIZONTAL STROKES TO THE RIGHT,,,,,,TWO JOINED SQUARES"),
    (0x29CA, "TRIANGLE WITH DOT ABOVE,TRIANGLE WITH UNDERBAR,S IN TRIANGLE"),
    (0x29CD, "TRIANGLE WITH SERIFS AT BOTTOM,RIGHT TRIANGLE ABOVE LEFT TRIANGLE"),
    (0x29CF, "LEFT TRIANGLE BESIDE VERTICAL BAR,VERTICAL BAR BESIDE RIGHT TRIANGLE"),
    (0x29D1, "BOWTIE WITH LEFT HALF BLACK,BOWTIE WITH RIGHT HALF BLACK,BLACK BOWTIE"),
    (0x29D4, "TIMES WITH LEFT HALF BLACK,TIMES WITH RIGHT HALF BLACK,WHITE HOURGLASS"),
    (0x29D7, "BLACK HOURGLASS,LEFT WIGGLY FENCE,RIGHT WIGGLY FENCE,LEFT DOUBLE WIGGLY FENCE"),
    (0x29DB, "RIGHT DOUBLE WIGGLY FENCE,INCOMPLETE INFINITY,TIE OVER INFINITY"),
    (0x29DE, "INFINITY NEGATED WITH VERTICAL BAR,DOUBLE-ENDED MULTIMAP,,INCREASES AS"),
    (0x29E2, "SHUFFLE PRODUCT,EQUALS SIGN AND SLANTED PARALLEL"),
    (0x29E4, "EQUALS SIGN AND SLANTED PARALLEL WITH TILDE ABOVE"),
    (0x29E5, "IDENTICAL TO AND SLANTED PARALLEL,GLEICH STARK,THERMODYNAMIC"),
    (0x29EA, "BLACK DIAMOND WITH DOWN ARROW,BLACK LOZENGE,WHITE CIRCLE WITH DOWN ARROW"),
    (0x29ED, "BLACK CIRCLE WITH DOWN ARROW,,,,,,,RULE-DELAYED,REVERSE SOLIDUS OPERATOR"),
    (0x29F6, "SOLIDUS WITH OVERBAR,REVERSE SOLIDUS WITH HORIZONTAL STROKE,BIG SOLIDUS"),
    (0x29F9, "BIG REVERSE SOLIDUS,DOUBLE PLUS,TRIPLE PLUS"),
    (0x29FC, "LEFT-POINTING CURVED ANGLE BRACKET,RIGHT-POINTING CURVED ANGLE BRACKET,TINY"),
    (0x29FF, "MINY,,,,,,,,TWO LOGICAL AND OPERATOR,TWO LOGICAL OR OPERATOR,,MODULO TWO SUM"),
    (0x2A0B, "SUMMATION WITH INTEGRAL,QUADRUPLE INTEGRAL OPERATOR,FINITE PART INTEGRAL"),
    (0x2A10, "CIRCULATION FUNCTION,ANTICLOCKWISE INTEGRATION"),
    (0x2A12, "LINE INTEGRATION WITH RECTANGULAR PATH AROUND POLE"),
    (0x2A13, "LINE INTEGRATION WITH SEMICIRCULAR PATH AROUND POLE"),
    (0x2A14, "LINE INTEGRATION NOT INCLUDING THE POLE,,QUATERNION INTEGRAL OPERATOR"),
    (0x2A1D, "JOIN"), (0x2A29, "MINUS SIGN WITH COMMA ABOVE,MINUS SIGN WITH DOT BELOW"),
    (0x2A2B, "MINUS SIGN WITH FALLING DOTS,MINUS SIGN WITH RISING DOTS"),
    (0x2A2F, "VECTOR OR CROSS PRODUCT,,,SEMIDIRECT PRODUCT WITH BOTTOM CLOSED,SMASH PRODUCT"),
    (0x2A3A, "MINUS SIGN IN TRIANGLE,,INTERIOR PRODUCT,RIGHTHAND INTERIOR PRODUCT"),
    (0x2A3F, "AMALGAMATION OR COPRODUCT,,UNION WITH MINUS SIGN,UNION WITH OVERBAR"),
    (0x2A45, "UNION WITH LOGICAL OR,UNION ABOVE INTERSECTION"),
    (0x2A48, "UNION ABOVE BAR ABOVE INTERSECTION,,UNION BESIDE AND JOINED WITH UNION"),
    (0x2A4C, "CLOSED UNION WITH SERIFS,CLOSED INTERSECTION WITH SERIFS"),
    (0x2A4E, "DOUBLE SQUARE INTERSECTION,DOUBLE SQUARE UNION"),
    (0x2A50, "CLOSED UNION WITH SERIFS AND SMASH PRODUCT,,LOGICAL OR WITH DOT ABOVE"),
    (0x2A53, "DOUBLE LOGICAL AND,DOUBLE LOGICAL OR,TWO INTERSECTING LOGICAL AND"),
    (0x2A56, "TWO INTERSECTING LOGICAL OR,SLOPING LARGE OR,SLOPING LARGE AND"),
    (0x2A59, "LOGICAL OR OVERLAPPING LOGICAL AND,,LOGICAL OR WITH MIDDLE STEM"),
    (0x2A5D, "LOGICAL OR WITH HORIZONTAL DASH,,,,,LOGICAL OR WITH DOUBLE OVERBAR"),
    (0x2A63, "LOGICAL OR WITH DOUBLE UNDERBAR,,,EQUALS SIGN WITH DOT BELOW"),
    (0x2A67, "IDENTICAL WITH DOT ABOVE,TRIPLE HORIZONTAL BAR WITH DOUBLE VERTICAL STROKE"),
    (0x2A69, "TRIPLE HORIZONTAL BAR WITH TRIPLE VERTICAL STROKE"),
    (0x2A6A, "TILDE OPERATOR WITH DOT ABOVE,TILDE OPERATOR WITH RISING DOTS"),
    (0x2A6C, "SIMILAR MINUS SIMILAR,CONGRUENT WITH DOT ABOVE,EQUALS WITH ASTERISK"),
    (0x2A6F, "ALMOST EQUAL TO WITH CIRCUMFLEX ACCENT,APPROXIMATELY EQUAL OR EQUAL TO"),
    (0x2A71, "EQUALS SIGN ABOVE PLUS SIGN,,EQUALS SIGN ABOVE TILDE OPERATOR"),
    (0x2A74, "DOUBLE COLON EQUAL,TWO CONSECUTIVE EQUALS SIGNS"),
    (0x2A76, "THREE CONSECUTIVE EQUALS SIGNS"),
    (0x2A77, "EQUALS SIGN WITH TWO DOTS ABOVE AND TWO DOTS BELOW"),
    (0x2A78, "EQUIVALENT WITH FOUR DOTS ABOVE"),
    (0x2A95, "SLANTED EQUAL TO OR LESS-THAN,SLANTED EQUAL TO OR GREATER-THAN"),
    (0x2A97, "SLANTED EQUAL TO OR LESS-THAN WITH DOT INSIDE"),
    (0x2A98, "SLANTED EQUAL TO OR GREATER-THAN WITH DOT INSIDE"),
    (0x2A99, "DOUBLE-LINE EQUAL TO OR LESS-THAN,DOUBLE-LINE EQUAL TO OR GREATER-THAN"),
    (0x2A9B, "DOUBLE-LINE SLANTED EQUAL TO OR LESS-THAN"),
    (0x2A9C, "DOUBLE-LINE SLANTED EQUAL TO OR GREATER-THAN,SIMILAR OR LESS-THAN"),
    (0x2A9E, "SIMILAR OR GREATER-THAN,SIMILAR ABOVE LESS-THAN ABOVE EQUALS SIGN"),
    (0x2AA0, "SIMILAR ABOVE GREATER-THAN ABOVE EQUALS SIGN,DOUBLE NESTED LESS-THAN"),
    (0x2AA2, "DOUBLE NESTED GREATER-THAN,DOUBLE NESTED LESS-THAN WITH UNDERBAR"),
    (0x2AAA, "SMALLER THAN,LARGER THAN,SMALLER THAN OR EQUAL TO,LARGER THAN OR EQUAL TO"),
    (0x2AAE, "EQUALS SIGN WITH BUMPY ABOVE,PRECEDES ABOVE SINGLE-LINE EQUALS SIGN"),
    (0x2AB0, "SUCCEEDS ABOVE SINGLE-LINE EQUALS SIGN"),
    (0x2AB1, "PRECEDES ABOVE SINGLE-LINE NOT EQUAL TO"),
    (0x2AB2, "SUCCEEDS ABOVE SINGLE-LINE NOT EQUAL TO,PRECEDES ABOVE EQUALS SIGN"),
    (0x2AB4, "SUCCEEDS ABOVE EQUALS SIGN,PRECEDES ABOVE NOT EQUAL TO"),
    (0x2AB6, "SUCCEEDS ABOVE NOT EQUAL TO,PRECEDES ABOVE ALMOST EQUAL TO"),
    (0x2AB8, "SUCCEEDS ABOVE ALMOST EQUAL TO,PRECEDES ABOVE NOT ALMOST EQUAL TO"),
    (0x2ABA, "SUCCEEDS ABOVE NOT ALMOST EQUAL TO,DOUBLE PRECEDES,DOUBLE SUCCEEDS"),
    (0x2ABD, "SUBSET WITH DOT,,SUBSET WITH PLUS SIGN BELOW"),
    (0x2AC1, "SUBSET WITH MULTIPLICATION SIGN BELOW,,SUBSET OF OR EQUAL TO WITH DOT ABOVE"),
    (0x2AC5, "SUBSET OF ABOVE EQUALS SIGN,,SUBSET OF ABOVE TILDE OPERATOR"),
    (0x2AC9, "SUBSET OF ABOVE ALMOST EQUAL TO,,SUBSET OF ABOVE NOT EQUAL TO"),
    (0x2ACF, "CLOSED SUBSET,CLOSED SUPERSET,CLOSED SUBSET OR EQUAL TO"),
    (0x2AD2, "CLOSED SUPERSET OR EQUAL TO,SUBSET ABOVE SUPERSET,,SUBSET ABOVE SUBSET"),
    (0x2AD9, "ELEMENT OF OPENING DOWNWARDS,PITCHFORK WITH TEE TOP,TRANSVERSAL INTERSECTION"),
    (0x2ADC, "FORKING,NONFORKING,SHORT LEFT TACK,SHORT DOWN TACK,SHORT UP TACK"),
    (0x2AE1, "PERPENDICULAR WITH S,VERTICAL BAR TRIPLE RIGHT TURNSTILE"),
    (0x2AE3, "DOUBLE VERTICAL BAR LEFT TURNSTILE,VERTICAL BAR DOUBLE LEFT TURNSTILE"),
    (0x2AE5, "DOUBLE VERTICAL BAR DOUBLE LEFT TURNSTILE"),
    (0x2AE6, "LONG DASH FROM LEFT MEMBER OF DOUBLE VERTICAL,SHORT DOWN TACK WITH OVERBAR"),
    (0x2AE8, "SHORT UP TACK WITH UNDERBAR,SHORT UP TACK ABOVE SHORT DOWN TACK"),
    (0x2AEA, "DOUBLE DOWN TACK,DOUBLE UP TACK,DOUBLE STROKE NOT SIGN"),
    (0x2AED, "REVERSED DOUBLE STROKE NOT SIGN,,VERTICAL LINE WITH CIRCLE ABOVE"),
    (0x2AF0, "VERTICAL LINE WITH CIRCLE BELOW,DOWN TACK WITH CIRCLE BELOW"),
    (0x2AF2, "PARALLEL WITH HORIZONTAL STROKE,PARALLEL WITH TILDE OPERATOR"),
    (0x2AF4, "TRIPLE VERTICAL BAR BINARY RELATION"),
    (0x2AF5, "TRIPLE VERTICAL BAR WITH HORIZONTAL STROKE,TRIPLE COLON OPERATOR"),
    (0x2AF7, "TRIPLE NESTED LESS-THAN,TRIPLE NESTED GREATER-THAN"),
    (0x2AF9, "DOUBLE-LINE SLANTED LESS-THAN OR EQUAL TO"),
    (0x2AFA, "DOUBLE-LINE SLANTED GREATER-THAN OR EQUAL TO,TRIPLE SOLIDUS BINARY RELATION"),
    (0x2AFD, "DOUBLE SOLIDUS OPERATOR,WHITE VERTICAL BAR,,NORTH EAST WHITE ARROW"),
    (0x2B01, "NORTH WEST WHITE ARROW,SOUTH EAST WHITE ARROW,SOUTH WEST WHITE ARROW"),
    (0x2B06, "UPWARDS BLACK ARROW,DOWNWARDS BLACK ARROW,NORTH EAST BLACK ARROW"),
    (0x2B09, "NORTH WEST BLACK ARROW,SOUTH EAST BLACK ARROW,SOUTH WEST BLACK ARROW"),
    (0x2B0D, "UP DOWN BLACK ARROW,,,,,,,,,DIAMOND WITH LEFT HALF BLACK"),
    (0x2B17, "DIAMOND WITH RIGHT HALF BLACK,DIAMOND WITH TOP HALF BLACK"),
    (0x2B19, "DIAMOND WITH BOTTOM HALF BLACK,DOTTED SQUARE,BLACK LARGE SQUARE"),
    (0x2B1C, "WHITE LARGE SQUARE,BLACK VERY SMALL SQUARE,WHITE VERY SMALL SQUARE"),
    (0x2B1F, "BLACK PENTAGON,WHITE PENTAGON,WHITE HEXAGON,BLACK HEXAGON,,BLACK LARGE CIRCLE"),
    (0x2B25, "BLACK MEDIUM DIAMOND,WHITE MEDIUM DIAMOND,BLACK MEDIUM LOZENGE"),
    (0x2B28, "WHITE MEDIUM LOZENGE,BLACK SMALL DIAMOND,BLACK SMALL LOZENGE"),
    (0x2B2B, "WHITE SMALL LOZENGE,BLACK HORIZONTAL ELLIPSE,WHITE HORIZONTAL ELLIPSE"),
    (0x2B2E, "BLACK VERTICAL ELLIPSE,WHITE VERTICAL ELLIPSE,LEFT ARROW WITH SMALL CIRCLE"),
    (0x2B31, "THREE LEFTWARDS ARROWS,LEFT ARROW WITH CIRCLED PLUS"),
    (0x2B33, "LONG LEFTWARDS SQUIGGLE ARROW"),
    (0x2B3F, "WAVE ARROW POINTING DIRECTLY LEFT,EQUALS SIGN ABOVE LEFTWARDS ARROW"),
    (0x2B41, "REVERSE TILDE OPERATOR ABOVE LEFTWARDS ARROW"),
    (0x2B47, "REVERSE TILDE OPERATOR ABOVE RIGHTWARDS ARROW"),
    (0x2B49, "TILDE OPERATOR ABOVE LEFTWARDS ARROW,,,,,SHORT SLANTED NORTH ARROW"),
    (0x2B4F, "SHORT BACKSLANTED SOUTH ARROW,WHITE MEDIUM STAR,BLACK SMALL STAR"),
    (0x2B52, "WHITE SMALL STAR,,,,,,,,SLANTED NORTH ARROW WITH HOOKED HEAD"),
    (0x2B5B, "BACKSLANTED SOUTH ARROW WITH HOOKED TAIL"),
    (0x2B5C, "SLANTED NORTH ARROW WITH HORIZONTAL TAIL"),
    (0x2B5D, "BACKSLANTED SOUTH ARROW WITH HORIZONTAL TAIL"),
    (0x2B5E, "BENT ARROW POINTING DOWNWARDS THEN NORTH EAST"),
    (0x2B5F, "SHORT BENT ARROW POINTING DOWNWARDS THEN NORTH EAST"),
    (0x2B65, "UP DOWN TRIANGLE-HEADED ARROW,NORTH WEST TRIANGLE-HEADED ARROW"),
    (0x2B67, "NORTH EAST TRIANGLE-HEADED ARROW,SOUTH EAST TRIANGLE-HEADED ARROW"),
    (0x2B69, "SOUTH WEST TRIANGLE-HEADED ARROW"),
    (0x2B6E, "CLOCKWISE TRIANGLE-HEADED OPEN CIRCLE ARROW"),
    (0x2B76, "NORTH WEST TRIANGLE-HEADED ARROW TO BAR"),
    (0x2B77, "NORTH EAST TRIANGLE-HEADED ARROW TO BAR"),
    (0x2B78, "SOUTH EAST TRIANGLE-HEADED ARROW TO BAR"),
    (0x2B79, "SOUTH WEST TRIANGLE-HEADED ARROW TO BAR,,,,,,VERTICAL TAB KEY"),
    (0x2B89, "UPWARDS BLACK CIRCLED WHITE ARROW,,DOWNWARDS BLACK CIRCLED WHITE ARROW"),
    (0x2B90, "RETURN LEFT,RETURN RIGHT,NEWLINE LEFT,NEWLINE RIGHT"),
    (0x2B94, "FOUR CORNER ARROWS CIRCLING ANTICLOCKWISE"),
    (0x2B98, "THREE-D TOP-LIGHTED LEFTWARDS EQUILATERAL ARROWHEAD"),
    (0x2B99, "THREE-D RIGHT-LIGHTED UPWARDS EQUILATERAL ARROWHEAD"),
    (0x2B9A, "THREE-D TOP-LIGHTED RIGHTWARDS EQUILATERAL ARROWHEAD"),
    (0x2B9B, "THREE-D LEFT-LIGHTED DOWNWARDS EQUILATERAL ARROWHEAD"),
    (0x2B9C, "BLACK LEFTWARDS EQUILATERAL ARROWHEAD,BLACK UPWARDS EQUILATERAL ARROWHEAD"),
    (0x2B9E, "BLACK RIGHTWARDS EQUILATERAL ARROWHEAD,BLACK DOWNWARDS EQUILATERAL ARROWHEAD"),
    (0x2BB8, "UPWARDS WHITE ARROW FROM BAR WITH HORIZONTAL BAR"),
    (0x2BB9, "UP ARROWHEAD IN A RECTANGLE BOX,OVERLAPPING WHITE SQUARES"),
    (0x2BBB, "OVERLAPPING WHITE AND BLACK SQUARES,OVERLAPPING BLACK SQUARES"),
    (0x2BC0, "BLACK SQUARE CENTRED,BLACK DIAMOND CENTRED,TURNED BLACK PENTAGON"),
    (0x2BC4, "BLACK OCTAGON,BLACK MEDIUM UP-POINTING TRIANGLE CENTRED"),
    (0x2BC6, "BLACK MEDIUM DOWN-POINTING TRIANGLE CENTRED"),
    (0x2BC7, "BLACK MEDIUM LEFT-POINTING TRIANGLE CENTRED"),
    (0x2BC8, "BLACK MEDIUM RIGHT-POINTING TRIANGLE CENTRED,NEPTUNE FORM TWO"),
    (0x2BCA, "TOP HALF BLACK CIRCLE,BOTTOM HALF BLACK CIRCLE,LIGHT FOUR POINTED BLACK CUSP"),
    (0x2BCD, "ROTATED LIGHT FOUR POINTED BLACK CUSP,WHITE FOUR POINTED CUSP"),
    (0x2BCF, "ROTATED WHITE FOUR POINTED CUSP,,UNCERTAINTY SIGN,GROUP MARK,PLUTO FORM TWO"),
    (0x2BD4, "PLUTO FORM THREE,PLUTO FORM FOUR,PLUTO FORM FIVE,TRANSPLUTO,PROSERPINA"),
    (0x2BD9, "ASTRAEA,HYGIEA,PHOLUS,NESSUS,WHITE MOON SELENA,BLACK DIAMOND ON CROSS"),
    (0x2BDF, "TRUE LIGHT MOON ARTA,CUPIDO,HADES,ZEUS,KRONOS,APOLLON,ADMETOS,VULCANUS"),
    (0x2BE7, "POSEIDON,LEFT HALF BLACK STAR,RIGHT HALF BLACK STAR,STAR WITH LEFT HALF BLACK"),
    (0x2BEB, "STAR WITH RIGHT HALF BLACK,,UPWARDS TWO-HEADED ARROW WITH TRIANGLE ARROWHEADS"),
    (0x2BEF, "DOWNWARDS TWO-HEADED ARROW WITH TRIANGLE ARROWHEADS,ERIS FORM ONE"),
    (0x2BF1, "ERIS FORM TWO,SEDNA,,,,,,,EQUALS SIGN WITH INFINITY BELOW,UNITED SYMBOL"),
    (0x2BFB, "SEPARATED SYMBOL,DOUBLED SYMBOL,PASSED SYMBOL,REVERSED RIGHT ANGLE"),
    (0x2BFF, "HELLSCHREIBER PAUSE SYMBOL"),
    (0x1F801, "UPWARDS ARROW WITH SMALL TRIANGLE ARROWHEAD"),
    (0x1F805, "UPWARDS ARROW WITH MEDIUM TRIANGLE ARROWHEAD"),
    (0x1F809, "UPWARDS ARROW WITH LARGE TRIANGLE ARROWHEAD"),
    (0x1F811, "UPWARDS ARROW WITH SMALL EQUILATERAL ARROWHEAD"),
    (0x1F815, "UPWARDS ARROW WITH EQUILATERAL ARROWHEAD"),
    (0x1F835, "UPWARDS FINGER-POST ARROW,,DOWNWARDS FINGER-POST ARROW,,UPWARDS SQUARED ARROW"),
    (0x1F83B, "DOWNWARDS SQUARED ARROW,,UPWARDS COMPRESSED ARROW,,DOWNWARDS COMPRESSED ARROW"),
    (0x1F841, "UPWARDS HEAVY COMPRESSED ARROW,,DOWNWARDS HEAVY COMPRESSED ARROW"),
    (0x1F845, "UPWARDS HEAVY ARROW,,DOWNWARDS HEAVY ARROW"),
    (0x1F851, "UPWARDS SANS-SERIF ARROW,,DOWNWARDS SANS-SERIF ARROW"),
    (0x1F854, "NORTH WEST SANS-SERIF ARROW,NORTH EAST SANS-SERIF ARROW"),
    (0x1F856, "SOUTH EAST SANS-SERIF ARROW,SOUTH WEST SANS-SERIF ARROW"),
    (0x1F859, "UP DOWN SANS-SERIF ARROW"),
    (0x1F891, "UPWARDS TRIANGLE ARROWHEAD,,DOWNWARDS TRIANGLE ARROWHEAD"),
    (0x1F895, "UPWARDS WHITE ARROW WITHIN TRIANGLE ARROWHEAD"),
    (0x1F897, "DOWNWARDS WHITE ARROW WITHIN TRIANGLE ARROWHEAD"),
    (0x1F899, "UPWARDS ARROW WITH NOTCHED TAIL"),
    (0x1F8AC, "WHITE ARROW SHAFT WIDTH ONE,WHITE ARROW SHAFT WIDTH TWO THIRDS")]⟩,
  ⟨"LESS-THAN ", [(0x3C, "SIGN"), (0x2264, "OR EQUAL TO,,OVER EQUAL TO,,BUT NOT EQUAL TO"),
    (0x2272, "OR EQUIVALENT TO,,,,OR GREATER-THAN"),
    (0x22D6, "WITH DOT,,,,EQUAL TO OR GREATER-THAN"), (0x22E6, "BUT NOT EQUIVALENT TO"),
    (0x2976, "ABOVE LEFTWARDS ARROW"),
    (0x2A79, "WITH CIRCLE INSIDE,,WITH QUESTION MARK ABOVE,,OR SLANTED EQUAL TO"),
    (0x2A7F, "OR SLANTED EQUAL TO WITH DOT INSIDE,,OR SLANTED EQUAL TO WITH DOT ABOVE"),
    (0x2A83, "OR SLANTED EQUAL TO WITH DOT ABOVE RIGHT,,OR APPROXIMATE"),
    (0x2A87, "AND SINGLE-LINE NOT EQUAL TO,,AND NOT APPROXIMATE"),
    (0x2A8B, "ABOVE DOUBLE-LINE EQUAL ABOVE GREATER-THAN,,ABOVE SIMILAR OR EQUAL"),
    (0x2A8F, "ABOVE SIMILAR ABOVE GREATER-THAN,,ABOVE GREATER-THAN ABOVE DOUBLE-LINE EQUAL"),
    (0x2A93, "ABOVE SLANTED EQUAL ABOVE GREATER-THAN ABOVE SLANTED EQUAL"),
    (0x2AA6, "CLOSED BY CURVE,,CLOSED BY CURVE ABOVE SLANTED EQUAL")]⟩,
  ⟨"GREATER-THAN ", [(0x3E, "SIGN"), (0x2265, "OR EQUAL TO,,OVER EQUAL TO,,BUT NOT EQUAL TO"),
    (0x2273, "OR EQUIVALENT TO,,,,OR LESS-THAN"), (0x22D7, "WITH DOT,,,,EQUAL TO OR LESS-THAN"),
    (0x22E7, "BUT NOT EQUIVALENT TO"), (0x2978, "ABOVE RIGHTWARDS ARROW"),
    (0x2A7A, "WITH CIRCLE INSIDE,,WITH QUESTION MARK ABOVE,,OR SLANTED EQUAL TO"),
    (0x2A80, "OR SLANTED EQUAL TO WITH DOT INSIDE,,OR SLANTED EQUAL TO WITH DOT ABOVE"),
    (0x2A84, "OR SLANTED EQUAL TO WITH DOT ABOVE LEFT,,OR APPROXIMATE"),
    (0x2A88, "AND SINGLE-LINE NOT EQUAL TO,,AND NOT APPROXIMATE"),
    (0x2A8C, "ABOVE DOUBLE-LINE EQUAL ABOVE LESS-THAN,,ABOVE SIMILAR OR EQUAL"),
    (0x2A90, "ABOVE SIMILAR ABOVE LESS-THAN,,ABOVE LESS-THAN ABOVE DOUBLE-LINE EQUAL"),
    (0x2A94, "ABOVE SLANTED EQUAL ABOVE LESS-THAN ABOVE SLANTED EQUAL"),
    (0x2AA4, "OVERLAPPING LESS-THAN,BESIDE LESS-THAN,,CLOSED BY CURVE"),
    (0x2AA9, "CLOSED BY CURVE ABOVE SLANTED EQUAL")]⟩,
  ⟨"MULTIPLICATION ", [(0xD7, "SIGN"), (0x2715, "X"),
    (0x2A30, "SIGN WITH DOT ABOVE,SIGN WITH UNDERBAR,,,SIGN IN LEFT HALF CIRCLE"),
    (0x2A35, "SIGN IN RIGHT HALF CIRCLE,,SIGN IN DOUBLE CIRCLE,,,,SIGN IN TRIANGLE")]⟩,
  ⟨"HORIZONTAL ", [(0x2015, "BAR"), (0x2026, "ELLIPSIS"), (0x23AF, "LINE EXTENSION"),
    (0x23BA, "SCAN LINE-1,SCAN LINE-3,SCAN LINE-7,SCAN LINE-9"), (0x26A9, "MALE WITH STROKE SIGN"),
    (0x2B23, "BLACK HEXAGON"), (0x2B7E, "TAB KEY"), (0x2BC3, "BLACK OCTAGON"),
    (0x1F6A5, "TRAFFIC LIGHT")]⟩,
  ⟨"LEFT SQUARE BRACKET ", [(0x2045, "WITH QUILL"), (0x23A1, "UPPER CORNER,EXTENSION,LOWER CORNER"),
    (0x298B, "WITH UNDERBAR,,WITH TICK IN TOP CORNER,,WITH TICK IN BOTTOM CORNER"),
    (0x2E55, "WITH STROKE,,WITH DOUBLE STROKE")]⟩,
  ⟨"RIGHT SQUARE BRACKET ", [(0x2046, "WITH QUILL"),
    (0x23A4, "UPPER CORNER,EXTENSION,LOWER CORNER"),
    (0x298C, "WITH UNDERBAR,,WITH TICK IN BOTTOM CORNER,,WITH TICK IN TOP CORNER"),
    (0x2E56, "WITH STROKE,,WITH DOUBLE STROKE")]⟩,
  ⟨"LEFTWARDS ", [(0x2190, "ARROW"), (0x219C, "WAVE ARROW,,TWO HEADED ARROW,,,,,,ARROW FROM BAR"),
    (0x21B9, "ARROW TO BAR OVER RIGHTWARDS ARROW TO BAR"),
    (0x21C6, "ARROW OVER RIGHTWARDS ARROW,PAIRED ARROWS,,,,HARPOON OVER RIGHTWARDS HARPOON"),
    (0x21CD, "DOUBLE ARROW WITH STROKE,,,DOUBLE ARROW"),
    (0x21DA, "TRIPLE ARROW,,SQUIGGLE ARROW,,,,DASHED ARROW,,,,ARROW TO BAR,,WHITE ARROW"),
    (0x21FD, "OPEN-HEADED ARROW"),
    (0x2902, "DOUBLE ARROW WITH VERTICAL STROKE,,,,DOUBLE ARROW FROM BAR"),
    (0x290C, "DOUBLE DASH ARROW,,TRIPLE DASH ARROW"),
    (0x2919, "ARROW-TAIL,,DOUBLE ARROW-TAIL,,ARROW TO BLACK DIAMOND"),
    (0x291F, "ARROW FROM BAR TO BLACK DIAMOND"), (0x2943, "ARROW ABOVE SHORT RIGHTWARDS ARROW"),
    (0x2973, "ARROW ABOVE TILDE OPERATOR,,,,ARROW THROUGH LESS-THAN,,,ARROW THROUGH SUBSET"),
    (0x2B05, "BLACK ARROW"),
    (0x2B3E, "ARROW THROUGH X,,,,ARROW ABOVE REVERSE ALMOST EQUAL TO,,,QUADRUPLE ARROW"),
    (0x2B4A, "ARROW ABOVE ALMOST EQUAL TO,ARROW ABOVE REVERSE TILDE OPERATOR"),
    (0x2B88, "BLACK CIRCLED WHITE ARROW"), (0x1F66C, "ROCKET"),
    (0x1F834, "FINGER-POST ARROW,,,,SQUARED ARROW,,,,COMPRESSED ARROW"),
    (0x1F840, "HEAVY COMPRESSED ARROW,,,,HEAVY ARROW"), (0x1F850, "SANS-SERIF ARROW"),
    (0x1F890, "TRIANGLE ARROWHEAD,,,,WHITE ARROW WITHIN TRIANGLE ARROWHEAD"),
    (0x1F8A0, "BOTTOM-SHADED WHITE ARROW,,TOP SHADED WHITE ARROW,,LEFT-SHADED WHITE ARROW"),
    (0x1F8A6, "RIGHT-SHADED WHITE ARROW,,BACK-TILTED SHADOWED WHITE ARROW"),
    (0x1F8AA, "FRONT-TILTED SHADOWED WHITE ARROW"), (0x1FAF2, "HAND"),
    (0x1FBB5, "ARROW AND UPPER AND LOWER ONE EIGHTH BLOCK")]⟩,
  ⟨"RIGHTWARDS ", [(0x2192, "ARROW"), (0x219D, "WAVE ARROW,,,TWO HEADED ARROW,,,,,,ARROW FROM BAR"),
    (0x21C4, "ARROW OVER LEFTWARDS ARROW,,,,,PAIRED ARROWS,,,HARPOON OVER LEFTWARDS HARPOON"),
    (0x21CF, "DOUBLE ARROW WITH STROKE,,,DOUBLE ARROW,,,,,,,,,TRIPLE ARROW,,SQUIGGLE ARROW"),
    (0x21E2, "DASHED ARROW,,,ARROW TO BAR,,,WHITE ARROW,,,,,,,,WHITE ARROW FROM WALL"),
    (0x21FE, "OPEN-HEADED ARROW"),
    (0x2903, "DOUBLE ARROW WITH VERTICAL STROKE,,,,DOUBLE ARROW FROM BAR"),
    (0x290D, "DOUBLE DASH ARROW,,TRIPLE DASH ARROW"),
    (0x291A, "ARROW-TAIL,,DOUBLE ARROW-TAIL,,ARROW TO BLACK DIAMOND"),
    (0x2920, "ARROW FROM BAR TO BLACK DIAMOND"),
    (0x2942, "ARROW ABOVE SHORT LEFTWARDS ARROW,,,,,ARROW THROUGH X"),
    (0x2974, "ARROW ABOVE TILDE OPERATOR,ARROW ABOVE ALMOST EQUAL TO"),
    (0x2B43, "ARROW THROUGH GREATER-THAN,ARROW THROUGH SUPERSET,,QUADRUPLE ARROW"),
    (0x2B48, "ARROW ABOVE REVERSE ALMOST EQUAL TO,,,,ARROW ABOVE REVERSE TILDE OPERATOR"),
    (0x2B8A, "BLACK CIRCLED WHITE ARROW"), (0x2B95, "BLACK ARROW"), (0x1F66E, "ROCKET"),
    (0x1F836, "FINGER-POST ARROW,,,,SQUARED ARROW,,,,COMPRESSED ARROW"),
    (0x1F842, "HEAVY COMPRESSED ARROW,,,,HEAVY ARROW"), (0x1F852, "SANS-SERIF ARROW"),
    (0x1F892, "TRIANGLE ARROWHEAD,,,,WHITE ARROW WITHIN TRIANGLE ARROWHEAD"),
    (0x1F8A1, "BOTTOM SHADED WHITE ARROW,,TOP SHADED WHITE ARROW,,RIGHT-SHADED WHITE ARROW"),
    (0x1F8A7, "LEFT-SHADED WHITE ARROW,,BACK-TILTED SHADOWED WHITE ARROW"),
    (0x1F8AB, "FRONT-TILTED SHADOWED WHITE ARROW"), (0x1FAF1, "HAND"),
    (0x1FBB6, "ARROW AND UPPER AND LOWER ONE EIGHTH BLOCK")]⟩,
  ⟨"LEFT RIGHT ", [(0x2194, "ARROW"), (0x21AD, "WAVE ARROW,ARROW WITH STROKE"),
    (0x21CE, "DOUBLE ARROW WITH STROKE,,,,,,DOUBLE ARROW"),
    (0x21F9, "ARROW WITH VERTICAL STROKE,,,ARROW WITH DOUBLE VERTICAL STROKE"),
    (0x21FF, "OPEN-HEADED ARROW"), (0x2904, "DOUBLE ARROW WITH VERTICAL STROKE"),
    (0x2948, "ARROW THROUGH SMALL CIRCLE"), (0x2B04, "WHITE ARROW,,,,,,,,BLACK ARROW"),
    (0x2B64, "TRIANGLE-HEADED ARROW"), (0x1F858, "SANS-SERIF ARROW")]⟩,
  ⟨"LEFTWARDS ARROW WITH ", [(0x219A, "STROKE,,,,,,,,TAIL,,,,,,,HOOK,,LOOP"),
    (0x21F7, "VERTICAL STROKE,,,DOUBLE VERTICAL STROKE"), (0x2946, "PLUS BELOW"),
    (0x2B10, "TIP DOWNWARDS,TIP UPWARDS"),
    (0x2B38, "DOTTED STEM,TAIL WITH VERTICAL STROKE,TAIL WITH DOUBLE VERTICAL STROKE"),
    (0x1F800, "SMALL TRIANGLE ARROWHEAD,,,,MEDIUM TRIANGLE ARROWHEAD"),
    (0x1F808, "LARGE TRIANGLE ARROWHEAD,,,,,,,,SMALL EQUILATERAL ARROWHEAD"),
    (0x1F814, "EQUILATERAL ARROWHEAD"), (0x1F898, "NOTCHED TAIL")]⟩,
  ⟨"RIGHTWARDS ARROW WITH ",
    [(0x219B, "STROKE,,,,,,,,TAIL,,,,,,,HOOK,,LOOP,,,,,,,,CORNER DOWNWARDS"),
    (0x21F8, "VERTICAL STROKE,,,DOUBLE VERTICAL STROKE"),
    (0x2911, "DOTTED STEM,,,TAIL WITH VERTICAL STROKE,TAIL WITH DOUBLE VERTICAL STROKE"),
    (0x2945, "PLUS BELOW"), (0x2B0E, "TIP DOWNWARDS,TIP UPWARDS"),
    (0x1F802, "SMALL TRIANGLE ARROWHEAD,,,,MEDIUM TRIANGLE ARROWHEAD"),
    (0x1F80A, "LARGE TRIANGLE ARROWHEAD,,,,,,,,SMALL EQUILATERAL ARROWHEAD"),
    (0x1F816, "EQUILATERAL ARROWHEAD"), (0x1F89A, "NOTCHED TAIL")]⟩,
  ⟨"DOWNWARDS ARROW WITH ", [(0x21B2, "TIP LEFTWARDS,TIP RIGHTWARDS,,CORNER LEFTWARDS"),
    (0x21DF, "DOUBLE STROKE"), (0x2908, "HORIZONTAL STROKE"),
    (0x1F803, "SMALL TRIANGLE ARROWHEAD,,,,MEDIUM TRIANGLE ARROWHEAD"),
    (0x1F80B, "LARGE TRIANGLE ARROWHEAD,,,,,,,,SMALL EQUILATERAL ARROWHEAD"),
    (0x1F817, "EQUILATERAL ARROWHEAD"), (0x1F89B, "NOTCHED TAIL")]⟩,
  ⟨"LEFTWARDS HARPOON WITH BARB ", [(0x21BC, "UPWARDS,DOWNWARDS"),
    (0x2952, "UP TO BAR,,,,DOWN TO BAR,,,,UP FROM BAR,,,,DOWN FROM BAR"),
    (0x2962, "UP ABOVE LEFTWARDS HARPOON WITH BARB DOWN"),
    (0x2966, "UP ABOVE RIGHTWARDS HARPOON WITH BARB UP"),
    (0x2967, "DOWN ABOVE RIGHTWARDS HARPOON WITH BARB DOWN,,,UP ABOVE LONG DASH"),
    (0x296B, "DOWN BELOW LONG DASH")]⟩,
  ⟨"UPWARDS HARPOON WITH BARB ", [(0x21BE, "RIGHTWARDS,LEFTWARDS"),
    (0x2954, "RIGHT TO BAR,,,,LEFT TO BAR,,,,RIGHT FROM BAR,,,,LEFT FROM BAR"),
    (0x2963, "LEFT BESIDE UPWARDS HARPOON WITH BARB RIGHT"),
    (0x296E, "LEFT BESIDE DOWNWARDS HARPOON WITH BARB RIGHT")]⟩,
  ⟨"RIGHTWARDS HARPOON WITH BARB ", [(0x21C0, "UPWARDS,DOWNWARDS"),
    (0x2953, "UP TO BAR,,,,DOWN TO BAR,,,,UP FROM BAR,,,,DOWN FROM BAR"),
    (0x2964, "UP ABOVE RIGHTWARDS HARPOON WITH BARB DOWN"),
    (0x2968, "UP ABOVE LEFTWARDS HARPOON WITH BARB UP"),
    (0x2969, "DOWN ABOVE LEFTWARDS HARPOON WITH BARB DOWN,,,UP ABOVE LONG DASH"),
    (0x296D, "DOWN BELOW LONG DASH")]⟩,
  ⟨"DOWNWARDS HARPOON WITH BARB ", [(0x21C2, "RIGHTWARDS,LEFTWARDS"),
    (0x2955, "RIGHT TO BAR,,,,LEFT TO BAR,,,,RIGHT FROM BAR,,,,LEFT FROM BAR"),
    (0x2965, "LEFT BESIDE DOWNWARDS HARPOON WITH BARB RIGHT"),
    (0x296F, "LEFT BESIDE UPWARDS HARPOON WITH BARB RIGHT")]⟩,
  ⟨"DOES NOT ", [(0x220C, "CONTAIN AS MEMBER"), (0x2224, "DIVIDE"), (0x2280, "PRECEDE,SUCCEED"),
    (0x22AC, "PROVE,,FORCE"), (0x22E0, "PRECEDE OR EQUAL,SUCCEED OR EQUAL"),
    (0x22EB, "CONTAIN AS NORMAL SUBGROUP,,CONTAIN AS NORMAL SUBGROUP OR EQUAL"),
    (0x2AEE, "DIVIDE WITH REVERSED NEGATION SLASH")]⟩,
  ⟨"N-ARY ", [(0x220F, "PRODUCT,COPRODUCT,SUMMATION"),
    (0x22C0, "LOGICAL AND,LOGICAL OR,INTERSECTION,UNION"),
    (0x2A00, "CIRCLED DOT OPERATOR,CIRCLED PLUS OPERATOR,CIRCLED TIMES OPERATOR"),
    (0x2A03, "UNION OPERATOR WITH DOT,UNION OPERATOR WITH PLUS,SQUARE INTERSECTION OPERATOR"),
    (0x2A06, "SQUARE UNION OPERATOR,,,TIMES OPERATOR"), (0x2AFF, "WHITE VERTICAL BAR")]⟩,
  ⟨"SUPERSET ", [(0x2283, "OF,,,,OF OR EQUAL TO,,,,OF WITH NOT EQUAL TO"),
    (0x27C9, "PRECEDING SOLIDUS"), (0x297B, "ABOVE LEFTWARDS ARROW"),
    (0x2ABE, "WITH DOT,,WITH PLUS SIGN BELOW,,WITH MULTIPLICATION SIGN BELOW"),
    (0x2AC4, "OF OR EQUAL TO WITH DOT ABOVE,,OF ABOVE EQUALS SIGN,,OF ABOVE TILDE OPERATOR"),
    (0x2ACA, "OF ABOVE ALMOST EQUAL TO,,OF ABOVE NOT EQUAL TO,,,,,,,,ABOVE SUBSET"),
    (0x2AD6, "ABOVE SUPERSET,BESIDE SUBSET,BESIDE AND JOINED BY DASH WITH SUBSET")]⟩,
  ⟨"SQUARE ORIGIN", [(0x2290, "AL OF,,AL OF OR EQUAL TO"), (0x22E5, "AL OF OR NOT EQUAL TO")]⟩,
  ⟨"CIRCLED ",
    [(0x2295, "PLUS,MINUS,TIMES,DIVISION SLASH,DOT OPERATOR,RING OPERATOR,ASTERISK OPERATOR"),
    (0x229C, "EQUALS,DASH"), (0x2389, "HORIZONTAL BAR WITH NOTCH,TRIANGLE DOWN"),
    (0x26D2, "CROSSING LANES"), (0x272A, "WHITE STAR"), (0x2742, "OPEN CENTRE EIGHT POINTED STAR"),
    (0x27B2, "HEAVY WHITE RIGHTWARDS ARROW"),
    (0x29B6, "VERTICAL BAR,PARALLEL,REVERSE SOLIDUS,PERPENDICULAR"),
    (0x29BC, "ANTICLOCKWISE-ROTATED DIVISION SIGN,,WHITE BULLET,BULLET,LESS-THAN"),
    (0x29C1, "GREATER-THAN"), (0x2A36, "MULTIPLICATION SIGN WITH CIRCUMFLEX ACCENT,,DIVISION SIGN"),
    (0x2BBE, "X,BOLD X"), (0x3036, "POSTAL MARK"),
    (0x327C, "KOREAN CHARACTER CHAMKO,KOREAN CHARACTER JUEUI"),
    (0x1F10D, "ZERO WITH SLASH,ANTICLOCKWISE ARROW,DOLLAR SIGN WITH OVERLAID BACKSLASH"),
    (0x1F12B, "ITALIC LATIN CAPITAL LETTER C,ITALIC LATIN CAPITAL LETTER R,CD,WZ"),
    (0x1F16D, "CC,C WITH OVERLAID BACKSLASH,HUMAN FIGURE"), (0x1F540, "CROSS POMMEE"),
    (0x1F6C8, "INFORMATION SOURCE"), (0x1F7D5, "TRIANGLE,,SQUARE"),
    (0x1F900, "CROSS FORMEE WITH FOUR DOTS,CROSS FORMEE WITH TWO DOTS,CROSS FORMEE")]⟩,
  ⟨"ORIGIN", [(0x22B6, "AL OF")]⟩,
  ⟨"NOT SQUARE ORIGIN", [(0x22E3, "AL OF OR EQUAL TO")]⟩,
  ⟨"Z NOTATION ", [(0x22FF, "BAG MEMBERSHIP"),
    (0x2981, "SPOT,TYPE COLON,,,,,LEFT IMAGE BRACKET,RIGHT IMAGE BRACKET"),
    (0x2989, "LEFT BINDING BRACKET,RIGHT BINDING BRACKET"),
    (0x2A1F, "SCHEMA COMPOSITION,SCHEMA PIPING,SCHEMA PROJECTION"),
    (0x2A3E, "RELATIONAL COMPOSITION"), (0x2A64, "DOMAIN ANTIRESTRICTION,RANGE ANTIRESTRICTION")]⟩,
  ⟨"APL FUNCTIONAL SYMBOL ",
    [(0x2336, "I-BEAM,SQUISH QUAD,QUAD EQUAL,QUAD DIVIDE,QUAD DIAMOND,QUAD JOT,QUAD CIRCLE"),
    (0x233D, "CIRCLE STILE,CIRCLE JOT,SLASH BAR,BACKSLASH BAR,QUAD SLASH,QUAD BACKSLASH"),
    (0x2343, "QUAD LESS-THAN,QUAD GREATER-THAN,LEFTWARDS VANE,RIGHTWARDS VANE"),
    (0x2347, "QUAD LEFTWARDS ARROW,QUAD RIGHTWARDS ARROW,CIRCLE BACKSLASH"),
    (0x234A, "DOWN TACK UNDERBAR,DELTA STILE,QUAD DOWN CARET,QUAD DELTA,DOWN TACK JOT"),
    (0x234F, "UPWARDS VANE,QUAD UPWARDS ARROW,UP TACK OVERBAR,DEL STILE,QUAD UP CARET"),
    (0x2354, "QUAD DEL,UP TACK JOT,DOWNWARDS VANE,QUAD DOWNWARDS ARROW,QUOTE UNDERBAR"),
    (0x2359, "DELTA UNDERBAR,DIAMOND UNDERBAR,JOT UNDERBAR,CIRCLE UNDERBAR,UP SHOE JOT"),
    (0x235E, "QUOTE QUAD,CIRCLE STAR,QUAD COLON,UP TACK DIAERESIS,DEL DIAERESIS"),
    (0x2363, "STAR DIAERESIS,JOT DIAERESIS,CIRCLE DIAERESIS,DOWN SHOE STILE,LEFT SHOE STILE"),
    (0x2368, "TILDE DIAERESIS,GREATER-THAN DIAERESIS,COMMA BAR,DEL TILDE,ZILDE,STILE TILDE"),
    (0x236E, "SEMICOLON UNDERBAR,QUAD NOT EQUAL,QUAD QUESTION,DOWN CARET TILDE"),
    (0x2372, "UP CARET TILDE,IOTA,RHO,OMEGA,ALPHA UNDERBAR,EPSILON UNDERBAR,IOTA UNDERBAR"),
    (0x2379, "OMEGA UNDERBAR,ALPHA"), (0x2395, "QUAD")]⟩,
  ⟨"INTEGRAL ", [(0x23AE, "EXTENSION"),
    (0x2A0E, "WITH DOUBLE STROKE,AVERAGE WITH SLASH,,,,,,AROUND A POINT OPERATOR"),
    (0x2A17, "WITH LEFTWARDS ARROW WITH HOOK,WITH TIMES SIGN,WITH INTERSECTION,WITH UNION"),
    (0x2A1B, "WITH OVERBAR,WITH UNDERBAR")]⟩,
  ⟨"DENTISTRY SYMBOL LIGHT ",
    [(0x23BE, "VERTICAL AND TOP RIGHT,VERTICAL AND BOTTOM RIGHT,VERTICAL WITH CIRCLE"),
    (0x23C1, "DOWN AND HORIZONTAL WITH CIRCLE,UP AND HORIZONTAL WITH CIRCLE"),
    (0x23C3, "VERTICAL WITH TRIANGLE,DOWN AND HORIZONTAL WITH TRIANGLE"),
    (0x23C5, "UP AND HORIZONTAL WITH TRIANGLE,VERTICAL AND WAVE"),
    (0x23C7, "DOWN AND HORIZONTAL WITH WAVE,UP AND HORIZONTAL WITH WAVE,DOWN AND HORIZONTAL"),
    (0x23CA, "UP AND HORIZONTAL,VERTICAL AND TOP LEFT,VERTICAL AND BOTTOM LEFT")]⟩,
  ⟨"METRICAL ", [(0x23D1, "BREVE,LONG OVER SHORT,SHORT OVER LONG,LONG OVER TWO SHORTS"),
    (0x23D5, "TWO SHORTS OVER LONG,TWO SHORTS JOINED,TRISEME,TETRASEME,PENTASEME")]⟩,
  ⟨"BLACK RIGHT-POINTING ", [(0x23E9, "DOUBLE TRIANGLE,,,,DOUBLE TRIANGLE WITH VERTICAL BAR"),
    (0x23EF, "TRIANGLE WITH DOUBLE VERTICAL BAR"), (0x25B6, "TRIANGLE,,SMALL TRIANGLE,,POINTER"),
    (0x2B53, "PENTAGON"), (0x1F782, "ISOSCELES RIGHT TRIANGLE")]⟩,
  ⟨"BLACK LEFT-POINTING ", [(0x23EA, "DOUBLE TRIANGLE,,,,DOUBLE TRIANGLE WITH VERTICAL BAR"),
    (0x25C0, "TRIANGLE,,SMALL TRIANGLE,,POINTER"), (0x1F780, "ISOSCELES RIGHT TRIANGLE")]⟩,
  ⟨"BLACK UP-POINTING ", [(0x23EB, "DOUBLE TRIANGLE"), (0x25B2, "TRIANGLE,,SMALL TRIANGLE"),
    (0x1F781, "ISOSCELES RIGHT TRIANGLE")]⟩,
  ⟨"BLACK DOWN-POINTING ", [(0x23EC, "DOUBLE TRIANGLE"), (0x25BC, "TRIANGLE,,SMALL TRIANGLE"),
    (0x1F783, "ISOSCELES RIGHT TRIANGLE")]⟩,
  ⟨"BOX DRAWINGS ", [(0x2500, "LIGHT HORIZONTAL,HEAVY HORIZONTAL,LIGHT VERTICAL,HEAVY VERTICAL"),
    (0x2504, "LIGHT TRIPLE DASH HORIZONTAL,HEAVY TRIPLE DASH HORIZONTAL"),
    (0x2506, "LIGHT TRIPLE DASH VERTICAL,HEAVY TRIPLE DASH VERTICAL"),
    (0x2508, "LIGHT QUADRUPLE DASH HORIZONTAL,HEAVY QUADRUPLE DASH HORIZONTAL"),
    (0x250A, "LIGHT QUADRUPLE DASH VERTICAL,HEAVY QUADRUPLE DASH VERTICAL"),
    (0x250C, "LIGHT DOWN AND RIGHT,DOWN LIGHT AND RIGHT HEAVY,DOWN HEAVY AND RIGHT LIGHT"),
    (0x250F, "HEAVY DOWN AND RIGHT,LIGHT DOWN AND LEFT,DOWN LIGHT AND LEFT HEAVY"),
    (0x2512, "DOWN HEAVY AND LEFT LIGHT,HEAVY DOWN AND LEFT,LIGHT UP AND RIGHT"),
    (0x2515, "UP LIGHT AND RIGHT HEAVY,UP HEAVY AND RIGHT LIGHT,HEAVY UP AND RIGHT"),
    (0x2518, "LIGHT UP AND LEFT,UP LIGHT AND LEFT HEAVY,UP HEAVY AND LEFT LIGHT"),
    (0x251B, "HEAVY UP AND LEFT,LIGHT VERTICAL AND RIGHT,VERTICAL LIGHT AND RIGHT HEAVY"),
    (0x251E, "UP HEAVY AND RIGHT DOWN LIGHT,DOWN HEAVY AND RIGHT UP LIGHT"),
    (0x2520, "VERTICAL HEAVY AND RIGHT LIGHT,DOWN LIGHT AND RIGHT UP HEAVY"),
    (0x2522, "UP LIGHT AND RIGHT DOWN HEAVY,HEAVY VERTICAL AND RIGHT"),
    (0x2524, "LIGHT VERTICAL AND LEFT,VERTICAL LIGHT AND LEFT HEAVY"),
    (0x2526, "UP HEAVY AND LEFT DOWN LIGHT,DOWN HEAVY AND LEFT UP LIGHT"),
    (0x2528, "VERTICAL HEAVY AND LEFT LIGHT,DOWN LIGHT AND LEFT UP HEAVY"),
    (0x252A, "UP LIGHT AND LEFT DOWN HEAVY,HEAVY VERTICAL AND LEFT"),
    (0x252C, "LIGHT DOWN AND HORIZONTAL,LEFT HEAVY AND RIGHT DOWN LIGHT"),
    (0x252E, "RIGHT HEAVY AND LEFT DOWN LIGHT,DOWN LIGHT AND HORIZONTAL HEAVY"),
    (0x2530, "DOWN HEAVY AND HORIZONTAL LIGHT,RIGHT LIGHT AND LEFT DOWN HEAVY"),
    (0x2532, "LEFT LIGHT AND RIGHT DOWN HEAVY,HEAVY DOWN AND HORIZONTAL"),
    (0x2534, "LIGHT UP AND HORIZONTAL,LEFT HEAVY AND RIGHT UP LIGHT"),
    (0x2536, "RIGHT HEAVY AND LEFT UP LIGHT,UP LIGHT AND HORIZONTAL HEAVY"),
    (0x2538, "UP HEAVY AND HORIZONTAL LIGHT,RIGHT LIGHT AND LEFT UP HEAVY"),
    (0x253A, "LEFT LIGHT AND RIGHT UP HEAVY,HEAVY UP AND HORIZONTAL"),
    (0x253C, "LIGHT VERTICAL AND HORIZONTAL,LEFT HEAVY AND RIGHT VERTICAL LIGHT"),
    (0x253E, "RIGHT HEAVY AND LEFT VERTICAL LIGHT,VERTICAL LIGHT AND HORIZONTAL HEAVY"),
    (0x2540, "UP HEAVY AND DOWN HORIZONTAL LIGHT,DOWN HEAVY AND UP HORIZONTAL LIGHT"),
    (0x2542, "VERTICAL HEAVY AND HORIZONTAL LIGHT,LEFT UP HEAVY AND RIGHT DOWN LIGHT"),
    (0x2544, "RIGHT UP HEAVY AND LEFT DOWN LIGHT,LEFT DOWN HEAVY AND RIGHT UP LIGHT"),
    (0x2546, "RIGHT DOWN HEAVY AND LEFT UP LIGHT,DOWN LIGHT AND UP HORIZONTAL HEAVY"),
    (0x2548, "UP LIGHT AND DOWN HORIZONTAL HEAVY,RIGHT LIGHT AND LEFT VERTICAL HEAVY"),
    (0x254A, "LEFT LIGHT AND RIGHT VERTICAL HEAVY,HEAVY VERTICAL AND HORIZONTAL"),
    (0x254C, "LIGHT DOUBLE DASH HORIZONTAL,HEAVY DOUBLE DASH HORIZONTAL"),
    (0x254E, "LIGHT DOUBLE DASH VERTICAL,HEAVY DOUBLE DASH VERTICAL,DOUBLE HORIZONTAL"),
    (0x2551, "DOUBLE VERTICAL,DOWN SINGLE AND RIGHT DOUBLE,DOWN DOUBLE AND RIGHT SINGLE"),
    (0x2554, "DOUBLE DOWN AND RIGHT,DOWN SINGLE AND LEFT DOUBLE,DOWN DOUBLE AND LEFT SINGLE"),
    (0x2557, "DOUBLE DOWN AND LEFT,UP SINGLE AND RIGHT DOUBLE,UP DOUBLE AND RIGHT SINGLE"),
    (0x255A, "DOUBLE UP AND RIGHT,UP SINGLE AND LEFT DOUBLE,UP DOUBLE AND LEFT SINGLE"),
    (0x255D, "DOUBLE UP AND LEFT,VERTICAL SINGLE AND RIGHT DOUBLE"),
    (0x255F, "VERTICAL DOUBLE AND RIGHT SINGLE,DOUBLE VERTICAL AND RIGHT"),
    (0x2561, "VERTICAL SINGLE AND LEFT DOUBLE,VERTICAL DOUBLE AND LEFT SINGLE"),
    (0x2563, "DOUBLE VERTICAL AND LEFT,DOWN SINGLE AND HORIZONTAL DOUBLE"),
    (0x2565, "DOWN DOUBLE AND HORIZONTAL SINGLE,DOUBLE DOWN AND HORIZONTAL"),
    (0x2567, "UP SINGLE AND HORIZONTAL DOUBLE,UP DOUBLE AND HORIZONTAL SINGLE"),
    (0x2569, "DOUBLE UP AND HORIZONTAL,VERTICAL SINGLE AND HORIZONTAL DOUBLE"),
    (0x256B, "VERTICAL DOUBLE AND HORIZONTAL SINGLE,DOUBLE VERTICAL AND HORIZONTAL"),
    (0x256D, "LIGHT ARC DOWN AND RIGHT,LIGHT ARC DOWN AND LEFT,LIGHT ARC UP AND LEFT"),
    (0x2570, "LIGHT ARC UP AND RIGHT,,,,LIGHT LEFT,LIGHT UP,LIGHT RIGHT,LIGHT DOWN"),
    (0x2578, "HEAVY LEFT,HEAVY UP,HEAVY RIGHT,HEAVY DOWN,LIGHT LEFT AND HEAVY RIGHT"),
    (0x257D, "LIGHT UP AND HEAVY DOWN,HEAVY LEFT AND LIGHT RIGHT,HEAVY UP AND LIGHT DOWN"),
    (0x1FBAF, "LIGHT HORIZONTAL WITH VERTICAL STROKE")]⟩,
  ⟨"QUADRANT ",
    [(0x2596, "LOWER LEFT,LOWER RIGHT,UPPER LEFT,UPPER LEFT AND LOWER LEFT AND LOWER RIGHT"),
    (0x259A, "UPPER LEFT AND LOWER RIGHT,UPPER LEFT AND UPPER RIGHT AND LOWER LEFT"),
    (0x259C, "UPPER LEFT AND UPPER RIGHT AND LOWER RIGHT,UPPER RIGHT"),
    (0x259E, "UPPER RIGHT AND LOWER LEFT,UPPER RIGHT AND LOWER LEFT AND LOWER RIGHT")]⟩,
  ⟨"SQUARE WITH ", [(0x25A4, "HORIZONTAL FILL,VERTICAL FILL,ORTHOGONAL CROSSHATCH FILL"),
    (0x25A7, "UPPER LEFT TO LOWER RIGHT FILL,UPPER RIGHT TO LOWER LEFT FILL"),
    (0x25A9, "DIAGONAL CROSSHATCH FILL"),
    (0x25E7, "LEFT HALF BLACK,RIGHT HALF BLACK,UPPER LEFT DIAGONAL HALF BLACK"),
    (0x25EA, "LOWER RIGHT DIAGONAL HALF BLACK"), (0x29E0, "CONTOURED OUTLINE"),
    (0x2B12, "TOP HALF BLACK,BOTTOM HALF BLACK,UPPER RIGHT DIAGONAL HALF BLACK"),
    (0x2B15, "LOWER LEFT DIAGONAL HALF BLACK")]⟩,
  ⟨"WHITE UP-POINTING ", [(0x25B3, "TRIANGLE,,SMALL TRIANGLE"), (0x25EC, "TRIANGLE WITH DOT"),
    (0x1FBCA, "CHEVRON")]⟩,
  ⟨"WHITE RIGHT-POINTING ", [(0x25B7, "TRIANGLE,,SMALL TRIANGLE,,POINTER"), (0x2B54, "PENTAGON")]⟩,
  ⟨"MATHEMATICAL ", [(0x27CB, "RISING DIAGONAL,,FALLING DIAGONAL"),
    (0x27E6, "LEFT WHITE SQUARE BRACKET,RIGHT WHITE SQUARE BRACKET,LEFT ANGLE BRACKET"),
    (0x27E9, "RIGHT ANGLE BRACKET,LEFT DOUBLE ANGLE BRACKET,RIGHT DOUBLE ANGLE BRACKET"),
    (0x27EC, "LEFT WHITE TORTOISE SHELL BRACKET,RIGHT WHITE TORTOISE SHELL BRACKET"),
    (0x27EE, "LEFT FLATTENED PARENTHESIS,RIGHT FLATTENED PARENTHESIS")]⟩,
  ⟨"RIGHTWARDS TWO-HEADED ",
    [(0x2900, "ARROW WITH VERTICAL STROKE,ARROW WITH DOUBLE VERTICAL STROKE"),
    (0x2905, "ARROW FROM BAR"),
    (0x2910, "TRIPLE DASH ARROW,,,,,,ARROW WITH TAIL,ARROW WITH TAIL WITH VERTICAL STROKE"),
    (0x2918, "ARROW WITH TAIL WITH DOUBLE VERTICAL STROKE"),
    (0x2BEE, "ARROW WITH TRIANGLE ARROWHEADS")]⟩,
  ⟨"ARROW POINTING ",
    [(0x2934, "RIGHTWARDS THEN CURVING UPWARDS,RIGHTWARDS THEN CURVING DOWNWARDS"),
    (0x2936, "DOWNWARDS THEN CURVING LEFTWARDS,DOWNWARDS THEN CURVING RIGHTWARDS"),
    (0x1F8B0, "UPWARDS THEN NORTH WEST,RIGHTWARDS THEN CURVING SOUTH WEST")]⟩,
  ⟨"MEASURED ANGLE WITH OPEN ARM ENDING IN ARROW POINTING ",
    [(0x29A8, "UP AND RIGHT,UP AND LEFT,DOWN AND RIGHT,DOWN AND LEFT,RIGHT AND UP"),
    (0x29AD, "LEFT AND UP,RIGHT AND DOWN,LEFT AND DOWN")]⟩,
  ⟨"DOWN-POINTING ", [(0x29E8, "TRIANGLE WITH LEFT HALF BLACK,TRIANGLE WITH RIGHT HALF BLACK"),
    (0x1F53B, "RED TRIANGLE,,SMALL RED TRIANGLE")]⟩,
  ⟨"ERROR-BARRED ", [(0x29EE, "WHITE SQUARE,BLACK SQUARE,WHITE DIAMOND,BLACK DIAMOND,WHITE CIRCLE"),
    (0x29F3, "BLACK CIRCLE")]⟩,
  ⟨"PLUS SIGN ", [(0x2A22, "WITH SMALL CIRCLE ABOVE,WITH CIRCUMFLEX ACCENT ABOVE,WITH TILDE ABOVE"),
    (0x2A25, "WITH DOT BELOW,WITH TILDE BELOW,WITH SUBSCRIPT TWO,WITH BLACK TRIANGLE"),
    (0x2A2D, "IN LEFT HALF CIRCLE,IN RIGHT HALF CIRCLE"), (0x2A39, "IN TRIANGLE"),
    (0x2A72, "ABOVE EQUALS SIGN")]⟩,
  ⟨"INTERSECTION ",
    [(0x2A40, "WITH DOT,,,WITH OVERBAR,WITH LOGICAL AND,,,ABOVE UNION,,ABOVE BAR ABOVE UNION"),
    (0x2A4B, "BESIDE AND JOINED WITH INTERSECTION")]⟩,
  ⟨"LOGICAL AND WITH ",
    [(0x2A51, "DOT ABOVE,,,,,,,,,MIDDLE STEM,,HORIZONTAL DASH,,DOUBLE OVERBAR,UNDERBAR"),
    (0x2A60, "DOUBLE UNDERBAR")]⟩,
  ⟨"LEFTWARDS TWO-HEADED ",
    [(0x2B34, "ARROW WITH VERTICAL STROKE,ARROW WITH DOUBLE VERTICAL STROKE,ARROW FROM BAR"),
    (0x2B37, "TRIPLE DASH ARROW,,,,ARROW WITH TAIL,ARROW WITH TAIL WITH VERTICAL STROKE"),
    (0x2B3D, "ARROW WITH TAIL WITH DOUBLE VERTICAL STROKE"),
    (0x2BEC, "ARROW WITH TRIANGLE ARROWHEADS")]⟩,
  ⟨"DOWNWARDS TRIANGLE-HEADED ", [(0x2B4D, "ZIGZAG ARROW"), (0x2B63, "ARROW"),
    (0x2B6D, "DASHED ARROW,,,,,,ARROW TO BAR"), (0x2B7D, "ARROW WITH DOUBLE HORIZONTAL STROKE"),
    (0x2B83, "ARROW LEFTWARDS OF UPWARDS TRIANGLE-HEADED ARROW,,,,PAIRED ARROWS"),
    (0x2BA0, "ARROW WITH LONG TIP LEFTWARDS,ARROW WITH LONG TIP RIGHTWARDS"),
    (0x1F823, "ARROW WITH NARROW SHAFT,,,,ARROW WITH MEDIUM SHAFT,,,,ARROW WITH BOLD SHAFT"),
    (0x1F82F, "ARROW WITH HEAVY SHAFT,,,,ARROW WITH VERY HEAVY SHAFT")]⟩,
  ⟨"LEFTWARDS TRIANGLE-HEADED ", [(0x2B60, "ARROW"), (0x2B6A, "DASHED ARROW,,,,,,ARROW TO BAR"),
    (0x2B7A, "ARROW WITH DOUBLE HORIZONTAL STROKE"),
    (0x2B80, "ARROW OVER RIGHTWARDS TRIANGLE-HEADED ARROW,,,,PAIRED ARROWS"),
    (0x2BA4, "ARROW WITH LONG TIP UPWARDS,,ARROW WITH LONG TIP DOWNWARDS"),
    (0x1F820, "ARROW WITH NARROW SHAFT,,,,ARROW WITH MEDIUM SHAFT,,,,ARROW WITH BOLD SHAFT"),
    (0x1F82C, "ARROW WITH HEAVY SHAFT,,,,ARROW WITH VERY HEAVY SHAFT")]⟩,
  ⟨"UPWARDS TRIANGLE-HEADED ", [(0x2B61, "ARROW"), (0x2B6B, "DASHED ARROW,,,,,,ARROW TO BAR"),
    (0x2B7B, "ARROW WITH DOUBLE HORIZONTAL STROKE"),
    (0x2B81, "ARROW LEFTWARDS OF DOWNWARDS TRIANGLE-HEADED ARROW,,,,PAIRED ARROWS"),
    (0x2BA2, "ARROW WITH LONG TIP LEFTWARDS,ARROW WITH LONG TIP RIGHTWARDS"),
    (0x1F821, "ARROW WITH NARROW SHAFT,,,,ARROW WITH MEDIUM SHAFT,,,,ARROW WITH BOLD SHAFT"),
    (0x1F82D, "ARROW WITH HEAVY SHAFT,,,,ARROW WITH VERY HEAVY SHAFT")]⟩,
  ⟨"RIGHTWARDS TRIANGLE-HEADED ", [(0x2B62, "ARROW"), (0x2B6C, "DASHED ARROW,,,,,,ARROW TO BAR"),
    (0x2B7C, "ARROW WITH DOUBLE HORIZONTAL STROKE"),
    (0x2B82, "ARROW OVER LEFTWARDS TRIANGLE-HEADED ARROW,,,,PAIRED ARROWS"),
    (0x2BA5, "ARROW WITH LONG TIP UPWARDS,,ARROW WITH LONG TIP DOWNWARDS"),
    (0x1F822, "ARROW WITH NARROW SHAFT,,,,ARROW WITH MEDIUM SHAFT,,,,ARROW WITH BOLD SHAFT"),
    (0x1F82E, "ARROW WITH HEAVY SHAFT,,,,ARROW WITH VERY HEAVY SHAFT")]⟩,
  ⟨"ANTICLOCKWISE TRIANGLE-HEADED ", [(0x2B6F, "OPEN CIRCLE ARROW"),
    (0x2B8C, "RIGHT U-SHAPED ARROW,BOTTOM U-SHAPED ARROW,LEFT U-SHAPED ARROW"),
    (0x2B8F, "TOP U-SHAPED ARROW")]⟩,
  ⟨"BLACK CURVED ", [(0x2BA8, "DOWNWARDS AND LEFTWARDS ARROW,DOWNWARDS AND RIGHTWARDS ARROW"),
    (0x2BAA, "UPWARDS AND LEFTWARDS ARROW,UPWARDS AND RIGHTWARDS ARROW"),
    (0x2BAC, "LEFTWARDS AND UPWARDS ARROW,RIGHTWARDS AND UPWARDS ARROW"),
    (0x2BAE, "LEFTWARDS AND DOWNWARDS ARROW,RIGHTWARDS AND DOWNWARDS ARROW")]⟩,
  ⟨"RIBBON ARROW ",
    [(0x2BB0, "DOWN LEFT,DOWN RIGHT,UP LEFT,UP RIGHT,LEFT UP,RIGHT UP,LEFT DOWN,RIGHT DOWN")]⟩,
  ⟨"RUSSIAN ASTROLOGICAL SYMBOL ",
    [(0x2BF3, "VIGINTILE,NOVILE,QUINTILE,BINOVILE,SENTAGON,TREDECILE")]⟩,
  ⟨"MATHEMATICAL BOLD CAPITAL ", [(0x1D400, "A,B,C,D,E,F,G,H,I,J,K,L,M,N,O,P,Q,R,S,T,U,V,W,X,Y,Z"),
    (0x1D6A8, "ALPHA,BETA,GAMMA,DELTA,EPSILON,ZETA,ETA,THETA,IOTA,KAPPA,LAMDA,MU,NU,XI"),
    (0x1D6B6, "OMICRON,PI,RHO,THETA SYMBOL,SIGMA,TAU,UPSILON,PHI,CHI,PSI,OMEGA"),
    (0x1D7CA, "DIGAMMA")]⟩,
  ⟨"MATHEMATICAL BOLD SMALL ", [(0x1D41A, "A,B,C,D,E,F,G,H,I,J,K,L,M,N,O,P,Q,R,S,T,U,V,W,X,Y,Z"),
    (0x1D6C2, "ALPHA,BETA,GAMMA,DELTA,EPSILON,ZETA,ETA,THETA,IOTA,KAPPA,LAMDA,MU,NU,XI"),
    (0x1D6D0, "OMICRON,PI,RHO,FINAL SIGMA,SIGMA,TAU,UPSILON,PHI,CHI,PSI,OMEGA"),
    (0x1D7CB, "DIGAMMA")]⟩,
  ⟨"MATHEMATICAL ITALIC CAPITAL ",
    [(0x1D434, "A,B,C,D,E,F,G,H,I,J,K,L,M,N,O,P,Q,R,S,T,U,V,W,X,Y,Z"),
    (0x1D6E2, "ALPHA,BETA,GAMMA,DELTA,EPSILON,ZETA,ETA,THETA,IOTA,KAPPA,LAMDA,MU,NU,XI"),
    (0x1D6F0, "OMICRON,PI,RHO,THETA SYMBOL,SIGMA,TAU,UPSILON,PHI,CHI,PSI,OMEGA")]⟩,
  ⟨"MATHEMATICAL ITALIC SMALL ", [(0x1D44E, "A,B,C,D,E,F,G,,I,J,K,L,M,N,O,P,Q,R,S,T,U,V,W,X,Y,Z"),
    (0x1D6A4, "DOTLESS I,DOTLESS J"),
    (0x1D6FC, "ALPHA,BETA,GAMMA,DELTA,EPSILON,ZETA,ETA,THETA,IOTA,KAPPA,LAMDA,MU,NU,XI"),
    (0x1D70A, "OMICRON,PI,RHO,FINAL SIGMA,SIGMA,TAU,UPSILON,PHI,CHI,PSI,OMEGA")]⟩,
  ⟨"MATHEMATICAL BOLD ITALIC CAPITAL ",
    [(0x1D468, "A,B,C,D,E,F,G,H,I,J,K,L,M,N,O,P,Q,R,S,T,U,V,W,X,Y,Z"),
    (0x1D71C, "ALPHA,BETA,GAMMA,DELTA,EPSILON,ZETA,ETA,THETA,IOTA,KAPPA,LAMDA,MU,NU,XI"),
    (0x1D72A, "OMICRON,PI,RHO,THETA SYMBOL,SIGMA,TAU,UPSILON,PHI,CHI,PSI,OMEGA")]⟩,
  ⟨"MATHEMATICAL BOLD ITALIC SMALL ",
    [(0x1D482, "A,B,C,D,E,F,G,H,I,J,K,L,M,N,O,P,Q,R,S,T,U,V,W,X,Y,Z"),
    (0x1D736, "ALPHA,BETA,GAMMA,DELTA,EPSILON,ZETA,ETA,THETA,IOTA,KAPPA,LAMDA,MU,NU,XI"),
    (0x1D744, "OMICRON,PI,RHO,FINAL SIGMA,SIGMA,TAU,UPSILON,PHI,CHI,PSI,OMEGA")]⟩,
  ⟨"MATHEMATICAL SCRIPT CAPITAL ", [(0x1D49C, "A,,C,D,,,G,,,J,K,,,N,O,P,Q,,S,T,U,V,W,X,Y,Z")]⟩,
  ⟨"MATHEMATICAL SCRIPT SMALL ", [(0x1D4B6, "A,B,C,D,,F,,H,I,J,K,L,M,N,,P,Q,R,S,T,U,V,W,X,Y,Z")]⟩,
  ⟨"MATHEMATICAL BOLD SCRIPT CAPITAL ",
    [(0x1D4D0, "A,B,C,D,E,F,G,H,I,J,K,L,M,N,O,P,Q,R,S,T,U,V,W,X,Y,Z")]⟩,
  ⟨"MATHEMATICAL BOLD SCRIPT SMALL ",
    [(0x1D4EA, "A,B,C,D,E,F,G,H,I,J,K,L,M,N,O,P,Q,R,S,T,U,V,W,X,Y,Z")]⟩,
  ⟨"MATHEMATICAL FRAKTUR CAPITAL ", [(0x1D504, "A,B,,D,E,F,G,,,J,K,L,M,N,O,P,Q,,S,T,U,V,W,X,Y")]⟩,
  ⟨"MATHEMATICAL FRAKTUR SMALL ",
    [(0x1D51E, "A,B,C,D,E,F,G,H,I,J,K,L,M,N,O,P,Q,R,S,T,U,V,W,X,Y,Z")]⟩,
  ⟨"MATHEMATICAL DOUBLE-STRUCK CAPITAL ",
    [(0x1D538, "A,B,,D,E,F,G,,I,J,K,L,M,,O,,,,S,T,U,V,W,X,Y")]⟩,
  ⟨"MATHEMATICAL DOUBLE-STRUCK SMALL ",
    [(0x1D552, "A,B,C,D,E,F,G,H,I,J,K,L,M,N,O,P,Q,R,S,T,U,V,W,X,Y,Z")]⟩,
  ⟨"MATHEMATICAL BOLD FRAKTUR CAPITAL ",
    [(0x1D56C, "A,B,C,D,E,F,G,H,I,J,K,L,M,N,O,P,Q,R,S,T,U,V,W,X,Y,Z")]⟩,
  ⟨"MATHEMATICAL BOLD FRAKTUR SMALL ",
    [(0x1D586, "A,B,C,D,E,F,G,H,I,J,K,L,M,N,O,P,Q,R,S,T,U,V,W,X,Y,Z")]⟩,
  ⟨"MATHEMATICAL SANS-SERIF CAPITAL ",
    [(0x1D5A0, "A,B,C,D,E,F,G,H,I,J,K,L,M,N,O,P,Q,R,S,T,U,V,W,X,Y,Z")]⟩,
  ⟨"MATHEMATICAL SANS-SERIF SMALL ",
    [(0x1D5BA, "A,B,C,D,E,F,G,H,I,J,K,L,M,N,O,P,Q,R,S,T,U,V,W,X,Y,Z")]⟩,
  ⟨"MATHEMATICAL SANS-SERIF BOLD CAPITAL ",
    [(0x1D5D4, "A,B,C,D,E,F,G,H,I,J,K,L,M,N,O,P,Q,R,S,T,U,V,W,X,Y,Z"),
    (0x1D756, "ALPHA,BETA,GAMMA,DELTA,EPSILON,ZETA,ETA,THETA,IOTA,KAPPA,LAMDA,MU,NU,XI"),
    (0x1D764, "OMICRON,PI,RHO,THETA SYMBOL,SIGMA,TAU,UPSILON,PHI,CHI,PSI,OMEGA")]⟩,
  ⟨"MATHEMATICAL SANS-SERIF BOLD SMALL ",
    [(0x1D5EE, "A,B,C,D,E,F,G,H,I,J,K,L,M,N,O,P,Q,R,S,T,U,V,W,X,Y,Z"),
    (0x1D770, "ALPHA,BETA,GAMMA,DELTA,EPSILON,ZETA,ETA,THETA,IOTA,KAPPA,LAMDA,MU,NU,XI"),
    (0x1D77E, "OMICRON,PI,RHO,FINAL SIGMA,SIGMA,TAU,UPSILON,PHI,CHI,PSI,OMEGA")]⟩,
  ⟨"MATHEMATICAL SANS-SERIF ITALIC CAPITAL ",
    [(0x1D608, "A,B,C,D,E,F,G,H,I,J,K,L,M,N,O,P,Q,R,S,T,U,V,W,X,Y,Z")]⟩,
  ⟨"MATHEMATICAL SANS-SERIF ITALIC SMALL ",
    [(0x1D622, "A,B,C,D,E,F,G,H,I,J,K,L,M,N,O,P,Q,R,S,T,U,V,W,X,Y,Z")]⟩,
  ⟨"MATHEMATICAL SANS-SERIF BOLD ITALIC CAPITAL ",
    [(0x1D63C, "A,B,C,D,E,F,G,H,I,J,K,L,M,N,O,P,Q,R,S,T,U,V,W,X,Y,Z"),
    (0x1D790, "ALPHA,BETA,GAMMA,DELTA,EPSILON,ZETA,ETA,THETA,IOTA,KAPPA,LAMDA,MU,NU,XI"),
    (0x1D79E, "OMICRON,PI,RHO,THETA SYMBOL,SIGMA,TAU,UPSILON,PHI,CHI,PSI,OMEGA")]⟩,
  ⟨"MATHEMATICAL SANS-SERIF BOLD ITALIC SMALL ",
    [(0x1D656, "A,B,C,D,E,F,G,H,I,J,K,L,M,N,O,P,Q,R,S,T,U,V,W,X,Y,Z"),
    (0x1D7AA, "ALPHA,BETA,GAMMA,DELTA,EPSILON,ZETA,ETA,THETA,IOTA,KAPPA,LAMDA,MU,NU,XI"),
    (0x1D7B8, "OMICRON,PI,RHO,FINAL SIGMA,SIGMA,TAU,UPSILON,PHI,CHI,PSI,OMEGA")]⟩,
  ⟨"MATHEMATICAL MONOSPACE CAPITAL ",
    [(0x1D670, "A,B,C,D,E,F,G,H,I,J,K,L,M,N,O,P,Q,R,S,T,U,V,W,X,Y,Z")]⟩,
  ⟨"MATHEMATICAL MONOSPACE SMALL ",
    [(0x1D68A, "A,B,C,D,E,F,G,H,I,J,K,L,M,N,O,P,Q,R,S,T,U,V,W,X,Y,Z")]⟩,
  ⟨"MATHEMATICAL BOLD ", [(0x1D6C1, "NABLA"),
    (0x1D6DB, "PARTIAL DIFFERENTIAL,EPSILON SYMBOL,THETA SYMBOL,KAPPA SYMBOL,PHI SYMBOL"),
    (0x1D6E0, "RHO SYMBOL,PI SYMBOL"),
    (0x1D7CE, "DIGIT ZERO,DIGIT ONE,DIGIT TWO,DIGIT THREE,DIGIT FOUR,DIGIT FIVE,DIGIT SIX"),
    (0x1D7D5, "DIGIT SEVEN,DIGIT EIGHT,DIGIT NINE")]⟩,
  ⟨"MATHEMATICAL ITALIC ", [(0x1D6FB, "NABLA"),
    (0x1D715, "PARTIAL DIFFERENTIAL,EPSILON SYMBOL,THETA SYMBOL,KAPPA SYMBOL,PHI SYMBOL"),
    (0x1D71A, "RHO SYMBOL,PI SYMBOL")]⟩,
  ⟨"MATHEMATICAL BOLD ITALIC ", [(0x1D735, "NABLA"),
    (0x1D74F, "PARTIAL DIFFERENTIAL,EPSILON SYMBOL,THETA SYMBOL,KAPPA SYMBOL,PHI SYMBOL"),
    (0x1D754, "RHO SYMBOL,PI SYMBOL")]⟩,
  ⟨"MATHEMATICAL SANS-SERIF BOLD ", [(0x1D76F, "NABLA"),
    (0x1D789, "PARTIAL DIFFERENTIAL,EPSILON SYMBOL,THETA SYMBOL,KAPPA SYMBOL,PHI SYMBOL"),
    (0x1D78E, "RHO SYMBOL,PI SYMBOL"), (0x1D7A9, "ITALIC NABLA"),
    (0x1D7C3, "ITALIC PARTIAL DIFFERENTIAL,ITALIC EPSILON SYMBOL,ITALIC THETA SYMBOL"),
    (0x1D7C6, "ITALIC KAPPA SYMBOL,ITALIC PHI SYMBOL,ITALIC RHO SYMBOL,ITALIC PI SYMBOL"),
    (0x1D7EC, "DIGIT ZERO,DIGIT ONE,DIGIT TWO,DIGIT THREE,DIGIT FOUR,DIGIT FIVE,DIGIT SIX"),
    (0x1D7F3, "DIGIT SEVEN,DIGIT EIGHT,DIGIT NINE")]⟩,
  ⟨"MATHEMATICAL DOUBLE-STRUCK ",
    [(0x1D7D8, "DIGIT ZERO,DIGIT ONE,DIGIT TWO,DIGIT THREE,DIGIT FOUR,DIGIT FIVE,DIGIT SIX"),
    (0x1D7DF, "DIGIT SEVEN,DIGIT EIGHT,DIGIT NINE")]⟩,
  ⟨"MATHEMATICAL SANS-SERIF ",
    [(0x1D7E2, "DIGIT ZERO,DIGIT ONE,DIGIT TWO,DIGIT THREE,DIGIT FOUR,DIGIT FIVE,DIGIT SIX"),
    (0x1D7E9, "DIGIT SEVEN,DIGIT EIGHT,DIGIT NINE")]⟩,
  ⟨"MATHEMATICAL MONOSPACE DIGIT ",
    [(0x1D7F6, "ZERO,ONE,TWO,THREE,FOUR,FIVE,SIX,SEVEN,EIGHT,NINE")]⟩,
  ⟨"WIDE-HEADED ", [(0x1F860, "LEFTWARDS LIGHT BARB ARROW,UPWARDS LIGHT BARB ARROW"),
    (0x1F862, "RIGHTWARDS LIGHT BARB ARROW,DOWNWARDS LIGHT BARB ARROW"),
    (0x1F864, "NORTH WEST LIGHT BARB ARROW,NORTH EAST LIGHT BARB ARROW"),
    (0x1F866, "SOUTH EAST LIGHT BARB ARROW,SOUTH WEST LIGHT BARB ARROW,LEFTWARDS BARB ARROW"),
    (0x1F869, "UPWARDS BARB ARROW,RIGHTWARDS BARB ARROW,DOWNWARDS BARB ARROW"),
    (0x1F86C, "NORTH WEST BARB ARROW,NORTH EAST BARB ARROW,SOUTH EAST BARB ARROW"),
    (0x1F86F, "SOUTH WEST BARB ARROW,LEFTWARDS MEDIUM BARB ARROW,UPWARDS MEDIUM BARB ARROW"),
    (0x1F872, "RIGHTWARDS MEDIUM BARB ARROW,DOWNWARDS MEDIUM BARB ARROW"),
    (0x1F874, "NORTH WEST MEDIUM BARB ARROW,NORTH EAST MEDIUM BARB ARROW"),
    (0x1F876, "SOUTH EAST MEDIUM BARB ARROW,SOUTH WEST MEDIUM BARB ARROW"),
    (0x1F878, "LEFTWARDS HEAVY BARB ARROW,UPWARDS HEAVY BARB ARROW"),
    (0x1F87A, "RIGHTWARDS HEAVY BARB ARROW,DOWNWARDS HEAVY BARB ARROW"),
    (0x1F87C, "NORTH WEST HEAVY BARB ARROW,NORTH EAST HEAVY BARB ARROW"),
    (0x1F87E, "SOUTH EAST HEAVY BARB ARROW,SOUTH WEST HEAVY BARB ARROW"),
    (0x1F880, "LEFTWARDS VERY HEAVY BARB ARROW,UPWARDS VERY HEAVY BARB ARROW"),
    (0x1F882, "RIGHTWARDS VERY HEAVY BARB ARROW,DOWNWARDS VERY HEAVY BARB ARROW"),
    (0x1F884, "NORTH WEST VERY HEAVY BARB ARROW,NORTH EAST VERY HEAVY BARB ARROW"),
    (0x1F886, "SOUTH EAST VERY HEAVY BARB ARROW,SOUTH WEST VERY HEAVY BARB ARROW")]⟩]

end RecordSearch.Text
