import RecordSearch.Text.CharacterName.Family

namespace RecordSearch.Text

/-!
# Names of characters: pictographs

Pictographs, signs of games, and selectors of forms.
-/

/-- The names of pictographs. -/
def pictographNames : List NameFamily := [
  ⟨"", [(0x2600, "BLACK SUN WITH RAYS,CLOUD,UMBRELLA,SNOWMAN,COMET,BLACK STAR,WHITE STAR"),
    (0x2607, "LIGHTNING,THUNDERSTORM,SUN,ASCENDING NODE,DESCENDING NODE,CONJUNCTION"),
    (0x260D, "OPPOSITION,BLACK TELEPHONE,WHITE TELEPHONE,BALLOT BOX,,,SALTIRE"),
    (0x2614, "UMBRELLA WITH RAIN DROPS,HOT BEVERAGE,WHITE SHOGI PIECE,BLACK SHOGI PIECE"),
    (0x2618, "SHAMROCK,REVERSED ROTATED FLORAL HEART BULLET,BLACK LEFT POINTING INDEX"),
    (0x261B, "BLACK RIGHT POINTING INDEX,WHITE LEFT POINTING INDEX,WHITE UP POINTING INDEX"),
    (0x261E, "WHITE RIGHT POINTING INDEX,WHITE DOWN POINTING INDEX,SKULL AND CROSSBONES"),
    (0x2621, "CAUTION SIGN,RADIOACTIVE SIGN,BIOHAZARD SIGN,CADUCEUS,ANKH,ORTHODOX CROSS"),
    (0x2627, "CHI RHO,CROSS OF LORRAINE,CROSS OF JERUSALEM,STAR AND CRESCENT,FARSI SYMBOL"),
    (0x262C, "ADI SHAKTI,HAMMER AND SICKLE,PEACE SYMBOL,YIN YANG,,,,,,,,,WHEEL OF DHARMA"),
    (0x2639, "WHITE FROWNING FACE,WHITE SMILING FACE,BLACK SMILING FACE,WHITE SUN WITH RAYS"),
    (0x263D, "FIRST QUARTER MOON,LAST QUARTER MOON,MERCURY,FEMALE SIGN,EARTH,MALE SIGN"),
    (0x2643, "JUPITER,SATURN,URANUS,NEPTUNE,PLUTO,ARIES,TAURUS,GEMINI,CANCER,LEO,VIRGO"),
    (0x264E, "LIBRA,SCORPIUS,SAGITTARIUS,CAPRICORN,AQUARIUS,PISCES"),
    (0x2660, "BLACK SPADE SUIT,WHITE HEART SUIT,WHITE DIAMOND SUIT,BLACK CLUB SUIT"),
    (0x2664, "WHITE SPADE SUIT,BLACK HEART SUIT,BLACK DIAMOND SUIT,WHITE CLUB SUIT"),
    (0x2668, "HOT SPRINGS,QUARTER NOTE,EIGHTH NOTE,BEAMED EIGHTH NOTES"),
    (0x266C, "BEAMED SIXTEENTH NOTES,MUSIC FLAT SIGN,MUSIC NATURAL SIGN,MUSIC SHARP SIGN"),
    (0x2670, "WEST SYRIAC CROSS,EAST SYRIAC CROSS,UNIVERSAL RECYCLING SYMBOL"),
    (0x267B, "BLACK UNIVERSAL RECYCLING SYMBOL,RECYCLED PAPER SYMBOL"),
    (0x267D, "PARTIALLY-RECYCLED PAPER SYMBOL,PERMANENT PAPER SIGN,WHEELCHAIR SYMBOL"),
    (0x2686, "WHITE CIRCLE WITH DOT RIGHT,WHITE CIRCLE WITH TWO DOTS"),
    (0x2688, "BLACK CIRCLE WITH WHITE DOT RIGHT,BLACK CIRCLE WITH TWO WHITE DOTS"),
    (0x268A, "MONOGRAM FOR YANG,MONOGRAM FOR YIN,,,,,WHITE FLAG,BLACK FLAG,HAMMER AND PICK"),
    (0x2693, "ANCHOR,CROSSED SWORDS,STAFF OF AESCULAPIUS,SCALES,ALEMBIC,FLOWER,GEAR"),
    (0x269A, "STAFF OF HERMES,ATOM SYMBOL,FLEUR-DE-LIS,OUTLINED WHITE STAR"),
    (0x269E, "THREE LINES CONVERGING RIGHT,THREE LINES CONVERGING LEFT,WARNING SIGN"),
    (0x26A1, "HIGH VOLTAGE SIGN,DOUBLED FEMALE SIGN,DOUBLED MALE SIGN"),
    (0x26A4, "INTERLOCKED FEMALE AND MALE SIGN,MALE AND FEMALE SIGN,MALE WITH STROKE SIGN"),
    (0x26A7, "MALE WITH STROKE AND MALE AND FEMALE SIGN,VERTICAL MALE WITH STROKE SIGN"),
    (0x26AA, "MEDIUM WHITE CIRCLE,MEDIUM BLACK CIRCLE,MEDIUM SMALL WHITE CIRCLE"),
    (0x26AD, "MARRIAGE SYMBOL,DIVORCE SYMBOL,UNMARRIED PARTNERSHIP SYMBOL,COFFIN"),
    (0x26B1, "FUNERAL URN,NEUTER,CERES,PALLAS,JUNO,VESTA,CHIRON,BLACK MOON LILITH,SEXTILE"),
    (0x26BA, "SEMISEXTILE,QUINCUNX,SESQUIQUADRATE,SOCCER BALL,BASEBALL,,WHITE DRAUGHTS MAN"),
    (0x26C1, "WHITE DRAUGHTS KING,BLACK DRAUGHTS MAN,BLACK DRAUGHTS KING"),
    (0x26C4, "SNOWMAN WITHOUT SNOW,SUN BEHIND CLOUD,RAIN,BLACK SNOWMAN"),
    (0x26C8, "THUNDER CLOUD AND RAIN,TURNED WHITE SHOGI PIECE,TURNED BLACK SHOGI PIECE"),
    (0x26CB, "WHITE DIAMOND IN SQUARE,CROSSING LANES,DISABLED CAR,OPHIUCHUS,PICK"),
    (0x26D0, "CAR SLIDING,HELMET WITH WHITE CROSS,,CHAINS,NO ENTRY"),
    (0x26D5, "ALTERNATE ONE-WAY LEFT WAY TRAFFIC,BLACK TWO-WAY LEFT WAY TRAFFIC"),
    (0x26D7, "WHITE TWO-WAY LEFT WAY TRAFFIC,BLACK LEFT LANE MERGE,WHITE LEFT LANE MERGE"),
    (0x26DA, "DRIVE SLOW SIGN,,LEFT CLOSED ENTRY"),
    (0x26DE, "FALLING DIAGONAL IN WHITE CIRCLE IN BLACK SQUARE,BLACK TRUCK"),
    (0x26E0, "RESTRICTED LEFT ENTRY-1,RESTRICTED LEFT ENTRY-2"),
    (0x26E2, "ASTRONOMICAL SYMBOL FOR URANUS,,PENTAGRAM,RIGHT-HANDED INTERLACED PENTAGRAM"),
    (0x26E6, "LEFT-HANDED INTERLACED PENTAGRAM,INVERTED PENTAGRAM,BLACK CROSS ON SHIELD"),
    (0x26E9, "SHINTO SHRINE,CHURCH,CASTLE,HISTORIC SITE,GEAR WITHOUT HUB,GEAR WITH HANDLES"),
    (0x26EF, "MAP SYMBOL FOR LIGHTHOUSE,MOUNTAIN,UMBRELLA ON GROUND,FOUNTAIN,FLAG IN HOLE"),
    (0x26F4, "FERRY,SAILBOAT,,SKIER,ICE SKATE,PERSON WITH BALL,TENT,JAPANESE BANK SYMBOL"),
    (0x26FC, "HEADSTONE GRAVEYARD SYMBOL,FUEL PUMP,CUP ON BLACK SQUARE"),
    (0x26FF, "WHITE FLAG WITH HORIZONTAL MIDDLE BLACK STRIPE,BLACK SAFETY SCISSORS"),
    (0x2701, "UPPER BLADE SCISSORS,BLACK SCISSORS,LOWER BLADE SCISSORS,WHITE SCISSORS"),
    (0x2705, "WHITE HEAVY CHECK MARK,TELEPHONE LOCATION SIGN,TAPE DRIVE,AIRPLANE,ENVELOPE"),
    (0x270A, "RAISED FIST,RAISED HAND,VICTORY HAND,WRITING HAND,LOWER RIGHT PENCIL,PENCIL"),
    (0x2710, "UPPER RIGHT PENCIL,WHITE NIB,BLACK NIB,CHECK MARK,,,,BALLOT X"),
    (0x2719, "OUTLINED GREEK CROSS,,OPEN CENTRE CROSS,,LATIN CROSS"),
    (0x271E, "SHADOWED WHITE LATIN CROSS,OUTLINED LATIN CROSS,MALTESE CROSS,STAR OF DAVID"),
    (0x2722, "FOUR TEARDROP-SPOKED ASTERISK,FOUR BALLOON-SPOKED ASTERISK"),
    (0x2725, "FOUR CLUB-SPOKED ASTERISK,BLACK FOUR POINTED STAR,WHITE FOUR POINTED STAR"),
    (0x2728, "SPARKLES,STRESS OUTLINED WHITE STAR,,OPEN CENTRE BLACK STAR"),
    (0x272C, "BLACK CENTRE WHITE STAR,OUTLINED BLACK STAR,,PINWHEEL STAR"),
    (0x2730, "SHADOWED WHITE STAR,,OPEN CENTRE ASTERISK,EIGHT SPOKED ASTERISK"),
    (0x2734, "EIGHT POINTED BLACK STAR,EIGHT POINTED PINWHEEL STAR,SIX POINTED BLACK STAR"),
    (0x2737, "EIGHT POINTED RECTILINEAR BLACK STAR,,TWELVE POINTED BLACK STAR"),
    (0x273A, "SIXTEEN POINTED ASTERISK,TEARDROP-SPOKED ASTERISK"),
    (0x273C, "OPEN CENTRE TEARDROP-SPOKED ASTERISK,,SIX PETALLED BLACK AND WHITE FLORETTE"),
    (0x273F, "BLACK FLORETTE,WHITE FLORETTE,EIGHT PETALLED OUTLINED BLACK FLORETTE"),
    (0x2744, "SNOWFLAKE,TIGHT TRIFOLIATE SNOWFLAKE,,SPARKLE,,BALLOON-SPOKED ASTERISK"),
    (0x274A, "EIGHT TEARDROP-SPOKED PROPELLER ASTERISK,,CROSS MARK,SHADOWED WHITE CIRCLE"),
    (0x274F, "LOWER RIGHT DROP-SHADOWED WHITE SQUARE,UPPER RIGHT DROP-SHADOWED WHITE SQUARE"),
    (0x2751, "LOWER RIGHT SHADOWED WHITE SQUARE,UPPER RIGHT SHADOWED WHITE SQUARE"),
    (0x2753, "BLACK QUESTION MARK ORNAMENT,WHITE QUESTION MARK ORNAMENT"),
    (0x2755, "WHITE EXCLAMATION MARK ORNAMENT,BLACK DIAMOND MINUS WHITE X"),
    (0x2758, "LIGHT VERTICAL BAR,MEDIUM VERTICAL BAR"),
    (0x2761, "CURVED STEM PARAGRAPH SIGN ORNAMENT,,,,ROTATED HEAVY BLACK HEART BULLET"),
    (0x2766, "FLORAL HEART,ROTATED FLORAL HEART BULLET,MEDIUM LEFT PARENTHESIS ORNAMENT"),
    (0x2769, "MEDIUM RIGHT PARENTHESIS ORNAMENT,MEDIUM FLATTENED LEFT PARENTHESIS ORNAMENT"),
    (0x276B, "MEDIUM FLATTENED RIGHT PARENTHESIS ORNAMENT"),
    (0x276C, "MEDIUM LEFT-POINTING ANGLE BRACKET ORNAMENT"),
    (0x276D, "MEDIUM RIGHT-POINTING ANGLE BRACKET ORNAMENT"),
    (0x2772, "LIGHT LEFT TORTOISE SHELL BRACKET ORNAMENT"),
    (0x2773, "LIGHT RIGHT TORTOISE SHELL BRACKET ORNAMENT"),
    (0x2774, "MEDIUM LEFT CURLY BRACKET ORNAMENT,MEDIUM RIGHT CURLY BRACKET ORNAMENT"),
    (0x279B, "DRAFTING POINT RIGHTWARDS ARROW,,TRIANGLE-HEADED RIGHTWARDS ARROW"),
    (0x279F, "DASHED TRIANGLE-HEADED RIGHTWARDS ARROW,,BLACK RIGHTWARDS ARROW"),
    (0x27A2, "THREE-D TOP-LIGHTED RIGHTWARDS ARROWHEAD"),
    (0x27A3, "THREE-D BOTTOM-LIGHTED RIGHTWARDS ARROWHEAD,BLACK RIGHTWARDS ARROWHEAD"),
    (0x27A7, "SQUAT BLACK RIGHTWARDS ARROW,,RIGHT-SHADED WHITE RIGHTWARDS ARROW"),
    (0x27AA, "LEFT-SHADED WHITE RIGHTWARDS ARROW"),
    (0x27AB, "BACK-TILTED SHADOWED WHITE RIGHTWARDS ARROW"),
    (0x27AC, "FRONT-TILTED SHADOWED WHITE RIGHTWARDS ARROW"),
    (0x27AF, "NOTCHED LOWER RIGHT-SHADOWED WHITE RIGHTWARDS ARROW,CURLY LOOP"),
    (0x27B1, "NOTCHED UPPER RIGHT-SHADOWED WHITE RIGHTWARDS ARROW"),
    (0x27B3, "WHITE-FEATHERED RIGHTWARDS ARROW,,,,,,,TEARDROP-BARBED RIGHTWARDS ARROW"),
    (0x27BC, "WEDGE-TAILED RIGHTWARDS ARROW,,OPEN-OUTLINED RIGHTWARDS ARROW"),
    (0x27BF, "DOUBLE CURLY LOOP"), (0x1F030, "DOMINO TILE HORIZONTAL BACK"),
    (0x1F062, "DOMINO TILE VERTICAL BACK"),
    (0x1F300, "CYCLONE,FOGGY,CLOSED UMBRELLA,NIGHT WITH STARS,SUNRISE OVER MOUNTAINS,SUNRISE"),
    (0x1F306, "CITYSCAPE AT DUSK,SUNSET OVER BUILDINGS,RAINBOW,BRIDGE AT NIGHT,WATER WAVE"),
    (0x1F30B, "VOLCANO,MILKY WAY,EARTH GLOBE EUROPE-AFRICA,EARTH GLOBE AMERICAS"),
    (0x1F30F, "EARTH GLOBE ASIA-AUSTRALIA,GLOBE WITH MERIDIANS,NEW MOON SYMBOL"),
    (0x1F312, "WAXING CRESCENT MOON SYMBOL,FIRST QUARTER MOON SYMBOL"),
    (0x1F314, "WAXING GIBBOUS MOON SYMBOL,FULL MOON SYMBOL,WANING GIBBOUS MOON SYMBOL"),
    (0x1F317, "LAST QUARTER MOON SYMBOL,WANING CRESCENT MOON SYMBOL,CRESCENT MOON"),
    (0x1F31A, "NEW MOON WITH FACE,FIRST QUARTER MOON WITH FACE,LAST QUARTER MOON WITH FACE"),
    (0x1F31D, "FULL MOON WITH FACE,SUN WITH FACE,GLOWING STAR,SHOOTING STAR,THERMOMETER"),
    (0x1F322, "BLACK DROPLET,WHITE SUN,WHITE SUN WITH SMALL CLOUD,WHITE SUN BEHIND CLOUD"),
    (0x1F326, "WHITE SUN BEHIND CLOUD WITH RAIN,CLOUD WITH RAIN,CLOUD WITH SNOW"),
    (0x1F329, "CLOUD WITH LIGHTNING,CLOUD WITH TORNADO,FOG,WIND BLOWING FACE,HOT DOG,TACO"),
    (0x1F32F, "BURRITO,CHESTNUT,SEEDLING,EVERGREEN TREE,DECIDUOUS TREE,PALM TREE,CACTUS"),
    (0x1F336, "HOT PEPPER,TULIP,CHERRY BLOSSOM,ROSE,HIBISCUS,SUNFLOWER,BLOSSOM,EAR OF MAIZE"),
    (0x1F33E, "EAR OF RICE,HERB,FOUR LEAF CLOVER,MAPLE LEAF,FALLEN LEAF"),
    (0x1F343, "LEAF FLUTTERING IN WIND,MUSHROOM,TOMATO,AUBERGINE,GRAPES,MELON,WATERMELON"),
    (0x1F34A, "TANGERINE,LEMON,BANANA,PINEAPPLE,RED APPLE,GREEN APPLE,PEAR,PEACH,CHERRIES"),
    (0x1F353, "STRAWBERRY,HAMBURGER,SLICE OF PIZZA,MEAT ON BONE,POULTRY LEG,RICE CRACKER"),
    (0x1F359, "RICE BALL,COOKED RICE,CURRY AND RICE,STEAMING BOWL,SPAGHETTI,BREAD"),
    (0x1F35F, "FRENCH FRIES,ROASTED SWEET POTATO,DANGO,ODEN,SUSHI,FRIED SHRIMP"),
    (0x1F365, "FISH CAKE WITH SWIRL DESIGN,SOFT ICE CREAM,SHAVED ICE,ICE CREAM,DOUGHNUT"),
    (0x1F36A, "COOKIE,CHOCOLATE BAR,CANDY,LOLLIPOP,CUSTARD,HONEY POT,SHORTCAKE,BENTO BOX"),
    (0x1F372, "POT OF FOOD,COOKING,FORK AND KNIFE,TEACUP WITHOUT HANDLE,SAKE BOTTLE AND CUP"),
    (0x1F377, "WINE GLASS,COCKTAIL GLASS,TROPICAL DRINK,BEER MUG,CLINKING BEER MUGS"),
    (0x1F37C, "BABY BOTTLE,FORK AND KNIFE WITH PLATE,BOTTLE WITH POPPING CORK,POPCORN,RIBBON"),
    (0x1F381, "WRAPPED PRESENT,BIRTHDAY CAKE,JACK-O-LANTERN,CHRISTMAS TREE,FATHER CHRISTMAS"),
    (0x1F386, "FIREWORKS,FIREWORK SPARKLER,BALLOON,PARTY POPPER,CONFETTI BALL,TANABATA TREE"),
    (0x1F38C, "CROSSED FLAGS,PINE DECORATION,JAPANESE DOLLS,CARP STREAMER,WIND CHIME"),
    (0x1F391, "MOON VIEWING CEREMONY,SCHOOL SATCHEL,GRADUATION CAP"),
    (0x1F394, "HEART WITH TIP ON THE LEFT,BOUQUET OF FLOWERS,MILITARY MEDAL,REMINDER RIBBON"),
    (0x1F398, "MUSICAL KEYBOARD WITH JACKS,STUDIO MICROPHONE,LEVEL SLIDER,CONTROL KNOBS"),
    (0x1F39C, "BEAMED ASCENDING MUSICAL NOTES,BEAMED DESCENDING MUSICAL NOTES,FILM FRAMES"),
    (0x1F39F, "ADMISSION TICKETS,CAROUSEL HORSE,FERRIS WHEEL,ROLLER COASTER"),
    (0x1F3A3, "FISHING POLE AND FISH,MICROPHONE,MOVIE CAMERA,CINEMA,HEADPHONE,ARTIST PALETTE"),
    (0x1F3A9, "TOP HAT,CIRCUS TENT,TICKET,CLAPPER BOARD,PERFORMING ARTS,VIDEO GAME"),
    (0x1F3AF, "DIRECT HIT,SLOT MACHINE,BILLIARDS,GAME DIE,BOWLING,FLOWER PLAYING CARDS"),
    (0x1F3B5, "MUSICAL NOTE,MULTIPLE MUSICAL NOTES,SAXOPHONE,GUITAR,MUSICAL KEYBOARD,TRUMPET"),
    (0x1F3BB, "VIOLIN,MUSICAL SCORE,RUNNING SHIRT WITH SASH,TENNIS RACQUET AND BALL"),
    (0x1F3BF, "SKI AND SKI BOOT,BASKETBALL AND HOOP,CHEQUERED FLAG,SNOWBOARDER,RUNNER,SURFER"),
    (0x1F3C5, "SPORTS MEDAL,TROPHY,HORSE RACING,AMERICAN FOOTBALL,RUGBY FOOTBALL,SWIMMER"),
    (0x1F3CB, "WEIGHT LIFTER,GOLFER,RACING MOTORCYCLE,RACING CAR,CRICKET BAT AND BALL"),
    (0x1F3D0, "VOLLEYBALL,FIELD HOCKEY STICK AND BALL,ICE HOCKEY STICK AND PUCK"),
    (0x1F3D3, "TABLE TENNIS PADDLE AND BALL,SNOW CAPPED MOUNTAIN,CAMPING,BEACH WITH UMBRELLA"),
    (0x1F3D7, "BUILDING CONSTRUCTION,HOUSE BUILDINGS,CITYSCAPE,DERELICT HOUSE BUILDING"),
    (0x1F3DB, "CLASSICAL BUILDING,DESERT,DESERT ISLAND,NATIONAL PARK,STADIUM,HOUSE BUILDING"),
    (0x1F3E1, "HOUSE WITH GARDEN,OFFICE BUILDING,JAPANESE POST OFFICE,EUROPEAN POST OFFICE"),
    (0x1F3E5, "HOSPITAL,BANK,AUTOMATED TELLER MACHINE,HOTEL,LOVE HOTEL,CONVENIENCE STORE"),
    (0x1F3EB, "SCHOOL,DEPARTMENT STORE,FACTORY,IZAKAYA LANTERN,JAPANESE CASTLE"),
    (0x1F3F0, "EUROPEAN CASTLE,WHITE PENNANT,BLACK PENNANT,WAVING WHITE FLAG"),
    (0x1F3F4, "WAVING BLACK FLAG,ROSETTE,BLACK ROSETTE,LABEL"),
    (0x1F3F8, "BADMINTON RACQUET AND SHUTTLECOCK,BOW AND ARROW,AMPHORA,,,,,,RAT,MOUSE,OX"),
    (0x1F403, "WATER BUFFALO,COW,TIGER,LEOPARD,RABBIT,CAT,DRAGON,CROCODILE,WHALE,SNAIL,SNAKE"),
    (0x1F40E, "HORSE,RAM,GOAT,SHEEP,MONKEY,ROOSTER,CHICKEN,DOG,PIG,BOAR,ELEPHANT,OCTOPUS"),
    (0x1F41A, "SPIRAL SHELL,BUG,ANT,HONEYBEE,LADY BEETLE,FISH,TROPICAL FISH,BLOWFISH,TURTLE"),
    (0x1F423, "HATCHING CHICK,BABY CHICK,FRONT-FACING BABY CHICK,BIRD,PENGUIN,KOALA,POODLE"),
    (0x1F42A, "DROMEDARY CAMEL,BACTRIAN CAMEL,DOLPHIN,MOUSE FACE,COW FACE,TIGER FACE"),
    (0x1F430, "RABBIT FACE,CAT FACE,DRAGON FACE,SPOUTING WHALE,HORSE FACE,MONKEY FACE"),
    (0x1F436, "DOG FACE,PIG FACE,FROG FACE,HAMSTER FACE,WOLF FACE,BEAR FACE,PANDA FACE"),
    (0x1F43D, "PIG NOSE,PAW PRINTS,CHIPMUNK,EYES,EYE,EAR,NOSE,MOUTH,TONGUE"),
    (0x1F446, "WHITE UP POINTING BACKHAND INDEX,WHITE DOWN POINTING BACKHAND INDEX"),
    (0x1F448, "WHITE LEFT POINTING BACKHAND INDEX,WHITE RIGHT POINTING BACKHAND INDEX"),
    (0x1F44A, "FISTED HAND SIGN,WAVING HAND SIGN,OK HAND SIGN,THUMBS UP SIGN"),
    (0x1F44E, "THUMBS DOWN SIGN,CLAPPING HANDS SIGN,OPEN HANDS SIGN,CROWN,WOMANS HAT"),
    (0x1F453, "EYEGLASSES,NECKTIE,T-SHIRT,JEANS,DRESS,KIMONO,BIKINI,WOMANS CLOTHES,PURSE"),
    (0x1F45C, "HANDBAG,POUCH,MANS SHOE,ATHLETIC SHOE,HIGH-HEELED SHOE,WOMANS SANDAL"),
    (0x1F462, "WOMANS BOOTS,FOOTPRINTS,BUST IN SILHOUETTE,BUSTS IN SILHOUETTE,BOY,GIRL,MAN"),
    (0x1F469, "WOMAN,FAMILY,MAN AND WOMAN HOLDING HANDS,TWO MEN HOLDING HANDS"),
    (0x1F46D, "TWO WOMEN HOLDING HANDS,POLICE OFFICER,WOMAN WITH BUNNY EARS,BRIDE WITH VEIL"),
    (0x1F471, "PERSON WITH BLOND HAIR,MAN WITH GUA PI MAO,MAN WITH TURBAN,OLDER MAN"),
    (0x1F475, "OLDER WOMAN,BABY,CONSTRUCTION WORKER,PRINCESS,JAPANESE OGRE,JAPANESE GOBLIN"),
    (0x1F47B, "GHOST,BABY ANGEL,EXTRATERRESTRIAL ALIEN,ALIEN MONSTER,IMP,SKULL"),
    (0x1F481, "INFORMATION DESK PERSON,GUARDSMAN,DANCER,LIPSTICK,NAIL POLISH,FACE MASSAGE"),
    (0x1F487, "HAIRCUT,BARBER POLE,SYRINGE,PILL,KISS MARK,LOVE LETTER,RING,GEM STONE,KISS"),
    (0x1F490, "BOUQUET,COUPLE WITH HEART,WEDDING,BEATING HEART,BROKEN HEART,TWO HEARTS"),
    (0x1F496, "SPARKLING HEART,GROWING HEART,HEART WITH ARROW,BLUE HEART,GREEN HEART"),
    (0x1F49B, "YELLOW HEART,PURPLE HEART,HEART WITH RIBBON,REVOLVING HEARTS,HEART DECORATION"),
    (0x1F4A0, "DIAMOND SHAPE WITH A DOT INSIDE,ELECTRIC LIGHT BULB,ANGER SYMBOL,BOMB"),
    (0x1F4A4, "SLEEPING SYMBOL,COLLISION SYMBOL,SPLASHING SWEAT SYMBOL,DROPLET,DASH SYMBOL"),
    (0x1F4A9, "PILE OF POO,FLEXED BICEPS,DIZZY SYMBOL,SPEECH BALLOON,THOUGHT BALLOON"),
    (0x1F4AE, "WHITE FLOWER,HUNDRED POINTS SYMBOL,MONEY BAG,CURRENCY EXCHANGE,,CREDIT CARD"),
    (0x1F4B4, "BANKNOTE WITH YEN SIGN,BANKNOTE WITH DOLLAR SIGN,BANKNOTE WITH EURO SIGN"),
    (0x1F4B7, "BANKNOTE WITH POUND SIGN,MONEY WITH WINGS"),
    (0x1F4B9, "CHART WITH UPWARDS TREND AND YEN SIGN,SEAT,PERSONAL COMPUTER,BRIEFCASE"),
    (0x1F4BD, "MINIDISC,FLOPPY DISK,OPTICAL DISC,DVD,FILE FOLDER,OPEN FILE FOLDER"),
    (0x1F4C3, "PAGE WITH CURL,PAGE FACING UP,CALENDAR,TEAR-OFF CALENDAR,CARD INDEX"),
    (0x1F4C8, "CHART WITH UPWARDS TREND,CHART WITH DOWNWARDS TREND,BAR CHART,CLIPBOARD"),
    (0x1F4CC, "PUSHPIN,ROUND PUSHPIN,PAPERCLIP,STRAIGHT RULER,TRIANGULAR RULER,BOOKMARK TABS"),
    (0x1F4D2, "LEDGER,NOTEBOOK,NOTEBOOK WITH DECORATIVE COVER,CLOSED BOOK,OPEN BOOK"),
    (0x1F4D7, "GREEN BOOK,BLUE BOOK,ORANGE BOOK,BOOKS,NAME BADGE,SCROLL,MEMO"),
    (0x1F4DE, "TELEPHONE RECEIVER,PAGER,FAX MACHINE,SATELLITE ANTENNA"),
    (0x1F4E2, "PUBLIC ADDRESS LOUDSPEAKER,CHEERING MEGAPHONE,OUTBOX TRAY,INBOX TRAY,PACKAGE"),
    (0x1F4E7, "E-MAIL SYMBOL,INCOMING ENVELOPE,ENVELOPE WITH DOWNWARDS ARROW ABOVE"),
    (0x1F4EA, "CLOSED MAILBOX WITH LOWERED FLAG,CLOSED MAILBOX WITH RAISED FLAG"),
    (0x1F4EC, "OPEN MAILBOX WITH RAISED FLAG,OPEN MAILBOX WITH LOWERED FLAG,POSTBOX"),
    (0x1F4EF, "POSTAL HORN,NEWSPAPER,MOBILE PHONE,MOBILE PHONE WITH RIGHTWARDS ARROW AT LEFT"),
    (0x1F4F3, "VIBRATION MODE,MOBILE PHONE OFF,NO MOBILE PHONES,ANTENNA WITH BARS,CAMERA"),
    (0x1F4F8, "CAMERA WITH FLASH,VIDEO CAMERA,TELEVISION,RADIO,VIDEOCASSETTE,FILM PROJECTOR"),
    (0x1F4FE, "PORTABLE STEREO,PRAYER BEADS,TWISTED RIGHTWARDS ARROWS"),
    (0x1F501, "CLOCKWISE RIGHTWARDS AND LEFTWARDS OPEN CIRCLE ARROWS"),
    (0x1F502, "CLOCKWISE RIGHTWARDS AND LEFTWARDS OPEN CIRCLE ARROWS WITH CIRCLED ONE OVERLAY"),
    (0x1F503, "CLOCKWISE DOWNWARDS AND UPWARDS OPEN CIRCLE ARROWS"),
    (0x1F504, "ANTICLOCKWISE DOWNWARDS AND UPWARDS OPEN CIRCLE ARROWS,LOW BRIGHTNESS SYMBOL"),
    (0x1F506, "HIGH BRIGHTNESS SYMBOL,SPEAKER WITH CANCELLATION STROKE,SPEAKER"),
    (0x1F509, "SPEAKER WITH ONE SOUND WAVE,SPEAKER WITH THREE SOUND WAVES,BATTERY"),
    (0x1F50C, "ELECTRIC PLUG,LEFT-POINTING MAGNIFYING GLASS,RIGHT-POINTING MAGNIFYING GLASS"),
    (0x1F50F, "LOCK WITH INK PEN,CLOSED LOCK WITH KEY,KEY,LOCK,OPEN LOCK,BELL"),
    (0x1F515, "BELL WITH CANCELLATION STROKE,BOOKMARK,LINK SYMBOL,RADIO BUTTON"),
    (0x1F519, "BACK WITH LEFTWARDS ARROW ABOVE,END WITH LEFTWARDS ARROW ABOVE"),
    (0x1F51B, "ON WITH EXCLAMATION MARK WITH LEFT RIGHT ARROW ABOVE"),
    (0x1F51C, "SOON WITH RIGHTWARDS ARROW ABOVE,TOP WITH UPWARDS ARROW ABOVE"),
    (0x1F51E, "NO ONE UNDER EIGHTEEN SYMBOL,KEYCAP TEN,,,,,,FIRE,ELECTRIC TORCH,WRENCH"),
    (0x1F528, "HAMMER,NUT AND BOLT,HOCHO,PISTOL,MICROSCOPE,TELESCOPE,CRYSTAL BALL"),
    (0x1F52F, "SIX POINTED STAR WITH MIDDLE DOT,JAPANESE SYMBOL FOR BEGINNER,TRIDENT EMBLEM"),
    (0x1F532, "BLACK SQUARE BUTTON,WHITE SQUARE BUTTON"),
    (0x1F53E, "LOWER RIGHT SHADOWED WHITE CIRCLE,UPPER RIGHT SHADOWED WHITE CIRCLE"),
    (0x1F541, "CROSS POMMEE WITH HALF-CIRCLE BELOW,CROSS POMMEE"),
    (0x1F543, "NOTCHED LEFT SEMICIRCLE WITH THREE DOTS"),
    (0x1F544, "NOTCHED RIGHT SEMICIRCLE WITH THREE DOTS,,WHITE LATIN CROSS,,CELTIC CROSS"),
    (0x1F549, "OM SYMBOL,DOVE OF PEACE,KAABA,MOSQUE,SYNAGOGUE,MENORAH WITH NINE BRANCHES"),
    (0x1F54F, "BOWL OF HYGIEIA"), (0x1F568, "RIGHT SPEAKER,RIGHT SPEAKER WITH ONE SOUND WAVE"),
    (0x1F56A, "RIGHT SPEAKER WITH THREE SOUND WAVES,BULLHORN,BULLHORN WITH SOUND WAVES"),
    (0x1F56D, "RINGING BELL,BOOK,CANDLE,MANTELPIECE CLOCK,BLACK SKULL AND CROSSBONES"),
    (0x1F572, "NO PIRACY,HOLE,MAN IN BUSINESS SUIT LEVITATING,SLEUTH OR SPY,DARK SUNGLASSES"),
    (0x1F577, "SPIDER,SPIDER WEB,JOYSTICK,MAN DANCING,LEFT HAND TELEPHONE RECEIVER"),
    (0x1F57C, "TELEPHONE RECEIVER WITH PAGE,RIGHT HAND TELEPHONE RECEIVER"),
    (0x1F57E, "WHITE TOUCHTONE TELEPHONE,BLACK TOUCHTONE TELEPHONE,TELEPHONE ON TOP OF MODEM"),
    (0x1F581, "CLAMSHELL MOBILE PHONE,BACK OF ENVELOPE,STAMPED ENVELOPE"),
    (0x1F584, "ENVELOPE WITH LIGHTNING,FLYING ENVELOPE,PEN OVER STAMPED ENVELOPE"),
    (0x1F587, "LINKED PAPERCLIPS,BLACK PUSHPIN,LOWER LEFT PENCIL,LOWER LEFT BALLPOINT PEN"),
    (0x1F58B, "LOWER LEFT FOUNTAIN PEN,LOWER LEFT PAINTBRUSH,LOWER LEFT CRAYON"),
    (0x1F58E, "LEFT WRITING HAND,TURNED OK HAND SIGN,RAISED HAND WITH FINGERS SPLAYED"),
    (0x1F591, "REVERSED RAISED HAND WITH FINGERS SPLAYED,REVERSED THUMBS UP SIGN"),
    (0x1F593, "REVERSED THUMBS DOWN SIGN,REVERSED VICTORY HAND"),
    (0x1F595, "REVERSED HAND WITH MIDDLE FINGER EXTENDED"),
    (0x1F596, "RAISED HAND WITH PART BETWEEN MIDDLE AND RING FINGERS"),
    (0x1F597, "WHITE DOWN POINTING LEFT HAND INDEX,,,,,BLACK LEFT POINTING BACKHAND INDEX"),
    (0x1F59D, "BLACK RIGHT POINTING BACKHAND INDEX,,,,,BLACK UP POINTING BACKHAND INDEX"),
    (0x1F5A3, "BLACK DOWN POINTING BACKHAND INDEX,BLACK HEART,DESKTOP COMPUTER"),
    (0x1F5A6, "KEYBOARD AND MOUSE,THREE NETWORKED COMPUTERS,PRINTER,POCKET CALCULATOR"),
    (0x1F5AA, "BLACK HARD SHELL FLOPPY DISK,WHITE HARD SHELL FLOPPY DISK"),
    (0x1F5AC, "SOFT SHELL FLOPPY DISK,TAPE CARTRIDGE,WIRED KEYBOARD,ONE BUTTON MOUSE"),
    (0x1F5B0, "TWO BUTTON MOUSE,THREE BUTTON MOUSE,TRACKBALL,OLD PERSONAL COMPUTER,HARD DISK"),
    (0x1F5B5, "SCREEN,PRINTER ICON,FAX ICON,OPTICAL DISC ICON,DOCUMENT WITH TEXT"),
    (0x1F5BA, "DOCUMENT WITH TEXT AND PICTURE,DOCUMENT WITH PICTURE,FRAME WITH PICTURE"),
    (0x1F5BD, "FRAME WITH TILES,FRAME WITH AN X,BLACK FOLDER,FOLDER,OPEN FOLDER"),
    (0x1F5C2, "CARD INDEX DIVIDERS,CARD FILE BOX,FILE CABINET,EMPTY NOTE,EMPTY NOTE PAGE"),
    (0x1F5C7, "EMPTY NOTE PAD,NOTE,NOTE PAGE,NOTE PAD,EMPTY DOCUMENT,EMPTY PAGE,EMPTY PAGES"),
    (0x1F5CE, "DOCUMENT,PAGE,PAGES,WASTEBASKET,SPIRAL NOTE PAD,SPIRAL CALENDAR PAD"),
    (0x1F5D4, "DESKTOP WINDOW,MINIMIZE,MAXIMIZE,OVERLAP"),
    (0x1F5D8, "CLOCKWISE RIGHT AND LEFT SEMICIRCLE ARROWS,CANCELLATION X"),
    (0x1F5DA, "INCREASE FONT SIZE SYMBOL,DECREASE FONT SIZE SYMBOL,COMPRESSION,OLD KEY"),
    (0x1F5DE, "ROLLED-UP NEWSPAPER,PAGE WITH CIRCLED TEXT,STOCK CHART,DAGGER KNIFE,LIPS"),
    (0x1F5E3, "SPEAKING HEAD IN SILHOUETTE,THREE RAYS ABOVE,THREE RAYS BELOW,THREE RAYS LEFT"),
    (0x1F5E7, "THREE RAYS RIGHT,LEFT SPEECH BUBBLE,RIGHT SPEECH BUBBLE,TWO SPEECH BUBBLES"),
    (0x1F5EB, "THREE SPEECH BUBBLES,LEFT THOUGHT BUBBLE,RIGHT THOUGHT BUBBLE"),
    (0x1F5EE, "LEFT ANGER BUBBLE,RIGHT ANGER BUBBLE,MOOD BUBBLE,LIGHTNING MOOD BUBBLE"),
    (0x1F5F2, "LIGHTNING MOOD,,BALLOT SCRIPT X,,BALLOT BOLD SCRIPT X,,LIGHT CHECK MARK"),
    (0x1F5FA, "WORLD MAP,MOUNT FUJI,TOKYO TOWER,STATUE OF LIBERTY,SILHOUETTE OF JAPAN,MOYAI"),
    (0x1F600, "GRINNING FACE,GRINNING FACE WITH SMILING EYES,,,,,,,,WINKING FACE"),
    (0x1F60B, "FACE SAVOURING DELICIOUS FOOD,RELIEVED FACE,,,SMIRKING FACE,NEUTRAL FACE"),
    (0x1F611, "EXPRESSIONLESS FACE,UNAMUSED FACE,,PENSIVE FACE,CONFUSED FACE,CONFOUNDED FACE"),
    (0x1F617, "KISSING FACE,FACE THROWING A KISS,KISSING FACE WITH SMILING EYES"),
    (0x1F61A, "KISSING FACE WITH CLOSED EYES,,,,DISAPPOINTED FACE,WORRIED FACE,ANGRY FACE"),
    (0x1F621, "POUTING FACE,CRYING FACE,PERSEVERING FACE,,DISAPPOINTED BUT RELIEVED FACE"),
    (0x1F626, "FROWNING FACE WITH OPEN MOUTH,ANGUISHED FACE,FEARFUL FACE,WEARY FACE"),
    (0x1F62A, "SLEEPY FACE,TIRED FACE,GRIMACING FACE,LOUDLY CRYING FACE,,HUSHED FACE"),
    (0x1F631, "FACE SCREAMING IN FEAR,ASTONISHED FACE,FLUSHED FACE,SLEEPING FACE,DIZZY FACE"),
    (0x1F636, "FACE WITHOUT MOUTH,,GRINNING CAT FACE WITH SMILING EYES"),
    (0x1F639, "CAT FACE WITH TEARS OF JOY,SMILING CAT FACE WITH OPEN MOUTH"),
    (0x1F63B, "SMILING CAT FACE WITH HEART-SHAPED EYES,CAT FACE WITH WRY SMILE"),
    (0x1F63D, "KISSING CAT FACE WITH CLOSED EYES,POUTING CAT FACE,CRYING CAT FACE"),
    (0x1F640, "WEARY CAT FACE,SLIGHTLY FROWNING FACE,SLIGHTLY SMILING FACE,UPSIDE-DOWN FACE"),
    (0x1F647, "PERSON BOWING DEEPLY,SEE-NO-EVIL MONKEY,HEAR-NO-EVIL MONKEY"),
    (0x1F64A, "SPEAK-NO-EVIL MONKEY,HAPPY PERSON RAISING ONE HAND"),
    (0x1F64C, "PERSON RAISING BOTH HANDS IN CELEBRATION,PERSON FROWNING"),
    (0x1F64E, "PERSON WITH POUTING FACE,PERSON WITH FOLDED HANDS,NORTH WEST POINTING LEAF"),
    (0x1F651, "SOUTH WEST POINTING LEAF,NORTH EAST POINTING LEAF,SOUTH EAST POINTING LEAF"),
    (0x1F654, "TURNED NORTH WEST POINTING LEAF,TURNED SOUTH WEST POINTING LEAF"),
    (0x1F656, "TURNED NORTH EAST POINTING LEAF,TURNED SOUTH EAST POINTING LEAF"),
    (0x1F658, "NORTH WEST POINTING VINE LEAF,SOUTH WEST POINTING VINE LEAF"),
    (0x1F65A, "NORTH EAST POINTING VINE LEAF,SOUTH EAST POINTING VINE LEAF"),
    (0x1F660, "NORTH WEST POINTING BUD,SOUTH WEST POINTING BUD,NORTH EAST POINTING BUD"),
    (0x1F663, "SOUTH EAST POINTING BUD,,,,,HOLLOW QUILT SQUARE ORNAMENT"),
    (0x1F669, "HOLLOW QUILT SQUARE ORNAMENT IN BLACK SQUARE,SOLID QUILT SQUARE ORNAMENT"),
    (0x1F66B, "SOLID QUILT SQUARE ORNAMENT IN BLACK SQUARE,,UPWARDS ROCKET,,DOWNWARDS ROCKET"),
    (0x1F672, "LIGATURE OPEN ET ORNAMENT,,,SWASH AMPERSAND ORNAMENT,,,,,,,,,CHECKER BOARD"),
    (0x1F67F, "REVERSE CHECKER BOARD,ROCKET,HELICOPTER,STEAM LOCOMOTIVE,RAILWAY CAR"),
    (0x1F684, "HIGH-SPEED TRAIN,HIGH-SPEED TRAIN WITH BULLET NOSE,TRAIN,METRO,LIGHT RAIL"),
    (0x1F689, "STATION,TRAM,TRAM CAR,BUS,ONCOMING BUS,TROLLEYBUS,BUS STOP,MINIBUS,AMBULANCE"),
    (0x1F692, "FIRE ENGINE,POLICE CAR,ONCOMING POLICE CAR,TAXI,ONCOMING TAXI,AUTOMOBILE"),
    (0x1F698, "ONCOMING AUTOMOBILE,RECREATIONAL VEHICLE,DELIVERY TRUCK,ARTICULATED LORRY"),
    (0x1F69C, "TRACTOR,MONORAIL,MOUNTAIN RAILWAY,SUSPENSION RAILWAY,MOUNTAIN CABLEWAY"),
    (0x1F6A1, "AERIAL TRAMWAY,SHIP,ROWBOAT,SPEEDBOAT,,VERTICAL TRAFFIC LIGHT"),
    (0x1F6A7, "CONSTRUCTION SIGN,POLICE CARS REVOLVING LIGHT,TRIANGULAR FLAG ON POST,DOOR"),
    (0x1F6AB, "NO ENTRY SIGN,SMOKING SYMBOL,NO SMOKING SYMBOL,PUT LITTER IN ITS PLACE SYMBOL"),
    (0x1F6AF, "DO NOT LITTER SYMBOL,POTABLE WATER SYMBOL,NON-POTABLE WATER SYMBOL,BICYCLE"),
    (0x1F6B3, "NO BICYCLES,BICYCLIST,MOUNTAIN BICYCLIST,PEDESTRIAN,NO PEDESTRIANS"),
    (0x1F6B8, "CHILDREN CROSSING,MENS SYMBOL,WOMENS SYMBOL,RESTROOM,BABY SYMBOL,TOILET"),
    (0x1F6BE, "WATER CLOSET,SHOWER,BATH,BATHTUB,PASSPORT CONTROL,CUSTOMS,BAGGAGE CLAIM"),
    (0x1F6C5, "LEFT LUGGAGE,TRIANGLE WITH ROUNDED CORNERS,PROHIBITED SIGN,,BOYS SYMBOL"),
    (0x1F6CA, "GIRLS SYMBOL,COUCH AND LAMP,SLEEPING ACCOMMODATION,SHOPPING BAGS,BELLHOP BELL"),
    (0x1F6CF, "BED,PLACE OF WORSHIP,OCTAGONAL SIGN,SHOPPING TROLLEY,STUPA,PAGODA"),
    (0x1F6D5, "HINDU TEMPLE,HUT,ELEVATOR,,,,,,PLAYGROUND SLIDE,WHEEL,RING BUOY"),
    (0x1F6E0, "HAMMER AND WRENCH,SHIELD,OIL DRUM,MOTORWAY,RAILWAY TRACK,MOTOR BOAT"),
    (0x1F6EA, "NORTHEAST-POINTING AIRPLANE,AIRPLANE DEPARTURE,AIRPLANE ARRIVING,,,,SATELLITE"),
    (0x1F6F1, "ONCOMING FIRE ENGINE,DIESEL LOCOMOTIVE,PASSENGER SHIP,SCOOTER,MOTOR SCOOTER"),
    (0x1F6F6, "CANOE,SLED,FLYING SAUCER,SKATEBOARD,AUTO RICKSHAW,PICKUP TRUCK,ROLLER SKATE"),
    (0x1F784, "BLACK SLIGHTLY SMALL CIRCLE,MEDIUM BOLD WHITE CIRCLE,BOLD WHITE CIRCLE"),
    (0x1F78A, "WHITE CIRCLE CONTAINING BLACK SMALL CIRCLE,ROUND TARGET,BLACK TINY SQUARE"),
    (0x1F78D, "BLACK SLIGHTLY SMALL SQUARE,LIGHT WHITE SQUARE,MEDIUM WHITE SQUARE"),
    (0x1F790, "BOLD WHITE SQUARE,,,,WHITE SQUARE CONTAINING BLACK VERY SMALL SQUARE"),
    (0x1F795, "WHITE SQUARE CONTAINING BLACK MEDIUM SQUARE,,BLACK TINY DIAMOND"),
    (0x1F798, "BLACK VERY SMALL DIAMOND,BLACK MEDIUM SMALL DIAMOND"),
    (0x1F79A, "WHITE DIAMOND CONTAINING BLACK VERY SMALL DIAMOND"),
    (0x1F79B, "WHITE DIAMOND CONTAINING BLACK MEDIUM DIAMOND,DIAMOND TARGET"),
    (0x1F79D, "BLACK TINY LOZENGE,BLACK VERY SMALL LOZENGE,BLACK MEDIUM SMALL LOZENGE"),
    (0x1F7A0, "WHITE LOZENGE CONTAINING BLACK SMALL LOZENGE,THIN GREEK CROSS"),
    (0x1F7A2, "LIGHT GREEK CROSS,MEDIUM GREEK CROSS,BOLD GREEK CROSS,VERY BOLD GREEK CROSS"),
    (0x1F7A8, "THIN SALTIRE,LIGHT SALTIRE,MEDIUM SALTIRE,BOLD SALTIRE"),
    (0x1F7AF, "LIGHT FIVE SPOKED ASTERISK,MEDIUM FIVE SPOKED ASTERISK"),
    (0x1F7B1, "BOLD FIVE SPOKED ASTERISK,,,,LIGHT SIX SPOKED ASTERISK"),
    (0x1F7B6, "MEDIUM SIX SPOKED ASTERISK,BOLD SIX SPOKED ASTERISK"),
    (0x1F7BB, "LIGHT EIGHT SPOKED ASTERISK,MEDIUM EIGHT SPOKED ASTERISK"),
    (0x1F7BD, "BOLD EIGHT SPOKED ASTERISK,,,LIGHT THREE POINTED BLACK STAR"),
    (0x1F7C1, "MEDIUM THREE POINTED BLACK STAR,THREE POINTED BLACK STAR"),
    (0x1F7C3, "MEDIUM THREE POINTED PINWHEEL STAR,LIGHT FOUR POINTED BLACK STAR"),
    (0x1F7C5, "MEDIUM FOUR POINTED BLACK STAR,FOUR POINTED BLACK STAR"),
    (0x1F7C7, "MEDIUM FOUR POINTED PINWHEEL STAR,REVERSE LIGHT FOUR POINTED PINWHEEL STAR"),
    (0x1F7C9, "LIGHT FIVE POINTED BLACK STAR,,MEDIUM SIX POINTED BLACK STAR"),
    (0x1F7CD, "SIX POINTED PINWHEEL STAR,MEDIUM EIGHT POINTED BLACK STAR"),
    (0x1F7D2, "LIGHT TWELVE POINTED BLACK STAR"),
    (0x1F903, "LEFT HALF CIRCLE WITH FOUR DOTS,LEFT HALF CIRCLE WITH THREE DOTS"),
    (0x1F905, "LEFT HALF CIRCLE WITH TWO DOTS,LEFT HALF CIRCLE WITH DOT,LEFT HALF CIRCLE"),
    (0x1F90C, "PINCHED FINGERS,WHITE HEART,BROWN HEART,PINCHING HAND,ZIPPER-MOUTH FACE"),
    (0x1F911, "MONEY-MOUTH FACE,,NERD FACE,THINKING FACE,,ROBOT FACE,HUGGING FACE"),
    (0x1F918, "SIGN OF THE HORNS,CALL ME HAND,RAISED BACK OF HAND,LEFT-FACING FIST"),
    (0x1F91C, "RIGHT-FACING FIST,HANDSHAKE,HAND WITH INDEX AND MIDDLE FINGERS CROSSED"),
    (0x1F91F, "I LOVE YOU HAND SIGN,,CLOWN FACE,NAUSEATED FACE,ROLLING ON THE FLOOR LAUGHING"),
    (0x1F924, "DROOLING FACE,LYING FACE,FACE PALM,SNEEZING FACE"),
    (0x1F929, "GRINNING FACE WITH STAR EYES,GRINNING FACE WITH ONE LARGE AND ONE SMALL EYE"),
    (0x1F92C, "SERIOUS FACE WITH SYMBOLS COVERING MOUTH,,,SHOCKED FACE WITH EXPLODING HEAD"),
    (0x1F930, "PREGNANT WOMAN,BREAST-FEEDING,PALMS UP TOGETHER,SELFIE,PRINCE,MAN IN TUXEDO"),
    (0x1F936, "MOTHER CHRISTMAS,SHRUG,PERSON DOING CARTWHEEL,JUGGLING,FENCER"),
    (0x1F93B, "MODERN PENTATHLON,WRESTLERS,WATER POLO,HANDBALL,DIVING MASK,WILTED FLOWER"),
    (0x1F941, "DRUM WITH DRUMSTICKS,CLINKING GLASSES,TUMBLER GLASS,SPOON,GOAL NET,RIFLE"),
    (0x1F947, "FIRST PLACE MEDAL,SECOND PLACE MEDAL,THIRD PLACE MEDAL,BOXING GLOVE"),
    (0x1F94B, "MARTIAL ARTS UNIFORM,CURLING STONE,LACROSSE STICK AND BALL,SOFTBALL"),
    (0x1F94F, "FLYING DISC,CROISSANT,AVOCADO,CUCUMBER,BACON,POTATO,CARROT,BAGUETTE BREAD"),
    (0x1F957, "GREEN SALAD,SHALLOW PAN OF FOOD,STUFFED FLATBREAD,EGG,GLASS OF MILK,PEANUTS"),
    (0x1F95D, "KIWIFRUIT,PANCAKES,DUMPLING,FORTUNE COOKIE,TAKEOUT BOX,CHOPSTICKS"),
    (0x1F963, "BOWL WITH SPOON,CUP WITH STRAW,COCONUT,BROCCOLI,PIE,PRETZEL,CUT OF MEAT"),
    (0x1F96A, "SANDWICH,CANNED FOOD,LEAFY GREEN,MANGO,MOON CAKE,BAGEL,,YAWNING FACE"),
    (0x1F975, "OVERHEATED FACE,FREEZING FACE,NINJA,DISGUISED FACE,FACE HOLDING BACK TEARS"),
    (0x1F97B, "SARI,LAB COAT,GOGGLES,HIKING BOOT,FLAT SHOE,CRAB,LION FACE,SCORPION,TURKEY"),
    (0x1F984, "UNICORN FACE,EAGLE,DUCK,BAT,SHARK,OWL,FOX FACE,BUTTERFLY,DEER,GORILLA,LIZARD"),
    (0x1F98F, "RHINOCEROS,SHRIMP,SQUID,GIRAFFE FACE,ZEBRA FACE,HEDGEHOG,SAUROPOD,T-REX"),
    (0x1F997, "CRICKET,KANGAROO,LLAMA,PEACOCK,HIPPOPOTAMUS,PARROT,RACCOON,LOBSTER,MOSQUITO"),
    (0x1F9A0, "MICROBE,BADGER,SWAN,MAMMOTH,DODO,SLOTH,OTTER,ORANGUTAN,SKUNK,FLAMINGO,OYSTER"),
    (0x1F9AB, "BEAVER,BISON,SEAL,GUIDE DOG,PROBING CANE,,,,,BONE,LEG,FOOT,TOOTH,SUPERHERO"),
    (0x1F9B9, "SUPERVILLAIN,SAFETY VEST,EAR WITH HEARING AID,MOTORIZED WHEELCHAIR"),
    (0x1F9BD, "MANUAL WHEELCHAIR,MECHANICAL ARM,MECHANICAL LEG,CHEESE WEDGE,CUPCAKE"),
    (0x1F9C2, "SALT SHAKER,BEVERAGE BOX,GARLIC,ONION,FALAFEL,WAFFLE,BUTTER,MATE DRINK"),
    (0x1F9CA, "ICE CUBE,BUBBLE TEA,TROLL,STANDING PERSON,KNEELING PERSON,DEAF PERSON,,ADULT"),
    (0x1F9D2, "CHILD,OLDER ADULT,BEARDED PERSON,PERSON WITH HEADSCARF,PERSON IN STEAMY ROOM"),
    (0x1F9D7, "PERSON CLIMBING,PERSON IN LOTUS POSITION,MAGE,FAIRY,VAMPIRE,MERPERSON,ELF"),
    (0x1F9DE, "GENIE,ZOMBIE,BRAIN,ORANGE HEART,BILLED CAP,SCARF,GLOVES,COAT,SOCKS"),
    (0x1F9E7, "RED GIFT ENVELOPE,FIRECRACKER,JIGSAW PUZZLE PIECE,TEST TUBE,PETRI DISH"),
    (0x1F9EC, "DNA DOUBLE HELIX,COMPASS,ABACUS,FIRE EXTINGUISHER,TOOLBOX,BRICK,MAGNET"),
    (0x1F9F3, "LUGGAGE,LOTION BOTTLE,SPOOL OF THREAD,BALL OF YARN,SAFETY PIN,TEDDY BEAR"),
    (0x1F9F9, "BROOM,BASKET,ROLL OF PAPER,BAR OF SOAP,SPONGE,RECEIPT,NAZAR AMULET"),
    (0x1FA70, "BALLET SHOES,ONE-PIECE SWIMSUIT,BRIEFS,SHORTS,THONG SANDAL,,,,DROP OF BLOOD"),
    (0x1FA79, "ADHESIVE BANDAGE,STETHOSCOPE,X-RAY,CRUTCH,,,,YO-YO,KITE,PARACHUTE,BOOMERANG"),
    (0x1FA84, "MAGIC WAND,PINATA,NESTING DOLLS"),
    (0x1FA90, "RINGED PLANET,CHAIR,RAZOR,AXE,DIYA LAMP,BANJO,MILITARY HELMET,ACCORDION"),
    (0x1FA98, "LONG DRUM,COIN,CARPENTRY SAW,SCREWDRIVER,LADDER,HOOK,,WINDOW,PLUNGER"),
    (0x1FAA1, "SEWING NEEDLE,KNOT,BUCKET,MOUSE TRAP,TOOTHBRUSH,HEADSTONE,PLACARD,ROCK"),
    (0x1FAAA, "IDENTIFICATION CARD,LOW BATTERY,HAMSA,,,,FLY,WORM,BEETLE,COCKROACH"),
    (0x1FAB4, "POTTED PLANT,WOOD,FEATHER,LOTUS,CORAL,EMPTY NEST,NEST WITH EGGS"),
    (0x1FAC0, "ANATOMICAL HEART,LUNGS,PEOPLE HUGGING,PREGNANT MAN,PREGNANT PERSON"),
    (0x1FAC5, "PERSON WITH CROWN"),
    (0x1FAD0, "BLUEBERRIES,BELL PEPPER,OLIVE,FLATBREAD,TAMALE,FONDUE,TEAPOT,POURING LIQUID"),
    (0x1FAD8, "BEANS,JAR,,,,,,,MELTING FACE,SALUTING FACE,,,,DOTTED LINE FACE,BITING LIP"),
    (0x1FAE7, "BUBBLES,,,,,,,,,HAND WITH INDEX FINGER AND THUMB CROSSED,,,PALM DOWN HAND"),
    (0x1FAF4, "PALM UP HAND,INDEX POINTING AT THE VIEWER,HEART HANDS"),
    (0x1FB68, "UPPER AND RIGHT AND LOWER TRIANGULAR THREE QUARTERS BLOCK"),
    (0x1FB69, "LEFT AND LOWER AND RIGHT TRIANGULAR THREE QUARTERS BLOCK"),
    (0x1FB6A, "UPPER AND LEFT AND LOWER TRIANGULAR THREE QUARTERS BLOCK"),
    (0x1FB6B, "LEFT AND UPPER AND RIGHT TRIANGULAR THREE QUARTERS BLOCK"),
    (0x1FB6C, "LEFT TRIANGULAR ONE QUARTER BLOCK,UPPER TRIANGULAR ONE QUARTER BLOCK"),
    (0x1FB6E, "RIGHT TRIANGULAR ONE QUARTER BLOCK,LOWER TRIANGULAR ONE QUARTER BLOCK"),
    (0x1FB7C, "LEFT AND LOWER ONE EIGHTH BLOCK,LEFT AND UPPER ONE EIGHTH BLOCK"),
    (0x1FB7E, "RIGHT AND UPPER ONE EIGHTH BLOCK,RIGHT AND LOWER ONE EIGHTH BLOCK"),
    (0x1FB80, "UPPER AND LOWER ONE EIGHTH BLOCK,,UPPER ONE QUARTER BLOCK"),
    (0x1FB83, "UPPER THREE EIGHTHS BLOCK,UPPER FIVE EIGHTHS BLOCK,UPPER THREE QUARTERS BLOCK"),
    (0x1FB86, "UPPER SEVEN EIGHTHS BLOCK,RIGHT ONE QUARTER BLOCK,RIGHT THREE EIGHTHS BLOCK"),
    (0x1FB89, "RIGHT FIVE EIGHTHS BLOCK,RIGHT THREE QUARTERS BLOCK,RIGHT SEVEN EIGHTHS BLOCK"),
    (0x1FB8C, "LEFT HALF MEDIUM SHADE,RIGHT HALF MEDIUM SHADE,UPPER HALF MEDIUM SHADE"),
    (0x1FB8F, "LOWER HALF MEDIUM SHADE,INVERSE MEDIUM SHADE"),
    (0x1FB91, "UPPER HALF BLOCK AND LOWER HALF INVERSE MEDIUM SHADE"),
    (0x1FB92, "UPPER HALF INVERSE MEDIUM SHADE AND LOWER HALF BLOCK"),
    (0x1FB94, "LEFT HALF INVERSE MEDIUM SHADE AND RIGHT HALF BLOCK,CHECKER BOARD FILL"),
    (0x1FB96, "INVERSE CHECKER BOARD FILL,,UPPER LEFT TO LOWER RIGHT FILL"),
    (0x1FB99, "UPPER RIGHT TO LOWER LEFT FILL,UPPER AND LOWER TRIANGULAR HALF BLOCK"),
    (0x1FB9B, "LEFT AND RIGHT TRIANGULAR HALF BLOCK,UPPER LEFT TRIANGULAR MEDIUM SHADE"),
    (0x1FB9D, "UPPER RIGHT TRIANGULAR MEDIUM SHADE,LOWER RIGHT TRIANGULAR MEDIUM SHADE"),
    (0x1FB9F, "LOWER LEFT TRIANGULAR MEDIUM SHADE"),
    (0x1FBB0, "ARROWHEAD-SHAPED POINTER,INVERSE CHECK MARK,LEFT HALF RUNNING MAN"),
    (0x1FBB3, "RIGHT HALF RUNNING MAN,INVERSE DOWNWARDS ARROW WITH TIP LEFTWARDS"),
    (0x1FBB7, "DOWNWARDS ARROW AND RIGHT ONE EIGHTH BLOCK"),
    (0x1FBB8, "UPWARDS ARROW AND RIGHT ONE EIGHTH BLOCK,LEFT HALF FOLDER,RIGHT HALF FOLDER"),
    (0x1FBBB, "VOIDED GREEK CROSS,RIGHT OPEN SQUARED DOT"),
    (0x1FBC0, "WHITE HEAVY SALTIRE WITH ROUNDED CORNERS"),
    (0x1FBC1, "LEFT THIRD WHITE RIGHT POINTING INDEX,MIDDLE THIRD WHITE RIGHT POINTING INDEX"),
    (0x1FBC3, "RIGHT THIRD WHITE RIGHT POINTING INDEX,,STICK FIGURE"),
    (0x1FBC6, "STICK FIGURE WITH ARMS RAISED,STICK FIGURE LEANING LEFT"),
    (0x1FBC8, "STICK FIGURE LEANING RIGHT,STICK FIGURE WITH DRESS"), (0xE0001, "LANGUAGE TAG"),
    (0xE007F, "CANCEL TAG")]⟩,
  ⟨"NEGATIVE ", [(0x24FF, "CIRCLED DIGIT ZERO"), (0x274E, "SQUARED CROSS MARK"),
    (0x1F18B, "SQUARED IC,SQUARED PA,SQUARED SA,SQUARED AB,SQUARED WC"),
    (0x1F7D6, "CIRCLED TRIANGLE,,CIRCLED SQUARE"),
    (0x1FBBD, "DIAGONAL CROSS,DIAGONAL MIDDLE RIGHT TO LOWER CENTRE,DIAGONAL DIAMOND"),
    (0x1FBC4, "SQUARED QUESTION MARK")]⟩,
  ⟨"BOX DRAWINGS LIGHT DIAGONAL ",
    [(0x2571, "UPPER RIGHT TO LOWER LEFT,UPPER LEFT TO LOWER RIGHT,CROSS"),
    (0x1FBA2, "MIDDLE LEFT TO LOWER CENTRE,MIDDLE RIGHT TO LOWER CENTRE"),
    (0x1FBA6, "MIDDLE LEFT TO LOWER CENTRE TO MIDDLE RIGHT"),
    (0x1FBA7, "MIDDLE LEFT TO UPPER CENTRE TO MIDDLE RIGHT"),
    (0x1FBAC, "MIDDLE LEFT TO UPPER CENTRE TO MIDDLE RIGHT TO LOWER CENTRE"),
    (0x1FBAD, "MIDDLE RIGHT TO UPPER CENTRE TO MIDDLE LEFT TO LOWER CENTRE,DIAMOND")]⟩,
  ⟨"UP-POINTING ", [(0x25ED, "TRIANGLE WITH LEFT HALF BLACK,TRIANGLE WITH RIGHT HALF BLACK"),
    (0x1F53A, "RED TRIANGLE,,SMALL RED TRIANGLE"),
    (0x1F6E6, "MILITARY AIRPLANE,AIRPLANE,SMALL AIRPLANE")]⟩,
  ⟨"LARGE ", [(0x25EF, "CIRCLE"), (0x27D8, "UP TACK,DOWN TACK"), (0x2A1E, "LEFT TRIANGLE OPERATOR"),
    (0x2AFC, "TRIPLE VERTICAL BAR OPERATOR"),
    (0x10B3C, "TWO DOTS OVER ONE DOT PUNCTUATION,ONE DOT OVER TWO DOTS PUNCTUATION"),
    (0x10B3E, "TWO RINGS OVER ONE RING PUNCTUATION,ONE RING OVER TWO RINGS PUNCTUATION"),
    (0x1F534, "RED CIRCLE,BLUE CIRCLE,ORANGE DIAMOND,BLUE DIAMOND"),
    (0x1F7E0, "ORANGE CIRCLE,YELLOW CIRCLE,GREEN CIRCLE,PURPLE CIRCLE,BROWN CIRCLE"),
    (0x1F7E5, "RED SQUARE,BLUE SQUARE,ORANGE SQUARE,YELLOW SQUARE,GREEN SQUARE,PURPLE SQUARE"),
    (0x1F7EB, "BROWN SQUARE")]⟩,
  ⟨"BALLOT BOX WITH ", [(0x2611, "CHECK,X"), (0x2BBD, "LIGHT X"),
    (0x1F5F3, "BALLOT,,SCRIPT X,,BOLD SCRIPT X,,BOLD CHECK")]⟩,
  ⟨"TRIGRAM FOR ", [(0x2630, "HEAVEN,LAKE,FIRE,THUNDER,WIND,WATER,MOUNTAIN,EARTH")]⟩,
  ⟨"WHITE CHESS ", [(0x2654, "KING,QUEEN,ROOK,BISHOP,KNIGHT,PAWN"),
    (0x1FA09, "KING ROTATED NINETY DEGREES,QUEEN ROTATED NINETY DEGREES"),
    (0x1FA0B, "ROOK ROTATED NINETY DEGREES,BISHOP ROTATED NINETY DEGREES"),
    (0x1FA0E, "PAWN ROTATED NINETY DEGREES"),
    (0x1FA1E, "TURNED KING,TURNED QUEEN,TURNED ROOK,TURNED BISHOP,TURNED KNIGHT,TURNED PAWN"),
    (0x1FA33, "KING ROTATED TWO HUNDRED SEVENTY DEGREES"),
    (0x1FA34, "QUEEN ROTATED TWO HUNDRED SEVENTY DEGREES"),
    (0x1FA35, "ROOK ROTATED TWO HUNDRED SEVENTY DEGREES"),
    (0x1FA36, "BISHOP ROTATED TWO HUNDRED SEVENTY DEGREES"),
    (0x1FA38, "PAWN ROTATED TWO HUNDRED SEVENTY DEGREES"),
    (0x1FA48, "EQUIHOPPER,,,EQUIHOPPER ROTATED NINETY DEGREES,,,KNIGHT-QUEEN,KNIGHT-ROOK"),
    (0x1FA50, "KNIGHT-BISHOP")]⟩,
  ⟨"BLACK CHESS ", [(0x265A, "KING,QUEEN,ROOK,BISHOP,KNIGHT,PAWN"),
    (0x1FA0F, "KING ROTATED NINETY DEGREES,QUEEN ROTATED NINETY DEGREES"),
    (0x1FA11, "ROOK ROTATED NINETY DEGREES,BISHOP ROTATED NINETY DEGREES"),
    (0x1FA14, "PAWN ROTATED NINETY DEGREES"),
    (0x1FA24, "TURNED KING,TURNED QUEEN,TURNED ROOK,TURNED BISHOP,TURNED KNIGHT,TURNED PAWN"),
    (0x1FA39, "KING ROTATED TWO HUNDRED SEVENTY DEGREES"),
    (0x1FA3A, "QUEEN ROTATED TWO HUNDRED SEVENTY DEGREES"),
    (0x1FA3B, "ROOK ROTATED TWO HUNDRED SEVENTY DEGREES"),
    (0x1FA3C, "BISHOP ROTATED TWO HUNDRED SEVENTY DEGREES"),
    (0x1FA3E, "PAWN ROTATED TWO HUNDRED SEVENTY DEGREES"),
    (0x1FA49, "EQUIHOPPER,,,EQUIHOPPER ROTATED NINETY DEGREES,,,,,KNIGHT-QUEEN,KNIGHT-ROOK"),
    (0x1FA53, "KNIGHT-BISHOP")]⟩,
  ⟨"RECYCLING SYMBOL FOR ",
    [(0x2673, "TYPE-1 PLASTICS,TYPE-2 PLASTICS,TYPE-3 PLASTICS,TYPE-4 PLASTICS"),
    (0x2677, "TYPE-5 PLASTICS,TYPE-6 PLASTICS,TYPE-7 PLASTICS,GENERIC MATERIALS")]⟩,
  ⟨"DIE FACE-", [(0x2680, "1,2,3,4,5,6")]⟩,
  ⟨"HEAVY ", [(0x26DB, "WHITE DOWN-POINTING TRIANGLE,,,,,,,,CIRCLE WITH STROKE AND TWO DOTS ABOVE"),
    (0x2714, "CHECK MARK,,MULTIPLICATION X,,BALLOT X,,GREEK CROSS,,OPEN CENTRE CROSS"),
    (0x2724, "FOUR BALLOON-SPOKED ASTERISK"),
    (0x272E, "OUTLINED BLACK STAR,,,ASTERISK,,,,,,,EIGHT POINTED RECTILINEAR BLACK STAR"),
    (0x273D, "TEARDROP-SPOKED ASTERISK,,,,,,TEARDROP-SPOKED PINWHEEL ASTERISK"),
    (0x2746, "CHEVRON SNOWFLAKE,,SPARKLE,,,EIGHT TEARDROP-SPOKED PROPELLER ASTERISK"),
    (0x2757, "EXCLAMATION MARK SYMBOL,,,VERTICAL BAR"),
    (0x275B, "SINGLE TURNED COMMA QUOTATION MARK ORNAMENT"),
    (0x275C, "SINGLE COMMA QUOTATION MARK ORNAMENT"),
    (0x275D, "DOUBLE TURNED COMMA QUOTATION MARK ORNAMENT"),
    (0x275E, "DOUBLE COMMA QUOTATION MARK ORNAMENT,LOW SINGLE COMMA QUOTATION MARK ORNAMENT"),
    (0x2760, "LOW DOUBLE COMMA QUOTATION MARK ORNAMENT,,EXCLAMATION MARK ORNAMENT"),
    (0x2763, "HEART EXCLAMATION MARK ORNAMENT,BLACK HEART"),
    (0x276E, "LEFT-POINTING ANGLE QUOTATION MARK ORNAMENT"),
    (0x276F, "RIGHT-POINTING ANGLE QUOTATION MARK ORNAMENT"),
    (0x2770, "LEFT-POINTING ANGLE BRACKET ORNAMENT,RIGHT-POINTING ANGLE BRACKET ORNAMENT"),
    (0x2794, "WIDE-HEADED RIGHTWARDS ARROW,PLUS SIGN,MINUS SIGN,DIVISION SIGN"),
    (0x2798, "SOUTH EAST ARROW,RIGHTWARDS ARROW,NORTH EAST ARROW"),
    (0x279C, "ROUND-TIPPED RIGHTWARDS ARROW,,TRIANGLE-HEADED RIGHTWARDS ARROW"),
    (0x27A0, "DASHED TRIANGLE-HEADED RIGHTWARDS ARROW"),
    (0x27A5, "BLACK CURVED DOWNWARDS AND RIGHTWARDS ARROW"),
    (0x27A6, "BLACK CURVED UPWARDS AND RIGHTWARDS ARROW"),
    (0x27A8, "CONCAVE-POINTED BLACK RIGHTWARDS ARROW"),
    (0x27AD, "LOWER RIGHT-SHADOWED WHITE RIGHTWARDS ARROW"),
    (0x27AE, "UPPER RIGHT-SHADOWED WHITE RIGHTWARDS ARROW"),
    (0x27B7, "BLACK-FEATHERED SOUTH EAST ARROW,BLACK-FEATHERED RIGHTWARDS ARROW"),
    (0x27B9, "BLACK-FEATHERED NORTH EAST ARROW,,TEARDROP-SHANKED RIGHTWARDS ARROW"),
    (0x27BD, "WEDGE-TAILED RIGHTWARDS ARROW"),
    (0x2B55, "LARGE CIRCLE,OVAL WITH OVAL INSIDE,CIRCLE WITH CIRCLE INSIDE,CIRCLE"),
    (0x2B59, "CIRCLED SALTIRE"), (0x1F4B2, "DOLLAR SIGN"), (0x1F547, "LATIN CROSS"),
    (0x1F65C, "NORTH WEST POINTING VINE LEAF,SOUTH WEST POINTING VINE LEAF"),
    (0x1F65E, "NORTH EAST POINTING VINE LEAF,SOUTH EAST POINTING VINE LEAF"),
    (0x1F664, "NORTH WEST POINTING BUD,SOUTH WEST POINTING BUD,NORTH EAST POINTING BUD"),
    (0x1F667, "SOUTH EAST POINTING BUD"),
    (0x1F671, "SCRIPT LIGATURE ET ORNAMENT,,LIGATURE OPEN ET ORNAMENT,AMPERSAND ORNAMENT"),
    (0x1F679, "INTERROBANG ORNAMENT,,SANS-SERIF INTERROBANG ORNAMENT"), (0x1F787, "WHITE CIRCLE"),
    (0x1F791, "WHITE SQUARE"),
    (0x1F7AC, "SALTIRE,,,,,,FIVE SPOKED ASTERISK,,,,,,SIX SPOKED ASTERISK"),
    (0x1F7BE, "EIGHT SPOKED ASTERISK"),
    (0x1F7CA, "FIVE POINTED BLACK STAR,,SIX POINTED BLACK STAR,,,EIGHT POINTED BLACK STAR"),
    (0x1F7D1, "EIGHT POINTED PINWHEEL STAR,,TWELVE POINTED BLACK STAR"),
    (0x1F7D4, "TWELVE POINTED PINWHEEL STAR"), (0x1F7F0, "EQUALS SIGN"),
    (0x1F818, "LEFTWARDS ARROW WITH EQUILATERAL ARROWHEAD"),
    (0x1F819, "UPWARDS ARROW WITH EQUILATERAL ARROWHEAD"),
    (0x1F81A, "RIGHTWARDS ARROW WITH EQUILATERAL ARROWHEAD"),
    (0x1F81B, "DOWNWARDS ARROW WITH EQUILATERAL ARROWHEAD"),
    (0x1F81C, "LEFTWARDS ARROW WITH LARGE EQUILATERAL ARROWHEAD"),
    (0x1F81D, "UPWARDS ARROW WITH LARGE EQUILATERAL ARROWHEAD"),
    (0x1F81E, "RIGHTWARDS ARROW WITH LARGE EQUILATERAL ARROWHEAD"),
    (0x1F81F, "DOWNWARDS ARROW WITH LARGE EQUILATERAL ARROWHEAD"),
    (0x1F89C, "ARROW SHAFT WIDTH ONE,ARROW SHAFT WIDTH TWO THIRDS,ARROW SHAFT WIDTH ONE HALF"),
    (0x1F89F, "ARROW SHAFT WIDTH ONE THIRD"), (0x1FB97, "HORIZONTAL FILL")]⟩,
  ⟨"DINGBAT NEGATIVE CIRCLED ",
    [(0x2776, "DIGIT ONE,DIGIT TWO,DIGIT THREE,DIGIT FOUR,DIGIT FIVE,DIGIT SIX,DIGIT SEVEN"),
    (0x277D, "DIGIT EIGHT,DIGIT NINE,NUMBER TEN")]⟩,
  ⟨"DINGBAT CIRCLED SANS-SERIF ",
    [(0x2780, "DIGIT ONE,DIGIT TWO,DIGIT THREE,DIGIT FOUR,DIGIT FIVE,DIGIT SIX,DIGIT SEVEN"),
    (0x2787, "DIGIT EIGHT,DIGIT NINE,NUMBER TEN"), (0x1F10B, "DIGIT ZERO")]⟩,
  ⟨"DINGBAT NEGATIVE CIRCLED SANS-SERIF ",
    [(0x278A, "DIGIT ONE,DIGIT TWO,DIGIT THREE,DIGIT FOUR,DIGIT FIVE,DIGIT SIX,DIGIT SEVEN"),
    (0x2791, "DIGIT EIGHT,DIGIT NINE,NUMBER TEN"), (0x1F10C, "DIGIT ZERO")]⟩,
  ⟨"BLACK-FEATHERED ", [(0x27B4, "SOUTH EAST ARROW,RIGHTWARDS ARROW,NORTH EAST ARROW")]⟩,
  ⟨"VARIATION SELECTOR-", [(0xFE00, "1,2,3,4,5,6,7,8,9,10,11,12,13,14,15,16"),
    (0xE0100, "17,18,19,20,21,22,23,24,25,26,27,28,29,30,31,32,33,34,35,36,37,38,39,40,41,42"),
    (0xE011A, "43,44,45,46,47,48,49,50,51,52,53,54,55,56,57,58,59,60,61,62,63,64,65,66,67,68"),
    (0xE0134, "69,70,71,72,73,74,75,76,77,78,79,80,81,82,83,84,85,86,87,88,89,90,91,92,93,94"),
    (0xE014E, "95,96,97,98,99,100,101,102,103,104,105,106,107,108,109,110,111,112,113,114"),
    (0xE0162, "115,116,117,118,119,120,121,122,123,124,125,126,127,128,129,130,131,132,133"),
    (0xE0175, "134,135,136,137,138,139,140,141,142,143,144,145,146,147,148,149,150,151,152"),
    (0xE0188, "153,154,155,156,157,158,159,160,161,162,163,164,165,166,167,168,169,170,171"),
    (0xE019B, "172,173,174,175,176,177,178,179,180,181,182,183,184,185,186,187,188,189,190"),
    (0xE01AE, "191,192,193,194,195,196,197,198,199,200,201,202,203,204,205,206,207,208,209"),
    (0xE01C1, "210,211,212,213,214,215,216,217,218,219,220,221,222,223,224,225,226,227,228"),
    (0xE01D4, "229,230,231,232,233,234,235,236,237,238,239,240,241,242,243,244,245,246,247"),
    (0xE01E7, "248,249,250,251,252,253,254,255,256")]⟩,
  ⟨"MAHJONG TILE ", [(0x1F000, "EAST WIND,SOUTH WIND,WEST WIND,NORTH WIND,RED DRAGON,GREEN DRAGON"),
    (0x1F006, "WHITE DRAGON,ONE OF CHARACTERS,TWO OF CHARACTERS,THREE OF CHARACTERS"),
    (0x1F00A, "FOUR OF CHARACTERS,FIVE OF CHARACTERS,SIX OF CHARACTERS,SEVEN OF CHARACTERS"),
    (0x1F00E, "EIGHT OF CHARACTERS,NINE OF CHARACTERS,ONE OF BAMBOOS,TWO OF BAMBOOS"),
    (0x1F012, "THREE OF BAMBOOS,FOUR OF BAMBOOS,FIVE OF BAMBOOS,SIX OF BAMBOOS"),
    (0x1F016, "SEVEN OF BAMBOOS,EIGHT OF BAMBOOS,NINE OF BAMBOOS,ONE OF CIRCLES"),
    (0x1F01A, "TWO OF CIRCLES,THREE OF CIRCLES,FOUR OF CIRCLES,FIVE OF CIRCLES"),
    (0x1F01E, "SIX OF CIRCLES,SEVEN OF CIRCLES,EIGHT OF CIRCLES,NINE OF CIRCLES,PLUM,ORCHID"),
    (0x1F024, "BAMBOO,CHRYSANTHEMUM,SPRING,SUMMER,AUTUMN,WINTER,JOKER,BACK")]⟩,
  ⟨"DOMINO TILE HORIZONTAL-",
    [(0x1F031, "00-00,00-01,00-02,00-03,00-04,00-05,00-06,01-00,01-01,01-02,01-03,01-04,01-05"),
    (0x1F03E, "01-06,02-00,02-01,02-02,02-03,02-04,02-05,02-06,03-00,03-01,03-02,03-03,03-04"),
    (0x1F04B, "03-05,03-06,04-00,04-01,04-02,04-03,04-04,04-05,04-06,05-00,05-01,05-02,05-03"),
    (0x1F058, "05-04,05-05,05-06,06-00,06-01,06-02,06-03,06-04,06-05,06-06")]⟩,
  ⟨"DOMINO TILE VERTICAL-",
    [(0x1F063, "00-00,00-01,00-02,00-03,00-04,00-05,00-06,01-00,01-01,01-02,01-03,01-04,01-05"),
    (0x1F070, "01-06,02-00,02-01,02-02,02-03,02-04,02-05,02-06,03-00,03-01,03-02,03-03,03-04"),
    (0x1F07D, "03-05,03-06,04-00,04-01,04-02,04-03,04-04,04-05,04-06,05-00,05-01,05-02,05-03"),
    (0x1F08A, "05-04,05-05,05-06,06-00,06-01,06-02,06-03,06-04,06-05,06-06")]⟩,
  ⟨"PLAYING CARD ", [(0x1F0A0, "BACK,ACE OF SPADES,TWO OF SPADES,THREE OF SPADES,FOUR OF SPADES"),
    (0x1F0A5, "FIVE OF SPADES,SIX OF SPADES,SEVEN OF SPADES,EIGHT OF SPADES,NINE OF SPADES"),
    (0x1F0AA, "TEN OF SPADES,JACK OF SPADES,KNIGHT OF SPADES,QUEEN OF SPADES,KING OF SPADES"),
    (0x1F0B1, "ACE OF HEARTS,TWO OF HEARTS,THREE OF HEARTS,FOUR OF HEARTS,FIVE OF HEARTS"),
    (0x1F0B6, "SIX OF HEARTS,SEVEN OF HEARTS,EIGHT OF HEARTS,NINE OF HEARTS,TEN OF HEARTS"),
    (0x1F0BB, "JACK OF HEARTS,KNIGHT OF HEARTS,QUEEN OF HEARTS,KING OF HEARTS,RED JOKER"),
    (0x1F0C1, "ACE OF DIAMONDS,TWO OF DIAMONDS,THREE OF DIAMONDS,FOUR OF DIAMONDS"),
    (0x1F0C5, "FIVE OF DIAMONDS,SIX OF DIAMONDS,SEVEN OF DIAMONDS,EIGHT OF DIAMONDS"),
    (0x1F0C9, "NINE OF DIAMONDS,TEN OF DIAMONDS,JACK OF DIAMONDS,KNIGHT OF DIAMONDS"),
    (0x1F0CD, "QUEEN OF DIAMONDS,KING OF DIAMONDS,BLACK JOKER,,ACE OF CLUBS,TWO OF CLUBS"),
    (0x1F0D3, "THREE OF CLUBS,FOUR OF CLUBS,FIVE OF CLUBS,SIX OF CLUBS,SEVEN OF CLUBS"),
    (0x1F0D8, "EIGHT OF CLUBS,NINE OF CLUBS,TEN OF CLUBS,JACK OF CLUBS,KNIGHT OF CLUBS"),
    (0x1F0DD, "QUEEN OF CLUBS,KING OF CLUBS,WHITE JOKER,FOOL")]⟩,
  ⟨"PLAYING CARD TRUMP-", [(0x1F0E1, "1,2,3,4,5,6,7,8,9,10,11,12,13,14,15,16,17,18,19,20,21")]⟩,
  ⟨"EMOJI MODIFIER FITZPATRICK ", [(0x1F3FB, "TYPE-1-2,TYPE-3,TYPE-4,TYPE-5,TYPE-6")]⟩,
  ⟨"INPUT SYMBOL ",
    [(0x1F520, "FOR LATIN CAPITAL LETTERS,FOR LATIN SMALL LETTERS,FOR NUMBERS,FOR SYMBOLS"),
    (0x1F524, "FOR LATIN LETTERS")]⟩,
  ⟨"CLOCK FACE ",
    [(0x1F550, "ONE OCLOCK,TWO OCLOCK,THREE OCLOCK,FOUR OCLOCK,FIVE OCLOCK,SIX OCLOCK"),
    (0x1F556, "SEVEN OCLOCK,EIGHT OCLOCK,NINE OCLOCK,TEN OCLOCK,ELEVEN OCLOCK,TWELVE OCLOCK"),
    (0x1F55C, "ONE-THIRTY,TWO-THIRTY,THREE-THIRTY,FOUR-THIRTY,FIVE-THIRTY,SIX-THIRTY"),
    (0x1F562, "SEVEN-THIRTY,EIGHT-THIRTY,NINE-THIRTY,TEN-THIRTY,ELEVEN-THIRTY,TWELVE-THIRTY")]⟩,
  ⟨"SIDEWAYS ", [(0x1F598, "WHITE LEFT POINTING INDEX,WHITE RIGHT POINTING INDEX"),
    (0x1F59A, "BLACK LEFT POINTING INDEX,BLACK RIGHT POINTING INDEX"),
    (0x1F59E, "WHITE UP POINTING INDEX,WHITE DOWN POINTING INDEX,BLACK UP POINTING INDEX"),
    (0x1F5A1, "BLACK DOWN POINTING INDEX")]⟩,
  ⟨"FACE WITH ", [(0x1F602, "TEARS OF JOY"),
    (0x1F613, "COLD SWEAT,,,,,,,,STUCK-OUT TONGUE,STUCK-OUT TONGUE AND WINKING EYE"),
    (0x1F61D, "STUCK-OUT TONGUE AND TIGHTLY-CLOSED EYES,,,,,,,LOOK OF TRIUMPH"),
    (0x1F62E, "OPEN MOUTH,,OPEN MOUTH AND COLD SWEAT,,,,,,,MEDICAL MASK"),
    (0x1F644, "ROLLING EYES,NO GOOD GESTURE,OK GESTURE"), (0x1F912, "THERMOMETER,,,HEAD-BANDAGE"),
    (0x1F920, "COWBOY HAT,,,,,,,,ONE EYEBROW RAISED,,,FINGER COVERING CLOSED LIPS"),
    (0x1F92E, "OPEN MOUTH VOMITING"),
    (0x1F973, "PARTY HORN AND PARTY HAT,UNEVEN EYES AND WAVY MOUTH,,,,,,PLEADING EYES"),
    (0x1F9D0, "MONOCLE"), (0x1FAE2, "OPEN EYES AND HAND OVER MOUTH,PEEKING EYE,DIAGONAL MOUTH")]⟩,
  ⟨"SMILING FACE WITH ",
    [(0x1F603, "OPEN MOUTH,OPEN MOUTH AND SMILING EYES,OPEN MOUTH AND COLD SWEAT"),
    (0x1F606, "OPEN MOUTH AND TIGHTLY-CLOSED EYES,HALO,HORNS,,SMILING EYES"),
    (0x1F60D, "HEART-SHAPED EYES,SUNGLASSES"), (0x1F92D, "SMILING EYES AND HAND COVERING MOUTH"),
    (0x1F970, "SMILING EYES AND THREE HEARTS,,TEAR")]⟩,
  ⟨"SANS-SERIF ", [(0x1F676, "HEAVY DOUBLE TURNED COMMA QUOTATION MARK ORNAMENT"),
    (0x1F677, "HEAVY DOUBLE COMMA QUOTATION MARK ORNAMENT"),
    (0x1F678, "HEAVY LOW DOUBLE COMMA QUOTATION MARK ORNAMENT,,INTERROBANG ORNAMENT")]⟩,
  ⟨"VERY HEAVY ", [(0x1F67C, "SOLIDUS,REVERSE SOLIDUS"), (0x1F788, "WHITE CIRCLE"),
    (0x1F792, "WHITE SQUARE"),
    (0x1F7A6, "GREEK CROSS,,,,,,,SALTIRE,,,,,,FIVE SPOKED ASTERISK,,,,,,SIX SPOKED ASTERISK"),
    (0x1F7BF, "EIGHT SPOKED ASTERISK"), (0x1F7D0, "EIGHT POINTED BLACK STAR")]⟩,
  ⟨"ALCHEMICAL SYMBOL FOR ",
    [(0x1F700, "QUINTESSENCE,AIR,FIRE,EARTH,WATER,AQUAFORTIS,AQUA REGIA,AQUA REGIA-2"),
    (0x1F708, "AQUA VITAE,AQUA VITAE-2,VINEGAR,VINEGAR-2,VINEGAR-3,SULFUR"),
    (0x1F70E, "PHILOSOPHERS SULFUR,BLACK SULFUR,MERCURY SUBLIMATE,MERCURY SUBLIMATE-2"),
    (0x1F712, "MERCURY SUBLIMATE-3,CINNABAR,SALT,NITRE,VITRIOL,VITRIOL-2,ROCK SALT"),
    (0x1F719, "ROCK SALT-2,GOLD,SILVER,IRON ORE,IRON ORE-2,CROCUS OF IRON,REGULUS OF IRON"),
    (0x1F720, "COPPER ORE,IRON-COPPER ORE,SUBLIMATE OF COPPER,CROCUS OF COPPER"),
    (0x1F724, "CROCUS OF COPPER-2,COPPER ANTIMONIATE,SALT OF COPPER ANTIMONIATE"),
    (0x1F727, "SUBLIMATE OF SALT OF COPPER,VERDIGRIS,TIN ORE,LEAD ORE,ANTIMONY ORE"),
    (0x1F72C, "SUBLIMATE OF ANTIMONY,SALT OF ANTIMONY,SUBLIMATE OF SALT OF ANTIMONY"),
    (0x1F72F, "VINEGAR OF ANTIMONY,REGULUS OF ANTIMONY,REGULUS OF ANTIMONY-2,REGULUS"),
    (0x1F733, "REGULUS-2,REGULUS-3,REGULUS-4,ALKALI,ALKALI-2,MARCASITE,SAL-AMMONIAC,ARSENIC"),
    (0x1F73B, "REALGAR,REALGAR-2,AURIPIGMENT,BISMUTH ORE,TARTAR,TARTAR-2,QUICK LIME,BORAX"),
    (0x1F743, "BORAX-2,BORAX-3,ALUM,OIL,SPIRIT,TINCTURE,GUM,WAX,POWDER,CALX,TUTTY"),
    (0x1F74E, "CAPUT MORTUUM,SCEPTER OF JOVE,CADUCEUS,TRIDENT,STARRED TRIDENT,LODESTONE,SOAP"),
    (0x1F755, "URINE,HORSE DUNG,ASHES,POT ASHES,BRICK,POWDERED BRICK,AMALGAM"),
    (0x1F75C, "STRATUM SUPER STRATUM,STRATUM SUPER STRATUM-2,SUBLIMATION,PRECIPITATE,DISTILL"),
    (0x1F761, "DISSOLVE,DISSOLVE-2,PURIFY,PUTREFACTION,CRUCIBLE,CRUCIBLE-2,CRUCIBLE-3"),
    (0x1F768, "CRUCIBLE-4,CRUCIBLE-5,ALEMBIC,BATH OF MARY,BATH OF VAPOURS,RETORT,HOUR,NIGHT"),
    (0x1F770, "DAY-NIGHT,MONTH,HALF DRAM,HALF OUNCE")]⟩,
  ⟨"EXTREMELY HEAVY ", [(0x1F789, "WHITE CIRCLE"), (0x1F793, "WHITE SQUARE"),
    (0x1F7A7, "GREEK CROSS,,,,,,,SALTIRE,,,,,,FIVE SPOKED ASTERISK,,,,,,SIX SPOKED ASTERISK")]⟩,
  ⟨"DOWNWARD FACING ", [(0x1F908, "HOOK,NOTCHED HOOK,HOOK WITH DOT,NOTCHED HOOK WITH DOT")]⟩,
  ⟨"EMOJI COMPONENT ", [(0x1F9B0, "RED HAIR,CURLY HAIR,BALD,WHITE HAIR")]⟩,
  ⟨"NEUTRAL CHESS ", [(0x1FA00, "KING,QUEEN,ROOK,BISHOP,KNIGHT,PAWN"),
    (0x1FA15, "KING ROTATED NINETY DEGREES,QUEEN ROTATED NINETY DEGREES"),
    (0x1FA17, "ROOK ROTATED NINETY DEGREES,BISHOP ROTATED NINETY DEGREES"),
    (0x1FA1A, "PAWN ROTATED NINETY DEGREES"),
    (0x1FA2A, "TURNED KING,TURNED QUEEN,TURNED ROOK,TURNED BISHOP,TURNED KNIGHT,TURNED PAWN"),
    (0x1FA3F, "KING ROTATED TWO HUNDRED SEVENTY DEGREES"),
    (0x1FA40, "QUEEN ROTATED TWO HUNDRED SEVENTY DEGREES"),
    (0x1FA41, "ROOK ROTATED TWO HUNDRED SEVENTY DEGREES"),
    (0x1FA42, "BISHOP ROTATED TWO HUNDRED SEVENTY DEGREES"),
    (0x1FA44, "PAWN ROTATED TWO HUNDRED SEVENTY DEGREES,,,,,,EQUIHOPPER"),
    (0x1FA4D, "EQUIHOPPER ROTATED NINETY DEGREES")]⟩,
  ⟨"WHITE CHESS KNIGHT ROTATED ", [(0x1FA06, "FORTY-FIVE DEGREES,,,,,,,NINETY DEGREES"),
    (0x1FA1B, "ONE HUNDRED THIRTY-FIVE DEGREES"),
    (0x1FA30, "TWO HUNDRED TWENTY-FIVE DEGREES,,,,,,,TWO HUNDRED SEVENTY DEGREES"),
    (0x1FA45, "THREE HUNDRED FIFTEEN DEGREES")]⟩,
  ⟨"BLACK CHESS KNIGHT ROTATED ", [(0x1FA07, "FORTY-FIVE DEGREES"),
    (0x1FA13, "NINETY DEGREES,,,,,,,,,ONE HUNDRED THIRTY-FIVE DEGREES"),
    (0x1FA31, "TWO HUNDRED TWENTY-FIVE DEGREES"),
    (0x1FA3D, "TWO HUNDRED SEVENTY DEGREES,,,,,,,,,THREE HUNDRED FIFTEEN DEGREES")]⟩,
  ⟨"NEUTRAL CHESS KNIGHT ROTATED ", [(0x1FA08, "FORTY-FIVE DEGREES"),
    (0x1FA19, "NINETY DEGREES,,,,ONE HUNDRED THIRTY-FIVE DEGREES"),
    (0x1FA32, "TWO HUNDRED TWENTY-FIVE DEGREES"),
    (0x1FA43, "TWO HUNDRED SEVENTY DEGREES,,,,THREE HUNDRED FIFTEEN DEGREES")]⟩,
  ⟨"XIANGQI ", [(0x1FA60, "RED GENERAL,RED MANDARIN,RED ELEPHANT,RED HORSE,RED CHARIOT,RED CANNON"),
    (0x1FA66, "RED SOLDIER,BLACK GENERAL,BLACK MANDARIN,BLACK ELEPHANT,BLACK HORSE"),
    (0x1FA6B, "BLACK CHARIOT,BLACK CANNON,BLACK SOLDIER")]⟩,
  ⟨"MIRR", [(0x1FA9E, "OR"), (0x1FAA9, "OR BALL")]⟩,
  ⟨"BLOCK SEXTANT-",
    [(0x1FB00, "1,2,12,3,13,23,123,4,14,24,124,34,134,234,1234,5,15,25,125,35,235,1235,45,145"),
    (0x1FB18, "245,1245,345,1345,2345,12345,6,16,26,126,36,136,236,1236,46,146,1246,346,1346"),
    (0x1FB2B, "2346,12346,56,156,256,1256,356,1356,2356,12356,456,1456,2456,12456,3456,13456"),
    (0x1FB3B, "23456")]⟩,
  ⟨"LOWER LEFT BLOCK DIAGONAL ",
    [(0x1FB3C, "LOWER MIDDLE LEFT TO LOWER CENTRE,LOWER MIDDLE LEFT TO LOWER RIGHT"),
    (0x1FB3E, "UPPER MIDDLE LEFT TO LOWER CENTRE,UPPER MIDDLE LEFT TO LOWER RIGHT"),
    (0x1FB40, "UPPER LEFT TO LOWER CENTRE"),
    (0x1FB4C, "UPPER CENTRE TO UPPER MIDDLE RIGHT,UPPER LEFT TO UPPER MIDDLE RIGHT"),
    (0x1FB4E, "UPPER CENTRE TO LOWER MIDDLE RIGHT,UPPER LEFT TO LOWER MIDDLE RIGHT"),
    (0x1FB50, "UPPER CENTRE TO LOWER RIGHT,UPPER MIDDLE LEFT TO LOWER MIDDLE RIGHT")]⟩,
  ⟨"LOWER RIGHT BLOCK DIAGONAL ",
    [(0x1FB41, "UPPER MIDDLE LEFT TO UPPER CENTRE,UPPER MIDDLE LEFT TO UPPER RIGHT"),
    (0x1FB43, "LOWER MIDDLE LEFT TO UPPER CENTRE,LOWER MIDDLE LEFT TO UPPER RIGHT"),
    (0x1FB45, "LOWER LEFT TO UPPER CENTRE,LOWER MIDDLE LEFT TO UPPER MIDDLE RIGHT"),
    (0x1FB47, "LOWER CENTRE TO LOWER MIDDLE RIGHT,LOWER LEFT TO LOWER MIDDLE RIGHT"),
    (0x1FB49, "LOWER CENTRE TO UPPER MIDDLE RIGHT,LOWER LEFT TO UPPER MIDDLE RIGHT"),
    (0x1FB4B, "LOWER CENTRE TO UPPER RIGHT")]⟩,
  ⟨"UPPER RIGHT BLOCK DIAGONAL ",
    [(0x1FB52, "LOWER MIDDLE LEFT TO LOWER CENTRE,LOWER MIDDLE LEFT TO LOWER RIGHT"),
    (0x1FB54, "UPPER MIDDLE LEFT TO LOWER CENTRE,UPPER MIDDLE LEFT TO LOWER RIGHT"),
    (0x1FB56, "UPPER LEFT TO LOWER CENTRE"),
    (0x1FB62, "UPPER CENTRE TO UPPER MIDDLE RIGHT,UPPER LEFT TO UPPER MIDDLE RIGHT"),
    (0x1FB64, "UPPER CENTRE TO LOWER MIDDLE RIGHT,UPPER LEFT TO LOWER MIDDLE RIGHT"),
    (0x1FB66, "UPPER CENTRE TO LOWER RIGHT,UPPER MIDDLE LEFT TO LOWER MIDDLE RIGHT")]⟩,
  ⟨"UPPER LEFT BLOCK DIAGONAL ",
    [(0x1FB57, "UPPER MIDDLE LEFT TO UPPER CENTRE,UPPER MIDDLE LEFT TO UPPER RIGHT"),
    (0x1FB59, "LOWER MIDDLE LEFT TO UPPER CENTRE,LOWER MIDDLE LEFT TO UPPER RIGHT"),
    (0x1FB5B, "LOWER LEFT TO UPPER CENTRE,LOWER MIDDLE LEFT TO UPPER MIDDLE RIGHT"),
    (0x1FB5D, "LOWER CENTRE TO LOWER MIDDLE RIGHT,LOWER LEFT TO LOWER MIDDLE RIGHT"),
    (0x1FB5F, "LOWER CENTRE TO UPPER MIDDLE RIGHT,LOWER LEFT TO UPPER MIDDLE RIGHT"),
    (0x1FB61, "LOWER CENTRE TO UPPER RIGHT")]⟩,
  ⟨"VERTICAL ONE EIGHTH BLOCK-", [(0x1FB70, "2,3,4,5,6,7")]⟩,
  ⟨"HORIZONTAL ONE EIGHTH BLOCK-", [(0x1FB76, "2,3,4,5,6,7,,,,,,1358")]⟩,
  ⟨"BOX DRAWINGS LIGHT DIAGONAL UPPER CENTRE TO MIDDLE ",
    [(0x1FBA0, "LEFT,RIGHT,,,LEFT TO LOWER CENTRE,RIGHT TO LOWER CENTRE"),
    (0x1FBA8, "LEFT AND MIDDLE RIGHT TO LOWER CENTRE,RIGHT AND MIDDLE LEFT TO LOWER CENTRE"),
    (0x1FBAA, "RIGHT TO LOWER CENTRE TO MIDDLE LEFT,LEFT TO LOWER CENTRE TO MIDDLE RIGHT")]⟩,
  ⟨"SEGMENTED DIGIT ", [(0x1FBF0, "ZERO,ONE,TWO,THREE,FOUR,FIVE,SIX,SEVEN,EIGHT,NINE")]⟩,
  ⟨"TAG ", [(0xE0020, "SPACE,EXCLAMATION MARK,QUOTATION MARK,NUMBER SIGN,DOLLAR SIGN,PERCENT SIGN"),
    (0xE0026, "AMPERSAND,APOSTROPHE,LEFT PARENTHESIS,RIGHT PARENTHESIS,ASTERISK,PLUS SIGN"),
    (0xE002C, "COMMA,HYPHEN-MINUS,FULL STOP,SOLIDUS,DIGIT ZERO,DIGIT ONE,DIGIT TWO"),
    (0xE0033, "DIGIT THREE,DIGIT FOUR,DIGIT FIVE,DIGIT SIX,DIGIT SEVEN,DIGIT EIGHT"),
    (0xE0039, "DIGIT NINE,COLON,SEMICOLON,LESS-THAN SIGN,EQUALS SIGN,GREATER-THAN SIGN"),
    (0xE003F, "QUESTION MARK,COMMERCIAL AT"),
    (0xE005B, "LEFT SQUARE BRACKET,REVERSE SOLIDUS,RIGHT SQUARE BRACKET,CIRCUMFLEX ACCENT"),
    (0xE005F, "LOW LINE,GRAVE ACCENT"),
    (0xE007B, "LEFT CURLY BRACKET,VERTICAL LINE,RIGHT CURLY BRACKET,TILDE")]⟩,
  ⟨"TAG LATIN CAPITAL LETTER ", [(0xE0041, "A,B,C,D,E,F,G,H,I,J,K,L,M,N,O,P,Q,R,S,T,U,V,W,X,Y,Z")]⟩,
  ⟨"TAG LATIN SMALL LETTER ", [(0xE0061, "A,B,C,D,E,F,G,H,I,J,K,L,M,N,O,P,Q,R,S,T,U,V,W,X,Y,Z")]⟩]

end RecordSearch.Text
