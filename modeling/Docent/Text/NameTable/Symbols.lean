/-!
# Names of characters: punctuation and symbols

Runs of names of punctuation and symbols by Unicode 14. A run is the code point of its
first character and the names from there on, divided by semicolons. A small letter in a name stands
for a phrase, which `Docent.Text.NameTable.phrase` tells.
-/

namespace Docent.Text.NameTable

/-- The runs of names of punctuation and symbols. -/
def symbols : List (Nat × String) := [
    (0x2000, "EN QUAD;EM QUAD;EN SPACE;EM SPACE;THREE-PER-EM SPACE;FOUR-PER-EM SPACE;
     SIX-PER-EM SPACE;FIGURE SPACE;PUNCTUATION SPACE;THIN SPACE;HAIR SPACE;ZERO WIDTH SPACE;
     ZERO WIDTH NON-JOINER;ZERO WIDTH JOINER;v-TO-t MARK;t-TO-v MARK;HYPHEN;NON-BREAKING HYPHEN;
     FIGURE DASH;EN DASH;EM DASH;HORIZONTAL BAR;DOUBLE VERTICAL LINE;DOUBLE LOW LINE;
     v SINGLE QUOTATION MARK;t SINGLE QUOTATION MARK;SINGLE LOW-9 QUOTATION MARK;
     SINGLE HIGH-REVERSED-9 QUOTATION MARK;v DOUBLE QUOTATION MARK;t DOUBLE QUOTATION MARK;
     DOUBLE LOW-9 QUOTATION MARK;DOUBLE HIGH-REVERSED-9 QUOTATION MARK;DAGGER;DOUBLE DAGGER;BULLET;
     TRIANGULAR BULLET;ONE DOT LEADER;TWO DOT LEADER;HORIZONTAL ELLIPSIS;HYPHENATION POINT;
     LINE SEPARATOR;PARAGRAPH SEPARATOR;v-TO-t EMBEDDING;t-TO-v EMBEDDING;
     POP DIRECTIONAL FORMATTING;v-TO-t OVERRIDE;t-TO-v OVERRIDE;NARROW NO-BREAK SPACE;PER MILLEr;
     PER TEN THOUSANDr;PRIME;DOUBLE PRIME;TRIPLE PRIME;REVERSED PRIME;REVERSED DOUBLE PRIME;
     REVERSED TRIPLE PRIME;CARET;SINGLE v-POINTING ANGLE QUOTATION MARK;
     SINGLE t-POINTING ANGLE QUOTATION MARK;REFERENCE MARK;DOUBLE EXCLAMATION MARK;INTERROBANG;
     OVERLINE;UNDERTIE;CHARACTER TIE;CARET INSERTION POINT;ASTERISM;HYPHEN BULLET;FRACTION SLASH;
     v SQUARE BRACKETwQUILL;t SQUARE BRACKETwQUILL;DOUBLE QUESTION MARK;QUESTION EXCLAMATION MARK;
     EXCLAMATION QUESTION MARK;TIRONIANr ET;REVERSED PILCROWr;lvWARDS BULLET;ltWARDS BULLET;
     LOW ASTERISK;REVERSED SEMICOLON;CLOSE UP;TWO ASTERISKS ALIGNED VERTICALLY;COMMERCIAL MINUSr;
     SWUNG DASH;INVERTED UNDERTIE;FLOWER PUNCTUATION MARK;THREE DOT PUNCTUATION;QUADRUPLE PRIME;
     FOUR DOT PUNCTUATION;FIVE DOT PUNCTUATION;TWO DOT PUNCTUATION;FOUR DOT MARK;DOTTED CROSS;
     TRICOLON;VERTICAL FOUR DOTS;MEDIUM MATHEMATICAL SPACE;WORD JOINER;FUNCTION APPLICATION;
     INVISIBLE TIMES;INVISIBLE SEPARATOR;INVISIBLE PLUS"),
    (0x2066, "v-TO-t ISOLATE;t-TO-v ISOLATE;FIRST STRONG ISOLATE;POP DIRECTIONAL ISOLATE;
     INHIBIT SYMMETRIC SWAPPING;ACTIVATE SYMMETRIC SWAPPING;INHIBIT ARABIC FORM SHAPING;
     ACTIVATE ARABIC FORM SHAPING;NATIONAL DIGIT SHAPES;NOMu DIGIT SHAPES"),
    (0x2070, "SUPERSCRIPT ZERO;SUPERSCRIPT bI"),
    (0x2074, "SUPERSCRIPT FOUR;SUPERSCRIPT FIVE;SUPERSCRIPT SIX;SUPERSCRIPT SEVEN;SUPERSCRIPT EIGHT;
     SUPERSCRIPT NINE;SUPERSCRIPT PLUSr;SUPERSCRIPT MINUS;SUPERSCRIPT EQUALSr;
     SUPERSCRIPT v PARENTHESIS;SUPERSCRIPT t PARENTHESIS;SUPERSCRIPT bN;SUBSCRIPT ZERO;
     SUBSCRIPT ONE;SUBSCRIPT TWO;SUBSCRIPT THREE;SUBSCRIPT FOUR;SUBSCRIPT FIVE;SUBSCRIPT SIX;
     SUBSCRIPT SEVEN;SUBSCRIPT EIGHT;SUBSCRIPT NINE;SUBSCRIPT PLUSr;SUBSCRIPT MINUS;
     SUBSCRIPT EQUALSr;SUBSCRIPT v PARENTHESIS;SUBSCRIPT t PARENTHESIS"),
    (0x2090, "LATIN SUBSCRIPT SMALL LETTER A;LATIN SUBSCRIPT SMALL LETTER E;
     LATIN SUBSCRIPT SMALL LETTER O;LATIN SUBSCRIPT SMALL LETTER X;
     LATIN SUBSCRIPT SMALL LETTER SCHWA;LATIN SUBSCRIPT SMALL LETTER H;
     LATIN SUBSCRIPT SMALL LETTER K;LATIN SUBSCRIPT SMALL LETTER L;LATIN SUBSCRIPT SMALL LETTER M;
     LATIN SUBSCRIPT SMALL LETTER N;LATIN SUBSCRIPT SMALL LETTER P;LATIN SUBSCRIPT SMALL LETTER S;
     LATIN SUBSCRIPT SMALL LETTER T"),
    (0x20A0, "EURO-CURRENCYr;COLONr;CRUZEIROr;FRENCH FRANCr;LIRAr;MILLr;NAIRAr;PESETAr;RUPEEr;WONr;
     NEW SHEQELr;DONGr;EUROr;KIPr;TUGRIKr;DRACHMAr;GERMAN PENNYr;PESOr;GUARANIr;AUSTRALr;HRYVNIAr;
     CEDIr;LIVRE TOURNOISr;SPESMILOr;TENGEr;INDIAN RUPEEr;TURKISH LIRAr;NORDIC MARKr;MANATr;RUBLEr;
     LARIr;BITCOINr;SOMr"),
    (0x2100, "ACCOUNT OF;ADDRESSED TO THE SUBJECT;DOUBLE-STRUCK CAPITAL C;DEGREE CELSIUS;
     CENTRE LINEk;CARE OF;CADA UNA;EULER CONSTANT;SCRUPLE;DEGREE FAHRENHEIT;SCRIPT SMALL G;
     SCRIPT CAPITAL H;BLACK-LETTER CAPITAL H;DOUBLE-STRUCK CAPITAL H;PLANCK CONSTANT;
     PLANCK CONSTANT OVER TWO PI;SCRIPT CAPITAL I;BLACK-LETTER CAPITAL I;SCRIPT CAPITAL L;
     SCRIPT SMALL L;L B BARk;DOUBLE-STRUCK CAPITAL N;NUMEROr;SOUND RECORDING COPYt;SCRIPT CAPITAL P;
     DOUBLE-STRUCK CAPITAL P;DOUBLE-STRUCK CAPITAL Q;SCRIPT CAPITAL R;BLACK-LETTER CAPITAL R;
     DOUBLE-STRUCK CAPITAL R;PRESCRIPTION TAKE;RESPONSE;SERVICE MARK;TELEPHONEr;TRADE MARKr;
     VERSICLE;DOUBLE-STRUCK CAPITAL Z;OUNCEr;OHMr;INVERTED OHMr;BLACK-LETTER CAPITAL Z;TURNED fIOTA;
     KELVINr;ANGSTROMr;SCRIPT CAPITAL B;BLACK-LETTER CAPITAL C;ESTIMATEDk;SCRIPT SMALL E;
     SCRIPT CAPITAL E;SCRIPT CAPITAL F;TURNED CAPITAL F;SCRIPT CAPITAL M;SCRIPT SMALL O;ALEFk;BETk;
     GIMELk;DALETk;INFORMATION SOURCE;ROTATED CAPITAL Q;FACSIMILEr;DOUBLE-STRUCK SMALL PI;
     DOUBLE-STRUCK SMALL GAMMA;DOUBLE-STRUCK CAPITAL GAMMA;DOUBLE-STRUCK CAPITAL PI;
     DOUBLE-STRUCK N-ARY SUMMATION;TURNED SANS-SERIF CAPITAL G;TURNED SANS-SERIF CAPITAL L;
     REVERSED SANS-SERIF CAPITAL L;TURNED SANS-SERIF CAPITAL Y;DOUBLE-STRUCK ITALIC CAPITAL D;
     DOUBLE-STRUCK ITALIC SMALL D;DOUBLE-STRUCK ITALIC SMALL E;DOUBLE-STRUCK ITALIC SMALL I;
     DOUBLE-STRUCK ITALIC SMALL J;PROPERTY LINE;TURNED AMPERSAND;PERr;AKTIESELSKAB;TURNED SMALL F;
     SYMBOL FOR SAMARITAN SOURCE;VULGAR FRACTION ONE SEVENTH;VULGAR FRACTION ONE NINTH;
     VULGAR FRACTION ONE TENTH;VULGAR FRACTION ONE THIRD;VULGAR FRACTION TWO THIRDS;
     VULGAR FRACTION ONE FIFTH;VULGAR FRACTION TWO FIFTHS;VULGAR FRACTION THREE FIFTHS;
     VULGAR FRACTION FOUR FIFTHS;VULGAR FRACTION ONE SIXTH;VULGAR FRACTION FIVE SIXTHS;
     VULGAR FRACTION ONE EIGHTH;VULGAR FRACTION THREE EIGHTHS;VULGAR FRACTION FIVE EIGHTHS;
     VULGAR FRACTION SEVEN EIGHTHS;FRACTION NUMERATOR ONE;ROMAN NUMERAL ONE;ROMAN NUMERAL TWO;
     ROMAN NUMERAL THREE;ROMAN NUMERAL FOUR;ROMAN NUMERAL FIVE;ROMAN NUMERAL SIX;
     ROMAN NUMERAL SEVEN;ROMAN NUMERAL EIGHT;ROMAN NUMERAL NINE;ROMAN NUMERAL TEN;
     ROMAN NUMERAL ELEVEN;ROMAN NUMERAL TWELVE;ROMAN NUMERAL FIFTY;ROMAN NUMERAL ONE HUNDRED;
     ROMAN NUMERAL FIVE HUNDRED;ROMAN NUMERAL ONE THOUSAND;SMALL ROMAN NUMERAL ONE;
     SMALL ROMAN NUMERAL TWO;SMALL ROMAN NUMERAL THREE;SMALL ROMAN NUMERAL FOUR;
     SMALL ROMAN NUMERAL FIVE;SMALL ROMAN NUMERAL SIX;SMALL ROMAN NUMERAL SEVEN;
     SMALL ROMAN NUMERAL EIGHT;SMALL ROMAN NUMERAL NINE;SMALL ROMAN NUMERAL TEN;
     SMALL ROMAN NUMERAL ELEVEN;SMALL ROMAN NUMERAL TWELVE;SMALL ROMAN NUMERAL FIFTY;
     SMALL ROMAN NUMERAL ONE HUNDRED;SMALL ROMAN NUMERAL FIVE HUNDRED;
     SMALL ROMAN NUMERAL ONE THOUSAND;ROMAN NUMERAL ONE THOUSAND C D;ROMAN NUMERAL FIVE THOUSAND;
     ROMAN NUMERAL TEN THOUSAND;ROMAN NUMERAL REVERSED ONE HUNDRED;bREVERSED C;
     ROMAN NUMERAL SIX LATE FORM;ROMAN NUMERAL FIFTY EARLY FORM;ROMAN NUMERAL FIFTY THOUSAND;
     ROMAN NUMERAL ONE HUNDRED THOUSAND;VULGAR FRACTION ZERO THIRDS;TURNED DIGIT TWO;
     TURNED DIGIT THREE"),
    (0x2190, "vWARDSz;UPWARDSz;tWARDSz;DOWNWARDSz;v tz;UP DOWNz;NORTH WESTz;NORTH EASTz;SOUTH EASTz;
     SOUTH WESTz;vWARDSzwSTROKE;tWARDSzwSTROKE;vWARDS WAVEz;tWARDS WAVEz;vWARDS TWO HEADEDz;
     UPWARDS TWO HEADEDz;tWARDS TWO HEADEDz;DOWNWARDS TWO HEADEDz;vWARDSzwTAIL;tWARDSzwTAIL;
     vWARDSz FROM BAR;UPWARDSz FROM BAR;tWARDSz FROM BAR;DOWNWARDSz FROM BAR;UP DOWNzwBASE;
     vWARDSzwHOOK;tWARDSzwHOOK;vWARDSzwLOOP;tWARDSzwLOOP;v t WAVEz;v tzwSTROKE;DOWNWARDS ZIGZAGz;
     UPWARDSzwTIP vWARDS;UPWARDSzwTIP tWARDS;DOWNWARDSzwTIP vWARDS;DOWNWARDSzwTIP tWARDS;
     tWARDSzwCORNER DOWNWARDS;DOWNWARDSzwCORNER vWARDS;ANTICLOCKWISE TOP SEMICIRCLEz;
     CLOCKWISE TOP SEMICIRCLEz;NORTH WESTz TO LONG BAR;vWARDSz TO BAR OVER tWARDSz TO BAR;
     ANTICLOCKWISE OPEN CIRCLEz;CLOCKWISE OPEN CIRCLEz;vWARDS HARPOONwBARB UPWARDS;
     vWARDS HARPOONwBARB DOWNWARDS;UPWARDS HARPOONwBARB tWARDS;UPWARDS HARPOONwBARB vWARDS;
     tWARDS HARPOONwBARB UPWARDS;tWARDS HARPOONwBARB DOWNWARDS;DOWNWARDS HARPOONwBARB tWARDS;
     DOWNWARDS HARPOONwBARB vWARDS;tWARDSz OVER vWARDSz;UPWARDSz vWARDS OF DOWNWARDSz;
     vWARDSz OVER tWARDSz;vWARDS PAIREDzS;UPWARDS PAIREDzS;tWARDS PAIREDzS;DOWNWARDS PAIREDzS;
     vWARDS HARPOON OVER tWARDS HARPOON;tWARDS HARPOON OVER vWARDS HARPOON;vWARDS DOUBLEzwSTROKE;
     v t DOUBLEzwSTROKE;tWARDS DOUBLEzwSTROKE;vWARDS DOUBLEz;UPWARDS DOUBLEz;tWARDS DOUBLEz;
     DOWNWARDS DOUBLEz;v t DOUBLEz;UP DOWN DOUBLEz;NORTH WEST DOUBLEz;NORTH EAST DOUBLEz;
     SOUTH EAST DOUBLEz;SOUTH WEST DOUBLEz;vWARDS TRIPLEz;tWARDS TRIPLEz;vWARDS SQUIGGLEz;
     tWARDS SQUIGGLEz;UPWARDSzwDOUBLE STROKE;DOWNWARDSzwDOUBLE STROKE;vWARDS DASHEDz;
     UPWARDS DASHEDz;tWARDS DASHEDz;DOWNWARDS DASHEDz;vWARDSz TO BAR;tWARDSz TO BAR;vWARDS nARROW;
     UPWARDS nARROW;tWARDS nARROW;DOWNWARDS nARROW;UPWARDS nARROW FROM BAR;
     UPWARDS nARROW ON PEDESTAL;UPWARDS nARROW ON PEDESTALwHORIZONTAL BAR;
     UPWARDS nARROW ON PEDESTALwVERTICAL BAR;UPWARDS nDOUBLEz;UPWARDS nDOUBLEz ON PEDESTAL;
     tWARDS nARROW FROM WALL;NORTH WESTz TO CORNER;SOUTH EASTz TO CORNER;UP DOWN nARROW;
     tzwSMALL CIRCLE;DOWNWARDSz vWARDS OF UPWARDSz;THREE tWARDSzS;vWARDSzwVERTICAL STROKE;
     tWARDSzwVERTICAL STROKE;v tzwVERTICAL STROKE;vWARDSzwDOUBLE VERTICAL STROKE;
     tWARDSzwDOUBLE VERTICAL STROKE;v tzwDOUBLE VERTICAL STROKE;vWARDS OPEN-HEADEDz;
     tWARDS OPEN-HEADEDz;v t OPEN-HEADEDz"),
    (0x2200, "FOR ALL;COMPLEMENT;PARTIAL DIFFERENTIAL;THERE EXISTS;THERE DOES NOT EXIST;EMPTY SET;
     INCREMENT;NABLA;ELEMENT OF;NOT AN ELEMENT OF;SMALL ELEMENT OF;CONTAINS AS MEMBER;
     DOES NOT CONTAIN AS MEMBER;SMALL CONTAINS AS MEMBER;END OF PROOF;N-ARY PRODUCT;N-ARY COPRODUCT;
     N-ARY SUMMATION;MINUSr;MINUS-OR-PLUSr;DOT PLUS;DIVISION SLASH;SET MINUS;ASTERISK OPERATOR;
     RING OPERATOR;BULLET OPERATOR;SQUARE ROOT;CUBE ROOT;FOURTH ROOT;PROPORTIONAL TO;INFINITY;
     t ANGLE;ANGLE;MEASURED ANGLE;SPHERICAL ANGLE;DIVIDES;DOES NOT DIVIDE;PARALLEL TO;
     NOT PARALLEL TO;LOGICAL AND;LOGICAL OR;INTERSECTION;UNION;INTEGRAL;DOUBLE INTEGRAL;
     TRIPLE INTEGRAL;CONTOUR INTEGRAL;SURFACE INTEGRAL;VOLUME INTEGRAL;CLOCKWISE INTEGRAL;
     CLOCKWISE CONTOUR INTEGRAL;ANTICLOCKWISE CONTOUR INTEGRAL;THEREFORE;BECAUSE;RATIO;PROPORTION;
     DOT MINUS;EXCESS;GEOMETRIC PROPORTION;HOMOTHETIC;TILDE OPERATOR;REVERSED TILDE;INVERTED LAZY S;
     SINE WAVE;WREATH PRODUCT;NOT TILDE;MINUS TILDE;ASYMPTOTICALLY EQUAL TO;
     NOT ASYMPTOTICALLY EQUAL TO;APPROXIMATELY EQUAL TO;APPROXIMATELY BUT NOT ACTUALLY EQUAL TO;
     NEITHER APPROXIMATELY NOR ACTUALLY EQUAL TO;ALMOST EQUAL TO;NOT ALMOST EQUAL TO;
     ALMOST EQUAL OR EQUAL TO;TRIPLE TILDE;ALL EQUAL TO;EQUIVALENT TO;GEOMETRICALLY EQUIVALENT TO;
     DIFFERENCE BETWEEN;APPROACHES THE LIMIT;GEOMETRICALLY EQUAL TO;
     APPROXIMATELY EQUAL TO OR THE IMAGE OF;IMAGE OF OR APPROXIMATELY EQUAL TO;COLON EQUALS;
     EQUALS COLON;RING IN EQUAL TO;RING EQUAL TO;CORRESPONDS TO;ESTIMATES;EQUIANGULAR TO;
     STAR EQUALS;DELTA EQUAL TO;EQUAL TO BY DEFINITION;MEASURED BY;QUESTIONED EQUAL TO;NOT EQUAL TO;
     IDENTICAL TO;NOT IDENTICAL TO;STRICTLY EQUIVALENT TO;LESS-THAN OR EQUAL TO;
     GREATER-THAN OR EQUAL TO;LESS-THAN OVER EQUAL TO;GREATER-THAN OVER EQUAL TO;
     LESS-THAN BUT NOT EQUAL TO;GREATER-THAN BUT NOT EQUAL TO;MUCH LESS-THAN;MUCH GREATER-THAN;
     BETWEEN;NOT EQUIVALENT TO;NOT LESS-THAN;NOT GREATER-THAN;NEITHER LESS-THAN NOR EQUAL TO;
     NEITHER GREATER-THAN NOR EQUAL TO;LESS-THAN OR EQUIVALENT TO;GREATER-THAN OR EQUIVALENT TO;
     NEITHER LESS-THAN NOR EQUIVALENT TO;NEITHER GREATER-THAN NOR EQUIVALENT TO;
     LESS-THAN OR GREATER-THAN;GREATER-THAN OR LESS-THAN;NEITHER LESS-THAN NOR GREATER-THAN;
     NEITHER GREATER-THAN NOR LESS-THAN;PRECEDES;SUCCEEDS;PRECEDES OR EQUAL TO;SUCCEEDS OR EQUAL TO;
     PRECEDES OR EQUIVALENT TO;SUCCEEDS OR EQUIVALENT TO;DOES NOT PRECEDE;DOES NOT SUCCEED;
     SUBSET OF;SUPERSET OF;NOT A SUBSET OF;NOT A SUPERSET OF;SUBSET OF OR EQUAL TO;
     SUPERSET OF OR EQUAL TO;NEITHER A SUBSET OF NOR EQUAL TO;NEITHER A SUPERSET OF NOR EQUAL TO;
     SUBSET OFwNOT EQUAL TO;SUPERSET OFwNOT EQUAL TO;MULTISET;MULTISET MULTIPLICATION;
     MULTISET UNION;SQUARE IMAGE OF;SQUARE ORIGu OF;SQUARE IMAGE OF OR EQUAL TO;
     SQUARE ORIGu OF OR EQUAL TO;SQUARE CAP;SQUARE CUP;jPLUS;jMINUS;jTIMES;jDIVISION SLASH;
     jDOT OPERATOR;jRING OPERATOR;jASTERISK OPERATOR;jEQUALS;jDASH;SQUARED PLUS;SQUARED MINUS;
     SQUARED TIMES;SQUARED DOT OPERATOR;t TACK;v TACK;DOWN TACK;UP TACK;ASSERTION;MODELS;TRUE;
     FORCES;TRIPLE VERTICAL BAR t TURNSTILE;DOUBLE VERTICAL BAR DOUBLE t TURNSTILE;DOES NOT PROVE;
     NOT TRUE;DOES NOT FORCE;NEGATED DOUBLE VERTICAL BAR DOUBLE t TURNSTILE;PRECEDES UNDER RELATION;
     SUCCEEDS UNDER RELATION;NORMAL SUBGROUP OF;CONTAINS AS NORMAL SUBGROUP;
     NORMAL SUBGROUP OF OR EQUAL TO;CONTAINS AS NORMAL SUBGROUP OR EQUAL TO;ORIGu OF;IMAGE OF;
     MULTIMAP;HERMITIAN CONJUGATE MATRIX;INTERCALATE;XOR;NAND;NOR;t ANGLEwARC;t TRIANGLE;
     N-ARY LOGICAL AND;N-ARY LOGICAL OR;N-ARY INTERSECTION;N-ARY UNION;DIAMOND OPERATOR;
     DOT OPERATOR;STAR OPERATOR;DIVISION TIMES;BOWTIE;v NORMAL FACTOR SEMIDIRECT PRODUCT;
     t NORMAL FACTOR SEMIDIRECT PRODUCT;v SEMIDIRECT PRODUCT;t SEMIDIRECT PRODUCT;
     REVERSED TILDE EQUALS;CURLY LOGICAL OR;CURLY LOGICAL AND;DOUBLE SUBSET;DOUBLE SUPERSET;
     DOUBLE INTERSECTION;DOUBLE UNION;PITCHFORK;EQUALyPARALLEL TO;LESS-THANwDOT;GREATER-THANwDOT;
     VERY MUCH LESS-THAN;VERY MUCH GREATER-THAN;LESS-THAN EQUAL TO OR GREATER-THAN;
     GREATER-THAN EQUAL TO OR LESS-THAN;EQUAL TO OR LESS-THAN;EQUAL TO OR GREATER-THAN;
     EQUAL TO OR PRECEDES;EQUAL TO OR SUCCEEDS;DOES NOT PRECEDE OR EQUAL;DOES NOT SUCCEED OR EQUAL;
     NOT SQUARE IMAGE OF OR EQUAL TO;NOT SQUARE ORIGu OF OR EQUAL TO;
     SQUARE IMAGE OF OR NOT EQUAL TO;SQUARE ORIGu OF OR NOT EQUAL TO;
     LESS-THAN BUT NOT EQUIVALENT TO;GREATER-THAN BUT NOT EQUIVALENT TO;
     PRECEDES BUT NOT EQUIVALENT TO;SUCCEEDS BUT NOT EQUIVALENT TO;NOT NORMAL SUBGROUP OF;
     DOES NOT CONTAIN AS NORMAL SUBGROUP;NOT NORMAL SUBGROUP OF OR EQUAL TO;
     DOES NOT CONTAIN AS NORMAL SUBGROUP OR EQUAL;VERTICAL ELLIPSIS;MIDLINE HORIZONTAL ELLIPSIS;
     UP t DIAGONAL ELLIPSIS;DOWN t DIAGONAL ELLIPSIS;ELEMENT OFwLONG HORIZONTAL STROKE;
     ELEMENT OFwVERTICAL BAR AT END OF HORIZONTAL STROKE;
     SMALL ELEMENT OFwVERTICAL BAR AT END OF HORIZONTAL STROKE;ELEMENT OFwDOTs;ELEMENT OFwOVERBAR;
     SMALL ELEMENT OFwOVERBAR;ELEMENT OFwUNDERBAR;ELEMENT OFwTWO HORIZONTAL STROKES;
     CONTAINSwLONG HORIZONTAL STROKE;CONTAINSwVERTICAL BAR AT END OF HORIZONTAL STROKE;
     SMALL CONTAINSwVERTICAL BAR AT END OF HORIZONTAL STROKE;CONTAINSwOVERBAR;
     SMALL CONTAINSwOVERBAR;Z NOTATION BAG MEMBERSHIP"),
    (0x2300, "DIAMETERr;ELECTRICz;HOUSE;UPzHEAD;DOWNzHEAD;PROJECTIVE;PERSPECTIVE;WAVY LINE;
     v CEILING;t CEILING;v FLOOR;t FLOOR;BOTTOM t CROP;BOTTOM v CROP;TOP t CROP;TOP v CROP;
     REVERSED NOTr;SQUARE LOZENGE;ARC;SEGMENT;SECTOR;TELEPHONE RECORDER;POSITION INDICATOR;
     VIEWDATA SQUARE;PLACE OF INTERESTr;TURNED NOTr;WATCH;HOURGLASS;TOP v CORNER;TOP t CORNER;
     BOTTOM v CORNER;BOTTOM t CORNER;TOP HALF INTEGRAL;BOTTOM HALF INTEGRAL;FROWN;SMILE;
     UPzHEAD BETWEEN TWO HORIZONTAL BARS;OPTION KEY;ERASE TO THE t;X IN A RECTANGLE BOX;KEYBOARD;
     v-POINTING ANGLE BRACKET;t-POINTING ANGLE BRACKET;ERASE TO THE v;BENZENE RING;CYLINDRICITY;
     ALL AROUND-PROFILE;SYMMETRY;TOTAL RUNOUT;DIMENSION ORIGIN;CONICAL TAPER;SLOPE;COUNTERBORE;
     COUNTERSINK;qI-BEAM;qSQUISH QUAD;qQUAD EQUAL;qQUAD DIVIDE;qQUAD DIAMOND;qQUAD JOT;qQUAD CIRCLE;
     qCIRCLE STILE;qCIRCLE JOT;qSLASH BAR;qBACKSLASH BAR;qQUAD SLASH;qQUAD BACKSLASH;
     qQUAD LESS-THAN;qQUAD GREATER-THAN;qvWARDS VANE;qtWARDS VANE;qQUAD vWARDSz;qQUAD tWARDSz;
     qCIRCLE BACKSLASH;qDOWN TACK UNDERBAR;qDELTA STILE;qQUAD DOWN CARET;qQUAD DELTA;qDOWN TACK JOT;
     qUPWARDS VANE;qQUAD UPWARDSz;qUP TACK OVERBAR;qDEL STILE;qQUAD UP CARET;qQUAD DEL;qUP TACK JOT;
     qDOWNWARDS VANE;qQUAD DOWNWARDSz;qQUOTE UNDERBAR;qDELTA UNDERBAR;qDIAMOND UNDERBAR;
     qJOT UNDERBAR;qCIRCLE UNDERBAR;qUP SHOE JOT;qQUOTE QUAD;qCIRCLE STAR;qQUAD COLON;
     qUP TACK DIAERESIS;qDEL DIAERESIS;qSTAR DIAERESIS;qJOT DIAERESIS;qCIRCLE DIAERESIS;
     qDOWN SHOE STILE;qv SHOE STILE;qTILDE DIAERESIS;qGREATER-THAN DIAERESIS;qCOMMA BAR;qDEL TILDE;
     qZILDE;qSTILE TILDE;qSEMICOLON UNDERBAR;qQUAD NOT EQUAL;qQUAD QUESTION;qDOWN CARET TILDE;
     qUP CARET TILDE;qIOTA;qRHO;qOMEGA;qALPHA UNDERBAR;qEPSILON UNDERBAR;qIOTA UNDERBAR;
     qOMEGA UNDERBAR;qALPHA;NOT CHECK MARK;t ANGLEwDOWNWARDS ZIGZAGz;SHOULDERED OPEN BOX;BELLk;
     VERTICAL LINEwMIDDLE DOT;INSERTIONk;CONTINUOUS UNDERLINEk;DISCONTINUOUS UNDERLINEk;EMPHASISk;
     COMPOSITIONk;nSQUAREwCENTRE VERTICAL LINE;ENTERk;ALTERNATIVE KEYk;HELMk;jHORIZONTAL BARwNOTCH;
     jTRIANGLE DOWN;BROKEN CIRCLEwNORTHWESTz;UNDOk;MONOSTABLEk;HYSTERESISk;
     OPEN-CIRCUIT-OUTPUT H-TYPEk;OPEN-CIRCUIT-OUTPUT L-TYPEk;PASSIVE-PULL-DOWN-OUTPUTk;
     PASSIVE-PULL-UP-OUTPUTk;DIRECT CURRENTk FORM TWO;SOFTWARE-FUNCTIONk;qQUAD;
     DECIMAL SEPARATOR KEYk;PREVIOUS PAGE;NEXT PAGE;PRINT SCREENk;CLEAR SCREENk;
     v PARENTHESIS UPPER HOOK;v PARENTHESIS EXTENSION;v PARENTHESIS LOWER HOOK;
     t PARENTHESIS UPPER HOOK;t PARENTHESIS EXTENSION;t PARENTHESIS LOWER HOOK;
     v SQUARE BRACKET UPPER CORNER;v SQUARE BRACKET EXTENSION;v SQUARE BRACKET LOWER CORNER;
     t SQUARE BRACKET UPPER CORNER;t SQUARE BRACKET EXTENSION;t SQUARE BRACKET LOWER CORNER;
     v CURLY BRACKET UPPER HOOK;v CURLY BRACKET MIDDLE PIECE;v CURLY BRACKET LOWER HOOK;
     CURLY BRACKET EXTENSION;t CURLY BRACKET UPPER HOOK;t CURLY BRACKET MIDDLE PIECE;
     t CURLY BRACKET LOWER HOOK;INTEGRAL EXTENSION;HORIZONTAL LINE EXTENSION;
     UPPER v OR LOWER t CURLY BRACKET SECTION;UPPER t OR LOWER v CURLY BRACKET SECTION;
     SUMMATION TOP;SUMMATION BOTTOM;TOP SQUARE BRACKET;BOTTOM SQUARE BRACKET;
     BOTTOM SQUARE BRACKET OVER TOP SQUARE BRACKET;RADICALk BOTTOM;v VERTICAL BOX LINE;
     t VERTICAL BOX LINE;HORIZONTAL SCAN LINE-1;HORIZONTAL SCAN LINE-3;HORIZONTAL SCAN LINE-7;
     HORIZONTAL SCAN LINE-9;DENTISTRYk LIGHT VERTICALyTOP t;DENTISTRYk LIGHT VERTICALyBOTTOM t;
     DENTISTRYk LIGHT VERTICALwCIRCLE;DENTISTRYk LIGHT DOWNyHORIZONTALwCIRCLE;
     DENTISTRYk LIGHT UPyHORIZONTALwCIRCLE;DENTISTRYk LIGHT VERTICALwTRIANGLE;
     DENTISTRYk LIGHT DOWNyHORIZONTALwTRIANGLE;DENTISTRYk LIGHT UPyHORIZONTALwTRIANGLE;
     DENTISTRYk LIGHT VERTICALyWAVE;DENTISTRYk LIGHT DOWNyHORIZONTALwWAVE;
     DENTISTRYk LIGHT UPyHORIZONTALwWAVE;DENTISTRYk LIGHT DOWNyHORIZONTAL;
     DENTISTRYk LIGHT UPyHORIZONTAL;DENTISTRYk LIGHT VERTICALyTOP v;
     DENTISTRYk LIGHT VERTICALyBOTTOM v;SQUARE FOOT;RETURNk;EJECTk;VERTICAL LINE EXTENSION;
     METRICAL BREVE;METRICAL LONG OVER SHORT;METRICAL SHORT OVER LONG;METRICAL LONG OVER TWO SHORTS;
     METRICAL TWO SHORTS OVER LONG;METRICAL TWO SHORTS JOINED;METRICAL TRISEME;METRICAL TETRASEME;
     METRICAL PENTASEME;EARTH GROUND;FUSE;TOP PARENTHESIS;BOTTOM PARENTHESIS;TOP CURLY BRACKET;
     BOTTOM CURLY BRACKET;TOP TORTOISE SHELL BRACKET;BOTTOM TORTOISE SHELL BRACKET;nTRAPEZIUM;
     BENZENE RINGwCIRCLE;STRAIGHTNESS;FLATNESS;AC CURRENT;ELECTRICAL INTERSECTION;DECIMAL EXPONENTk;
     lt-POINTING DOUBLE TRIANGLE;lv-POINTING DOUBLE TRIANGLE;lUP-POINTING DOUBLE TRIANGLE;
     lDOWN-POINTING DOUBLE TRIANGLE;lt-POINTING DOUBLE TRIANGLEwVERTICAL BAR;
     lv-POINTING DOUBLE TRIANGLEwVERTICAL BAR;lt-POINTING TRIANGLEwDOUBLE VERTICAL BAR;ALARM CLOCK;
     STOPWATCH;TIMER CLOCK;HOURGLASSwFLOWING SAND;lMEDIUM v-POINTING TRIANGLE;
     lMEDIUM t-POINTING TRIANGLE;lMEDIUM UP-POINTING TRIANGLE;lMEDIUM DOWN-POINTING TRIANGLE;
     DOUBLE VERTICAL BAR;lSQUARE FOR STOP;lCIRCLE FOR RECORD;POWERk;POWER ON-OFFk;POWER ONk;
     POWER SLEEPk;OBSERVER EYEk"),
    (0x2460, "jDIGIT ONE;jDIGIT TWO;jDIGIT THREE;jDIGIT FOUR;jDIGIT FIVE;jDIGIT SIX;jDIGIT SEVEN;
     jDIGIT EIGHT;jDIGIT NINE;jNUMBER TEN;jNUMBER ELEVEN;jNUMBER TWELVE;jNUMBER THIRTEEN;
     jNUMBER FOURTEEN;jNUMBER FIFTEEN;jNUMBER SIXTEEN;jNUMBER SEVENTEEN;jNUMBER EIGHTEEN;
     jNUMBER NINETEEN;jNUMBER TWENTY;pDIGIT ONE;pDIGIT TWO;pDIGIT THREE;pDIGIT FOUR;pDIGIT FIVE;
     pDIGIT SIX;pDIGIT SEVEN;pDIGIT EIGHT;pDIGIT NINE;pNUMBER TEN;pNUMBER ELEVEN;pNUMBER TWELVE;
     pNUMBER THIRTEEN;pNUMBER FOURTEEN;pNUMBER FIFTEEN;pNUMBER SIXTEEN;pNUMBER SEVENTEEN;
     pNUMBER EIGHTEEN;pNUMBER NINETEEN;pNUMBER TWENTY;DIGIT ONE FULL STOP;DIGIT TWO FULL STOP;
     DIGIT THREE FULL STOP;DIGIT FOUR FULL STOP;DIGIT FIVE FULL STOP;DIGIT SIX FULL STOP;
     DIGIT SEVEN FULL STOP;DIGIT EIGHT FULL STOP;DIGIT NINE FULL STOP;NUMBER TEN FULL STOP;
     NUMBER ELEVEN FULL STOP;NUMBER TWELVE FULL STOP;NUMBER THIRTEEN FULL STOP;
     NUMBER FOURTEEN FULL STOP;NUMBER FIFTEEN FULL STOP;NUMBER SIXTEEN FULL STOP;
     NUMBER SEVENTEEN FULL STOP;NUMBER EIGHTEEN FULL STOP;NUMBER NINETEEN FULL STOP;
     NUMBER TWENTY FULL STOP;pbA;pbB;pbC;pbD;pbE;pbF;pbG;pbH;pbI;pbJ;pbK;pbL;pbM;pbN;pbO;pbP;pbQ;
     pbR;pbS;pbT;pbU;pbV;pbW;pbX;pbY;pbZ;jaA;jaB;jaC;jaD;jaE;jaF;jaG;jaH;jaI;jaJ;jaK;jaL;jaM;jaN;
     jaO;jaP;jaQ;jaR;jaS;jaT;jaU;jaV;jaW;jaX;jaY;jaZ;jbA;jbB;jbC;jbD;jbE;jbF;jbG;jbH;jbI;jbJ;jbK;
     jbL;jbM;jbN;jbO;jbP;jbQ;jbR;jbS;jbT;jbU;jbV;jbW;jbX;jbY;jbZ;jDIGIT ZERO;
     NEGATIVE jNUMBER ELEVEN;NEGATIVE jNUMBER TWELVE;NEGATIVE jNUMBER THIRTEEN;
     NEGATIVE jNUMBER FOURTEEN;NEGATIVE jNUMBER FIFTEEN;NEGATIVE jNUMBER SIXTEEN;
     NEGATIVE jNUMBER SEVENTEEN;NEGATIVE jNUMBER EIGHTEEN;NEGATIVE jNUMBER NINETEEN;
     NEGATIVE jNUMBER TWENTY;DOUBLE jDIGIT ONE;DOUBLE jDIGIT TWO;DOUBLE jDIGIT THREE;
     DOUBLE jDIGIT FOUR;DOUBLE jDIGIT FIVE;DOUBLE jDIGIT SIX;DOUBLE jDIGIT SEVEN;
     DOUBLE jDIGIT EIGHT;DOUBLE jDIGIT NINE;DOUBLE jNUMBER TEN;NEGATIVE jDIGIT ZERO"),
    (0x2500, "xLIGHT HORIZONTAL;xHEAVY HORIZONTAL;xLIGHT VERTICAL;xHEAVY VERTICAL;
     xLIGHT TRIPLE DASH HORIZONTAL;xHEAVY TRIPLE DASH HORIZONTAL;xLIGHT TRIPLE DASH VERTICAL;
     xHEAVY TRIPLE DASH VERTICAL;xLIGHT QUADRUPLE DASH HORIZONTAL;xHEAVY QUADRUPLE DASH HORIZONTAL;
     xLIGHT QUADRUPLE DASH VERTICAL;xHEAVY QUADRUPLE DASH VERTICAL;xLIGHT DOWNyt;
     xDOWN LIGHTyt HEAVY;xDOWN HEAVYyt LIGHT;xHEAVY DOWNyt;xLIGHT DOWNyv;xDOWN LIGHTyv HEAVY;
     xDOWN HEAVYyv LIGHT;xHEAVY DOWNyv;xLIGHT UPyt;xUP LIGHTyt HEAVY;xUP HEAVYyt LIGHT;xHEAVY UPyt;
     xLIGHT UPyv;xUP LIGHTyv HEAVY;xUP HEAVYyv LIGHT;xHEAVY UPyv;xLIGHT VERTICALyt;
     xVERTICAL LIGHTyt HEAVY;xUP HEAVYyt DOWN LIGHT;xDOWN HEAVYyt UP LIGHT;xVERTICAL HEAVYyt LIGHT;
     xDOWN LIGHTyt UP HEAVY;xUP LIGHTyt DOWN HEAVY;xHEAVY VERTICALyt;xLIGHT VERTICALyv;
     xVERTICAL LIGHTyv HEAVY;xUP HEAVYyv DOWN LIGHT;xDOWN HEAVYyv UP LIGHT;xVERTICAL HEAVYyv LIGHT;
     xDOWN LIGHTyv UP HEAVY;xUP LIGHTyv DOWN HEAVY;xHEAVY VERTICALyv;xLIGHT DOWNyHORIZONTAL;
     xv HEAVYyt DOWN LIGHT;xt HEAVYyv DOWN LIGHT;xDOWN LIGHTyHORIZONTAL HEAVY;
     xDOWN HEAVYyHORIZONTAL LIGHT;xt LIGHTyv DOWN HEAVY;xv LIGHTyt DOWN HEAVY;
     xHEAVY DOWNyHORIZONTAL;xLIGHT UPyHORIZONTAL;xv HEAVYyt UP LIGHT;xt HEAVYyv UP LIGHT;
     xUP LIGHTyHORIZONTAL HEAVY;xUP HEAVYyHORIZONTAL LIGHT;xt LIGHTyv UP HEAVY;xv LIGHTyt UP HEAVY;
     xHEAVY UPyHORIZONTAL;xLIGHT VERTICALyHORIZONTAL;xv HEAVYyt VERTICAL LIGHT;
     xt HEAVYyv VERTICAL LIGHT;xVERTICAL LIGHTyHORIZONTAL HEAVY;xUP HEAVYyDOWN HORIZONTAL LIGHT;
     xDOWN HEAVYyUP HORIZONTAL LIGHT;xVERTICAL HEAVYyHORIZONTAL LIGHT;xv UP HEAVYyt DOWN LIGHT;
     xt UP HEAVYyv DOWN LIGHT;xv DOWN HEAVYyt UP LIGHT;xt DOWN HEAVYyv UP LIGHT;
     xDOWN LIGHTyUP HORIZONTAL HEAVY;xUP LIGHTyDOWN HORIZONTAL HEAVY;xt LIGHTyv VERTICAL HEAVY;
     xv LIGHTyt VERTICAL HEAVY;xHEAVY VERTICALyHORIZONTAL;xLIGHT DOUBLE DASH HORIZONTAL;
     xHEAVY DOUBLE DASH HORIZONTAL;xLIGHT DOUBLE DASH VERTICAL;xHEAVY DOUBLE DASH VERTICAL;
     xDOUBLE HORIZONTAL;xDOUBLE VERTICAL;xDOWN SINGLEyt DOUBLE;xDOWN DOUBLEyt SINGLE;xDOUBLE DOWNyt;
     xDOWN SINGLEyv DOUBLE;xDOWN DOUBLEyv SINGLE;xDOUBLE DOWNyv;xUP SINGLEyt DOUBLE;
     xUP DOUBLEyt SINGLE;xDOUBLE UPyt;xUP SINGLEyv DOUBLE;xUP DOUBLEyv SINGLE;xDOUBLE UPyv;
     xVERTICAL SINGLEyt DOUBLE;xVERTICAL DOUBLEyt SINGLE;xDOUBLE VERTICALyt;
     xVERTICAL SINGLEyv DOUBLE;xVERTICAL DOUBLEyv SINGLE;xDOUBLE VERTICALyv;
     xDOWN SINGLEyHORIZONTAL DOUBLE;xDOWN DOUBLEyHORIZONTAL SINGLE;xDOUBLE DOWNyHORIZONTAL;
     xUP SINGLEyHORIZONTAL DOUBLE;xUP DOUBLEyHORIZONTAL SINGLE;xDOUBLE UPyHORIZONTAL;
     xVERTICAL SINGLEyHORIZONTAL DOUBLE;xVERTICAL DOUBLEyHORIZONTAL SINGLE;
     xDOUBLE VERTICALyHORIZONTAL;xLIGHT ARC DOWNyt;xLIGHT ARC DOWNyv;xLIGHT ARC UPyv;
     xLIGHT ARC UPyt;xLIGHT DIAGONAL UPPER t TO LOWER v;xLIGHT DIAGONAL UPPER v TO LOWER t;
     xLIGHT DIAGONAL CROSS;xLIGHT v;xLIGHT UP;xLIGHT t;xLIGHT DOWN;xHEAVY v;xHEAVY UP;xHEAVY t;
     xHEAVY DOWN;xLIGHT vyHEAVY t;xLIGHT UPyHEAVY DOWN;xHEAVY vyLIGHT t;xHEAVY UPyLIGHT DOWN;
     UPPER HALF BLOCK;LOWER ONE EIGHTH BLOCK;LOWER ONE QUARTER BLOCK;LOWER THREE EIGHTHS BLOCK;
     LOWER HALF BLOCK;LOWER FIVE EIGHTHS BLOCK;LOWER THREE QUARTERS BLOCK;LOWER SEVEN EIGHTHS BLOCK;
     FULL BLOCK;v SEVEN EIGHTHS BLOCK;v THREE QUARTERS BLOCK;v FIVE EIGHTHS BLOCK;v HALF BLOCK;
     v THREE EIGHTHS BLOCK;v ONE QUARTER BLOCK;v ONE EIGHTH BLOCK;t HALF BLOCK;LIGHT SHADE;
     MEDIUM SHADE;DARK SHADE;UPPER ONE EIGHTH BLOCK;t ONE EIGHTH BLOCK;QUADRANT LOWER v;
     QUADRANT LOWER t;QUADRANT UPPER v;QUADRANT UPPER vyLOWER vyLOWER t;QUADRANT UPPER vyLOWER t;
     QUADRANT UPPER vyUPPER tyLOWER v;QUADRANT UPPER vyUPPER tyLOWER t;QUADRANT UPPER t;
     QUADRANT UPPER tyLOWER v;QUADRANT UPPER tyLOWER vyLOWER t;lSQUARE;nSQUARE;
     nSQUAREwROUNDED CORNERS;nSQUARE CONTAINING lSMALL SQUARE;SQUAREwHORIZONTAL FILL;
     SQUAREwVERTICAL FILL;SQUAREwORTHOGONAL CROSSHATCH FILL;SQUAREwUPPER v TO LOWER t FILL;
     SQUAREwUPPER t TO LOWER v FILL;SQUAREwDIAGONAL CROSSHATCH FILL;lSMALL SQUARE;nSMALL SQUARE;
     lRECTANGLE;nRECTANGLE;lVERTICAL RECTANGLE;nVERTICAL RECTANGLE;lPARALLELOGRAM;nPARALLELOGRAM;
     lUP-POINTING TRIANGLE;nUP-POINTING TRIANGLE;lUP-POINTING SMALL TRIANGLE;
     nUP-POINTING SMALL TRIANGLE;lt-POINTING TRIANGLE;nt-POINTING TRIANGLE;
     lt-POINTING SMALL TRIANGLE;nt-POINTING SMALL TRIANGLE;lt-POINTING POINTER;nt-POINTING POINTER;
     lDOWN-POINTING TRIANGLE;nDOWN-POINTING TRIANGLE;lDOWN-POINTING SMALL TRIANGLE;
     nDOWN-POINTING SMALL TRIANGLE;lv-POINTING TRIANGLE;nv-POINTING TRIANGLE;
     lv-POINTING SMALL TRIANGLE;nv-POINTING SMALL TRIANGLE;lv-POINTING POINTER;nv-POINTING POINTER;
     lDIAMOND;nDIAMOND;nDIAMOND CONTAINING lSMALL DIAMOND;FISHEYE;LOZENGE;nCIRCLE;DOTTED CIRCLE;
     CIRCLEwVERTICAL FILL;BULLSEYE;lCIRCLE;CIRCLEwv HALF BLACK;CIRCLEwt HALF BLACK;
     CIRCLEwLOWER HALF BLACK;CIRCLEwUPPER HALF BLACK;CIRCLEwUPPER t QUADRANT BLACK;
     CIRCLEwALL BUT UPPER v QUADRANT BLACK;v HALF lCIRCLE;t HALF lCIRCLE;INVERSE BULLET;
     INVERSE nCIRCLE;UPPER HALF INVERSE nCIRCLE;LOWER HALF INVERSE nCIRCLE;
     UPPER v QUADRANT CIRCULAR ARC;UPPER t QUADRANT CIRCULAR ARC;LOWER t QUADRANT CIRCULAR ARC;
     LOWER v QUADRANT CIRCULAR ARC;UPPER HALF CIRCLE;LOWER HALF CIRCLE;lLOWER t TRIANGLE;
     lLOWER v TRIANGLE;lUPPER v TRIANGLE;lUPPER t TRIANGLE;nBULLET;SQUAREwv HALF BLACK;
     SQUAREwt HALF BLACK;SQUAREwUPPER v DIAGONAL HALF BLACK;SQUAREwLOWER t DIAGONAL HALF BLACK;
     nSQUAREwVERTICAL BISECTING LINE;nUP-POINTING TRIANGLEwDOT;UP-POINTING TRIANGLEwv HALF BLACK;
     UP-POINTING TRIANGLEwt HALF BLACK;LARGE CIRCLE;nSQUAREwUPPER v QUADRANT;
     nSQUAREwLOWER v QUADRANT;nSQUAREwLOWER t QUADRANT;nSQUAREwUPPER t QUADRANT;
     nCIRCLEwUPPER v QUADRANT;nCIRCLEwLOWER v QUADRANT;nCIRCLEwLOWER t QUADRANT;
     nCIRCLEwUPPER t QUADRANT;UPPER v TRIANGLE;UPPER t TRIANGLE;LOWER v TRIANGLE;nMEDIUM SQUARE;
     lMEDIUM SQUARE;nMEDIUM SMALL SQUARE;lMEDIUM SMALL SQUARE;LOWER t TRIANGLE"),
    (0x2600, "lSUNwRAYS;CLOUD;UMBRELLA;SNOWMAN;COMET;lSTAR;nSTAR;LIGHTNING;THUNDERSTORM;SUN;
     ASCENDING NODE;DESCENDING NODE;CONJUNCTION;OPPOSITION;lTELEPHONE;nTELEPHONE;BALLOT BOX;
     BALLOT BOXwCHECK;BALLOT BOXwX;SALTIRE;UMBRELLAwRAIN DROPS;HOT BEVERAGE;nSHOGI PIECE;
     lSHOGI PIECE;SHAMROCK;REVERSED ROTATED FLORAL HEART BULLET;lv POINTING INDEX;lt POINTING INDEX;
     nv POINTING INDEX;nUP POINTING INDEX;nt POINTING INDEX;nDOWN POINTING INDEX;SKULLyCROSSBONES;
     CAUTIONr;RADIOACTIVEr;BIOHAZARDr;CADUCEUS;ANKH;ORTHODOX CROSS;CHI RHO;CROSS OF LORRAINE;
     CROSS OF JERUSALEM;STARyCRESCENT;FARSIk;ADI SHAKTI;HAMMERySICKLE;PEACEk;YIN YANG;
     TRIGRAM FOR HEAVEN;TRIGRAM FOR LAKE;TRIGRAM FOR FIRE;TRIGRAM FOR THUNDER;TRIGRAM FOR WIND;
     TRIGRAM FOR WATER;TRIGRAM FOR MOUNTAIN;TRIGRAM FOR EARTH;WHEEL OF DHARMA;nFROWNING FACE;
     nSMILING FACE;lSMILING FACE;nSUNwRAYS;FIRST QUARTER MOON;LAST QUARTER MOON;MERCURY;FEMALEr;
     EARTH;MALEr;JUPITER;SATURN;URANUS;NEPTUNE;PLUTO;ARIES;TAURUS;GEMINI;CANCER;LEO;VIRGO;LIBRA;
     SCORPIUS;SAGITTARIUS;CAPRICORN;AQUARIUS;PISCES;nCHESS KING;nCHESS QUEEN;nCHESS ROOK;
     nCHESS BISHOP;nCHESS KNIGHT;nCHESS PAWN;lCHESS KING;lCHESS QUEEN;lCHESS ROOK;lCHESS BISHOP;
     lCHESS KNIGHT;lCHESS PAWN;lSPADE SUIT;nHEART SUIT;nDIAMOND SUIT;lCLUB SUIT;nSPADE SUIT;
     lHEART SUIT;lDIAMOND SUIT;nCLUB SUIT;HOT SPRINGS;QUARTER NOTE;EIGHTH NOTE;BEAMED EIGHTH NOTES;
     BEAMED SIXTEENTH NOTES;MUSIC FLATr;MUSIC NATURALr;MUSIC SHARPr;WEST SYRIAC CROSS;
     EAST SYRIAC CROSS;UNIVERSAL RECYCLINGk;RECYCLINGk FOR TYPE-1 PLASTICS;
     RECYCLINGk FOR TYPE-2 PLASTICS;RECYCLINGk FOR TYPE-3 PLASTICS;RECYCLINGk FOR TYPE-4 PLASTICS;
     RECYCLINGk FOR TYPE-5 PLASTICS;RECYCLINGk FOR TYPE-6 PLASTICS;RECYCLINGk FOR TYPE-7 PLASTICS;
     RECYCLINGk FOR GENERIC MATERIALS;lUNIVERSAL RECYCLINGk;RECYCLED PAPERk;
     PARTIALLY-RECYCLED PAPERk;PERMANENT PAPERr;WHEELCHAIRk;DIE FACE-1;DIE FACE-2;DIE FACE-3;
     DIE FACE-4;DIE FACE-5;DIE FACE-6;nCIRCLEwDOT t;nCIRCLEwTWO DOTS;lCIRCLEwnDOT t;
     lCIRCLEwTWO nDOTS;MONOGRAM FOR YANG;MONOGRAM FOR YIN;DIGRAM FOR GREATER YANG;
     DIGRAM FOR LESSER YIN;DIGRAM FOR LESSER YANG;DIGRAM FOR GREATER YIN;nFLAG;lFLAG;HAMMERyPICK;
     ANCHOR;CROSSED SWORDS;STAFF OF AESCULAPIUS;SCALES;ALEMBIC;FLOWER;GEAR;STAFF OF HERMES;ATOMk;
     FLEUR-DE-LIS;OUTLINED nSTAR;THREE LINES CONVERGING t;THREE LINES CONVERGING v;WARNINGr;
     HIGH VOLTAGEr;DOUBLED FEMALEr;DOUBLED MALEr;INTERLOCKED FEMALEyMALEr;MALEyFEMALEr;MALEwSTROKEr;
     MALEwSTROKEyMALEyFEMALEr;VERTICAL MALEwSTROKEr;HORIZONTAL MALEwSTROKEr;MEDIUM nCIRCLE;
     MEDIUM lCIRCLE;MEDIUM SMALL nCIRCLE;MARRIAGEk;DIVORCEk;UNMARRIED PARTNERSHIPk;COFFIN;
     FUNERAL URN;NEUTER;CERES;PALLAS;JUNO;VESTA;CHIRON;lMOON LILITH;SEXTILE;SEMISEXTILE;QUINCUNX;
     SESQUIQUADRATE;SOCCER BALL;BASEBALL;SQUARED KEY;nDRAUGHTS MAN;nDRAUGHTS KING;lDRAUGHTS MAN;
     lDRAUGHTS KING;SNOWMAN WITHOUT SNOW;SUN BEHIND CLOUD;RAIN;lSNOWMAN;THUNDER CLOUDyRAIN;
     TURNED nSHOGI PIECE;TURNED lSHOGI PIECE;nDIAMOND IN SQUARE;CROSSING LANES;DISABLED CAR;
     OPHIUCHUS;PICK;CAR SLIDING;HELMETwnCROSS;jCROSSING LANES;CHAINS;NO ENTRY;
     ALTERNATE ONE-WAY v WAY TRAFFIC;lTWO-WAY v WAY TRAFFIC;nTWO-WAY v WAY TRAFFIC;lv LANE MERGE;
     nv LANE MERGE;DRIVE SLOWr;HEAVY nDOWN-POINTING TRIANGLE;v CLOSED ENTRY;SQUARED SALTIRE;
     FALLING DIAGONAL IN nCIRCLE IN lSQUARE;lTRUCK;RESTRICTED v ENTRY-1;RESTRICTED v ENTRY-2;
     ASTRONOMICALk FOR URANUS;HEAVY CIRCLEwSTROKEyTWO DOTSs;PENTAGRAM;t-HANDED INTERLACED PENTAGRAM;
     v-HANDED INTERLACED PENTAGRAM;INVERTED PENTAGRAM;lCROSS ON SHIELD;SHINTO SHRINE;CHURCH;CASTLE;
     HISTORIC SITE;GEAR WITHOUT HUB;GEARwHANDLES;MAPk FOR LIGHTHOUSE;MOUNTAIN;UMBRELLA ON GROUND;
     FOUNTAIN;FLAG IN HOLE;FERRY;SAILBOAT;SQUARE FOUR CORNERS;SKIER;ICE SKATE;PERSONwBALL;TENT;
     JAPANESE BANKk;HEADSTONE GRAVEYARDk;FUEL PUMP;CUP ON lSQUARE;nFLAGwHORIZONTAL MIDDLE lSTRIPE;
     lSAFETY SCISSORS;UPPER BLADE SCISSORS;lSCISSORS;LOWER BLADE SCISSORS;nSCISSORS;
     nHEAVY CHECK MARK;TELEPHONE LOCATIONr;TAPE DRIVE;AIRPLANE;ENVELOPE;RAISED FIST;RAISED HAND;
     VICTORY HAND;WRITING HAND;LOWER t PENCIL;PENCIL;UPPER t PENCIL;nNIB;lNIB;CHECK MARK;
     HEAVY CHECK MARK;MULTIPLICATION X;HEAVY MULTIPLICATION X;BALLOT X;HEAVY BALLOT X;
     OUTLINED GREEK CROSS;HEAVY GREEK CROSS;OPEN CENTRE CROSS;HEAVY OPEN CENTRE CROSS;LATIN CROSS;
     SHADOWED nLATIN CROSS;OUTLINED LATIN CROSS;MALTESE CROSS;STAR OF DAVID;
     FOUR TEARDROP-SPOKED ASTERISK;FOUR BALLOON-SPOKED ASTERISK;HEAVY FOUR BALLOON-SPOKED ASTERISK;
     FOUR CLUB-SPOKED ASTERISK;lFOUR POINTED STAR;nFOUR POINTED STAR;SPARKLES;STRESS OUTLINED nSTAR;
     jnSTAR;OPEN CENTRE lSTAR;lCENTRE nSTAR;OUTLINED lSTAR;HEAVY OUTLINED lSTAR;PINWHEEL STAR;
     SHADOWED nSTAR;HEAVY ASTERISK;OPEN CENTRE ASTERISK;EIGHT SPOKED ASTERISK;EIGHT POINTED lSTAR;
     EIGHT POINTED PINWHEEL STAR;SIX POINTED lSTAR;EIGHT POINTED RECTILINEAR lSTAR;
     HEAVY EIGHT POINTED RECTILINEAR lSTAR;TWELVE POINTED lSTAR;SIXTEEN POINTED ASTERISK;
     TEARDROP-SPOKED ASTERISK;OPEN CENTRE TEARDROP-SPOKED ASTERISK;HEAVY TEARDROP-SPOKED ASTERISK;
     SIX PETALLED lAND nFLORETTE;lFLORETTE;nFLORETTE;EIGHT PETALLED OUTLINED lFLORETTE;
     jOPEN CENTRE EIGHT POINTED STAR;HEAVY TEARDROP-SPOKED PINWHEEL ASTERISK;SNOWFLAKE;
     TIGHT TRIFOLIATE SNOWFLAKE;HEAVY CHEVRON SNOWFLAKE;SPARKLE;HEAVY SPARKLE;
     BALLOON-SPOKED ASTERISK;EIGHT TEARDROP-SPOKED PROPELLER ASTERISK;
     HEAVY EIGHT TEARDROP-SPOKED PROPELLER ASTERISK;CROSS MARK;SHADOWED nCIRCLE;
     NEGATIVE SQUARED CROSS MARK;LOWER t DROP-SHADOWED nSQUARE;UPPER t DROP-SHADOWED nSQUARE;
     LOWER t SHADOWED nSQUARE;UPPER t SHADOWED nSQUARE;lQUESTION MARK ORNAMENT;
     nQUESTION MARK ORNAMENT;nEXCLAMATION MARK ORNAMENT;lDIAMOND MINUS nX;HEAVY EXCLAMATION MARKk;
     LIGHT VERTICAL BAR;MEDIUM VERTICAL BAR;HEAVY VERTICAL BAR;
     HEAVY SINGLE TURNED COMMA QUOTATION MARK ORNAMENT;HEAVY SINGLE COMMA QUOTATION MARK ORNAMENT;
     HEAVY DOUBLE TURNED COMMA QUOTATION MARK ORNAMENT;HEAVY DOUBLE COMMA QUOTATION MARK ORNAMENT;
     HEAVY LOW SINGLE COMMA QUOTATION MARK ORNAMENT;HEAVY LOW DOUBLE COMMA QUOTATION MARK ORNAMENT;
     CURVED STEM PARAGRAPHr ORNAMENT;HEAVY EXCLAMATION MARK ORNAMENT;
     HEAVY HEART EXCLAMATION MARK ORNAMENT;HEAVY lHEART;ROTATED HEAVY lHEART BULLET;FLORAL HEART;
     ROTATED FLORAL HEART BULLET;MEDIUM v PARENTHESIS ORNAMENT;MEDIUM t PARENTHESIS ORNAMENT;
     MEDIUM FLATTENED v PARENTHESIS ORNAMENT;MEDIUM FLATTENED t PARENTHESIS ORNAMENT;
     MEDIUM v-POINTING ANGLE BRACKET ORNAMENT;MEDIUM t-POINTING ANGLE BRACKET ORNAMENT;
     HEAVY v-POINTING ANGLE QUOTATION MARK ORNAMENT;HEAVY t-POINTING ANGLE QUOTATION MARK ORNAMENT;
     HEAVY v-POINTING ANGLE BRACKET ORNAMENT;HEAVY t-POINTING ANGLE BRACKET ORNAMENT;
     LIGHT v TORTOISE SHELL BRACKET ORNAMENT;LIGHT t TORTOISE SHELL BRACKET ORNAMENT;
     MEDIUM v CURLY BRACKET ORNAMENT;MEDIUM t CURLY BRACKET ORNAMENT;DINGBAT NEGATIVE jDIGIT ONE;
     DINGBAT NEGATIVE jDIGIT TWO;DINGBAT NEGATIVE jDIGIT THREE;DINGBAT NEGATIVE jDIGIT FOUR;
     DINGBAT NEGATIVE jDIGIT FIVE;DINGBAT NEGATIVE jDIGIT SIX;DINGBAT NEGATIVE jDIGIT SEVEN;
     DINGBAT NEGATIVE jDIGIT EIGHT;DINGBAT NEGATIVE jDIGIT NINE;DINGBAT NEGATIVE jNUMBER TEN;
     DINGBAT jSANS-SERIF DIGIT ONE;DINGBAT jSANS-SERIF DIGIT TWO;DINGBAT jSANS-SERIF DIGIT THREE;
     DINGBAT jSANS-SERIF DIGIT FOUR;DINGBAT jSANS-SERIF DIGIT FIVE;DINGBAT jSANS-SERIF DIGIT SIX;
     DINGBAT jSANS-SERIF DIGIT SEVEN;DINGBAT jSANS-SERIF DIGIT EIGHT;DINGBAT jSANS-SERIF DIGIT NINE;
     DINGBAT jSANS-SERIF NUMBER TEN;DINGBAT NEGATIVE jSANS-SERIF DIGIT ONE;
     DINGBAT NEGATIVE jSANS-SERIF DIGIT TWO;DINGBAT NEGATIVE jSANS-SERIF DIGIT THREE;
     DINGBAT NEGATIVE jSANS-SERIF DIGIT FOUR;DINGBAT NEGATIVE jSANS-SERIF DIGIT FIVE;
     DINGBAT NEGATIVE jSANS-SERIF DIGIT SIX;DINGBAT NEGATIVE jSANS-SERIF DIGIT SEVEN;
     DINGBAT NEGATIVE jSANS-SERIF DIGIT EIGHT;DINGBAT NEGATIVE jSANS-SERIF DIGIT NINE;
     DINGBAT NEGATIVE jSANS-SERIF NUMBER TEN;HEAVY WIDE-HEADED tWARDSz;HEAVY PLUSr;HEAVY MINUSr;
     HEAVY DIVISIONr;HEAVY SOUTH EASTz;HEAVY tWARDSz;HEAVY NORTH EASTz;DRAFTING POINT tWARDSz;
     HEAVY ROUND-TIPPED tWARDSz;TRIANGLE-HEADED tWARDSz;HEAVY TRIANGLE-HEADED tWARDSz;
     DASHED TRIANGLE-HEADED tWARDSz;HEAVY DASHED TRIANGLE-HEADED tWARDSz;ltWARDSz;
     THREE-D TOP-LIGHTED tWARDSzHEAD;THREE-D BOTTOM-LIGHTED tWARDSzHEAD;ltWARDSzHEAD;
     HEAVY lCURVED DOWNWARDSytWARDSz;HEAVY lCURVED UPWARDSytWARDSz;SQUAT ltWARDSz;
     HEAVY CONCAVE-POINTED ltWARDSz;t-SHADED ntWARDSz;v-SHADED ntWARDSz;
     BACK-TILTED SHADOWED ntWARDSz;FRONT-TILTED SHADOWED ntWARDSz;HEAVY LOWER t-SHADOWED ntWARDSz;
     HEAVY UPPER t-SHADOWED ntWARDSz;NOTCHED LOWER t-SHADOWED ntWARDSz;CURLY LOOP;
     NOTCHED UPPER t-SHADOWED ntWARDSz;jHEAVY ntWARDSz;WHITE-FEATHERED tWARDSz;
     BLACK-FEATHERED SOUTH EASTz;BLACK-FEATHERED tWARDSz;BLACK-FEATHERED NORTH EASTz;
     HEAVY BLACK-FEATHERED SOUTH EASTz;HEAVY BLACK-FEATHERED tWARDSz;
     HEAVY BLACK-FEATHERED NORTH EASTz;TEARDROP-BARBED tWARDSz;HEAVY TEARDROP-SHANKED tWARDSz;
     WEDGE-TAILED tWARDSz;HEAVY WEDGE-TAILED tWARDSz;OPEN-OUTLINED tWARDSz;DOUBLE CURLY LOOP;
     THREE DIMENSIONAL ANGLE;nTRIANGLE CONTAINING SMALL nTRIANGLE;PERPENDICULAR;OPEN SUBSET;
     OPEN SUPERSET;v S-SHAPED BAG DELIMITER;t S-SHAPED BAG DELIMITER;ORwDOT INSIDE;
     REVERSE SOLIDUS PRECEDING SUBSET;SUPERSET PRECEDING SOLIDUS;VERTICAL BARwHORIZONTAL STROKE;
     MATHEMATICAL RISING DIAGONAL;LONG DIVISION;MATHEMATICAL FALLING DIAGONAL;SQUARED LOGICAL AND;
     SQUARED LOGICAL OR;nDIAMONDwCENTRED DOT;ANDwDOT;ELEMENT OF OPENING UPWARDS;LOWER t CORNERwDOT;
     UPPER v CORNERwDOT;v OUTER JOIN;t OUTER JOIN;FULL OUTER JOIN;LARGE UP TACK;LARGE DOWN TACK;
     vyt DOUBLE TURNSTILE;vyt TACK;v MULTIMAP;LONG t TACK;LONG v TACK;UP TACKwCIRCLEs;
     LOZENGE DIVIDED BY HORIZONTAL RULE;nCONCAVE-SIDED DIAMOND;nCONCAVE-SIDED DIAMONDwvWARDS TICK;
     nCONCAVE-SIDED DIAMONDwtWARDS TICK;nSQUAREwvWARDS TICK;nSQUAREwtWARDS TICK;
     MATHEMATICAL v nSQUARE BRACKET;MATHEMATICAL t nSQUARE BRACKET;MATHEMATICAL v ANGLE BRACKET;
     MATHEMATICAL t ANGLE BRACKET;MATHEMATICAL v DOUBLE ANGLE BRACKET;
     MATHEMATICAL t DOUBLE ANGLE BRACKET;MATHEMATICAL v nTORTOISE SHELL BRACKET;
     MATHEMATICAL t nTORTOISE SHELL BRACKET;MATHEMATICAL v FLATTENED PARENTHESIS;
     MATHEMATICAL t FLATTENED PARENTHESIS;UPWARDS QUADRUPLEz;DOWNWARDS QUADRUPLEz;
     ANTICLOCKWISE GAPPED CIRCLEz;CLOCKWISE GAPPED CIRCLEz;tzwjPLUS;LONG vWARDSz;LONG tWARDSz;
     LONG v tz;LONG vWARDS DOUBLEz;LONG tWARDS DOUBLEz;LONG v t DOUBLEz;LONG vWARDSz FROM BAR;
     LONG tWARDSz FROM BAR;LONG vWARDS DOUBLEz FROM BAR;LONG tWARDS DOUBLEz FROM BAR;
     LONG tWARDS SQUIGGLEz"),
    (0x2B00, "NORTH EAST nARROW;NORTH WEST nARROW;SOUTH EAST nARROW;SOUTH WEST nARROW;v t nARROW;
     vWARDS lARROW;UPWARDS lARROW;DOWNWARDS lARROW;NORTH EAST lARROW;NORTH WEST lARROW;
     SOUTH EAST lARROW;SOUTH WEST lARROW;v t lARROW;UP DOWN lARROW;tWARDSzwTIP DOWNWARDS;
     tWARDSzwTIP UPWARDS;vWARDSzwTIP DOWNWARDS;vWARDSzwTIP UPWARDS;SQUAREwTOP HALF BLACK;
     SQUAREwBOTTOM HALF BLACK;SQUAREwUPPER t DIAGONAL HALF BLACK;SQUAREwLOWER v DIAGONAL HALF BLACK;
     DIAMONDwv HALF BLACK;DIAMONDwt HALF BLACK;DIAMONDwTOP HALF BLACK;DIAMONDwBOTTOM HALF BLACK;
     DOTTED SQUARE;lLARGE SQUARE;nLARGE SQUARE;lVERY SMALL SQUARE;nVERY SMALL SQUARE;lPENTAGON;
     nPENTAGON;nHEXAGON;lHEXAGON;HORIZONTAL lHEXAGON;lLARGE CIRCLE;lMEDIUM DIAMOND;nMEDIUM DIAMOND;
     lMEDIUM LOZENGE;nMEDIUM LOZENGE;lSMALL DIAMOND;lSMALL LOZENGE;nSMALL LOZENGE;
     lHORIZONTAL ELLIPSE;nHORIZONTAL ELLIPSE;lVERTICAL ELLIPSE;nVERTICAL ELLIPSE;vzwSMALL CIRCLE;
     THREE vWARDSzS;vzwjPLUS;LONG vWARDS SQUIGGLEz;vWARDS TWO-HEADEDzwVERTICAL STROKE;
     vWARDS TWO-HEADEDzwDOUBLE VERTICAL STROKE;vWARDS TWO-HEADEDz FROM BAR;
     vWARDS TWO-HEADED TRIPLE DASHz;vWARDSzwDOTTED STEM;vWARDSzwTAILwVERTICAL STROKE;
     vWARDSzwTAILwDOUBLE VERTICAL STROKE;vWARDS TWO-HEADEDzwTAIL;
     vWARDS TWO-HEADEDzwTAILwVERTICAL STROKE;vWARDS TWO-HEADEDzwTAILwDOUBLE VERTICAL STROKE;
     vWARDSz THROUGH X;WAVEz POINTING DIRECTLY v;EQUALSrs vWARDSz;REVERSE TILDE OPERATORs vWARDSz;
     vWARDSzs REVERSE ALMOST EQUAL TO;tWARDSz THROUGH GREATER-THAN;tWARDSz THROUGH SUPERSET;
     vWARDS QUADRUPLEz;tWARDS QUADRUPLEz;REVERSE TILDE OPERATORs tWARDSz;
     tWARDSzs REVERSE ALMOST EQUAL TO;TILDE OPERATORs vWARDSz;vWARDSzs ALMOST EQUAL TO;
     vWARDSzs REVERSE TILDE OPERATOR;tWARDSzs REVERSE TILDE OPERATOR;
     DOWNWARDS TRIANGLE-HEADED ZIGZAGz;SHORT SLANTED NORTHz;SHORT BACKSLANTED SOUTHz;nMEDIUM STAR;
     lSMALL STAR;nSMALL STAR;lt-POINTING PENTAGON;nt-POINTING PENTAGON;HEAVY LARGE CIRCLE;
     HEAVY OVALwOVAL INSIDE;HEAVY CIRCLEwCIRCLE INSIDE;HEAVY CIRCLE;HEAVY jSALTIRE;
     SLANTED NORTHzwHOOKED HEAD;BACKSLANTED SOUTHzwHOOKED TAIL;SLANTED NORTHzwHORIZONTAL TAIL;
     BACKSLANTED SOUTHzwHORIZONTAL TAIL;BENTz POINTING DOWNWARDS THEN NORTH EAST;
     SHORT BENTz POINTING DOWNWARDS THEN NORTH EAST;vWARDS TRIANGLE-HEADEDz;
     UPWARDS TRIANGLE-HEADEDz;tWARDS TRIANGLE-HEADEDz;DOWNWARDS TRIANGLE-HEADEDz;
     v t TRIANGLE-HEADEDz;UP DOWN TRIANGLE-HEADEDz;NORTH WEST TRIANGLE-HEADEDz;
     NORTH EAST TRIANGLE-HEADEDz;SOUTH EAST TRIANGLE-HEADEDz;SOUTH WEST TRIANGLE-HEADEDz;
     vWARDS TRIANGLE-HEADED DASHEDz;UPWARDS TRIANGLE-HEADED DASHEDz;tWARDS TRIANGLE-HEADED DASHEDz;
     DOWNWARDS TRIANGLE-HEADED DASHEDz;CLOCKWISE TRIANGLE-HEADED OPEN CIRCLEz;
     ANTICLOCKWISE TRIANGLE-HEADED OPEN CIRCLEz;vWARDS TRIANGLE-HEADEDz TO BAR;
     UPWARDS TRIANGLE-HEADEDz TO BAR;tWARDS TRIANGLE-HEADEDz TO BAR;
     DOWNWARDS TRIANGLE-HEADEDz TO BAR"),
    (0x2B76, "NORTH WEST TRIANGLE-HEADEDz TO BAR;NORTH EAST TRIANGLE-HEADEDz TO BAR;
     SOUTH EAST TRIANGLE-HEADEDz TO BAR;SOUTH WEST TRIANGLE-HEADEDz TO BAR;
     vWARDS TRIANGLE-HEADEDzwDOUBLE HORIZONTAL STROKE;
     UPWARDS TRIANGLE-HEADEDzwDOUBLE HORIZONTAL STROKE;
     tWARDS TRIANGLE-HEADEDzwDOUBLE HORIZONTAL STROKE;
     DOWNWARDS TRIANGLE-HEADEDzwDOUBLE HORIZONTAL STROKE;HORIZONTAL TAB KEY;VERTICAL TAB KEY;
     vWARDS TRIANGLE-HEADEDz OVER tWARDS TRIANGLE-HEADEDz;
     UPWARDS TRIANGLE-HEADEDz vWARDS OF DOWNWARDS TRIANGLE-HEADEDz;
     tWARDS TRIANGLE-HEADEDz OVER vWARDS TRIANGLE-HEADEDz;
     DOWNWARDS TRIANGLE-HEADEDz vWARDS OF UPWARDS TRIANGLE-HEADEDz;vWARDS TRIANGLE-HEADED PAIREDzS;
     UPWARDS TRIANGLE-HEADED PAIREDzS;tWARDS TRIANGLE-HEADED PAIREDzS;
     DOWNWARDS TRIANGLE-HEADED PAIREDzS;vWARDS ljnARROW;UPWARDS ljnARROW;tWARDS ljnARROW;
     DOWNWARDS ljnARROW;ANTICLOCKWISE TRIANGLE-HEADED t U-SHAPEDz;
     ANTICLOCKWISE TRIANGLE-HEADED BOTTOM U-SHAPEDz;ANTICLOCKWISE TRIANGLE-HEADED v U-SHAPEDz;
     ANTICLOCKWISE TRIANGLE-HEADED TOP U-SHAPEDz;RETURN v;RETURN t;NEWLINE v;NEWLINE t;
     FOUR CORNERzS CIRCLING ANTICLOCKWISE;tWARDS lARROW"),
    (0x2B97, "SYMBOL FOR TYPE A ELECTRONICS;THREE-D TOP-LIGHTED vWARDS EQUILATERALzHEAD;
     THREE-D t-LIGHTED UPWARDS EQUILATERALzHEAD;THREE-D TOP-LIGHTED tWARDS EQUILATERALzHEAD;
     THREE-D v-LIGHTED DOWNWARDS EQUILATERALzHEAD;lvWARDS EQUILATERALzHEAD;
     lUPWARDS EQUILATERALzHEAD;ltWARDS EQUILATERALzHEAD;lDOWNWARDS EQUILATERALzHEAD;
     DOWNWARDS TRIANGLE-HEADEDzwLONG TIP vWARDS;DOWNWARDS TRIANGLE-HEADEDzwLONG TIP tWARDS;
     UPWARDS TRIANGLE-HEADEDzwLONG TIP vWARDS;UPWARDS TRIANGLE-HEADEDzwLONG TIP tWARDS;
     vWARDS TRIANGLE-HEADEDzwLONG TIP UPWARDS;tWARDS TRIANGLE-HEADEDzwLONG TIP UPWARDS;
     vWARDS TRIANGLE-HEADEDzwLONG TIP DOWNWARDS;tWARDS TRIANGLE-HEADEDzwLONG TIP DOWNWARDS;
     lCURVED DOWNWARDSyvWARDSz;lCURVED DOWNWARDSytWARDSz;lCURVED UPWARDSyvWARDSz;
     lCURVED UPWARDSytWARDSz;lCURVED vWARDSyUPWARDSz;lCURVED tWARDSyUPWARDSz;
     lCURVED vWARDSyDOWNWARDSz;lCURVED tWARDSyDOWNWARDSz;RIBBONz DOWN v;RIBBONz DOWN t;RIBBONz UP v;
     RIBBONz UP t;RIBBONz v UP;RIBBONz t UP;RIBBONz v DOWN;RIBBONz t DOWN;
     UPWARDS nARROW FROM BARwHORIZONTAL BAR;UPzHEAD IN A RECTANGLE BOX;OVERLAPPING nSQUARES;
     OVERLAPPING nAND lSQUARES;OVERLAPPING lSQUARES;BALLOT BOXwLIGHT X;jX;jBOLD X;lSQUARE CENTRED;
     lDIAMOND CENTRED;TURNED lPENTAGON;HORIZONTAL lOCTAGON;lOCTAGON;
     lMEDIUM UP-POINTING TRIANGLE CENTRED;lMEDIUM DOWN-POINTING TRIANGLE CENTRED;
     lMEDIUM v-POINTING TRIANGLE CENTRED;lMEDIUM t-POINTING TRIANGLE CENTRED;NEPTUNE FORM TWO;
     TOP HALF lCIRCLE;BOTTOM HALF lCIRCLE;LIGHT FOUR POINTED lCUSP;ROTATED LIGHT FOUR POINTED lCUSP;
     nFOUR POINTED CUSP;ROTATED nFOUR POINTED CUSP;SQUARE POSITION INDICATOR;UNCERTAINTYr;
     GROUP MARK;PLUTO FORM TWO;PLUTO FORM THREE;PLUTO FORM FOUR;PLUTO FORM FIVE;TRANSPLUTO;
     PROSERPINA;ASTRAEA;HYGIEA;PHOLUS;NESSUS;nMOON SELENA;lDIAMOND ON CROSS;TRUE LIGHT MOON ARTA;
     CUPIDO;HADES;ZEUS;KRONOS;APOLLON;ADMETOS;VULCANUS;POSEIDON;v HALF lSTAR;t HALF lSTAR;
     STARwv HALF BLACK;STARwt HALF BLACK;vWARDS TWO-HEADEDzwTRIANGLEzHEADS;
     UPWARDS TWO-HEADEDzwTRIANGLEzHEADS;tWARDS TWO-HEADEDzwTRIANGLEzHEADS;
     DOWNWARDS TWO-HEADEDzwTRIANGLEzHEADS;ERIS FORM ONE;ERIS FORM TWO;SEDNA;
     RUSSIAN ASTROLOGICALk VIGINTILE;RUSSIAN ASTROLOGICALk NOVILE;RUSSIAN ASTROLOGICALk QUINTILE;
     RUSSIAN ASTROLOGICALk BINOVILE;RUSSIAN ASTROLOGICALk SENTAGON;RUSSIAN ASTROLOGICALk TREDECILE;
     EQUALSrwINFINITYo;UNITEDk;SEPARATEDk;DOUBLEDk;PASSEDk;REVERSED t ANGLE;HELLSCHREIBER PAUSEk")]

end Docent.Text.NameTable
