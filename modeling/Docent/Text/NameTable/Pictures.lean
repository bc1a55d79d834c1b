/-!
# Names of characters: pictures

Runs of names of pictures by Unicode 14. A run is the code point of its
first character and the names from there on, divided by semicolons. A small letter in a name stands
for a phrase, which `Docent.Text.NameTable.phrase` tells.
-/

namespace Docent.Text.NameTable

def pictures : List (Nat × String) := [
    (0x1F300, "CYCLONE;FOGGY;CLOSED UMBRELLA;NIGHTwSTARS;SUNRISE OVER MOUNTAINS;SUNRISE;
     CITYSCAPE AT DUSK;SUNSET OVER BUILDINGS;RAINBOW;BRIDGE AT NIGHT;WATER WAVE;VOLCANO;MILKY WAY;
     EARTH GLOBE EUROPE-AFRICA;EARTH GLOBE AMERICAS;EARTH GLOBE ASIA-AUSTRALIA;GLOBEwMERIDIANS;
     NEW MOONk;WAXING CRESCENT MOONk;FIRST QUARTER MOONk;WAXING GIBBOUS MOONk;FULL MOONk;
     WANING GIBBOUS MOONk;LAST QUARTER MOONk;WANING CRESCENT MOONk;CRESCENT MOON;NEW MOONwFACE;
     FIRST QUARTER MOONwFACE;LAST QUARTER MOONwFACE;FULL MOONwFACE;SUNwFACE;GLOWING STAR;
     SHOOTING STAR;THERMOMETER;lDROPLET;nSUN;nSUNwSMALL CLOUD;nSUN BEHIND CLOUD;
     nSUN BEHIND CLOUDwRAIN;CLOUDwRAIN;CLOUDwSNOW;CLOUDwLIGHTNING;CLOUDwTORNADO;FOG;
     WIND BLOWING FACE;HOT DOG;TACO;BURRITO;CHESTNUT;SEEDLING;EVERGREEN TREE;DECIDUOUS TREE;
     PALM TREE;CACTUS;HOT PEPPER;TULIP;CHERRY BLOSSOM;ROSE;HIBISCUS;SUNFLOWER;BLOSSOM;EAR OF MAIZE;
     EAR OF RICE;HERB;FOUR LEAF CLOVER;MAPLE LEAF;FALLEN LEAF;LEAF FLUTTERING IN WIND;MUSHROOM;
     TOMATO;AUBERGINE;GRAPES;MELON;WATERMELON;TANGERINE;LEMON;BANANA;PINEAPPLE;RED APPLE;
     GREEN APPLE;PEAR;PEACH;CHERRIES;STRAWBERRY;HAMBURGER;SLICE OF PIZZA;MEAT ON BONE;POULTRY LEG;
     RICE CRACKER;RICE BALL;COOKED RICE;CURRYyRICE;STEAMING BOWL;SPAGHETTI;BREAD;FRENCH FRIES;
     ROASTED SWEET POTATO;DANGO;ODEN;SUSHI;FRIED SHRIMP;FISH CAKEwSWIRL DESIGN;SOFT ICE CREAM;
     SHAVED ICE;ICE CREAM;DOUGHNUT;COOKIE;CHOCOLATE BAR;CANDY;LOLLIPOP;CUSTARD;HONEY POT;SHORTCAKE;
     BENTO BOX;POT OF FOOD;COOKING;FORKyKNIFE;TEACUP WITHOUT HANDLE;SAKE BOTTLEyCUP;WINE GLASS;
     COCKTAIL GLASS;TROPICAL DRINK;BEER MUG;CLINKING BEER MUGS;BABY BOTTLE;FORKyKNIFEwPLATE;
     BOTTLEwPOPPING CORK;POPCORN;RIBBON;WRAPPED PRESENT;BIRTHDAY CAKE;JACK-O-LANTERN;CHRISTMAS TREE;
     FATHER CHRISTMAS;FIREWORKS;FIREWORK SPARKLER;BALLOON;PARTY POPPER;CONFETTI BALL;TANABATA TREE;
     CROSSED FLAGS;PINE DECORATION;JAPANESE DOLLS;CARP STREAMER;WIND CHIME;MOON VIEWING CEREMONY;
     SCHOOL SATCHEL;GRADUATION CAP;HEARTwTIP ON THE v;BOUQUET OF FLOWERS;MILITARY MEDAL;
     REMINDER RIBBON;MUSICAL KEYBOARDwJACKS;STUDIO MICROPHONE;LEVEL SLIDER;CONTROL KNOBS;
     BEAMED ASCENDING MUSICAL NOTES;BEAMED DESCENDING MUSICAL NOTES;FILM FRAMES;ADMISSION TICKETS;
     CAROUSEL HORSE;FERRIS WHEEL;ROLLER COASTER;FISHING POLEyFISH;MICROPHONE;MOVIE CAMERA;CINEMA;
     HEADPHONE;ARTIST PALETTE;TOP HAT;CIRCUS TENT;TICKET;CLAPPER BOARD;PERFORMING ARTS;VIDEO GAME;
     DIRECT HIT;SLOT MACHINE;BILLIARDS;GAME DIE;BOWLING;FLOWER PLAYING CARDS;MUSICAL NOTE;
     MULTIPLE MUSICAL NOTES;SAXOPHONE;GUITAR;MUSICAL KEYBOARD;TRUMPET;VIOLIN;MUSICAL SCORE;
     RUNNING SHIRTwSASH;TENNIS RACQUETyBALL;SKIySKI BOOT;BASKETBALLyHOOP;CHEQUERED FLAG;SNOWBOARDER;
     RUNNER;SURFER;SPORTS MEDAL;TROPHY;HORSE RACING;AMERICAN FOOTBALL;RUGBY FOOTBALL;SWIMMER;
     WEIGHT LIFTER;GOLFER;RACING MOTORCYCLE;RACING CAR;CRICKET BATyBALL;VOLLEYBALL;
     FIELD HOCKEY STICKyBALL;ICE HOCKEY STICKyPUCK;TABLE TENNIS PADDLEyBALL;SNOW CAPPED MOUNTAIN;
     CAMPING;BEACHwUMBRELLA;BUILDING CONSTRUCTION;HOUSE BUILDINGS;CITYSCAPE;DERELICT HOUSE BUILDING;
     CLASSICAL BUILDING;DESERT;DESERT ISLAND;NATIONAL PARK;STADIUM;HOUSE BUILDING;HOUSEwGARDEN;
     OFFICE BUILDING;JAPANESE POST OFFICE;EUROPEAN POST OFFICE;HOSPITAL;BANK;
     AUTOMATED TELLER MACHINE;HOTEL;LOVE HOTEL;CONVENIENCE STORE;SCHOOL;DEPARTMENT STORE;FACTORY;
     IZAKAYA LANTERN;JAPANESE CASTLE;EUROPEAN CASTLE;nPENNANT;lPENNANT;WAVING nFLAG;WAVING lFLAG;
     ROSETTE;lROSETTE;LABEL;BADMINTON RACQUETySHUTTLECOCK;BOW ANDz;AMPHORA;
     EMOJI MODIFIER FITZPATRICK TYPE-1-2;EMOJI MODIFIER FITZPATRICK TYPE-3;
     EMOJI MODIFIER FITZPATRICK TYPE-4;EMOJI MODIFIER FITZPATRICK TYPE-5;
     EMOJI MODIFIER FITZPATRICK TYPE-6;RAT;MOUSE;OX;WATER BUFFALO;COW;TIGER;LEOPARD;RABBIT;CAT;
     DRAGON;CROCODILE;WHALE;SNAIL;SNAKE;HORSE;RAM;GOAT;SHEEP;MONKEY;ROOSTER;CHICKEN;DOG;PIG;BOAR;
     ELEPHANT;OCTOPUS;SPIRAL SHELL;BUG;ANT;HONEYBEE;LADY BEETLE;FISH;TROPICAL FISH;BLOWFISH;TURTLE;
     HATCHING CHICK;BABY CHICK;FRONT-FACING BABY CHICK;BIRD;PENGUIN;KOALA;POODLE;DROMEDARY CAMEL;
     BACTRIAN CAMEL;DOLPHIN;MOUSE FACE;COW FACE;TIGER FACE;RABBIT FACE;CAT FACE;DRAGON FACE;
     SPOUTING WHALE;HORSE FACE;MONKEY FACE;DOG FACE;PIG FACE;FROG FACE;HAMSTER FACE;WOLF FACE;
     BEAR FACE;PANDA FACE;PIG NOSE;PAW PRINTS;CHIPMUNK;EYES;EYE;EAR;NOSE;MOUTH;TONGUE;
     nUP POINTING BACKHAND INDEX;nDOWN POINTING BACKHAND INDEX;nv POINTING BACKHAND INDEX;
     nt POINTING BACKHAND INDEX;FISTED HANDr;WAVING HANDr;OK HANDr;THUMBS UPr;THUMBS DOWNr;
     CLAPPING HANDSr;OPEN HANDSr;CROWN;WOMANS HAT;EYEGLASSES;NECKTIE;T-SHIRT;JEANS;DRESS;KIMONO;
     BIKINI;WOMANS CLOTHES;PURSE;HANDBAG;POUCH;MANS SHOE;ATHLETIC SHOE;HIGH-HEELED SHOE;
     WOMANS SANDAL;WOMANS BOOTS;FOOTPRINTS;BUST IN SILHOUETTE;BUSTS IN SILHOUETTE;BOY;GIRL;MAN;
     WOMAN;FAMILY;MANyWOMAN HOLDING HANDS;TWO MEN HOLDING HANDS;TWO WOMEN HOLDING HANDS;
     POLICE OFFICER;WOMANwBUNNY EARS;BRIDEwVEIL;PERSONwBLOND HAIR;MANwGUA PI MAO;MANwTURBAN;
     OLDER MAN;OLDER WOMAN;BABY;CONSTRUCTION WORKER;PRINCESS;JAPANESE OGRE;JAPANESE GOBLIN;GHOST;
     BABY ANGEL;EXTRATERRESTRIAL ALIEN;ALIEN MONSTER;IMP;SKULL;INFORMATION DESK PERSON;GUARDSMAN;
     DANCER;LIPSTICK;NAIL POLISH;FACE MASSAGE;HAIRCUT;BARBER POLE;SYRINGE;PILL;KISS MARK;
     LOVE LETTER;RING;GEM STONE;KISS;BOUQUET;COUPLEwHEART;WEDDING;BEATING HEART;BROKEN HEART;
     TWO HEARTS;SPARKLING HEART;GROWING HEART;HEARTwARROW;BLUE HEART;GREEN HEART;YELLOW HEART;
     PURPLE HEART;HEARTwRIBBON;REVOLVING HEARTS;HEART DECORATION;DIAMOND SHAPEwA DOT INSIDE;
     ELECTRIC LIGHT BULB;ANGERk;BOMB;SLEEPINGk;COLLISIONk;SPLASHING SWEATk;DROPLET;DASHk;
     PILE OF POO;FLEXED BICEPS;DIZZYk;SPEECH BALLOON;THOUGHT BALLOON;nFLOWER;HUNDRED POINTSk;
     MONEY BAG;CURRENCY EXCHANGE;HEAVY DOLLARr;CREDIT CARD;BANKNOTEwYENr;BANKNOTEwDOLLARr;
     BANKNOTEwEUROr;BANKNOTEwPOUNDr;MONEYwWINGS;CHARTwUPWARDS TRENDyYENr;SEAT;PERSONAL COMPUTER;
     BRIEFCASE;MINIDISC;FLOPPY DISK;OPTICAL DISC;DVD;FILE FOLDER;OPEN FILE FOLDER;PAGEwCURL;
     PAGE FACING UP;CALENDAR;TEAR-OFF CALENDAR;CARD INDEX;CHARTwUPWARDS TREND;CHARTwDOWNWARDS TREND;
     BAR CHART;CLIPBOARD;PUSHPIN;ROUND PUSHPIN;PAPERCLIP;STRAIGHT RULER;TRIANGULAR RULER;
     BOOKMARK TABS;LEDGER;NOTEBOOK;NOTEBOOKwDECORATIVE COVER;CLOSED BOOK;OPEN BOOK;GREEN BOOK;
     BLUE BOOK;ORANGE BOOK;BOOKS;NAME BADGE;SCROLL;MEMO;TELEPHONE RECEIVER;PAGER;FAX MACHINE;
     SATELLITE ANTENNA;PUBLIC ADDRESS LOUDSPEAKER;CHEERING MEGAPHONE;OUTBOX TRAY;INBOX TRAY;PACKAGE;
     E-MAILk;INCOMING ENVELOPE;ENVELOPEwDOWNWARDSzs;CLOSED MAILBOXwLOWERED FLAG;
     CLOSED MAILBOXwRAISED FLAG;OPEN MAILBOXwRAISED FLAG;OPEN MAILBOXwLOWERED FLAG;POSTBOX;
     POSTAL HORN;NEWSPAPER;MOBILE PHONE;MOBILE PHONEwtWARDSz AT v;VIBRATION MODE;MOBILE PHONE OFF;
     NO MOBILE PHONES;ANTENNAwBARS;CAMERA;CAMERAwFLASH;VIDEO CAMERA;TELEVISION;RADIO;VIDEOCASSETTE;
     FILM PROJECTOR;PORTABLE STEREO;PRAYER BEADS;TWISTED tWARDSzS;
     CLOCKWISE tWARDSyvWARDS OPEN CIRCLEzS;CLOCKWISE tWARDSyvWARDS OPEN CIRCLEzSwjONE OVERLAY;
     CLOCKWISE DOWNWARDSyUPWARDS OPEN CIRCLEzS;ANTICLOCKWISE DOWNWARDSyUPWARDS OPEN CIRCLEzS;
     LOW BtNESSk;HIGH BtNESSk;SPEAKERwCANCELLATION STROKE;SPEAKER;SPEAKERwONE SOUND WAVE;
     SPEAKERwTHREE SOUND WAVES;BATTERY;ELECTRIC PLUG;v-POINTING MAGNIFYING GLASS;
     t-POINTING MAGNIFYING GLASS;LOCKwINK PEN;CLOSED LOCKwKEY;KEY;LOCK;OPEN LOCK;BELL;
     BELLwCANCELLATION STROKE;BOOKMARK;LINKk;RADIO BUTTON;BACKwvWARDSzs;ENDwvWARDSzs;
     ONwEXCLAMATION MARKwv tzs;SOONwtWARDSzs;TOPwUPWARDSzs;NO ONE UNDER EIGHTEENk;KEYCAP TEN;
     INPUTk FOR LATIN CAPITAL LETTERS;INPUTk FOR LATIN SMALL LETTERS;INPUTk FOR NUMBERS;
     INPUTk FORkS;INPUTk FOR LATIN LETTERS;FIRE;ELECTRIC TORCH;WRENCH;HAMMER;NUTyBOLT;HOCHO;PISTOL;
     MICROSCOPE;TELESCOPE;CRYSTAL BALL;SIX POINTED STARwMIDDLE DOT;JAPANESEk FOR BEGINNER;
     TRIDENT EMBLEM;lSQUARE BUTTON;nSQUARE BUTTON;LARGE RED CIRCLE;LARGE BLUE CIRCLE;
     LARGE ORANGE DIAMOND;LARGE BLUE DIAMOND;SMALL ORANGE DIAMOND;SMALL BLUE DIAMOND;
     UP-POINTING RED TRIANGLE;DOWN-POINTING RED TRIANGLE;UP-POINTING SMALL RED TRIANGLE;
     DOWN-POINTING SMALL RED TRIANGLE;LOWER t SHADOWED nCIRCLE;UPPER t SHADOWED nCIRCLE;
     jCROSS POMMEE;CROSS POMMEEwHALF-CIRCLEo;CROSS POMMEE;NOTCHED v SEMICIRCLEwTHREE DOTS;
     NOTCHED t SEMICIRCLEwTHREE DOTS;SYMBOL FOR MARKS CHAPTER;nLATIN CROSS;HEAVY LATIN CROSS;
     CELTIC CROSS;OMk;DOVE OF PEACE;KAABA;MOSQUE;SYNAGOGUE;MENORAHwNINE BRANCHES;BOWL OF HYGIEIA;
     CLOCK FACE ONE OCLOCK;CLOCK FACE TWO OCLOCK;CLOCK FACE THREE OCLOCK;CLOCK FACE FOUR OCLOCK;
     CLOCK FACE FIVE OCLOCK;CLOCK FACE SIX OCLOCK;CLOCK FACE SEVEN OCLOCK;CLOCK FACE EIGHT OCLOCK;
     CLOCK FACE NINE OCLOCK;CLOCK FACE TEN OCLOCK;CLOCK FACE ELEVEN OCLOCK;CLOCK FACE TWELVE OCLOCK;
     CLOCK FACE ONE-THIRTY;CLOCK FACE TWO-THIRTY;CLOCK FACE THREE-THIRTY;CLOCK FACE FOUR-THIRTY;
     CLOCK FACE FIVE-THIRTY;CLOCK FACE SIX-THIRTY;CLOCK FACE SEVEN-THIRTY;CLOCK FACE EIGHT-THIRTY;
     CLOCK FACE NINE-THIRTY;CLOCK FACE TEN-THIRTY;CLOCK FACE ELEVEN-THIRTY;CLOCK FACE TWELVE-THIRTY;
     t SPEAKER;t SPEAKERwONE SOUND WAVE;t SPEAKERwTHREE SOUND WAVES;BULLHORN;BULLHORNwSOUND WAVES;
     RINGING BELL;BOOK;CANDLE;MANTELPIECE CLOCK;lSKULLyCROSSBONES;NO PIRACY;HOLE;
     MAN IN BUSINESS SUIT LEVITATING;SLEUTH OR SPY;DARK SUNGLASSES;SPIDER;SPIDER WEB;JOYSTICK;
     MAN DANCING;v HAND TELEPHONE RECEIVER;TELEPHONE RECEIVERwPAGE;t HAND TELEPHONE RECEIVER;
     nTOUCHTONE TELEPHONE;lTOUCHTONE TELEPHONE;TELEPHONE ON TOP OF MODEM;CLAMSHELL MOBILE PHONE;
     BACK OF ENVELOPE;STAMPED ENVELOPE;ENVELOPEwLIGHTNING;FLYING ENVELOPE;PEN OVER STAMPED ENVELOPE;
     LINKED PAPERCLIPS;lPUSHPIN;LOWER v PENCIL;LOWER v BALLPOINT PEN;LOWER v FOUNTAIN PEN;
     LOWER v PAINTBRUSH;LOWER v CRAYON;v WRITING HAND;TURNED OK HANDr;RAISED HANDwFINGERS SPLAYED;
     REVERSED RAISED HANDwFINGERS SPLAYED;REVERSED THUMBS UPr;REVERSED THUMBS DOWNr;
     REVERSED VICTORY HAND;REVERSED HANDwMIDDLE FINGER EXTENDED;
     RAISED HANDwPART BETWEEN MIDDLEyRING FINGERS;nDOWN POINTING v HAND INDEX;
     SIDEWAYS nv POINTING INDEX;SIDEWAYS nt POINTING INDEX;SIDEWAYS lv POINTING INDEX;
     SIDEWAYS lt POINTING INDEX;lv POINTING BACKHAND INDEX;lt POINTING BACKHAND INDEX;
     SIDEWAYS nUP POINTING INDEX;SIDEWAYS nDOWN POINTING INDEX;SIDEWAYS lUP POINTING INDEX;
     SIDEWAYS lDOWN POINTING INDEX;lUP POINTING BACKHAND INDEX;lDOWN POINTING BACKHAND INDEX;lHEART;
     DESKTOP COMPUTER;KEYBOARDyMOUSE;THREE NETWORKED COMPUTERS;PRINTER;POCKET CALCULATOR;
     lHARD SHELL FLOPPY DISK;nHARD SHELL FLOPPY DISK;SOFT SHELL FLOPPY DISK;TAPE CARTRIDGE;
     WIRED KEYBOARD;ONE BUTTON MOUSE;TWO BUTTON MOUSE;THREE BUTTON MOUSE;TRACKBALL;
     OLD PERSONAL COMPUTER;HARD DISK;SCREEN;PRINTER ICON;FAX ICON;OPTICAL DISC ICON;DOCUMENTwTEXT;
     DOCUMENTwTEXTyPICTURE;DOCUMENTwPICTURE;FRAMEwPICTURE;FRAMEwTILES;FRAMEwAN X;lFOLDER;FOLDER;
     OPEN FOLDER;CARD INDEX DIVIDERS;CARD FILE BOX;FILE CABINET;EMPTY NOTE;EMPTY NOTE PAGE;
     EMPTY NOTE PAD;NOTE;NOTE PAGE;NOTE PAD;EMPTY DOCUMENT;EMPTY PAGE;EMPTY PAGES;DOCUMENT;PAGE;
     PAGES;WASTEBASKET;SPIRAL NOTE PAD;SPIRAL CALENDAR PAD;DESKTOP WINDOW;MINIMIZE;MAXIMIZE;OVERLAP;
     CLOCKWISE tyv SEMICIRCLEzS;CANCELLATION X;INCREASE FONT SIZEk;DECREASE FONT SIZEk;COMPRESSION;
     OLD KEY;ROLLED-UP NEWSPAPER;PAGEwjTEXT;STOCK CHART;DAGGER KNIFE;LIPS;
     SPEAKING HEAD IN SILHOUETTE;THREE RAYSs;THREE RAYSo;THREE RAYS v;THREE RAYS t;v SPEECH BUBBLE;
     t SPEECH BUBBLE;TWO SPEECH BUBBLES;THREE SPEECH BUBBLES;v THOUGHT BUBBLE;t THOUGHT BUBBLE;
     v ANGER BUBBLE;t ANGER BUBBLE;MOOD BUBBLE;LIGHTNING MOOD BUBBLE;LIGHTNING MOOD;
     BALLOT BOXwBALLOT;BALLOT SCRIPT X;BALLOT BOXwSCRIPT X;BALLOT BOLD SCRIPT X;
     BALLOT BOXwBOLD SCRIPT X;LIGHT CHECK MARK;BALLOT BOXwBOLD CHECK;WORLD MAP;MOUNT FUJI;
     TOKYO TOWER;STATUE OF LIBERTY;SILHOUETTE OF JAPAN;MOYAI;GRINNING FACE;
     GRINNING FACEwSMILING EYES;FACEwTEARS OF JOY;SMILING FACEwOPEN MOUTH;
     SMILING FACEwOPEN MOUTHySMILING EYES;SMILING FACEwOPEN MOUTHyCOLD SWEAT;
     SMILING FACEwOPEN MOUTHyTIGHTLY-CLOSED EYES;SMILING FACEwHALO;SMILING FACEwHORNS;WINKING FACE;
     SMILING FACEwSMILING EYES;FACE SAVOURING DELICIOUS FOOD;RELIEVED FACE;
     SMILING FACEwHEART-SHAPED EYES;SMILING FACEwSUNGLASSES;SMIRKING FACE;NEUTRAL FACE;
     EXPRESSIONLESS FACE;UNAMUSED FACE;FACEwCOLD SWEAT;PENSIVE FACE;CONFUSED FACE;CONFOUNDED FACE;
     KISSING FACE;FACE THROWING A KISS;KISSING FACEwSMILING EYES;KISSING FACEwCLOSED EYES;
     FACEwSTUCK-OUT TONGUE;FACEwSTUCK-OUT TONGUEyWINKING EYE;
     FACEwSTUCK-OUT TONGUEyTIGHTLY-CLOSED EYES;DISAPPOINTED FACE;WORRIED FACE;ANGRY FACE;
     POUTING FACE;CRYING FACE;PERSEVERING FACE;FACEwLOOK OF TRIUMPH;DISAPPOINTED BUT RELIEVED FACE;
     FROWNING FACEwOPEN MOUTH;ANGUISHED FACE;FEARFUL FACE;WEARY FACE;SLEEPY FACE;TIRED FACE;
     GRIMACING FACE;LOUDLY CRYING FACE;FACEwOPEN MOUTH;HUSHED FACE;FACEwOPEN MOUTHyCOLD SWEAT;
     FACE SCREAMING IN FEAR;ASTONISHED FACE;FLUSHED FACE;SLEEPING FACE;DIZZY FACE;
     FACE WITHOUT MOUTH;FACEwMEDICAL MASK;GRINNING CAT FACEwSMILING EYES;CAT FACEwTEARS OF JOY;
     SMILING CAT FACEwOPEN MOUTH;SMILING CAT FACEwHEART-SHAPED EYES;CAT FACEwWRY SMILE;
     KISSING CAT FACEwCLOSED EYES;POUTING CAT FACE;CRYING CAT FACE;WEARY CAT FACE;
     SLIGHTLY FROWNING FACE;SLIGHTLY SMILING FACE;UPSIDE-DOWN FACE;FACEwROLLING EYES;
     FACEwNO GOOD GESTURE;FACEwOK GESTURE;PERSON BOWING DEEPLY;SEE-NO-EVIL MONKEY;
     HEAR-NO-EVIL MONKEY;SPEAK-NO-EVIL MONKEY;HAPPY PERSON RAISING ONE HAND;
     PERSON RAISING BOTH HANDS IN CELEBRATION;PERSON FROWNING;PERSONwPOUTING FACE;
     PERSONwFOLDED HANDS;NORTH WEST POINTING LEAF;SOUTH WEST POINTING LEAF;NORTH EAST POINTING LEAF;
     SOUTH EAST POINTING LEAF;TURNED NORTH WEST POINTING LEAF;TURNED SOUTH WEST POINTING LEAF;
     TURNED NORTH EAST POINTING LEAF;TURNED SOUTH EAST POINTING LEAF;NORTH WEST POINTING VINE LEAF;
     SOUTH WEST POINTING VINE LEAF;NORTH EAST POINTING VINE LEAF;SOUTH EAST POINTING VINE LEAF;
     HEAVY NORTH WEST POINTING VINE LEAF;HEAVY SOUTH WEST POINTING VINE LEAF;
     HEAVY NORTH EAST POINTING VINE LEAF;HEAVY SOUTH EAST POINTING VINE LEAF;
     NORTH WEST POINTING BUD;SOUTH WEST POINTING BUD;NORTH EAST POINTING BUD;
     SOUTH EAST POINTING BUD;HEAVY NORTH WEST POINTING BUD;HEAVY SOUTH WEST POINTING BUD;
     HEAVY NORTH EAST POINTING BUD;HEAVY SOUTH EAST POINTING BUD;HOLLOW QUILT SQUARE ORNAMENT;
     HOLLOW QUILT SQUARE ORNAMENT IN lSQUARE;SOLID QUILT SQUARE ORNAMENT;
     SOLID QUILT SQUARE ORNAMENT IN lSQUARE;vWARDS ROCKET;UPWARDS ROCKET;tWARDS ROCKET;
     DOWNWARDS ROCKET;SCRIPT LIGATURE ET ORNAMENT;HEAVY SCRIPT LIGATURE ET ORNAMENT;
     LIGATURE OPEN ET ORNAMENT;HEAVY LIGATURE OPEN ET ORNAMENT;HEAVY AMPERSAND ORNAMENT;
     SWASH AMPERSAND ORNAMENT;SANS-SERIF HEAVY DOUBLE TURNED COMMA QUOTATION MARK ORNAMENT;
     SANS-SERIF HEAVY DOUBLE COMMA QUOTATION MARK ORNAMENT;
     SANS-SERIF HEAVY LOW DOUBLE COMMA QUOTATION MARK ORNAMENT;HEAVY INTERROBANG ORNAMENT;
     SANS-SERIF INTERROBANG ORNAMENT;HEAVY SANS-SERIF INTERROBANG ORNAMENT;VERY HEAVY SOLIDUS;
     VERY HEAVY REVERSE SOLIDUS;CHECKER BOARD;REVERSE CHECKER BOARD;ROCKET;HELICOPTER;
     STEAM LOCOMOTIVE;RAILWAY CAR;HIGH-SPEED TRAIN;HIGH-SPEED TRAINwBULLET NOSE;TRAIN;METRO;
     LIGHT RAIL;STATION;TRAM;TRAM CAR;BUS;ONCOMING BUS;TROLLEYBUS;BUS STOP;MINIBUS;AMBULANCE;
     FIRE ENGINE;POLICE CAR;ONCOMING POLICE CAR;TAXI;ONCOMING TAXI;AUTOMOBILE;ONCOMING AUTOMOBILE;
     RECREATIONAL VEHICLE;DELIVERY TRUCK;ARTICULATED LORRY;TRACTOR;MONORAIL;MOUNTAIN RAILWAY;
     SUSPENSION RAILWAY;MOUNTAIN CABLEWAY;AERIAL TRAMWAY;SHIP;ROWBOAT;SPEEDBOAT;
     HORIZONTAL TRAFFIC LIGHT;VERTICAL TRAFFIC LIGHT;CONSTRUCTIONr;POLICE CARS REVOLVING LIGHT;
     TRIANGULAR FLAG ON POST;DOOR;NO ENTRYr;SMOKINGk;NO SMOKINGk;PUT LITTER IN ITS PLACEk;
     DO NOT LITTERk;POTABLE WATERk;NON-POTABLE WATERk;BICYCLE;NO BICYCLES;BICYCLIST;
     MOUNTAIN BICYCLIST;PEDESTRIAN;NO PEDESTRIANS;CHILDREN CROSSING;MENSk;WOMENSk;RESTROOM;BABYk;
     TOILET;WATER CLOSET;SHOWER;BATH;BATHTUB;PASSPORT CONTROL;CUSTOMS;BAGGAGE CLAIM;v LUGGAGE;
     TRIANGLEwROUNDED CORNERS;PROHIBITEDr;jINFORMATION SOURCE;BOYSk;GIRLSk;COUCHyLAMP;
     SLEEPING ACCOMMODATION;SHOPPING BAGS;BELLHOP BELL;BED;PLACE OF WORSHIP;OCTAGONALr;
     SHOPPING TROLLEY;STUPA;PAGODA;HINDU TEMPLE;HUT;ELEVATOR"),
    (0x1F6DD, "PLAYGROUND SLIDE;WHEEL;RING BUOY;HAMMERyWRENCH;SHIELD;OIL DRUM;MOTORWAY;
     RAILWAY TRACK;MOTOR BOAT;UP-POINTING MILITARY AIRPLANE;UP-POINTING AIRPLANE;
     UP-POINTING SMALL AIRPLANE;SMALL AIRPLANE;NORTHEAST-POINTING AIRPLANE;AIRPLANE DEPARTURE;
     AIRPLANE ARRIVING"),
    (0x1F6F0, "SATELLITE;ONCOMING FIRE ENGINE;DIESEL LOCOMOTIVE;PASSENGER SHIP;SCOOTER;
     MOTOR SCOOTER;CANOE;SLED;FLYING SAUCER;SKATEBOARD;AUTO RICKSHAW;PICKUP TRUCK;ROLLER SKATE"),
    (0x1F900, "jCROSS FORMEEwFOUR DOTS;jCROSS FORMEEwTWO DOTS;jCROSS FORMEE;v HALF CIRCLEwFOUR DOTS;
     v HALF CIRCLEwTHREE DOTS;v HALF CIRCLEwTWO DOTS;v HALF CIRCLEwDOT;v HALF CIRCLE;
     DOWNWARD FACING HOOK;DOWNWARD FACING NOTCHED HOOK;DOWNWARD FACING HOOKwDOT;
     DOWNWARD FACING NOTCHED HOOKwDOT;PINCHED FINGERS;nHEART;BROWN HEART;PINCHING HAND;
     ZIPPER-MOUTH FACE;MONEY-MOUTH FACE;FACEwTHERMOMETER;NERD FACE;THINKING FACE;FACEwHEAD-BANDAGE;
     ROBOT FACE;HUGGING FACE;SIGN OF THE HORNS;CALL ME HAND;RAISED BACK OF HAND;v-FACING FIST;
     t-FACING FIST;HANDSHAKE;HANDwINDEXyMIDDLE FINGERS CROSSED;I LOVE YOU HANDr;FACEwCOWBOY HAT;
     CLOWN FACE;NAUSEATED FACE;ROLLING ON THE FLOOR LAUGHING;DROOLING FACE;LYING FACE;FACE PALM;
     SNEEZING FACE;FACEwONE EYEBROW RAISED;GRINNING FACEwSTAR EYES;
     GRINNING FACEwONE LARGEyONE SMALL EYE;FACEwFINGER COVERING CLOSED LIPS;
     SERIOUS FACE WITHkS COVERING MOUTH;SMILING FACEwSMILING EYESyHAND COVERING MOUTH;
     FACEwOPEN MOUTH VOMITING;SHOCKED FACEwEXPLODING HEAD;PREGNANT WOMAN;BREAST-FEEDING;
     PALMS UP TOGETHER;SELFIE;PRINCE;MAN IN TUXEDO;MOTHER CHRISTMAS;SHRUG;PERSON DOING CARTWHEEL;
     JUGGLING;FENCER;MODERN PENTATHLON;WRESTLERS;WATER POLO;HANDBALL;DIVING MASK;WILTED FLOWER;
     DRUMwDRUMSTICKS;CLINKING GLASSES;TUMBLER GLASS;SPOON;GOAL NET;RIFLE;FIRST PLACE MEDAL;
     SECOND PLACE MEDAL;THIRD PLACE MEDAL;BOXING GLOVE;MARTIAL ARTS UNIFORM;CURLING STONE;
     LACROSSE STICKyBALL;SOFTBALL;FLYING DISC;CROISSANT;AVOCADO;CUCUMBER;BACON;POTATO;CARROT;
     BAGUETTE BREAD;GREEN SALAD;SHALLOW PAN OF FOOD;STUFFED FLATBREAD;EGG;GLASS OF MILK;PEANUTS;
     KIWIFRUIT;PANCAKES;DUMPLING;FORTUNE COOKIE;TAKEOUT BOX;CHOPSTICKS;BOWLwSPOON;CUPwSTRAW;COCONUT;
     BROCCOLI;PIE;PRETZEL;CUT OF MEAT;SANDWICH;CANNED FOOD;LEAFY GREEN;MANGO;MOON CAKE;BAGEL;
     SMILING FACEwSMILING EYESyTHREE HEARTS;YAWNING FACE;SMILING FACEwTEAR;
     FACEwPARTY HORNyPARTY HAT;FACEwUNEVEN EYESyWAVY MOUTH;OVERHEATED FACE;FREEZING FACE;NINJA;
     DISGUISED FACE;FACE HOLDING BACK TEARS;FACEwPLEADING EYES;SARI;LAB COAT;GOGGLES;HIKING BOOT;
     FLAT SHOE;CRAB;LION FACE;SCORPION;TURKEY;UNICORN FACE;EAGLE;DUCK;BAT;SHARK;OWL;FOX FACE;
     BUTTERFLY;DEER;GORILLA;LIZARD;RHINOCEROS;SHRIMP;SQUID;GIRAFFE FACE;ZEBRA FACE;HEDGEHOG;
     SAUROPOD;T-REX;CRICKET;KANGAROO;LLAMA;PEACOCK;HIPPOPOTAMUS;PARROT;RACCOON;LOBSTER;MOSQUITO;
     MICROBE;BADGER;SWAN;MAMMOTH;DODO;SLOTH;OTTER;ORANGUTAN;SKUNK;FLAMINGO;OYSTER;BEAVER;BISON;SEAL;
     GUIDE DOG;PROBING CANE;EMOJI COMPONENT RED HAIR;EMOJI COMPONENT CURLY HAIR;
     EMOJI COMPONENT BALD;EMOJI COMPONENT nHAIR;BONE;LEG;FOOT;TOOTH;SUPERHERO;SUPERVILLAIN;
     SAFETY VEST;EARwHEARING AID;MOTORIZED WHEELCHAIR;MANUAL WHEELCHAIR;MECHANICAL ARM;
     MECHANICAL LEG;CHEESE WEDGE;CUPCAKE;SALT SHAKER;BEVERAGE BOX;GARLIC;ONION;FALAFEL;WAFFLE;
     BUTTER;MATE DRINK;ICE CUBE;BUBBLE TEA;TROLL;STANDING PERSON;KNEELING PERSON;DEAF PERSON;
     FACEwMONOCLE;ADULT;CHILD;OLDER ADULT;BEARDED PERSON;PERSONwHEADSCARF;PERSON IN STEAMY ROOM;
     PERSON CLIMBING;PERSON IN LOTUS POSITION;MAGE;FAIRY;VAMPIRE;MERPERSON;ELF;GENIE;ZOMBIE;BRAIN;
     ORANGE HEART;BILLED CAP;SCARF;GLOVES;COAT;SOCKS;RED GIFT ENVELOPE;FIRECRACKER;
     JIGSAW PUZZLE PIECE;TEST TUBE;PETRI DISH;DNA DOUBLE HELIX;COMPASS;ABACUS;FIRE EXTINGUISHER;
     TOOLBOX;BRICK;MAGNET;LUGGAGE;LOTION BOTTLE;SPOOL OF THREAD;BALL OF YARN;SAFETY PIN;TEDDY BEAR;
     BROOM;BASKET;ROLL OF PAPER;BAR OF SOAP;SPONGE;RECEIPT;NAZAR AMULET"),
    (0x1FA70, "BALLET SHOES;ONE-PIECE SWIMSUIT;BRIEFS;SHORTS;THONG SANDAL"),
    (0x1FA78, "DROP OF BLOOD;ADHESIVE BANDAGE;STETHOSCOPE;X-RAY;CRUTCH"),
    (0x1FA80, "YO-YO;KITE;PARACHUTE;BOOMERANG;MAGIC WAND;PINATA;NESTING DOLLS"),
    (0x1FA90, "RINGED PLANET;CHAIR;RAZOR;AXE;DIYA LAMP;BANJO;MILITARY HELMET;ACCORDION;LONG DRUM;
     COIN;CARPENTRY SAW;SCREWDRIVER;LADDER;HOOK;MIRROR;WINDOW;PLUNGER;SEWING NEEDLE;KNOT;BUCKET;
     MOUSE TRAP;TOOTHBRUSH;HEADSTONE;PLACARD;ROCK;MIRROR BALL;IDENTIFICATION CARD;LOW BATTERY;
     HAMSA"),
    (0x1FAB0, "FLY;WORM;BEETLE;COCKROACH;POTTED PLANT;WOOD;FEATHER;LOTUS;CORAL;EMPTY NEST;
     NESTwEGGS"),
    (0x1FAC0, "ANATOMICAL HEART;LUNGS;PEOPLE HUGGING;PREGNANT MAN;PREGNANT PERSON;PERSONwCROWN"),
    (0x1FAD0, "BLUEBERRIES;BELL PEPPER;OLIVE;FLATBREAD;TAMALE;FONDUE;TEAPOT;POURING LIQUID;BEANS;
     JAR"),
    (0x1FAE0, "MELTING FACE;SALUTING FACE;FACEwOPEN EYESyHAND OVER MOUTH;FACEwPEEKING EYE;
     FACEwDIAGONAL MOUTH;DOTTED LINE FACE;BITING LIP;BUBBLES"),
    (0x1FAF0, "HANDwINDEX FINGERyTHUMB CROSSED;tWARDS HAND;vWARDS HAND;PALM DOWN HAND;PALM UP HAND;
     INDEX POINTING AT THE VIEWER;HEART HANDS")]

end Docent.Text.NameTable
