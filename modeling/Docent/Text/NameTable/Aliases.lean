/-!
# Names of characters: further names

Runs of the names that Unicode 14 gives to control characters, and of its further names for other
characters. A run is the code point of its first character and the names from there on, divided by
semicolons; several names of one character are divided by commas. A small letter in a name stands
for a phrase, which `Docent.Text.NameTable.phrase` tells.
-/

namespace Docent.Text.NameTable

def aliases : List (Nat × String) := [
    (0x0000, "NULL,NUL;START OF HEADING,SOH;START OF TEXT,STX;END OF TEXT,ETX;
     END OF TRANSMISSION,EOT;ENQUIRY,ENQ;ACKNOWLEDGE,ACK;ALERT,BEL;BACKSPACE,BS;
     CHARACTER TABULATION,HORIZONTAL TABULATION,HT,TAB;LINE FEED,NEW LINE,END OF LINE,LF,NL,EOL;
     LINE TABULATION,VERTICAL TABULATION,VT;FORM FEED,FF;CARRIAGE RETURN,CR;
     SHIFT OUT,LOCKING-SHIFT ONE,SO;SHIFT IN,LOCKING-SHIFT ZERO,SI;DATA LINK ESCAPE,DLE;
     DEVICE CONTROL ONE,DC1;DEVICE CONTROL TWO,DC2;DEVICE CONTROL THREE,DC3;DEVICE CONTROL FOUR,DC4;
     NEGATIVE ACKNOWLEDGE,NAK;SYNCHRONOUS IDLE,SYN;END OF TRANSMISSION BLOCK,ETB;CANCEL,CAN;
     END OF MEDIUM,EOM;SUBSTITUTE,SUB;ESCAPE,ESC;INFORMATION SEPARATOR FOUR,FILE SEPARATOR,FS;
     INFORMATION SEPARATOR THREE,GROUP SEPARATOR,GS;INFORMATION SEPARATOR TWO,RECORD SEPARATOR,RS;
     INFORMATION SEPARATOR ONE,UNIT SEPARATOR,US;SP"),
    (0x007F, "DELETE,DEL;PADDING CHARACTER,PAD;HIGH OCTET PRESET,HOP;BREAK PERMITTED HERE,BPH;
     NO BREAK HERE,NBH;INDEX,IND;NEXT LINE,NEL;START OF SELECTED AREA,SSA;END OF SELECTED AREA,ESA;
     CHARACTER TABULATION SET,HORIZONTAL TABULATION SET,HTS;
     CHARACTER TABULATIONwJUSTIFICATION,HORIZONTAL TABULATIONwJUSTIFICATION,HTJ;
     LINE TABULATION SET,VERTICAL TABULATION SET,VTS;PARTIAL LINE FORWARD,PARTIAL LINE DOWN,PLD;
     PARTIAL LINE BACKWARD,PARTIAL LINE UP,PLU;REVERSE LINE FEED,REVERSE INDEX,RI;
     SINGLE SHIFT TWO,SINGLE-SHIFT-2,SS2;SINGLE SHIFT THREE,SINGLE-SHIFT-3,SS3;
     DEVICE CONTROL STRING,DCS;PRIVATE USE ONE,PRIVATE USE-1,PU1;PRIVATE USE TWO,PRIVATE USE-2,PU2;
     SET TRANSMIT STATE,STS;CANCEL CHARACTER,CCH;MESSAGE WAITING,MW;
     START OF GUARDED AREA,START OF PROTECTED AREA,SPA;
     END OF GUARDED AREA,END OF PROTECTED AREA,EPA;START OF STRING,SOS;
     SINGLE GRAPHIC CHARACTER INTRODUCER,SGC;SINGLE CHARACTER INTRODUCER,SCI;
     CONTROL SEQUENCE INTRODUCER,CSI;STRING TERMINATOR,ST;OPERATING SYSTEM COMMAND,OSC;
     PRIVACY MESSAGE,PM;APPLICATION PROGRAM COMMAND,APC;NBSP"),
    (0x00AD, "SHY"),
    (0x01A2, "aGHA;bGHA"),
    (0x034F, "CGJ"),
    (0x061C, "ALM"),
    (0x0709, "SYRIAC SUBLINEAR COLON SKEWED v"),
    (0x180B, "FVS1"),
    (0x200B, "ZWSP;ZWNJ;ZWJ;LRM;RLM"),
    (0x202A, "LRE;RLE;PDF;LRO;RLO;NNBSP"),
    (0x205F, "MMSP;WJ"),
    (0x2066, "LRI;RLI;FSI;PDI"),
    (0x2118, "WEIERSTRASS ELLIPTIC FUNCTION"),
    (0x2448, "MICR ON USk;MICR DASHk"),
    (0x2B7A, "vWARDS TRIANGLE-HEADEDzwDOUBLE VERTICAL STROKE"),
    (0x2B7C, "tWARDS TRIANGLE-HEADEDzwDOUBLE VERTICAL STROKE"),
    (0xFE00, "VS1;VS2;VS3;VS4;VS5;VS6;VS7;VS8;VS9;VS10;VS11;VS12;VS13;VS14;VS15;VS16"),
    (0xFE18, "PRESENTATION FORM FOR VERTICAL t nLENTICULAR BRACKET"),
    (0xFEFF, "BYTE ORDER MARK,BOM,ZWNBSP")]

end Docent.Text.NameTable
