/-!
# Names of characters: letters and marks

Runs of names of letters and marks by Unicode 14. A run is the code point of its
first character and the names from there on, divided by semicolons. A small letter in a name stands
for a phrase, which `Docent.Text.NameTable.phrase` tells.
-/

namespace Docent.Text.NameTable

/-- The runs of names of letters and marks. -/
def letters : List (Nat × String) := [
    (0x0020, "SPACE;EXCLAMATION MARK;QUOTATION MARK;NUMBERr;DOLLARr;PERCENTr;AMPERSAND;APOSTROPHE;
     v PARENTHESIS;t PARENTHESIS;ASTERISK;PLUSr;COMMA;HYPHEN-MINUS;FULL STOP;SOLIDUS;DIGIT ZERO;
     DIGIT ONE;DIGIT TWO;DIGIT THREE;DIGIT FOUR;DIGIT FIVE;DIGIT SIX;DIGIT SEVEN;DIGIT EIGHT;
     DIGIT NINE;COLON;SEMICOLON;LESS-THANr;EQUALSr;GREATER-THANr;QUESTION MARK;COMMERCIAL AT;aA;aB;
     aC;aD;aE;aF;aG;aH;aI;aJ;aK;aL;aM;aN;aO;aP;aQ;aR;aS;aT;aU;aV;aW;aX;aY;aZ;v SQUARE BRACKET;
     REVERSE SOLIDUS;t SQUARE BRACKET;CIRCUMFLEX ACCENT;LOW LINE;GRAVE ACCENT;bA;bB;bC;bD;bE;bF;bG;
     bH;bI;bJ;bK;bL;bM;bN;bO;bP;bQ;bR;bS;bT;bU;bV;bW;bX;bY;bZ;v CURLY BRACKET;VERTICAL LINE;
     t CURLY BRACKET;TILDE"),
    (0x00A0, "NO-BREAK SPACE;INVERTED EXCLAMATION MARK;CENTr;POUNDr;CURRENCYr;YENr;BROKEN BAR;
     SECTIONr;DIAERESIS;COPYtr;FEMININE ORDu INDICATOR;v-POINTING DOUBLE ANGLE QUOTATION MARK;NOTr;
     SOFT HYPHEN;REGISTEREDr;MACRON;DEGREEr;PLUS-MINUSr;SUPERSCRIPT TWO;SUPERSCRIPT THREE;
     ACUTE ACCENT;MICROr;PILCROWr;MIDDLE DOT;CEDILLA;SUPERSCRIPT ONE;MASCULINE ORDu INDICATOR;
     t-POINTING DOUBLE ANGLE QUOTATION MARK;VULGAR FRACTION ONE QUARTER;VULGAR FRACTION ONE HALF;
     VULGAR FRACTION THREE QUARTERS;INVERTED QUESTION MARK;aAwGRAVE;aAwACUTE;aAwCIRCUMFLEX;aAwTILDE;
     aAwDIAERESIS;aAwRINGs;aAE;aCwCEDILLA;aEwGRAVE;aEwACUTE;aEwCIRCUMFLEX;aEwDIAERESIS;aIwGRAVE;
     aIwACUTE;aIwCIRCUMFLEX;aIwDIAERESIS;aETH;aNwTILDE;aOwGRAVE;aOwACUTE;aOwCIRCUMFLEX;aOwTILDE;
     aOwDIAERESIS;MULTIPLICATIONr;aOwSTROKE;aUwGRAVE;aUwACUTE;aUwCIRCUMFLEX;aUwDIAERESIS;aYwACUTE;
     aTHORN;bSHARP S;bAwGRAVE;bAwACUTE;bAwCIRCUMFLEX;bAwTILDE;bAwDIAERESIS;bAwRINGs;bAE;bCwCEDILLA;
     bEwGRAVE;bEwACUTE;bEwCIRCUMFLEX;bEwDIAERESIS;bIwGRAVE;bIwACUTE;bIwCIRCUMFLEX;bIwDIAERESIS;bETH;
     bNwTILDE;bOwGRAVE;bOwACUTE;bOwCIRCUMFLEX;bOwTILDE;bOwDIAERESIS;DIVISIONr;bOwSTROKE;bUwGRAVE;
     bUwACUTE;bUwCIRCUMFLEX;bUwDIAERESIS;bYwACUTE;bTHORN;bYwDIAERESIS;aAwMACRON;bAwMACRON;aAwBREVE;
     bAwBREVE;aAwOGONEK;bAwOGONEK;aCwACUTE;bCwACUTE;aCwCIRCUMFLEX;bCwCIRCUMFLEX;aCwDOTs;bCwDOTs;
     aCwCARON;bCwCARON;aDwCARON;bDwCARON;aDwSTROKE;bDwSTROKE;aEwMACRON;bEwMACRON;aEwBREVE;bEwBREVE;
     aEwDOTs;bEwDOTs;aEwOGONEK;bEwOGONEK;aEwCARON;bEwCARON;aGwCIRCUMFLEX;bGwCIRCUMFLEX;aGwBREVE;
     bGwBREVE;aGwDOTs;bGwDOTs;aGwCEDILLA;bGwCEDILLA;aHwCIRCUMFLEX;bHwCIRCUMFLEX;aHwSTROKE;bHwSTROKE;
     aIwTILDE;bIwTILDE;aIwMACRON;bIwMACRON;aIwBREVE;bIwBREVE;aIwOGONEK;bIwOGONEK;aIwDOTs;bDOTLESS I;
     LATIN CAPITAL LIGATURE IJ;LATIN SMALL LIGATURE IJ;aJwCIRCUMFLEX;bJwCIRCUMFLEX;aKwCEDILLA;
     bKwCEDILLA;bKRA;aLwACUTE;bLwACUTE;aLwCEDILLA;bLwCEDILLA;aLwCARON;bLwCARON;aLwMIDDLE DOT;
     bLwMIDDLE DOT;aLwSTROKE;bLwSTROKE;aNwACUTE;bNwACUTE;aNwCEDILLA;bNwCEDILLA;aNwCARON;bNwCARON;
     bN PRECEDED BY APOSTROPHE;aENG;bENG;aOwMACRON;bOwMACRON;aOwBREVE;bOwBREVE;aOwDOUBLE ACUTE;
     bOwDOUBLE ACUTE;LATIN CAPITAL LIGATURE OE;LATIN SMALL LIGATURE OE;aRwACUTE;bRwACUTE;aRwCEDILLA;
     bRwCEDILLA;aRwCARON;bRwCARON;aSwACUTE;bSwACUTE;aSwCIRCUMFLEX;bSwCIRCUMFLEX;aSwCEDILLA;
     bSwCEDILLA;aSwCARON;bSwCARON;aTwCEDILLA;bTwCEDILLA;aTwCARON;bTwCARON;aTwSTROKE;bTwSTROKE;
     aUwTILDE;bUwTILDE;aUwMACRON;bUwMACRON;aUwBREVE;bUwBREVE;aUwRINGs;bUwRINGs;aUwDOUBLE ACUTE;
     bUwDOUBLE ACUTE;aUwOGONEK;bUwOGONEK;aWwCIRCUMFLEX;bWwCIRCUMFLEX;aYwCIRCUMFLEX;bYwCIRCUMFLEX;
     aYwDIAERESIS;aZwACUTE;bZwACUTE;aZwDOTs;bZwDOTs;aZwCARON;bZwCARON;bLONG S;bBwSTROKE;aBwHOOK;
     aBwTOPBAR;bBwTOPBAR;aTONE SIX;bTONE SIX;aOPEN O;aCwHOOK;bCwHOOK;aAFRICAN D;aDwHOOK;aDwTOPBAR;
     bDwTOPBAR;bTURNED DELTA;aREVERSED E;aSCHWA;aOPEN E;aFwHOOK;bFwHOOK;aGwHOOK;aGAMMA;bHV;aIOTA;
     aIwSTROKE;aKwHOOK;bKwHOOK;bLwBAR;bLAMBDAwSTROKE;aTURNED M;aNwv HOOK;bNwLONG t LEG;
     aOwMIDDLE TILDE;aOwHORN;bOwHORN;aOI;bOI;aPwHOOK;bPwHOOK;LATIN LETTER YR;aTONE TWO;bTONE TWO;
     aESH;LATIN LETTER REVERSED ESH LOOP;bTwPALATAL HOOK;aTwHOOK;bTwHOOK;aTwRETROFLEX HOOK;aUwHORN;
     bUwHORN;aUPSILON;aVwHOOK;aYwHOOK;bYwHOOK;aZwSTROKE;bZwSTROKE;aEZH;aEZH REVERSED;bEZH REVERSED;
     bEZHwTAIL;LATIN LETTER TWOwSTROKE;aTONE FIVE;bTONE FIVE;
     LATIN LETTER INVERTED GLOTTAL STOPwSTROKE;LATIN LETTER WYNN;LATIN LETTER DENTAL CLICK;
     LATIN LETTER LATERAL CLICK;LATIN LETTER ALVEOLAR CLICK;LATIN LETTER RETROFLEX CLICK;aDZwCARON;
     aDwSMALL LETTER ZwCARON;bDZwCARON;aLJ;aLwSMALL LETTER J;bLJ;aNJ;aNwSMALL LETTER J;bNJ;aAwCARON;
     bAwCARON;aIwCARON;bIwCARON;aOwCARON;bOwCARON;aUwCARON;bUwCARON;aUwDIAERESISyMACRON;
     bUwDIAERESISyMACRON;aUwDIAERESISyACUTE;bUwDIAERESISyACUTE;aUwDIAERESISyCARON;
     bUwDIAERESISyCARON;aUwDIAERESISyGRAVE;bUwDIAERESISyGRAVE;bTURNED E;aAwDIAERESISyMACRON;
     bAwDIAERESISyMACRON;aAwDOTsyMACRON;bAwDOTsyMACRON;aAEwMACRON;bAEwMACRON;aGwSTROKE;bGwSTROKE;
     aGwCARON;bGwCARON;aKwCARON;bKwCARON;aOwOGONEK;bOwOGONEK;aOwOGONEKyMACRON;bOwOGONEKyMACRON;
     aEZHwCARON;bEZHwCARON;bJwCARON;aDZ;aDwSMALL LETTER Z;bDZ;aGwACUTE;bGwACUTE;aHWAIR;aWYNN;
     aNwGRAVE;bNwGRAVE;aAwRINGsyACUTE;bAwRINGsyACUTE;aAEwACUTE;bAEwACUTE;aOwSTROKEyACUTE;
     bOwSTROKEyACUTE;aAwDOUBLE GRAVE;bAwDOUBLE GRAVE;aAwINVERTED BREVE;bAwINVERTED BREVE;
     aEwDOUBLE GRAVE;bEwDOUBLE GRAVE;aEwINVERTED BREVE;bEwINVERTED BREVE;aIwDOUBLE GRAVE;
     bIwDOUBLE GRAVE;aIwINVERTED BREVE;bIwINVERTED BREVE;aOwDOUBLE GRAVE;bOwDOUBLE GRAVE;
     aOwINVERTED BREVE;bOwINVERTED BREVE;aRwDOUBLE GRAVE;bRwDOUBLE GRAVE;aRwINVERTED BREVE;
     bRwINVERTED BREVE;aUwDOUBLE GRAVE;bUwDOUBLE GRAVE;aUwINVERTED BREVE;bUwINVERTED BREVE;
     aSwCOMMAo;bSwCOMMAo;aTwCOMMAo;bTwCOMMAo;aYOGH;bYOGH;aHwCARON;bHwCARON;aNwLONG t LEG;bDwCURL;
     aOU;bOU;aZwHOOK;bZwHOOK;aAwDOTs;bAwDOTs;aEwCEDILLA;bEwCEDILLA;aOwDIAERESISyMACRON;
     bOwDIAERESISyMACRON;aOwTILDEyMACRON;bOwTILDEyMACRON;aOwDOTs;bOwDOTs;aOwDOTsyMACRON;
     bOwDOTsyMACRON;aYwMACRON;bYwMACRON;bLwCURL;bNwCURL;bTwCURL;bDOTLESS J;bDB DIGRAPH;bQP DIGRAPH;
     aAwSTROKE;aCwSTROKE;bCwSTROKE;aLwBAR;aTwDIAGONAL STROKE;bSwSWASH TAIL;bZwSWASH TAIL;
     aGLOTTAL STOP;bGLOTTAL STOP;aBwSTROKE;aU BAR;aTURNED V;aEwSTROKE;bEwSTROKE;aJwSTROKE;bJwSTROKE;
     aSMALL QwHOOK TAIL;bQwHOOK TAIL;aRwSTROKE;bRwSTROKE;aYwSTROKE;bYwSTROKE"),
    (0x0250, "bTURNED A;bALPHA;bTURNED ALPHA;bBwHOOK;bOPEN O;bCwCURL;bDwTAIL;bDwHOOK;bREVERSED E;
     bSCHWA;bSCHWAwHOOK;bOPEN E;bREVERSED OPEN E;bREVERSED OPEN EwHOOK;bCLOSED REVERSED OPEN E;
     bDOTLESS JwSTROKE;bGwHOOK;bSCRIPT G;LATIN LETTER SMALL CAPITAL G;bGAMMA;bRAMS HORN;bTURNED H;
     bHwHOOK;bHENGwHOOK;bIwSTROKE;bIOTA;LATIN LETTER SMALL CAPITAL I;bLwMIDDLE TILDE;bLwBELT;
     bLwRETROFLEX HOOK;bLEZH;bTURNED M;bTURNED MwLONG LEG;bMwHOOK;bNwv HOOK;bNwRETROFLEX HOOK;
     LATIN LETTER SMALL CAPITAL N;bBARRED O;LATIN LETTER SMALL CAPITAL OE;bCLOSED OMEGA;bPHI;
     bTURNED R;bTURNED RwLONG LEG;bTURNED RwHOOK;bRwLONG LEG;bRwTAIL;bRwFISHHOOK;
     bREVERSED RwFISHHOOK;LATIN LETTER SMALL CAPITAL R;LATIN LETTER SMALL CAPITAL INVERTED R;
     bSwHOOK;bESH;bDOTLESS JwSTROKEyHOOK;bSQUAT REVERSED ESH;bESHwCURL;bTURNED T;bTwRETROFLEX HOOK;
     bU BAR;bUPSILON;bVwHOOK;bTURNED V;bTURNED W;bTURNED Y;LATIN LETTER SMALL CAPITAL Y;
     bZwRETROFLEX HOOK;bZwCURL;bEZH;bEZHwCURL;LATIN LETTER GLOTTAL STOP;
     LATIN LETTER PHARYNGEAL VOICED FRICATIVE;LATIN LETTER INVERTED GLOTTAL STOP;
     LATIN LETTER STRETCHED C;LATIN LETTER BILABIAL CLICK;LATIN LETTER SMALL CAPITAL B;
     bCLOSED OPEN E;LATIN LETTER SMALL CAPITAL GwHOOK;LATIN LETTER SMALL CAPITAL H;bJwCROSSED-TAIL;
     bTURNED K;LATIN LETTER SMALL CAPITAL L;bQwHOOK;LATIN LETTER GLOTTAL STOPwSTROKE;
     LATIN LETTER REVERSED GLOTTAL STOPwSTROKE;bDZ DIGRAPH;bDEZH DIGRAPH;bDZ DIGRAPHwCURL;
     bTS DIGRAPH;bTESH DIGRAPH;bTC DIGRAPHwCURL;bFENG DIGRAPH;bLS DIGRAPH;bLZ DIGRAPH;
     LATIN LETTER BILABIAL PERCUSSIVE;LATIN LETTER BIDENTAL PERCUSSIVE;bTURNED HwFISHHOOK;
     bTURNED HwFISHHOOKyTAIL;MODIFIER LETTER SMALL H;MODIFIER LETTER SMALL HwHOOK;
     MODIFIER LETTER SMALL J;MODIFIER LETTER SMALL R;MODIFIER LETTER SMALL TURNED R;
     MODIFIER LETTER SMALL TURNED RwHOOK;MODIFIER LETTER SMALL CAPITAL INVERTED R;
     MODIFIER LETTER SMALL W;MODIFIER LETTER SMALL Y;MODIFIER LETTER PRIME;
     MODIFIER LETTER DOUBLE PRIME;MODIFIER LETTER TURNED COMMA;MODIFIER LETTER APOSTROPHE;
     MODIFIER LETTER REVERSED COMMA;MODIFIER LETTER t HALF RING;MODIFIER LETTER v HALF RING;
     MODIFIER LETTER GLOTTAL STOP;MODIFIER LETTER REVERSED GLOTTAL STOP;MODIFIER LETTER vzHEAD;
     MODIFIER LETTER tzHEAD;MODIFIER LETTER UPzHEAD;MODIFIER LETTER DOWNzHEAD;
     MODIFIER LETTER CIRCUMFLEX ACCENT;CARON;MODIFIER LETTER VERTICAL LINE;MODIFIER LETTER MACRON;
     MODIFIER LETTER ACUTE ACCENT;MODIFIER LETTER GRAVE ACCENT;MODIFIER LETTER LOW VERTICAL LINE;
     MODIFIER LETTER LOW MACRON;MODIFIER LETTER LOW GRAVE ACCENT;MODIFIER LETTER LOW ACUTE ACCENT;
     MODIFIER LETTER TRIANGULAR COLON;MODIFIER LETTER HALF TRIANGULAR COLON;
     MODIFIER LETTER CENTRED t HALF RING;MODIFIER LETTER CENTRED v HALF RING;
     MODIFIER LETTER UP TACK;MODIFIER LETTER DOWN TACK;MODIFIER LETTER PLUSr;MODIFIER LETTER MINUSr;
     BREVE;DOTs;RINGs;OGONEK;SMALL TILDE;DOUBLE ACUTE ACCENT;MODIFIER LETTER RHOTIC HOOK;
     MODIFIER LETTER CROSS ACCENT;MODIFIER LETTER SMALL GAMMA;MODIFIER LETTER SMALL L;
     MODIFIER LETTER SMALL S;MODIFIER LETTER SMALL X;MODIFIER LETTER SMALL REVERSED GLOTTAL STOP;
     MODIFIER LETTER EXTRA-HIGH TONE BAR;MODIFIER LETTER HIGH TONE BAR;MODIFIER LETTER MID TONE BAR;
     MODIFIER LETTER LOW TONE BAR;MODIFIER LETTER EXTRA-LOW TONE BAR;
     MODIFIER LETTER YIN DEPARTING TONE MARK;MODIFIER LETTER YANG DEPARTING TONE MARK;
     MODIFIER LETTER VOICING;MODIFIER LETTER UNASPIRATED;MODIFIER LETTER DOUBLE APOSTROPHE;
     MODIFIER LETTER LOW DOWNzHEAD;MODIFIER LETTER LOW UPzHEAD;MODIFIER LETTER LOW vzHEAD;
     MODIFIER LETTER LOW tzHEAD;MODIFIER LETTER LOW RING;MODIFIER LETTER MIDDLE GRAVE ACCENT;
     MODIFIER LETTER MIDDLE DOUBLE GRAVE ACCENT;MODIFIER LETTER MIDDLE DOUBLE ACUTE ACCENT;
     MODIFIER LETTER LOW TILDE;MODIFIER LETTER RAISED COLON;MODIFIER LETTER BEGIN HIGH TONE;
     MODIFIER LETTER END HIGH TONE;MODIFIER LETTER BEGIN LOW TONE;MODIFIER LETTER END LOW TONE;
     MODIFIER LETTER SHELF;MODIFIER LETTER OPEN SHELF;MODIFIER LETTER LOW vz;iGRAVE ACCENT;
     iACUTE ACCENT;iCIRCUMFLEX ACCENT;iTILDE;iMACRON;iOVERLINE;iBREVE;iDOTs;iDIAERESIS;iHOOKs;
     iRINGs;iDOUBLE ACUTE ACCENT;iCARON;iVERTICAL LINEs;iDOUBLE VERTICAL LINEs;iDOUBLE GRAVE ACCENT;
     iCANDRABINDU;iINVERTED BREVE;iTURNED COMMAs;iCOMMAs;iREVERSED COMMAs;iCOMMAs t;iGRAVE ACCENTo;
     iACUTE ACCENTo;iv TACKo;it TACKo;iv ANGLEs;iHORN;iv HALF RINGo;iUP TACKo;iDOWN TACKo;iPLUSro;
     iMINUSro;iPALATALIZED HOOKo;iRETROFLEX HOOKo;iDOTo;iDIAERESISo;iRINGo;iCOMMAo;iCEDILLA;iOGONEK;
     iVERTICAL LINEo;iBRIDGEo;iINVERTED DOUBLE ARCHo;iCARONo;iCIRCUMFLEX ACCENTo;iBREVEo;
     iINVERTED BREVEo;iTILDEo;iMACRONo;iLOW LINE;iDOUBLE LOW LINE;iTILDE OVERLAY;
     iSHORT STROKE OVERLAY;iLONG STROKE OVERLAY;iSHORT SOLIDUS OVERLAY;iLONG SOLIDUS OVERLAY;
     it HALF RINGo;iINVERTED BRIDGEo;iSQUAREo;iSEAGULLo;iXs;iVERTICAL TILDE;iDOUBLE OVERLINE;
     iGRAVE TONE MARK;iACUTE TONE MARK;iGREEK PERISPOMENI;iGREEK KORONIS;iGREEK DIALYTIKA TONOS;
     iGREEK YPOGEGRAMMENI;iBRIDGEs;iEQUALSro;iDOUBLE VERTICAL LINEo;iv ANGLEo;iNOT TILDEs;
     iHOMOTHETICs;iALMOST EQUAL TOs;iv tzo;iUPWARDSzo;iGRAPHEME JOINER;itzHEADs;iv HALF RINGs;
     iFERMATA;iXo;ivzHEADo;itzHEADo;itzHEADyUPzHEADo;it HALF RINGs;iDOTs t;iASTERISKo;iDOUBLE RINGo;
     iZIGZAGs;iDOUBLE BREVEo;iDOUBLE BREVE;iDOUBLE MACRON;iDOUBLE MACRONo;iDOUBLE TILDE;
     iDOUBLE INVERTED BREVE;iDOUBLE tWARDSzo;ibA;ibE;ibI;ibO;ibU;ibC;ibD;ibH;ibM;ibR;ibT;ibV;ibX"),
    (0x0370, "eHETA;fHETA;eARCHAIC SAMPI;fARCHAIC SAMPI;GREEK NUMERALr;GREEK LOWER NUMERALr;
     ePAMPHYLIAN DIGAMMA;fPAMPHYLIAN DIGAMMA"),
    (0x037A, "GREEK YPOGEGRAMMENI;GREEK SMALL REVERSED LUNATE SIGMAk;
     GREEK SMALL DOTTED LUNATE SIGMAk;GREEK SMALL REVERSED DOTTED LUNATE SIGMAk;GREEK QUESTION MARK;
     eYOT"),
    (0x0384, "GREEK TONOS;GREEK DIALYTIKA TONOS;eALPHAwTONOS;GREEK ANO TELEIA;eEPSILONwTONOS;
     eETAwTONOS;eIOTAwTONOS"),
    (0x038C, "eOMICRONwTONOS"),
    (0x038E, "eUPSILONwTONOS;eOMEGAwTONOS;fIOTAwDIALYTIKAyTONOS;eALPHA;eBETA;eGAMMA;eDELTA;eEPSILON;
     eZETA;eETA;eTHETA;eIOTA;eKAPPA;eLAMDA;eMU;eNU;eXI;eOMICRON;ePI;eRHO"),
    (0x03A3, "eSIGMA;eTAU;eUPSILON;ePHI;eCHI;ePSI;eOMEGA;eIOTAwDIALYTIKA;eUPSILONwDIALYTIKA;
     fALPHAwTONOS;fEPSILONwTONOS;fETAwTONOS;fIOTAwTONOS;fUPSILONwDIALYTIKAyTONOS;fALPHA;fBETA;
     fGAMMA;fDELTA;fEPSILON;fZETA;fETA;fTHETA;fIOTA;fKAPPA;fLAMDA;fMU;fNU;fXI;fOMICRON;fPI;fRHO;
     fFu SIGMA;fSIGMA;fTAU;fUPSILON;fPHI;fCHI;fPSI;fOMEGA;fIOTAwDIALYTIKA;fUPSILONwDIALYTIKA;
     fOMICRONwTONOS;fUPSILONwTONOS;fOMEGAwTONOS;GREEK CAPITAL KAIk;GREEK BETAk;GREEK THETAk;
     GREEK UPSILONwHOOKk;GREEK UPSILONwACUTEyHOOKk;GREEK UPSILONwDIAERESISyHOOKk;GREEK PHIk;
     GREEK PIk;GREEK KAIk;GREEK LETTER ARCHAIC KOPPA;fARCHAIC KOPPA;GREEK LETTER STIGMA;fSTIGMA;
     GREEK LETTER DIGAMMA;fDIGAMMA;GREEK LETTER KOPPA;fKOPPA;GREEK LETTER SAMPI;fSAMPI;
     COPTIC CAPITAL LETTER SHEI;COPTIC SMALL LETTER SHEI;COPTIC CAPITAL LETTER FEI;
     COPTIC SMALL LETTER FEI;COPTIC CAPITAL LETTER KHEI;COPTIC SMALL LETTER KHEI;
     COPTIC CAPITAL LETTER HORI;COPTIC SMALL LETTER HORI;COPTIC CAPITAL LETTER GANGIA;
     COPTIC SMALL LETTER GANGIA;COPTIC CAPITAL LETTER SHIMA;COPTIC SMALL LETTER SHIMA;
     COPTIC CAPITAL LETTER DEI;COPTIC SMALL LETTER DEI;GREEK KAPPAk;GREEK RHOk;GREEK LUNATE SIGMAk;
     GREEK LETTER YOT;GREEK CAPITAL THETAk;GREEK LUNATE EPSILONk;GREEK REVERSED LUNATE EPSILONk;
     eSHO;fSHO;GREEK CAPITAL LUNATE SIGMAk;eSAN;fSAN;GREEK RHOwSTROKEk;
     GREEK CAPITAL REVERSED LUNATE SIGMAk;GREEK CAPITAL DOTTED LUNATE SIGMAk;
     GREEK CAPITAL REVERSED DOTTED LUNATE SIGMAk"),
    (0x0400, "cIEwGRAVE;cIO;cDJE;cGJE;cUKRAINIAN IE;cDZE;cBYELORUSSIAN-UKRAINIAN I;cYI;cJE;cLJE;
     cNJE;cTSHE;cKJE;cIwGRAVE;cSHORT U;cDZHE;cA;cBE;cVE;cGHE;cDE;cIE;cZHE;cZE;cI;cSHORT I;cKA;cEL;
     cEM;cEN;cO;cPE;cER;cES;cTE;cU;cEF;cHA;cTSE;cCHE;cSHA;cSHCHA;cHARDr;cYERU;cSOFTr;cE;cYU;cYA;dA;
     dBE;dVE;dGHE;dDE;dIE;dZHE;dZE;dI;dSHORT I;dKA;dEL;dEM;dEN;dO;dPE;dER;dES;dTE;dU;dEF;dHA;dTSE;
     dCHE;dSHA;dSHCHA;dHARDr;dYERU;dSOFTr;dE;dYU;dYA;dIEwGRAVE;dIO;dDJE;dGJE;dUKRAINIAN IE;dDZE;
     dBYELORUSSIAN-UKRAINIAN I;dYI;dJE;dLJE;dNJE;dTSHE;dKJE;dIwGRAVE;dSHORT U;dDZHE;cOMEGA;dOMEGA;
     cYAT;dYAT;cIOTIFIED E;dIOTIFIED E;cLITTLE YUS;dLITTLE YUS;cIOTIFIED LITTLE YUS;
     dIOTIFIED LITTLE YUS;cBIG YUS;dBIG YUS;cIOTIFIED BIG YUS;dIOTIFIED BIG YUS;cKSI;dKSI;cPSI;dPSI;
     cFITA;dFITA;cIZHITSA;dIZHITSA;cIZHITSAwDOUBLE GRAVE ACCENT;dIZHITSAwDOUBLE GRAVE ACCENT;cUK;
     dUK;cROUND OMEGA;dROUND OMEGA;cOMEGAwTITLO;dOMEGAwTITLO;cOT;dOT;cKOPPA;dKOPPA;
     CYRILLIC THOUSANDSr;iCYRILLIC TITLO;iCYRILLIC PALATALIZATION;iCYRILLIC DASIA PNEUMATA;
     iCYRILLIC PSILI PNEUMATA;iCYRILLIC POKRYTIE;iCYRILLIC HUNDRED THOUSANDSr;iCYRILLIC MILLIONSr;
     cSHORT IwTAIL;dSHORT IwTAIL;cSEMISOFTr;dSEMISOFTr;cERwTICK;dERwTICK;cGHEwUPTURN;dGHEwUPTURN;
     cGHEwSTROKE;dGHEwSTROKE;cGHEwMIDDLE HOOK;dGHEwMIDDLE HOOK;cZHEwDESCENDER;dZHEwDESCENDER;
     cZEwDESCENDER;dZEwDESCENDER;cKAwDESCENDER;dKAwDESCENDER;cKAwVERTICAL STROKE;
     dKAwVERTICAL STROKE;cKAwSTROKE;dKAwSTROKE;cBASHKIR KA;dBASHKIR KA;cENwDESCENDER;dENwDESCENDER;
     CYRILLIC CAPITAL LIGATURE EN GHE;CYRILLIC SMALL LIGATURE EN GHE;cPEwMIDDLE HOOK;
     dPEwMIDDLE HOOK;cABKHASIAN HA;dABKHASIAN HA;cESwDESCENDER;dESwDESCENDER;cTEwDESCENDER;
     dTEwDESCENDER;cSTRAIGHT U;dSTRAIGHT U;cSTRAIGHT UwSTROKE;dSTRAIGHT UwSTROKE;cHAwDESCENDER;
     dHAwDESCENDER;CYRILLIC CAPITAL LIGATURE TE TSE;CYRILLIC SMALL LIGATURE TE TSE;cCHEwDESCENDER;
     dCHEwDESCENDER;cCHEwVERTICAL STROKE;dCHEwVERTICAL STROKE;cSHHA;dSHHA;cABKHASIAN CHE;
     dABKHASIAN CHE;cABKHASIAN CHEwDESCENDER;dABKHASIAN CHEwDESCENDER;CYRILLIC LETTER PALOCHKA;
     cZHEwBREVE;dZHEwBREVE;cKAwHOOK;dKAwHOOK;cELwTAIL;dELwTAIL;cENwHOOK;dENwHOOK;cENwTAIL;dENwTAIL;
     cKHAKASSIAN CHE;dKHAKASSIAN CHE;cEMwTAIL;dEMwTAIL;dPALOCHKA;cAwBREVE;dAwBREVE;cAwDIAERESIS;
     dAwDIAERESIS;CYRILLIC CAPITAL LIGATURE A IE;CYRILLIC SMALL LIGATURE A IE;cIEwBREVE;dIEwBREVE;
     cSCHWA;dSCHWA;cSCHWAwDIAERESIS;dSCHWAwDIAERESIS;cZHEwDIAERESIS;dZHEwDIAERESIS;cZEwDIAERESIS;
     dZEwDIAERESIS;cABKHASIAN DZE;dABKHASIAN DZE;cIwMACRON;dIwMACRON;cIwDIAERESIS;dIwDIAERESIS;
     cOwDIAERESIS;dOwDIAERESIS;cBARRED O;dBARRED O;cBARRED OwDIAERESIS;dBARRED OwDIAERESIS;
     cEwDIAERESIS;dEwDIAERESIS;cUwMACRON;dUwMACRON;cUwDIAERESIS;dUwDIAERESIS;cUwDOUBLE ACUTE;
     dUwDOUBLE ACUTE;cCHEwDIAERESIS;dCHEwDIAERESIS;cGHEwDESCENDER;dGHEwDESCENDER;cYERUwDIAERESIS;
     dYERUwDIAERESIS;cGHEwSTROKEyHOOK;dGHEwSTROKEyHOOK;cHAwHOOK;dHAwHOOK;cHAwSTROKE;dHAwSTROKE"),
    (0x05D0, "HEBREW LETTER ALEF;HEBREW LETTER BET;HEBREW LETTER GIMEL;HEBREW LETTER DALET;
     HEBREW LETTER HE;HEBREW LETTER VAV;HEBREW LETTER ZAYIN;HEBREW LETTER HET;HEBREW LETTER TET;
     HEBREW LETTER YOD;HEBREW LETTER Fu KAF;HEBREW LETTER KAF;HEBREW LETTER LAMED;
     HEBREW LETTER Fu MEM;HEBREW LETTER MEM;HEBREW LETTER Fu NUN;HEBREW LETTER NUN;
     HEBREW LETTER SAMEKH;HEBREW LETTER AYIN;HEBREW LETTER Fu PE;HEBREW LETTER PE;
     HEBREW LETTER Fu TSADI;HEBREW LETTER TSADI;HEBREW LETTER QOF;HEBREW LETTER RESH;
     HEBREW LETTER SHIN;HEBREW LETTER TAV"),
    (0x1E00, "aAwRINGo;bAwRINGo;aBwDOTs;bBwDOTs;aBwDOTo;bBwDOTo;aBwLINEo;bBwLINEo;aCwCEDILLAyACUTE;
     bCwCEDILLAyACUTE;aDwDOTs;bDwDOTs;aDwDOTo;bDwDOTo;aDwLINEo;bDwLINEo;aDwCEDILLA;bDwCEDILLA;
     aDwCIRCUMFLEXo;bDwCIRCUMFLEXo;aEwMACRONyGRAVE;bEwMACRONyGRAVE;aEwMACRONyACUTE;bEwMACRONyACUTE;
     aEwCIRCUMFLEXo;bEwCIRCUMFLEXo;aEwTILDEo;bEwTILDEo;aEwCEDILLAyBREVE;bEwCEDILLAyBREVE;aFwDOTs;
     bFwDOTs;aGwMACRON;bGwMACRON;aHwDOTs;bHwDOTs;aHwDOTo;bHwDOTo;aHwDIAERESIS;bHwDIAERESIS;
     aHwCEDILLA;bHwCEDILLA;aHwBREVEo;bHwBREVEo;aIwTILDEo;bIwTILDEo;aIwDIAERESISyACUTE;
     bIwDIAERESISyACUTE;aKwACUTE;bKwACUTE;aKwDOTo;bKwDOTo;aKwLINEo;bKwLINEo;aLwDOTo;bLwDOTo;
     aLwDOToyMACRON;bLwDOToyMACRON;aLwLINEo;bLwLINEo;aLwCIRCUMFLEXo;bLwCIRCUMFLEXo;aMwACUTE;
     bMwACUTE;aMwDOTs;bMwDOTs;aMwDOTo;bMwDOTo;aNwDOTs;bNwDOTs;aNwDOTo;bNwDOTo;aNwLINEo;bNwLINEo;
     aNwCIRCUMFLEXo;bNwCIRCUMFLEXo;aOwTILDEyACUTE;bOwTILDEyACUTE;aOwTILDEyDIAERESIS;
     bOwTILDEyDIAERESIS;aOwMACRONyGRAVE;bOwMACRONyGRAVE;aOwMACRONyACUTE;bOwMACRONyACUTE;aPwACUTE;
     bPwACUTE;aPwDOTs;bPwDOTs;aRwDOTs;bRwDOTs;aRwDOTo;bRwDOTo;aRwDOToyMACRON;bRwDOToyMACRON;
     aRwLINEo;bRwLINEo;aSwDOTs;bSwDOTs;aSwDOTo;bSwDOTo;aSwACUTEyDOTs;bSwACUTEyDOTs;aSwCARONyDOTs;
     bSwCARONyDOTs;aSwDOToyDOTs;bSwDOToyDOTs;aTwDOTs;bTwDOTs;aTwDOTo;bTwDOTo;aTwLINEo;bTwLINEo;
     aTwCIRCUMFLEXo;bTwCIRCUMFLEXo;aUwDIAERESISo;bUwDIAERESISo;aUwTILDEo;bUwTILDEo;aUwCIRCUMFLEXo;
     bUwCIRCUMFLEXo;aUwTILDEyACUTE;bUwTILDEyACUTE;aUwMACRONyDIAERESIS;bUwMACRONyDIAERESIS;aVwTILDE;
     bVwTILDE;aVwDOTo;bVwDOTo;aWwGRAVE;bWwGRAVE;aWwACUTE;bWwACUTE;aWwDIAERESIS;bWwDIAERESIS;aWwDOTs;
     bWwDOTs;aWwDOTo;bWwDOTo;aXwDOTs;bXwDOTs;aXwDIAERESIS;bXwDIAERESIS;aYwDOTs;bYwDOTs;
     aZwCIRCUMFLEX;bZwCIRCUMFLEX;aZwDOTo;bZwDOTo;aZwLINEo;bZwLINEo;bHwLINEo;bTwDIAERESIS;bWwRINGs;
     bYwRINGs;bAwt HALF RING;bLONG SwDOTs;bLONG SwDIAGONAL STROKE;bLONG SwHIGH STROKE;aSHARP S;
     bDELTA;aAwDOTo;bAwDOTo;aAwHOOKs;bAwHOOKs;aAwCIRCUMFLEXyACUTE;bAwCIRCUMFLEXyACUTE;
     aAwCIRCUMFLEXyGRAVE;bAwCIRCUMFLEXyGRAVE;aAwCIRCUMFLEXyHOOKs;bAwCIRCUMFLEXyHOOKs;
     aAwCIRCUMFLEXyTILDE;bAwCIRCUMFLEXyTILDE;aAwCIRCUMFLEXyDOTo;bAwCIRCUMFLEXyDOTo;aAwBREVEyACUTE;
     bAwBREVEyACUTE;aAwBREVEyGRAVE;bAwBREVEyGRAVE;aAwBREVEyHOOKs;bAwBREVEyHOOKs;aAwBREVEyTILDE;
     bAwBREVEyTILDE;aAwBREVEyDOTo;bAwBREVEyDOTo;aEwDOTo;bEwDOTo;aEwHOOKs;bEwHOOKs;aEwTILDE;bEwTILDE;
     aEwCIRCUMFLEXyACUTE;bEwCIRCUMFLEXyACUTE;aEwCIRCUMFLEXyGRAVE;bEwCIRCUMFLEXyGRAVE;
     aEwCIRCUMFLEXyHOOKs;bEwCIRCUMFLEXyHOOKs;aEwCIRCUMFLEXyTILDE;bEwCIRCUMFLEXyTILDE;
     aEwCIRCUMFLEXyDOTo;bEwCIRCUMFLEXyDOTo;aIwHOOKs;bIwHOOKs;aIwDOTo;bIwDOTo;aOwDOTo;bOwDOTo;
     aOwHOOKs;bOwHOOKs;aOwCIRCUMFLEXyACUTE;bOwCIRCUMFLEXyACUTE;aOwCIRCUMFLEXyGRAVE;
     bOwCIRCUMFLEXyGRAVE;aOwCIRCUMFLEXyHOOKs;bOwCIRCUMFLEXyHOOKs;aOwCIRCUMFLEXyTILDE;
     bOwCIRCUMFLEXyTILDE;aOwCIRCUMFLEXyDOTo;bOwCIRCUMFLEXyDOTo;aOwHORNyACUTE;bOwHORNyACUTE;
     aOwHORNyGRAVE;bOwHORNyGRAVE;aOwHORNyHOOKs;bOwHORNyHOOKs;aOwHORNyTILDE;bOwHORNyTILDE;
     aOwHORNyDOTo;bOwHORNyDOTo;aUwDOTo;bUwDOTo;aUwHOOKs;bUwHOOKs;aUwHORNyACUTE;bUwHORNyACUTE;
     aUwHORNyGRAVE;bUwHORNyGRAVE;aUwHORNyHOOKs;bUwHORNyHOOKs;aUwHORNyTILDE;bUwHORNyTILDE;
     aUwHORNyDOTo;bUwHORNyDOTo;aYwGRAVE;bYwGRAVE;aYwDOTo;bYwDOTo;aYwHOOKs;bYwHOOKs;aYwTILDE;
     bYwTILDE;aMIDDLE-WELSH LL;bMIDDLE-WELSH LL;aMIDDLE-WELSH V;bMIDDLE-WELSH V;aYwLOOP;bYwLOOP"),
    (0x3000, "IDEOGRAPHIC SPACE;IDEOGRAPHIC COMMA;IDEOGRAPHIC FULL STOP;DITTO MARK;
     JAPANESE INDUSTRIAL STANDARDk;IDEOGRAPHIC ITERATION MARK;IDEOGRAPHIC CLOSING MARK;
     IDEOGRAPHIC NUMBER ZERO;v ANGLE BRACKET;t ANGLE BRACKET;v DOUBLE ANGLE BRACKET;
     t DOUBLE ANGLE BRACKET;v CORNER BRACKET;t CORNER BRACKET;v nCORNER BRACKET;t nCORNER BRACKET;
     v lLENTICULAR BRACKET;t lLENTICULAR BRACKET;POSTAL MARK;GETA MARK;v TORTOISE SHELL BRACKET;
     t TORTOISE SHELL BRACKET;v nLENTICULAR BRACKET;t nLENTICULAR BRACKET;v nTORTOISE SHELL BRACKET;
     t nTORTOISE SHELL BRACKET;v nSQUARE BRACKET;t nSQUARE BRACKET;WAVE DASH;
     REVERSED DOUBLE PRIME QUOTATION MARK;DOUBLE PRIME QUOTATION MARK;
     LOW DOUBLE PRIME QUOTATION MARK;POSTAL MARK FACE;HANGZHOU NUMERAL ONE;HANGZHOU NUMERAL TWO;
     HANGZHOU NUMERAL THREE;HANGZHOU NUMERAL FOUR;HANGZHOU NUMERAL FIVE;HANGZHOU NUMERAL SIX;
     HANGZHOU NUMERAL SEVEN;HANGZHOU NUMERAL EIGHT;HANGZHOU NUMERAL NINE;
     IDEOGRAPHIC LEVEL TONE MARK;IDEOGRAPHIC RISING TONE MARK;IDEOGRAPHIC DEPARTING TONE MARK;
     IDEOGRAPHIC ENTERING TONE MARK;HANGUL SINGLE DOT TONE MARK;HANGUL DOUBLE DOT TONE MARK;
     WAVY DASH;VERTICAL KANA REPEAT MARK;VERTICAL KANA REPEATwVOICED SOUND MARK;
     VERTICAL KANA REPEAT MARK UPPER HALF;VERTICAL KANA REPEATwVOICED SOUND MARK UPPER HALF;
     VERTICAL KANA REPEAT MARK LOWER HALF;jPOSTAL MARK;IDEOGRAPHIC TELEGRAPH LINE FEED SEPARATORk;
     HANGZHOU NUMERAL TEN;HANGZHOU NUMERAL TWENTY;HANGZHOU NUMERAL THIRTY;
     VERTICAL IDEOGRAPHIC ITERATION MARK;MASU MARK;PART ALTERNATION MARK;
     IDEOGRAPHIC VARIATION INDICATOR;IDEOGRAPHIC HALF FILL SPACE"),
    (0x3041, "hSMALL A;hA;hSMALL I;hI;hSMALL U;hU;hSMALL E;hE;hSMALL O;hO;hKA;hGA;hKI;hGI;hKU;hGU;
     hKE;hGE;hKO;hGO;hSA;hZA;hSI;hZI;hSU;hZU;hSE;hZE;hSO;hZO;hTA;hDA;hTI;hDI;hSMALL TU;hTU;hDU;hTE;
     hDE;hTO;hDO;hNA;hNI;hNU;hNE;hNO;hHA;hBA;hPA;hHI;hBI;hPI;hHU;hBU;hPU;hHE;hBE;hPE;hHO;hBO;hPO;
     hMA;hMI;hMU;hME;hMO;hSMALL YA;hYA;hSMALL YU;hYU;hSMALL YO;hYO;hRA;hRI;hRU;hRE;hRO;hSMALL WA;
     hWA;hWI;hWE;hWO;hN;hVU;hSMALL KA;hSMALL KE"),
    (0x3099, "iKATAKANA-HIRAGANA VOICED SOUND MARK;iKATAKANA-HIRAGANA SEMI-VOICED SOUND MARK;
     KATAKANA-HIRAGANA VOICED SOUND MARK;KATAKANA-HIRAGANA SEMI-VOICED SOUND MARK;
     HIRAGANA ITERATION MARK;HIRAGANA VOICED ITERATION MARK;HIRAGANA DIGRAPH YORI;
     KATAKANA-HIRAGANA DOUBLE HYPHEN;gSMALL A;gA;gSMALL I;gI;gSMALL U;gU;gSMALL E;gE;gSMALL O;gO;
     gKA;gGA;gKI;gGI;gKU;gGU;gKE;gGE;gKO;gGO;gSA;gZA;gSI;gZI;gSU;gZU;gSE;gZE;gSO;gZO;gTA;gDA;gTI;
     gDI;gSMALL TU;gTU;gDU;gTE;gDE;gTO;gDO;gNA;gNI;gNU;gNE;gNO;gHA;gBA;gPA;gHI;gBI;gPI;gHU;gBU;gPU;
     gHE;gBE;gPE;gHO;gBO;gPO;gMA;gMI;gMU;gME;gMO;gSMALL YA;gYA;gSMALL YU;gYU;gSMALL YO;gYO;gRA;gRI;
     gRU;gRE;gRO;gSMALL WA;gWA;gWI;gWE;gWO;gN;gVU;gSMALL KA;gSMALL KE;gVA;gVI;gVE;gVO;
     KATAKANA MIDDLE DOT;KATAKANA-HIRAGANA PROLONGED SOUND MARK;KATAKANA ITERATION MARK;
     KATAKANA VOICED ITERATION MARK;KATAKANA DIGRAPH KOTO"),
    (0xFB00, "LATIN SMALL LIGATURE FF;LATIN SMALL LIGATURE FI;LATIN SMALL LIGATURE FL;
     LATIN SMALL LIGATURE FFI;LATIN SMALL LIGATURE FFL;LATIN SMALL LIGATURE LONG S T;
     LATIN SMALL LIGATURE ST"),
    (0xFE00, "VARIATION SELECTOR-1;VARIATION SELECTOR-2;VARIATION SELECTOR-3;VARIATION SELECTOR-4;
     VARIATION SELECTOR-5;VARIATION SELECTOR-6;VARIATION SELECTOR-7;VARIATION SELECTOR-8;
     VARIATION SELECTOR-9;VARIATION SELECTOR-10;VARIATION SELECTOR-11;VARIATION SELECTOR-12;
     VARIATION SELECTOR-13;VARIATION SELECTOR-14;VARIATION SELECTOR-15;VARIATION SELECTOR-16"),
    (0xFEFF, "ZERO WIDTH NO-BREAK SPACE"),
    (0xFF01, "FULLWIDTH EXCLAMATION MARK;FULLWIDTH QUOTATION MARK;FULLWIDTH NUMBERr;
     FULLWIDTH DOLLARr;FULLWIDTH PERCENTr;FULLWIDTH AMPERSAND;FULLWIDTH APOSTROPHE;
     FULLWIDTH v PARENTHESIS;FULLWIDTH t PARENTHESIS;FULLWIDTH ASTERISK;FULLWIDTH PLUSr;
     FULLWIDTH COMMA;FULLWIDTH HYPHEN-MINUS;FULLWIDTH FULL STOP;FULLWIDTH SOLIDUS;
     FULLWIDTH DIGIT ZERO;FULLWIDTH DIGIT ONE;FULLWIDTH DIGIT TWO;FULLWIDTH DIGIT THREE;
     FULLWIDTH DIGIT FOUR;FULLWIDTH DIGIT FIVE;FULLWIDTH DIGIT SIX;FULLWIDTH DIGIT SEVEN;
     FULLWIDTH DIGIT EIGHT;FULLWIDTH DIGIT NINE;FULLWIDTH COLON;FULLWIDTH SEMICOLON;
     FULLWIDTH LESS-THANr;FULLWIDTH EQUALSr;FULLWIDTH GREATER-THANr;FULLWIDTH QUESTION MARK;
     FULLWIDTH COMMERCIAL AT;FULLWIDTH aA;FULLWIDTH aB;FULLWIDTH aC;FULLWIDTH aD;FULLWIDTH aE;
     FULLWIDTH aF;FULLWIDTH aG;FULLWIDTH aH;FULLWIDTH aI;FULLWIDTH aJ;FULLWIDTH aK;FULLWIDTH aL;
     FULLWIDTH aM;FULLWIDTH aN;FULLWIDTH aO;FULLWIDTH aP;FULLWIDTH aQ;FULLWIDTH aR;FULLWIDTH aS;
     FULLWIDTH aT;FULLWIDTH aU;FULLWIDTH aV;FULLWIDTH aW;FULLWIDTH aX;FULLWIDTH aY;FULLWIDTH aZ;
     FULLWIDTH v SQUARE BRACKET;FULLWIDTH REVERSE SOLIDUS;FULLWIDTH t SQUARE BRACKET;
     FULLWIDTH CIRCUMFLEX ACCENT;FULLWIDTH LOW LINE;FULLWIDTH GRAVE ACCENT;FULLWIDTH bA;
     FULLWIDTH bB;FULLWIDTH bC;FULLWIDTH bD;FULLWIDTH bE;FULLWIDTH bF;FULLWIDTH bG;FULLWIDTH bH;
     FULLWIDTH bI;FULLWIDTH bJ;FULLWIDTH bK;FULLWIDTH bL;FULLWIDTH bM;FULLWIDTH bN;FULLWIDTH bO;
     FULLWIDTH bP;FULLWIDTH bQ;FULLWIDTH bR;FULLWIDTH bS;FULLWIDTH bT;FULLWIDTH bU;FULLWIDTH bV;
     FULLWIDTH bW;FULLWIDTH bX;FULLWIDTH bY;FULLWIDTH bZ;FULLWIDTH v CURLY BRACKET;
     FULLWIDTH VERTICAL LINE;FULLWIDTH t CURLY BRACKET;FULLWIDTH TILDE"),
    (0xFFF9, "INTERLINEAR ANNOTATION ANCHOR;INTERLINEAR ANNOTATION SEPARATOR;
     INTERLINEAR ANNOTATION TERMINATOR;OBJECT REPLACEMENT CHARACTER;REPLACEMENT CHARACTER")]

end Docent.Text.NameTable
