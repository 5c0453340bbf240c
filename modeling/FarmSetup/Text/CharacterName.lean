import FarmSetup.Text.Ranges
/-!
Unicode character names, as of Unicode 14, with the name aliases; a named sequence is no name of
a character. ASCII letters of a name may be written in either case, except where a family rule
below says otherwise.

Two families are made by rule. `CJK UNIFIED IDEOGRAPH-`, in upper case only, is followed by four
or five upper-case hexadecimal digits of a unified ideograph; these names are not listed, so the
prefix in any other case names nothing. `HANGUL SYLLABLE ` (in either case)
is followed by the upper-case short names of a leading consonant, a vowel and a trailing
consonant, each the longest that fits, where the leading and the trailing one may be empty.
Three more families name a character by its code in hexadecimal, with at least four digits:
the compatibility ideographs, the Khitan small script characters and the Nüshu characters.

The other names are listed in sorted order. Each entry is the length of the part it shares with
the name before it, in base 26 with the letters `a` to `z`, followed by the rest of the name,
which holds only upper-case letters, digits, spaces and hyphens.
-/

namespace FarmSetup

namespace CharacterName

/-- The listed names, in chunks. -/
def chunks : Array String := #[
  "aABACUSbC CURRENTcCORDIONeUNT OFcKdNOWLEDGEcTIVATE ARABIC FORM SHAPINGjSYMMETRIC SWAPPIN",
  "GcUTE ACCENThNGLEbDDRESSED TO THE SUBJECTcHESIVE BANDAGEcI SHAKTIcLAM ALIF LENGTHENERgCA",
  "PITAL LETTER ALIFvBAwHEvCHIvDAALIwHAvEvFAvGAwBEvHAvIvJIIMvKAFwHAwPOvLAAMvMIIMvNHAwUNwYAv",
  "OvPEvQAAFvRAvSHAwINNYIIYHEvTUvUvVAvWAWvYAwHEvZALhONSONANT MODIFIERgDIGIT EIGHTmFIVEnOURm",
  "NINEmONEmSEVENnIXmTHREEnWOmZEROgGEMINATE CONSONANT MODIFIERnION MARKgHAMZAgINITIAL EXCLA",
  "MATION MARKoQUESTION MARKgNASALIZATION MARKhUKTAgSMALL LETTER ALIFtBAuHEtCHItDAALIuHAtEt",
  "FAtGAuBEtHAtItJIIMtKAFuHAuPOtLAAMtMIIMtNHAuUNuYAtOtPEtQAAFtRAtSHAuINNYIIYHEtTUtUtVAtWAWt",
  "YAuHEtZALgVOWEL LENGTHENERcMETOSdISSION TICKETScULTbEGEAN CHECK MARKhDRY MEASURE FIRST S",
  "UBUNIThLIQUID MEASURE FIRST SUBUNIThMEASURE SECOND SUBUNITpTHIRD SUBUNIThNUMBER EIGHTt H",
  "UNDREDuTHOUSANDtYu THOUSANDoFIFTYt THOUSANDqVEs HUNDREDtTHOUSANDpORTYt THOUSANDqURs HUND",
  "REDtTHOUSANDoNINEs HUNDREDtTHOUSANDsTYu THOUSANDoONEr HUNDREDsTHOUSANDoSEVENt HUNDREDuTH",
  "OUSANDtTYv THOUSANDpIXr HUNDREDsTHOUSANDrTYt THOUSANDoTENr THOUSANDpHIRTYu THOUSANDqREEt",
  " HUNDREDuTHOUSANDpWENTYu THOUSANDqOr HUNDREDsTHOUSANDhWEIGHT BASE UNIToFIRST SUBUNITpOUR",
  "TH SUBUNIToSECOND SUBUNIToTHIRD SUBUNITiORD SEPARATOR DOTwLINEcRIAL TRAMWAYbFGHANI SIGNb",
  "HOM CONSONANT SIGN MEDIAL LAbcIGATING RAbbRAfDIGIT EIGHTlFIVEmOURlNINElONElSEVENmIXlTHRE",
  "EmWOlZEROfLETTER AnLTERNATE BAwGAwTAmBAnHAmCAnHAmDAnDAoHAnHAmGAnHAmHAmJAnHAmKAnHAmLAnLAm",
  "MAmNAnGAnNAnYAmPAnHAmRAmSAmTAnHAnTAoHAfNUMBER TENnWENTYfSIGN KILLERkRULAIkSECTIONlMALL S",
  "ECTIONgYMBOL VIfVOWEL SIGN ArArIrMrWqEqIrIqOqUrUbIRPLANEi ARRIVINGjDEPARTUREbKTIESELSKAB",
  "bLARM CLOCKcCHEMICAL SYMBOL FOR AIRxLEMBICyKALIbc-2yUMxMALGAMxNTIMONY ORExQUA REGIAbg-2b",
  "bVITAEbg-2baFORTISxRSENICxSHESxURIPIGMENTwBATH OF MARYbeVAPOURSxISMUTH ORExLACK SULFURxO",
  "RAXbb-2bc3xRICKwCADUCEUSyLXyPUT MORTUUMxINNABARxOPPER ANTIMONIATEbdORExROCUS OF COPPERbm",
  "-2bgIRONyUCIBLEbe-2bf3bf4bf5wDAY-NIGHTxISSOLVEbe-2zTILLwEARTHwFIREwGOLDxUMwHALF DRAMbbOU",
  "NCExORSE DUNGyURwIRON OREbe-2ba-COPPER OREwLEAD ORExODESTONEwMARCASITExERCURY SUBLIMATEb",
  "n-2bo3xONTHwNIGHTyTREwOILwPHILOSOPHERS SULFURxOT ASHESyWDERbcED BRICKxRECIPITATExURIFYyT",
  "REFACTIONwQUICK LIMEzNTESSENCEwREALGARbd-2yGULUSbd OF ANTIMONYbp-2bhIRONbd-2be3be4yTORTx",
  "OCK SALTbf-2wSAL-AMMONIACzTba OF ANTIMONYbeCOPPER ANTIMONIATExCEPTER OF JOVExILVERxOAPxP",
  "IRITxTARRED TRIDENTyRATUM SUPER STRATUMbr-2xUBLIMATE OF ANTIMONYbjCOPPERbjSALT OF ANTIMO",
  "NYbrCOPPERbeIONyLFURwTARTARbc-2xIN OREzCTURExRIDENTxUTTYwURINEwVERDIGRISxINEGARbd OF ANT",
  "IMONYbd-2be3yTRIOLbd-2wWATERyXcEF SYMBOLdMBICdRTcIEN MONSTERcL AROUND-PROFILEeEQUAL TOcM",
  "dOST EQUAL OR EQUAL TOnTOp WITH CIRCUMFLEX ACCENTcTERNATE ONE-WAY LEFT WAY TRAFFICiIVE K",
  "EY SYMBOLbMALGAMATION OR COPRODUCTcBULANCEcERICAN FOOTBALLcPERSANDdHORAbNATOLIAN HIEROGL",
  "YPH A001y2y3y4y5y6y7y8y9x10zAy1y2y3y4y5y6y7y8y9x20y1y2y3y4y5y6zAy7y8y9x30y1y2y3y4y5y6y7y",
  "8y9zAx40y1zAy2y3y4y5zAy6zAzBy7y8y9x50y1y2y3y4y5y6y7y8y9x60y1y2y3y4y5y6zAzBzCy7y8y9x70y1y",
  "2y3y4y5y6y7y8y9x80y1y2y3y4y5y6y7y8y9x90y1y2y3y4y5y6y7zAy8zAy9w100zAy1zAy2zAy3y4zAzBzCy5z",
  "AzBy6y7zAzBzCy8y9x10zAzBy1y2y3y4y5zAy6y7y8y9x20y1y2y3y4y5zAy6y7y8y9x30y1y2y3y4y5zAy6y7y8",
  "y9x40y1y2y3y4y5y6y7y8y9x50y1y2y3y4y5y6y7y8y9x60y1y2y3y4y5y6y7y8y9x70y1y2y3y4y5y6y7y8y9x8",
  "0y1y2y3y4y5y6y7y8y9x90y1y2y3y4y5y6y7y8y9w200y1y2zAzBy3y4y5y6y7zAy8y9zAx10y1y2y3y4y5zAy6z",
  "Ay7y8y9x20y1y2y3y4y5y6y7zAy8y9x30y1y2y3y4y5y6y7y8y9x40y1y2y3y4y5y6y7y8y9x50y1y2y3y4y5y6y",
  "7y8y9x60y1y2y3y4y5y6y7zAy8y9x70y1y2y3y4y5y6y7y8y9x80y1y2y3y4y5y6y7y8y9zAx90y1y2y3y4zAy5y",
  "6y7y8y9zAw300y1y2y3y4y5y6y7y8y9zAx10y1y2y3y4y5y6y7y8y9x20y1y2y3y4y5y6y7y8y9zAx30y1y2AzBz",
  "Cy3y4y5y6zAzBzCy7y8y9x40y1y2y3y4y5y6y7y8y9x50y1y2y3y4y5y6y7y8y9zAx60y1y2y3y4zAy5y6y7y8zA",
  "y9x70y1zAy2y3y4y5y6y7y8y9x80y1zAy2y3 RA OR RIzAy4y5y6zAy7y8y9x90y1y2y3 EIGHTy4y5y6y7y8y9",
  "w400y1y2y3y4y5y6y7y8y9x10 BEGIN LOGOGRAM MARKzA END LOGOGRAM MARKy1y2y3y4y5y6y7y8y9x20y1",
  "y2y3y4y5y6y7y8y9x30y1y2y3y4y5y6y7y8y9x40y1y2y3y4y5y6y7y8y9x50zAy1y2y3y4y5y6y7zAy8y9x60y1",
  "y2y3y4y5y6y7y8y9x70y1y2y3y4y5y6y7y8y9x80y1y2y3y4y5y6y7y8y9x90y1y2y3y4y5y6y7w501y2y3y4y5y",
  "6y7y8y9x10y1y2y3y4y5y6y7y8y9x20y1y2y3y4y5y6y7y8y9x30fMICAL HEARTcCHORcD WITH DOTcGER SYM",
  "BOLdLEf WITH S INSIDElUNDERBARdRY FACEdSTROM SIGNdUISHED FACEcKHcTdENNA WITH BARSdICLOCK",
  "WISE CLOSED CIRCLE ARROWpONTOUR INTEGRALoDOWNWARDS AND UPWARDS OPEN CIRCLE ARROWSoGAPPED",
  " CIRCLE ARROWoINTEGRATIONoOPEN CIRCLE ARROWoTOP SEMICIRCLE ARROWpRIANGLE-HEADED BOTTOM U",
  "-SHAPED ARROWbeLEFT U-SHAPED ARROWbeOPEN CIRCLE ARROWbeRIGHT U-SHAPED ARROWbeTOP U-SHAPE",
  "D ARROWbPCcL FUNCTIONAL SYMBOL ALPHAbb UNDERBARwBACKSLASH BARwCIRCLE BACKSLASHbdDIAERESI",
  "SbdJOTbdSTARbfILEbdUNDERBARxOMMA BARwDEL DIAERESISbaSTILEbaTILDEzTA STILEbcUNDERBARxIAMO",
  "ND UNDERBARxOWN CARET TILDEbbSHOE STILEbbTACK JOTbgUNDERBARbaWARDS VANEwEPSILON UNDERBAR",
  "wGREATER-THAN DIAERESISwI-BEAMxOTAba UNDERBARwJOT DIAERESISbaUNDERBARwLEFT SHOE STILEbaW",
  "ARDS VANEwOMEGAbb UNDERBARwQUADba BACKSLASHbbCIRCLEbcOLONbbDELbeTAbcIAMONDbdVIDEbcOWN CA",
  "RETbfWARDS ARROWbbEQUALbbGREATER-THANbbJOTbbLEFTWARDS ARROWbdSS-THANbbNOT EQUALbbQUESTIO",
  "NbbRIGHTWARDS ARROWbbSLASHbbUP CARETbdWARDS ARROWyOTE QUADbcUNDERBARwRHOxIGHTWARDS VANEw",
  "SEMICOLON UNDERBARxLASH BARxQUISH QUADxTAR DIAERESISyILE TILDEwTILDE DIAERESISwUP CARET ",
  "TILDEzSHOE JOTzTACK DIAERESISbeJOTbeOVERBARyWARDS VANEwZILDEcOLLONdSTROPHEcPLICATION PRO",
  "GRAM COMMANDdROACHES THE LIMITfXIMATELY BUT NOT ACTUALLY EQUAL TOoEQUAL OR EQUAL TOuTOw ",
  "OR THE IMAGE OFbQUARIUSbRABIC BASELINE ROUND DOThCOMMAiURLY DAMMAsTANnFATHAsTANnKASRAsTA",
  "NhDAMMAm ISOLATED FORMnMEDIAL FORMnWITH DOTmTANp ISOLATED FORMjTE SEPARATORiECIMAL SEPAR",
  "ATORiISPUTED END OF AYAHiOUBLE RIGHT ARROWHEAD ABOVEbj WITH DOTnD MADDAhEMPTY CENTRE HIG",
  "H STOPuLOW STOPiND OF AYAHoTEXT MARKhFATHAm ISOLATED FORMnMEDIAL FORMnWITH DOT ABOVEsRIN",
  "GsTWO DOTSmTANp ISOLATED FORMiIVE POINTED STARiOOTNOTE MARKERiULL STOPhHALF MADDA OVER M",
  "ADDAjMZA ABOVEnBELOWhINVERTED DAMMAhKASRAm ISOLATED FORMnMEDIAL FORMnWITH DOT BELOWmTANp",
  " ISOLATED FORMhLARGE CIRCLE BELOWnROUND DOT ABOVExBELOWxINSIDE CIRCLE BELOWiEFT ARROWHEA",
  "D ABOVEwBELOWjTTER AEpFRICAN FEHwNOONwQAFz WITH THREE DOTS ABOVEpINr FINAL FORMsINITIAL ",
  "FORMtSOLATED FORMsMEDIAL FORMsWITH THREE DOTS ABOVEbiBELOWbiPOINTING DOWNWARDS ABOVEyWO ",
  "DOTS ABOVEbgVERTICALLY ABOVEpLEFs FINAL FORMtISOLATED FORMtMAKSURAba FINAL FORMbbISOLATE",
  "D FORMtWASLAy FINAL FORMzISOLATED FORMuITH ATTACHED BOTTOM RIGHT KASRAbz AND DOT ABOVEce",
  "LEFT RINGbhFATHAbhKASRAbhLEFT HAMZAbmROUND DOTbhRIGHT HAMZAbnROUND DOTbiOUND DOT ABOVEbr",
  "BELOWbhTOP RIGHT FATHAbw AND DOT ABOVEcbLEFT RINGyDOT ABOVEyEXTENDED ARABIC-INDIC DIGIT ",
  "THREE ABOVEcbWO ABOVEyHAMZA ABOVEbj FINAL FORMbkISOLATED FORMbeBELOWbj FINAL FORMbkISOLA",
  "TED FORMyLEFT MIDDLE STROKEyMADDA ABOVEbj FINAL FORMbkISOLATED FORMyRIGHT MIDDLE STROKEb",
  "r AND DOT ABOVEbwLEFT RINGyWAVY HAMZA ABOVEbjBELOWoBEEHs FINAL FORMtINITIAL FORMuSOLATED",
  " FORMtMEDIAL FORMqHr FINAL FORMsINITIAL FORMtSOLATED FORMsMEDIAL FORMsWITH DOT BELOW AND",
  " THREE DOTS ABOVExHAMZA ABOVExINVERTED SMALL V BELOWxSMALL MEEM ABOVEbdVbe BELOWxTHREE D",
  "OTS HORIZONTALLY BELOWbiPOINTING UPWARDS BELOWce AND TWO DOTS ABOVEyWO DOTS BELOW AND DO",
  "T ABOVErEHt FINAL FORMuINITIAL FORMvSOLATED FORMuMEDIAL FORMoDADr FINAL FORMsINITIAL FOR",
  "MtSOLATED FORMsMEDIAL FORMsWITH DOT BELOWqHALt FINAL FORMuISOLATED FORMqLr FINAL FORMsIS",
  "OLATED FORMsWITH DOT BELOWbg AND SMALL TAHxFOUR DOTS ABOVExINVERTED SMALL V BELOWbgVxRIN",
  "GxTHREE DOTS ABOVE DOWNWARDSbiBELOWyWO DOTS VERTICALLY BELOW AND SMALL TAHpDAHALu FINAL ",
  "FORMvISOLATED FORMrLs FINAL FORMtISOLATED FORMpOTLESS BEHwFEHwQAFpULr FINAL FORMsISOLATE",
  "D FORMpYEHs FINAL FORMtINITIAL FORMuSOLATED FORMtMEDIAL FORMoEp FINAL FORMqINITIAL FORMr",
  "SOLATED FORMqMEDIAL FORMoFARSI YEHx FINAL FORMyINITIAL FORMzSOLATED FORMyMEDIAL FORMyWIT",
  "H EXTENDED ARABIC-INDIC DIGIT FOUR BELOWcfTHREE ABOVEcgWO ABOVEbdINVERTED VbdTHREE DOTS ",
  "ABOVEbeWO DOTS ABOVEpEHr FINAL FORMsINITIAL FORMtSOLATED FORMsMEDIAL FORMsWITH DOT BELOW",
  "bg AND THREE DOTS ABOVEbbMOVED BELOWxTHREE DOTS BELOWbiPOINTING UPWARDS BELOWyWO DOTS BE",
  "LOWoGAFr FINAL FORMsINITIAL FORMtSOLATED FORMsMEDIAL FORMsWITH INVERTED STROKExRINGxTHRE",
  "E DOTS ABOVEyWO DOTS BELOWpHAINt FINAL FORMuINITIAL FORMvSOLATED FORMuMEDIAL FORMuWITH D",
  "OT BELOWzTHREE DOTS ABOVEpRAFpUEHs FINAL FORMtINITIAL FORMuSOLATED FORMtMEDIAL FORMoHAHr",
  " FINAL FORMsINITIAL FORMtSOLATED FORMsMEDIAL FORMsWITH EXTENDED ARABIC-INDIC DIGIT FOUR ",
  "BELOWxHAMZA ABOVExINVERTED SMALL V BELOWxSMALL ARABIC LETTER TAH ABOVEbwND TWO DOTSbvBEL",
  "OWxTHREE DOTS ABOVEbiPOINTING UPWARDS BELOWyWO DOTS ABOVEbgVERTICAL ABOVEqMZAt ISOLATED ",
  "FORMpEHr DOACHASHMEEbd FINAL FORMbeINITIAL FORMbfSOLATED FORMbeMEDIAL FORMsFINAL FORMsGO",
  "ALw FINAL FORMxINITIAL FORMySOLATED FORMxMEDIAL FORMxWITH HAMZA ABOVEsINITIAL FORMtSOLAT",
  "ED FORMsMEDIAL FORMsWITH INVERTED VxYEH ABOVEbg FINAL FORMbhISOLATED FORMpIGH HAMZAy ALE",
  "FzWAWzYEHoJEEMs FINAL FORMtINITIAL FORMuSOLATED FORMtMEDIAL FORMtWITH THREE DOTS ABOVEbj",
  "BELOWzWO DOTS ABOVEqHr FINAL FORMsISOLATED FORMoKAFr FINAL FORMsINITIAL FORMtSOLATED FOR",
  "MsMEDIAL FORMsWITH DOT ABOVEbbBELOWxRINGxTHREE DOTS BELOWyWO DOTS ABOVEqSHMIRI YEHpEHEHt",
  " FINAL FORMuINITIAL FORMvSOLATED FORMuMEDIAL FORMuWITH DOT ABOVEzSMALL VzTHREE DOTS ABOV",
  "EbkBELOWbkPOINTING UPWARDS BELOWbaWO DOTS ABOVEbiVERTICALLY BELOWpHAHs FINAL FORMtINITIA",
  "L FORMuSOLATED FORMtMEDIAL FORMpIRGHIZ OEy FINAL FORMzISOLATED FORMwYUy FINAL FORMzISOLA",
  "TED FORMoLAMr FINAL FORMsINITIAL FORMtSOLATED FORMsMEDIAL FORMsWITH BARxDOT ABOVEzUBLE B",
  "ARxSMALL ARABIC LETTER TAH ABOVEbdVxTHREE DOTS ABOVEbiBELOWpOW ALEFoMARKpEEMs FINAL FORM",
  "tINITIAL FORMuSOLATED FORMtMEDIAL FORMtWITH DOT ABOVEbcBELOWyTHREE DOTS ABOVEoNGq FINAL ",
  "FORMrINITIAL FORMsSOLATED FORMrMEDIAL FORMqOEHt FINAL FORMuINITIAL FORMvSOLATED FORMuMED",
  "IAL FORMpOONs FINAL FORMtGHUNNAz FINAL FORMbaISOLATED FORMtINITIAL FORMuSOLATED FORMtMED",
  "IAL FORMtWITH DOT BELOWyINVERTED SMALL VyRINGySMALL TAHbeVyTHREE DOTS ABOVEzWO DOTS BELO",
  "WpYEHs FINAL FORMtINITIAL FORMuSOLATED FORMtMEDIAL FORMoOEq FINAL FORMrISOLATED FORMoPEH",
  "r FINAL FORMsINITIAL FORMtSOLATED FORMsMEDIAL FORMsWITH SMALL MEEM ABOVEbdVrEHt FINAL FO",
  "RMuINITIAL FORMvSOLATED FORMuMEDIAL FORMoQAFr FINAL FORMsINITIAL FORMtSOLATED FORMsMEDIA",
  "L FORMsWITH DOT ABOVEbbBELOWbg AND NO DOTS ABOVExTHREE DOTS ABOVEoREHr FINAL FORMsISOLAT",
  "ED FORMsWITH DOT BELOWbg AND DOT ABOVExFOUR DOTS ABOVExHAMZA ABOVExINVERTED VxLOOPxRINGx",
  "SMALL ARABIC LETTER TAH AND TWO DOTSbdNOON ABOVEbdVbe BELOWyTROKExTWO DOTS ABOVEbgVERTIC",
  "ALLY ABOVEpNOONt FINAL FORMuINITIAL FORMvSOLATED FORMuMEDIAL FORMpOHINGYA YEHpREHs FINAL",
  " FORMtISOLATED FORMoSADr FINAL FORMsINITIAL FORMtSOLATED FORMsMEDIAL FORMsWITH THREE DOT",
  "S ABOVEbiBELOWyWO DOTS BELOWpEENs FINAL FORMtINITIAL FORMuSOLATED FORMtMEDIAL FORMtWITH ",
  "DOT BELOW AND DOT ABOVEyEXTENDED ARABIC-INDIC DIGIT FOUR ABOVEyFOUR DOTS ABOVEyINVERTED ",
  "VySMALL ARABIC LETTER TAH AND TWO DOTSyTHREE DOTS BELOWbo AND THREE DOTS ABOVEzWO DOTS V",
  "ERTICALLY ABOVEpHEENt FINAL FORMuINITIAL FORMvSOLATED FORMuMEDIAL FORMuWITH DOT BELOWpTR",
  "AIGHT WAWpUPERSCRIPT ALEFpWASH KAFoTAHr FINAL FORMsINITIAL FORMtSOLATED FORMsMEDIAL FORM",
  "sWITH DOT BELOWxTHREE DOTS ABOVEbiBELOWyWO DOTS ABOVEpCHEHt FINAL FORMuINITIAL FORMvSOLA",
  "TED FORMuMEDIAL FORMuWITH DOT ABOVEzSMALL VtEHv FINAL FORMwINITIAL FORMxSOLATED FORMwMED",
  "IAL FORMpEHr FINAL FORMsINITIAL FORMtSOLATED FORMsMARBUTAz FINAL FORMbaGOALbaISOLATED FO",
  "RMtEDIAL FORMsWITH RINGxSMALL TEH ABOVEbdVxTHREE DOTS ABOVE DOWNWARDSrEHt FINAL FORMuINI",
  "TIAL FORMvSOLATED FORMuMEDIAL FORMpHALs FINAL FORMtISOLATED FORMqEHs FINAL FORMtINITIAL ",
  "FORMuSOLATED FORMtMEDIAL FORMqIN YEHpTEHs FINAL FORMtINITIAL FORMuSOLATED FORMtMEDIAL FO",
  "RMtWITH SMALL VsEHu FINAL FORMvINITIAL FORMwSOLATED FORMvMEDIAL FORMoUp FINAL FORMqISOLA",
  "TED FORMqWITH HAMZA ABOVEbg ISOLATED FORMpIGHUR KAZAKH KIRGHIZ ALEF MAKSURA INITIAL FORM",
  "bxMEDIAL FORMoVEq FINAL FORMrISOLATED FORMqHr FINAL FORMsINITIAL FORMtSOLATED FORMsMEDIA",
  "L FORMoWAWr FINAL FORMsISOLATED FORMsWITH DOT ABOVEbbWITHINxEXTENDED ARABIC-INDIC DIGIT ",
  "THREE ABOVEcaWO ABOVExHAMZA ABOVEbi FINAL FORMbjISOLATED FORMxRINGxTWO DOTS ABOVEoYEHr B",
  "ARREEy FINAL FORMzISOLATED FORMzWITH EXTENDED ARABIC-INDIC DIGIT THREE ABOVEchWO ABOVEbe",
  "HAMZA ABOVEbp FINAL FORMbqISOLATED FORMsFINAL FORMsINITIAL FORMtSOLATED FORMsMEDIAL FORM",
  "sWITH HAMZA ABOVEbi FINAL FORMbjINITIAL FORMbkSOLATED FORMbjMEDIAL FORMxSMALL VxTAILyHRE",
  "E DOTS BELOWyWO DOTS BELOW AND DOT ABOVEbqHAMZA ABOVEbqSMALL NOON ABOVEpUq FINAL FORMrIS",
  "OLATED FORMoZAHr FINAL FORMsINITIAL FORMtSOLATED FORMsMEDIAL FORMqINs FINAL FORMtISOLATE",
  "D FORMtWITH INVERTED V ABOVEiIGATURE AIN WITH ALEF MAKSURA FINAL FORMbmISOLATED FORMzJEE",
  "M INITIAL FORMbfSOLATED FORMbeWITH MEEM FINAL FORMboINITIAL FORMzMEEM INITIAL FORMbfSOLA",
  "TED FORMbeWITH ALEF MAKSURA FINAL FORMbjMEEM FINAL FORMboINITIAL FORMbjYEH FINAL FORMzYE",
  "H FINAL FORMbdISOLATED FORMrKBAR ISOLATED FORMrLAYHAA AS-SALAAMvE ISOLATED FORMvI AS-SAL",
  "AAMbfTU WAS-SALAAMwM AS-SALAAMxAA AS-SALAAMsEF MAKSURA WITH SUPERSCRIPT ALEF FINAL FORMb",
  "zISOLATED FORMvWITH FATHATAN FINAL FORMbjISOLATED FORMsLAH ISOLATED FORMrZZA WA JALLqBEH",
  " WITH ALEF MAKSURA FINAL FORMbmISOLATED FORMzHAH INITIAL FORMbeSOLATED FORMbdWITH YEH FI",
  "NAL FORMbaEH INITIAL FORMbdMEDIAL FORMzJEEM INITIAL FORMbfSOLATED FORMzKHAH INITIAL FORM",
  "bfSOLATED FORMbeWITH YEH FINAL FORMzMEEM FINAL FORMbeINITIAL FORMbfSOLATED FORMbeMEDIAL ",
  "FORMzNOON FINAL FORMzREH FINAL FORMzYEH FINAL FORMbdISOLATED FORMzZAIN FINAL FORMrISMILL",
  "AH AR-RAHMAN AR-RAHEEMqDAD WITH ALEF MAKSURA FINAL FORMbmISOLATED FORMzHAH INITIAL FORMb",
  "eSOLATED FORMbdWITH ALEF MAKSURA FINAL FORMbiYEH FINAL FORMzJEEM INITIAL FORMbfSOLATED F",
  "ORMzKHAH INITIAL FORMbfSOLATED FORMbeWITH MEEM FINAL FORMboINITIAL FORMzMEEM INITIAL FOR",
  "MbfSOLATED FORMzREH FINAL FORMbdISOLATED FORMzYEH FINAL FORMbdISOLATED FORMqFEH WITH ALE",
  "F MAKSURA FINAL FORMbmISOLATED FORMzHAH INITIAL FORMbeSOLATED FORMzJEEM INITIAL FORMbfSO",
  "LATED FORMzKHAH INITIAL FORMbfSOLATED FORMbeWITH MEEM FINAL FORMboINITIAL FORMzMEEM INIT",
  "IAL FORMbfSOLATED FORMbeWITH YEH FINAL FORMzYEH FINAL FORMbdISOLATED FORMqGHAIN WITH ALE",
  "F MAKSURA FINAL FORMboISOLATED FORMbbJEEM INITIAL FORMbhSOLATED FORMbbMEEM INITIAL FORMb",
  "hSOLATED FORMbgWITH ALEF MAKSURA FINAL FORMblMEEM FINAL FORMblYEH FINAL FORMbbYEH FINAL ",
  "FORMbfISOLATED FORMqHAH WITH ALEF MAKSURA FINAL FORMbmISOLATED FORMzJEEM INITIAL FORMbfS",
  "OLATED FORMbeWITH YEH FINAL FORMzMEEM INITIAL FORMbfSOLATED FORMbeWITH ALEF MAKSURA FINA",
  "L FORMbjYEH FINAL FORMzYEH FINAL FORMbdISOLATED FORMrEH WITH ALEF MAKSURA ISOLATED FORMz",
  "JEEM INITIAL FORMbfSOLATED FORMzMEEM INITIAL FORMbfSOLATED FORMbeWITH JEEM INITIAL FORMb",
  "jMEEM INITIAL FORMzSUPERSCRIPT ALEF INITIAL FORMzYEH ISOLATED FORMqJALLAJALALOUHOUrEEM W",
  "ITH ALEF MAKSURA FINAL FORMbnISOLATED FORMbaHAH INITIAL FORMbfSOLATED FORMbeWITH ALEF MA",
  "KSURA FINAL FORMbjYEH FINAL FORMbaMEEM INITIAL FORMbgSOLATED FORMbfWITH ALEF MAKSURA FIN",
  "AL FORMbkHAH FINAL FORMboINITIAL FORMbkYEH FINAL FORMbaYEH FINAL FORMbeISOLATED FORMqKAF",
  " WITH ALEF FINAL FORMbeISOLATED FORMbeMAKSURA FINAL FORMbmISOLATED FORMzHAH INITIAL FORM",
  "beSOLATED FORMzJEEM INITIAL FORMbfSOLATED FORMzKHAH INITIAL FORMbfSOLATED FORMzLAM FINAL",
  " FORMbdINITIAL FORMbeSOLATED FORMbdMEDIAL FORMzMEEM FINAL FORMbeINITIAL FORMbfSOLATED FO",
  "RMbeMEDIAL FORMbeWITH MEEM FINAL FORMboINITIAL FORMbjYEH FINAL FORMzYEH FINAL FORMbdISOL",
  "ATED FORMrHAH WITH ALEF MAKSURA FINAL FORMbnISOLATED FORMbaHAH ISOLATED FORMbaJEEM INITI",
  "AL FORMbgSOLATED FORMbaMEEM INITIAL FORMbgSOLATED FORMbaYEH FINAL FORMbeISOLATED FORMqLA",
  "M WITH ALEF FINAL FORMbeISOLATED FORMbeMAKSURA FINAL FORMbmISOLATED FORMbeWITH HAMZA ABO",
  "VE FINAL FORMbvISOLATED FORMbpBELOW FINAL FORMbvISOLATED FORMbjMADDA ABOVE FINAL FORMbvI",
  "SOLATED FORMzHAH INITIAL FORMbeSOLATED FORMbdWITH ALEF MAKSURA FINAL FORMbiMEEM FINAL FO",
  "RMbnINITIAL FORMbiYEH FINAL FORMbaEH INITIAL FORMzJEEM INITIAL FORMbfSOLATED FORMbeWITH ",
  "JEEM FINAL FORMboINITIAL FORMbjMEEM FINAL FORMboINITIAL FORMbjYEH FINAL FORMzKHAH INITIA",
  "L FORMbfSOLATED FORMbeWITH MEEM FINAL FORMboINITIAL FORMzMEEM FINAL FORMbeINITIAL FORMbf",
  "SOLATED FORMbeMEDIAL FORMbeWITH HAH FINAL FORMbnINITIAL FORMbjYEH FINAL FORMzYEH FINAL F",
  "ORMbdISOLATED FORMqMEEM WITH ALEF FINAL FORMbfMAKSURA ISOLATED FORMbaHAH INITIAL FORMbfS",
  "OLATED FORMbeWITH JEEM INITIAL FORMbjMEEM INITIAL FORMbjYEH FINAL FORMbaJEEM INITIAL FOR",
  "MbgSOLATED FORMbfWITH HAH INITIAL FORMbkKHAH INITIAL FORMbkMEEM INITIAL FORMbkYEH FINAL ",
  "FORMbaKHAH INITIAL FORMbgSOLATED FORMbfWITH JEEM INITIAL FORMbkMEEM INITIAL FORMbkYEH FI",
  "NAL FORMbaMEEM FINAL FORMbfINITIAL FORMbgSOLATED FORMbfWITH YEH FINAL FORMbaYEH ISOLATED",
  " FORMrOHAMMAD ISOLATED FORMqNOON WITH ALEF MAKSURA FINAL FORMbnISOLATED FORMbaHAH INITIA",
  "L FORMbfSOLATED FORMbeWITH ALEF MAKSURA FINAL FORMbjMEEM INITIAL FORMbjYEH FINAL FORMbbE",
  "H INITIAL FORMbeMEDIAL FORMbaJEEM INITIAL FORMbgSOLATED FORMbfWITH ALEF MAKSURA FINAL FO",
  "RMbkHAH FINAL FORMboINITIAL FORMbkMEEM FINAL FORMbpINITIAL FORMbkYEH FINAL FORMbaKHAH IN",
  "ITIAL FORMbgSOLATED FORMbaMEEM FINAL FORMbfINITIAL FORMbgSOLATED FORMbfMEDIAL FORMbfWITH",
  " ALEF MAKSURA FINAL FORMbkYEH FINAL FORMbaNOON FINAL FORMbaREH FINAL FORMbaYEH FINAL FOR",
  "MbeISOLATED FORMbaZAIN FINAL FORMqQAF WITH ALEF MAKSURA FINAL FORMbmISOLATED FORMzHAH IN",
  "ITIAL FORMbeSOLATED FORMzMEEM INITIAL FORMbfSOLATED FORMbeWITH HAH FINAL FORMbnINITIAL F",
  "ORMbjMEEM FINAL FORMbjYEH FINAL FORMzYEH FINAL FORMbdISOLATED FORMsLA USED AS KORANIC ST",
  "OP SIGN ISOLATED FORMrUDDISA SIRRAHqRADI ALLAAHU ANHbgAAbgUMbiAAbhNNAsHIMAHU ALLAAHyM AL",
  "LAAHsSOUL ISOLATED FORMrEH WITH SUPERSCRIPT ALEF ISOLATED FORMqSAD WITH ALEF MAKSURA FIN",
  "AL FORMbmISOLATED FORMzHAH INITIAL FORMbeSOLATED FORMbdWITH HAH FINAL FORMbmINITIAL FORM",
  "biYEH FINAL FORMzKHAH INITIAL FORMzMEEM INITIAL FORMbfSOLATED FORMbeWITH MEEM FINAL FORM",
  "boINITIAL FORMzREH FINAL FORMbdISOLATED FORMzYEH FINAL FORMbdISOLATED FORMsLAAMUHU ALAYN",
  "AAuM ISOLATED FORMtLA ISOLATED FORMwUSED AS KORANIC STOP SIGN ISOLATED FORMvLLAAHU ALAYH",
  "I WA-AALIHyHOU ALAYHE WASALLAMzU ALAYHI WAAALIHEE WA-SALLAMrEEN WITH ALEF MAKSURA FINAL ",
  "FORMbnISOLATED FORMbaHAH INITIAL FORMbfSOLATED FORMbeMEDIAL FORMbeWITH JEEM INITIAL FORM",
  "bbEH INITIAL FORMbeMEDIAL FORMbaJEEM INITIAL FORMbgSOLATED FORMbfMEDIAL FORMbfWITH ALEF ",
  "MAKSURA FINAL FORMbkHAH INITIAL FORMbaKHAH INITIAL FORMbgSOLATED FORMbfMEDIAL FORMbfWITH",
  " ALEF MAKSURA FINAL FORMbkYEH FINAL FORMbaMEEM INITIAL FORMbgSOLATED FORMbfMEDIAL FORMbf",
  "WITH HAH FINAL FORMboINITIAL FORMbkJEEM INITIAL FORMbkMEEM FINAL FORMbpINITIAL FORMbaREH",
  " FINAL FORMbeISOLATED FORMbaYEH FINAL FORMbeISOLATED FORMrHADDA WITH DAMMA ISOLATED FORM",
  "biMEDIAL FORMbhTAN ISOLATED FORMbcFATHA ISOLATED FORMbiMEDIAL FORMbcKASRA ISOLATED FORMb",
  "iMEDIAL FORMbhTAN ISOLATED FORMbcSUPERSCRIPT ALEF ISOLATED FORMsEEN WITH ALEF MAKSURA FI",
  "NAL FORMboISOLATED FORMbbHAH FINAL FORMbfINITIAL FORMbgSOLATED FORMbfMEDIAL FORMbfWITH M",
  "EEM FINAL FORMbpINITIAL FORMbkYEH FINAL FORMbcEH INITIAL FORMbfMEDIAL FORMbbJEEM FINAL F",
  "ORMbgINITIAL FORMbhSOLATED FORMbgMEDIAL FORMbgWITH YEH FINAL FORMbbKHAH FINAL FORMbgINIT",
  "IAL FORMbhSOLATED FORMbgMEDIAL FORMbbMEEM FINAL FORMbgINITIAL FORMbhSOLATED FORMbgMEDIAL",
  " FORMbgWITH KHAH FINAL FORMbqINITIAL FORMblMEEM FINAL FORMbqINITIAL FORMbbREH FINAL FORM",
  "bfISOLATED FORMbbYEH FINAL FORMbfISOLATED FORMrUBHAANAHU WA TAAALAAqTABAARAKA WA-TAAALAA",
  "sH WITH ALEF MAKSURA FINAL FORMbmISOLATED FORMzHAH INITIAL FORMbeSOLATED FORMzMEEM INITI",
  "AL FORMbfSOLATED FORMbeMEDIAL FORMbeWITH HAH FINAL FORMbnINITIAL FORMbjMEEM INITIAL FORM",
  "bjYEH FINAL FORMzYEH FINAL FORMbdISOLATED FORMrEH WITH ALEF MAKSURA FINAL FORMbmISOLATED",
  " FORMzHAH INITIAL FORMbeSOLATED FORMbdWITH JEEM FINAL FORMbnINITIAL FORMbiMEEM INITIAL F",
  "ORMbaEH INITIAL FORMbdMEDIAL FORMzJEEM INITIAL FORMbfSOLATED FORMbeWITH ALEF MAKSURA FIN",
  "AL FORMbjMEEM INITIAL FORMbjYEH FINAL FORMzKHAH INITIAL FORMbfSOLATED FORMbeWITH ALEF MA",
  "KSURA FINAL FORMbjMEEM INITIAL FORMbjYEH FINAL FORMzMEEM FINAL FORMbeINITIAL FORMbfSOLAT",
  "ED FORMbeMEDIAL FORMbeWITH ALEF MAKSURA FINAL FORMbjHAH INITIAL FORMbjJEEM INITIAL FORMb",
  "jKHAH INITIAL FORMbjYEH FINAL FORMzNOON FINAL FORMzREH FINAL FORMzYEH FINAL FORMbdISOLAT",
  "ED FORMzZAIN FINAL FORMrHAL WITH SUPERSCRIPT ALEF ISOLATED FORMsEH WITH ALEF MAKSURA FIN",
  "AL FORMbnISOLATED FORMbaHEH MEDIAL FORMbaJEEM ISOLATED FORMbaMEEM FINAL FORMbfINITIAL FO",
  "RMbgSOLATED FORMbfMEDIAL FORMbaNOON FINAL FORMbaREH FINAL FORMbaYEH FINAL FORMbeISOLATED",
  " FORMbaZAIN FINAL FORMqUIGHUR KIRGHIZ YEH WITH HAMZA ABOVE WITH ALEF MAKSURA FINAL FORMc",
  "sINITIAL FORMctSOLATED FORMqWASALLAM ISOLATED FORMqYEH WITH ALEF MAKSURA FINAL FORMbmISO",
  "LATED FORMzHAH INITIAL FORMbeSOLATED FORMbdWITH YEH FINAL FORMbbMZA ABOVE WITH AE FINAL ",
  "FORMbtISOLATED FORMbrLEF FINAL FORMbvISOLATED FORMbvMAKSURA FINAL FORMcdISOLATED FORMbqE",
  " FINAL FORMbsINITIAL FORMbtSOLATED FORMbqHAH INITIAL FORMbvSOLATED FORMbrEH INITIAL FORM",
  "buMEDIAL FORMbqJEEM INITIAL FORMbwSOLATED FORMbqKHAH INITIAL FORMbqMEEM FINAL FORMbvINIT",
  "IAL FORMbwSOLATED FORMbvMEDIAL FORMbqNOON FINAL FORMbqOE FINAL FORMbtISOLATED FORMbqREH ",
  "FINAL FORMbqU FINAL FORMbsISOLATED FORMbqWAW FINAL FORMbuISOLATED FORMbqYEH FINAL FORMbu",
  "ISOLATED FORMbrU FINAL FORMbtISOLATED FORMbqZAIN FINAL FORMbaEH INITIAL FORMbdMEDIAL FOR",
  "MzJEEM INITIAL FORMbfSOLATED FORMbeWITH YEH FINAL FORMzKHAH INITIAL FORMbfSOLATED FORMzM",
  "EEM FINAL FORMbeINITIAL FORMbfSOLATED FORMbeMEDIAL FORMbeWITH MEEM FINAL FORMboINITIAL F",
  "ORMbjYEH FINAL FORMzNOON FINAL FORMzREH FINAL FORMzYEH FINAL FORMbdISOLATED FORMzZAIN FI",
  "NAL FORMqZAH WITH MEEM INITIAL FORMbfSOLATED FORMbeMEDIAL FORMhMADDA WAAJIBmH ABOVEjRK N",
  "OON GHUNNAmSIDEWAYS NOON GHUNNAjTHEMATICAL AINvLEFuBEHuDADwLvOTLESS BEHbcFEHbcNOONbcQAFw",
  "UBLE-STRUCK AINbiBEHbiDADbkLbiFEHbiGHAINbiHAHbiJEEMbiKHAHbiLAMbiMEEMbiNOONbiQAFbiREHbiSA",
  "DbjEENbjHEENbiTAHbjEHbjHALbkEHbiWAWbiYEHbiZAHbkINuFEHuGHAINuHAHuINITIAL AINbcBEHbcDADbcF",
  "EHbcGHAINbcHAHbdEHbcJEEMbcKAFbdHAHbcLAMbcMEEMbcNOONbcQAFbcSADbdEENbdHEENbcTEHbdHEHbcYEHu",
  "JEEMuKAFvHAHuLAMvOOPED AINbcLEFbbBEHbbDADbdLbbFEHbbGHAINbbHAHbcEHbbJEEMbbKHAHbbLAMbbMEEM",
  "bbNOONbbQAFbbREHbbSADbcEENbcHEENbbTAHbcEHbcHALbdEHbbWAWbbYEHbbZAHbdINuMEEMuNOONuOPERATOR",
  " HAH WITH DALbdMEEM WITH HAH WITH TATWEELuQAFuREHuSADvEENvHEENvTRETCHED AINbeBEHbeDADbfO",
  "TLESS BEHbmFEHbeFEHbeGHAINbeHAHbfEHbeJEEMbeKAFbfHAHbeMEEMbeNOONbeQAFbeSADbfEENbfHEENbeTA",
  "HbfEHbfHEHbeYEHbeZAHuTAHwILED AINbbDADbcOTLESS NOONbjQAFbbGHAINbbHAHbbJEEMbbKHAHbbLAMbbN",
  "OONbbQAFbbSADbcEENbcHEENbbYEHvEHvHALwEHuWAWuYEHuZAHwINhNUMBER MARK ABOVEoSIGNhOPEN DAMMA",
  "TANmFATHATANmKASRATANhPERCENT SIGNiIASTRE MARK ABOVEiLACE OF SAJDAHiOETIC VERSE SIGNjUND",
  " MARK ABOVEhQUESTION MARKhRAISED ROUND DOTjYiEVERSED DAMMAiIGHT ARROWHEAD ABOVEbc WITH D",
  "OTxBELOWiOUNDED HIGH STOP WITH FILLED CENTREhSEMICOLONiHADDAn ISOLATED FORMoMEDIAL FORMi",
  "IGN ALAYHE ASSALLAMmMISRAmRADI ALLAHOU ANHUoHMATULLAH ALAYHEmSAFHAoLLALLAHOU ALAYHE WASS",
  "ALLAMoMVAToNAHnINDHI AMPERSANDtPOSTPOSITION MENmTAKHALLUSiMALL DAMMAnFARSI YEHpTHAnHIGH ",
  "AINsDOTLESS HEAD OF KHAHsFARSI YEHtOOTNOTE MARKERsJEEMsLAM ALEFtIGATURE ALEF WITH LAM WI",
  "TH YEHbbQAF WITH LAM WITH ALEF MAKSURAbbSAD WITH LAM WITH ALEF MAKSURAsMADDAtEEM INITIAL",
  " FORMySOLATED FORMsNOONw WITH KASRAsQAFsROUNDED ZEROsSADtEENtIGN SAFHAsTAHtHREE DOTSsUPR",
  "IGHT RECTANGULAR ZEROsWAWtORD AL-JUZyN-NISFyR-RUByS-SAJDAyTH-THALATHAxQIFxSAHzKTAxWAQFAs",
  "YEHv BARREE WITH TWO DOTS BELOWsZAHuINnKASRAnLOW MEEMrNOON WITH KASRArSEENrWAWsORD IMAAL",
  "AxSHMAAMwTASHEELnWAWnYEHiTART OF RUB EL HIZBiUBSCRIPT ALEFjKUNm BELOWnISOLATED FORMnMEDI",
  "AL FORMjPERSCRIPT ALEF MOKHASSASiYMBOL DOT ABOVEsBELOWqUBLE VERTICAL BAR BELOWoFOUR DOTS",
  " ABOVEyBELOWoRINGoSMALL TAH ABOVEyBELOWoTHREE DOTS ABOVEzBELOWzPOINTING DOWNWARDS ABOVEb",
  "sBELOWpWO DOTS ABOVExBELOWxVERTICALLY ABOVEbiBELOWoWASLA ABOVEhTAIL FRAGMENTjTWEELo WITH",
  " FATHATAN ABOVEuOVERSTRUCK HAMZAbfWAWuTWO DOTS BELOWiHOUSANDS SEPARATORiONE LOOP ABOVErB",
  "ELOWmONE DOT ABOVEuBELOWmTWO DOTS ABOVEvBELOWiRIPLE DOT PUNCTUATION MARKiURNED DAMMA BEL",
  "OWhVERTICAL TAILiOWEL SIGN DOT BELOWsINVERTED SMALL V ABOVEsSMALL V ABOVEhWAVY HAMZA BEL",
  "OWhZWARAKAYg-INDIC CUBE ROOTnDIGIT EIGHTtFIVEuOURtNINEtONEtSEVENuIXtTHREEuWOtZEROnFOURTH",
  " ROOTnPER MILLE SIGNrTEN THOUSAND SIGNcCcIEScMENIAN ABBREVIATION MARKkPOSTROPHEjCAPITAL ",
  "LETTER AYByBENyCAzHAbaEHzOyDAyECHzHzTyFEHyGHADzIMyHOyINIyJAzHEHyKEHbaNyLIWNyMENyNOWyOHyP",
  "EHzIWRyRAzEHySEHzHAyTIWNzOyVEWzOyXEHyYIbaWNyZAzHEkOMMAjDRAM SIGNjEMPHASIS MARKkXCLAMATIO",
  "N MARKjFULL STOPjHYPHENjMODIFIER LETTER LEFT HALF RINGjQUESTION MARKjSMALL LETTER AYBwBE",
  "NwCAxHAyEHxOwDAwECHxHxTwFEHwGHADxIMwHOwINIwJAxHEHwKEHyNwLIWNwMENwNOWwOHwPEHxIWRwRAxEHwSE",
  "HxHAwTIWNxOxURNED AYBwVEWxOwXEHwYIy WITH STROKEyWNwZAxHEqIGATURE ECH YIWNyMEN ECHbcINIbc",
  "NOWbcXEHyVEW NOWcROW POINTING DOWNWARDS THEN CURVING LEFTWARDSbmRIGHTWARDSpRIGHTWARDS TH",
  "EN CURVING DOWNWARDSbnSOUTH WESTbnUPWARDSpUPWARDS THEN NORTH WESTfHEAD-SHAPED POINTERcTI",
  "CULATED LORRYeST PALETTEbSCENDING NODEdIA SYMBOLcSERTIONcTERISKi OPERATORhMdONISHED FACE",
  "dRAEAeONOMICAL SYMBOL FOR URANUScYMPTOTICALLY EQUAL TObTHLETIC SHOEcOM SYMBOLbUBERGINEcS",
  "TRAL SIGNcTO RICKSHAWeMATED TELLER MACHINEfOBILEbVESTAN ABBREVIATION MARKiLETTER AqArNrO",
  "qErEqNqOpBEqHEpCEpDEqHEpEqEpFEpGEqGEqHEpHEqMEpIqIpJEpKEpLEpMEpNEqGErVErYEqNEqYEpOqOpPEpR",
  "EpSEqHErYEqSHEpTEqHEqTEpUqUpVEpXEqVEqYEpYEqYEpZEqHEcOCADObXEaBABYe ANGELfBOTTLEfCHICKfSY",
  "MBOLcCK OF ENVELOPEfWITH LEFTWARDS ARROW ABOVEe-TILTED SHADOWED WHITE RIGHTWARDS ARROWeS",
  "LANTED SOUTH ARROW WITH HOOKED TAILbfRIZONTAL TAILfPACEdONdTRIAN CAMELcDGERdMINTON RACQU",
  "ET AND SHUTTLECOCKcGELdGAGE CLAIMdUETTE BREADcLINESE ADEG ADEGjCARIK PAMUNGKAHrRERENpSIK",
  "IjDIGIT EIGHTpFIVEqOURpNINEpONEpSEVENqIXpTHREEqWOpZEROjLETTER AIKARArKARAv TEDUNGrRCHAIC",
  " JNYArSYURA SASAKqBAs KEMBANGqCAs LACAqDAs MADUuURDA ALPAPRANAzMAHAPRANAqEF SASAKrKARAqG",
  "As GORAqHAqIKARAv TEDUNGqJAs JERAqKAs MAHAPRANAsF SASAKrHOT SASAKqLAs LENGAy TEDUNGqMAqN",
  "As RAMBATrGArYAqOKARAv TEDUNGqPAs KAPALqRAs REPAx TEDUNGqSAs SAGAvPAqTAs LATIKtMURDA MAH",
  "APRANAtTAWArZIR SASAKqUKARAv TEDUNGqVE SASAKqWAqYAqZAL SASAKjMUSICAL SYMBOL COMBINING BE",
  "NDEbiENDEPbiGONGbiJEGOGANbiKEMPLIbo WITH JEGOGANbmULbo WITH JEGOGANbiTEGEHyDAENGbaINGbaN",
  "Gbc GEDEbdSURANGzENGbaUNGzINGzONGzUNGyLEFT-HAND CLOSED PLAKbrUKbiOPEN PANGboINGboUNGyRIG",
  "HT-HAND CLOSED TAKbrUKbjOPEN DAGbpUGjPAMADAp LANTANGmENENGlNTIo LANTANGjSIGN BISAHoCECEK",
  "oREREKANoSURANGoULU CANDRAsRICEMjVOWEL SIGN LA LENGAbc TEDUNGuPEPETz TEDUNGuRA REPAbb TE",
  "DUNGuSUKUy ILUTuTALINGba REPAbf TEDUNGbbTEDUNGvEDUNGuULUx SARIjWINDUdL OF YARNeET SHOESe",
  "OONh-SPOKED ASTERISKfT BOLD SCRIPT XjXk WITH BALLOTrOLD CHECKvSCRIPT XqCHECKqLIGHT XqSCR",
  "IPT XqXhSCRIPT XhXcMUM COLONiMBINING MARK KOQNDONvTUKWENTISjMAgFULL STOPgLETTER AnEEnFAA",
  "MAEoEEoOMoUnInKAoENpTpUXoIoOpGHOMpVUUoPAoUoYEEnLAoEEEEoIoOQoUnMoAoBAApENoEEEEpNoIoOoUnNA",
  "oDAAoGApGApKWAENoIoJAEMpEEpUAEoSHAoTEEpUUoUpAEoYInOnPAoEEpUXoHASE-A FIRIvGBIEE FONwHEUAE",
  "GHEUAEbbRAEvKAFAxQwETxUKEUTNDAwPOQwUOQvLAPAQwET KUTwOMMAEwUxAEPvMAEKEUPyMzBGBIEEzKPENzVE",
  "UXyNYIySIxNSUAExP PIEETwBANYIyQwEUNJOMNDEUQwGBASAwON NGGEUAETxOMEUTzPUQwVEUAENGAMvNAA MF",
  "ONxQwDA LEERAEWAyANGGEUAETwENwGANGUxGENxKUE MFONbaNZEUMwIKAwJAMwKAARAExINDIwSHAyIEEwTAPz",
  " MFAAbaNTAAxOQPENwYETxIyT MONGKEUAEQwZA MFONxUN MEUTvPA LEERAEWAxAMyRAExMSHAExSHAEwETwON",
  " MFON PIPAEMBAbkGBIEEzPA NJI PIPAEMBAbmGBIEEwUPvROMvSEUNYAMwHINDA PA NJIyRAExOQ NSHUT YU",
  "MxUENSHUETyMwISAwONJAMxQxTwUUvTEUAENyTEUWENwITA MFONwU MAEMBAxAEPvU YUQ NAEwNKNOWNvVEEtB",
  " FEExUXvGHEUGHENbcUAEMvKAMwEUAEMyPUQyYEUXwIEEMxQvLAANAExM NSHUT NYAMwETwOM NTEUMvMAx NJE",
  "UAENAbaUQAwBA MAELEEyARAExEURIxIT MBAAKETxUOQwEUQyT NGGEETwFIYAQxON TEUAEQwONTIEENvNDU N",
  "JAAwGGAAMyEU MBUyUOQbb LARGExKINDI MVOPxOMwSENxHUETwTIEE SHEUOQwYAEMAExI NTEUMvPARUMwEES",
  "HIwITwUNGAAMvSAKEUAEwET TUwHET NJAQyUAEQTUwIEEwUEvTAAMwU MAEMGBIEEyNSIEEvVEUMvWUAETvYAFU",
  " LEERAEWAwEURAEtC BUNGvFUEvGBAYIwHAPyRAEvKAAwEN FATIGUEzLAWxTxUKAQyMySEUXzHEUAEPwPARAQwU",
  "OP NKAARAExTvLAMxPwIQwUvMA KEUAERIyNSIEExEMBAySIwBAA CABBAGE-TREEbaPICKETyNYIxEEKEETyRAE",
  "yUMzXxIyRIEENyTxUAEMyEwGBASAQwIEEwUAEvNANSANAQxQwDAMyPxEUAEREEzTxIDAxOMBUwGAQxGENyUzAEN ",
  "NYAMzEETzMzONxKAQyUE MAEMBAxOMwJAEMyMxEEEEyUXxUEQwSAxEUAENxHAQxOMxUNyOT NGOMwTAAxENyUNGB",
  "AxU MBITwYIR MKPARAQ MEUNwZAxEUMvPENwINxRIEENvRUvSETFONxUXwHIQxUEQwUAETvTAASHAEwETxUTEUX",
  "wITA YUEyUAEPvVEUAEPENyXvWANGKUOQwUPvYAAwEUQwU MUOMAExMxWOQtD FAAwEUFEUAETvGHAAxEUAEvKET",
  "xUAETMEUNyMyOT MBUAEyPwUxNxOMxQwWAETwYEEvLEEEExTxUAEPyMwIEEwOQwUMvMwAENJETxLEERIwBAAz SE",
  "VENxUOwEEEExUNyTwFEUAEzTxIEExOyNwGBEUNyIEEyOFUMwONIwUwVOPvNDAMxEEyUXxONwGGAAMbbAEzPyEUXy",
  "UOMyWAENxKAPyEUAEQbaRIyIEEyUNyYEEwIwJAPxEUAEMzTxIyEExUEQwSHEEyUTxIEEPbaTxUMwTEEyUMxUUwUw",
  "YAMxETxIxUEvPAPwEExUTAEwIPwUQxUTvRAEMwEN MUCHzOLDwIIvSAPxQwEUAEQwHEEyUAEzXxIIxOQxUwOTwUA",
  "ExExUvTAEwEEEExUAENyNyTwIwOQwUxOTvWAPwUAENvYAEMMAEwENwUOMyPxWOQtE AvFAxQwEEwOMwU CALLyIy",
  "REMEDYxEyTvGBETyUXwHAAMAExETyUAEzNzXxOMvIvKETxUAEyXwIwOwPEUXwUETxOPxTvLAAMxPxQwEUAEMwOMx",
  "ONyTxQwUvMAxEyMxPxQwBEEyUMwENwFEUQwGBAyENwIxEEwONwUAEwVIvNAxEwDAA MY HOUSEbaSOFTNESSyPxI",
  "AQyQxUNwGAxEUREUTxGEEEEzUAEbcTyUAESHAE NYAMzPzRAExKAzAMIyEUAEMbaXyUMzPxOPyQxUAEbaTwJAEML",
  "IxEEz EPOCHyUXwKOMwSHIEEyUEzOPwTAPxUMwYI BETWEENzCLEAVERwZAQxUQvOvPA PEOPLEzLURALxAyMwEE",
  "MxUTyXwIxEEQyTwOxONwUxAEyQxExMvRAExQwEUXwIMGBAvSAAwEExTwHEUAEQxIQxOyQwOMwUAENvTAAyQxEN N",
  "TEUMxMxQwENxUyAEQwOOyNxQwUAExMyAEvVEExUAEwOMvWEUXwUExOvYAPwEUAEbaTyMyXwIEExTwOQ COVERzSW",
  "IMMINGwUAENxEQxNxQtF EEvFOMvKAwENxTwOwPAwUwYEEvLAwIwOQvMwAwBAAxENwEEEEwOvNDAAwGGAxKWAENw",
  "IwJAEMxUAEwSHAwTEEwUxAEwYIvPEExUXwUAEvREExNxUXwIEExIwUvSAMBAwEUXwHIIxOxUwIwUUvTAAxEwETvU",
  "vVUEQvWAwUEvYAwOQoIoUAEpEnRAEoEEpNpUXoIEEpIoUnSAMBAoEUXoHEUXpIIpOpUoIoUUnTAApEoENpToInUn",
  "WAoUEnYAoOQoUQgNJAEMLIgQUESTION MARKgSEMICOLONcNANAdJOdKeNOTE WITH DOLLAR SIGNoEURO SIGN",
  "oPOUND SIGNoYEN SIGNcR CHARTeOF SOAPdBER POLEcSEBALLdKETgBALL AND HOOPdSA VAH COMBINING ",
  "HIGH TONEy-LOW TONEuLOW TONEx-MID TONEuMID TONEkFULL STOPkLETTER ArBArCErDHIIsOrEsEsNNIr",
  "FArGAHsBUrHWAHrIrJOrKAsPAHrMBErOsOrPArSErTOrUsWUrVUrWAtDDArYEINsIErZOcTdAK CONSONANT SIG",
  "N HvNGgLETTER AnBAnCAnDAnGAnHAnInJAnKARO BAnLAnMApNDAILING HAyNAySAoBAnNAoDAoGAoORTHERN ",
  "TAoYAnPApKPAK WAnRAnSAoIMALUNGUN AyGAyHAyLAyMAyPAyRAySAyWAyYAoOUTHERN TAnUnWAnYAgPANGOLA",
  "TjONGONANgSIGN TOMPIhYMBOL BINDU JUDULtNA METEKtPANGOLATuINARBORASgVOWEL SIGN EsErIrKARO",
  " IwOrOrPAKPAK ErUs FOR SIMALUNGUN SAdHeTUBdTERYbEACH WITH UMBRELLAdMED ASCENDING MUSICAL",
  " NOTEShDESCENDING MUSICAL NOTEShEIGHTH NOTEShSIXTEENTH NOTESdNSdR FACEeDED PERSONdTING H",
  "EARTdVERcCAUSEcDcER MUGdTLEcLdLe PEPPERfSYMBOLfWITH CANCELLATION STROKEeHOP BELLcNGALI A",
  "BBREVIATION SIGNjNJIjU LENGTH MARKiCURRENCY DENOMINATOR SIXTEENrNUMERATOR FOURbbONEbe LE",
  "SS THAN THE DENOMINATORbbTHREEbcWOiDIGIT EIGHToFIVEpOURoNINEoONEoSEVENpIXoTHREEpWOoZEROi",
  "GANDA MARKiISSHARiLETTER AqAqIqUpBAqHApCAqHApDAqDArHAqHApEpGAqHApHApIqIpJAqHApKAqHAsNDA ",
  "TApLApMApNAqGAqNAqYApOpPAqHApRAr WITH LOWER DIAGONALxMIDDLE DIAGONALqHAqRApSAqHAqSApTAqH",
  "AqTArHApUqUpVEDIC ANUSVARAqOCALIC LyLxRyRpYAqYAiRUPEE MARKoSIGNiSANDHI MARKjIGN ANUSVARA",
  "oVAGRAHAnCANDRABINDUnNUKTAnVIRAMApSARGAiVOWEL SIGN AAuIuUtEtIuItOtUuUtVOCALIC LbcLbbRbcR",
  "dT ARROW POINTING DOWNWARDS THEN NORTH EASTeO BOXdZENE RINGm WITH CIRCLEcT SYMBOLdWEENcV",
  "ERAGE BOXbHAIKSUKI DANDAlIGIT EIGHTqFIVErOURqNINEqONEqSEVENrIXqTHREErWOqZEROlOUBLE DANDA",
  "kGAP FILLER-1v2kHUNDREDS UNIT MARKkLETTER AsAsIsUrBAsHArCAsHArDAsDAtHAsHArErGAsHArHArIsI",
  "rJAsHArKAsHArLArMArNAsGAsNAsYArOrPAsHArRArSAsHAsSArTAsHAsTAtHArUsUrVAsOCALIC LzRbaRrYAkN",
  "UMBER EIGHTwYrFIFTYtVEsORTYtURrNINEvTYrONErSEVENwTYsIXuTYrTENsHIRTYtREEsWENTYtOkSIGN ANU",
  "SVARAqVAGRAHApCANDRABINDUpVIRAMArSARGAkVOWEL SIGN AAwIwUvEvIwIvOvUwUvVOCALIC LbdRbeRkWOR",
  "D SEPARATORbICYCLEgISTcG REVERSE SOLIDUSeSOLIDUScKINIcLLED CAPeIARDScOHAZARD SIGNcRDdTHD",
  "AY CAKEcSONcTCOIN SIGNdING LIPbLACK BOWTIEgCENTRE WHITE STARhHESS BISHOPs ROTATED NINETY",
  " DEGREESbbTWO HUNDRED SEVENTY DEGREESmEQUIHOPPERw ROTATED NINETY DEGREESmKINGq ROTATED N",
  "INETY DEGREESzTWO HUNDRED SEVENTY DEGREESnNIGHTs ROTATED FORTY-FIVE DEGREESbbNINETY DEGR",
  "EESbbONE HUNDRED THIRTY-FIVE DEGREESbbTHREE HUNDRED FIFTEEN DEGREESbcWO HUNDRED SEVENTY ",
  "DEGREESbnTWENTY-FIVE DEGREESs-BISHOPtQUEENtROOKmPAWNq ROTATED NINETY DEGREESzTWO HUNDRED",
  " SEVENTY DEGREESmQUEENr ROTATED NINETY DEGREESbaTWO HUNDRED SEVENTY DEGREESmROOKq ROTATE",
  "D NINETY DEGREESzTWO HUNDRED SEVENTY DEGREESmTURNED BISHOPtKINGuNIGHTtPAWNtQUEENtROOKhIR",
  "CLEm FOR RECORDnWITH DOWN ARROWsTWO WHITE DOTSsWHITE DOT RIGHThLUB SUIThROSS ON SHIELDhU",
  "RVED DOWNWARDS AND LEFTWARDS ARROWbbRIGHTWARDS ARROWnLEFTWARDS AND DOWNWARDS ARROWbbUPWA",
  "RDS ARROWnRIGHTWARDS AND DOWNWARDS ARROWbcUPWARDS ARROWnUPWARDS AND LEFTWARDS ARROWzRIGH",
  "TWARDS ARROWgDIAMONDn CENTREDoMINUS WHITE XoON CROSSoSUIToWITH DOWN ARROWhOWN POINTING B",
  "ACKHAND INDEXk-POINTING DOUBLE TRIANGLEuISOSCELES RIGHT TRIANGLEuSMALL TRIANGLEuTRIANGLE",
  "kWARDS EQUILATERAL ARROWHEADhRAUGHTS KINGpMANiOPLETgFLAGiORETTEhOLDERiUR POINTED STARgHA",
  "RD SHELL FLOPPY DISKhEARTl SUITiXAGONhORIZONTAL ELLIPSEiURGLASSgLARGE CIRCLEmSQUAREhEFT ",
  "LANE MERGElPOINTING BACKHAND INDEXuINDEXk-POINTING DOUBLE TRIANGLEbj WITH VERTICAL BARuI",
  "SOSCELES RIGHT TRIANGLEuPOINTERuSMALL TRIANGLEuTRIANGLEkWARDS BULLETqEQUILATERAL ARROWHE",
  "ADhOWER LEFT TRIANGLEmRIGHT TRIANGLEiZENGEgMEDIUM DIAMONDoOWN-POINTING TRIANGLEbj CENTRE",
  "DnLEFT-POINTING TRIANGLEbj CENTREDoOZENGEnRIGHT-POINTING TRIANGLEbk CENTREDnSMALL DIAMON",
  "DtLOZENGEtSQUAREoQUAREnUP-POINTING TRIANGLEbh CENTREDhOON LILITHgNIBgOCTAGONgPARALLELOGR",
  "AMhENNANTjTAGONhUSHPINgQUESTION MARK ORNAMENTgRECTANGLEhIGHT POINTING BACKHAND INDEXvIND",
  "EXl-POINTING DOUBLE TRIANGLEbk WITH VERTICAL BARvISOSCELES RIGHT TRIANGLEvPENTAGONwOINTE",
  "RvSMALL TRIANGLEvTRIANGLEbd WITH DOUBLE VERTICAL BARlWARDS ARROWwHEADrBULLETrEQUILATERAL",
  " ARROWHEADhOSETTEgSAFETY SCISSORShCISSORShHOGI PIECEhKULL AND CROSSBONEShLIGHTLY SMALL C",
  "IRCLEvSQUAREhMALL DIAMONDmLOZENGEmSQUAREnTARiILING FACEhNOWMANhPADE SUIThQUAREm BUTTONnC",
  "ENTREDnFOR STOPhTARhUN WITH RAYSgTELEPHONEhINY DIAMONDlLOZENGElSQUAREhOUCHTONE TELEPHONE",
  "hRUCKhWO-WAY LEFT WAY TRAFFICgUNIVERSAL RECYCLING SYMBOLhP POINTING BACKHAND INDEXi-POIN",
  "TING DOUBLE TRIANGLEsISOSCELES RIGHT TRIANGLEsSMALL TRIANGLEsTRIANGLEiPER LEFT TRIANGLEm",
  "RIGHT TRIANGLEiWARDS EQUILATERAL ARROWHEADgVERTICAL ELLIPSEpRECTANGLEjY SMALL DIAMONDrLO",
  "ZENGErSQUAREf-FEATHERED NORTH EAST ARROWqRIGHTWARDS ARROWqSOUTH EAST ARROWgLETTER CAPITA",
  "L CvHvIvRvZdNK SYMBOLcOCK SEXTANT-1p2q3r4s5s6r5s6r6q4r5s6r6q5r6q6p3q4r5s6r6q56q6p4q5r6q6",
  "p5q6p6o2p3q4r5s6r6q5r6q6p4q5r6p5q6p6o3p4q5r6q6p5q6p6o4p5q6p6o5p6o6dSSOMdWFISHcUE BOOKfHE",
  "ARTeBERRIESbOARcLD EIGHT SPOKED ASTERISKfFIVE SPOKED ASTERISKfGREEK CROSSfSALTIREgIX SPO",
  "KED ASTERISKfWHITE CIRCLElSQUAREcMdBcNEcOKeMARKi TABSeSdMERANGcPOMOFO FINAL LETTER GwHwK",
  "wPwTjLETTER ArHrIsNNrMrNsGsNrUsNNqBrUqCrHqDqErErHrIrNsGsNrRqFqGrHrNrUrWqHqIrHrMrNNtNrRrU",
  "qJrIqKrWqLrHqMqNrGsGrNqOr WITH DOT ABOVErErMrNGsNrOrUqPqQqRqSrHqTqUrNNqVqXqZrHrIrYcTTLE ",
  "WITH POPPING CORKeOM ARC ANTICLOCKWISE ARROWhCURLY BRACKEThHALF BLACK CIRCLEmINTEGRALmLE",
  "FT PARENTHESISmRIGHT PARENTHESIShLEFT CORNERnROPmHALF BRACKEThPARENTHESIShRIGHT CORNERoR",
  "OPnHALF BRACKEThSQUARE BRACKETv OVER TOP SQUARE BRACKEThTORTOISE SHELL BRACKETcUQUETh OF",
  " FLOWERScW AND ARROWdL OF HYGIEIAfWITH SPOONeINGdTIEg WITH LEFT HALF BLACKmRIGHT HALF BL",
  "ACKcX DRAWINGS DOUBLE DOWN AND HORIZONTALbdLEFTbdRIGHTuHORIZONTALuUP AND HORIZONTALbbLEF",
  "TbbRIGHTuVERTICALbc AND HORIZONTALbhLEFTbhRIGHTpWN DOUBLE AND HORIZONTAL SINGLEbdLEFT SI",
  "NGLEbdRIGHT SINGLEsHEAVY AND HORIZONTAL LIGHTbcLEFT LIGHTbhUP LIGHTbcRIGHT LIGHTbiUP LIG",
  "HTbcUP HORIZONTAL LIGHTsLIGHT AND HORIZONTAL HEAVYbcLEFT HEAVYbhUP HEAVYbcRIGHT HEAVYbiU",
  "P HEAVYbcUP HORIZONTAL HEAVYsSINGLE AND HORIZONTAL DOUBLEbdLEFT DOUBLEbdRIGHT DOUBLEnHEA",
  "VY DOUBLE DASH HORIZONTALbfVERTICALvWNx AND HORIZONTALbcLEFTbcRIGHTtHORIZONTALtLEFTx AND",
  " LIGHT RIGHTtQUADRUPLE DASH HORIZONTALbiVERTICALtRIGHTtTRIPLE DASH HORIZONTALbfVERTICALt",
  "UPv AND HORIZONTALbaLEFTbbIGHT DOWNbaRIGHTtVERTICALbb AND HORIZONTALbgLEFTbgRIGHTnLEFT D",
  "OWN HEAVY AND RIGHT UP LIGHTsHEAVY AND RIGHT DOWN LIGHTbiUP LIGHTbiVERTICAL LIGHTsLIGHT ",
  "AND RIGHT DOWN HEAVYbiUP HEAVYbiVERTICAL HEAVYsUP HEAVY AND RIGHT DOWN LIGHToIGHT ARC DO",
  "WN AND LEFTbgRIGHTxUP AND LEFTbeRIGHTtDIAGONAL CROSSbcDIAMONDbcMIDDLE LEFT TO LOWER CENT",
  "REcd TO MIDDLE RIGHTbrUPPER CENTRE TO MIDDLE RIGHTct TO LOWER CENTREbjRIGHT TO LOWER CEN",
  "TREbsUPPER CENTRE TO MIDDLE LEFT TO LOWER CENTREbcUPPER CENTRE TO MIDDLE LEFTcd AND MIDD",
  "LE RIGHT TO LOWER CENTREceTO LOWER CENTREct TO MIDDLE RIGHTbzRIGHTce AND MIDDLE LEFT TO ",
  "LOWER CENTREcfTO LOWER CENTREcu TO MIDDLE LEFTbiLEFT TO LOWER RIGHTbiRIGHT TO LOWER LEFT",
  "uOUBLE DASH HORIZONTALbfVERTICALvWNx AND HORIZONTALbcLEFTbcRIGHTtHORIZONTALbd WITH VERTI",
  "CAL STROKEtLEFTx AND HEAVY RIGHTtQUADRUPLE DASH HORIZONTALbiVERTICALtRIGHTtTRIPLE DASH H",
  "ORIZONTALbfVERTICALtUPv AND HEAVY DOWNbbORIZONTALbaLEFTbaRIGHTtVERTICALbb AND HORIZONTAL",
  "bgLEFTbgRIGHTnRIGHT DOWN HEAVY AND LEFT UP LIGHTtHEAVY AND LEFT DOWN LIGHTbiUP LIGHTbiVE",
  "RTICAL LIGHTtLIGHT AND LEFT DOWN HEAVYbiUP HEAVYbiVERTICAL HEAVYtUP HEAVY AND LEFT DOWN ",
  "LIGHTnUP DOUBLE AND HORIZONTAL SINGLEbbLEFT SINGLEbbRIGHT SINGLEqHEAVY AND DOWN HORIZONT",
  "AL LIGHTbaHORIZONTAL LIGHTbaLEFT DOWN LIGHTbfLIGHTbaRIGHT DOWN LIGHTbgLIGHTqLIGHT AND DO",
  "WN HORIZONTAL HEAVYbaHORIZONTAL HEAVYbaLEFT DOWN HEAVYbfHEAVYbaRIGHT DOWN HEAVYbgHEAVYqS",
  "INGLE AND HORIZONTAL DOUBLEbbLEFT DOUBLEbbRIGHT DOUBLEnVERTICAL DOUBLE AND HORIZONTAL SI",
  "NGLEbhLEFT SINGLEbhRIGHT SINGLEwHEAVY AND HORIZONTAL LIGHTbgLEFT LIGHTbgRIGHT LIGHTwLIGH",
  "T AND HORIZONTAL HEAVYbgLEFT HEAVYbgRIGHT HEAVYwSINGLE AND HORIZONTAL DOUBLEbhLEFT DOUBL",
  "EbhRIGHT DOUBLEdING GLOVEcYdS SYMBOLbPHbRAHMI DANDAiIGIT EIGHTnFIVEoOURnNINEnONEnSEVENoI",
  "XnTHREEoWOnZEROiOUBLE DANDAhLETTER ApApIpUoBApHAoCApHAoDApDAqHApHAoEoGApHAoHAoIpIoJApHAo",
  "KApHAoLApLAoMAoNApGApNApYAoOpLD TAMIL LLAbaLAyNNNAyRRAySHORT EbeOoPApHAoRAoSApHApSAoTApH",
  "ApTAqHAoUpUoVApOCALIC LxLwRxRoYAhNUMBER EIGHTtYoFIFTYqVEpORTYqURoJOINERoNINEsTYoONEr HUN",
  "DREDsTHOUSANDoSEVENtTYpIXrTYoTENpHIRTYqREEpWENTYqOhPUNCTUATION CRESCENT BARtDOTvUBLE DOT",
  "tLINEuOTUShSIGN ANUSVARAmCANDRABINDUmJIHVAMULIYAmOLD TAMIL VIRAMAmUPADHMANIYAmVISARGAhVI",
  "RAMAiOWEL SIGN AAtItUsBHATTIPROLU AAsEsItIsOtLD TAMIL SHORT EbiOsUtUsVOCALIC LbbLbaRbbRd",
  "ILLE PATTERN BLANKqDOTS-1w2x3y4z5ba6bb7bc8bb8ba7bb8ba8z6ba7bb8ba8z7ba8z8y5z6ba7bb8ba8z7b",
  "a8z8y6z7ba8z8y7z8y8x4y5z6ba7bb8ba8z7ba8z8y6z7ba8z8y7z8y8x5y6z7ba8z8y7z8y8x6y7z8y8x7y8x8w",
  "3x4y5z6ba7bb8ba8z7ba8z8y6z7ba8z8y7z8y8x5y6z7ba8z8y7z8y8x6y7z8y8x7y8x8w4x5y6z7ba8z8y7z8y8",
  "x6y7z8y8x7y8x8w5x6y7z8y8x7y8x8w6x7y8x8w7x8w8v2w3x4y5z6ba7bb8ba8z7ba8z8y6z7ba8z8y7z8y8x5y",
  "6z7ba8z8y7z8y8x6y7z8y8x7y8x8w4x5y6z7ba8z8y7z8y8x6y7z8y8x7y8x8w5x6y7z8y8x7y8x8w6x7y8x8w7x",
  "8w8v3w4x5y6z7ba8z8y7z8y8x6y7z8y8x7y8x8w5x6y7z8y8x7y8x8w6x7y8x8w7x8w8v4w5x6y7z8y8x7y8x8w6",
  "x7y8x8w7x8w8v5w6x7y8x8w7x8w8v6w7x8w8v7w8v8eNcEADeK PERMITTED HEREeST-FEEDINGdVEcICKdDE W",
  "ITH VEILeGE AT NIGHTdEFCASEfScOCCOLIdKEN BARhCIRCLE WITH NORTHWEST ARROWhHEARTdOMdWN HEA",
  "RTbSbUBBLE TEAgScCKETcGdINESE END OF SECTIONjLETTER AqBAqCAqDAqGAqHAqJAqKAqLAqMArPAqNArG",
  "AsKArRArYAsCAqPAqRAqSAqTAqVAqYAjPALLAWAjVOWEL SIGN AEuEuIuOuUcHID LETTER AnBAnDAnGAnHAnI",
  "nKAnLAnMAnNAoGAnPAnRAnSAnTAnUnWAnYAgVOWEL SIGN IrUcILDING CONSTRUCTIONcLLETg OPERATOReHO",
  "RNi WITH SOUND WAVESeSEYEcRRITOcSd STOPdT IN SILHOUETTEeS IN SILHOUETTEcTTERgFLYbYTE ORD",
  "ER MARKcZANTINE MUSICAL SYMBOL AGOGI ARGIbiOTERIbfGORGIbjOTERIbfMESIbhTRIAbfPOLI ARGIbkG",
  "ORGIbaNATRICHISMAbbTIKENOKYLISMAbhMAbaPESO EKFONITIKONbgXO NEObbLIbbODERMA ARCHAIONbiNEO",
  "bcSTROFOI SYNDESMOS NEObkTELOUS ICHIMATOSbiSbj DIPLIbkNEObcTHEMAbaRGONbdSYNTHETONbbKTIKO",
  " DIbhGAbhKEbhNIbhPAbhVOUbhZOzCHAMILIbfONbbOREVMA ARCHAIONbiNEObbROA KLITONbfSPATHIbfZYGO",
  "SzDASEIAbaIARGONbcSTOLI APLI MEGALIboIKRIbiDIPLIbiTHESEOSbbESIS APLI DYO DODEKATAbgDIGRA",
  "MMOS EX DODEKATAbgMONOGRAMMOS TESSERA DODEKATAbgTETARTIMORIONbhRIGRAMMOS OKTO DODEKATAbj",
  "TIMORIONbbFTOGGOS OUbbGORGONbh PARESTIGMENON ARISTERA ANOcfKATObwDEXIAbcRAMMA GGbbPLIbe ",
  "ARCHAIONbaYOzEKSTREPTONbaLAFRONbaNARXIS KAI FTHORA VOUbbDOFONONbaPEGERMAbaTERON ARGOSYNT",
  "HETONbgPARAKALESMAbaXO EKFONITIKONzFANEROSIS DIFONIASbjMONOFONIASbjTETRAFONIASbaHTORA SK",
  "LIRON CHROMA VASISbaTHORA ARCHAIONbo DEYTEROU ICHOUbgDIATONIKI DIbqKEbqNANAbrI ANObtKATO",
  "bqPAbqZObgENARMONIOS ANTIFONIAbgI YFESIS TETARTIMORIONbgMALAKON CHROMA DIFONIASbvMONOFON",
  "IASbgNAOS ICHOSbhENANObgSKLIRON CHROMA SYNAFIbvVASISboDIATONON DIzGENIKI DIESISbgYFESISb",
  "aORGON ARCHAIONbgNEO ANObkKATObgPARESTIGMENON ARISTERAbuDEXIAbeSYNTHETONbcTHMIKON N APLO",
  "UNbmDIPLOUNbaRONTHISMATAzICHADINbaMIDIARGONbcFONONbdTHORAbhONbaSAKIA TELOUS ICHIMATOSbbO",
  "N ARCHAIONbeNEOzKATAVA TROMIKONbfSMAbcHISTIbaENTIMA ARCHAIONbhNEO ANOblKATOblMESObgTAbi ",
  "ARCHAIONbjNEO ANObnKATObnMESObaLASMAbf ANObgKATObaONTEVMAbh ALLObbRONISbbUFISMAbaRATIMA ",
  "ALLObiRCHAIONbhNEObgTAbfOKOUFISMAbgYPORROONbbEMASTIbaYLISMAzLEIMMA DYO CHRONONbgENOS CHR",
  "ONOUbgIMISEOS CHRONOUbgTESSARON CHRONONbhRION CHRONONbbMOIbaYGISMAzMARTYRIA ALLI DEYTERO",
  "S ICHOSbnPROTOS ICHOSbiDEYTEROS ICHOSbiLEGETOS ICHOSbiPLAGIOS ICHOSbqTETARTOS ICHOSbjROT",
  "OS ICHOSbnVARYS ICHOSbiTETARTOS ICHOSbrLEGETOS ICHOSbjRIFONIASblTOS ICHOSbiVARYS ICHOSba",
  "IKRON ISONzNANAzOLIGON ARCHAIONbgNEObaMALONbaXEIA DIPLIbfEKFONITIKONbfNEObeI ARCHAIONbaY",
  "RANISMA ARCHAIONbjNEOzPARAKALESMA ARCHAIONblNEObeLITIKIbk ARCHAIONblNEObcICHONbaELASTONb",
  "h NEObbRISPOMENIbbTASMAbeTIbfOKOUFISMAbaIASMA ARCHAIONbgNEObaSIFISTOLYGISMAbhNbi NEObhPA",
  "RAKALESMAbhSYNAGMAbcLIbdONzRAPISMAbaEVMAzSAXIMATAbaEISMAbf NEObaIMANSIS ARSEOSbo DISIMOU",
  "bpTETRASIMOUbqRISIMOUbiTHESEOSbp DISIMOUbqTETRASIMOUbrRISIMOUbaTAVROSbg APODEXIAbbIGMAbb",
  "RAGGISMATAbaYNAGMA ARCHAIONbhMETA STAVROUbhNEObcEVMAbbRMAbeTIKIzTELEIAbbSSERAbbTRAPLIbaH",
  "EMAbe APLOUNbeTISMOS ESObmXObcS KAI APOTHESbbITAbaINAGMAbaRIAbcGORGONbcPLIbbOMIKOLYGISMA",
  "bgN ALLObjRCHAIONbiNEObgPARAKALESMAbhSIFISTONbgSYNAGMAzVAREIA DIPLIbgEKFONITIKONbgNEObfI",
  " ARCHAIONbbTHYzXIRON KLASMAzYFEN ANObeKATObcSIS APLI DYO DODEKATAbgDIGRAMMOS EX DODEKATA",
  "bgMONOGRAMMOS TESSERA DODEKATAbgTRIGRAMMOS OKTO DODEKATAbjTIMORIONbaPOKRISISbi DIPLIbcRR",
  "OIbbSILIaCACTUScDA UNAdUCEUScLENDARdL ME HANDcMERAg WITH FLASHdPINGcNdADIAN SYLLABICS Au",
  "AvIvYuIvVILIK BuNuTHAPASCAN MbeSuYtBEAVER DENE LbfRuIBLE-CREE YuLACKFOOT AbdEbdIbdKAbeEb",
  "eIbeObdNAbeEbeIbeObdObdSbdWbeAbeEbeIbeOtCuAvAwIvRRIER CHAbdEbeEbdIbdObdUbbDEEbdNE GEEbeT",
  "AL SbcIbcLAbdEbeEbdIbdObdUbcZAbdEbeEbdIbdObdUbbEEbbGAbdAbcEbdEbcHAbdEbeEbdIbdObdUbcIbcOb",
  "cUbcWAbdUbbHbcEEbcIbcWAbdEbeEbdIbdObdUbbIbcNITIAL ZbbJAbcEbdEbcIbcJAbdEbeEbdIbdObdUbcObc",
  "UbcWAbbKHAbdEbeEbdIbdObdUbcKbdAbdEbeEbdIbdObdUbbLAbcEbdEbcHAbdEbeEbdIbdObdUbcIbcObcUbbMA",
  "bcEbdEbcIbcObcUbbNAbcEbdEbcGbcIbcObcUbbPbcAbcEbdEbcIbcObcUbbRAbcEbdEbcIbcObcUbbSAbcEbdEb",
  "cHbdAbdEbeEbdIbdObdUbcIbcObcUbbTHAbdEbeEbdIbdObdUbcLAbdEbeEbdHAbeEbfEbeIbeObeUbdIbdObdUb",
  "cSAbdEbeEbdIbdObdUbcTAbdEbeEbdIbdObdSAbeEbfEbeIbeObeUbdUbbWAbcEbdEbcIbcObcUbbYAbcEbdEbcI",
  "bcObcUbbZbcAbcEbdEbcIbcObcUuEuHI SIGNuIvIuOvOuWAwAvEvIwIvOwOtEuASTERN WuNtFuAvAwIuEuIvIv",
  "NAL ACUTEzBOTTOM HALF RINGzDOUBLE ACUTEbgSHORT VERTICAL STROKESbbWN TACKzGRAVEzMIDDLE DO",
  "TzPLUSzRAISED DOTbaIGHT HALF RINGbbNGzSHORT HORIZONTAL STROKEbaMALL RINGzTOP HALF RINGuO",
  "vOuULL STOPuWAAtGLOTTAL STOPtHKuYPHENtIuIuNtKuAvAwIvYuEuIvIuOvOuWvAwAwYvEvIwIvOwOtLuAvAw",
  "IvYuEuHvAwAvIwIvOwOuIvIuOvOuWAwAvEvIwIvOwOtMuAvAwIvYuEvDIAL LbaRuHuIvIuOvOwSE-CREE SKuWA",
  "wAvEvIwIvOwOtNu-CREE THEbcIbdIuAvAwIvSKAPI CWAAbbKWAAbbMWAAbbNWAAbbS-WbcCWAbcKWbeAbcPWAb",
  "cTWAbcWAAbbTWAAbbWAAbcOObbYWAAvTTILIK HAbeAbdIbeIbdObeObcSHRAbgAbfIbgIbfObgOvYuEuGvAwAxI",
  "wIvIwIvOwOuHuIvIuNGwAxAwIxIwOxOuOvOvYuUNAVIK HbcAbdAbcEbcIbdIbcObdOyUT HuWAwAvEvIwIvOwOt",
  "OuJIBWAY CbbKbbMbbNbcWIbeIbdObeObbPbbSbcHbbTuNuOuYtPuAvAwIvYuEuIvIuOvOvYuWAwAvEvIwIvOwOw",
  "YtQuAvAwIvIuIvIuOvOtRu-CREE REbbWEuAvAwIvYuEuIvIuOvOuWAwAvEEvIwIvOwOtSuAvAwIvYwISI HAbbE",
  "bbIbbObcObaJIbbUbcUbaMbaSHAbcEbcIbcObdObcWEbaTHbaYIuEuHvAwAwYvEvIwIvOwOwYvWAxAwEwIxIwOxO",
  "xYuIvIuOvOvUTH-SLAVEY KAHbhEHbhIHbhOHvYuPAvEvIvOuWvAwAvEvIwIvOwOtTuAvAwIvYuEuHv-CREE THb",
  "dAbeAbdEbdIbeIbdObeOvAwAvEvIwIvOwOvWAxAwEuIvIuLHAwEwIwOxOwWEuOvOuTAvEvHwAxAwEwIwOxOwWEvI",
  "vOuWAwAvEvIwIvOwOuYAvEvIvOtWAvAvYuEvST-CREE CWAbgAbfEbfIbgIbfObgObdFWAAbdKWAbgAbfEbfIbgI",
  "bfObgObdLbeAbfAbeEbeObfObeWAbgAbfEbfIbgIbfObgObdMbeWAbgAbfEbfIbgIbfObgObdNWAbgAbfEbdPbeW",
  "AbgAbfEbfIbgIbfObgObdRbeAbeEbeIbeObeWAAbdSHWAbhAbgEbgIbhIbgObhObeWAbgAbfEbfIbgIbfObgObdT",
  "HWAAbeWAbgAbfEbfIbgIbfObgObdWAbfAbeEbeIbfIbeObfObdYbeWAbgAbfEbfIbgIbfObgOxERN WuIvIuOvOw",
  "DS-CREE FINAL THbeTHbgAbgEbgIbgObgWAbiAbhEEbhIbiIbhObiOtYu-CREE COObaKOObaLOObaMOObaNOOb",
  "aOObaPOObbWAAbaSOObaTOObaWbaYOOuAvAwIvYuEuIvIuOvOvYuWAwAvEvIwIvOwOdCELg CHARACTERhTAGgLA",
  "TION XfRdDLEeYdNED FOODdOEcPITULUMdRICORNcR SLIDINGdD FILE BOXfINDEXk DIVIDERSdE OFeTf I",
  "NSERTION POINTdIAN LETTER Ap2oBoC-18q39oDp2oEp2oGp2oIpIoKp2oLpDq2oMpBq2q3q4oNpDpGpNoOoPp",
  "2oQoRpRoSpHq2pSpTq2oTpTq2oUpUqUr2r3rUoXdONeUSEL HORSEdP STREAMEReENTRY SAWdRIAGE RETURNe",
  "OTcSTLEcTd FACEi WITH TEARS OF JOYoWRY SMILEcUCASIAN ALBANIAN CITATION MARKtLETTER ALTbb",
  "ORbaBETbaCARbcYNbbHAbdTbcIbcOYbbYAWbdYbaDATbbYANbbZAYbcYAYbaEBbbYNbaFAMbaGHEYSbbIMbaHEYT",
  "baINYAbbRBbbWNbaJAYNbbHOXbaKARbbIWbaLANbbYITbaMAQbaNOWCbaONbaPENbbIWRbaQARbcYbaRATbaSEYK",
  "bbHAbdKbcOYbaTASbbIWRbbYAYbaVEYZbaXEYNbaYAYDbbOWDbaZARLbbHAbcILdTION SIGNbCHbEDI SIGNeLL",
  "AcLTIC CROSScNT SIGNeRE LINE SYMBOLgLINE LOW LINElOVERLINEcRESbGJbHAINSeRdKMA AU MARKhDA",
  "NDAiIGIT EIGHTnFIVEoOURnNINEnONEnSEVENoIXnTHREEoWOnZEROiOUBLE DANDAhLETTER AAoBAApHAAoCA",
  "ApHAAoDAApDAAqHAApHAAoEoGAApHAAoHAAoIoJAApHAAoKAApHAAoLAApHAAoMAAoNAApGAApNAApYAAoPAApHA",
  "AoRAAoSAAoTAApHAApTAAqHAAoUoVAAoWAAoYAApYAAhMAAYYAAhO MARKhQUESTION MARKhSECTION MARKiIG",
  "N ANUSVARAmCANDRABINDUmVISARGAhVIRAMAiOWEL SIGN AtAtItUsEtIsItIsOtIsUtUdM CONSONANT SIGN",
  " FINAL HbaMbaNGuLAuRAuWAuYAfDIGIT EIGHTlFIVEmOURlNINElONElSEVENmIXlTHREEmWOlZEROfLETTER ",
  "AnImBAnBAnHAmCHAoHAmDAnDAnHAmEmFINAL CHsGsKsLsNtGsPsRsSSsTsYmGAnHAmHAmImJAnHAmKAnHAmLAmM",
  "AnUEmNAnGAoUEnHAoJAoUEnUEmOmPAnHAnPAmRAmSAnSAmTAnHAmUmVAmYAfPUNCTUATION DANDAsOUBLE DAND",
  "ArSPIRALrTRIPLE DANDAfVOWEL SIGN AArIrUqEIqIrIqOrEqUrEdRACTER TABULATIONu SETvWITH JUSTI",
  "FICATIONlIEeT WITH DOWNWARDS TRENDlUPWARDS TRENDy AND YEN SIGNcECK MARKfER BOARDn FILLdE",
  "RING MEGAPHONEeSE WEDGEdQUERED FLAGdROKEE LETTER AqDArErIrLArOrUrVqEqGArErIrOrUrVqHArErI",
  "rNArOrUrVqIqKAqLArErIrOrUrVqMArErIrOrUrVqNAsHrErIrOrUrVqOqQUAsEsIsOsUsVqSrArErIrOrUrVqTA",
  "rErIrLAsEsIsOsUsVrSAsEsIsOsUsVqUqVqWArErIrOrUrVqYArErIrOrUrVjSMALL LETTER AwDAxExIxLAxOx",
  "UxVwEwGAxExIxOxUxVwHAxExIxNAxOxUxVwIwKAwLAxExIxOxUxVwMAxExIxOxUxVwNAyHxExIxOxUxVwOwQUAyE",
  "yIyOyUyVwSxAxExIxOxUxVwTAxExIxLAyEyIyOyUyVxSAyEyIyOyUyVwUwVwWAxExIxOxUxVwYAxExIxOxUxVeRI",
  "ESfY BLOSSOMdSTNUTcI RHOdCKENdLDfREN CROSSINGdPMUNKdRONcOCOLATE BARdPSTICKSdRASMIAN LETT",
  "ER ALEPHtYINsBETHsCURLED WAWsDALETHsGIMELsHEuTHsKAPHsLAMEDHsMEMsNUNsPEsRESHsSAMEKHtHINtM",
  "ALL ALEPHsTAWsWAWsYODHsZAYINlNUMBER FOURsONEv HUNDREDsTENtHREEtWENTYuOcRISTMAS TREEcURCH",
  "bINEMAcRCLE DIVIDED BY HORIZONTAL BAR AND TOP HALF DIVIDED BY VERTICAL BARhWITH ALL BUT ",
  "UPPER LEFT QUADRANT BLACKmHORIZONTAL BARmLEFT HALF BLACKnOWER HALF BLACKmRIGHT HALF BLAC",
  "KmSMALL CIRCLE TO THE RIGHTnUPERIMPOSED XmTWO HORIZONTAL STROKES TO THE RIGHTmUPPER HALF",
  " BLACKsRIGHT QUADRANT BLACKmVERTICAL FILLgD ANTICLOCKWISE ARROWv-ROTATED DIVISION SIGNjS",
  "TERISK OPERATORiBOLD XjULLETiC WITH OVERLAID BACKSLASHjCjDjROSS FORMEEu WITH FOUR DOTSba",
  "TWO DOTSoPOMMEEnING LANESiDASHjIGIT EIGHToFIVEpOURoNINEoONEoSEVENpIXoTHREEpWOoZEROkVISIO",
  "N SIGNsLASHjOLLAR SIGN WITH OVERLAID BACKSLASHkT OPERATORiEQUALSiGREATER-THANiHANGUL CHI",
  "EUCHw AqIEUCu ApHIEUHu ApIEUNGu AvUpKHIEUKHw AqIYEOKv ApMIEUMu ApNIEUNu ApPHIEUPHw AqIEU",
  "Pu ApRIEULu ApSIOSt ApTHIEUTHw AqIKEUTv AjEAVY WHITE RIGHTWARDS ARROWjORIZONTAL BAR WITH",
  " NOTCHjUMAN FIGUREiIDEOGRAPH ACCEPTtDVANTAGEtLLIANCEtTTENTIONsCENTREtONGRATULATIONuPYuRR",
  "ECTsEARTHtIGHTtNTERPRISEtXCELLENTsFEMALEtINANCIALuREuVEtOURsHAVEtIGHsITEMsKINDERGARTENtO",
  "TOsLABORtEFTtOWsMALEtEDICINEuTALtOONsNAMEtIGHTuNEsONEsPRINTsQUESTIONsRELIGIONuSOURCEvTtI",
  "GHTsSCHOOLtECRETuVENtIXtOCIETYtPECIALtTOCKuUDYtUITABLEuNuPERVISEsTENtHREEtWOsWATERtOODjN",
  "FORMATION SOURCEjTALIC LATIN CAPITAL LETTER CbkRiKATAKANA ArErHAsEsIsOsUrIrKAsEsIsOsUrMA",
  "sEsIsOsUrNAsEsIsOsUrOrRAsEsIsOsUrSAsEsIsOsUrTAsEsIsOsUrUrWAsEsIsOrYAsOsUjOREAN CHARACTER",
  " CHAMKOzJUEUIiLATIN CAPITAL LETTER AbdBbdCbdDbdEbdFbdGbdHbdIbdJbdKbdLbdMbdNbdObdPbdQbdRb",
  "dSbdTbdUbdVbdWbdXbdYbdZoSMALL LETTER AbbBbbCbbDbbEbbFbbGbbHbbIbbJbbKbbLbbMbbNbbObbPbbQbb",
  "RbbSbbTbbUbbVbbWbbXbbYbbZjESS-THANiMINUSjULTIPLICATION SIGN WITH CIRCUMFLEX ACCENTiNUMBE",
  "R EIGHTEENuY ON BLACK SQUAREqLEVENpFIFTEENtYu ON BLACK SQUAREqORTYu EIGHTvFIVEwOURvNINEv",
  "ON BLACK SQUARExEvSEVENwIXvTHREEwWOrURTEENpNINETEENpSEVENTEENvY ON BLACK SQUAREqIXTEENtY",
  " ON BLACK SQUAREpTENs ON BLACK SQUAREqHIRTEENuYv EIGHTwFIVExOURwNINEwON BLACK SQUAREyEwS",
  "EVENxIXwTHREExWOqWELVEsNTYv EIGHTwFIVExOURwNINEwON BLACK SQUAREyEwSEVENxIXwTHREExWOiOPEN",
  " CENTRE EIGHT POINTED STARiPARALLELjERPENDICULARjLUSjOSTAL MARKiREVERSE SOLIDUSjING OPER",
  "ATORiSQUAREiTIMESjRIANGLEq DOWNiVERTICAL BARiWHITE BULLEToSTARjZiXiZERO WITH SLASHeULATI",
  "ON FUNCTIONfMFLEX ACCENTfS TENTcTYSCAPEj AT DUSKbJK RADICAL BAMBOOnLUEnOLT OF CLOTHoNEoX",
  "nRUSH ONEsTWOmC-SIMPLIFIED BIRDzCARTzDRAGONzEATbaVENzFISHbaLYbaROGzGATEbaOLDzHORSEzLEAFb",
  "aONGzSALTbaEEbaHELLbaILKbaPEECHzTANNED LEATHERbaOOTHbaURTLEzWINDnHOKEnITYoVILIANnLIFFoOT",
  "HESnOWmDEATHnIVINATIONnOGmEAT ONEqTHREErWOnWEnYEmFIREnOOTmGHOSTnRASS ONEsTHREEtWOmHANDnE",
  "ADpRT ONEsTWOnORNmJ-SIMPLIFIED DRAGONzEVENzTOOTHbaURTLEnADEmKNIFE ONEsTWOmLAME FOURrONEr",
  "THREEsWOnONG ONErTWOmMEAToSHnOONoRTARoTHERoUND ONEsTWOmNET FOURqONEqTHREErWOmOLDmPAW ONE",
  "qTWOnERSONmRAINoMoPnEPEATmSEALoCOND ONEtTHREEuWOnHEEPnILKoMPLIFIED HALF TREE TRUNKyORNxW",
  "ALKyHEATxYELLOWnMALL ONEsTWOnNAKEoOUT ONEsTWOnPIRIT ONEtTWOnUNmTABLEnHREADnIGERnURTLEmWA",
  "LK ONErTWOoTER ONEsTWOnEST ONErTWOeSTROKE BXGlDlHmGmPnWGmXWGmZnGnTnWoGnZoPoZpGlNlPmDmGmZ",
  "lQlSmGmPmTmWnGnZmZnWGnZlTmNlWGlXGbLAMSHELL MOBILE PHONEdPPER BOARDfING HANDS SIGNdSSICAL",
  " BUILDINGcEAR SCREEN SYMBOLcINKING BEER MUGSjGLASSESdPBOARDcOCK FACE EIGHT OCLOCKq-THIRT",
  "YmLEVEN OCLOCKr-THIRTYlFIVE OCLOCKp-THIRTYmOUR OCLOCKp-THIRTYlNINE OCLOCKp-THIRTYlONE OC",
  "LOCKo-THIRTYlSEVEN OCLOCKq-THIRTYmIX OCLOCKo-THIRTYlTEN OCLOCKo-THIRTYmHREE OCLOCKq-THIR",
  "TYmWELVE OCLOCKr-THIRTYnO OCLOCKo-THIRTYfWISE CLOSED CIRCLE ARROWlONTOUR INTEGRALkDOWNWA",
  "RDS AND UPWARDS OPEN CIRCLE ARROWSkGAPPED CIRCLE ARROWkINTEGRALkOPEN CIRCLE ARROWkRIGHT ",
  "AND LEFT SEMICIRCLE ARROWSpWARDS AND LEFTWARDS OPEN CIRCLE ARROWScb WITH CIRCLED ONE OVE",
  "RLAYkTOP SEMICIRCLE ARROWlRIANGLE-HEADED OPEN CIRCLE ARROWdSE UPfD BOOKhINTERSECTION WIT",
  "H SERIFShLOCK WITH KEYhMAILBOX WITH LOWERED FLAGuRAISED FLAGhSUBSETn OR EQUAL TOjPERSETp",
  " OR EQUAL TOhUMBRELLAiNION WITH SERIFSy AND SMASH PRODUCTdUDf WITH LIGHTNINGlRAINlSNOWlT",
  "ORNADOdWN FACEbOATcCKROACHeTAIL GLASSdONUTcFFINcINcLLISION SYMBOLdONf EQUALSgSIGNcMBININ",
  "G ACUTE ACCENTw BELOWqTONE MARKp-GRAVE-ACUTEqMACRONlLMOST EQUAL TO ABOVEbaBELOWlNNUITY S",
  "YMBOLmTICLOCKWISE ARROW ABOVEyRING OVERLAYlSTERISK ABOVEtBELOWkBINDU BELOWlREVEp BELOWp-",
  "MACRONmIDGE ABOVErBELOWkCANDRABINDUmRONp BELOWlEDILLAlIRCUMFLEX ACCENTbb BELOWlLOCKWISE ",
  "ARROW ABOVEuRING OVERLAYlOMMA ABOVEv RIGHTqBELOWmNJOINING MACRONbb BELOWlYRILLIC DASIA P",
  "NEUMATAtHUNDRED MILLIONS SIGNbbTHOUSANDS SIGNtKAVYKAtLETTER AbaBEbbIG YUSbaCHEbaDEbbJERV",
  "baEFbbLbbMbbNbbRbbSbc-TEbaFITAbaGHEbaHAbcRD SIGNbaIbbEbbOTIFIED AbjBIG YUSbjEbaKAbaLITTL",
  "E YUSbaMONOGRAPH UKbaObbMEGAbaPEbaSHAbcCHAbbOFT SIGNbaTEbbSEbaUbbKRAINIAN IEbaVEbaYATbbE",
  "RUbbIbbUbaZEbbHEtMILLIONS SIGNtPALATALIZATIONvYEROKuOKRYTIEuSILI PNEUMATAtTEN MILLIONS S",
  "IGNuHOUSAND MILLIONS SIGNuITLOy LEFT HALFzRIGHT HALFtVZMETkDELETION MARKmVANAGARI DIGIT ",
  "EIGHTbbFIVEbcOURbbNINEbbONEbbSEVENbcIXbbTHREEbcWObbZEROvLETTER AbcKAbcNAbcPAbcRAbcUbcVIv",
  "SIGN AVAGRAHAlIAERESISt BELOWt-RINGlOT ABOVEt LEFTuRIGHToBELOWt LEFTnTED ACUTE ACCENTrGR",
  "AVE ACCENTmUBLE ACUTE ACCENTrBREVEw BELOWrCIRCUMFLEX ABOVErGRAVE ACCENTrINVERTED BREVEbf",
  " BELOWrLOW LINErMACRONx BELOWrOPEN MARK BELOWsVERLINErPARENTHESES ABOVEsLUS SIGN ABOVEbb",
  "BELOWrRIGHTWARDS ARROW BELOWtNG BELOWrTILDEw LEFT HALFxRIGHT HALFrVERTICAL LINE ABOVEbfB",
  "ELOWbaSTROKE OVERLAYqD CIRCUMFLEX ACCENTmWN TACK BELOWoWARDS ARROWkENCLOSING CIRCLEba BA",
  "CKSLASHuDIAMONDuKEYCAPuSCREENvQUAREuUPWARD POINTING TRIANGLElQUALS SIGN BELOWkFERMATAlOU",
  "R DOTS ABOVEkGLAGOLITIC LETTER AZUbcBIG YUSbdUKYbcCHRIVIbcDJERVIbdOBRObcFITAbdRITUbcGLAG",
  "OLIbcHERUbcIbdNITIAL IZHEbdOTATED BIG YUSbkSMALL YUSbdZHEbcKAKObcLJUDIJEbcMYSLITEbcNASHI",
  "bcONUbcPOKOJIbcRITSIbcSHAbeTAbdLOVObdMALL YUSbcTSIbdVRIDObcUKUbcVEDEbcYATIbdERIbfUbeSTUb",
  "dObdUbcZEMLJAbdHIVETElRANTHA DIGIT FIVEzOURyONEySIXyTHREEzWOyZEROsLETTER AzKAzNAzPAzVInP",
  "HEME JOINERnVE ACCENTw BELOWqTONE MARKp-ACUTE-GRAVEqMACRONmEEK DIALYTIKA TONOSqKORONISqM",
  "USICAL PENTASEMEyTETRASEMEzRISEMEqPERISPOMENIqYPOGEGRAMMENIkHOMOTHETIC ABOVEmOK ABOVEmRN",
  "kINFINITYmVERTED BREVEy BELOWvIDGE BELOWtDOUBLE ARCH ABOVEbfBELOWlS BELOWkKATAKANA-HIRAG",
  "ANA SEMI-VOICED SOUND MARKbcVOICED SOUND MARKmVYKA ABOVE LEFTxRIGHTkLATIN LETTER SMALL C",
  "APITAL GblLblMblNblRqSMALL LETTER Abe WITH DIAERESISbeEbeLPHAbeObeVbdBbeETAbdCbe CEDILLA",
  "bdDbdEbeSHbeTHbdFbeLATTENED OPEN A ABOVEbdGbdHbdIbeNSULAR DblGblRblTbdKbdLbe WITH DOUBLE",
  " MIDDLE TILDEbeONG SbdMbdNbdObe WITH DIAERESISbkLIGHT CENTRALIZATION STROKEbdPbdRbe BELO",
  "WbfROTUNDAbdSbeCHWAbdTbeURNED W BELOWbdUbe WITH DIAERESISbkLIGHT CENTRALIZATION STROKEbd",
  "VbdWbe BELOWbdXbdZlEFT ANGLE ABOVEvBELOWqRROW ABOVEvBELOWuHEAD ABOVEzBELOWpHALF RING ABO",
  "VEzBELOWrRPOON ABOVEpPARENTHESIS ABOVE LEFTbbBELOW LEFTpRIGHT ARROW ABOVEbbBELOWpTACK BE",
  "LOWoWARDS ARROW OVERLAYuHARPOON WITH BARB DOWNWARDSlIGATURE LEFT HALFbc BELOWtRIGHT HALF",
  "bd BELOWnHT CENTRALIZATION STROKE BELOWlONG DOUBLE SOLIDUS OVERLAYpSOLIDUS OVERLAYqTROKE",
  " OVERLAYpVERTICAL LINE OVERLAYmW LINEkMACRONq BELOWrLEFT HALFba BELOWrRIGHT HALFbb BELOW",
  "q-ACUTErBREVErGRAVElINUS SIGN BELOWkNOT TILDE ABOVElUMBER SIGN ABOVEkOGONEKq ABOVElLD PE",
  "RMIC LETTER ANbcDOIbcNENOEbcSIIbcZATAlPEN MARK BELOWlVERLINEkPALATALIZED HOOK BELOWmRENT",
  "HESES ABOVEwBELOWwOVERLAYlLUS SIGN ABOVEuBELOWkRETROFLEX HOOK BELOWmVERSE SOLIDUS OVERLA",
  "YrD COMMA ABOVElIGHT ARROW ABOVEwBELOWvHEAD ABOVEbbND DOWN ARROWHEAD BELOWbeUP ARROWHEAD",
  " BELOWbaBELOWqHALF RING ABOVEbaBELOWsRPOON ABOVEqPARENTHESIS ABOVE RIGHTbcBELOW RIGHTqTA",
  "CK BELOWpWARDS HARPOON WITH BARB DOWNWARDSmNG ABOVEpBELOWpOVERLAYkSEAGULL BELOWlHORT SOL",
  "IDUS OVERLAYrTROKE OVERLAYqVERTICAL LINE OVERLAYlNAKE BELOWlQUARE BELOWsRACKETS ABOVElTR",
  "ONG CENTRALIZATION STROKE BELOWlUSPENSION MARKkTHREE DOTS ABOVElILDEp BELOWqLEFT HALF BE",
  "LOWqOVERLAYqRIGHT HALF BELOWlRIPLE ACUTE ACCENTrDOTrUNDERDOTlURNED COMMA ABOVEkUP TACK A",
  "BOVEsBELOWmWARDS ARROW BELOWlR ABOVElS ABOVEkVERTICAL LINE ABOVEyBELOWtTILDEkWIDE BRIDGE",
  " ABOVEpINVERTED BRIDGE BELOWmGGLY LINE BELOWkX ABOVEmBELOWl-X BELOWkZIGZAG ABOVErBELOWdE",
  "TdMAeERCIAL ATlMINUS SIGNdPASSeLEMENTeOSITION SYMBOLeRESSIONcNFETTI BALLeOUNDED FACEeUSE",
  "D FACEdGRUENT WITH DOT ABOVEdICAL TAPERdJUNCTIONdSTRUCTION SIGNnWORKERdTAINS AS MEMBERmN",
  "ORMAL SUBGROUPbb OR EQUAL TOjWITH LONG HORIZONTAL STROKEoOVERBARoVERTICAL BAR AT END OF ",
  "HORIZONTAL STROKEeINUOUS UNDERLINE SYMBOLeOUR INTEGRALeROL KNOBSiSEQUENCE INTRODUCERdVEN",
  "IENCE STOREcOKED RICEeIEfNGcPTIC CAPITAL LETTER AKHMIMIC KHEIxLFAwBOHAIRIC KHEIwCROSSED ",
  "SHEIyYPTOGRAMMIC EIEbkGANGIAbkNIbkSHEIwDALDAxEIxIALECT-P ALEFbgHORIbgKAPAbgNIwEIEwFEIxIw",
  "GAMMAyNGIAwHATExORIwIAUDAwKAPAxHEIyIxSIwL-SHAPED HAxAULAwMIwNIwOxLD COPTIC AINbhDJAbhESH",
  "bhGANGIAbhHAbjTbiEIbiORIbhOOUbhSHEIbjIMAbaNUBIAN NGIbiYIbhSHIMAbhWAUxOUwPIxSIwROwSAMPIxH",
  "EIyIMAxIMAxOUwTAUxHETHEwUAwVIDAwZATAiOMBINING NI ABOVErSPIRITUS ASPERbaLENIShEPACT DIGIT",
  " EIGHTtFIVEuOURtNINEtONEtSEVENuIXtTHREEuWOnNUMBER EIGHT HUNDREDzYuFIFTYwVE HUNDREDvORTYw",
  "UR HUNDREDuNINE HUNDREDyTYuONE HUNDREDuSEVEN HUNDREDzTYvIX HUNDREDxTYuTENvHIRTYwREE HUND",
  "REDvWENTYwO HUNDREDnTHOUSANDS MARKhFRACTION ONE HALFiULL STOPhMORPHOLOGICAL DIVIDERhOLD ",
  "NUBIAN DIRECT QUESTION MARKsFULL STOPsINDIRECT QUESTION MARKsVERSE DIVIDERhSMALL LETTER ",
  "AKHMIMIC KHEIvLFAuBOHAIRIC KHEIuCROSSED SHEIwYPTOGRAMMIC EIEbiGANGIAbiNIbiSHEIuDALDAvEIv",
  "IALECT-P ALEFbeHORIbeKAPAbeNIuEIEuFEIvIuGAMMAwNGIAuHATEvORIuIAUDAuKAPAvHEIwIvSIuL-SHAPED",
  " HAvAULAuMIuNIuOvLD COPTIC AINbfDJAbfESHbfGANGIAbfHAbhTbgEIbgORIbfOOUbfSHEIbhIMAyNUBIAN ",
  "NGIbgYIbfSHIMAbfWAUvOUuPIvSIuROuSAMPIvHEIwIMAvIMAvOUuTAUvHETHEuUAuVIDAuZATAiYMBOL KAIpHI",
  " ROoMI ROoPI ROoSHIMA SIMApTAUROSoTAU ROdYLEFT SYMBOLeRIGHT SIGNcRALdNISH VERSE DIVIDERd",
  "RESPONDS TOcUCH AND LAMPdNTERBOREhSINKfING ROD TENS DIGIT EIGHTyFIVEzOURyNINEyONEySEVENz",
  "IXyTHREEzWOnUNIT DIGIT EIGHTyFIVEzOURyNINEyONEySEVENzIXyTHREEzWOdPLE WITH HEARTcWd FACEb",
  "RcABcEDIT CARDdSCENT MOONcICKETh BAT AND BALLcOCODILEdISSANTdSS MARKgOF JERUSALEMjLORRAI",
  "NEgPATTY WITH LEFT CROSSBARrRIGHT CROSSBARhOMMEEm WITH HALF-CIRCLE BELOWfED FLAGSiNEGATI",
  "VE SQUARED LATIN CAPITAL LETTER PiSWORDSfING LANESdWNcUTCHdZEIRO SIGNcYING CAT FACEhFACE",
  "dSTAL BALLbSIbUBE ROOTcCUMBERcNEIFORM NUMERIC SIGN EIGHT ASHbdDISHbdGESH2bdSHAR2bdUbe VA",
  "RIANT FORMbdVARIANT FORM USSUbu3yLAMITE FIFTYbgORTYbfONE THIRDbfTWO THIRDSxFIVE ASHbf TE",
  "NUbcBAN2bg VARIANT FORMbdURUbcDISHbcGESH2bgUbcSHAR2bgUbdIXTHS DISHbcUbd VARIANT FORMyOUR",
  " ASHbf TENUbcBAN2bg VARIANT FORMbdURUbcDISHbcGESH2bgUbcSHAR2bgUbcUbd VARIANT FORMbcVARIA",
  "NT FORM LIMMUbu AbvBbu4xNIGIDAESHbdMINzNE ASHbcDISHbcGESH2bcSHAR2bcUbd VARIANT FORMbcVAR",
  "IANT FORM ILIMMUbv Abv3bv4xOLD ASSYRIAN ONE QUARTERboSIXTHyNE BAN2bcURUbbEIGHTH ASHbcSHE",
  "3bbGESH2bfUbbHALF GURbbQUARTER ASHbjGURbbSHARUbbTHIRD DISHbhVARIANT FORM AxSEVEN ASHbdDI",
  "SHbdGESH2bdSHAR2bdUbe VARIANT FORMbdVARIANT FORM IMIN AbvBbu3yHAR2 TIMES GAL PLUS DISHbs",
  "MINyIX ASHbe TENUbbDISHbbGESH2bbSHAR2bbUbc VARIANT FORMbbVARIANT FORM ASH9xTHREE ASHbg T",
  "ENUbdBAN2beURUbh VARIANT FORMbdDISHbdGESH2bhUbdSHAR2bi VARIANT FORMbhUbi VARIANT FORMbdV",
  "ARIANT FORM ESH16bt21yWO ASHbe TENUbbBAN2bcURUbbESHE3bbGESH2bfUbbSHAR2bfUbbTHIRDS DISHbi",
  "VARIANT FORM AkPUNCTUATION SIGN DIAGONAL COLONbkQUADCOLONbkTRICOLONbbOLD ASSYRIAN WORD D",
  "IVIDERbbVERTICAL COLONkSIGN Aq TIMES AxBADxGAN2 TENUxHAxIGIxLAGAR GUNUxMUSHxSAGq2qBr GUN",
  "UsTIMES ASH2yDUN3 GUNUyGALbaN2 TENUyHAyIGI GUNUzMINyLAGAByNUNbb TENUySHESHbaU2yU PLUS U ",
  "PLUS Ur2s TIMES AzBALAGzGAN2 TENUzME PLUS ENzSHA3zTAK4qDr TIMES ESH2qKr TIMES ERIN2ySHIT",
  "A PLUS GISHqLr TIMES ALyDIM2yGISHyHAyKAD3zIySHEyUSHrANrEPHqMARt TIMES KUGbaSHEqNr OVER A",
  "NsPLUS NAGA OPPOSING AN PLUS NAGAbcSQUAREDsTHREE TIMESrSHEqPINqRADt TIMES KURrKABqSAL2rH",
  "s KABA TENUtOVER ASH OVER ASHbk CROSSING ASH OVER ASH OVER ASHbcTUG2 OVER TUG2 TUG2 OVER",
  " TUG2 PAPtZIDA TENUs2sGABpBArDs TIMES DISH TENUrG3rHAR2v TIMES AB2bcNIbcZArLs OVER BALsA",
  "GrRsA2qIr TIMES AyGARyIGI GUNUqUr CROSSING BUsOVER BU ABbaTIMES NA2baUNrLUGu OVER BULUGr",
  "Rs2pDAr TIMES TAK4rGs KISIM5 TIMES A PLUS MASHbhMARbgBALAGbhIbgGAbi PLUS MASHbhIbiR2bhUD",
  "bgHAbgIRbi PLUS LUbgKAKbgLAbhUbi PLUS MASH2biMbgNEbgPAP PLUS PAPbgSIbgTAK4bgU2 PLUS GIR2",
  "boMASHbhSHtTIMES KURs3rMrRsA3t4qIrBrMs TIMES IGIzSHEzU U Us2t TIMES UDrNs KASKAL U GUNU ",
  "DISHrSHt PLUS SHUqUr GUNUsOVER DUsSHESHIGrBs TIMES ESH2zSHEs2rGs TIMES ANSHEbaSHbc AT LE",
  "FTzDINbaUNzERIN2zGAbaIbbR2 GUNUbbSHzHAbaIzIGI GUNUzKASKALbaURbbSHU2bf PLUS KASKALzLAK-02",
  "0bbMbc TIMES KURbaUH PLUS GISHzMASHbaESbaIzNIzPIzSHEbaI GUNUsUDrHrNs3t GUNUy GUNUs4rR2pE",
  "q OVER E NUN OVER NUNrTIMES PAPq2r TIMES A PLUS HA PLUS DAyGARyKURyMIyPAPySALzHEyUqDINqG",
  "IRqLqNr CROSSING ENsOPPOSING ENsSQUAREDsTIMES GAN2bc TENUyMEqRENrIN2u XqSH2t CROSSING ES",
  "H2qZENt SHESHIG TIMES ASHbiHIbiIGI GUNUbiLAbkLbiMEbkSbiSUuTIMES Abb PLUS LALbk TIMES LAL",
  "bbNbaBADbaDUN3 GUNUbj GUNUbaGUDbaHAbc GUNUbaIGI GUNUbaKASKALbg SQUAREDbbU3baLAbcL TIMES ",
  "LALbbIbbUbaSHEbbUbaU2bbDpGAr GUNUr2s OVER GA2tTIMES A PLUS DA PLUS HAbgHAbgIGIbaB2 TENU ",
  "PLUS TABbaNbb PLUS KAK PLUS AbaSHbc2bd PLUS GALzBADbbHAR2bbR PLUS RAbaURbc PLUS RAzDAbaI",
  "bbM GUNUbdTIMES SHEbaUBbbG TIMES IGI GUNUbjKASKALzELbb PLUS LAbaNbb TIMES GAN2 TENUbaREN",
  "zGAbbN2 TENUbbRbc PLUS DIbiNEbaIbb4bc PLUS AbbR2 PLUS SUzHA PLUS AbhLU PLUS ESH2bbLbc PL",
  "US LAbaI PLUS LIbaUB2zIGI GUNUbaSH PLUS HU PLUS ASHzKAKbbSKALbaIDbc PLUS LALbaU3 PLUS AN",
  "bbSHU2 PLUS KASKALzLAbbMbc TIMES KURbaUHzME PLUS ENbaIbaUSHzNEbb PLUS E2bhGIbaUNbc OVER ",
  "NUNzPAzSALbbRbaHEbc PLUS TURbbIDbcMbaUMzTAK4zUbaDbb PLUS DUzZIZ2rBAt CROSSING GABAuROTAT",
  "ED NINETY DEGREESrDs OVER GAD GAR OVER GARrLs GAD OVER GAD GAR OVER GARsAMrMrNs2t CROSSI",
  "NG GAN2uOVER GAN2uTENUrRs3rSHANqE22rSHTINw TIMES KURbdUqIr CROSSING GIsTIMES EyUr4s CROS",
  "SING GI4tOVER GI4rDIMrGrR2t GUNUs3t TIMES A PLUS IGIbaGAN2 TENUbaIGIbaLU PLUS IGIbaPArSA",
  "LsHt CROSSING GISHuTENUvIMES BADbaGISH CROSSING GISHbaTAK4qUr CROSSING GUr2s GUNUtTIMES ",
  "IGI GUNUzKAKbc TIMES IGI GUNUzNUNzSAL PLUS TUG2rDs OVER GUD LUGALtPLUS GISH TIMES TAK4tT",
  "IMES A PLUS KURzKURrLrMs TIMES SHErRs7sUNtSHpHAr GUNUsTENUw GUNUrLqIr TIMES ASHbb OVER H",
  "I TIMES ASHbb2yBADyDISHyGADyKINyNUNySHEyUqUrB2t TIMES ANbaHALbaKASKALbaLISHbaUDrL2rSHpIq",
  " AqBqDIMt OVER IDIM BURbeSQUAREDqGrIs DIBtGUNUtOVER IGI SHIR OVER SHIR UD OVER UDtRIqLr ",
  "TIMES GAN2 TENUr2qMr CROSSING IMsOPPOSING IMsSQUAREDsTIMES TAK4rINqNqRqSHpKAr TIMES AzDb",
  "a PLUS KU3zNSHEzSH2bb3yBADbaLAGbaRzIzUyERIN2zSH2yGAbaLbaN2 TENUbaRbb PLUS SHA3 PLUS AzIb",
  "aR2baSHbc CROSSING GISHbdPLUS SARzUbaDbaR7yHI TIMES ASH2yIGIzMyKAbaKzIbaDyLIzUbaMyMEba P",
  "LUS DUbgGIbgTEzIba PLUS NUNUZyNEzUNyPAzIyRUySAbaRzHAbaEbaIDbaUbbLzIGzUHURyTARzUyUz U Uz2",
  "zDzMUM TIMES PAzRba2zSHyZIr2s CROSSING KA2rBrD2s3s4s5t OVER KAD5rKs TIMES IGI GUNUrLs CR",
  "OSSING KALtTIMES BADrM2s4rP ELAMITErSKALv LAGAB TIMES U OVER LAGAB TIMES UwOVER KASKAL L",
  "AGAB TIMES U OVER LAGAB TIMES UqESH2qIr TIMES BADyUzDrDrNrSALsHsIM5v OVER KISIM5qUr OVER",
  " HI TIMES ASH2 KU OVER HI TIMES ASH2r3r4s VARIANT FORMr7rLs GUNUrNrRs OPPOSING KURrSHU2q",
  "WU318pLArGABu SQUAREDvTIMES Abc PLUS DA PLUS HAbiGARbiLALbcLbcNbcSH ZIDA TENUbbBADbcIbbD",
  "ARbbENbbGAbdRbcIbcUDbe PLUS GUDbbHAbdLbcI TIMES NUNbbIGI GUNUbcMbd PLUS HAbjLUbbKIbdNbcU",
  "3bdLbe PLUS HI PLUS AbbLAGABbcISHbcUbdLbbMEbd PLUS ENbcUSHbbNEbbSHE PLUS SUMbdITA PLUS G",
  "ISH PLUS ERIN2brTENUbdU2bf PLUS SHU2bcUMbbTAGbdK4bcE PLUS A PLUS SU PLUS NAbbUbc PLUS Ab",
  "iU PLUS Ubc2 PLUS ASHbcDbcSHbbZU OVER ZUtRu GUNUz OVER LAGAR GUNU SHEvTIMES SHEbe PLUS S",
  "UMrHSHUrK-003u21v5u30u50v1u62u79 OVER LAK-079 GUNUu80v1 OVER LAK-081u92t130u42t210v9u20v",
  "5v8u38u65v6t343v7v8u83v4u90t441v9w TIMES GUbdIGIbdPAP PLUS LU3bmPAP PLUS LU3bdU2 PLUS BA",
  "u50v7u70u83u90v2v3v5t550t608u17w TIMES ASHbdBADbdDUN3 GUNU GUNUbdKU3bdLAbdTARbeEbdU2beDb",
  "eRUDAu36u48w TIMES DUBbdGAbdIGIbg GUNUbdNIbdPAP PLUS PAP PLUS LU3bdSHESH PLUS KIbdUDbeRU",
  "DAt724u49rLs TIMES LALrMs TIMES KURbc PLUS RUqIrLrMMU2rSHqUr TIMES BADr2s CROSSING LU2tG",
  "UNU TIMES ASHtOPPOSING LU2tSHESHIGba TIMES BADuQUAREDtTENUuIMES ALzBADzDISHzESH2bd PLUS ",
  "LALbeTENUzGAN2 TENUzHALbaI TIMES BADzIMzKAD2bc3bd PLUS ASHbaIzLA PLUS ASHbbGABzME PLUS E",
  "NzNEbaUzPAPbc PLUS PAP PLUS LU3zSHUbaI PLUS ASHbbK2 PLUS BUzTAK4baUG2r3rGALu OPPOSING LU",
  "GALwVER LUGALvSHESHIGrHrLrMs OVER LUMbb GAR OVER GARpMAr GUNUsTIMES TAK4r2rHrRrSHt2qErSs",
  "HqIr PLUS ZA7rNqUr OVER MUrGs GUNUrNSUBrRGU2rSHt CROSSING MUSHuOVER MUSHbd TIMES A PLUS ",
  "NAbkGAbkKAKuTIMES AbaKURbaZAt3u GUNUvTIMES Abc PLUS DIbbDIbbZApNAr2r4rGAt INVERTEDuOPPOS",
  "ING NAGAuTIMES SHU TENUtRrMs NUTILLUs2qEr SHESHIGsTIMES AyUDqIr TIMES Er2rMs TIMES GAN2 ",
  "TENUbbR PLUS GAN2 TENUrNs9sDA2v TIMES ANbdSHbf PLUS ASHbcBALbcDIM GUNUbcGIbeSHbdUDbeLbcH",
  "IbcKESH2bcLAK-050bcMASHbdE PLUS GAN2 TENUbcNEbdUNbcPAP PLUS PAPbcSHEbf PLUS A ANbmSHbo P",
  "LUS ASHbcUbd PLUS Ubd2 PLUS ASHbdRUDAbdSHrSAGqUr11t OVER NU11 BUR OVER BURuROTATED NINET",
  "Y DEGREESuTENUrNs CROSSING NUNbf LAGAR OVER LAGARtLAGAR TIMES GARbfMASHbfSALbi OVER NUN ",
  "LAGAR TIMES SALbfUSHtOVER NUNtTENUsUZu AB2 TIMES ASHGABbfBIbfDUGbfGUDbfIGI GUNUbfKAD3bfL",
  "AbfNEbfSILA3bfU2vKISIM5 TIMES BIbk UpPArDrNrPqESH2u ASTERISKqIr CROSSING PIsTIMES AzByBI",
  "zUyEyIzByUz2rR2sIGu OPPOSING PIRIGvTIMES KALbbUDbbZApRArBqIqUpSArGs GUNUx TIMES HAtNUTIL",
  "LUtOVER SAGtTIMES AzDUbbBzENzHAzIGI GUNUzKAKbaURzLUMzMIzNUNzSALbaHE AT LEFTbbIDzTABbbK4z",
  "U2baBbaMbaRbaSHrLs LAGAB TIMES ASH2rNGA2rRqHAs3t TIMES AbaBADbaGISHbaNEbaSHU2baTURbaUbb ",
  "PLUS As6t TENUsB6sR2rEs HUtOVER SHEbb GAD OVER GAD GAR OVER GARbcTAB OVER TAB GAR OVER G",
  "ARtPLUS HUB2yNAM2ySARsG9sNsSHu2uLAMrIDt TIMES AbaIMsMt TIMES AbaBALbbULUGbaDINbaGARbaIGI",
  "bd GUNUbaKUSHU2baLULbaMUGbaSALsNIGsRt OVER SHIR BUR OVER BURuTENUsTArUs OVER INVERTED SH",
  "Us2t PLUS DUG TIMES NIzE2 TIMES ANsBURqIr GUNUsTIMES TAK4rGs4t OVER SIG4 SHU2rK2rLA3qUr ",
  "OVER SUrDs2rHURrMsASHrRs9pTAr ASTERISKsGUNUsTIMES HIyMIrBs OVER TAB NI OVER NI DISH OVER",
  " DISHtSQUAREDrGs TIMES BIzGUDzSHEbbUzTUG2zUDrK4t PLUS SAGrRqEr GUNUqIr TENUr2rLrRs OVER ",
  "TIRbb GAD OVER GAD GAR OVER GARtTIMES TAK4qUrG2rKrMs TIMES GAN2 TENUzTHREE DISHrRs OVER ",
  "TUR ZA OVER ZApUq GUDrOVER U PA OVER PA GAR OVER GARySUR OVER SURyU REVERSED OVER U REVE",
  "RSEDrUs Uq2qBqDr GUNUsKUSHU2sSHESHIGz TIMES BADsTIMES BADyMIyU PLUS U PLUS Ubn GUNUrUGqM",
  "r TIMES LAGAByMEba PLUS DAySHA3yUrBINrUMt TIMES KASKALbaPAqNr GUNUqRr CROSSING URsSHESHI",
  "Gr2s INVERTEDtTIMES A PLUS HAbgNAbaLzHAzNUNzU2bb PLUS ASHbhBIbaDr4rIs3rUs TIMES AbaSHGAB",
  "zBARzDARA3baUNzGAbbLbbN2 TENUbbRbaUzHAzIGIbaMbaSHzKIzLAK-668baU3bbMzMINzPAzSHEbaIG4zTUzU",
  " PLUS GUDbaDbaRUDAsDAu TIMES UqSHs TIMES AzKUbbRzTAK4s2sUMXsXqTUKIqZ3s TIMES KASKALrUpZA",
  "r SQUARED TIMES KURsTENUr7rGrMXqE2qIr OVER ZIr3rBs KABA TENUrGrZ2qUr OVER ZU PLUS SARr5s",
  " TIMES AzTHREE DISH TENUrBURrMcP ON BLACK SQUAREeWITH STRAWdCAKEdIDOcRLING STONEeY BRACK",
  "ET EXTENSIONgLOGICAL ANDoORiOPdRENCY EXCHANGEjSIGNeY AND RICEdVED STEM PARAGRAPH SIGN OR",
  "NAMENTcSTARDeOMScT OF MEATbYCLONEcLINDRICITYcPRIOT SYLLABLE ArErIrJAsOrKAsEsIsOsUrLAsEsI",
  "sOsUrMAsEsIsOsUrNAsEsIsOsUrOrPAsEsIsOsUrRAsEsIsOsUrSAsEsIsOsUrTAsEsIsOsUrUrWAsEsIsOrXAsE",
  "rZAsOeO-MINOAN SIGN CM001w2w4w5w6w7w8w9v10w1w2xBw3w5w7w9v21w3w4w5w6w7w8w9v30w3w4w5w6w7w8",
  "w9v40w1w4w6w7w9v50w1w2w3w4w5w6w8w9v60w1w2w3w4w6w7w8w9v70w1w2w3w4w5xBw6w8w9v80w1w2w3w4w5w",
  "6w7w8w9v90w1w2w4w5w6w7w8w9u100w1w2w3w4w5w7w8w9v10w2w4u301w2cRILLIC CAPITAL LETTER Az WIT",
  "H BREVEbfDIAERESISzBKHASIAN CHEbl WITH DESCENDERbiDZEbiHAzLEUT KAyBARRED Obg WITH DIAERE",
  "SISbaSHKIR KAzEzIG YUSbaNOCULAR OzLENDED YUSzROAD OMEGAzYELORUSSIAN-UKRAINIAN IyCCHEzHEb",
  "b WITH DESCENDERbiIAERESISbhVERTICAL STROKEzLOSED LITTLE YUSzROSSED OyDCHEzEzJEbbRVzOUBL",
  "E MONOCULAR ObfOzWEzZEbbLObaHEbaWEbaZEbbHEyEz WITH DIAERESISzFzLba WITH DESCENDERbgHOOKb",
  "gMIDDLE HOOKbgTAILzMba WITH TAILzNba WITH DESCENDERbgHOOKbgLEFT HOOKbgMIDDLE HOOKbgTAILz",
  "Rba WITH TICKzSba WITH DESCENDERyFITAyGHEbb WITH DESCENDERbhMIDDLE HOOKbhSTROKEbn AND HO",
  "OKbhUPTURNzJEyHAba WITH DESCENDERbgHOOKbgSTROKEbaRD SIGNzWEyIz WITH DIAERESISbfGRAVEbfMA",
  "CRONzEba WITH BREVEbgGRAVEzObaTAbbIFIED AbhBIG YUSbhCLOSED LITTLE YUSbhEbhLITTLE YUSbhYA",
  "TzZHITSAbf WITH DOUBLE GRAVE ACCENTyJEyKAba WITH DESCENDERbgHOOKbgSTROKEbgVERTICAL STROK",
  "EzHAKASSIAN CHEzJEzOMI DEbeJEbeZJEbdLJEbdNJEbdSJEbdTJEbdZJEbaPPAzSIyLHAzITTLE YUSzJEyMON",
  "OCULAR ObcGRAPH UKyNEUTRAL YERzJEyOz WITH DIAERESISzMEGAbd WITH TITLOzTyPEba WITH DESCEN",
  "DERbgMIDDLE HOOKzSIyQAyREVERSED DZEbhTSEbhYUbhZEzHAzOUND OMEGAySCHWAbd WITH DIAERESISzEM",
  "ISOFT SIGNzHAbaCHAbaHAbc WITH DESCENDERbaORT Ibf WITH TAILbeUbaWEzOFT DEbdELbeMbdSIGNzTR",
  "AIGHT Ubi WITH STROKEyTCHEzEba WITH DESCENDERbgMIDDLE HOOKzSEbaHEbaSEbaWEzWEyUz WITH DIA",
  "ERESISbgOUBLE ACUTEbfMACRONzKbaRAINIAN IEyVEyWEyYAbaEbaTzERUbc WITH BACK YERbiDIAERESISz",
  "IzNzUyZEba WITH DESCENDERbhIAERESISbaMLYAzHEbb WITH BREVEbhDESCENDERbiIAERESISbaWEsIGATU",
  "RE A IEbaEN GHEbaTE TSEjKAVYKAjLETTER MULTIOCULAR OqPALOCHKAqSMALL CAPITAL ELjPAYEROKjSM",
  "ALL LETTER Ax WITH BREVEbdDIAERESISxBKHASIAN CHEbj WITH DESCENDERbgDZEbgHAxLEUT KAwBARRE",
  "D Obe WITH DIAERESISySHKIR KAxExIG YUSyNOCULAR OxLENDED YUSxROAD OMEGAxYELORUSSIAN-UKRAI",
  "NIAN IwCCHExHEz WITH DESCENDERbgIAERESISbfVERTICAL STROKExLOSED LITTLE YUSxROSSED OwDCHE",
  "xExJEzRVxOUBLE MONOCULAR ObdOxWExZEzLOyHEyWEyZEzHEwEx WITH DIAERESISxFxLy WITH DESCENDER",
  "beHOOKbeMIDDLE HOOKbeTAILxMy WITH TAILxNy WITH DESCENDERbeHOOKbeLEFT HOOKbeMIDDLE HOOKbe",
  "TAILxRy WITH TICKxSy WITH DESCENDERwFITAwGHEz WITH DESCENDERbfMIDDLE HOOKbfSTROKEbl AND ",
  "HOOKbfUPTURNxJEwHAy WITH DESCENDERbeHOOKbeSTROKEyRD SIGNxWEwIx WITH DIAERESISbdGRAVEbdMA",
  "CRONxEy WITH BREVEbeGRAVExOyTAzIFIED AbfBIG YUSbfCLOSED LITTLE YUSbfEbfLITTLE YUSbfYATxZ",
  "HITSAbd WITH DOUBLE GRAVE ACCENTwJEwKAy WITH DESCENDERbeHOOKbeSTROKEbeVERTICAL STROKExHA",
  "KASSIAN CHExJExOMI DEbcJEbcZJEbbLJEbbNJEbbSJEbbTJEbbZJEyPPAxSIwLHAxITTLE YUSxJExONG-LEGG",
  "ED DEwMONOCULAR ObaGRAPH UKwNARROW OxEUTRAL YERxJEwOx WITH DIAERESISxMEGAbb WITH TITLOxT",
  "wPALOCHKAxEy WITH DESCENDERbeMIDDLE HOOKxSIwQAwREVERSED DZEbfTSEbfYUbfZExHAxOUND OMEGAbb",
  "ED VEwSCHWAbb WITH DIAERESISxEMISOFT SIGNxHAyCHAyHAba WITH DESCENDERyORT Ibd WITH TAILbc",
  "UyWExOFT DEbbELbcMbbSIGNxTRAIGHT Ubg WITH STROKEwTALL HARD SIGNbbTEbbYATxCHExEy WITH DES",
  "CENDERbeMIDDLE HOOKxHREE-LEGGED TExSEyHEySEyWExWEwUx WITH DIAERESISbeOUBLE ACUTEbdMACRON",
  "xKyRAINIAN IExNBLENDED UKwVEwWExIDE ESwYAyEyTxERUba WITH BACK YERbgDIAERESISxIxNxUwZEy W",
  "ITH DESCENDERbfIAERESISyMLYAxHEz WITH BREVEbfDESCENDERbgIAERESISyWEqIGATURE A IEyEN GHEy",
  "TE TSEjTHOUSANDS SIGNaDAGGERg KNIFEhWITH LEFT GUARDmRIGHT GUARDcLET SYMBOLcNCERdGOcRK SH",
  "ADEgUNGLASSEScSH SYMBOLfWITH LEFT UPTURNeED LOW LINEhOVERLINEhTRIANGLE-HEADED RIGHTWARDS",
  " ARROWcTA LINK ESCAPEbC1c2c3c4cSbEAF PERSONcCIDUOUS TREEeMAL EXPONENT SYMBOLiSEPARATOR K",
  "EY SYMBOLdREASE FONT SIZE SYMBOLcERcGREE CELSIUShFAHRENHEIThSIGNcLdETEdIVERY TRUCKdTA EQ",
  "UAL TOcNTISTRY SYMBOL LIGHT DOWN AND HORIZONTALbq WITH CIRCLEbwTRIANGLEbwWAVExUP AND HOR",
  "IZONTALbo WITH CIRCLEbuTRIANGLEbuWAVExVERTICAL AND BOTTOM LEFTbrRIGHTbkTOP LEFTboRIGHTbk",
  "WAVEbgWITH CIRCLEblTRIANGLEcPARTMENT STOREcRELICT HOUSE BUILDINGcSCENDING NODEdERET CAPI",
  "TAL LETTER AYxBEExCHEExDEExEFyLyMyNzGyRySzHyTHyWxGAYxHxJEExKAYxLONG AbdHbcEbcIbcObdOxOIy",
  "WxPEExSHORT AbeHbdEbdIbdObeOxTEEyHEExVEExWUxYEExZEEyHEEiSMALL LETTER AYvBEEvCHEEvDEEvEFw",
  "LwMwNxGwRwSxHwTHwWvGAYvHvJEEvKAYvLONG AbbHbaEbaIbaObbOvOIwWvPEEvSHORT AbcHbbEbbIbbObcOvT",
  "EEwHEEvVEEvWUvYEEvZEEwHEEfTg ISLANDdKTOP COMPUTERiWINDOWcVANAGARI ABBREVIATION SIGNmCUTE",
  " ACCENTlCARETlDANDAmIGIT EIGHTrFIVEsOURrNINErONErSEVENsIXrTHREEsWOrZEROmOUBLE DANDAlGAP ",
  "FILLERmRAVE ACCENTlHEADSTROKElJAIN OMlLETTER AtAtItUtWtYsBAtBAtHAsCAuNDRA AzEzOtHAsDAtDA",
  "uDAvHAuHAtHAsEsFAsGAtGAtHAuHAtLOTTAL STOPsHAtEAVY YAsItIsJAtHAtJAsKAtHAuHAsLAtLAuLAsMAuR",
  "WARI DDAsNAtGAtNAuNAtYAsOtEtOEsPAtHAsQAsRAtHAtRAsSAtHAuORT AyEyOtSAsTAtHAtTAuHAsUtEtUuEs",
  "VAtOCALIC LbbLbaRbbRsYAtYAsZAtHAlOMlSIGN ANUSVARArVAGRAHAqCANDRABINDUbb AVAGRAHAbcTHREEb",
  "dWObcVIRAMAqDOUBLE CANDRABINDU VIRAMAqHIGH SPACING DOTqINVERTED CANDRABINDUqNUKTAqPUSHPI",
  "KAqSIDDHAMrPACING CANDRABINDUqVIRAMAsSARGAmTRESS SIGN ANUDATTAxUDATTAlVOWEL SIGN AAxIxUx",
  "WxYwCANDRA EbdLONG EbdOwEwIxIwOxExOEwPRISHTHAMATRA EwSHORT EbcOwUxExUyEwVOCALIC LbfLbeRb",
  "fRdICE CONTROL FOURpONEpSTRINGpTHREEqWObIAERESISdMETER SIGNeOND OPERATORiSHAPE WITH A DO",
  "T INSIDEiTARGETiWITH BOTTOM HALF BLACKnLEFT HALF BLACKnRIGHT HALF BLACKnTOP HALF BLACKcE",
  " FACE-1j2j3j4j5j6dSEL LOCOMOTIVEcFFERENCE BETWEENcGIT EIGHTl COMMAmFULL STOPgFIVEk COMMA",
  "lFULL STOPhOURk COMMAlFULL STOPgNINEk COMMAlFULL STOPgONEj COMMAkFULL STOPgSEVENl COMMAm",
  "FULL STOPhIXj COMMAkFULL STOPgTHREEl COMMAmFULL STOPhWOj COMMAkFULL STOPgZEROk COMMAlFUL",
  "L STOPdRAM FOR EARTHqLY HEAVENuUMANlGREATER YANGuINlHEAVENLY EARTHmUMAN EARTHlLESSER YAN",
  "GtINcMENSION ORIGINcNGBAT CIRCLED SANS-SERIF DIGIT EIGHTbhFIVEbiOURbhNINEbhONEbhSEVENbiI",
  "XbhTHREEbiWObhZERObbNUMBER TENiNEGATIVE CIRCLED DIGIT EIGHTbfFIVEbgOURbfNINEbfONEbfSEVEN",
  "bgIXbfTHREEbgWOzNUMBER TENzSANS-SERIF DIGIT EIGHTbqFIVEbrOURbqNINEbqONEbqSEVENbrIXbqTHRE",
  "EbrWObqZERObkNUMBER TENcRECT CURRENT SYMBOL FORM TWOhHITcSABLED CARePPOINTED BUT RELIEVE",
  "D FACEnFACEdCONTINUOUS UNDERLINE SYMBOLdGUISED FACEcTTO MARKcVES AKURU DIGIT EIGHTsFIVEt",
  "OURsNINEsONEsSEVENtIXsTHREEtWOsZEROnOUBLE DANDAmEND OF TEXT MARKmGAP FILLERmINITIAL RAmL",
  "ETTER AuAtBAuHAtCAuHAtDAuDAvHAuHAtEtGAuHAtHAtIuItJAtKAuHAtLAuLAtMAtNAuGAuNAuYAtOtPAuHAtR",
  "AtSAuHAuSAtTAuHAuTAtUuUtVAtYAuYAtZAmMEDIAL RAtYAmPREFIXED NASAL SIGNmSIGN ANUSVARArCANDR",
  "ABINDUrHALANTArNUKTAmVIRAMAnOWEL SIGN AAyIxExIyIxOxUyUdIDESeNG MASKeSION SIGNkLASHjTIMES",
  "dORCE SYMBOLcYA LAMPcZZY FACEgSYMBOLbLEbNA DOUBLE HELIXbO NOT LITTER SYMBOLcCUMENTi WITH",
  " PICTUREoTEXTs AND PICTUREcDOcES NOT CONTAIN AS MEMBERuNORMAL SUBGROUPbj OR EQUALjDIVIDE",
  "p WITH REVERSED NEGATION SLASHjFORCEjPRECEDEq OR EQUALlOVEjSUCCEEDq OR EQUALcGd FACEdRA ",
  "ABBREVIATION SIGNgLETTER AoAoIoUnBAoHAnCAoHAnDAoDApHAoHAnEnGAoHAnHAnIoInJAoHAnKAoHAnLAnM",
  "AnNAoGAoNAoYAnOnPAoHAnRAoRAnSAoHAoSAnTAoHAoTApHAnUoUnVAnYAgSIGN ANUSVARAlNUKTAlVIRAMAnSA",
  "RGAgVOWEL SIGN AAsIsUrErIsIrOrUsUrVOCALIC RbaRcLLAR SIGNdPHINcMINO TILE HORIZONTAL BACKw",
  "-00-00bb1bb2bb3bb4bb5bb6y1-00bb1bb2bb3bb4bb5bb6y2-00bb1bb2bb3bb4bb5bb6y3-00bb1bb2bb3bb4b",
  "b5bb6y4-00bb1bb2bb3bb4bb5bb6y5-00bb1bb2bb3bb4bb5bb6y6-00bb1bb2bb3bb4bb5bb6mVERTICAL BACK",
  "u-00-00z1z2z3z4z5z6w1-00z1z2z3z4z5z6w2-00z1z2z3z4z5z6w3-00z1z2z3z4z5z6w4-00z1z2z3z4z5z6w",
  "5-00z1z2z3z4z5z6w6-00z1z2z3z4z5z6cNG SIGNcORcT ABOVEeMINUSeOPERATORePLUSdTED CIRCLEiROSS",
  "hFENCEhLINE FACEhOBELOShRIGHT-POINTING ANGLEhSOLIDUSiQUAREhTRANSPOSITION MARKERcUBLE ACU",
  "TE ACCENThCIRCLED DIGIT EIGHTvFIVEwOURvNINEvONEvSEVENwIXvTHREEwWOpNUMBER TENiOLON EQUALi",
  "URLY LOOPhDAGGERiOWN TACKhEXCLAMATION MARKhHIGH-REVERSED-9 QUOTATION MARKiYPHENhINTEGRAL",
  "lRSECTIONhLEFT ARC GREATER-THAN BRACKETiOGICAL ANDpORjW LINEk-9 QUOTATION MARKlREVERSED-",
  "9 QUOTATION MARKhNESTED GREATER-THANoLESS-THANx WITH UNDERBARhOBLIQUE HYPHENhPLUSiRECEDE",
  "SjIMEm QUOTATION MARKhQUESTION MARKhRIGHT ARC LESS-THAN BRACKEThSOLIDUS OPERATORiQUARE I",
  "NTERSECTIONoUNIONiTACKED COMMAjROKE NOT SIGNiUBSETjCCEEDSjPERSETjSPENSION MARKhUNIONiP T",
  "ACKhVERTICAL BARt DOUBLE LEFT TURNSTILEbbRIGHT TURNSTILEuLEFT TURNSTILEqLINEhWAVY OVERLI",
  "NEg-ENDED MULTIMAPhLINE EQUAL TO OR GREATER-THANyLESS-THANmSLANTED EQUAL TO OR GREATER-T",
  "HANbgLESS-THANuGREATER-THAN OR EQUAL TOuLESS-THAN OR EQUAL TOhSTRUCK CAPITAL CwGAMMAwHwN",
  "wPxIwQwRwZoITALIC CAPITAL DvSMALL DbbEbbIbbJoN-ARY SUMMATIONoSMALL GAMMAuPIgD FEMALE SIG",
  "NiMALE SIGNiSYMBOLdGHNUTcVE OF PEACEcWN ARROWHEADfFISH TAILfRIGHT DIAGONAL ELLIPSISfTACK",
  "j WITH CIRCLE BELOWe-POINTING RED TRIANGLEoSMALL RED TRIANGLEoTRIANGLE WITH LEFT HALF BL",
  "ACKbcRIGHT HALF BLACKeWARD FACING HOOKu WITH DOTqNOTCHED HOOKbc WITH DOTiS ANCORAlRROWp ",
  "AND RIGHT ONE EIGHTH BLOCKqFROM BARqLEFTWARDS OF UPWARDS ARROWqTO BARqWITH CORNER LEFTWA",
  "RDSvDOUBLE STROKEvEQUILATERAL ARROWHEADvHORIZONTAL STROKEvLARGE TRIANGLE ARROWHEADvMEDIU",
  "M TRIANGLE ARROWHEADvNOTCHED TAILvSMALL EQUILATERAL ARROWHEADbbTRIANGLE ARROWHEADvTIP LE",
  "FTWARDSzRIGHTWARDSkBLACK ARROWqCIRCLED WHITE ARROWkCOMPRESSED ARROWkDASHED ARROWlOUBLE A",
  "RROWkFINGER-POST ARROWkHARPOON WITH BARB LEFT BESIDE DOWNWARDS HARPOON WITH BARB RIGHTbo",
  "UPWARDS HARPOON WITH BARB RIGHTbhFROM BARbhTO BARbgWARDSbcRIGHT FROM BARbiTO BARbhWARDSl",
  "EAVY ARROWqCOMPRESSED ARROWkPAIRED ARROWSkQUADRUPLE ARROWkROCKETkSANS-SERIF ARROWlQUARED",
  " ARROWkTRIANGLE ARROWHEADs-HEADED ARROWbf LEFTWARDS OF UPWARDS TRIANGLE-HEADED ARROWbgTO",
  " BARbgWITH BOLD SHAFTblDOUBLE HORIZONTAL STROKEblHEAVY SHAFTblLONG TIP LEFTWARDSbuRIGHTW",
  "ARDSblMEDIUM SHAFTblNARROW SHAFTblVERY HEAVY SHAFTbaDASHED ARROWbaPAIRED ARROWSbaZIGZAG ",
  "ARROWnPLE ARROWlWO HEADED ARROWn-HEADED ARROW WITH TRIANGLE ARROWHEADSkWHITE ARROWv WITH",
  "IN TRIANGLE ARROWHEADkZIGZAG ARROWbRACHMA SIGNdFTING POINT RIGHTWARDS ARROWdGONg FACEcES",
  "ScIVE SLOW SIGNcOMEDARY CAMELdOLING FACEdP OF BLOODeLETcUM WITH DRUMSTICKSbUCKcMPLINGcPL",
  "OYAN AFFIX ATTACHED E HOOKyI HOOKyLEFT-TO-RIGHT SECANTySECANTyTAILbaNGENTbf HOOKpHIGH AC",
  "UTEuCIRCLEuDOTuGRAVEuLINEvONG GRAVEuTIGHT ACUTEuVERTICALbc SECANTuWAVEpLEFT HORIZONTAL S",
  "ECANTqOW ACUTEuRROWtCIRCLEtDOTtGRAVEtLINEuONG GRAVEtTIGHT ACUTEtVERTICALbb SECANTtWAVEpM",
  "ID HORIZONTAL SECANTtVERTICAL SECANTpRIGHT HORIZONTAL SECANTjDOUBLE MARKjLETTER ArOUqBqD",
  "r SrHqErErUqFr NqGr R SqHrLqIrEqJr Mt SsNt SsSt WITH DOTsWITH DOTbaS INSIDE AND ABOVEqKr",
  " MsR SrKqLrHrONG IvUqMr Nt SsSsWITH DOTqNr Mt SsSsWITH DOTrASAL AwIwOwUqOrArOHrUrWqPr Nr",
  "ERNIN AMyNqRr SrHrOMANIAN IzUqSr Jt SsKt RsMsNsPt RsSsTt RsWITH DOTba BELOWrHORT IrLOAN ",
  "ANwDHwEExHxNwJwONxWwUqTr R SsSrHqUr NrHrIqVrOCALIC MqWr RrArEIrHrIrOsWqXrWqYEjPUNCTUATIO",
  "N CHINOOK FULL STOPjSIGN O WITH CROSSjTHICK LETTER SELECTORbVDaE-MAIL SYMBOLbAGLEcRd OF ",
  "MAIZEhRICEeWITH HEARING AIDdTHf GLOBE AMERICASnSIA-AUSTRALIAmEUROPE-AFRICAhROUNDcST SYRI",
  "AC CROSSbDITORIAL CORONISbGGcYPTIAN HIEROGLYPH A001x2x3x4x5yAx6yAyBx7x8x9w10x1x2x3x4yAx5",
  "x6x7yAx8x9w20x1x2x3x4x5x6x7x8x9w30x1x2yAx3x4x5x6x7x8x9w40yAx1x2yAx3yAx4x5yAx6x7x8x9w50x1",
  "x2x3x4x5x6x7x8x9w60x1x2x3x4x5x6x7x8x9w70vA001y2y3y4y5y6y7zAzBy8y9x10y1y2y3y4y5y6y7y8y9x2",
  "0y1y2y3y4y5y6y7y8y9x30y1y2uB001x2x3x4x5yAx6x7x8x9vEGIN SEGMENTuC001x2yAyByCx3x4x5x6x7x8x",
  "9w10yAx1x2x3x4x5x6x7x8x9w20x1x2x3x4uD001x2x3x4x5x6x7x8yAx9w10x1x2x3x4x5x6x7x8x9w20x1x2x3",
  "x4x5x6x7yAx8x9w30x1yAx2x3x4yAx5x6x7x8x9w40x1x2x3x4x5x6yAx7x8yAx9w50yAyByCyDyEyFyGyHyIx1x",
  "2yAx3x4yAx5x6x7x8x9w60x1x2x3x4x5x6x7yAyByCyDyEyFyGyHuE001x2x3x4x5x6x7x8yAx9yAw10x1x2x3x4",
  "x5x6yAx7yAx8x9w20yAx1x2x3x4x5x6x7x8yAx9w30x1x2x3x4yAx6x7x8vND SEGMENTuF001yAx2x3x4x5x6x7",
  "x8x9w10x1x2x3yAx4x5x6x7x8x9w20x1yAx2x3x4x5x6x7x8x9w30x1yAx2x3x4x5x6x7yAx8yAx9w40x1x2x3x4",
  "x5yAx6yAx7yAx8x9w50x1yAyByCx2x3uG001x2x3x4x5x6yAx7yAyBx8x9w10x1yAx2x3x4x5x6x7x8x9w20yAx1",
  "x2x3x4x5x6yAx7x8x9w30x1x2x3x4x5x6yAx7yAx8x9w40x1x2x3yAx4x5yAx6x7x8x9w50x1x2x3x4uH001x2x3",
  "x4x5x6yAx7x8vORIZONTAL JOINERuI001x2x3x4x5yAx6x7x8x9yAw10yAx1yAx2x3x4x5vNSERT AT BOTTOM ",
  "ENDblSTARTbeTOP ENDbiSTARTuK001x2x3x4x5x6x7x8uL001x2yAx3x4x5x6yAx7x8uM001yAyBx2x3yAx4x5x",
  "6x7x8x9w10yAx1x2yAyByCyDyEyFyGyHx3x4x5yAx6yAx7yAx8x9w20x1x2yAx3x4yAx5x6x7x8yAx9w30x1yAx2",
  "x3yAyBx4x5x6x7x8x9w40yAx1x2x3x4uN001x2x3x4x5x6x7x8x9w10x1x2x3x4x5x6x7x8yAyBx9w20x1x2x3x4",
  "x5yAx6x7x8x9w30x1x2x3yAx4yAx5yAx6x7yAx8x9w40x1x2vL001y2y3y4y5zAy6y7y8y9x10y1y2y3y4y5y6y7",
  "zAy8y9x20vU001y2y3y4y5y6y7y8y9x10zAy1zAy2y3y4y5y6y7y8zAy9x20y1y2zAuO001yAx2x3x4x5yAx6yAy",
  "ByCyDyEyFx7x8x9w10yAyByCx1x2x3x4x5x6x7x8x9yAw20yAx1x2x3x4yAx5yAx6x7x8x9yAw30yAx1x2x3yAx4",
  "x5x6yAyByCyDx7x8x9w40x1x2x3x4x5x6x7x8x9w50yAyBx1vVERLAY MIDDLEuP001yAx2x3yAx4x5x6x7x8x9w",
  "10x1uQ001x2x3x4x5x6x7uR001x2yAx3yAyBx4x5x6x7x8x9w10yAx1x2x3x4x5x6yAx7x8x9w20x1x2x3x4x5x6",
  "x7x8x9uS001x2yAx3x4x5x6yAx7x8x9w10x1x2x3x4yAyBx5x6x7yAx8x9w20x1x2x3x4x5x6yAyBx7x8x9w30x1",
  "x2x3x4x5yAx6x7x8x9w40x1x2x3x4x5x6uT001x2x3yAx4x5x6x7yAx8yAx9yAw10x1yAx2x3x4x5x6yAx7x8x9w",
  "20x1x2x3x4x5x6x7x8x9w30x1x2yAx3yAx4x5x6uU001x2x3x4x5x6yAyBx7x8x9w10x1x2x3x4x5x6x7x8x9w20",
  "x1x2x3yAx4x5x6x7x8x9yAw30x1x2yAx3x4x5x6x7x8x9w40x1x2uV001yAyByCyDyEyFyGyHyIx2yAx3x4x5x6x",
  "7yAyBx8x9w10x1yAyByCx2yAyBx3x4x5x6x7x8x9w20yAyByCyDyEyFyGyHyIyJyKyLx1x2x3yAx4x5x6x7x8yAx",
  "9yAw30yAx1yAx2x3yAx4x5x6x7yAx8x9w40yAvERTICAL JOINERuW001x2x3yAx4x5x6x7x8x9yAw10yAx1x2x3",
  "x4yAx5x6x7yAx8yAx9w20x1x2x3x4yAx5uX001x2x3x4yAyBx5x6yAx7x8yAuY001yAx2x3x4x5x6x7x8uZ001x2",
  "yAyByCyDx3yAyBx4yAx5yAx6x7x8x9w10x1x2x3x4x5yAyByCyDyEyFyGyHyIx6yAyByCyDyEyFyGyHbIGHT PET",
  "ALLED OUTLINED BLACK FLORETTEhOINTED BLACK STARoPINWHEEL STARoRECTILINEAR BLACK STARgSPO",
  "KED ASTERISKgTEARDROP-SPOKED PROPELLER ASTERISKfH NOTEbJECT SYMBOLbLBASAN LETTER ApBEpCE",
  "qHEpDEqHEpEqIpFEpGEqHAMMArEqJEpHEpIpJEpKEqHEpLEqLEpMEpNAqDEqEqJEpOpPEpQEpREqREpSEqHEpTEq",
  "HEpUpVEpXEpYpZEqHEcECTRIC ARROWjLIGHT BULBjPLUGjTORCHiAL INTERSECTIONdMENT OFk OPENING D",
  "OWNWARDStUPWARDSlWITH DOT ABOVEqLONG HORIZONTAL STROKEqOVERBARqTWO HORIZONTAL STROKESqUN",
  "DERBARqVERTICAL BAR AT END OF HORIZONTAL STROKEdPHANTdVATORcFcYMAIC LETTER ALEPHqYINpBET",
  "HpDALETHpGIMELpHErTHpKAPHpLAMEDHpMEMpNUNpPEpQOPHpRESHpSADHErMEKHqHINpTAWqETHpWAWpYODHpZA",
  "YINjIGATURE ZAYIN-YODHbM DASHdQUADdSPACEcOJI COMPONENT BALDqCURLY HAIRqRED HAIRqWHITE HA",
  "IRgMODIFIER FITZPATRICK TYPE-1-2bg3bg4bg5bg6cPHASIS SYMBOLdTY DOCUMENTgNESThOTEk PADnGEg",
  "PAGEkSgSETj WITH LEFT ARROW ABOVEpOVERBARpRIGHT ARROW ABOVEpSMALL CIRCLE ABOVEbN DASHdQU",
  "ADdSPACEcD OF GUARDED AREAhLINEhMEDIUMhPROOFkTECTED AREAhSELECTED AREAhTEXTiRANSMISSIONt",
  " BLOCKeWITH LEFTWARDS ARROW ABOVEcQdUIRYcTER SYMBOLcVELOPEi WITH DOWNWARDS ARROW ABOVEoL",
  "IGHTNINGbOLcMcTbPAbQUAL AND PARALLEL TOgTO BY DEFINITIONjOR GREATER-THANmLESS-THANmPRECE",
  "DESmSUCCEEDSfS COLONhSIGNl ABOVE LEFTWARDS ARROWsPLUS SIGNsRIGHTWARDS ARROWsTILDE OPERAT",
  "ORnND SLANTED PARALLELbg WITH TILDE ABOVEmWITH BUMPY ABOVErDOT BELOWrINFINITY BELOWrTWO ",
  "DOTS ABOVE AND TWO DOTS BELOWhWITH ASTERISKdIANGULAR TOeVALENT TOlWITH FOUR DOTS ABOVEbR",
  "ASE TO THE LEFTnRIGHTcIS FORM ONEkTWOcROR-BARRED BLACK CIRCLEtDIAMONDtSQUAREnWHITE CIRCL",
  "EtDIAMONDtSQUAREbSAcCdAPEcTIMATED SYMBOLiSbTBcHIOPIC COLONlMBINING GEMINATION AND VOWEL ",
  "LENGTH MARKbeMARKtVOWEL LENGTH MARKmMAjDIGIT EIGHTpFIVEqOURpNINEpONEpSEVENqIXpTHREEqWOjF",
  "ULL STOPjNUMBER EIGHTYqFIFTYrORTYqHUNDREDqNINETYqSEVENTYrIXTYqTENt THOUSANDrHIRTYrWENTYj",
  "PARAGRAPH SEPARATORkREFACE COLONjQUESTION MARKjSECTION MARKlMICOLONkYLLABLE BAuAtBAvAuEv",
  "EuIuOuUtEuEtItOuAtUtWAuEvEuIsCAuAtCAvAuEvEuHAwAvEwEvHAxAwExEwIwOwUvIvOvUuIuOuUtEuEtHAvAu",
  "EvEuIuOvAuUuWAtItOuAtUtWAsDAuAtDAvAuEvEuHAAvEwEvIvOvUuIuOvAuUuWAtEuEtItOuAtUtWAtZAAuEvEu",
  "IuOuUsFAuAtEuEtItOtUtWAuEvEuItYAsGAuAtEuEtGAvAuEvEuIuOuUuWAwAvEwEvItItLOTTAL AbbAbaEbbEb",
  "aIbaObbAbaUbaWAtOuAtUuRAGE BWEEbbIzFWEEbbIzGWEbcEbbIzHHWAzKWEbcEbbIzMWEEbbIzPWEEbbIzQWEb",
  "cEbbItWAvAuEvEuItYAvAuEvEuIuOuUsHAuAtEuEtHAvAuEvEuIuOuUuWAvEwEvIuYAwAvEwEvIvOvUtItOuAtUs",
  "JAuAtEuEtItOuAtUtWAsKAuAtEuEtItOuAtUtWAvAuEvEuItXAvAuEvEuIuOuUuWAwAvEwEvItYAvAuEvEuIuOuU",
  "sLAuAtEuEtItOuAtUtWAsMAuAtEuEtItOuAtUtWAuEvEuItYAsNAuAtEuEtItOuAtUtWAtYAvAuEvEuIuOvAuUuW",
  "AsPAuAtEuEtHAvAvRYNGEAL AbeAbdEbeEbdIbdObdUuEvEuIuOvAuUuWAtItOuAtUtWAuEvEuIsQAuAtEuEtHAv",
  "AuEvEuIuOuUuWAwAvEwEvItItOuAtUtWAvAuEvEuItYAvAuEvEuIuOuUsRAuAtEuEtItOuAtUtWAtYAsSAuAtEuB",
  "ATBEIT BWAbcFWAbcMWAbcPWAuEtHAvAuEvEuIuOvAuUuWAtItOuAtSAvAuEvEuIuOuUtUtWAtZAvAuEvEuIuOuU",
  "uWAsTAuAtEuEtHAvAuEvEuIuOvAuUuWAtItOuAtSAvAuEvEuIuOuUuWAtTHAAvEwEvIvOvUtUtWAtZAvAuEvEuIu",
  "OvAuUsVAuAtEuEtItOtUtWAsWAuAtEuEtItOuAtUsXAuAtEuEtItOuAtUtWAvAuEvEuItYAvAuEvEuIuOuUsYAuA",
  "tEuEtItOuAtUsZAuAtEuEtHAvAuEvEuIuOuUuWAtItOuAtUtWAtZAvAuEvEuIuOuUjTONAL MARK CHIRETuDERE",
  "Tz-HIDETvIFATuHIDETuKENATvURTuRIKRIKuSHORT RIKRIKuYIZETjWORDSPACEcXbULER CONSTANTcRO SIG",
  "Ne-CURRENCY SIGNePEAN CASTLEjPOST OFFICEbVERGREEN TREEbXCESSdLAMATION MARKmQUESTION MARK",
  "cPRESSIONLESS FACEcTENDED ARABIC-INDIC DIGIT EIGHTbcFIVEbdOURbcNINEbcONEbcSEVENbdIXbcTHR",
  "EEbdWObcZEROdRATERRESTRIAL ALIENeEMELY HEAVY FIVE SPOKED ASTERISKqGREEK CROSSqSALTIRErIX",
  " SPOKED ASTERISKqWHITE CIRCLEwSQUAREbYEdGLASSESdSaFACE HOLDING BACK TEARSfMASSAGEfPALMfS",
  "AVOURING DELICIOUS FOODgCREAMING IN FEARfTHROWING A KISSfWITH COLD SWEATmWBOY HATkDIAGON",
  "AL MOUTHkFINGER COVERING CLOSED LIPSkHEAD-BANDAGEkLOOK OF TRIUMPHkMEDICAL MASKlONOCLEkNO",
  " GOOD GESTUREkOK GESTURElNE EYEBROW RAISEDlPEN EYES AND HAND OVER MOUTHpMOUTHu AND COLD ",
  "SWEATvVOMITINGkPARTY HORN AND PARTY HATlEEKING EYElLEADING EYESkROLLING EYESkSTUCK-OUT T",
  "ONGUEba AND TIGHTLY-CLOSED EYESbfWINKING EYEkTEARS OF JOYlHERMOMETERkUNEVEN EYES AND WAV",
  "Y MOUTHjOUT MOUTHdSIMILE SIGNdTORYcIRYcLAFELdLEN LEAFeING DIAGONAL CROSSING NORTH EAST A",
  "RROWbaRISING DIAGONALrIN WHITE CIRCLE IN BLACK SQUAREcMILYcRSI SYMBOLcTHER CHRISTMAScX I",
  "CONeMACHINEbEARFUL FACEdTHERcMALE SIGNdININE ORDINAL INDICATORcNCERcRRIS WHEELeYbFbIELD ",
  "HOCKEY STICK AND BALLcGURE DASHhSPACEcLE CABINETfFOLDERfSEPARATORdM FRAMESfPROJECTORcNIT",
  "E PART INTEGRALcREe ENGINEgXTINGUISHEReCRACKEReWORK SPARKLERiSdST PLACE MEDALgQUARTER MO",
  "ONs SYMBOLtWITH FACEgSTRONG ISOLATEcSHe CAKE WITH SWIRL DESIGNeEYEeING POLE AND FISHdTED",
  " HAND SIGNcVE DOT MARKjPUNCTUATIONbLAG IN HOLEdMINGOdT SHOEeBREADeNESScEUR-DE-LISdXED BI",
  "CEPScOPPY DISKdRAL HEARTdWERg PLAYING CARDSiUNCTUATION MARKcUSHED FACEcYdING DISChENVELO",
  "PEhSAUCERbOGdGYcLDERcNDUEcOTePRINTScR ALLdCESdK AND KNIFEo WITH PLATEeED PARAGRAPHOSeING",
  "dM FEEDdTUNE COOKIEcUNTAINdR BALLOON-SPOKED ASTERISKfCLUB-SPOKED ASTERISKgORNER ARROWS C",
  "IRCLING ANTICLOCKWISEfDOT MARKjPUNCTUATIONfLEAF CLOVERfPOINTED BLACK STARfTEARDROP-SPOKE",
  "D ASTERISKe-PER-EM SPACEeTH ROOTcX FACEbRACTION NUMERATOR ONEjSLASHdME WITH AN XlPICTURE",
  "lTILEScEEZING FACEdNCH FRANC SIGNjIEScIED SHRIMPcOG FACEdNT-FACING BABY CHICKgTILTED SHA",
  "DOWED WHITE RIGHTWARDS ARROWdWNfING FACE WITH OPEN MOUTHbScIbUEL PUMPcLL BLOCKfMOON SYMB",
  "OLkWITH FACEfOUTER JOINfSTOPeWIDTH AMPERSANDlPOSTROPHElSTERISKkBROKEN BARkCENT SIGNlIRCU",
  "MFLEX ACCENTlOLONmMMAoERCIAL ATkDIGIT EIGHTqFIVErOURqNINEqONEqSEVENrIXqTHREErWOqZEROlOLL",
  "AR SIGNkEQUALS SIGNlXCLAMATION MARKkFULL STOPkGRAVE ACCENTmEATER-THAN SIGNkHYPHEN-MINUSk",
  "LATIN CAPITAL LETTER AbfBbfCbfDbfEbfFbfGbfHbfIbfJbfKbfLbfMbfNbfObfPbfQbfRbfSbfTbfUbfVbfW",
  "bfXbfYbfZqSMALL LETTER AbdBbdCbdDbdEbdFbdGbdHbdIbdJbdKbdLbdMbdNbdObdPbdQbdRbdSbdTbdUbdVb",
  "dWbdXbdYbdZlEFT CURLY BRACKETpPARENTHESISpSQUARE BRACKETpWHITE PARENTHESISmSS-THAN SIGNl",
  "OW LINEkMACRONkNOT SIGNlUMBER SIGNkPERCENT SIGNlLUS SIGNlOUND SIGNkQUESTION MARKmOTATION",
  " MARKkREVERSE SOLIDUSlIGHT CURLY BRACKETqPARENTHESISqSQUARE BRACKETqWHITE PARENTHESISkSE",
  "MICOLONlOLIDUSkTILDEkVERTICAL LINEkWON SIGNkYEN SIGNcNCTION APPLICATIONdERAL URNcSEbVS1d",
  "2d3d4aGAME DIEcRLICbEARe WITH HANDLESjOUT HUBcM STONEdINIcNIEcOMETRIC PROPORTIONjALLY EQ",
  "UAL TOrIVALENT TOdRGIAN CAPITAL LETTER AENzNyBANyCANzHARbaINzILyDONyENyGANzHANyHAEbaRzEz",
  "IEzOEyINyJHANzILyKANzHARyLASyMANyNARyONyPARzHARyQARyRAEySANzHINyTANbaRyUNyVINyWEyXANyYNy",
  "ZENzHARjLETTER AENrINrNqBANqCANrHARsINrILqDONqELIFIrNqFIqGANrHANqHAEsRtD SIGNrErIErOEqIN",
  "qJHANrILqKANrHARqLABIAL SIGNsSqMANqNARqONqPARrHARqQARqRAEqSANrHINqTANsRrURNED GANqUNqVIN",
  "qWEqXANqYNqZENrHARjMTAVRULI CAPITAL LETTER AENbiINbiNbhBANbhCANbiHARbjINbiILbhDONbhELIFI",
  "biNbhFIbhGANbiHANbhHAEbjRbkD SIGNbiEbiIEbiOEbhINbhJHANbiILbhKANbiHARbhLABIAL SIGNbjSbhMA",
  "NbhNARbhONbhPARbiHARbhQARbhRAEbhSANbiHINbhTANbjRbiURNED GANbhUNbhVINbhWEbhXANbhYNbhZENbi",
  "HARjPARAGRAPH SEPARATORjSMALL LETTER AENxNwBANwCANxHARyINxILwDONwENwGANxHANwHAEyRxExIExO",
  "EwINwJHANxILwKANxHARwLASwMANwNARwONwPARxHARwQARwRAEwSANxHINwTANyRwUNwVINwWEwXANwYNwZENxH",
  "ARcRMAN PENNY SIGNcTA MARKbHOSTbIMEL SYMBOLcRAFFE FACEdLeS SYMBOLbLAGOLITIC CAPITAL LETT",
  "ER AZUbaBIG YUSbbUKYbaCAUDATE CHRIVIbbHRIVIbaDJERVIbbOBRObbZELObaFITAbbRITUbaGLAGOLIbaHE",
  "RUbaIbbNITIAL IZHEbbOTATED BIG YUSbiSMALL YUSbbZHEbdITSAbaKAKObaLATINATE MYSLITEbbJUDIJE",
  "baMYSLITEbaNASHIbaONUbbTUbaPEbbOKOJIbaRITSIbaSHAbcTAbePICbbLOVObbMALL YUSbj WITH TAILbbP",
  "IDERY HAbaTROKUTASTI AbbSIbbVRIDObaUKUbaVEDEbaYATIbbERIbdUbcSTUbbObbUbaZEMLJAbbHIVETElSM",
  "ALL LETTER AZUyBIG YUSzUKYyCAUDATE CHRIVIzHRIVIyDJERVIzOBROzZELOyFITAzRITUyGLAGOLIyHERUy",
  "IzNITIAL IZHEzOTATED BIG YUSbgSMALL YUSzZHEbbITSAyKAKOyLATINATE MYSLITEzJUDIJEyMYSLITEyN",
  "ASHIyONUzTUyPEzOKOJIyRITSIySHAbaTAbcPICzLOVOzMALL YUSbh WITH TAILzPIDERY HAyTROKUTASTI A",
  "zSIzVRIDOyUKUyVEDEyYATIzERIbbUbaSTUzOzUyZEMLJAzHIVETEdSS OF MILKcEICH STARKcOBE WITH MER",
  "IDIANSdVESdWING STARbOAL NETdTcGGLEScLFERcRILLAcTHIC LETTER AHSApIHVUSoBAIRKANoDAGSoEISo",
  "FAIHUoGIBAoHAGLpWAIRoIGGWSpUJAoJERoKUSMAoLAGUSoMANNAoNAUTHSpINE HUNDREDsTYoOTHALoPAIRTHR",
  "AoQAIRTHRAoRAIDAoSAUILoTEIWSpHIUTHoURUSoWINJAbRADUATION CAPdNTHA AU LENGTH MARKiLETTER A",
  "qAqIqUpBAqHApCAqHApDAqDArHAqHApEEpGAqHApHApIqIpJAqHApKAqHApLAqLApMApNAqGAqNAqYApOOpPAqHA",
  "pRApSAqHAqSApTAqHAqTArHApUqUpVAqEDIC ANUSVARAvDOUBLE ANUSVARAqOCALIC LyLxRyRpYAiOMiSIGN ",
  "ANUSVARAoVAGRAHAnCANDRABINDUoOMBINING ANUSVARA ABOVEnNUKTAnPLUTAnVIRAMApSARGAiVOWEL SIGN",
  " AAuIuUtEEtIuItOOtUuUtVOCALIC LbcLbbRbcRdPESdVE ACCENTcEATER-THAN ABOVE DOUBLE-LINE EQUA",
  "L ABOVE LESS-THANtLESS-THAN ABOVE DOUBLE-LINE EQUALtRIGHTWARDS ARROWtSIMILAR ABOVE LESS-",
  "THANbbOR EQUALuLANTED EQUAL ABOVE LESS-THAN ABOVE SLANTED EQUALoND NOT APPROXIMATErSINGL",
  "E-LINE NOT EQUAL TOnBESIDE LESS-THANoUT NOT EQUAL TOyIVALENT TOnCLOSED BY CURVEbc ABOVE ",
  "SLANTED EQUALnEQUAL TO OR LESS-THANnOR APPROXIMATEqEQUAL TOtIVALENT TOqLESS-THANqSLANTED",
  " EQUAL TObg WITH DOT ABOVEbv LEFTbqINSIDEoVER EQUAL TOrLAPPING LESS-THANnSIGNnWITH CIRCL",
  "E INSIDEsDOTsQUESTION MARK ABOVEdEK ACROPHONIC ATTIC FIFTYbc STATERSbdTALENTSbeHOUSANDbl",
  " STATERSzVEbb HUNDREDbj STATERSbkTALENTSbcSTATERSbcTALENTSbdHOUSANDbk TALENTSxONE DRACHM",
  "AbbHALFbcUNDRED STATERSbjTALENTSbbQUARTERbbTHOUSAND STATERSbkTALENTSxTEN MNASbbSTATERSbb",
  "TALENTSbcHOUSAND STATERSrCARYSTIAN FIVE HUNDREDsYRENAIC TWO DRACHMASrDELPHIC FIVE MNASrE",
  "PIDAUREAN FIVE HUNDREDbcTWObf DRACHMASrHERAEUM ONE PLETHRONuMIONIAN FIFTYbcONEbcTENrMESS",
  "ENIAN TENrNAXIAN FIVE HUNDREDrSTRATIAN FIFTY MNASrTHESPIAN FIFTYbcVE HUNDREDbfTHOUSANDba",
  "ONEbd HUNDREDbeTHOUSANDbaTENbbHIRTYbcREE HUNDREDbbWOsROEZENIAN FIFTYbh ALTERNATE FORMbeV",
  "Ebg HUNDREDbcTENbf ALTERNATE FORMhNO TELEIAhROURA SIGNiTABE SIGNgBETA SYMBOLgCAPITAL DOT",
  "TED LUNATE SIGMA SYMBOLoKAI SYMBOLoLETTER ALPHAba WITH DASIAbl AND OXIAbu AND PROSGEGRAM",
  "MENIbqPERISPOMENIcb AND PROSGEGRAMMENIbrROSGEGRAMMENIbqVARIAbv AND PROSGEGRAMMENIbgMACRO",
  "NbgOXIAbgPROSGEGRAMMENIbhSILIbl AND OXIAbu AND PROSGEGRAMMENIbqPERISPOMENIcb AND PROSGEG",
  "RAMMENIbrROSGEGRAMMENIbqVARIAbv AND PROSGEGRAMMENIbgTONOSbgVARIAbhRACHYwRCHAIC SAMPIvBET",
  "AvCHIvDELTAvEPSILONbc WITH DASIAbn AND OXIAbsVARIAbiOXIAbiPSILIbn AND OXIAbsVARIAbiTONOS",
  "biVARIAwTAy WITH DASIAbj AND OXIAbs AND PROSGEGRAMMENIboPERISPOMENIbz AND PROSGEGRAMMENI",
  "bpROSGEGRAMMENIboVARIAbt AND PROSGEGRAMMENIbeOXIAbePROSGEGRAMMENIbfSILIbj AND OXIAbs AND",
  " PROSGEGRAMMENIboPERISPOMENIbz AND PROSGEGRAMMENIbpROSGEGRAMMENIboVARIAbt AND PROSGEGRAM",
  "MENIbeTONOSbeVARIAvGAMMAvHETAvIOTAz WITH DASIAbk AND OXIAbpPERISPOMENIbpVARIAbgIALYTIKAb",
  "fMACRONbfOXIAbfPSILIbk AND OXIAbpPERISPOMENIbpVARIAbfTONOSbfVARIAbgRACHYvKAPPAvLAMDAvMUv",
  "NUvOMEGAba WITH DASIAbl AND OXIAbu AND PROSGEGRAMMENIbqPERISPOMENIcb AND PROSGEGRAMMENIb",
  "rROSGEGRAMMENIbqVARIAbv AND PROSGEGRAMMENIbgOXIAbgPROSGEGRAMMENIbhSILIbl AND OXIAbu AND ",
  "PROSGEGRAMMENIbqPERISPOMENIcb AND PROSGEGRAMMENIbrROSGEGRAMMENIbqVARIAbv AND PROSGEGRAMM",
  "ENIbgTONOSbgVARIAxICRONbc WITH DASIAbn AND OXIAbsVARIAbiOXIAbiPSILIbn AND OXIAbsVARIAbiT",
  "ONOSbiVARIAvPAMPHYLIAN DIGAMMAwHIwIwSIvRHOy WITH DASIAvSANwHOwIGMAvTAUwHETAvUPSILONbc WI",
  "TH DASIAbn AND OXIAbsPERISPOMENIbsVARIAbjIALYTIKAbiMACRONbiOXIAbiTONOSbiVARIAbjRACHYvXIv",
  "YOTvZETApUNATE SIGMA SYMBOLoREVERSED DOTTED LUNATE SIGMA SYMBOLxLUNATE SIGMA SYMBOLoTHET",
  "A SYMBOLgDASIAl AND OXIAqPERISPOMENIqVARIAhIALYTIKA AND OXIAuPERISPOMENIuVARIAqTONOShRAC",
  "HMA SIGNgFIVE OBOLS SIGNhOUR OBOLS SIGNgGRAMMA SIGNgINDICTION SIGNiSTRUMENTAL NOTATION S",
  "YMBOL-1bk1bk2bk3bk4bk7bk8bk9bj2bk3bk4bk5bk6bk7bk9bj30bk2bk6bk7bk8bk9bj4bk0bk2bk3bk5bk7bk",
  "8bk9bj5bk0bk1bk2bk3bk4bj7bj8gKAI SYMBOLiPPA SYMBOLhORONIShYATHOS BASE SIGNgLETTER ARCHAI",
  "C KOPPAnDIGAMMAnKOPPAnSAMPIoMALL CAPITAL GAMMAbbLAMDAbbOMEGAbbPIbcSIbbRHOoTIGMAnYOThITRA",
  " SIGNhOWER NUMERAL SIGNhUNATE EPSILON SYMBOLnSIGMA SYMBOLgMETRETES SIGNhUSICAL LEIMMAgNU",
  "MERAL SIGNgOBOL SIGNhNE HALF SIGNt ALTERNATE FORMkQUARTER SIGNhUNKIA SIGNhXIAgPERISPOMEN",
  "IhHI SYMBOLhI SYMBOLhROSGEGRAMMENIhSILIl AND OXIAqPERISPOMENIqVARIAgQUESTION MARKgREVERS",
  "ED LUNATE EPSILON SYMBOLhHO SYMBOLkWITH STROKE SYMBOLgSINUSOID SIGNhMALL DOTTED LUNATE S",
  "IGMA SYMBOLmLETTER ALPHAy WITH DASIAbj AND OXIAbs AND YPOGEGRAMMENIboPERISPOMENIbz AND Y",
  "POGEGRAMMENIboVARIAbt AND YPOGEGRAMMENIboYPOGEGRAMMENIbeMACRONbeOXIAbi AND YPOGEGRAMMENI",
  "bePERISPOMENIbp AND YPOGEGRAMMENIbfSILIbj AND OXIAbs AND YPOGEGRAMMENIboPERISPOMENIbz AN",
  "D YPOGEGRAMMENIboVARIAbt AND YPOGEGRAMMENIboYPOGEGRAMMENIbeTONOSbeVARIAbj AND YPOGEGRAMM",
  "ENIbfRACHYbeYPOGEGRAMMENIuRCHAIC KOPPAbbSAMPItBETAtCHItDELTAuIGAMMAtEPSILONba WITH DASIA",
  "bl AND OXIAbqVARIAbgOXIAbgPSILIbl AND OXIAbqVARIAbgTONOSbgVARIAuTAw WITH DASIAbh AND OXI",
  "Abq AND YPOGEGRAMMENIbmPERISPOMENIbx AND YPOGEGRAMMENIbmVARIAbr AND YPOGEGRAMMENIbmYPOGE",
  "GRAMMENIbcOXIAbg AND YPOGEGRAMMENIbcPERISPOMENIbn AND YPOGEGRAMMENIbdSILIbh AND OXIAbq A",
  "ND YPOGEGRAMMENIbmPERISPOMENIbx AND YPOGEGRAMMENIbmVARIAbr AND YPOGEGRAMMENIbmYPOGEGRAMM",
  "ENIbcTONOSbcVARIAbh AND YPOGEGRAMMENIbcYPOGEGRAMMENItFINAL SIGMAtGAMMAtHETAtIOTAx WITH D",
  "ASIAbi AND OXIAbnPERISPOMENIbnVARIAbeIALYTIKAbm AND OXIAbrPERISPOMENIbrTONOSbrVARIAbdMAC",
  "RONbdOXIAbdPERISPOMENIbeSILIbi AND OXIAbnPERISPOMENIbnVARIAbdTONOSbdVARIAbeRACHYtKAPPAuO",
  "PPAtLAMDAtMUtNUtOMEGAy WITH DASIAbj AND OXIAbs AND YPOGEGRAMMENIboPERISPOMENIbz AND YPOG",
  "EGRAMMENIboVARIAbt AND YPOGEGRAMMENIboYPOGEGRAMMENIbeOXIAbi AND YPOGEGRAMMENIbePERISPOME",
  "NIbp AND YPOGEGRAMMENIbfSILIbj AND OXIAbs AND YPOGEGRAMMENIboPERISPOMENIbz AND YPOGEGRAM",
  "MENIboVARIAbt AND YPOGEGRAMMENIboYPOGEGRAMMENIbeTONOSbeVARIAbj AND YPOGEGRAMMENIbeYPOGEG",
  "RAMMENIvICRONba WITH DASIAbl AND OXIAbqVARIAbgOXIAbgPSILIbl AND OXIAbqVARIAbgTONOSbgVARI",
  "AtPAMPHYLIAN DIGAMMAuHIuIuSItRHOw WITH DASIAbcPSILItSAMPIvNuHOuIGMAuTIGMAtTAUuHETAtUPSIL",
  "ONba WITH DASIAbl AND OXIAbqPERISPOMENIbqVARIAbhIALYTIKAbp AND OXIAbuPERISPOMENIbuTONOSb",
  "uVARIAbgMACRONbgOXIAbgPERISPOMENIbhSILIbl AND OXIAbqPERISPOMENIbqVARIAbgTONOSbgVARIAbhRA",
  "CHYtXItZETAmREVERSED DOTTED LUNATE SIGMA SYMBOLvLUNATE SIGMA SYMBOLhUBSCRIPT SMALL LETTE",
  "R BETAbdCHIbdGAMMAbdPHIbdRHOhYMBOL TAU RHOgTALENT SIGNhHETA SYMBOLiREE OBOLS SIGNmQUARTE",
  "RS SIGNhONOShRYBLION BASE SIGNhWO OBOLS SIGNkTHIRDS SIGNgUPSILON WITH ACUTE AND HOOK SYM",
  "BOLtDIAERESIS AND HOOK SYMBOLtHOOK SYMBOLgVARIAhOCAL NOTATION SYMBOL-1bd0bd1bd2bd3bd4bd5",
  "bd6bd7bd8bd9bc2bd0bd1bd2bd3bd4bc3bc4bc5bd0bd1bd2bd3bd4bc6bc7bc8bc9gXESTES SIGNgYEAR SIGN",
  "hPOGEGRAMMENIgZERO SIGNeN APPLEgBOOKgHEARTgSALADcIMACING FACEdNNING CAT FACE WITH SMILIN",
  "G EYESjFACEn WITH ONE LARGE AND ONE SMALL EYEtSMILING EYESuTAR EYEScOUP MARKgSEPARATORdW",
  "ING HEARTbSbUARANI SIGNeDSMANcIDE DOGdTARcJARATI ABBREVIATION SIGNjDIGIT EIGHTpFIVEqOURp",
  "NINEpONEpSEVENqIXpTHREEqWOpZEROjLETTER ArArIrUqBArHAqCArHAqDArDAsHArHAqEqGArHAqHAqIrIqJA",
  "rHAqKArHAqLArLAqMAqNArGArNArYAqOqPArHAqRAqSArHArSAqTArHArTAsHAqUrUqVArOCALIC LzLyRzRqYAq",
  "ZHAjOMjRUPEE SIGNjSIGN ANUSVARApVAGRAHAoCANDRABINDUpIRCLE NUKTA ABOVEoMADDAHoNUKTAoSHADD",
  "ApUKUNoTHREE-DOT NUKTA ABOVEpWO-CIRCLE NUKTA ABOVEoVIRAMAqSARGAjVOWEL CANDRA EwOpSIGN AA",
  "vIvUuCANDRA EbbOuEuIvIuOuUvUuVOCALIC LbdLbcRbdRcNJALA GONDI DIGIT EIGHTuFIVEvOURuNINEuON",
  "EuSEVENvIXuTHREEvWOuZEROoLETTER AwAwIwUvBAwHAvCAwHAvDAwDAxHAwHAvEEvGAwHAvHAvIwIvJAwHAvKA",
  "wHAvLAwLAvMAvNAwGAvOOvPAwHAvRAvSAvTAwHAwTAxHAvUwUvVAvYAoOMoSIGN ANUSVARAtVISARGAoVIRAMAp",
  "OWEL SIGN AAbaIbaUzEEzIbaIzOOzUbaUcRMUKHI ABBREVIATION SIGNkDDAKjDIGIT EIGHTpFIVEqOURpNI",
  "NEpONEpSEVENqIXpTHREEqWOpZEROjEK ONKARjIRIjLETTER ArArIrUqBArHAqCArHAqDArDAsHArHAqEEqFAq",
  "GArHAsHAqHAqIrIqJArHAqKArHAsHAqLArLAqMAqNArGArNArYAqOOqPArHAqRArRAqSArHAqTArHArTAsHAqUrU",
  "qVAqYAqZAjSIGN ADAK BINDIoBINDIoNUKTAoUDAAToVIRAMAqSARGAoYAKASHjTIPPIjURAjVOWEL SIGN AAv",
  "IvUuEEuIvIuOOuUvUaHADEScIR SPACEeCUTcLFWIDTH BLACK SQUAREkDOWNWARDS ARROWkFORMS LIGHT VE",
  "RTICALkHANGUL FILLERrLETTER AzEyCHIEUCHzIEUCyEzOzUyHIEUHyIzEUNGyKHIEUKHzIYEOKbe-SIOSyMIE",
  "UMyNIEUNbd-CIEUCbeHIEUHyOzEyPHIEUPHzIEUPbd-SIOSyRIEULbd-HIEUHbeKIYEOKbeMIEUMbePHIEUPHbfI",
  "EUPbeSIOSbeTHIEUTHySIOSzSANGCIEUCbdKIYEOKbdPIEUPbdSIOSbdTIKEUTyTHIEUTHzIKEUTyUyWAbaEzEba",
  "OzIyYAbaEzEbaOzIzOzUkIDEOGRAPHIC COMMAwFULL STOPkKATAKANA LETTER AbaEbaHAbbEbbIbbObbUbaI",
  "baKAbbEbbIbbObbUbaMAbbEbbIbbObbUbaNbbAbbEbbIbbObbUbaObaRAbbEbbIbbObbUbaSAbbEbbIbbMALL Ab",
  "gEbgIbgObgTUbgUbgYAbhObhUbbObbUbaTAbbEbbIbbObbUbaUbaWAbbObaYAbbObbUtMIDDLE DOTtSEMI-VOIC",
  "ED SOUND MARKtVOICED SOUND MARKs-HIRAGANA PROLONGED SOUND MARKkLEFT CORNER BRACKEToWARDS",
  " ARROWkRIGHT CORNER BRACKETpWARDS ARROWkUPWARDS ARROWkWHITE CIRCLEcMBURGERdMERg AND PICK",
  "lSICKLElWRENCHdSAeTER FACEcND WITH INDEX AND MIDDLE FINGERS CROSSEDqFINGER AND THUMB CRO",
  "SSEDeBAGgLLeSHAKEdGUL CHOSEONG CEONGCHIEUMCHIEUCHbcIEUCbbSIOSbcSANGCIEUCbgSIOSrHIEUCHx-H",
  "IEUHyKHIEUKHtTUEUMCHIEUCHzIEUCySIOSzSANGCIEUCbdSIOSrIEUCv-IEUNGqFILLERqHIEUHv-SIOSqIEUNG",
  "v-CHIEUCHxIEUCwHIEUHwKIYEOKwMIEUMwPANSIOSxHIEUPHxIEUPwRIEULwSIOSwTHIEUTHxIKEUTqKAPYEOUNM",
  "IEUMyPHIEUPHzIEUPyRIEULySSANGPIEUPrHIEUKHrIYEOKw-TIKEUTqMIEUMv-KIYEOKwPIEUPwSIOSwTIKEUTq",
  "NIEUNv-CIEUCwHIEUHwKIYEOKwPIEUPwSIOSwTIKEUTqPANSIOSrHIEUPHx-HIEUHyPIEUPrIEUPv-CHIEUCHxIE",
  "UCwHIEUHwKHIEUKHxIYEOKwNIEUNwPHIEUPHwSIOSba-CIEUCbbKIYEOKbbPIEUPbbTHIEUTHbcIKEUTxSANGSIO",
  "SwTHIEUTHxIKEUTqRIEULv-CIEUCwHIEUHwKAPYEOUNPIEUPxHIEUKHxIYEOKwMIEUMwNIEUNwPIEUPwSIOSxSAN",
  "GKIYEOKbbPIEUPbbTIKEUTwTIKEUTqSIOSu-CHIEUCHwIEUCvHIEUHvIEUNGvKHIEUKHwIYEOKvMIEUMvNIEUNvP",
  "HIEUPHwIEUPba-KIYEOKvRIEULvSSANGSIOSvTHIEUTHwIKEUTrSANGCIEUCba-HIEUHvHIEUHvIEUNGvKIYEOKv",
  "NIEUNvPIEUPvRIEULvSIOSz-PIEUPvTHIEUTHwIKEUTvYEORINHIEUHqTHIEUTHrIKEUTw-CIEUCxKIYEOKxMIEU",
  "MxPIEUPxRIEULxSIOSqYEORINHIEUHsSIEUNGhDOUBLE DOT TONE MARKhFILLERhJONGSEONG CHIEUCHsIEUC",
  "w-PIEUPxSSANGPIEUPrHIEUHw-MIEUMxNIEUNxPIEUPxRIEULrIEUNGw-KHIEUKHyIYEOKxSSANGKIYEOKrKAPYE",
  "OUNMIEUMzPHIEUPHbaIEUPzRIEULsHIEUKHsIYEOKx-CHIEUCHyHIEUHyKHIEUKHyNIEUNyPIEUPyRIEULySIOSb",
  "c-KIYEOKrMIEUMw-CHIEUCHyIEUCxHIEUHxKIYEOKxNIEUNxPANSIOSyIEUPbc-SIOSxRIEULxSIOSySANGNIEUN",
  "bcSIOSrNIEUNw-CHIEUCHyIEUCxHIEUHxKIYEOKxPANSIOSxRIEULxSIOSxTHIEUTHyIKEUTrPANSIOSy-KAPYEO",
  "UNPIEUPzPIEUPsHIEUPHy-PIEUPzSIOSzTHIEUTHsIEUPw-CHIEUCHyIEUCxHIEUHxMIEUMxPHIEUPHxRIEULbc-",
  "PHIEUPHxSIOSbb-TIKEUTxTIKEUTrRIEULw-HIEUHxKAPYEOUNPIEUPyHIEUKHyIYEOKbd-HIEUHbeSIOSxMIEUM",
  "bc-HIEUHbdKIYEOKbdSIOSxNIEUNxPANSIOSyHIEUPHyIEUPbc-HIEUHbdPHIEUPHbdSIOSbdTIKEUTxSIOSySAN",
  "GKIYEOKbcSIOSxTHIEUTHyIKEUTbd-HIEUHxYEORINHIEUHbi-HIEUHzSIEUNGrSIOSv-CHIEUCHxIEUCwHIEUHw",
  "KAPYEOUNPIEUPxIYEOKwMIEUMwPANSIOSxIEUPwRIEULwTHIEUTHxIKEUTsSANGCIEUCwIEUNGwKIYEOKwMIEUMw",
  "NIEUNwPIEUPwRIEULbb-KHIEUKHwSIOSba-KIYEOKbbTIKEUTwTIKEUTbc-PIEUPwYESIEUNGrTHIEUTHsIKEUTx",
  "-CHIEUCHzIEUCyKIYEOKyPIEUPyRIEULySIOSbc-KIYEOKyTHIEUTHrYEORINHIEUHtSIEUNGz-HIEUHbaKHIEUK",
  "HbbIYEOKbaMIEUMbaPANSIOSbaSIOSbbSANGKIYEOKiUNGSEONG As-EUtOtUsEsRAEAw-AxEyOxIxUrEsOt-EUu",
  "OuUsUt-AuEvOvUuOuUrFILLERrIs-AuRAEAtEUtItOu-ItUtYAv-OvEuEvOuOuUrOs-EuOtOu-ItUtYAvEuEvOsE",
  "rSSANGARAEArUs-AuEtEO-EUtI-ItUtYEvOrWAtEsEtOsIrYAt-OuUuYOtEsEtOu-OvUvYAsIt-UsOt-AvEuEOuI",
  "uOuYAwEvEOsUt-AvEuEvOuIuOuUuYEwOhLETTER ApEpRAEAtEoCHIEUCHpIEUCoEpOpUoHIEUHoIpEUNGoKAPYE",
  "OUNMIEUMwPHIEUPHxIEUPwSSANGPIEUPpHIEUKHpIYEOKu-SIOSoMIEUMt-PANSIOSvIEUPuSIOSoNIEUNt-CIEU",
  "CuHIEUHuPANSIOSuSIOSuTIKEUToOpEoPANSIOSpHIEUPHpIEUPt-CIEUCuKIYEOKuSIOSy-KIYEOKzTIKEUTuTH",
  "IEUTHvIKEUToRIEULt-HIEUHuKIYEOKba-SIOSuMIEUMuPANSIOSvHIEUPHvIEUPz-SIOSuSIOSuTHIEUTHvIKEU",
  "TuYEORINHIEUHoSIOSs-CIEUCtKIYEOKtNIEUNtPIEUPtTIKEUTpSANGCIEUCtHIEUHtIEUNGtKIYEOKtNIEUNtP",
  "IEUPtSIOStTIKEUToTHIEUTHpIKEUToUoWAqEpEqOpIoYAqEpEqOrRINHIEUHqSIEUNGw-PANSIOSxSIOSpIpOq-",
  "IrYAtEpUq-IrYEtOhSINGLE DOT TONE MARKeZHOU NUMERAL EIGHTrFIVEsOURrNINErONErSEVENsIXrTENs",
  "HIRTYtREEsWENTYtOdIFI ROHINGYA DIGIT EIGHTwFIVExOURwNINEwONEwSEVENxIXwTHREExWOwZEROqLETT",
  "ER AxBAxCAxDAyDAxFAxGAxHAxJAxKAyHAyINNA WAbdYAxLAxMAxNAyGAyYAxPAxRAyRAxSAyHAxTAyTAxVAxWA",
  "xYAxZAqMARK NA KHONNAvSAKINqSIGN HARBAHAYvTAHALAxNAxSSIqVOWEL AwEwIwOwUdUNOO LETTER ApBA",
  "pDApGApHApIpKApLApMApNAqGApPApRApSApTApUpWApYAiSIGN PAMUDPODiVOWEL SIGN ItUcPPY PERSON R",
  "AISING ONE HANDcRD DISKcTCHING CHICKdRAN LETTER ALEPHpYNoBETHoDALETH-RESHoGIMELoHEqTHoKA",
  "PHoLAMEDHoMEMoNUNoPEoQOPHoSADHEqMEKHpHINoTAWpETHoWAWoYODHoZAYNhNUMBER FIVEoONEr HUNDREDo",
  "TENpWENTYbEADPHONEeSTONEj GRAVEYARD SYMBOLdR-NO-EVIL MONKEYeT DECORATIONgHANDSgWITH ARRO",
  "WlRIBBONlTIP ON THE LEFTdVY AMPERSAND ORNAMENThRROW SHAFT WIDTH ONEbb HALFbcTHIRDyTWO TH",
  "IRDShSTERISKgBALLOT XhLACK CURVED DOWNWARDS AND RIGHTWARDS ARROWtUPWARDS AND RIGHTWARDS ",
  "ARROWmHEARTl-FEATHERED NORTH EAST ARROWwRIGHTWARDS ARROWwSOUTH EAST ARROWgCHECK MARKjVRO",
  "N SNOWFLAKEhIRCLEm WITH CIRCLE INSIDEsSTROKE AND TWO DOTS ABOVEmD SALTIREhONCAVE-POINTED",
  " BLACK RIGHTWARDS ARROWgDASHED TRIANGLE-HEADED RIGHTWARDS ARROWhIVISION SIGNhOLLAR SIGNi",
  "UBLE COMMA QUOTATION MARK ORNAMENTnTURNED COMMA QUOTATION MARK ORNAMENTiWNWARDS ARROW WI",
  "TH EQUILATERAL ARROWHEADbbLARGE EQUILATERAL ARROWHEADgEIGHT POINTED BLACK STARuPINWHEEL ",
  "STARuRECTILINEAR BLACK STARmSPOKED ASTERISKmTEARDROP-SPOKED PROPELLER ASTERISKhQUALS SIG",
  "NhXCLAMATION MARK ORNAMENTxSYMBOLgFIVE POINTED BLACK STARlSPOKED ASTERISKhOUR BALLOON-SP",
  "OKED ASTERISKgGREEK CROSSgHEART EXCLAMATION MARK ORNAMENThORIZONTAL FILLgINTERROBANG ORN",
  "AMENTgLARGE CIRCLEiTIN CROSShEFT-POINTING ANGLE BRACKET ORNAMENTbaQUOTATION MARK ORNAMEN",
  "TkWARDS ARROW WITH EQUILATERAL ARROWHEADbbLARGE EQUILATERAL ARROWHEADhIGATURE OPEN ET OR",
  "NAMENThOW DOUBLE COMMA QUOTATION MARK ORNAMENTkSINGLE COMMA QUOTATION MARK ORNAMENTjER R",
  "IGHT-SHADOWED WHITE RIGHTWARDS ARROWgMINUS SIGNhULTIPLICATION XgNORTH EAST ARROWrPOINTIN",
  "G BUDbaVINE LEAFmWEST POINTING BUDbaVINE LEAFgOPEN CENTRE CROSShUTLINED BLACK STARhVAL W",
  "ITH OVAL INSIDEgPLUS SIGNgRIGHT-POINTING ANGLE BRACKET ORNAMENTbbQUOTATION MARK ORNAMENT",
  "lWARDS ARROWw WITH EQUILATERAL ARROWHEADbcLARGE EQUILATERAL ARROWHEADhOUND-TIPPED RIGHTW",
  "ARDS ARROWgSALTIREiNS-SERIF INTERROBANG ORNAMENThCRIPT LIGATURE ET ORNAMENThINGLE COMMA ",
  "QUOTATION MARK ORNAMENTnTURNED COMMA QUOTATION MARK ORNAMENTiX POINTED BLACK STARkSPOKED",
  " ASTERISKhOUTH EAST ARROWrPOINTING BUDbaVINE LEAFmWEST POINTING BUDbaVINE LEAFhPARKLEgTE",
  "ARDROP-SHANKED RIGHTWARDS ARROWqPOKED ASTERISKwPINWHEEL ASTERISKhRIANGLE-HEADED RIGHTWAR",
  "DS ARROWhWELVE POINTED BLACK STARvPINWHEEL STARgUPPER RIGHT-SHADOWED WHITE RIGHTWARDS AR",
  "ROWiWARDS ARROW WITH EQUILATERAL ARROWHEADzLARGE EQUILATERAL ARROWHEADgVERTICAL BARgWEDG",
  "E-TAILED RIGHTWARDS ARROWhHITE CIRCLEmDOWN-POINTING TRIANGLEmSQUAREhIDE-HEADED RIGHTWARD",
  "S ARROWcBREW ACCENT ATNAH HAFUKHoDARGApEHIoETNAHTAoGERESHu MUQDAMrSHAYIMoILUYoMAHAPAKHpE",
  "RKHAu KEFULApUNAHoOLEoPASHTAqZERoQADMAqRNEY PARAoREVIAoSEGOLpHALSHELEToTELISHA GEDOLAwQE",
  "TANAqVIRpIPEHAoYERAH BEN YOMOqTIVoZAQEF GADOLuQATANqRQApINORhLETTER ALEFs WITH MAPIQyPAT",
  "AHyQAMATSqTERNATIVE AYINbaPLUS SIGNpYINoBETr WITH DAGESHxRAFEoDALETt WITH DAGESHoFINAL K",
  "AFx WITH DAGESHuMEMuNUNuPEw WITH DAGESHuTSADIoGIMELt WITH DAGESHoHEq WITH MAPIQqToKAFr W",
  "ITH DAGESHxRAFEoLAMEDt WITH DAGESHoMEMr WITH DAGESHoNUNr WITH DAGESHoPEq WITH DAGESHwRAF",
  "EoQOFr WITH DAGESHoRESHs WITH DAGESHoSAMEKHu WITH DAGESHpHINs WITH DAGESHbe AND SHIN DOT",
  "bkIN DOTySHIN DOTzIN DOToTAVr WITH DAGESHpETr WITH DAGESHpSADIt WITH DAGESHoVAVr WITH DA",
  "GESHxHOLAMoWIDE ALEFtDALETtFINAL MEMtHEtKAFtLAMEDtRESHtTAVoYODr WITH DAGESHxHIRIQoZAYINt",
  " WITH DAGESHiIGATURE ALEF LAMEDqYIDDISH DOUBLE VAVbfYODyVAV YODyYOD YOD PATAHhMARK LOWER",
  " DOTmMASORA CIRCLEmUPPER DOThPOINT DAGESH OR MAPIQnHATAF PATAHtQAMATStSEGOLoIRIQoOLAMs H",
  "ASER FOR VAVnJUDEO-SPANISH VARIKAnMETEGnPATAHnQAMATSt QATANoUBUTSnRAFEnSEGOLoHEVApIN DOT",
  "oIN DOTnTSEREiUNCTUATION GERESHwSHAYIMtMAQAFtNUN HAFUKHAtPASEQtSOF PASUQhYOD TRIANGLEcDG",
  "EHOGcLICOPTERdLSCHREIBER PAUSE SYMBOLdM SYMBOLeET WITH WHITE CROSScNTAIGANA LETTER A-1u2",
  "u3uWOsE-1u2u3u4u5u6sHA-1w0w1v2v3v4v5v6v7v8v9tE-1v2v3v4v5v6v7tI-1v2v3v4v5v6v7tO-1v2v3v4v5",
  "v6v7v8tU-1v2v3sI-1u2u3u4sKA-1w0w1v2v3v4v5v6v7v8v9vKEtE-1v2v3v4v5v6tI-1v2v3v4v5v6v7v8tO-1",
  "v2v3vKItU-1v2v3v4v5v6v7sMA-1v2v3v4v5v6v7tE-1v2vMAtI-1v2v3v4v5v6v7tO-1v2v3v4v5v6tU-1v2v3v",
  "4sN-MU-MO-1ba2tA-1v2v3v4v5v6v7v8v9tE-1v2v3v4v5v6vKOtI-1v2v3v4v5v6v7vTEtO-1v2v3v4v5tU-1v2",
  "v3sO-1u2u3sRA-1v2v3v4tE-1v2v3v4tI-1v2v3v4v5v6v7tO-1v2v3v4v5v6tU-1v2v3v4v5v6sSA-1v2v3v4v5",
  "v6v7v8tE-1v2v3v4v5tI-1v2v3v4v5v6tO-1v2v3v4v5v6v7tU-1v2v3v4v5v6v7v8sTA-1v2v3v4tE-1v2v3v4v",
  "5v6v7v8v9tI-1v2v3v4v5v6v7tO-1v2v3v4v5v6vRAtU-1v2v3v4vTOsU-1u2u3u4u5sWA-1v2v3v4v5tE-1v2v3",
  "v4tI-1v2v3v4v5tO-1v2v3v4v5v6v7sYA-1v2v3v4v5vYOtO-1v2v3v4v5v6tU-1v2v3v4cRBdMITIAN CONJUGA",
  "TE MATRIXcXAGRAM FOR ABUNDANCEoFTER COMPLETIONoPPROACHnBEFORE COMPLETIONoITING THROUGHoR",
  "EAKTHROUGHnCOMING TO MEETpNFLICTqTEMPLATIONnDARKENING OF THE LIGHToECREASEpLIVERANCEpVEL",
  "OPMENToIFFICULTY AT THE BEGINNINGpSPERSIONoURATIONnENTHUSIASMnFELLOWSHIPoOLLOWINGnGATHER",
  "ING TOGETHERoRACEpEAT POSSESSIONvWERuREPONDERANCEtTAMINGnHOLDING TOGETHERnINCREASEpFLUEN",
  "CEpNER TRUTHqOCENCEnLIMITATIONnMODESTYpUTH CORNERSnOBSTRUCTIONoPPOSITIONqRESSIONnPEACEoR",
  "OGRESSoUSHING UPWARDnRETREATqURNpVOLUTIONnSMALL PREPONDERANCEtTAMINGoPLITTING APARToTAND",
  "STILLnTHE ABYSMAL WATERsRMYtOUSING THUNDERrCAULDRONsLINGING FIREsREATIVE HEAVENrFAMILYrG",
  "ENTLE WINDrJOYOUS LAKErKEEPING STILL MOUNTAINrMARRYING MAIDENrRECEPTIVE EARTHrWANDERERsE",
  "LLoREADINGnWAITINGoORK ON THE DECAYEDnYOUTHFUL FOLLYbIBISCUScGH BRIGHTNESS SYMBOLfOCTET ",
  "PRESETfVOLTAGE SIGNe-HEELED SHOEfSPEED TRAINq WITH BULLET NOSEcKING BOOTcNDU TEMPLEcPPOP",
  "OTAMUScRAGANA DIGRAPH YORIjITERATION MARKjLETTER ArRCHAIC WUyYEqBArErIrOrUqDArErIrOrUqEq",
  "GArErIrOrUqHArErIrOrUqIqKArErIrOrUqMArErIrOrUqNrArErIrOrUqOqPArErIrOrUqRArErIrOrUqSArErI",
  "rMALL AwEwIwKAxEwOwTUwUwWAxExIxOwYAxOxUrOrUqTArErIrOrUqUqVUqWArErIrOqYArOrUqZArErIrOrUjV",
  "OICED ITERATION MARKcSTORIC SITEbOCHOcLEdLOW QUILT SQUARE ORNAMENTbc IN BLACK SQUAREcMOT",
  "HETICcNEY POTfBEEcOKcPcRIZONTAL BARmLACK HEXAGONrOCTAGONlELLIPSISlLINE EXTENSIONlMALE WI",
  "TH STROKE SIGNlONE EIGHTH BLOCK-1358bc2bc3bc4bc5bc6bc7lSCAN LINE-1v3v7v9lTAB KEYoULATION",
  "v SETwWITH JUSTIFICATIONmRAFFIC LIGHTdSEf FACEgRACINGcSPITALcT BEVERAGEeDOGePEPPEReSPRIN",
  "GSdELcURGLASSj WITH FLOWING SANDdSEf BUILDINGoSgWITH GARDENbRYVNIA SIGNbTcJcSbUGGING FAC",
  "EcNDRED POINTS SYMBOLcSHED FACEcTbYGIEAcPHENg BULLEThWITH DIAERESISg-MINUSgATION POINTdO",
  "DIASTOLEcSTERESIS SYMBOLaI LOVE YOU HAND SIGNbCE CREAMfUBEeHOCKEY STICK AND PUCKeSKATEbD",
  "ENTICAL TOm AND SLANTED PARALLELkWITH DOT ABOVEgFICATION CARDdOGRAPHIC ANNOTATION BOTTOM",
  " MARKxEARTH MARKxFIRST MARKyOUR MARKbbTH MARKxHEAVEN MARKxLINKING MARKxMAN MARKyIDDLE MA",
  "RKxONE MARKxREVERSE MARKxSECOND MARKxTHIRD MARKzREE MARKyOP MARKyWO MARKmCLOSING MARKnOM",
  "MAmDEPARTING TONE MARKoSCRIPTION CHARACTER ABOVE TO BELOWbrMIDDLE AND BELOWbiFULL SURROU",
  "NDbiLEFT TO MIDDLE AND RIGHTbqRIGHTbiOVERLAIDbiSURROUND FROM ABOVEbwBELOWbwLEFTbxOWER LE",
  "FTbwUPPER LEFTccRIGHTmENTERING TONE MARKmFULL STOPmHALF FILL SPACEmITERATION MARKmLEVEL ",
  "TONE MARKmNUMBER ZEROmRISING TONE MARKmSPACEmTALLY MARK FIVEyOURxONExTHREEyWOnELEGRAPH L",
  "INE FEED SEPARATOR SYMBOLwSYMBOL FOR APRILbiUGUSTbhDAY EIGHTbqEENbmLEVENblFIFTEENbnVEbmO",
  "URbpTEENblNINEbpTEENblONEblSEVENbqTEENbmIXboTEENblTENbmHIRTEENbqYbr-ONEbnREEbmWELVEboNTY",
  "br-EIGHTbsFIVEbtOURbsNINEbsONEbsSEVENbtIXbsTHREEbtWObnObiECEMBERbhFEBRUARYbhHOUR EIGHTbr",
  "EENbnLEVENbmFIFTEENboVEbnOURbqTEENbmNINEbqTEENbmONEbmSEVENbrTEENbnIXbpTEENbmTENbnHIRTEEN",
  "boREEbnWELVEbpNTYbs-FOURbtONEbtTHREEbuWOboObmZERObhJANUARYbiULYbjNEbhMARCHbjYbhNOVEMBERb",
  "hOCTOBERbhSEPTEMBERmVARIATION INDICATORbMAGE OFi OR APPROXIMATELY EQUAL TOcPdERIAL ARAMA",
  "IC LETTER ALEPHzYINyBETHyDALETHyGIMELyHEbaTHyKAPHyLAMEDHyMEMyNUNyPEyQOPHyRESHySADHEbaMEK",
  "HzHINyTAWzETHyWAWyYODHyZAYINrNUMBER ONEbb HUNDREDbcTHOUSANDyTENbb THOUSANDzHREEzWENTYbaO",
  "rSECTION SIGNbNBOX TRAYcCOMING ENVELOPEfPLETE INFINITYdREASE FONT SIZE SYMBOLiS ASfMENTc",
  "DdEXf POINTING AT THE VIEWERdIAN RUPEE SIGNeC SIYAQ ALTERNATE LAKH MARKmFRACTION ONE HAL",
  "FzQUARTERvTHREE QUARTERSmLAKH MARKmNUMBER ALTERNATE ONEbdTEN THOUSANDbeWOtEIGHTy HUNDRED",
  "zTHOUSANDyYz THOUSANDtFIFTYy THOUSANDvVEx HUNDREDyTHOUSANDuORTYy THOUSANDvURx HUNDREDyTH",
  "OUSANDtKARORyANtLAKHxANtNINEx HUNDREDyTHOUSANDxTYz THOUSANDtONEw HUNDREDxTHOUSANDtPREFIX",
  "ED EIGHTbcFIVEbdOURbcNINEbcONEbcSEVENbdIXbcTHREEbdWOtSEVENy HUNDREDzTHOUSANDyTYba THOUSA",
  "NDuIXw HUNDREDxTHOUSANDwTYy THOUSANDtTENw THOUSANDuHIRTYz THOUSANDvREEy HUNDREDzTHOUSAND",
  "uWENTYz THOUSANDvOw HUNDREDxTHOUSANDmPLACEHOLDERmRUPEE MARKcFINITYi NEGATED WITH VERTICA",
  "L BARdORMATION DESK PERSONmSEPARATOR FOURwONEwTHREExWOnOURCEcHIBIT ARABIC FORM SHAPINGiS",
  "YMMETRIC SWAPPINGcPUT SYMBOL FOR LATIN CAPITAL LETTERSxLETTERSxSMALL LETTERSrNUMBERSrSYM",
  "BOLScSCRIPTIONAL PAHLAVI LETTER ALEPHbdBETHbdDALETHbdGIMELbdHEbfTHbdKAPHbdLAMEDHbdMEM-QO",
  "PHbdNUNbdPEbdSADHEbfMEKHbeHINbdTAWbeETHbdWAW-AYIN-RESHbdYODHbdZAYINwNUMBER FOURbdONEbg H",
  "UNDREDbhTHOUSANDbdTENbeHREEbeWENTYbfOqRTHIAN LETTER ALEPHbfYINbeBETHbeDALETHbeGIMELbeHEb",
  "gTHbeKAPHbeLAMEDHbeMEMbeNUNbePEbeQOPHbeRESHbeSADHEbgMEKHbfHINbeTAWbfETHbeWAWbeYODHbeZAYI",
  "NxNUMBER FOURbeONEbh HUNDREDbiTHOUSANDbeTENbfHREEbfWENTYbgOdERTION SYMBOLcTEGRALi AROUND",
  " A POINT OPERATORkVERAGE WITH SLASHjEXTENSIONjWITH DOUBLE STROKEoINTERSECTIONoLEFTWARDS ",
  "ARROW WITH HOOKoOVERBARoTIMES SIGNoUNDERBARqIONeRCALATEfIOR PRODUCTfLINEAR ANNOTATION AN",
  "CHORxSEPARATORxTERMINATORgOCKED FEMALE AND MALE SIGNfROBANGfSECTIONm ABOVE BAR ABOVE UNI",
  "ONtUNIONnBESIDE AND JOINED WITH INTERSECTIONnWITH DOTsLOGICAL ANDsOVERBARcVERSE BULLETiC",
  "HECK MARKnER BOARD FILLiDOWNWARDS ARROW WITH TIP LEFTWARDSiMEDIUM SHADEiWHITE CIRCLEfTED",
  " EXCLAMATION MARKjINTERROBANGjLAZY SkOW KAVYKAt WITH KAVYKA ABOVEjOHM SIGNjPENTAGRAMjQUE",
  "STION MARKjUNDERTIEdISIBLE PLUSkSEPARATORkTIMESbZAKAYA LANTERNaJACK-O-LANTERNcPANESE BAN",
  "K SYMBOLjCASTLEjDOLLSjGOBLINjINDUSTRIAL STANDARD SYMBOLjOGREjPOST OFFICEjSYMBOL FOR BEGI",
  "NNERcRcVANESE CONSONANT SIGN CAKRAyKERETyPENGKALjDIGIT EIGHTpFIVEqOURpNINEpONEpSEVENqIXp",
  "THREEqWOpZEROjLEFT RERENGGANlTTER ArIqBAs MURDAqCAs MURDAqDAs MAHAPRANArDAt MAHAPRANAqEq",
  "GAs MURDAqHAqIr KAWIrIqJAs MAHAPRANAqKAs MURDAtSASAKqLAqMAqNAs MURDArGAt LELETz RASWADIr",
  "YAt MURDAqOqPAs CEREKtMURDAqRAs AGUNGqSAs MAHAPRANAuURDAqTAs MURDArTAt MAHAPRANAqUqWAqYA",
  "jPADA ADEGs ADEGpNDAPoISEN-ISENoLINGSApUHURqNGSIoMADYAoPANGKATpISELEHoTIRTA TUMETESoWIND",
  "UlNGKONnRANGKEPjRIGHT RERENGGANjSIGN CECAKt TELUoLAYARoPANYANGGAoWIGNYANjTURNED PADA PIS",
  "ELEHjVOWEL SIGN DIRGA MUREuPEPETuSUKUy MENDUTuTALINGwRUNGvOLONGuWULUy MELIKbEANSbIGSAW P",
  "UZZLE PIECEbOINcYSTICKbUGGLINGcNOcPITERaKAABAcITHI ABBREVIATION SIGNhDANDAiOUBLE DANDAoS",
  "ECTION MARKhENUMERATION SIGNhLETTER ApApIpUoBApHAoCApHAoDApDAqDHAqHApHAoEoGApHAoHAoIpIoJ",
  "ApHAoKApHAoLAoMAoNApGApNApYAoOoPApHAoRApHAoSApHApSAoTApHApTAqHAoUpUoVAoYAhNUMBER SIGNs A",
  "BOVEhSECTION MARKiIGN ANUSVARAmCANDRABINDUmNUKTAmVIRAMAoSARGAhVOWEL SIGN AAtItUsEsItIsOs",
  "UtUsVOCALIC RcNGAROOeXI RADICAL AGAINqNDqRRIVEsOWqXEpBADGERrMBOOqEANqIGrRDrTTERqLACKrOOD",
  "rUEqOATrDYrLT OF CLOTHrNErWqRANCHrISTLErUSHpCARTrULDRONrVEqHILDqITYqLANsWrIFFrOTHESqOLOR",
  "rMPARErRPSErVERrWpDEATHrERqIPPERrSHsTINGUISHrVINATIONqO NOTrGrORrTsTED CLIFFwTENTrUBLE X",
  "rWN BOXqRAGONrUMrYpEARsTHrTqIGHTqMBROIDERYqNCLOSURErTERqVENtINGqYEpFACErNGrTHERqEATHERqI",
  "ELDrGHTrRErSHqLUTErYqOOTqRAGRANTrOGqURpGATEqHOSTqOr SLOWLYrLDqRAINsSSpHAIRrLBERDsF TREE ",
  "TRUNKrNDqEADsRTrMPqIDING ENCLOSUREqOOKrRNsSEpICEqNCHrSECTpJADErRpKNIFEpLACKrMEqEAFsTHERr",
  "EKrGSqIDrFErNEqONGt STRIDEpMANqEATrLONqILLETrNISTERqOONrRNINGsTARrUNDtTAINsTHpNETqOSErTp",
  "OLDqNEsSELFqPEN BOXrPOSEpPIGqLOWqOWERqRIVATErOFOUNDpRAINrPrTqEDqICErGHT OPEN BOXrVERqOOF",
  "qUNpSACRIFICIAL WINErLTrYqCHOLARrRIPTqEALrCONDrErLFqHEEPsLLrOOTsRT TAILED BIRDwHREADqICK",
  "NESSrLKqKINqLASHsVErICEqMALLqNOUTqOUNDqPEARsECHrIRITrOONrROUTqQUAREqTANDrEAMsPrONEsPtPIN",
  "GqUNqWEETpTABLErLLrNNED LEATHERqENqIGERrLEqONGUErOTHqRACKrEErIPODqURBANsTLEqWOs HANDSpUS",
  "EpVALLEYqILLAGEpWALKt ENCLOSURErTERqEAPONrSTqHEATrITEqINDsEqOMANrRKqRAPrONGpYELLOWdNADA ",
  "AI LENGTH MARKiDIGIT EIGHToFIVEpOURoNINEoONEoSEVENpIXoTHREEpWOoZEROiLENGTH MARKkTTER AqA",
  "qIqUpBAqHApCAqHApDAqDArHAqHApEqEpFApGAqHApHApIqIpJAqHApKAqHApLAqLArLApMApNArKAARA POLLUq",
  "GAqNAqYApOqOpPAqHApRAqRApSAqHAqSApTAqHAqTArHApUqUpVAqOCALIC LyLxRyRpYAiSIGN ANUSVARAoVAG",
  "RAHAnCANDRABINDUnJIHVAMULIYAnNUKTAnSIDDHAMoPACING CANDRABINDUnUPADHMANIYAnVIRAMApSARGAiV",
  "OWEL SIGN AAuIuUtEuEtIuItOuOtUuUtVOCALIC LbcLbbRbcRcTAKANA DIGRAPH KOTOjITERATION MARKjL",
  "ETTER ArRCHAIC EyWUyYEzIqBArErIrOrUqDArErIrOrUqEqGArErIrOrUqHArErIrOrUqIqKArErIrOrUqMArE",
  "rIsNNAN NASALIZED TONE-1bm2bm3bm4bm5bm7bm8xTONE-2bc3bc4bc5bc7bc8rOrUqNrArErIrOrUqOqPArEr",
  "IrOrUqRArErIrOrUqSArErIrMALL AwEwHAxExIxOxUwIwKAxExUwMUwNxUwOwRAxExIxOxUwSIxUwTOxUwUwWAx",
  "ExIxOwYAxOxUrOrUqTArErIrOrUqUqVArErIrOrUqWArErIrOqYArOrUqZArErIrOrUjMIDDLE DOTjVOICED IT",
  "ERATION MARKi-HIRAGANA DOUBLE HYPHENsPROLONGED SOUND MARKsSEMI-VOICED SOUND MARKsVOICED ",
  "SOUND MARKcYAH LI DIGIT EIGHTpFIVEqOURpNINEpONEpSEVENqIXpTHREEqWOpZEROjLETTER AqBAqCAqDA",
  "qGAqHArTAqIqKArHAqLAqMAqNArGArYAqOErOqPArHAqRAqSArHAqTArHAqVAqWAqYAqZAjSIGN CWIoSHYAjTON",
  "E CALYAt PLOPHUoPLOPHUjVOWEL EqEpOpUqEbELVIN SIGNcYdBOARDi AND MOUSEdCAP TENbHAROSHTHI D",
  "IGIT FOURrONErTHREEsWOlFRACTION ONE HALFlLETTER AsBAtHAsCAtHAsDAtDAuHAtHAsGAtHAsHAsJAsKA",
  "tHAtKAsLAsMAsNAtNAtYAsPAtHAsRAsSAtHAtSAsTAtHAtTAuHAuTAvHAsVAtHAsYAsZAlNUMBER ONE HUNDRED",
  "wTHOUSANDsTENtWENTYlPUNCTUATION CIRCLEyRESCENT BARxDANDAyOTzUBLE DANDAxLINESyOTUSxMANGAL",
  "AMxSMALL CIRCLElSIGN ANUSVARAqBAR ABOVEqCAUDAqDOT BELOWsUBLE RING BELOWqVISARGAlVIRAMAmO",
  "WEL LENGTH MARKrSIGN EwIwOwUwVOCALIC RcITAN SMALL SCRIPT FILLERcMER CURRENCY SYMBOL RIEL",
  "gDIGIT EIGHTmFIVEnOURmNINEmONEmSEVENnIXmTHREEnWOmZEROgINDEPENDENT VOWEL LYbaYyQAAbaIbaQb",
  "aUzEzIbaIzOO TYPE ONEbhTWOzUbaKbaUbbVyRYbaYgLETTER BAnCAoHApOoOnDAoOnHAnKAoHApOoOnLAoOnM",
  "OnNGOoNOoOoYOnPHApOoOnQAnROnSAoHAoSOnTAoHApOoOoTHAqOnVOnYOgSIGN AHSDAmTTHACANmVAKRAHASAN",
  "YAlBANTOCnRIYOOSANnTHAMASATmEYYALlCAMNUC PII KUUHmOENGlKAKABATmHANmOOMUUTlLEK TOOlMUUSIK",
  "ATOANlNIKAHITlPHNAEK MUANlREAHMUKmOBATlSAMYOK SANNYAlTOANDAKHIATmRIISAPlVIRIAMlYUUKALEAP",
  "INTUhYMBOL BEI KOETrROCoUON KOETsROCnDAP KOETrROCq-BEI KOETvROCsUON KOETwROCrMUOY KOETwR",
  "OCrPII KOETvROCsRAM KOETwROCnLEK ATTAK BEIyUONxMUOYxPIIyRAMbb-BEIbdUONbcMUOYbcPIIxSONnMU",
  "OY KOETsROCnPATHAMASAToII KOETrROCoRAM KOETsROCr-BEI KOETwROCtUON KOETxROCsMUOY KOETxROC",
  "sPII KOETwROCnTUTEYASATgVOWEL INHERENT AAwQmSIGN AAsEsIsUrErIsEsIrOEsOrUsAsUrYsAsYcOJKI ",
  "ABBREVIATION SIGNhDANDAiOUBLE DANDAoSECTION MARKhLETTER ApApIpUoBApBApHAoCApHAoDApDAqDAq",
  "HApHAoEoGApGApHAoHAoIoJApJAoKApHAoLApLAoMAoNApGApNApYAoOoPApHAoRAoSAoTApHApTAqHAoUoVAoYA",
  "hSECTION MARKiIGN ANUSVARAmNUKTAmSHADDAnUKUNmVIRAMAhVOWEL SIGN AAtItUsEsItIsOsUhWORD SEP",
  "ARATORcUDAWADI DIGIT EIGHTqFIVErOURqNINEqONEqSEVENrIXqTHREErWOqZEROkLETTER AsAsIsUrBAsBA",
  "sHArCAsHArDAsDAtDAtHAsHArErGAsGAsHArHArIsIrJAsHAsJArKAsHArLArMArNAsGAsNAsYArOrPAsHArRAsR",
  "ArSAsHArTAsHAsTAtHArUsUrVArYAkSIGN ANUSVARApNUKTApVIRAMAkVOWEL SIGN AAwIwUvEvIwIvOvUwUbI",
  "MONOcP SIGNcSSe MARKeING CAT FACE WITH CLOSED EYESiFACEm WITH CLOSED EYESsSMILING EYEScT",
  "EcWIFRUITbNEELING PERSONcOTbOALAcREAN STANDARD SYMBOLbRONOSaL B BAR SYMBOLbAB COATdELcCR",
  "OSSE STICK AND BALLcDDERdY BEETLEcNGUAGE TAGcO CANCELLATION MARKeDIGIT EIGHTkFIVElOURkNI",
  "NEkONEkSEVENlIXkTHREElWOkZEROeELLIPSISeHO MOhNOeKO LAeLETTER BOlCOlDOlFO FAYpONoSUNGoTAM",
  "lHO SUNGoTAMlKHMU GOqNYOnO SUNGpTAMmOlLOn LINGpOOTlMOlNGOmOmYOlOlPALI BHAqCHAqDDAsHArHAq",
  "GHAqJHAqLLAqNNArYAqTTAsHAmHO SUNGpTAMmOlROlSANSKRIT SHAvSAmO SUNGoTAMlTHO SUNGpTAMmOlWOl",
  "YOeNIGGAHITAeSEMIVOWEL SIGN LOtNYOfIGN PALI VIRAMAeTONE MAI CATAWAnEKnTHOoIeVOWEL SIGN A",
  "qAqIqMqYpEqIpIqIpMAI KANuONpOpUqUpYqYcRGE BLUE CIRCLElDIAMONDlSQUAREhROWN CIRCLEmSQUAREg",
  "CIRCLEgDOWN TACKgGREEN CIRCLEmSQUAREgLEFT TRIANGLE OPERATORgONE DOT OVER TWO DOTS PUNCTU",
  "ATIONkRING OVER TWO RINGS PUNCTUATIONhRANGE CIRCLEnDIAMONDnSQUAREgPURPLE CIRCLEnSQUAREgR",
  "ED CIRCLEkSQUAREgTRIPLE VERTICAL BAR OPERATORhWO DOTS OVER ONE DOT PUNCTUATIONkRINGS OVE",
  "R ONE RING PUNCTUATIONgUP TACKgYELLOW CIRCLEnSQUAREfR THANl OR EQUAL TOdI SIGNcST QUARTE",
  "R MOONr SYMBOLsWITH FACEcTIN CAPITAL LETTER Aw WITH ACUTEbcBREVEbh AND ACUTEbmDOT BELOWb",
  "mGRAVEbmHOOK ABOVEbmTILDEbcCARONbdIRCUMFLEXbm AND ACUTEbrDOT BELOWbrGRAVEbrHOOK ABOVEbrT",
  "ILDEbcDIAERESISbl AND MACRONbdOT ABOVEbl AND MACRONbgBELOWbeUBLE GRAVEbcGRAVEbcHOOK ABOV",
  "EbcINVERTED BREVEbcMACRONbcOGONEKbcRING ABOVEbm AND ACUTEbhBELOWbcSTROKEbcTILDEwAwEx WIT",
  "H ACUTEbdMACRONwFRICAN DwLPHAwNGLICANA WwOwUwVx WITH HORIZONTAL BARwYvBw WITH DOT ABOVEb",
  "gBELOWbcFLOURISHbcHOOKbcLINE BELOWbcSTROKEbcTOPBARwETAwROKEN LvCw WITH ACUTEbcBARbcCARON",
  "bdEDILLAbj AND ACUTEbdIRCUMFLEXbcDOT ABOVEbcHOOKbcPALATAL HOOKbcSTROKEwHIwLOSED INSULAR ",
  "GwONwUATRILLObe WITH COMMAvDw WITH CARONbdEDILLAbdIRCUMFLEX BELOWbcDOT ABOVEbgBELOWbcHOO",
  "KbcLINE BELOWbcSHORT STROKE OVERLAYbdMALL LETTER Zbq WITH CARONbdTROKEbcTOPBARwZx WITH C",
  "ARONvEw WITH ACUTEbcBREVEbcCARONbdEDILLAbj AND BREVEbdIRCUMFLEXbm AND ACUTEbrDOT BELOWbr",
  "GRAVEbrHOOK ABOVEbrTILDEbnBELOWbcDIAERESISbdOT ABOVEbgBELOWbeUBLE GRAVEbcGRAVEbcHOOK ABO",
  "VEbcINVERTED BREVEbcMACRONbi AND ACUTEbnGRAVEbcOGONEKbcSTROKEbcTILDEbh BELOWwGYPTOLOGICA",
  "L AINbkLEFwNGwSHwTxHwZHy REVERSEDzWITH CARONvFw WITH DOT ABOVEbcHOOKbcSTROKEvGw WITH ACU",
  "TEbcBREVEbcCARONbdEDILLAbdIRCUMFLEXbcDOT ABOVEbcHOOKbcMACRONbcOBLIQUE STROKEbcSTROKEwAMM",
  "AwHAwLOTTAL AbdIbdSTOPbdUvHw WITH BREVE BELOWbcCARONbdEDILLAbdIRCUMFLEXbcDESCENDERbdIAER",
  "ESISbdOT ABOVEbgBELOWbcHOOKbcSTROKEwALF HwENGwWAIRvIw WITH ACUTEbcBREVEbcCARONbdIRCUMFLE",
  "XbcDIAERESISbl AND ACUTEbdOT ABOVEbgBELOWbeUBLE GRAVEbcGRAVEbcHOOK ABOVEbcINVERTED BREVE",
  "bcMACRONbcOGONEKbcSTROKEbcTILDEbh BELOWwNSULAR DbdFbdGbdRbdSbdTwOTAwSvJw WITH CIRCUMFLEX",
  "bdROSSED-TAILbcSTROKEvKw WITH ACUTEbcCARONbdEDILLAbcDESCENDERbdIAGONAL STROKEbdOT BELOWb",
  "cHOOKbcLINE BELOWbcOBLIQUE STROKEbcSTROKEbi AND DIAGONAL STROKEvLw WITH ACUTEbcBARbdELTb",
  "cCARONbdEDILLAbdIRCUMFLEX BELOWbcDOT BELOWbl AND MACRONbeUBLE BARbcHIGH STROKEbcLINE BEL",
  "OWbcMIDDLE DOTbjTILDEbcSMALL LETTER JbdTROKEwJvMw WITH ACUTEbcDOT ABOVEbgBELOWbcHOOKwIDD",
  "LE SCOTS Sbb-WELSH LLbiVvNw WITH ACUTEbcCARONbdEDILLAbdIRCUMFLEX BELOWbcDESCENDERbdOT AB",
  "OVEbgBELOWbcGRAVEbcLEFT HOOKbdINE BELOWbdONG RIGHT LEGbcOBLIQUE STROKEbcSMALL LETTER Jbc",
  "TILDEwJvOw WITH ACUTEbcBREVEbcCARONbdIRCUMFLEXbm AND ACUTEbrDOT BELOWbrGRAVEbrHOOK ABOVE",
  "brTILDEbcDIAERESISbl AND MACRONbdOT ABOVEbl AND MACRONbgBELOWbeUBLE ACUTEbjGRAVEbcGRAVEb",
  "cHOOK ABOVEbeRNbg AND ACUTEblDOT BELOWblGRAVEblHOOK ABOVEblTILDEbcINVERTED BREVEbcLONG S",
  "TROKE OVERLAYbeOPbcMACRONbi AND ACUTEbnGRAVEbdIDDLE TILDEbcOGONEKbi AND MACRONbcSTROKEbi",
  " AND ACUTEbcTILDEbh AND ACUTEbmDIAERESISbmMACRONwIwLD POLISH OwMEGAwOwPEN EbaOwUvPw WITH",
  " ACUTEbcDOT ABOVEbcFLOURISHbcHOOKbcSQUIRREL TAILbdTROKEbi THROUGH DESCENDERvQw WITH DIAG",
  "ONAL STROKEbcSTROKE THROUGH DESCENDERvRw ROTUNDAxWITH ACUTEbcCARONbdEDILLAbcDOT ABOVEbgB",
  "ELOWbl AND MACRONbeUBLE GRAVEbcINVERTED BREVEbcLINE BELOWbcOBLIQUE STROKEbcSTROKEbcTAILw",
  "EVERSED C WITH DOTbeEbeHALF HbeOPEN EwUM ROTUNDAvSw WITH ACUTEbh AND DOT ABOVEbcCARONbh ",
  "AND DOT ABOVEbdEDILLAbdIRCUMFLEXbdOMMA BELOWbcDOT ABOVEbgBELOWbl AND DOT ABOVEbcHOOKbcOB",
  "LIQUE STROKEbcSHORT STROKE OVERLAYbdWASH TAILwALTILLOwCHWAxRIPT GwHARP SwIGMOID SwMALL C",
  "APITAL IbbQ WITH HOOK TAILvTw WITH CARONbdEDILLAbdIRCUMFLEX BELOWbdOMMA BELOWbcDIAGONAL ",
  "STROKEbdOT ABOVEbgBELOWbcHOOKbcLINE BELOWbcRETROFLEX HOOKbcSTROKEwHORNba WITH STROKEbm T",
  "HROUGH DESCENDERwONE FIVEbaSIXbaTWOwRESILLOwURNED AbdLPHAbcHbcINSULAR GbcKbcLbcMbcTbcVwZ",
  "vUw BARxWITH ACUTEbcBREVEbcCARONbdIRCUMFLEXbm BELOWbcDIAERESISbl AND ACUTEbqCARONbqGRAVE",
  "bqMACRONbmBELOWbdOT BELOWbeUBLE ACUTEbjGRAVEbcGRAVEbcHOOK ABOVEbeRNbg AND ACUTEblDOT BEL",
  "OWblGRAVEblHOOK ABOVEblTILDEbcINVERTED BREVEbcMACRONbi AND DIAERESISbcOGONEKbcRING ABOVE",
  "bcSTROKEbcTILDEbh AND ACUTEbiBELOWwPSILONvVw WITH DIAGONAL STROKEbdOT BELOWbcHOOKbcTILDE",
  "wENDwISIGOTHIC ZwOLAPUK AEbdOEbdUEwYvWw WITH ACUTEbcCIRCUMFLEXbcDIAERESISbdOT ABOVEbgBEL",
  "OWbcGRAVEbcHOOKwYNNvXw WITH DIAERESISbdOT ABOVEvYw WITH ACUTEbcCIRCUMFLEXbcDIAERESISbdOT",
  " ABOVEbgBELOWbcGRAVEbcHOOKbg ABOVEbcLOOPbcMACRONbcSTROKEbcTILDEwOGHvZw WITH ACUTEbcCARON",
  "bdIRCUMFLEXbcDESCENDERbdOT ABOVEbgBELOWbcHOOKbcLINE BELOWbcPALATAL HOOKbcSTROKEbdWASH TA",
  "ILpIGATURE IJxOEhROSSgEPIGRAPHIC LETTER ARCHAIC MyI LONGAzNVERTED MyREVERSED FbhPySIDEWA",
  "YS IgLETTER AINoLVEOLAR CLICKnBIDENTAL PERCUSSIVEpLABIAL CLICKwPERCUSSIVEnDENTAL CLICKnG",
  "LOTTAL STOPz WITH STROKEnINVERTED GLOTTAL STOPbi WITH CURLboSTROKEnLATERAL CLICKnPHARYNG",
  "EAL VOICED FRICATIVEnRETROFLEX CLICKbc WITH RETROFLEX HOOKpVERSED ESH LOOPwGLOTTAL STOP ",
  "WITH STROKEnSINOLOGICAL DOToMALL CAPITAL AbcEbbBbcARRED BbbCbbDbbEbcTHbcZHbbFbbGbc WITH ",
  "HOOKbbHbbIbcNVERTED RbbJbbKbbLbc WITH BELTbiSTROKEbbMbbNbbObcEbcPEN ObcUbbPbbQbbRbc WITH",
  " RIGHT LEGbcEVERSED NbkRbcUMbbSbbTbcURNED EbiGbiKbiMbiRbbUbbVbbWbbYbbZoTRETCHED Cy WITH ",
  "CURLnTWO WITH STROKEnVOICED LARYNGEAL SPIRANTnWYNNnYRgSMALL CAPITAL LETTER I WITH STROKE",
  "bbU WITH STROKEmLETTER Au REVERSED-SCHWAvWITH ACUTEbaBREVEbf AND ACUTEbkDOT BELOWbkGRAVE",
  "bkHOOK ABOVEbkTILDEbaCARONbbIRCUMFLEXbk AND ACUTEbpDOT BELOWbpGRAVEbpHOOK ABOVEbpTILDEba",
  "DIAERESISbj AND MACRONbbOT ABOVEbj AND MACRONbeBELOWbcUBLE GRAVEbaGRAVEbaHOOK ABOVEbaINV",
  "ERTED BREVEbaMACRONbaOGONEKbaRETROFLEX HOOKbbIGHT HALF RINGbcNG ABOVEbk AND ACUTEbfBELOW",
  "baSTROKEbaTILDEuAuEv WITH ACUTEbbMACRONuLPHAy WITH RETROFLEX HOOKuNGLICANA WuOuUuVv WITH",
  " HORIZONTAL BARuYtBu WITH DOT ABOVEbeBELOWbaFLOURISHbaHOOKbaLINE BELOWbaMIDDLE TILDEbaPA",
  "LATAL HOOKbaSTROKEbaTOPBARuARRED ALPHAbaEbaOvSELINE ESHuETAuLACKLETTER EbfObg WITH STROK",
  "EuOTTOM HALF OuROKEN LtCu WITH ACUTEbaBARbaCARONbbEDILLAbh AND ACUTEbbIRCUMFLEXbbURLbaDO",
  "T ABOVEbaHOOKbaPALATAL HOOKbaRETROFLEX HOOKbaSTROKEuHIw WITH LOW LEFT SERIFbgRIGHT RINGu",
  "LOSED INSULAR GbaOMEGAbbPEN EbaREVERSED OPEN EuONuUATRILLObc WITH COMMAtDu WITH CARONbbE",
  "DILLAbbIRCUMFLEX BELOWbbURLbaDOT ABOVEbeBELOWbaHOOKbe AND TAILbaLINE BELOWbaMIDDLE TILDE",
  "baPALATAL HOOKbaSHORT STROKE OVERLAYbbTROKEbaTAILbbOPBARuB DIGRAPHuELTAvZH DIGRAPHbf WIT",
  "H PALATAL HOOKblRETROFLEX HOOKuOTLESS IbbJbc WITH STROKEbo AND HOOKvUBLE Rbb WITH CROSSE",
  "D-TAILbaTHORNbaWYNNuUMuZv DIGRAPHbd WITH CURLbjRETROFLEX HOOKwWITH CARONtEu WITH ACUTEba",
  "BREVEbaCARONbbEDILLAbh AND BREVEbbIRCUMFLEXbk AND ACUTEbpDOT BELOWbpGRAVEbpHOOK ABOVEbpT",
  "ILDEblBELOWbaDIAERESISbbOT ABOVEbeBELOWbcUBLE GRAVEbaFLOURISHbaGRAVEbaHOOK ABOVEbaINVERT",
  "ED BREVEbaMACRONbg AND ACUTEblGRAVEbaNOTCHbaOGONEKbaRETROFLEX HOOKbaSTROKEbaTILDEbf BELO",
  "WuGYPTOLOGICAL AINbiLEFuNGw WITH CROSSED-TAILbcPALATAL HOOKuSHw WITH CURLbcDOUBLE BARbm ",
  "AND CURLbcPALATAL HOOKbcRETROFLEX HOOKuTvHuZHw REVERSEDxWITH CARONbdURLbcPALATAL HOOKbcR",
  "ETROFLEX HOOKbcTAILtFu WITH DOT ABOVEbaHOOKbaMIDDLE TILDEbaPALATAL HOOKbaSTROKEuENG DIGR",
  "APHbf WITH TRILLtGu WITH ACUTEbaBREVEbaCARONbbEDILLAbbIRCUMFLEXbaDOT ABOVEbaHOOKbaMACRON",
  "baOBLIQUE STROKEbaPALATAL HOOKbaSTROKEuAMMAuHAuLOTTAL AbbIbbSTOPbbUtHu WITH BREVE BELOWb",
  "aCARONbbEDILLAbbIRCUMFLEXbaDESCENDERbbIAERESISbbOT ABOVEbeBELOWbaHOOKbaLINE BELOWbaPALAT",
  "AL HOOKbaSTROKEuALF HuENGx WITH HOOKuVtIu WITH ACUTEbaBREVEbaCARONbbIRCUMFLEXbaDIAERESIS",
  "bj AND ACUTEbbOT BELOWbcUBLE GRAVEbaGRAVEbaHOOK ABOVEbaINVERTED BREVEbaMACRONbaOGONEKbaR",
  "ETROFLEX HOOKbaSTROKEbg AND RETROFLEX HOOKbaTILDEbf BELOWuNSULAR DbbFbbGbbRbbSbbTvVERTED",
  " ALPHAbcOEuOTAx WITH STROKEwIFIED EuStJu WITH CARONbbIRCUMFLEXbbROSSED-TAILbaSTROKEtKu W",
  "ITH ACUTEbaCARONbbEDILLAbaDESCENDERbbIAGONAL STROKEbbOT BELOWbaHOOKbaLINE BELOWbaOBLIQUE",
  " STROKEbaPALATAL HOOKbaSTROKEbg AND DIAGONAL STROKEuRAtLu WITH ACUTEbaBARbbELTbe AND PAL",
  "ATAL HOOKbaCARONbbEDILLAbbIRCUMFLEX BELOWbbURLbaDOT BELOWbj AND MACRONbcUBLE BARbhMIDDLE",
  " TILDEbaFISHHOOKbaHIGH STROKEbaINVERTED LAZY SbaLINE BELOWbaMIDDLE DOTbhRINGbhTILDEbaPAL",
  "ATAL HOOKbaRETROFLEX HOOKbo AND BELTbaSTROKEuAMBDA WITH STROKEuENIS FvZHx WITH RETROFLEX",
  " HOOKuJuONG Sz WITH DIAGONAL STROKEbgOT ABOVEbfHIGH STROKEuS DIGRAPHuUMuZ DIGRAPHtMu WIT",
  "H ACUTEbaCROSSED-TAILbaDOT ABOVEbeBELOWbaHOOKbaMIDDLE TILDEbaPALATAL HOOKuIDDLE SCOTS Sz",
  "-WELSH LLbgVuUMtNu PRECEDED BY APOSTROPHEvWITH ACUTEbaCARONbbEDILLAbbIRCUMFLEX BELOWbbRO",
  "SSED-TAILbbURLbaDESCENDERbbOT ABOVEbeBELOWbaGRAVEbaLEFT HOOKbbINE BELOWbbONG RIGHT LEGba",
  "MIDDLE TILDEbaOBLIQUE STROKEbaPALATAL HOOKbaRETROFLEX HOOKbaTILDEuJuUMtOu WITH ACUTEbaBR",
  "EVEbaCARONbbIRCUMFLEXbk AND ACUTEbpDOT BELOWbpGRAVEbpHOOK ABOVEbpTILDEbaDIAERESISbj AND ",
  "MACRONbbOT ABOVEbj AND MACRONbeBELOWbcUBLE ACUTEbhGRAVEbaGRAVEbaHOOK ABOVEbcRNbe AND ACU",
  "TEbjDOT BELOWbjGRAVEbjHOOK ABOVEbjTILDEbaINVERTED BREVEbaLONG STROKE OVERLAYbcOPbcW RING",
  " INSIDEbaMACRONbg AND ACUTEblGRAVEbaOGONEKbg AND MACRONbaRETROFLEX HOOKbaSTROKEbg AND AC",
  "UTEbaTILDEbf AND ACUTEbkDIAERESISbkMACRONuIuLD POLISH OuMEGAuOuPEN Ez WITH RETROFLEX HOO",
  "KyOz WITH RETROFLEX HOOKbfSTROKEzEuUtPu WITH ACUTEbaDOT ABOVEbaFLOURISHbaHOOKbaMIDDLE TI",
  "LDEbaPALATAL HOOKbaSQUIRREL TAILbbTROKEbg THROUGH DESCENDERuHItQu WITH DIAGONAL STROKEba",
  "HOOKbe TAILbaSTROKE THROUGH DESCENDERuP DIGRAPHtRu ROTUNDAvWITH ACUTEbaCARONbbEDILLAbbRO",
  "SSED-TAILbaDOT ABOVEbeBELOWbj AND MACRONbcUBLE GRAVEbaFISHHOOKbi AND MIDDLE TILDEbnPALAT",
  "AL HOOKbaINVERTED BREVEbaLINE BELOWbbONG LEGbaMIDDLE TILDEbaOBLIQUE STROKEbaPALATAL HOOK",
  "baSTROKEbaTAILzOUT HANDLEuAMS HORNuEVERSED Cbd WITH DOTbcEbdNGbcHALF HbcKbcOPEN Ebi WITH",
  " HOOKboRETROFLEX HOOKbcR WITH FISHHOOKbcSCRIPT GuUMw ROTUNDAtSu WITH ACUTEbf AND DOT ABO",
  "VEbaCARONbf AND DOT ABOVEbbEDILLAbbIRCUMFLEXbbOMMA BELOWbbURLbaDOT ABOVEbeBELOWbj AND DO",
  "T ABOVEbaHOOKbaMIDDLE TILDEbaOBLIQUE STROKEbaPALATAL HOOKbaSHORT STROKE OVERLAYbbWASH TA",
  "ILuAKHA YATvLTILLOuCHWAy WITH HOOKbeRETROFLEX HOOKvRIPT Gbb WITH CROSSED-TAILbaRbb WITH ",
  "RINGuHARP SuIDEWAYS DIAERESIZED UbcObd WITH STROKEbdPEN ObcTURNED MbcUvGMOID SuQUAT REVE",
  "RSED ESHuTIRRUP RtTu WITH CARONbbEDILLAbbIRCUMFLEX BELOWbbOMMA BELOWbbURLbaDIAERESISbdGO",
  "NAL STROKEbbOT ABOVEbeBELOWbaHOOKbe AND RETROFLEX HOOKbaLINE BELOWbaMIDDLE TILDEbaPALATA",
  "L HOOKbaRETROFLEX HOOKbaSTROKEuAILLESS PHIuC DIGRAPH WITH CURLuESH DIGRAPHbf WITH PALATA",
  "L HOOKblRETROFLEX HOOKuH WITH STRIKETHROUGHvORNy WITH STROKEbk THROUGH DESCENDERuONE FIV",
  "EySIXyTWOvP HALF OuRESILLOuS DIGRAPHbd WITH RETROFLEX HOOKuUMvRNED AbbEbbLPHAbaDELTAbaEb",
  "aGbaHbb WITH FISHHOOKbp AND TAILbaIbbNSULAR GbaKbaLbaMbb WITH LONG LEGbaO OPEN-Obi WITH ",
  "STROKEbbEbc WITH HORIZONTAL STROKEbiSTROKEbbPEN EbaRbb WITH HOOKbhLONG LEGbp AND RETROFL",
  "EX HOOKbhMIDDLE TILDEbhPALATAL HOOKbhTAILbaTbb WITH CURLbaUIbaVbaWbaYbb WITH BELTuZtUu B",
  "ARy WITH SHORT RIGHT LEGvWITH ACUTEbaBREVEbaCARONbbIRCUMFLEXbk BELOWbaDIAERESISbj AND AC",
  "UTEboCARONboGRAVEboMACRONbkBELOWbbOT BELOWbcUBLE ACUTEbhGRAVEbaGRAVEbaHOOK ABOVEbcRNbe A",
  "ND ACUTEbjDOT BELOWbjGRAVEbjHOOK ABOVEbjTILDEbaINVERTED BREVEbaLEFT HOOKbaMACRONbg AND D",
  "IAERESISbaOGONEKbaRETROFLEX HOOKbbING ABOVEbaSHORT RIGHT LEGbbTROKEbaTILDEbf AND ACUTEbg",
  "BELOWuEuIuMuOuPSILONba WITH STROKEtVu WITH CURLbaDIAGONAL STROKEbbOT BELOWbaHOOKbaPALATA",
  "L HOOKbaRIGHT HOOKbaTILDEuENDuISIGOTHIC ZuOLAPUK AEbbOEbbUEuYtWu WITH ACUTEbaCIRCUMFLEXb",
  "aDIAERESISbbOT ABOVEbeBELOWbaGRAVEbaHOOKbaRING ABOVEtXu WITH DIAERESISbbOT ABOVEbaLONG L",
  "EFT LEGbn AND LOW RIGHT RINGboWITH SERIFbcW RIGHT RINGbaPALATAL HOOKtYu WITH ACUTEbaCIRC",
  "UMFLEXbaDIAERESISbbOT ABOVEbeBELOWbaGRAVEbaHOOKbe ABOVEbaLOOPbaMACRONbaRING ABOVEbaSHORT",
  " RIGHT LEGbbTROKEbaTILDEuOGHtZu WITH ACUTEbaCARONbbIRCUMFLEXbbURLbaDESCENDERbbOT ABOVEbe",
  "BELOWbaHOOKbaLINE BELOWbaMIDDLE TILDEbaPALATAL HOOKbaRETROFLEX HOOKbaSTROKEbbWASH TAILnI",
  "GATURE FFxIxLwIwLvIJvLONG S TvOEvSThUBSCRIPT SMALL LETTER AbdEbdHbdIbdJbdKbdLbdMbdNbdObd",
  "PbdRbdSbeCHWAbdTbdUbdVbdXbEAF FLUTTERING IN WINDeY GREENcDGERcFT AND LOWER AND RIGHT TRI",
  "ANGULAR THREE QUARTERS BLOCKpONE EIGHTH BLOCKjRIGHT DOUBLE TURNSTILEpTACKqRIANGULAR HALF",
  " BLOCKjUPPER AND RIGHT TRIANGULAR THREE QUARTERS BLOCKpONE EIGHTH BLOCKhGER BUBBLEiLE BR",
  "ACKETs WITH DOTgRC LESS-THAN BRACKEThROW WITH CIRCLED PLUSqSMALL CIRCLEfBARB DOWN RIGHT ",
  "BARB DOWN HARPOONbaUP HARPOONkUP RIGHT BARB DOWN HARPOONyUP HARPOONgLACK LENTICULAR BRAC",
  "KETlTORTOISE SHELL BRACKETfCEILINGgLOSED ENTRYgORNER BRACKETgURLY BRACKETs LOWER HOOKtMI",
  "DDLE PIECEtUPPER HOOKfDOTTED SUBSTITUTION BRACKEThUBLE ANGLE BRACKETmPARENTHESISmQUOTATI",
  "ON MARKmWIGGLY FENCEfFISH TAILhVE EIGHTHS BLOCKgLOORfHALF BLACK CIRCLEqSTARmOCKkCIRCLEq ",
  "WITH DOTwFOUR DOTSwTHREE DOTSxWO DOTSkFOLDERkINVERSE MEDIUM SHADE AND RIGHT HALF BLOCKkM",
  "EDIUM SHADEkRUNNING MANhND TELEPHONE RECEIVERfLOW PARAPHRASE BRACKETgUGGAGEfMULTIMAPfNOR",
  "MAL FACTOR SEMIDIRECT PRODUCTfONE EIGHTH BLOCKjQUARTER BLOCKgUTER JOINfPARENTHESISq EXTE",
  "NSIONrLOWER HOOKrUPPER HOOKfRAISED OMISSION BRACKETgIGHT ARROWq THROUGH SMALL CIRCLErWIT",
  "H DOUBLE VERTICAL STROKEwSTROKEwVERTICAL STROKElBLACK ARROWlDOUBLE ARROWx WITH STROKEbdV",
  "ERTICAL STROKElOPEN-HEADED ARROWlSANS-SERIF ARROWlTRIANGLE-HEADED ARROWlWAVE ARROWmHITE ",
  "ARROWfS-SHAPED BAG DELIMITERgEMIDIRECT PRODUCThVEN EIGHTHS BLOCKgIDEWAYS U BRACKEThNGLE ",
  "QUOTATION MARKgPEECH BUBBLEgQUARE BRACKETt EXTENSIONuLOWER CORNERuUPPER CORNERuWITH DOUB",
  "LE STROKEzQUILLzSTROKEzTICK IN BOTTOM CORNERbhTOP CORNERzUNDERBARgUBSTITUTION BRACKETfTA",
  "CKgHIRD WHITE RIGHT POINTING INDEXhOUGHT BUBBLEhREE EIGHTHS BLOCKlQUARTERS BLOCKgORTOISE",
  " SHELL BRACKETgRANSPOSITION BRACKEThIANGLE BESIDE VERTICAL BARlULAR ONE QUARTER BLOCKfVE",
  "RTICAL BAR WITH QUILLpOX LINEfWHITE CORNER BRACKETmURLY BRACKETlLENTICULAR BRACKETlPAREN",
  "THESISlSQUARE BRACKETlTORTOISE SHELL BRACKETgIGGLY FENCEgRITING HANDe-FACING ARMENIAN ET",
  "ERNITY SIGNmFISTmSVASTI SIGNx WITH DOTSfHANDED INTERLACED PENTAGRAMfPOINTING ANGLE BRACK",
  "EToCURVED ANGLE BRACKEToDOUBLE ANGLE QUOTATION MARKoMAGNIFYING GLASSfSHADED WHITE RIGHTW",
  "ARDS ARROWgIDE ARC ANTICLOCKWISE ARROWfTO-RIGHT EMBEDDINGoISOLATEoMARKoOVERRIDEeWARDS AR",
  "ROWp ABOVE ALMOST EQUAL TOwREVERSE ALMOST EQUAL TObeTILDE OPERATORwSHORT RIGHTWARDS ARRO",
  "WwTILDE OPERATORrND UPPER AND LOWER ONE EIGHTH BLOCKqFROM BARy TO BLACK DIAMONDqOVER RIG",
  "HTWARDS ARROWqTHROUGH LESS-THANySUBSETyXrO BARw OVER RIGHTWARDS ARROW TO BARuLACK DIAMON",
  "DqWITH DOTTED STEMxUBLE VERTICAL STROKEvEQUILATERAL ARROWHEADvHOOKvLARGE TRIANGLE ARROWH",
  "EADwOOPvMEDIUM TRIANGLE ARROWHEADvNOTCHED TAILvPLUS BELOWvSMALL EQUILATERAL ARROWHEADbbT",
  "RIANGLE ARROWHEADwTROKEvTAILz WITH DOUBLE VERTICAL STROKEbfVERTICAL STROKEwIP DOWNWARDSz",
  "UPWARDSvVERTICAL STROKEp-TAILkBACK-TILTED SHADOWED WHITE ARROWlLACK ARROWqCIRCLED WHITE ",
  "ARROWlOTTOM-SHADED WHITE ARROWkCOMPRESSED ARROWkDASHED ARROWlOUBLE ARROWw FROM BARxWITH ",
  "STROKEbcVERTICAL STROKEw-TAILrDASH ARROWkFINGER-POST ARROWlRONT-TILTED SHADOWED WHITE AR",
  "ROWkHANDmRPOON OVER RIGHTWARDS HARPOONsWITH BARB DOWN ABOVE RIGHTWARDS HARPOON WITH BARB",
  " DOWNbhBELOW LONG DASHbhFROM BARbhTO BARbgWARDSbcUP ABOVE LEFTWARDS HARPOON WITH BARB DO",
  "WNbmONG DASHblRIGHTWARDS HARPOON WITH BARB UPbfFROM BARbfTO BARbeWARDSlEAVY ARROWqCOMPRE",
  "SSED ARROWkLEFT-SHADED WHITE ARROWkOPEN-HEADED ARROWkPAIRED ARROWSkQUADRUPLE ARROWkRIGHT",
  "-SHADED WHITE ARROWlOCKETkSANS-SERIF ARROWlQUARED ARROWnIGGLE ARROWkTOP SHADED WHITE ARR",
  "OWlRIANGLE ARROWHEADs-HEADED ARROWbf OVER RIGHTWARDS TRIANGLE-HEADED ARROWbgTO BARbgWITH",
  " BOLD SHAFTblDOUBLE HORIZONTAL STROKEbsVERTICAL STROKEblHEAVY SHAFTblLONG TIP DOWNWARDSb",
  "uUPWARDSblMEDIUM SHAFTblNARROW SHAFTblVERY HEAVY SHAFTbaDASHED ARROWbaPAIRED ARROWSnPLE ",
  "ARROWrDASH ARROWlWO HEADED ARROWn-HEADED ARROW FROM BARbbWITH DOUBLE VERTICAL STROKEbgTA",
  "ILbk WITH DOUBLE VERTICAL STROKEbqVERTICAL STROKEbhRIANGLE ARROWHEADSbgVERTICAL STROKEvT",
  "RIPLE DASH ARROWkWAVE ARROWlHITE ARROWv WITHIN TRIANGLE ARROWHEADcGcMONcOdPARDcPCHA CONS",
  "ONANT SIGN KxANGwLwMwNxYIN-DOwPwRwThDIGIT EIGHTnFIVEoOURnNINEnONEnSEVENoIXnTHREEoWOnZERO",
  "hLETTER AoBApLAoCApHAoDApDApZAoFApLAoGApLAoHApLAoJAoKApHApLAoLAoMApLAoNApGApYAoPApHApLAo",
  "RAoSApHAoTApHApSAqHApTAqHAoVAoWAoYAhPUNCTUATION CER-WAtNYET THYOOM TA-ROLtTA-ROLuSHOOKz ",
  "CER-WAhSIGN NUKTAmRANiUBJOINED LETTER RAyYAhVOWEL SIGN AAsEsIsOtOsUtUcSS-THAN ABOVE DOUB",
  "LE-LINE EQUAL ABOVE GREATER-THANqGREATER-THAN ABOVE DOUBLE-LINE EQUALqLEFTWARDS ARROWqSI",
  "MILAR ABOVE GREATER-THANyOR EQUALrLANTED EQUAL ABOVE GREATER-THAN ABOVE SLANTED EQUALlND",
  " NOT APPROXIMATEoSINGLE-LINE NOT EQUAL TOkBUT NOT EQUAL TOvIVALENT TOkCLOSED BY CURVEz A",
  "BOVE SLANTED EQUALkEQUAL TO OR GREATER-THANkOR APPROXIMATEnEQUAL TOqIVALENT TOnGREATER-T",
  "HANnSLANTED EQUAL TObd WITH DOT ABOVEbs RIGHTbnINSIDElVER EQUAL TOkSIGNkWITH CIRCLE INSI",
  "DEpDOTpQUESTION MARK ABOVEcVEL SLIDERbFbIBRAcGATURE OPEN ET ORNAMENTdHT CHECK MARKgEIGHT",
  " SPOKED ASTERISKgFIVE POINTED BLACK STARlSPOKED ASTERISKhOUR POINTED BLACK CUSPzSTARgGRE",
  "EK CROSSgLEFT TORTOISE SHELL BRACKET ORNAMENTgRAILhIGHT TORTOISE SHELL BRACKET ORNAMENTg",
  "SALTIREhHADEhIX SPOKED ASTERISKgTHREE POINTED BLACK STARhWELVE POINTED BLACK STARgVERTIC",
  "AL BARgWHITE SQUAREfNINGj MOODo BUBBLEcMBU DIGIT EIGHTmFIVEnOURmNINEmONEmSEVENnIXmTHREEn",
  "WOmZEROgEXCLAMATION MARKgLETTER BAoHAnCAoHAnDAoHAnGAoHAoYANnHAnJAoHAnKAoHAnLAnMAnNAoGAnP",
  "AoHAnRAnSAoHAoSAnTAoHAoRAnWAnYApNgQUESTION MARKgSIGN KEMPHRENGlLOOlMUKPHRENGlSA-IhMALL L",
  "ETTER ANUSVARAtKAtLAtMAtNAuGAtPAtRAtTAhUBJOINED LETTER RAxWAxYAgVOWEL SIGN AsIsUrEsErIrO",
  "sOrUl-CARRIER LETTERdITED LIABILITY SIGNcNE FEEDfINTEGRATION NOT INCLUDING THE POLErWITH",
  " RECTANGULAR PATH AROUND POLEwSEMICIRCULAR PATH AROUND POLEfSEPARATORfTABULATIONp SETeAR",
  " A SIGN A028Bp100-102q20Bq31Cp301r2r3r4r5r6r7r8r9AsBsCq10r1r2r3AsBsCr4r5r6r7r8r9q20r1r2r",
  "3r4r5r6r7r8r9q30r1r2r3r4r5r6r7r8r9q40r1r2r3r4r5r6r7r8r9q50r1r2r3r4r5r6r7r8r9q60r1r2r3r4r",
  "5r6r7r8r9q70r1p400-VASr1-VASr2-VASr3-VASr4-VASr5-VASr6-VASr7-VASr8-VASr9-VASq10-VASr1-VA",
  "Sr2-VASr3-VASr4-VASr5-VASr6-VASr7-VASr8-VASp501r2r3r4r5r6r8r9q10r1r2r3r5r6q20r1r3r4r5r6r",
  "7r8r9q30r1r2r4r5r6r7r8r9q40r1r2r5r7r8r9q50r1r2r3r4r5r6r7r9q63r4r5r6r8r9q70r1r2r3r4r5r6r7",
  "r8r9q80r1r2r3r4r5r6r7r8r9q91r2r4r5r6r8p600r1r2r3r4r6r8r9q10r1r2r3r4r5r6r7r8r9q20r1r2r3r4",
  "r6r7r8r9q34r7r8q40r2r3r4r5r6r8r9q51r2r3r4r5r6r7r8r9q60r1r2r3r4p701 Ar2 Br3 Dr4 Er5 Fr6 H",
  "r7 Jr8 Kr9 Ls-2 L2t3 L3t4 L4t6 L6q10 Wr1 Xr2 Yr3 OMEGAr4 ABBr5 BBr7 DDq26 EYYYq32 JEp800",
  "r1r2r3r4r5r6r7pB001s2s3s4s5s6s7s8s9r10s1s3s6s7r20s1tFtMs2tFtMs3tMs4s6s7s8s9r30s1s4s7s8s9",
  "r40s1s4s5s6s7s8s9r50s1s3s4s5s6s7s8s9r60s1s5s6s7s9r70s3s4s6s7s8s9r80s1s2s5s6s7q118r20s2s3",
  "r31AtBr64r71r80s8r91hB IDEOGRAM B100 MANv2 WOMANv4 DEERv5 EQUIDwF MAREwM STALLIONv6F EWE",
  "wM RAMv7F SHE-GOATwM HE-GOATv8F SOWwM BOARv9F COWwM BULLu20 WHEATv1 BARLEYv2 OLIVEv3 SPI",
  "CEv5 CYPERUSu30 OILv1 WINEv2u40 BRONZEv1 GOLDv2v5 WOOLv6u50v1 HORNv2v3v4v7v8v9 CLOTHu60v",
  "1v2 GARMENTv3 ARMOURv4v5v6v7v8v9u70v1v2v3 MONTHv4v6 TREEv7v8v9u80v1v2v3v4v5v9u90v1 HELME",
  "Tt220 FOOTSTOOLv5 BATHTUBu30 SPEARv1 ARROWv2v3 SWORDv4v6u40 WHEELED CHARIOTv1 CHARIOTv2 ",
  "CHARIOT FRAMEv3 WHEELv5v6v8v9u51v2v3v4 DARTv5v6v7v8v9sVESSEL B155ba200bc1bc2bc3bc4bc5bc6",
  "bc7bc8bc9bb10bc1bc2bc3bc4bc5bc6bc7bc8bc9bb21bc2bc6bc7bc8bc9bb50ba305jMONOGRAM B127 KAPOv",
  "8 KANAKOu33 AREPAv5 MERIu56 TURO2t247 DIPTEjSYLLABLE B001 DAv2 ROv3 PAv4 TEv5 TOv6 NAv7 ",
  "DIv8 Av9 SEu10 Uv1 POv2 SOv3 MEv4 DOv5 MOv6 QAv7 ZAu20 ZOv1 QIv3 MUv4 NEv5 A2v6 RUv7 REv",
  "8 Iv9 PU2u30 NIv1 SAv2 QOv3 RA3v6 JOv7 TIv8 Ev9 PIu40 WIv1 SIv2 WOv3 A3v4 KEv5 DEv6 JEv8",
  " NWAu50 PUv1 DUv2 NOv3 RIv4 WAv5 NUv7 JAv8 SUv9 TAu60 RAv1 Ov2 PTEv5 JUv6 TA2v7 KIv8 RO2",
  "v9 TUu70 KOv1 DWEv2 PEv3 MIv4 ZEv5 WEv6 RA2v7 KAv8 QEu80 MAv1 KUv5 AUv7 TWEu90 DWOv1 TWO",
  "lMBOL B018t9s22s34s47t9s56s63t4s79s82t3t6t9dK SYMBOLeED PAPERCLIPScON FACEcPSeTICKcRA SI",
  "GNcSU LETTER AnEmBAmCAnHAmDAnZAmEnUmFAmGAnHAmHAnHAmImJAmKAnHAmLAmMAmNAnGAmOnEmPAnHAmSAnH",
  "AmTAnHAnONE MYA BOvCYAvJEUvNAvTIrNA POnSAoHAmUnEnHmWAmXAmYAnHAmZAnHAfPUNCTUATION COMMArF",
  "ULL STOPcVRE TOURNOIS SIGNcZARDbLAMAbOBSTERcCKe WITH INK PENeING-SHIFT ONEoZEROcGICAL AN",
  "Dl WITH DOT ABOVEtUBLE OVERBARyUNDERBARrHORIZONTAL DASHrMIDDLE STEMrUNDERBARiORk OVERLAP",
  "PING LOGICAL ANDlWITH DOT ABOVEsUBLE OVERBARxUNDERBARqHORIZONTAL DASHqMIDDLE STEMcLLIPOP",
  "cNG DASH FROM LEFT MEMBER OF DOUBLE VERTICALgIVISIONgRUMfLEFT RIGHT ARROWqDOUBLE ARROWkT",
  "ACKjWARDS ARROWu FROM BARpDOUBLE ARROWbb FROM BARpSQUIGGLE ARROWfRIGHT TACKkWARDS ARROWv",
  " FROM BARqDOUBLE ARROWbc FROM BARqSQUIGGLE ARROWcTION BOTTLEdUScUDLY CRYING FACEcVE HOTE",
  "LfLETTERcW ASTERISKeBATTERYfRIGHTNESS SYMBOLeDOUBLE PRIME QUOTATION MARKeKAVYKAk WITH DO",
  "TeLINEdER BLADE SCISSORSgFIVE EIGHTHS BLOCKgHALF BLOCKlCIRCLElINVERSE WHITE CIRCLElMEDIU",
  "M SHADEgLEFT BALLPOINT PENmLOCK DIAGONAL LOWER MIDDLE LEFT TO LOWER CENTREcbRIGHTbaUPPER",
  " CENTRE TO LOWER MIDDLE RIGHTbwRIGHTbqUPPER MIDDLE RIGHTbgLEFT TO LOWER CENTREbuMIDDLE R",
  "IGHTboUPPER MIDDLE RIGHTbgMIDDLE LEFT TO LOWER CENTREcbMIDDLE RIGHTcbRIGHTlCRAYONlFOUNTA",
  "IN PENlPAINTBRUSHmENCILlQUADRANT CIRCULAR ARClSEMICIRCULAR ANTICLOCKWISE ARROWlTRIANGLEr",
  "ULAR MEDIUM SHADEgONE EIGHTH BLOCKkQUARTER BLOCKgRIGHT BLOCK DIAGONAL LOWER CENTRE TO LO",
  "WER MIDDLE RIGHTbrUPPER MIDDLE RIGHTbxRIGHTbhLEFT TO LOWER MIDDLE RIGHTbpUPPER CENTREbvM",
  "IDDLE RIGHTbhMIDDLE LEFT TO UPPER CENTREccMIDDLE RIGHTccRIGHTbbUPPER MIDDLE LEFT TO UPPE",
  "R CENTREccRIGHTmCORNER WITH DOTmDROP-SHADOWED WHITE SQUAREmPENCILmQUADRANT CIRCULAR ARCm",
  "SEMICIRCULAR CLOCKWISE ARROWnHADOWED WHITE CIRCLEbbSQUAREmTRIANGLEsULAR MEDIUM SHADEgSEV",
  "EN EIGHTHS BLOCKgTHREE EIGHTHS BLOCKmQUARTERS BLOCKhRIANGULAR ONE QUARTER BLOCKcZENGEh D",
  "IVIDED BY HORIZONTAL RULEbREcIcMcObUGGAGEcNGSbYCIAN LETTER ApNoBpHoDoEpNoGoHoIoJoKpKoLoM",
  "pMoNpNoPoQoRoSoTpHpToUoWoXoZcDIAN LETTER ApNoBoCoDoEpNoFoGoIoKoLpYoMoNpNoOoQoRoSpSoTpToU",
  "oVoYhTRIANGULAR MARKcING FACEaMACRONcGEdIC WANDdNETcHAJANI ABBREVIATION SIGNjLETTER AqBA",
  "rHAqCArHAqDArDAsHArHAqEqGArHAqHAqIqJArHAqKArHAqLAqMAqNArNArYAqOqPArHAqRArRAqSAqTArHArTAs",
  "HAqUqVAkIGATURE SHRIjSECTION MARKkIGN NUKTAdJONG TILE AUTUMNnBACKpMBOOnCHRYSANTHEMUMnEAS",
  "T WINDoIGHT OF BAMBOOSwCHARACTERSxIRCLESnFIVE OF BAMBOOSvCHARACTERSwIRCLESoOUR OF BAMBOO",
  "SvCHARACTERSwIRCLESnGREEN DRAGONnJOKERnNINE OF BAMBOOSvCHARACTERSwIRCLESoORTH WINDnONE O",
  "F BAMBOOSuCHARACTERSvIRCLESoRCHIDnPLUMnRED DRAGONnSEVEN OF BAMBOOSwCHARACTERSxIRCLESoIX ",
  "OF BAMBOOSuCHARACTERSvIRCLESoOUTH WINDoPRINGoUMMERnTHREE OF BAMBOOSwCHARACTERSxIRCLESoWO",
  " OF BAMBOOSuCHARACTERSvIRCLESnWEST WINDoHITE DRAGONoINTERcKASAR ANGKAiEND OF SECTIONiLET",
  "TER ApBApCApDApGApJApKApLApMApNAqGAqYApPApRApSApTApVApYAiPASSIMBANGiVOWEL SIGN EtItOtUcL",
  "AYALAM AU LENGTH MARKkDATE MARKlIGIT EIGHTqFIVErOURqNINEqONEqSEVENrIXqTHREErWOqZEROkFRAC",
  "TION ONE EIGHTHxFIFTHyORTIETHxHALFxONE-HUNDRED-AND-SIXTIETHxQUARTERxSIXTEENTHxTENTHyWENT",
  "IETHtTHREE EIGHTIETHSzQUARTERSzSIXTEENTHSzTWENTIETHSkLETTER AsAsIsRCHAIC IIsUrBAsHArCAsH",
  "AtILLU KyLzLbaLyMyNzNyRRyYrDAsDAtHAsHAsOT REPHrEsErGAsHArHArIsIrJAsHArKAsHArLAsLAtLArMAr",
  "NAsGAsNAtNAsYArOsOrPAsHArRAsRArSAsHAsSArTAsHAsTAtHAtTArUsUrVAsEDIC ANUSVARAsOCALIC LbaLz",
  "RbaRrYAkNUMBER ONE HUNDREDvTHOUSANDrTENkSIGN ANUSVARAqVAGRAHApCANDRABINDUqIRCULAR VIRAMA",
  "qOMBINING ANUSVARA ABOVEpPARApVERTICAL BAR VIRAMAqIRAMArSARGAkVOWEL SIGN AAwIwUvEwEvIwIv",
  "OwOvUwUvVOCALIC LbeLbdRbeRdE AND FEMALE SIGNfSIGNfWITH STROKE AND MALE AND FEMALE SIGNrS",
  "IGNdTESE CROSScMMOTHcNd AND WOMAN HOLDING HANDSeDANCINGeIN BUSINESS SUIT LEVITATINGhTUXE",
  "DOeWITH GUA PI MAOjTURBANdAT SIGNdDAIC AFFRICATION MARKiGEMINATION MARKiLETTER ABqDqGqHq",
  "INqKrSAqLqMqNqPqQqRqSrHrZqTrTqZpDUSHENNApHALQApINqTpKADpUSHENNAiPUNCTUATIONiVOCALIZATION",
  " MARKdGOdICHAEAN ABBREVIATION MARK ABOVEbdBELOWlLETTER AAYINtLEPHtYINsBETHtHETHsDALETHtH",
  "AMEDHsFEsGHIMELtIMELsHEuTHsJAYINtHAYINsKAPHtHAPHsLAMEDHsMEMsNUNsPEsQHOPHtOPHsRESHsSADHEu",
  "MEKHtHINtSHINsTAWtETHtHAMEDHsWAWsXAPHtOPHsYODHsZAYINtHAYINlNUMBER FIVEsONEv HUNDREDsTENt",
  "WENTYlPUNCTUATION DOTba WITHIN DOTzUBLE DOT WITHIN DOTxFLEURONxLINE FILLERxSTARxTWO DOTS",
  "lSIGN UDdS SHOEdTELPIECE CLOCKdUAL WHEELCHAIRcP SYMBOL FOR LIGHTHOUSEdLE LEAFcRCHEN HEAD",
  " MARKiLETTER -ApApBApCAqHApDAqZApGApHApJApKAqHApLApMApNAqGAqYApPAqHApRApSAqHApTAqHAqSArH",
  "ApWApYApZAqHAiMARK SHADiSIGN ANUSVARAnCANDRABINDUjUBJOINED LETTER AzBAzCAbaHAzDAbaZAzGAz",
  "HAzJAzKAbaHAzLAzMAzNAbaGAbaYAzPAbaHAzRAzSAbaHAzTAbaHAbaSAbbHAzWAzYAzZAbaHAiVOWEL SIGN AA",
  "tEtItOtUdRIAGE SYMBOLdTIAL ARTS UNIFORMcSARAM GONDI DIGIT EIGHTuFIVEvOURuNINEuONEuSEVENv",
  "IXuTHREEvWOuZEROoLETTER AwAwIwUvBAwHAvCAwHAvDAwDAxHAwHAvEvGAwHAvHAvIwIvJAwHAwNYAvKAwHAwS",
  "SAvLAwLAvMAvNAwGAwNAwYAvOvPAwHAvRAvSAwHAwSAvTAwHAwRAwTAxHAvUwUvVAvYAoRA-KARApEPHAoSIGN A",
  "NUSVARAtCANDRAtHALANTAtNUKTAtVISARGAoVIRAMApOWEL SIGN AAbaIbaUzEzIbaIzOzUbaUzVOCALIC RdC",
  "ULINE ORDINAL INDICATORdK WORK SYMBOLdU MARKcTE DRINKdHEMATICAL BOLD CAPITAL AbbLPHAbaBb",
  "bETAbaCbbHIbaDbbELTAbbIGAMMAbaEbbPSILONbbTAbaFbaGbbAMMAbaHbaIbbOTAbaJbaKbbAPPAbaLbbAMDAb",
  "aMbbUbaNbbUbaObbMEGAbcICRONbaPbbHIbbIbbSIbaQbaRbbHObaSbbIGMAbaTbbAUbbHETAbf SYMBOLbaUbbP",
  "SILONbaVbaWbaXbbIbaYbaZbbETAsDIGIT EIGHTyFIVEzOURyNINEyONEySEVENzIXyTHREEzWOyZEROsEPSILO",
  "N SYMBOLsFRAKTUR CAPITAL AbiBbiCbiDbiEbiFbiGbiHbiIbiJbiKbiLbiMbiNbiObiPbiQbiRbiSbiTbiUbi",
  "VbiWbiXbiYbiZbaSMALL AbgBbgCbgDbgEbgFbgGbgHbgIbgJbgKbgLbgMbgNbgObgPbgQbgRbgSbgTbgUbgVbgW",
  "bgXbgYbgZsITALIC CAPITAL AbiLPHAbhBbiETAbhCbiHIbhDbiELTAbhEbiPSILONbiTAbhFbhGbiAMMAbhHbh",
  "IbiOTAbhJbhKbiAPPAbhLbiAMDAbhMbiUbhNbiUbhObiMEGAbjICRONbhPbiHIbiIbiSIbhQbhRbiHObhSbiIGMA",
  "bhTbiAUbiHETAbm SYMBOLbhUbiPSILONbhVbhWbhXbiIbhYbhZbiETAzEPSILON SYMBOLzKAPPA SYMBOLzNAB",
  "LAzPARTIAL DIFFERENTIALbaHI SYMBOLbaI SYMBOLzRHO SYMBOLzSMALL AbgLPHAbfBbgETAbfCbgHIbfDb",
  "gELTAbfEbgPSILONbgTAbfFbgINAL SIGMAbfGbgAMMAbfHbfIbgOTAbfJbfKbgAPPAbfLbgAMDAbfMbgUbfNbgU",
  "bfObgMEGAbhICRONbfPbgHIbgIbgSIbfQbfRbgHObfSbgIGMAbfTbgAUbgHETAbfUbgPSILONbfVbfWbfXbgIbfY",
  "bfZbgETAzTHETA SYMBOLsKAPPA SYMBOLsNABLAsPARTIAL DIFFERENTIALtHI SYMBOLtI SYMBOLsRHO SYM",
  "BOLsSCRIPT CAPITAL AbhBbhCbhDbhEbhFbhGbhHbhIbhJbhKbhLbhMbhNbhObhPbhQbhRbhSbhTbhUbhVbhWbh",
  "XbhYbhZzSMALL AbfBbfCbfDbfEbfFbfGbfHbfIbfJbfKbfLbfMbfNbfObfPbfQbfRbfSbfTbfUbfVbfWbfXbfYb",
  "fZtMALL AzLPHAyBzETAyCzHIyDzELTAzIGAMMAyEzPSILONzTAyFzINAL SIGMAyGzAMMAyHyIzOTAyJyKzAPPA",
  "yLzAMDAyMzUyNzUyOzMEGAbaICRONyPzHIzIzSIyQyRzHOySzIGMAyTzAUzHETAyUzPSILONyVyWyXzIyYyZzETA",
  "sTHETA SYMBOLnDOUBLE-STRUCK CAPITAL AbjBbjDbjEbjFbjGbjIbjJbjKbjLbjMbjObjSbjTbjUbjVbjWbjX",
  "bjYbbDIGIT EIGHTbhFIVEbiOURbhNINEbhONEbhSEVENbiIXbhTHREEbiWObhZERObbSMALL AbhBbhCbhDbhEb",
  "hFbhGbhHbhIbhJbhKbhLbhMbhNbhObhPbhQbhRbhSbhTbhUbhVbhWbhXbhYbhZnFALLING DIAGONALoRAKTUR C",
  "APITAL AbdBbdDbdEbdFbdGbdJbdKbdLbdMbdNbdObdPbdQbdSbdTbdUbdVbdWbdXbdYvSMALL AbbBbbCbbDbbE",
  "bbFbbGbbHbbIbbJbbKbbLbbMbbNbbObbPbbQbbRbbSbbTbbUbbVbbWbbXbbYbbZnITALIC CAPITAL AbdLPHAbc",
  "BbdETAbcCbdHIbcDbdELTAbcEbdPSILONbdTAbcFbcGbdAMMAbcHbcIbdOTAbcJbcKbdAPPAbcLbdAMDAbcMbdUb",
  "cNbdUbcObdMEGAbeICRONbcPbdHIbdIbdSIbcQbcRbdHObcSbdIGMAbcTbdAUbdHETAbh SYMBOLbcUbdPSILONb",
  "cVbcWbcXbdIbcYbcZbdETAuEPSILON SYMBOLuKAPPA SYMBOLuNABLAuPARTIAL DIFFERENTIALvHI SYMBOLv",
  "I SYMBOLuRHO SYMBOLuSMALL AbbLPHAbaBbbETAbaCbbHIbaDbbELTAbbOTLESS IbiJbaEbbPSILONbbTAbaF",
  "bbINAL SIGMAbaGbbAMMAbaIbbOTAbaJbaKbbAPPAbaLbbAMDAbaMbbUbaNbbUbaObbMEGAbcICRONbaPbbHIbbI",
  "bbSIbaQbaRbbHObaSbbIGMAbaTbbAUbbHETAbaUbbPSILONbaVbaWbaXbbIbaYbaZbbETAuTHETA SYMBOLnLEFT",
  " ANGLE BRACKETsDOUBLE ANGLE BRACKETsFLATTENED PARENTHESISsWHITE SQUARE BRACKETyTORTOISE ",
  "SHELL BRACKETnMONOSPACE CAPITAL AbfBbfCbfDbfEbfFbfGbfHbfIbfJbfKbfLbfMbfNbfObfPbfQbfRbfSb",
  "fTbfUbfVbfWbfXbfYbfZxDIGIT EIGHTbdFIVEbeOURbdNINEbdONEbdSEVENbeIXbdTHREEbeWObdZEROxSMALL",
  " AbdBbdCbdDbdEbdFbdGbdHbdIbdJbdKbdLbdMbdNbdObdPbdQbdRbdSbdTbdUbdVbdWbdXbdYbdZnRIGHT ANGL",
  "E BRACKETtDOUBLE ANGLE BRACKETtFLATTENED PARENTHESIStWHITE SQUARE BRACKETzTORTOISE SHELL",
  " BRACKETpSING DIAGONALnSANS-SERIF BOLD CAPITAL AbmLPHAblBbmETAblCbmHIblDbmELTAblEbmPSILO",
  "NbmTAblFblGbmAMMAblHblIbmOTAblJblKbmAPPAblLbmAMDAblMbmUblNbmUblObmMEGAbnICRONblPbmHIbmIb",
  "mSIblQblRbmHOblSbmIGMAblTbmAUbmHETAbq SYMBOLblUbmPSILONblVblWblXbmIblYblZbmETAbdDIGIT EI",
  "GHTbjFIVEbkOURbjNINEbjONEbjSEVENbkIXbjTHREEbkWObjZERObdEPSILON SYMBOLbdITALIC CAPITAL Ab",
  "tLPHAbsBbtETAbsCbtHIbsDbtELTAbsEbtPSILONbtTAbsFbsGbtAMMAbsHbsIbtOTAbsJbsKbtAPPAbsLbtAMDA",
  "bsMbtUbsNbtUbsObtMEGAbuICRONbsPbtHIbtIbtSIbsQbsRbtHObsSbtIGMAbsTbtAUbtHETAbx SYMBOLbsUbt",
  "PSILONbsVbsWbsXbtIbsYbsZbtETAbkEPSILON SYMBOLbkKAPPA SYMBOLbkNABLAbkPARTIAL DIFFERENTIAL",
  "blHI SYMBOLblI SYMBOLbkRHO SYMBOLbkSMALL AbrLPHAbqBbrETAbqCbrHIbqDbrELTAbqEbrPSILONbrTAb",
  "qFbrINAL SIGMAbqGbrAMMAbqHbqIbrOTAbqJbqKbrAPPAbqLbrAMDAbqMbrUbqNbrUbqObrMEGAbsICRONbqPbr",
  "HIbrIbrSIbqQbqRbrHObqSbrIGMAbqTbrAUbrHETAbqUbrPSILONbqVbqWbqXbrIbqYbqZbrETAbkTHETA SYMBO",
  "LbdKAPPA SYMBOLbdNABLAbdPARTIAL DIFFERENTIALbeHI SYMBOLbeI SYMBOLbdRHO SYMBOLbdSMALL Abk",
  "LPHAbjBbkETAbjCbkHIbjDbkELTAbjEbkPSILONbkTAbjFbkINAL SIGMAbjGbkAMMAbjHbjIbkOTAbjJbjKbkAP",
  "PAbjLbkAMDAbjMbkUbjNbkUbjObkMEGAblICRONbjPbkHIbkIbkSIbjQbjRbkHObjSbkIGMAbjTbkAUbkHETAbjU",
  "bkPSILONbjVbjWbjXbkIbjYbjZbkETAbdTHETA SYMBOLyCAPITAL AbgBbgCbgDbgEbgFbgGbgHbgIbgJbgKbgL",
  "bgMbgNbgObgPbgQbgRbgSbgTbgUbgVbgWbgXbgYbgZyDIGIT EIGHTbeFIVEbfOURbeNINEbeONEbeSEVENbfIXb",
  "eTHREEbfWObeZEROyITALIC CAPITAL AbnBbnCbnDbnEbnFbnGbnHbnIbnJbnKbnLbnMbnNbnObnPbnQbnRbnSb",
  "nTbnUbnVbnWbnXbnYbnZbfSMALL AblBblCblDblEblFblGblHblIblJblKblLblMblNblOblPblQblRblSblTbl",
  "UblVblWblXblYblZySMALL AbeBbeCbeDbeEbeFbeGbeHbeIbeJbeKbeLbeMbeNbeObePbeQbeRbeSbeTbeUbeVb",
  "eWbeXbeYbeZoCRIPT CAPITAL AbcCbcDbcGbcJbcKbcNbcObcPbcQbcSbcTbcUbcVbcWbcXbcYbcZuSMALL Aba",
  "BbaCbaDbaFbaHbaIbaJbaKbaLbaMbaNbaPbaQbaRbaSbaTbaUbaVbaWbaXbaYbaZcXIMIZEcYAN NUMERAL EIGH",
  "TtEENpLEVENoFIFTEENqVEpOURsTEENoNINEsTEENoONEoSEVENtTEENpIXrTEENoTENpHIRTEENqREEpWELVEqO",
  "oZERObEASURED ANGLEo OPENING LEFTpWITH OPEN ARM ENDING IN ARROW POINTING DOWN AND LEFTcl",
  "RIGHTccLEFT AND DOWNclUPccRIGHT AND DOWNcmUPccUP AND LEFTcjRIGHTjBYjRIGHT ANGLE WITH DOT",
  "dT ON BONEcCHANICAL ARMlLEGcDEFAIDRIN CAPITAL LETTER AbcIbcTIUbbBbbCbbDbbEbbFbbGbbHbcPbb",
  "IbbJbbKbcPbbLbbMbbNbcGbcYbbObcEbbPbbQbbRbbSbbTbbUbbVbbWbbXbbYbcUbbZnOMMAmDIGIT EIGHTsFIV",
  "EtOURsNINEsONEv ALTERNATE FORMsSEVENtIXsTHREEx ALTERNATE FORMtWOv ALTERNATE FORMsZEROmEX",
  "CLAMATION OHmFULL STOPmNUMBER EIGHTEENuLEVENtFIFTEENuOURTEENtNINETEENtSEVENTEENuIXTEENtT",
  "ENuHIRTEENuWELVEmSMALL LETTER AbaIbaTIUzBzCzDzEzFzGzHbaPzIzJzKbaPzLzMzNbaGbaYzObaEzPzQzR",
  "zSzTzUzVzWzXzYbaUzZnYMBOL AIVAdIEVAL COMMAjEXCLAMATION MARKjQUESTION MARKeUM BLACK CIRCL",
  "EiOLD WHITE CIRCLEhEIGHT POINTED BLACK STARnSPOKED ASTERISKhFIVE SPOKED ASTERISKiLATTENE",
  "D LEFT PARENTHESIS ORNAMENTrRIGHT PARENTHESIS ORNAMENTiOUR POINTED BLACK STARuPINWHEEL S",
  "TARhGREEK CROSShLEFT CURLY BRACKET ORNAMENTmPARENTHESIS ORNAMENTl-POINTING ANGLE BRACKET",
  " ORNAMENThMATHEMATICAL SPACEhRIGHT CURLY BRACKET ORNAMENTnPARENTHESIS ORNAMENTm-POINTING",
  " ANGLE BRACKET ORNAMENThSALTIREiHADEiIX POINTED BLACK STARlSPOKED ASTERISKiMALL WHITE CI",
  "RCLEhTHREE POINTED BLACK STARvPINWHEEL STARhVERTICAL BARhWHITE CIRCLEnSQUAREcETEI MAYEK ",
  "AHANG KHUDAMoNJIoPUN IYEKnCHEIKHANtEInDIGIT EIGHTtFIVEuOURtNINEtONEtSEVENuIXtTHREEuWOtZE",
  "ROnLETTER ATIYAuBAvHAMuCHAwILuDDAwHAvHOUvILuEuGHOUvOKuHUKuIv LONSUMuJHAMvILuKHOUvOKx LON",
  "SUMuLAIx LONSUMuMITx LONSUMuNAw LONSUMvGOUy LONSUMvNAvYAuOuPAw LONSUMvHAMuRAIuSAMvHAvSAu",
  "THOUvILx LONSUMvTAwHAuUNuWAIuYANGoUM IYEKnSYLLABLE REPETITION MARKnVIRAMAoOWEL SIGN AAIb",
  "aUzNAPzUyCHEINAPyIIzNAPyNUNGyONAPySOUNAPyUNAPzUyVISARGAyYENAPnWORD REPETITION MARKcLONdT",
  "ING FACEcMOcNDE KIKAKUI COMBINING NUMBER HUNDRED THOUSANDSbmSbfMILLIONSbfTEENSbhN THOUSA",
  "NDSbiSbgHOUSANDSoDIGIT EIGHTuFIVEvOURuNINEuONEuSEVENvIXuTHREEvWOoSYLLABLE M001 KIba2 KAb",
  "a3 KUba4 WIba5 WAba6 WUba7 MINba8 MANba9 MUNz10 BIba1 BAba2 BUba3 Iba4 Aba5 Uba6 DIba7 D",
  "Aba8 DUba9 SIz20 SAba1 SUba2 TIba3 TAba4 TUba5 LIba6 LAba7 LUba8 JIba9 JAz30 JUba1 YIba2",
  " YAba3 YUba4 FIba5 FAba6 FUba7 NINba8 NANba9 NUNz40 HEEba1 HAba2 HOOba3 NGGAba4 KPEEba5 ",
  "WOba6 HUANba7 MBEEba8 KOba9 WVAz50 PUba1 PEba2 HENba3 HINba4 LOOba5 TEba6 GBAba7 NGONba8",
  " NYANba9 MENz60 NYONba1 WVIba2 MBAba3 JOba4 NDOba5 KEEba6 POba7 NDOOba8 PIba9 TOz70 GBOb",
  "a1 GBOOba2 MBEba3 LEba4 KPUba5 FEba6 KOOba7 VOba8 FEEba9 SOz80 YEba1 PEEba2 NGGUba3 HEEI",
  "ba4 LEEba5 VEba6 LONG NGGEba7 HUNba8 FOba9 DEEz90 NGGIba1 TEEba2 KPAba3 GBEEba4 MONba5 K",
  "Eba6 HEba7 BEba8 NYENba9 PAy100 Eba1 FANba2 POOba3 BOOba4 TOOba5 LONG MBOOba6 LONG NGGOO",
  "ba7 GBEba8 KPEba9 YEEz10 LONG LEba1 GAba2 KPOOba3 JEba4 WOOba5 NGGEEba6 SEba7 NENba8 WEb",
  "a9 NDEz20 NGGOba1 YOba2 MBUba3 NDIba4 GBIba5 NDUba6 WEEba7 NGGUAba8 HOOUba9 NDAz30 HANba",
  "1 INba2 KPIba3 FOOba4 NJOOba5 INba6 SOOba7 EIba8 BOba9 WVEz40 HOba1 YOOba2 LONG MBOba3 W",
  "EIba4 VOOba5 MBIba6 NGGEba7 Oba8 GBUba9 NJEEz50 BEEba1 VUba2 NJAba3 LOba4 MUANba5 GIba6 ",
  "NGGOOba7 JEEba8 KPOba9 NGGAAz60 JOOba1 LONG MBEba2 SEEba3 EEba4 NYINba5 OOba6 GUEIba7 GU",
  "ANba8 GUba9 NONz70 NYUNba1 RAba2 MBOOba3 VEEba4 MBOba5 LONG JOba6 HIba7 NGUANba8 ENba9 K",
  "UAz80 DOOba1 DOba2 VIba3 LONG NGGOba4 NGENba5 VAba6 HUba7 MBUUba8 MBEEba9 MUENz90 GEEba1",
  " NDEEba2 NJUba3 HONba4 WUIba5 ANba6 SIAba7 FUAdORAH WITH NINE BRANCHESdS SYMBOLcRCURYdOI",
  "TIC CURSIVE FRACTION EIGHT TWELFTHSbbLEVEN TWELFTHSbaFIVE TWELFTHSbbOUR TWELFTHSbaNINE T",
  "WELFTHSbaONE HALFbeTWELFTHbaSEVEN TWELFTHSbbIX TWELFTHSbaTEN TWELFTHSbbHREE TWELFTHSbbWO",
  " TWELFTHSrLETTER AzRCHAIC SAyBAyDAyEyHHAyIyKAzHAyLAyMAyNAzEyOyPAyQAyRAySAzEyTAzEzOyWAyYA",
  "sOGOGRAM IMNbaRMTrNUMBER EIGHTbd HUNDREDbl THOUSANDbeTHOUSANDbdY THOUSANDyFIFTYbd THOUSA",
  "NDbaVEbc HUNDREDbk THOUSANDbdTHOUSANDzORTYbd THOUSANDbaURbc HUNDREDbk THOUSANDbdTHOUSAND",
  "yNINEbc HUNDREDbk THOUSANDbdTHOUSANDbcTY THOUSANDyONEbb HUNDREDbj THOUSANDbcTHOUSANDySEV",
  "ENbd HUNDREDbl THOUSANDbeTHOUSANDbdTYbf THOUSANDzIXbb HUNDREDbj THOUSANDbcTHOUSANDbbTYbd",
  " THOUSANDyTENbb THOUSANDzHIRTYbe THOUSANDbaREEbd HUNDREDbl THOUSANDbeTHOUSANDzWENTYbe TH",
  "OUSANDbaObb HUNDREDbj THOUSANDbcTHOUSANDjHIEROGLYPHIC LETTER AbdBAbf-2bdDAbdEbdHHAbdIbdK",
  "AbeHAbdLAbdMAbdNAbf-2beEbf-2bdObdPAbdQAbdRAbf-2bdSAbf-2beEbdTAbf-2beEbf-2beObdWAbdYAwSYM",
  "BOL VIDJbh-2dPERSONcSSAGE WAITINGcTRICAL BREVEjLONG OVER SHORTtTWO SHORTSjPENTASEMEjSHOR",
  "T OVER LONGjTETRASEMEkRISEMEkWO SHORTS JOINEDuOVER LONGeObIAO LETTER AHnRCHAIC MAuNAvGAu",
  "ZZAmBAnRImDAnDAnLHApYAnZAoHAoYIoZAmFAmGAnHAoHAmHAnHAmKAmLAnHAoYAnYAmMAnHAmNAoSALIZATIONn",
  "GAoHAnHAnNAoHAnYAoHAmPAnLAmQAnGAmREFORMED TONE-1ba2ba4ba5ba6ba8wSHAnTEmSAnHAnSAnYImTAnEn",
  "LHApYAnONE-2r3r4r5r6r7r8nSAoEoHAoSAnTAmVAnFAmWAmXAmYI DZHApKApNNApPApTAqSArHAqTAmZAnHAnS",
  "AoHAnZAoSApYAoYAfSIGN ASPIRATIONkCONSONANT MODIFIER BARkREFORMED ASPIRATIONtVOICINGfTONE",
  " ABOVEkBELOWkRIGHTkTOP RIGHTfVOWEL SIGN ArArEsErHHrIrNsGrUqErArIrNsGrRsRqIrAsNtGrErGrIrN",
  "GrOsNGrUqNrGqOrERsYrGrOrUqROUNDED ERbaRqUrAsNtGrEIrIrNGrOGrUqVWqWrOqYrIrUIcCR DASH SYMBO",
  "LfON US SYMBOLeO SIGNfBEfPHONEfSCOPEcDDLE DOThTHIRD WHITE RIGHT POINTING INDEXdLINE HORI",
  "ZONTAL ELLIPSIScLITARY HELMETjMEDALdKY WAYdL SIGNcNIBUSeDISCeMIZEdUS SIGNk IN TRIANGLElW",
  "ITH COMMA ABOVEqDOT BELOWqFALLING DOTSqRISING DOTSgTILDEf-OR-PLUS SIGNdYcRRORg BALLbMSPb",
  "OBILE PHONEm OFFnWITH RIGHTWARDS ARROW AT LEFTcDELSeRN PENTATHLONdI ABBREVIATION SIGNfDA",
  "NDAgIGIT EIGHTlFIVEmOURlNINElONElSEVENmIXlTHREEmWOlZEROgOUBLE DANDAfLETTER AnAnInUmBAnHA",
  "mCAnHAmDAnDAoHAnHAmEmGAnHAmHAmInImJAnHAmKAnHAmLAnLAmMAmNAnGAnNAnYAmOmPAnHAmRAmSAnHAnSAmT",
  "AnHAnTAoHAmUnUmVAnOCALIC LvLuRvRmYAfSIGN ANUSVARAlRDHACANDRAkHUVAkVIRAMAmSARGAfVOWEL SIG",
  "N AArIrUqEqIrIqOqUrUqVOCALIC LzLyRzReFIER BREVE WITH INVERTED BREVEjLETTER ACUTE ACCENTr",
  "LVEOLAR CLICKrPOSTROPHEqBEGIN HIGH TONEwLOW TONErILABIAL CLICKqCAPITAL AzEyBzARRED ByCyD",
  "yEyFyGyHz WITH STROKEyIyJyKyLyMyNyOzUyPyQyRzEVERSED EbhNyTyUyVyWrENTRED LEFT HALF RINGyR",
  "IGHT HALF RINGrHINESE TONE YANG PINGbiQUbiRUbiSHANGbeIN PINGbhQUbhRUbhSHANGrIRCUMFLEX AC",
  "CENTrOLONrROSS ACCENTrYRILLIC ENzHARD SIGNzSOFT SIGNqDENTAL CLICKrOT HORIZONTAL BARuSLAS",
  "HuVERTICAL BARsUBLE APOSTROPHExPRIMEsWN ARROWHEADvTACKqEND HIGH TONEuLOW TONErXTRA-HIGH ",
  "DOTTED LEFT-STEM TONE BARbiTONE BARbbLEFT-STEM TONE BARbbTONE BARwLOW DOTTED LEFT-STEM T",
  "ONE BARbhTONE BARbaLEFT-STEM TONE BARbaTONE BARqGEORGIAN NARrLOTTAL STOPbc WITH STROKErR",
  "AVE ACCENTqHALF TRIANGULAR COLONrIGH DOTTED LEFT-STEM TONE BARbcTONE BARvLEFT-STEM TONE ",
  "BARvTONE BARqLATERAL CLICKrEFT ARROWHEADvHALF RINGvTACKrOW ACUTE ACCENTuCIRCUMFLEX ACCEN",
  "TuDOTTED LEFT-STEM TONE BARbbTONE BARwWN ARROWHEADuGRAVE ACCENTuINVERTED EXCLAMATION MAR",
  "KuLEFT ARROWbeHEADy-STEM TONE BARuMACRONuRIGHT ARROWHEADwNGuTILDEvONE BARuUP ARROWHEADuV",
  "ERTICAL LINEtER RIGHT CORNER ANGLEqMACRONrID DOTTED LEFT-STEM TONE BARbbTONE BARuLEFT-ST",
  "EM TONE BARuTONE BARtDLE DOUBLE ACUTE ACCENTbeGRAVE ACCENTxGRAVE ACCENTsNUS SIGNqOPEN SH",
  "ELFqPLUS SIGNrRIMEqRAISED COLONxDOWN ARROWxEXCLAMATION MARKxINVERTED EXCLAMATION MARKxUP",
  " ARROWrETROFLEX CLICK WITH RETROFLEX HOOKsVERSED COMMAzGLOTTAL STOPbl WITH STROKErHOTIC ",
  "HOOKrIGHT ARROWHEADwHALF RINGwTACKqSHELFsORT EQUALS SIGNrMALL AxExINxLPHAwBx WITH HOOKxA",
  "RRED OxETAxOTTOM HALF OwCx WITH CURLxAPITAL AAbeBbeGbf WITH HOOKbeHbeIbf WITH STROKEbfNV",
  "ERTED RbeLbf WITH BELTbeNbeOEbeRbeUbeYxHIxLOSED OMEGAbdREVERSED OPEN EwDx WITH HOOKbh AN",
  "D TAILbdTAILxELTAyZH DIGRAPHxOTLESS J WITH STROKEbr AND HOOKxZ DIGRAPHbg WITH CURLbmRETR",
  "OFLEX HOOKwExNGxSHxTHxZHwFxENG DIGRAPHwGx WITH HOOKxAMMAxREEK GAMMAbcPHIwHx WITH HOOKbdS",
  "TROKExENGba WITH HOOKwI WITH STROKExOTAwJx WITH CROSSED-TAILwKwLx WITH BELTbdINVERTED LA",
  "ZY SbdMIDDLE TILDEbdPALATAL HOOKbdRETROFLEX HOOKbr AND BELTxEZHba WITH RETROFLEX HOOKxIG",
  "ATURE OExS DIGRAPHxZ DIGRAPHwMx WITH HOOKwN WITH LEFT HOOKbdRETROFLEX HOOKwOx WITH STROK",
  "ExPEN EbbOwPxHIwQwRx WITH FISHHOOKbdTAILxAMS HORNxEVERSED EbfGLOTTAL STOPbfOPEN EwSx WIT",
  "H CURLbdHOOKxCHWAyRIPT GxIDEWAYS UwTx WITH PALATAL HOOKbdRETROFLEX HOOKxC DIGRAPH WITH C",
  "URLxESH DIGRAPHxHETAxOP HALF OxS DIGRAPHbg WITH RETROFLEX HOOKxURNED AbeEbeLPHAbdHbdIbdM",
  "be WITH LONG LEGbdOPEN EbdRbe WITH HOOKbkLONG LEGbs AND RETROFLEX HOOKbdVbdWbdYbe WITH B",
  "ELTwUx BARyWITH LEFT HOOKxPSILONwVx WITH HOOKbdRIGHT HOOKwWwXwYwZx WITH CURLbdRETROFLEX ",
  "HOOKrTRESS AND HIGH TONEbbLOW TONErUPERSCRIPT HALF TRIANGULAR COLONbcTRIANGULAR COLONqTR",
  "IANGULAR COLONrURNED COMMAqUNASPIRATEDrP ARROWHEADtTACKrSqVERTICAL LINErOICINGqYANG DEPA",
  "RTING TONE MARKrIN DEPARTING TONE MARKdULO TWO SUMcNEY BAGgWITH WINGSf-MOUTH FACEdGOLIAN",
  " BIRGAp WITH DOUBLE ORNAMENTvORNAMENTkCOLONmMMAkDIGIT EIGHTqFIVErOURqNINEqONEqSEVENrIXqT",
  "HREErWOqZEROlOUBLE BIRGA WITH ORNAMENTkELLIPSISkFOUR DOTSlREE VARIATION SELECTOR FOURbiO",
  "NEbiTHREEbjWOlULL STOPkINVERTED BIRGAy WITH DOUBLE ORNAMENTkLETTER AsLI GALI AbbHbbNUSVA",
  "RA ONEbaBALUDAbaCAbaDAbcGALGAbcMARUbbDAbaHALF UbfYAbaIbbNVERTED UBADAMAbaKAbaNGAbbNAbaPA",
  "bbHAbaSSAbaTAbbHREE BALUDAbbTAbcHAbaUBADAMAbaVISARGA ONEbaZAbbHAsNGrBArCHAu WITH TWO DOT",
  "StIrDArEsErFArGArHAArIrJArKAsHArLAsHArMAtNCHU ALI GALI BHAbhCAbiYAbhDDHAbiHAbhGHAbhJHAbh",
  "LHAbhNGAbhSSAbhTAbiTAbhZAbiHAyFAyIyKAyRAyZHArNArOsErPArQArRArSAsHAsIBE ANGwCHAwDAwEwFAwG",
  "AyAwHAyAwIxYwJAwKAwPAwRAAwSHAwTAxSAwUxEwZAxHArTAsODO ALI GALI TAbfZHAxNGwBAwCHAwDAxZAwEw",
  "GAyAwHAAwIwJAxIAwKAwLONG VOWEL SIGNwMAwNIAwOxEwPAwQAwTAxSAwUxEwWAwYAsSArUsErWArYArZAsHIs",
  "RAkMANCHU COMMArFULL STOPkNIRUGUkROTATED BIRGAx WITH DOUBLE ORNAMENTbdORNAMENTkSIBE SYLL",
  "ABLE BOUNDARY MARKERlWIRL BIRGAv WITH DOUBLE ORNAMENTbbORNAMENTkTODO SOFT HYPHENlRIPLE B",
  "IRGA WITH ORNAMENTlURNED SWIRL BIRGA WITH DOUBLE ORNAMENTkVOWEL SEPARATORdKEYg FACEdOGRA",
  "M FOR EARTHnYANGoINeRAILeSTABLE SYMBOLcOD BUBBLEdN CAKEfVIEWING CEREMONYcSQUEfITOcTHER C",
  "HRISTMASdOR BOATgSCOOTERfIZED WHEELCHAIRfWAYcUNT FUJIfAINi BICYCLISTjCABLEWAYjRAILWAYdSE",
  "f FACEgTRAPdTHcVIE CAMERAcYAIbRO DANDAfIGIT EIGHTkFIVElOURkNINEkONEkSEVENlIXkTHREElWOkZE",
  "ROfOUBLE DANDAeLETTER AlBAlCHUlDAnIlEmAlHAInOlKEAAEmHAImOlLAnNlMAEMmIMlNGImINlOmLmOlPAmH",
  "IlRImOlSHIlTAmEKmHEAlWAlYObUCH GREATER-THANfLESS-THANcLTANI LETTER ApBAqHApCAqHApDAqDArD",
  "ArHAqHApEpGAqHApHApIpJAqJApKAqHApLApMApNAqNAqYApPAqHApRAqHAqRApSApTAqHAqTArHApUpVApYAiSE",
  "CTION MARKeIMAPfPLE MUSICAL NOTEShICATION SIGNt IN DOUBLE CIRCLExLEFT HALF CIRCLExRIGHT ",
  "HALF CIRCLExTRIANGLEuWITH DOT ABOVEzUNDERBARpXfSETi MULTIPLICATIONjUNIONcSHROOMdIC FLAT ",
  "SIGNgNATURAL SIGNgSHARP SIGNfAL KEYBOARDq WITH JACKSiNOTEiSCOREjYMBOL ARPEGGIATO DOWNbaU",
  "PpBEGIN BEAMvPHRASEvSLURvTIEqRACEtKETrEATH MARKsVEtISv RESTpC CLEFqAESURAqIRCLE X NOTEHE",
  "ADqLIMACUSsVISrUSTER NOTEHEAD BLACKbgWHITEqODArMBINING ACCENTbf-STACCATObaUGMENTATION DO",
  "TzBENDzDOITbbUBLE TONGUEbbWN BOWzFLAG-1be2be3be4be5bbIPzHARMONICzLOUREzMARCATObg-STACCAT",
  "OzRIPzSMEARbaNAP PIZZICATObaPRECHGESANG STEMbaTACCATISSIMObgObbEMzTENUTObaREMOLO-1bh2bh3",
  "bbIPLE TONGUEzUP BOWsMON TIMEqRESCENDOrOIXqUT TIMEpDA CAPOrL SEGNOrMPt ALLrSHED BARLINEq",
  "ECRESCENDOrGREE SLASHqOUBLE BARLINEwFLATwSHARPqRUM CLEF-1z2pEIGHTH NOTEwRESTqND BEAMtOF ",
  "STIMMEtPHRASEtSLURtTIEpF CLEFv OTTAVA ALTAbdBASSAqERMATAw BELOWqINAL BARLINEsGERED TREMO",
  "LO-1bg2bg3rVE-LINE STAFFqLAT DOWNuUPqORTErUR-LINE STAFFuSTRING FRETBOARDqUSA BLACKuWHITE",
  "pG CLEFv OTTAVA ALTAbdBASSAqLISSANDO DOWNzUPqRACE NOTE NO SLASHbaSLASHrEGORIAN C CLEFzF ",
  "CLEFpHALF NOTEuPEDAL MARKuRESTrUPTSTIMMEpINVERTED TURNpKIEVAN C CLEFwEIGHTH NOTE STEM DO",
  "WNbnUPxND OF PIECEwFINAL NOTExLAT SIGNwHALF NOTEwQUARTER NOTE STEM DOWNboUPwRECITATIVE M",
  "ARKwWHOLE NOTEqORONpLEFT REPEAT SIGNqONGAu IMPERFECTA RESTvPERFECTA RESTpMAXIMAqEZZOqINI",
  "MAv BLACKwRESTqOON NOTEHEAD BLACKbdWHITEqULTI RESTuPLE MEASURE RESTpNATURAL DOWNxUPqEBEN",
  "STIMMEqOTEHEAD BLACKqULL NOTEHEADpONE HUNDRED TWENTY-EIGHTH NOTEbpRESTs-LINE STAFFqRNAME",
  "NT STROKE-1bg0bg1bf2bf3bf4bf5bf6bf7bf8bf9qTTAVA ALTAwBASSApPARENTHESIS NOTEHEADqEDAL MAR",
  "KvUP MARKrS SUBPUNCTISqIANOqLUS NOTEHEADqODATUSrRRECTUSy FLEXUSpQUARTER NOTExRESTxTONE F",
  "LATbcSHARPrINDICESIMA ALTAbcBASSApREPEAT DOTSvED FIGURE-1bf2bf3rVERSE FINAL BARLINEqIGHT",
  " REPEAT SIGNrNFORZANDOpSCANDICUSy FLEXUSqEGNOrMIBREVIS BLACKbaRESTbaWHITEtMINIMA BLACKba",
  "RESTbaWHITEqHARP DOWNvUPrORT BARLINEqINGLE BARLINErX-LINE STAFFtSTRING FRETBOARDsTEENTH ",
  "NOTEzRESTtY-FOURTH NOTEbcRESTqORIqQUARE BwNOTEHEAD BLACKbfWHITEqUBITOpTEMPUS IMPERFECTUM",
  " CUM PROLATIONE IMPERFECTAch DIMINUTION-1ct2ct3bxPERFECTAwPERFECTUM CUM PROLATIONE IMPER",
  "FECTAbvPERFECTAcd DIMINUTION-1qHIRTY-SECOND NOTEbdRESTrREE-LINE STAFFqORCULUSx RESUPINUS",
  "qRrIANGLE NOTEHEAD DOWN BLACKbmWHITEbhLEFT BLACKbmWHITEbhRIGHT BLACKbnWHITEbhUP BLACKbkR",
  "IGHT BLACKbqWHITEbkWHITEx-ROUND NOTEHEAD DOWN BLACKbsWHITEqURNt SLASHuUPqWO-LINE STAFFpV",
  "IRGAqOID NOTEHEADpWHOLE NOTEvRESTqITH FINGERNAILSpX NOTEHEADpZbVSbWbYANMAR CONSONANT SIG",
  "N MEDIAL HAbeRAbeWAbeYAyON MEDIAL LAbiMAbiNAxSHAN MEDIAL WAiDIGIT EIGHToFIVEpOURoNINEoON",
  "EoSEVENpIXoTHREEpWOoZEROiLETTER AqITON RAqUpBAqHApCAqHApDAqDArHAqHApEqASTERN PWO KAREN G",
  "HWAbhNNAbhYWApGAqHAqREAT SApHApIqIpJAqHApKAqHAsMTI CAxHAwDDAyHAxHAwFAwGAwHAxHAwJAxHAwLLA",
  "wNAxYAwRAwSAwTTAyHAwXAwZApLAqLApMAqON BBAvEtEtJHAtNGApNAqGAqNArYAqYApOpPAqHApRAqUMAI PAL",
  "AUNG FApSAqGAW KAREN SHAqHAsN AuBAvHAuCAvHAuDAuFAuGAvHAuHAuJHAuKAvHAuNAvNAvYAuPHAuTHAuZA",
  "rWE PALAUNG CHAbcSHAqSApTArI LAING BAbaHAzDAbaDAbbHAbaHAzFAzGAbaHAzJAbaHAzLLAzNNAbaYAqHA",
  "qTArHApUqUpVOCALIC LyLxRyRpWAqESTERN PWO KAREN PWAbhTHApYAjOGOGRAM KHAMTI HMyOAYyQNiMODI",
  "FIER LETTER KHAMTI REDUPLICATIONySHAN REDUPLICATIONiSHAN DIGIT EIGHTtFIVEuOURtNINEtONEtS",
  "EVENuIXtTHREEuWOtZEROjIGN ANUSVARAoSATnDOT BELOWnKHAMTI TONE-1z3nLITTLE SECTIONnPAO KARE",
  "N TONEnRUMAI PALAUNG TONE-5nSECTIONoHAN COUNCIL EMPHATIC TONEbaTONE-2bf3sSAWsTONE-2x3x5x",
  "6nTAI LAING TONE-2bc5nVIRAMApSARGAnWESTERN PWO KAREN TONE-1bk2bk3bk4bk5jYMBOL AFOREMENTI",
  "ONEDqITON EXCLAMATIONvONEvTWOpCOMPLETEDpGENITIVEpLOCATIVEpSHAN EXCLAMATIONuONEiTAI LAING",
  " DIGIT EIGHTyFIVEzOURyNINEyONEySEVENzIXyTHREEzWOyZEROjONE MARK SGAW KAREN HATHIbdKE PHOi",
  "VOWEL SIGN AAuIvTON AbaItEu ABOVEtGEBA KAREN ItIuItKAYAH EEzOEzUtMON IIxOtSGAW KAREN EUu",
  "HAN AAyEz ABOVEyFINAL YtTALL AAtUuUtVOCALIC LbcLbbRbcRtWESTERN PWO KAREN EUblUEaN-ARY CI",
  "RCLED DOT OPERATORoPLUS OPERATORoTIMES OPERATORhOPRODUCTgINTERSECTIONgLOGICAL ANDoORgPRO",
  "DUCTgSQUARE INTERSECTION OPERATORnUNION OPERATORhUMMATIONgTIMES OPERATORgUNIONl OPERATOR",
  " WITH DOTbaPLUSgWHITE VERTICAL BARbABATAEAN CRUCIFORM NUMBER FOURkLETTER ALEPHsYINrBETHr",
  "DALETHrFINAL ALEPHxBETHxHExKAPHxLAMEDHxMEMxNUNxSHINxYODHrGIMELrHEtTHrKAPHrLAMEDHrMEMrNUN",
  "rPErQOPHrRESHrSADHEtMEKHsHINrTAWsETHrWAWrYODHrZAYINkNUMBER FIVEsOURrONEu HUNDREDrTENsHRE",
  "EsWENTYtOdLAcIL POLISHdRA SIGNcKcME BADGEcNDeINAGARI HEADSTROKEmLETTER AuAuIuUtBAuHAtCAu",
  "HAtDAuDAvHAuHAtEtGAuHAtHAtIuItJAuHAtKAuHAtLAuLAtMAtNAuGAuNAuYAtOtPAuHAtRAuRAtSAuHAuSAtTA",
  "uHAuTAvHAtUuUtVAuOCALIC RbcRtYAmSIGN ANUSVARAsVAGRAHArSIDDHAMrVIRAMAtSARGAmVOWEL SIGN AA",
  "yIyUxExIyIxOxPRISHTHAMATRA ExUyUxVOCALIC RbgRcRROW NO-BREAK SPACEcTIONAL DIGIT SHAPESjPA",
  "RKcUSEATED FACEcZAR AMULETbBHcSPbECKTIEcGATED DOUBLE VERTICAL BAR DOUBLE RIGHT TURNSTILE",
  "fIVE ACKNOWLEDGEjCIRCLED DIGIT ZEROrLATIN CAPITAL LETTER AbmBbmCbmDbmEbmFbmGbmHbmIbmJbmK",
  "bmLbmMbmNbmObmPbmQbmRbmSbmTbmUbmVbmWbmXbmYbmZrNUMBER EIGHTEENzLEVENyFIFTEENzOURTEENyNINE",
  "TEENySEVENTEENzIXTEENyTHIRTEENzWELVEbbNTYrSQUARErTRIANGLEjDIAGONAL CROSSsDIAMONDsMIDDLE ",
  "RIGHT TO LOWER CENTREjSQUARED ABrCROSS MARKrICrLATIN CAPITAL LETTER AbmBbmCbmDbmEbmFbmGb",
  "mHbmIbmJbmKbmLbmMbmNbmObmPbmQbmRbmSbmTbmUbmVbmWbmXbmYbmZrPArQUESTION MARKrSArWCcITHER A ",
  "SUBSET OF NOR EQUAL TOmPERSET OF NOR EQUAL TOjPPROXIMATELY NOR ACTUALLY EQUAL TOiGREATER",
  "-THAN NOR EQUAL TObcIVALENT TOzLESS-THANiLESS-THAN NOR EQUAL TOzIVALENT TOwGREATER-THANc",
  "LcPTUNEh FORM TWOcRD FACEcSSUSdT WITH EGGSeING DOLLScUTEReRAL CHESS BISHOPu ROTATED NINE",
  "TY DEGREESbdTWO HUNDRED SEVENTY DEGREESoEQUIHOPPERy ROTATED NINETY DEGREESoKINGs ROTATED",
  " NINETY DEGREESbbTWO HUNDRED SEVENTY DEGREESpNIGHTu ROTATED FORTY-FIVE DEGREESbdNINETY D",
  "EGREESbdONE HUNDRED THIRTY-FIVE DEGREESbdTHREE HUNDRED FIFTEEN DEGREESbeWO HUNDRED SEVEN",
  "TY DEGREESbpTWENTY-FIVE DEGREESoPAWNs ROTATED NINETY DEGREESbbTWO HUNDRED SEVENTY DEGREE",
  "SoQUEENt ROTATED NINETY DEGREESbcTWO HUNDRED SEVENTY DEGREESoROOKs ROTATED NINETY DEGREE",
  "SbbTWO HUNDRED SEVENTY DEGREESoTURNED BISHOPvKINGwNIGHTvPAWNvQUEENvROOKiFACEcW LINEeMOON",
  " SYMBOLjWITH FACEeSHEQEL SIGNeTAI LUE DIGIT EIGHTsFIVEtOURsNINEsONEsSEVENtIXsTHREEtWOsZE",
  "ROmLETTER FINAL BzDzKzMzNbaGzVtHIGH BAyDAyFAyHAyKAzVAyLAyMAyNAzGAyPAzHAyQAySAzUAyTAzHAzS",
  "AyVAyXAzVAyYAtLOW BAxDAxFAxHAxKAyVAxLAxMAxNAyGAxPAyHAxQAxSAyUAxTAyHAySAxVAxXAyVAxYAmSIGN",
  " LAEuVmTHAM DIGIT ONEnONE MARK-1w2mVOWEL SIGN AAzYyEyYxExIIyYxOyAzYyYxUyEzYyUyYxVOWEL SH",
  "ORTENERdA ABBREVIATION SIGNfCOMMAfDANDAgIGIT EIGHTlFIVEmOURlNINElONElSEVENmIXlTHREEmWOlZ",
  "EROgOUBLE COMMAmDANDAfGAP FILLERfINSERTION SIGNfLETTER AnAnInUmBAnHAmCAnHAmDAnDAoHAnHAmE",
  "mGAnHAmHAmInImJAnHAmKAnHAmLAnHAmMAnHAmNAnGAoHAnHAnNAnYAoHAmOmPAnHAmRAnHAmSAnHAnSAmTAnHAn",
  "TAoHAmUnUmVEDIC ANUSVARAnOCALIC LvLuRvRmWAmYAfOMfPLACEHOLDER MARKfSANDHI MARKgIDDHIhGN A",
  "NUSVARAlVAGRAHAkCANDRABINDUkFINAL ANUSVARAkJIHVAMULIYAkNUKTAkUPADHMANIYAkVIRAMAmSARGAfVO",
  "WEL SIGN AArIrUqEqIrIqOqUrUqVOCALIC LzLyRzRdLINE LEFTiRIGHTdSPAPERcXT LINEfPAGEbIGHT WIT",
  "H STARScNJAbKO COMBINING DOUBLE DOT ABOVEoLONG DESCENDING TONEtHIGH TONEtLOW TONEtRISING",
  " TONEoNASALIZATION MARKoSHORT HIGH TONEuLOW TONEuRISING TONEhMAeDANTAYALANfIGIT EIGHTkFI",
  "VElOURkNINEkONEkSEVENlIXkTHREElWOkZEROfOROME SIGNeEXCLAMATION MARKeHIGH TONE APOSTROPHEe",
  "LAJANYALANfETTER AlBAlCHAlDAnGBASINNAlEmElFAlGBAlHAlIlJAmONA CHAqJAqRAlKAlLAlMAlNmAn WOL",
  "OSOmYAo WOLOSOlOmOlPAlRAmRAlSAlTAlUlWAlYAfOW TONE APOSTROPHEeSYMBOL GBAKURUNENlOO DENNEN",
  "eTAMAN SIGNbLbNBSPbO BICYCLESeREAK HEREdENTRYi SIGNdMOBILE PHONESdONE UNDER EIGHTEEN SYM",
  "BOLdPEDESTRIANSeIRACYdSMOKING SYMBOLc-BREAK SPACEcMINAL DIGIT SHAPESeSMA SIGNcN-BREAKING",
  " HYPHENePOTABLE WATER SYMBOLdFORKINGcRdDIC MARK SIGNdMAL SUBGROUP OFs OR EQUAL TOdTH EAS",
  "T AND SOUTH WEST ARROWmRROWq AND SOUTH EAST ARROWrCROSSING NORTH WEST ARROWbaSOUTH EAST ",
  "ARROWrWITH HOOKlBLACK ARROWlDOUBLE ARROWlPOINTING BUDuLEAFuVINE LEAFlSANS-SERIF ARROWlTR",
  "IANGLE-HEADED ARROWbg TO BARlWHITE ARROWgINDIC FRACTION ONE EIGHTHzHALFzQUARTERzSIXTEENT",
  "HvTHREE QUARTERSbbSIXTEENTHSmPLACEHOLDER MARKmQUANTITY MARKpRTER MARKmRUPEE MARKgWEST AN",
  "D SOUTH EAST ARROWmRROWq AND NORTH EAST ARROWrCROSSING NORTH EAST ARROWrTO CORNERuLONG B",
  "ARrWITH HOOKlBLACK ARROWlDOUBLE ARROWlPOINTING BUDuLEAFuVINE LEAFlSANS-SERIF ARROWlTRIAN",
  "GLE-HEADED ARROWbg TO BARlWHITE ARROWfEAST-POINTING AIRPLANEcSEcT A SUBSET OFiPERSET OFf",
  "LMOST EQUAL TOfN ELEMENT OFfSYMPTOTICALLY EQUAL TOeCHECK MARKeEQUAL TOhIVALENT TOeGREATE",
  "R-THANeIDENTICAL TOeLESS-THANeNORMAL SUBGROUP OFw OR EQUAL TOePARALLEL TOeSIGNfQUARE IMA",
  "GE OF OR EQUAL TOlORIGINAL OF OR EQUAL TOeTILDEfRUEdCHED LEFT SEMICIRCLE WITH THREE DOTS",
  "jOWER RIGHT-SHADOWED WHITE RIGHTWARDS ARROWiRIGHT SEMICIRCLE WITH THREE DOTSiUPPER RIGHT",
  "-SHADOWED WHITE RIGHTWARDS ARROWdEe PADhGEeBOOKi WITH DECORATIVE COVERbULdLcMBER EIGHTEE",
  "N FULL STOPiLEVEN FULL STOPhFIFTEEN FULL STOPiOURTEEN FULL STOPhNINETEEN FULL STOPhSEVEN",
  "TEEN FULL STOPiIGNjXTEEN FULL STOPhTEN FULL STOPiHIRTEEN FULL STOPiWELVE FULL STOPkNTY F",
  "ULL STOPdERO SIGNcSHU ITERATION MARKcT AND BOLTbYIAKENG PUACHUE HMONG CIRCLED CAxDIGIT E",
  "IGHTbdFIVEbeOURbdNINEbdONEbdSEVENbeIXbdTHREEbeWObdZEROxLETTER AbfAbeCAbeDAbfLAbeEbfEbeFA",
  "beGAbeHAbgHbeIbeKAbeLAbeMAbfLAbeNAbfCAbfKAbfPAbgLAbfQAbfRAbfTAbgSAbgXAbfYAbeObfObePAbfLA",
  "beQAbeRAbfRAbeSAbeTAbfSAbfXAbeUbeVAbeWbeXAbfYAbeYAbeZAyOGOGRAM NYAJxSIGN FOR ANIMALbgINV",
  "ERTEBRATEbgLOCATIONbgPERSONbgTHINGbcXW XWyYLLABLE LENGTHENERxTONE-BbcDbcGbcJbcMbcSbcVaOB",
  "JECT REPLACEMENT CHARACTERcLIQUE ANGLE OPENING DOWNwUPiHYPHENcSERVER EYE SYMBOLbCR AMOUN",
  "T OF CHECKeBELT BUCKLEfOW TIEfRANCH BANK IDENTIFICATIONeCHAIRfUSTOMER ACCOUNT NUMBEReDAS",
  "HfOUBLE BACKSLASHeFORKeHOOKeINVERTED FORKcTAGONAL SIGNdOPUSbDENbFFICE BUILDINGbGHAM FEAT",
  "HER MARKgLETTER AILMnBEITHnCEIRToOLLnDAIRnEABHADHpDHADHpMHANCHOLLnFEARNnGORTnIFINoODHADH",
  "nLUISnMUINnNGEADALoIONnONNoRnPEITHnRUISnSAILoTRAIFnTINNEnUATHoILLEANNoRgREVERSED FEATHER",
  " MARKgSPACE MARKcONEKbHM SIGNbIL DRUMbK HAND SIGNbL CHIKI AHADjDIGIT EIGHTpFIVEqOURpNINE",
  "pONEpSEVENqIXpTHREEqWOpZEROjGAAHLAA TTUDDAAGjLETTER AAJsKsMsWrGrLrNGrTqEDDrNrPrRRqIHrNYr",
  "RrSqLAsArErIrOrUqOBrHrTTrVqUCrDrNNrYjMU TTUDDAGl-GAAHLAA TTUDDAAGjPHAARKAAkUNCTUATION DO",
  "UBLE MUCAADvMUCAADjRELAAcD CHINESE HOOK MARKmITERATION MARKeHUNGARIAN CAPITAL LETTER Abe",
  "AbeKbeMBbeNDbdCLOSE EbdEbeBbeCbfHbfSbeDbeEbeFbeGbfYbeHbeJbeKbeLbfYbeMbfPbeNbfCbfTbg-SHAP",
  "ED SIGNbfYbePbeRbeSbfZbeTbfYbeVbeZbfSbdIbeIbdNIKOLSBURG OEboUEbdObeEEbeObdRUDIMENTA OEbn",
  "UEbdSHORT ERbdUbeNKbeSbeUoNUMBER FIFTYxVEvONEy HUNDREDzTHOUSANDvTENoSMALL LETTER AbcAbcK",
  "bcMBbcNDbbCLOSE EbbEbcBbcCbdHbdSbcDbcEbcFbcGbdYbcHbcJbcKbcLbdYbcMbdPbcNbdCbdTbe-SHAPED S",
  "IGNbdYbcPbcRbcSbdZbcTbdYbcVbcZbdSbbIbcIbbNIKOLSBURG OEbmUEbbObcEEbcObbRUDIMENTA OEblUEbb",
  "SHORT ERbbUbcNKbcSbcUeITALIC LETTER AsBEsCHEsDEsEtFtKStLtMtNtRuStSuHuSsHEsItIsKAtEtHEtUs",
  "NORTHERN TSEsOsPEtHEsSHEtOUTHERN TSEsTEtHEsUtUsVEsYEsZElNUMERAL FIFTYvVEtONEtTENeKEYeNOR",
  "TH ARABIAN LETTER AINbaLEFzBEHzDADbbLzES-1bc2bc3zFEHzGEEMbaHAINzHAHbaEHzKAFbaHAHzLAMzMEE",
  "MzNOONzQAFzREHzSADzTAHbaEHbaHALbbEHzWAWzYEHzZAHbbINsNUMBER ONEzTENbaWENTYePERMIC LETTER ",
  "ANsBURsCHERYsDOItZHOIuITAsEtFsGAIsHAsItAtEsKOKEsLEIsMENOEsNENOEsOtOsPEEIsREIsSHCHOOIuOOI",
  "tIIsTAItSIUsUsVERtOOIsYAuTtERvIvUtRYtUsZATAtHOIhSIAN NUMBER HUNDREDtONEtTENuWENTYvOmSIGN",
  " AsURAMAZDAAbb-2bbHArBAtGAsUUMISHrCArDAtHYAAUSHba-2sIsUrFArGAsUrHArIrJAsIrKAsUrLArMAsIsU",
  "rNAsUrPArRAsUrSAsHAsSArTAsHAsUrUrVAsIrXAsSHAAYATHIYArYArZAmWORD DIVIDERiONAL COMPUTEReSO",
  "GDIAN FRACTION ONE HALFmLETTER ALEPHvTERNATE AYINuYINtBETHtFINAL ALEPHzBETHzHEzNUNbc WIT",
  "H VERTICAL TAILzSADHEbe WITH VERTICAL TAILzTAWbc WITH VERTICAL TAILtGIMELtHEvTHtKAPHtLAM",
  "EDHtMEMtNUNtPEtRESH-AYIN-DALETHtSADHEvMEKHuHINtTAWtWAWtYODHtZAYINnIGATURE AYIN-DALETHmNU",
  "MBER FIVEuOURtONEw HUNDREDtTENuHIRTYvREEuWENTYvOgUTH ARABIAN LETTER ALEFbaYNzBETHzDALETH",
  "baHADHEbcLETHzFEzGHAYNbaIMELzHEbbTHzKAPHbaHETHzLAMEDHzMEMzNUNzQOPHzRESHzSADHEbbMEKHbbTba",
  "HINzTAWbaETHbaHAWbbETHzWAWzYODHzZAYNsNUMBER FIFTYzONEvERIC INDICATOReTURKIC LETTER ORKHO",
  "N AbaBbaDbaEBbbDbbGbbKbbLbbNbbRbbSbbTbbYbaGbaLbaNbaQbaRbaSbbHbaTbaYzBASHzECbaLTbaMbaNCbb",
  "GbbTbbYbaPbaSHbaZzIbaCbaQzObaEbbKbaPbaQbaTsYENISEI AbbBbbDbbEbcBbcGbcKbcNbdGbcTbcYbbGbbL",
  "bbNGbbQbbRbbSHbbTbbYbaEbbCbbNCbcTbcYbbSHbbZbaIbbQbaOEbcKbbQeUYGHUR COMBINING DOT ABOVEzB",
  "ELOWvTWO DOTS ABOVEbeBELOWlLETTER ALEPHsBETHsFINAL HETHsGIMEL-HETHsKAPHsLAMEDHtESHsMEMsN",
  "UNsPEsRESHsSADHEuMEKHtHINsTAWsWAWsYODHsZAYINlPUNCTUATION BARxFOUR DOTSxTWO BARSbbDOTSdER",
  " ADULTgMANgWOMANcIVEbM SYMBOLbN WITH EXCLAMATION MARK WITH LEFT RIGHT ARROW ABOVEcCOMING",
  " AUTOMOBILEjBUSjFIRE ENGINEjPOLICE CARjTAXIcE BUTTON MOUSEeDOT LEADERiOVER TWO DOTS PUNC",
  "TUATIONd-PIECE SWIMSUITcIONbPEN BOOKhXfCENTRE ASTERISKmBLACK STARmCROSSmTEARDROP-SPOKED ",
  "ASTERISKfFILE FOLDERgOLDERfHANDS SIGNfLOCKfMAILBOX WITH LOWERED FLAGsRAISED FLAGfSUBSETh",
  "PERSETe-CIRCUIT-OUTPUT H-TYPE SYMBOLuL-TYPE SYMBOLfOUTLINED RIGHTWARDS ARROWdRATING SYST",
  "EM COMMANDcHIUCHUScPOSITIONcTICAL DISCm ICONeON KEYbR WITH DOT INSIDEcANGE BOOKhHEARTfUT",
  "ANcIGINAL OFdYA AI LENGTH MARKhU LENGTH MARKgDIGIT EIGHTmFIVEnOURmNINEmONEmSEVENnIXmTHRE",
  "EnWOmZEROgFRACTION ONE EIGHTHtHALFtQUARTERtSIXTEENTHpTHREE QUARTERSvSIXTEENTHSgISSHARgLE",
  "TTER AoAoIoUnBAoHAnCAoHAnDAoDApHAoHAnEnGAoHAnHAnIoInJAoHAnKAoHAnLAoLAnMAnNAoGAoNAoYAnOnP",
  "AoHAnRAoHAoRAnSAoHAoSAnTAoHAoTApHAnUoUnVAoOCALIC LwLvRwRnWAnYAoYAgSIGN ANUSVARAmVAGRAHAl",
  "CANDRABINDUlNUKTAlOVERLINElVIRAMAnSARGAgVOWEL SIGN AAsIsUrErIsIrOrUsUrVOCALIC LbaLzRbaRc",
  "NATE LEFT PARENTHESIShRIGHT PARENTHESIScTHODOX CROSSbSAGE CAPITAL LETTER AwHwIxNvBRAvCHA",
  "vDHAvEwHCHAxKAxPAxTAySAwINvGHAvHAwYAvIvKAwHAwYAvLAvMAvNAvOwINvPAvSAwHAvTAwSAxHAvUvWAvZAw",
  "HAgSMALL LETTER AuHuIvNtBRAtCHAtDHAtEuHCHAvKAvPAvTAwSAuINtGHAtHAuYAtItKAuHAuYAtLAtMAtNAt",
  "OuINtPAtSAuHAtTAuSAvHAtUtWAtZAuHAcCcMANYA DIGIT EIGHToFIVEpOURoNINEoONEoSEVENpIXoTHREEpW",
  "OoZEROiLETTER AqAqLEFpBApCAYNpDEELqHApEqEpFApGApHApIpJApKAAFqHApLAANpMIINpNUUNpOqOpQAAFp",
  "RApSAqHIINpTApUpWAWpXApYAbTTERdOMAN SIYAQ ALTERNATE NUMBER EIGHTbfFIVEbgOURbj HUNDREDbfN",
  "INEbfSEVENbgIXbi HUNDREDbfTENbi THOUSANDbgHREEbgWObi THOUSANDoFRACTION ONE HALFbbSIXTHoM",
  "ARRATANoNUMBER EIGHTba HUNDREDbbTHOUSANDbaYbb THOUSANDvFIFTYba THOUSANDxVEz HUNDREDbaTHO",
  "USANDwORTYba THOUSANDxURz HUNDREDbaTHOUSANDvNINEz HUNDREDbaTHOUSANDzTYbb THOUSANDvONEy H",
  "UNDREDzTHOUSANDvSEVENba HUNDREDbbTHOUSANDbaTYbc THOUSANDwIXy HUNDREDzTHOUSANDyTYba THOUS",
  "ANDvTENy THOUSANDwHIRTYbb THOUSANDxREEba HUNDREDbbTHOUSANDwWENTYbb THOUSANDxOy HUNDREDzT",
  "HOUSANDbUNCE SIGNcTBOX TRAYdLINED BLACK STARjGREEK CROSSjLATIN CROSSjWHITE STARbVERHEATE",
  "D FACEeLAPhPING BLACK SQUARESmWHITE AND BLACK SQUARESsSQUARESfINEbWLbXbYSTERaPACKAGEcDdD",
  "ING CHARACTERcGEe FACING UPfWITH CIRCLED TEXTlURLeReSdODAcHAWH HMONG CLAN SIGN FAJxHAMzW",
  "JxKHAByOOyWMxLAUJyISxMUASxPHABxTHOJySABzHEEJzWBxVAJyWJxXYOOJxYAJyEEGoONSONANT AUxCAUyHAU",
  "xHAUyLAUyNAUxLAUxMAUxNAUyCHAUyKAUyLAUyTHAUzSAUxPLHAUxQHAUxRAUxVAUxXAUxYAUnDIGIT EIGHTtFI",
  "VEuOURtNINEtONEtSEVENuIXtTHREEuWOtZEROnMARK CIM HOMwKESxHAVwSOxUAMwTAUMxUBnNUMBER HUNDRE",
  "D MILLIONSbbSuMILLIONSuTEN BILLIONSyTHOUSANDSxSvRILLIONSnSIGN AVsCIM CHEEMxUAM TSHOOJwHA",
  "IS LUS NTOG NTOGwNRES TOSwPUB DAWBwTSOV ROGxXWVba CHWVsHLItNUBsIB YAMsLOSsMEEJ SUABxTSEE",
  "BtUSsNQIGtTUJsTAUtHIRD-STAGE HLItXHEEJ CEEVsVOS FEEMwLUBwNRUAwSEEVwTHIAByOMxSHAB CEEBsXA",
  "UStIABtYEEM FAIByNTXIVyRHOyTOVuOOsZWJ THAJnVOWEL KAABwVvBvIBwVvUBwVvVvWBwVuEBvEBwVvVuIAB",
  "wVvBvVuOBvOBwVvVuUABwVvBvVuWBvVcLLASdM BRANCHfDOWN HANDfTREEfUP HANDeS UP TOGETHEReYRENE",
  " LEFT-POINTING FLEURONmTTER ALEPHsYINrBETHrDALETHrFINAL NUNrGIMELrHEtTHrKAPHrLAMEDHrMEMr",
  "NUNrPErQOPHrRESHrSADHEtMEKHsHINrTAWsETHrWAWrYODHrZAYINkNUMBER FIVEsOURrONErTENsHREEsWENT",
  "YtOkRIGHT-POINTING FLEURONcNCAKESdDA FACEcPERCLIPcRACHUTEeGRAPH SEPARATORjOSjUS MARKeLLE",
  "L TOjWITH HORIZONTAL STROKEoTILDE OPERATORdENTHESIZED DIGIT EIGHTuFIVEvOURuNINEuONEuSEVE",
  "NvIXuTHREEvWOoHANGUL CHIEUCHbc AwIEUCba AbbUvHIEUHba AvIEUNGba AvKHIEUKHbc AwIYEOKbb AvM",
  "IEUMba AvNIEUNba AvPHIEUPHbc AwIEUPba AvRIEULba AvSIOSz AvTHIEUTHbc AwIKEUTbb AoIDEOGRAP",
  "H ALLIANCEyCALLzONGRATULATIONyEARTHzIGHTzNTERPRISEyFESTIVALzINANCIALbaREbaVEzOURyHAVEyLA",
  "BORyMETALzOONyNAMEzINEyONEyREACHbaPRESENTbaSOURCEbbTySELFbaVENzIXzOCIETYzPECIALzTOCKbaUD",
  "YzUNbaPERVISEyTENzHREEzWOyWATERzOODoKOREAN CHARACTER O HUbgJEONoLATIN CAPITAL LETTER Abj",
  "BbjCbjDbjEbjFbjGbjHbjIbjJbjKbjLbjMbjNbjObjPbjQbjRbjSbjTbjUbjVbjWbjXbjYbjZuSMALL LETTER A",
  "bhBbhCbhDbhEbhFbhGbhHbhIbhJbhKbhLbhMbhNbhObhPbhQbhRbhSbhTbhUbhVbhWbhXbhYbhZoNUMBER EIGHT",
  "EENwLEVENvFIFTEENwOURTEENvNINETEENvSEVENTEENwIXTEENvTENwHIRTEENwWELVEyNTYdROTdT ALTERNAT",
  "ION MARKeIAL DIFFERENTIALiLINE BACKWARDnDOWNnFORWARDnUPhLY-RECYCLED PAPER SYMBOLeNERSHIP",
  " SIGNeY POPPERcSSED SYMBOLfNGER SHIPeIVE-PULL-DOWN-OUTPUT SYMBOLnUP-OUTPUT SYMBOLePORT C",
  "ONTROLcU CIN HAU GLOTTAL STOPy FINALzVARIANTmLETTER AtBAtCAuHAtDAtEtFAuINAL KzLzMzNbaGzP",
  "zTzWzYtGAtHAtIuAtKAuHAtLAtMAtNAuGAtOtPAuHAtRAtSAtTAuHAtUuAtVAtZAnOW-FALLING TONEbc FINAL",
  "bdLONGbh FINALmMID-LEVEL TONEba FINALbbLONG FINALmRISING TONEx FINALyLONGbc FINALmSANDHI",
  " GLOTTAL STOPbf FINALtTONEx FINALyLONGbc FINALcW PRINTSbDFcIbEACE SYMBOLeHeOCKdNUTSdRcDE",
  "STRIANcN OVER STAMPED ENVELOPEdCILdGUINdSIVE FACEdTAGRAMcOPLE HUGGINGcR MILLE SIGNeSIGNe",
  "TEN THOUSAND SIGNdCENT SIGNdFORMING ARTSdMANENT PAPER SIGNdPENDICULARn WITH SdSEVERING F",
  "ACEeON BOWING DEEPLYhCLIMBINGhDOING CARTWHEELhFROWNINGhIN LOTUS POSITIONkSTEAMY ROOMhRAI",
  "SING BOTH HANDS IN CELEBRATIONhWITH BALLnLOND HAIRmCROWNmFOLDED HANDSmHEADSCARFmPOUTING ",
  "FACEgAL COMPUTERePECTIVEcSETA SIGNdO SIGNcTRI DISHbHAGS-PA DOUBLE HEAD MARKjLETTER ArLTE",
  "RNATE YArSPIRATED FAqBAqCAsNDRABINDUrHAqDArDArZAqErEqFAqGArGAqHAqIqJAqKArHAqLAqMAqNArGAr",
  "NArYAqOqPArHAqQAqRAqSArHArMALL AqTArHArSAsHArTAsHAqUqVOICED HAvLESS SHAqWAqXAqYAqZArHAjM",
  "ARK DOUBLE SHADoSHADjSINGLE HEAD MARKkUBJOINED LETTER RAbaWAbaYAlPERFIXED LETTER RAdISTO",
  "S DISC SIGN ARROWtBEEwHIVEuOOMERANGvWuULLS LEGtCAPTIVEvRPENTRY PLANEvTuHILDuLUBuOLUMNvMB",
  "xINING OBLIQUE STROKEtDOLIUMvVEtEAGLEtFLUTEtGAUNTLETuRATERtHELMETuIDEuORNtLIDvLYtMANACLE",
  "SvTTOCKtOX BACKtPAPYRUSuEDESTRIANuLANE TREEvUMED HEADtRAMuOSETTEtSAWuHIELDwPuLINGuMALL A",
  "XEuTRAINERtTATTOOED HEADuIARAuUNNYtVINEtWAVY BANDuOMANcILIPPINE DOUBLE PUNCTUATIONlSINGL",
  "E PUNCTUATIONcOENICIAN LETTER AINtLFsBETsDELTsGAMLsHEuTsKAFsLAMDsMEMsNUNsPEsQOFsROSHsSAD",
  "EtEMKtHINsTAUtETsWAUsYODsZAIlNUMBER ONEv HUNDREDsTENtHREEtWENTYuOlWORD SEPARATORdLUSbICK",
  "eUP TRUCKcEcGd FACEeNOSEcLCROW SIGNdE OF POOdLcNATAdCHED FINGERSfING HANDdE DECORATIONeA",
  "PPLEdWHEEL STARcSCESdTOLcTCHFORKj WITH TEE TOPbLACARDeE OF INTEREST SIGNjWORSHIPdNCK CON",
  "STANTp OVER TWO PIdYGROUND SLIDEeING CARD ACE OF CLUBSuDIAMONDSuHEARTSuSPADESnBACKoLACK ",
  "JOKERnEIGHT OF CLUBSwDIAMONDSwHEARTSwSPADESnFIVE OF CLUBSvDIAMONDSvHEARTSvSPADESoOOLpUR ",
  "OF CLUBSvDIAMONDSvHEARTSvSPADESnJACK OF CLUBSvDIAMONDSvHEARTSvSPADESnKING OF CLUBSvDIAMO",
  "NDSvHEARTSvSPADESoNIGHT OF CLUBSxDIAMONDSxHEARTSxSPADESnNINE OF CLUBSvDIAMONDSvHEARTSvSP",
  "ADESnQUEEN OF CLUBSwDIAMONDSwHEARTSwSPADESnRED JOKERnSEVEN OF CLUBSwDIAMONDSwHEARTSwSPAD",
  "ESoIX OF CLUBSuDIAMONDSuHEARTSuSPADESnTEN OF CLUBSuDIAMONDSuHEARTSuSPADESoHREE OF CLUBSw",
  "DIAMONDSwHEARTSwSPADESoRUMP-1u0u1u2u3u4u5u6u7u8u9t2u0u1t3t4t5t6t7t8t9oWO OF CLUBSuDIAMON",
  "DSuHEARTSuSPADESnWHITE JOKERcDcUdNGERdS SIGNj ABOVE EQUALS SIGNkIN LEFT HALF CIRCLEnRIGH",
  "T HALF CIRCLEnTRIANGLEkWITH BLACK TRIANGLEpCIRCUMFLEX ACCENT ABOVEpDOT BELOWpSMALL CIRCL",
  "E ABOVEqUBSCRIPT TWOpTILDE ABOVEvBELOWe-MINUS SIGNdTOf FORM FIVEmOURlTHREEmWObMbOCKET CA",
  "LCULATORcLICE CARkS REVOLVING LIGHThOFFICERcODLEcP DIRECTIONAL FORMATTINGqISOLATEdCORNcR",
  "TABLE STEREOcSEIDONdITION INDICATORdTAL HORNhMARKl FACEeBOXcT OF FOODdABLE WATER SYMBOLe",
  "TOdTED PLANTcUCHdLTRY LEGdND SIGNdRING LIQUIDdTING CAT FACEiFACEcWER ON SYMBOLi-OFF SYMB",
  "OLgSLEEP SYMBOLhYMBOLbRAYER BEADScECEDESi ABOVE ALMOST EQUAL TOpEQUALS SIGNpNOT ALMOST E",
  "QUAL TOtEQUAL TOpSINGLE-LINE EQUALS SIGNbbNOT EQUAL TOjBUT NOT EQUIVALENT TOjOR EQUAL TO",
  "pIVALENT TOjUNDER RELATIONdGNANT MANjPERSONjWOMANdSCRIPTION TAKEeENTATION FORM FOR VERTI",
  "CAL COLONbhMMAbfEM DASHbgN DASHbgXCLAMATION MARKbfHORIZONTAL ELLIPSISbfIDEOGRAPHIC COMMA",
  "brFULL STOPbfLEFT ANGLE BRACKETbkBLACK LENTICULAR BRACKETbkCORNER BRACKETblURLY BRACKETb",
  "kDOUBLE ANGLE BRACKETbkPARENTHESISbkSQUARE BRACKETbkTORTOISE SHELL BRACKETbkWHITE CORNER",
  " BRACKETbqLENTICULAR BRACKETbgOW LINEbfQUESTION MARKbfRIGHT ANGLE BRACKETblBLACK LENTICU",
  "LAR BRACKETblCORNER BRACKETbmURLY BRACKETblDOUBLE ANGLE BRACKETblPARENTHESISblSQUARE BRA",
  "CKETblTORTOISE SHELL BRACKETblWHITE CORNER BRACKETbrLENTICULAR BRACKETcfKCETbfSEMICOLONb",
  "fTWO DOT LEADERbfWAVY LOW LINEdTZELdVIOUS PAGEcIMEdNCEgSSeT SCREEN SYMBOLfERh ICONdVACY ",
  "MESSAGEfTE USE ONEmTWOl-1m2cOBING CANEdHIBITED SIGNdJECTIVEdPERTY LINEeORTIONkAL TOdSERP",
  "INAbSALTER PAHLAVI FOUR DOTS WITH CROSSbfDOTqLETTER ALEPHxBETHxDALETHxGIMELxHEzTHxKAPHxL",
  "AMEDHxMEM-QOPHxNUNxPExSADHEzMEKHyHINxTAWxWAW-AYIN-RESHxYODHxZAYINqNUMBER FOURxONEba HUND",
  "REDxTENyHREEyWENTYzOqSECTION MARKqTURNED SECTION MARKbU1c2cBLIC ADDRESS LOUDSPEAKERcNCTU",
  "ATION SPACEgS ELEVATUS MARKcRPLE HEARTdSEcSHPINcT LITTER IN ITS PLACE SYMBOLaQUADRANT LO",
  "WER LEFTpRIGHTjUPPER LEFTt AND LOWER LEFT AND LOWER RIGHTbeRIGHTyUPPER RIGHT AND LOWER L",
  "EFTbuRIGHTpRIGHTu AND LOWER LEFTbj AND LOWER RIGHTfUPLE INTEGRAL OPERATORkPRIMEdRTER NOT",
  "EdTERNION INTEGRAL OPERATORcESTION EXCLAMATION MARKjMARKiED EQUAL TOcINCUNXcOTATION MARK",
  "aRABBITg FACEcCCOONdING CARhMOTORCYCLEcDICAL SYMBOL BOTTOMeOf BUTTONfACTIVE SIGNcILWAY C",
  "ARiTRACKdNeBOWdSED BACK OF HANDhCOMMAhDOTkTED INTERPOLATION MARKERhFISThHANDl WITH FINGE",
  "RS SPLAYEDrPART BETWEEN MIDDLE AND RING FINGERShINTERPOLATION MARKERhMC SIGNiD SIGNiR SI",
  "GNhSQUAREcMcTdIOcZORbECEIPTdORD SEPARATORdREATIONAL VEHICLEdYCLED PAPER SYMBOLgING SYMBO",
  "L FOR GENERIC MATERIALSvTYPE-1 PLASTICSba2 PLASTICSba3 PLASTICSba4 PLASTICSba5 PLASTICSb",
  "a6 PLASTICSba7 PLASTICScD APPLEeGIFT ENVELOPEcFERENCE MARKcGIONAL INDICATOR SYMBOL LETTE",
  "R AbhBbhCbhDbhEbhFbhGbhHbhIbhJbhKbhLbhMbhNbhObhPbhQbhRbhSbhTbhUbhVbhWbhXbhYbhZeSTERED SI",
  "GNcJANG CONSONANT SIGN HwNxGwRhLETTER AoBAoCAoDAoGAoHAoJAoKAoLAoMApBAoNApDApGAqGApYAqJAo",
  "PAoRAoSAoTAoWAoYAhSECTION MARKhVIRAMAiOWEL SIGN AItUsEtAtUsIsOsUcLIEVED FACEcMINDER RIBB",
  "ONcPLACEMENT CHARACTERcSPONSEdTRICTED LEFT ENTRY-1w2fOOMcTURN LEFThRIGHThSYMBOLcVERSE CH",
  "ECKER BOARDiINDEXiLIGHT FOUR POINTED PINWHEEL STARkNE FEEDiSOLIDUSp OPERATORqPRECEDING S",
  "UBSETqWITH HORIZONTAL STROKEiTILDE OPERATOR ABOVE LEFTWARDS ARROWbdRIGHTWARDS ARROWhD AN",
  "GLEo WITH UNDERBARjCOMMAjDOUBLE PRIMEv QUOTATION MARKqSTROKE NOT SIGNjEMPTY SETjFORKED P",
  "ARAGRAPHOSjHAND WITH MIDDLE FINGER EXTENDEDjNOT SIGNjPILCROW SIGNkRIMEjQUESTION MARKjRAI",
  "SED HAND WITH FINGERS SPLAYEDkIGHT ANGLEkOTATED FLORAL HEART BULLETjSANS-SERIF CAPITAL L",
  "kEMICOLONjTHUMBS DOWN SIGNqUP SIGNkILDEo EQUALSkRIPLE PRIMEjVICTORY HANDdOLVING HEARTSbH",
  "INOCEROSbIcAL SIGNcBBONg ARROW DOWN LEFTsRIGHTnLEFT DOWNsUPnRIGHT DOWNtUPnUP LEFTqRIGHTc",
  "CE BALLfCRACKERcFLEcGHT AND LOWER ONE EIGHTH BLOCKkUPPER ONE EIGHTH BLOCKiGER BUBBLEjLEl",
  " BRACKETt WITH DOTmDOTTED SUBSTITUTION MARKERmSUBSTITUTION MARKERmVARIANT WITH SQUAREmWI",
  "TH ARCrDOWNWARDS ZIGZAG ARROWhRC GREATER-THAN BRACKETiROW WITH CIRCLED PLUSrSMALL CIRCLE",
  "gBLACK LENTICULAR BRACKETmTORTOISE SHELL BRACKETgCEILINGhORNER BRACKEThURLY BRACKETt LOW",
  "ER HOOKuMIDDLE PIECEuUPPER HOOKgDOTTED SUBSTITUTION BRACKETiUBLE ANGLE BRACKEToRROW WITH",
  " ROUNDED HEADnPARENTHESISnQUOTATION MARKnWIGGLY FENCEgFISH TAILiVE EIGHTHS BLOCKhLOORgHA",
  "LF BLACK CIRCLErSTARnOCKlFOLDERlMEDIUM SHADElRUNNING MANiND TELEPHONE RECEIVERgLOW PARAP",
  "HRASE BRACKETgNORMAL FACTOR SEMIDIRECT PRODUCTgONE EIGHTH BLOCKkQUARTER BLOCKhPEN SQUARE",
  "D DOThUTER JOINgPARENTHESISr EXTENSIONsLOWER HOOKsUPPER HOOKgRAISED OMISSION BRACKETgS-S",
  "HAPED BAG DELIMITERhEMIDIRECT PRODUCTiVEN EIGHTHS BLOCKhIDEWAYS U BRACKETiNGLE QUOTATION",
  " MARKhPEAKERn WITH ONE SOUND WAVEtTHREE SOUND WAVESjECH BUBBLEhQUARE BRACKETu EXTENSIONv",
  "LOWER CORNERvUPPER CORNERvWITH DOUBLE STROKEbaQUILLbaSTROKEbaTICK IN BOTTOM CORNERbiTOP ",
  "CORNERbaUNDERBARhUBSTITUTION BRACKETgTACKhHIRD WHITE RIGHT POINTING INDEXiOUGHT BUBBLEiR",
  "EE EIGHTHS BLOCKmQUARTERS BLOCKhORTOISE SHELL BRACKEThRANSPOSITION BRACKETiIANGLEo ABOVE",
  " LEFT TRIANGLEmULAR ONE QUARTER BLOCKgVERTICAL BAR WITH QUILLqOX LINEgWHITE CORNER BRACK",
  "ETnURLY BRACKETmLENTICULAR BRACKETmPARENTHESISmSQUARE BRACKETmTORTOISE SHELL BRACKEThIGG",
  "LY FENCEf-FACING ARMENIAN ETERNITY SIGNnFISTnSVASTI SIGNy WITH DOTSgHANDED INTERLACED PE",
  "NTAGRAMgPOINTING ANGLE BRACKETpCURVED ANGLE BRACKETpDOUBLE ANGLE QUOTATION MARKpMAGNIFYI",
  "NG GLASSgSHADED WHITE RIGHTWARDS ARROWhIDE ARC CLOCKWISE ARROWgTO-LEFT EMBEDDINGoISOLATE",
  "oMARKoOVERRIDEfHAND INTERIOR PRODUCTfWARDS ARROWq ABOVE ALMOST EQUAL TOxREVERSE ALMOST E",
  "QUAL TObfTILDE OPERATORxSHORT LEFTWARDS ARROWxTILDE OPERATORsND UPPER AND LOWER ONE EIGH",
  "TH BLOCKrFROM BARz TO BLACK DIAMONDrOVER LEFTWARDS ARROWrTHROUGH GREATER-THANzSUPERSETzX",
  "sO BARvLACK DIAMONDrWITH CORNER DOWNWARDSwDOTTED STEMyUBLE VERTICAL STROKEwEQUILATERAL A",
  "RROWHEADwHOOKwLARGE TRIANGLE ARROWHEADxOOPwMEDIUM TRIANGLE ARROWHEADwNOTCHED TAILwPLUS B",
  "ELOWwSMALL EQUILATERAL ARROWHEADbcTRIANGLE ARROWHEADxTROKEwTAILba WITH DOUBLE VERTICAL S",
  "TROKEbgVERTICAL STROKExIP DOWNWARDSbaUPWARDSwVERTICAL STROKEq-TAILlBACK-TILTED SHADOWED ",
  "WHITE ARROWmLACK ARROWrCIRCLED WHITE ARROWmOTTOM SHADED WHITE ARROWlCOMPRESSED ARROWlDAS",
  "HED ARROWmOUBLE ARROWx FROM BARyWITH STROKEbdVERTICAL STROKEx-TAILsDASH ARROWlFINGER-POS",
  "T ARROWmRONT-TILTED SHADOWED WHITE ARROWlHANDnRPOON OVER LEFTWARDS HARPOONtWITH BARB DOW",
  "N ABOVE LEFTWARDS HARPOON WITH BARB DOWNbiBELOW LONG DASHbiFROM BARbiTO BARbhWARDSbdUP A",
  "BOVE LEFTWARDS HARPOON WITH BARB UPbnONG DASHbmRIGHTWARDS HARPOON WITH BARB DOWNbgFROM B",
  "ARbgTO BARbfWARDSmEAVY ARROWrCOMPRESSED ARROWlLEFT-SHADED WHITE ARROWlOPEN-HEADED ARROWl",
  "PAIRED ARROWSlQUADRUPLE ARROWlRIGHT-SHADED WHITE ARROWmOCKETlSANS-SERIF ARROWmQUARED ARR",
  "OWoIGGLE ARROWlTOP SHADED WHITE ARROWmRIANGLE ARROWHEADt-HEADED ARROWbg OVER LEFTWARDS T",
  "RIANGLE-HEADED ARROWbhTO BARbhWITH BOLD SHAFTbmDOUBLE HORIZONTAL STROKEbtVERTICAL STROKE",
  "bmHEAVY SHAFTbmLONG TIP DOWNWARDSbvUPWARDSbmMEDIUM SHAFTbmNARROW SHAFTbmVERY HEAVY SHAFT",
  "bbDASHED ARROWbbPAIRED ARROWSoPLE ARROWsDASH ARROWmWO HEADED ARROWo-HEADED ARROW FROM BA",
  "RbcWITH DOUBLE VERTICAL STROKEbhTAILbl WITH DOUBLE VERTICAL STROKEbrVERTICAL STROKEbiRIA",
  "NGLE ARROWHEADSbhVERTICAL STROKEwTRIPLE DASH ARROWlWAVE ARROWmHITE ARROWw FROM WALLxWITH",
  "IN TRIANGLE ARROWHEADcNGe ABOVEfBUOYfEQUAL TOfIN EQUAL TOfOPERATORfPOINTeED PLANETeING B",
  "ELLcSING DIAGONAL CROSSING FALLING DIAGONALzSOUTH EAST ARROWbLEcIcMcObOASTED SWEET POTAT",
  "OcBOT FACEcCKeETcLL OF PAPEReED-UP NEWSPAPERfR COASTERhSKATEeING ON THE FLOOR LAUGHINGcM",
  "AN AS SIGNgCENTURIAL SIGNgDENARIUS SIGNhIMIDIA SEXTULA SIGNhUPONDIUS SIGNgNUMERAL EIGHTp",
  "LEVENoFIFTYt EARLY FORMuTHOUSANDqVEs HUNDREDtTHOUSANDpOURoNINEoONEr HUNDREDz THOUSANDsTH",
  "OUSANDba C DoREVERSED ONE HUNDREDoSEVENpIXr LATE FORMoTENr THOUSANDpHREEpWELVEqOgQUINARI",
  "US SIGNgSEMUNCIA SIGNiSTERTIUS SIGNiXTANS SIGNkULA SIGNhILIQUA SIGNgUNCIA SIGNcOSTERcSEe",
  "TTEcTATED CAPITAL QiFLORAL HEART BULLETiHEAVY BLACK HEART BULLETiLIGHT FOUR POINTED BLAC",
  "K CUSPiWHITE FOUR POINTED CUSPcUND PUSHPINgTARGETfED SYMBOL FOR CAItFUtLUtSHOUvUANGXItXI",
  "cWBOATbSbUBLE SIGNcGBY FOOTBALLcLE-DELAYEDcMI DIGIT EIGHTlFIVEmOURlNINElONElSEVENmIXlTHR",
  "EEmWOfFRACTION ONE HALFsQUARTERsTHIRDoTWO THIRDSfNUMBER EIGHT HUNDREDrYmFIFTYoVE HUNDRED",
  "nORTYoUR HUNDREDmNINE HUNDREDqTYmONE HUNDREDmSEVEN HUNDREDrTYnIX HUNDREDpTYmTENnHIRTYoRE",
  "E HUNDREDnWENTYoO HUNDREDcNIC ARLAUG SYMBOLgBELGTHOR SYMBOLgCROSS PUNCTUATIONgLETTER AC ",
  "AoESCoLGIZ EOLHXoNSUZ AnBERKANAN BEORC BJARKAN BnCoALCoEALCpNoWEORTHnDoAGAZ DAEG DoOTTED",
  "-LuNuPnEoARoHWAZ EH EoNGoTHnFEHU FEOH FE FoRANKS CASKET ACbcESCbbEHbbISbbOSnGoARoEBO GYF",
  "U GpRnHAEGL HpGLAZ HnICELANDIC-YRoNGqWAZoORoSAZ IS ISS IoWAZ EOHnJERAN JnKoAUN KrAnLAUKA",
  "Z LAGU LOGR LoONG-BRANCH-AR AEzHAGALL HzMADR MzOSS OzYRnMANNAZ MAN MnNAUDIZ NYD NAUD NnO",
  "oEoNoOoPEN-PoS OoTHALAN ETHEL OnPERTHO PEORTH PnQnRAIDO RAD REID RnSHpORT-TWIG-AR AyBJAR",
  "KAN ByHAGALL HyMADR MyNAUD NyOSS OySOL SyTYR TyYRoIGEL LONG-BRANCH-SOL SoOWILO SoTANnTHU",
  "RISAZ THURS THORNoIWAZ TIR TYR TnURUZ UR UnVnWoUNJO WYNN WnXnYoRnZgMULTIPLE PUNCTUATIONg",
  "SINGLE PUNCTUATIONgTVIMADUR SYMBOLdNEReING SHIRT WITH SASHcPEE SIGNcSSIAN ASTROLOGICAL S",
  "YMBOL BINOVILEbcNOVILEbcQUINTILEbcSENTAGONbcTREDECILEbcVIGINTILEaS IN TRIANGLEbAFETY PIN",
  "hVESTcGITTARIUScILBOATcKE BOTTLE AND CUPcLT SHAKEReIREdUTING FACEcMARITAN ABBREVIATION M",
  "ARKkLETTER ALAFrBAAsITrDALATrFIrGAMANrINsTsYrKAAFrLABATrMIMrNUNrQUFrRISHrSHANsINGAATrTAA",
  "FsITsSAADIYrYUTrZENkMARK DAGESHpEPENTHETIC YUTpINr-ALAFpNEQUDAApOCCLUSIONlODIFIER LETTER",
  " EPENTHETIC YUTbaIbaSHORT AkPUNCTUATION AFSAAQxNGEDyNAAUxRKAANUxTMAAUwBAUwMELODIC QITSAw",
  "NEQUDAAwQITSAwSHIYYAALAAxOF MASHFAATwTURUwZAEFxIQAAkVOWEL SIGN AwAvEvIvLONG AbbAbaEbaIba",
  "UvOwVERLONG AbfAvSHORT AwUKUNvUcNDWICHdS-SERIF HEAVY DOUBLE COMMA QUOTATION MARK ORNAMEN",
  "TyTURNED COMMA QUOTATION MARK ORNAMENTrLOW DOUBLE COMMA QUOTATION MARK ORNAMENTlINTERROB",
  "ANG ORNAMENTcRIcTELLITEj ANTENNAdURNcURASHTRA CONSONANT SIGN HAARUlDANDAmIGIT EIGHTrFIVE",
  "sOURrNINErONErSEVENsIXrTHREEsWOrZEROmOUBLE DANDAlLETTER AtAtItUsBAtHAsCAtHAsDAtDAuHAtHAs",
  "EtEsGAtHAsHAsItIsJAtHAsKAtHAsLAtLAsMAsNAtGAtNAtYAsOtOsPAtHAsRAsSAtHAtSAsTAtHAtTAuHAsUtUs",
  "VAtOCALIC LbbLbaRbbRsYAlSIGN ANUSVARAqCANDRABINDUqVIRAMAsSARGAlVOWEL SIGN AAxIxUwExEwIxI",
  "wOxOwUxUwVOCALIC LbfLbeRbfReOPODcXOPHONEbCALESdRFcHOOLg SATCHELcIcOOTERdRPIONgUScREENeWD",
  "RIVERdIPT CAPITAL BpEpFpHpIpLpMpPpRhLIGATURE ET ORNAMENThSMALL EnGnLnOdOLLdUPLEbEALdTcCO",
  "ND PLACE MEDALdTION SIGNeORcDNAcE-NO-EVIL MONKEYdDLINGcGMENThED DIGIT EIGHTqFIVErOURqNIN",
  "EqONEqSEVENrIXqTHREErWOqZEROcLFIEcMICOLONeDIRECT PRODUCT WITH BOTTOM CLOSEDeSEXTILEcPARA",
  "TED SYMBOLcRIOUS FACE WITH SYMBOLS COVERING MOUTHdVICE MARKcSAME DOTdQUIQUADRATEcT MINUS",
  "eTRANSMIT STATEcWING NEEDLEcXTILEbGCbHADOWED WHITE CIRCLEpLATIN CROSSpSTARdLLOW PAN OF F",
  "OODdMROCKdRADA ABBREVIATION SIGNiCONTINUATION SIGNiDANDAjIGIT EIGHToFIVEpOURoNINEoONEoSE",
  "VENpIXoTHREEpWOoZEROjOUBLE DANDAiEKAMjXTRA SHORT VOWEL MARKiHEADSTROKEiLETTER AqAqIqUpBA",
  "qHApCAqHApDAqDArHAqHApEpGAqHApHApIqIpJAqHApKAqHApLAqLApMApNAqGAqNAqYApOpPAqHApRApSAqHAqS",
  "ApTAqHAqTArHApUqUpVAqOCALIC LyLxRyRpYAiOMiSANDHI MARKjECTION MARK-1v2kPARATORjIGN ANUSVA",
  "RAoVAGRAHAnCANDRABINDUnINVERTED CANDRABINDUnJIHVAMULIYAnNUKTAnSIDDHAMnUPADHMANIYAnVIRAMA",
  "pSARGAjUTRA MARKiVOWEL MODIFIER MARKoSIGN AAuIuUtEtIuItOtPRISHTHAMATRA EtUuUtVOCALIC Lbc",
  "LbbRbcReKdVED ICEeIAN LETTER ADOqGEqHqIRqRErRAYqSHqWEpBIBpCHURCHpDEADpEARrTqGGqRRpFEEpGA",
  "GpHA-HAqUNGpIANqCEqFpJUDGEpKICKpLOLLpMEASUREqIMEpNUNpOAKqILqNqOZEqRqUTpPEEPpROARpSOqUREp",
  "THEYrIGHqOTpUPpVOWpWOErOLpYEArWpZOOcEEPcIELDdFT INgOUTdNTO SHRINEdPcOCKED FACE WITH EXPL",
  "ODING HEADdOTING STARdPPING BAGSjTROLLEYdRT BACKSLANTED SOUTH ARROWhENT ARROW POINTING D",
  "OWNWARDS THEN NORTH EASTgDOWN TACKp WITH OVERBARgLEFT TACKgRIGHTWARDS ARROW ABOVE LEFTWA",
  "RDS ARROWgSLANTED NORTH ARROWgUP TACKn ABOVE SHORT DOWN TACKoWITH UNDERBARfCAKEfHAND FOR",
  "MAT CONTINUING OVERLAPrDOWN STEPrLETTER OVERLAPrUP STEPfSdULDERED OPEN BOXdWERcRIMPdUGcU",
  "FFLE PRODUCTcYbIcDDHAM DANDAjOUBLE DANDAiEND OF TEXT MARKiLETTER AqAqIqLTERNATE UqUpBAqH",
  "ApCAqHApDAqDArHAqHApEpGAqHApHApIqIpJAqHApKAqHApLApMApNAqGAqNAqYApOpPAqHApRApSAqHAqSApTAq",
  "HArREE-CIRCLE ALTERNATE IqTArHAqWO-CIRCLE ALTERNATE IblIpUqUpVAqOCALIC LyLxRyRpYAiREPETI",
  "TION MARK-1y2y3iSECTION MARK DOUBLE RINGbg WITH RAYSvWITH CIRCLES AND FOUR ENCLOSURESbmR",
  "AYSbmTWO ENCLOSURESbaDOUBLE CRESCENTSbaQUADRUPLE CRESCENTSbaRAYS AND DOTTED CRESCENTSbqD",
  "OUBLE CRESCENTSbqTRIPLE CRESCENTSbaSEPTUPLE CRESCENTSbaTRIDENT AND DOTTED CRESCENTSbmU-S",
  "HAPED ORNAMENTSbdPLE CRESCENTSkPARATOR BARsDOTjIGN ANUSVARAnCANDRABINDUnNUKTAnSIDDHAMnVI",
  "RAMApSARGAiVOWEL SIGN AAuIuLTERNATE UbeUuUtEtIuItOtUuUtVOCALIC RbcRdEWAYS BLACK DOWN POI",
  "NTING INDEXpLEFT POINTING INDEXpRIGHT POINTING INDEXpUP POINTING INDEXjWHITE DOWN POINTI",
  "NG INDEXpLEFT POINTING INDEXpRIGHT POINTING INDEXpUP POINTING INDEXcGN OF THE HORNSeWRIT",
  "ING AIR BLOW SMALL ROTATIONSuING OUTqSUCK SMALL ROTATIONSuING INmBREATH EXHALEtINHALEoUS",
  "H BETWEENsMULTIPLEsSINGLEmCHEEKS NEUTRALtPUFFEDtSUCKEDnOLONoMMAmDREAMY EYEBROWS DOWN NEU",
  "TRALbcNEUTRAL DOWNbkUPbcUP NEUTRALnYNAMIC ARROWHEAD LARGEbeSMALLuEVERY OTHER TIMEuFASTuG",
  "RADUALuRELAXEDuSIMULTANEOUSbg ALTERNATINGvLOWuTENSEmEARSnXCITEMENTnYE BLINK MULTIPLEwSIN",
  "GLEqWINKpBROWS STRAIGHT DOWNbeNEUTRALbeUPpGAZE-FLOORPLANE CURVEDbfSTRAIGHTbn ALTERNATING",
  "boDOUBLEuWALLPLANE CIRCLINGbfURVEDbeSTRAIGHTbm ALTERNATINGbnDOUBLEpLASHES DOWNwFLUTTERIN",
  "GwUPpS CLOSEDrHALF CLOSEDwOPENrOPENrSQUEEZEDrWIDE OPENvNING MOVEMENTmFACE DIRECTION POSI",
  "TION NOSE FORWARD TILTINGbpUP OR DOWNbz TILTINGnILL MODIFIER-2ba3ba4ba5ba6oNGERnLICK LAR",
  "GE MULTIPLEySINGLEsSEQUENTIALtMALL MULTIPLEySINGLEoOORPLANE SHOULDER HIP MOVEnOREHEAD CO",
  "NTACTvNEUTRALvWRINKLEDnULL STOPmGRASP BETWEENsMULTIPLEsSINGLEmHAIRoND-ANGLEw INDEXbc MID",
  "DLE LITTLEbkRINGbdRING LITTLEbo OUTbdTHUMBbi INbjOUTxLITTLE INDEXbj THUMB INDEX THUMBcb ",
  "OUTbeUPxMIDDLE RING LITTLEbp INbqOUTxRING DOWN MIDDLE THUMB INDEX CROSSbcLITTLErCIRCLEx ",
  "INDEXbd BENTbeHINGEbeMIDDLEbk CROSS LITTLEbqEDblLITTLEblRINGblTHUMBbeRING LITTLEyLITTLE ",
  "INDEXbfUPyMIDDLE RING LITTLEbq BENTbfUPyRING LITTLEsLAWv FOUR FINGERS CONJOINEDwINDEX TH",
  "UMB CURVE THUMB INSIDEwMIDDLE RING LITTLE CONJOINEDby SIDEwNO THUMBwTHUMB FORWARDbcSIDEs",
  "UPu FIVE FINGERS SPREADbo OPENvINDEXba RING LITTLEbbTHUMBbg OPENvMIDDLE RING LITTLEvNO T",
  "HUMBvOPENz NO THUMBbaTHUMB FORWARDbgSIDEvTHUMB FORWARDbbSIDEtRLICUEz INDEX RING LITTLE O",
  "NbaMIDDLE RING LITTLE ONbaOPENrFISTv FOUR FINGERS CONJOINED BENTwHEELwINDEXbb BENTbg OVE",
  "R MIDDLEbcCUPPEDbcHINGEDbi LOWbjMIDDLE UPbs THUMB SIDEbcMIDDLEbi BENTbn THUMB STRAIGHTbj",
  "CONJOINEDbs CUPPEDbz THUMB FORWARDbtHINGEDbz THUMB SIDEbtINDEX BENTbtMIDDLE BENTbtTHUMB ",
  "FORWARDbzSIDEcd BENTceCONJOINEDbkROSS LITTLEboEDbq THUMB SIDEbjHINGEDbp SPREAD THUMB SID",
  "EbjLITTLEbjRAISED KNUCKLESbkINGbn BENTboCONJOINEDbjSTRAIGHT THUMB BENTbjTHUMBbo ANGLEDbv",
  " OUTbpBENTbpCIRCLEDbqONJOINED HINGEDbqUPPEDbpHINGEDbqOOKEDbjUP SPREAD THUMB FORWARDbcRAI",
  "SED KNUCKLEbdING LITTLEbcTHUMB ANGLED IN MIDDLE UPbpOUT MIDDLE UPbiCIRCLEboD MIDDLE UPbj",
  "UPPED MIDDLE UPbkRLICUEblVE THUMB INSIDEbuUNDERbiFORWARD INDEX BENTbwSTRAIGHTbiHOOKbmED ",
  "MIDDLE HINGEDbwUPbiSIDEbm BOTH BENTbnINDEX BENTbtHINGEbnTHUMB BENTbtCONJOINEDbtDIAGONALb",
  "cUP MIDDLE HINGEDbs THUMB CONJOINEDbzSIDEwLITTLE BENTbdDOWNbh OTHERS CIRCLEDbiRIPPLE CUR",
  "VEDbpSTRAIGHTbdINDEXbi THUMBbdRAISED KNUCKLEbdTHUMBbeOUCHES THUMBbdUPwMIDDLE BENT OVER I",
  "NDEXbdDOWNbdLITTLEbdRAISED KNUCKLEbeING LITTLEbdTHUMB ANGLED INDEX UPbqOUT INDEX CROSSED",
  "caUPbjCIRCLED INDEX HINGEDbxUPbkUPPED INDEX UPbjHOOKED INDEX UPbjLITTLEbdUPbf THUMB SIDE",
  "wRING DOWNbbINDEXbbLITTLEbbMIDDLEbh CONJOINEDbiRAISED KNUCKLESbbRAISED KNUCKLEbbTHUMBbbU",
  "PwTHUMBbb BETWEEN INDEX MIDDLEbw STRAIGHTbkMIDDLE RINGbkRING LITTLEbcFORWARDbcHEELbcOVER",
  " FOUR RAISED KNUCKLESbhTWO FINGERSbcSIDE BENTbhCONJOINEDbhDIAGONALbcUNDER FOUR FINGERSbi",
  "INDEX BENTbiLITTLE UPbiTHREE FINGERSbjWO FINGERSsLATv BETWEEN PALM FACINGSwFIVE FINGERS ",
  "SPREADbp BENTbqFOUR BENTbqHINGEDbw NO THUMBbxTHUMB SIDEbqTHUMB FORWARDxOUR FINGERSbi BEN",
  "TbjCONJOINEDbs SPLITbjHINGEDwHEELba FIVE FINGERS SPREADbu BENTbvFOUR BENTbbTHUMB SIDEwSP",
  "LIT CENTREbi THUMB SIDEbt BENTbcINDEX THUMB SIDEbcLITTLEwTHUMB BENTbcFORWARDbcSIDErHINGE",
  "w FIVE FINGERS SPREAD OPENyOUR FINGERS CONJOINEDxINDEXbc HINGEDbdMIDDLE LITTLEbkRINGbo C",
  "ONJOINEDbdRING LITTLEbdTHUMBbi LARGEbjOPENbjSIDEbkMALLxLITTLEbd INDEXbj THUMBbeTHUMBxMID",
  "DLEbd RING LITTLExNO THUMBxOPENbb NO THUMBbcTHUMB FORWARDbiSIDExRINGbb DOWN INDEX THUMB ",
  "HOOK MIDDLExSMALLxTHUMB BETWEEN MIDDLE RINGbdSIDEbh TOUCHING INDEXsOOKv CURLICUEwINDEX R",
  "ING LITTLE INboOUTboUNDERwMIDDLE RING LITTLE CONJOINEDby INbzOUTbdTHUMBwRING THUMBrOVALv",
  " FIVE FINGERS SPREADwINDEXwLITTLE UPwNO THUMBwRING LITTLEwTHUMB FORWARDbcSIDEnEADq MOVEM",
  "ENT CIRCLEz-FLOORPLANE CURVEblSTRAIGHTbaWALLPLANE CURVEbkSTRAIGHTbkTILTrRIMmLIMB COMBINA",
  "TIONrLENGTH-1y2y3y4y5y6y7oP LOWER OVER UPPERqUPPER OVER LOWERpS PRESSED TOGETHERnOCATION",
  " DEPTHvHEAD NECKxIGHTvLIMBS DIGITSvTORSOvWIDTHu-FLOORPLANE SPACEvWALLPLANE SPACEmMOUTH C",
  "LOSED CONTACTzFORWARDzNEUTRALtORNERSsFROWNx OPENyWRINKLEDsKISSw FORWARDxWRINKLEDsOPEN CI",
  "RCLExFORWARDxOVALbb WRINKLEDbcYAWNxRECTANGLEbg WRINKLEDbhYAWNxWRINKLEDsSMILEx OPENyWRINK",
  "LEDsTENSEx FORWARDySUCKEDsWRINKLES DOUBLEbbSINGLEoVEMENT-DIAGONAL AWAY LARGEboSTbjMEDIUM",
  "bjSMALLbeBETWEEN AWAY LARGEbwSTbrMEDIUMbrSMALLbmTOWARDS LARGEbzSTbuMEDIUMbuSMALLbeTOWARD",
  "S LARGEbrSTbmMEDIUMbmSMALLvFLOORPLANE ARM CIRCLE HITTING WALL LARGE DOUBLEckSINGLEceMEDI",
  "UM DOUBLEclSINGLEceSMALL DOUBLEckSINGLEbgBENDbhOX LARGEbkMEDIUMbkSMALLbgCHECKbhORNER LAR",
  "GEbnMEDIUMbnSMALLbhROSSbhURVE COMBINEDbmHITTING CEILING LARGEccSMALLbuFLOOR LARGEcaSMALL",
  "bmLARGEbrSTbmMEDIUMbmSMALLbgDOUBLE ALTERNATINGby WRIST FLEXbnSTRAIGHTbnWRIST FLEXbgFINGE",
  "R CIRCLES HITTING WALL DOUBLEciSINGLEboONTACTbgHUMP HITTING CEILING LARGE DOUBLEchTRIPLE",
  "cbSMALL DOUBLEchTRIPLEbtFLOOR LARGE DOUBLEbzSMALL DOUBLEbzTRIPLE LARGE TRIPLEcgSMALL TRI",
  "PLEblSMALLbgJAWbgLOOP HITTING CEILING LARGE DOUBLEchSINGLEcbSMALL DOUBLEchSINGLEbtFLOOR ",
  "LARGE DOUBLEcfSINGLEbzSMALL DOUBLEcfSINGLEblSMALLbgPEAKS LARGEbmMEDIUMbmSMALLbgSHAKING P",
  "ARALLELbhINGLE STRAIGHT LARGEcbSTbwMEDIUMbwSMALLbnWRIST FLEXbgTRIPLE ALTERNATING MOVEMEN",
  "TbzWRIST FLEXbnSTRAIGHT MOVEMENTbnWRIST FLEXbgWAVE HITTING CEILING LARGEcbSMALLbtFLOOR L",
  "ARGEbzSMALLblLARGEblSMALLbmNAKEbhRIST CIRCLE HITTING WALL DOUBLEcgSINGLEbgZIGZAG LARGEbn",
  "MEDIUMbnSMALLvHINGE DOWN SEQUENTIALbbSIDE TO SIDE SCISSORSbbUP DOWN ALTERNATING LARGEbvS",
  "MALLbjLARGEbjSMALLbeSEQUENTIALvWALLPLANE ARM CIRCLE MEDIUM DOUBLEbxSINGLEbqSMALL DOUBLEb",
  "wSINGLEbfBEND LARGEbkMEDIUMbkSMALLbgOX LARGEbjMEDIUMbjSMALLbfCHECK LARGEblMEDIUMblSMALLb",
  "gORNER LARGEbmMEDIUMbmROTATIONbmSMALLbgROSSbgURVE HALF-CIRCLE LARGEccSTbxMEDIUMbxSMALLbm",
  "ITTING CHESTbtFRONT WALLblQUARTER LARGEbySTbtMEDIUMbtSMALLblTHEN STRAIGHTbnREE-QUARTER C",
  "IRCLE MEDIUMcgSMALLbkD CROSS MEDIUMbsSMALLbfDOUBLE ALTERNATINGbx WRIST FLEXbmSTRAIGHTbmW",
  "RIST FLEXbfFINGER CIRCLES DOUBLEbuSINGLEbnONTACTbfHUMP HITTING CHESTbsFRONT WALLbkLARGEb",
  "kMEDIUMbkSMALLbfJAWbfLOOP HITTING CHESTbsFRONT WALLbkLARGEbkMEDIUMbkSMALLbp DOUBLEbfPEAK",
  "S LARGEblMEDIUMblSMALLbfSHAKINGbgINGLE STRAIGHT LARGEcaSTbvMEDIUMbvSMALLbmWRIST FLEXbfTR",
  "IPLE ALTERNATINGbx WRIST FLEXbmSTRAIGHT MOVEMENTbmWRIST FLEXbfWAVE CURVE DOUBLE LARGEbxM",
  "EDIUMbxSMALLbqTRIPLE LARGEbxMEDIUMbxSMALLbkDIAGONAL PATH LARGEbyMEDIUMbySMALLbkHITTING C",
  "HESTbsFRONT WALLbgRIST CIRCLE FRONT DOUBLEbySINGLEbfZIGZAG LARGEbmMEDIUMbmSMALLmNECKnOSE",
  " CONTACTrNEUTRALrWIGGLESsRINKLESmPARENTHESISmROTATION MODIFIER-10bf1bf2bf3bf4bf5bf6be2be",
  "3be4be5be6be7be8be9u-FLOORPLANE ALTERNATINGbr HITTING CEILINGcaFLOORbgDOUBLEbm HITTING C",
  "EILINGbvFLOORbgSINGLEbm HITTING CEILINGbvFLOORvWALLPLANE ALTERNATEbnING HITTING CHESTbzF",
  "RONT WALLbfDOUBLEbl HITTING CHESTbuFRONT WALLbfSINGLEbl HITTING CHESTbuFRONT WALLnUB BET",
  "WEENqMULTIPLEqSINGLEmSEMICOLONnHOULDER HIP POSITIONSzSPINEvTILTING FROM WAISTnQUEEZE FLI",
  "CK ALTERNATINGuLARGE MULTIPLEbaSINGLEuSEQUENTIALvMALL MULTIPLEbaSINGLEnTRIKE BETWEENtMUL",
  "TIPLEtSINGLEnURFACE BETWEENuSYMBOLSmTEETHr BITE LIPSsMOVEMENTsON LIPSz MOVEMENTvTONGUEbb",
  " MOVEMENToNSE CHEEKS HIGHzLOWzMIDDLEnONGUE CENTRE INSIDE MOUTHbaSTICKING OUTtINSIDE MOUT",
  "H RELAXEDtLICKING LIPStMOVES AGAINST CHEEKtSTICKING OUT FARtTIP BETWEEN LIPSxTOUCHING IN",
  "SIDE MOUTHoRSO-FLOORPLANE TWISTINGsWALLPLANE CURVED BENDbcSTRAIGHT STRETCHoUCH BETWEENsM",
  "ULTIPLEsSINGLEnRAVEL-FLOORPLANE ROTATION-FLOORPLANE ALTERNATINGbyDOUBLEbySINGLEbnWALLPLA",
  "NE ALTERNATINGbxDOUBLEbxSINGLEbeSHAKINGtWALLPLANE ARM SPIRAL DOUBLEboSINGLEboTRIPLEbdROT",
  "ATION-FLOORPLANE ALTERNATINGbxDOUBLEbxSINGLEbmWALLPLANE ALTERNATINGbwDOUBLEbwSINGLEbdSHA",
  "KINGmUPPER BODY TILTING FROM HIP JOINTSmWALLPLANE SHOULDER HIP MOVEcLHOUETTE OF JAPANcMI",
  "LAR ABOVE GREATER-THAN ABOVE EQUALS SIGNoLESS-THAN ABOVE EQUALS SIGNiMINUS SIMILARiOR GR",
  "EATER-THANlLESS-THANcNE WAVEdGLE CHARACTER INTRODUCERhGRAPHIC CHARACTER INTRODUCERhHIGH-",
  "REVERSED-9 QUOTATION MARKhLEFT-POINTING ANGLE QUOTATION MARKiOW-9 QUOTATION MARKhRIGHT-P",
  "OINTING ANGLE QUOTATION MARKhSHIFT THREEoWOg-SHIFT-2n3dHALA ARCHAIC DIGIT EIGHTwFIVExOUR",
  "wNINEwONEwSEVENxIXwTHREExWOqNUMBER EIGHTYxFIFTYyORTYxNINETYxONE HUNDREDbbTHOUSANDxSEVENT",
  "YyIXTYxTENyHIRTYyWENTYiLETTER AAYANNAqEEYANNArYANNAqIYANNAqLPAPRAANA BAYANNAbaCAYANNAbaD",
  "AYANNAbbDAYANNAbaGAYANNAbaJAYANNAbaKAYANNAbaPAYANNAbaTAYANNAbbTAYANNAqMBA BAYANNAqUYANNA",
  "qYANNApDANTAJA LAYANNAxNAYANNAxSAYANNApEEYANNAqYANNApFAYANNApHAYANNApIIYANNAqLUUYANNAsYA",
  "NNAqRUUYANNAsYANNAqYANNApKANTAJA NAASIKYAYApMAHAAPRAANA BAYANNAbbCAYANNAbbDAYANNAbcDAYAN",
  "NAbbGAYANNAbbJAYANNAbbKAYANNAbbPAYANNAbbTAYANNAbcTAYANNArYANNAqUURDHAJA LAYANNAzNAYANNAz",
  "SAYANNApOOYANNAqYANNApRAYANNApSANYAKA DAYANNAyDAYANNAxGAYANNAxJAYANNApTAALUJA NAASIKYAYA",
  "xSANYOOGA NAAKSIKYAYAzYANNApUUYANNAqYANNApVAYANNApYAYANNAjITH DIGIT EIGHTtFIVEuOURtNINEt",
  "ONEtSEVENuIXtTHREEuWOtZEROiPUNCTUATION KUNDDALIYAiSIGN AL-LAKUNAoNUSVARAYAnCANDRABINDUnV",
  "ISARGAYAiVOWEL SIGN AELA-PILLAtDIGA AEDA-PILLAyGAETTA-PILLAbaYANUKITTAyIS-PILLAyKOMBUVAy",
  "PAA-PILLAtGAETTA-PILLAvYANUKITTAtKETTI AEDA-PILLAzIS-PILLAzPAA-PILLAuOMBU DEKAyVAba HAA ",
  "AELA-PILLAbfDIGA AELA-PILLAbfGAYANUKITTAcX PETALLED BLACK AND WHITE FLORETTEfOINTED BLAC",
  "K STARmPINWHEEL STARmSTAR WITH MIDDLE DOTd-PER-EM SPACEdTEEN POINTED ASTERISKbKATEBOARDc",
  "I AND SKI BOOTdERcULLf AND CROSSBONESdNKbLANTED EQUAL TO OR GREATER-THANbg WITH DOT INSI",
  "DEuLESS-THANbd WITH DOT INSIDEiNORTH ARROW WITH HOOKED HEADbbRIZONTAL TAILdVONIC ASTERIS",
  "KcEDdEPING ACCOMMODATIONjFACEjSYMBOLfY FACEdUTH OR SPYcICE OF PIZZAdGHTLY FROWNING FACEj",
  "SMILING FACEcOPEeING LARGE ANDoORdT MACHINEeHbMALL AIRPLANEhMPERSANDhSTERISKgBLUE DIAMON",
  "DgCOLONiMMAkERCIAL ATiNTAINS AS MEMBERpWITH OVERBARuVERTICAL BAR AT END OF HORIZONTAL ST",
  "ROKEgDOLLAR SIGNgELEMENT OFq WITH OVERBARwVERTICAL BAR AT END OF HORIZONTAL STROKEhM DAS",
  "HhQUALS SIGNhXCLAMATION MARKgFULL STOPgGREATER-THAN SIGNgHYPHEN-MINUSgIDEOGRAPHIC COMMAg",
  "LEFT CURLY BRACKETlPARENTHESISlTORTOISE SHELL BRACKETiSS-THAN SIGNgNUMBER SIGNgORANGE DI",
  "AMONDgPERCENT SIGNhLUS SIGNgQUESTION MARKgREVERSE SOLIDUShIGHT CURLY BRACKETmPARENTHESIS",
  "mTORTOISE SHELL BRACKEThOMAN NUMERAL EIGHTvLEVENuFIFTYwVEy HUNDREDvOURuNINEuONEx HUNDRED",
  "yTHOUSANDuSEVENvIXuTENvHREEvWELVEwOgSEMICOLONgTILDEhWO DOTS OVER ONE DOT PUNCTUATIONgVEE",
  " WITH UNDERBARfER THANm OR EQUAL TOdSH PRODUCTcILEeING CAT FACE WITH HEART-SHAPED EYESwO",
  "PEN MOUTHiFACE WITH HALOtEART-SHAPED EYEStORNSsOPEN MOUTHbc AND COLD SWEATbhSMILING EYES",
  "bhTIGHTLY-CLOSED EYESsSMILING EYESbe AND HAND COVERING MOUTHbjTHREE HEARTStUNGLASSESsTEA",
  "RdRKING FACEcOKING SYMBOLbNAILdKEcEEZING FACEcOW CAPPED MOUNTAINeBOARDEReFLAKEeMANh WITH",
  "OUT SNOWbOcCCER BALLdKScFT HYPHENfICE CREAMfSHELL FLOPPY DISKeBALLeWARE-FUNCTION SYMBOLc",
  "GDIAN COMBINING CURVE ABOVEyBELOWsDOT ABOVEwBELOWsHOOK ABOVExBELOWsLONG HOOK BELOWsRESH ",
  "BELOWsSTROKE BELOWsTWO DOTS ABOVEbbBELOWiINDEPENDENT SHINiLETTER ALEPHqYINpBETHpFETHpGIM",
  "ELpHErTHpKAPHpLAMEDHqESHpMEMpNUNpPEpRESH-AYINpSADHErMEKHqHINpTAWpWAWpYODHpZAYINiNUMBER O",
  "NEs HUNDREDpTENqWENTYiPUNCTUATION CIRCLE WITH DOTuHALF CIRCLE WITH DOTuTWO CIRCLES WITH ",
  "DOTSyVERTICAL BARSbl WITH DOTScHcLID QUILT SQUARE ORNAMENTbb IN BLACK SQUAREfUSh WITH OV",
  "ERBARcM SIGNcON WITH RIGHTWARDS ARROW ABOVEcRA SOMPENG DIGIT EIGHTtFIVEuOURtNINEtONEtSEV",
  "ENuIXtTHREEuWOtZEROnLETTER AHuBAHuCAHuDAHuEEHvHuGAHuHAHuIHuJAHuKAHuLAHuMAEwHuNAHvGAHvYAH",
  "uOHuPAHuRAHuSAHuTAHuUHuVAHuYAHcScUND RECORDING COPYRIGHTdTH EAST ARROWq AND SOUTH WEST A",
  "RROWrCROSSING NORTH EAST ARROWrTO CORNERrWITH HOOKlBLACK ARROWlDOUBLE ARROWlPOINTING BUD",
  "uLEAFuVINE LEAFlSANS-SERIF ARROWlTRIANGLE-HEADED ARROWbg TO BARlWHITE ARROWgWEST ARROWq ",
  "AND NORTH WEST ARROWrWITH HOOKlBLACK ARROWlDOUBLE ARROWlPOINTING BUDuLEAFuVINE LEAFlSANS",
  "-SERIF ARROWlTRIANGLE-HEADED ARROWbg TO BARlWHITE ARROWcYOMBO CLUSTER-INITIAL LETTER LAb",
  "fRAbfSAbgHAiFINAL CONSONANT SIGN -AbdBbdDbdGbdKbdLbdMbdNbeGbdRbdSbeHiGEMINATION MARKiHEA",
  "D MARK WITH MOON AND SUNbj AND FLAMEboTRIPLE FLAMEiLETTER -ApApBAqHApCAqHApDAqDArHAqHAqZ",
  "ApGAqHApHApJAqHApKAqHAqSSApLApMApNAqGAqNAqYApPAqHApRApSAqHAqSApTAqHAqSArHAqTArHApVApYApZ",
  "AqHAiMARK DOUBLE SHADnPLUTAnSHADnTSHEGiSIGN ANUSVARAnJIHVAMULIYAnUPADHMANIYAnVISARGAjUBJ",
  "OINERiTERMINAL MARK-1w2iVOWEL LENGTH MARKoSIGN AIuUtEtItOuEtUuEtVOCALIC LbbRbPcAdCEdGHET",
  "TIdRKLEhSgING HEARTcEAK-NO-EVIL MONKEYfERh WITH CANCELLATION STROKEnONE SOUND WAVEnTHREE",
  " SOUND WAVESfING HEAD IN SILHOUETTEdECH BALLOONeDBOATdSMILO SIGNcHERICAL ANGLEp OPENING ",
  "LEFTyUPcIDERg WEBdRAL CALENDAR PADhNOTE PADhSHELLcLASHING SWEAT SYMBOLcONGEdOL OF THREAD",
  "eNdRTS MEDALdUTING WHALEbQUARE A OVER MiARUiMiNPEAiPAATOiRUHUAiUhBAARERUjRiEETAiIRUiORUT",
  "OiQiUSSYERUhC OVER KGiALjPiCiDiMj CUBEDkSQUAREDiOjRPORATIONiUPhDAjASUiBiESIiJiLiMj CUBED",
  "kSQUAREDiORUhEEKAAiRA NAME HEISEIqMEIZIqREIWAqSYOUWAqTAISYOUjGiSUKUUDOiVhFMiOOTjUR CORNE",
  "RShGALjNMAjRONiBiHZiIGAjNIIjRUDAAiPAiURAMUnTONiYhHAjITUiEKUTAARUjRUTUiGiIRAGANA HOKAiONj",
  "ONkRUiPjAiUARADDOjIITOjRANiZhIMAGE OFp OR EQUAL TOtNOT EQUAL TOiNjINGUjTIiUhK OHMiAjIRIj",
  "RATTOkORIIiBiCALiEESUiGiHZiIROlGURAMUlMEETORUlWATTOiKiLiMj CAPITALlUBEDkSQUAREDiOOPOjRUN",
  "AiPAiTiUROONEkUZEIROiViWiYURIIhLEFT OPEN BOX OPERATORiMiNiOGjZENGEiXhM CUBEDjOHMkVER Sp ",
  "SQUAREDjSQUAREDiAjHHAjIKUROkRUjNSYONjRUKUiBj SMALLiEETORUjGAlTONiGiHZiIKURONjLjRIlBAARUi",
  "LiMj CUBEDkSQUAREDiOLiPAiSiU AkFkGkLkMkSkVkWiVj MEGAiWj MEGAhNAjNOiFiMiOTTOiSiViWhONSUiO",
  "MUiRIGINAL OFs OR EQUAL TOwNOT EQUAL TOiVhPAj AMPSjASENTOkTUiCiEEZIjNIHIkSUjSOiFiHiIASUT",
  "ORUjKOkURUiMiOINTOjNDOjSITION INDICATORiPMiRiSiViWhRADk OVER Sr SQUAREDiEMUjNTOGENiIGHT ",
  "OPEN BOX OPERATORjRAjTTORUiOOTiUPIIjUBURUhSAIKURUjNTIIMUiENTIlOiIRINGUiRiVhTARGETiHZiONh",
  "UONhV OVER MhWATTOiBiITH BOTTOM HALF BLACKmCONTOURED OUTLINEmDIAGONAL CROSSHATCH FILLmHO",
  "RIZONTAL FILLmLEFT HALF BLACKnOWER LEFT DIAGONAL HALF BLACKsRIGHT DIAGONAL HALF BLACKmOR",
  "THOGONAL CROSSHATCH FILLmRIGHT HALF BLACKmTOP HALF BLACKmUPPER LEFT DIAGONAL HALF BLACKx",
  "TO LOWER RIGHT FILLsRIGHT DIAGONAL HALF BLACKyTO LOWER LEFT FILLmVERTICAL FILLhYAADOkRUi",
  "UANgD ASTERISKiCJK UNIFIED IDEOGRAPH-4E00bh9bg2Dbg8CbgA4be518Dbf21Dbg4Dbg72bf3CCbgF3bf40",
  "8bg39bf5B6bf8F0bf91Abg29bfB57bfDE6bfF8Cbe624Bbg53bg95bf307bg55bf599bgB0bf620bf708bh9bfE8",
  "0bfF14be7121bf51Fbg33bf981bfA7AbfD42be89E3bfCA9bfD70be904Abf14DjLjOOLiDOT OPERATORiEIGHT",
  " KiFALLING DIAGONAL SLASHjIVE POINT ONEjOUR DOT PUNCTUATIONnKjREEiHCjDRjI-RESjViIDiKATAK",
  "ANA DErKOKOrSAjEYiLATIN CAPITAL LETTER AbdBbdCbdDbdEbdFbdGbdHbdIbdJbdKbdLbdMbdNbdObdPbdQ",
  "bdRbdSbdTbdUbdVbdWbdXbdYbdZoSMALL LETTER DjOGICAL ANDqORkSSLESSiMINUSjViNEWjGiOKjNE HUND",
  "RED TWENTY PiPLUSjPViRISING DIAGONAL SLASHiSALTIREjDjECOND SCREENkVEN POINT ONEjHVjIXTY ",
  "PjMALL CIRCLEjOSjQUAREjSiTHREE DjIMESjWENTY-TWO POINT TWOkO KiUHDjP WITH EXCLAMATION MAR",
  "KiVODjSiWCeT BLACK RIGHTWARDS ARROWdIDbS2c3cAbTcADIUMdFF OF AESCULAPIUSjHERMESdMPED ENVE",
  "LOPEdNDING PERSONdR AND CRESCENTfEQUALSfOF DAVIDgPERATORfWITH LEFT HALF BLACKkRIGHT HALF",
  " BLACKeT OF GUARDED AREAjHEADINGjPROTECTED AREAjSELECTED AREAkTRINGjTEXTdTIONeUE OF LIBE",
  "RTYcEAM LOCOMOTIVEfING BOWLdNOGRAPHIC FULL STOPdTHOSCOPEcICK FIGUREm LEANING LEFTvRIGHTn",
  "WITH ARMS RAISEDsDRESScOCK CHARTdPWATCHcRAIGHT RULERiNESSeWBERRYdESS OUTLINED WHITE STAR",
  "dICTLY EQUIVALENT TOeNG TERMINATORcScUDIO MICROPHONEdFFED FLATBREADdPAcXbUBdSCRIPT EIGHT",
  "lQUALS SIGNkFIVElOURkLEFT PARENTHESISkMINUSkNINEkONEkPLUS SIGNkRIGHT PARENTHESISkSEVENlI",
  "XkTHREElWOkZEROeET ABOVE RIGHTWARDS ARROWnSUBSETpPERSEThOFj ABOVE ALMOST EQUAL TOqEQUALS",
  " SIGNqNOT EQUAL TOqTILDE OPERATORkOR EQUAL TOv WITH DOT ABOVEkWITH NOT EQUAL TOhWITH DOT",
  "mMULTIPLICATION SIGN BELOWmPLUS SIGN BELOWeTITUTEcCCEEDSi ABOVE ALMOST EQUAL TOpEQUALS S",
  "IGNpNOT ALMOST EQUAL TOtEQUAL TOpSINGLE-LINE EQUALS SIGNbbNOT EQUAL TOjBUT NOT EQUIVALEN",
  "T TOjOR EQUAL TOpIVALENT TOjUNDER RELATIONcMMATION BOTTOMkTOPkWITH INTEGRALcNd BEHIND CL",
  "OUDeWITH FACEdDANESE AVAGRAHAkCONSONANT SIGN PAMINGKALbbNYAKRAbdIKUbbSANGAN MAbiWAkDIGIT",
  " EIGHTqFIVErOURqNINEqONEqSEVENrIXqTHREErWOqZEROkLETTER AsErBAsHArCArDArEsUrFAsINAL KxMrG",
  "ArHArIrJArKAsHArLAsEUrMArNAsGAsYArOrPArQArRAsEUrSAsYArTArUrVArWArXArYArZAkPUNCTUATION BI",
  "NDU BA SATANGAbcCAKRAbcDA SATANGAbcKA SATANGAbcLEU SATANGAbcPANGLONGbdURNAMAbcSURYAkSIGN",
  " PAMAAEHrNGLAYARtWISADsYECEKpVIRAMAkVOWEL SIGN PAMEPETxNAELAENGyEULEUNGyGHULUyOLONGyYUKU",
  "dFLOWERdRISEh OVER MOUNTAINSdSET OVER BUILDINGScPERHEROfSCRIPT EIGHTnQUALS SIGNmFIVEnOUR",
  "mLATIN SMALL LETTER IbfNnEFT PARENTHESISmMINUSmNINEmONEmPLUS SIGNmRIGHT PARENTHESISmSEVE",
  "NnIXmTHREEnWOmZEROgET ABOVE LEFTWARDS ARROWpSUBSETrPERSETjBESIDE AND JOINED BY DASH WITH",
  " SUBSETqSUBSETjOFl ABOVE ALMOST EQUAL TOsEQUALS SIGNsNOT EQUAL TOsTILDE OPERATORmOR EQUA",
  "L TOx WITH DOT ABOVEmWITH NOT EQUAL TOjPRECEDING SOLIDUSjWITH DOToMULTIPLICATION SIGN BE",
  "LOWoPLUS SIGN BELOWfVILLAINcRFACE INTEGRALeERcSHIdPENSION RAILWAYbWANdSH AMPERSAND ORNAM",
  "ENTcIMMERcUNG DASHbYLOTI NAGRI LETTER AuBHOvOuCHOvOuDDHOwOvHOvOuEuGHOvOuHOuIuJHOvOuKHOvO",
  "uLOuMOuNOuOuPHOvOuROvROuSOuTHOvOvTHOwOuUnPOETRY MARK-1z2z3z4nSIGN ALTERNATE HASANTAtNUSV",
  "ARAsDVISVARAsHASANTAnVOWEL SIGN AyEyIyOOyUcMBOL FOR ACKNOWLEDGElBACKSPACEmELLlCANCELnRRI",
  "AGE RETURNlDATA LINK ESCAPEmELETEr FORM TWOnVICE CONTROL FOURbaONEbaTHREEbbWOlEND OF MED",
  "IUMsTEXTtRANSMISSIONbe BLOCKnQUIRYmSCAPElFILE SEPARATORmORM FEEDlGROUP SEPARATORlHORIZON",
  "TAL TABULATIONlLINE FEEDlMARKS CHAPTERlNEGATIVE ACKNOWLEDGEnWLINEmULLlRECORD SEPARATORlS",
  "AMARITAN SOURCEmHIFT INrOUTmPACEmTART OF HEADINGuTEXTmUBSTITUTEv FORM TWOmYNCHRONOUS IDL",
  "ElTYPE A ELECTRONICSlUNIT SEPARATORlVERTICAL TABULATIONdMETRYcNdAGOGUEdCHRONOUS IDLEcRIA",
  "C ABBREVIATION MARKhBARREKHhCOLON SKEWED LEFTuRIGHTjNTRACTIONhDOTTED ZLAMA ANGULARuHORIZ",
  "ONTALhEND OF PARAGRAPHiSASA ABOVEnBELOWhFEMININE DOThHARKLEAN ASTERISCUSqMETOBELUSqOBELU",
  "SiBASA ABOVEnBELOWm-ESASA DOTTEDiORIZONTAL COLONhLETTER ALAPHoBETHoDALATHpOTLESS DALATH ",
  "RISHoEoFINAL SEMKATHoGAMALt GARSHUNIoHEqTHoKAPHoLAMADHoMALAYALAM BHAyJAyLLAbaLAyNGAzNAba",
  "NAzYAyRAySSAyTTApIMoNUNoPEqRSIAN BHETHwDHALATHwGHAMALoQAPHoREVERSED PEpISHoSADHEpEMKATHp",
  "HINpOGDIAN FEwKHAPHwZHAINpUPERSCRIPT ALAPHoTAWpETHs GARSHUNIoWAWoYUDHs HEoZAINhMUSIChOBL",
  "IQUE LINE ABOVEuBELOWhPTHAHA ABOVEoBELOWoDOTTEDhQUSHSHAYAhRBASA ABOVEnBELOWiUKKAKHAiWAHA",
  "hSUBLINEAR COLONw SKEWED LEFTbeRIGHTrFULL STOPjPRALINEAR COLONy SKEWED LEFTtFULL STOPhTH",
  "REE DOTS ABOVEsBELOWiWO VERTICAL DOTS ABOVEzBELOWhZQAPHA ABOVEoBELOWoDOTTEDeNGEaT-REXcSH",
  "IRTbABdLE TENNIS PADDLE AND BALLcCOcG AMPERSANDfPOSTROPHEfSTERISKeCIRCUMFLEX ACCENTfOLON",
  "gMMAiERCIAL ATeDIGIT EIGHTkFIVElOURkNINEkONEkSEVENlIXkTHREElWOkZEROfOLLAR SIGNeEQUALS SI",
  "GNfXCLAMATION MARKeFULL STOPeGRAVE ACCENTgEATER-THAN SIGNeHYPHEN-MINUSeLATIN CAPITAL LET",
  "TER AzBzCzDzEzFzGzHzIzJzKzLzMzNzOzPzQzRzSzTzUzVzWzXzYzZkSMALL LETTER AxBxCxDxExFxGxHxIxJ",
  "xKxLxMxNxOxPxQxRxSxTxUxVxWxXxYxZfEFT CURLY BRACKETjPARENTHESISjSQUARE BRACKETgSS-THAN SI",
  "GNfOW LINEeNUMBER SIGNePERCENT SIGNfLUS SIGNeQUESTION MARKgOTATION MARKeREVERSE SOLIDUSf",
  "IGHT CURLY BRACKETkPARENTHESISkSQUARE BRACKETeSEMICOLONfOLIDUSfPACEeTILDEeVERTICAL LINEd",
  "ALOG LETTER AqRCHAIC RApBApDApGApHApIpKApLApMApNAqGApPApRApSApTApUpWApYAiSIGN PAMUDPODnV",
  "IRAMAiVOWEL SIGN ItUdBANWA LETTER AqBAqDAqGAqIqKAqLAqMAqNArGAqPAqSAqTAqUqWAqYAjVOWEL SIG",
  "N IuUcI LE LETTER ApIpUEoEpEpHoFAoHAoIoKApHAoLAoMAoNApGAoOpOoPApHAoQAoSAoTApHApONE-2t3t4",
  "t5t6pSAqHAoUpEoVAoXAoYAeTHAM COMBINING CRYPTOGRAMMIC DOTlNSONANT SIGN BAyFINAL NGAyHIGH ",
  "RATHA OR LOW PAyLA TANG LAIzOW PAyMAzEDIAL LAbfRAySAjHORA DIGIT EIGHTuFIVEvOURuNINEuONEu",
  "SEVENvIXuTHREEvWOuZEROjLETTER AqBAqDAqEEqGREAT SAqHIGH CAwHAvFAvHAvKAwHAwXAvPAwHAvRATHAv",
  "SAwHAwSAvTAwHAvYAqIrIqLAsErLArOW CAvHAuFAuHAuKAvHAvXAuPAvHAuRATHAuSAuTAvHAuYArUEqMAqNArG",
  "ArYAqOOqRAsNAsTArUEqUrUqWAjSIGN CAANGoDOKMAIoHANGpOYoKAANsKUUpEOWpHUEN TONE-3z4z5t-LUE K",
  "ARANoMAI KANGw LAIsSAMsYAMOKoRA HAAMpEVERSED ROTATED RANAoSAKOTqTKAANvKUUqWANoTONE-1t2oW",
  "IANGtWAAKjTHAM DIGIT EIGHTuFIVEvOURuNINEuONEuSEVENvIXuTHREEvWOuZEROjVOWEL SIGN AvAvEvIuE",
  "uIvIuMAI SATuOvA ABOVExBELOWvOvYuTALL AAvHAM AIuUvEvUwEeVIET LETTER HIGH BOvCHOwOvDOvFOv",
  "GOvHOvKHHOxOwOvLOvMOvNGOwOwYOvOvPHOwOvROvSOvTHOwOvVOvYOqLOW BOuCHOvOuDOuFOuGOuHOuKHHOwOv",
  "OuLOuMOuNGOvOvYOuOuPHOvOuROuSOuTHOvOuVOuYOjMAI KANGoHITjSYMBOL HO HOIqKOI KOIsNqNUENGqSA",
  "MjTONE MAI EKsNUENGsSONGsTHOjVOWEL AAqMqNqUEqYpEpIqApOpUqAqErAcKEOUT BOXdRI ABBREVIATION",
  " SIGNgDIGIT EIGHTmFIVEnOURmNINEmONEmSEVENnIXmTHREEnWOmZEROgLETTER AoAoIoRCHAIC KHAoUnBAo",
  "HAnCAoHAnDAoDApHAoHAnEnGAoHAnHAnIoInJAoHAnKAoHAnLAnMAnNAoGAoNAoYAnOnPAoHAnRAoRAnSAoHAnTA",
  "oHAoTApHAnUoUnVAnYAgSIGN ANUSVARAlNUKTAlVIRAMAnSARGAgVOWEL SIGN AAsIsUrErIsIrOrUsUcLLY M",
  "ARK FIVElONEcMALEdIL AND ODD SIGNhS ABOVE SIGNhU LENGTH MARKgCREDIT SIGNhURRENT SIGNgDAY",
  " SIGNhEBIT SIGNhIGIT EIGHTmFIVEnOURmNINEmONEmSEVENnIXmTHREEnWOmZEROhRY CULTIVATION SIGNg",
  "FRACTION DOWNSCALING FACTOR KIIZHpONE EIGHTHyIETHtFIFTHuORTIETHtHALF-1y2tONE-HUNDRED-AND",
  "-SIXTIETHtQUARTERtSIXTEENTH-1bd2xY-FOURTHtTENTHuHIRTY-SECONDvREE-HUNDRED-AND-TWENTIETHuW",
  "ENTIETHpTHREE EIGHTIETHSvQUARTERSvSIXTEENTHSzY-FOURTHSvTWENTIETHSgIN POSSESSION SIGNgLAN",
  "D SIGNhETTER AoAoIoUnCAnEoEnHAnIoInJAnKAnLAoLApLAnMAnNAoGAoNApNAoYAnOoOnPAnRAoRAnSAoHAoS",
  "AnTAoTAnUoUnVAnYAgMONTH SIGNgNUMBER ONE HUNDREDrTHOUSANDnSIGNnTENgOMgPUNCTUATION END OF ",
  "TEXTgRUPEE SIGNgSALT PAN SIGNhIGN AAZHAAKKUmNUSVARAlCEVITUlKAACUmURUNInZHIlMUKKURUNInTHA",
  "LIYAnUVUZHAKKUlNELlPAARAMnNAMnTHAKKUmONlUZHAKKUlVAKAIYARAAnRAAKANmELImIRAMAnSARGAhPENT S",
  "IGNhTARTING FROM SIGNgTOTAL SIGNhRADITIONAL CREDIT SIGNsNUMBER SIGNgVOWEL SIGN AAsIsUrEs",
  "ErIsIrOsOrUsUgWET CULTIVATION SIGNgYEAR SIGNcNABATA TREEdGERINEeSA DIGIT EIGHTnFIVEoOURn",
  "NINEnONEnSEVENoIXnTHREEoWOnZEROhLETTER ACpQpWCqQqXqZpXpZoBAoCApHAoDApHAoECpQpXpZoFApINAL",
  " NGoGApHAoHApTAqTAoICpQpXpZoKApHAoLApONG UEXoMApCpQpXpZoNApGApHApYAoOCpQpXpZoPApHAoRAoSA",
  "pHAqORT AWXuUEZoTApHApSAoUCpECqQqXqZpICqQqUCrQrXrZqXqZpQpXpZoVCpQpXpZoWAoXAoYAoZAeUT COM",
  "PONENT-001t2t3t4t5t6t7t8t9s10t1t2t3t4t5t6t7t8t9s20t1t2t3t4t5t6t7t8t9s30t1t2t3t4t5t6t7t8t",
  "9s40t1t2t3t4t5t6t7t8t9s50t1t2t3t4t5t6t7t8t9s60t1t2t3t4t5t6t7t8t9s70t1t2t3t4t5t6t7t8t9s80",
  "t1t2t3t4t5t6t7t8t9s90t1t2t3t4t5t6t7t8t9r100t1t2t3t4t5t6t7t8t9s10t1t2t3t4t5t6t7t8t9s20t1t",
  "2t3t4t5t6t7t8t9s30t1t2t3t4t5t6t7t8t9s40t1t2t3t4t5t6t7t8t9s50t1t2t3t4t5t6t7t8t9s60t1t2t3t",
  "4t5t6t7t8t9s70t1t2t3t4t5t6t7t8t9s80t1t2t3t4t5t6t7t8t9s90t1t2t3t4t5t6t7t8t9r200t1t2t3t4t5",
  "t6t7t8t9s10t1t2t3t4t5t6t7t8t9s20t1t2t3t4t5t6t7t8t9s30t1t2t3t4t5t6t7t8t9s40t1t2t3t4t5t6t7",
  "t8t9s50t1t2t3t4t5t6t7t8t9s60t1t2t3t4t5t6t7t8t9s70t1t2t3t4t5t6t7t8t9s80t1t2t3t4t5t6t7t8t9",
  "s90t1t2t3t4t5t6t7t8t9r300t1t2t3t4t5t6t7t8t9s10t1t2t3t4t5t6t7t8t9s20t1t2t3t4t5t6t7t8t9s30",
  "t1t2t3t4t5t6t7t8t9s40t1t2t3t4t5t6t7t8t9s50t1t2t3t4t5t6t7t8t9s60t1t2t3t4t5t6t7t8t9s70t1t2",
  "t3t4t5t6t7t8t9s80t1t2t3t4t5t6t7t8t9s90t1t2t3t4t5t6t7t8t9r400t1t2t3t4t5t6t7t8t9s10t1t2t3t",
  "4t5t6t7t8t9s20t1t2t3t4t5t6t7t8t9s30t1t2t3t4t5t6t7t8t9s40t1t2t3t4t5t6t7t8t9s50t1t2t3t4t5t",
  "6t7t8t9s60t1t2t3t4t5t6t7t8t9s70t1t2t3t4t5t6t7t8t9s80t1t2t3t4t5t6t7t8t9s90t1t2t3t4t5t6t7t",
  "8t9r500t1t2t3t4t5t6t7t8t9s10t1t2t3t4t5t6t7t8t9s20t1t2t3t4t5t6t7t8t9s30t1t2t3t4t5t6t7t8t9",
  "s40t1t2t3t4t5t6t7t8t9s50t1t2t3t4t5t6t7t8t9s60t1t2t3t4t5t6t7t8t9s70t1t2t3t4t5t6t7t8t9s80t",
  "1t2t3t4t5t6t7t8t9s90t1t2t3t4t5t6t7t8t9r600t1t2t3t4t5t6t7t8t9s10t1t2t3t4t5t6t7t8t9s20t1t2",
  "t3t4t5t6t7t8t9s30t1t2t3t4t5t6t7t8t9s40t1t2t3t4t5t6t7t8t9s50t1t2t3t4t5t6t7t8t9s60t1t2t3t4",
  "t5t6t7t8t9s70t1t2t3t4t5t6t7t8t9s80t1t2t3t4t5t6t7t8t9s90t1t2t3t4t5t6t7t8t9r700t1t2t3t4t5t",
  "6t7t8t9s10t1t2t3t4t5t6t7t8t9s20t1t2t3t4t5t6t7t8t9s30t1t2t3t4t5t6t7t8t9s40t1t2t3t4t5t6t7t",
  "8t9s50t1t2t3t4t5t6t7t8t9s60t1t2t3t4t5t6t7t8hITERATION MARKcPE CARTRIDGEfDRIVEcURUScXIbEA",
  "CUP WITHOUT HANDLEdPOTdR-OFF CALENDAReDROP-BARBED RIGHTWARDS ARROWjSPOKED ASTERISKcDDY B",
  "EARcLEPHONE LOCATION SIGNkON TOP OF MODEMkRECEIVERs WITH PAGEnORDERkSIGNeSCOPEeVISIONdUG",
  "U AI LENGTH MARKhDIGIT EIGHTnFIVEoOURnNINEnONEnSEVENoIXnTHREEoWOnZEROhFRACTION DIGIT ONE",
  " FOR EVEN POWERS OF FOURbeODD POWERS OF FOURwTHREE FOR EVEN POWERS OF FOURbgODD POWERS O",
  "F FOURxWO FOR EVEN POWERS OF FOURbeODD POWERS OF FOURwZERO FOR ODD POWERS OF FOURhLENGTH",
  " MARKjTTER ApApIpUoBApHAoCApHAoDApDAqHApHApZAoEpEoGApHAoHAoIpIoJApHAoKApHAoLApLAqLAoMAoN",
  "AqKAARA POLLUpGApNApYAoOpOoPApHAoRApRAqRAoSApHApSAoTApHApSApTAqHAoUpUoVApOCALIC LxLwRxRo",
  "YAhSIGN ANUSVARAnVAGRAHAmCANDRABINDUnOMBINING ANUSVARA ABOVEwCANDRABINDU ABOVEmNUKTAmSID",
  "DHAMmTUUMUmVIRAMAoSARGAhVOWEL SIGN AAtItUsEtEsItIsOtOsUtUsVOCALIC LbbLbaRbbRcNGE SIGNdNI",
  "S RACQUET AND BALLdTcST TUBEcTRAGRAM FOR ACCUMULATIONpDVANCEpGGRAVATIONpSCENToBARRIERpOL",
  "D RESOLUTIONpRANCHING OUToCENTREpHANGEpLOSED MOUTHtNESSsUREpOMPLETIONtIANCEqNSTANCYrTACT",
  "sENTIONsRARIETYoDARKENINGpECISIVENESSqFECTIVENESS OR DISTORTIONqPARTUREpIFFICULTIESqMINI",
  "SHMENTrMINGqVERGENCEpOUBTpUTIESoEASEpMBELLISHMENTpNCOUNTERSqDEAVOURqLARGEMENTpTERNITYpXH",
  "AUSTIONoFAILUREpLIGHTpOLLOWINGqSTERINGpULL CIRCLEsNESSoGATHERINGx INpOING TO MEETpREATNE",
  "SSpUARDEDNESSoHARDNESSpOLDING BACKoINCREASEqNERoJOYoKEEPING SMALLpINSHIPoLABOURINGqW OR ",
  "MODELpEGIONoMASSINGpEASUREpIREDoON THE VERGEpPPOSITIONoPACKINGqTTERNpENETRATIONpURITYoRE",
  "ACHqLEASEqSIDENCEsSTANCErPONSEpITUALoSEVERANCEpINKINGpTOPPAGErVEqRENGTHoUNITYoVASTNESS O",
  "R WASTINGoWAITINGqTCHoYOUTHFULNESSbHAANA AABAAFILIiBAFILIhEBEFILIiEBEEFILIiYBEYFILIhIBIF",
  "ILIhLETTER AINUpLIFUoBAAoCHAVIYANIoDAADHUqVIYANIpHAALUoFAAFUoGAAFUpHAINUpNAVIYANIoHAApHA",
  "AoJAVIYANIoKAAFUpHAAoLAAMUpHAVIYANIoMEEMUoNAApOONUoPAVIYANIoQAAFUoRAAoSAADHUpEENUpHAVIYA",
  "NIqEENUoTAVIYANIpHAAsLUpOpTAAoVAAVUoWAAVUoYAAoZAAqVIYANIpOhOABOAFILIiBOFILIiOBOOFILIhSUK",
  "UNhUBUFILIdI CHARACTER ANGKHANKHUpBO BAIMAIpCHO CHANxGvINGvOEpDO CHADAsDEKpFO FAuNrNGMAN",
  "pHO HIPsNOKHUKpKHO KHAIvONvUATvWAItRAKHANGsMUTqO KAIpLAKKHANGYAOqO CHULAsLINGqUpMAI CHAT",
  "TAWAtEKtHAN-AKATtTHOuRIsTAIKHUsYAMOKqO MApNGO NGUqIKHAHITqO NENtUpO ANGpPAIYANNOIqHINTHU",
  "rO PHANvUNGtSAMPHAOqO PLApRO RUAqUpSARA AvAvEvI MAIMALAIbbUANvMuEuIvIuOuUvEwEvUqO RUSIsS",
  "ALAtOtUApTHANTHAKHATrO NANGMONTHOtPHUTHAOtTHAHANwNvONGvUNGqO PATAKsTAOpWO WAENpYAMAKKANq",
  "O YAKtINGgURRENCY SYMBOL BAHTfDIGIT EIGHTlFIVEmOURlNINElONElSEVENmIXlTHREEmWOlZEROcERE D",
  "OES NOT EXISTgEXISTSfFOREeMODYNAMICgMETERcIN GREEK CROSSfSALTIREgPACEeKING FACEdRD PLACE",
  " MEDALcONG SANDALdUGHT BALLOONcREE BUTTON MOUSEgCONSECUTIVE EQUALS SIGNSgDIMENSIONAL ANG",
  "LEhOT PUNCTUATIONgLEFTWARDS ARROWShINES CONVERGING LEFTxRIGHTgNETWORKED COMPUTERSgPOINTE",
  "D BLACK STARgRAYS ABOVElBELOWlLEFTlRIGHThIGHTWARDS ARROWSgSPEECH BUBBLESf-D BOTTOM-LIGHT",
  "ED RIGHTWARDS ARROWHEADiLEFT-LIGHTED DOWNWARDS EQUILATERAL ARROWHEADiRIGHT-LIGHTED UPWAR",
  "DS EQUILATERAL ARROWHEADiTOP-LIGHTED LEFTWARDS EQUILATERAL ARROWHEADuRIGHTWARDS ARROWHEA",
  "DbfEQUILATERAL ARROWHEADgEM DASHgPER-EM SPACEcUMBS DOWN SIGNhUP SIGNdNDER CLOUD AND RAIN",
  "hSTORMbIBETAN ASTROLOGICAL SIGN -KHYUD PAbaSDONG TSHUGSbbGRA GCAN -CHAR RTAGSiCANTILLATI",
  "ON SIGN CANG TE-UbaHEAVY BEATbaLIGHT BEATbaSBUB -CHALiDIGIT EIGHToFIVEpOURoHALF EIGHTtFI",
  "VEuOURtNINEtONEtSEVENuIXtTHREEuWOtZEROoNINEoONEoSEVENpIXoTHREEpWOoZEROiKU RU KHAr BZHI M",
  "IG CANiLETTER -ApApBAqHApCAqHApDAqDArHAqHAqZArHApFIXED-FORM RApGAqHApHApJApKAqHAqKAqSSAp",
  "LApMApNAqGAqNAqYApPAqHApRAqRApSAqHAqSApTAqHAqSArHAqTArHApWApYApZAqHAjOGOTYPE SIGN CHAD R",
  "TAGSwLHAG RTAGSiMARK ANG KHANG GYASzONnBKA- SHOG GI MGO RGYANxYIG MGOoSDUS RTAGSpKA- SHO",
  "G GI MGO RGYANqUR YIG MGOnCARET -DZUD RTAGS BZHI MIG CANbfME LONG CANtYIG MGO PHUR SHAD ",
  "MAoHE MGOoLOSING BRDA RNYING YIG MGO SGAB MAvYIG MGO SGAB MAnDELIMITER TSHEG BSTARnGTER ",
  "TSHEGsYIG MGO -UM GTER TSHEG MAbeRNAM BCAD MAbaTRUNCATED AoUG RTAGS GYASzONnHALANTAnINIT",
  "IAL BRDA RNYING YIG MGO MDUN MAvYIG MGO MDUN MApTERSYLLABIC TSHEGnLEADING MCHAN RTAGSnMN",
  "YAM YIG GI MGO RGYANnNGAS BZUNG NYI ZLAySGOR RTAGSoYIS SHADsTSHEGx SHADnPALUTAnRGYA GRAM",
  " SHADoIN CHEN SPUNGS SHADnSBRUL SHADoHADnTRAILING MCHAN RTAGSoSA -PHRUpHEG SHADnYIG MGO ",
  "TSHEG SHAD MAiSIGN GRU CAN RGYINGSrMED RGYINGSnINVERTED MCHU CANnLCE TSA CANpI RTAGSnMAR",
  " TSHESoCHU CANnNYI ZLA NAA DAnRDEL DKAR GCIGyNYISySUMxRDEL NAGsNAG GCIGxNYISxSUMwRDEL DK",
  "ARoJES SU NGA ROoNAM BCADnSNA LDANnYANG RTAGSpR TSHESjUBJOINED LETTER -AzAzBAbaHAzCAbaHA",
  "zDAbaDAbbHAbaHAbaZAbbHAzFIXED-FORM RAbkWAbkYAzGAbaHAzHAzJAzKAbaHAbaSSAzLAzMAzNAbaGAbaNAb",
  "aYAzPAbaHAzRAzSAbaHAbaSAzTAbaHAbaSAbbHAbaTAbbHAzWAzYAzZAbaHAsSIGN INVERTED MCHU CANxLCE ",
  "TSA CANxMCHU CANjYLLABLE OMkMBOL DRIL BUpNOR BUv BZHI -KHYILwGSUM -KHYILwNYIS -KHYILpPAD",
  "MA GDANqHUR PApRDO RJEw RGYA GRAMiVOWEL SIGN AAtEuEtIuItOuOtREVERSED IbdItUuUtVOCALIC Lb",
  "cLbbRbcRcCKETcE OVER INFINITYcFINAGH CONSONANT JOINERjLETTER AHAGGAR YAZHrYER YAGHqBERBE",
  "R ACADEMY YAHbhJqTAWELLEMET YAZrUAREG YAGHbaNzHzKbaHzNGzQzZHqYAsAsBtHsCHsDtDuHtHsFsGtHuH",
  "sHtHsJsKtHuHsLsMsNsPsQsRtRsStHtSsTtHtTsVsWsYsZtHtZrEsYrIrOrUjMODIFIER LETTER LABIALIZATI",
  "ON MARKjSEPARATOR MARKcGERf FACEdHT TRIFOLIATE SNOWFLAKEcLDEf OPERATORo ABOVE LEFTWARDS ",
  "ARROWvRIGHTWARDS ARROWpWITH DOT ABOVEuRISING DOTSgWITH DOT ABOVEpBELOWlRING ABOVEcMER CL",
  "OCKeS WITH LEFT HALF BLACKlRIGHT HALF BLACKcNYe TWO DOTS OVER ONE DOT PUNCTUATIONcRED FA",
  "CEdHUTA ABBREVIATION SIGNjNJIiDIGIT EIGHToFIVEpOURoNINEoONEoSEVENpIXoTHREEpWOoZEROiGVANG",
  "iLETTER AqAqIqUpBAqHApCAqHApDAqDArHAqHApEpGAqHApHApIqIpJAqHApKAqHApLApMApNAqGAqNAqYApOpP",
  "AqHApRApSAqHAqSApTAqHAqTArHApUqUpVAqOCALIC LyLxRyRpYAiOMiSIGN ANUSVARAoVAGRAHAnCANDRABIN",
  "DUnNUKTAnVIRAMApSARGAiVOWEL SIGN AAuIuUtEtIuItOtSHORT EzOtUuUtVOCALIC LbcLbbRbcRdONIAN S",
  "IGN CAPITAL EToETbOILETcKYO TOWERcMATOcNGUEcOLBOXdTHfBRUSHcP ARC ANTICLOCKWISE ARROWbb W",
  "ITH PLUSiCLOCKWISE ARROW WITH MINUSeCURLY BRACKETeHALF BLACK CIRCLEjINTEGRALjLEFT PARENT",
  "HESISjRIGHT PARENTHESISjSECTION SIGNgTeLEFT CORNERkROPjHALF BRACKETePARENTHESISeRIGHT CO",
  "RNERlROPkHALF BRACKETeSQUARE BRACKETeTORTOISE SHELL BRACKETeWITH UPWARDS ARROW ABOVEcRTO",
  "ISE SHELL BRACKETED CJK UNIFIED IDEOGRAPH-4E09bx8Cbv52DDbwB89bv6253bw557bw72Cbv70B9bw6D7",
  "zLATIN CAPITAL LETTER ScTAL RUNOUTdO LETTER AnEmBAnREATHY AEuEvOuIvUmCHAmDAmEnOmGAmHAmIn",
  "UmJAmKAmLAmMAmNAnGAmOmPAmRAmSAmTAmUmWAmYAfSIGN RISING TONEbRACKBALLeTORdDE MARK SIGNdINd",
  "Me CARdNSPLUTOfVERSAL INTERSECTIONcIANGLE WITH DOT ABOVEoROUNDED CORNERSoSERIFS AT BOTTO",
  "MoUNDERBARi-HEADED RIGHTWARDS ARROWgULAR BULLETlFLAG ON POSTlRULERdCOLONdDENT EMBLEMdGRA",
  "M FOR EARTHmFIREmHEAVENmLAKEmMOUNTAINmTHUNDERmWATERnINDdPLE COLON OPERATORhDAGGERhHORIZO",
  "NTAL BAR WITH DOUBLE VERTICAL STROKEbbTRIPLE VERTICAL STROKEhINTEGRALhNESTED GREATER-THA",
  "NoLESS-THANhPLUSiRIMEhSOLIDUS BINARY RELATIONhTILDEhVERTICAL BAR BINARY RELATIONuDELIMIT",
  "ERuRIGHT TURNSTILEuWITH HORIZONTAL STROKEcOLLfEYBUSdPHYeICAL DRINKjFISHcUEe LIGHT MOON A",
  "RTAdMPETbUGRIK SIGNcLIPcMBLER GLASScRKEYeISH LIRA SIGNdNED AMPERSANDiNGLEhBLACK PENTAGON",
  "nSHOGI PIECEhCAPITAL FiOMMAhDAGGERiIGIT THREEoWOhGREEK SMALL LETTER IOTAhNORTH EAST POIN",
  "TING LEAFnWEST POINTING LEAFjT SIGNhOK HAND SIGNhSANS-SERIF CAPITAL GbaLbaYiEMICOLONiMAL",
  "L FiOUTH EAST POINTING LEAFnWEST POINTING LEAFhWHITE SHOGI PIECEdTLEbWELVE POINTED BLACK",
  " STARcISTED RIGHTWARDS ARROWScO ASTERISKS ALIGNED VERTICALLYeBUTTON MOUSEeCONSECUTIVE EQ",
  "UALS SIGNSeDOT LEADERiPUNCTUATIONhS OVER ONE DOT PUNCTUATIONeHEARTSeINTERSECTING LOGICAL",
  " ANDzOReJOINED SQUARESeLOGICAL AND OPERATORmOR OPERATOReMEN HOLDING HANDSeSPEECH BUBBLES",
  "eWOMEN HOLDING HANDSd-EM DASHaUGARITIC LETTER AINrLPAqBETAqDELTArHALqGAMLArHAINqHOsTAqIq",
  "KAFrHAqLAMDAqMEMqNUNqPUqQOPAqRASHAqSADEsMKArHINrSUqTETrHANNArOqUqWOqYODqZETArUjWORD DIVI",
  "DERbMBRELLAi ON GROUNDjWITH RAIN DROPSbNAMUSED FACEcCERTAINTY SIGNcDERTIEdO SYMBOLcICORN",
  " FACEdONf ABOVE BAR ABOVE INTERSECTIONmINTERSECTIONgBESIDE AND JOINED WITH UNIONgWITH LO",
  "GICAL ORlMINUS SIGNlOVERBARdT SEPARATOReED SYMBOLdVERSAL RECYCLING SYMBOLcMARRIED PARTNE",
  "RSHIP SYMBOLbP ARROW THROUGH CIRCLEiHEADm BETWEEN TWO HORIZONTAL BARSnIN A RECTANGLE BOX",
  "dBARB LEFT DOWN BARB LEFT HARPOONxRIGHT HARPOONiRIGHT DOWN BARB LEFT HARPOONyRIGHT HARPO",
  "ONdDOWN ARROWn WITH BASEiBLACK ARROWiDOUBLE ARROWiSANS-SERIF ARROWiTRIANGLE-HEADED ARROW",
  "iWHITE ARROWdFISH TAILdRIGHT DIAGONAL ELLIPSISdTACKh WITH CIRCLE ABOVEc-POINTING AIRPLAN",
  "EmMILITARY AIRPLANEmRED TRIANGLEmSMALL AIRPLANEsRED TRIANGLEmTRIANGLE WITH LEFT HALF BLA",
  "CKbaRIGHT HALF BLACKcPER AND LEFT AND LOWER TRIANGULAR THREE QUARTERS BLOCKlOWER ONE EIG",
  "HTH BLOCKqTRIANGULAR HALF BLOCKkRIGHT AND LOWER TRIANGULAR THREE QUARTERS BLOCKgBLADE SC",
  "ISSORSgFIVE EIGHTHS BLOCKgHALF BLOCKq AND LOWER HALF INVERSE MEDIUM SHADElCIRCLElINVERSE",
  " MEDIUM SHADE AND LOWER HALF BLOCKtWHITE CIRCLElMEDIUM SHADEgLEFT BLOCK DIAGONAL LOWER C",
  "ENTRE TO LOWER MIDDLE RIGHTbqUPPER MIDDLE RIGHTbwRIGHTbgLEFT TO LOWER MIDDLE RIGHTboUPPE",
  "R CENTREbuMIDDLE RIGHTbgMIDDLE LEFT TO UPPER CENTREcbMIDDLE RIGHTcbRIGHTbaUPPER MIDDLE L",
  "EFT TO UPPER CENTREcbRIGHTlCORNER WITH DOTlOR LOWER RIGHT CURLY BRACKET SECTIONlQUADRANT",
  " CIRCULAR ARClTO LOWER RIGHT FILLmRIANGLErULAR MEDIUM SHADEgONE EIGHTH BLOCKkQUARTER BLO",
  "CKgRIGHT BLOCK DIAGONAL LOWER MIDDLE LEFT TO LOWER CENTREccRIGHTbbUPPER CENTRE TO LOWER ",
  "MIDDLE RIGHTbxRIGHTbrUPPER MIDDLE RIGHTbhLEFT TO LOWER CENTREbvMIDDLE RIGHTbpUPPER MIDDL",
  "E RIGHTbhMIDDLE LEFT TO LOWER CENTREccMIDDLE RIGHTccRIGHTmDROP-SHADOWED WHITE SQUAREmOR ",
  "LOWER LEFT CURLY BRACKET SECTIONmPENCILmQUADRANT CIRCULAR ARCmSHADOWED WHITE CIRCLEbbSQU",
  "AREmTO LOWER LEFT FILLnRIANGLEsULAR MEDIUM SHADEgSEVEN EIGHTHS BLOCKgTHREE EIGHTHS BLOCK",
  "mQUARTERS BLOCKhRIANGULAR ONE QUARTER BLOCKcSIDE-DOWN FACEcWARDS ANCORAjRROWn AND RIGHT ",
  "ONE EIGHTH BLOCKoFROM BARoLEFTWARDS OF DOWNWARDS ARROWoTO BARoWITH DOUBLE STROKEtEQUILAT",
  "ERAL ARROWHEADtHORIZONTAL STROKEtLARGE TRIANGLE ARROWHEADtMEDIUM TRIANGLE ARROWHEADtNOTC",
  "HED TAILtSMALL EQUILATERAL ARROWHEADzTRIANGLE ARROWHEADtTIP LEFTWARDSxRIGHTWARDSiBLACK A",
  "RROWoCIRCLED WHITE ARROWiCOMPRESSED ARROWiDASHED ARROWjOUBLE ARROWiFINGER-POST ARROWiHAR",
  "POON WITH BARB LEFT BESIDE DOWNWARDS HARPOON WITH BARB RIGHTbmUPWARDS HARPOON WITH BARB ",
  "RIGHTbfFROM BARbfTO BARbeWARDSbaRIGHT FROM BARbgTO BARbfWARDSjEAVY ARROWoCOMPRESSED ARRO",
  "WiPAIRED ARROWSiQUADRUPLE ARROWiROCKETiSANS-SERIF ARROWjQUARED ARROWiTRIANGLE ARROWHEADq",
  "-HEADED ARROWbd LEFTWARDS OF DOWNWARDS TRIANGLE-HEADED ARROWbeTO BARbeWITH BOLD SHAFTbjD",
  "OUBLE HORIZONTAL STROKEbjHEAVY SHAFTbjLONG TIP LEFTWARDSbsRIGHTWARDSbjMEDIUM SHAFTbjNARR",
  "OW SHAFTbjVERY HEAVY SHAFTyDASHED ARROWyPAIRED ARROWSlPLE ARROWjWO HEADED ARROWl-HEADED ",
  "ARROW FROM SMALL CIRCLEzWITH TRIANGLE ARROWHEADSiWHITE ARROWt FROM BARbc WITH HORIZONTAL",
  " BARuON PEDESTALbf WITH HORIZONTAL BARblVERTICAL BARuWITHIN TRIANGLE ARROWHEADoDOUBLE AR",
  "ROWba ON PEDESTALbRANUSbSaVAI COMMAeDIGIT EIGHTkFIVElOURkNINEkONEkSEVENlIXkTHREElWOkZERO",
  "eFULL STOPeQUESTION MARKeSYLLABLE AoNnBAoEpEoHApEqEpIpOqOpUoIoOpOoUnCAoEpEoIoOpOoUnDAoEp",
  "EoHApEqEpHAqErEqIqOrOqUpIpOqOpUoIoOpOoUnEoEpNoNnFAoEpEoIoOpOoUnGAoBApEqEqNpIpOqNqOpUoEpE",
  "pNoIoOpOoUnHApNoEpEpNoIpNoOpNpOoUpNnIoNnJAoEpEoIoOpOoUnKApNoEpEoIoOpOoPAqNpEqEqNpIpOqOpU",
  "oUnLAoEpEpNGTHENERoIoOpOoUnMAoBApEqEpIpOqOpUoEpEoGBAqErEqIqOrOqUoIoOpOoUnNAoDApEqEpIpOqL",
  "E DOtFAtKAtMAtSOOqOpUoEpEoGpANpENpGAqErErNqIqOrOqUpONoIoJApEqEpIpOqOpUoOpOoUoYApEqEpIpOq",
  "OpUnOoNoOpNnPAoEpEoIoOpOoUnRAoEpEoIoOpOoUnSAoEpEoHApEqEpIpOqOpUoIoOpOoUnTAoEpEoHApEqEpIp",
  "OqOpUoIoOpOoUnUoNnVAoEpEoIoOpOoUnWApNoEpEqNpNoIpNoOpNpOqNoUpNnYAoEpEoIoOpOoUnZAoEpEoHApE",
  "qEpIpOqOpUoIoOpOoUgMBOL BANGlDANGmO-OnONGlFAAmEENGlJONGlKEENGmUNGlNIIlTAAmINGmONGcMPIREc",
  "RIATION SELECTOR-1u0v0v1v2v3v4v5v6v7v8v9u1v0v1v2v3v4v5v6v7v8v9u2v0v1v2v3v4v5v6v7v8v9u3v0",
  "v1v2v3v4v5v6v7v8v9u4v0v1v2v3v4v5v6v7v8v9u5v0v1v2v3v4v5v6v7v8v9u6v0v1v2v3v4v5v6v7v8v9u7v0",
  "v1v2v3v4v5v6v7v8v9u8v0v1v2v3v4v5v6v7v8v9u9v0v1v2v3v4v5v6v7v8v9t2u0v0v1v2v3v4v5v6v7v8v9u1",
  "v0v1v2v3v4v5v6v7v8v9u2v0v1v2v3v4v5v6v7v8v9u3v0v1v2v3v4v5v6v7v8v9u4v0v1v2v3v4v5v6v7v8v9u5",
  "v0v1v2v3v4v5v6u6u7u8u9t3u0u1u2u3u4u5u6u7u8u9t4u0u1u2u3u4u5u6u7u8u9t5u0u1u2u3u4u5u6u7u8u9",
  "t6u0u1u2u3u4u5u6u7u8u9t7u0u1u2u3u4u5u6u7u8u9t8u0u1u2u3u4u5u6u7u8u9t9u0u1u2u3u4u5u6u7u8u9",
  "bECTOR OR CROSS PRODUCTcDIC SIGN ANUSVARA ANTARGOMUKHAuBAHIRGOMUKHAuUBHAYATO MUKHAuVAMAG",
  "OMUKHAbf WITH TAILmRDHAVISARGAmTIKRAMAlDOUBLE ANUSVARA ANTARGOMUKHAlHEXIFORM LONG ANUSVA",
  "RAlJIHVAMULIYAlLONG ANUSVARAlNIHSHVASAlREVERSED VISARGA ANUDATTAbcUDATTAmOTATED ARDHAVIS",
  "ARGAmTHANG LONG ANUSVARAlTIRYAKlUPADHMANIYAlVISARGA ANUDATTAbb WITH TAILtSVARITAtUDATTAz",
  " WITH TAILlYAJURVEDIC MIDLINE SVARITAgTONE ATHARVAVEDIC INDEPENDENT SVARITAlCANDRA ABOVE",
  "sBELOWlDOT BELOWnUBLE RING ABOVEsSVARITAlKARSHANAnTHAKA ANUDATTAlPRENKHAlRIGVEDIC KASHMI",
  "RI INDEPENDENT SVARITAnNG ABOVElSHARAlTHREE DOTS BELOWmRIPLE SVARITAmWO DOTS BELOWlYAJUR",
  "VEDIC AGGRAVATED INDEPENDENT SVARITAwINDEPENDENT SVARITAwKATHAKA INDEPENDENT SVARITAbx S",
  "CHROEDERcRSICLEdTICAL BAR BESIDE RIGHT TRIANGLEnDOUBLE LEFT TURNSTILEnTRIPLE RIGHT TURNS",
  "TILEnWITH HORIZONTAL STROKEjELLIPSISjFOUR DOTSjIDEOGRAPHIC ITERATION MARKjKANA REPEAT MA",
  "RKz LOWER HALFbaUPPER HALFvWITH VOICED SOUND MARKbr UPPER HALFjLINEn EXTENSIONoWITH CIRC",
  "LE ABOVEbaBELOWtMIDDLE DOTjMALE WITH STROKE SIGNjONE EIGHTH BLOCK-2ba3ba4ba5ba6ba7jSIX D",
  "OTSjTAB KEYmULATIONt SETkILDEkRAFFIC LIGHTjZIGZAG LINEdY BOLD GREEK CROSSfHEAVY EIGHT PO",
  "INTED BLACK STARrSPOKED ASTERISKlFIVE SPOKED ASTERISKlGREEK CROSSlREVERSE SOLIDUSlSALTIR",
  "EmIX SPOKED ASTERISKmOLIDUSlWHITE CIRCLErSQUAREfMUCH GREATER-THANkLESS-THANcSTAbIBRATION",
  " MODEcCTORY HANDcDEO CAMERAgGAMEfCASSETTEcETNAMESE ALTERNATE READING MARK CAbiNHAYdWDATA",
  " SQUAREcOLINcRGOcTHKUQI CAPITAL LETTER AyBBEzEyCEzHEyDEzHEyEzIyFEyGAyHAzHAyIzJEyJEyKAyLA",
  "zLAyMEyNEzJEyOyPEyQAyREySEzHEyTEzHEyUyVEyXEyYyZEjSMALL LETTER AwBBExEwCExHEwDExHEwExIwFE",
  "wGAwHAxHAwIxJEwJEwKAwLAxLAwMEwNExJEwOwPEwQAwREwSExHEwTExHEwUwVEwXEwYwZEbOIDED GREEK CROS",
  "ScLCANOdLEYBALLdUME INTEGRALbS1d0e0e1e2e3e4e5e6e7e8e9d1e0e1e2e3e4e5e6e7e8e9d2e0e1e2e3e4e",
  "5e6e7e8e9d3e0e1e2e3e4e5e6e7e8e9d4e0e1e2e3e4e5e6e7e8e9d5e0e1e2e3e4e5e6e7e8e9d6e0e1e2e3e4e",
  "5e6e7e8e9d7e0e1e2e3e4e5e6e7e8e9d8e0e1e2e3e4e5e6e7e8e9d9e0e1e2e3e4e5e6e7e8e9c2d0e0e1e2e3e",
  "4e5e6e7e8e9d1e0e1e2e3e4e5e6e7e8e9d2e0e1e2e3e4e5e6e7e8e9d3e0e1e2e3e4e5e6e7e8e9d4e0e1e2e3e",
  "4e5e6e7e8e9d5e0e1e2e3e4e5e6d6d7d8d9c3d0d1d2d3d4d5d6d7d8d9c4d0d1d2d3d4d5d6d7d8d9c5d0d1d2d",
  "3d4d5d6d7d8d9c6d0d1d2d3d4d5d6d7d8d9c7d0d1d2d3d4d5d6d7d8d9c8d0d1d2d3d4d5d6d7d8d9c9d0d1d2d",
  "3d4d5d6d7d8d9bTcSbULCANUSdGAR FRACTION FIVE EIGHTHSvSIXTHSrOUR FIFTHSqONE EIGHTHuFIFTHuH",
  "ALFuNINTHuQUARTERuSEVENTHvIXTHuTENTHvHIRDqSEVEN EIGHTHSqTHREE EIGHTHSwFIFTHSwQUARTERSrWO",
  " FIFTHSuTHIRDSqZERO THIRDSaWAFFLEcNCHO DIGIT EIGHTnFIVEoOURnNINEnONEnSEVENoIXnTHREEoWOnZ",
  "EROhLETTER ApAqNrGpNGpUoBAoCAoDAoEpNoFAoGAoHAoIpNGoJAoKApHAoLApLHAoMAoNApGApYAoOpNqGoPAp",
  "HAoRAoSApHAoTApHApRApSAoUpENoVAoWAoYApIHoZAhNGUN SIGNhTONE KOIpNImTUPpNIdING CRESCENT MO",
  "ON SYMBOLhGIBBOUS MOON SYMBOLcRANG CITI CAPITAL LETTER AbcMbcNGbcTbbBUbbDAbbEbcNNbdYbbGA",
  "bbHARbcIYObcOLObdRRbbIIbbKObbNGAAbcUNGbbObcDDbbPUbbSIIbcSUUbbTTEbbUCbcUbbVIYObbWIbbYAbcO",
  "bcUbdJmDIGIT EIGHTsFIVEtOURsNINEsONEsSEVENtIXsTHREEtWOsZEROmNUMBER EIGHTYtFIFTYuORTYtNIN",
  "ETYtSEVENTYuIXTYtTENuHIRTYuWENTYmOMmSMALL LETTER AbaMbaNGbaTzBUzDAzEbaNNbbYzGAzHARbaIYOb",
  "aOLObbRRzIIzKOzNGAAbaUNGzObaDDzPUzSIIbaSUUzTTEzUCbaUzVIYOzWIzYAbaObaUbbJdNING SIGNcSTEBA",
  "SKETcTCHdER BUFFALOgCLOSETgPOLOgWAVEfMELONcVE ARROW POINTING DIRECTLY LEFTbdRIGHTfDASHdI",
  "NG BLACK FLAGhHAND SIGNhWHITE FLAGdY DASHfLINEgOW LINEfOVERLINEcXING CRESCENT MOON SYMBO",
  "LhGIBBOUS MOON SYMBOLbEARY CAT FACEgFACEcDDINGdGE-TAILED RIGHTWARDS ARROWcIERSTRASS ELLI",
  "PTIC FUNCTIONdGHT LIFTERcST SYRIAC CROSSbHALEcEELf OF DHARMAfCHAIR SYMBOLcITE ARROW SHAF",
  "T WIDTH ONEyTWO THIRDSgBULLETgCHESS BISHOPs ROTATED NINETY DEGREESbbTWO HUNDRED SEVENTY ",
  "DEGREESmEQUIHOPPERw ROTATED NINETY DEGREESmKINGq ROTATED NINETY DEGREESzTWO HUNDRED SEVE",
  "NTY DEGREESnNIGHTs ROTATED FORTY-FIVE DEGREESbbNINETY DEGREESbbONE HUNDRED THIRTY-FIVE D",
  "EGREESbbTHREE HUNDRED FIFTEEN DEGREESbcWO HUNDRED SEVENTY DEGREESbnTWENTY-FIVE DEGREESs-",
  "BISHOPtQUEENtROOKmPAWNq ROTATED NINETY DEGREESzTWO HUNDRED SEVENTY DEGREESmQUEENr ROTATE",
  "D NINETY DEGREESbaTWO HUNDRED SEVENTY DEGREESmROOKq ROTATED NINETY DEGREESzTWO HUNDRED S",
  "EVENTY DEGREESmTURNED BISHOPtKINGuNIGHTtPAWNtQUEENtROOKhIRCLEm CONTAINING BLACK SMALL CI",
  "RCLEnWITH DOT RIGHTuWN ARROWsLOWER LEFT QUADRANTyRIGHT QUADRANTsTWO DOTSsUPPER LEFT QUAD",
  "RANTyRIGHT QUADRANThLUB SUIThONCAVE-SIDED DIAMONDbb WITH LEFTWARDS TICKbhRIGHTWARDS TICK",
  "gDIAMONDn CONTAINING BLACK MEDIUM DIAMONDbfSMALL DIAMONDbfVERY SMALL DIAMONDoIN SQUAREoS",
  "UIToWITH CENTRED DOThOWN POINTING BACKHAND INDEXuINDEXuLEFT HAND INDEXk-POINTING SMALL T",
  "RIANGLEuTRIANGLEhRAUGHTS KINGpMANgEXCLAMATION MARK ORNAMENTgFLAGk WITH HORIZONTAL MIDDLE",
  " BLACK STRIPEiORETTEjWERhOUR POINTED CUSPtSTARhROWNING FACEgHARD SHELL FLOPPY DISKhEARTl",
  " SUITjVY CHECK MARKmSALTIRE WITH ROUNDED CORNERSiXAGONhORIZONTAL ELLIPSEiURGLASSgLARGE S",
  "QUAREiTIN CROSShEFT LANE MERGElPOINTING BACKHAND INDEXuINDEXk-POINTING POINTERuSMALL TRI",
  "ANGLEuTRIANGLEhOZENGE CONTAINING BLACK SMALL LOZENGEgMEDIUM DIAMONDnLOZENGEnSMALL SQUARE",
  "oQUAREoTARhOON SELENAgNIBgPARALLELOGRAMhENNANTjTAGONgQUESTION MARK ORNAMENTgRECTANGLEhIG",
  "HT POINTING BACKHAND INDEXvINDEXl-POINTING PENTAGONwOINTERvSMALL TRIANGLEvTRIANGLEgSCISS",
  "ORShESAME DOThHOGI PIECEhMALL LOZENGEmSQUAREnTARiILING FACEhPADE SUIThQUAREm BUTTONnCONT",
  "AINING BLACK MEDIUM SQUAREbeSMALL SQUAREbeVERY SMALL SQUAREnWITH CENTRE VERTICAL LINEsLE",
  "FTWARDS TICKtOWER LEFT QUADRANTyRIGHT QUADRANTsRIGHTWARDS TICKtOUNDED CORNERSsUPPER LEFT",
  " QUADRANTyRIGHT QUADRANTsVERTICAL BISECTING LINEhTARhUNj BEHIND CLOUDw WITH RAINkWITH RA",
  "YSpSMALL CLOUDgTELEPHONEhOUCHTONE TELEPHONEhRAPEZIUMiIANGLE CONTAINING SMALL WHITE TRIAN",
  "GLEhWO-WAY LEFT WAY TRAFFICgUP POINTING BACKHAND INDEXsINDEXi-POINTING CHEVRONsSMALL TRI",
  "ANGLEsTRIANGLEba WITH DOTgVERTICAL BARpELLIPSEpRECTANGLEjY SMALL SQUAREf-FEATHERED RIGHT",
  "WARDS ARROWbIDE-HEADED DOWNWARDS BARB ARROWwHEAVY BARB ARROWwLIGHT BARB ARROWwMEDIUM BAR",
  "B ARROWwVERY HEAVY BARB ARROWmLEFTWARDS BARB ARROWwHEAVY BARB ARROWwLIGHT BARB ARROWwMED",
  "IUM BARB ARROWwVERY HEAVY BARB ARROWmNORTH EAST BARB ARROWxHEAVY BARB ARROWxLIGHT BARB A",
  "RROWxMEDIUM BARB ARROWxVERY HEAVY BARB ARROWsWEST BARB ARROWxHEAVY BARB ARROWxLIGHT BARB",
  " ARROWxMEDIUM BARB ARROWxVERY HEAVY BARB ARROWmRIGHTWARDS BARB ARROWxHEAVY BARB ARROWxLI",
  "GHT BARB ARROWxMEDIUM BARB ARROWxVERY HEAVY BARB ARROWmSOUTH EAST BARB ARROWxHEAVY BARB ",
  "ARROWxLIGHT BARB ARROWxMEDIUM BARB ARROWxVERY HEAVY BARB ARROWsWEST BARB ARROWxHEAVY BAR",
  "B ARROWxLIGHT BARB ARROWxMEDIUM BARB ARROWxVERY HEAVY BARB ARROWmUPWARDS BARB ARROWuHEAV",
  "Y BARB ARROWuLIGHT BARB ARROWuMEDIUM BARB ARROWuVERY HEAVY BARB ARROWcGGLY VERTICAL LINE",
  "cLTED FLOWERcND BLOWING FACEfCHIMEeOWdE GLASSdKING FACEcRED KEYBOARDbJbOLF FACEcMANf WIT",
  "H BUNNY EARSfS BOOTShCLOTHEShHAThSANDALdENS SYMBOLcN SIGNcODcRD JOINERfSEPARATOR MIDDLE ",
  "DOTdLD MAPdMdRIED FACEbRAPPED PRESENTcEATH PRODUCTdNCHdSTLERScITING HANDaX IN A RECTANGL",
  "E BOXb-RAYbIANGQI BLACK CANNONpHARIOToELEPHANToGENERALoHORSEoMANDARINoSOLDIERiRED CANNON",
  "nHARIOTmELEPHANTmGENERALmHORSEmMANDARINmSOLDIERbORaYAWNING FACEbELLOW HEARTcN SIGNcZIDI ",
  "COMBINING HAMZA MARKrMADDA MARKhHYPHENATION MARKhLETTER BEoCHHIMqIMpIMoDADqLoELIFpTpWpYN",
  "oFAoGAFoHAYpHAoJAoKAFpHAFoLAMr WITH DOT ABOVEoMIMoNUNoOWoPEpHEoQAFoRApHAoSADpEpHINpINoTA",
  "pHEoUMoVAq ALTERNATE FORMoWAWoXApHEYNoYOTr WITH CIRCUMFLEX ABOVEoZAqLpEbI RADICAL BBUTmU",
  "RlCHEmIPmUOPmYnPnTlDDURmUlGAmEPmGOPnUOmOTlHMOmXITnOPnUOlJJIEnUTnYmOlKEmITlLInEmYRlMImOPl",
  "NBIEmYIPnOPmZUPlOPlPUTmYTlQOTlSHATnOPnURnYmSIlTATmUlVEPmURlWOlYITmOlZAmOTmUPnRmZIETdSYLL",
  "ABLE AnPnTnXmBAoPoToXnBApPpTpXoEpPpXoIpEqPqTqXpPpTpXoOpPpTpXoUpOqPqXpPpRqXpTpXoYpPpTpXnE",
  "oPoXnIoEpPpTpXoPoToXnOoPoToXnUoOpPpXoPoRpXoToXnYoPoRpXoToXmCAoPoToXnEoPoXnHApPpTpXoEpPpT",
  "pXoOpPpTpXoUpOqPqTqXpPpRqXpXoYpPpRqXpTpXnIoEpPpTpXoPoToXnOoPoToXnUoOpPpXoPoRpXoToXnYoPoR",
  "pXoToXmDAoPoToXnDApPpTpXoEpPpXoIpEqPqXpPpTpXoOpPpTpXoUpOqPqXpPpRqXpTpXnEoPoXnIoEpPpXoPoT",
  "oXnOoPoToXnUoOpXoPoRpXoToXmEnXmFAoPoToXnIoPoToXnOoPoXnUoPoRpXoToXnYoPoToXmGAoPoToXnEoPoT",
  "oXnGApPpTpXoEpPpTpXoIpEqPqXpTpXoOpPpTpXoUpOqPqTqXpPpRqXpTpXnIoEpPpTpXoPoToXnOoPoToXnUoOp",
  "PpTpXoPoRpXoToXmHAoPoToXnEoPoXnIEpXoTnLApPpTpXoEpPpXoIpEqPqXpPpTpXoOpPpXoUpOqPqXpPpRqXpT",
  "pXoYpPpRqXpTpXnMApPpTpXoIpEqPqXpPpTpXoOpPpTpXoUpOqPqXpPpRqXpTpXoYpPpRqXpXnNApPpTpXoEpPpX",
  "oIpEqPqTqXpPpTpXoOPpTpXoUOqXpTnOoPoToXnUOpPpTpXnXApPpTpXoEpPpXoIpEqPqTqXpPpTpXoOpPpTpXoU",
  "OqPqTqXmInEoPoToXnPnToERATION MARKnXmJIoEpPpTpXoPoToXnJIpEqPqTqXpPpTpXoOpPpTpXoUpOqPqXpP",
  "pRqXpTpXoYpPpTpXnOoPoToXnUoOpPpTpXoPoRpXoToXnYoPoRpXoToXmKAoPoToXnEoPoToXnIoEpPpXoPoToXn",
  "OoPoToXnUoOpPpXoPoRpXoToXmLAoPoToXnEoPoXnIoEpPpTpXoPoToXnOoPoToXnUoOpPpTpXoPoRpXoToXnYoP",
  "oRpXoToXmMAoPoToXnEoXnGApPpTpXoEpPpXoIEqXoOpPpTpXoUpOqPqXpPpRqXpTpXnIoEpPpXoPoToXnOoPoTo",
  "XnUoOpPpTpXoPoRpXoToXnYoPoToXmNAoPoXnBApPpTpXoIpEqPqXpPpTpXoOpPpTpXoUpPpRqXpTpXoYpPpRqXp",
  "TpXnDApPpTpXoEpPpXoIpEqXpPpTpXoOpPpTpXoUpPpRqXpTpXnEoPoXnGApPpTpXoEpPpXoIEqPqXoOpPpTpXoU",
  "OqTqXnIoEpPpXoPoToXnJIpEqPqTqXpPpTpXoOpPpTpXoUpOqXpPpRqXpXoYpPpRqXpTpXnOoPoToXnRApPpTpXo",
  "EpPpTpXoOpPpXoUpPpRqXpTpXoYpPpRqXpTpXnUoOpPpXoPoRpXoToXnYIpEqPqTqXpPpTpXoOpPpTpXoUpOqPqX",
  "pPpTpXnZApPpTpXoEpXoIpEqPqXpPpTpXoOPpXoUpOqXpPpRqXpXoYpPpRqXpTpXmOnPnTnXmPAoPoToXnIoEpPp",
  "XoPoToXnOoPoToXnUoOpPpXoPoRpXoToXnYoPoRpXoToXmQIoEpPpTpXoPoToXnOoPoToXnUoOpPpTpXoPoRpXoT",
  "oXnYoPoRpXoToXmRAoPoToXnEoPoXnOoPoToXnRApXoEpPpTpXoOpPpTpXoUpOqXpPpRqXpTpXoYpPpRqXpTpXnU",
  "oOpPpXoPoRpXoToXnYoPoRpXoToXmSAoPoToXnEoPoXnHApPpTpXoEpPpTpXoOpPpTpXoUpOqPqXpPpRqXpTpXoY",
  "pPpRqXpTpXnIoEpPpXoPoToXnOoPoToXnSApPpTpXoEpPpXoIpEqPqXpPpTpXoOpPpTpXoUpPpTpXoYpPpRqXpTp",
  "XnUoOpPpXoPoRpXoToXnYoPoRpXoToXmTAoPoToXnEoPoXnIoEpPpXoPoToXnOoPoToXnUoOpPpTpXoPoRpXoToX",
  "mUOoPoXmVAoPoToXnEPoXnIoEpPpTpXoPoToXnOoPoToXnUoPoRpXoToXnYoPoRpXoToXmWAoPoToXnEoPoXnOoP",
  "oXnUoOpPpXmXIoEpPpTpXoPoToXnOoPoToXnUOpXnYoPoRpXoToXmYIoEpPpTpXoPoToXnOoPoToXnUoOpPpTpXo",
  "PoRpXoToXnYoPoRpXoToXmZAoPoToXnEoPoXnHApPpTpXoEpPpTpXoOpPpTpXoUpOqPqXpPpRqXpTpXoYpPpRqXp",
  "TpXnIoEpPpXoPoToXnOoPoToXnUoOpPpXoPoRpXoToXnYoPoRpXoToXnZApPpTpXoEpPpXoIpEqPqTqXpPpTpXoO",
  "pPpXoUpPpRqXpXoYpPpRqXpTpXcN YANGbO-YOaZ NOTATION BAG MEMBERSHIPlDOMAIN ANTIRESTRICTIONl",
  "LEFT BINDING BRACKETqIMAGE BRACKETlRANGE ANTIRESTRICTIONmELATIONAL COMPOSITIONmIGHT BIND",
  "ING BRACKETrIMAGE BRACKETlSCHEMA COMPOSITIONsPIPINGtROJECTIONmPOTlTYPE COLONbANABAZAR SQ",
  "UARE CLOSING DOUBLE-LINED HEAD MARKzHEAD MARKtUSTER-FINAL LETTER LAbmRAbmVAbmYAzINITIAL ",
  "LETTER RArFINAL CONSONANT MARKrINITIAL DOUBLE-LINED HEAD MARKzHEAD MARKrLETTER -AyAyBAzH",
  "AyCAzHAyDAzDAbaHAzHAzZAbaHAyGAzHAyHAyJAyKAzHAzSSAyLAyMAyNAzGAzNAzYAyPAzHAyRAySAzHAzSAyTA",
  "zHAzSAbaHAzTAbaHAyVAyYAyZAzHArMARK DOUBLE SHADwLONG TSHEGwSHADwTSHEGrSIGN ANUSVARAwCANDR",
  "A WITH ORNAMENTbcBINDUbh WITH ORNAMENTwVIRAMAySARGAsUBJOINERrVOWEL LENGTH MARKxSIGN AIbd",
  "UbcEbcIbcObdEbcREVERSED IbcUbdEbEBRA FACEcRO WIDTH JOINERlNO-BREAK SPACEnN-JOINERlSPACEc",
  "USbIPPER-MOUTH FACEbNAMENNY COMBINING ATTACHING VERTICAL OMETtLOWER TONAL RANGE INDICATO",
  "RtMARK BORZAYAyCHASHKAbf POLNAYAzURVED OMETyDEMESTVENNY ZADERZHKAzVOETOCHIEyGORAZDO NIZK",
  "O ON LEFTbpRIGHTbmS KRYZHEM ON LEFTbzRIGHTbgVYSOKOyKACHKAzRYZHbd ON LEFTzUPNAYAyLOMKAyMA",
  "LO POVYSHE ON LEFTboRIGHTblS KHOKHLOM ON LEFTbzRIGHTboRYZHEMbmTRANNOyNIZKO ON LEFTbhRIGH",
  "TbeS KRYZHEM ON LEFTbrRIGHTyOBLACHKOzNzTSECHKAyPODCHASHIEbi WITH VERTICAL STROKEbbVERTKA",
  "baVYSHE ON LEFTbjRIGHTbgS KHOKHLOM ON LEFTbuRIGHTbjRYZHEMbhTRANNOyRAVNObaZSEKAySKOBAzORO",
  "CHYA NOZHKAzREDNE ON LEFTbiRIGHTzTRANNO MALO POVYSHEyTIKHAYAzOCHKAzSATA ON LEFTbhRIGHTbe",
  "S KRYZHEMyUDARKAyVYSOKO ON LEFTbiRIGHTbfS KHOKHLOM ON LEFTbtRIGHTbiRYZHEMyZADERZHKAzELOb",
  "aVOKtTONAL RANGE MARK MRACHNObkSVETLObkTRESVETLOjNEUME CHASHKArELYUSTKApDEMESTVENNY KLYU",
  "CHrRBITSAqOUBLE ZAPYATAYAqUDAqVA V CHELNUpFITApGOLUBCHIK BORZYzMRACHNYzSVETLYzTIKHYbaRES",
  "VETLYpKHAMILOqLYUCHqOBYLAqRYUKu TIKHYsZHqUFISMApMECHIKv KLYUCHENEPOSTOYANNYbdPOVODNYbdVO",
  "YwPOVODNYpNEMKApOBLAKOqSOKAu KLYUCHEVAYA NEPOSTOYANNAYAbhSVETLAYAwRYUKOVAYA SVETLAYAvSVE",
  "TLAYAvTRESVETLAYApPALKArRAKLITrUKqEREVODKAy NEPOSTOYANNAYAqODCHASHIErLKULIZMYpREVERSED C",
  "HELYUSTKAqOGpSKAMEYTSA DVOECHELNAYA KLYUCHEVAYAbmNEPOSTOYANNAYAbmPROSTAYAbmSVETLAYAzKLYU",
  "CHENEPOSTOYANNAYAbgVAYA SVETLAYAblTIKHAYAzMRACHNAYAzSVETLAYAzTIKHAYAbaRESVETLAYAqLOZHITI",
  "Ey S KRYZHEMbbZAPYATOYzZAKRYTOEqTATYAv NEPOSTOYANNAYAwS DVUMYA ZAPYATYMIyKRYZHEMbf I ZAP",
  "YATOYyROGOMyZAPYATOYbg I KRYZHEMbjPODCHASHIEMwZAKRYTAYAbf S ZAPYATOYrOPITSAx S OCHKOMyWI",
  "TH SOROCHYA NOZHKArRELA DVOECHELNAYAbi KLYUCHEVAYAbfOKRYZHEVAYAbgPOVODNAYAbp KLYUCHEVAYA",
  "wGROMNAYAbe WITH SINGLE ZAPYATAYAbaOKRYZHEVAYAbl POVODNAYAbbPOVODNAYAbk WITH DOUBLE ZAPY",
  "ATAYAbqSINGLE ZAPYATAYAwKLYUCHENEPOSTOYANNAYAbdPOVODNAYAxRYUKOVAYAbg GROMNAYAbp WITH SIN",
  "GLE ZAPYATAYAblOKRYZHEVAYAbw POVODNAYAbmPOVODNAYAbv WITH DOUBLE ZAPYATAYAcbSINGLE ZAPYAT",
  "AYAbhPOVODNAYAbhTRYASKAzZHEVAYAwMRACHNOTIKHAYAwNEPOSTOYANNAYAwPOLUPOVODNAYAyVODNAYAxROST",
  "AYAwTIKHAYA PUTNAYAxRYASOGLASNAYAbcPOVODNAYAbcSTRELNAYApVRAKHIYA KLYUCHEVAYA MRACHNAYAbk",
  "PROSTAYAbkSVETLAYAbkTRESVETLAYAyMRACHNAYAyPROSTAYAySVETLAYAyTRESVETLAYApZANOZHEKrPYATAYA",
  "qMEYTSAjPRIZNAK MODIFIER DIRECTION FLIPbaKRYZHbaLEVEL-2bg3baROGbOMBIEbWJcNBSPdJcSP"]

/-- The listed names as one run of entries. -/
def entries : List Char := (String.join chunks.toList).toList

/-- The state of reading the entries: the name before, the shared length being read, the rest
read so far (latest first), whether the rest has begun, and whether the name sought was met. -/
structure Reading where
  before : List Char
  shared : Nat
  rest : List Char
  inRest : Bool
  found : Bool

/-- Ends the entry being read: its name becomes the name before. -/
def Reading.close (r : Reading) (sought : List Char) : Reading :=
  let name := r.before.take r.shared ++ r.rest.reverse
  { r with before := name, shared := 0, rest := [], inRest := false,
           found := r.found || name == sought }

/-- Reads one point of the entries. -/
def Reading.step (sought : List Char) (r : Reading) (c : Char) : Reading :=
  if 'a' ≤ c ∧ c ≤ 'z' then
    let r := if r.inRest then r.close sought else r
    { r with shared := r.shared * 26 + (c.toNat - 'a'.toNat) }
  else { r with rest := c :: r.rest, inRest := true }

/-- Whether a name, in upper case, is listed. -/
def isListed (sought : List Char) : Bool :=
  let r := entries.foldl (Reading.step sought) ⟨[], 0, [], false, false⟩
  (r.close sought).found

/-- The ranges of the unified ideographs. -/
def unifiedRanges : Array (Nat × Nat) := #[
  (0x3400, 0x4DBF), (0x4E00, 0x9FFF), (0x20000, 0x2A6DF), (0x2A700, 0x2B738), (0x2B740, 0x2B81D),
  (0x2B820, 0x2CEA1), (0x2CEB0, 0x2EBE0), (0x30000, 0x3134A)]

/-- The families named by their code, each with the ranges of its characters. -/
def codedFamilies : List (String × Array (Nat × Nat)) := [
  ("CJK COMPATIBILITY IDEOGRAPH-", #[(0xF900, 0xFA6D), (0xFA70, 0xFAD9), (0x2F800, 0x2FA1D)]),
  ("KHITAN SMALL SCRIPT CHARACTER-", #[(0x18B00, 0x18CD5)]),
  ("NUSHU CHARACTER-", #[(0x1B170, 0x1B2FB)])]

/-- The short names of the leading consonants. -/
def leading : List String :=
  ["G", "GG", "N", "D", "DD", "R", "M", "B", "BB", "S", "SS", "", "J", "JJ", "C", "K", "T", "P", "H"]

/-- The short names of the vowels. -/
def vowels : List String :=
  ["A", "AE", "YA", "YAE", "EO", "E", "YEO", "YE", "O", "WA", "WAE", "OE", "YO", "U", "WEO", "WE",
   "WI", "YU", "EU", "YI", "I"]

/-- The short names of the trailing consonants. -/
def trailing : List String :=
  ["", "G", "GG", "GS", "N", "NJ", "NH", "D", "L", "LG", "LM", "LB", "LS", "LT", "LP", "LH", "M",
   "B", "BS", "S", "SS", "NG", "J", "C", "K", "T", "P", "H"]

/-- The length of the longest short name among `names` at the head of `s`, if one is there. -/
def longest (names : List String) (s : List Char) : Option Nat :=
  names.foldl (fun best n =>
    if n.toList.isPrefixOf s && best.all (· < n.length) then some n.length else best) none

/-- Whether the text after `HANGUL SYLLABLE ` names a syllable. -/
def isSyllable (s : List Char) : Bool :=
  match longest leading s with
  | none => false
  | some l =>
    match longest vowels (s.drop l) with
    | none => false
    | some v =>
      match longest trailing (s.drop (l + v)) with
      | none => false
      | some t => l + v + t = s.length

/-- The value of upper-case hexadecimal digits, if all are such. -/
def hexValue? (s : List Char) : Option Nat :=
  s.foldl (fun acc c =>
    acc.bind fun n =>
      if '0' ≤ c ∧ c ≤ '9' then some (16 * n + (c.toNat - '0'.toNat))
      else if 'A' ≤ c ∧ c ≤ 'F' then some (16 * n + (c.toNat - 'A'.toNat + 10))
      else none) (some 0)

/-- A code in upper-case hexadecimal with at least four digits. -/
def hexCode (n : Nat) : List Char :=
  let ds := (Nat.toDigits 16 n).map Char.toUpper
  List.replicate (4 - ds.length) '0' ++ ds

/-- Whether the text after a prefix names a unified ideograph. -/
def isUnified (s : List Char) : Bool :=
  (s.length = 4 ∨ s.length = 5) && (hexValue? s).any (inRanges unifiedRanges)

/-- Whether an upper-case name is that of a character of a family named by its code. -/
def isCoded (upper : List Char) : Bool :=
  codedFamilies.any fun (pre, ranges) =>
    pre.toList.isPrefixOf upper &&
      let digits := upper.drop pre.length
      (hexValue? digits).any fun n => inRanges ranges n && hexCode n == digits

/-- Whether a text is the name of a character. -/
def isName (name : Text) : Bool :=
  let s := name.map Point.toChar
  let upper := s.map Char.toUpper
  let hangul := "HANGUL SYLLABLE ".toList
  let unified := "CJK UNIFIED IDEOGRAPH-".toList
  if hangul.isPrefixOf upper then isSyllable (s.drop hangul.length)
  else if unified.isPrefixOf s then isUnified (s.drop unified.length)
  else isCoded upper || isListed upper

end CharacterName

end FarmSetup
