/-!
# Further names of characters

Some characters go by more names than their own: control characters, which have none, by those of
their functions, and others by abbreviations and by corrected names.
-/

namespace RoutePattern

/-- The further names of characters, in the order of the code points. -/
def furtherNames : String :=
  "0000=0NULL,0000=0NUL,0START OF HEADING,0001=0SOH,0START OF TEXT,0002=0STX,0END OF TEXT,0003=0ETX,
   0END OF TRANSMISSION,0004=0EOT,0ENQUIRY,0005=0ENQ,0ACKNOWLEDGE,0006=0ACK,0ALERT,0007=0BEL,
   0BACKSPACE,0008=0BS,0CHARACTER TABULATION,0009=0HORIZONTAL TABULATION,0009=0HT,0009=0TAB,
   0LINE FEED,000A=0NEW LINE,000A=0END OF LINE,000A=0EOL,000A=0LF,000A=0NL,0LINE TABULATION,
   000B=0VERTICAL TABULATION,000B=0VT,0FORM FEED,000C=0FF,0CARRIAGE RETURN,000D=0CR,0SHIFT OUT,
   000E=0LOCKING-SHIFT ONE,000E=0SO,0SHIFT IN,000F=0LOCKING-SHIFT ZERO,000F=0SI,0DATA LINK ESCAPE,
   0010=0DLE,0DEVICE CONTROL ONE,0011=0DC1,0DEVICE CONTROL TWO,0012=0DC2,0DEVICE CONTROL THREE,
   0013=0DC3,0DEVICE CONTROL FOUR,0014=0DC4,0NEGATIVE ACKNOWLEDGE,0015=0NAK,0SYNCHRONOUS IDLE,
   0016=0SYN,0END OF TRANSMISSION BLOCK,0017=0ETB,0CANCEL,0018=0CAN,0END OF MEDIUM,0019=0EOM,
   0SUBSTITUTE,001A=0SUB,0ESCAPE,001B=0ESC,0INFORMATION SEPARATOR FOUR,001C=0FILE SEPARATOR,
   001C=0FS,0INFORMATION SEPARATOR THREE,001D=0GROUP SEPARATOR,001D=0GS,0INFORMATION SEPARATOR TWO,
   001E=0RECORD SEPARATOR,001E=0RS,0INFORMATION SEPARATOR ONE,001F=0UNIT SEPARATOR,001F=0US,0SP,
   007F=0DELETE,007F=0DEL,0PADDING CHARACTER,0080=0PAD,0HIGH OCTET PRESET,0081=0HOP,
   0BREAK PERMITTED HERE,0082=0BPH,0NO BREAK HERE,0083=0NBH,0INDEX,0084=0IND,0NEXT LINE,0085=0NEL,
   0START OF SELECTED AREA,0086=0SSA,0END OF SELECTED AREA,0087=0ESA,0CHARACTER TABULATION SET,
   0088=0HORIZONTAL TABULATION SET,0088=0HTS,0CHARACTER TABULATION WITH JUSTIFICATION,
   0089=0HORIZONTAL TABULATION WITH JUSTIFICATION,0089=0HTJ,0LINE TABULATION SET,
   008A=0VERTICAL TABULATION SET,008A=0VTS,0PARTIAL LINE FORWARD,008B=0PARTIAL LINE DOWN,008B=0PLD,
   0PARTIAL LINE BACKWARD,008C=0PARTIAL LINE UP,008C=0PLU,0REVERSE LINE FEED,008D=0REVERSE INDEX,
   008D=0RI,0SINGLE SHIFT TWO,008E=0SINGLE-SHIFT-2,008E=0SS2,0SINGLE SHIFT THREE,
   008F=0SINGLE-SHIFT-3,008F=0SS3,0DEVICE CONTROL STRING,0090=0DCS,0PRIVATE USE ONE,
   0091=0PRIVATE USE-1,0091=0PU1,0PRIVATE USE TWO,0092=0PRIVATE USE-2,0092=0PU2,0SET TRANSMIT STATE,
   0093=0STS,0CANCEL CHARACTER,0094=0CCH,0MESSAGE WAITING,0095=0MW,0START OF GUARDED AREA,
   0096=0START OF PROTECTED AREA,0096=0SPA,0END OF GUARDED AREA,0097=0END OF PROTECTED AREA,
   0097=0EPA,0START OF STRING,0098=0SOS,0SINGLE GRAPHIC CHARACTER INTRODUCER,0099=0SGC,
   0SINGLE CHARACTER INTRODUCER,009A=0SCI,0CONTROL SEQUENCE INTRODUCER,009B=0CSI,0STRING TERMINATOR,
   009C=0ST,0OPERATING SYSTEM COMMAND,009D=0OSC,0PRIVACY MESSAGE,009E=0PM,
   0APPLICATION PROGRAM COMMAND,009F=0APC,0NBSP,00AD=0SHY,01A2=0LATIN CAPITAL LETTER GHA,
   0LATIN SMALL LETTER GHA,034F=0CGJ,061C=0ALM,0709=0SYRIAC SUBLINEAR COLON SKEWED LEFT,
   0CDE=0KANNADA LETTER LLLA,0E9D=0LAO LETTER FO FON,0E9F=0LAO LETTER FO FAY,0EA3=0LAO LETTER RO,
   0EA5=0LAO LETTER LO,0FD0=0TIBETAN MARK BKA- SHOG GI MGO RGYAN,
   11EC=0HANGUL JONGSEONG YESIEUNG-KIYEOK,0HANGUL JONGSEONG YESIEUNG-SSANGKIYEOK,
   0HANGUL JONGSEONG SSANGYESIEUNG,0HANGUL JONGSEONG YESIEUNG-KHIEUKH,180B=0FVS1,0FVS2,0FVS3,0MVS,
   0FVS4,200B=0ZWSP,0ZWNJ,0ZWJ,0LRM,0RLM,202A=0LRE,0RLE,0PDF,0LRO,0RLO,0NNBSP,205F=0MMSP,0WJ,
   2066=0LRI,0RLI,0FSI,0PDI,2118=0WEIERSTRASS ELLIPTIC FUNCTION,2448=0MICR ON US SYMBOL,
   0MICR DASH SYMBOL,2B7A=0LEFTWARDS TRIANGLE-HEADED ARROW WITH DOUBLE VERTICAL STROKE,
   2B7C=0RIGHTWARDS TRIANGLE-HEADED ARROW WITH DOUBLE VERTICAL STROKE,
   A015=0YI SYLLABLE ITERATION MARK,AA6E=0MYANMAR LETTER KHAMTI LLA,
   FE18=0PRESENTATION FORM FOR VERTICAL RIGHT WHITE LENTICULAR BRACKET,FEFF=0BYTE ORDER MARK,
   FEFF=0BOM,FEFF=0ZWNBSP,122D4=0CUNEIFORM SIGN NU11 TENU,
   0CUNEIFORM SIGN NU11 OVER NU11 BUR OVER BUR,16E56=0MEDEFAIDRIN CAPITAL LETTER H,
   0MEDEFAIDRIN CAPITAL LETTER NG,16E76=0MEDEFAIDRIN SMALL LETTER H,0MEDEFAIDRIN SMALL LETTER NG,
   1B001=0HENTAIGANA LETTER E-1,1D0C5=0BYZANTINE MUSICAL SYMBOL FTHORA SKLIRON CHROMA VASIS"

end RoutePattern
