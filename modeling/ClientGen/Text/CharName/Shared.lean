/-!
# Groups in the names of characters

The groups of endings that the outline of the names of characters has at several places, alone or
beside others. A group may call those before it.
-/

namespace ClientGen.Text.CharName

/-- The shared groups, in the order of their numbers. -/
def sharedGroups : List String :=
  ["SYMBOL", "BELOW", "ABOVE", "ARROW", "ABOVE BELOW", "FINAL(FORM) ISOLATED(FORM)", "STROKE",
   "BRACKET", "INITIAL(FORM) ISOLATED(FORM)", "OPERATOR", "LEFT RIGHT", "THOUSAND", "EQUAL(TO)",
   "ISOLATED(FORM)", "ACCENT", "CROSS", "HUNDRED", "HUNDRED THOUSAND", "DOTS(#2)", "CIRCLE",
   "LIGHT", "1 2 3 4", "#21 5 6", "0 #22", "TRIANGLE", "WITH(#6)", "ARROWHEAD", "VIRAMA VISARGA",
   "WITH(DOT)", "SEPARATOR", "FINAL(FORM)", "INITIAL(FORM)", "RIGHTWARDS(#3)", "RIGHT", "TTA TTHA",
   "O OP OT OX", "WA YA", "I O U", "ONE TWO", "ORNAMENT", "7 8 9", "#23 #40", "0 1 2",
   "COMMA FULL(STOP)", "HALF(BLACK)", "WITH(DAGESH)", "OF(CLUBS DIAMONDS HEARTS SPADES)", "KA KHA",
   "#47 LA", "GA GHA HA", "I II O OO", "MAKSURA(#5)", "SQUARE", "FULL(STOP)", "SA SHA", "L M N",
   "#22 #40", "FINAL(FORM) INITIAL(FORM)", "CIRCLE SQUARE", "OCLOCK", "THIRTY", "DOWN UP",
   "MA NA NGA", "1 2 3", "#22 7", "HEAVY", "ICHOS", "PUNCTUATION", "LITTLE", "PA PHA", "5 6 #40",
   "FIVE FOUR", "THREE TWO", "0 #21", "A E EE", "DOUBLE SINGLE", "DOTS(#1)", "TEDUNG", "ASTERISK",
   "SPOKED(#78)", "OR(#12)", "QUOTATION(MARK)", "BLOCK", "MOUTH", "SPACE", "TWELFTHS", "PILLA",
   "A AP AT AX", "#87 E EP EX", "ZA ZHA", "4 #70", "1 1A 2 3 4", "A AA E EE", "ARCHAION NEO",
   "DOTS(#4)", "LENGTH(MARK)", "OVERLAY", "PRODUCT", "KOET ROC", "DIGRAPH",
   "OF(BAMBOOS CHARACTERS CIRCLES)", "HUNDRED.(#11) THOUSAND", "TA THA", "#69 RA",
   "#8 MEDIAL(FORM)", "FINAL(FORM) #104", "NNA NYA", "E I II O", "A AA #107 OO", "E EE I O",
   "A #109 OO U", "Y YP YR YRX YT YX", "WE WEE WI", "MIDDLE(TILDE) PALATAL(HOOK)", "PIEUP RIEUL",
   "#21 5", "INSIDE", "UNDERBAR", "MARKER", "EAST(#3)", "VERTICAL(#6)", "VARIANT(FORM)",
   "PLUS(ASH)", "TURNSTILE", "WITH(HOOK)", "DIAMOND", "LONSUM", "BLACK WHITE", "#54 SSA #102",
   "AA AI AU", "5 5A 6", "7 7A 8 9", "7 8 8A 9", "ISOLATED(FORM) MEDIAL(FORM)", "ARROWS",
   "INITIAL(FORM) MEDIAL(FORM)", "HALF(RING)", "ARROW(#2)", "ANUSVARA", "DEGREES", "HORIZONTAL(#6)",
   "0<#23>", "HEADED(#3)", "ALTERNATE(FORM)", "TONE(MARK)", "AND(MACRON)", "PLASTICS", "CRESCENTS",
   "DDHA DHA", "#103 #128", "THIEUTH TIKEUT", "THREE TWENTY TWO", "#62 NYA", "2A 3 4",
   "ANUSVARA CANDRABINDU", "I O OO U", "6A #40", "3 4 #70", "GREATER[THAN] LESS[THAN]", "NOTE REST",
   "CIRCLE(#3)", "INTEGRAL", "DIAERESIS", "MAKSURA(#30)", "MAHAPRANA", "DIAGONAL", "SOLIDUS",
   "EQUILATERAL(#26)", "VERTICAL(BAR)", "PARENTHESIS", "SHELL(#7)", "DOUBLE", "DIVIDER", "AND OR",
   "WITH(TAIL)", "TRIANGLE(#26)", "BLACK(STAR)", "INDICATOR", "POINTED(#176) SPOKED(#78)", "BUBBLE",
   "HARPOON", "NOTEHEAD", "FINGERS", "THUMB(SIDE)", "CA CHA", "#184 DA", "BA BHA", "#62 #106",
   "#187 O", "I II JA JHA", "#49 #189 #48", "A AA AI AU", "A AA AAI", "CIEUC HIEUH", "CHIEUCH #193",
   "TSA TSHA", "D E F G", "A B C #196", "#130 #40", "KIYEOK MIEUM", "U WA YA", "LLA LLLA", "#73 4A",
   "CHA DA", "RETROFLEX(HOOK) STROKE", "O OP OX", "#87 E EP ET EX", "6 #40", "2 3 4 5 6",
   "A ALPHA B BETA C CHI D DELTA", "STATERS TALENTS", "LARGE SMALL", "ANO KATO", "#22 7 8",
   "SUNG TAM", "IN OUT", "SUBUNIT", "SECTION", "#41 9A", "ENVELOPE",
   "ROTATED(NINETY(#139) TWO(HUNDRED(SEVENTY(#139))))", "MARK(#39)", "MIDDLE(#33)", "BLACK(#52)",
   "ON(#223)", "WITH(#162)", "AND(BALL)", "PLUS(A)", "HEADED(#32)", "LESS[THAN]", "CORNERS",
   "POINTING(INDEX)", "BARLINE", "CHEST FRONT(WALL)", "#74 H<#110> #155", "U UU VA", "#34 #235",
   "MEM NUN", "#237 PE", "YODH ZAYIN", "ONE SEVEN", "#129 #107", "LLA #188", "SA #102", "NOON QAF",
   "#192 AY", "PIEUP SIOS", "GHAIN HAH", "#236 YA", "SAD SEEN SHEEN", "PA RA SA TA",
   "FROM(BAR) TO(BAR)", "EQUAL(TO) EQUIVALENT(TO)", "DOT(#2) HOOK", "A AA AI", "JA KA LA",
   "MA ME MI MO", "H I J K", "3 3A #90", "3 3A 4 5 6", "I O OA U WA", "CIEUC KIYEOK",
   "PALATAL(HOOK) STROKE", "#241 U UU", "4 45 456 46 5 56 6", "PALATAL(HOOK) RETROFLEX(HOOK)",
   "ONE #72", "FOUR #266", "E EP ET EX", "I.<#268 P T X> #35", "#73 #198", "#23 #131",
   "U[SHAPED(#3)]", "DOT(#2)", "AND(#273)", "DOWNWARDS", "#8 WITH(MEEM(#57))", "L LL R RR",
   "U UU VOCALIC(#277)", "VOCALIC(#277) YA", "SIGN(#241 #278)", "LEFTWARDS(#3) RIGHTWARDS(#3)",
   "POINTING(TRIANGLE.(CENTRED))", "WITH(#273)", "AND(#10)", "TO(LOWER(CENTRE))", "SIGN(I U)",
   "DODEKATA", "SIGN(#1)", "SOUND(MARK)", "PLUS(EN)", "TIMES(KUR)", "GAR(OVER(GAR))",
   "OVER(GAD(#292))", "TIMES(BAD)", "CANDRABINDU", "FORM(TWO)", "TRIANGLE[#142]", "INTERSECTION",
   "CIRCLE DIAMOND SQUARE", "SYMBOL WITH(FACE)", "HAND(SIGN)", "AND(YPOGEGRAMMENI)", "ET(#39)",
   "TOGETHER", "ITERATION(MARK)", "SIGN(#129 E EE #50 #278)", "OVER(ONE(DOT(#67)))", "AND(ACUTE)",
   "STROKE(#96)", "AND(ACUTE GRAVE)", "RIGHT(LEG)", "THROUGH(DESCENDER)", "WITH(CURL)", "HALF(O)",
   "HALF(#82)", "EIGHTHS(#82)", "HARPOON(WITH(BARB(DOWN)))", "WITH(#39)", "LINE(STAFF)", "WEST(#3)",
   "MOVEMENT", "MIDDLE(UP)", "SATANGA", "SVARITA", "LEFT(QUADRANT) RIGHT(QUADRANT)", "BARB(#3)",
   "BARB(#3) HEAVY(#326) LIGHT(#326) MEDIUM(#326) VERY(HEAVY(#326))", "ZAPYATAYA",
   "I IE IEP IEX IP IT IX", "#329 #35", "A AA #109", "#331 OA U WA", "#331 U", "#331 U WA",
   "#103 RRA", "#335 #128", "#54 #102", "HOOK LINE(#1)", "TEN THIRTY", "WE WI WO", "YA YO YU",
   "TONOS VARIA", "7<#41> 8<#41>", "NA NE NI NO", "ALEPH AYIN BETH", "S T U V W X", "#195 #34",
   "SIX #72 ZERO", "TEN TWENTY", "NOON(#30) REH(#30) YEH(#5) ZAIN(#30)", "SIXTY #339",
   "HA HE HEE HI HO HU", "#340 #341", "COLON COMMA", "TAU THETA", "ALEPH BETH", "MEDIUM SMALL",
   "LARGE #357", "LARGE LARGEST #357", "JA JHA #48", "#103 #243", "6A 6B #40", "7 7A 8 8A 9",
   "MEEM(#57) YEH(#30)", "REH(#5) YEH(#5)", "MEEM(#31) YEH(#30)", "RHA RRA", "#245 #107 OO",
   "LE LI LO LU", "DISH GESH2 SHAR2 U.(#121)", "DESCENDER HOOK", "DASHED(#3) PAIRED(#134)",
   "1<#41> 2<#41>", "#246 TIKEUT", "PANSIOS PHIEUPH", "MIEUM PHIEUPH", "KIYEOK NIEUN", "FA GA HA",
   "VA #36", "#49 JA #47", "HA I JA", "DDA #148", "WA XA YA", "#21 #198", "0 0A #22",
   "FINAL(FORM) #8", "NUKTA #27", "A BA DA", "A E I O", "E I O OO", "ONE.(#16) TEN #151",
   "STROKE VERTICAL(#6)", "6A #131", "OXIA PERISPOMENI", "AND(#394 VARIA)", "HIGH(TONE) LOW(TONE)",
   "P R RX T X", "#205 #397", "U.<#398> #111", "#35 #397", "U.<#400> #111", "MIDDLE(#33) RIGHT",
   "MULTIPLE SINGLE", "BETWEEN #403", "FORWARD SIDE", "CUBED SQUARED", "LENGTHENER",
   "CIRCUMFLEX(#14)", "WAY(LEFT(WAY(TRAFFIC)))", "0 #91 #70", "POINTED(STAR)", "CIRCLE(#1)",
   "AND(DOT(#2) LEFT(RING))", "ABOVE.(#5)", "AND(THREE(#18))", "UPWARDS(#1)", "TWO(DOTS)",
   "AS[SALAAM]", "YEH(#30)", "#8 WITH(#419)", "ALEF(#163) YEH(#30)", "#105 WITH(#364)",
   "#8 WITH(ALEF(#163) #366)", "MARK(#2)", "LEFTWARDS RIGHTWARDS", "WHITE(#32)", "SHADOWED(#426)",
   "RIGHT[#427]", "MUSICAL(NOTES)", "NINETY(#139)", "FIVE(#139)", "RIGHT(#24)", "ANTICLOCKWISE(#3)",
   "AND(HORIZONTAL(SINGLE) LEFT(SINGLE) RIGHT(SINGLE))",
   "AND(HORIZONTAL(#171) LEFT(#171) RIGHT(#171))", "DASH(HORIZONTAL VERTICAL)", "LOWER(#33)",
   "IN(SILHOUETTE)", "BACKSLASH", "HOOK(#1)", "BAR(AT(END(OF(#140))))", "INTRODUCER", "ONE(HALF)",
   "CAT(FACE) FACE", "TIMES(LAL)", "TIMES(ASH2)", "WITH(DESCENDER)", "OR(EQUAL)", "WITH(#117)",
   "EIGHTH(#82)", "ONE(#450)", "WHITE(#3)", "SHADED(#452)", "SERIF(#3)", "DOWNWARDS UPWARDS",
   "CIRCLE(#2)", "#334 WAA #112", "#331 OA U", "CLOSED(EYES)", "THAN(SIGN)",
   "ABOVE(SLANTED(EQUAL))", "SIGMA(#0)", "LUNATE(#462)", "AND(PROSGEGRAMMENI)",
   "AND(OXIA.(#464) PERISPOMENI.(#464) PROSGEGRAMMENI VARIA.(#464))", "NUKTA(#2)",
   "NO[EVIL(MONKEY)]", "WITH(DAGESH RAFE)", "STOP.(#25)", "AND(TAIL)", "WITH(CROSSED[TAIL])",
   "WITH(CURL RETROFLEX(HOOK))", "EIGHTH(#82) QUARTER(#82)", "SMALL(#19)", "ONE(QUARTER(#82))",
   "WITH(DOTS)", "ANGLE(#7)", "GREATER[THAN]", "BRACKET(#39)", "POINTED(#176)", "WHITE(#19)",
   "MEDIUM(SHADE)", "HOLDING(HANDS)", "EXCLAMATION(MARK)", "EQUALS(SIGN)",
   "WITH(DOUBLE(#39) ORNAMENT)", "ALTA BASSA", "BREAK(#84)", "MARK[1 2]", "NORTH(#119)",
   "CHARACTER", "WITH(VERTICAL(TAIL))", "WITH(DOT(#116))", "FINAL LONG.(FINAL)", "HEAD(MARK)",
   "HEART(BULLET)", "LEFTWARDS(#3)", "HITTING(CEILING FLOOR)", "HITTING(#233)", "POWERS(OF(FOUR))",
   "FOR(EVEN(#500) ODD(#500))", "MGO(RGYAN)", "INDEPENDENT(#324)", "#186 #185 DDA", "#504 #148",
   "#191 #505", "CARON CEDILLA", "#507 CIRCUMFLEX(#1)", "ANUSVARA AVAGRAHA", "#509 CANDRABINDU",
   "GIMEL HE HETH", "KAPH LAMEDH", "SAMEKH SHIN", "ACUTE BREVE", "#514 CARON", "GRAVE HOOK(#2)",
   "#506 E #190", "#517 #242", "#511 #512", "#519 #238", "SADHE #513 TAW", "DIAERESIS DOT(#4)",
   "UP UR URX", "#149 #236", "#524 #279", "A BA CA DA", "#526 GA HA", "EIGHTY FIFTY",
   "EIGHT #71 NINE", "#529 ON(#223) #240 SIX #72", "SMALL(#24) TRIANGLE", "SO SU TA TE TI TO TU",
   "QOPH RESH", "#521 TETH", "U UPSILON V W X XI Y Z ZETA", "U #523 UT UX", "KHAH LAM MEEM #244",
   "THAL THEH WAW YEH ZAH ZAIN", "KA LA #62", "BA BBA BHA", "FOURTEEN NINETEEN SEVENTEEN",
   "NNA NNNA NYA", "MACRON OXIA", "#342 VRACHY", "SIXTEEN TEN THIRTEEN", "NUKTA SIDDHAM",
   "#103 #337", "STROKE TILDE", "ACUTE BAR", "DOT(#4) #338", "ACUTE #507", "DIAGONAL(#6) DOT(#1)",
   "ACUTE CIRCUMFLEX #522 GRAVE", "#36 #89", "Y YP YT YX", "#529 #240", "#556 #348", "#556 SIX #72",
   "DIGIT(#557)", "#107 U UU", "6<#41> #343 9<#41>", "ALEF(#51) HAH(#8)", "FEH #247 HEH JEEM",
   "AIN ALEF BEH DAD DAL", "#517 #188", "FOUR NINE", "POINTER #531", "DIAMOND LOZENGE",
   "#568 SQUARE", "SQUARE STAR", "LOW(LINE) OVERLINE", "#532 U WA", "P Q R #346",
   "#197 #257 #55 O #573 Y Z", "LETTER(#574)", "CAPITAL(#575) SMALL(#575)",
   "CAPITAL(#574) SMALL(#574)", "SEMI[VOICED(#289)] VOICED(#289)", "DESCENDER DIAERESIS",
   "U UE UU UUE", "7 7A 7B 8 9", "50 51 52 53 54", "BLACK(STAR) PINWHEEL(STAR)", "POINTED(#583)",
   "#345 DALETH", "#520 #533 #534 WAW #239", "#585 #586", "#528 FORTY", "#109 OA U WA",
   "WAA #112 Y<#333>", "#335 #337 #248", "HIEUH KHIEUKH", "SIOS #150", "#199 NIEUN", "PANSIOS SIOS",
   "PA RA RRA", "SHIN(DOT) SIN(DOT)", "HALF QUARTER", "UPADHMANIYA #27", "STROKE TOPBAR",
   "MIDDLE(TILDE) OBLIQUE(#6)", "#252 GREATER[THAN]", "I JA #48", "THREE TWELVE TWO",
   "#521 WAW #239", "SUBSET SUPERSET", "#88 #269", "#88 #330", "#87 #330", "#536 #111",
   "UO UOP UOX", "#5 MAKSURA(#5)", "BACKHAND(INDEX) INDEX", "POINTING(#613)", "BOOK HEART",
   "LEFT(#44) RIGHT(#44)", "WITH(#616)", "GA HA I #539 #250 #200", "#352 #37",
   "DESCENDER MIDDLE(HOOK)", "#518 #525", "ONE.(#16) #349", "1 10 11 2 3 4 #70", "BLACK REST",
   "BENT CONJOINED", "ON(#10) S(KHOKHLOM(ON(#10)) KRYZHEM)",
   "ARABIC(FORM(SHAPING)) SYMMETRIC(SWAPPING)",
   "LETTER(ALIF BA BHE CHI DAALI DHA E FA GA GBE HA I JIIM KAF KHA KPO LAAM MIIM NHA NUN NYA O PE
QAAF RA SHA SINNYIIYHE TU U VA WAW YA YHE ZAL)",
   "MEASURE(FIRST(#216))", "LOGOGRAM(MARK)", "SEMICIRCLE(#3)", "ACTUALLY(#12)",
   "DOTS(ABOVE VERTICALLY(#2))", "HAMZA ROUND(DOT)", "AND(TWO(#18))", "#105 WITH(DOT(#1))",
   "AND(SMALL(TAH))", "LETTER(TAH(AND(#417)))", "#8 WITH(ALEF(#163) #364)", "#8 WITH(#421)",
   "HAH(#57) YEH(#30)", "#8 WITH(JEEM(#31) #366)", "AS(KORANIC(STOP(SIGN(#13))))",
   "WITH(SUPERSCRIPT(ALEF(#13)))", "WITH(LAM(WITH(ALEF(MAKSURA))))", "THOUSAND(SIGN)",
   "LEFTWARDS(#137)", "WITH(JEGOGAN)", "PIPAEM<BA GBIEE>",
   "ARROW(POINTING(DOWNWARDS(THEN(NORTH(EAST)))))",
   "ROTATED(FORTY[#431] NINETY(#139) ONE(HUNDRED(THIRTY[#431])) THREE(HUNDRED(FIFTEEN(#139)))
TWO(HUNDRED(SEVENTY(#139) TWENTY[#431])))",
   "AND(DOWNWARDS(#3) UPWARDS(#3))", "POINTING(BACKHAND(INDEX))",
   "POINTING(DOUBLE(#24) ISOSCELES(#432) #531)", "LANE(MERGE) POINTING(#613)",
   "LEFT(#24) RIGHT(#24)", "AND(CROSSBONES)", "RECYCLING(#0)",
   "NORTH(#119) RIGHTWARDS(#3) SOUTH(#119)", "CORNER CROP HALF(#7)", "LIGHT UP(#20)",
   "HORIZONTAL(#20)", "HEAVY UP(#65)", "HORIZONTAL(#65)", "DOWN(#20) UP(#20) VERTICAL(#20)",
   "DOWN(#65) UP(#65) VERTICAL(#65)", "CENTRE.(TO(#222))", "MIDDLE(LEFT(#285))", "DOWN(#20) LIGHT",
   "DOWN(#65) HEAVY", "ARCHAION NEO(#212 MESO)", "DIPLI EKFONITIKON NEO",
   "DISIMOU TETRASIMOU TRISIMOU", "SET WITH(JUSTIFICATION)", "QUADRANT(BLACK)", "TO(THE(#33))",
   "WITH(OVERLAID(#439))", "WITH(LOWERED(FLAG) RAISED(FLAG))", "ACCENT.(#1) TONE(MARK)",
   "ARROW(#2) RING(#96)", "MILLIONS(SIGN)", "LEFT(HALF) RIGHT(HALF)", "ACUTE(#14) GRAVE(#14)",
   "POINTING(#24)", "WITH(DIAERESIS LIGHT(CENTRALIZATION(#6)))", "WITH(BARB(#275))",
   "CENTRALIZATION(STROKE(#1))", "SOLIDUS(#96)", "ARROWHEAD(#1)", "UNDERLINE(#0)",
   "LETTER(AKHMIMIC(KHEI) ALFA BOHAIRIC(KHEI) CROSSED(SHEI) CRYPTOGRAMMIC(EIE GANGIA NI SHEI)
DALDA DEI DIALECT[P(ALEF HORI KAPA NI)] EIE FEI FI GAMMA GANGIA HATE HORI IAUDA KAPA KHEI KHI KSI
L[SHAPED(HA)] LAULA MI NI O OLD(COPTIC(AIN DJA ESH GANGIA HA HAT HEI HORI OOU SHEI SHIMA)
NUBIAN(NGI NYI SHIMA WAU)) OOU PI PSI RO SAMPI SHEI SHIMA SIMA SOU TAU THETHE UA VIDA ZATA)",
   "QUESTION(MARK)", "DISH VARIANT(FORM(A))", "TIMES(GAN2(TENU))", "TIMES(IGI(GUNU))",
   "TIMES(U(OVER(LAGAB(TIMES(U)))))", "PLUS(PAP(PLUS(LU3)))", "GUNU TIMES(TAK4)", "BUR(OVER(BUR))",
   "CHWA.(#225) EMISOFT(SIGN) HA HCHA HHA.(#447) HORT(I.(#174) U) HWE OFT(DE EL EM SIGN)
TRAIGHT(U.(#25))",
   "A(IE) EN(GHE) TE(TSE)", "FONT(SIZE(#0))", "ANUDATTA UDATTA", "SERIF(DIGIT(#557) NUMBER(TEN))",
   "OF(TEXT(MARK))", "ANUSVARA #387", "0<0[#141] 1[#141] 2[#141] 3[#141] 4[#141] 5[#141] 6[#141]>",
   "REVERSED[9(#81)]", "GREATER[THAN(#7)]", "EQUILATERAL(#26) TRIANGLE(#26)", "ARROW CIRCLED(#452)",
   "HARPOON(WITH(BARB(#33)))", "ARROW COMPRESSED(#3)", "TRIANGLE(ARROWHEADS)",
   "ARROW.(WITHIN(#175))", "HORIZONTAL(SECANT)", "#42 #153 #70", "DASH QUAD SPACE", "ORDINAL(#177)",
   "MARK PUNCTUATION", "ANUSVARA(#2)", "THAN(ABOVE(DOUBLE[LINE(EQUAL)]))",
   "NOT(APPROXIMATE) SINGLE[LINE(NOT(#12))]", "AND(OXIA VARIA)",
   "WITH(DASIA.(#724) OXIA PSILI.(#724) #342)", "DOTTED(#463) LUNATE(#462)", "AND(HOOK(#0))",
   "KIYEOK TIKEUT", "QUOTATION(#221)", "COMMA(#729)", "COMMA(#729) TURNED(#730)",
   "WITH(EQUILATERAL(#26) LARGE(#167))", "ARROW(#732)",
   "POINTING(ANGLE(BRACKET(#39) QUOTATION(#221)))", "BUD VINE(LEAF)",
   "EAST(ARROW POINTING(#735)) WEST(POINTING(#735))", "QUILT(SQUARE(ORNAMENT.(IN(#223))))",
   "WITH(STROKE(SIGN))", "FOUR ONE.(#17) TEN #151", "STANDARD(#0)", "SIGN(#263 VOCALIC(R))",
   "TWO(DOTS(#67))", "ACUTE DOT(#1) #516 TILDE", "AND(#743)", "WITH(HORIZONTAL(BAR))",
   "AND(DIAGONAL(#6))", "WITH(STROKE.(#312))", "RETROFLEX(HOOK)", "WITH(#748)", "AND(#748)",
   "DIGRAPH.(WITH(#265))", "WITH(STROKE.(AND(HOOK)))", "HOOK.(AND(BELT))",
   "WITH(HOOK RETROFLEX(HOOK))", "DIGRAPH(#313)", "DIGRAPH.(#749)", "WITH(LONG(LEG))",
   "TRIANGULAR(THREE(QUARTERS(#82)))", "AND(RIGHT(#758)) ONE(#450)",
   "WITH(CIRCLED(PLUS) SMALL(#19))", "RIGHT(BARB(DOWN(#180) UP(#180)))", "SHAPED(BAG(DELIMITER))",
   "WHITE(RIGHT(#231))", "EIGHTHS(#82) QUARTERS(#82)", "EMBEDDING ISOLATE MARK OVERRIDE",
   "WITH(DOUBLE(#120) VERTICAL(#6))", "TILTED(SHADOWED(#452))", "HARPOON(WITH(BARB(UP)))",
   "TORTOISE(SHELL(#479))", "LETTER(RA #36)", "PATH(AROUND(POLE))",
   "ARROW.(FROM(BAR)) DOUBLE(ARROW.(FROM(BAR))) SQUIGGLE(#3)", "CENTRE MIDDLE(#33)",
   "DIAGONAL(LOWER(MIDDLE(LEFT(TO(LOWER(CENTRE RIGHT))))) UPPER(CENTRE(TO(LOWER(#402)
UPPER(#222))) LEFT(TO(LOWER(#773) UPPER(#222))) MIDDLE(LEFT(TO(LOWER(CENTRE #402))))))",
   "CIRCULAR(ARC)", "PENCIL QUADRANT(#775)", "LE ULAR(#482)", "SHADOWED(WHITE(#52))",
   "CLOCKWISE(#3)", "LETTER(A AI ATIU B C #196 H HP I J K KP #55 NG NY O OE #573 Y YU Z)",
   "PARENTHESIS(#39)", "CURLY(#479) PARENTHESIS(#39)", "POINTING(ANGLE(#479))", "REPETITION(MARK)",
   "PING QU RU SHANG", "ARROWHEAD TACK", "STEM(TONE(BAR))", "LEFT[#787] TONE(BAR)",
   "DOTTED(#788) #788", "TRIANGULAR(COLON)", "ARROWHEAD HALF(RING) TACK", "DEPARTING(#144)",
   "WITH(DOUBLE(#39))", "NOTEHEAD(#127)", "CLEF.(OTTAVA(#487))", "LINE(STAFF) STRING(FRETBOARD)",
   "NOTE(STEM(#61))", "REDUPLICATION", "CAPITAL(#575)", "OF(NOR(#12))",
   "BA DA FA HA KA KVA LA #62 #69 QA SA SUA #102 TSA VA XA XVA YA", "SUBGROUP(OF.(#80))",
   "SEMICIRCLE(WITH(THREE(DOTS)))",
   "LETTER(A AA AK AMB AND CLOSE(E) E.<B C CH CS #196 GY H J K L LY M MP N NC NT.[SHAPED(SIGN)] NY
P R S SZ T TY V Z ZS> I II NIKOLSBURG(OE UE) O OEE OO RUDIMENTA(OE UE) SHORT(ER) U UNK US UU)",
   "LETTER(A AH AI AIN BRA CHA DHA E EHCHA EHKA EHPA EHTA EHTSA EIN GHA HA HYA I #47 KYA LA MA NA
O OIN PA #54 TA #195 U WA #89)",
   "POINTING(FLEURON)", "EQUIVALENT(TO)", "DOWN(SIGN) UP(SIGN)", "COVERING(#83)", "WITH(OVERBAR)",
   "DOWN(#231) LEFT(#231) RIGHT(#231) UP(#231)", "SMALL(ROTATIONS)", "SHOULDER(HIP(MOVE))",
   "FINGERS(CONJOINED)", "RING(LITTLE(ON))", "THUMB(FORWARD)", "#625 DIAGONAL", "OPEN WRINKLED",
   "WRINKLED YAWN", "CEILING(#211) FLOOR(#211)", "ALTERNATING.(WRIST(FLEX)) STRAIGHT WRIST(FLEX)",
   "HITTING(WALL(#75))", "DOUBLE TRIPLE", "LARGE(#75) SMALL(#75)", "STRAIGHT(#359) WRIST(FLEX)",
   "ALTERNATING #75", "THAN(ABOVE(#485))", "POINTING(ANGLE(#81))", "LAYANNA NAYANNA SAYANNA",
   "OVERBAR VERTICAL(#441)", "CURLY(#7) PARENTHESIS TORTOISE(#170)", "OF.(OR(EQUAL(TO) NOT(#12)))",
   "OPEN(BOX(#9))", "CROSSHATCH(FILL)", "DIAGONAL(#44)", "LOWER(RIGHT(FILL))", "LOWER(LEFT(FILL))",
   "DIAGONAL(SLASH)", "DOT MULTIPLICATION(#288) PLUS(#288)",
   "BO CHO CO DO FO GO HO KHHO KHO KO LO MO NGO NO NYO O PHO PO RO SO THO TO VO YO",
   "CULTIVATION(SIGN)", "MGO(SGAB(MA))", "MGO(MDUN(MA))", "POINTING(LEAF)", "EAST(#844) WEST(#844)",
   "A(RECTANGLE(BOX))", "DOWN(BARB(LEFT(#180) RIGHT(#180)))", "AND(LOWER(#758))",
   "CURLY(BRACKET(#217))", "CRESCENT(MOON(#0)) GIBBOUS(MOON(#0))",
   "LETTER(A AM ANG AT BU DA E ENN ENY GA HAR HIYO HOLO HORR II KO NGAA NUNG O ODD PU SII SSUU TTE
UC UU VIYO WI #341 YUJ)",
   "VERTICAL(LINE)", "EAST(#327) WEST(#327)",
   "CANNON CHARIOT ELEPHANT GENERAL HORSE MANDARIN SOLDIER", "ANTIRESTRICTION",
   "BINDING(#7) IMAGE(#7)", "DOUBLE[LINED(#495)] HEAD(MARK)", "ON(#10) S(KRYZHEM(ON(#10)))",
   "NAYA.(WITH(SINGLE(#328))) OKRYZHEVAYA.(POVODNAYA) OPOVODNAYA.(WITH(DOUBLE(#328) SINGLE(#328)))",
   "DANDA DIGIT(#557)", "#860 DOUBLE(DANDA)", "ELEVEN FIFTEEN", "EIGHTEEN #862",
   "EIGHT #863 #71 FOURTEEN NINE NINETEEN #240 SEVENTEEN SIX", "4<#41> 5<#41>", "3<#41> #865",
   "0<#41> #373 #866 #561", "6 67 678 68 7 78 8", "RA RE RI RO RU", "#869 SA SE SI",
   "#344 NU O PA PE PI PO PU #870", "#516 INVERTED(BREVE)", "5.<#868> #868",
   "HA HE HI HO HU I KA KE", "#874 KI KO KU", "PARENTHESIS SQUARE(#7)", "CURLY(#7) #876",
   "#877 WHITE(#169)", "PHI(#0) PI(#0)", "DOUBLE(GRAVE) #872", "#880 MACRON OGONEK",
   "E EPSILON ETA",
   "IOTA J K KAPPA L LAMDA M MU N NU O OMEGA OMICRON P PHI PI PSI Q R RHO S SIGMA T",
   "BLACK(#3) DOUBLE(#3)",
   "#884 POINTING(BUD LEAF VINE(LEAF)) SANS[#454] TRIANGLE[HEADED(ARROW.(TO(BAR)))] WHITE(#3)",
   "EXCLAMATION(MARK) FULL(STOP)", "4.<#873> #873", "MEDIUM(#175) NOTCHED(TAIL)",
   "COMPRESSED(#3) DASHED(#3)", "PAIRED(#134) QUADRUPLE(#3)", "ROCKET SANS[#454] SQUARED(#3)",
   "CIRCUMFLEX.(#744) DIAERESIS.(#145) DOT(ABOVE.(#145) BELOW)", "#507 CIRCUMFLEX",
   "DOUBLE(ACUTE GRAVE) #516 HORN.(#744) INVERTED(BREVE)", "GAMMA H I #883",
   "#882 F G #895 TAU THETA.(#0) #535", "KAPPA(#0) NABLA PARTIAL(DIFFERENTIAL) #879 RHO(#0)",
   "[A] A #505 DZA", "#898 DZHA", "SIXTY.(#11) TEN.(#11) THIRTY.(#11)", "FIVE(#79) GREEK(#15)",
   "SALTIRE SIX(#79)", "LEFT(#169) RIGHT(#169)", "3.<#887> #887", "E GA GE GI GO GU",
   "EQUALS(SIGN) #886", "GREATER[#460] HYPHEN[MINUS]", "PERCENT(SIGN) PLUS(SIGN)",
   "OXIA.(#302) PERISPOMENI.(#302)", "CHIEUCH CIEUC", "#910 SIOS SSANGCIEUC SSANGSIOS",
   "WAE WE WEO WI", "BEI(#98) BUON(#98)", "CORNER(#7) CURLY(#7)", "#876 TORTOISE(#170)",
   "QUARTERS SIXTEENTHS", "ONE(EIGHTH #598 SIXTEENTH) THREE(#916)", "#882 F FINAL(SIGMA) G",
   "KSSA LA #187 #149 #347", "3.<#41> 4.<#41>", "SVETLAYA TRESVETLAYA",
   "EXCLAMATION(MARK) QUESTION(MARK)", "SECOND(#216) THIRD(#216)",
   "EIGHT.(#17) EIGHTY.(#11) FIFTY.(#11) FIVE.(#17) FORTY.(#11) FOUR.(#17)",
   "NINE.(#17) NINETY.(#11) ONE.(#17)",
   "SEVEN.(#17) SEVENTY.(#11) SIX.(#17) #900 THREE.(#17) TWENTY.(#11) TWO.(#17)", "#924 #925 #926",
   "ANTIMONY COPPER", "6A 6B 6C #40",
   "CLOSED(#160) CONTOUR(#161) DOWNWARDS(AND(UPWARDS(OPEN(CIRCLE(#134))))) GAPPED(#160)",
   "DIAERESIS JOT", "STILE UNDERBAR", "THREE(#2) TWO(#2)", "ARABIC[INDIC(DIGIT(#933))]",
   "HAMZA(#2) INVERTED(SMALL(V(#1)))", "THREE(#18) TWO(#76)", "THREE(#94) TWO(#18)",
   "DOT(#2) SMALL(V)", "EXTENDED(#934) HAMZA(#414)", "ALEF(#51) HAH(#420)", "HEH(#135) JEEM(#8)",
   "MEEM(#105) #350", "ALEF(#51) HAH(#640)", "JEEM(#8) KHAH(#276)", "MEEM(#30) YEH(#30)",
   "ALEF(#163) HAH(#57)", "ALEF(#163) HAH(#31)", "#537 REH #249 TAH TEH #538",
   "AYB BEN #184 CHEH CO DA ECH EH ET FEH GHAD GIM HO INI JA JHEH KEH KEN LIWN MEN NOW OH PEH PIWR
RA REH SEH SHA TIWN TO",
   "GGA GKWAEN I JAEM", "MBA NA NDA NGA", "#506 E #49 #189", "#34 U UU VEDIC(#138)",
   "ABBREVIATION(SIGN) ANJI", "EIGHT #528 FIVE FORTY", "SEVENTY SIX #351 #151",
   "BISHOP.(#220) EQUIHOPPER.(ROTATED(#430)) KING.(#220)",
   "PAWN.(#220) QUEEN.(#220) ROOK.(#220) TURNED(BISHOP KING KNIGHT PAWN QUEEN ROOK)",
   "#957 KNIGHT.(#651)[BISHOP QUEEN ROOK] #958", "DOUBLE(TRIANGLE.(WITH(#168))) ISOSCELES(#432)",
   "BULLET EQUILATERAL(#26)", "ARROW ARROWHEAD", "ELLIPSE RECTANGLE",
   "HARD(SHELL(FLOPPY(DISK))) HEART.(SUIT)", "HEXAGON HORIZONTAL(ELLIPSE) HOURGLASS",
   "PARALLELOGRAM PENNANT PENTAGON", "QUESTION(#221) RECTANGLE", "#901 #902 WHITE(#58)",
   "BLACK(#19) INTEGRAL #903", "LEFT(#660) PARENTHESIS RIGHT(#660)", "HORIZONTAL #10", "AND(#971)",
   "DOUBLE(#436) DOWN.(#972)", "QUADRUPLE(#436) RIGHT TRIPLE(#436)", "CROSS DIAMOND",
   "ONE.(#17) SEVEN", "UPADHMANIYA VISARGA", "2.<#904> #904",
   "APLI(DYO(#287)) DIGRAMMOS(EX(#287)) MONOGRAMMOS(TESSERA(#287))",
   "TRIGRAMMOS(OKTO(#287)) TRITIMORION", "DIFONIAS MONOFONIAS", "ZA ZE ZEE ZI ZO ZU",
   "WA #112 WO WU", "SA SE SEE SI SO SU", "A AA AY #107 OO", "HA HAA HI HII HO HOO",
   "QUESTION(MARK) SECTION(MARK)", "DANDA DOUBLE(DANDA)", "SA SE SI SO SU SV",
   "A D<A E I LA O U V> #905 GV H<A E I NA O U V> I KA LA #369 LV #256 MU MV N<A AH E #37 V> O
QU<A E #37 V> S #989 T<A E I LA #369 LV #989> U V WA #340 WU WV YA YE YI YO YU YV",
   "KHIEUKH.(A) KIYEOK.(A) MIEUM.(A) NIEUN.(A) PHIEUPH.(A) PIEUP.(A) RIEUL.(A) SIOS.(A)
THIEUTH.(A) TIKEUT.(A)",
   "EVEN IX OCIETY PECIAL TOCK TUDY", "EARTH EIGHT ENTERPRISE", "FINANCIAL FIRE #71 HAVE",
   "METAL MOON NAME", "TEN #72 WATER WOOD", "UKRAINIAN(IE) VE", "OPEN(MARK(#1)) OVERLINE",
   "AZU BIG(YUS) BUKY", "CHRIVI DJERVI DOBRO",
   "FITA FRITU GLAGOLI HERU I INITIAL(IZHE) IOTATED(BIG(YUS) SMALL(YUS)) IZHE",
   "LJUDIJE MYSLITE NASHI ONU", "POKOJI RITSI SHA SHTA",
   "TSI TVRIDO UKU VEDE YATI YERI YERU YESTU YO YU ZEMLJA ZHIVETE",
   "LETTER(#999 CAUDATE(CHRIVI) #1000 DZELO #1001 IZHITSA KAKO LATINATE(MYSLITE) #1002 OTU
PE #1003 SHTAPIC SLOVO SMALL(YUS.(#174)) SPIDERY(HA) TROKUTASTI(A) #1004)",
   "TETRASEME TRISEME", "HALF(RING(#4)) HARPOON(#2)", "LEFT(HALF.(#1)) RIGHT(HALF.(#1))",
   "SOLIDUS(#96) STROKE(#96) VERTICAL(LINE(#96))", "LONG(#140) OVERBAR", "NINE(#16) NINETY",
   "EIGHT(#16) #528 FIVE(#16) FORTY FOUR(#16) #1011 ONE(#16) SEVEN(#16) SEVENTY SIX(#16) #351
THREE(#16) TWENTY TWO(#16)",
   "ASH.(TENU) BAN2.(#121) BURU DISH GESH2 GESHU SHAR2 SHARU", "ESHE3 GESH2 GESHU",
   "GAL GAN2(TENU)", "MIDDLE(HOOK) TAIL", "CHE E.(WITH(#620))", "SE SHE SSE SWE WE",
   "A.(WITH(BREVE DIAERESIS)) ABKHASIAN(CHE.(#447) DZE HA) ALEUT(KA) B<ARRED(O.(#225)) ASHKIR(KA)
E IG(YUS) INOCULAR(O) LENDED(YUS) ROAD(OMEGA) YELORUSSIAN[UKRAINIAN(I)]> CCHE CHE.(WITH(#579
VERTICAL(#6))) CLOSED(LITTLE(YUS)) CROSSED(O) D<CHE E JE JERV OUBLE(MONOCULAR(O) O) WE ZE ZELO ZHE
ZWE ZZE ZZHE> E.<F L.(WITH(#371 #1016)) M.(#174) N.(WITH(#371 LEFT(HOOK) #1016)) R.(WITH(TICK))
S.(#447)>(#225) FITA GHE.(WITH(#620 STROKE.(AND(HOOK)) UPTURN)) GJE HA.(WITH(#371 STROKE))
HARD(SIGN) HWE I.(WITH(DIAERESIS GRAVE MACRON)) IE.(WITH(BREVE GRAVE)) IO IOTA IOTIFIED(A BIG(YUS)
CLOSED(LITTLE(YUS)) E LITTLE(YUS) YAT) IZHITSA.(WITH(DOUBLE(GRAVE(#14)))) JE KA.(WITH(#371 #392))
KHAKASSIAN(CHE) KJE KOMI(DE DJE DZJE LJE NJE SJE TJE ZJE) KOPPA KSI LHA LITTLE(YUS) LJE",
   "MONOCULAR(O) MONOGRAPH(UK)", "NEUTRAL(YER) NJE O.(#225) OMEGA.(WITH(TITLO)) OT",
   "PE.(WITH(#620)) PSI QA REVERSED(DZE TSE YU ZE) RHA ROUND(OMEGA)",
   "U.(WITH(DIAERESIS DOUBLE(ACUTE) MACRON)) UK",
   "Y<A AE AT ERU.(WITH(BACK(YER) DIAERESIS)) I N U> ZE.(WITH(#579)) ZEMLYA ZHE.(WITH(BREVE #579))
ZHWE",
   "CIRCLE TRIANGLE", "AND(HORIZONTAL.(WITH(#1025 WAVE)))", "#55 NG R S SH",
   "LETTER(AY BEE CHEE DEE E<F #1027 TH W> GAY H JEE KAY LONG(A AH #390) OI OW PEE SHORT(A
AH #390) TEE THEE VEE WU YEE ZEE ZHEE)",
   "DIGIT(#558) NUMBER(TEN)", "HALANTA NUKTA", "FISH(TAIL) RIGHT(DIAGONAL(ELLIPSIS))",
   "DOUBLE(#6) EQUILATERAL(#26) HORIZONTAL(#6) LARGE(#175) #888 SMALL(#710) TIP(#425)",
   "AND(RIGHT(#451)) FROM(BAR)", "MEDIUM(SHAFT) NARROW(SHAFT) VERY(HEAVY(SHAFT))",
   "TO(BAR) WITH(BOLD(SHAFT) DOUBLE(#140) HEAVY(SHAFT) LONG(TIP(#425)) #1034)",
   "BLACK(#711) #889 DOUBLE(#3) FINGER[POST(#3)] HARPOON(WITH(BARB(LEFT(BESIDE(DOWNWARDS(#712)
UPWARDS(#712)) #251) LEFTWARDS RIGHT(#251) RIGHTWARDS))) HEAVY(#713) #890 #891",
   "CIRCLE DOT GRAVE LINE LONG(GRAVE) TIGHT(ACUTE) VERTICAL.(SECANT) WAVE", "20 21 22 23 24",
   "POINTED(#583 RECTILINEAR(#176)) SPOKED(#78) TEARDROP[SPOKED(PROPELLER(#78))]",
   "CE CHE DE DHE E EI", "TE THE U VE XE Y",
   "LETTER(A BBE BE #1040 FE GA HA HHA I IJE JE KA LA LLA ME NE NJE O PE QA RE SE SHE #1041 ZE)",
   "PROTECTED(AREA) SELECTED(AREA)", "TEXT TRANSMISSION.(#82)", "NINETY SEVENTY", "H<#332> I O OA",
   "AMPERSAND APOSTROPHE ASTERISK",
   "CIRCUMFLEX(#14) #354 COMMERCIAL(AT) DIGIT(#557) DOLLAR(SIGN) #906 GRAVE(#14) #907 LATIN(#576)",
   "LESS[#460] LOW(LINE)", "NUMBER(SIGN) #908", "QUESTION(MARK) QUOTATION(MARK) REVERSE(#166)",
   "SEMICOLON SOLIDUS", "TILDE VERTICAL(LINE)", "AN BAN CAN CHAR CHIN CIL DON", "GAN GHAN HAE HAR",
   "HE HIE HOE IN JHAN JIL KAN KHAR", "LAS MAN NAR ON PAR PHAR QAR RAE SAN SHIN TAN TAR",
   "UN VIN WE XAN YN ZEN ZHAR", "LETTER(AEN #1054 EN #1055 #1056 #1057 #1058)",
   "AEN AIN #1054 ELIFI EN FI #1055 HARD(SIGN) #1056 LABIAL(SIGN) #1057 TURNED(GAN) #1058",
   "#129 EE I II OO", "SIGN(#1061 U UU)", "#252 LESS[THAN]",
   "BUT(NOT(#252)) CLOSED(BY(CURVE.(#461)))", "SIGN WITH(CIRCLE(#116) DOT QUESTION(#424))",
   "PROSGEGRAMMENI PSILI.(#465)", "WITH(DASIA.(#465) OXIA #1066 #342)",
   "DASIA.(#395) DIALYTIKA #543", "PSILI.(#395) #544",
   "WITH(DASIA.(#395) DIALYTIKA.(AND(#394 #342)) #543 PERISPOMENI #1069)", "BETA CHI DELTA",
   "OMICRON.(#725) PAMPHYLIAN(DIGAMMA) PHI PI PSI", "SAN SHO SIGMA", "VARIA.(#302) YPOGEGRAMMENI",
   "AND(#909 #1074)", "#909 PSILI.(#1075) TONOS", "WITH(DASIA.(#1075) #1076 #1074)",
   "NUKTA SHADDA SUKUN", "ABBREVIATION(SIGN) DIGIT(#557)", "FA GA GHA GHHA",
   "#910 E EO EU HIEUH I IEUNG", "KHIEUKH KIYEOK.[SIOS]", "#150 U WA #912", "SSANGSIOS #150",
   "KAPYEOUNPIEUP KHIEUKH", "PIEUP SSANGPIEUP", "WAW YODH ZAYN", "PREPONDERANCE TAMING",
   "BA BE BI BO BU DA DE DI DO DU #905 #875", "VU WA #353 ZA ZE ZI ZO ZU",
   "#356 DALETH #519 MEM[QOPH] NUN PE", "WAW[AYIN[RESH]] #239", "#103 RHA #128",
   "ABBREVIATION(SIGN) DANDA DOUBLE(DANDA SECTION(MARK))",
   "#190 #201 MA NA NAKAARA(POLLU) NGA #106 O OO", "JIHVAMULIYA #546", "AI(#95) DIGIT(#557)",
   "#913 MUOY(#98) PII(#98)", "BEI BUON MUOY PII", "#191 #540 #185 DDA DDDA #148 E GA GGA GHA",
   "ACUTE BREVE.(#744) CARON #892 #881", "RING(ABOVE.(#308) BELOW) #548",
   "A E.(WITH(ACUTE MACRON))", "NGLICANA(W) O U V.(#745) Y", "DOT(#4) FLOURISH #338",
   "#549 CARON CEDILLA.(#308) CIRCUMFLEX",
   "#515 CEDILLA.(AND(BREVE)) CIRCUMFLEX.(AND(#743) BELOW) #522", "STROKE TILDE.(#1)",
   "#514 #893 #253 MACRON OBLIQUE(#6)", "BREVE(#1) #893 DESCENDER #522",
   "#515 CIRCUMFLEX DIAERESIS.(#308)", "CIRCUMFLEX CROSSED[TAIL] STROKE",
   "#551 DESCENDER #552 #338 OBLIQUE(#6)", "DOT(#4) HOOK",
   "DESCENDER DOT(#4) GRAVE LEFT(HOOK) LINE(#1) LONG(#311)", "#515 #892 #894 LONG(#309) LOOP",
   "STROKE.(#308) TILDE.(AND(ACUTE DIAERESIS MACRON))", "I LD(POLISH(O)) MEGA O",
   "ACUTE DOT(#2) FLOURISH HOOK", "SQUIRREL(TAIL) STROKE.(#312)",
   "DOT(ABOVE BELOW.(#145)) DOUBLE(GRAVE)", "INVERTED(BREVE) LINE(#1)",
   "ACUTE.(#274) CARON.(#274) CEDILLA CIRCUMFLEX COMMA(#1)", "DOT(ABOVE BELOW.(#274)) HOOK",
   "SHORT(#309) SWASH(TAIL)", "#508 COMMA(#1)", "INSULAR(G) K L",
   "#515 CIRCUMFLEX.(#1) DIAERESIS.(AND(ACUTE CARON GRAVE MACRON) BELOW) DOT(#1) #894",
   "MACRON.(AND(#162)) OGONEK", "STROKE TILDE.(AND(ACUTE) BELOW)", "DIAERESIS DOT(#2)",
   "#553 HOOK.(#2) LOOP MACRON", "ACUTE CARON CIRCUMFLEX", "DESCENDER #550",
   "CON CUATRILLO.(WITH(COMMA))", "GAMMA GHA GLOTTAL(A I STOP U)",
   "VEND VISIGOTHIC(Z) VOLAPUK(AE OE UE) VY", "A AE B BARRED(B)", "LINE(#1) #113",
   "HOOK LONG(LEG.(#750))", "V W Y.(WITH(BELT))", "RING(#2) SHORT(#311)",
   "PARENTHESIS QUOTATION(MARK) WIGGLY(FENCE)", "BLACK(CIRCLE STAR) BLOCK",
   "MEDIUM(SHADE) RUNNING(MAN)", "SANS[#454] TRIANGLE[#142]",
   "EMIDIRECT(#97) EVEN(#316) IDEWAYS(U(#7)) INGLE(#81)",
   "PEECH(#179) QUARE(BRACKET.(EXTENSION LOWER(CORNER) UPPER(CORNER) WITH(DOUBLE(#6) QUILL STROKE
TICK(IN(BOTTOM(CORNER) TOP(CORNER))) UNDERBAR))) UBSTITUTION(#7)",
   "ACK HIRD(#763) HOUGHT(#179) HREE(#764) ORTOISE(#170) RANSPOSITION(#7)",
   "BLACK(LENTICULAR(#7) TORTOISE(#170)) CEILING",
   "CORNER(#7) CURLY(BRACKET.(LOWER(HOOK) MIDDLE(PIECE) UPPER(HOOK))) DOTTED(SUBSTITUTION(#7))",
   "FISH(TAIL) FIVE(#316) FLOOR", "HAND(TELEPHONE(RECEIVER)) LOW(PARAPHRASE(#7))",
   "NORMAL(FACTOR(SEMIDIRECT(#97))) ONE(#473)",
   "OUTER(JOIN) PARENTHESIS.(EXTENSION LOWER(HOOK) UPPER(HOOK)) RAISED(OMISSION(#7))",
   "VERTICAL(BAR(WITH(QUILL)) BOX(LINE)) WHITE(#914 LENTICULAR(#7) #915) WIGGLY(FENCE)",
   "FACING(ARMENIAN(ETERNITY(SIGN)) FIST SVASTI(SIGN.(#476))) HANDED(INTERLACED(PENTAGRAM))
POINTING(ANGLE(#7) CURVED(#477) DOUBLE(ANGLE(#81)) MAGNIFYING(GLASS)) SHADED(#426)",
   "ALMOST(#12) REVERSE(ALMOST(#12) TILDE(#9))",
   "DOTTED(STEM) DOUBLE(#120) EQUILATERAL(#26) HOOK LARGE(#175) LOOP #888 PLUS(#1) SMALL(#710)
STROKE TAIL.(#766) TIP(#455) VERTICAL(#6)",
   "AND(UPPER(AND(LOWER(#451)))) FROM(BAR.(TO(BLACK(#125))))", "BELOW(LONG(DASH)) #251",
   "TO(BAR) WITH(BOLD(SHAFT) DOUBLE(HORIZONTAL(#6) VERTICAL(#6)) HEAVY(SHAFT)
LONG(TIP(#455)) #1034)",
   "BACK[#767] BLACK(#711)",
   "#889 DOUBLE(ARROW.(FROM(BAR) WITH(#392))[TAIL] DASH(#3)) FINGER[POST(#3)] FRONT[#767] HAND",
   "HEAVY(#713) LEFT[#453] OPEN[#142] #890 RIGHT[#453] #891 SQUIGGLE(#3) TOP(#453)",
   "TRIPLE(ARROW DASH(#3)) TWO(#142)[HEADED(ARROW(FROM(BAR) WITH(DOUBLE(#120) TAIL.(#766)
TRIANGLE(ARROWHEADS) VERTICAL(#6))) TRIPLE(DASH(#3)))] WAVE(#3)",
   "SALTIRE SHADE", "0[VAS] 1[VAS] 2[VAS] 3[VAS] 4[VAS] 5[VAS] 6[VAS] 7[VAS] 8[VAS]",
   "DOT(#2) DOUBLE(OVERBAR UNDERBAR) HORIZONTAL(DASH) MIDDLE(STEM)",
   "BLOCK(DIAGONAL(LOWER(CENTRE(TO(LOWER(#222) UPPER(#402))) LEFT(TO(LOWER(#222) UPPER(#773)))
MIDDLE(LEFT(TO(UPPER(CENTRE #402))))) UPPER(MIDDLE(LEFT(TO(UPPER(CENTRE RIGHT))))))) CORNER(#28)",
   "BLADE(SCISSORS) FIVE(#316)", "SEVEN(#316) THREE(#764) TRIANGULAR(#475)",
   "ONE[HUNDRED[AND[SIXTIETH]]] QUARTER", "EIGHTIETHS #916", "#62 #542 O OO",
   "A BA #185 DZA GA HA JA #48 #152 #547 #195 #554", "#918 #895 #355 #535",
   "CAPITAL(#209 #896) EPSILON(#0) #897", "SMALL(#209 #1177) THETA(#0)", "DIGIT(#557) EPSILON(#0)",
   "ITALIC(#1178 #1179) #897", "DIGIT(#557) SMALL(#574)", "SQUARE(#7) TORTOISE(#170)",
   "ANGLE(#7) DOUBLE(#477) FLATTENED(#169) WHITE(#1183)", "#863 #541 #545 TWELVE",
   "ELLIPSIS FOUR(DOTS)", "LEFT(HALF(#19)) RIGHT(HALF(#19)) TRIANGLE", "PHRASE SLUR TIE",
   "#241 PRISHTHAMATRA(E)", "VOCALIC(#277) #36", "#396 RISING(TONE)", "EQUALS(SIGN) NOT(#12)",
   "ABOVE(ALMOST(#12) EQUALS(SIGN) NOT(ALMOST(#12) EQUAL(TO)) SINGLE[LINE(#1192)]) BUT(NOT(#807))
OR(#252) UNDER(RELATION)",
   "ABOVE(ALMOST(#12) #1192 TILDE(#9)) OR(EQUAL(TO.(#283))) WITH(NOT(#12))",
   "ANGLE(#7) BLACK(LENTICULAR(#7)) #914 DOUBLE(#477) #915", "ONE(SOUND(WAVE)) THREE(SOUND(WAVES))",
   "HAGALL(H) MADR(M)", "AU #505 E #190 #188", "CURVED STRAIGHT.(ALTERNATING DOUBLE)",
   "LARGE(#403) SEQUENTIAL SMALL(#403)", "CONTACT NEUTRAL", "NO(THUMB) THUMB(#405)",
   "NO(THUMB) OPEN.(#1202)", "RAISED(KNUCKLE) RING(#68)", "RAISED(KNUCKLE) THUMB",
   "BENT FOUR(BENT)", "CURVE STRAIGHT", "MEDIUM(#75) SMALL(#75)", "STRAIGHT(#321) WRIST(FLEX)",
   "ROTATION[FLOORPLANE(#826) WALLPLANE(#826)] SHAKING", "DAYANNA DDAYANNA GAYANNA JAYANNA",
   "BAYANNA CAYANNA #1211 KAYANNA PAYANNA TAYANNA TTAYANNA", "EEYANNA EYANNA",
   "GAETTA[#86] GAYANUKITTA", "#919 VA YA #89", "EIGHT EQUALS(SIGN) #71",
   "LEFT(#169) MINUS NINE ONE PLUS(SIGN) RIGHT(#169) SEVEN #348", "#184 FA HA #47 KXA #69 RATHA",
   "BUTTON(MOUSE) CONSECUTIVE(EQUALS(SIGNS))", "GCIG GNYIS GSUM",
   "INVERTED(MCHU(CAN)) LCE(TSA(CAN))", "TRIANGLE TRIANGULAR(#482)", "0.<#41> 1.<#41> 2.<#41> #920",
   "5.<#41> 6.<#41> 7.<#41> 8.<#41> 9.<#41>", "1.<#1223 #1224> 2.<#1223 5.<#23> #207> #920 #1224",
   "U.<#398> #555", "#88 I.<#268 P T X>", "UO UOP UOT UOX", "UO UOX #523 UX #111",
   "#88 H<#206 #35 #399> #330", "SVETLAYA TIKHAYA", "MRACHNAYA PROSTAYA #921"]

end ClientGen.Text.CharName
