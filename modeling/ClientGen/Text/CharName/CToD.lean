/-!
# Names of characters from C to D

A part of the outline of the names of characters, in lines.
-/

namespace ClientGen.Text.CharName

/-- The outline of the names that start with a letter from C to D. -/
def cToD : String :=
"C<A<CTUS DA(UNA) DUCEUS LENDAR LL(ME(HAND)) MERA.(WITH(FLASH)) MPING N.<ADIAN(SYLLABICS(A.<A AI
AY I IVILIK(B) N THAPASCAN(M S) Y> BEAVER(DENE(L R)) BIBLE[CREE(Y)] BLACKFOOT(A E I KA KE KI
KO #344 O S W WA #340) C.<#192 ARRIER(CH<A #109 U> D<EE ENE(GEE) ENTAL(S) I LA LE LEE LI LO
LU #982> EE G<#92 #352 I O U WA WU> H.<EE I #983> I INITIAL(Z) J<#74 I JA JE JEE JI JO JU O U WA>
K<#352 K KA KE KEE KI KO KU> L<#74 #619> MA ME MEE MI MO MU N<#74 G #37> P PA PE PEE PI PO PU RA
RE REE RI RO RU S<#74 H #619> T<#352 L<#74 #619> #984 T<A #109 #984 U>> #983 YA YE YEE YI YO YU
Z #982) E HI(SIGN) #50 W<#108>> E EASTERN(W) EN F.<#192 E I II INAL(ACUTE BOTTOM(#136)
DOUBLE(ACUTE SHORT(VERTICAL(STROKES))) DOWN(TACK) GRAVE MIDDLE(DOT) PLUS RAISED(DOT) RIGHT(#136)
RING SHORT(#140) SMALL(RING) TOP(#136)) O OO ULL(STOP) WAA> GLOTTAL(STOP) HK HYPHEN I II IN
K.<#368 W.<#985>> L.<#245 E H #986 #50 W<#108>> M.<#245 E EDIAL(L R) H #50 OOSE[CREE(SK)] W<#108>>
N.<#192 ASKAPI(CWAA KWAA MWAA NWAA S<CWA KW KWA PWA TWA WAA>[W] TWAA WAA WOO YWAA) ATTILIK(#986
SHR<A AA #50>) AY E G.<#192 AI #50> H I II NG.<A AA #50> O OO OY UNAVIK(H.<#108>) UNAVUT(H)
W<#108>>[CREE(THE THI THII)] O OJIBWAY(C K M N NWI NWII NWO NWOO P S SH T) ON OO OY P.<#368 OY
W<#108 OY>> Q.<#192 AI #50> R.<#368 W<A AA EE #50>>[CREE(RE RWE)] S.<#245 AYISI(HA HE HI HO HOO JI
JU JUU M SH<#389 OO WE> TH YI) E H.<#985 OY W<#108 OY>> #50 OUTH[SLAVEY(KAH KEH KIH KOH)] OY PA PE
PI PO W.<#108>> T.<#245 E H.<#108 WA WAA WE>[CREE(TH.<#108>)] I II LH<#389 OO WE> O OO TA TE TH.<A
AA #390 WE> TI TO W<#108> YA YE YI YO> W<A AA AY E EST[CREE(CW<#108> FWAA KW<#108> L LA LAA LE LO
LOO LW<#108> M MW<#108> NWA NWAA NWE P PW<#108> R RA RE RI RO RWAA SHW<#108> SW<#108> THWAA
TW<#108> W<#108> Y YW<#108>)] ESTERN(W) #50 OODS[CREE(FINAL(TH) TH.<#389 W<A AA EE #50>>)]>
Y.<#368 OY W<#108>>[CREE(COO KOO LOO MOO NOO OO POO PWAA SOO TOO W YOO)])) CEL.(CHARACTER TAG)
CELLATION(X) CER DLE DY NED(FOOD) OE> PITULUM PRICORN R<D(FILE(BOX) INDEX.(DIVIDERS)) E(OF)
ET.(INSERTION(POINT)) IAN(LETTER(A A2 B C[18 39] D D2 E E2 G G2 I II K K2 L LD LD2 M MB MB2 MB3
MB4 N ND NG NN O P P2 Q R RR S SH SH2 SS ST ST2 T TT TT2 U UU UUU UUU2 UUU3 UUUU X)) ON
OUSEL(HORSE) P(STREAMER) PENTRY(SAW) RIAGE(RETURN) ROT>(SLIDING) STLE T.(FACE.(WITH(TEARS(OF(JOY))
WRY(SMILE)))) UCASIAN(ALBANIAN(CITATION(MARK) LETTER(ALT AOR BET C<AR AYN HA HAT HI HOY YAW YAY>
DAT DYAN DZAY DZYAY EB EYN FAM GHEYS GIM HEYT INYA IRB IWN JAYN JHOX KAR KIW LAN LYIT MAQ NOWC ON
PEN PIWR QAR QAY RAT SEYK SHA SHAK SHOY TAS TIWR TYAY VEYZ XEYN YAYD YOWD ZARL ZHA ZHIL)))
UTION(SIGN)> CH E<DI(SIGN) DILLA LTIC(#15) NT(SIGN) NTRE(LINE(#0)) NTRELINE(#571) RES> GJ H<AINS
AIR AKMA(AU(MARK) #861 LETTER(AA BAA BHAA CAA CHAA DAA DDAA DDHAA DHAA E GAA GHAA HAA I JAA JHAA
KAA KHAA LAA LHAA MAA NAA NGAA NNAA NYAA PAA PHAA RAA SAA TAA THAA TTAA TTHAA U VAA WAA YAA YYAA)
MAAYYAA O(MARK) #987 SIGN(#154 VISARGA) VIRAMA VOWEL(SIGN(#191 E EI I II O OI U UU)))
AM(CONSONANT(SIGN(FINAL(H M NG) LA RA #36)) DIGIT(#557) LETTER(A AI #540 CHA CHHA DA DDA DHA E
FINAL(CH G K L N NG P R SS T Y) #49 I #360 MA MUE N<A GA GUE HA HJA HUE UE> O #69 PPA RA SA
SSA #102 U VA YA) PUNCTUATION(#988 SPIRAL TRIPLE(DANDA)) VOWEL(SIGN(#129 EI I II O OE U UE)))
ARACTER(TABULATION.(#674) TIE) ART(WITH(DOWNWARDS(TREND) UPWARDS(TREND.(AND(YEN(SIGN))))))
E<CK(MARK) CKER(BOARD.(FILL)) ERING(MEGAPHONE) ESE(WEDGE) QUERED(FLAG) ROKEE(LETTER(#990)
SMALL(LETTER(#990))) RRIES RRY(BLOSSOM) STNUT> I(RHO) ICKEN ILD ILDREN(CROSSING) IPMUNK IRON
OCOLATE(BAR) OPSTICKS ORASMIAN(LETTER(#345 CURLED(WAW) DALETH #520 RESH #513 SMALL(ALEPH) TAW
WAW #239) NUMBER(FOUR #391)) RISTMAS(TREE) URCH> INEMA
IRC<LE(DIVIDED(BY(HORIZONTAL(BAR(AND(TOP(HALF(DIVIDED(BY(#168)))))))))
WITH(ALL(BUT(UPPER(LEFT(#675)))) HORIZONTAL(BAR) LEFT(#44) LOWER(#44) RIGHT(#44)
SMALL(CIRCLE(#676)) SUPERIMPOSED(X) TWO(HORIZONTAL(STROKES(#676))) UPPER(HALF(BLACK) RIGHT(#675))
VERTICAL(FILL))) LED(ANTICLOCKWISE(#3)[ROTATED(DIVISION(SIGN))] ASTERISK(#9) BOLD(X) BULLET
C(#677) CC CD CROSS(FORMEE.(WITH(FOUR(DOTS) TWO(DOTS))) POMMEE) CROSSING(LANES) DASH DIGIT(#557)
DIVISION(SIGN SLASH) DOLLAR(SIGN(#677)) DOT(#9) EQUALS GREATER[THAN] HANGUL(CHIEUCH.(A) CIEUC.(A)
HIEUH.(A) IEUNG.(A U) #991) HEAVY(#426) HORIZONTAL(BAR(WITH(NOTCH))) HUMAN(FIGURE)
IDEOGRAPH(ACCEPT ADVANTAGE ALLIANCE ATTENTION CENTRE CONGRATULATION COPY CORRECT #993 EXCELLENT
FEMALE #994 HIGH ITEM KINDERGARTEN KOTO LABOR LEFT LOW MALE MEDICINE #995 NIGHT NINE ONE PRINT
QUESTION RELIGION RESOURCE REST RIGHT S<CHOOL ECRET #992 UITABLE UN UPERVISE> #996)
INFORMATION(SOURCE) ITALIC(LATIN(CAPITAL(LETTER(C R)))) KATAKANA(A E #875 #256 MU #344 NU
O #870 #572 #353) KOREAN(CHARACTER(CHAMKO JUEUI)) LATIN(#576) LESS[THAN] MINUS
MULTIPLICATION(SIGN(WITH(#408))) NUMBER(EIGHTEEN EIGHTY(#224) #862 FIFTY.(#224) FORTY.(#530) #541
SEVENTY(#224) SIXTEEN SIXTY(#224) TEN.(#224) THIRTEEN THIRTY.(#530) TWELVE TWENTY.(#530))
OPEN(CENTRE(EIGHT(#411))) PARALLEL PERPENDICULAR PLUS POSTAL(MARK) REVERSE(#166) RING(#9) SQUARE
TIMES TRIANGLE.(DOWN) VERTICAL(BAR) WHITE(BULLET STAR) WZ X ZERO(WITH(SLASH))) ULATION(FUNCTION)
UMFLEX(#14) US(TENT)> ITYSCAPE.(AT(DUSK)) JK(RADICAL(BAMBOO BLUE BOLT(OF(CLOTH)) BONE BOX
BRUSH(#38) C<HOKE ITY IVILIAN LIFF LOTHES OW>[SIMPLIFIED(BIRD CART DRAGON EAT EVEN FISH FLY FROG
GATE GOLD HORSE LEAF LONG SALT SEE SHELL SILK SPEECH TANNED(LEATHER) TOOTH TURTLE WIND)] DEATH
DIVINATION DOG EAT(#266) EWE EYE FIRE FOOT GHOST GRASS(#266) HAND HEAD HEART(#38) HORN
J[SIMPLIFIED(DRAGON EVEN TOOTH TURTLE)] JADE KNIFE(#38) LAME(#267) LONG(#38) MEAT MESH MOON MORTAR
MOTHER MOUND(#38) NET(#267) OLD PAW(#38) PERSON RAIN RAM RAP REPEAT S<EAL ECOND(#266) HEEP ILK
IMPLIFIED(HALF(TREE(TRUNK)) HORN WALK WHEAT YELLOW) MALL(#38) NAKE NOUT(#38) PIRIT(#38) UN> TABLE
THREAD TIGER TURTLE WALK(#38) WATER(#38) WEST(#38)) STROKE(BXG D H HG HP HPWG HXWG HZ.<G T W WG Z
ZP ZZ ZZG> N P PD PG PZ Q S.<G P T W WG WZ Z ZWG ZZ> T TN WG XG)) L<AMSHELL(MOBILE(PHONE))
APPER(BOARD) APPING(HANDS(SIGN)) ASSICAL(BUILDING) EAR(SCREEN(#0)) INKING(BEER(MUGS) GLASSES)
IPBOARD OCK(FACE(EIGHT(#59)[#60] ELEVEN(#59)[#60] FIVE(#59)[#60] FOUR(#59)[#60] NINE(#59)[#60]
ONE(#59)[#60] SEVEN(#59)[#60] SIX(#59)[#60] TEN(#59)[#60] THREE(#59)[#60] TWELVE(#59)[#60]
TWO(#59)[#60])) OCKWISE(#930 INTEGRAL OPEN(#160) RIGHT(AND(LEFT(SEMICIRCLE(#134))))
RIGHTWARDS(AND(LEFTWARDS(OPEN(CIRCLE(ARROWS.(WITH(CIRCLED(ONE(#96))))))))) TOP(#631)
TRIANGLE[HEADED(OPEN(#160))]) OSE(UP) OSED(BOOK INTERSECTION(WITH(SERIFS)) LOCK(WITH(KEY))
MAILBOX(#678) SUBSET.(#80) SUPERSET.(#80) UMBRELLA UNION(WITH(SERIFS.(AND(SMASH(#97))))))
OUD.(WITH(LIGHTNING RAIN SNOW TORNADO)) OWN(FACE)> O<AT CKROACH CKTAIL(GLASS) CONUT FFIN IN
LLISION(#0) LON.(EQUALS SIGN) M<BINING(ACUTE(#679)[GRAVE[ACUTE] MACRON] ALMOST(EQUAL(TO(#4)))
ANNUITY(#0) ANTICLOCKWISE(#680) ASTERISK(#4) BINDU(#1) BREVE.(#1)[MACRON] BRIDGE(#4) C<ANDRABINDU
ARON.(#1) EDILLA IRCUMFLEX(ACCENT.(#1)) LOCKWISE(#680) OMMA(ABOVE.(#33) BELOW)
ONJOINING(MACRON.(#1)) YRILLIC(DASIA(PNEUMATA) HUNDRED(MILLIONS(SIGN) THOUSANDS(SIGN)) KAVYKA
LETTER(A BE BIG(YUS) CHE DE DJERV EF EL EM EN ER ES.[TE] FITA GHE HA HARD(SIGN) I IE IOTIFIED(A
BIG(YUS) E) KA LITTLE(YUS) MONOGRAPH(UK) O OMEGA PE SHA SHCHA SOFT(SIGN) TE TSE U #997 YAT YERU YI
YU ZE ZHE) MILLIONS(SIGN) PALATALIZATION PAYEROK POKRYTIE PSILI(PNEUMATA) TEN(#681) THOUSAND(#681)
TITLO.(#682) VZMET)> D<ELETION(MARK) EVANAGARI(DIGIT(#557) LETTER(A KA NA PA RA U VI)
SIGN(AVAGRAHA)) IAERESIS.(#1)[RING] OT(ABOVE.(#10) BELOW.(LEFT)) OTTED(#683) OUBLE(ACUTE(#14)
BREVE.(#1) CIRCUMFLEX(#2) GRAVE(#14) INVERTED(BREVE.(#1)) LOW(LINE) MACRON.(#1) #998
PARENTHESES(#2) PLUS(SIGN(#4)) RIGHTWARDS(ARROW(#1)) RING(#1) TILDE.(#682) VERTICAL(LINE(#4)
STROKE(#96))) OUBLED(#408) OWN(TACK(#1)) OWNWARDS(#3)> ENCLOSING(CIRCLE.(#439) DIAMOND KEYCAP
SCREEN SQUARE UPWARD(#684)) EQUALS(#288) FERMATA FOUR(#18) GLAGOLITIC(LETTER(#999 #1000 #1001
KAKO #1002 #1003 SLOVO SMALL(YUS) #1004)) GRANTHA(DIGIT(#71 ONE #348) LETTER(A KA NA PA VI))
GRAPHEME(JOINER) GRAVE(#679)[ACUTE[GRAVE] MACRON] GREEK(DIALYTIKA(TONOS) KORONIS
MUSICAL(PENTASEME #1006) PERISPOMENI YPOGEGRAMMENI) HOMOTHETIC(#2) HOOK(#2) HORN INFINITY
INVERTED(BREVE.(#1) BRIDGE(#1) DOUBLE(ARCH(#4))) IS(#1) KATAKANA[HIRAGANA(#578)]
KAVYKA(ABOVE(#10)) L<ATIN(LETTER(SMALL(CAPITAL(G #55 R))) SMALL(LETTER(A.(#225) AE ALPHA AO AV B
BETA C.(CEDILLA) D E ESH ETH F FLATTENED(OPEN(A(#2))) G H I INSULAR(D G R T) K
L.(WITH(DOUBLE(MIDDLE(TILDE)))) LONG(S) M N O.(#685) P R.(BELOW ROTUNDA) S SCHWA T TURNED(W(#1))
U.(#685) V W.(#1) X Z))) EFT(ANGLE(#4) ARROW(#4) ARROWHEAD(#4) #1007 PARENTHESIS(ABOVE(LEFT)
BELOW(LEFT)) RIGHT(ARROW(#4)) TACK(#1)) EFTWARDS(ARROW(#96) HARPOON(#686)) IGATURE(#1008)
IGHT(#687) ONG(DOUBLE(#688) #1009) OW(LINE)> MACRON.(BELOW #1008)[#514 GRAVE] MINUS(#288)
NOT(TILDE(#2)) NUMBER(SIGN(#2)) OGONEK.(#2) OLD(PERMIC(LETTER(AN DOI NENOE SII ZATA))) #998
PALATALIZED(#440) PARENTHESES(#4 OVERLAY) PLUS(SIGN(#4)) RETROFLEX(#440) REVERSE(#688)
REVERSED(COMMA(#2)) RIGHT(ARROW(#4) ARROWHEAD(ABOVE AND(DOWN(#689) UP(#689)) BELOW) #1007
PARENTHESIS(ABOVE(#33) BELOW(#33)) TACK(#1)) RIGHTWARDS(HARPOON(#686)) RING(#4 OVERLAY)
SEAGULL(#1) SHORT(#1009) SNAKE(#1) SQUARE(BELOW BRACKETS(#2)) STRONG(#687) SUSPENSION(MARK)
THREE(#18) TILDE.(BELOW LEFT(HALF(#1)) OVERLAY RIGHT(HALF(#1))) TRIPLE(ACUTE(#14) DOT UNDERDOT)
TURNED(COMMA(#2)) UP(TACK(#4)) UPWARDS(ARROW(#1)) UR(#2) US(#2) VERTICAL(LINE(#4) TILDE)
WIDE(BRIDGE(#2) INVERTED(BRIDGE(#1))) WIGGLY(LINE(#1)) X(#4)[X(#1)] ZIGZAG(#4)) ET MA MERCIAL(AT
MINUS(SIGN)) PASS PLEMENT POSITION(#0) PRESSION> N<FETTI(BALL) FOUNDED(FACE) FUSED(FACE)
GRUENT(#283) ICAL(TAPER) JUNCTION STRUCTION(SIGN WORKER) TAINS(AS(MEMBER NORMAL(SUBGROUP.(#80)))
WITH(#1010 VERTICAL(#441))) TINUOUS(#690) TOUR(#161) TROL(KNOBS SEQUENCE(#442)) VENIENCE(STORE)>
OKED(RICE) OKIE OKING PTIC(CAPITAL(#691) COMBINING(NI(#2) SPIRITUS(ASPER LENIS)) EPACT(DIGIT(#558)
NUMBER(#1012) THOUSANDS(MARK)) FRACTION(#443) FULL(STOP) MORPHOLOGICAL(#172)
OLD(NUBIAN(DIRECT(#692) FULL(STOP) INDIRECT(#692) VERSE(#172))) SMALL(#691) SYMBOL(KAI KHI(RO)
MI(RO) PI(RO) SHIMA(SIMA) STAUROS TAU(RO))) PYLEFT(#0) PYRIGHT(SIGN) RAL RNISH(VERSE(#172))
RRESPONDS(TO) UCH(AND(LAMP)) UNTERBORE UNTERSINK UNTING(ROD(TENS(DIGIT(#558)) UNIT(DIGIT(#558))))
UPLE(WITH(HEART)) W.(FACE)> R.<AB EDIT(CARD) ESCENT(MOON) ICKET.(BAT(#226)) OCODILE OISSANT
OSS(MARK OF(JERUSALEM LORRAINE) PATTY(WITH(LEFT(CROSSBAR) RIGHT(CROSSBAR)))
POMMEE.(WITH(HALF[#412]))) OSSED(FLAGS NEGATIVE(SQUARED(LATIN(CAPITAL(LETTER(P))))) SWORDS)
OSSING(LANES) OWN UTCH UZEIRO(SIGN) YING(#444) YSTAL(BALL)> SI U<BE(ROOT) CUMBER
NEIFORM(NUMERIC(SIGN(EIGHT(ASH #370 VARIANT(FORM(USSU USSU3))) ELAMITE(FIFTY FORTY ONE(THIRD)
TWO(THIRDS)) FIVE(#1013 SIXTHS(DISH) U.(#121)) FOUR(#1013 U.(#121) VARIANT(FORM(LIMMU.(A B)
LIMMU4))) NIGIDAESH NIGIDAMIN NINE(ASH #370 VARIANT(FORM(ILIMMU.<3 4>(A))))
OLD(ASSYRIAN(ONE(QUARTER SIXTH))) ONE(BAN2 BURU EIGHTH(ASH) #1014 HALF(GUR) QUARTER(ASH GUR) SHARU
THIRD(#693)) SEVEN(ASH #370 VARIANT(FORM(IMIN(A B) IMIN3))) SHAR2(TIMES(GAL(PLUS(DISH MIN))))
SIX(ASH.(TENU) #370 VARIANT(FORM(ASH9))) THREE(ASH.(TENU) BAN2 BURU.(#121) DISH GESH2 GESHU
SHAR2.(#121) SHARU.(#121) VARIANT(FORM(ESH16 ESH21))) TWO(ASH.(TENU) BAN2 BURU #1014 SHAR2 SHARU
THIRDS(#693)))) PUNCTUATION(SIGN(DIAGONAL(COLON QUADCOLON TRICOLON) OLD(ASSYRIAN(WORD(#172)))
VERTICAL(COLON))) SIGN(A.<2 B.(GUNU TIMES(ASH2 DUN3(GUNU) #1015 HA IGI(GUNU) IMIN LAGAB NUN.(TENU)
SHESH SHU2 U(PLUS(U(PLUS(U)))))) B2.(TIMES(A BALAG GAN2(TENU) ME(#290) SHA3 TAK4)) D.(TIMES(ESH2))
K.(TIMES(ERIN2 SHITA(PLUS(GISH)))) L.(TIMES(AL DIM2 GISH HA KAD3 KI SHE USH)) LAN LEPH
MAR.(TIMES(KUG SHE)) N.(OVER(AN) PLUS(NAGA(OPPOSING(AN(PLUS(NAGA))) SQUARED)) THREE(TIMES)) NSHE
PIN RAD.(#291) RKAB SAL2 SH.(KABA(TENU) OVER(ASH(OVER(ASH.(CROSSING(ASH(OVER(ASH(OVER(ASH)))))))
TUG2(OVER(TUG2(TUG2(OVER(TUG2(PAP)))))))) ZIDA(TENU)) SH2 SHGAB>(TIMES(A BAD GAN2(TENU) HA IGI
LAGAR(GUNU) MUSH SAG)) BA.<D.(TIMES(DISH(TENU))) G3 HAR2.(TIMES(AB2 NI ZA)) L.(OVER(BAL)) LAG R
RA2> BI.(TIMES(A GAR IGI(GUNU))) BU.(CROSSING(BU) OVER(BU(AB TIMES(NA2) UN))) BULUG.(OVER(BULUG))
BUR BUR2 D<A.<G.(KISIM5(TIMES(A(PLUS(MASH)) AMAR BALAG BI GA.(PLUS(MASH)) GI GIR2 GUD HA
IR.(PLUS(LU)) KAK LA LU.(PLUS(MASH2)) LUM NE PAP(PLUS(PAP)) SI TAK4 U2(PLUS(GIR2 MASH)) USH))
TIMES(KUR)) G3 M R RA3 RA4>(TIMES(TAK4)) I IB IM.(TIMES(IGI SHE U(U(U)))) IM2.(TIMES(UD))
IN.(KASKAL(U(GUNU(DISH)))) ISH.(PLUS(SHU)) U.<B.(TIMES(ESH2 SHE)) B2 G.(TIMES(ANSHE ASH.(AT(LEFT))
DIN DUN ERIN2 GA GI GIR2(GUNU) GISH HA HI IGI(GUNU) KASKAL KUR KUSHU2.(PLUS(KASKAL)) LAK[020]
LAM.(#291) LUH(PLUS(GISH)) MASH MES MI NI PI SHE SI(GUNU))) GUD H N N3.(GUNU.(GUNU)) N4 R2>(GUNU
OVER(DU) SHESHIG)> E.<2.(TIMES(A(PLUS(HA(PLUS(DA)))) GAR KUR MI PAP SAL SHE U)) DIN GIR L
N.(CROSSING(EN) OPPOSING(EN) SQUARED TIMES(GAN2.(TENU) ME)) REN RIN2.(X) SH2.(CROSSING(ESH2))
ZEN.(SHESHIG(TIMES(ASH HI IGI(GUNU) LA LAL ME MES SU)) TIMES(A.(PLUS(LAL.(#445))) AN BAD
DUN3(GUNU.(GUNU)) GUD HA.(GUNU) IGI(GUNU) KASKAL.(SQUARED) KU3 LA LAL(#445) LI LU SHE SU U2
UD))>(OVER(E(NUN(OVER(NUN)))) TIMES(PAP)) GA.<2.(OVER(GA2) TIMES(A(PLUS(DA(PLUS(HA)) HA IGI))
AB2(TENU(PLUS(TAB))) AN.(PLUS(KAK(#227))) ASH ASH2.(PLUS(GAL)) BAD BAHAR2 BAR(PLUS(RA))
BUR.(PLUS(RA)) DA DI DIM(GUNU TIMES(SHE)) DUB DUG(TIMES(IGI(GUNU) KASKAL)) EL.(PLUS(LA)) EN.(#694)
EREN GA GAN2(TENU) GAR.(PLUS(DI NE)) GI GI4.(#227) GIR2(PLUS(SU)) HA(PLUS(A LU(PLUS(ESH2))))
HAL.(PLUS(LA)) HI(PLUS(LI)) HUB2 IGI(GUNU) ISH(PLUS(HU(#122))) KAK KASKAL KID.(PLUS(LAL))
KU3(PLUS(AN)) KUSHU2(PLUS(KASKAL)) LA LAM.(#291) LUH ME(#290) MI MUSH NE.(PLUS(E2 GI))
NUN.(OVER(NUN)) PA SAL SAR SHE.(PLUS(TUR)) SHID SHIM SUM TAK4 U UD.(PLUS(DU)) ZIZ2))
BA.(CROSSING(GABA) ROTATED(#430)) D.(#293) L.(GAD(#293)) LAM M N N2.(CROSSING(GAN2) OVER(GAN2)
TENU) R R3 SHAN>(GUNU) GE22 GESHTIN.(TIMES(KUR U)) GI.<4.(CROSSING(GI4) OVER(GI4)) DIM G R2.(GUNU)
R3.(TIMES(A(PLUS(IGI)) GAN2(TENU) IGI LU(PLUS(IGI)) PA)) SAL SH.(CROSSING(GISH) TENU TIMES(BAD
GISH(CROSSING(GISH)) TAK4))>(CROSSING(GI) TIMES(E U)) GU.<2.(GUNU TIMES(IGI(GUNU) KAK.(#695) NUN
SAL(PLUS(TUG2)))) D.(OVER(GUD(LUGAL)) PLUS(GISH(TIMES(TAK4))) TIMES(A(PLUS(KUR)) KUR)) L
M.(TIMES(SHE)) R R7 RUN RUSH>(CROSSING(GU)) H<A.(GUNU TENU.(GUNU)) AL
I.(TIMES(ASH.(OVER(HI(TIMES(ASH)))) ASH2 BAD DISH GAD KIN NUN SHE U)) U UB2.(TIMES(AN HAL KASKAL
LISH UD)) UL2 USH> I.<B DIM.(OVER(IDIM(BUR SQUARED))) G GI.(DIB GUNU
OVER(IGI(SHIR(OVER(SHIR(UD(OVER(UD))))))) RI) L.(#694) L2 M.(CROSSING(IM) OPPOSING(IM) SQUARED
TIMES(TAK4)) MIN N R SH>(A) K<A.<2.(CROSSING(KA2)) B D2 D3 D4 D5.(OVER(KAD5)) K.(#695)
L.(CROSSING(KAL) TIMES(BAD)) M2 M4 P(ELAMITE) SKAL.(LAGAB(#696)
OVER(KASKAL(LAGAB(#696))))>(TIMES(A AD.(PLUS(KU3)) ANSHE ASH2 ASH3 BAD BALAG BAR BI BU ERIN2 ESH2
G<A AL AN2(TENU) AR.(PLUS(SHA3(#227))) I IR2 ISH.(CROSSING(GISH) PLUS(SAR)) U UD UR7> HI(#446) IGI
IM KA KAK KI KID LI LU LUM ME.(PLUS(DU GI TE)) MI.(PLUS(NUNUZ)) NE NUN PA PI RU S<A AR HA HE HID
HU HUL IG UHUR> TAR TU U.<2 D MUM(TIMES(PA)) R R2 SH>(U(U)) ZI)) ESH2 I.(TIMES(BAD U UD)) ID IN
ISAL ISH ISIM5.(OVER(KISIM5)) U.<3 4.(#121) 7 L.(GUNU) N R.(OPPOSING(KUR))
SHU2>(OVER(HI(TIMES(ASH2(KU(OVER(HI(#446)))))))) WU318> L<A AGAB.(SQUARED
TIMES(A.(PLUS(DA(PLUS(HA)) GAR LAL)) AL AN ASH(ZIDA(TENU)) BAD BI DAR EN GA GAR GI GUD.(PLUS(GUD))
HA HAL HI(TIMES(NUN)) IGI(GUNU) IM.(PLUS(HA LU)) KI KIN KU3 KUL.(PLUS(HI(#227))) LAGAB LISH LU LUL
ME.(#290) MUSH NE SHE(PLUS(SUM)) SHITA(PLUS(GISH(PLUS(ERIN2) TENU))) SHU2.(PLUS(SHU2)) SUM TAG
TAK4 TE(PLUS(A(PLUS(SU(PLUS(NA)))))) U.(PLUS(A U(PLUS(U)))) U2(#122) UD USH ZU(OVER(ZU))))
AGAR.(GUNU.(OVER(LAGAR(GUNU(SHE)))) TIMES(SHE.(PLUS(SUM)))) AHSHU AK[0<03 21 25 30 50 51 62
79(OVER(LAK[079(GUNU)])) 80 81(OVER(LAK[081])) 92> 130 142 2<10 19 20 25 28 38 65 66> 343 347 348
383 384 390 4<41 49.(TIMES(GU IGI PAP(PLUS(LU3 PAP(PLUS(LU3)))) U2(PLUS(BA)))) 50 57 70 83 90 92
93 95> 550 608 617.(TIMES(ASH BAD DUN3(GUNU(GUNU)) KU3 LA TAR TE U2 UD URUDA)) 636 648.(TIMES(DUB
GA IGI.(GUNU) NI PAP(#697) SHESH(PLUS(KI)) UD URUDA)) 724 749] AL.(#445)
AM.(TIMES(KUR.(PLUS(RU)))) I IL IMMU2 ISH U.<2.(CROSSING(LU2) GUNU(TIMES(ASH)) OPPOSING(LU2)
SHESHIG.(#294) SQUARED TENU TIMES(AL BAD DISH ESH2.(PLUS(LAL) TENU) GAN2(TENU) HAL HI(#294) IM
KAD2 KAD3.(#122) KI LA(#122) LAGAB ME(#290) NE NU PAP.(#697) SHU SI(#122) SIK2(PLUS(BU)) TAK4
TUG2)) 3 GAL.(OPPOSING(LUGAL) OVER(LUGAL) SHESHIG) H L M.(OVER(LUM.(#292)))>(#294)> M<A.(#698) A2
AH AR ASH ASH2 E ES ESH I.(PLUS(ZA7)) IN U.(OVER(MU)) UG.(GUNU) UNSUB URGU2 USH.(CROSSING(MUSH)
OVER(MUSH.(TIMES(A(PLUS(NA)) GA KAK))) TIMES(A KUR ZA)) USH3.(GUNU TIMES(A.(PLUS(DI)) DI ZA))> N<A
A2 A4 AGA.(INVERTED OPPOSING(NAGA) TIMES(SHU(TENU))) AGAR AM.(NUTILLU) AM2 E.(SHESHIG TIMES(A UD))
I.<2 M.(TIMES(GAN2(TENU) GAR(PLUS(GAN2(TENU))))) N N9 NDA2.(TIMES(AN ASH.(#122) BAL DIM(GUNU) GI
GISH GUD GUL HI KESH2 LAK[050] MASH ME(PLUS(GAN2(TENU))) NE NUN PAP(PLUS(PAP)) SHE.(PLUS(A(AN)
ASH.(#122))) U.(PLUS(U)) U2(#122) URUDA USH)) SAG>(TIMES(E)) U U11.(OVER(NU11(#699)) ROTATED(#430)
TENU) UN.(CROSSING(NUN.(LAGAR(OVER(LAGAR)))) LAGAR(TIMES(GAR MASH
SAL.(OVER(NUN(LAGAR(TIMES(SAL))))) USH)) OVER(NUN) TENU) UNUZ.(AB2(TIMES(ASHGAB BI DUG GUD
IGI(GUNU) KAD3 LA NE SILA3 U2)) KISIM5(TIMES(BI.(U))))> P<A AD AN AP ESH2.(#78) I.(CROSSING(PI)
TIMES(A AB BI BU E I IB U U2)) IR2 IRIG.(OPPOSING(PIRIG) TIMES(KAL UD ZA))> RA RAB RI RU S<A
AG.(GUNU.(TIMES(HA)) NUTILLU OVER(SAG) TIMES(A DU DUB EN HA IGI(GUNU) KAK KUR LUM MI NUN SAL
SHE(AT(LEFT)) SHID TAB TAK4 U2 UB UM UR USH)) AL.(LAGAB(#446)) ANGA2 AR H<A A3.(TIMES(A BAD GISH
NE SHU2 TUR U.(#227))) A6.(TENU) AB6 AR2 E.(HU OVER(SHE.(GAD(#293) TAB(OVER(TAB(#292)))))
PLUS(HUB2 NAM2 SAR)) EG9 EN ESH ESH2 ESHLAM ID.(TIMES(A IM)) IM.(TIMES(A BAL BULUG DIN GAR
IGI.(GUNU) KUSHU2 LUL MUG SAL)) INIG IR.(OVER(SHIR(#699)) TENU) ITA U.(OVER(INVERTED(SHU)))
U2.(PLUS(DUG(TIMES(NI)) E2(TIMES(AN)))) UBUR> I.(#698) IG IG4.(OVER(SIG4(SHU2))) IK2 ILA3 U.<D D2
HUR M MASH R R9>(OVER(SU))> T<A.(ASTERISK GUNU TIMES(HI MI))
AB.(OVER(TAB(NI(OVER(NI(DISH(OVER(DISH))))))) SQUARED) AG.(TIMES(BI GUD SHE SHU TUG2 UD))
AK4.(PLUS(SAG)) AR E.(GUNU) I.(TENU) I2 IL IR.(OVER(TIR.(GAD(#293))) TIMES(TAK4)) U UG2 UK
UM.(TIMES(GAN2(TENU) THREE(DISH))) UR.(OVER(TUR(ZA(OVER(ZA)))))> U.<2 B D.(GUNU KUSHU2
SHESHIG.(#294) TIMES(BAD MI U(PLUS(U(PLUS(U.(GUNU))))))) DUG M.(TIMES(LAGAB ME.(PLUS(DA)) SHA3 U))
MBIN MUM.(TIMES(KASKAL PA)) N.(GUNU) R.<2.(INVERTED TIMES(A(PLUS(HA NA)) AL HA NUN U2.(PLUS(ASH
BI)) UD)) 4 I I3 U.(TIMES(A ASHGAB BAR DARA3 DUN GA #1015 GAR GU HA IGI IM ISH KI LAK[668] LU3 LUM
MIN PA SHE SIG4 TU U(PLUS(GUD)) UD URUDA)) UDA.(TIMES(U))>(CROSSING(UR) SHESHIG) SH.<2 UMX
X>(TIMES(A KU KUR TAK4)) TUKI Z3.(TIMES(KASKAL)) ZU>(GUD OVER(U(PA(OVER(PA(#292))) SUR(OVER(SUR))
U(REVERSED(OVER(U(REVERSED)))))) U.(U)) Z<A.(SQUARED(#291) TENU) A7 AG AMX E2 I.(OVER(ZI)) I3
IB.(KABA(TENU)) IG IZ2 U.(OVER(ZU(PLUS(SAR)))) U5.(TIMES(A THREE(DISH(TENU)))) UBUR UM>))
P(ON(#223) WITH(STRAW)) PCAKE PIDO RLING(STONE) RLY(BRACKET(EXTENSION) LOGICAL(#173) LOOP)
RRENCY(EXCHANGE SIGN) RRY(AND(RICE)) RVED(STEM(PARAGRAPH(SIGN(#39)))) STARD STOMS T(OF(MEAT))>
YCLONE YLINDRICITY YPRIOT(SYLLABLE(A E I JA JO KA KE KI KO KU LA #369 #256 MU #871 #572 #340 XA XE
ZA ZO)) YPRO[MINOAN(SIGN(CM<0<0<1 2 #90> 1<#42 2B 3 5 7 9> 2<1 #157> 3<0 #157> 40 41 44 46 47 49
5<#23 8 9> 6<#73 #207> 7<#73 5 5B 6 8 9> 8<#41> 9<#42 #90>> 10<#73 5 #40> 110 112 114 301 302>))]
YRILLIC(CAPITAL(LETTER(#1019 #1020 #1021 #1022 S<#700> T<#1017 #1018> #1023 #997 WE #1024)
LIGATURE(#701)) KAVYKA LETTER(MULTIOCULAR(O) PALOCHKA SMALL(CAPITAL(EL))) PAYEROK
SMALL(LETTER(#1019 LONG[LEGGED(DE)] #1020 NARROW(O) #1021 PALOCHKA #1022 ROUNDED(VE) S<#700>
T<ALL(HARD(SIGN) TE YAT) #1017 HREE[LEGGED(TE)] #1018> #1023 UKRAINIAN(IE) UNBLENDED(UK) VE WE
WIDE(ES) #1024) LIGATURE(#701)) THOUSANDS(SIGN))> D<A<GGER.(KNIFE WITH(LEFT(GUARD) RIGHT(GUARD)))
LET(#0) NCER NGO RK(SHADE SUNGLASSES) SH(SYMBOL WITH(LEFT(UPTURN))) SHED(#571 TRIANGLE[#228])
TA(LINK(ESCAPE))> C1 C2 C3 C4 CS E<AF(PERSON) CIDUOUS(TREE) CIMAL(EXPONENT(#0) SEPARATOR(KEY(#0)))
CREASE(#702) ER GREE(CELSIUS FAHRENHEIT SIGN) L LETE LIVERY(TRUCK) LTA(#12)
NTISTRY(SYMBOL(LIGHT(DOWN(#1026) UP(#1026) VERTICAL(AND(BOTTOM(#10) TOP(#10) WAVE) WITH(#1025)))))
PARTMENT(STORE) RELICT(HOUSE(BUILDING)) SCENDING(NODE) SERET(CAPITAL(#1028) SMALL(#1028))
SERT.(ISLAND) SKTOP(COMPUTER WINDOW) VANAGARI(ABBREVIATION(SIGN) ACUTE(#14) CARET #861 GAP(FILLER)
GRAVE(#14) HEADSTROKE JAIN(OM) LETTER(#191 AW AY #540 CA CANDRA(A E O) #203 DDA DDDA DDDHA #148 E
FA GA GGA GHA GHHA GLOTTAL(STOP) HA HEAVY(YA) #189 JJA #47 KHHA LA #201 MA MARWARI(DDA) NA
NGA #542 O OE OOE #69 QA RA #367 #54 SHORT(A E O) SSA #102 #34 #580 VA #279 YYA #89) OM SIGN(#509
CANDRABINDU.(AVAGRAHA #72 VIRAMA) DOUBLE(CANDRABINDU(VIRAMA)) HIGH(SPACING(DOT)) INVERTED(#295)
NUKTA PUSHPIKA SIDDHAM SPACING(#295) #27) STRESS(SIGN(#703)) VOWEL(SIGN(#129 AW AY CANDRA(E
LONG(E) O) #107 OE OOE PRISHTHAMATRA(E) SHORT(E O) #580 VOCALIC(#277)))) VICE(CONTROL(FOUR ONE
STRING #72))> I<AERESIS AMETER(SIGN) AMOND(OPERATOR SHAPE(WITH(A(DOT(#116)))) TARGET
WITH(BOTTOM(#44) #616 TOP(#44))) E(FACE[#22]) ESEL(LOCOMOTIVE) FFERENCE(BETWEEN) GIT(EIGHT.(#43)
FIVE.(#43) FOUR.(#43) NINE.(#43) ONE.(#43) SEVEN.(#43) SIX.(#43) THREE.(#43) TWO.(#43) ZERO.(#43))
GRAM(FOR(EARTH EARTHLY(HEAVEN HUMAN) GREATER(YANG YIN) HEAVENLY(EARTH) HUMAN(EARTH) LESSER(YANG
YIN))) MENSION(ORIGIN) NGBAT(CIRCLED(SANS[#704]) NEGATIVE(CIRCLED(#1029 SANS[#704])))
RECT(CURRENT(SYMBOL(#296)) HIT) SABLED(CAR) SAPPOINTED(BUT(RELIEVED(FACE)) FACE) SCONTINUOUS(#690)
SGUISED(FACE) TTO(MARK) VES(AKURU(DIGIT(#557) DOUBLE(DANDA) END(#705) GAP(FILLER) INITIAL(RA)
LETTER(A AA #505 E #49 I II JA #48 #242 #149 TTA #235 YA YYA ZA) MEDIAL(RA YA)
PREFIXED(NASAL(SIGN)) SIGN(#154 #1030) VIRAMA VOWEL(SIGN(AA AI #560)))) VIDES VING(MASK)
VISION(SIGN SLASH TIMES) VORCE(#0) YA(LAMP) ZZY(FACE SYMBOL)> LE NA(DOUBLE(HELIX))
O<CUMENT.(WITH(PICTURE TEXT.(AND(PICTURE)))) DO ES(NOT(CONTAIN(AS(MEMBER NORMAL(SUBGROUP.(#448))))
DIVIDE.(WITH(REVERSED(NEGATION(SLASH)))) FORCE PRECEDE.(#448) PROVE SUCCEED.(#448))) G.(FACE)
GRA(ABBREVIATION(SIGN) LETTER(#565 #336 #248) SIGN(#706) VOWEL(SIGN(#263 VOCALIC(R RR))))
LLAR(SIGN) LPHIN MINO(TILE(HORIZONTAL(BACK)[#707] VERTICAL(BACK)[#707])) NG(SIGN) OR T(ABOVE MINUS
OPERATOR PLUS) TTED(CIRCLE CROSS FENCE LINE(FACE) OBELOS RIGHT[POINTING(ANGLE)] SOLIDUS SQUARE
TRANSPOSITION(#118)) UBLE(ACUTE(#14) CIRCLED(#1029) COLON(EQUAL) CURLY(LOOP) DAGGER DOWN(TACK)
EXCLAMATION(MARK) HIGH[#708] HYPHEN INTEGRAL INTERSECTION LEFT(ARC(#709)) LOGICAL(#173)
LOW(LINE)[9(#81) REVERSED[9(#81)]] NESTED(GREATER[THAN] LESS[THAN.(#449)]) OBLIQUE(HYPHEN) PLUS
PRECEDES PRIME.(#81) QUESTION(MARK) RIGHT(ARC(LESS[THAN(#7)])) S<OLIDUS(#9) QUARE(INTERSECTION
UNION) TACKED(COMMA) TROKE(NOT(SIGN)) UBSET UCCEEDS UPERSET USPENSION(MARK)> UNION UP(TACK)
VERTICAL(BAR.(DOUBLE(LEFT(#123) RIGHT(#123)) LEFT(#123)) LINE) WAVY(OVERLINE))[ENDED(MULTIMAP)
LINE(EQUAL(TO(OR(#158))) SLANTED(EQUAL(TO(OR(#158))) GREATER[THAN(#80)] LESS[THAN(#80)]))
STRUCK(CAPITAL(C GAMMA H N P PI Q R Z) ITALIC(CAPITAL(D) SMALL(D E I J)) N[ARY(SUMMATION)]
SMALL(GAMMA PI))] UBLED(FEMALE(SIGN) MALE(SIGN) SYMBOL) UGHNUT VE(OF(PEACE)) WN(ARROWHEAD #1031
TACK.(WITH(#412)))[POINTING(RED(#24) SMALL(RED(#24)) TRIANGLE(#617))] WNWARD(FACING(HOOK.(#28)
NOTCHED(HOOK.(#28)))) WNWARDS(ANCORA ARROW.(#1033 LEFTWARDS(OF(UPWARDS(#3))) TO(BAR)
WITH(CORNER(LEFTWARDS) #1032)) #1036
TRIANGLE(#26)[HEADED(ARROW.(LEFTWARDS(OF(UPWARDS(#297))) #1035) #372 ZIGZAG(#3))] TRIPLE(#3)
TWO(#142)[HEADED(ARROW(WITH(#714)))] WHITE(#715) ZIGZAG(#3))>(NOT(LITTER(#0))) R<ACHMA(SIGN)
AFTING(POINT(#32)) AGON.(FACE) ESS IVE(SLOW(SIGN)) OMEDARY(CAMEL) OOLING(FACE) OP(OF(BLOOD)) OPLET
UM(WITH(DRUMSTICKS))> UCK UMPLING UPLOYAN(AFFIX(ATTACHED(E(HOOK) I(HOOK) LEFT[TO[RIGHT(SECANT)]]
SECANT TAIL TANGENT.(HOOK)) HIGH(ACUTE #1037) LEFT(#716) LOW(ACUTE ARROW #1037)
MID(HORIZONTAL(SECANT) VERTICAL(SECANT)) RIGHT(#716)) DOUBLE(MARK) LETTER(A AOU B D.(S) DH E EE EU
F.(N) G.(R(S)) H HL I IE J.(M.(S) N.(S) S.(#28) WITH(DOT DOTS(INSIDE(AND(#2))))) K.(M R(S)) KK L
LH LONG(I U) M.(N.(S) S WITH(DOT)) N.(M.(S) S WITH(DOT)) NASAL(A #37) O OA OOH OU OW P.(N)
PERNIN(AM AN) R.(S) RH ROMANIAN(I U) S.(J.(S) K.(R) M N P.(R) S T.(R) WITH(DOT.(#1))) SHORT(I)
SLOAN(AN DH EE EH EN J ON OW U) T.(R(S) S) TH U.(N) UH UI V VOCALIC(M) W.<A EI H I O OW>(R) X XW
YE) PUNCTUATION(CHINOOK(#53)) SIGN(O(WITH(#15))) THICK(LETTER(SELECTOR))) VD>"

end ClientGen.Text.CharName
