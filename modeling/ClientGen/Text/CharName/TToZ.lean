/-!
# Names of characters from T to Z

A part of the outline of the names of characters, in lines.
-/

namespace ClientGen.Text.CharName

/-- The outline of the names that start with a letter from T to Z. -/
def tToZ : String :=
"T<A<B BLE(TENNIS(PADDLE(#226))) CO G(#1047 #1048 LEFT(#877) #1049 #1050 #1051 RIGHT(#877) #1052
SPACE #1053) GALOG(LETTER(A ARCHAIC(RA) BA DA #618) SIGN(PAMUDPOD VIRAMA) VOWEL(#286))
GBANWA(LETTER(#388 GA I #539 PA SA TA #200) VOWEL(#286)) I(LE(LETTER(A AI AUE E EE EH FA HA
I #48 #62 O OO #69 QA #243 TONE[#208] #195 U UE VA XA YA)) THAM(COMBINING(CRYPTOGRAMMIC(DOT))
CONSONANT(SIGN(BA FINAL(NGA) HIGH(RATHA(OR(LOW(PA)))) LA(TANG(LAI)) LOW(PA) MA MEDIAL(LA RA) SA))
HORA(#559) LETTER(#388 EE GREAT(SA) HIGH(#1218 #128 YA) I II LA LAE LLA LOW(#1218 #243 YA)
LUE #152 OO RA RANA RATA RUE U UU WA) SIGN(CAANG DOKMAI HANG HOY KAAN KAANKUU KEOW KHUEN(TONE[3 4
5])[LUE(KARAN)] MAI(KANG.(LAI) SAM YAMOK) RA(HAAM) REVERSED(ROTATED(RANA)) SA<KOT TKAAN TKAANKUU
WAN> TONE[1 2] WIANG WIANGWAAK) THAM(#559) VOWEL(SIGN(A AA AE AI E I II MAI(SAT) O OA(#4) OO OY
TALL(AA) THAM(AI) #580))) VIET(LETTER(HIGH(#840) LOW(#840)) MAI(KANG KHIT) SYMBOL(HO(HOI) KOI(KOI)
KON NUENG SAM) TONE(MAI(EK NUENG SONG THO)) VOWEL(AA AM AN AUE AY E I IA O U UA UE UEA)))
KEOUT(BOX) KRI(#1079 LETTER(#254 ARCHAIC(KHA) #1198 #591) SIGN(#706) VOWEL(SIGN(#263)))
LLY(MARK(FIVE ONE)) MALE MIL(AND(ODD(SIGN)) AS(ABOVE(SIGN)) AU(#95) CREDIT(SIGN) CURRENT(SIGN)
DAY(SIGN) DEBIT(SIGN) DIGIT(#557) DRY(#841) FRACTION(DOWNSCALING(FACTOR(KIIZH)) ONE(EIGHTH
EIGHTIETH FIFTH FORTIETH HALF[1 2] #1173 SIXTEENTH[1 2] SIXTY[FOURTH] TENTH THIRTY[SECOND]
THREE[HUNDRED[AND[TWENTIETH]]] TWENTIETH) THREE(#1174 SIXTY[FOURTHS] TWENTIETHS))
IN(POSSESSION(SIGN)) LAND(SIGN) LETTER(#191 CA E EE HA I II #255 #201 #1175 #596 #54 SSA TA
TTA #235 YA) MONTH(SIGN) NUMBER(ONE(#17) SIGN TEN) OM PUNCTUATION(END(OF(TEXT))) RUPEE(SIGN)
SALT(PAN(SIGN)) SIGN(AAZHAAKKU ANUSVARA CEVITU KAACU KURUNI KUZHI MUKKURUNI MUTHALIYA MUUVUZHAKKU
NEL PAARAM PANAM PATHAKKU PON UZHAKKU VAKAIYARAA VARAAKAN VELI #27) SPENT(SIGN)
STARTING(FROM(SIGN)) TOTAL(SIGN) TRADITIONAL(CREDIT(SIGN) NUMBER(SIGN)) VOWEL(SIGN(#129 E EE #50 U
UU)) WET(#841) YEAR(SIGN)) NABATA(TREE) NGERINE NGSA(DIGIT(#557) LETTER(A<C Q WC WQ WX WZ X Z>
BA #185 DHA EC EQ EX EZ FA FINAL(NG) #49 HTA HTTA IC IQ IX IZ #48 LONG(UEX) MA MC MQ MX MZ NA NGA
NHA NYA OC OQ OX OZ #103 #54 SHORT(AWX UEZ) #102 TSA U<C EC EQ EX EZ I<C Q UC UQ UX UZ X Z> Q X Z>
VC VQ VX VZ #383 ZA)) NGUT(COMPONENT[0<0<#56> #373 #866 #561> 1<#867> 2<#867> 3<#867> 4<#867>
5<#867> 6<#867> 7<0<#41> #373 #866 6<#23 7 8>>] ITERATION(MARK)) PE(CARTRIDGE DRIVE) URUS XI>
E<ACUP(WITHOUT(HANDLE)) APOT AR[OFF(CALENDAR)] ARDROP[BARBED(#32) SPOKED(#78)] DDY(BEAR)
LEPHONE(LOCATION(SIGN) ON(TOP(OF(MODEM))) RECEIVER.(WITH(PAGE)) RECORDER SIGN) LESCOPE LEVISION
LUGU(#1097 FRACTION(DIGIT(ONE(#501) THREE(#501) TWO(#501) ZERO(FOR(ODD(#500))))) LENGTH(MARK)
LETTER(#506 DZA E EE #1095 #335 RRRA #128 TSA #236 #279) SIGN(#510 COMBINING(ANUSVARA(#2)
CANDRABINDU(#2)) #546 TUUMU #27) VOWEL(#306)) NGE(SIGN) NNIS(RACQUET(#226)) NT ST(TUBE)
TRAGRAM(FOR(ACCUMULATION ADVANCE AGGRAVATION ASCENT BARRIER BOLD(RESOLUTION) BRANCHING(OUT)
C<ENTRE HANGE LOS<ED(#83) ENESS URE> OMPLETION OMPLIANCE ONSTANCY ONTACT ONTENTION ONTRARIETY>
D<ARKENING ECISIVENESS EFECTIVENESS(OR(DISTORTION)) EPARTURE IFFICULTIES IMINISHMENT IMMING
IVERGENCE OUBT UTIES> E<ASE MBELLISHMENT NCOUNTERS NDEAVOUR NLARGEMENT TERNITY XHAUSTION> FAILURE
FLIGHT FOLLOWING FOSTERING FULL(#19) FULLNESS GATHERING.(IN) GOING(TO(MEET)) GREATNESS GUARDEDNESS
HARDNESS HOLDING(BACK) INCREASE INNER JOY KEEPING(SMALL) KINSHIP LABOURING LAW(OR(MODEL)) LEGION
MASSING MEASURE MIRED ON(THE(VERGE)) OPPOSITION PACKING PATTERN PENETRATION PURITY REACH RELEASE
RESIDENCE RESISTANCE RESPONSE RITUAL SEVERANCE SINKING STOPPAGE STOVE STRENGTH UNITY
VASTNESS(OR(WASTING)) WAITING WATCH YOUTHFULNESS))> H<AANA(AABAAFILI ABAFILI EBEFILI EEBEEFILI
EYBEYFILI IBIFILI LETTER(AINU ALIFU BAA CHAVIYANI DAADHU DAVIYANI DHAALU FAAFU GAAFU GHAINU
GNAVIYANI HAA HHAA JAVIYANI KAAFU KHAA LAAMU LHAVIYANI MEEMU NAA NOONU PAVIYANI QAAFU RAA SAADHU
SEENU SHAVIYANI SHEENU TAVIYANI THAA THAALU TO TTAA VAAVU WAAVU YAA ZAA ZAVIYANI ZO) OABOAFILI
OBOFILI OOBOOFILI SUKUN UBUFILI) AI(CHARACTER(ANGKHANKHU BO(BAIMAI) CHO(CH<AN ANG ING OE>)
DO(CHADA DEK) FO(FA FAN) FONGMAN HO(HIP NOKHUK) KHO(KH<AI ON UAT WAI> RAKHANG) KHOMUT KO(KAI)
LAKKHANGYAO LO(CHULA LING) LU MAI(CHATTAWA EK HAN[AKAT] THO TRI) MAITAIKHU MAIYAMOK MO(MA)
NGO(NGU) NIKHAHIT NO(NEN NU) O(ANG) PAIYANNOI PHINTHU PHO(PHAN PHUNG SAMPHAO) PO(PLA) RO(RUA) RU
SARA(A AA AE AI(MAIMALAI MAIMUAN) AM #107 U UE UEE UU) SO(RUSI SALA SO SUA) THANTHAKHAT
THO(NANGMONTHO PHUTHAO TH<AHAN AN ONG UNG>) TO(PATAK TAO) WO(WAEN) YAMAKKAN YO(YAK YING))
CURRENCY(SYMBOL(BAHT)) DIGIT(#557)) ER<E(DOES(NOT(EXIST)) EXISTS) EFORE MODYNAMIC MOMETER>
IN(GREEK(#15) SALTIRE SPACE) INKING(FACE) IRD(PLACE(MEDAL)) ONG(SANDAL) OUGHT(BALLOON) REE(#1219
DIMENSIONAL(ANGLE) DOT(#67) LEFTWARDS(#134) LINES(CONVERGING(#10)) NETWORKED(COMPUTERS)
POINTED(#176) RAYS(#4 #10) RIGHTWARDS(#134) SPEECH(BUBBLES))[D(BOTTOM[LIGHTED(RIGHTWARDS(#26))]
LEFT[LIGHTED(DOWNWARDS(#167))] RIGHT[LIGHTED(UPWARDS(#167))] TOP[LIGHTED(LEFTWARDS(#167)
RIGHTWARDS(ARROWHEAD EQUILATERAL(#26)))]) EM(DASH) PER[EM(#84)]] UMBS(#808)
UNDER(CLOUD(AND(RAIN))) UNDERSTORM> I<BETAN(ASTROLOGICAL(SIGN([KHYUD(PA)] SDONG(TSHUGS)
SGRA(GCAN([CHAR(RTAGS)])))) CANTILLATION(SIGN(CANG(TE[U]) HEAVY(BEAT) LIGHT(BEAT) SBUB([CHAL])))
DIGIT(EIGHT #71 HALF(#557) NINE #240 #348) KU(RU(KHA.(BZHI(MIG(CAN))))) LETTER(#899
FIXED[FORM(RA)] #380 KKA KSSA LA #187 #336 #347 #554) LOGOTYPE(SIGN(CHAD(RTAGS) LHAG(RTAGS)))
MARK(ANG(KHANG(GYAS GYON)) BKA[(SHOG(GI(#502) YIG(MGO)))] BSDUS(RTAGS) BSKA[(SHOG(GI(#502)))]
BSKUR(YIG(MGO)) CARET([DZUD(RTAGS(BZHI(MIG(CAN)) ME(LONG(CAN))))] YIG(MGO(PHUR(SHAD(MA)))))
CHE(MGO) CLOSING(BRDA(RNYING(YIG(#842))) YIG(#842)) DELIMITER(TSHEG(BSTAR)) GTER(TSHEG
YIG(MGO([UM(GTER(TSHEG(MA)) RNAM(BCAD(MA)))] TRUNCATED(A)))) GUG(RTAGS(GYAS GYON)) HALANTA
INITIAL(BRDA(RNYING(YIG(#843))) YIG(#843)) INTERSYLLABIC(TSHEG) LEADING(MCHAN(RTAGS))
MNYAM(YIG(GI(#502))) NGAS(BZUNG(NYI(ZLA) SGOR(RTAGS))) NYIS(SHAD TSHEG.(SHAD)) PALUTA
RGYA(GRAM(SHAD)) RIN(CHEN(SPUNGS(SHAD))) SBRUL(SHAD) SHAD TRAILING(MCHAN(RTAGS)) TSA([PHRU])
TSHEG(SHAD) YIG(MGO(TSHEG(SHAD(MA))))) SIGN(GRU(CAN(RGYINGS) MED(RGYINGS)) #1221 LCI(RTAGS)
MAR(TSHES) MCHU(CAN) NYI(ZLA(NAA(DA))) RDEL(DKAR(#1220 RDEL(NAG)) NAG(#1220 RDEL(DKAR)))
RJES(SU(NGA(RO))) RNAM(BCAD) SNA(LDAN) YANG(RTAGS) YAR(TSHES)) SUBJOINED(LETTER(#899
FIXED[FORM(RA #36)] #380 #919 #554) SIGN(#1221 MCHU(CAN))) SYLLABLE(OM) SYMBOL(DRIL(BU)
NOR(BU.(BZHI([KHYIL]) GSUM([KHYIL]) NYIS([KHYIL]))) PADMA(GDAN) PHUR(PA) RDO(RJE.(RGYA(GRAM))))
VOWEL(SIGN(AA E EE #50 REVERSED(I II) #278))) CKET E(OVER(INFINITY)) FINAGH(CONSONANT(JOINER)
LETTER(AHAGGAR(YAZH) AYER(YAGH) BERBER(ACADEMY(YAH YAJ)) TAWELLEMET(YAZ) TUAREG(YA<GH GN H K KH NG
Q ZH>) YA.<A B BH CH D DD DDH DH F G GH GHH H HH J K KH KHH #55 P Q R RR S SH SS T TH TT V W Y Z
ZH ZZ> YE YEY YI YO YU) MODIFIER(LETTER(LABIALIZATION(MARK))) SEPARATOR(MARK)) GER.(FACE)
GHT(TRIFOLIATE(SNOWFLAKE)) LDE.(OPERATOR.(ABOVE(#281) WITH(DOT(#2) RISING(DOTS))) WITH(DOT(#4)
RING(#2))) MER(CLOCK) MES(#617) NY.(TWO(DOTS(#307))) RED(FACE) RHUTA(#954 DIGIT(#557) GVANG
LETTER(#565 #525) OM SIGN(#510 #387) VOWEL(SIGN(#241 SHORT(E O) #278))) RONIAN(SIGN(CAPITAL(ET)
ET))> O<ILET KYO(TOWER) MATO NGUE OLBOX OTH OTHBRUSH P(ARC(ANTICLOCKWISE(ARROW.(WITH(PLUS)))
CLOCKWISE(ARROW(WITH(MINUS)))) CURLY(#7) HALF(#969 SECTION(SIGN)) HAT #970 #1183
WITH(UPWARDS(#137))) RTOISE(SHELL(BRACKETED(CJK(UNIFIED(IDEOGRAPH[4E09 4E8C 52DD 5B89 6253 6557
672C 70B9 76D7])) LATIN(CAPITAL(LETTER(S)))))) TAL(RUNOUT) TO(LETTER(A AE BA BREATHY(AE E EO I
IU) #203 E EO GA HA I IU #255 #62 O #250 #200) SIGN(RISING(TONE)))> R<A<CKBALL CTOR DE(MARK(SIGN))
IN M.(CAR) NSPLUTO NSVERSAL(#298)> IANGLE(WITH(DOT(#2) ROUNDED(#230) SERIFS(AT(BOTTOM))
UNDERBAR))[#228] IANGULAR(BULLET FLAG(ON(POST)) RULER) ICOLON IDENT(EMBLEM) IGRAM(FOR(EARTH FIRE
HEAVEN LAKE MOUNTAIN THUNDER WATER WIND)) IPLE(COLON(#9) DAGGER HORIZONTAL(BAR(WITH(DOUBLE(#120)
TRIPLE(#120)))) INTEGRAL NESTED(#158) PLUS PRIME SOLIDUS(BINARY(RELATION)) TILDE
VERTICAL(BAR(BINARY(RELATION) DELIMITER RIGHT(#123) WITH(#140)))) OLL OLLEYBUS OPHY OPICAL(DRINK
FISH) UE.(LIGHT(MOON(ARTA))) UMPET> U<GRIK(SIGN) LIP MBLER(GLASS) RKEY RKISH(LIRA(SIGN))
RNED(AMPERSAND ANGLE BLACK(PENTAGON SHOGI(PIECE)) CAPITAL(F) COMMA DAGGER DIGIT(#72)
GREEK(SMALL(LETTER(IOTA))) NORTH(#845) NOT(SIGN) OK(#301) SANS[SERIF(CAPITAL(G L Y))] SEMICOLON
SMALL(F) SOUTH(#845) WHITE(SHOGI(PIECE))) RTLE> WELVE(#480) WISTED(RIGHTWARDS(#134))
WO(ASTERISKS(ALIGNED(VERTICALLY)) #1219 DOT(LEADER PUNCTUATION) DOTS(#307) HEARTS
INTERSECTING(LOGICAL(#173)) JOINED(SQUARES) LOGICAL(AND(#9) OR(#9)) MEN(#483) SPEECH(BUBBLES)
WOMEN(#483))[EM(DASH)]>[REX SHIRT] U<GARITIC(LETTER(AIN ALPA BETA DELTA DHAL GAMLA GHAIN HO HOTA I
KAF KHA LAMDA #237 PU QOPA RASHA SADE SAMKA SHIN SSU TET THANNA TO U WO YOD ZETA ZU) WORD(#172))
MBRELLA.(ON(GROUND) WITH(RAIN(DROPS))) N<AMUSED(FACE) CERTAINTY(SIGN) DERTIE DO(#0) ICORN(FACE)
ION.(ABOVE(BAR(ABOVE(#298)) INTERSECTION) BESIDE(AND(JOINED(WITH(UNION)))) WITH(LOGICAL(OR)
MINUS(SIGN) OVERBAR)) IT(#29) ITED(#0) IVERSAL(#658) MARRIED(PARTNERSHIP(#0))>
P(ARROW(THROUGH(#19)) ARROWHEAD.(BETWEEN(TWO(HORIZONTAL(BARS))) IN(#846)) BARB(LEFT(#847)
RIGHT(#847)) DOWN(ARROW.(WITH(BASE)) #884 #1146 WHITE(#3)) #1031
TACK.(WITH(#456)))[POINTING(AIRPLANE MILITARY(AIRPLANE) RED(#24) SMALL(AIRPLANE RED(#24))
TRIANGLE(#617))] PPER(AND(LEFT(#848) LOWER(ONE(#450) TRIANGULAR(#315)) RIGHT(#848)) #1171
HALF(BLOCK.(AND(LOWER(HALF(INVERSE(#482))))) CIRCLE INVERSE(MEDIUM(SHADE(AND(LOWER(#315))))
WHITE(#19)) MEDIUM(SHADE)) LEFT(#1170 OR(LOWER(RIGHT(#849))) QUADRANT(#775) TO(#836) #1222)
ONE(#473) RIGHT(BLOCK(#774) DROP[#778] OR(LOWER(LEFT(#849))) #776 SHADOWED(WHITE(#58))
TO(#837) #1222) #1172) PSIDE[DOWN(FACE)] PWARDS(ANCORA ARROW.(#1033 LEFTWARDS(OF(DOWNWARDS(#3)))
TO(BAR) WITH(#1032)) #1036
TRIANGLE(#26)[HEADED(ARROW.(LEFTWARDS(OF(DOWNWARDS(#297))) #1035) #372)] TRIPLE(#3)
TWO(#142)[HEADED(ARROW(FROM(#474) WITH(#714)))] WHITE(ARROW.(FROM(BAR.(#745))
ON(PEDESTAL.(WITH(HORIZONTAL(BAR) VERTICAL(BAR)))) WITHIN(#175)) DOUBLE(ARROW.(ON(PEDESTAL)))))
RANUS S> V<AI(COMMA DIGIT(#557) FULL(STOP) QUESTION(MARK) SYLLABLE(A AN B<#234> C<#110> D<#74
H<#234> #155> E EE EEN EN F<#110> G<A B<#74 EN I O ON OO U> E EE EN #155> H<A AN E EE EN I IN O ON
OO U UN> I IN J<#110> K<A AN #109 OO P<A AN E EE EN #155> U> L<#74 ENGTHENER #155> M<A B<#110> E
EE GB<#110> #155> N<A D<A #109 OLE(DO FA KA MA SOO) OO U> E EE G GAN GEN GG<#74 EN #155> GON I
J<#110> O OO U Y<#110>> O ON OO OON P<#110> R<#110> S<#234> T<#234> U UN V<#110> W<A AN E EE EEN
EN I IN O ON OO OON U UN> Y<#110> Z<#234>) SYMBOL(BANG DANG DO[O] DOONG FAA FEENG JONG KEENG KUNG
NII TAA TING TONG)) AMPIRE ARIATION(SELECTOR[#1225]) ECTOR(OR(CROSS(#97)))
EDIC(SIGN(ANUSVARA(ANTARGOMUKHA BAHIRGOMUKHA UBHAYATO(MUKHA) VAMAGOMUKHA.(#174)) ARDHAVISARGA
ATIKRAMA DOUBLE(ANUSVARA(ANTARGOMUKHA)) HEXIFORM(LONG(#138)) JIHVAMULIYA LONG(#138) NIHSHVASA
REVERSED(VISARGA(#703)) ROTATED(ARDHAVISARGA) RTHANG(LONG(#138)) TIRYAK UPADHMANIYA
VISARGA(ANUDATTA.(#174) SVARITA UDATTA.(#174)) YAJURVEDIC(MIDLINE(#324))) TONE(ATHARVAVEDIC(#503)
CANDRA(#4) DOT(#1) DOUBLE(RING(#2) SVARITA) KARSHANA KATHAKA(ANUDATTA) PRENKHA
RIGVEDIC(KASHMIRI(#503)) RING(#2) SHARA THREE(#76) TRIPLE(#324) TWO(#76)
YAJURVEDIC(AGGRAVATED(#503) INDEPENDENT(#324) KATHAKA(INDEPENDENT(SVARITA.(SCHROEDER)))))) ERSICLE
ERTICAL(BAR(BESIDE(#432) DOUBLE(LEFT(#123)) TRIPLE(RIGHT(#123)) WITH(#140)) #1186
IDEOGRAPHIC(#305) KANA(REPEAT(MARK.(LOWER(HALF) UPPER(HALF))
WITH(VOICED(SOUND(MARK.(UPPER(HALF))))))) LINE.(EXTENSION WITH(CIRCLE(#4) MIDDLE(DOT))) MALE(#738)
ONE(EIGHTH(BLOCK[#208 7])) SIX(DOTS) TAB(KEY) TABULATION.(SET) TILDE TRAFFIC(#20) ZIGZAG(LINE))
ERY(BOLD(GREEK(#15)) HEAVY(EIGHT(#178) #901 REVERSE(#166) #902 SOLIDUS WHITE(#58)) MUCH(#158))
ESTA I<BRATION(MODE) CTORY(HAND) DEO(CAMERA GAME) DEOCASSETTE ETNAMESE(ALTERNATE(READING(MARK(CA
NHAY)))) EWDATA(#52) OLIN RGO THKUQI(CAPITAL(#1042) SMALL(#1042))> OIDED(GREEK(#15)) OLCANO
OLLEYBALL OLUME(#161) S<#1225> T TS ULCANUS ULGAR(FRACTION(FIVE(EIGHTHS SIXTHS) FOUR(FIFTHS)
ONE(EIGHTH FIFTH HALF NINTH QUARTER SEVENTH SIXTH TENTH THIRD) SEVEN(EIGHTHS) THREE(EIGHTHS FIFTHS
QUARTERS) TWO(FIFTHS THIRDS) ZERO(THIRDS)))> W<A<FFLE NCHO(DIGIT(#557) LETTER(A AA AAN AANG ANG AU
BA CA DA E EN FA GA HA I ING JA #48 LLHA #152 O ON ONG #547 TRA TSA U UEN #379 YIH ZA) NGUN(SIGN)
TONE(KOI KOINI TUP TUPNI)) NING(#850) RANG(CITI(CAPITAL(#851) DIGIT(#557) NUMBER(#588 #1045 #351
TWENTY) OM SMALL(#851))) RNING(SIGN) STEBASKET TCH TER(BUFFALO CLOSET POLO WAVE) TERMELON
VE(ARROW(POINTING(DIRECTLY(#10))) DASH) VING(BLACK(FLAG) HAND(SIGN) WHITE(FLAG)) VY(DASH
LINE #571) XING(#850)> EARY(#444) EDDING EDGE[TAILED(#32)] EIERSTRASS(ELLIPTIC(FUNCTION))
EIGHT(LIFTER) EST(SYRIAC(#15)) HALE HEEL.(OF(DHARMA)) HEELCHAIR(#0) HITE(ARROW(SHAFT(WIDTH(ONE
TWO(THIRDS)))) BULLET CHESS(#959) CIRCLE.(CONTAINING(BLACK(#474)) WITH(DOT(#33) DOWN(#3)
LOWER(#325) TWO(DOTS) UPPER(#325))) CLUB(SUIT) CONCAVE[SIDED(DIAMOND.(WITH(LEFTWARDS(TICK)
RIGHTWARDS(TICK))))] DIAMOND.(CONTAINING(BLACK(MEDIUM(#125) SMALL(#125) VERY(SMALL(#125))))
IN(#52) SUIT WITH(CENTRED(DOT))) DOWN(POINTING(#613 LEFT(HAND(INDEX))))[POINTING(#531)]
DRAUGHTS(KING MAN) EXCLAMATION(#221) FLAG.(WITH(HORIZONTAL(MIDDLE(BLACK(STRIPE))))) FLORETTE
FLOWER FOUR(POINTED(CUSP STAR)) FROWNING(FACE) #964 HEAVY(CHECK(MARK)
SALTIRE(WITH(ROUNDED(#230)))) #965 LARGE(#52) LATIN(#15) LEFT(#655)[POINTING(#567)]
LOZENGE(CONTAINING(BLACK(SMALL(LOZENGE)))) MEDIUM(#568 SMALL(#52) #570) MOON(SELENA) NIB #966 #967
RIGHT(#614)[POINTING(PENTAGON #567)] S<CISSORS ESAME(DOT) HOGI(PIECE) MALL(LOZENGE #570)
MILING(FACE) PADE(SUIT) QUARE.(BUTTON CONTAINING(BLACK(MEDIUM(#52) SMALL(#52) VERY(SMALL(#52))))
WITH(CENTRE(#852) LEFTWARDS(TICK) LOWER(#325) RIGHTWARDS(TICK) ROUNDED(#230) UPPER(#325)
VERTICAL(BISECTING(LINE)))) TAR UN.(BEHIND(CLOUD.(WITH(RAIN))) WITH(RAYS SMALL(CLOUD)))> TELEPHONE
TOUCHTONE(TELEPHONE) TRAPEZIUM TRIANGLE(CONTAINING(SMALL(WHITE(#24)))) TWO[#409]
UP(#614)[POINTING(CHEVRON SMALL(#24) TRIANGLE.(#28))] VERTICAL(BAR #963)
VERY(SMALL(#52)))[FEATHERED(#32)] I<DE[HEADED(DOWNWARDS(#327) LEFTWARDS(#327) NORTH(#853)
RIGHTWARDS(#327) SOUTH(#853) UPWARDS(#327))] GGLY(#852) LTED(FLOWER) ND(BLOWING(FACE) CHIME) NDOW
NE(GLASS) NKING(FACE) RED(KEYBOARD)> J O<LF(FACE) MAN.(WITH(BUNNY(EARS))) MANS(BOOTS CLOTHES HAT
SANDAL) MENS(#0) N(SIGN) OD RD(JOINER SEPARATOR(MIDDLE(DOT))) RLD(MAP) RM RRIED(FACE)>
RAPPED(PRESENT) REATH(#97) RENCH RESTLERS RITING(HAND)> X(IN(#846))[RAY] XIANGQI(BLACK(#854)
RED(#854)) XOR Y<AWNING(FACE) ELLOW(HEART) EN(SIGN) EZIDI(COMBINING(HAMZA(MARK) MADDA(MARK))
HYPHENATION(MARK) LETTER(BE CHHIM CHIM CIM DAD DAL ELIF ET EW EYN FA GAF HAY HHA JA KAF KHAF
LAM.(#283) MIM NUN OW PE PHE QAF RA RHA SAD SE SHIN SIN TA THE UM VA.(#143) WAW XA XHEYN
YOT.(WITH(CIRCUMFLEX(#2))) ZA ZAL ZE)) I(RADICAL(BBUT BUR CHE CIP CUOP CY CYP CYT DDUR DU GA GEP
GGOP GGUO GOT HMO HXIT HXOP HXUO JJIE JJUT JJY JO KE KIT LI LIE LYR MI MOP NBIE NYIP NYOP NZUP OP
PUT PYT QOT SHAT SHOP SHUR SHY SSI TAT TU VEP VUR WO YIT YO ZA ZOT ZUP ZUR ZZIET) SYLLABLE(#87
B<#87 B<#607 #1226> E EP EX #269 #399> C<#88 H<#206 #35 U.<#35 P R RX X> #111> #269 #399> D<#87
D<#608 U.<#398>> E EP EX #330 U.<O OX #397>> E EX F<#87 I IP IT IX #205 #536 #555> G<#206 G<#206 I
IE IEP IEX IT IX #35 U.<#400>> #269 U.<#400>> H<#88 IE IEX IT L<#88 #329 #205 #399> M<#609
U.<#398> Y YP YR YRX YX> N<#1227 OP OT OX UO UOX UT> #35 #1228 X<#607 #1228>> I.<#268 P T
TERATION(MARK) X> J<I.<#268 P T X> J<#269 #1226> #35 #401> K<#206 #330 U.<#398>> L<#607 #401>
M<#87 E EX G<#88 IE IEX #35 U.<#398>> #330 U.<#400> #555> N<A AP AX B<#609 #610> D<#88 I IE IEX IP
IT IX #35 #536> E EP EX G<#88 IE IEP IEX #35 UO UOT UOX> #329 J<#269 U #1229> #35
R<#206 #205 #610> U.<#398> Y<#269 U #611 UP UT UX> Z<#87 E EX #329 OP OX U #1229>> #35
P<#609 #399> Q<#269 #401> R<#88 #35 R<A AX #268 #35 U.<O OX #397> #111> #399> S<#1230 S<#608 U UP
UT UX #111> #399> T<#608 U.<#400>> #611 V<#87 EP EX #269 #610> W<#88 #205 U #611> X<#269 UO
UOX #111> Y<#269 #401> Z<#1230 #399 Z<#1227 #205 U #523 UX #111>>)) IN(YANG) O[YO]>
Z<ANABAZAR(SQUARE(CLOSING(#857) CLUSTER[FINAL(LETTER(LA RA VA YA)) INITIAL(LETTER(RA))]
FINAL(CONSONANT(MARK)) INITIAL(#857) LETTER(#899 #380 #1215) MARK(DOUBLE(SHAD) LONG(TSHEG) SHAD
TSHEG) SIGN(ANUSVARA CANDRA<BINDU.(#318)>(#318) #27) SUBJOINER VOWEL(LENGTH(MARK) SIGN(AI AU E I O
OE REVERSED(I) U UE)))) EBRA(FACE) ERO(WIDTH(JOINER NO[#488] NON[JOINER] SPACE)) EUS
IPPER[MOUTH(FACE)] NAMENNY(COMBINING(ATTACHING(VERTICAL(OMET)) LOWER(TONAL(RANGE(#177)))
MARK(BORZAYA CHASHKA.(POLNAYA) CURVED(OMET) DEMESTVENNY(ZADERZHKA) DVOETOCHIE GORAZDO(NIZKO(#858)
VYSOKO) KACHKA KRYZH.(ON(LEFT)) KUPNAYA LOMKA MALO(POVYSHE(#626 STRANNO)) NIZKO(#858) OBLACHKO ON
OTSECHKA PODCHASHIE.(WITH(#120)) PODVERTKA POVYSHE(#626 STRANNO) RAVNO RAZSEKA SKOBA
SOROCHYA(NOZHKA) SREDNE(ON(#10)) STRANNO(MALO(POVYSHE)) TIKHAYA TOCHKA TSATA(ON(#10) S(KRYZHEM))
UDARKA VYSOKO(#626) ZADERZHKA ZELO ZEVOK) TONAL(RANGE(MARK(MRACHNO SVETLO TRESVETLO))))
NEUME(CHASHKA CHELYUSTKA DEMESTVENNY(KLYUCH) DERBITSA DOUBLE(#328) DUDA DVA(V(CHELNU)) FITA
GOLUBCHIK(BORZY MRACHNY SVETLY TIKHY TRESVETLY) KHAMILO KLYUCH KOBYLA KRYUK.(TIKHY) KRYZH KUFISMA
MECHIK.(KLYUCHE<NEPOSTOYANNY POVODNY VOY> POVODNY) NEMKA OBLAKO OSOKA.(KLYUCHEVAYA(NEPOSTOYANNAYA
SVETLAYA) KRYUKOVAYA(SVETLAYA) #921) PALKA PARAKLIT PAUK PEREVODKA.(NEPOSTOYANNAYA) PODCHASHIE
POLKULIZMY REVERSED(CHELYUSTKA) ROG SKAMEYTSA(DVOECHELNAYA(KLYUCHEVAYA NEPOSTOYANNAYA PROSTAYA
SVETLAYA) KLYUCHE<NEPOSTOYANNAYA VAYA(#1231)> MRACHNAYA #1231 TRESVETLAYA) SLOZHITIE.(S(KRYZHEM
ZAPYATOY) ZAKRYTOE) STATYA.(NEPOSTOYANNAYA S(DVUMYA(ZAPYATYMI) KRYZHEM.(I(ZAPYATOY)) ROGOM
ZAPYATOY.(I(KRYZHEM PODCHASHIEM))) ZAKRYTAYA.(S(ZAPYATOY))) STOPITSA.(S(OCHKOM)
WITH(SOROCHYA(NOZHKA))) STRELA(DVOECHELN<AYA.(KLYUCHEVAYA) OKRYZHEVAYA OPOVODNAYA.(KLYUCHEVAYA)>
GROM<#859> KLYUCHE<NEPOSTOYANNAYA POVODNAYA> KRYUKOVAYA.(GROM<#859> POVODNAYA TRYASKA) KRYZHEVAYA
MRACHNOTIKHAYA NEPOSTOYANNAYA POLUPOVODNAYA POVODNAYA PROSTAYA TIKHAYA(PUTNAYA) TRYASO<GLASNAYA
POVODNAYA STRELNAYA>) VRAKHIYA(KLYUCHEVAYA(#1232) #1232) ZANOZHEK ZAPYATAYA ZMEYTSA)
PRIZNAK(MODIFIER(DIRECTION(FLIP) KRYZH LEVEL[2 3] ROG))) OMBIE WJ WNBSP WNJ
WSP>(NOTATION(BAG(MEMBERSHIP) DOMAIN(#855) LEFT(#856) RANGE(#855) RELATIONAL(COMPOSITION)
RIGHT(#856) SCHEMA(COMPOSITION PIPING PROJECTION) SPOT TYPE(COLON)))"

end ClientGen.Text.CharName
