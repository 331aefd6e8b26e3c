/-!
# Names of characters from N to S

A part of the outline of the names of characters, in lines.
-/

namespace ClientGen.Text.CharName

/-- The outline of the names that start with a letter from N to S. -/
def nToS : String :=
"N<A<BATAEAN(CRUCIFORM(NUMBER(FOUR)) LETTER(#585 FINAL(#356 HE #512 #237 SHIN YODH) #586)
NUMBER(#71 #391)) BLA IL(POLISH) IRA(SIGN) K ME(BADGE) ND NDINAGARI(HEADSTROKE
LETTER(#518 #336 #236 VOCALIC(R RR) YA) SIGN(#509 SIDDHAM #27) VOWEL(SIGN(#1189 U UU VOCALIC(R
RR)))) RROW(NO[#488]) TIONAL(DIGIT(SHAPES) PARK) USEATED(FACE) ZAR(AMULET)> BH BSP E<CKTIE
GATED(DOUBLE(VERTICAL(BAR(DOUBLE(RIGHT(#123)))))) GATIVE(ACKNOWLEDGE CIRCLED(DIGIT(ZERO)
LATIN(#799) NUMBER(#863 #541 SIXTEEN THIRTEEN TWELVE TWENTY) SQUARE TRIANGLE) DIAGONAL(#975
MIDDLE(RIGHT(#285))) SQUARED(AB CROSS(MARK) IC LATIN(#799) PA QUESTION(MARK) SA WC))
ITHER(A(SUBSET(#800) SUPERSET(#800)) APPROXIMATELY(NOR(#632)) GREATER[THAN(NOR(#1063))]
LESS[THAN(NOR(#602))]) L PTUNE.(#296) RD(FACE) SSUS ST(WITH(EGGS)) STING(DOLLS) UTER
UTRAL(CHESS(#957 KNIGHT.(#651) #958) FACE) W(LINE MOON(#300) SHEQEL(SIGN) TAI(LUE(DIGIT(#557)
LETTER(FINAL(B D K M N NG V) HIGH(#801) LOW(#801)) SIGN(LAE LAEV) THAM(DIGIT(ONE)) TONE(#489)
VOWEL(SIGN(AA AAY AE AY E II IY O OA OAY OY U UE UEY UU UY VOWEL(SHORTENER))))))
WA(ABBREVIATION(SIGN) COMMA #860 DOUBLE(COMMA DANDA) GAP(FILLER) INSERTION(SIGN) LETTER(#517 LHA
MA MHA N<A #49 NA YA YHA> O #1093 #953 #1190) OM PLACEHOLDER(MARK) SANDHI(MARK) SIDDHI SIGN(#510
FINAL(#138) JIHVAMULIYA NUKTA #599) VOWEL(#280)) WLINE(#10) WSPAPER XT(LINE PAGE)>
IGHT(WITH(STARS)) INJA KO(COMBINING(DOUBLE(#273) LONG(DESCENDING(TONE) #1191) NASALIZATION(MARK)
SHORT(#1191)) COMMA DANTAYALAN DIGIT(#557) DOROME(SIGN) EXCLAMATION(MARK) HIGH(TONE(APOSTROPHE))
LAJANYALAN LETTER(A BA #203 DAGBASINNA E EE FA GBA #381 JONA(CHA JA RA) KA LA MA N NA.(WOLOSO)
NYA.(WOLOSO) O OO #596 SA TA #200) LOW(TONE(APOSTROPHE)) SYMBOL(GBAKURUNEN OO(DENNEN))
TAMAN(SIGN)) L NBSP O<MINAL(DIGIT(SHAPES)) MISMA(SIGN) N[BREAKING(HYPHEN) POTABLE(WATER(#0))]
NFORKING R RDIC(MARK(SIGN)) RMAL(#802) RTH(EAST(AND(SOUTH(#320)) ARROW.(AND(SOUTH(#119))
CROSSING(NORTH(#320) SOUTH(#119)) WITH(HOOK)) #885) INDIC(FRACTION(#917) PLACEHOLDER(MARK)
QUANTITY(MARK) QUARTER(MARK) RUPEE(MARK)) WEST(AND(SOUTH(#119)) ARROW.(AND(#490) CROSSING(#490)
TO(CORNER LONG(BAR)) WITH(HOOK)) #885)) RTHEAST[POINTING(AIRPLANE)] SE T(A(SUBSET(OF)
SUPERSET(OF)) ALMOST(#12) AN(ELEMENT(OF)) ASYMPTOTICALLY(#12) CHECK(MARK) #602 IDENTICAL(TO)
LESS[THAN] NORMAL(#802) PARALLEL(TO) SIGN SQUARE(IMAGE(OF(#80)) ORIGINAL(OF(#80))) TILDE TRUE)
TCHED(LEFT(#803) LOWER(#428) RIGHT(#803) UPPER(#428)) TE.(PAD PAGE)
TEBOOK.(WITH(DECORATIVE(COVER)))>(BICYCLES BREAK(HERE) ENTRY.(SIGN) MOBILE(PHONES)
ONE(UNDER(EIGHTEEN(#0))) PEDESTRIANS PIRACY SMOKING(#0))[#488] UL ULL UMBER(EIGHTEEN(#53)
ELEVEN(#53) FIFTEEN(#53) FOURTEEN(#53) NINETEEN(#53) SEVENTEEN(#53) SIGN SIXTEEN(#53) TEN(#53)
THIRTEEN(#53) TWELVE(#53) TWENTY(#53)) UMERO(SIGN) USHU(#305) UT(AND(BOLT))
YIAKENG(PUACHUE(HMONG(CIRCLED(CA) DIGIT(#557) LETTER(A AA CA DA DLA E EE #378 HAH I KA LA MA MLA
N<A CA KA PA PLA QA RA TA TSA TXA YA> O OO PA PLA QA RA RRA SA TA TSA TXA U VA W XA XYA YA ZA)
LOGOGRAM(NYAJ) SIGN(FOR(ANIMAL INVERTEBRATE LOCATION PERSON THING) XW(XW)) SYLLABLE(#407) TONE[B D
G J M S V])))>[ARY(CIRCLED(DOT(#9) PLUS(#9) TIMES(#9)) COPRODUCT INTERSECTION LOGICAL(#173)
PRODUCT SQUARE(INTERSECTION(#9) UNION(#9)) SUMMATION TIMES(#9) UNION.(OPERATOR(WITH(DOT PLUS)))
WHITE(#168))] O<BJECT(REPLACEMENT(#491)) BLIQUE(ANGLE(OPENING(#61)) HYPHEN) BSERVER(EYE(#0))
CR(AMOUNT(OF(CHECK)) BELT(BUCKLE) BOW(TIE) BRANCH(BANK(IDENTIFICATION)) CHAIR
CUSTOMER(ACCOUNT(NUMBER)) DASH DOUBLE(#439) FORK HOOK INVERTED(FORK)) CTAGONAL(SIGN) CTOPUS DEN
FFICE(BUILDING) GHAM(FEATHER(MARK) LETTER(AILM BEITH CEIRT COLL DAIR EABHADH EADHADH EAMHANCHOLL
FEARN GORT IFIN IODHADH LUIS MUIN NGEADAL NION ONN OR PEITH RUIS SAIL STRAIF TINNE UATH UILLEANN
UR) REVERSED(FEATHER(MARK)) SPACE(MARK)) GONEK HM(SIGN) IL(DRUM) K(#301) L(CHIKI(AHAD DIGIT(#557)
GAAHLAA(TTUDDAAG) LETTER(A<AJ AK AM AW G L NG T> EDD EN EP ERR IH INY IR IS LA LAA #369 OB OH OTT
OV UC UD UNN UY) MU(TTUDDAG)[GAAHLAA(TTUDDAAG)] PHAARKAA PUNCTUATION(DOUBLE(MUCAAD) MUCAAD)
RELAA)) LD(CHINESE(HOOK(MARK) ITERATION(MARK)) HUNGARIAN(CAPITAL(#804) NUMBER(FIFTY FIVE ONE.(#17)
TEN) SMALL(#804)) ITALIC(LETTER(A BE CHE DE E.<F KS #55 R RS S SH SS> HE I II KA KE KHE KU
NORTHERN(TSE) O PE PHE SHE SOUTHERN(TSE) TE THE U UU VE YE ZE) NUMERAL(FIFTY FIVE ONE TEN)) KEY
NORTH(ARABIAN(LETTER(#564 ES[#63] FEH GEEM #247 HEH KAF #537 REH SAD TAH TEH #538)
NUMBER(ONE #349))) PER<MIC(LETTER(AN BUR CHERY DOI DZHOI DZITA E EF GAI HA I IA IE KOKE LEI MENOE
NENOE O OO PEEI REI SHCHOOI SHOOI SII TAI TSIU U VER VOOI Y<A AT ER ERI ERU RY U> ZATA ZHOI))
SIAN(NUMBER(HUNDRED ONE TEN TWENTY TWO) SIGN(A AURAMAZDAA.<HA>[2] BA BAGA BUUMISH CA DA
DAHYAAUSH.[2] DI DU FA GA GU #381 JI KA KU LA MA MI MU NA NU PA RA RU #128 TU U VA VI XA
XSHAAYATHIYA YA ZA) WORD(#172)) SONAL(COMPUTER)> SOGDIAN(FRACTION(#443) LETTER(ALEPH
ALTERNATE(AYIN) AYIN BETH FINAL(#356 HE NUN.(#492) SADHE.(#492) TAW.(#492)) #520
RESH[AYIN[DALETH]] #605) LIGATURE(AYIN[DALETH]) NUMBER(#71 ONE.(#16) #339 #151))
SOUTH(ARABIAN(LETTER(ALEF AYN BETH DALETH DHADHE DHALETH FE GHAYN #511 KAPH KHETH LAMEDH #237 #533
SADHE SAMEKH SAT SHIN TAW TETH THAW THETH #1087) NUMBER(FIFTY ONE) NUMERIC(#177)))
TURKIC(LETTER(ORKHON(A.<B D E<B D G K L N R S T Y> G L N Q R S SH T Y> BASH E<C LT M NC NG NT NY P
SH Z> I IC IQ O OE OEK OP OQ OT) YENISEI(A.<B D E.<B G K N NG T Y> G L NG Q R SH T Y> E EC ENC ENT
ENY ESH EZ I IQ OE OEK OQ))) UYGHUR(COMBINING(DOT(#4) TWO(#94)) LETTER(#356 FINAL(HETH)
GIMEL[HETH] #512 LESH #238 RESH #605) PUNCTUATION(BAR FOUR(DOTS) TWO(BARS DOTS)))) LDER(ADULT MAN
WOMAN) LIVE M(#0) N(WITH(EXCLAMATION(MARK(WITH(LEFT(RIGHT(#137))))))) NCOMING(AUTOMOBILE BUS
FIRE(ENGINE) POLICE(CAR) TAXI) NE(BUTTON(MOUSE) DOT(LEADER OVER(#742)))[PIECE(SWIMSUIT)] NION
PEN(BOOK BOX CENTRE(ASTERISK BLACK(STAR) CROSS TEARDROP[#79]) FILE(FOLDER) FOLDER HANDS(SIGN) LOCK
MAILBOX(#678) #606)[CIRCUIT[OUTPUT(H[TYPE(#0)] L[TYPE(#0)])] OUTLINED(#32)]
PERATING(SYSTEM(COMMAND)) PHIUCHUS PPOSITION PTICAL(DISC.(ICON)) PTION(KEY) R<ANGE(#615) ANGUTAN
IGINAL(OF) IYA(AI(#95) AU(#95) DIGIT(#557) FRACTION(#917) ISSHAR
LETTER(#518 #103 #367 #128 #236 #1190 YYA) SIGN(#510 NUKTA OVERLINE #27) VOWEL(#280)) NATE(#903)
THODOX(#15)>(#493) SAGE(CAPITAL(#805) SMALL(#805)) SC SMANYA(DIGIT(#557) LETTER(A AA ALEF BA CAYN
DEEL DHA E EE #378 I JA KAAF KHA LAAN MIIN NUUN O OO QAAF RA SA SHIIN TA U WAW XA YA)) TTER
TTOMAN(SIYAQ(ALTERNATE(NUMBER(EIGHT FIVE FOUR.(#16) NINE SEVEN SIX.(#16) TEN.(#11) THREE
TWO.(#11))) FRACTION(ONE(HALF SIXTH)) MARRATAN NUMBER(#927))) UNCE(SIGN) UTBOX(TRAY)
UTLINED(BLACK(STAR) GREEK(#15) LATIN(#15) WHITE(STAR)) VER<HEATED(FACE) LAP LAPPING(BLACK(SQUARES)
WHITE(AND(BLACK(SQUARES)) SQUARES)) LINE> WL X YSTER> P<A<CKAGE D DDING(#491) GE.(FACING(UP)
WITH(CIRCLED(TEXT) CURL)) GER GES GODA HAWH(HMONG(CLAN(SIGN(FAJ HAM HAWJ KHAB KOO KWM LAUJ LIS
MUAS PHAB THOJ TSAB TSHEEJ TSWB VAJ VWJ XYOOJ YAJ YEEG)) CONSONANT(AU CAU CHAU HAU HLAU HNAU LAU
MAU NAU NCHAU NKAU NLAU NTHAU NTSAU PLHAU QHAU RAU VAU XAU YAU) DIGIT(#557) MARK(CIM(HOM KES KHAV
SO SUAM TAUM TUB)) NUMBER(HUNDRED<S>(MILLIONS) MILLIONS TEN(BILLIONS THOUSANDS) TENS TRILLIONS)
SIGN(AV CIM(CHEEM CUAM(TSHOOJ) HAIS(LUS(NTOG(NTOG))) NRES(TOS) PUB(DAWB) TSOV(ROG) TXWV.(CHWV))
HLI HNUB IB(YAM) LOS MEEJ(SUAB TSEEB) MUS NQIG NTUJ TAU THIRD[STAGE(HLI)] TXHEEJ(CEEV) VOS(FEEM
LUB NRUA SEEV THIAB THOM TSHAB(CEEB)) XAUS XIAB XYEEM(FAIB NTXIV RHO TOV) XYOO ZWJ(THAJ))
VOWEL(K<A<AB AV B IB IV UB UV V WB WV> EB EEB EEV EV IAB IAV IB IV OB OOB OOV OV UAB UAV UB UV WB
WV>))) LLAS LM(BRANCH DOWN(HAND) TREE UP(HAND)) LMS(UP(#304)) LMYRENE(LEFT[#806] LETTER(#585
FINAL(NUN) #586) NUMBER(#71 ONE TEN #151) RIGHT[#806]) NCAKES NDA(FACE) PERCLIP R<ACHUTE AGRAPH<OS
US(MARK)>(#29) ALLEL(TO WITH(HORIZONTAL(#6) TILDE(#9))) ENTHESIZED(DIGIT(#558) HANGUL(CHIEUCH.(A)
CIEUC.(A U) HIEUH.(A) IEUNG.(A) #991) IDEOGRAPH(ALLIANCE CALL CONGRATULATION #993 FESTIVAL #994
LABOR #995 NINE ONE RE<ACH PRESENT SOURCE ST> S<ELF #992 UN UPERVISE> #996) KOREAN(CHARACTER(O(HU)
OJEON)) LATIN(#576) NUMBER(#1185 TWENTY)) ROT T(ALTERNATION(MARK)) TIAL(DIFFERENTIAL LINE(BACKWARD
DOWN FORWARD UP)) TIALLY[RECYCLED(PAPER(#0))] TNERSHIP(SIGN) TY(POPPER)> SS<ED(#0) ENGER(SHIP)
IVE[PULL[DOWN[OUTPUT(#0)] UP[OUTPUT(#0)]]] PORT(CONTROL)> U(CIN(HAU(GLOTTAL(STOP.(FINAL VARIANT))
LETTER(A BA #185 E FA FINAL(K #55 NG P T W Y) GA HA I IA #48 #62 O #361 U UA VA ZA)
LOW[FALLING(TONE.(#494))] MID[LEVEL(TONE.(FINAL LONG(FINAL)))] RISING(TONE.(#494))
SANDHI(GLOTTAL(STOP.(FINAL)) TONE.(#494))))) W(PRINTS)> DF DI E<ACE(#0) ACH ACOCK ANUTS AR
DESTRIAN N(OVER(STAMPED(#219))) NCIL NGUIN NSIVE(FACE) NTAGRAM OPLE(HUGGING) R<CENT(SIGN)
FORMING(ARTS) MANENT(PAPER(SIGN)) PENDICULAR.(WITH(S)) SEVERING(FACE) SON(BOWING(DEEPLY) CLIMBING
DOING(CARTWHEEL) FROWNING IN(LOTUS(POSITION) STEAMY(ROOM)) RAISING(BOTH(HANDS(IN(CELEBRATION))))
WITH(BALL BLOND(HAIR) CROWN FOLDED(HANDS) HEADSCARF POUTING(FACE))) SONAL(COMPUTER)
SPECTIVE>(MILLE(SIGN) SIGN TEN(#646)) SETA(SIGN) SO(SIGN) TRI(DISH)> HAGS[PA(DOUBLE(#495) LETTER(A
ALTERNATE(YA) ASPIRATED(FA) BA CA CANDRABINDU #203 DDA DZA E EE FA GA GGA #381 #48 #188 #69 QA
RA #54 SMALL(A) #102 #347 U VOICED(HA) VOICELESS(SHA) #383 #89) MARK(DOUBLE(SHAD) SHAD)
SINGLE(#495) SUBJOINED(#770) SUPERFIXED(LETTER(RA)))] HAISTOS(DISC(SIGN(ARROW BEE BEEHIVE
BOOMERANG BOW BULLS(LEG) C<APTIVE ARPENTRY(PLANE) AT HILD LUB OLUMN OMB OMBINING(OBLIQUE(#6))>
DOLIUM DOVE EAGLE FLUTE GAUNTLET GRATER HELMET HIDE HORN LID LILY MANACLES MATTOCK OX(BACK)
PAPYRUS PEDESTRIAN PLANE(TREE) PLUMED(HEAD) RAM ROSETTE SAW SHIELD SHIP SLING SMALL(AXE) STRAINER
TATTOOED(HEAD) TIARA TUNNY VINE WAVY(BAND) WOMAN))) HILIPPINE(DOUBLE(#67) SINGLE(#67))
HOENICIAN(LETTER(AIN ALF BET DELT GAML HE HET KAF LAMD #238 QOF ROSH SADE SEMK SHIN TAU TET WAU
YOD ZAI) NUMBER(#391) WORD(#29)) HOLUS I<CK CKUP(TRUCK) E G.(FACE NOSE) LCROW(SIGN) LE(OF(POO)) LL
NATA NCHED(#182) NCHING(HAND) NE(DECORATION) NEAPPLE NWHEEL(STAR) SCES STOL
TCHFORK.(WITH(TEE(TOP)))> L<ACARD ACE(OF(INTEREST(SIGN) WORSHIP)) ANCK(CONSTANT.(OVER(TWO(PI))))
AYGROUND(SLIDE) AYING(CARD(ACE(#46) BACK BLACK(JOKER) EIGHT(#46) FIVE(#46) FOOL FOUR(#46)
JACK(#46) KING(#46) KNIGHT(#46) NINE(#46) QUEEN(#46) RED(JOKER) SEVEN(#46) SIX(#46) TEN(#46)
THREE(#46) TRUMP[1.<#41> 2 20 21 #157] TWO(#46) WHITE(JOKER))) D U UNGER US(SIGN.(ABOVE(#485)
IN(#1187) WITH(BLACK(#24) CIRCUMFLEX(ACCENT(#2)) DOT(#1) SMALL(#456) SUBSCRIPT(TWO)
TILDE(#4))))[MINUS(SIGN)] UTO.(FORM(#71 #72))> M O<CKET(CALCULATOR) LICE(CAR CARS(REVOLVING(#20))
OFFICER) ODLE P(DIRECTIONAL(FORMATTING ISOLATE)) PCORN RTABLE(STEREO) SEIDON SITION(#177)
STAL(HORN MARK.(FACE)) STBOX T(OF(FOOD)) TABLE(WATER(#0)) TATO TTED(PLANT) UCH ULTRY(LEG)
UND(SIGN) URING(LIQUID) UTING(#444) WER(ON(#0)[OFF(#0)] SLEEP(#0) SYMBOL)> R<AYER(BEADS)
ECEDES.(#1193) EGNANT(MAN PERSON WOMAN) ESCRIPTION(TAKE) ESENTATION(FORM(FOR(VERTICAL(#354
EM(DASH) EN(DASH) EXCLAMATION(MARK) HORIZONTAL(ELLIPSIS) IDEOGRAPHIC(#43) LEFT(#1195
WHITE(CORNER(#7) LENTICULAR(#7))) LOW(LINE) QUESTION(MARK) RIGHT(#1195 WHITE(CORNER(#7)
LENTICULAR(BRACKET BRAKCET))) SEMICOLON TWO(DOT(LEADER)) WAVY(LOW(LINE)))))) ETZEL EVIOUS(PAGE)
I<ME NCE NCESS NT(SCREEN(#0)) NTER.(ICON) VACY(MESSAGE) VATE(USE(#38)[1 2])> O<BING(CANE)
HIBITED(SIGN) JECTIVE PERTY(LINE) PORTION PORTIONAL(TO) SERPINA>>
SALTER(PAHLAVI(FOUR(DOTS(WITH(CROSS DOT))) LETTER(#1091 #521 #1092) NUMBER(FOUR #391)
SECTION(MARK) TURNED(SECTION(MARK)))) U<1 2 BLIC(ADDRESS(LOUDSPEAKER)) NCTUATION(#84)
NCTUS(ELEVATUS(MARK)) RPLE(HEART) RSE SHPIN T(LITTER(IN(ITS(PLACE(#0)))))>> QU<ADRANT(LOWER(#10)
UPPER(LEFT.(AND(LOWER(LEFT(AND(#437)) RIGHT) UPPER(RIGHT(AND(LOWER(#10))))))
RIGHT.(AND(LOWER(LEFT.(AND(#437))))))) ADRUPLE(INTEGRAL(#9) PRIME) ARTER(NOTE)
ATERNION(INTEGRAL(#9)) ESTION<ED(#12)>(EXCLAMATION(MARK) MARK) INCUNX OTATION(MARK)>
R<A<BBIT.(FACE) CCOON CING(CAR MOTORCYCLE) DICAL(SYMBOL(BOTTOM)) DIO.(BUTTON) DIOACTIVE(SIGN)
ILWAY(CAR TRACK) IN INBOW ISED(BACK(OF(HAND)) COMMA DOT DOTTED(INTERPOLATION(#118)) FIST
HAND.(WITH(FINGERS(SPLAYED) PART(BETWEEN(MIDDLE(AND(RING(#182))))))) INTERPOLATION(#118) MC(SIGN)
MD(SIGN) MR(SIGN) SQUARE) M T TIO ZOR> E<CEIPT CORD(#29) CREATIONAL(VEHICLE) CYCLED(PAPER(#0))
CYCLING(SYMBOL(FOR(GENERIC(MATERIALS) TYPE[1(#146) 2(#146) 3(#146) 4(#146) 5(#146) 6(#146)
7(#146)]))) D(APPLE GIFT(#219)) FERENCE(MARK) GIONAL(INDICATOR(SYMBOL(#575))) GISTERED(SIGN)
JANG(CONSONANT(SIGN(H N NG R)) LETTER(#527 #255 MA #951 NGGA NYA NYJA #250 #36) SECTION(MARK)
VIRAMA VOWEL(SIGN(AI AU E EA EU #37))) LIEVED(FACE) MINDER(RIBBON) PLACEMENT(#491) SPONSE
STRICTED(LEFT(ENTRY[1 2])) STROOM TURN(#10 SYMBOL) VERSE(CHECKER(BOARD) INDEX
LIGHT(FOUR(POINTED(PINWHEEL(STAR)))) LINE(FEED) SOLIDUS.(OPERATOR PRECEDING(SUBSET) WITH(#140))
TILDE(OPERATOR(ABOVE(#281)))) VERSED(ANGLE.(#449) COMMA DOUBLE(PRIME.(#81) STROKE(NOT(SIGN)))
EMPTY(SET) FORKED(PARAGRAPHOS) HAND(WITH(MIDDLE(FINGER(EXTENDED)))) NOT(SIGN) PILCROW(SIGN) PRIME
QUESTION(MARK) RAISED(HAND(WITH(FINGERS(SPLAYED)))) RIGHT(ANGLE) ROTATED(FLORAL(#496))
SANS[SERIF(CAPITAL(L))] SEMICOLON THUMBS(#808) TILDE.(EQUALS) TRIPLE(PRIME) VICTORY(HAND))
VOLVING(HEARTS)> HINOCEROS I.<AL(SIGN) BBON.(ARROW(DOWN(#10) LEFT(#61) RIGHT(#61) UP(#10)))
CE(BALL CRACKER) FLE GHT<HAND(INTERIOR(#97)) WARDS(ARROW.(ABOVE(#1158 SHORT(#497) TILDE(#9)) #1160
OVER(#497) THROUGH(GREATER[THAN] SUPERSET X) TO(BAR BLACK(#125))
WITH(CORNER(#275) #1159))[TAIL] #1163 BOTTOM(#453) #1164 HARPOON(OVER(LEFTWARDS(#180))
WITH(BARB(DOWN(ABOVE(LEFTWARDS(#317)) #1161) DOWNWARDS UP(ABOVE(LEFTWARDS(#768) LONG(DASH)
RIGHTWARDS(#317)) #251) UPWARDS))) #1165
TRIANGLE(#26)[HEADED(ARROW.(OVER(LEFTWARDS(#297)) #1162) #372)] #1166 WHITE(ARROW.(FROM(WALL)
WITHIN(#175))))>(AND(LOWER(#451) UPPER(#451)) ANGER(#179) ANGLE.(BRACKET.(#28)
DOTTED(SUBSTITUTION(#118)) SUBSTITUTION(#118) VARIANT(WITH(#52)) WITH(ARC DOWNWARDS(ZIGZAG(#3))))
ARC(#709) ARROW(#760) #1150 #1151 DOUBLE(ANGLE(#7) ARROW(WITH(ROUNDED(HEAD))) #1143) #1152
HALF(#1144 FOLDER #1145) #1153 #1154 OPEN(SQUARED(DOT)) #1155 S<#1147
PEAKER.(WITH(#1196)) #1148>[#762] T<#1149 RIANGLE.(ABOVE(LEFT(#24))) RIANGULAR(#475)> #1156)[#1157
SIDE(ARC(#779)) TO[LEFT(#765)]] NG.(ABOVE BUOY EQUAL(TO) IN(#12) OPERATOR POINT) NGED(PLANET)
NGING(BELL) SING(DIAGONAL(CROSSING(FALLING(#165) SOUTH(#119))))> LE LI LM LO
O<ASTED(SWEET(POTATO)) BOT(FACE) CK CKET LL<ED[UP(NEWSPAPER)] ER(COASTER SKATE)
ING(ON(THE(FLOOR(LAUGHING))))>(OF(PAPER)) MAN(AS(SIGN) CENTURIAL(SIGN) DENARIUS(SIGN)
DIMIDIA(SEXTULA(SIGN)) DUPONDIUS(SIGN) NUMERAL(EIGHT ELEVEN FIFTY.(EARLY(FORM) THOUSAND)
FIVE.(#17) #566 ONE.(HUNDRED.(#11) THOUSAND.(C(D))) REVERSED(ONE(#16)) SEVEN SIX.(LATE(FORM))
TEN.(#11) #604) QUINARIUS(SIGN) SEMUNCIA(SIGN) SESTERTIUS(SIGN) SEXTANS(SIGN) SEXTULA(SIGN)
SILIQUA(SIGN) UNCIA(SIGN)) OSTER SE SETTE TATED(CAPITAL(Q) FLORAL(#496) HEAVY(BLACK(#496))
LIGHT(FOUR(POINTED(BLACK(CUSP)))) WHITE(FOUR(POINTED(CUSP)))) UND(PUSHPIN TARGET)
UNDED(SYMBOL(FOR(CAI FU LU SHOU SHUANGXI XI))) WBOAT> S U<BLE(SIGN) GBY(FOOTBALL) LE[DELAYED]
MI(DIGIT(#558) FRACTION(ONE(#598 THIRD) TWO(THIRDS)) NUMBER(#1012)) NIC(ARLAUG(#0) BELGTHOR(#0)
CROSS(#67) LETTER(AC(A) AESC ALGIZ(EOLHX) ANSUZ(A) BERKANAN(BEORC(BJARKAN(B))) C CALC CEALC CEN
CWEORTH D DAGAZ(DAEG(D)) DOTTED[L N P] E EAR EHWAZ(EH(E)) ENG ETH FEHU(FEOH(FE(F)))
FRANKS(CASKET(AC AESC EH IS OS)) G GAR GEBO(GYFU(G)) GER HAEGL(H) HAGLAZ(H) ICELANDIC[YR] ING
INGWAZ IOR ISAZ(IS(ISS(I))) IWAZ(EOH) JERAN(J) K KAUN(K) KAUNA LAUKAZ(LAGU(LOGR(L)))
LONG[BRANCH[AR(AE) #1197 OSS(O) YR]] MANNAZ(MAN(M)) NAUDIZ(NYD(NAUD(N))) O OE ON OO OPEN[P] OS(O)
OTHALAN(ETHEL(O)) PERTHO(PEORTH(P)) Q RAIDO(RAD(REID(R))) SH SHORT[TWIG[AR(A) BJARKAN(B) #1197
NAUD(N) OSS(O) SOL(S) TYR(T) YR]] SIGEL(LONG[BRANCH[SOL(S)]]) SOWILO(S) STAN
THURISAZ(THURS(THORN)) TIWAZ(TIR(TYR(T))) URUZ(UR(U)) V W WUNJO(WYNN(W)) X Y YR Z) MULTIPLE(#67)
SINGLE(#67) TVIMADUR(#0)) NNER NNING(SHIRT(WITH(SASH))) PEE(SIGN)
SSIAN(ASTROLOGICAL(SYMBOL(BINOVILE NOVILE QUINTILE SENTAGON TREDECILE VIGINTILE)))>> S<A<FETY(PIN
VEST) GITTARIUS ILBOAT KE(BOTTLE(AND(CUP))) LT(SHAKER) LTIRE LUTING(FACE)
MARITAN(ABBREVIATION(MARK) LETTER(ALAF BAA BIT DALAT FI GAMAN IN IT IY KAAF LABAT MIM NUN QUF RISH
SHAN SINGAAT TAAF TIT TSAADIY YUT ZEN) MARK(DAGESH EPENTHETIC(YUT) IN.[ALAF] NEQUDAA OCCLUSION)
MODIFIER(LETTER(EPENTHETIC(YUT) I SHORT(A))) PUNCTUATION(AFSAAQ ANGED ANNAAU ARKAANU ATMAAU BAU
MELODIC(QITSA) NEQUDAA QITSA SHIYYAALAA SOF(MASHFAAT) TURU ZAEF ZIQAA) VOWEL(SIGN(A AA E I LONG(A
AA E I U) O OVERLONG(A AA) SHORT(A) SUKUN U))) NDWICH NS[SERIF(HEAVY(DOUBLE(#731)
LOW(DOUBLE(#730))) INTERROBANG(#39))] RI TELLITE.(ANTENNA) TURN
URASHTRA(CONSONANT(SIGN(HAARU)) #861 LETTER(#506 E EE #190 #242 OO #525) SIGN(#154 #27)
VOWEL(#306)) UROPOD XOPHONE> C<ALES ARF HOOL.(SATCHEL) I OOTER ORPION ORPIUS REEN REWDRIVER
RIPT(CAPITAL(B E F H I L M P R) LIGATURE(#303) SMALL(E G L O)) ROLL RUPLE> E<AL AT
COND(PLACE(MEDAL)) CTION(SIGN) CTOR DNA E[#467] EDLING GMENT GMENTED(#559) LFIE MICOLON
MIDIRECT(PRODUCT(WITH(BOTTOM(CLOSED)))) MISEXTILE PARATED(#0) RIOUS(FACE(WITH(SYMBOLS(#809))))
RVICE(MARK) SAME(DOT) SQUIQUADRATE T(MINUS TRANSMIT(STATE)) WING(NEEDLE) XTILE> GC
H<A<DOWED(WHITE(CIRCLE LATIN(#15) STAR)) LLOW(PAN(OF(FOOD))) MROCK RADA(ABBREVIATION(SIGN)
CONTINUATION(SIGN) #861 EKAM EXTRA(SHORT(VOWEL(MARK))) HEADSTROKE LETTER(#621) OM SANDHI(MARK)
SECTION(#489) SEPARATOR SIGN(#510 INVERTED(#295) #1096 #599) SUTRA(MARK) VOWEL(MODIFIER(MARK)
SIGN(#1189 #278))) RK VED(ICE) VIAN(LETTER(A<DO GE H IR RE RRAY SH WE> BIB CHURCH DEAD EAR EAT EGG
ERR FEE GAG HA[HA] HUNG IAN ICE IF JUDGE KICK LOLL MEASURE MIME NUN OAK OIL ON OOZE OR OUT PEEP
ROAR SO SURE THEY THIGH TOT UP VOW WOE WOOL YEA YEW ZOO))> EEP IELD IFT(#215) INTO(SHRINE) IP
OCKED(FACE(WITH(EXPLODING(HEAD)))) OOTING(STAR) OPPING(BAGS TROLLEY) ORT<CAKE
HAND(FORMAT(CONTINUING(OVERLAP) DOWN(STEP) LETTER(OVERLAP) UP(STEP))) S>(BACKSLANTED(SOUTH(#3))
BENT(#650) DOWN(TACK.(#810)) LEFT(TACK) RIGHTWARDS(ARROW(ABOVE(#497))) SLANTED(NORTH(#3))
UP(TACK.(ABOVE(SHORT(DOWN(TACK))) WITH(#117)))) OULDERED(OPEN(BOX)) OWER RIMP RUG UFFLE(#97) Y>
I.<DDHAM(#988 END(#705) LETTER(#254 ALTERNATE(U) #1198 #149 THREE[CIRCLE(ALTERNATE(I))] #34
TWO[CIRCLE(ALTERNATE(I II))] #235 #279) REPETITION(MARK[#63])
SECTION(MARK(DOUBLE(RING.(WITH(RAYS))) WITH(CIRCLES(AND(FOUR(ENCLOSURES) RAYS TWO(ENCLOSURES)))
DOUBLE(#147) QUADRUPLE(#147) RAYS(AND(DOTTED(CRESCENTS DOUBLE(#147) TRIPLE(#147)))) SEPTUPLE(#147)
TRIDENT(AND(DOTTED(#147) U[SHAPED(ORNAMENTS)])) TRIPLE(#147)))) SEPARATOR(BAR DOT)
SIGN(#154 #546 #27) VOWEL(SIGN(AA AI ALTERNATE(U UU) AU #560 VOCALIC(R RR)))) DEWAYS(BLACK(#811)
WHITE(#811)) GN(OF(THE(HORNS))) GNWRITING(AIR(BLOW(#812) BLOWING(OUT) SUCK(#812) SUCKING(IN))
BREATH(EXHALE INHALE) BRUSH(#404) CHEEKS(NEUTRAL PUFFED SUCKED) #354 DREAMY(EYEBROWS(DOWN(NEUTRAL)
NEUTRAL(#61) UP(NEUTRAL))) DYNAMIC(ARROWHEAD(#211) EVERY(OTHER(TIME)) FAST GRADUAL RELAXED
SIMULTANEOUS.(ALTERNATING) SLOW TENSE) EARS EXCITEMENT EYE<BROWS(STRAIGHT(DOWN NEUTRAL UP))
GAZE[FLOORPLANE(#1199) WALLPLANE(CIRCLING #1199)] LASHES(DOWN FLUTTERING UP) S(CLOSED HALF(CLOSED
OPEN) OPEN SQUEEZED WIDE(OPEN) WIDENING(#321))>(BLINK(#403) WINK)
F<ACE(DIRECTION(POSITION(NOSE(FORWARD(TILTING) UP(OR(DOWN.(TILTING))))))) ILL(MODIFIER[#208])
INGER LICK(#1200) LOORPLANE(#813) OREHEAD(#1201 WRINKLED) ULL(STOP)> GRASP(#404) HAIR
HAND[ANGLE.(INDEX.(MIDDLE(LITTLE RING) RING(LITTLE.(OUT)) THUMB.(#215))
LITTLE(INDEX.(THUMB(INDEX(THUMB.(OUT)))) UP) MIDDLE(RING(LITTLE.(#215)))
RING(DOWN(MIDDLE(THUMB(INDEX(#15)))) LITTLE)) CIRCLE.(INDEX.(BENT HINGE MIDDLE.(CROSS(#68) CROSSED
LITTLE RING THUMB) RING(#68)) LITTLE(INDEX UP) MIDDLE(RING(LITTLE.(BENT)) UP) RING(#68))
CLAW.(FOUR(#814) INDEX(THUMB(CURVE(THUMB(#116)))) MIDDLE(RING(LITTLE(CONJOINED.(SIDE)))) #1202)
CUP.(FIVE(FINGERS(SPREAD.(OPEN))) INDEX.(RING(#68) THUMB.(OPEN)) MIDDLE(RING(#68)) #1203
THUMB(#405)) CURLICUE.(INDEX(#815) MIDDLE(#815) OPEN) FIST.(FOUR(FINGERS(CONJOINED(BENT))) HEEL
INDEX.(BENT.(OVER(MIDDLE)) CUPPED HINGED.(LOW MIDDLE(UP.(#183))) MIDDLE.(BENT.(THUMB(STRAIGHT))
CONJOINED.(CUPPED.(#816) HINGED.(#183) INDEX(BENT) MIDDLE(BENT) THUMB(FORWARD SIDE.(#625)))
CROSS(#68) CROSSED.(#183) HINGED.(SPREAD(#183)) LITTLE RAISED(KNUCKLES) RING.(#625)
STRAIGHT(THUMB(BENT)) THUMB.(ANGLED.(OUT) BENT CIRCLED CONJOINED(HINGED) CUPPED HINGED HOOKED)
UP(SPREAD(#816))) #1204 THUMB(ANGLED(IN(#322) OUT(#322)) CIRCLE CIRCLED(#322) CUPPED(#322)
CURLICUE CURVE(THUMB(INSIDE UNDER)) FORWARD(INDEX(BENT STRAIGHT)) HOOK HOOKED(MIDDLE(HINGED UP))
SIDE.(BOTH(BENT) INDEX(BENT HINGE) THUMB(#817))) UP(MIDDLE(HINGED.(THUMB(CONJOINED SIDE)))))
LITTLE(BENT DOWN.(OTHERS(CIRCLED) RIPPLE(CURVED STRAIGHT)) INDEX.(THUMB) #1205 TOUCHES(THUMB) UP)
MIDDLE(BENT(OVER(INDEX)) DOWN LITTLE #1204 THUMB(ANGLED(INDEX(UP) OUT(INDEX(CROSSED UP)))
CIRCLED(INDEX(HINGED UP)) CUPPED(INDEX(UP)) HOOKED(INDEX(UP)) LITTLE) UP.(#183)) RING(DOWN INDEX
LITTLE MIDDLE.(CONJOINED RAISED(KNUCKLES)) #1205 UP) THUMB.(BETWEEN(INDEX(MIDDLE.(STRAIGHT))
MIDDLE(RING) RING(#68)) FORWARD HEEL OVER(FOUR(RAISED(KNUCKLES)) TWO(#182)) SIDE(#817)
UNDER(FOUR(#182) INDEX(BENT) LITTLE(UP) THREE(#182) TWO(#182)))) FLAT.(BETWEEN(PALM(FACINGS))
FIVE(FINGERS(SPREAD.(#1206 HINGED.(NO(THUMB) THUMB(SIDE)) THUMB(FORWARD)))) FOUR(FINGERS.(BENT
CONJOINED.(SPLIT) HINGED)) HEEL.(FIVE(FINGERS(SPREAD.(#1206))) THUMB(SIDE))
SPLIT(CENTRE.(THUMB(SIDE.(BENT))) INDEX(#183) LITTLE) THUMB(BENT #405))
HINGE.(FIVE(FINGERS(SPREAD(OPEN))) FOUR(#814) INDEX.(HINGED MIDDLE(LITTLE RING.(CONJOINED))
RING(#68) THUMB.(LARGE OPEN SIDE SMALL)) LITTLE.(INDEX.(THUMB) THUMB) MIDDLE.(RING(#68)) #1203
RING.(DOWN(INDEX(THUMB(HOOK(MIDDLE))))) SMALL THUMB(BETWEEN(MIDDLE(RING)) SIDE.(TOUCHING(INDEX))))
HOOK.(CURLICUE INDEX(RING(LITTLE(#215 UNDER))) MIDDLE(RING(LITTLE(CONJOINED.(#215))) THUMB)
RING(THUMB)) OVAL.(FIVE(FINGERS(SPREAD)) INDEX LITTLE(UP) NO(THUMB) RING(#68) THUMB(#405))]
HEAD.(MOVEMENT(#19)[FLOORPLANE(#1207) WALLPLANE(#1207 TILT)] RIM) LIMB(COMBINATION LENGTH[#64])
LIP(LOWER(OVER(UPPER)) UPPER(OVER(LOWER))) LIPS(PRESSED(#304)) LOCATION(DEPTH HEAD(NECK) HEIGHT
LIMBS(DIGITS) TORSO WIDTH)[FLOORPLANE(#84) WALLPLANE(#84)] MOUTH(CLOSED(CONTACT FORWARD NEUTRAL)
CORNERS FROWN.(#818) KISS.(FORWARD WRINKLED) OPEN(CIRCLE FORWARD OVAL.(#819) RECTANGLE.(#819)
WRINKLED) SMILE.(#818) TENSE.(FORWARD SUCKED) WRINKLES(#75)) MOVEMENT[DIAGONAL(AWAY(#359)
BETWEEN(AWAY(#359) TOWARDS(#359)) TOWARDS(#359))
FLOORPLANE(ARM(CIRCLE(HITTING(WALL(LARGE(#75) #1208)))) BEND BOX(#358) CHECK CORNER(#358) CROSS
CURVE(COMBINED HITTING(#820) #359) DOUBLE(#821) FINGER(CIRCLES(#822) CONTACT)
HUMP(HITTING(CEILING(LARGE(#823) SMALL(#823)) FLOOR(LARGE(#171) SMALL(#171) TRIPLE(LARGE(TRIPLE)
SMALL(TRIPLE)))) SMALL) JAW LOOP(HITTING(CEILING(#824) FLOOR(#824)) SMALL) PEAKS(#358)
SHAKING(PARALLEL) SINGLE(#825) TRIPLE(ALTERNATING(MOVEMENT WRIST(FLEX)) #1209)
WAVE(HITTING(#820) #211 SNAKE) WRIST(CIRCLE(#822)) ZIGZAG(#358)) HINGE(DOWN(SEQUENTIAL)
SIDE(TO(SIDE(SCISSORS))) UP(DOWN(ALTERNATING(#211) #211) SEQUENTIAL)) WALLPLANE(ARM(CIRCLE(#1208))
BEND(#358) BOX(#358) CHECK(#358) CORNER(LARGE MEDIUM ROTATION SMALL) CROSS
CURVE(HALF[CIRCLE(#359)] HITTING(#233) QUARTER(#359) THEN(STRAIGHT) THREE[QUARTER(CIRCLE(#357))])
CURVED(CROSS(#357)) DOUBLE(#821) FINGER(CIRCLES(#75) CONTACT) HUMP(HITTING(#233) #358) JAW
LOOP(HITTING(#233) LARGE MEDIUM SMALL.(#171)) PEAKS(#358) SHAKING SINGLE(#825)
TRIPLE(ALTERNATING.(WRIST(FLEX)) #1209) WAVE(CURVE(DOUBLE(#358) TRIPLE(#358)) DIAGONAL(PATH(#358))
HITTING(#233)) WRIST(CIRCLE(FRONT(#75))) ZIGZAG(#358))] NECK NOSE(#1201 WIGGLES WRINKLES)
PARENTHESIS ROTATION(MODIFIER[1<#23> 2 3 4 #70])[FLOORPLANE(ALTERNATING.(#498) DOUBLE.(#498)
SINGLE.(#498)) WALLPLANE(ALTERNAT<E ING(#499)> DOUBLE.(#499) SINGLE.(#499))] RUB(#404) SEMICOLON
SHOULDER(HIP(POSITIONS SPINE) TILTING(FROM(WAIST))) SQUEEZE(FLICK(ALTERNATING) #1200) STRIKE(#404)
SURFACE(BETWEEN SYMBOLS) TEETH.(BITE(LIPS) MOVEMENT ON(LIPS.(#321) TONGUE.(#321)))
TENSE(CHEEKS(HIGH LOW MIDDLE)) TONGUE(CENTRE(INSIDE(#83) STICKING(OUT)) INSIDE(MOUTH(RELAXED))
LICKING(LIPS) MOVES(AGAINST(CHEEK)) STICKING(OUT(FAR)) TIP(BETWEEN(LIPS) TOUCHING(INSIDE(#83))))
TORSO[FLOORPLANE(TWISTING) WALLPLANE(CURVED(BEND) STRAIGHT(STRETCH))] TOUCH(#404)
TRAVEL[FLOORPLANE(#1210) WALLPLANE(ARM(SPIRAL(#75 TRIPLE)) #1210)]
UPPER(BODY(TILTING(FROM(HIP(JOINTS))))) WALLPLANE(#813)) LHOUETTE(OF(JAPAN))
MILAR(ABOVE(GREATER[#827] LESS[#827]) MINUS(SIMILAR) OR(#158)) NE(WAVE) NGLE(CHARACTER(#442)
GRAPHIC(CHARACTER(#442)) HIGH[#708] LEFT[#828] LOW[9(#81)] RIGHT[#828] SHIFT(#72))[SHIFT[2 3]]
NHALA(ARCHAIC(DIGIT(#558) NUMBER(#588 NINETY ONE(#17) SEVENTY #351 TWENTY)) LETTER(A<AYANNA #1213
IYANNA LPAPRAANA(#1212) MBA(BAYANNA) UYANNA YANNA> DANTAJA(#829) #1213 FAYANNA HAYANNA IIYANNA
ILUUYANNA ILUYANNA IRUUYANNA IRUYANNA IYANNA KANTAJA(NAASIKYAYA) MAHAAPRAANA(#1212) MAYANNA
MUURDHAJA(#829) OOYANNA OYANNA RAYANNA SANYAKA(#1211) TAALUJA(NAASIKYAYA SANYOOGA(NAAKSIKYAYA)
SAYANNA) UUYANNA UYANNA VAYANNA YAYANNA) LITH(#559) PUNCTUATION(KUNDDALIYA) SIGN(AL[LAKUNA]
ANUSVARAYA CANDRABINDU VISARGAYA) VOWEL(SIGN(AELA[#86] DIGA(AEDA[#86] #1214 IS[#86] KOMBUVA
PAA[#86]) #1214 KETTI(AEDA[#86] IS[#86] PAA[#86]) KOMBU(DEKA) KOMBUVA.(HAA(AELA[#86]
DIGA(AELA[#86]) GAYANUKITTA))))) X(PETALLED(BLACK(AND(WHITE(FLORETTE)))) POINTED(#583
STAR(WITH(MIDDLE(DOT)))))[PER[EM(#84)]] XTEEN(POINTED(#78))> KATEBOARD KI(AND(SKI(BOOT))) KIER
KULL.(#657) KUNK L<ANTED(EQUAL(TO(OR(GREATER[THAN.(#493)] LESS[THAN.(#493)])))
NORTH(ARROW(WITH(HOOKED(HEAD) HORIZONTAL(TAIL))))) AVONIC(#78) ED EEPING(ACCOMMODATION FACE
SYMBOL) EEPY(FACE) EUTH(OR(SPY)) ICE(OF(PIZZA)) IGHTLY(FROWNING(FACE) SMILING(FACE)) OPE
OPING(LARGE(#173)) OT(MACHINE) OTH> M<ALL(AIRPLANE AMPERSAND ASTERISK BLUE(#125) CO<LON MMA
MMERCIAL(AT) NTAINS(AS(MEMBER) WITH(#830))> DOLLAR(SIGN) ELEMENT(OF.(WITH(#830)))
EM(DASH) #906 #907 IDEOGRAPHIC(COMMA) LEFT(#831) LESS[#460] NUMBER(SIGN) ORANGE(#125) #908
QUESTION(MARK) REVERSE(#166) RIGHT(#831) ROMAN(NUMERAL(EIGHT ELEVEN FIFTY FIVE.(#16) #566 #976 SIX
TEN #604)) SEMICOLON TILDE TWO(DOTS(#307)) VEE(#449)) ALLER(THAN.(#80)) ASH(#97) ILE
ILING(CAT(FACE(WITH(HEART[SHAPED(EYES)] OPEN(#83)))) FACE(WITH(HALO HEART[SHAPED(EYES)] HORNS
OPEN(MOUTH.(AND(COLD(SWEAT) SMILING(EYES) TIGHTLY[#459]))) SMILING(EYES.(AND(HAND(#809)
THREE(HEARTS)))) SUNGLASSES TEAR))) IRKING(FACE) OKING(#0)> NAIL NAKE NEEZING(FACE) NOW<BOARDER
FLAKE MAN.(WITHOUT(SNOW))>(CAPPED(MOUNTAIN)) O.<CCER(BALL) CKS FT(HYPHEN ICE(CREAM)
SHELL(FLOPPY(DISK))) FTBALL FTWARE[FUNCTION(#0)] GDIAN(COMBINING(CURVE(#4) DOT(#4) HOOK(#4)
LONG(#440) RESH(#1) STROKE(#1) TWO(#94)) INDEPENDENT(SHIN) LETTER(#345 FETH #519 LESH #238
RESH[AYIN] #605) NUMBER(#622) PUNCTUATION(CIRCLE(#28) HALF(CIRCLE(#28)) TWO(CIRCLES(#476)
VERTICAL(BARS.(#476))))) H LID(#737) LIDUS.(#810) M(SIGN) ON(WITH(RIGHTWARDS(#137)))
RA(SOMPENG(DIGIT(#557) LETTER(AH BAH CAH DAH EEH EH GAH HAH IH JAH KAH LAH MAE MAH NAH NGAH NYAH
OH PAH RAH SAH TAH UH VAH YAH))) S UND(RECORDING(COPYRIGHT)) UTH(EAST(ARROW.(AND(SOUTH(#320))
CROSSING(#490) TO(CORNER) WITH(HOOK)) #885) WEST(ARROW.(AND(NORTH(#320)) WITH(HOOK)) #885))
YOMBO(CLUSTER[INITIAL(LETTER(LA RA #54))] FINAL(CONSONANT(SIGN([A] B D G K #1027)))
GEMINATION(MARK) HEAD(MARK(WITH(MOON(AND(SUN.(AND(FLAME TRIPLE(FLAME)))))))) LETTER(#898 #49 JA
JHA #47 #1215) MARK(DOUBLE(SHAD) PLUTA SHAD TSHEG) SIGN(ANUSVARA JIHVAMULIYA #977) SUBJOINER
TERMINAL(#489) VOWEL(LENGTH(MARK) SIGN(AI AU E I O OE U UE VOCALIC(L R))))> P.<A ACE AGHETTI
ARKL<E ES ING(HEART)> EAK[#467] EAKER.(WITH(CANCELLATION(#6) #1196)) EAKING(HEAD(#438))
EECH(BALLOON) EEDBOAT ESMILO(SIGN) HERICAL(ANGLE.(OPENING(LEFT UP))) IDER.(WEB) IRAL(CALENDAR(PAD)
NOTE(PAD) SHELL) LASHING(SWEAT(#0)) ONGE OOL(OF(THREAD)) OON ORTS(MEDAL) OUTING(WHALE)>
QU<ARE(A<ARU M NPEA PAATO RUHUA U>(OVER(M)) B<AARERU AR EETA IRU ORUTO Q USSYERU> C<AL AP C D
M.(#406) O ORPORATION UP>(OVER(KG)) D<A AASU B ESI J L M.(#406) ORU> EEKAA ERA(NAME(HEISEI MEIZI
REIWA SYOUWA TAISYOU)) ERG ESUKUUDO EV FM FOOT FOUR(#230) G<AL ANMA ARON B HZ IGA INII IRUDAA PA
URAMU URAMUTON Y> H<A AITU EKUTAARU ERUTU G IRAGANA(HOKA) ON OON OORU P PA UARADDO UIITO URAN Z>
IMAGE(#832) IN ININGU INTI IU K<A AIRI ARATTO ARORII B CAL EESU G HZ IRO.<GURAMU MEETORU WATTO> K
L M.(CAPITAL #406) OOPO ORUNA PA T UROONE URUZEIRO V W YURII>(OHM) LEFT(#833) LM LN LOG LOZENGE LX
M<A AHHA AIKURO AIRU ANSYON ARUKU B.(SMALL) EETORU EGA EGATON G HZ IKURON IL IRI IRIBAARU L
M.(#406) OL PA S U(A F G L M S V W) V.(MEGA) W.(MEGA)>(CUBED OHM OVER(S.(SQUARED)) SQUARED) N<A
ANO F M OTTO S V W> ONSU OOMU ORIGINAL(#832) OV P<A.(AMPS) AASENTO AATU C EEZI ENIHI ENSU ESO F H
IASUTORU IKO IKURU M OINTO ONDO OSITION(#177) PM R S V W> R<AD.(OVER(S.(SQUARED))) EMU ENTOGEN
IGHT(#833) IRA ITTORU OOT UPII UUBURU> S<AIKURU ANTIIMU ENTI ENTO IRINGU R V> TARGET THZ TON UON
V(OVER(M)) WATTO WB WITH(BOTTOM(#44) CONTOURED(OUTLINE) DIAGONAL(#834) HORIZONTAL(FILL) LEFT(#44)
LOWER(LEFT(#835) RIGHT(#835)) ORTHOGONAL(#834) RIGHT(#44) TOP(#44) UPPER(LEFT(DIAGONAL(#44)
TO(#836)) RIGHT(DIAGONAL(#44) TO(#837))) VERTICAL(FILL)) YAADO YAARU YUAN) ARED(ASTERISK
CJK(UNIFIED(IDEOGRAPH[4E<00 09 2D 8C A4> 5<18D 21D 24D 272 3CC 3F3 408 439 5B6 8F0 91A 929 B57 DE6
F8C> 6<24B 253 295 307 355 599 5B0 620 708 709 E80 F14> 7121 751F 7533 7981 7A7A 7D42 89E3 8CA9
8D70 904A 914D])) CL COOL DOT(#9) EIGHT(K) FALLING(#838) FIVE(POINT(ONE)) FOUR(DOT(#67) K) FREE HC
HDR HI[RES] HV ID KATAKANA(DE KOKO SA) KEY LATIN(CAPITAL(#575) SMALL(LETTER(D))) LOGICAL(#173)
LOSSLESS MINUS MV NEW NG OK ONE(HUNDRED(TWENTY(P))) PLUS PPV RISING(#838) S<ALTIRE D ECOND(SCREEN)
EVEN(POINT(ONE)) HV IXTY(P) MALL(#19) OS QUARE S> THREE(D) TIMES TWENTY[TWO(POINT(TWO))] TWO(K)
UHD UP(WITH(#484)) VOD VS WC) AT(BLACK(#32)) ID> S2 S3 SA T.<A<DIUM FF(OF(AESCULAPIUS HERMES))
MPED(#219) NDING(PERSON) R(AND(CRESCENT) EQUALS OF(DAVID) OPERATOR WITH(#616)) RT(OF(GUARDED(AREA)
HEADING #1043 STRING TEXT)) TION TUE(OF(LIBERTY))> EAM(LOCOMOTIVE) EAMING(BOWL) ENOGRAPHIC(#53)
ETHOSCOPE ICK(FIGURE.(LEANING(#10) WITH(ARMS(RAISED) DRESS))) OCK(CHART) OPWATCH RAIGHT(RULER)
RAIGHTNESS RAWBERRY RESS(OUTLINED(WHITE(STAR))) RICTLY(#807) RING(TERMINATOR) S UDIO(MICROPHONE)
UFFED(FLATBREAD) UPA X> U<B BSCRIPT(#1216 #1217) BSET(ABOVE(RIGHTWARDS(#3) #606) OF.(#1194)
WITH(#839)) BSTITUTE CCEEDS.(#1193) MMATION(BOTTOM TOP WITH(#161)) N.(BEHIND(CLOUD) WITH(FACE))
NDANESE(AVAGRAHA CONSONANT(SIGN(PA<MINGKAL NYAKRA NYIKU SANGAN(MA WA)>)) DIGIT(#557) LETTER(A
AE #186 CA DA E EU FA FINAL(K M) GA HA #603 LEU #152 O PA QA RA REU SA SYA TA U VA #383 ZA)
PUNCTUATION(BINDU(BA(#323) CAKRA DA(#323) KA(#323) LEU(#323) PANGLONG PURNAMA SURYA))
SIGN(PA<MAAEH NGLAYAR NGWISAD NYECEK> VIRAMA) VOWEL(SIGN(PA<MEPET NAELAENG NEULEUNG NGHULU NOLONG
NYUKU>))) NFLOWER NRISE.(OVER(MOUNTAINS)) NSET(OVER(BUILDINGS)) PER<HERO SCRIPT(#1216
LATIN(SMALL(LETTER(I N))) #1217) SET(ABOVE(LEFTWARDS(#3) #606)
BESIDE(AND(JOINED(BY(DASH(WITH(SUBSET))))) SUBSET) OF.(#1194) PRECEDING(#166) WITH(#839)) VILLAIN>
RFACE(#161) RFER SHI SPENSION(RAILWAY)> WAN WASH(AMPERSAND(#39)) WIMMER WUNG(DASH)
Y<LOTI(NAGRI(LETTER(A BHO BO CHO CO DDHO DDO DHO DO E GHO GO HO I JHO JO KHO KO LO MO NO O PHO PO
RO RRO SO THO TO TTHO TTO U) POETRY(MARK[#21]) SIGN(ALTERNATE(HASANTA) ANUSVARA DVISVARA HASANTA)
VOWEL(SIGN(A E I OO U)))) MBOL(FOR(ACKNOWLEDGE BACKSPACE BELL CANCEL CARRIAGE(RETURN)
DATA(LINK(ESCAPE)) DELETE.(#296) DEVICE(CONTROL(#267)) END(OF(MEDIUM #1044)) ENQUIRY ESCAPE
FILE(#29) FORM(FEED) GROUP(#29) HORIZONTAL(TABULATION) LINE(FEED) MARKS(CHAPTER)
NEGATIVE(ACKNOWLEDGE) NEWLINE NULL RECORD(#29) SAMARITAN(SOURCE) SHIFT(#215) SPACE
START(OF(HEADING TEXT)) SUBSTITUTE.(#296) SYNCHRONOUS(IDLE) TYPE(A(ELECTRONICS)) UNIT(#29)
VERTICAL(TABULATION))) MMETRY N NAGOGUE NCHRONOUS(IDLE) RIAC(ABBREVIATION(MARK) BARREKH
COLON(SKEWED(#10)) CONTRACTION DOTTED(ZLAMA(ANGULAR HORIZONTAL)) END(OF(PARAGRAPH)) ESASA(#4)
FEMININE(DOT) HARKLEAN(ASTERISCUS METOBELUS OBELUS) HBASA(#4)[ESASA(DOTTED)] HORIZONTAL(COLON)
LETTER(ALAPH BETH DALATH DOTLESS(DALATH(RISH)) E FINAL(SEMKATH) GAMAL.(GARSHUNI) HE HETH KAPH
LAMADH MALAYALAM(BHA JA #201 NGA #542 RA SSA TTA) MIM NUN PE PERSIAN(BHETH DHALATH GHAMAL) QAPH
REVERSED(PE) RISH SADHE SEMKATH SHIN SOGDIAN(FE KHAPH ZHAIN) SUPERSCRIPT(ALAPH) TAW
TETH.(GARSHUNI) WAW YUDH.(HE) ZAIN) MUSIC OBLIQUE(LINE(#4)) PTHAHA(#4 DOTTED) QUSHSHAYA RBASA(#4)
RUKKAKHA RWAHA SUBLINEAR(COLON.(SKEWED(#10)) FULL(STOP)) SUPRALINEAR(COLON.(SKEWED(LEFT))
FULL(STOP)) THREE(#94) TWO(VERTICAL(#94)) ZQAPHA(#4 DOTTED)) RINGE>>(IN(#24))"

end ClientGen.Text.CharName
