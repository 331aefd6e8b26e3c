/-!
# Names of characters from E to K

A part of the outline of the names of characters, in lines.
-/

namespace ClientGen.Text.CharName

/-- The outline of the names that start with a letter from E to K. -/
def eToK : String :=
"E<AGLE AR.(OF(MAIZE RICE) WITH(HEARING(AID))) ARTH.(GLOBE(AMERICAS ASIA[AUSTRALIA]
EUROPE[AFRICA]) GROUND) AST(SYRIAC(#15)) DITORIAL(CORONIS) GG
GYPTIAN(HIEROGLYPH(A0<0<#21 #130 #362> 1<#202 5 6 #131> 2<#41> 3<#717> 4<0 0A 1 2 2A 3 3A 4 #198>
5<#41> 6<#41> 70> AA0<0<#22 #581> #373 30 31 32> B00<#384> BEGIN(SEGMENT) C0<0<1 2 2A 2B 2C #157>
1<0 0A #56> #1038> D0<0<#22 #132> 1<#41> 2<#271> 3<0 #91 4A #70> 4<#23 6A #132> 5<0.<#197 H I> 1
2 #153 4A #70> 6<#23 7.<#197 H>>> E00<#22 #132 9A> E01<#23 #393> E02<#385 #132> E03<#202 6 7 8>
END(SEGMENT) F0<0<#91 #70> 1<#42 #258> 2<#410> 3<0 #91 5 6 #363> 4<#73 #130 #393> 5<0 1 1A 1B 1C 2
3>> G0<0<#22 6A #581> 1<#410> 2<#385 #156> 3<#23 #393> 4<#42 3 3A 4 #198> #582> H00<#22 6A 7 8>
HORIZONTAL(JOINER) I00<#384 9A> I01<0 0A #91 5> INSERT(AT(BOTTOM(END START) TOP(END START)))
K00<#213> L00<1 2 #153 5 6 6A 7 8> M0<0<1 1A 1B 2 #258> 1<0 0A 1 2.<#197 H> 3 4 #130 #393>
2<#42 #153 4A 5 6 #132> 3<0 1 1A 2 3 3A 3B #90> 40 40A 41 42 43 44> N0<0<#56> 1<#23 7 8 8A 8B 9>
2<#270> 3<#42 3 3A 4 4A #130 #131> 40 41 42> NL00<#384> NL01<#271> NL020 NU0<0<#56> 1<0 0A #91 5
6 #132> 20 21 22 22A> O0<0<#91 #130 6A 6B 6C 6D 6E 6F #40> 1<0 0A 0B 0C #56 9A> 2<0 0A #21 4A #198
9A> 3<0 0A 1 2 #259 6A 6B 6C 6D #40> 4<#41> 50 50A 50B 51> OVERLAY(MIDDLE) P00<1 1A 2 #258> P010
P011 Q00<#64> R00<1 2 2A 3 3A 3B #90> R01<#385 #156> R02<#41> S0<0<1 2 #153 5 6 #156> 1<#202 4B 5
6 #131> 2<#23 #362> 3<#270> 4<#23>> T0<0<1 2 #259 #363 9A> 1<0 #91 5 6 #156> 2<#41> 3<#42
2A #259>> U0<0<#22 #362> 1<#41> 2<#42 #258 9A> 3<#717> 40 41 42> V<00<1.<#197 H I> 2 #153 5
6 #581> 01<0 1 1A 1B 1C 2 2A 2B #157> 02<0.<#197 #257 L> 1 2 #259 #132 9A> 03<0 0A 1 1A
2 #259 #131> 040 040A ERTICAL(JOINER)> W00<1 2 #258 9A> W01<0 0A #21 4A 5 6 #363> W02<#202 5>
X00<#21 4A 4B 5 6 6A 7 8 8A> Y00<#91 5 6 7 8> Z00<1 2 2A 2B 2C 2D 3 3A 3B 4 4A #198> Z01<#73
5.<#197 H I> 6.<#197 H>>)) IGHT(PETALLED(OUTLINED(BLACK(FLORETTE))) #1039) IGHTH(NOTE) JECT(#0)
L<BASAN(LETTER(A BE #1040 FE GE GHAMMA GHE GJE HE I JE KE KHE LE LLE ME NA NDE NE NJE O PE QE RE
RRE SE SHE #1041 ZE ZHE)) ECTRIC(ARROW LIGHT(BULB) PLUG TORCH) ECTRICAL(#298)
EMENT(OF.(OPENING(#455) WITH(DOT(#2) #1010 TWO(HORIZONTAL(STROKES)) UNDERBAR VERTICAL(#441))))
EPHANT EVATOR F YMAIC(LETTER(#587) LIGATURE(ZAYIN[YODH]))> M(#718) MOJI(COMPONENT(BALD CURLY(HAIR)
RED(HAIR) WHITE(HAIR)) MODIFIER(FITZPATRICK(TYPE[1[2] 3 4 5 6]))) MPHASIS(#0) MPTY(DOCUMENT NEST
NOTE.(PAD PAGE) PAGE PAGES SET.(WITH(LEFT(#137) OVERBAR RIGHT(#137) SMALL(#456)))) N(#718)
ND(OF(GUARDED(AREA) LINE MEDIUM PROOF #1043 #1044) WITH(#647)) NQ NQUIRY NTER(#0)
NVELOPE.(WITH(DOWNWARDS(#137) LIGHTNING)) OL OM OT PA QU<AL(AND(PARALLEL(TO)) TO(BY(DEFINITION)
OR(#158 PRECEDES SUCCEEDS))) ALS(COLON SIGN.(ABOVE(LEFTWARDS(#3) PLUS(SIGN) RIGHTWARDS(#3)
TILDE(#9)) AND(SLANTED(PARALLEL.(WITH(TILDE(#2))))) WITH(BUMPY(#2) DOT(#1) INFINITY(#1)
TWO(DOTS(ABOVE(AND(TWO(#76))))))) WITH(#78)) IANGULAR(TO) IVALENT(TO WITH(FOUR(#18)))>
RASE(TO(THE(#10))) RIS(FORM(#38)) RROR[BARRED(BLACK(#299) WHITE(#299))] SA SC SCAPE STIMATE<D(#0)
S> TB THIOPIC(COLON COMBINING(GEMINATION(AND(VOWEL(#95)) MARK) VOWEL(#95)) COMMA DIGIT(#558)
FULL(STOP) NUMBER(#588 HUNDRED #1045 SIXTY TEN.(#11) THIRTY TWENTY) PARAGRAPH(#29)
PREFACE(COLON) #987 SEMICOLON SYLLABLE(B<A AA B<#333> #589 #112> C<A AA C<#92 H<#92
H<#333> #37> #37> E EE H<#332> #260> D<A AA D<#92 HAA HE HEE HI HO HU #260> #589 ZAA ZE ZEE ZI ZO
ZU> F<#334 #112 YA> G<#92 G<#457> I LOTTAL(#332) O OA U URAGE(BWEE BWI FWEE FWI GWE GWEE GWI HHWA
KWE KWEE KWI MWEE MWI PWEE PWI QWE QWEE QWI) WA #590> H<#92 H<#334 #112 Y<#333>> I O OA U> J<#332>
K<#332 WAA #112 X<#457> Y<#333>> L<#332> M<#332 #112 YA> N<#332 Y<#332>> P<#92 H<A AA
ARYNGEAL(#333) #589> #260 #112> Q<#92 H<#457> #260 #590> R<#332 YA> S<A AA E EBATBEIT(BWA FWA MWA
PWA) EE #1046 S<#333> U WA Z<#334>> T<#92 #1046 S<#334> TH<AA #109 U> U WA Z<#458>> V<#334>
W<#458> X<#332 #590> Y<#458> Z<#92 H<#334> #260 Z<#333>>) TONAL(MARK(CHIRET DERET.[HIDET] DIFAT
HIDET KENAT KURT RIKRIK SHORT(RIKRIK) YIZET)) WORDSPACE) TX ULER(CONSTANT)
URO(SIGN)[CURRENCY(SIGN)] UROPEAN(CASTLE POST(OFFICE)) VERGREEN(TREE) XCESS XCLAMATION(MARK
QUESTION(MARK)) XPRESSIONLESS(FACE) XTENDED(ARABIC[INDIC(#559)]) XTRATERRESTRIAL(ALIEN)
XTREMELY(HEAVY(#968)) YE YEGLASSES YES>[MAIL(#0)] F<A<CE(HOLDING(BACK(TEARS)) MASSAGE PALM
SAVOURING(DELICIOUS(FOOD)) SCREAMING(IN(FEAR)) THROWING(A(KISS)) WITH(COLD(SWEAT) COWBOY(HAT)
DIAGONAL(#83) FINGER(COVERING(CLOSED(LIPS))) HEAD[BANDAGE] LOOK(OF(TRIUMPH)) MEDICAL(MASK) MONOCLE
NO(GOOD(GESTURE)) OK(GESTURE) ONE(EYEBROW(RAISED)) OPEN(EYES(AND(HAND(OVER(#83))))
MOUTH.(AND(COLD(SWEAT)) VOMITING)) PARTY(HORN(AND(PARTY(HAT)))) PEEKING(EYE) PLEADING(EYES)
ROLLING(EYES) STUCK[OUT(TONGUE.(AND(TIGHTLY[#459] WINKING(EYE))))] TEARS(OF(JOY)) THERMOMETER
UNEVEN(EYES(AND(WAVY(#83))))) WITHOUT(#83)) CSIMILE(SIGN) CTORY IRY LAFEL LLEN(LEAF)
LLING(DIAGONAL(CROSSING(NORTH(#119) RISING(#165)) IN(WHITE(CIRCLE(IN(#223)))))) MILY RSI(#0)
THER(CHRISTMAS) X(ICON MACHINE)> E<ARFUL(FACE) ATHER MALE(SIGN) MININE(#719) NCER RRIS(WHEEL) RRY>
F I<ELD(HOCKEY(STICK(#226))) GURE(DASH SPACE) LE(CABINET FOLDER SEPARATOR) LM(FRAMES PROJECTOR)
NITE(PART(#161)) RE.(ENGINE EXTINGUISHER) RECRACKER REWORK(SPARKLER) REWORKS RST(PLACE(MEDAL)
QUARTER(MOON.(#300)) STRONG(ISOLATE)) SH.(CAKE(WITH(SWIRL(DESIGN)))) SHEYE SHING(POLE(AND(FISH)))
STED(#301) VE(DOT(#720))> L<AG(IN(HOLE)) AMINGO AT(SHOE) ATBREAD ATNESS EUR[DE[LIS]] EXED(BICEPS)
OPPY(DISK) ORAL(HEART) OWER.(PLAYING(CARDS) PUNCTUATION(MARK)) USHED(FACE) Y YING(DISC ENVELOPE
SAUCER)> O<G GGY LDER NDUE OT OTPRINTS R<CES K(AND(KNIFE.(WITH(PLATE)))) KED(PARAGRAPHOS) KING
M(FEED) TUNE(COOKIE)>(ALL) UNTAIN UR(BALLOON[#79] CLUB[#79]
CORNER(ARROWS(CIRCLING(ANTICLOCKWISE))) DOT(#720) LEAF(CLOVER) POINTED(#176)
TEARDROP[#79])[PER[EM(#84)]] URTH(ROOT) X(FACE)> R<ACTION(NUMERATOR(ONE) SLASH) AME(WITH(AN(X)
PICTURE TILES)) EEZING(FACE) ENCH(FRANC(SIGN) FRIES) IED(SHRIMP) OG(FACE) ONT[FACING(BABY(CHICK))
TILTED(#427)] OWN OWNING(FACE(WITH(OPEN(#83))))> S SI UEL(PUMP) ULL(BLOCK MOON(#300) OUTER(JOIN)
STOP) ULLWIDTH(#1047 BROKEN(BAR) CENT(SIGN) #1048 LEFT(#878) #1049 MACRON NOT(SIGN) #1050
POUND(SIGN) #1051 RIGHT(#878) #1052 #1053 WON(SIGN) YEN(SIGN)) UNCTION(APPLICATION) UNERAL(URN)
USE VS<#21>> G<AME(DIE) ARLIC E<AR.(WITH(HANDLES) WITHOUT(HUB)) M(STONE) MINI NIE
OMETRIC<ALLY(#252)>(PROPORTION) ORGIAN(CAPITAL(#1059) LETTER(#1060)
MTAVRULI(CAPITAL(LETTER(#1060))) PARAGRAPH(#29) SMALL(#1059)) RMAN(PENNY(SIGN)) TA(MARK)> HOST
IMEL(#0) IRAFFE(FACE) IRL IRLS(#0) LAGOLITIC(CAPITAL(#1005) SMALL(#1005)) LASS(OF(MILK))
LEICH(STARK) LOBE(WITH(MERIDIANS)) LOVES LOWING(STAR) OAL(NET) OAT OGGLES OLFER ORILLA
OTHIC(LETTER(AHSA AIHVUS BAIRKAN DAGS EIS FAIHU GIBA HAGL HWAIR IGGWS IUJA JER KUSMA LAGUS MANNA
NAUTHS #1011 OTHAL PAIRTHRA QAIRTHRA RAIDA SAUIL TEIWS THIUTH URUS WINJA)) R<ADUATION(CAP)
ANTHA(AU(#95) LETTER(#506 EE #190 LLA #187 OO #524 VEDIC(ANUSVARA DOUBLE(#138)) #279) OM SIGN(#510
COMBINING(#721) NUKTA PLUTA #27) VOWEL(SIGN(#1061 #278))) APES AVE(#14)
EATER[THAN(ABOVE(DOUBLE[LINE(EQUAL(ABOVE(#229)))] LESS[#722] RIGHTWARDS(#3) SIMILAR(ABOVE(#229)
OR(EQUAL)) SLANTED(EQUAL(ABOVE(LESS[THAN(#461)])))) AND(#723) BESIDE(#229) #1064
EQUAL(TO(OR(#229))) OR(APPROXIMATE #1063 SLANTED(EQUAL(TO.(WITH(DOT(ABOVE.(LEFT) INSIDE))))))
OVER(#12) OVERLAPPING(#229) #1065)] EEK(ACROPHONIC(ATTIC(FIFTY.(#210 THOUSAND.(STATERS))
FIVE.(HUNDRED.(#210) #210 THOUSAND.(TALENTS)) ONE(DRACHMA HALF HUNDRED(#210) QUARTER
THOUSAND(#210)) TEN(MNAS #210 THOUSAND(STATERS))) CARYSTIAN(FIVE(#16)) CYRENAIC(TWO(DRACHMAS))
DELPHIC(FIVE(MNAS)) EPIDAUREAN(FIVE(#16) TWO.(DRACHMAS)) HERAEUM(ONE(PLETHRON)) HERMIONIAN(FIFTY
ONE TEN) MESSENIAN(TEN) NAXIAN(FIVE(#16)) STRATIAN(FIFTY(MNAS)) THESPIAN(FIFTY FIVE(#17)
ONE.(#17) #339 THREE(#16) TWO) TROEZENIAN(FIFTY.(#143) FIVE.(#16) TEN.(#143))) ANO(TELEIA)
AROURA(SIGN) ARTABE(SIGN) BETA(#0) CAPITAL(DOTTED(#463) KAI(#0)
LETTER(ALPHA.(WITH(DASIA.(#465) #543 #1066 #544)) ARCHAIC(SAMPI) #1071 EPSILON.(#725) ETA.(#1067)
GAMMA HETA IOTA.(WITH(#1068 #1069)) KAPPA LAMDA MU NU OMEGA.(#1067) #1072
RHO.(WITH(DASIA)) #1073 #355 UPSILON.(WITH(#1068 #544)) XI YOT ZETA) LUNATE(#462) REVERSED(#726)
THETA(#0)) DASIA.(#395) DIALYTIKA(AND(#394 VARIA) TONOS) DRACHMA(SIGN) FIVE(OBOLS(SIGN))
FOUR(OBOLS(SIGN)) GRAMMA(SIGN) INDICTION(SIGN) INSTRUMENTAL(NOTATION(SYMBOL[1.<#21 #40> 2 23 24 25
26 27 29 30 32 36 37 38 39 4.<0 2 3 5 #40> 5 #582 7 8])) KAI(#0) KAPPA(#0) KORONIS
KYATHOS(BASE(SIGN)) LETTER(ARCHAIC(KOPPA) DIGAMMA KOPPA SAMPI SMALL(CAPITAL(GAMMA LAMDA OMEGA PI
PSI RHO)) STIGMA YOT) LITRA(SIGN) LOWER(NUMERAL(SIGN)) LUNATE(EPSILON(#0) SIGMA(#0))
METRETES(SIGN) MUSICAL(LEIMMA) NUMERAL(SIGN) OBOL(SIGN) ONE(HALF(SIGN.(#143)) QUARTER(SIGN))
OUNKIA(SIGN) #394 #879 PROSGEGRAMMENI PSILI.(#395) QUESTION(MARK) REVERSED(LUNATE(EPSILON(#0)))
RHO(SYMBOL WITH(STROKE(#0))) SINUSOID(SIGN) SMALL(DOTTED(#463) LETTER(ALPHA.(WITH(DASIA.(#1075)
MACRON #1076 VARIA.(#302) VRACHY YPOGEGRAMMENI)) ARCHAIC(KOPPA SAMPI) #1071 DIGAMMA EPSILON.(#725)
ETA.(#1077) FINAL(SIGMA) GAMMA HETA IOTA.(#1070) KAPPA KOPPA LAMDA MU NU OMEGA.(#1077) #1072
RHO.(WITH(DASIA PSILI)) SAMPI #1073 STIGMA #355 UPSILON.(#1070) XI ZETA) REVERSED(#726))
SUBSCRIPT(SMALL(LETTER(BETA CHI GAMMA PHI RHO))) SYMBOL(TAU(RHO)) TALENT(SIGN) THETA(#0)
THREE(OBOLS(SIGN) QUARTERS(SIGN)) TONOS TRYBLION(BASE(SIGN)) TWO(OBOLS(SIGN) THIRDS(SIGN))
UPSILON(WITH(ACUTE(#727) DIAERESIS(#727) HOOK(#0))) VARIA VOCAL(NOTATION(SYMBOL[1.<#41> 2 #1038 3
4 5 #582 #207])) XESTES(SIGN) YEAR(SIGN) YPOGEGRAMMENI ZERO(SIGN)) EEN(APPLE #615 SALAD)
IMACING(FACE) INNING(CAT(FACE(WITH(SMILING(EYES)))) FACE.(WITH(ONE(LARGE(AND(ONE(SMALL(EYE)))))
SMILING(EYES) STAR(EYES)))) OUP(MARK SEPARATOR) OWING(HEART)> S U<ARANI(SIGN) ARDSMAN IDE(DOG)
ITAR JARATI(#1079 LETTER(#621 ZHA) OM RUPEE(SIGN) SIGN(#510 CIRCLE(#466) MADDAH #1078
THREE[DOT(#466)] TWO[CIRCLE(#466)] #27) VOWEL(CANDRA(E O) SIGN(#129 CANDRA(E O) #107 #278)))
NJALA(GONDI(DIGIT(#557) LETTER(#506 EE #190 LLA #62 OO #361 #248) OM SIGN(ANUSVARA VISARGA) VIRAMA
VOWEL(#1062))) RMUKHI(ABBREVIATION(SIGN) ADDAK DIGIT(#557) EK(ONKAR) IRI LETTER(#506 EE #1080
HA #189 #47 KHHA LA LLA #187 OO #591 ZA) SIGN(ADAK(BINDI) BINDI NUKTA UDAAT #27 YAKASH) TIPPI URA
VOWEL(#1062))>> H<A<DES IR(#84) IRCUT LFWIDTH(BLACK(#52) DOWNWARDS(#3) FORMS(LIGHT(VERTICAL))
HANGUL(FILLER LETTER(A AE #1081 #1082 MIEUM NIEUN.[#193] O OE PHIEUPH PIEUP.[SIOS]
RIEUL.[HIEUH #199 PHIEUPH #246 THIEUTH] SIOS SSANG<#261 #374> #1083 Y<A AE E EO #37>))
IDEOGRAPHIC(#43) KATAKANA(LETTER(A E #875 #256 MU N #344 NU O #870 SMALL(#389 TU U #341) #572
WO #341) MIDDLE(DOT) #578)[HIRAGANA(PROLONGED(#289))] LEFT(CORNER(#7)) LEFTWARDS(#3)
RIGHT(CORNER(#7)) RIGHTWARDS(#3) UPWARDS(#3) WHITE(#19)) MBURGER MMER.(AND(PICK SICKLE WRENCH))
MSA MSTER(FACE) N<D(WITH(INDEX(AND(MIDDLE(FINGERS(CROSSED))) FINGER(AND(THUMB(CROSSED)))))) DBAG
DBALL DSHAKE GUL(CHOSEONG(CEONGCHIEUM<#911> CHIEUCH.[#592] CHITUEUM<#911> CIEUC.[IEUNG] FILLER
HIEUH.[SIOS] IEUNG.[#194 #199 #375 #114 #593] KAPYEOUN<#376 #114 SSANGPIEUP> KHIEUKH
KIYEOK.[TIKEUT] MIEUM.[KIYEOK #374] NIEUN.[#193 KIYEOK #374] PANSIOS PHIEUPH.[HIEUH PIEUP]
PIEUP.[#194 KHIEUKH #377 PHIEUPH SIOS.[#261 PIEUP #150] #1084] RIEUL.[#193 #1085 #594 #246
SSANG<KIYEOK PIEUP TIKEUT> TIKEUT] SIOS.[#194 IEUNG KHIEUKH #594 PHIEUPH PIEUP.[KIYEOK]
RIEUL #1084] SSANG<CIEUC.[HIEUH] HIEUH IEUNG #377 #114 SIOS.[PIEUP] #150 YEORINHIEUH> THIEUTH
TIKEUT.[CIEUC #199 #114 SIOS] YEORINHIEUH YESIEUNG) DOUBLE(DOT(#144)) FILLER JONGSEONG(CHIEUCH
CIEUC.[#1086] HIEUH.[MIEUM NIEUN #114] IEUNG.[KHIEUKH KIYEOK SSANGKIYEOK] KAPYEOUN<#376 #114>
KHIEUKH KIYEOK.[CHIEUCH #592 NIEUN #114 SIOS.[KIYEOK]] MIEUM.[#194 #377 PANSIOS PIEUP.[SIOS] RIEUL
SIOS SSANGNIEUN SSANGSIOS] NIEUN.[#194 KIYEOK PANSIOS RIEUL #593] PANSIOS.[KAPYEOUNPIEUP PIEUP]
PHIEUPH.[#246 THIEUTH] PIEUP.[#194 #376 RIEUL.[PHIEUPH] SIOS.[TIKEUT] TIKEUT] RIEUL.[HIEUH #1085
KIYEOK.[HIEUH SIOS] MIEUM.[HIEUH KIYEOK SIOS] NIEUN #375 PIEUP.[HIEUH PHIEUPH SIOS TIKEUT] SIOS
SSANGKIYEOK SSANGSIOS THIEUTH TIKEUT.[HIEUH] YEORINHIEUH.[HIEUH] YESIEUNG] SIOS.[#194
KAPYEOUNPIEUP #199 PANSIOS #114 #150] SSANG<CIEUC IEUNG #594 PIEUP RIEUL.[KHIEUKH] SIOS.[#728]
TIKEUT.[PIEUP] YESIEUNG> THIEUTH TIKEUT.[CHIEUCH #261 #114 SIOS.[KIYEOK] THIEUTH] YEORINHIEUH
YESIEUNG.[#592 #199 #595 SSANGKIYEOK]) JUNGSEONG(A.[EU O U] AE ARAEA.[A E EO I U] E EO.[EU O U]
EU.[A E EO EU O U] FILLER I.[A ARAEA EU I O.[I] U YA.[O] YAE YE YEO YO YU] O.[E EO O.[I] U YA YAE
YE YEO] OE SSANGARAEA U.[A AE EO[EU] I[I] U YE YEO] WA #912 Y<A.[O U YO] AE E EO.[O U YA] I.[U]
O.[A AE EO I O YA YAE YEO] U.[A AE E EO #37 YE YEO]>) LETTER(A AE ARAEA ARAEAE #1081
KAPYEOUN<#376 #1086> #1082 MIEUM.[PANSIOS #246] NIEUN.[#193 #595 TIKEUT] O OE #375 PIEUP.[#261
SIOS.[#728] #150] RIEUL.[HIEUH KIYEOK.[SIOS] MIEUM #375 PIEUP.[SIOS] #593 YEORINHIEUH] SIOS.[#261
NIEUN PIEUP TIKEUT] SSANG<#193 IEUNG #377 #374> #1083 Y<A AE E EO EORINHIEUH ESIEUNG.[#595] I O.[I
YA YAE] U.[I YE YEO]>) SINGLE(DOT(#144))) GZHOU(NUMERAL(#556 SIX #339 #151))
IFI(ROHINGYA(DIGIT(#557) LETTER(#526 DDA #378 JA #47 KINNA(#36) LA #152 #596 #54 TA TTA #379 ZA)
MARK(NA(KHONNA) SAKIN) SIGN(HARBAHAY TAHALA TANA TASSI) VOWEL(A E #37))) UNOO(LETTER(#388 #618)
SIGN(PAMUDPOD) VOWEL(#286))> PPY(PERSON(RAISING(ONE(HAND)))) RD(DISK) TCHING(CHICK)
TRAN(LETTER(ALEPH AYN BETH DALETH[RESH] #520 QOPH #534 #1087) NUMBER(FIVE #622))> E<ADPHONE
ADSTONE.(GRAVEYARD(#0)) AR[#467] ART(DECORATION HANDS WITH(ARROW RIBBON TIP(ON(THE(LEFT)))))
AVY(AMPERSAND(#39) ARROW(SHAFT(WIDTH(ONE.(HALF THIRD) TWO(THIRDS)))) ASTERISK BALLOT(X)
BLACK(CURVED(DOWNWARDS(AND(#32)) UPWARDS(AND(#32))) HEART)[FEATHERED(#659)] CHECK(MARK)
CHEVRON(SNOWFLAKE) CIRCLE.(WITH(CIRCLE(#116) STROKE(#635))) CIRCLED(SALTIRE)
CONCAVE[POINTED(BLACK(#32))] DASHED(TRIANGLE[#228]) DIVISION(SIGN) DOLLAR(SIGN) DOUBLE(#731)
DOWNWARDS(#733) EIGHT(#1039) EQUALS(SIGN) EXCLAMATION(MARK(ORNAMENT SYMBOL)) FIVE(#178)
FOUR(BALLOON[#79]) GREEK(#15) HEART(EXCLAMATION(#221)) HORIZONTAL(FILL) INTERROBANG(#39)
L<ARGE(#19) ATIN(#15) EFT[#734] EFTWARDS(#733) IGATURE(OPEN(#303)) OW(DOUBLE(#730) SINGLE(#730))
OWER(#428)> MINUS(SIGN) MULTIPLICATION(X) NORTH(#736) OPEN(CENTRE(#15)) OUTLINED(#176)
OVAL(WITH(OVAL(#116))) PLUS(SIGN) RIGHT[#734] RIGHTWARDS(ARROW.(#732)) ROUND[TIPPED(#32)] S<ALTIRE
ANS[SERIF(INTERROBANG(#39))] CRIPT(LIGATURE(#303)) INGLE(#731) IX(#178) OUTH(#736) PARKLE>
TEARDROP[SHANKED(#32) SPOKED(ASTERISK PINWHEEL(#78))] TRIANGLE[#228] TWELVE(#584) UPPER(#428)
UPWARDS(#733) VERTICAL(BAR) WEDGE[TAILED(#32)] WHITE(CIRCLE DOWN[#684] SQUARE) WIDE[#228])
BREW(ACCENT(ATNAH(HAFUKH) DARGA DEHI ETNAHTA GERESH.(MUQDAM) GERSHAYIM ILUY MAHAPAKH
MERKHA.(KEFULA) MUNAH OLE PASHTA PAZER QADMA QARNEY(PARA) REVIA SEGOL SHALSHELET TELISHA(GEDOLA
QETANA) TEVIR TIPEHA YERAH(BEN(YOMO)) YETIV ZAQEF(GADOL QATAN) ZARQA ZINOR)
LETTER(ALEF.(WITH(MAPIQ PATAH QAMATS)) ALTERNATIVE(AYIN PLUS(SIGN)) AYIN BET.(#468) DALET.(#45)
FINAL(KAF.(#45) #237 PE.(#45) TSADI) GIMEL.(#45) HE.(WITH(MAPIQ)) HET KAF.(#468) LAMED.(#45)
MEM.(#45) NUN.(#45) PE.(#468) QOF.(#45) RESH.(#45) SAMEKH.(#45)
SHIN.(WITH(DAGESH.(AND(#597)) #597)) TAV.(#45) TET.(#45) TSADI.(#45) VAV.(WITH(DAGESH HOLAM))
WIDE(ALEF DALET FINAL(MEM) HE KAF LAMED RESH TAV) YOD.(WITH(DAGESH HIRIQ)) ZAYIN.(#45))
LIGATURE(ALEF(LAMED) YIDDISH(DOUBLE(VAV YOD) VAV(YOD) YOD(YOD(PATAH)))) MARK(LOWER(DOT)
MASORA(#19) UPPER(DOT)) POINT(DAGESH(OR(MAPIQ)) HATAF(PATAH QAMATS SEGOL) HIRIQ
HOLAM.(HASER(FOR(VAV))) JUDEO[SPANISH(VARIKA)] METEG PATAH QAMATS.(QATAN) QUBUTS RAFE SEGOL
SHEVA #597 TSERE) PUNCTUATION(GERESH GERSHAYIM MAQAF NUN(HAFUKHA) PASEQ SOF(PASUQ)) YOD(#24))
DGEHOG LICOPTER LLSCHREIBER(PAUSE(#0)) LM(#0) LMET(WITH(WHITE(#15))) NTAIGANA(LETTER(A[#63 WO]
E[#22] HA[#623] HE[#64] HI[#64] HO[#213] HU[#63] I[#21] KA[#623 KE] KE[#22] KI[#213] KO[#63 KI]
KU[#64] MA[#64] ME[1 2 MA] MI[#64] MO[#22] MU[#21] N[MU[MO[1 2]]] NA[#56] NE[#22 KO] NI[#64 TE]
NO[#115] NU[#63] O[#63] RA[#21] RE[#21] RI[#64] RO[#22] RU[#22] SA[#213] SE[#115] SI[#22] SO[#64]
SU[#213] TA[#21] TE[#56] TI[#64] TO[#22 RA] TU[#21 TO] U[#115] WA[#115] WE[#21] WI[#115] WO[#64]
YA[#115 YO] YO[#22] YU[#21])) RB RMITIAN(CONJUGATE(MATRIX)) XAGRAM(FOR(ABUNDANCE AFTER(COMPLETION)
APPROACH BEFORE(COMPLETION) BITING(THROUGH) BREAKTHROUGH COMING(TO(MEET)) CONFLICT CONTEMPLATION
D<ARKENING(OF(THE(#20))) ECREASE ELIVERANCE EVELOPMENT IFFICULTY(AT(THE(BEGINNING))) ISPERSION
URATION> ENTHUSIASM FELLOWSHIP FOLLOWING GATHERING(#304) GRACE GREAT(POSSESSION POWER #1088)
HOLDING(#304) IN<CREASE FLUENCE NER(TRUTH) NOCENCE> LIMITATION MODESTY MOUTH(#230) OBSTRUCTION
OPPOSITION OPPRESSION PEACE PROGRESS PUSHING(UPWARD) RETREAT RETURN REVOLUTION SMALL(#1088)
SPLITTING(APART) STANDSTILL THE(ABYSMAL(WATER) ARMY AROUSING(THUNDER) CAULDRON CLINGING(FIRE)
CREATIVE(HEAVEN) FAMILY GENTLE(WIND) JOYOUS(LAKE) KEEPING(STILL(MOUNTAIN)) MARRYING(MAIDEN)
RECEPTIVE(EARTH) WANDERER WELL) TREADING WAITING WORK(ON(THE(DECAYED))) YOUTHFUL(FOLLY)))>
I<BISCUS GH(BRIGHTNESS(#0) OCTET(PRESET) VOLTAGE(SIGN))[HEELED(SHOE)
SPEED(TRAIN.(WITH(BULLET(NOSE))))] KING(BOOT) NDU(TEMPLE) PPOPOTAMUS RAGANA(DIGRAPH(YORI)
ITERATION(MARK) LETTER(A ARCHAIC(WU YE) #1089 #256 MU N #871 SMALL(A E I KA KE O TU U
WA #353) #532 U #1090) VOICED(#305)) STORIC(SITE)> O<CHO LE LLOW(#737) MOTHETIC NEY(POT) NEYBEE OK
P RIZONTAL(BAR BLACK(HEXAGON OCTAGON) ELLIPSIS LINE(EXTENSION) MALE(#738)
ONE(EIGHTH(BLOCK[1358 #208 7])) SCAN(LINE[1 3 7 9]) TAB(KEY) TABULATION.(#674) TRAFFIC(#20))
RSE.(FACE RACING) SPITAL T(BEVERAGE DOG PEPPER SPRINGS) TEL URGLASS.(WITH(FLOWING(SAND)))
USE.(BUILDING.<S> WITH(GARDEN))> RYVNIA(SIGN) T TJ TS UGGING(FACE) UNDRED(POINTS(#0)) USHED(FACE)
UT YGIEA YPHEN.(BULLET WITH(#162))[MINUS] YPHENATION(POINT) YPODIASTOLE YSTERESIS(#0)> I<CE(CREAM
CUBE HOCKEY(STICK(AND(PUCK))) SKATE) DENTICAL(TO.(AND(SLANTED(PARALLEL))) WITH(#273))
DENTIFICATION(CARD) DEOGRAPHIC(ANNOTATION(BOTTOM(MARK) EARTH(MARK) FIRST(MARK) FOUR(MARK)
FOURTH(MARK) HEAVEN(MARK) LINKING(MARK) MAN(MARK) MIDDLE(MARK) ONE(MARK) REVERSE(MARK)
SECOND(MARK) THIRD(MARK) THREE(MARK) TOP(MARK) TWO(MARK)) CLOSING(MARK) COMMA DEPARTING(#144)
DESCRIPTION(CHARACTER(ABOVE(TO(BELOW MIDDLE(AND(#1)))) FULL(SURROUND) LEFT(TO(MIDDLE(AND(#33))
RIGHT)) OVERLAID SURROUND(FROM(#4 LEFT LOWER(LEFT) UPPER(#10))))) ENTERING(#144) FULL(STOP)
HALF(FILL(#84)) ITERATION(MARK) LEVEL(#144) NUMBER(ZERO) RISING(#144) SPACE TALLY(MARK(#71 #266))
TELEGRAPH(LINE(FEED(SEPARATOR(#0))) SYMBOL(FOR(APRIL AUGUST DAY(#864 SIXTEEN T<EN HIRTEEN
HIRTY.[ONE] HREE WELVE WENTY.[#558] WO>) DECEMBER FEBRUARY HOUR(#864 #545 THREE TWELVE
TWENTY.[#267] TWO ZERO) JANUARY JULY JUNE MARCH MAY NOVEMBER OCTOBER SEPTEMBER))) VARIATION(#177))
MAGE(OF.(OR(APPROXIMATELY(#12)))) MP MPERIAL(ARAMAIC(LETTER(#587) NUMBER(ONE.(#17) TEN.(#11) #151)
SECTION(SIGN))) N<BOX(TRAY) COMING(#219) COMPLETE(INFINITY) CREASE(#702) CREASES(AS) CREMENT D
DEX.(POINTING(AT(THE(VIEWER)))) DIAN(RUPEE(SIGN)) DIC(SIYAQ(ALTERNATE(LAKH(MARK))
FRACTION(ONE(#598) THREE(QUARTERS)) LAKH(MARK) NUMBER(ALTERNATE(ONE TEN(#11) TWO) #924 KAROR
KARORAN LAKH LAKHAN #925 PREFIXED(#558) #926) PLACEHOLDER RUPEE(MARK)))
FINITY.(NEGATED(WITH(#168))) FORMATION(DESK(PERSON) SEPARATOR(#267) SOURCE) HIBIT(#627)
PUT(SYMBOL(FOR(LATIN(CAPITAL(LETTERS) LETTERS SMALL(LETTERS)) NUMBERS SYMBOLS)))
SCRIPTIONAL(PAHLAVI(LETTER(#1091 #534 #1092) NUMBER(#739)) PARTHIAN(LETTER(#587) NUMBER(#739)))
SERTION(#0) TE<GRAL.(AROUND(A(POINT(#9))) AVERAGE(WITH(SLASH)) EXTENSION WITH(DOUBLE(#6)
INTERSECTION LEFTWARDS(ARROW(#124)) OVERBAR TIMES(SIGN) UNDERBAR UNION)) RCALATE RIOR(#97)
RLINEAR(ANNOTATION(ANCHOR SEPARATOR TERMINATOR)) RLOCKED(FEMALE(AND(MALE(SIGN)))) RROBANG
RSECTION.(ABOVE(BAR(ABOVE(UNION)) UNION) BESIDE(AND(JOINED(WITH(#298)))) WITH(DOT LOGICAL(AND)
OVERBAR))> VERSE(BULLET CHECK(MARK) CHECKER(BOARD(FILL)) DOWNWARDS(ARROW(WITH(TIP(LEFTWARDS))))
MEDIUM(SHADE) WHITE(#19)) VERTED(EXCLAMATION(MARK) INTERROBANG LAZY(S)
LOW(KAVYKA.(WITH(KAVYKA(#2)))) OHM(SIGN) PENTAGRAM QUESTION(MARK) UNDERTIE) VISIBLE(PLUS SEPARATOR
TIMES)> ZAKAYA(LANTERN)>(LOVE(YOU(#301))) J<ACK[O[LANTERN]] APANESE(BANK(#0) CASTLE DOLLS GOBLIN
INDUSTRIAL(#740) OGRE POST(OFFICE) SYMBOL(FOR(BEGINNER))) AR AVANESE(CONSONANT(SIGN(CAKRA KERET
PENGKAL)) DIGIT(#557) LEFT(RERENGGAN) LETTER(A AI BA.(MURDA) CA.(MURDA) DA.(#164) DDA.(#164) E
GA.(MURDA) HA I.(KAWI) II JA.(#164) KA.(MURDA SASAK) LA MA NA.(MURDA) NGA.(LELET.(RASWADI))
NYA.(MURDA) O PA.(CEREK MURDA) RA.(AGUNG) SA.(MAHAPRANA MURDA) TA.(MURDA) TTA.(#164) #200)
PADA(ADEG.(ADEG) ANDAP ISEN[ISEN] LINGSA LUHUR LUNGSI MADYA PANGKAT PISELEH TIRTA(TUMETES) WINDU)
PANGKON PANGRANGKEP RIGHT(RERENGGAN) SIGN(CECAK.(TELU) LAYAR PANYANGGA WIGNYAN)
TURNED(PADA(PISELEH)) VOWEL(SIGN(DIRGA(MURE) PEPET SUKU.(MENDUT) TALING TARUNG TOLONG
WULU.(MELIK)))) EANS IGSAW(PUZZLE(PIECE)) OIN OYSTICK UGGLING UNO UPITER> K<A<ABA ITHI(#1094
ENUMERATION(SIGN) LETTER(#191 #504 DDDHA #148 E #190 #188 #1093 #248) NUMBER(SIGN.(#2))
SECTION(MARK) SIGN(#154 #387) VOWEL(#741)) NGAROO NGXI(RADICAL(AGAIN AND ARRIVE ARROW AXE B<ADGER
AMBOO EAN IG IRD ITTER LACK LOOD LUE OAT ODY OLT(OF(CLOTH)) ONE OW RANCH RISTLE RUSH> C<ART
AULDRON AVE HILD ITY LAN LAW LIFF LOTHES OLOR OMPARE ORPSE OVER OW> D<EATH EER IPPER ISH
ISTINGUISH IVINATION O<G OR T TTED(CLIFF TENT) UBLE(X) WN(BOX)>(NOT) RAGON RUM RY> E<AR ARTH AT
IGHT MBROIDERY NCLOSURE NTER VEN VENING YE> F<ACE ANG ATHER EATHER IELD IGHT IRE ISH LUTE LY OOT
RAGRANT ROG UR> GATE GHOST GO.(SLOWLY) GOLD GRAIN GRASS H<AIR ALBERD ALF(TREE(TRUNK)) AND EAD EART
EMP IDING(ENCLOSURE) OOK ORN ORSE> ICE INCH INSECT JADE JAR KNIFE L<ACK AME EAF EATHER EEK EGS ID
IFE INE ONG.(STRIDE)> M<AN EAT ELON ILLET INISTER OON ORNING ORTAR OUND OUNTAIN OUTH> NET NOSE NOT
OLD ONE ONESELF OPEN(BOX) OPPOSE PIG PLOW POWER PRIVATE PROFOUND R<AIN AP AT ED ICE
IGHT(OPEN(BOX)) IVER OOF UN> S<ACRIFICIAL(WINE) ALT AY CHOLAR CRIPT EAL ECOND EE ELF HEEP HELL
HOOT HORT(TAILED(BIRD) THREAD) ICKNESS ILK KIN LASH LAVE LICE MALL NOUT OUND PEAR PEECH PIRIT POON
PROUT QUARE TAND TEAM TEP TONE TOP TOPPING UN WEET> T<ABLE ALL ANNED(LEATHER) EN IGER ILE ONGUE
OOTH RACK REE RIPOD URBAN URTLE WO.(HANDS)> USE VALLEY VILLAGE W<ALK.(ENCLOSURE) ATER EAPON EST
HEAT HITE IND INE OMAN ORK RAP RONG> YELLOW)) NNADA(#1097 LENGTH(MARK) LETTER(#506 E EE
FA #1095 #336 #236 #279) SIGN(#510 #1096 SPACING(#295) #599) VOWEL(#306)) TAKANA(DIGRAPH(KOTO)
ITERATION(MARK) LETTER(A ARCHAIC(E WU YE YI) #1089 MA ME MI MINNAN(NASALIZED(TONE[#115 7 8])
TONE[2 3 4 5 7 8]) MO MU N #871 SMALL(A E #874 KU MU N NU O #869 SI SU TO TU U WA #353) #532 U VA
VE VI VO #1090) MIDDLE(DOT) VOICED(#305))[HIRAGANA(DOUBLE(HYPHEN) PROLONGED(#289) #578)]
YAH(LI(DIGIT(#557) LETTER(#527 HTA I #48 #152 OE OO #547 #379 ZA) SIGN(CWI SHYA)
TONE(CALYA.(PLOPHU) PLOPHU) VOWEL(E EE O U UE)))> ELVIN(SIGN) EY EYBOARD.(AND(MOUSE)) EYCAP(TEN)
HAROSHTHI(DIGIT(#267) FRACTION(#443) LETTER(A #505 #380 KKA LA MA NA #106 #149 #34 TTTA TTTHA VA
VHA YA ZA) NUMBER(ONE(#17) #349) PUNCTUATION(CIRCLE CRESCENT(BAR) DANDA DOT DOUBLE(DANDA) LINES
LOTUS MANGALAM SMALL(#19)) SIGN(ANUSVARA BAR(#2) CAUDA DOT(#1) DOUBLE(RING(#1)) VISARGA) VIRAMA
VOWEL(LENGTH(MARK) SIGN(E #37 VOCALIC(R)))) HITAN(SMALL(SCRIPT(FILLER)))
HMER(CURRENCY(SYMBOL(RIEL)) DIGIT(#557) INDEPENDENT(VOWEL(LY LYY Q<AA AI AQ AU E I II
OO(TYPE(#38)) U UK UU UUV> RY RYY)) LETTER(BA #184 CHO CO DA DO HA #47 KHO KO LA LO MO NGO NNO NO
NYO PHA PHO PO QA RO #54 SSO #102 THO TO TTHA TTHO VO YO) SIGN(AHSDA ATTHACAN AVAKRAHASANYA BANTOC
BARIYOOSAN BATHAMASAT BEYYAL CAMNUC(PII(KUUH)) COENG KAKABAT KHAN KOOMUUT LEK(TOO) MUUSIKATOAN
NIKAHIT PHNAEK(MUAN) REAHMUK ROBAT SAMYOK(SANNYA) TOANDAKHIAT TRIISAP VIRIAM YUUKALEAPINTU)
SYMBOL(#913 DAP(#98)[#1098 PRAM(#98)] LEK(ATTAK(#1099 PRAM.[#1099] SON)) MUOY(#98) PATHAMASAT
PII(#98) PRAM(#98)[#1098] TUTEYASAT) VOWEL(INHERENT(AA AQ) SIGN(AA AE AI AU E I IE II OE OO U UA
UU Y YA YY))) HOJKI(#1094 LETTER(#1100 #381 JJA #48 #242 #361 #34 U VA YA) SECTION(MARK)
SIGN(ANUSVARA #1078 VIRAMA) VOWEL(SIGN(#241 U)) WORD(#29)) HUDAWADI(DIGIT(#557) LETTER(#1100
HA #189 JJA #48 #188 #591) SIGN(ANUSVARA NUKTA VIRAMA) VOWEL(SIGN(#263))) IMONO IP(SIGN)
ISS.(MARK) ISSING(CAT(FACE(WITH(#459))) FACE.(WITH(CLOSED(EYES) SMILING(EYES)))) ITE IWIFRUIT
NEELING(PERSON) NOT OALA OREAN(#740) RONOS>"

end ClientGen.Text.CharName
