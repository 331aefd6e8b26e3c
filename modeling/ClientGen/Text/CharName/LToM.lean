/-!
# Names of characters from L to M

A part of the outline of the names of characters, in lines.
-/

namespace ClientGen.Text.CharName

/-- The outline of the names that start with a letter from L to M. -/
def lToM : String :=
"L<A<B(COAT) BEL CROSSE(STICK(#226)) DDER DY(BEETLE) NGUAGE(TAG) O(CANCELLATION(MARK) DIGIT(#557)
ELLIPSIS HO(MO NO) KO(LA) LETTER(BO CO DO FO(FAY FON #214) HO(#214) KHMU(GO NYO) KHO(#214) KO
LO.(LING LOOT) MO NGO NO NYO O PALI(BHA CHA #382 GHA JHA LLA #106 #34) PHO(#214) PO RO
SANSKRIT(SHA SSA) SO(#214) THO(#214) TO WO YO) NIGGAHITA SEMIVOWEL(SIGN(LO NYO))
SIGN(PALI(VIRAMA)) TONE(MAI(CATAWA EK THO TI)) VOWEL(SIGN(#254 AM AY E EI I II MAI(KAN KON) O U UU
Y YY))) RGE(BLUE(#299) BROWN(#58) CIRCLE DOWN(TACK) GREEN(#58) LEFT(TRIANGLE(#9))
ONE(DOT(OVER(#742)) RING(OVER(TWO(RINGS(#67))))) ORANGE(#299) PURPLE(#58) RED(#58)
TRIPLE(VERTICAL(BAR(#9))) TWO(DOTS(#307) RINGS(OVER(ONE(RING(#67))))) UP(TACK) YELLOW(#58))
RGER(THAN.(#80)) RI(SIGN) ST(QUARTER(MOON.(#300))) TIN(CAPITAL(LETTER(A.<#1103 FRICAN(D)
LPHA #1104>(WITH(#1101 #1102)) B.(WITH(#1105 #600)) BETA BROKEN(L) C.(WITH(#1106 #253 #262)) CHI
CLOSED(INSULAR(G)) #1135 D.(WITH(#508 #550 SHORT(#309) SMALL(LETTER(Z.(WITH(CARON)))) #600))
DZ.(WITH(CARON)) E.<GYPTOLOGICAL(AIN ALEF) NG SH T TH ZH.(REVERSED WITH(CARON))>(WITH(#1107 #880
MACRON.(#310) OGONEK #1108)) F.(WITH(#253 STROKE)) G.(WITH(#1109 STROKE)) #1136 H.(WITH(#1110 HOOK
STROKE)) HALF(H) HENG HWAIR I.(WITH(#1111 DOT(#4) #881 #1108)) INSULAR(D F G R S T) IOTA IS
J.(WITH(#1112)) K.(WITH(#1113 STROKE.(#746))) L.(WITH(#549 BELT #508 DOT(BELOW.(#145)) DOUBLE(BAR)
HIGH(#6) LINE(#1) MIDDLE(DOT TILDE) SMALL(LETTER(J)) STROKE)) LJ M.(WITH(ACUTE #1114))
MIDDLE(SCOTS(S))[WELSH(LL V)] N.(WITH(ACUTE #508 #1115 OBLIQUE(#6) SMALL(LETTER(J)) TILDE)) NJ
O.<#1118 PEN(E O) U>(WITH(#1116 MACRON.(#310) MIDDLE(TILDE) OGONEK.(#145) #1117))
P.(WITH(#1119 #1120)) Q.(WITH(DIAGONAL(#6) STROKE(#312))) R.(ROTUNDA WITH(#551 #1121 #1122
OBLIQUE(#6) STROKE TAIL)) REVERSED(C(#28) E HALF(H) OPEN(E)) RUM(ROTUNDA) S.<ALTILLO CHWA CRIPT(G)
HARP(S) IGMOID(S) MALL(CAPITAL(I) Q(WITH(HOOK(TAIL))))>(WITH(#1123 #1124 OBLIQUE(#6) #1125))
T.(WITH(#1126 DIAGONAL(#6) #550 #204)) THORN.(#747) TONE(FIVE SIX TWO) TRESILLO TURNED(A ALPHA
H #1127 M T V) TZ U.(BAR WITH(#1128 #1129 RING(#2) #1130)) UPSILON V.(WITH(#552 HOOK TILDE)) #1137
W.(WITH(#553 HOOK)) WYNN X.(WITH(#1131)) Y.(WITH(#1132 #548)) YOGH Z.(WITH(#1133 #1134 #262
SWASH(TAIL)))) LIGATURE(IJ OE)) CROSS EPIGRAPHIC(LETTER(ARCHAIC(M) I(LONGA) INVERTED(M) REVERSED(F
P) SIDEWAYS(I))) LETTER(AIN ALVEOLAR(CLICK) BIDENTAL(PERCUSSIVE) BILABIAL(CLICK PERCUSSIVE)
DENTAL(CLICK) GLOTTAL(#469) INVERTED(GLOTTAL(STOP.(WITH(CURL STROKE)))) LATERAL(CLICK)
PHARYNGEAL(VOICED(FRICATIVE)) RETROFLEX(CLICK.(#749)) REVERSED(ESH(LOOP) GLOTTAL(STOP(#25)))
SINOLOGICAL(DOT) SMALL(CAPITAL(#1138 C D E ETH EZH F G.(#124) H I INVERTED(R) J K L.(WITH(BELT
STROKE)) M N O OE OPEN(O) OU P Q R.(WITH(#311)) REVERSED(N R) RUM S T TURNED(E G K M R) U V W Y
Z)) STRETCHED(C.(#313)) TWO(#25) VOICED(LARYNGEAL(SPIRANT)) WYNN YR) SMALL(CAPITAL(LETTER(I(#25)
U(#25))) LETTER(A.<#1103 LPHA.(#749) #1104>(REVERSED[SCHWA] WITH(#1101 RETROFLEX(HOOK)
RIGHT(#136) #1102)) B.<ARRED(ALPHA E O) ASELINE(ESH) ETA LACKLETTER(E O.(#25)) OTTOM(#314)
ROKEN(L)>(WITH(#1105 #113 #600)) C.(WITH(#1106 CURL #253 PALATAL(HOOK) #204))
CHI.(WITH(LOW(LEFT(SERIF) RIGHT(RING)))) CLOSED(INSULAR(G) OMEGA OPEN(E) REVERSED(OPEN(E))) #1135
D.<B(#99) ELTA EZH(#751) OTLESS(I J.(#752)) OUBLE(R.(#471) THORN WYNN) UM Z.(DIGRAPH.(#472)
WITH(CARON))>(WITH(#508 CURL DOT(#4) HOOK.(#470) #1139 SHORT(#309) STROKE TAIL TOPBAR))
E.<GYPTOLOGICAL(AIN ALEF) NG.(WITH(CROSSED[TAIL] PALATAL(HOOK))) SH.(WITH(CURL
DOUBLE(BAR.(AND(CURL))) #265)) T TH ZH.(REVERSED WITH(CARON CURL #265 TAIL))>(WITH(#1107
DOUBLE(GRAVE) FLOURISH #872 MACRON.(#310) NOTCH OGONEK #204 TILDE.(#1))) F.(WITH(#253 #113
STROKE)) FENG(DIGRAPH.(WITH(TRILL))) G.(WITH(#1109 #262)) #1136 H.(WITH(#1110 #338 #262)) HALF(H)
HENG.(#124) HV I.(WITH(#1111 DOT(#1) #881 RETROFLEX(HOOK) STROKE.(#750) TILDE.(#1))) INSULAR(D F G
R S T) INVERTED(ALPHA OE) IOTA.(#25) IOTIFIED(E) IS J.(WITH(CARON #1112)) K.(WITH(#1113
PALATAL(HOOK) STROKE.(#746))) KRA L.<AMBDA(#25) ENIS(F) EZH.(#749) J ONG(S.(WITH(DIAGONAL(#6)
DOT(#2) HIGH(#6)))) S(#99) UM Z(#99)>(WITH(#549 BELT.(AND(PALATAL(HOOK))) #508 CURL
DOT(BELOW.(#145)) DOUBLE(BAR MIDDLE(TILDE)) FISHHOOK HIGH(#6) INVERTED(LAZY(S)) LINE(#1)
MIDDLE(DOT RING TILDE) PALATAL(HOOK) RETROFLEX(#753) STROKE)) M.(WITH(ACUTE
CROSSED[TAIL] #1114 #113)) MIDDLE(SCOTS(S))[WELSH(LL V)] MUM N.(PRECEDED(BY(APOSTROPHE))
WITH(ACUTE #508 CROSSED[TAIL] CURL #1115 #601 #265 TILDE)) NJ NUM O.<#1118 PEN(E.(#749)
O.(WITH(#204)) OE) U>(WITH(#1116 LOW(RING(#116)) MACRON.(#310) OGONEK.(#145)
RETROFLEX(HOOK) #1117)) P.(WITH(#1119 #113 #1120)) PHI Q.(WITH(DIAGONAL(#6) HOOK.(TAIL)
STROKE(#312))) QP(#99) R.(ROTUNDA WITH(#551 CROSSED[TAIL] #1121 FISHHOOK.(AND(#113)) #1122
LONG(LEG) #601 #262 TAIL) WITHOUT(HANDLE)) RAMS(HORN) REVERSED(C.(#28) E ENG HALF(H) K
OPEN(E.(#754)) R(WITH(FISHHOOK)) SCRIPT(G)) RUM.(ROTUNDA) S.<AKHA(YAT) ALTILLO CHWA.(#754)
CRIPT(G.(#471) R.(WITH(RING))) HARP(S) IDEWAYS(DIAERESIZED(U) O.(#25) OPEN(O) TURNED(M) U)
IGMOID(S) QUAT(REVERSED(ESH)) TIRRUP(R)>(WITH(#1123 CURL #1124 #601 PALATAL(HOOK) #1125))
T.<AILLESS(PHI) C(#755) ESH(#751) H(WITH(STRIKETHROUGH)) HORN.(#747) ONE(FIVE SIX TWO) OP(#314)
RESILLO S(#756) UM URNED(A AE ALPHA DELTA E G H.(WITH(FISHHOOK.(#470))) I #1127 M.(#757)
O(OPEN[O.(#25)]) OE.(WITH(HORIZONTAL(#6) STROKE)) OPEN(E) R.(WITH(#1140 #113 TAIL)) T.(#313)
UI #1141) Z>(WITH(#1126 CURL DIAERESIS DIAGONAL(#6) DOT(#4) HOOK.(#750) #1139 #204))
U.(BAR.(WITH(SHORT(#311))) WITH(#1128 LEFT(HOOK) #1129 RETROFLEX(HOOK) #1142 #1130)) UE UI UM UO
UPSILON.(#25) V.(WITH(CURL #552 HOOK PALATAL(HOOK) RIGHT(HOOK) TILDE)) #1137 W.(WITH(#553 HOOK
RING(#2))) X.(WITH(#1131 LONG(LEFT(LEG.(AND(LOW(RIGHT(RING))) WITH(SERIF)))) LOW(RIGHT(RING))
PALATAL(HOOK))) Y.(WITH(#1132 #1142 #548)) YOGH Z.(WITH(#1133 CURL #1134 #113 #204 SWASH(TAIL))))
LIGATURE(FF FFI FFL FI FL IJ LONG(S(T)) OE ST)) SUBSCRIPT(SMALL(LETTER(A E #257 #55 O P R S SCHWA
T U V X))))> E<AF(FLUTTERING(IN(WIND))) AFY(GREEN) DGER FT(AND(LOWER(#759) RIGHT(DOUBLE(#123) TACK
TRIANGULAR(#315)) UPPER(#759)) ANGER(#179) ANGLE(BRACKET.(#28)) ARC(LESS[THAN(#7)]) ARROW(#760)
BARB(DOWN(#761) UP(#761)) #1150 CLOSED(ENTRY) #1151 DOUBLE(ANGLE(#7) #1143) #1152 HALF(#1144
CIRCLE.(WITH(DOT FOUR(DOTS) THREE(DOTS) TWO(DOTS))) FOLDER
INVERSE(MEDIUM(SHADE(AND(RIGHT(#315))))) #1145) #1153 LUGGAGE MULTIMAP #1154 #1155
RIGHT(ARROW.(THROUGH(#474) WITH(DOUBLE(#120) #392)) BLACK(#3) DOUBLE(ARROW.(WITH(#392)))
OPEN[#142] #1146 WAVE(#3) WHITE(#3)) S<#1147 #1148>[#762] T<#1149 RIANGLE(BESIDE(#168))
RIANGULAR(#475)> #1156 WRITING(HAND))[#1157 SIDE(ARC(#433)) TO[RIGHT(#765)]]
FTWARDS(ARROW.(ABOVE(#1158 SHORT(#32) TILDE(#9)) #1160 OVER(#32) THROUGH(LESS[THAN] SUBSET X)
TO(BAR.(OVER(RIGHTWARDS(ARROW(TO(BAR))))) BLACK(#125)) WITH(#1159))[TAIL] #1163 BOTTOM[#453] #1164
HARPOON(OVER(RIGHTWARDS(#180)) WITH(BARB(DOWN(ABOVE(RIGHTWARDS(#317)) #1161) DOWNWARDS
UP(ABOVE(LEFTWARDS(#317) LONG(DASH) RIGHTWARDS(#768)) #251) UPWARDS))) #1165
TRIANGLE(#26)[HEADED(ARROW.(OVER(RIGHTWARDS(#297)) #1162) #372)] #1166 WHITE(#715)) G MON O OPARD
PCHA(CONSONANT(SIGN(K KANG #55 NYIN[DO] P R T)) DIGIT(#557) LETTER(A BA BLA #185 DDA DZA FA FLA GA
GLA HA HLA JA #47 KLA LA MA MLA NA NGA NYA #69 PLA RA #337 #347 #379) PUNCTUATION(CER[WA]
NYET(THYOOM(TA[ROL])) TA[ROL] TSHOOK.(CER[WA])) SIGN(NUKTA RAN) SUBJOINED(LETTER(RA YA))
VOWEL(SIGN(AA #390 U UU))) SS[THAN(ABOVE(DOUBLE[LINE(EQUAL(ABOVE(#478)))] GREATER[#722]
LEFTWARDS(#3) SIMILAR(ABOVE(#478) OR(EQUAL)) SLANTED(EQUAL(ABOVE(GREATER[THAN(#461)]))))
AND(#723) #1064 EQUAL(TO(OR(#478))) OR(APPROXIMATE #602 SLANTED(EQUAL(TO.(WITH(DOT(ABOVE.(#33)
INSIDE)))))) OVER(#12) #1065)] VEL(SLIDER)> F I<BRA GATURE(OPEN(#303)) GHT(CHECK(MARK) EIGHT(#79)
FIVE(#178) FOUR(POINTED(BLACK(CUSP STAR))) GREEK(#15) LEFT(#769) RAIL RIGHT(#769) #1167 SIX(#79)
THREE(#480) TWELVE(#480) VERTICAL(BAR) WHITE(#52)) GHTNING.(MOOD.(#179)) MBU(DIGIT(#557)
EXCLAMATION(MARK) LETTER(#186 #185 DHA GA GHA GYAN HA #360 #62 #149 TRA #36 YAN) QUESTION(MARK)
SIGN(KEMPHRENG LOO MUKPHRENG SA[I]) SMALL(LETTER(ANUSVARA #539 PA RA TA)) SUBJOINED(#770)
VOWEL(SIGN(A AI AU #109 OO U))[CARRIER(LETTER)]) MITED(LIABILITY(SIGN)) NE(FEED
INTEGRATION(NOT(INCLUDING(THE(POLE))) WITH(RECTANGULAR(#771) SEMICIRCULAR(#771))) SEPARATOR
TABULATION.(SET)) NEAR(A(SIGN(A<028B 100[102] 120B 131C 3<0<#213 9A 9B 9C> 1<#42 3A 3B 3C #90>
2<#41> #866 6<#41> 70 71> 40<#1168 9[VAS]> 41<#1168> 5<0<#22 8 9> 10 11 12 13 15 16 2<0 1 #157>
3<#42 #90> 4<#42 5 #40> 5<#23 7 9> 63 64 65 66 68 69 #343 91 92 94 95 96 98> 6<0<#73 6 8 9> 1<#41>
2<#73 #207> 34 37 38 4<0 #208 8 9> 5<#56> 60 61 62 63 64> 70<1(A) 2(B) 3(D) 4(E) 5(F) 6(H) 7(J)
8(K) 9(L)[2(L2) 3(L3) 4(L4) 6(L6)]> 71<0(W) 1(X) 2(Y) 3(OMEGA) 4(ABB) 5(BB) 7(DD)> 726(EYYY)
732(JE) 80<#23 7> B0<0<#56> 10 11 13 16 17 2<0 1 1F 1M 2 2F 2M 3 3M 4 #207> 30 31 34 37 38 39 4<0
1 #90> 5<0 1 #157> 60 61 65 66 67 69 7<0 3 4 #207> 80 81 82 85 86 87> B1<18 20 22 23 31A 31B 64 71
80 88 91>>)) B(IDEOGRAM(B1<0<0(MAN) 2(WOMAN) 4(DEER) 5(EQUID) 5F(MARE) 5M(STALLION) 6F(EWE)
6M(RAM) 7F(SHE[GOAT]) 7M(HE[GOAT]) 8F(SOW) 8M(BOAR) 9F(COW) 9M(BULL)> 20(WHEAT) 21(BARLEY)
22(OLIVE) 23(SPICE) 25(CYPERUS) 30(OIL) 31(WINE) 32 40(BRONZE) 41(GOLD) 42 45(WOOL) 46 5<0 1(HORN)
2 3 4 7 8 9(CLOTH)> 6<0 1 2(GARMENT) 3(ARMOUR) #90> 7<#42 3(MONTH) 4 6(TREE) #40> 8<#73 5 9> 90
91(HELMET)> B2<20(FOOTSTOOL) 25(BATHTUB) 30(SPEAR) 31(#3) 32 33(SWORD) 34 36 4<0(WHEELED(CHARIOT))
1(CHARIOT) 2(CHARIOT(FRAME)) 3(WHEEL) 5 6 8 9> 5<#63 4(DART) #70>> VESSEL(B155 B2<0<#41> 1<#41> 21
22 26 27 28 29 50> B305)) MONOGRAM(B127(KAPO) B128(KANAKO) B133(AREPA) B135(MERI) B156(TURO2)
B247(DIPTE)) SYLLABLE(B0<0<1(DA) 2(RO) 3(PA) 4(TE) 5(TO) 6(NA) 7(DI) 8(A) 9(SE)> 1<0(U) 1(PO)
2(SO) 3(ME) 4(DO) 5(MO) 6(QA) 7(ZA)> 2<0(ZO) 1(QI) 3(MU) 4(NE) 5(A2) 6(RU) 7(RE) 8(I) 9(PU2)>
3<0(NI) 1(SA) 2(QO) 3(RA3) 6(JO) 7(TI) 8(E) 9(PI)> 4<0(WI) 1(SI) 2(WO) 3(A3) 4(KE) 5(DE) 6(JE)
8(NWA)> 5<0(PU) 1(DU) 2(NO) 3(RI) 4(WA) 5(NU) 7(JA) 8(SU) 9(TA)> 6<0(RA) 1(O) 2(PTE) 5(JU) 6(TA2)
7(KI) 8(RO2) 9(TU)> 7<0(KO) 1(DWE) 2(PE) 3(MI) 4(ZE) 5(WE) 6(RA2) 7(KA) 8(QE)> 80(MA) 81(KU)
85(AU) 87(TWE) 90(DWO) 91(TWO)>) SYMBOL(B0<18 19 22 34 47 49 56 63 64 79 82 83 86 89>))) NK(#0)
NKED(PAPERCLIPS) ON(FACE) PS PSTICK RA(SIGN) SU(LETTER(A AE BA #185 DZA E EU FA #49 HHA #603 #62 O
OE #69 #337 TONE(MYA(BO CYA JEU NA TI) NA(PO)) #195 U UE UH #383 YHA #89) PUNCTUATION(#43))
VRE(TOURNOIS(SIGN)) ZARD> LAMA O<BSTER CK.(WITH(INK(PEN))) CKING[SHIFT(ONE ZERO)]
GICAL(AND.(WITH(#1169 UNDERBAR)) OR.(OVERLAPPING(LOGICAL(AND)) WITH(#1169))) LLIPOP
NG(DASH(FROM(LEFT(MEMBER(OF(DOUBLE(VERTICAL)))))) DIVISION DRUM LEFT(RIGHT(ARROW DOUBLE(#3)) TACK)
LEFTWARDS(#772) RIGHT(TACK) RIGHTWARDS(#772)) TION(BOTTLE) TUS UDLY(CRYING(FACE)) VE(HOTEL LETTER)
W(ASTERISK BATTERY BRIGHTNESS(#0) DOUBLE(PRIME(#81)) KAVYKA.(#28) LINE) WER(#1171 HALF(BLOCK
CIRCLE INVERSE(#481) MEDIUM(SHADE)) LEFT(BALLPOINT(PEN) BLOCK(#774) CRAYON FOUNTAIN(PEN)
PAINTBRUSH #776 SEMICIRCULAR(#433) TRIANG<#777>) ONE(#473) RIGHT(#1170 DROP[#778] #776
SEMICIRCULAR(#779) SHADOWED(WHITE(#58)) TRIANG<#777>) #1172)
ZENGE.(DIVIDED(BY(HORIZONTAL(RULE))))> RE RI RM RO UGGAGE UNGS YCIAN(LETTER(A AN B BH D E EN
G #257 KK L M MM N NN P Q R S T TH TT U W X Z)) YDIAN(LETTER(A AN B C D E EN F G I K L LY M N NN O
Q R S SS T TT U V Y) TRIANGULAR(MARK)) YING(FACE)>(B(BAR(#0))) M<A<CRON GE GIC(WAND) GNET
HAJANI(ABBREVIATION(SIGN) LETTER(A #505 E #49 I #360 MA NA #106 O #335 #243 #34 U VA)
LIGATURE(SHRI) SECTION(MARK) SIGN(NUKTA)) HJONG(TILE(AUTUMN BACK BAMBOO CHRYSANTHEMUM EAST(WIND)
EIGHT(#100) FIVE(#100) FOUR(#100) GREEN(DRAGON) JOKER NINE(#100) NORTH(WIND) ONE(#100) ORCHID PLUM
RED(DRAGON) SEVEN(#100) SIX(#100) SOUTH(WIND) SPRING SUMMER THREE(#100) TWO(#100) WEST(WIND)
WHITE(DRAGON) WINTER)) KASAR(ANGKA END(OF(#217)) LETTER(#526 GA #255 #152 #250 VA YA) PASSIMBANG
VOWEL(SIGN(E #37))) LAYALAM(AU(#95) DATE(MARK) DIGIT(#557) FRACTION(ONE(EIGHTH FIFTH FORTIETH
HALF #1173 SIXTEENTH TENTH TWENTIETH) THREE(#1174 TWENTIETHS)) LETTER(#254 ARCHAIC(II)
AU #186 #184 CHILLU(K L LL LLL M N NN RR Y) DA #382 DOT(REPH) E EE #190 #201 #1175 #336 #34
TTTA #235 VEDIC(#138) #279) NUMBER(ONE(#17) TEN) SIGN(#510 CIRCULAR(VIRAMA) COMBINING(#721) PARA
VERTICAL(BAR(VIRAMA)) #27) VOWEL(#306)) LE(AND(FEMALE(SIGN)) SIGN
WITH(STROKE(AND(MALE(AND(FEMALE(SIGN)))) SIGN))) LTESE(#15) MMOTH N.<AT(SIGN)
DAIC(AFFRICATION(MARK) GEMINATION(MARK) LETTER(A<B D G H IN K KSA #55 P Q R S SH SZ T TT Z>
DUSHENNA HALQA IN IT KAD USHENNA) PUNCTUATION VOCALIZATION(MARK)) GO
ICHAEAN(ABBREVIATION(MARK(#4)) LETTER(AAYIN #345 BHETH DALETH DHAMEDH FE GHIMEL #511 JAYIN JHAYIN
KAPH KHAPH LAMEDH #238 QHOPH #533 SADHE #513 SSHIN TAW TETH THAMEDH WAW XAPH XOPH #239 ZHAYIN)
NUMBER(FIVE #622) PUNCTUATION(DOT.(WITHIN(DOT)) DOUBLE(DOT(WITHIN(DOT))) FLEURON LINE(FILLER) STAR
TWO(DOTS)) SIGN(UD)) S(SHOE) TELPIECE(CLOCK) UAL(WHEELCHAIR)>(AND(WOMAN(#483)) DANCING
IN(BUSINESS(SUIT(LEVITATING)) TUXEDO) WITH(GUA(PI(MAO)) TURBAN)) P(SYMBOL(FOR(LIGHTHOUSE)))
PLE(LEAF) RCHEN(HEAD(MARK) LETTER([A] #1176) MARK(SHAD) SIGN(#154) SUBJOINED(LETTER(#1176))
VOWEL(SIGN(AA E #37))) RRIAGE(#0) RTIAL(ARTS(UNIFORM)) SARAM(GONDI(DIGIT(#557) LETTER(#952
JNYA #47 KSSA LA #242 #149 TRA #248) RA[KARA] REPHA SIGN(ANUSVARA CANDRA #1030 VISARGA) VIRAMA
VOWEL(#741))) SCULINE(#719) SK(WORK(#0)) SU(MARK) TE(DRINK) THEMATICAL(BOLD(CAPITAL(#209
DIGAMMA #896) #1180 FRAKTUR(#577) #1181 SCRIPT(#577) SMALL(#209 DIGAMMA #1177) THETA(#0))
DOUBLE[STRUCK(CAPITAL(A B #196 I J K L M O #346 Y) #1182)] FALLING(#165) FRAKTUR(CAPITAL(A B #196
J K #55 O P Q #346 Y) SMALL(#574)) ITALIC(#1178 SMALL(#209 DOTLESS(I J) #918 GAMMA
I #883 #355 #535) THETA(#0)) LEFT(#1184) MONOSPACE(CAPITAL(#574) #1182) RIGHT(#1184) RISING(#165)
SANS[SERIF(BOLD(CAPITAL(#209 #896) #1180 #1181 #1179) CAPITAL(#574) DIGIT(#557) ITALIC(#577)
SMALL(#574))] SCRIPT(CAPITAL(A C D G J K N O P Q #346 Y Z) SMALL(A B C D F #257 #55 #573 Y Z)))
XIMIZE YAN(NUMERAL(#864 #545 #604 ZERO))> E<ASURED(ANGLE.(OPENING(LEFT)
WITH(OPEN(ARM(ENDING(IN(ARROW(POINTING(DOWN(#284) LEFT(AND(#61)) RIGHT(AND(#61)) UP(#284)))))))))
BY RIGHT(ANGLE(#28))) AT(ON(BONE)) CHANICAL(ARM LEG) DEFAIDRIN(CAPITAL(#780) COMMA DIGIT(#529
ONE.(#143) SEVEN SIX THREE.(#143) TWO.(#143) ZERO) EXCLAMATION(OH) FULL(STOP) NUMBER(#1185)
SMALL(#780) SYMBOL(AIVA)) DIEVAL(COMMA #922) DIUM(BLACK(#19) BOLD(#481) EIGHT(#178) FIVE(#79)
FLATTENED(LEFT(#781) RIGHT(#781)) FOUR(#584) GREEK(#15) LEFT(#782)[#783] MATHEMATICAL(#84)
RIGHT(#782)[#783] #1167 SIX(#178) SMALL(#481) THREE(#584) VERTICAL(BAR) WHITE(#58))
ETEI(MAYEK(AHANG(KHUDAM) ANJI APUN(IYEK) CHEIKH<AN EI> DIGIT(#557) LETTER(ATIYA BA BHAM CHA CHIL
DDA DDHA DHOU DIL E GHOU GOK HUK I.(#126) JHAM JIL KHOU KOK.(#126) LAI.(#126) MIT.(#126) NA.(#126)
NGOU.(#126) #106 O PA.(#126) PHAM RAI SAM SHA SSA THOU TIL.(#126) #34 UN WAI YANG) LUM(IYEK)
SYLLABLE(#784) VIRAMA VOWEL(SIGN(AAI AAU ANAP AU CHEINAP II INAP NUNG ONAP SOUNAP UNAP UU VISARGA
YENAP)) WORD(#784))) LON LTING(FACE) MO NDE(KIKAKUI(COMBINING(NUMBER(HUNDRED<S>(THOUSANDS)
MILLIONS TEENS TEN(THOUSANDS) TENS THOUSANDS)) DIGIT(#558) SYLLABLE(M0<0<1(KI) 2(KA) 3(KU) 4(WI)
5(WA) 6(WU) 7(MIN) 8(MAN) 9(MUN)> 1<0(BI) 1(BA) 2(BU) 3(I) 4(A) 5(U) 6(DI) 7(DA) 8(DU) 9(SI)>
2<0(SA) 1(SU) 2(TI) 3(TA) 4(TU) 5(LI) 6(LA) 7(LU) 8(JI) 9(JA)> 3<0(JU) 1(YI) 2(YA) 3(YU) 4(FI)
5(FA) 6(FU) 7(NIN) 8(NAN) 9(NUN)> 4<0(HEE) 1(HA) 2(HOO) 3(NGGA) 4(KPEE) 5(WO) 6(HUAN) 7(MBEE)
8(KO) 9(WVA)> 5<0(PU) 1(PE) 2(HEN) 3(HIN) 4(LOO) 5(TE) 6(GBA) 7(NGON) 8(NYAN) 9(MEN)> 6<0(NYON)
1(WVI) 2(MBA) 3(JO) 4(NDO) 5(KEE) 6(PO) 7(NDOO) 8(PI) 9(TO)> 7<0(GBO) 1(GBOO) 2(MBE) 3(LE) 4(KPU)
5(FE) 6(KOO) 7(VO) 8(FEE) 9(SO)> 8<0(YE) 1(PEE) 2(NGGU) 3(HEEI) 4(LEE) 5(VE) 6(LONG(NGGE)) 7(HUN)
8(FO) 9(DEE)> 9<0(NGGI) 1(TEE) 2(KPA) 3(GBEE) 4(MON) 5(KE) 6(HE) 7(BE) 8(NYEN) 9(PA)>> M1<0<0(E)
1(FAN) 2(POO) 3(BOO) 4(TOO) 5(LONG(MBOO)) 6(LONG(NGGOO)) 7(GBE) 8(KPE) 9(YEE)> 1<0(LONG(LE)) 1(GA)
2(KPOO) 3(JE) 4(WOO) 5(NGGEE) 6(SE) 7(NEN) 8(WE) 9(NDE)> 2<0(NGGO) 1(YO) 2(MBU) 3(NDI) 4(GBI)
5(NDU) 6(WEE) 7(NGGUA) 8(HOOU) 9(NDA)> 3<0(HAN) 1(IN) 2(KPI) 3(FOO) 4(NJOO) 5(IN) 6(SOO) 7(EI)
8(BO) 9(WVE)> 4<0(HO) 1(YOO) 2(LONG(MBO)) 3(WEI) 4(VOO) 5(MBI) 6(NGGE) 7(O) 8(GBU) 9(NJEE)>
5<0(BEE) 1(VU) 2(NJA) 3(LO) 4(MUAN) 5(GI) 6(NGGOO) 7(JEE) 8(KPO) 9(NGGAA)> 6<0(JOO) 1(LONG(MBE))
2(SEE) 3(EE) 4(NYIN) 5(OO) 6(GUEI) 7(GUAN) 8(GU) 9(NON)> 7<0(NYUN) 1(RA) 2(MBOO) 3(VEE) 4(MBO)
5(LONG(JO)) 6(HI) 7(NGUAN) 8(EN) 9(KUA)> 8<0(DOO) 1(DO) 2(VI) 3(LONG(NGGO)) 4(NGEN) 5(VA) 6(HU)
7(MBUU) 8(MBEE) 9(MUEN)> 9<0(GEE) 1(NDEE) 2(NJU) 3(HON) 4(WUI) 5(AN) 6(SIA) 7(FUA)>>)))
NORAH(WITH(NINE(BRANCHES))) NS(#0) RCURY ROITIC(CURSIVE(FRACTION(EIGHT(#85) ELEVEN(#85) FIVE(#85)
FOUR(#85) NINE(#85) ONE(HALF TWELFTH) SEVEN(#85) SIX(#85) TEN(#85) THREE(#85) TWO(#85)) LETTER(A
ARCHAIC(SA) BA DA E HHA I #48 MA NA NE O PA QA RA SA SE TA TE TO #36) LOGOGRAM(IMN RMT)
NUMBER(EIGHT.(#101) EIGHTY(#11) FIFTY.(#11) FIVE.(#101) FORTY.(#11) FOUR.(#101) NINE.(#101)
NINETY(#11) ONE.(#101) SEVEN.(#101) SEVENTY.(#11) SIX.(#101) #900 THREE.(#101) TWENTY.(#11)
TWO.(#101))) HIEROGLYPHIC(LETTER(A BA.[2] DA E HHA I #48 MA NA.[2] NE.[2] O PA QA RA.[2] SA.[2] SE
TA.[2] TE.[2] TO #36) SYMBOL(VIDJ.[2]))) RPERSON SSAGE(WAITING) TRICAL(BREVE LONG(OVER(SHORT
TWO(SHORTS))) PENTASEME SHORT(OVER(LONG)) #1006 TWO(SHORTS(JOINED OVER(LONG)))) TRO>
I<AO(LETTER(AH ARCHAIC(#62 ZZA) BA BRI D<A DA LHA LHYA #89 ZYI ZZA> #1080 HA HHA KA LA LHA LHYA
LYA MA MHA N<A ASALIZATION #49 NA NHA YA YHA> PA PLA QA QGA REFORMED(TONE[1 2 4 5 6 8] TSHA)
RTE #54 SSA SYI T<A E LHA LHYA ONE[#208 7 8] SA SE SHA SSA TA> VA VFA WA XA YI(DZHA KA NNA PA
TA #195 TTA) Z<A HA #54 ZA ZSA ZSYA ZYA>) SIGN(ASPIRATION CONSONANT(MODIFIER(BAR))
REFORMED(ASPIRATION VOICING)) TONE(#4 RIGHT TOP(#33)) VOWEL(SIGN(A.<#74 HH I N NG U> E EA EI EN
ENG ER ERR I.<A AN ANG E G I NG O ONG U> N NG O OER OEY OG OO OU ROUNDED(ER ERR) U.<A AN ANG EI I
NG OG U> VW W WO Y YI YUI))) CR<O(SIGN) OBE OPHONE OSCOPE>(DASH(#0) ON(US(#0))) DDLE(DOT
THIRD(#763)) DLINE(HORIZONTAL(ELLIPSIS)) LITARY(HELMET MEDAL) LKY(WAY) LL(SIGN) NIBUS NIDISC
NIMIZE NUS(SIGN.(IN(#24) WITH(COMMA(#2) DOT(#1) FALLING(DOTS) RISING(DOTS)))
TILDE)[OR[PLUS(SIGN)]] NY RROR.(BALL)> MSP O<BILE(PHONE.(OFF WITH(RIGHTWARDS(ARROW(AT(LEFT))))))
DELS DERN(PENTATHLON) DI(ABBREVIATION(SIGN) #861 LETTER(#621) SIGN(ANUSVARA ARDHACANDRA HUVA #27)
VOWEL(#280)) DIFIER(BREVE(WITH(INVERTED(BREVE))) LETTER(ACUTE(#14) ALVEOLAR(CLICK) APOSTROPHE
BEGIN(#396) BILABIAL(CLICK) C<APITAL(#1138 C #196 H.(#25) I J K #55 O OU P Q R REVERSED(E N) T U V
W) ENTRED(LEFT(#136) RIGHT(#136)) HINESE(TONE(YANG(#785) YIN(#785))) IRCUMFLEX(#14) OLON ROSS(#14)
YRILLIC(EN HARD(SIGN) SOFT(SIGN))> DENTAL(CLICK) DOT(HORIZONTAL(BAR) SLASH VERTICAL(BAR))
DOUBLE(APOSTROPHE PRIME) DOWN(#786) END(#396) EXTRA[HIGH(#789) LOW(#789)] GEORGIAN(NAR)
GLOTTAL(#469) GRAVE(#14) HALF(#790) HIGH(#789) LATERAL(CLICK) LEFT(#791) LOW(ACUTE(#14)
CIRCUMFLEX(#14) DOTTED(#788) DOWN(#26) GRAVE(#14) INVERTED(#484) LEFT(#962)[#787] MACRON
RIGHT(#26) RING TILDE TONE(BAR) UP(#26) VERTICAL(LINE)) LOWER(RIGHT(CORNER(ANGLE))) MACRON
MID(#789) MIDDLE(DOUBLE(#683) GRAVE(#14)) MINUS(SIGN) OPEN(SHELF) PLUS(SIGN) PRIME RAISED(COLON
DOWN(#3) EXCLAMATION(MARK) INVERTED(#484) UP(#3)) RETROFLEX(CLICK(#749)) REVERSED(COMMA
GLOTTAL(#469)) RHOTIC(HOOK) RIGHT(#791) SHELF SHORT(#485) SMALL(A AE AIN ALPHA B.(#124) BARRED(O)
BETA BOTTOM(#314) C.(#313) CAPITAL(AA B G.(#124) H I.(#25) INVERTED(R) L.(WITH(BELT)) N OE R U Y)
CHI CLOSED(OMEGA REVERSED(OPEN(E))) D.(WITH(HOOK.(#470) TAIL)) DELTA DEZH(#99) DOTLESS(J(#752))
DZ(DIGRAPH.(#472)) E ENG ESH ETH EZH F FENG(#99) G.(#124) GAMMA GREEK(GAMMA PHI) H.(WITH(HOOK
STROKE)) HENG.(#124) I(#25) IOTA J.(#471) K L.(WITH(BELT INVERTED(LAZY(S)) #113 RETROFLEX(#753)))
LEZH.(#749) LIGATURE(OE) LS(#99) LZ(#99) M.(#124) N(WITH(LEFT(HOOK) RETROFLEX(HOOK))) O.(#25)
OPEN(E O) P PHI Q R.(WITH(FISHHOOK TAIL)) RAMS(HORN) REVERSED(E GLOTTAL(STOP) OPEN(E))
S.(WITH(CURL HOOK)) SCHWA SCRIPT(G) SIDEWAYS(U) T.<C(#755) ESH(#99) HETA OP(#314) S(#756) URNED(A
AE ALPHA H I M.(#757) OPEN(E) R.(WITH(#1140)) #1141)>(WITH(#265)) U.(BAR WITH(LEFT(HOOK))) UPSILON
V.(WITH(HOOK RIGHT(HOOK))) W X Y Z.(#472)) STRESS(AND(#396)) SUPERSCRIPT(HALF(#790)
TRIANGULAR(COLON)) TRIANGULAR(COLON) TURNED(COMMA) UNASPIRATED UP(#786) US VERTICAL(LINE) VOICING
YANG(#792) YIN(#792))) DULO(TWO(SUM)) NEY(BAG WITH(WINGS))[MOUTH(FACE)] NGOLIAN(BIRGA.(#486) #354
DIGIT(#557) DOUBLE(BIRGA(#318)) #1186 FREE(VARIATION(SELECTOR(#267))) FULL(STOP)
INVERTED(BIRGA.(#793)) LETTER(A ALI(GALI(A AH ANUSVARA(ONE) BALUDA CA DA DAGALGA DAMARU DDA HALF(U
YA) I INVERTED(UBADAMA) KA NGA NNA #69 SSA TA THREE(BALUDA) #34 UBADAMA VISARGA(ONE) #89)) ANG BA
CHA.(WITH(#417)) CHI DA E EE FA GA HAA #603 LHA MA MANCHU(ALI(GALI(BHA CA CYA #148 GHA JHA LHA NGA
SSA TA TTA #89)) FA I KA RA ZHA) NA O OE PA QA RA #54 SIBE(ANG #203 E FA GA GAA HA HAA I IY JA KA
PA RAA SHA TA TSA U UE #89) TA TODO(ALI(GALI(TA ZHA)) ANG BA #203 DZA E GA GAA HAA I JA JIA KA
LONG(VOWEL(SIGN)) MA NIA O OE PA QA TA TSA U UE #36) TSA U UE #36 ZA ZHI ZRA) MANCHU(#43) NIRUGU
ROTATED(BIRGA.(#486)) SIBE(SYLLABLE(BOUNDARY(#118))) SWIRL(BIRGA.(#486)) TODO(SOFT(HYPHEN))
TRIPLE(BIRGA(#318)) TURNED(SWIRL(BIRGA(#793))) VOWEL(#29)) NKEY.(FACE) NOGRAM(FOR(EARTH YANG YIN))
NORAIL NOSTABLE(#0) OD(#179) ON(CAKE VIEWING(CEREMONY)) SQUE SQUITO THER(CHRISTMAS) TOR(BOAT
SCOOTER) TORIZED(WHEELCHAIR) TORWAY UNT(FUJI) UNTAIN.(BICYCLIST CABLEWAY RAILWAY) USE.(FACE TRAP)
UTH VIE(CAMERA) YAI> RO(#861 LETTER(A BA CHU DA DAI E EA HAI HAO KEAAE KHAI KO LA LAN MAEM MIM NGI
NIN O OL OO PA PHI RI RO SHI TA TEK THEA WA YO)) UCH(#158) ULT<ANI(LETTER(A #504 DDDA #148 E #49 I
JA JJA #48 MA NA #106 #103 #367 #243 #34 U VA YA) SECTION(MARK)) IMAP IPLE(#429)
IPLICATION(SIGN.(IN(DOUBLE(#19) #1187) WITH(DOT(#2) UNDERBAR)) X) ISET.(MULTIPLICATION UNION)>
USHROOM USIC(FLAT(SIGN) NATURAL(SIGN) SHARP(SIGN)) USICAL(KEYBOARD.(WITH(JACKS)) NOTE SCORE
SYMBOL(ARPEGGIATO(#61) BEGIN(BEAM #1188) BRACE BRACKET BREATH(MARK) BREVE BREVIS.(REST) C<AESURA
IRCLE(X(#181)) LIMACUS LIVIS LUSTER(#794) ODA OMBINING(ACCENT.[STACCATO] AUGMENTATION(DOT) BEND
DOIT DOUBLE(TONGUE) DOWN(BOW) FLAG[#115] FLIP HARMONIC LOURE MARCATO.[STACCATO] RIP SMEAR
SNAP(PIZZICATO) SPRECHGESANG(STEM) STACCATISSIMO STACCATO STEM TENUTO TREMOLO[#63] TRIPLE(TONGUE)
UP(BOW)) OMMON(TIME) RESCENDO ROIX UT(TIME)>(CLEF) D<A(CAPO) AL(SEGNO) AMP.(ALL) ASHED(#232)
ECRESCENDO EGREE(SLASH) OUBLE(BARLINE FLAT SHARP) RUM(CLEF[1 2])> EIGHTH(#159) END(BEAM
OF(STIMME) #1188) F<ERMATA.(#1) INAL(#232) INGERED(TREMOLO[#63]) IVE[#319] LAT(#61) ORTE OUR[#796]
USA(#127)>(#795) G(#795) GLISSANDO(#61) GRACE(NOTE(NO(SLASH) SLASH)) GREGORIAN(C(CLEF) F(CLEF))
HALF(NOTE PEDAL(MARK) REST) HAUPTSTIMME INVERTED(TURN) KIEVAN(C(CLEF) EIGHTH(#797) END(OF(PIECE))
FINAL(NOTE) FLAT(SIGN) HALF(NOTE) QUARTER(#797) RECITATIVE(MARK) WHOLE(NOTE)) KORON
LEFT(REPEAT(SIGN)) LONGA.(IMPERFECTA(REST) PERFECTA(REST)) MAXIMA MEZZO MINIMA.(#624) MOON(#794)
MULTI(REST) MULTIPLE(MEASURE(REST)) NATURAL(#61) NEBENSTIMME NOTEHEAD(BLACK) NULL(#181)
ONE(HUNDRED(TWENTY[EIGHTH(#159)]))[#319] ORNAMENT(STROKE[#623]) OTTAVA(#487) P<ARENTHESIS(#181)
EDAL(MARK UP(MARK)) ES(SUBPUNCTIS) IANO LUS(#181) ODATUS ORRECTUS.(FLEXUS)> QUARTER(#159 TONE(FLAT
SHARP)) QUINDICESIMA(#487) REPEAT(DOTS) REPEATED(FIGURE[#63]) REVERSE(FINAL(#232))
RIGHT(REPEAT(SIGN)) RINFORZANDO S<CANDICUS.(FLEXUS) EGNO EMIBREVIS(#624 WHITE) EMIMINIMA(#624
WHITE) HARP(#61) HORT(#232) INGLE(#232) IX[#796] IXTEENTH(#159) IXTY[FOURTH(#159)] ORI QUARE(B
NOTEHEAD(#127)) UBITO> T<EMPUS(IMPERFECTUM(CUM(PROLATIONE(IMPERFECTA.(DIMINUTION[#63]) PERFECTA)))
PERFECTUM(CUM(PROLATIONE(IMPERFECTA PERFECTA.(DIMINUTION[1]))))) HIRTY[SECOND(#159)] HREE[#319]
ORCULUS.(RESUPINUS) R RIANGLE(NOTEHEAD(DOWN(#127) LEFT(#127) RIGHT(#127) UP(BLACK RIGHT(#127)
WHITE)))[ROUND(NOTEHEAD(DOWN(#127)))] URN.(SLASH UP) WO[#319]> VIRGA VOID(#181) WHOLE(#159)
WITH(FINGERNAILS) X(#181) Z)) VS W YANMAR(CONSONANT(SIGN(MEDIAL(HA RA #36) MON(MEDIAL(LA MA NA))
SHAN(MEDIAL(WA)))) DIGIT(#557) LETTER(A AITON(RA) AU #505 E EASTERN(PWO(KAREN(GHWA NNA YWA))) GA
GHA GREAT(SA) HA #189 #47 KHAMTI(#184 #382 #378 HHA JA JHA LLA NA NYA RA SA #34 XA ZA) LA LLA MA
MON(BBA BBE E JHA NGA) NA NGA NNA NNYA NYA O #103 RUMAI(PALAUNG(FA)) SA SGAW(KAREN(SHA)) SHA
SHAN(A #186 #185 FA #49 JHA #47 NA #106 PHA THA ZA) SHWE(PALAUNG(CHA SHA)) SSA TA TAI(LAING(#186
DA #382 FA GA GHA JA JHA LLA #106)) THA #34 #278 WA WESTERN(PWO(KAREN(PWA THA))) YA)
LOGOGRAM(KHAMTI(HM OAY QN)) MODIFIER(LETTER(KHAMTI(#798) SHAN(#798))) SHAN(#559) SIGN(ANUSVARA
ASAT DOT(#1) KHAMTI(TONE[1 3]) LITTLE(#217) PAO(KAREN(TONE)) RUMAI(PALAUNG(TONE[5])) SECTION
SHAN(COUNCIL(EMPHATIC(TONE) TONE[2 3]) SAW TONE[2 3 5 6]) TAI(LAING(TONE[2 5])) #27
WESTERN(PWO(KAREN(TONE[#115])))) SYMBOL(AFOREMENTIONED AITON(EXCLAMATION #38) COMPLETED GENITIVE
LOCATIVE SHAN(EXCLAMATION ONE)) TAI(LAING(#559)) TONE(MARK(SGAW(KAREN(HATHI KE(PHO)))))
VOWEL(SIGN(AA AI AITON(A AI) E.(#2) GEBA(KAREN(I)) I II KAYAH(EE OE U) MON(II O) SGAW(KAREN(EU))
SHAN(AA E.(#2) FINAL(Y)) TALL(AA) #278 WESTERN(PWO(KAREN(EU UE))))))>"

end ClientGen.Text.CharName
