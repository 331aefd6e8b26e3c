/-!
# Names of characters from A to B

A part of the outline of the names of characters, in lines.
-/

namespace ClientGen.Text.CharName

/-- The outline of the names that start with a letter from A to B. -/
def aToB : String :=
"A<BACUS C<CORDION COUNT(OF) K KNOWLEDGE TIVATE(#627) UTE(ACCENT ANGLE)>(CURRENT)
D<DRESSED(TO(THE(SUBJECT))) HESIVE(BANDAGE) I(SHAKTI) LAM(ALIF(#407) CAPITAL(#628)
CONSONANT(MODIFIER) DIGIT(#557) GEMINAT<E(CONSONANT(MODIFIER)) ION(MARK)> HAMZA INITIAL(#922)
NASALIZATION(MARK) NUKTA SMALL(#628) VOWEL(#407)) METOS MISSION(TICKETS) ULT> EGEAN(CHECK(MARK)
DRY(#629) LIQUID(#629) MEASURE(#923) NUMBER(#927) WEIGHT(BASE(UNIT) FIRST(#216) FOURTH(#216) #923)
WORD(SEPARATOR(DOT LINE))) ERIAL(TRAMWAY) FGHANI(SIGN) HOM(CONSONANT(SIGN(MEDIAL(LA LIGATING(RA)
RA))) DIGIT(#557) LETTER(A ALTERNATE(BA GA TA) #505 #49 #360 LLA #187 #361 #34) NUMBER(#349)
SIGN(KILLER RULAI SECTION SMALL(#217)) SYMBOL(VI) VOWEL(SIGN(#254 AM AW #560))) IRPLANE.(ARRIVING
DEPARTURE) KTIESELSKAB L<ARM(CLOCK) CHEMICAL(SYMBOL(FOR(A<IR LEMBIC LKALI.[2] LUM MALGAM
NTIMONY(ORE) QUA(REGIA.[2] VITAE.[2]) QUAFORTIS RSENIC SHES URIPIGMENT> BATH(OF(MARY VAPOURS))
BISMUTH(ORE) BLACK(SULFUR) BORAX.[2 3] BRICK C<ADUCEUS ALX APUT(MORTUUM) INNABAR OPPER(ANTIMONIATE
ORE) ROCUS(OF(COPPER.[2] IRON)) RUCIBLE.[2 3 4 5]> DAY[NIGHT] DISSOLVE.[2] DISTILL EARTH FIRE GOLD
GUM HALF(DRAM OUNCE) HORSE(DUNG) HOUR IRON(ORE.[2])[COPPER(ORE)] LEAD(ORE) LODESTONE MARCASITE
MERCURY(SUBLIMATE.[2 3]) MONTH NIGHT NITRE OIL P<HILOSOPHERS(SULFUR) OT(ASHES) OWDER
OWDERED(BRICK) RECIPITATE URIFY UTREFACTION> QUICK(LIME) QUINTESSENCE REALGAR.[2]
REGULUS.(OF(ANTIMONY.[2] IRON))[2 3 4] RETORT ROCK(SALT.[2]) S<AL[AMMONIAC] ALT.(OF(ANTIMONY
COPPER(ANTIMONIATE))) CEPTER(OF(JOVE)) ILVER OAP PIRIT TARRED(TRIDENT) TRATUM(SUPER(STRATUM.[2]))
UBLIMAT<E(OF(#928 SALT(OF(#928)))) ION> ULFUR> TARTAR.[2] TIN(ORE) TINCTURE TRIDENT TUTTY URINE
VERDIGRIS VINEGAR.(OF(ANTIMONY))[2 3] VITRIOL.[2] WATER WAX))) EF(#0) EMBIC ERT IEN(MONSTER)
L(AROUND[PROFILE] EQUAL(TO)) M MOST(EQUAL(OR(#12) TO.(WITH(#408)))) TERNAT<E(ONE[#409])
IVE(KEY(#0))>> MALGAMATION(OR(COPRODUCT)) MBULANCE MERICAN(FOOTBALL) MPERSAND MPHORA
N<ATOLIAN(HIEROGLYPH(A<0<0<#56> 1<0 0A #56> 2<#23 #156> 3<#218> 4<0 #91 #130 #362> 5<#41>
6<#23 #929> #343 9<#23 #363>> 1<0<0 0A 1 1A 2 #153 4A 4B 4C 5 5A 5B 6 7 7A 7B 7C 8 9> 1<0 0A
0B #384> 2<#270> 3<#270> #865 #561> 2<0<#42 2A 2B 3 4 5 6 #131 9A> 1<#73 #130 #156> 2<#271> #866
6<#271> 7<#41> 8<#218> 9<#202 #70 9A>> 3<0<#218> 1<#41> 2<#218> 3<0 1 2A 2B 2C 3 4 5 6 #929>
4<#41> 5<#218> 6<#202 5 6 #132> 7<#410> 8<0 1 1A 2 3(RA(OR(RI))) 3A 4 5 6 #156> 9<#42
3(EIGHT) #90>> 4<0<#41> 1<0(BEGIN(#630)) 0A(END(#630)) #56> 2<#41> 3<#41> 4<#41> 5<#385 #131>
6<#41> #343 9<#23 7>> 50<#56> 51<#41> 52<#41> 530>)) ATOMICAL(HEART) CHOR D(#28) GER(#0)
GLE.(WITH(S(#116) UNDERBAR)) GRY(FACE) GSTROM(SIGN) GUISHED(FACE) KH T TENNA(WITH(BARS))
TICLOCKWISE(#930 INTEGRATION OPEN(#160) TOP(#631) TRIANGLE[HEADED(BOTTOM(#272) LEFT(#272)
OPEN(#160) RIGHT(#272) TOP(#272))])> P<C L(FUNCTIONAL(SYMBOL(ALPHA.(#117) BACKSLASH(BAR)
CIRCLE(BACKSLASH #931 STAR #932) COMMA(BAR) DEL(DIAERESIS STILE TILDE) DELTA(#932) DIAMOND(#117)
DOWN(CARET(TILDE) SHOE(STILE) TACK(JOT UNDERBAR)) DOWNWARDS(VANE) EPSILON(#117)
GREATER[THAN(#162)] I[BEAM] IOTA.(#117) JOT(DIAERESIS UNDERBAR) LEFT(SHOE(STILE)) LEFTWARDS(VANE)
OMEGA.(#117) QUAD.(BACKSLASH CIRCLE COLON DEL DELTA DIAMOND DIVIDE DOWN(CARET) DOWNWARDS(#3) EQUAL
GREATER[THAN] JOT LEFTWARDS(#3) LESS[THAN] NOT(EQUAL) QUESTION RIGHTWARDS(#3) SLASH UP(CARET)
UPWARDS(#3)) QUOTE(QUAD UNDERBAR) RHO RIGHTWARDS(VANE) SEMICOLON(#117) SLASH(BAR) SQUISH(QUAD)
STAR(#162) STILE(TILDE) TILDE(#162) UP(CARET(TILDE) SHOE(JOT) TACK(#931 OVERBAR)) UPWARDS(VANE)
ZILDE))) OLLON OSTROPHE PLICATION(PROGRAM(COMMAND)) PROACHES(THE(LIMIT))
PROXIMATELY(BUT(NOT(#632)) EQUAL(OR(#12) TO.(OR(THE(IMAGE(OF))))))> QUARIUS
R<ABIC(BASELINE(ROUND(DOT)) COMMA CURLY(DAMMA DAMMATAN FATHA FATHATAN KASRA KASRATAN) D<AMMA.(#133
WITH(DOT)) AMMATAN.(#13) ATE(#29) ECIMAL(#29) ISPUTED(END(OF(AYAH)))
OUBLE(RIGHT(ARROWHEAD(ABOVE.(#28)))) OUBLED(MADDA)> EMPTY(CENTRE(HIGH(STOP) LOW(STOP)))
END(OF(AYAH TEXT(MARK))) FATHA.(#133 WITH(DOT(#2) RING TWO(DOTS))) FATHATAN.(#13) FIVE(#411)
FOOTNOTE(#118) FULL(STOP) HALF(MADDA(OVER(MADDA))) HAMZA(#4) INVERTED(DAMMA) KASRA.(#133
WITH(DOT(#1))) KASRATAN.(#13) LARGE(CIRCLE(#1) ROUND(DOT(#4 INSIDE(#412)))) LEFT(ARROWHEAD(#4))
LETTER(AE AFRICAN(FEH NOON QAF.(WITH(THREE(#18)))) AIN.(#105 WITH(THREE(DOTS(#4
POINTING(DOWNWARDS(#2)))) TWO(#633))) ALEF.(#5 MAKSURA.(#5) WASLA.(#5)
WITH(ATTACHED(BOTTOM(RIGHT(KASRA.(#413))) FATHA KASRA LEFT(#634) RIGHT(#634) ROUND(DOT(#4))
TOP(RIGHT(FATHA.(#413)))) DOT(#2) EXTENDED(#934) HAMZA(ABOVE.(#5) BELOW.(#5)) LEFT(MIDDLE(#6))
MADDA(#414) RIGHT(MIDDLE(STROKE.(#413))) WAVY(HAMZA(#4)))) BEEH.(#105) BEH.(#105
WITH(DOT(BELOW(#415)) #935 SMALL(MEEM(#2) V.(#1)) THREE(DOTS(HORIZONTALLY(#1)
POINTING(UPWARDS(BELOW.(#635))))) TWO(DOTS(BELOW(#274))))) BEHEH.(#105) D<AD.(#636) AHAL.(#5)
AL.(#5 WITH(DOT(BELOW.(#637)) FOUR(#18) INVERTED(SMALL(V(#1)) V) RING THREE(DOTS(ABOVE(#275)
BELOW)) TWO(DOTS(VERTICALLY(BELOW(#637)))))) DAHAL.(#5) DAL.(#5) OTLESS(BEH FEH QAF) UL.(#5)
YEH.(#105)> E.(#105) FARSI(YEH.(#105 WITH(EXTENDED(ARABIC[INDIC(DIGIT(FOUR(#1) #933))])
INVERTED(V) THREE(#18) TWO(#18)))) FEH.(#105 WITH(DOT(BELOW.(#415) MOVED(#1)) THREE(DOTS(BELOW
POINTING(#416))) TWO(#76))) GAF.(#105 WITH(INVERTED(#6) RING #936)) GHAIN.(#105 WITH(DOT(#1)
THREE(#18))) GRAF GUEH.(#105) HAH.(#105 WITH(EXTENDED(ARABIC[INDIC(DIGIT(FOUR(#1)))]) #935
SMALL(ARABIC(LETTER(TAH(ABOVE AND(#417) BELOW)))) THREE(DOTS(ABOVE POINTING(#416))) TWO(DOTS(ABOVE
VERTICAL(#2))))) HAMZA.(#13) HEH.(DOACHASHMEE.(#105) FINAL(FORM) GOAL.(#105 WITH(HAMZA(#2))) #104
WITH(INVERTED(V) YEH(#414))) HIGH(HAMZA.(ALEF WAW YEH)) JEEM.(#105 WITH(#937)) JEH.(#5) KAF.(#105
WITH(DOT(#4) RING THREE(#76) TWO(#18))) KASHMIRI(YEH) KEHEH.(#105 WITH(#938 THREE(DOTS(#4
POINTING(#416))) TWO(DOTS(ABOVE VERTICALLY(#1))))) KHAH.(#105) KIRGHIZ(OE.(#5) YU.(#5)) LAM.(#105
WITH(BAR DOT(#2) DOUBLE(BAR) SMALL(ARABIC(LETTER(TAH(#2))) V) THREE(#94))) LOW(ALEF) MARK
MEEM.(#105 WITH(DOT(#4) THREE(#18))) NG.(#105) NGOEH.(#105) NOON.(FINAL(FORM) GHUNNA.(#5) #104
WITH(DOT(#1) INVERTED(SMALL(V)) RING SMALL(TAH V) #936)) NYEH.(#105) OE.(#5) PEH.(#105
WITH(SMALL(MEEM(#2) V))) PEHEH.(#105) QAF.(#105 WITH(DOT(ABOVE BELOW.(AND(NO(#18)))) THREE(#18)))
REH.(#5 WITH(DOT(BELOW.(#274)) FOUR(#18) HAMZA(#2) INVERTED(V) LOOP RING SMALL(ARABIC(#638)
NOON(#2) V.(#1)) STROKE TWO(#633))) RNOON.(#105) ROHINGYA(YEH) RREH.(#5) SAD.(#105 WITH(THREE(#94)
TWO(#76))) SEEN.(#105 WITH(DOT(BELOW(#274)) EXTENDED(ARABIC[INDIC(DIGIT(FOUR(#2)))]) FOUR(#18)
INVERTED(V) SMALL(ARABIC(#638)) THREE(DOTS(BELOW.(#415))) TWO(DOTS(VERTICALLY(#2))))) SHEEN.(#636)
STRAIGHT(WAW) SUPERSCRIPT(ALEF) SWASH(KAF) T<AH.(#105 WITH(DOT(#1) #937)) CHEH.(#105 WITH(#938))
CHEHEH.(#105) EH.(#386 MARBUTA.(FINAL(FORM) GOAL ISOLATED(FORM)) MEDIAL(FORM) WITH(RING
SMALL(TEH(#2) V) THREE(DOTS(ABOVE(#275))))) EHEH.(#105) HAL.(#5) HEH.(#105) HIN(YEH) TEH.(#105
WITH(SMALL(V))) TEHEH.(#105)> U.(#5 WITH(HAMZA(ABOVE.(#13))))
UIGHUR(KAZAKH(KIRGHIZ(ALEF(MAKSURA(#135))))) VE.(#5) VEH.(#105) WAW.(#5 WITH(DOT(ABOVE
WITHIN) #939 RING TWO(#18))) YEH.(BARREE.(#5 WITH(#939)) #105 WITH(HAMZA(ABOVE.(#105)) SMALL(V)
TAIL THREE(#76) TWO(DOTS(BELOW(AND(DOT(#2) HAMZA(#2) SMALL(NOON(#2)))))))) YU.(#5) ZAH.(#105)
ZAIN.(#5 WITH(INVERTED(V(#2))))) LIGATURE(AIN(WITH(ALEF(#51) JEEM(#276) MEEM(#639) YEH(#5)))
AKBAR(#13) ALAYH<AA(#418) E(#13) I(AS[SALAAM SALAATU(WAS[SALAAM])]) IM(#418) IMAA(#418)>
ALEF(MAKSURA(WITH(SUPERSCRIPT(ALEF(#5)))) WITH(FATHATAN(#5))) ALLAH(#13) AZZA(WA(JALL))
BEH(WITH(#940 #941 KHAH(#420) #942)) BISMILLAH(AR[RAHMAN(AR[RAHEEM])]) DAD(WITH(#943 #944
MEEM(#8) #365)) FEH(WITH(#562 #944 MEEM(#420) YEH(#5))) GHAIN(WITH(ALEF(#51) JEEM(#8) MEEM(#8
WITH(ALEF(#163) #945)) YEH(#5))) HAH(WITH(ALEF(#51) JEEM(#420) MEEM(#640) YEH(#5)))
HEH(WITH(ALEF(MAKSURA(#13)) JEEM(#8) MEEM(#8 WITH(JEEM(#31) MEEM(#31))) SUPERSCRIPT(ALEF(#31))
YEH(#13))) JALLAJALALOUHOU JEEM(WITH(#943 MEEM(#8 WITH(#946 YEH(#30))) YEH(#5)))
KAF(WITH(ALEF(#612) HAH(#8) JEEM(#8) KHAH(#8) LAM(#105) MEEM(#422) YEH(#5))) KHAH(WITH(ALEF(#51)
HAH(#13) JEEM(#8) MEEM(#8) YEH(#5))) LAM(WITH(ALEF(#612 WITH(HAMZA(ABOVE(#5) BELOW(#5))
MADDA(ABOVE(#5)))) HAH(#639) HEH(#31) JEEM(#8 WITH(JEEM(#57) #364)) KHAH(#276) MEEM(#105
WITH(#641)) YEH(#5))) MEEM(WITH(ALEF(FINAL(FORM) MAKSURA(#13)) HAH(#642) JEEM(#8 WITH(HAH(#31)
KHAH(#31) #366)) KHAH(#642) MEEM(#386 WITH(#419)) YEH(#13))) MOHAMMAD(#13) NOON(WITH(ALEF(#51)
HAH(#423) HEH(#135) JEEM(#8 WITH(#946 #364)) KHAH(#8) MEEM(#105 WITH(#421)) #350)) QAF(WITH(#562
MEEM(#8 WITH(HAH(#57) #945)) YEH(#5))) QALA(USED(#643)) QUDDISA(SIRRAH) RADI(ALLAAHU(ANH.<AA UM
UMAA UNNA>)) RAHIMAHU<M(ALLAAH)>(ALLAAH) RASOUL(#13) REH(#644) S<AD(WITH(ALEF(#51) HAH(#8
WITH(#641)) KHAH(#31) MEEM(#276) #365)) ALAAMUHU(ALAYNAA) ALAM(#13) ALLA(ISOLATED(FORM)
USED(#643)) ALLALLA<AHU(ALAYHI(WA[AALIH])) HOU(ALAYHE(WASALLAM))
HU(ALAYHI(WAAALIHEE(WA[SALLAM])))> EEN(WITH(ALEF(#51) HAH(#104 WITH(JEEM(#31))) HEH(#135)
JEEM(#104 WITH(#947)) KHAH(#104 WITH(#421)) MEEM(#104 WITH(HAH(#57) JEEM(#31) MEEM(#57))) #365))
HADDA(WITH(DAMMA(#133) DAMMATAN(#13) FATHA(#133) KASRA(#133) KASRATAN(#13)
SUPERSCRIPT(ALEF(#13)))) HEEN(WITH(ALEF(#51) HAH(#422) HEH(#135) JEEM(#105 WITH(#419)) KHAH(#105)
MEEM(#105 WITH(KHAH(#57) MEEM(#57))) #365)) UBHAANAHU(WA(TAAALAA))> TABAARAKA(WA[TAAALAA])
TAH(WITH(#562 MEEM(#104 WITH(HAH(#57) #366)) YEH(#5))) TEH(WITH(ALEF(#51) HAH(#8 WITH(JEEM(#57)
MEEM(#31))) HEH(#135) JEEM(#423) KHAH(#423) MEEM(#105 WITH(#947 JEEM(#31) KHAH(#31)
YEH(#30))) #350)) THAL(#644) THEH(WITH(ALEF(#51) HEH(MEDIAL(FORM)) JEEM(#13) #942))
UIGHUR(KIRGHIZ(YEH(WITH(HAMZA(ABOVE(WITH(ALEF(MAKSURA(#386))))))))) WASALLAM(#13) YEH(WITH(#940
HAMZA(ABOVE(WITH(AE(#5) ALEF(#612) E(#386) HAH(#8) #941 KHAH(#31) MEEM(#105) NOON(#30) OE(#5)
REH(#30) U(#5) WAW(#5) YEH(#5) YU(#5) ZAIN(#30)))) HEH(#135) JEEM(#420) KHAH(#8) MEEM(#422) #350))
ZAH(WITH(MEEM(#104)))) MA<DDA(WAAJIB) DDAH(#2) RK(NOON(GHUNNA) SIDEWAYS(NOON(GHUNNA)))
THEMATICAL(#564 DOTLESS(BEH FEH #244) DOUBLE[STRUCK(AIN BEH DAD DAL FEH #247 JEEM #948)] FEH #247
INITIAL(AIN BEH DAD #563 KAF #537 #249 TEH THEH YEH) JEEM KAF KHAH LAM LOOPED(#564 #563 #948) MEEM
NOON OPERATOR(HAH(WITH(DAL)) MEEM(WITH(HAH(WITH(TATWEEL))))) QAF REH #249 STRETCHED(AIN BEH DAD
DOTLESS(BEH FEH) #563 KAF KHAH MEEM #244 #249 TAH TEH THEH YEH ZAH) TAH TAILED(AIN DAD
DOTLESS(#244) #247 JEEM KHAH LAM #244 #249 YEH) TEH #538)> NUMBER(MARK(#2) SIGN) OPEN(DAMMATAN
FATHATAN KASRATAN) PERCENT(SIGN) PIASTRE(#424) PLACE(OF(SAJDAH)) POETIC(VERSE(SIGN)) POUND(#424)
QUESTION(MARK) RAISED(ROUND(DOT)) RAY REVERSED(DAMMA) RIGHT(ARROWHEAD(ABOVE.(#28) BELOW))
ROUNDED(HIGH(STOP(WITH(FILLED(CENTRE))))) S<EMICOLON HADDA.(#133) IGN(ALAYHE(ASSALLAM) MISRA
RADI(ALLAHOU(ANHU)) RAHMATULLAH(ALAYHE) SAFHA SALLALLAHOU(ALAYHE(WASSALLAM)) SAMVAT SANAH
SINDHI(AMPERSAND POSTPOSITION(MEN)) TAKHALLUS) MALL(DAMMA FARSI(YEH) FATHA HIGH(AIN
DOTLESS(HEAD(OF(KHAH))) FARSI(YEH) FOOTNOTE(#118) JEEM LAM(ALEF)
LIGATURE(ALEF(WITH(LAM(WITH(YEH)))) QAF(#645) SAD(#645)) MADDA MEEM(#8) NOON.(WITH(KASRA)) QAF
ROUNDED(ZERO) SAD SEEN SIGN(SAFHA) TAH THREE(DOTS) UPRIGHT(RECTANGULAR(ZERO)) WAW WORD(AL[JUZ]
AN[NISF] AR[RUB] AS[SAJDA] ATH[THALATHA] QIF SAH SAKTA WAQFA) YEH.(BARREE(WITH(TWO(#76)))) ZAH
ZAIN) KASRA LOW(MEEM NOON(WITH(KASRA)) SEEN WAW WORD(IMAALA ISHMAAM TASHEEL)) WAW YEH)
TART(OF(RUB(EL(HIZB)))) UBSCRIPT(ALEF) UKUN.(BELOW #133) UPERSCRIPT(ALEF(MOKHASSAS)) YMBOL(DOT(#4)
DOUBLE(VERTICAL(BAR(#1))) FOUR(#94) RING SMALL(TAH(#4)) THREE(DOTS(#4 POINTING(DOWNWARDS(#4))))
TWO(DOTS(#4 VERTICALLY(#4))) WASLA(#2))> TAIL(FRAGMENT) TATWEEL.(WITH(FATHATAN(#2)
OVERSTRUCK(HAMZA WAW) TWO(#76))) THOUSANDS(#29) TONE(LOOP(#4) ONE(DOT(#4)) TWO(#94))
TRIPLE(DOT(PUNCTUATION(MARK))) TURNED(DAMMA(#1)) VERTICAL(TAIL) VOWEL(SIGN(DOT(#1)
INVERTED(SMALL(V(#2))) SMALL(V(#2)))) WAVY(HAMZA(#1)) ZWARAKAY)[INDIC(CUBE(ROOT) DIGIT(#557)
FOURTH(ROOT) PER(MILLE(SIGN) TEN(#646)))] C IES MENIAN(ABBREVIATION(MARK) APOSTROPHE
CAPITAL(LETTER(#949 VEW VO XEH YI YIWN ZA ZHE)) COMMA DRAM(SIGN) EMPHASIS(MARK) #886 HYPHEN
MODIFIER(LETTER(LEFT(#136))) QUESTION(MARK) SMALL(LETTER(#949 TURNED(AYB) VEW VO XEH YI.(#25) YIWN
ZA ZHE) LIGATURE(ECH(YIWN) MEN(ECH INI NOW XEH) VEW(NOW))))
ROW(POINTING(DOWNWARDS(THEN(CURVING(#425))) RIGHTWARDS(THEN(CURVING(DOWNWARDS SOUTH(WEST)
UPWARDS))) UPWARDS(THEN(NORTH(WEST))))) ROWHEAD[SHAPED(POINTER)] TICULATED(LORRY) TIST(PALETTE)>
S<CENDING(NODE) CIA(#0) SERTION TERISK.(#9) TERISM TONISHED(FACE) TRAEA
TRONOMICAL(SYMBOL(FOR(URANUS))) YMPTOTICALLY(#12)> THLETIC(SHOE) TOM(#0) UBERGINE USTRAL(SIGN)
UTO(RICKSHAW) UTOMATED(TELLER(MACHINE)) UTOMOBILE VESTAN(ABBREVIATION(MARK) LETTER(A.<A AN AO E EE
N O> BE BHE CE DE DHE E EE FE GE GGE GHE HE HME I II JE KE LE ME NE NGE NGVE NGYE NNE NYE O OO PE
RE SE SHE SHYE SSHE TE THE TTE U UU VE XE XVE XYE YE YYE ZE ZHE)) VOCADO XE> B<A<BY.(ANGEL BOTTLE
CHICK SYMBOL) CK(OF(#219) WITH(#647))[TILTED(#427)] CKSLANTED(SOUTH(ARROW(WITH(HOOKED(TAIL)
HORIZONTAL(TAIL))))) CKSPACE CON CTRIAN(CAMEL) DGER DMINTON(RACQUET(AND(SHUTTLECOCK))) GEL
GGAGE(CLAIM) GUETTE(BREAD) LINESE(ADEG(ADEG) CARIK(PAMUNGKAH PAREREN SIKI) DIGIT(#557)
LETTER(AIKARA AKARA.(#77) ARCHAIC(JNYA) ASYURA(SASAK) BA.(KEMBANG) CA.(LACA) DA.(MADU
MURDA(ALPAPRANA MAHAPRANA)) EF(SASAK) EKARA GA.(GORA) HA IKARA.(#77) JA.(JERA) KA.(#164)
KAF(SASAK) KHOT(SASAK) LA.(LENGA.(#77)) MA NA.(RAMBAT) NGA NYA OKARA.(#77) PA.(KAPAL)
RA.(REPA.(#77)) SA.(SAGA SAPA) TA.(LATIK MURDA(#164) TAWA) TZIR(SASAK) UKARA.(#77) VE(SASAK) #36
ZAL(SASAK)) MUSICAL(SYMBOL(COMBINING(BENDE ENDEP GONG JEGOGAN KEMPLI.(#648) KEMPUL.(#648) TEGEH)
D<AENG AING ANG.(GEDE SURANG) ENG EUNG ING ONG UNG> LEFT[HAND(CLOSED(PLAK PLUK) OPEN(PANG PING
PUNG))] RIGHT[HAND(CLOSED(TAK TUK) OPEN(DAG DUG))])) PAMADA.(LANTANG) PAMENENG PANTI.(LANTANG)
SIGN(BISAH CECEK REREKAN SURANG ULU(CANDRA RICEM)) VOWEL(SIGN(LA(LENGA.(#77)) PEPET.(#77)
RA(REPA.(#77)) SUKU.(ILUT) TALING.(REPA.(#77) TEDUNG) TEDUNG ULU.(SARI))) WINDU) LL(OF(YARN))
LLET(SHOES) LLOON.[#79] LLOT(BOLD(SCRIPT(X)) BOX.(WITH(BALLOT BOLD(CHECK SCRIPT(X)) CHECK LIGHT(X)
SCRIPT(X) X)) SCRIPT(X) X) MUM(COLON COMBINING(MARK(KOQNDON TUKWENTIS)) #43 LETTER(A EE FAAMAE FEE
FOM FU I K<A EN ET EUX I O OGHOM OVUU PA U YEE> LA LEEEE LI LOQ LU M.<A BAA BEN EEEE EN #37> N<A
DAA GA #950 JEE JUAE SHA TEE TUU U UAE YI> O P<A EE EUX HASE[A(FIRI GBIEE(FON) GHEUAEGHEUAE
GHEUAERAE KAFA KAQ KET KEUKEUTNDA KPOQ KUOQ LAPAQ LET(KUT) LOMMAE LU LUAEP M<AE<KEUP M MBGBIEE
MKPEN MVEUX NYI SI> ANSUAE AP(PIEET) BANYI BAQ EUNJOMNDEUQ GBASA ON(NGGEUAET) OOMEUT OOMPUQ
VEUAENGAM> N<AA(MFON) AQ DA(LEERAEWA) DAANGGEUAET EN GANGU GGEN GKUE(MFON) GKUENZEUM IKA JAM
KAARAE KINDI SHA SHIEE TAP.(MFAA NTAA) TOQPEN YET YI YIT(MONGKEUAEQ) ZA(MFON) ZUN(MEUT)>
P<A(LEERAEWA) AAM AARAE AMSHAE ASHAE ET ON(MFON(#649) PA(NJI(#649))) UP> ROM S<EUNYAM
HINDA(PA(NJI)) HIRAE HOQ(NSHUT(YUM)) HUENSHUET HUM ISA ONJAM OQ OT UU> TEUAEN TEUTEUWEN TITA(MFON)
TU(MAEMBA) TUAEP U(YUQ(NAE)) UNKNOWN VEE) B(FEE FEUX GHEUGHE<N UAEM> KAM KEUAEM KEUPUQ KEUYEUX
KIEEM KIQ LAANAE LAM(NSHUT(NYAM)) LET LOM(NTEUM) M<A.(NJEUAENA NJUQA) BA(MAELEE) BAARAE BEURI
BIT(MBAAKET) BUOQ EUQ EUT(NGGEET) FIYAQ FON(TEUAEQ) ONTIEEN> N<DU(NJAA) GGAAM GGEU(MBU)
GGUOQ.(LARGE) GKINDI(MVOP) GOM SEN SHUET TIEE(SHEUOQ) YAEMAE YI(NTEUM)> PARUM PEESHI PIT PUNGAAM
SAKEUAE SET(TU) SHET(NJAQ) SHEUAEQTU SIEE SUE TAAM TU(MAEMGBIEE NSIEE) VEUM WUAET YAFU(LEERAEWA)
YEURAE) C(BUNG FUE GBAYI GHAP GHARAE K<AA EN(FATIGUE LAW) ET EUKAQ EUM EUSEUX EUSHEUAEP PARAQ
UOP(NKAARAE) UT> LAM LAP LIQ LU M<A(KEUAERI NSIEE) AEMBA AESI B<AA(CABBAGE[TREE] PICKET) ANYI
EEKEET ERAE EUM EUX I IRIEEN IT UAEM UE> GBASAQ IEE UAE> N<ANSANAQ AQ DAM DAP DEUAEREE DEUT DIDA
DOMBU G<AQ GEN GU GUAEN(NYAM) GUEET GUM GUON KAQ KUE(MAEMBA) OM> JAEM JAM JEEEE JEUX JUEQ SA
SEUAEN SHAQ SOM SUN SUOT(NGOM) TAA TEN TEUNGBA TU(MBIT) YIR(MKPARAQ(MEUN)) ZA ZEUM> PEN PIN
PIRIEEN RU SETFON SEUX SHIQ SHUEQ SUAET TAASHAE TET TEUTEUX TITA(YUE) TITUAEP VEUAEPEN VEUX
WANGKUOQ WUP YAA YEUQ YU(MUOMAE) YUM YUWOQ) D(FAA FEUFEUAET GHAA GHEUAE K<ET EUAETMEUN EUM
EUOT(MBUAE) EUP U UN UOM UQ WAET YEE> L<EEEE ET EUAEP EUM IEE OQ UM> M.<AENJET ALEERI BAA.(SEVEN)
BUO EEEE EUN EUT FEUAE FEUT FIEE FO FON GBEUN GBIEE GBOFUM ONI U VOP> N<DAM DEE DEUX DON G<GAAM
GAAMAE GAP GEUX GUOM GWAEN KAP KEUAEQ KEURI KIEE KUN KYEE> I JAP JEUAEM JEUT JI JIEE JUEQ SHEE
SHUT SIEEP SIEET SUM TEE TEUM TUU U YAM YET YI YUE> PAP PEE PEUTAE PIP PUQ PUUT RAEM REN(MUCH OLD)
RII S<AP AQ EUAEQ HEE HEUAE HEUX HII HOQ HU OT UAE UE UU> T<AE EEEE EUAEN EUN EUT I OQ U UOT> WAP
WUAEN YAEMMAE YEN YUOM YUOP YUWOQ) E(A F<A AQ EE OM U(CALL I REMEDY) UE UET> G<BET BEUX HAAMAE HET
HEUAE HEUN HEUX HOM> I K<ET EUAE EUX I O PEUX UET UOP UT> L<AAM AP AQ EUAEM OM OON OOT OQ U> M<A
AE AEM AP AQ BEE BEUM EN FEUQ GBA GBEN I IEE ON UAE VI> N<A AE DAA(MY(HOUSE) SOFTNESS) DAP DIAQ
DIQ DUN G<A EUREUT GEEEE GEUAE GEUAET GUAESHAE(NYAM) GUP GURAE KA KAAMI KEUAEM KEUX KUM KUP OP OQ
UAE UAET> JAEMLI JEE.(EPOCH) JEUX KOM SHIEE SHUE SHUOP TAP TUM YI(BETWEEN CLEAVER) ZAQ ZUQ> O
P<A(PEOPLE PLURAL) AA AAM EEM EUT EUX I IEEQ IET O OON U UAE UAQ UE UM> RAE RAQ REUX RIMGBA S<AA
EE ET HEUAEQ HIQ HO HOQ OM UAEN> T<AA AAQ AEN(NTEUM) AM AQ EN EU EUAEQ OO OON OQ UAE UM UMAE> VEE
VEUAE VOM WEUX WUE WUO Y<AP EU<AE AET M X> IEE IT OQ(COVER SWIMMING) UAEN UEQ UN UQ>) F(EE FOM K<A
EN ET O PA U YEE> LA LI LOQ M MA MBAA MBEN MEEEE MO N<DAA #950 JUAE SHA TEE U UAE YI> PEE PEUX
PUAE REE REN REUX RIEE RII RU S<AMBA EUX HII HO HU I UU> TAA TAE TET U VUEQ WA WUE YA YOQ)] I UAE
UE> R<AE EE EN EUX IEE II U> S<AMBA EUX HEUX HII HO HU I UU> TAA TAE TEN TET TI U WA WUE YA YOQ
YUQ) NJAEMLI QUESTION(MARK) SEMICOLON) NANA NJO NK NKNOTE(WITH(DOLLAR(SIGN) EURO(SIGN) POUND(SIGN)
YEN(SIGN))) R(CHART OF(SOAP)) RBER(POLE) SEBALL SKET SKETBALL(AND(HOOP))
SSA(VAH(COMBINING(HIGH(TONE)[LOW(TONE)] LOW(TONE)[MID(TONE)] MID(TONE)) FULL(STOP) LETTER(A BA CE
DHII DO E EE ENNI FA GAH GBU HWAH I JO KA KPAH MBE O OO PA SE TO U UWU VU WA WADDA YEIN YIE ZO)))
T TAK(CONSONANT(SIGN(H NG)) LETTER(#527 I JA KARO(BA) LA MA MANDAILING(HA NA SA) #951 NORTHERN(TA)
NYA PA PAKPAK(WA) RA SA SIMALUNGUN(A GA HA LA MA PA RA SA #36) SOUTHERN(TA) #200) PANGOLAT
PANONGONAN SIGN(TOMPI) SYMBOL(BINDU(JUDUL NA(METEK) PANGOLAT PINARBORAS)) VOWEL(SIGN(E EE I KARO(I
O) O PAKPAK(E) U.(FOR(SIMALUNGUN(SA)))))) TH THTUB TTERY> E<A<CH(WITH(UMBRELLA))
MED(ASCENDING(#429) DESCENDING(#429) EIGHTH(NOTES) SIXTEENTH(NOTES)) NS R(FACE) RDED(PERSON)
TING(HEART) VER> CAUSE D ER(MUG) ETLE L LL.(PEPPER SYMBOL WITH(CANCELLATION(#6))) LLHOP(BELL)
NGALI(#954 AU(#95) CURRENCY(DENOMINATOR(SIXTEEN) NUMERATOR(FOUR
ONE.(LESS(THAN(THE(DENOMINATOR)))) #72)) DIGIT(#557) GANDA(MARK) ISSHAR LETTER(#952 #47 KHANDA(TA)
LA #188 #69 RA.(WITH(LOWER(#165) MIDDLE(#165))) #367 #128 #953 #279 YYA) RUPEE(MARK SIGN)
SANDHI(MARK) SIGN(#510 #387) VOWEL(#280)) NT(#650) NTO(BOX) NZENE(RING.(WITH(#19))) T(#0) TWEEN
VERAGE(BOX)> HAIKSUKI(#861 GAP(FILLER[1 2]) HUNDREDS(UNIT(MARK)) LETTER(#565 #524 VOCALIC(L R RR)
YA) NUMBER(#955 #566 NINETY #240 #956) SIGN(#510 #27) VOWEL(SIGN(#263 VOCALIC(L R RR))) WORD(#29))
I<CYCLE CYCLIST G(REVERSE(#166) SOLIDUS) KINI LLED(CAP) LLIARDS OHAZARD(SIGN) RD RTHDAY(CAKE) SON
TCOIN(SIGN) TING(LIP)> L<ACK(BOWTIE CENTRE(WHITE(STAR)) CHESS(#959) CIRCLE.(FOR(RECORD)
WITH(DOWN(#3) TWO(WHITE(DOTS)) WHITE(DOT(#33)))) CLUB(SUIT) CROSS(ON(SHIELD))
CURVED(DOWNWARDS(AND(#281)) LEFTWARDS(#652) RIGHTWARDS(#652) UPWARDS(AND(#281))) DIAMOND.(CENTRED
MINUS(WHITE(X)) ON(#15) SUIT WITH(DOWN(#3))) DOWN(#653)[#654] DOWNWARDS(#167) DRAUGHTS(KING MAN)
DROPLET FLAG FLORETTE FOLDER FOUR(#411) #964 #965 LARGE(#58) LEFT(#655)[POINTING(#960 #567)]
LEFTWARDS(#961) LOWER(#656) LOZENGE MEDIUM(DIAMOND DOWN[#282] LEFT[#282] LOZENGE RIGHT[#282]
SMALL(#569) SQUARE UP[#282]) MOON(LILITH) NIB OCTAGON #966 PUSHPIN #967 RIGHT(#614)[POINTING(#960
PENTAGON POINTER SMALL(#24) TRIANGLE.(WITH(DOUBLE(#168))))] RIGHTWARDS(#962 #961) ROSETTE
S<AFETY(SCISSORS) CISSORS HOGI(PIECE) KULL(#657) LIGHTLY(SMALL(#58)) MALL(#568 #570) MILING(FACE)
NOWMAN PADE(SUIT) QUARE.(BUTTON CENTRED FOR(STOP)) TAR UN(WITH(RAYS))> TELEPHONE TINY(#569)
TOUCHTONE(TELEPHONE) TRUCK TWO[#409] UNIVERSAL(#658) UP(#653)[#654] UPPER(#656) UPWARDS(#167)
VERTICAL(#963) VERY(SMALL(#569)))[FEATHERED(#659) LETTER(CAPITAL(C H I R Z))] ANK(#0)
OCK(SEXTANT[1.<2.<3 34 345 346 35 356 36 #264> 3 34 345 3456 346 356 36 #264> 2.<3.<#264> 4 45 456
5 56 6> 3.<#264> #264]) OSSOM OWFISH UE(#615) UEBERRIES> O<AR LD(EIGHT(#79) #968) M MB NE OK
OKMARK.(TABS) OKS OMERANG POMOFO(FINAL(LETTER(G H K P T)) LETTER(A.<H I INN M N NG NN U UNN> B BU
C CH D E.<E H I N NG NN R> F G GH GN GU GW H I IH IM INN INNN IR IU J JI K KW L LH M N NG NGG NN
O.<E M NG NN O U>(#283) P Q R S SH T U UNN V X Z ZH ZI ZY)) TTLE(WITH(POPPING(CORK)))
TTOM(ARC(#433) CURLY(#7) HALF(#969) #970 SQUARE(BRACKET.(OVER(TOP(SQUARE(#7))))) TORTOISE(#170))
UQUET.(OF(FLOWERS)) W(AND(#3)) WL(OF(HYGIEIA) WITH(SPOON)) WLING WTIE.(#617)
X(DRAWINGS(DOUBLE(DOWN(#972) HORIZONTAL UP(#972) VERTICAL.(#972)) DOWN(DOUBLE(#434)
HEAVY(AND(HORIZONTAL(#20) LEFT(#661) RIGHT(#661) UP(#662))) LIGHT(AND(HORIZONTAL(#65) LEFT(#663)
RIGHT(#663) UP(#664))) SINGLE(#435)) HEAVY(#973 HORIZONTAL LEFT.(AND(LIGHT(#33))) #974
UP.(AND(HORIZONTAL LEFT LIGHT(DOWN) RIGHT)) VERTICAL.(#972)) LEFT(DOWN(HEAVY(AND(RIGHT(UP(#20)))))
HEAVY(AND(RIGHT(#665))) LIGHT(AND(RIGHT(#666))) UP(HEAVY(AND(RIGHT(DOWN(#20))))))
LIGHT(ARC(DOWN(#284) UP(#284)) DIAGONAL(#975 MIDDLE(LEFT(TO(LOWER(#667)
UPPER(CENTRE(TO(MIDDLE(RIGHT.(#285))))))) RIGHT(TO(LOWER(CENTRE) UPPER(CENTRE(TO(#668))))))
UPPER(CENTRE(TO(MIDDLE(LEFT.(AND(MIDDLE(RIGHT(#285))) TO(LOWER(#667))) RIGHT.(AND(#668)
TO(LOWER(CENTRE.(TO(MIDDLE(LEFT))))))))) LEFT(TO(#437)) RIGHT(TO(LOWER(LEFT))))) #973
HORIZONTAL.(WITH(#120)) LEFT.(AND(HEAVY(#33))) #974 UP.(AND(HEAVY(DOWN) #971)) VERTICAL.(#972))
RIGHT(DOWN(HEAVY(AND(LEFT(UP(#20))))) HEAVY(AND(LEFT(#665))) LIGHT(AND(LEFT(#666)))
UP(HEAVY(AND(LEFT(DOWN(#20)))))) UP(DOUBLE(#434) HEAVY(AND(DOWN(#662) HORIZONTAL(#20) LEFT(#669)
RIGHT(#669))) LIGHT(AND(DOWN(#664) HORIZONTAL(#65) LEFT(#670) RIGHT(#670))) SINGLE(#435))
VERTICAL(DOUBLE(#434) HEAVY(AND(HORIZONTAL(#20) LEFT(#20) RIGHT(#20))) LIGHT(AND(HORIZONTAL(#65)
LEFT(#65) RIGHT(#65))) SINGLE(#435)))) XING(GLOVE) Y YS(#0)> PH R<AHMI(#861 LETTER(#518
OLD(TAMIL(#201 NNNA RRA SHORT(E O))) #525) NUMBER(#955 FOUR JOINER NINE NINETY #976 #956)
PUNCTUATION(CRESCENT(BAR) DOT DOUBLE(DOT) LINE LOTUS) SIGN(#154 JIHVAMULIYA
OLD(TAMIL(VIRAMA)) #977) VIRAMA VOWEL(SIGN(#129 BHATTIPROLU(AA) #107 OLD(TAMIL(SHORT(E
O))) #278))) AILLE(PATTERN(BLANK DOTS[1.<#978> #978])) AIN EAD EAK(PERMITTED(HERE)) EAST[FEEDING]
EVE ICK IDE(WITH(VEIL)) IDGE(AT(NIGHT)) IEFCASE IEFS OCCOLI OKEN(BAR CIRCLE(WITH(NORTHWEST(#3)))
HEART) OOM OWN(HEART)> S U<BBLE(TEA) BBLES CKET G GINESE(END(OF(#217)) LETTER(#527 #255 MA MPA NA
NGA NGKA NRA NYA NYCA #250 VA YA) PALLAWA VOWEL(SIGN(AE E #37))) HID(LETTER(#388 #618)
VOWEL(#286)) ILDING(CONSTRUCTION) LLET.(#9) LLHORN.(WITH(SOUND(WAVES))) LLSEYE RRITO S.(STOP)
ST(#438) STS(#438) TTER TTERFLY> YTE(ORDER(MARK)) YZANTINE(MUSICAL(SYMBOL(A<GOGI(ARGI ARGOTERI
GORGI GORGOTERI MESI METRIA POLI(ARGI GORGI)) NATRICHISMA NTIKENO<KYLISMA MA> PESO(EKFONITIKON
EXO(NEO)) PLI PODERMA(#93) POSTROFO<I(SYNDESMOS(NEO) TELOUS(ICHIMATOS)) S.(DIPLI NEO)> POTHEMA
RGON RGOSYNTHETON RKTIKO(DI GA KE NI PA VOU ZO)> CH<AMILI AMILON OREVMA(#93) ROA(KLITON SPATHI
ZYGOS)> DASEIA DI<ARGON ASTOLI(APLI(MEGALI MIKRI) DIPLI THESEOS) ESIS(#979 TETARTIMORION #980)
FTOGGOS(OU) GORGON.(PARESTIGMENON(ARISTERA(#212) DEXIA)) GRAMMA(GG) PLI.(ARCHAION)> DYO
E<KSTREPTON LAFRON NARXIS(KAI(FTHORA(VOU))) NDOFONON PEGERMA TERON(ARGOSYNTHETON PARAKALESMA)
XO(EKFONITIKON)> FANEROSIS(#981 TETRAFONIAS) FHTORA(SKLIRON(CHROMA(VASIS)))
FTHORA(ARCHAION.(DEYTEROU(ICHOU)) DIATONIKI(DI KE NANA NI(#212) PA ZO) ENARMONIOS(ANTIFONIA)
I(YFESIS(TETARTIMORION)) MALAKON(CHROMA(#981)) NAOS(#66) NENANO SKLIRON(CHROMA(SYNAFI VASIS)
DIATONON(DI))) GENIKI(DIESIS YFESIS) GORGON(ARCHAION NEO(#212) PARESTIGMENON(ARISTERA DEXIA))
GORGOSYNTHETON GORTHMIKON(N(APLOUN DIPLOUN)) GRONTHISMATA ICHADIN IMI<DIARGON FONON FTHORA
FTHORON> ISAKIA(TELOUS(ICHIMATOS)) ISON(#93) K<ATAVA(TROMIKON) ATAVASMA ATHISTI
ENTIMA<TA.(#671)>(#671) LASMA.(#212) ONTEVMA.(ALLO) ORONIS OUFISMA RATIM<A(ALLO #93) ATA OKOUFISMA
OYPORROON> REMASTI YLISMA> LEIMMA(DYO(CHRONON) ENOS(CHRONOU) IMISEOS(CHRONOU) TESSARON(CHRONON)
TRION(CHRONON)) LEMOI LYGISMA MARTYRIA(ALLI(DEYTEROS(#66) PROTOS(#66)) DEYTEROS(#66) LEGETOS(#66)
PLAGIOS(ICHOS TETARTOS(#66)) PROTOS(#66) PROTOVARYS(#66) TETARTOS(ICHOS LEGETOS(#66)) TRIFONIAS
TRITOS(#66) VARYS(#66)) MIKRON(ISON) NANA OLIGON(#93) OMALON OXEIA(#672) OXEIAI(ARCHAION)
OYRANISMA(#93) P<ARAKALESMA(#93) ARAKLITIKI.(#93) ARICHON ELASTON.(NEO) ERISPOMENI ETAS<MA TI
TOKOUFISMA> IASMA(#93) SIFISTO<LYGISMA N.(NEO) PARAKALESMA SYNAGMA> SILI SILON> RAPISMA REVMA
S<AXIMATA EISMA.(NEO) IMANSIS(ARSEOS.(#673) THESEOS.(#673)) TAVROS.(APODEXIA) TIGMA TRAGGISMATA
YNAGMA(ARCHAION META(STAVROU) NEO) YNEVMA YRMA YRMATIKI> T<ELEIA ESSERA ETRAPLI HEMA.(APLOUN)
HEMATISMOS(ESO EXO) HES(KAI(APOTHES)) HITA INAGMA RIA RIGORGON RIPLI ROMIKO<LYGISMA N(ALLO #93)
PARAKALESMA PSIFISTON SYNAGMA>> VAREIA(#672) VAREIAI(ARCHAION) VATHY XIRON(KLASMA) YFEN(#212)
YFESIS(#979 #980) YPOKRISIS.(DIPLI) YPORROI YPSILI)))>"

end ClientGen.Text.CharName
