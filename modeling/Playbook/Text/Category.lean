/-
  The general category of a character, as the Unicode character database assigns it. Two editions
  of the database are in use: patterns and placeholders classify characters by the sixteenth,
  quoted text and names by the seventeenth. The later one adds characters and takes one letter
  for caseless that the earlier one takes for a small letter.
-/
import Playbook.Text.CharSet

namespace Playbook.Text

/-- An edition of the character database. -/
inductive Edition where
  | sixteenth
  | seventeenth
  deriving Repr, DecidableEq

/-- The general categories. -/
inductive Category where
  | uppercaseLetter
  | lowercaseLetter
  | titlecaseLetter
  | modifierLetter
  | otherLetter
  | nonspacingMark
  | spacingMark
  | enclosingMark
  | decimalNumber
  | letterNumber
  | otherNumber
  | connectorPunctuation
  | dashPunctuation
  | openPunctuation
  | closePunctuation
  | initialPunctuation
  | finalPunctuation
  | otherPunctuation
  | mathSymbol
  | currencySymbol
  | modifierSymbol
  | otherSymbol
  | spaceSeparator
  | lineSeparator
  | paragraphSeparator
  | control
  | format
  | surrogate
  | privateUse
  | unassigned
  deriving Repr, DecidableEq

namespace Category

/-- Every category, in the order in which the table counts them. -/
def all : List Category :=
  [uppercaseLetter, lowercaseLetter, titlecaseLetter, modifierLetter, otherLetter,
    nonspacingMark, spacingMark, enclosingMark, decimalNumber, letterNumber, otherNumber,
    connectorPunctuation, dashPunctuation, openPunctuation, closePunctuation,
    initialPunctuation, finalPunctuation, otherPunctuation, mathSymbol, currencySymbol,
    modifierSymbol, otherSymbol, spaceSeparator, lineSeparator, paragraphSeparator, control,
    format, surrogate, privateUse, unassigned]

def letters : List Category :=
  [uppercaseLetter, lowercaseLetter, titlecaseLetter, modifierLetter, otherLetter]

def marks : List Category := [nonspacingMark, spacingMark, enclosingMark]

def numbers : List Category := [decimalNumber, letterNumber, otherNumber]

def punctuation : List Category :=
  [connectorPunctuation, dashPunctuation, openPunctuation, closePunctuation, initialPunctuation,
    finalPunctuation, otherPunctuation]

def symbols : List Category := [mathSymbol, currencySymbol, modifierSymbol, otherSymbol]

def separators : List Category := [spaceSeparator, lineSeparator, paragraphSeparator]

/-- What is no letter, mark, number, punctuation, symbol or separator. -/
def others : List Category := [control, format, surrogate, privateUse, unassigned]

end Category

/-- The categories of all code points in order, by the seventeenth edition: how many in a row have
a category, and the place of that category in the list of all. -/
def categoryTable : String :=
  String.join [
    "wp1m3h1j3h1d1e1h1i1h1c2ha82h3i2hq01d1h1e1k1b1kq11d1i1e1ixp1m1h4j1l1h1k1l141f1i1q1l1k1l1i2a1",
    "k112h1k1a141g3a1hn01i70o11i8110111011101110111011101110111011101110111011101110111011101110",
    "1110111011101110111011101110111011101110111011102110111011101110111011101110111021101110111",
    "0111011101110111011101110111011101110111011101110111011101110111011101110111011101120111011",
    "1031201110112011302140112011303120112011101110112011102110112011301110112021141031441012111",
    "0121110121110111011101110111011101110111021101110111011101110111011101110111021101211101130",
    "1110111011101110111011101110111011101110111011101110111011101110111011101110111011101110111",
    "011101110111011101110111071201120211011401110111011101110Bx124q1i34kc3ek537k131k13hkD451011",
    "1011131k10112t13311h104t2k101h301t101t2011h01t90z110213031101110111011101110111011101110111",
    "01110111011105110111i10112021Bf0Bc110111011101110111011101110111011101110111011101110111011",
    "1011101110111l55271011101110111011101110111011101110111011101110111011101110111011101110111",
    "0111011101110111011101110111011101120111011101110111011101110211011101110111011101110111011",
    "1011101110111011101110111011101110111011101110111011101110111011101110111011101110111011101",
    "11011101110111011101110111011101110111011101110111011101110111011101110111tB202t136hB511h1c",
    "2t2l1j1tB951c151h251h251h158tr44t442hbt6q3i2h1j2h2lb51h1q3hw413a4l5a84h2415Cr41h14751q1l652",
    "3251l4524a8342l14eh1t1q1415u4r52tCh4b514eta8x495231l3h132t152jm4451395133513552tfh1tp4352t1",
    "h1tb45to41k742q5t95B5413o51qw516Bi41516151436854615261475a4252ha81h13f415261t842t242tm41t74",
    "1t143t442t151436452t262t2615148t164t241t34252ta8242j6a1l1j141h152t25161t644t242tm41t741t241",
    "t241t242t151t36254t252t353t157t441t147ta82534151hat25161t941t341tm41t741t241t542t151436551t",
    "25161t26152t14ft24252ta81h1j7t14651t15261t842t242tm41t741t241t542t1514161516452t262t26157t2",
    "5164t241t34252ta81l146aat15141t643t341t443t241t141t243t243t343tc44t2615263t361t36152t146t16",
    "eta83a6l1j1l5t153615841t341tn41tg42t151435461t351t457t251t341t242t24252ta87t1h7a1l1415261h8",
    "41t341tn41ta41t542t15141615561t15261t26257t265t341t24252ta81t2416ct2526941t341tB54251436451",
    "t361t3615141l4t34167a34252ta89a1l641t15261ti43to41t941t142t743t154t36351t151t866ta82t261hct",
    "Bc41524754t1j6413851ha82hB1t241t141t541to41t141ta4152495142t541t131t751ta82t44wt143lfh1l1h3",
    "l256la8aa1l151l151l151d1e1d1e26841tB044te516551h2554b51tB051t8l156l1t2l5h4l2hB1tB7426451665",
    "1625262514a86h6426254435143624763445d415262566151416a836152lB201t105t102tB711h1331J541t442t",
    "741t141t442tB541t442tx41t442t741t141t442tf41tBl41t442tBv42t359hka3tg4al6tCe02t612t1cR841l1h",
    "h41mq41d1e3tC343h39847ti435169tj425162h9ti425ctd41t341t25ctBg4251675861526b53h133h1j14152ta",
    "86taa6t6h1c4h351q15a86tz413Bh47t5425y415145tBy4atv41t354625364t261566354t1l3t2ha8u42t54btB8",
    "44tq46ta81a3tyln42526152t2hBh4161516751t151615268566a52t15a86ta86t7h136h2te517v52tc5kt4516B",
    "b41516551615561526841t2ha87hal959l3h2516u416452625163524a8B8415162536151635268t4hB048685262",
    "53t5ha83t34a8u4632h9110115tB702t308h8t351hd5167544156415241625145tB81Br3d113y1B13Bs51011101",
    "1101110111011101110111011101110111011101110111011101110111011101110111011101110111011101110",
    "1110111011101110111011101110111011101110111011101110111011101110111011101110111011101110111",
    "0111011101110111011101110111011101110111011101110111011101110111011101110111011101110111011",
    "1011101110111011109110111011101110111011101110111011101110111011101110111011101110111011101",
    "1101110111011101110111011101110111011101110111011101110111011101110111011101110111011101110",
    "111011101110111011101110111011109180612t602t81808180612t602t811t101t101t101t108180e12t81828",
    "1828182511t2140121k113k311t2140123k412t21401t3k81503k2t311t2140122k1tbm5q6c2h1f1g1d2f1g1d1f",
    "8h1n1o5q1m9h1f1g4h2b3h1i1d1ebh1i1h1bah1m5q1taq1a132t6a3i1d1e13aa3i1d1e1td33tyjetd5471537c5f",
    "t2l104l102l11302130111l102l1i506l101l101l101l401l11401144112l21205i10411l1i2l111lgaz9101149",
    "1a2l4t5i5l2i4l1i2l1i2l1i7l1ivl2i2l1i1l1ivlHgi8l1d1e1d1ekl2i7l1d1eC9l1iulpiB4l6iC0lmtblltBoa",
    "C6lmaF3l1i9l1iBil8iD3l1iGwl1d1e1d1e1d1e1d1e1d1e1d1e1d1euaB8l5i1d1evi1d1e1d1e1d1e1d1e1d1egiH",
    "4lDni1d1e1d1e1d1e1d1e1d1e1d1e1d1e1d1e1d1e1d1e1d1eBri1d1e1d1ewi1d1eH6iBclli2l6iB3l2tDulBc0Bc",
    "1101130211011101110114011102110612330111011101110111011101110111011101110111011101110111011",
    "1011101110111011101110111011101110111011101110111011101110111011101110111011101110111011101",
    "110111011101110111011101110111011101110111011101110216l101110113510115t4h1a2hB211t115t112tB",
    "k47t131het15n49t741t741t741t741t741t741t741t741tw52h1f1g1f1g3h1f1g1h1f1g9h1c2h1c1h1f1g2h1f1",
    "g1d1e1d1e1d1e1d1e5h13ah2c4h1c1h1ddh2l3h1d1e1d1e1d1e1d1e1cytql1tChlctFylqtgl1m3h1l1314191d1e",
    "1d1e1d1e1d1e1d1e2l1d1e1d1e1d1e1d1e1c1d2e1l9945261c532l3913141h2l1tCe42t252k23141cCi41h33145",
    "tB741tCm41t2l4aalw4B2l9t1lg4vl1taaul8a1lfawlaaB3lfaIwlHB44BslWLp413BFr43tBjl9tB44632hHg4133",
    "hg4a824kt1011101110111011101110111011101110111011101110111011101110111011101110111011101110",
    "11101110111415371ha51h13101110111011101110111011101110111011101110111011101110112325By4a925",
    "6h8tnk932k101110111011101110111011103110111011101110111011101110111011101110111011101110111",
    "0111011101110111011101110111011101110111011101110111011101110111011101113811011101120111011",
    "101110111011132k101110111410111031101110111011101110111011101110111011101150115011101110111",
    "0111011101110111011401110112011101110111011101110111011101110kt431011142311741534154415n426",
    "25164l153t6a2l1j1l6tBg44h8t26Be4g6258t2ha86ti5643h141h2415a8s4852hn4b526bt1ht43t3516Bb41526",
    "45262536dh1t13a84t2h54151394a8541tB5465262526259t34158415162ta82t4hg413643l14161516Be415143",
    "524255425141514ot24132hb41625262h14231615at642t642t649t741t741tB711k4391132k4tC81z426152615",
    "261h16152ta86tLYc4ctn44tBd44tCEwrGVssK642tCy4B2t71ct515t1415a41id41t541t141t241t241tD04hkgl",
    "K341e1dglBs42lBi48lwtc41j3lg57h1d1e1h6tg51h2c2b1d1e1d1e1d1e1d1e1d1e1d1e1d1e1d1e2h1d1e4h3b3h",
    "1t4h1c1d1e1d1e1d1e3h1i1c3i1t1h1j2h4t541tDr42t1q1t3h1j3h1d1e1h1i1h1c2ha82h3i2hq01d1h1e1k1b1k",
    "q11d1i1e1i1d1e1h1d1e2ha413B9423v43t642t642t642t343t2j1i1k1l2j1t1l4i2lat3q2l2tc41tq41tj41t24",
    "1tf42te4ytDf45t3h4tB9a3t9lBh94ahl2a3l1tdl3t1lBbtB9l15Dmtt43tBd4ft15ra4tw44a9tk41984195tB245",
    "55tu41t1hB044t841h59B6tB40B41C642ta86tB004tB014tB448tBg4bt1hb01tf01t701t201tb11tf11t711t213",
    "tBg4ctIn49tm4at84ot631tB631t93Bxt642t141tB841t243t142tn41t1h8an42l7av48t9aBctj41t245t5am46a",
    "3t1hq45t1hq4B2tBk44t2a24ga2tBaa14351t255t45441t341tt42t354t159a7t9h7tt42a1ht43awt841ls4254t",
    "5a7h9tBi43t7hm42t8aj45t8ai47t4hct7aC8tC14BjtBf0dtBf17t6aB04458ta86ta8441314m03t551c13m18t2i",
    "Fstva1tB641t251c2t24gt3413248t1h8lxt65t4aa148tm4b54a5hmti4454hB2tl47aktn49t161516Bh4f57h4tk",
    "aa8152425149t3516B94364526252h1q4h15at1q2tp47ta86t35B045516851ta84h1426148tz4152h149t2516Bc",
    "4369526444h451h1615a8141h143h1tkabti41tp43635261516256h152415Bqt741t141t441tf41ta41h6tBb415",
    "36855ta86t25261t842t242tm41t741t241t541t25142615462t262t362t146t165t54262t753t55bta41t142t1",
    "41tB241t1436651t162t161t461t261516151415142h1t2h8t25ttBh4368526351615445ha82h1t1h1534utBc43",
    "665161546251625241h148ta8EmtBb436452t46251625nh4425ytBc43685261516253h14bta86tdhjtB74151615",
    "26651615141h6ta86tk8str42t151615264516554ta82a3h1l74F5tB84369516251hCstw0w1a89act842t142t84",
    "1t241to4661t262t25161514161416153h9ta8Byt842tB3436452t254615141h1416rt14a5B44651614458h158t",
    "14652635Ba4d516253h145hdtC147tahCet151635161516Cgtx41heta86t941tB1416751t651615145hata8ja3t",
    "2hu42tm51t167516251625C1t741t241tB24653t151t251t7514158ta86t641t241tw4561t251t26151615147ta",
    "86tB5413244ta8Gutj425262h7t251416d41ty426553t26151615dha815Cdt14ftla8l4jhldt1hZm4CutD391t5h",
    "btFg4CV8tCp42hdtBDs4gq1564f5atEGz45tQ74HI1tu4c53635a8BW6tPt47tv41ta84t2hC741ta86tu42t551hat",
    "Bc4755h4l431h1lata81t7a1tl45tj4M0t33B44233ha8Fitw0w1na4h5tp02tp1B8tC344t1514Bj67t45d3Bst231",
    "h1315bt2623399tHX24B5tw4CptD74JHpt431t731t231tI34ft14tt342t14et448tL04CM4tCz45td43t947ta42t",
    "1l251h4qEF8tGola83l3tM4l6tnlftgl1iftBa52tn59tD8lBotGulatB3l2tBol26353l668q852l75ul45BplltBu",
    "l351lDetkactkactCfl9tpaDrtq0q1q0711ti1q0q1101t202t102t202t401t80411t111t711tb1q0q1201t402t8",
    "01t701tq1201t401t501t103t701tq1q0q1q0q1q0q1q0q1q0q1q0s12tp01ip11i61p01ip11i61p01ip11i61p01i",
    "p11i61p01ip11i6110112tBe8O8lBj54lBe58l15el152l5hft551tf5BEota114k16t61Fxt751th52t751t251t55",
    "5tBq3xt15D4tB943t75732ta84t141lIwtu415htB8445a85t1jMwtr41345a8Fytu42514a84t1hFctv41t3415241",
    "5742554158t1413G8t741t441t241tf41tFh42t9a75B5ty0y175134ta84t2hVttBna1l3a1j4aC4tB9a1lfaFet44",
    "1tr41t241t142t141ta41t441t141t146t144t141t141t141t341t241t142t141t141t141t141t141t241t142t4",
    "41t741t441t441t141ta41th45t341t541th4Bgt2iHitB8l4tCslctfl2tfl1tfl1tB1latdaEhlBkttldtB8l4t9l",
    "7t2let6lEatGzl5kU9l3thl3tdl3tG2l6tcl4t1lftcl4tBkl8tal6tB4l8tul2tcl4t2let9iB3tJkl8tel2tdl3tb",
    "l3tBll1t1l4tgl2tcl4tal7tE3l1tCkla81lBCltBTQo4wtERq42tGEe42tHZl4ftRa4CQitP24BPutFH745tJBu4BD",
    "BVrt1qutCoqDktGo5CRMotCSAes2tCSAes2t"]

/-- The runs of the table. -/
def categoryRuns : List (CodeRange × Nat) := CharSet.runsFrom 0 (CharSet.numbers categoryTable)

/-- The characters that only the seventeenth edition knows. -/
def newcomers : CharSet := .ofTable <| String.join [
    "CIv0BB00Dj0DV6e2bBPh0CZ00BHZb12010s0WY1fMd1Bi6DDdpBMj288x1DK47Q8B749WByo2oHy4GOp7BJtlCpD6RG",
    "72MdmfgGNbu1l81EIo0Ee3Jh8Kj3Be030Bl040s040He0BZFj5GKabXGiEPd"]

namespace Edition

/-- A set of characters of the seventeenth edition, less those that the edition does not know. -/
def known (e : Edition) (s : CharSet) : CharSet :=
  match e with
  | .seventeenth => s
  | .sixteenth => s \ newcomers

/-- The letter whose category the seventeenth edition changes. -/
def pharyngeal : CharSet := .single '\u0295'

/-- The characters of some categories. -/
def inCategories (e : Edition) (wanted : List Category) : CharSet :=
  let later := CharSet.ofRuns categoryRuns fun n => wanted.any fun c => Category.all[n]? == some c
  match e with
  | .seventeenth => later
  | .sixteenth =>
    let settled := (later \ newcomers) \ pharyngeal
    let moved := if wanted.contains .lowercaseLetter then pharyngeal else .empty
    let unknown := if wanted.contains .unassigned then newcomers else .empty
    .unionOf [settled, moved, unknown]

end Edition

end Playbook.Text
