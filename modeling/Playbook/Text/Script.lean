/-
  The scripts that characters belong to, and the scripts that characters are shared by, as the
  Unicode character database assigns them; sixteenth edition.
-/
import Playbook.Text.CharSet

namespace Playbook.Text

/-- The names of the scripts, all letters small: a code of four letters, then a full name. The
table counts the scripts from 1. -/
def scriptNames : List (List String) :=
  [["adlm", "adlam"], ["aghb", "caucasianalbanian"], ["ahom"], ["arab", "arabic"],
    ["armi", "imperialaramaic"], ["armn", "armenian"], ["avst", "avestan"], ["bali", "balinese"],
    ["bamu", "bamum"], ["bass", "bassavah"], ["batk", "batak"], ["beng", "bengali"],
    ["bhks", "bhaiksuki"], ["bopo", "bopomofo"], ["brah", "brahmi"], ["brai", "braille"],
    ["bugi", "buginese"], ["buhd", "buhid"], ["cakm", "chakma"], ["cans", "canadianaboriginal"],
    ["cari", "carian"], ["cham"], ["cher", "cherokee"], ["chrs", "chorasmian"],
    ["copt", "coptic", "qaac"], ["cpmn", "cyprominoan"], ["cprt", "cypriot"],
    ["cyrl", "cyrillic"], ["deva", "devanagari"], ["diak", "divesakuru"], ["dogr", "dogra"],
    ["dsrt", "deseret"], ["dupl", "duployan"], ["egyp", "egyptianhieroglyphs"],
    ["elba", "elbasan"], ["elym", "elymaic"], ["ethi", "ethiopic"], ["gara", "garay"],
    ["geor", "georgian"], ["glag", "glagolitic"], ["gong", "gunjalagondi"],
    ["gonm", "masaramgondi"], ["goth", "gothic"], ["gran", "grantha"], ["grek", "greek"],
    ["gujr", "gujarati"], ["gukh", "gurungkhema"], ["guru", "gurmukhi"], ["hang", "hangul"],
    ["hani", "han"], ["hano", "hanunoo"], ["hatr", "hatran"], ["hebr", "hebrew"],
    ["hira", "hiragana"], ["hluw", "anatolianhieroglyphs"], ["hmng", "pahawhhmong"],
    ["hmnp", "nyiakengpuachuehmong"], ["hung", "oldhungarian"], ["ital", "olditalic"],
    ["java", "javanese"], ["kali", "kayahli"], ["kana", "katakana"], ["kawi"],
    ["khar", "kharoshthi"], ["khmr", "khmer"], ["khoj", "khojki"], ["kits", "khitansmallscript"],
    ["knda", "kannada"], ["krai", "kiratrai"], ["kthi", "kaithi"], ["lana", "taitham"],
    ["laoo", "lao"], ["latn", "latin"], ["lepc", "lepcha"], ["limb", "limbu"],
    ["lina", "lineara"], ["linb", "linearb"], ["lisu"], ["lyci", "lycian"], ["lydi", "lydian"],
    ["mahj", "mahajani"], ["maka", "makasar"], ["mand", "mandaic"], ["mani", "manichaean"],
    ["marc", "marchen"], ["medf", "medefaidrin"], ["mend", "mendekikakui"],
    ["merc", "meroiticcursive"], ["mero", "meroitichieroglyphs"], ["mlym", "malayalam"],
    ["modi"], ["mong", "mongolian"], ["mroo", "mro"], ["mtei", "meeteimayek"],
    ["mult", "multani"], ["mymr", "myanmar"], ["nagm", "nagmundari"], ["nand", "nandinagari"],
    ["narb", "oldnortharabian"], ["nbat", "nabataean"], ["newa"], ["nkoo", "nko"],
    ["nshu", "nushu"], ["ogam", "ogham"], ["olck", "olchiki"], ["onao", "olonal"],
    ["orkh", "oldturkic"], ["orya", "oriya"], ["osge", "osage"], ["osma", "osmanya"],
    ["ougr", "olduyghur"], ["palm", "palmyrene"], ["pauc", "paucinhau"], ["perm", "oldpermic"],
    ["phag", "phagspa"], ["phli", "inscriptionalpahlavi"], ["phlp", "psalterpahlavi"],
    ["phnx", "phoenician"], ["plrd", "miao"], ["prti", "inscriptionalparthian"],
    ["rjng", "rejang"], ["rohg", "hanifirohingya"], ["runr", "runic"], ["samr", "samaritan"],
    ["sarb", "oldsoutharabian"], ["saur", "saurashtra"], ["sgnw", "signwriting"],
    ["shaw", "shavian"], ["shrd", "sharada"], ["sidd", "siddham"], ["sind", "khudawadi"],
    ["sinh", "sinhala"], ["sogd", "sogdian"], ["sogo", "oldsogdian"], ["sora", "sorasompeng"],
    ["soyo", "soyombo"], ["sund", "sundanese"], ["sunu", "sunuwar"], ["sylo", "sylotinagri"],
    ["syrc", "syriac"], ["tagb", "tagbanwa"], ["takr", "takri"], ["tale", "taile"],
    ["talu", "newtailue"], ["taml", "tamil"], ["tang", "tangut"], ["tavt", "taiviet"],
    ["telu", "telugu"], ["tfng", "tifinagh"], ["tglg", "tagalog"], ["thaa", "thaana"], ["thai"],
    ["tibt", "tibetan"], ["tirh", "tirhuta"], ["tnsa", "tangsa"], ["todr", "todhri"], ["toto"],
    ["tutg", "tulutigalari"], ["ugar", "ugaritic"], ["vaii", "vai"], ["vith", "vithkuqi"],
    ["wara", "warangciti"], ["wcho", "wancho"], ["xpeo", "oldpersian"], ["xsux", "cuneiform"],
    ["yezi", "yezidi"], ["yiii", "yi"], ["zanb", "zanabazarsquare"],
    ["zinh", "inherited", "qaai"], ["zyyy", "common"]]

/-- The scripts of all code points in order: how many in a row have a script, and its number; 0 is
no script. -/
def scriptTable : String :=
  String.join [
    "BtEqqC16EqqC1BbEq1C1fEq1C15EqnC11EqvC11EqMhC1B3Eq5C15Eq2ekEqD4Ep4B91Eq3B9204B91Eq1B9401B91E",
    "q1B91Eq3B9101B910kB910BrB9epgB9Dps2EpEps10B2620Be6203610BjBh80rBh406Bhb0541Eq641Eqe41Eq341E",
    "qw41Eqa4bEpq41EpD041Eqy4eDw10BoDw203DwBc4BeE7e0BnCu203CuBaDg20fDg10sCb201Cb10bDw50v4102450C",
    "341Eqt4C9t4Epft2Eqqt4c108c202c20mc107c101c304c209c202c204c801c402c105c20pc203Bc106Bc402Bc20",
    "mBc107Bc102Bc102Bc102Bc201Bc105Bc402Bc203Bc301Bc704Bc101Bc70hBca03Ba109Ba103Ba10mBa107Ba102",
    "Ba105Ba20aBa103Ba103Ba201Baf04Ba20cBa707Ba103D0108D0202D020mD0107D0102D0105D0209D0202D0203D",
    "0703D0402D0105D020iD0a02E1106E1303E1104E1302E1101E1102E1302E1303E130cE1405E1303E1104E1201E1",
    "601E1e0lE150dE4103E410nE410gE4209E4103E4104E4702E4103E4201E4204E420aE4709E4dBw103Bw10nBw10a",
    "Bw105Bw209Bw103Bw104Bw702Bw602Bw104Bw20aBw103Bwc0dCi103Ci10BfCi103Ci106Ci40gCi20qCi103Do10i",
    "Do30oDo109Do101Do207Do301Do406Do101Do108Do60aDo203Doc0BmE8401EqsE8B102C0101C0105C010oC0101C",
    "010nC0205C0101C0107C010aC0204C0w0C0E910B0E940B3E910B0E910fE9107E94Eq2E9B10EgCoB2B3101B3501B",
    "320B7B31Eq4B3H4BdC1B1104B1207B1101B1104B120B5B1104B120xB1104B1207B1101B1104B120fB110BlB1104",
    "B120BvB120wB130qB160Cen206n20RsktCw30C3Df3EqbDf70mE6901E6lBf2Eq90kic0dDx103Dx102Dxc0CmBt20a",
    "Bt60aBt602Ck2Eq1Ck1EqkCk60ChCk70B7Ck50Byka0vC310cC340cC3401C330cC3uDz205Dzb0B8E040qE060bE03",
    "02E0wBtsh202hBrBz10tBz20bBz60aBz60eBz20vEpBd0C5810Be8BsDtBgb804bBkC230fC2303C2BcCxbs50B7B32",
    "03B38Dt803Ep1EqdEp1Eq7Ep4Eq1Ep6Eq1Ep3Eq2Ep1Eq50B2C15B91sBdC15B94C15B9dC11sByC11B9BsEpH4C1mB",
    "9206B920B2B9206B9208B9101B9101B9101B910vB920BhB910fB910eB9206B910jB9203B9109B910cEq2EpCfEq1",
    "0bEq1C120bEq1C1fEq10dC130xEqf0xEpf0B2Eq1B93Eq2C16Eq1C1rEq1C1hEqB5C13Eq40SiEqm0bEql0ZsEqH4gR",
    "gEq20wEq10CxEqCoB4wC1D8p507pB2B3101B3501B320BkE5702E5e01E5nB1907B1107B1107B1107B1107B1107B1",
    "107B1107B110wsCmEqy0qBe10ChBec0FyBeq0lEq1Be1Eq1BepEq9Be4Ep2Bd8Eq4Be4Eq10CeBi202Ep2Eq3Bi1EqC",
    "iBq2Eq3Bq50B7e10CmBd10gEqweB2Eq901EqgBqvBd10BsEqvBdC9EqBbBq1EqCgBqEoEqHB4BeBsEqWL4BeBGdEn30",
    "BjEn90BcC6IcEgk0CosCg980yEqCuC13EqBvC1202C1101C1108C1l0eC1B9Dv30aEq60BkD780ByDi80cDi60wtBaB",
    "p1Eq1BpB0Ddb01DdtBd30C6Bo101EqaBo402BovCo10Bjm90em20am204mwCoBvE3o05E3nCma06B1206B1206B1907",
    "B1107B110B7C11Eq9C11B94C12Eq40C8nBaCm20aCm60LYcBdc0nBd40BdBdJAs0K6Be20CyBeB207C1c05650qBh10",
    "5Bh101Bh102Bh102Bh10aBhD74g0K342EqC8420Bi47014w0g4gEpaEq60eEp2szEq10jEq104Eq405410Dr4201Eq1",
    "0wEqqC16EqqC1bEqaBq1EqB9Bq2EqvBd306Bd206Bd206Bd203Bd307Eq107Eqa05Eq20cC510qC510jC5102C510fC",
    "520eC5y0DfC5503Eq40B9Eq309EqC7B910dEq301B9Bb0B9Eq1EpDm0tC730Bdlf01EprEq40B0Bn903BnrB750B7D6",
    "50uEf101EfB0Ek40eEkB60C8wBcDkuD220aD260B0D140B0D140B4z80Bg2b012bEh10fEh107Eh102Eh10bEh10fEh",
    "107Eh102Eh30BgEcc0InC490mC4a08C4o06C110B6C1109C1Bx06r201r10B8r102r301r201rm51095wD4vCs809Cs",
    "Bc0jBg102Bg505BgsDa301DaqC8501C8Bs0wChoCg40kCg20BaCg4Bs102Bs508Bs103Bs10tBs203Bs40aBs709Bs7",
    "0wDhwCrw0B3Cc40cCc90Bi73077mDc208DcjD8508D8iD9704D9c07D9C80C1CzBj0BfBmd0BfBm706BmB4De80aDe6",
    "0B2B230tB2802B2Fs0v410B6Em103Em202Emg034Bj044B4Dq80B6Dpm0qD3B20sok0nB090C6f40B0f901fBvBya01",
    "By20pDr70aDr60Bhj10ij80B3C990CoDl10kDob0iBu10BbBuBq07Cn101Cn104Cn10fCn10bCn60BnDn50aDn604B8",
    "108B8202B820mB8107B8102B8105B8101Ep9B8202B8203B8201B8601B8507B8207B8305B8b0aEe101Ee201Ee10B",
    "2Ee10aEe101Ee201Ee104Ee10aEe102Ee802Eet0CkCt105Ctu0C0Ea80aEaEm0BiDm20B2Dmy0BxCjb0aCj60dCkj0",
    "BmDy60aDy60kCos0r320f340n3F50BovCs0CbEic01Ei7u201u208u102u10uu102u20cu90auBy08Cq20BaCq20bCq",
    "r0C0Eo80CbDsd0gkBlD570atF20yDue0aDu609d10B9d10eda0td30wCd20mCd10eCdC107B6102B610B8B6301B610",
    "2B6109B680aB6606B5102B510B1B5102B5106B570aB5Im0pCa70hBr10B5Br30tBrCd01C6f0BeE1d01E1ZmElCu0D",
    "3El105Elb0FgElCV80Crqd0BEuya0EGzy50Q7BjHI10BmBbBW60Pt970vCl10aCl402ClC7Eb10aEb60ua206aa0ByB",
    "ka0aBk107Bk10lBk50jBkM00BmBxFi0CjCeCt0C3Db40BlDb70hDbBs01E21Cv2Be1Bvb02Bee0GOgE280VcE2N2BvB",
    "501Bv9E2JO704Bq107Bq102Bq101BqHzBi3Bqf01Bit03Bi201Bqe04Bq80L0CvCM40Czx50dx309x70ax204x4EqEF",
    "80GyEq60M4EqC40BaEp20nEp90D8EqBo0GuEqa0B3Eq20BqEq3EphEq8Ep2Eq7EpuEq4EpBpEql0ByB9De0kEqc0kEq",
    "c0CfEq90pEqDr0CdEq10BzEq102Eq201Eq202Eq204Eq10cEq101Eq107Eq10BtEq104Eq208Eq107Eq10sEq104Eq1",
    "05Eq101Eq307Eq10JgEq20I4Eq20BeEqS4Djf05Dj10fDjBEo0vC1606C1Fx07B410hB4207B4102B4105B450Bqsx0",
    "1sD40B9Bl30eBl20aBl402BlIw0vEdh0BmEj501EjMw0B6CpFy0B7Cy401CyNc07B1104B1102B110fB110FhCf20gC",
    "fB50C4140a14021Vt0BwEqC40BpEqFe04410r410241014201410a41044101410146014401410141014103410241",
    "01420141014101410141014102410142044107410441044101410a410h45034105410h4Bg024Hi0B8Eq40CsEqc0",
    "fEq20fEq10fEq10B1Eqa0EuEqBk0qEq1Bi2Eqd0B8Eq409Eq702Eqe06EqEa0BBcEq40hEq30dEq30DbEq40CnEq60c",
    "Eq401Eqf0cEq40BkEq80aEq60B4Eq80uEq20cEq402EqBq0JgEqc0eEq20dEq30aEq50BkEq70fEq20bEq609Eq70E3",
    "Eq10CuEqBCm0BTQoBew0ELeBe60G6Be20GE2Bee0HZlBef0RaBeCQi0P2BeBPu0FH7Be50EMgBeBDGL501Equ0CoEqD",
    "k0GoEpIBNk0"]

/-- The characters whose scripts are not just their own one: the gap before each range, how far
its last code point is from its first, how many scripts share it, and their numbers. -/
def sharedTable : String :=
  String.join [
    "F30g7lpxzB3B4B5B7B9BeC1C8C9D6DkOc07cstC1C6E8Eda02eC1122eC1102C1C6902C1E8102eC1B208npsB9C1D6",
    "DuDz008nsB9C1D1DuDzEc004nsC1E5005B4C1DuDwE800b2npsB7B9C1D1DwE5Ec006pzB4B7BqC1004sB9C1D6009p",
    "xBhC1D6DwDzE5Ec00a6sxB7B9BhC1D6DwDz002C1E5003xC1Dw004nsC1D1003nC1Dz002C1Du002B1C1102C1Du003",
    "sC1Ec104B9C1D6Ecc02C1Dw205nxBqC1Dw004nxC1Dw002C1Dw703C1DuDw002C1Dw103nC1Dw0062nB7C1DuE8g01B",
    "9201B9i02C1D15032C1Ec4c1C1412pB9Hh02sD6002sB4012sC1002sB4H5036B3B4Dm074B2CuDeDwE7Eme074B2Cu",
    "DeDwE7Em0034DwE720814B2CuDeDwE7Emw0914CbCcD3D9DeDpDwaa24Dwa934E7Em6024DwCr024DeRo0dctB8BaBc",
    "BwC1CiD0DlE1E4Ea00cctB8BaBcBwC1CiD0E1E4Eah0lctvB5B6B8BaBcBwC9CiCqCyD0DnDoDvDyE1E4Ea00nctvB5",
    "B6B8BaBbBcBwC3C9CiCqCyD0DnDoDvDyE1E4Ea094tvByC9Da93cjDvDa92BcCnDa92BaBuGud2B8E1Gq93BwCqEeXk",
    "93jCoDzEx03B3B4C1BQ721DfBz14iBfDxE6Fn12CkD7102CkD7BI204ctB8Bw001t004ctB8Bw003tB8Bw001t012ct",
    "002tDl002ct002tDl006tBwCiD0E1E4001t012tDl011t002tDl002ct061t002tCq002ct011t002ct031t00bctB8",
    "BwCiCqD0DoE4EaEe002tB8004tB8BwEe012ct001c012tB8001CqFh11B9Bi03sC1Dw101DwPo03C1CkD7v0214a06l",
    "B3B4BmC7Cz204lB9BmChE203tB8C1DPi02pC1o027Cz0077lB3BmByC8Dga01x40314Bm102sB4Lwf2BeE2107eBdBe",
    "BiBqCkEn008eBdBeBiBqCkD7En005eBdBeBiBq201Be118eBdBeBiBqCkE9En019eBdBeBiBqC6CkE9En056eBdBeBi",
    "BqEn105eBdBeBiBq076eBdBeBiBqEn035eBdBeBiBqa32eBe205eBdBeBiBq042BiBq105eBdBeBiBq413BeBiBq011",
    "BeCh32BiBq302BiBqCi06eBdBeBiBqEn002BiBqE3f1BewB11Be902BeE2BcB31BeBkBc1Befb1BeBf01BeCgo1Bea4",
    "1BeCou1BeBFHs02sB4E072BeC1I82gtvBaBcBuBwByC9CiCjCqDlDnDyEaEe02ftvBaBcBuBwByC9CjCqDlDnDyEaEe",
    "01btvBaBcBuByC9CjDnDyEa00ctvBaBcBuByC9CjDlDnDyEa00btvBaBcBuByC9CjDnDyEaF303ctEe102tE1Bm03Bp",
    "C1CoEg02hBoWVa124CuEy024E7a024E7Bz15eBdBeBiBqHu46eBdBeBiBqEna02BiBqB912BiBqJs13qrC5002rC54B",
    "83rC4C5382rC5Lkr24pCEm02CcD3CFa02B8E1102B8E1Bj12B8E1DLf12B8E1102B8E1BQX031xGFoh1BeILi11Be"]

/-- The runs of the table of scripts. -/
def scriptRuns : List (CodeRange × Nat) := CharSet.runsFrom 0 (CharSet.numbers scriptTable)

/-- Ranges with the numbers of the scripts that share them. -/
def sharedFrom : (steps start : Nat) → List Nat → List (CodeRange × List Nat)
  | n + 1, start, gap :: extent :: count :: rest =>
    ((start + gap, start + gap + extent), rest.take count) ::
      sharedFrom n (start + gap + extent + 1) (rest.drop count)
  | _, _, _ => []

/-- The ranges of shared characters. -/
def sharedRanges : List (CodeRange × List Nat) :=
  let ns := CharSet.numbers sharedTable
  sharedFrom ns.length 0 ns

/-- The number of the script with this name. -/
def scriptNamed? (name : String) : Option Nat :=
  (scriptNames.findIdx? fun names => names.contains name).map (· + 1)

/-- The characters of a script. -/
def inScript (script : Nat) : CharSet := .ofRuns scriptRuns fun n => n == script

/-- The characters that are used in a script. -/
def usedInScript (script : Nat) : CharSet :=
  let shared := CharSet.ofRanges (sharedRanges.map Prod.fst)
  let here := (sharedRanges.filter fun range => range.2.contains script).map Prod.fst
  (inScript script \ shared) ∪ .ofRanges here

end Playbook.Text
