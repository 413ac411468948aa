/-
  The versions of the Unicode standard that brought the characters, up to the sixteenth edition.
-/
import Playbook.Text.CharSet

namespace Playbook.Text

/-- The versions in order. -/
def versions : List String :=
  ["1.1", "2.0", "2.1", "3.0", "3.1", "3.2", "4.0", "4.1", "5.0", "5.1", "5.2", "6.0", "6.1", "6.2",
    "6.3", "7.0", "8.0", "9.0", "10.0", "11.0", "12.0", "12.1", "13.0", "14.0", "15.0", "15.1",
    "16.0"]

/-- The ages of all code points in order: how many in a row have an age, and the place of the
version that brought them, counted from 1; 0 is no version yet. -/
def ageTable : String :=
  String.join [
    "Ny144u1841617i437b8e9Ch15427Bb114a154h7By194168758372114d64a212a201139111g4071101110k110B81",
    "1a7114261114111411141114i12516574814c114Bu114c114B511a242644Bh1262126212619s12481282169g649",
    "ga2b2c8g10B2120711kB311k1114202g1d10h218d2a11991123880r1401k51b0471d1g5a1811975a111f1o18111",
    "cq15aj13437681ce126C01245114f114u127a15417e410u437r42037u8iaBd416e0Bn9203kBab20fb10sc201c10",
    "bj50vo102o501r8o1d1gbd6g2h1o8ianbo1kfi1hrd1g1b3117Bh12ci11b1c511b2cp12a5c1g2b2918291g311081",
    "202120m110711011304120111771202120311880114021105120l11b2j1k201711171061402120m110711021102",
    "110212011105140212031301a7041101170f11a1ka03110711711103110m110711021105120a1103110312011f0",
    "113720a11d17701h6j10311081202120m11071102110174120811a20212031701n21402110312a20b1176ca0211",
    "061303110413021101110213021303130811831405130311041201a6011e018c187501g311k81103110n110a11g",
    "51201o1a71103110417021102a1h201o20212a20a1701l8a1i1g211k81103110n110a1105120277110311041702",
    "1601o1110212920a110291pc01j1g211n81103110n11cg11c2j1a611a103110411c1i403i117i1h212a20a16a3i",
    "7a101n2410i430o4109410142074301440641014108460ag2034c0Bm140t1B10211011101l211l11101l116l411",
    "l711l31101110112l211ld11l312051101110611p10a120212dw0C0210x2142a40r24c62141210l234721412341",
    "0f4101a14283a4b2cB10y41a541a241a743a446aq4Bsa4b2aB21101d501d20B31262811183dCi15bBw15bCa16b7",
    "418Br41814104420741014104420B341814104420v4181410442074101410442074187410n418v4181410442074",
    "18B3418j4202c28s430q860Cd41h206h201bRi49bt430C948g70d61o761o901on690k6c0d610361026c0Cl41720",
    "a460a760f41oa460Cg41k70B641a50Byba0t72g10c740c7401730B672057b0B682b40q860a81b3028w7s82028Br",
    "b10tb20bb60ab60eb20fg2neoBd0C491o102rB992o1rB7a3dca6dBgc804cBka30fa30Bfa9i2r50B7k203k8d80zb",
    "4d1j2g1l50D07Cg879safg4j1o1i1c1b29Eb1124aCi16am1206120B212061208110111011101110v120Bh110f11",
    "0e1206110j12031109110Bb114n116645627281678561a104f711620r110588c30b112133426483b1c1e3g1h1j1",
    "of0i1247618491af0Bl1241718f618291a3bBc114194a1b2h40Cj194c6Gq1e61114Dd11416u4Bg627b8c91bbc7g",
    "4i1jB11243rm0b1l0Dv1k617E61a6C818486k127261814Ce124c628a687b81a2b27g819aa3b4aab1cjb1c1b4cob",
    "1g411c412cs11cz11c111c413c111b712c71e6v13co11ce11c78491d1a1d2cs64ag6H44O86e768795a49B5a3g5a",
    "5bqg20wg101nyg3kcg1l8g1jpk4hfk1lBb81oBb81od93a1b3a496a2bCz87b2d50B98101d501d20Bi82d70181ce0",
    "1cn89078107810781078107810781078107810wao84a28ja1bad7g2i5j5k1l3nboy0q410Ch4c0Fy4q0c44qBk134",
    "36141110Cc126206126Cm11650B411a1j1k10Cm110g1o43c5ng8ka2r901qg6t12710B01cb17f6s12718Be1f6c14",
    "7Bb11mDb147Cr127v117HAu4anBs7WIm1m88a8b1d9hlj5kdn3oBGd430i426g416c41634161490BcbIcak0wa2cia",
    "8dsa6g1h1dCgb80n8495a29Cza2c1h2c2dcgac1d3g1i1k2g6h2k6l2o5l4n3r202o101o105o3rl03o2n1g2d1c5aB",
    "881n30ab60Bk980Bxa1i80ca60sb2h2kCcab01atb30C6b10bb402bvg10Bja90ea20aa204asb4gBvbo05bnda06c2",
    "06c206c907c107c10Bcg4h2g2l4n40C8hBab20ab60LYc2c0nb40BdbCF00HE612dBn63b20Cy8B2071c0515014p11",
    "05110111021102110D01gc1og0K51goBs120Bi1701ow5c116172og6a860413a7g2hl12627a110j1104140311611",
    "10Dr1201110Cm126Cm1306120612061203130711071a0341331c710q710j7102710f720e7y0Df7503740B973097",
    "C382g2i10ca1n301gBb0BaaDm0ta30Bdaf0sg40v51g45903jr550B7g50u71017B0840e8B60B2527B25C8720a760",
    "B0i40B0i40B4g80Bggb01gbo10fo107o102o10bo10fo107o102o30Bgrc0Ing90mga08go06o10B6o109oBx067201",
    "710B87102730172017mb109bBrg809gBc0jh102h505hq92b3019qa501aBs0Bkd402h2dgh20Bah48102850881038",
    "10r82k203840981k709870wbwgw0B3g40cg90Bib30tb20rb508big704gc07gC80C1bBj0Bfhd0Bfh706hB4k80ak6",
    "0B2r30tr802rFs0vb10B6n103n202ng03rBj01r3pB4k80B6km0qoB20snk0nl90C6c40uc6o901gBub1oa01k20pd7",
    "0ad60Bhd10ed3k1n80B3g90C1d4h1g2nad1g5h10kgb0ig10B7g1i3pBq07h101h104h10fh10bh60Bng50ag601h3g",
    "108g202g20mg107g102g105g101k9g202g203g201h601g507g207g305gb0ar101r201r10B2r10ar101r201r104r",
    "10ar102r802rt0Cii1n1i101i1k1l2nu0C0g80agEm0Big20igkhy0Bxgb0ag60dij0Bkd1l1o60ad60krs0qh1k20f",
    "h40gh7oF50BokCs0Cbgc01g7n201n208n102n10un102n20cn90anBy08l20Bal20blr0C0j80Bgj2lnj1k5jd0goBl",
    "g70apF20yre0ar609i10B9i10eia0ti30wi20mi10eiC107j102j10B8j301j102j109j80aj606k102k10B1k102k1",
    "06k70akIm0pk70hp10B5p30sp1rCd01nf0Beld01lYf9B6g1hCu0Cr9cg10491gb0FghCV80Crod0BDrb1p9ltpa0EG",
    "zr50Q7hHI10BmrBW60Ptc70vg10ag402gC7o10ao60ug206ga0Byga0ag107g10lg50jgM00BmrFi0CjkCt0Bxd6l40",
    "1lBbd9l70hdBs01i1j2l1nb02ne0GO5i5k6l80UziNfnB501r9nJO704o107o102o102cHxj4of01pt03l201pe04l8",
    "0L0jCM40Czg50dg309g70ag208gEF80Gyr60M4rC40Bao20no90D8oBo0Gu5a0B35201aF05bh2ol0By8De0kpc0kkc",
    "0Cf790i97kDr0Cd510Bz5102520152025204510c510151045172510Bt510452085107510s510451055101530751",
    "0Je52820I252920Be5S4hf05h10fhBEo0vo606pFx07i10hi207i102i105i50Bqpx01pD40B9l30el20al402lIw0v",
    "oh0Bml501lMw0B6pFy0B7r401rNc07o104o102o10fo10Fhg20ggB50C3i1l40ai402iVt0BwkC40BplFe04d10rd10",
    "2d101d201d10ad104d101d101d601d401d101d101d103d102d101d201d101d101d101d101d102d101d204d107d1",
    "04d104d101d10ad10hd503d105d10hdBg02dHi0B8a40Csac0fc20ec1g10fc10fcmga0bb2g3nvb1k1c1bbc1b1c1b",
    "2c1b3c1b3c5b8c1b7c1bac2d1l3n9c1b1c2b2c1bac4b2c1bacii1nBk0qc1b2cd0yb9c1i409b702ce06jEa0xccg3",
    "h6c1gByc1g2hkccgB1c1g5c4g5hcghc7g8hBrc1g1c1gF2c1g4c2g1hBqc2g4d7g5hocig1iB5g1iCeg5c1dgc1d3c1",
    "d1c1d1c1d1c1d3c1d6c2d4c1d1c2d4c1dcc2g2hbcBcgBycag1h2i2j1l2n401p3odg304g3i2j1k1l2n30D8c3p405",
    "pCdg4k1p60cl401of0cg40Bkg80ag60B4g80ug202nar402rBq0cj1n3l9h6i1j8i8j1i2jci1lci1j3kfidj5k1l1n",
    "4k2n1o1k1l4k5hdi6jbk2n6l3n2lak6l1h2k8l1n1o3lnjpkCclc0ek204l1n3p3l2o303l4n2p1r501r6ljn4o3p7n",
    "4o3p1r1p3n3o1r702p7n3o2p1r201r8o1p1r607o2p70E3n10BjnB1ranBCk022BTQf57n2ow0EL9b4o1p60G6c20GE",
    "2he0HZljf0RaqCQi0P25BPs022FH7n50EMgpCIGm022CSAe022CSAe022CSAe022CSAe022CSAe022CSAe022CSAe02",
    "2CSAe022CSAe022CSAe0221015u0Co5Dk0Go7CRMm0FKAy2"]

/-- The runs of the table of ages. -/
def ageRuns : List (CodeRange × Nat) := CharSet.runsFrom 0 (CharSet.numbers ageTable)

/-- A version by its number, such as 6.1, or by that number without the point behind a `v`. -/
def versionNamed? (name : String) : Option Nat :=
  (versions.findIdx? fun v => v == name || "v" ++ v.replace "." "" == name).map (· + 1)

/-- The characters that a version has, those of earlier versions included. -/
def broughtBy (version : Nat) : CharSet := .ofRuns ageRuns fun n => 1 ≤ n && n ≤ version

end Playbook.Text
