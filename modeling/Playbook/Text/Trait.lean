/-
  Traits of characters: the binary properties of the Unicode character database, sixteenth
  edition. Those that the database lists are tables; the others are derived as the standard
  derives them, from the listed ones and from the general categories.
-/
import Playbook.Text.Category

namespace Playbook.Text

/-- A binary property of characters. -/
inductive Trait where
  | alphabetic
  | asciiHexDigit
  | bidiControl
  | bidiMirrored
  | caseIgnorable
  | cased
  | changesWhenCasefolded
  | changesWhenCasemapped
  | changesWhenLowercased
  | changesWhenTitlecased
  | changesWhenUppercased
  | dash
  | defaultIgnorableCodePoint
  | deprecated
  | diacritic
  | emoji
  | emojiComponent
  | emojiModifier
  | emojiModifierBase
  | emojiPresentation
  | extendedPictographic
  | extender
  | graphemeBase
  | graphemeExtend
  | graphemeLink
  | hexDigit
  | hyphen
  | idCompatMathContinue
  | idCompatMathStart
  | idContinue
  | idStart
  | ideographic
  | idsBinaryOperator
  | idsTrinaryOperator
  | idsUnaryOperator
  | joinControl
  | logicalOrderException
  | lowercase
  | math
  | modifierCombiningMark
  | noncharacterCodePoint
  | otherAlphabetic
  | otherDefaultIgnorableCodePoint
  | otherGraphemeExtend
  | otherIdContinue
  | otherIdStart
  | otherLowercase
  | otherMath
  | otherUppercase
  | patternSyntax
  | patternWhiteSpace
  | prependedConcatenationMark
  | quotationMark
  | radical
  | regionalIndicator
  | sentenceTerminal
  | softDotted
  | terminalPunctuation
  | unifiedIdeograph
  | uppercase
  | variationSelector
  | whiteSpace
  | xidContinue
  | xidStart
  deriving Repr, DecidableEq

namespace Trait

open Category

/-! ## What the editions tell apart -/

/-- Alphabetic characters that are neither letters nor letter numbers; seventeenth edition. -/
def laterAlphabetic : CharSet := .ofTable <| String.join [
    "X90tcQ0d10111110C0aBcc16g0Ct6432140z0ufCuaCt1381213Cy0Bob366jBi12e1152a1t2Bm62121a0a1t2Bm44",
    "12140u130b2Bm71211l1m242Bm6212191a1u0Bn43212a0B44Bl6121281b1t2Bm6121281b1f0c3Bm61212a0a1t2C",
    "351017i1Bp026i0Cr02511g0Eji9a1zD2b1023n342122633db10a3BTw1u1u1u1BuiF81y0Dab48G64Bl92jC21b2B",
    "d4BceBo2u821BlaBeiLgxBW1BfCLqvBGYk7y1Ju080n4Cg1Bef10Bl0B24sbB93BcbB10Bvdc081B92Be0122150B84",
    "50Gl7VR70CHb4BUe21153Vw3Bt0Ix1C52H72BhdB91b2B9890Bp2B0bi1Bl2Bcce1Ck8206020Ed9n3Bm62121a0a1C",
    "c810201311Cvc12CyhGl626t1Cae10CyaCvdH5cGv511213010Dy62540s9B6413iaBadFk7Fj716Cbl1dDe5301112",
    "1030Bu41113Jo39110Bc632SAdgDWg01Bi73Cl1UZ80JRl61g261114Cs0BSz0207150Qh0CE8p6p6p"]

/-- Characters that extend the one before them and are no marks; seventeenth edition. -/
def laterExtending : CharSet := .ofTable <| String.join [
    "CRa0o0Jy0o0Cu0o0Gg010411191Cv0o0Db0f0CNh0u0BCg0501051Ct0Bz1BD40EKp1BHDf0D00XMl1EYw0D80Hc0e0",
    "90Co090201250G80c0Gp0Ha0Rl0c0BQr0WBq1BAQz165BGUZ9Cn"]

/-- Letters and what else counts as one. -/
def alphabeticIn (e : Edition) : CharSet :=
  e.inCategories (letterNumber :: letters) ∪ e.known laterAlphabetic

/-- Characters that combine with the one before them. -/
def extendingIn (e : Edition) : CharSet :=
  e.inCategories [nonspacingMark, enclosingMark] ∪ e.known laterExtending

/-- The characters of some categories, sixteenth edition. -/
def those (wanted : List Category) : CharSet := Edition.sixteenth.inCategories wanted

/-! ## Lists that others are derived from -/

/-- The two characters that say whether their neighbours join. -/
def joinControls : CharSet := .ofTable "ITw1"

/-- Characters that count as small letters without being in their category. -/
def otherSmalls : CharSet := .ofTable
    "Eq0f0Nx871u4Co0Bg0DS10DInBqd0yB0T50d0gcFvfXkpCBu1BHKe1Fu0Dl231Y2390ZEu0221B518CHF9Bp"

/-- Characters that count as capital letters without being in their category. -/
def otherCapitals : CharSet := .ofTable "JDcfXapEVXsp6p6p"

/-- Characters of mathematics that are no mathematical symbols. -/
def otherMathematics : CharSet := .ofTable <| String.join [
    "Cm0Yh220q121HS00r2b0w3o1e1Btc403144i04029103460312112153354C34231111101421414h2110161061I23",
    "Eo110o0h0Md1c854512134e01025o1Bl010t391Ji1v9L7lBr3w1CGCb01040Fv010CGExCc1By112021231b10161B",
    "s1327161r131410361Jf2o1o1u1o1u1o1u1o1u1o172BdGAg31q1110201913101060401010121110201010101011",
    "102316131310191g52141g"]

/-- Characters that may begin an identifier for the sake of earlier editions. -/
def otherStarts : CharSet := .ofTable "GSd1CIx0l0EFo1"

/-- Characters that may continue one for the same reason. -/
def otherContinuations : CharSet := .ofTable "F30Tz0EIx8BTk0BS11EQd0CELt0"

/-- Code points that are invisible by default and no formats. -/
def otherIgnorable : CharSet := .ofTable "Xj0DVz1BSz1CJr0EQu0CEKj0C78BJAFz01tCoDjGoDVz"

/-- Characters that are set aside for the syntax of patterns. -/
def syntaxMarks : CharSet := .ofTable
    "xea6q310q3y610111011404030n0v0IN4n8e2i19IhTzEgRhuBFfO8DjKp24of0CEC51H91"

/-- Characters that are set aside as blanks of patterns. -/
def syntaxBlanks : CharSet := .ofTable "94i0Cs0IQ81o1"

/-- Format characters that span the digits behind them. -/
def prependedMarks : CharSet := .ofTable "BQo5Fz0Bd0Ko1C80CUEa0f0"

/-- Characters that choose between shapes of the one before them. -/
def selectors : CharSet := .ofTable "GOz210CKX4fBJBAoGn"

/-- Blank characters. -/
def blanks : CharSet := .ofTable "94i0Cs0q0FZj0CPjat150Bb0EH40"

/-- The tones of skin. -/
def tones : CharSet := .ofTable "FGTf4"

/-! ## Corrections to what the categories would suggest -/

/-- Capital letters without a small one. -/
def loneCapitals : CharSet := .ofTable <| String.join [
    "BB62HZh040322220346030312110a150EOXepqpqpq01120212317qpq1132716r113141036rpqpqpqpqpqpuoxoxo",
    "xoxox0GYlp6p6p"]

/-- Small letters without a capital one. -/
def loneSmalls : CharSet := .ofTable <| String.join [
    "Eq0f0Dh0Cc0s1e030Cq0i5r02010222040511021161110226410172p71u4E50Dl0Jv0B30DDf0DHfDc121f1BcG41",
    "10Mx0d0gcD103130r040402183DBb02026Cu0BHHj1E21Bq8l060p0z010s232Wty161dZEu0221B518CDXbpq61hqp",
    "q310161aqpqpqpqpqpqpqpqpqrso15qo15qo15qo15qo1510BZ891j65H9Bp"]

/-- Letters with a capital one that title case leaves alone. -/
def titleKept : CharSet := .ofTable "Ml02020B20EBpB622DZc78787c0f0Bb0"

/-- Capital letters that title case changes. -/
def titleChanged : CharSet := .ofTable "Mk02020B20"

/-- Capital letters that folding leaves alone. -/
def foldKept : CharSet := .ofTable "FJkCd"

/-- Characters other than capital letters that folding changes. -/
def foldChanged : CharSet := .ofTable
    "F10B50Cx0Bh0Ml0Dg0d131p130L50DYo5CIi8Op1Gc78787a220a220B6220BMDsC7VRk6c4"

/-- Characters that lose the right to begin an identifier when the text is normalized. -/
def unstableStarts : CharSet := .ofTable "Yq0CY80Dj0JH31CDSx5La1D8010101010101010Hz1"

/-- Characters that lose the right to continue one. -/
def unstableContinuations : CharSet := .ofTable "Yq0MIw1CDSx5La1D8010101010101010"

/-- Punctuation that may stand inside words. -/
def wordInner : CharSet := .ofTable "B3060b0Dg0Tz0N30E40HDv1a020CIS30Bq020Ex060b0"

/-- Format characters that are visible: those of annotations and of hieroglyphs. -/
def visibleFormats : CharSet := .ofTable "CSA92OH8f"

/-! ## Derived sets -/

def small : CharSet := those [lowercaseLetter] ∪ otherSmalls

def capital : CharSet := those [uppercaseLetter] ∪ otherCapitals

/-- Letters in title case: a capital and a small one in one character. -/
def title : CharSet := those [titlecaseLetter]

/-- What a change to small letters changes. -/
def lowered : CharSet := (capital ∪ title) \ loneCapitals

/-- What a change to capital letters changes. -/
def raised : CharSet := (small ∪ title) \ loneSmalls

/-- What a change to title case changes. -/
def titled : CharSet := (raised \ titleKept) ∪ titleChanged

/-- What no identifier contains. -/
def syntactic : CharSet := syntaxMarks ∪ syntaxBlanks

/-- What an identifier may begin with. -/
def starting : CharSet := (those (letterNumber :: letters) ∪ otherStarts) \ syntactic

/-- What an identifier may go on with. -/
def continuing : CharSet :=
  let inner := those [nonspacingMark, spacingMark, decimalNumber, connectorPunctuation]
  (.unionOf [starting, inner, otherContinuations]) \ syntactic

/-- What is invisible by default. -/
def ignorable : CharSet :=
  (.unionOf [otherIgnorable, those [.format], selectors]) \
    .unionOf [blanks, visibleFormats, prependedMarks]

/-- What is a character on the page of its own or the beginning of one. -/
def standing : CharSet :=
  .difference .full <| .unionOf [extendingIn .sixteenth,
    those [.control, .format, .surrogate, .privateUse, .unassigned, lineSeparator,
      paragraphSeparator]]

/-- The characters with a trait. -/
def set : Trait → CharSet
  | .alphabetic => alphabeticIn .sixteenth
  | .asciiHexDigit => .ofTable "Bc975q5"
  | .bidiControl => .ofTable "BRg0HCh1q4Bj3"
  | .bidiMirrored => .ofTable <| String.join [
    "B41i010s010t010B90f0DZ23CAd1CQc1a1Bi1e1Ex0Fc33530313313101048501h539110171v2350912i5194214n",
    "2f83k171BE5dC2023111253523dL7l251d807530441124401221a521ci13201020135162o1b14311214B6271B35",
    "0103452403410H40Ob33111e129B77Lv927CEKl551Ei1i010s010t0101111CGY70Bl0Bl0Bl0Bl0"]
  | .caseIgnorable =>
    those [nonspacingMark, enclosingMark, .format, modifierLetter, modifierSymbol] ∪ wordInner
  | .cased => .unionOf [small, capital, title]
  | .changesWhenCasefolded => (lowered \ foldKept) ∪ foldChanged
  | .changesWhenCasemapped => .unionOf [lowered, raised, titled]
  | .changesWhenLowercased => lowered
  | .changesWhenTitlecased => titled
  | .changesWhenUppercased => raised
  | .dash => .ofTable
      "B90BM40Bf0DXd0BCl0CF55Bp0B30f0Ku0DHg020v140s0Me0j0D30CEFs1B10a0Ep0DY80Iu0"
  | .defaultIgnorableCodePoint => ignorable
  | .deprecated => .ofTable "J50BKp0CM3010CG11CKd5Td1BLIQ60"
  | .diacritic => .ofTable <| String.join [
    "Cm010Bz0604021NzEe1755h14091H14Ft0Bjg1q101110Dq741Dq14132BvqCjaBmay1Di7B59grBp0g033s0C20g0D",
    "20g0D20g0Bb2Bo0g070Db0D20g0D20g0D11g0Dg0D30c510Cz0d4C31r0101041Bu211Bq0D4011B4144p610a1Tl2B",
    "Ac1u0E4a90Jn2I40k720Bce2aCw0f0B28Bi1Bm0b1Bu1Bs5Cao406022BeBqChbB1aMd012b2d2d2d1DO02It0O25Cx",
    "3Cn0BGD60c110s1Ca1exCu2D11c0B10E70rhBl3B00Cn0c0B00E52Bt3Bf0Cs492Dk1VR40VdfHi010Bb0B91Bv0V80",
    "BGv51B518Rp240El1Pv5B20q4L32ByaBd3Fc0B50C01Dc1Bq0C4092Cw1Ey1C81g0o634Ch211d1Cn030Df1Gz1Di0D",
    "a1D70Hh1H6140Ec0Cb0i0C90Lp0H6011C90Lt1n0FSseMGx0CRc4Bn6Po1P6gC81RN231611IMhB92mP42358726u3D",
    "Z6BpFe6Kf0Bp3Va1Ug6D1212"]
  | .emoji => .ofTable <| String.join [
    "z06059D3040IQd0c0G00m0Ci5f1K71c0Em0pa42Fj0Gf1a090Bm314902021204020112030318250105bb1201110i",
    "021i5101131502141b15120511011k155132040202510201010603060a1f02040104210b1Bc290e0e0Kc1Mv2j1B",
    "f040BIi0c0Qp010ERVe0Fm0Eg1c1e029C3p11n0k028l1Eux2D321122Ca221Ha1Bqb51n7127c0232041d12081905",
    "2c28220104060306CdBcBx57224930113029Gbb40HvBa191F4D4c395Bj7e2a68"]
  | .emojiComponent => .ofTable "z06059ISb0Fx0CIMr0CORypO34BOg3BGJZ0Cn"
  | .emojiModifier => tones
  | .emojiModifierBase => .ofTable <| String.join [
    "KL10G30g3EVYf0Bo22022D912ali3042127010o0Fl140l041Eu234Cb0g290b0Pz02087609922Bk0Bp11110h21cG",
    "d2B68"]
  | .emojiPresentation => .ofTable <| String.join [
    "JPm1Fp33020Oh1l1BebB70j0d081h1518050l0711040207041s0z0104210Bp2o0e0Xv1Bf040ETV20Fm0Fa029C3p",
    "10o0k02412l1Euwc81Bx1lcB644cg303By101F62Bqd31ni0q1d0CeCcBcBx60322243b178Gbb40HvBa191F4D4c39",
    "5Bj7e2a68"]
  | .extendedPictographic => .ofTable <| String.join [
    "Ep040IQd0c0G00m0Ci5f1K71c0Cn0By0pa42Fj0Gf1a090Bm3151b1D5aD92a1010603060a1f02040104210b4B929",
    "0e0e0Kc1Mv2j1Bf040BIi0c0Qp010ERVaH3d2v0Bo5c1e029iBkrea0k028139M15It8HdBcDjD8bCdB6c3Bk7a5B47",
    "uC9cBa191M8H4BCd"]
  | .extender => .ofTable <| String.join [
    "F30Ow1Ye0M90Ri0Dt0Ch0Uw0Dj0CNv0Bk0Qz0L20Bw0FIx0B74Cv1Cl2BEJy0BQe0BAq0m0Dt0D00l1XCr0CFc1BP70",
    "r040BHz0I50D81Nu2BI70WBl1BGs110BFA01BHd0Xo2"]
  | .graphemeBase => standing
  | .graphemeExtend => extendingIn .sixteenth
  | .graphemeLink => .ofTable <| String.join [
    "CO50Dj0Dj0Dj0Dj0Dj0Dj0Dj0D11g0Dg0D30Dj0Fl0F01BWp1u0Ed0S50Gb0Ct1By1EUr0BHNa0B10E70Dy0D00Il0G",
    "u0ZUp0BQu0B50e0Bl0Dd1Dv0D80F00Cq0Dk2D50Dj0H00Dj0Da0D80Hh0H71Eh0Cb0i0C90Lp0H81C90Lt1SAs0"]
  | .hexDigit => .ofTable "Bc975q5CRQx975q5"
  | .hyphen => .ofTable "B90Dj0BIk0FBf0CF51DVp0Uj0CEEn0Ep0Cf0"
  | .idCompatMathContinue => .ofTable "Ey150IRi03a1eKb040m0EPKy0p0v0p0v0p0v0p0v0p0"
  | .idCompatMathStart => .ofTable "JHu040m0EPKy0p0v0p0v0p0v0p0v0p0"
  | .idContinue => continuing
  | .idStart => starting
  | .ideographic => .ofTable
      "NDi1p8e2BAtHB3BsWL3YIwK52CxBGAa0rGOf8BIdB59JYvKzVBoBTQnwELd6G52GE1eHZkfR9CQiP1BPuFH65EMf"
  | .idsBinaryOperator => .ofTable "NCw129Nt0"
  | .idsTrinaryOperator => .ofTable "NCy1"
  | .idsUnaryOperator => .ofTable "NDa1"
  | .joinControl => joinControls
  | .logicalOrderException => .ofTable "DXc4Df4CZs220BNQy12011"
  | .lowercase => small
  | .math => those [mathSymbol] ∪ otherMathematics
  | .modifierCombiningMark => .ofTable "BT0120Dn06031Nd11230v0"
  | .noncharacterCodePoint => .ofTable
      "CRKwvOm1CSAe1CSAe1CSAe1CSAe1CSAe1CSAe1CSAe1CSAe1CSAe1CSAe1CSAe1CSAe1CSAe1CSAe1CSAe1CSAe1"
  | .otherAlphabetic => Edition.sixteenth.known laterAlphabetic
  | .otherDefaultIgnorableCodePoint => otherIgnorable
  | .otherGraphemeExtend => Edition.sixteenth.known laterExtending
  | .otherIdContinue => otherContinuations
  | .otherIdStart => otherStarts
  | .otherLowercase => otherSmalls
  | .otherMath => otherMathematics
  | .otherUppercase => otherCapitals
  | .patternSyntax => syntaxMarks
  | .patternWhiteSpace => syntaxBlanks
  | .prependedConcatenationMark => prependedMarks
  | .quotationMark => .ofTable "y040Dn0f0IP07p1DVr0Mp3d2CEJt3F9040Ci1"
  | .radical => .ofTable "MSop1CgcFx"
  | .regionalIndicator => .ofTable "FGEmp"
  | .sentenceTerminal => .ofTable <| String.join [
    "x0c0g0BLl0E32F00B72Gu0Bp01031I51BX01Vy041Vh0Fi1Ed1B9050Iq1Ju3Ei1a121t2F71Bt1Zw0n192DM72Ii0d",
    "0m1Lx0BFZw0Hi1Gb030Km1Ce1Cn0E81E32E01Gx0WM6021Bn031Ep0c0g0Bt0CZw1BJh4B83F91D93Dj2Dl160g1Cg1",
    "11D00Ia1D91Kd15eCx1Gx2Od010Gz1Cf1Lo1T81C21UOh1Dp0Bt1b0Pd1I80VIu0IEo0"]
  | .softDotted => .ofTable <| String.join [
    "Cx1Fg0Ht0u0Bg0k0Iw0Cq010GW10Bf0d030Do0Ed0Lp0Fy1DBm0ELWl1Be1Be1Be1Be1Be1Be1Be1Be1Be1Be1Be1Be",
    "1CIm0Ih1q0"]
  | .terminalPunctuation => .ofTable <| String.join [
    "x0a010b130X2080O90Bl0C00e012F00B7a10Gj1Bi517v0H91BJ81Es045In1Vx7Vh0Dg2Bz1Ed230B3321Iq1Ju3Ei",
    "1a112t2F74Bq1Zw0n192DM72Ii0d040a01131Lw1BFZv1Hh2Gb4Km1Ce1Cn0E72E32Dj0g1Gx0WM6021Bl213Ep0a01",
    "0b130Bt020BE20Bc0BG60Fj0Im1E85Bw5Ch3BAg4B83F96D43Dj2Dl160g1Cg4D00Ia1D92c1Jy33eCx1Gx2Od010Gz",
    "1Cf141Li2B90Rx1C21BKr4TDl1Dp0Bt2a0Pd1I71VIu0IEn3"]
  | .unifiedIdeograph =>
    .ofTable "OFsHB3BsWL3YQe11011a0101122CTPyBTQnwELd6G52GE1eHZkfR9EVeFH65EMf"
  | .uppercase => capital
  | .variationSelector => selectors
  | .whiteSpace => blanks
  | .xidContinue => continuing \ unstableContinuations
  | .xidStart => starting \ unstableStarts

end Trait

end Playbook.Text
