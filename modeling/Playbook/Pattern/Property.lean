/-
  Properties of characters that patterns can name: general categories, scripts, binary properties,
  versions of the standard and the classes of text segmentation. All are those of the sixteenth
  edition of the Unicode character database.
-/
import Playbook.Text.Age
import Playbook.Text.Segment
import Playbook.Pattern.Written

namespace Playbook.Pattern

open Playbook.Text

/-- A name as it is looked up: letters of ASCII in small letters, without spaces, hyphens,
underscores and characters outside ASCII, and without `is` in front. What is left of `isc` keeps
its `is`. -/
def loosely (name : List Char) : String :=
  let begun := (name.take 2).map Char.toLower == ['i', 's']
  let kept := (lowerAscii (if begun then name.drop 2 else name)).filter fun c =>
    c.toNat < 0x80 && c != ' ' && c != '_' && c != '-'
  if begun && kept == ['c'] then "isc" else String.ofList kept

/-! ## Names -/

/-- The names of the binary properties. -/
def traitNames : List (Trait × List String) :=
  [(.alphabetic, ["alpha", "alphabetic"]), (.asciiHexDigit, ["ahex", "asciihexdigit"]),
    (.bidiControl, ["bidic", "bidicontrol"]), (.bidiMirrored, ["bidim", "bidimirrored"]),
    (.caseIgnorable, ["ci", "caseignorable"]), (.cased, ["cased"]),
    (.changesWhenCasefolded, ["cwcf", "changeswhencasefolded"]),
    (.changesWhenCasemapped, ["cwcm", "changeswhencasemapped"]),
    (.changesWhenLowercased, ["cwl", "changeswhenlowercased"]),
    (.changesWhenTitlecased, ["cwt", "changeswhentitlecased"]),
    (.changesWhenUppercased, ["cwu", "changeswhenuppercased"]), (.dash, ["dash"]),
    (.defaultIgnorableCodePoint, ["di", "defaultignorablecodepoint"]),
    (.deprecated, ["dep", "deprecated"]), (.diacritic, ["dia", "diacritic"]),
    (.emoji, ["emoji"]), (.emojiComponent, ["ecomp", "emojicomponent"]),
    (.emojiModifier, ["emod", "emojimodifier"]),
    (.emojiModifierBase, ["ebase", "emojimodifierbase"]),
    (.emojiPresentation, ["epres", "emojipresentation"]),
    (.extendedPictographic, ["extpict", "extendedpictographic"]),
    (.extender, ["ext", "extender"]), (.graphemeBase, ["grbase", "graphemebase"]),
    (.graphemeExtend, ["grext", "graphemeextend"]), (.graphemeLink, ["grlink", "graphemelink"]),
    (.hexDigit, ["hex", "hexdigit"]), (.hyphen, ["hyphen"]),
    (.idCompatMathContinue, ["idcompatmathcontinue"]),
    (.idCompatMathStart, ["idcompatmathstart"]), (.idContinue, ["idc", "idcontinue"]),
    (.idStart, ["ids", "idstart"]), (.ideographic, ["ideo", "ideographic"]),
    (.idsBinaryOperator, ["idsb", "idsbinaryoperator"]),
    (.idsTrinaryOperator, ["idst", "idstrinaryoperator"]),
    (.idsUnaryOperator, ["idsu", "idsunaryoperator"]), (.joinControl, ["joinc", "joincontrol"]),
    (.logicalOrderException, ["loe", "logicalorderexception"]),
    (.lowercase, ["lower", "lowercase"]), (.math, ["math"]),
    (.modifierCombiningMark, ["mcm", "modifiercombiningmark"]),
    (.noncharacterCodePoint, ["nchar", "noncharactercodepoint"]),
    (.otherAlphabetic, ["oalpha", "otheralphabetic"]),
    (.otherDefaultIgnorableCodePoint, ["odi", "otherdefaultignorablecodepoint"]),
    (.otherGraphemeExtend, ["ogrext", "othergraphemeextend"]),
    (.otherIdContinue, ["oidc", "otheridcontinue"]), (.otherIdStart, ["oids", "otheridstart"]),
    (.otherLowercase, ["olower", "otherlowercase"]), (.otherMath, ["omath", "othermath"]),
    (.otherUppercase, ["oupper", "otheruppercase"]),
    (.patternSyntax, ["patsyn", "patternsyntax"]),
    (.patternWhiteSpace, ["patws", "patternwhitespace"]),
    (.prependedConcatenationMark, ["pcm", "prependedconcatenationmark"]),
    (.quotationMark, ["qmark", "quotationmark"]), (.radical, ["radical"]),
    (.regionalIndicator, ["ri", "regionalindicator"]),
    (.sentenceTerminal, ["sterm", "sentenceterminal"]), (.softDotted, ["sd", "softdotted"]),
    (.terminalPunctuation, ["term", "terminalpunctuation"]),
    (.unifiedIdeograph, ["uideo", "unifiedideograph"]), (.uppercase, ["upper", "uppercase"]),
    (.variationSelector, ["vs", "variationselector"]),
    (.whiteSpace, ["space", "whitespace", "wspace"]), (.xidContinue, ["xidc", "xidcontinue"]),
    (.xidStart, ["xids", "xidstart"])]

/-- The properties that have values of their own. -/
inductive ValuedProperty where
  | category
  | script
  | scriptExtensions
  | age
  | characterBreak
  | wordBreak
  | sentenceBreak
  deriving Repr, DecidableEq

/-- The names of the properties that have values. -/
def valuedNames : List (ValuedProperty × List String) :=
  [(.category, ["gc", "generalcategory"]), (.script, ["sc", "script"]),
    (.scriptExtensions, ["scx", "scriptextensions"]), (.age, ["age"]),
    (.characterBreak, ["gcb", "graphemeclusterbreak"]), (.wordBreak, ["wb", "wordbreak"]),
    (.sentenceBreak, ["sb", "sentencebreak"])]

/-- The names of the properties that the database has and patterns cannot ask for. -/
def otherNames : List String :=
  ["cjkaccountingnumeric", "kaccountingnumeric", "cjkothernumeric", "kothernumeric",
    "cjkprimarynumeric", "kprimarynumeric", "nv", "numericvalue", "bmg", "bidimirroringglyph",
    "bpb", "bidipairedbracket", "cf", "casefolding", "cjkcompatibilityvariant",
    "kcompatibilityvariant", "dm", "decompositionmapping", "equideo",
    "equivalentunifiedideograph", "fcnfkc", "fcnfkcclosure", "lc", "lowercasemapping", "nfkccf",
    "nfkccasefold", "nfkcscf", "nfkcsimplecasefold", "scf", "simplecasefolding", "sfc", "slc",
    "simplelowercasemapping", "stc", "simpletitlecasemapping", "suc", "simpleuppercasemapping",
    "tc", "titlecasemapping", "uc", "uppercasemapping", "cjkiicore", "kiicore", "cjkirggsource",
    "kirggsource", "cjkirghsource", "kirghsource", "cjkirgjsource", "kirgjsource",
    "cjkirgkpsource", "kirgkpsource", "cjkirgksource", "kirgksource", "cjkirgmsource",
    "kirgmsource", "cjkirgssource", "kirgssource", "cjkirgtsource", "kirgtsource",
    "cjkirguksource", "kirguksource", "cjkirgusource", "kirgusource", "cjkirgvsource",
    "kirgvsource", "cjkrsunicode", "krsunicode", "unicoderadicalstroke", "urs", "isc",
    "isocomment", "jsn", "jamoshortname", "kehcat", "kehdesc", "kehhg", "kehifao", "kehjsesh",
    "na", "name", "na1", "unicode1name", "namealias", "blk", "block", "bc", "bidiclass", "bpt",
    "bidipairedbrackettype", "ccc", "canonicalcombiningclass", "dt", "decompositiontype", "ea",
    "eastasianwidth", "hst", "hangulsyllabletype", "incb", "indicconjunctbreak", "inpc",
    "indicpositionalcategory", "insc", "indicsyllabiccategory", "jg", "joininggroup", "jt",
    "joiningtype", "lb", "linebreak", "nfcqc", "nfcquickcheck", "nfdqc", "nfdquickcheck",
    "nfkcqc", "nfkcquickcheck", "nfkdqc", "nfkdquickcheck", "nt", "numerictype", "vo",
    "verticalorientation", "ce", "compositionexclusion", "compex", "fullcompositionexclusion",
    "cwkcf", "changeswhennfkccasefolded", "kehnomirror", "kehnorotate", "xonfc", "expandsonnfc",
    "xonfd", "expandsonnfd", "xonfkc", "expandsonnfkc", "xonfkd", "expandsonnfkd"]

/-- The names of the general categories and of groups of them. -/
def categoryNames : List (List String × List Category) :=
  [(["c", "other"], Category.others), (["cc", "control", "cntrl"], [.control]),
    (["cf", "format"], [.format]), (["cn", "unassigned"], [.unassigned]),
    (["co", "privateuse"], [.privateUse]), (["l", "letter"], Category.letters),
    (["lc", "casedletter"], [.uppercaseLetter, .lowercaseLetter, .titlecaseLetter]),
    (["ll", "lowercaseletter"], [.lowercaseLetter]),
    (["lm", "modifierletter"], [.modifierLetter]), (["lo", "otherletter"], [.otherLetter]),
    (["lt", "titlecaseletter"], [.titlecaseLetter]),
    (["lu", "uppercaseletter"], [.uppercaseLetter]),
    (["m", "mark", "combiningmark"], Category.marks), (["mc", "spacingmark"], [.spacingMark]),
    (["me", "enclosingmark"], [.enclosingMark]), (["mn", "nonspacingmark"], [.nonspacingMark]),
    (["n", "number"], Category.numbers),
    (["nd", "decimalnumber", "digit"], [.decimalNumber]),
    (["nl", "letternumber"], [.letterNumber]), (["no", "othernumber"], [.otherNumber]),
    (["p", "punctuation", "punct"], Category.punctuation),
    (["pc", "connectorpunctuation"], [.connectorPunctuation]),
    (["pd", "dashpunctuation"], [.dashPunctuation]),
    (["pe", "closepunctuation"], [.closePunctuation]),
    (["pf", "finalpunctuation"], [.finalPunctuation]),
    (["pi", "initialpunctuation"], [.initialPunctuation]),
    (["po", "otherpunctuation"], [.otherPunctuation]),
    (["ps", "openpunctuation"], [.openPunctuation]), (["s", "symbol"], Category.symbols),
    (["sc", "currencysymbol"], [.currencySymbol]),
    (["sk", "modifiersymbol"], [.modifierSymbol]), (["sm", "mathsymbol"], [.mathSymbol]),
    (["so", "othersymbol"], [.otherSymbol]), (["z", "separator"], Category.separators),
    (["zl", "lineseparator"], [.lineSeparator]),
    (["zp", "paragraphseparator"], [.paragraphSeparator]),
    (["zs", "spaceseparator"], [.spaceSeparator])]

/-- The names of categories and scripts that no character of a text can have. -/
def vacantNames : List String :=
  ["cs", "surrogate", "hrkt", "katakanaorhiragana", "zzzz", "unknown"]

/-- The names of categories that are also names of properties; they stand for the categories. -/
def ambiguousNames : List String := ["cf", "sc", "lc"]

/-! ## Classes -/

/-- The characters of the category with this name. -/
def categoryNamed? (name : String) : Option CharSet :=
  match name with
  | "any" => some .full
  | "ascii" => some (.range '\x00' '\x7f')
  | "assigned" => some (Edition.sixteenth.inCategories [.unassigned]).complement
  | _ =>
    (categoryNames.find? fun entry => entry.1.contains name).map fun entry =>
      Edition.sixteenth.inCategories entry.2

/-- Whether the name is that of a property. -/
def isPropertyName (name : String) : Bool :=
  (traitNames.any fun entry => entry.2.contains name) ||
    (valuedNames.any fun entry => entry.2.contains name) || otherNames.contains name

/-- The characters that a name alone stands for: those of a binary property, a category or a
script. -/
def classNamed (name : String) : Except FaultKind CharSet :=
  if isPropertyName name && !ambiguousNames.contains name then
    match traitNames.find? fun entry => entry.2.contains name with
    | some entry => .ok entry.1.set
    | none => .error .propertyUnknown
  else if vacantNames.contains name then .error .propertyValueUnknown
  else match categoryNamed? name, scriptNamed? name with
    | some c, _ => .ok c
    | none, some script => .ok (inScript script)
    | none, none => .error .propertyUnknown

/-- The characters for which a property has a value. -/
def classValued? (property : ValuedProperty) (value : String) : Option CharSet :=
  match property with
  | .category => categoryNamed? value
  | .script => (scriptNamed? value).map inScript
  | .scriptExtensions => (scriptNamed? value).map usedInScript
  | .age => (versionNamed? value).map broughtBy
  | .characterBreak => Segment.forCharacters? value
  | .wordBreak => Segment.forWords? value
  | .sentenceBreak => Segment.forSentences? value

namespace PropertyQuery

/-- The characters that are asked for, before the sense is turned around. -/
def answer : PropertyQuery → Except FaultKind CharSet
  | named name => classNamed (loosely name)
  | valued name value _ =>
    let name := loosely name
    match valuedNames.find? fun entry => entry.2.contains name with
    | some entry =>
      match classValued? entry.1 (loosely value) with
      | some c => .ok c
      | none => .error .propertyValueUnknown
    | none =>
      if isPropertyName name then .error .propertyValueUnknown else .error .propertyUnknown

/-- Whether the characters without the value are asked for. -/
def isUnequal : PropertyQuery → Bool
  | named _ => false
  | valued _ _ unequal => unequal

end PropertyQuery

end Playbook.Pattern
