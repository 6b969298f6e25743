import Precompiled.Text.Property.Break
import Precompiled.Text.Script.Extension

/-!
# Names of properties

Sets of characters of Unicode 16.0 by the names of properties and of their values. Case, blanks,
hyphens and low lines make no difference to a name, nor does a leading "is".
-/

namespace Precompiled.Text.Property

def categoryNames : List (List String × List Category) :=
  [(["l", "letter"], Category.letters), (["m", "mark", "combiningmark"], Category.marks),
   (["n", "number"], Category.numbers), (["p", "punctuation", "punct"], Category.punctuation),
   (["s", "symbol"], Category.symbols), (["z", "separator"], Category.separators),
   (["c", "other"], [.control, .format, .privateUse, .unassigned]),
   (["lc", "casedletter"], [.uppercaseLetter, .lowercaseLetter, .titlecaseLetter]),
   (["lu", "uppercaseletter"], [.uppercaseLetter]),
   (["ll", "lowercaseletter"], [.lowercaseLetter]),
   (["lt", "titlecaseletter"], [.titlecaseLetter]), (["lm", "modifierletter"], [.modifierLetter]),
   (["lo", "otherletter"], [.otherLetter]), (["mn", "nonspacingmark"], [.nonspacingMark]),
   (["mc", "spacingmark"], [.spacingMark]), (["me", "enclosingmark"], [.enclosingMark]),
   (["nd", "decimalnumber", "digit"], [.decimalNumber]), (["nl", "letternumber"], [.letterNumber]),
   (["no", "othernumber"], [.otherNumber]),
   (["pc", "connectorpunctuation"], [.connectorPunctuation]),
   (["pd", "dashpunctuation"], [.dashPunctuation]), (["ps", "openpunctuation"], [.openPunctuation]),
   (["pe", "closepunctuation"], [.closePunctuation]),
   (["pi", "initialpunctuation"], [.initialPunctuation]),
   (["pf", "finalpunctuation"], [.finalPunctuation]),
   (["po", "otherpunctuation"], [.otherPunctuation]), (["sm", "mathsymbol"], [.mathSymbol]),
   (["sc", "currencysymbol"], [.currencySymbol]), (["sk", "modifiersymbol"], [.modifierSymbol]),
   (["so", "othersymbol"], [.otherSymbol]), (["zs", "spaceseparator"], [.spaceSeparator]),
   (["zl", "lineseparator"], [.lineSeparator]),
   (["zp", "paragraphseparator"], [.paragraphSeparator]), (["cc", "control", "cntrl"], [.control]),
   (["cf", "format"], [.format]), (["co", "privateuse"], [.privateUse]),
   (["cn", "unassigned"], [.unassigned])]

def named : List (List String × CharSet) :=
  [(["asciihexdigit", "ahex"], CharSet.asciiHexDigits), (["alphabetic", "alpha"], alphabetic),
   (["bidicontrol", "bidic"], bidiControl), (["bidimirrored", "bidim"], bidiMirrored),
   (["caseignorable", "ci"], caseIgnorable), (["cased"], cased),
   (["changeswhencasefolded", "cwcf"], changesWhenCasefolded),
   (["changeswhencasemapped", "cwcm"], changesWhenCasemapped),
   (["changeswhenlowercased", "cwl"], changesWhenLowercased),
   (["changeswhentitlecased", "cwt"], changesWhenTitlecased),
   (["changeswhenuppercased", "cwu"], changesWhenUppercased), (["dash"], dash),
   (["defaultignorablecodepoint", "di"], defaultIgnorable), (["deprecated", "dep"], deprecated),
   (["diacritic", "dia"], diacritic), (["emoji"], emoji),
   (["emojicomponent", "ecomp"], emojiComponent), (["emojimodifier", "emod"], emojiModifier),
   (["emojimodifierbase", "ebase"], emojiModifierBase),
   (["emojipresentation", "epres"], emojiPresentation),
   (["extendedpictographic", "extpict"], extendedPictographic), (["extender", "ext"], extender),
   (["graphemebase", "grbase"], graphemeBase), (["graphemeextend", "grext"], graphemeExtend),
   (["graphemelink", "grlink"], graphemeLink), (["hexdigit", "hex"], hexDigit),
   (["hyphen"], hyphen), (["idsbinaryoperator", "idsb"], idsBinaryOperator),
   (["idstrinaryoperator", "idst"], idsTrinaryOperator),
   (["idsunaryoperator", "idsu"], idsUnaryOperator),
   (["idcompatmathcontinue"], idCompatMathContinue), (["idcompatmathstart"], idCompatMathStart),
   (["idcontinue", "idc"], idContinue), (["idstart", "ids"], idStart),
   (["ideographic", "ideo"], ideographic), (["joincontrol", "joinc"], joinControl),
   (["logicalorderexception", "loe"], logicalOrderException), (["lowercase", "lower"], lowercase),
   (["math"], math), (["modifiercombiningmark", "mcm"], modifierCombiningMark),
   (["noncharactercodepoint", "nchar"], noncharacter),
   (["otheralphabetic", "oalpha"], otherAlphabetic),
   (["otherdefaultignorablecodepoint", "odi"], otherDefaultIgnorable),
   (["othergraphemeextend", "ogrext"], otherGraphemeExtend),
   (["otheridcontinue", "oidc"], otherIdContinue), (["otheridstart", "oids"], otherIdStart),
   (["otherlowercase", "olower"], otherLowercase), (["othermath", "omath"], otherMath),
   (["otheruppercase", "oupper"], otherUppercase), (["patternsyntax", "patsyn"], patternSyntax),
   (["patternwhitespace", "patws"], patternWhiteSpace),
   (["prependedconcatenationmark", "pcm"], prependedConcatenationMark),
   (["quotationmark", "qmark"], quotationMark), (["radical"], radical),
   (["regionalindicator", "ri"], regionalIndicator),
   (["sentenceterminal", "sterm"], sentenceTerminal), (["softdotted", "sd"], softDotted),
   (["terminalpunctuation", "term"], terminalPunctuation),
   (["unifiedideograph", "uideo"], unifiedIdeograph), (["uppercase", "upper"], uppercase),
   (["variationselector", "vs"], variationSelector), (["whitespace", "space", "wspace"], blanks),
   (["xidcontinue", "xidc"], xidContinue), (["xidstart", "xids"], xidStart)]

/-- The names of properties of which nothing but the name is known. -/
def otherNames : List String :=
  ["bc", "bidiclass", "bidimirroringglyph", "bidipairedbracket", "bidipairedbrackettype", "blk",
   "block", "bmg", "bpb", "bpt", "canonicalcombiningclass", "casefolding", "ccc", "ce", "cf",
   "changeswhennfkccasefolded", "cjkaccountingnumeric", "cjkcompatibilityvariant", "cjkiicore",
   "cjkirggsource", "cjkirghsource", "cjkirgjsource", "cjkirgkpsource", "cjkirgksource",
   "cjkirgmsource", "cjkirgssource", "cjkirgtsource", "cjkirguksource", "cjkirgusource",
   "cjkirgvsource", "cjkothernumeric", "cjkprimarynumeric", "cjkrsunicode", "compex",
   "compositionexclusion", "cwkcf", "decompositionmapping", "decompositiontype", "dm", "dt", "ea",
   "eastasianwidth", "equideo", "equivalentunifiedideograph", "expandsonnfc", "expandsonnfd",
   "expandsonnfkc", "expandsonnfkd", "fcnfkc", "fcnfkcclosure", "fullcompositionexclusion",
   "hangulsyllabletype", "hst", "incb", "indicconjunctbreak", "indicpositionalcategory",
   "indicsyllabiccategory", "inpc", "insc", "isc", "jamoshortname", "jg", "joininggroup",
   "joiningtype", "jsn", "jt", "kaccountingnumeric", "kcompatibilityvariant", "kehcat", "kehdesc",
   "kehhg", "kehifao", "kehjsesh", "kehnomirror", "kehnorotate", "kiicore", "kirggsource",
   "kirghsource", "kirgjsource", "kirgkpsource", "kirgksource", "kirgmsource", "kirgssource",
   "kirgtsource", "kirguksource", "kirgusource", "kirgvsource", "kothernumeric", "kprimarynumeric",
   "krsunicode", "lb", "lc", "linebreak", "lowercasemapping", "na", "na1", "name", "namealias",
   "nfcqc", "nfcquickcheck", "nfdqc", "nfdquickcheck", "nfkccasefold", "nfkccf", "nfkcqc",
   "nfkcquickcheck", "nfkcscf", "nfkcsimplecasefold", "nfkdqc", "nfkdquickcheck", "nt",
   "numerictype", "numericvalue", "nv", "ocomment", "scf", "sfc", "simplecasefolding",
   "simplelowercasemapping", "simpletitlecasemapping", "simpleuppercasemapping", "slc", "stc",
   "suc", "tc", "titlecasemapping", "uc", "unicode1name", "unicoderadicalstroke",
   "uppercasemapping", "urs", "verticalorientation", "vo", "xonfc", "xonfd", "xonfkc", "xonfkd"]

/-- Names of categories and scripts that have no characters. -/
def emptyNames : List String :=
  ["cs", "surrogate", "zzzz", "unknown", "hrkt", "katakanaorhiragana"]

/-- A name in small letters and without what makes no difference. -/
def looseName (name : String) : String :=
  let chars := name.toList
  let headless := match chars with
    | first :: second :: rest =>
      if first.toLower = 'i' && second.toLower = 's' then rest else chars
    | _ => chars
  let kept := headless.filter fun c => c.toNat < 0x80 && !" _-".toList.contains c
  let loose := kept.map Char.toLower
  -- "isc" is a name of its own, and not the category "c".
  if loose = ['c'] && headless.length < chars.length then "isc" else String.ofList loose

def lookup? {α : Type} (table : List (List String × α)) (name : String) : Option α :=
  (table.find? (·.1.contains name)).map (·.2)

def category? (name : String) : Option CharSet :=
  if name = "any" then some [(0, CharSet.lastCodePoint)]
  else if name = "ascii" then some [(0, 0x7F)]
  else if name = "assigned" then
    some ((ofCategory .unassigned).complement CharSet.lastCodePoint)
  else (lookup? categoryNames name).map ofCategories

def age? (name : String) : Option CharSet :=
  (ages.findIdx? (·.1.contains name)).map fun n =>
    CharSet.ofRuns ((ages.take (n + 1)).flatMap Prod.snd)

abbrev Values := String → Option CharSet

def valued : List (List String × Values) :=
  [(["generalcategory", "gc"], category?), (["script", "sc"], lookup? scripts),
   (["scriptextensions", "scx"], charactersOfScript?), (["age"], age?),
   (["graphemeclusterbreak", "gcb"], lookup? clusterBreaks),
   (["wordbreak", "wb"], lookup? wordBreaks), (["sentencebreak", "sb"], lookup? sentenceBreaks)]

inductive Unknown where
  | property
  | value
  deriving DecidableEq, Repr

/-- The set of a property or of the value of one, which have names in common. -/
def ofName (name : String) : Except Unknown CharSet :=
  let name := looseName name
  if emptyNames.contains name then .error .value
  else
    match (lookup? named name).or ((category? name).or (lookup? scripts name)) with
    | some set => .ok set
    | none => .error .property

def values? (name : String) : Option Values :=
  (lookup? valued name).or
    (if otherNames.contains name || (lookup? named name).isSome then some fun _ => none else none)

def ofValue (property value : String) : Except Unknown CharSet :=
  match values? (looseName property) with
  | none => .error .property
  | some values =>
    match values (looseName value) with
    | some set => .ok set
    | none => .error .value

end Precompiled.Text.Property
