import LicenseHeader.Regex.CharSet
import LicenseHeader.Text.Age
import LicenseHeader.Text.Category
import LicenseHeader.Text.Property
import LicenseHeader.Text.Script

/-!
# Properties of characters

A regular expression can name a set of characters by a property: a general category or a group of
categories, a script, the scripts that use a character, the version that has it, or a property that it
has or has not.  Letter case, blanks, low lines and hyphens in such a name do not count, nor does "is" at
its start.  The classes by which texts are cut into sentences, words and graphemes are left out.
-/

namespace LicenseHeader

namespace Property

/-- A name without what does not count. -/
def normalize (name : Text) : Text :=
  let start := (name.take 2).map Char.toLower
  let rest := if start = "is".toList then name.drop 2 else name
  let kept := (rest.filter fun c => c.toNat < 0x80 && c != ' ' && c != '_' && c != '-').map Char.toLower
  if start = "is".toList ∧ kept = ['c'] then "isc".toList else kept

def ofCategories (cs : List Category) : CharSet :=
  cs.foldr (fun c s => .union (.ranges c.ranges) s) .empty

/-- The characters with a category. -/
def assigned : CharSet := ofCategories Category.all

/-- The names of the categories and of the groups of categories. -/
def categoryNames : List (List String × List Category) :=
  [(["lu", "uppercaseletter"], [.uppercaseLetter]),
    (["ll", "lowercaseletter"], [.lowercaseLetter]),
    (["lt", "titlecaseletter"], [.titlecaseLetter]),
    (["lc", "casedletter"], [.uppercaseLetter, .lowercaseLetter, .titlecaseLetter]),
    (["lm", "modifierletter"], [.modifierLetter]),
    (["lo", "otherletter"], [.otherLetter]),
    (["l", "letter"],
      [.uppercaseLetter, .lowercaseLetter, .titlecaseLetter, .modifierLetter, .otherLetter]),
    (["mn", "nonspacingmark"], [.nonspacingMark]),
    (["mc", "spacingmark"], [.spacingMark]),
    (["me", "enclosingmark"], [.enclosingMark]),
    (["m", "mark", "combiningmark"], [.nonspacingMark, .spacingMark, .enclosingMark]),
    (["nd", "decimalnumber", "digit"], [.decimalNumber]),
    (["nl", "letternumber"], [.letterNumber]),
    (["no", "othernumber"], [.otherNumber]),
    (["n", "number"], [.decimalNumber, .letterNumber, .otherNumber]),
    (["pc", "connectorpunctuation"], [.connectorPunctuation]),
    (["pd", "dashpunctuation"], [.dashPunctuation]),
    (["ps", "openpunctuation"], [.openPunctuation]),
    (["pe", "closepunctuation"], [.closePunctuation]),
    (["pi", "initialpunctuation"], [.initialPunctuation]),
    (["pf", "finalpunctuation"], [.finalPunctuation]),
    (["po", "otherpunctuation"], [.otherPunctuation]),
    (["p", "punctuation", "punct"],
      [.connectorPunctuation, .dashPunctuation, .openPunctuation, .closePunctuation,
        .initialPunctuation, .finalPunctuation, .otherPunctuation]),
    (["sm", "mathsymbol"], [.mathSymbol]),
    (["sc", "currencysymbol"], [.currencySymbol]),
    (["sk", "modifiersymbol"], [.modifierSymbol]),
    (["so", "othersymbol"], [.otherSymbol]),
    (["s", "symbol"], [.mathSymbol, .currencySymbol, .modifierSymbol, .otherSymbol]),
    (["zs", "spaceseparator"], [.spaceSeparator]),
    (["zl", "lineseparator"], [.lineSeparator]),
    (["zp", "paragraphseparator"], [.paragraphSeparator]),
    (["z", "separator"], [.spaceSeparator, .lineSeparator, .paragraphSeparator]),
    (["cc", "control", "cntrl"], [.control]),
    (["cf", "format"], [.format]),
    (["co", "privateuse"], [.privateUse])]

def category? (name : Text) : Option CharSet :=
  match categoryNames.find? fun entry => entry.1.any (·.toList == name) with
  | some (_, cs) => some (ofCategories cs)
  | none =>
    match String.ofList name with
    | "cn" | "unassigned" => some assigned.compl
    | "c" | "other" =>
      some (.union assigned.compl (ofCategories [.control, .format, .privateUse]))
    | "any" => some CharSet.empty.compl
    | "assigned" => some assigned
    | "ascii" => some (.ranges [(0x0, 0x7F)])
    | _ => none

def script? (name : Text) : Option CharSet :=
  (Script.all.find? fun s => s.names.any (·.toList == name)).map fun s => .ranges s.ranges

/-- The set of the characters that a script uses. -/
def scriptExtensions? (name : Text) : Option CharSet :=
  (Script.all.find? fun s => s.names.any (·.toList == name)).map fun s =>
    let shared := Script.extensions.filter fun entry => entry.2.any s.names.contains
    .union (.diff (.ranges s.ranges) (.ranges (Script.extensions.map Prod.fst)))
      (.ranges (shared.map Prod.fst))

/-- The set of the characters that a version and the versions before it have. -/
def age? (name : Text) : Option CharSet :=
  let isNamed := fun (entry : String × List (Nat × Nat)) =>
    entry.1.toList == name || 'v' :: entry.1.toList.filter (· != '.') == name
  (Age.all.findIdx? isNamed).map fun i =>
    (Age.all.take (i + 1)).foldr (fun entry s => .union (.ranges entry.2) s) .empty

def letters : CharSet :=
  ofCategories [.uppercaseLetter, .lowercaseLetter, .titlecaseLetter, .modifierLetter, .otherLetter,
    .letterNumber]

def uppercase : CharSet :=
  .union (ofCategories [.uppercaseLetter]) (.ranges otherUppercaseRanges)

def lowercase : CharSet :=
  .union (ofCategories [.lowercaseLetter]) (.ranges otherLowercaseRanges)

/-- The characters that lower case changes. -/
def lowered : CharSet :=
  .diff (.union uppercase (ofCategories [.titlecaseLetter])) (.ranges fixedUppercaseRanges)

/-- The characters that upper case changes. -/
def raised : CharSet :=
  .diff (.union lowercase (ofCategories [.titlecaseLetter])) (.ranges fixedLowercaseRanges)

/-- The characters that title case changes. -/
def titled : CharSet :=
  .diff (.union raised (.ranges titlecasedOnlyRanges)) (.ranges untitlecasedRanges)

def graphemeExtend : CharSet :=
  .union (ofCategories [.nonspacingMark, .enclosingMark]) (.ranges otherGraphemeExtendRanges)

/-- The characters that patterns keep for themselves. -/
def patternCharacters : CharSet :=
  .union (.ranges patternSyntaxRanges) (.ranges patternWhiteSpaceRanges)

def idStart : CharSet := .diff (.union letters (.ranges otherIdStartRanges)) patternCharacters

def idContinue : CharSet :=
  let more := ofCategories [.nonspacingMark, .spacingMark, .decimalNumber, .connectorPunctuation]
  .diff (.union idStart (.union more (.ranges otherIdContinueRanges))) patternCharacters

/-- The names and sets of the properties that a character has or has not, those that follow from
categories first. -/
def binaryProperties : List (List String × CharSet) :=
  [(["alphabetic", "alpha"], .union letters (.ranges otherAlphabeticRanges)),
    (["lowercase", "lower"], lowercase),
    (["uppercase", "upper"], uppercase),
    (["math"], .union (ofCategories [.mathSymbol]) (.ranges otherMathRanges)),
    (["changeswhenlowercased", "cwl"], lowered),
    (["changeswhenuppercased", "cwu"], raised),
    (["changeswhentitlecased", "cwt"], titled),
    (["changeswhencasefolded", "cwcf"],
      .diff (.union lowered (.ranges foldedOnlyRanges)) (.ranges unfoldedRanges)),
    (["changeswhencasemapped", "cwcm"], .union lowered (.union raised titled)),
    (["graphemeextend", "grext"], graphemeExtend),
    (["graphemebase", "grbase"],
      .diff assigned (.union graphemeExtend (ofCategories
        [.control, .format, .privateUse, .lineSeparator, .paragraphSeparator]))),
    (["idstart", "ids"], idStart),
    (["idcontinue", "idc"], idContinue),
    (["xidstart", "xids"], .diff idStart (.ranges unstableIdStartRanges)),
    (["xidcontinue", "xidc"], .diff idContinue (.ranges unstableIdContinueRanges)),
    (["whitespace", "wspace", "space"], .spaces),
    (["cased"], .ranges casedRanges),
    (["caseignorable", "ci"], .ranges caseIgnorableRanges),
    (["emoji"], .ranges emojiRanges),
    (["emojicomponent", "ecomp"], .ranges emojiComponentRanges),
    (["emojimodifier", "emod"], .ranges [(0x1F3FB, 0x1F3FF)]),
    (["emojimodifierbase", "ebase"], .ranges emojiModifierBaseRanges),
    (["emojipresentation", "epres"], .ranges emojiPresentationRanges),
    (["extendedpictographic", "extpict"], .ranges pictographicRanges),
    (["bidicontrol", "bidic"], .ranges bidiControlRanges),
    (["bidimirrored", "bidim"], .ranges bidiMirroredRanges),
    (["dash"], .ranges dashesRanges),
    (["defaultignorablecodepoint", "di"], .ranges defaultIgnorableRanges),
    (["deprecated", "dep"], .ranges deprecatedRanges),
    (["diacritic", "dia"], .ranges diacriticRanges),
    (["extender", "ext"], .ranges extenderRanges),
    (["graphemelink", "grlink"], .ranges graphemeLinkRanges),
    (["hexdigit", "hex"], .ranges hexDigitsRanges),
    (["asciihexdigit", "ahex"], .ranges [(0x30, 0x39), (0x41, 0x46), (0x61, 0x66)]),
    (["hyphen"], .ranges hyphenRanges),
    (["ideographic", "ideo"], .ranges ideographicRanges),
    (["unifiedideograph", "uideo"], .ranges unifiedIdeographRanges),
    (["radical"], .ranges radicalRanges),
    (["idsbinaryoperator", "idsb"], .ranges [(0x2FF0, 0x2FF1), (0x2FF4, 0x2FFB)]),
    (["idstrinaryoperator", "idst"], .ranges [(0x2FF2, 0x2FF3)]),
    (["joincontrol", "joinc"], .ranges [(0x200C, 0x200D)]),
    (["logicalorderexception", "loe"], .ranges logicalOrderExceptionRanges),
    (["noncharactercodepoint", "nchar"], .ranges noncharacterRanges),
    (["patternsyntax", "patsyn"], .ranges patternSyntaxRanges),
    (["patternwhitespace", "patws"], .ranges patternWhiteSpaceRanges),
    (["prependedconcatenationmark", "pcm"], .ranges prependedConcatenationMarkRanges),
    (["quotationmark", "qmark"], .ranges quotationMarksRanges),
    (["regionalindicator", "ri"], .ranges [(0x1F1E6, 0x1F1FF)]),
    (["sentenceterminal", "sterm"], .ranges sentenceTerminalRanges),
    (["softdotted", "sd"], .ranges softDottedRanges),
    (["terminalpunctuation", "term"], .ranges terminalPunctuationRanges),
    (["variationselector", "vs"], .ranges variationSelectorRanges),
    (["otheralphabetic", "oalpha"], .ranges otherAlphabeticRanges),
    (["otherlowercase", "olower"], .ranges otherLowercaseRanges),
    (["otheruppercase", "oupper"], .ranges otherUppercaseRanges),
    (["othermath", "omath"], .ranges otherMathRanges),
    (["otherdefaultignorablecodepoint", "odi"], .ranges otherDefaultIgnorableRanges),
    (["othergraphemeextend", "ogrext"], .ranges otherGraphemeExtendRanges),
    (["otheridstart", "oids"], .ranges otherIdStartRanges),
    (["otheridcontinue", "oidc"], .ranges otherIdContinueRanges)]

def binary? (name : Text) : Option CharSet :=
  (binaryProperties.find? fun entry => entry.1.any (·.toList == name)).map Prod.snd

/-- The set that a single name stands for. -/
def named? (name : Text) : Option CharSet :=
  let key := normalize name
  binary? key <|> category? key <|> script? key

/-- The set of the characters for which a property has a value. -/
def valued? (property value : Text) : Option CharSet :=
  match String.ofList (normalize property) with
  | "gc" | "generalcategory" => category? (normalize value)
  | "sc" | "script" => script? (normalize value)
  | "scx" | "scriptextensions" => scriptExtensions? (normalize value)
  | "age" => age? (normalize value)
  | _ => none

/-- What stands before and after the first sign that a value differs. -/
def splitUnequal? : Text → Option (Text × Text)
  | [] => none
  | '!' :: '=' :: t => some ([], t)
  | c :: t => (splitUnequal? t).map fun (before, after) => (c :: before, after)

/-- The set that the text between braces stands for. -/
def ofText? (t : Text) : Option CharSet :=
  let before := fun (stop : Char) => t.takeWhile (· != stop)
  let after := fun (stop : Char) => (t.dropWhile (· != stop)).drop 1
  match splitUnequal? t with
  | some (property, value) => (valued? property value).map CharSet.compl
  | none =>
    if t.contains ':' then valued? (before ':') (after ':')
    else if t.contains '=' then valued? (before '=') (after '=')
    else named? t

end Property

end LicenseHeader
