/-!
The names that the Unicode Character Database gives to properties of characters and to their values,
in lower case and without blanks, underscores and hyphens. Values that no character has are left out.
-/

namespace FilterLexicon.Pattern

/-- Properties that a character has or has not. -/
def binaryProperties : List String :=
  ["ahex", "asciihexdigit", "alpha", "alphabetic", "bidic", "bidicontrol", "bidim",
    "bidimirrored", "cased", "ci", "caseignorable", "cwcf", "changeswhencasefolded", "cwcm",
    "changeswhencasemapped", "cwl", "changeswhenlowercased", "cwt", "changeswhentitlecased",
    "cwu", "changeswhenuppercased", "dash", "dep", "deprecated", "di",
    "defaultignorablecodepoint", "dia", "diacritic", "ebase", "emojimodifierbase", "ecomp",
    "emojicomponent", "emod", "emojimodifier", "emoji", "epres", "emojipresentation", "ext",
    "extender", "extpict", "extendedpictographic", "grbase", "graphemebase", "grext",
    "graphemeextend", "grlink", "graphemelink", "hex", "hexdigit", "hyphen", "idc", "idcontinue",
    "idcompatmathcontinue", "idcompatmathstart", "ideo", "ideographic", "ids", "idstart", "idsb",
    "idsbinaryoperator", "idst", "idstrinaryoperator", "idsu", "idsunaryoperator", "joinc",
    "joincontrol", "loe", "logicalorderexception", "lower", "lowercase", "math", "mcm",
    "modifiercombiningmark", "nchar", "noncharactercodepoint", "oalpha", "otheralphabetic",
    "odi", "otherdefaultignorablecodepoint", "ogrext", "othergraphemeextend", "oidc",
    "otheridcontinue", "oids", "otheridstart", "olower", "otherlowercase", "omath", "othermath",
    "oupper", "otheruppercase", "patsyn", "patternsyntax", "patws", "patternwhitespace", "pcm",
    "prependedconcatenationmark", "qmark", "quotationmark", "radical", "ri", "regionalindicator",
    "sd", "softdotted", "sterm", "sentenceterminal", "term", "terminalpunctuation", "uideo",
    "unifiedideograph", "upper", "uppercase", "vs", "variationselector", "wspace", "whitespace",
    "space", "xidc", "xidcontinue", "xids", "xidstart"]

/-- Values of the general category. -/
def generalCategories : List String :=
  ["c", "other", "cc", "control", "cntrl", "cf", "format", "cn", "unassigned", "co",
    "privateuse", "l", "letter", "lc", "casedletter", "ll", "lowercaseletter", "lm",
    "modifierletter", "lo", "otherletter", "lt", "titlecaseletter", "lu", "uppercaseletter", "m",
    "mark", "combiningmark", "mc", "spacingmark", "me", "enclosingmark", "mn", "nonspacingmark",
    "n", "number", "nd", "decimalnumber", "digit", "nl", "letternumber", "no", "othernumber",
    "p", "punctuation", "punct", "pc", "connectorpunctuation", "pd", "dashpunctuation", "pe",
    "closepunctuation", "pf", "finalpunctuation", "pi", "initialpunctuation", "po",
    "otherpunctuation", "ps", "openpunctuation", "s", "symbol", "sc", "currencysymbol", "sk",
    "modifiersymbol", "sm", "mathsymbol", "so", "othersymbol", "z", "separator", "zl",
    "lineseparator", "zp", "paragraphseparator", "zs", "spaceseparator", "any", "assigned",
    "ascii"]

/-- Values of the script. -/
def scripts : List String :=
  ["adlm", "adlam", "aghb", "caucasianalbanian", "ahom", "arab", "arabic", "armi",
    "imperialaramaic", "armn", "armenian", "avst", "avestan", "bali", "balinese", "bamu",
    "bamum", "bass", "bassavah", "batk", "batak", "beng", "bengali", "berf", "beriaerfeh",
    "bhks", "bhaiksuki", "bopo", "bopomofo", "brah", "brahmi", "brai", "braille", "bugi",
    "buginese", "buhd", "buhid", "cakm", "chakma", "cans", "canadianaboriginal", "cari",
    "carian", "cham", "cher", "cherokee", "chrs", "chorasmian", "copt", "coptic", "qaac", "cpmn",
    "cyprominoan", "cprt", "cypriot", "cyrl", "cyrillic", "deva", "devanagari", "diak",
    "divesakuru", "dogr", "dogra", "dsrt", "deseret", "dupl", "duployan", "egyp",
    "egyptianhieroglyphs", "elba", "elbasan", "elym", "elymaic", "ethi", "ethiopic", "gara",
    "garay", "geor", "georgian", "glag", "glagolitic", "gong", "gunjalagondi", "gonm",
    "masaramgondi", "goth", "gothic", "gran", "grantha", "grek", "greek", "gujr", "gujarati",
    "gukh", "gurungkhema", "guru", "gurmukhi", "hang", "hangul", "hani", "han", "hano",
    "hanunoo", "hatr", "hatran", "hebr", "hebrew", "hira", "hiragana", "hluw",
    "anatolianhieroglyphs", "hmng", "pahawhhmong", "hmnp", "nyiakengpuachuehmong", "hung",
    "oldhungarian", "ital", "olditalic", "java", "javanese", "kali", "kayahli", "kana",
    "katakana", "kawi", "khar", "kharoshthi", "khmr", "khmer", "khoj", "khojki", "kits",
    "khitansmallscript", "knda", "kannada", "krai", "kiratrai", "kthi", "kaithi", "lana",
    "taitham", "laoo", "lao", "latn", "latin", "lepc", "lepcha", "limb", "limbu", "lina",
    "lineara", "linb", "linearb", "lisu", "lyci", "lycian", "lydi", "lydian", "mahj", "mahajani",
    "maka", "makasar", "mand", "mandaic", "mani", "manichaean", "marc", "marchen", "medf",
    "medefaidrin", "mend", "mendekikakui", "merc", "meroiticcursive", "mero",
    "meroitichieroglyphs", "mlym", "malayalam", "modi", "mong", "mongolian", "mroo", "mro",
    "mtei", "meeteimayek", "mult", "multani", "mymr", "myanmar", "nagm", "nagmundari", "nand",
    "nandinagari", "narb", "oldnortharabian", "nbat", "nabataean", "newa", "nkoo", "nko", "nshu",
    "nushu", "ogam", "ogham", "olck", "olchiki", "onao", "olonal", "orkh", "oldturkic", "orya",
    "oriya", "osge", "osage", "osma", "osmanya", "ougr", "olduyghur", "palm", "palmyrene",
    "pauc", "paucinhau", "perm", "oldpermic", "phag", "phagspa", "phli", "inscriptionalpahlavi",
    "phlp", "psalterpahlavi", "phnx", "phoenician", "plrd", "miao", "prti",
    "inscriptionalparthian", "rjng", "rejang", "rohg", "hanifirohingya", "runr", "runic", "samr",
    "samaritan", "sarb", "oldsoutharabian", "saur", "saurashtra", "sgnw", "signwriting", "shaw",
    "shavian", "shrd", "sharada", "sidd", "siddham", "sidt", "sidetic", "sind", "khudawadi",
    "sinh", "sinhala", "sogd", "sogdian", "sogo", "oldsogdian", "sora", "sorasompeng", "soyo",
    "soyombo", "sund", "sundanese", "sunu", "sunuwar", "sylo", "sylotinagri", "syrc", "syriac",
    "tagb", "tagbanwa", "takr", "takri", "tale", "taile", "talu", "newtailue", "taml", "tamil",
    "tang", "tangut", "tavt", "taiviet", "tayo", "taiyo", "telu", "telugu", "tfng", "tifinagh",
    "tglg", "tagalog", "thaa", "thaana", "thai", "tibt", "tibetan", "tirh", "tirhuta", "tnsa",
    "tangsa", "todr", "todhri", "tols", "tolongsiki", "toto", "tutg", "tulutigalari", "ugar",
    "ugaritic", "vaii", "vai", "vith", "vithkuqi", "wara", "warangciti", "wcho", "wancho",
    "xpeo", "oldpersian", "xsux", "cuneiform", "yezi", "yezidi", "yiii", "yi", "zanb",
    "zanabazarsquare", "zinh", "inherited", "qaai", "zyyy", "common"]

/-- Versions in which characters were assigned. -/
def ages : List String :=
  ["1.1", "v11", "2.0", "v20", "2.1", "v21", "3.0", "v30", "3.1", "v31", "3.2", "v32", "4.0",
    "v40", "4.1", "v41", "5.0", "v50", "5.1", "v51", "5.2", "v52", "6.0", "v60", "6.1", "v61",
    "6.2", "v62", "6.3", "v63", "7.0", "v70", "8.0", "v80", "9.0", "v90", "10.0", "v100", "11.0",
    "v110", "12.0", "v120", "12.1", "v121", "13.0", "v130", "14.0", "v140", "15.0", "v150",
    "15.1", "v151", "16.0", "v160", "17.0", "v170"]

/-- Values of the grapheme cluster break. -/
def clusterBreaks : List String :=
  ["cn", "control", "cr", "ex", "extend", "l", "lf", "lv", "lvt", "pp", "prepend", "ri",
    "regionalindicator", "sm", "spacingmark", "t", "v", "zwj"]

/-- Values of the word break. -/
def wordBreaks : List String :=
  ["le", "aletter", "cr", "dq", "doublequote", "extend", "ex", "extendnumlet", "fo", "format",
    "hl", "hebrewletter", "ka", "katakana", "lf", "ml", "midletter", "mn", "midnum", "mb",
    "midnumlet", "nl", "newline", "nu", "numeric", "ri", "regionalindicator", "sq",
    "singlequote", "wsegspace", "zwj"]

/-- Values of the sentence break. -/
def sentenceBreaks : List String :=
  ["at", "aterm", "cr", "cl", "close", "ex", "extend", "fo", "format", "lf", "lo", "lower", "nu",
    "numeric", "le", "oletter", "sc", "scontinue", "st", "sterm", "se", "sep", "sp", "up",
    "upper"]

end FilterLexicon.Pattern
