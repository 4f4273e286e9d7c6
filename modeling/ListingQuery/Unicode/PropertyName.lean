/-!
# Names of properties and of their values

The standard gives every property, and every value of one, a long and a short name.  Names are
compared loosely: case, blanks, hyphens, underscores and a leading `is` do not count.
-/

namespace ListingQuery.Unicode

/-- The loose form of a name: ASCII small letters without blanks, hyphens and underscores, and
without a leading `is`.  The name `isc` alone keeps it. -/
def looseName (name : List Char) : String :=
  let rest := match name with
    | a :: b :: rest => if (a = 'i' ∨ a = 'I') ∧ (b = 's' ∨ b = 'S') then rest else name
    | _ => name
  let kept := rest.filter fun c => c.toNat < 0x80 && c != ' ' && c != '_' && c != '-'
  let loose := String.ofList (kept.map Char.toLower)
  if rest.length < name.length ∧ loose = "c" then "isc" else loose

/-- The general categories, single and grouped, by loose name. -/
def categoryNames : List (String × List String) := [
  ("cc", ["Cc"]), ("control", ["Cc"]), ("cntrl", ["Cc"]), ("cf", ["Cf"]), ("format", ["Cf"]),
  ("co", ["Co"]), ("privateuse", ["Co"]), ("l", ["Ll", "Lm", "Lo", "Lt", "Lu"]),
  ("letter", ["Ll", "Lm", "Lo", "Lt", "Lu"]), ("lc", ["Lu", "Ll", "Lt"]),
  ("casedletter", ["Lu", "Ll", "Lt"]), ("ll", ["Ll"]), ("lowercaseletter", ["Ll"]),
  ("lm", ["Lm"]), ("modifierletter", ["Lm"]), ("lo", ["Lo"]), ("otherletter", ["Lo"]),
  ("lt", ["Lt"]), ("titlecaseletter", ["Lt"]), ("lu", ["Lu"]), ("uppercaseletter", ["Lu"]),
  ("m", ["Mc", "Me", "Mn"]), ("mark", ["Mc", "Me", "Mn"]), ("combiningmark", ["Mc", "Me", "Mn"]),
  ("mc", ["Mc"]), ("spacingmark", ["Mc"]), ("me", ["Me"]), ("enclosingmark", ["Me"]),
  ("mn", ["Mn"]), ("nonspacingmark", ["Mn"]), ("n", ["Nd", "Nl", "No"]),
  ("number", ["Nd", "Nl", "No"]), ("nd", ["Nd"]), ("decimalnumber", ["Nd"]), ("digit", ["Nd"]),
  ("nl", ["Nl"]), ("letternumber", ["Nl"]), ("no", ["No"]), ("othernumber", ["No"]),
  ("p", ["Pc", "Pd", "Pe", "Pf", "Pi", "Po", "Ps"]),
  ("punctuation", ["Pc", "Pd", "Pe", "Pf", "Pi", "Po", "Ps"]),
  ("punct", ["Pc", "Pd", "Pe", "Pf", "Pi", "Po", "Ps"]), ("pc", ["Pc"]),
  ("connectorpunctuation", ["Pc"]), ("pd", ["Pd"]), ("dashpunctuation", ["Pd"]), ("pe", ["Pe"]),
  ("closepunctuation", ["Pe"]), ("pf", ["Pf"]), ("finalpunctuation", ["Pf"]), ("pi", ["Pi"]),
  ("initialpunctuation", ["Pi"]), ("po", ["Po"]), ("otherpunctuation", ["Po"]), ("ps", ["Ps"]),
  ("openpunctuation", ["Ps"]), ("s", ["Sc", "Sk", "Sm", "So"]),
  ("symbol", ["Sc", "Sk", "Sm", "So"]), ("sc", ["Sc"]), ("currencysymbol", ["Sc"]),
  ("sk", ["Sk"]), ("modifiersymbol", ["Sk"]), ("sm", ["Sm"]), ("mathsymbol", ["Sm"]),
  ("so", ["So"]), ("othersymbol", ["So"]), ("z", ["Zl", "Zp", "Zs"]),
  ("separator", ["Zl", "Zp", "Zs"]), ("zl", ["Zl"]), ("lineseparator", ["Zl"]), ("zp", ["Zp"]),
  ("paragraphseparator", ["Zp"]), ("zs", ["Zs"]), ("spaceseparator", ["Zs"])]

/-- The scripts by loose name. -/
def scriptNames : List (String × String) := [
  ("adlm", "Adlam"), ("adlam", "Adlam"), ("aghb", "Caucasian_Albanian"),
  ("caucasianalbanian", "Caucasian_Albanian"), ("ahom", "Ahom"), ("arab", "Arabic"),
  ("arabic", "Arabic"), ("armi", "Imperial_Aramaic"), ("imperialaramaic", "Imperial_Aramaic"),
  ("armn", "Armenian"), ("armenian", "Armenian"), ("avst", "Avestan"), ("avestan", "Avestan"),
  ("bali", "Balinese"), ("balinese", "Balinese"), ("bamu", "Bamum"), ("bamum", "Bamum"),
  ("bass", "Bassa_Vah"), ("bassavah", "Bassa_Vah"), ("batk", "Batak"), ("batak", "Batak"),
  ("beng", "Bengali"), ("bengali", "Bengali"), ("bhks", "Bhaiksuki"), ("bhaiksuki", "Bhaiksuki"),
  ("bopo", "Bopomofo"), ("bopomofo", "Bopomofo"), ("brah", "Brahmi"), ("brahmi", "Brahmi"),
  ("brai", "Braille"), ("braille", "Braille"), ("bugi", "Buginese"), ("buginese", "Buginese"),
  ("buhd", "Buhid"), ("buhid", "Buhid"), ("cakm", "Chakma"), ("chakma", "Chakma"),
  ("cans", "Canadian_Aboriginal"), ("canadianaboriginal", "Canadian_Aboriginal"),
  ("cari", "Carian"), ("carian", "Carian"), ("cham", "Cham"), ("cher", "Cherokee"),
  ("cherokee", "Cherokee"), ("chrs", "Chorasmian"), ("chorasmian", "Chorasmian"),
  ("copt", "Coptic"), ("coptic", "Coptic"), ("qaac", "Coptic"), ("cpmn", "Cypro_Minoan"),
  ("cyprominoan", "Cypro_Minoan"), ("cprt", "Cypriot"), ("cypriot", "Cypriot"),
  ("cyrl", "Cyrillic"), ("cyrillic", "Cyrillic"), ("deva", "Devanagari"),
  ("devanagari", "Devanagari"), ("diak", "Dives_Akuru"), ("divesakuru", "Dives_Akuru"),
  ("dogr", "Dogra"), ("dogra", "Dogra"), ("dsrt", "Deseret"), ("deseret", "Deseret"),
  ("dupl", "Duployan"), ("duployan", "Duployan"), ("egyp", "Egyptian_Hieroglyphs"),
  ("egyptianhieroglyphs", "Egyptian_Hieroglyphs"), ("elba", "Elbasan"), ("elbasan", "Elbasan"),
  ("elym", "Elymaic"), ("elymaic", "Elymaic"), ("ethi", "Ethiopic"), ("ethiopic", "Ethiopic"),
  ("geor", "Georgian"), ("georgian", "Georgian"), ("glag", "Glagolitic"),
  ("glagolitic", "Glagolitic"), ("gong", "Gunjala_Gondi"), ("gunjalagondi", "Gunjala_Gondi"),
  ("gonm", "Masaram_Gondi"), ("masaramgondi", "Masaram_Gondi"), ("goth", "Gothic"),
  ("gothic", "Gothic"), ("gran", "Grantha"), ("grantha", "Grantha"), ("grek", "Greek"),
  ("greek", "Greek"), ("gujr", "Gujarati"), ("gujarati", "Gujarati"), ("guru", "Gurmukhi"),
  ("gurmukhi", "Gurmukhi"), ("hang", "Hangul"), ("hangul", "Hangul"), ("hani", "Han"),
  ("han", "Han"), ("hano", "Hanunoo"), ("hanunoo", "Hanunoo"), ("hatr", "Hatran"),
  ("hatran", "Hatran"), ("hebr", "Hebrew"), ("hebrew", "Hebrew"), ("hira", "Hiragana"),
  ("hiragana", "Hiragana"), ("hluw", "Anatolian_Hieroglyphs"),
  ("anatolianhieroglyphs", "Anatolian_Hieroglyphs"), ("hmng", "Pahawh_Hmong"),
  ("pahawhhmong", "Pahawh_Hmong"), ("hmnp", "Nyiakeng_Puachue_Hmong"),
  ("nyiakengpuachuehmong", "Nyiakeng_Puachue_Hmong"), ("hung", "Old_Hungarian"),
  ("oldhungarian", "Old_Hungarian"), ("ital", "Old_Italic"), ("olditalic", "Old_Italic"),
  ("java", "Javanese"), ("javanese", "Javanese"), ("kali", "Kayah_Li"), ("kayahli", "Kayah_Li"),
  ("kana", "Katakana"), ("katakana", "Katakana"), ("kawi", "Kawi"), ("khar", "Kharoshthi"),
  ("kharoshthi", "Kharoshthi"), ("khmr", "Khmer"), ("khmer", "Khmer"), ("khoj", "Khojki"),
  ("khojki", "Khojki"), ("kits", "Khitan_Small_Script"),
  ("khitansmallscript", "Khitan_Small_Script"), ("knda", "Kannada"), ("kannada", "Kannada"),
  ("kthi", "Kaithi"), ("kaithi", "Kaithi"), ("lana", "Tai_Tham"), ("taitham", "Tai_Tham"),
  ("laoo", "Lao"), ("lao", "Lao"), ("latn", "Latin"), ("latin", "Latin"), ("lepc", "Lepcha"),
  ("lepcha", "Lepcha"), ("limb", "Limbu"), ("limbu", "Limbu"), ("lina", "Linear_A"),
  ("lineara", "Linear_A"), ("linb", "Linear_B"), ("linearb", "Linear_B"), ("lisu", "Lisu"),
  ("lyci", "Lycian"), ("lycian", "Lycian"), ("lydi", "Lydian"), ("lydian", "Lydian"),
  ("mahj", "Mahajani"), ("mahajani", "Mahajani"), ("maka", "Makasar"), ("makasar", "Makasar"),
  ("mand", "Mandaic"), ("mandaic", "Mandaic"), ("mani", "Manichaean"),
  ("manichaean", "Manichaean"), ("marc", "Marchen"), ("marchen", "Marchen"),
  ("medf", "Medefaidrin"), ("medefaidrin", "Medefaidrin"), ("mend", "Mende_Kikakui"),
  ("mendekikakui", "Mende_Kikakui"), ("merc", "Meroitic_Cursive"),
  ("meroiticcursive", "Meroitic_Cursive"), ("mero", "Meroitic_Hieroglyphs"),
  ("meroitichieroglyphs", "Meroitic_Hieroglyphs"), ("mlym", "Malayalam"),
  ("malayalam", "Malayalam"), ("modi", "Modi"), ("mong", "Mongolian"),
  ("mongolian", "Mongolian"), ("mroo", "Mro"), ("mro", "Mro"), ("mtei", "Meetei_Mayek"),
  ("meeteimayek", "Meetei_Mayek"), ("mult", "Multani"), ("multani", "Multani"),
  ("mymr", "Myanmar"), ("myanmar", "Myanmar"), ("nagm", "Nag_Mundari"),
  ("nagmundari", "Nag_Mundari"), ("nand", "Nandinagari"), ("nandinagari", "Nandinagari"),
  ("narb", "Old_North_Arabian"), ("oldnortharabian", "Old_North_Arabian"), ("nbat", "Nabataean"),
  ("nabataean", "Nabataean"), ("newa", "Newa"), ("nkoo", "Nko"), ("nko", "Nko"),
  ("nshu", "Nushu"), ("nushu", "Nushu"), ("ogam", "Ogham"), ("ogham", "Ogham"),
  ("olck", "Ol_Chiki"), ("olchiki", "Ol_Chiki"), ("orkh", "Old_Turkic"),
  ("oldturkic", "Old_Turkic"), ("orya", "Oriya"), ("oriya", "Oriya"), ("osge", "Osage"),
  ("osage", "Osage"), ("osma", "Osmanya"), ("osmanya", "Osmanya"), ("ougr", "Old_Uyghur"),
  ("olduyghur", "Old_Uyghur"), ("palm", "Palmyrene"), ("palmyrene", "Palmyrene"),
  ("pauc", "Pau_Cin_Hau"), ("paucinhau", "Pau_Cin_Hau"), ("perm", "Old_Permic"),
  ("oldpermic", "Old_Permic"), ("phag", "Phags_Pa"), ("phagspa", "Phags_Pa"),
  ("phli", "Inscriptional_Pahlavi"), ("inscriptionalpahlavi", "Inscriptional_Pahlavi"),
  ("phlp", "Psalter_Pahlavi"), ("psalterpahlavi", "Psalter_Pahlavi"), ("phnx", "Phoenician"),
  ("phoenician", "Phoenician"), ("plrd", "Miao"), ("miao", "Miao"),
  ("prti", "Inscriptional_Parthian"), ("inscriptionalparthian", "Inscriptional_Parthian"),
  ("rjng", "Rejang"), ("rejang", "Rejang"), ("rohg", "Hanifi_Rohingya"),
  ("hanifirohingya", "Hanifi_Rohingya"), ("runr", "Runic"), ("runic", "Runic"),
  ("samr", "Samaritan"), ("samaritan", "Samaritan"), ("sarb", "Old_South_Arabian"),
  ("oldsoutharabian", "Old_South_Arabian"), ("saur", "Saurashtra"), ("saurashtra", "Saurashtra"),
  ("sgnw", "SignWriting"), ("signwriting", "SignWriting"), ("shaw", "Shavian"),
  ("shavian", "Shavian"), ("shrd", "Sharada"), ("sharada", "Sharada"), ("sidd", "Siddham"),
  ("siddham", "Siddham"), ("sind", "Khudawadi"), ("khudawadi", "Khudawadi"), ("sinh", "Sinhala"),
  ("sinhala", "Sinhala"), ("sogd", "Sogdian"), ("sogdian", "Sogdian"), ("sogo", "Old_Sogdian"),
  ("oldsogdian", "Old_Sogdian"), ("sora", "Sora_Sompeng"), ("sorasompeng", "Sora_Sompeng"),
  ("soyo", "Soyombo"), ("soyombo", "Soyombo"), ("sund", "Sundanese"), ("sundanese", "Sundanese"),
  ("sylo", "Syloti_Nagri"), ("sylotinagri", "Syloti_Nagri"), ("syrc", "Syriac"),
  ("syriac", "Syriac"), ("tagb", "Tagbanwa"), ("tagbanwa", "Tagbanwa"), ("takr", "Takri"),
  ("takri", "Takri"), ("tale", "Tai_Le"), ("taile", "Tai_Le"), ("talu", "New_Tai_Lue"),
  ("newtailue", "New_Tai_Lue"), ("taml", "Tamil"), ("tamil", "Tamil"), ("tang", "Tangut"),
  ("tangut", "Tangut"), ("tavt", "Tai_Viet"), ("taiviet", "Tai_Viet"), ("telu", "Telugu"),
  ("telugu", "Telugu"), ("tfng", "Tifinagh"), ("tifinagh", "Tifinagh"), ("tglg", "Tagalog"),
  ("tagalog", "Tagalog"), ("thaa", "Thaana"), ("thaana", "Thaana"), ("thai", "Thai"),
  ("tibt", "Tibetan"), ("tibetan", "Tibetan"), ("tirh", "Tirhuta"), ("tirhuta", "Tirhuta"),
  ("tnsa", "Tangsa"), ("tangsa", "Tangsa"), ("toto", "Toto"), ("ugar", "Ugaritic"),
  ("ugaritic", "Ugaritic"), ("vaii", "Vai"), ("vai", "Vai"), ("vith", "Vithkuqi"),
  ("vithkuqi", "Vithkuqi"), ("wara", "Warang_Citi"), ("warangciti", "Warang_Citi"),
  ("wcho", "Wancho"), ("wancho", "Wancho"), ("xpeo", "Old_Persian"),
  ("oldpersian", "Old_Persian"), ("xsux", "Cuneiform"), ("cuneiform", "Cuneiform"),
  ("yezi", "Yezidi"), ("yezidi", "Yezidi"), ("yiii", "Yi"), ("yi", "Yi"),
  ("zanb", "Zanabazar_Square"), ("zanabazarsquare", "Zanabazar_Square"), ("zinh", "Inherited"),
  ("inherited", "Inherited"), ("qaai", "Inherited"), ("zyyy", "Common"), ("common", "Common"),
  ("gara", "Garay"), ("garay", "Garay"), ("gukh", "Gurung_Khema"),
  ("gurungkhema", "Gurung_Khema"), ("krai", "Kirat_Rai"), ("kiratrai", "Kirat_Rai"),
  ("onao", "Ol_Onal"), ("olonal", "Ol_Onal"), ("sunu", "Sunuwar"), ("sunuwar", "Sunuwar"),
  ("todr", "Todhri"), ("todhri", "Todhri"), ("tutg", "Tulu_Tigalari"),
  ("tulutigalari", "Tulu_Tigalari"), ("berf", "Beria_Erfe"), ("beriaerfe", "Beria_Erfe"),
  ("sidt", "Sidetic"), ("sidetic", "Sidetic"), ("tayo", "Tai_Yo"), ("taiyo", "Tai_Yo"),
  ("tols", "Tolong_Siki"), ("tolongsiki", "Tolong_Siki")]

/-- The binary properties by loose name. -/
def binaryNames : List (String × String) := [
  ("asciihexdigit", "ASCII_Hex_Digit"), ("ahex", "ASCII_Hex_Digit"),
  ("alphabetic", "Alphabetic"), ("alpha", "Alphabetic"), ("bidicontrol", "Bidi_Control"),
  ("bidic", "Bidi_Control"), ("bidimirrored", "Bidi_Mirrored"), ("bidim", "Bidi_Mirrored"),
  ("caseignorable", "Case_Ignorable"), ("ci", "Case_Ignorable"), ("cased", "Cased"),
  ("changeswhencasefolded", "Changes_When_Casefolded"), ("cwcf", "Changes_When_Casefolded"),
  ("changeswhencasemapped", "Changes_When_Casemapped"), ("cwcm", "Changes_When_Casemapped"),
  ("changeswhenlowercased", "Changes_When_Lowercased"), ("cwl", "Changes_When_Lowercased"),
  ("changeswhentitlecased", "Changes_When_Titlecased"), ("cwt", "Changes_When_Titlecased"),
  ("changeswhenuppercased", "Changes_When_Uppercased"), ("cwu", "Changes_When_Uppercased"),
  ("dash", "Dash"), ("defaultignorablecodepoint", "Default_Ignorable_Code_Point"),
  ("di", "Default_Ignorable_Code_Point"), ("deprecated", "Deprecated"), ("dep", "Deprecated"),
  ("diacritic", "Diacritic"), ("dia", "Diacritic"), ("emoji", "Emoji"),
  ("emojicomponent", "Emoji_Component"), ("ecomp", "Emoji_Component"),
  ("emojimodifier", "Emoji_Modifier"), ("emod", "Emoji_Modifier"),
  ("emojimodifierbase", "Emoji_Modifier_Base"), ("ebase", "Emoji_Modifier_Base"),
  ("emojipresentation", "Emoji_Presentation"), ("epres", "Emoji_Presentation"),
  ("extendedpictographic", "Extended_Pictographic"), ("extpict", "Extended_Pictographic"),
  ("extender", "Extender"), ("ext", "Extender"), ("graphemebase", "Grapheme_Base"),
  ("grbase", "Grapheme_Base"), ("graphemeextend", "Grapheme_Extend"),
  ("grext", "Grapheme_Extend"), ("hexdigit", "Hex_Digit"), ("hex", "Hex_Digit"),
  ("idsbinaryoperator", "IDS_Binary_Operator"), ("idsb", "IDS_Binary_Operator"),
  ("idstrinaryoperator", "IDS_Trinary_Operator"), ("idst", "IDS_Trinary_Operator"),
  ("idcontinue", "ID_Continue"), ("idc", "ID_Continue"), ("idstart", "ID_Start"),
  ("ids", "ID_Start"), ("ideographic", "Ideographic"), ("ideo", "Ideographic"),
  ("joincontrol", "Join_Control"), ("joinc", "Join_Control"),
  ("logicalorderexception", "Logical_Order_Exception"), ("loe", "Logical_Order_Exception"),
  ("lowercase", "Lowercase"), ("lower", "Lowercase"), ("math", "Math"),
  ("noncharactercodepoint", "Noncharacter_Code_Point"), ("nchar", "Noncharacter_Code_Point"),
  ("patternsyntax", "Pattern_Syntax"), ("patsyn", "Pattern_Syntax"),
  ("patternwhitespace", "Pattern_White_Space"), ("patws", "Pattern_White_Space"),
  ("quotationmark", "Quotation_Mark"), ("qmark", "Quotation_Mark"), ("radical", "Radical"),
  ("regionalindicator", "Regional_Indicator"), ("ri", "Regional_Indicator"),
  ("sentenceterminal", "Sentence_Terminal"), ("sterm", "Sentence_Terminal"),
  ("softdotted", "Soft_Dotted"), ("sd", "Soft_Dotted"),
  ("terminalpunctuation", "Terminal_Punctuation"), ("term", "Terminal_Punctuation"),
  ("unifiedideograph", "Unified_Ideograph"), ("uideo", "Unified_Ideograph"),
  ("uppercase", "Uppercase"), ("upper", "Uppercase"),
  ("variationselector", "Variation_Selector"), ("vs", "Variation_Selector"),
  ("whitespace", "White_Space"), ("wspace", "White_Space"), ("space", "White_Space"),
  ("xidcontinue", "XID_Continue"), ("xidc", "XID_Continue"), ("xidstart", "XID_Start"),
  ("xids", "XID_Start")]

/-- The classes of grapheme boundaries by loose name. -/
def graphemeBreakNames : List (String × String) := [
  ("control", "Control"), ("cn", "Control"), ("lf", "LF"), ("cr", "CR"), ("extend", "Extend"),
  ("ex", "Extend"), ("prepend", "Prepend"), ("pp", "Prepend"), ("spacingmark", "SpacingMark"),
  ("sm", "SpacingMark"), ("l", "L"), ("v", "V"), ("t", "T"), ("zwj", "ZWJ"), ("lv", "LV"),
  ("lvt", "LVT"), ("regionalindicator", "Regional_Indicator"), ("ri", "Regional_Indicator")]

/-- The classes of word boundaries by loose name. -/
def wordBreakNames : List (String × String) := [
  ("lf", "LF"), ("newline", "Newline"), ("nl", "Newline"), ("cr", "CR"),
  ("doublequote", "Double_Quote"), ("dq", "Double_Quote"), ("singlequote", "Single_Quote"),
  ("sq", "Single_Quote"), ("midnum", "MidNum"), ("mn", "MidNum"), ("midnumlet", "MidNumLet"),
  ("mb", "MidNumLet"), ("numeric", "Numeric"), ("nu", "Numeric"), ("midletter", "MidLetter"),
  ("ml", "MidLetter"), ("aletter", "ALetter"), ("le", "ALetter"),
  ("extendnumlet", "ExtendNumLet"), ("ex", "ExtendNumLet"), ("format", "Format"),
  ("fo", "Format"), ("extend", "Extend"), ("hebrewletter", "Hebrew_Letter"),
  ("hl", "Hebrew_Letter"), ("zwj", "ZWJ"), ("katakana", "Katakana"), ("ka", "Katakana"),
  ("regionalindicator", "Regional_Indicator"), ("ri", "Regional_Indicator"),
  ("wsegspace", "WSegSpace")]

/-- The classes of sentence boundaries by loose name. -/
def sentenceBreakNames : List (String × String) := [
  ("sp", "Sp"), ("lf", "LF"), ("cr", "CR"), ("sterm", "STerm"), ("st", "STerm"),
  ("close", "Close"), ("cl", "Close"), ("scontinue", "SContinue"), ("sc", "SContinue"),
  ("aterm", "ATerm"), ("at", "ATerm"), ("numeric", "Numeric"), ("nu", "Numeric"),
  ("upper", "Upper"), ("up", "Upper"), ("lower", "Lower"), ("lo", "Lower"), ("sep", "Sep"),
  ("se", "Sep"), ("format", "Format"), ("fo", "Format"), ("oletter", "OLetter"),
  ("le", "OLetter"), ("extend", "Extend"), ("ex", "Extend")]

end ListingQuery.Unicode
