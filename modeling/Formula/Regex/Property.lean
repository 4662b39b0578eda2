-- SUMMARY: The character properties that patterns can name: categories, scripts and properties that hold or do not.
import Formula.Regex.CharClass
import Formula.Regex.PropertyTable

/-! # Named properties

Names match loosely: letter case, blanks, hyphens and underscores do not count, nor does `is` in
front. A single name is that of a property, a general category or a script, in this order; a name
with a value says which of the two latter it means. -/

namespace Formula
namespace Regex
namespace CharProperty

/-! ## Loose names -/

/-- What counts of the characters of a name. -/
def looseChars (name : List Char) : List Char :=
  (name.filter fun c => decide (c.toNat < 128) && !([' ', '-', '_'].contains c)).map Char.toLower

/-- A name as it is compared. A `c` behind `is` is not a name of its own. -/
def looseName (name : List Char) : String :=
  match name with
  | i :: s :: rest =>
    if i.toLower == 'i' && s.toLower == 's' then
      let chars := looseChars rest
      if chars == ['c'] then "isc" else String.ofList chars
    else String.ofList (looseChars name)
  | _ => String.ofList (looseChars name)

/-! ## Categories -/

/-- The groups of categories and their names. -/
def categoryGroups : List (List String × List Category) := [
  (["l", "letter"], [.lu, .ll, .lt, .lm, .lo]),
  (["lc", "casedletter"], [.lu, .ll, .lt]),
  (["m", "mark", "combiningmark"], marks),
  (["n", "number"], [.nd, .nl, .no]),
  (["p", "punctuation", "punct"], [.pc, .pd, .ps, .pe, .pi, .pf, .po]),
  (["s", "symbol"], [.sm, .sc, .sk, .so]),
  (["z", "separator"], [.zs, .zl, .zp]),
  (["c", "other"], [.cc, .cf, .cs, .co, .cn]),
  (["lu", "uppercaseletter"], [.lu]),
  (["ll", "lowercaseletter"], [.ll]),
  (["lt", "titlecaseletter"], [.lt]),
  (["lm", "modifierletter"], [.lm]),
  (["lo", "otherletter"], [.lo]),
  (["mn", "nonspacingmark"], [.mn]),
  (["mc", "spacingmark"], [.mc]),
  (["me", "enclosingmark"], [.me]),
  (["nd", "decimalnumber", "digit"], [.nd]),
  (["nl", "letternumber"], [.nl]),
  (["no", "othernumber"], [.no]),
  (["pc", "connectorpunctuation"], [.pc]),
  (["pd", "dashpunctuation"], [.pd]),
  (["ps", "openpunctuation"], [.ps]),
  (["pe", "closepunctuation"], [.pe]),
  (["pi", "initialpunctuation"], [.pi]),
  (["pf", "finalpunctuation"], [.pf]),
  (["po", "otherpunctuation"], [.po]),
  (["sm", "mathsymbol"], [.sm]),
  (["sc", "currencysymbol"], [.sc]),
  (["sk", "modifiersymbol"], [.sk]),
  (["so", "othersymbol"], [.so]),
  (["zs", "spaceseparator"], [.zs]),
  (["zl", "lineseparator"], [.zl]),
  (["zp", "paragraphseparator"], [.zp]),
  (["cc", "control", "cntrl"], [.cc]),
  (["cf", "format"], [.cf]),
  (["co", "privateuse"], [.co]),
  (["cn", "unassigned"], [.cn])]

/-- The class of a general category. -/
def categoryClass? (name : String) : Option CharClass :=
  match name with
  | "any" => some .all
  | "ascii" => some (.ranges [(0, 127)])
  | "assigned" => some (.property .assigned)
  | _ =>
    (categoryGroups.find? (·.1.contains name)).map fun group => .property (category group.2)

/-! ## Scripts -/

/-- The class of a script. Two scripts have a third name. -/
def scriptClass? (name : String) : Option CharClass :=
  let name := if name = "qaai" then "inherited" else if name = "qaac" then "coptic" else name
  (Script.names.findIdx? fun names =>
    looseName names.1.toList == name || looseName names.2.toList == name).map
      fun number => .property (script number)

/-! ## Properties that hold or do not -/

/-- Characters that can begin an identifier. -/
def identifierStart : CharClass :=
  .combined .difference
    (.combined .union (.property (category [.lu, .ll, .lt, .lm, .lo, .nl]))
      (.ranges [(6277, 6278), (8472, 8472), (8494, 8494), (12443, 12444)]))
    (.ranges [(11823, 11823)])

/-- Characters that can follow in an identifier. -/
def identifierContinue : CharClass :=
  .combined .union identifierStart
    (.combined .union (.property (category [.mn, .mc, .nd, .pc]))
      (.ranges [
        (183, 183), (903, 903), (4969, 4977), (6618, 6618), (8204, 8205), (12539, 12539),
        (65381, 65381)]))

/-- Characters of identifiers that would not stay so when compatible forms are unified. -/
def unstableIdentifiers : CodeRanges := [
  (890, 890), (12443, 12444), (64606, 64611), (65018, 65019), (65136, 65136), (65138, 65138),
  (65140, 65140), (65142, 65142), (65144, 65144), (65146, 65146), (65148, 65148), (65150, 65150)]

/-- Characters that may only follow in an identifier for the same reason. -/
def unstableStarts : CodeRanges := [(3635, 3635), (3763, 3763), (65438, 65439)]

/-- The properties of this kind and their names. -/
def truths : List (List String × CharClass) := [
  (["alphabetic", "alpha"], .property alphabetic),
  (["uppercase", "upper"], .property uppercase),
  (["lowercase", "lower"], .property lowercase),
  (["cased"], .property cased),
  (["caseignorable", "ci"], .property caseIgnorable),
  (["whitespace", "wspace", "space"], .property blank),
  (["asciihexdigit", "ahex"], .ranges [(48, 57), (65, 70), (97, 102)]),
  (["hexdigit", "hex"], .ranges [
    (48, 57), (65, 70), (97, 102), (65296, 65305), (65313, 65318), (65345, 65350)]),
  (["joincontrol", "joinc"], .ranges joinControls),
  (["patternwhitespace", "patws"], .ranges [
    (9, 13), (32, 32), (133, 133), (8206, 8207), (8232, 8233)]),
  (["regionalindicator", "ri"], .ranges [(127462, 127487)]),
  (["variationselector", "vs"], .ranges [
    (6155, 6157), (6159, 6159), (65024, 65039), (917760, 917999)]),
  (["quotationmark", "qmark"], .ranges [
    (34, 34), (39, 39), (171, 171), (187, 187), (8216, 8223), (8249, 8250), (11842, 11842),
    (12300, 12303), (12317, 12319), (65089, 65092), (65282, 65282), (65287, 65287),
    (65378, 65379)]),
  (["idstart", "ids"], identifierStart),
  (["idcontinue", "idc"], identifierContinue),
  (["xidstart", "xids"],
    .combined .difference (.combined .difference identifierStart (.ranges unstableIdentifiers))
      (.ranges unstableStarts)),
  (["xidcontinue", "xidc"],
    .combined .difference identifierContinue (.ranges unstableIdentifiers)),
  (["emoji"], .ranges emoji),
  (["emojicomponent", "ecomp"], .ranges emojiComponent),
  (["emojimodifier", "emod"], .ranges [(127995, 127999)]),
  (["emojimodifierbase", "ebase"], .ranges emojiModifierBase),
  (["emojipresentation", "epres"], .ranges emojiPresentation),
  (["ideographic", "ideo"], .ranges ideographic),
  (["unifiedideograph", "uideo"], .ranges unifiedIdeograph),
  (["dash"], .ranges dash),
  (["math"], .ranges math),
  (["diacritic", "dia"], .ranges diacritic),
  (["extender", "ext"], .ranges extender),
  (["terminalpunctuation", "term"], .ranges terminalPunctuation),
  (["sentenceterminal", "sterm"], .ranges sentenceTerminal),
  (["softdotted", "sd"], .ranges softDotted),
  (["defaultignorablecodepoint", "di"], .ranges defaultIgnorable),
  (["patternsyntax", "patsyn"], .ranges patternSyntax)]

def truthClass? (name : String) : Option CharClass := (truths.find? (·.1.contains name)).map (·.2)

/-! ## All names -/

/-- Short names of categories that are short names of other properties too. -/
def categoryFirst : List String := ["cf", "sc", "lc"]

/-- The class of a single name. -/
def ofName? (name : List Char) : Option CharClass :=
  let name := looseName name
  let truth := if categoryFirst.contains name then none else truthClass? name
  (truth.or (categoryClass? name)).or (scriptClass? name)

/-- The class of a property with a value. -/
def ofValue? (property value : List Char) : Option CharClass :=
  match looseName property with
  | "gc" => categoryClass? (looseName value)
  | "generalcategory" => categoryClass? (looseName value)
  | "sc" => scriptClass? (looseName value)
  | "script" => scriptClass? (looseName value)
  | _ => none

/-- Splits a text at the first occurrence of a separator. -/
def splitAt? (separator : List Char) : List Char → Option (List Char × List Char)
  | [] => none
  | c :: rest =>
    if separator.isPrefixOf (c :: rest) then some ([], (c :: rest).drop separator.length)
    else (splitAt? separator rest).map fun (front, back) => (c :: front, back)

/-- The class of the text between braces: a name, or a name and a value. -/
def ofText? (text : List Char) : Option CharClass :=
  match ((splitAt? ['!', '='] text).or (splitAt? [':'] text)).or (splitAt? ['='] text) with
  | some (property, value) => ofValue? property value
  | none => ofName? text

end CharProperty
end Regex
end Formula
