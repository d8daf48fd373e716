/-
Sets of characters by the names of their properties. A name stands for a property that characters
have or lack, for a general category or for a script; a name and a value stand for the characters
whose property has this value. Names are compared without regard to case and separators. There are
properties that are known by name although no set belongs to them.
-/

import SlashScript.Pattern.Error
import SlashScript.Text.Age
import SlashScript.Text.Segment

namespace SlashScript.Pattern

open Text

/-! ### Names -/

/-- Names without case, blanks, hyphens, low lines and characters beyond ASCII, and without the word
`is` before them; the word stays where nothing but the letter `c` follows it. -/
def looseName (name : List Char) : String :=
  let strip (chars : List Char) : List Char :=
    (chars.filter fun char =>
      char.toNat < 0x80 && char != ' ' && char != '_' && char != '-').map Char.toLower
  match name with
  | first :: second :: rest =>
    if first.toLower = 'i' && second.toLower = 's' then
      let rest := strip rest
      if rest = ['c'] then "isc" else String.ofList rest
    else String.ofList (strip name)
  | name => String.ofList (strip name)

/-- Properties that are known by name although characters neither have nor lack them: they have
values, some of which are sets here. -/
def valuedProperties : List String :=
  ["age", "bc", "bidiclass", "bidimirroringglyph", "bidipairedbracket", "bidipairedbrackettype",
   "blk", "block", "bmg", "bpb", "bpt", "canonicalcombiningclass", "casefolding", "ccc", "ce", "cf",
   "changeswhennfkccasefolded", "cjkaccountingnumeric", "cjkcompatibilityvariant", "cjkiicore",
   "cjkirggsource", "cjkirghsource", "cjkirgjsource", "cjkirgkpsource", "cjkirgksource",
   "cjkirgmsource", "cjkirgssource", "cjkirgtsource", "cjkirguksource", "cjkirgusource",
   "cjkirgvsource", "cjkothernumeric", "cjkprimarynumeric", "cjkrsunicode", "compex",
   "compositionexclusion", "cwkcf", "decompositionmapping", "decompositiontype", "dm", "dt", "ea",
   "eastasianwidth", "equideo", "equivalentunifiedideograph", "expandsonnfc", "expandsonnfd",
   "expandsonnfkc", "expandsonnfkd", "fcnfkc", "fcnfkcclosure", "fullcompositionexclusion", "gc",
   "gcb", "generalcategory", "graphemeclusterbreak", "hangulsyllabletype", "hst", "incb",
   "indicconjunctbreak", "indicpositionalcategory", "indicsyllabiccategory", "inpc", "insc", "isc",
   "jamoshortname", "jg", "joininggroup", "joiningtype", "jsn", "jt", "kaccountingnumeric",
   "kcompatibilityvariant", "kehcat", "kehdesc", "kehhg", "kehifao", "kehjsesh", "kehnomirror",
   "kehnorotate", "kiicore", "kirggsource", "kirghsource", "kirgjsource", "kirgkpsource",
   "kirgksource", "kirgmsource", "kirgssource", "kirgtsource", "kirguksource", "kirgusource",
   "kirgvsource", "kothernumeric", "kprimarynumeric", "krsunicode", "lb", "lc", "linebreak",
   "lowercasemapping", "na", "na1", "name", "namealias", "nfcqc", "nfcquickcheck", "nfdqc",
   "nfdquickcheck", "nfkccasefold", "nfkccf", "nfkcqc", "nfkcquickcheck", "nfkcscf",
   "nfkcsimplecasefold", "nfkdqc", "nfkdquickcheck", "nt", "numerictype", "numericvalue", "nv",
   "ocomment", "sb", "sc", "scf", "script", "scriptextensions", "scx", "sentencebreak", "sfc",
   "simplecasefolding", "simplelowercasemapping", "simpletitlecasemapping",
   "simpleuppercasemapping", "slc", "stc", "suc", "tc", "titlecasemapping", "uc", "unicode1name",
   "unicoderadicalstroke", "uppercasemapping", "urs", "verticalorientation", "vo", "wb",
   "wordbreak", "xonfc", "xonfd", "xonfkc", "xonfkd"]

/-- General categories and scripts that are known by name although no character belongs to
them. -/
def namesWithoutCodes : List String :=
  ["cs", "surrogate", "hrkt", "katakanaorhiragana", "unknown", "zzzz"]

/-- Names of general categories that are also names of properties, and are read as the former. -/
def categoriesFirst : List String :=
  ["cf", "lc", "sc"]

/-! ### Sets -/

/-- The characters with a property, of a general category or of a script, by a name alone. -/
def codesOfName (name : String) : Except Cause CodeSet :=
  match NamedClass.codes? Trait.all name with
  | some codes => .ok codes
  | none =>
    if valuedProperties.contains name && !categoriesFirst.contains name then
      .error .propertyNotFound
    else
      let categoryOrScript :=
        (NamedClass.codes? generalCategories name).or (NamedClass.codes? WritingSystem.all name)
      match categoryOrScript with
      | some codes => .ok codes
      | none =>
        if namesWithoutCodes.contains name then .error .propertyValueNotFound
        else .error .propertyNotFound

/-- The characters for which the property with a name has the value with a name. -/
def codesOfValue (name value : String) : Except Cause CodeSet :=
  let found (codes : Option CodeSet) : Except Cause CodeSet :=
    match codes with
    | some codes => .ok codes
    | none => .error .propertyValueNotFound
  match name with
  | "generalcategory" | "gc" => found (NamedClass.codes? generalCategories value)
  | "script" | "sc" => found (NamedClass.codes? WritingSystem.all value)
  | "scriptextensions" | "scx" =>
    found ((NamedClass.find? WritingSystem.all value).map WritingSystem.extended)
  | "age" => found (Age.codes? value)
  | "graphemeclusterbreak" | "gcb" => found (NamedClass.codes? Segment.clusterClasses value)
  | "wordbreak" | "wb" => found (NamedClass.codes? Segment.wordClasses value)
  | "sentencebreak" | "sb" => found (NamedClass.codes? Segment.sentenceClasses value)
  | name =>
    if valuedProperties.contains name || (NamedClass.find? Trait.all name).isSome then
      .error .propertyValueNotFound
    else .error .propertyNotFound

/-- The text before a mark and the text after it, if the mark occurs. -/
def splitAtMark? (mark : List Char) : List Char → Option (List Char × List Char)
  | [] => none
  | char :: rest =>
    if mark.isPrefixOf (char :: rest) then some ([], (char :: rest).drop mark.length)
    else (splitAtMark? mark rest).map fun (before, after) => (char :: before, after)

/-- What the text of a property escape asks for: the characters of a set or, if the value is
compared as unequal, those outside of it. -/
structure PropertyQuery where
  isUnequal : Bool
  codes : Except Cause CodeSet

/-- The query of a text. Of the marks between a name and a value, `!=` counts before a colon and a
colon before `=`. -/
def PropertyQuery.ofText (text : List Char) : PropertyQuery :=
  let valued (parts : List Char × List Char) : Except Cause CodeSet :=
    codesOfValue (looseName parts.1) (looseName parts.2)
  match splitAtMark? ['!', '='] text with
  | some parts => ⟨true, valued parts⟩
  | none =>
    match (splitAtMark? [':'] text).or (splitAtMark? ['='] text) with
    | some parts => ⟨false, valued parts⟩
    | none => ⟨false, codesOfName (looseName text)⟩

end SlashScript.Pattern
