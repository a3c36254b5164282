import Gallery.Regex.Fault
import Gallery.Regex.Tree
import Gallery.Text.Age
import Gallery.Text.Break
import Gallery.Text.Property
import Gallery.Text.Script

/-!
# Classes by name

The class that a property of characters names: the characters for which it holds, those of a
general category or of a script, or those for which a property has a given value.  Names are
compared without regard to case, blanks, hyphens and underscores.
-/

namespace Gallery.Regex

open Gallery.Text (NamedClass CharClass CharSet)

/-- The characters of a name that matter, in lower case. -/
def plainChars (cs : List Char) : List Char :=
  (cs.filter fun c => c.toNat < 0x80 && c ≠ ' ' && c ≠ '_' && c ≠ '-').map Char.toLower

/-- A name as it is compared; an `is` in front does not matter.  There is a property by the name
of `isc`, which is left as it is. -/
def plainName (name : String) : String :=
  match name.toList with
  | i :: s :: cs =>
    if i.toLower = 'i' && s.toLower = 's' then
      if plainChars cs = ['c'] then "isc" else String.ofList (plainChars cs)
    else String.ofList (plainChars (i :: s :: cs))
  | cs => String.ofList (plainChars cs)

/-- The class with a plain name. -/
def classNamed? (name : String) (ks : List NamedClass) : Option CharClass :=
  (ks.find? fun k => k.names.any fun n => String.ofList (plainChars n.toList) = name).map
    (·.characters)

/-- The plain names of the properties that do not form a class by themselves. -/
def otherProperties : List String := [
  "age", "bc", "bidiclass", "bmg", "bidimirroringglyph", "bpb", "bidipairedbracket", "bpt",
  "bidipairedbrackettype", "blk", "block", "ccc", "canonicalcombiningclass", "ce",
  "compositionexclusion", "cf", "casefolding", "compex", "fullcompositionexclusion", "cwkcf",
  "changeswhennfkccasefolded", "dm", "decompositionmapping", "dt", "decompositiontype", "ea",
  "eastasianwidth", "equideo", "equivalentunifiedideograph", "expandsonnfc", "expandsonnfd",
  "expandsonnfkc", "expandsonnfkd", "fcnfkc", "fcnfkcclosure", "gc", "generalcategory", "gcb",
  "graphemeclusterbreak", "hst", "hangulsyllabletype", "incb", "indicconjunctbreak", "inpc",
  "indicpositionalcategory", "insc", "indicsyllabiccategory", "isc", "isocomment", "jg",
  "joininggroup", "jsn", "jamoshortname", "jt", "joiningtype", "lb", "linebreak", "lc",
  "lowercasemapping", "na", "name", "na1", "unicode1name", "namealias", "nfcqc",
  "nfcquickcheck", "nfdqc", "nfdquickcheck", "nfkccasefold", "nfkccf", "nfkcqc",
  "nfkcquickcheck", "nfkcscf", "nfkcsimplecasefold", "nfkdqc", "nfkdquickcheck", "nt",
  "numerictype", "nv", "numericvalue", "sb", "sentencebreak", "sc", "script", "scf",
  "simplecasefolding", "scx", "scriptextensions", "sfc", "slc", "simplelowercasemapping", "stc",
  "simpletitlecasemapping", "suc", "simpleuppercasemapping", "tc", "titlecasemapping", "uc",
  "uppercasemapping", "vo", "verticalorientation", "wb", "wordbreak", "xonfc", "xonfd",
  "xonfkc", "xonfkd", "cjkaccountingnumeric", "kaccountingnumeric", "cjkcompatibilityvariant",
  "kcompatibilityvariant", "cjkiicore", "kiicore", "cjkirggsource", "kirggsource",
  "cjkirghsource", "kirghsource", "cjkirgjsource", "kirgjsource", "cjkirgkpsource",
  "kirgkpsource", "cjkirgksource", "kirgksource", "cjkirgmsource", "kirgmsource",
  "cjkirgssource", "kirgssource", "cjkirgtsource", "kirgtsource", "cjkirguksource",
  "kirguksource", "cjkirgusource", "kirgusource", "cjkirgvsource", "kirgvsource",
  "cjkothernumeric", "kothernumeric", "cjkprimarynumeric", "kprimarynumeric", "cjkrsunicode",
  "krsunicode", "unicoderadicalstroke", "urs"]

/-- The general category, or the group of categories, with a plain name. -/
def categoryNamed? (name : String) : Option (Except Fault CharClass) :=
  match name with
  | "any" => some (.ok (.complement .empty))
  | "assigned" => some (.ok (.complement Text.Category.unassigned))
  | "ascii" => some (.ok (.set (.ofRange '\x00' '\x7f')))
  | "cs" | "surrogate" => some (.error .unknownPropertyValue)
  | _ => (classNamed? name Text.generalCategories).map .ok

/-- The script with a plain name among the classes of scripts.  No character belongs to some of
the scripts that have names. -/
def scriptNamed? (name : String) (ks : List NamedClass) : Option (Except Fault CharClass) :=
  match name with
  | "zzzz" | "unknown" | "hrkt" | "katakanaorhiragana" => some (.error .unknownPropertyValue)
  | _ => (classNamed? name ks).map .ok

/-- The class that a plain name stands for.  The names of three general categories are preferred
to those of properties. -/
def classOfName (name : String) : Except Fault CharClass :=
  let isCategory := name = "cf" || name = "sc" || name = "lc"
  if !isCategory && otherProperties.contains name then
    .error .unknownProperty
  else
    match if isCategory then none else classNamed? name Text.properties with
    | some k => .ok k
    | none =>
      ((categoryNamed? name).or (scriptNamed? name Text.scriptClasses)).getD
        (.error .unknownProperty)

/-- The class of a value with a plain name, among those of a property. -/
def valueNamed (value : String) (ks : List NamedClass) : Except Fault CharClass :=
  ((classNamed? value ks).map .ok).getD (.error .unknownPropertyValue)

/-- The class of the characters for which a property has a value, both by their plain names. -/
def classOfValue (name value : String) : Except Fault CharClass :=
  match name with
  | "gc" | "generalcategory" => (categoryNamed? value).getD (.error .unknownPropertyValue)
  | "sc" | "script" =>
    (scriptNamed? value Text.scriptClasses).getD (.error .unknownPropertyValue)
  | "scx" | "scriptextensions" =>
    (scriptNamed? value Text.scriptExtensions).getD (.error .unknownPropertyValue)
  | "age" => valueNamed value Text.ages
  | "gcb" | "graphemeclusterbreak" => valueNamed value Text.graphemeBreaks
  | "wb" | "wordbreak" => valueNamed value Text.wordBreaks
  | "sb" | "sentencebreak" => valueNamed value Text.sentenceBreaks
  | _ =>
    if otherProperties.contains name || (classNamed? name Text.properties).isSome then
      .error .unknownPropertyValue
    else
      .error .unknownProperty

/-- The class that the naming of a property stands for. -/
def PropertyName.characters : PropertyName → Except Fault CharClass
  | .named name => classOfName (plainName name)
  | .valued name value => classOfValue (plainName name) (plainName value)

end Gallery.Regex
