import Landscape.Text.Property
import Landscape.Text.Script

namespace Landscape.Text

/-!
# Looking up categories, scripts and properties by name

Names are compared without regard to case, blanks, hyphens, underscores and a leading `is`.
-/

/-- The form of a name in which names are compared. -/
def looseName (name : List Char) : String :=
  let (stripped, rest) :=
    match name with
    | a :: b :: rest =>
        if (a = 'i' || a = 'I') && (b = 's' || b = 'S') then (true, rest) else (false, name)
    | name => (false, name)
  let kept := rest.filter fun c => c ≠ ' ' && c ≠ '_' && c ≠ '-' && c.toNat < 128
  let loose := kept.map Char.toLower
  if stripped && loose = ['c'] then "isc" else String.ofList loose

/-- What the name of a category stands for. -/
inductive CategoryName where
  | anyChar
  | ascii
  | assigned
  /-- The category of code points that are no characters. -/
  | surrogate
  | categories (ks : List Category)

def CategoryName.find? (name : String) : Option CategoryName :=
  match name with
  | "any" => some .anyChar
  | "ascii" => some .ascii
  | "assigned" => some .assigned
  | "cs" | "surrogate" => some .surrogate
  | _ => (Category.named.find? fun e => e.1.contains name).map fun e => .categories e.2

def Script.find? (name : String) : Option Script := Script.all.find? fun s => s.names.contains name

def Property.find? (name : String) : Option Property :=
  Property.all.find? fun p => p.names.contains name

/-- Names of scripts that no character has. -/
def emptyScriptNames : List String := ["hrkt", "katakanaorhiragana", "unknown", "zzzz"]

/-- Names of properties that are neither true nor false of a character, and of a few that are but
are not told here. -/
def otherPropertyNames : List String :=
  ["age", "bc", "bidiclass", "bidim", "bidimirrored", "bidimirroringglyph", "bidipairedbracket",
   "bidipairedbrackettype", "blk", "block", "bmg", "bpb", "bpt", "canonicalcombiningclass",
   "casefolding", "ccc", "ce", "cf", "changeswhennfkccasefolded", "cjkaccountingnumeric",
   "cjkcompatibilityvariant", "cjkiicore", "cjkirggsource", "cjkirghsource", "cjkirgjsource",
   "cjkirgkpsource", "cjkirgksource", "cjkirgmsource", "cjkirgssource", "cjkirgtsource",
   "cjkirguksource", "cjkirgusource", "cjkirgvsource", "cjkothernumeric", "cjkprimarynumeric",
   "cjkrsunicode", "compex", "compositionexclusion", "cwkcf", "decompositionmapping",
   "decompositiontype", "dm", "dt", "ea", "eastasianwidth", "equideo",
   "equivalentunifiedideograph", "expandsonnfc", "expandsonnfd", "expandsonnfkc",
   "expandsonnfkd", "fcnfkc", "fcnfkcclosure", "fullcompositionexclusion", "gcb",
   "graphemeclusterbreak", "hangulsyllabletype", "hst", "incb", "indicconjunctbreak",
   "indicpositionalcategory", "indicsyllabiccategory", "inpc", "insc", "isc", "isocomment",
   "jamoshortname", "jg", "joininggroup", "joiningtype", "jsn", "jt", "kaccountingnumeric",
   "kcompatibilityvariant", "kehcat", "kehdesc", "kehhg", "kehifao", "kehjsesh", "kehnomirror",
   "kehnorotate", "kiicore", "kirggsource", "kirghsource", "kirgjsource", "kirgkpsource",
   "kirgksource", "kirgmsource", "kirgssource", "kirgtsource", "kirguksource", "kirgusource",
   "kirgvsource", "kothernumeric", "kprimarynumeric", "krsunicode", "lb", "lc", "linebreak",
   "lowercasemapping", "na", "na1", "name", "namealias", "nfcqc", "nfcquickcheck", "nfdqc",
   "nfdquickcheck", "nfkccasefold", "nfkccf", "nfkcqc", "nfkcquickcheck", "nfkcscf",
   "nfkcsimplecasefold", "nfkdqc", "nfkdquickcheck", "nt", "numerictype", "numericvalue", "nv",
   "sb", "scf", "sentencebreak", "sfc", "simplecasefolding", "simplelowercasemapping",
   "simpletitlecasemapping", "simpleuppercasemapping", "slc", "stc", "suc", "tc",
   "titlecasemapping", "uc", "unicode1name", "unicoderadicalstroke", "uppercasemapping", "urs",
   "verticalorientation", "vo", "wb", "wordbreak", "xonfc", "xonfd", "xonfkc", "xonfkd"]

end Landscape.Text
