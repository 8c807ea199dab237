import DynamicValues.Unicode.Categories
import DynamicValues.Unicode.Scripts
import DynamicValues.Unicode.ScriptExtensions
import DynamicValues.Unicode.BinaryProperties
import DynamicValues.Unicode.CaseFolding

/-!
# Character classes by name

`classNamed` answers a name on its own, such as `Greek` or `Lu`: a binary property first, then a
general category, then a script. `classByValue` answers a property with a value, such as
`sc=Greek`. The sets a pattern needs most (digits, blanks, word characters) are made once.
-/

set_option autoImplicit false

namespace DynamicValues.Unicode

/-- The grouped general categories: the names of a group and the letters its members start with,
or the members themselves. -/
def categoryGroups : List (List String × List String) := [
  (["c", "other"], ["cc", "cf", "cn", "co", "cs"]),
  (["l", "letter"], ["ll", "lm", "lo", "lt", "lu"]),
  (["lc", "casedletter"], ["ll", "lt", "lu"]),
  (["m", "mark", "combiningmark"], ["mc", "me", "mn"]),
  (["n", "number"], ["nd", "nl", "no"]),
  (["p", "punctuation", "punct"], ["pc", "pd", "pe", "pf", "pi", "po", "ps"]),
  (["s", "symbol"], ["sc", "sk", "sm", "so"]),
  (["z", "separator"], ["zl", "zp", "zs"])]

/-- The characters of one two-letter category. -/
def categoryCodes (name : String) : CodeSet :=
  match findProperty categories name with
  | some property => property.codes
  | none => .empty

/-- The characters of any of the given two-letter categories. -/
def categoriesCodes (names : List String) : CodeSet :=
  .ofRanges (names.flatMap fun name => (categoryCodes name).ranges.toList)

/-- A general category by reduced name, the three made-up ones (`any`, `assigned`, `ascii`)
included. -/
def generalCategory (name : String) : Option CodeSet :=
  if name == "any" then some .all
  else if name == "assigned" then some (categoryCodes "cn").complement
  else if name == "ascii" then some (.ofRange 0 0x7F)
  else
    match categoryGroups.find? fun group => group.1.contains name with
    | some group => some (categoriesCodes group.2)
    | none => (findProperty categories name).map Property.codes

/-- A script by reduced name. -/
def script (name : String) : Option CodeSet := (findProperty scripts name).map Property.codes

/-- A script with the characters it shares with others, by any reduced name of the script. -/
def scriptExtension (name : String) : Option CodeSet :=
  match findProperty scriptExtensions name with
  | some property => some property.codes
  | none => script name

/-- The class of a name that stands alone. `cf`, `sc` and `lc` also abbreviate properties that
need a value, so they are read as categories only. -/
def classNamed (name : String) : Option CodeSet :=
  let name := reduceName name
  let binary :=
    if name == "cf" || name == "sc" || name == "lc" then none
    else findProperty binaryProperties name
  match binary with
  | some property => some property.codes
  | none =>
    match generalCategory name with
    | some codes => some codes
    | none => script name

/-- The class of a property with a value. -/
def classByValue (property value : String) : Option CodeSet :=
  let property := reduceName property
  let value := reduceName value
  if property == "gc" || property == "generalcategory" then generalCategory value
  else if property == "sc" || property == "script" then script value
  else if property == "scx" || property == "scriptextensions" then scriptExtension value
  else none

/-! ## The sets in constant use -/

def binaryCodes (name : String) : CodeSet :=
  match findProperty binaryProperties name with
  | some property => property.codes
  | none => .empty

/-- Decimal digits of every script. -/
def digits : CodeSet := categoryCodes "nd"

/-- White space. -/
def spaces : CodeSet := binaryCodes "whitespace"

def alphabetic : CodeSet := binaryCodes "alphabetic"

/-- Every character that denotes a number. -/
def numeric : CodeSet := categoriesCodes ["nd", "nl", "no"]

/-- Word characters: letters, marks, decimal digits, connectors and the two joiners. -/
def wordCharacters : CodeSet :=
  .ofRanges (alphabetic.ranges.toList
    ++ (categoriesCodes ["mc", "me", "mn", "nd", "pc"]).ranges.toList
    ++ (binaryCodes "joincontrol").ranges.toList)

/-- Characters that combine with the one before them. -/
def graphemeExtend : CodeSet := binaryCodes "graphemeextend"

/-- Characters without a visible form: controls, unassigned and private code points, and every
separator but the space. -/
def unprintable : CodeSet :=
  (categoriesCodes ["cc", "cf", "cn", "co", "cs", "zl", "zp", "zs"]).diff (.singleton ' ')

end DynamicValues.Unicode
