import Clearance.Text.Blank
import Clearance.Text.Category.Table

/-!
# Properties built from general categories

Groups of general categories, and the properties that are a union of categories
and a few characters more: letters in the wide sense, digits, and what a word
consists of.
-/

namespace Clearance.Text

/-- The characters of one general category, by its short name in lower case. -/
def categoryRanges (name : String) : Ranges :=
  ((categoryTable.find? (·.1.contains name)).map (·.2)).getD []

/-- The groups of general categories by name, with the short names of their members. -/
def categoryGroups : List (List String × List String) :=
  [(["l", "letter"], ["lu", "ll", "lt", "lm", "lo"]),
   (["lc", "casedletter"], ["lu", "ll", "lt"]),
   (["m", "mark", "combiningmark"], ["mn", "mc", "me"]),
   (["n", "number"], ["nd", "nl", "no"]),
   (["p", "punctuation", "punct"], ["pc", "pd", "ps", "pe", "pi", "pf", "po"]),
   (["s", "symbol"], ["sm", "sc", "sk", "so"]),
   (["z", "separator"], ["zs", "zl", "zp"]),
   (["c", "other"], ["cc", "cf", "cn", "co"])]

/-- The characters of the named general categories. -/
def categoriesRanges (names : List String) : Ranges := names.flatMap categoryRanges

/-- Decimal digits of all scripts: the general category Nd. -/
def decimalDigitRanges : Ranges := categoryRanges "nd"

/-- Letters and what counts as such: the property Alphabetic. -/
def alphabeticRanges : Ranges :=
  categoriesRanges ["ll", "lu", "lt", "lm", "lo", "nl"] ++ otherAlphabeticRanges

def lowercaseRanges : Ranges := categoryRanges "ll" ++ otherLowercaseRanges

def uppercaseRanges : Ranges := categoryRanges "lu" ++ otherUppercaseRanges

/-- What words consist of: letters, marks, decimal digits, connecting
punctuation, and the two joiners that have no width. -/
def wordRanges : Ranges :=
  alphabeticRanges ++ categoriesRanges ["mn", "mc", "me", "nd", "pc"] ++
    [(0x200C, 0x200D)]

def isAlphabetic (c : Char) : Bool := inRanges alphabeticRanges c

/-- Whether the character belongs to one of the three categories of numbers. -/
def isNumeric (c : Char) : Bool := inRanges (categoriesRanges ["nd", "nl", "no"]) c

end Clearance.Text
