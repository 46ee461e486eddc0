import Clearance.Text.Ranges

/-!
# Blank characters and control characters

Names, keys and values are trimmed before they are compared, and what counts as
blank is the property White_Space, 25 characters in all. A control character
(the general category Cc) makes a name invalid. The two sets overlap in tab,
line feed and their like, so text is trimmed first and looked at for control
characters afterwards.
-/

namespace Clearance.Text

def blankRanges : Ranges :=
  [(0x09, 0x0D), (0x20, 0x20), (0x85, 0x85), (0xA0, 0xA0), (0x1680, 0x1680),
    (0x2000, 0x200A),
   (0x2028, 0x2029), (0x202F, 0x202F), (0x205F, 0x205F), (0x3000, 0x3000)]

/-- White space in the sense of the property White_Space. -/
def isBlank (c : Char) : Bool := inRanges blankRanges c

def isControl (c : Char) : Bool := inRanges [(0x00, 0x1F), (0x7F, 0x9F)] c

/-- The characters without the blanks at the beginning. -/
def trimStart (cs : List Char) : List Char := cs.dropWhile isBlank

def trimEnd (cs : List Char) : List Char := (cs.reverse.dropWhile isBlank).reverse

def trim (s : String) : String := String.ofList (trimEnd (trimStart s.toList))

def isAllBlank (s : String) : Bool := s.toList.all isBlank

end Clearance.Text
