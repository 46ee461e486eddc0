import Clearance.Text.Quoted.Table

/-!
# Quoted text

Messages quote the text that they complain about, so that blanks and invisible
characters show. The quote and the backslash get a backslash, the four usual
controls their letter, and a character without a shape of its own its code point
in hexadecimal.
-/

namespace Clearance.Text

/-- Hexadecimal digits in lower case, without leading zeros. -/
def hexText (n : Nat) : String := String.ofList (Nat.toDigits 16 n)

def quotedChar (c : Char) : String :=
  match c with
  | '\x00' => "\\0"
  | '\t' => "\\t"
  | '\r' => "\\r"
  | '\n' => "\\n"
  | '\\' => "\\\\"
  | '"' => "\\\""
  | _ =>
    if inRanges shapelessRanges c then "\\u\x7b" ++ hexText c.toNat ++ "\x7d"
    else c.toString

def quoted (s : String) : String := "\"" ++ String.join (s.toList.map quotedChar) ++ "\""

end Clearance.Text
