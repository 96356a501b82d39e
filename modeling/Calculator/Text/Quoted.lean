import Calculator.Text.Blank
import Calculator.Text.GraphemeBase

namespace Calculator.Text

def isFiller (c : Char) : Bool := within [(0x115f, 0x1160), (0x3164, 0x3164), (0xffa0, 0xffa0)] c

def isVoicingMark (c : Char) : Bool := within [(0xff9e, 0xff9f)] c

def isVisible (c : Char) : Bool :=
  isGraphemeBase c && !isBlank c && !isFiller c || isVoicingMark c

/-- A character as it stands in a quotation: escaped, if it would not show there or would end the
quotation. -/
def escape (c : Char) : String :=
  match c with
  | '\x00' => "\\0"
  | '\t' => "\\t"
  | '\n' => "\\n"
  | '\r' => "\\r"
  | '\'' => "\\'"
  | '\\' => "\\\\"
  | ' ' => " "
  | c =>
    if isVisible c then c.toString
    else "\\u\x7b" ++ String.ofList (Nat.toDigits 16 c.toNat) ++ "\x7d"

def quoteChar (c : Char) : String := "'" ++ escape c ++ "'"

def quoteWord (text : String) : String := "\"" ++ text ++ "\""

end Calculator.Text
