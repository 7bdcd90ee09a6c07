/-!
# Blank — white space

The characters with the White_Space property.  A text is blank when it holds nothing else.
-/

namespace MailRules

/-- White space: tab to carriage return, space, next line, and the wide and narrow spaces. -/
def isBlankChar (c : Char) : Bool :=
  let n := c.toNat
  (9 ≤ n && n ≤ 13) || n == 0x20 || n == 0x85 || n == 0xA0 || n == 0x1680 ||
    (0x2000 ≤ n && n ≤ 0x200A) || n == 0x2028 || n == 0x2029 || n == 0x202F || n == 0x205F ||
    n == 0x3000

def isBlankText (text : String) : Bool := text.toList.all isBlankChar

end MailRules
