import MailRules.Unicode.Property

/-!
# Quoted — text between double quotes

Inside the quotes a quote and a backslash are written with a backslash in front, NUL, tab, line feed
and carriage return by a letter, and every other character that cannot be seen on its own by its
code in braces: controls, format characters, private and unassigned code points, all white space but
the plain space, fillers that may be ignored, and the marks that only extend the character before
them.
-/

namespace MailRules
namespace Quoted

/-! ## Characters that are written by their code -/

/-- The two halfwidth sound marks extend the letter before them, but can be seen on their own. -/
def soundMarks : CharSet := CharSet.range 0xFF9E 0xFF9F

def unprintable : CharSet :=
  (CharSet.unions
    ((["cc", "cf", "co", "cn", "zl", "zp"].map Unicode.category) ++
      [(Unicode.category "zs").diff (CharSet.single ' '), Unicode.binary "graphemeextend",
        Unicode.binary "defaultignorablecodepoint"])).diff
    ((CharSet.ofRuns Unicode.addedVisible).union soundMarks)

def isUnprintable (c : Char) : Bool :=
  if c.toNat < 0x7F then c.toNat < 0x20 else unprintable.contains c

/-! ## Writing -/

def hex (n : Nat) : String := String.ofList (Nat.toDigits 16 n)

def char (c : Char) : String :=
  if c = '\x00' then "\\0"
  else if c = '\t' then "\\t"
  else if c = '\n' then "\\n"
  else if c = '\r' then "\\r"
  else if c = '"' then "\\\""
  else if c = '\\' then "\\\\"
  else if isUnprintable c then "\\u\x7b" ++ hex c.toNat ++ "\x7d"
  else c.toString

def text (s : String) : String := "\"" ++ String.join (s.toList.map char) ++ "\""

/-- Quoted texts in brackets, parted by commas. -/
def list (ss : List String) : String := "[" ++ String.intercalate ", " (ss.map text) ++ "]"

end Quoted
end MailRules
