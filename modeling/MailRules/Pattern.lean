import MailRules.Pattern.Matching
import MailRules.Pattern.Reader
import MailRules.Pattern.Size

/-!
# Pattern — text patterns of conditions

A `TextPattern` is a text that could be read as a pattern.  Which texts can be read, and where they
are found, is up to a `PatternEngine`.  With the one given here, a pattern is found in a text if
some stretch of the text matches, letters of either case counting as the same.
-/

namespace MailRules

/-- The greatest length of a pattern, in bytes of UTF-8. -/
def maxPatternBytes : Nat := 4096

/-- Why a text is no pattern. -/
inductive PatternError where
  | tooLong (bytes : Nat)
  | invalid (text : String)
  deriving DecidableEq, Repr

namespace Pattern

/-- The flags that every pattern starts with. -/
def startFlags : Flags := { caseInsensitive := true }

/-- The meaning of a text as a pattern. -/
def expr? (text : String) : Option Expr := do
  let ast ← Ast.ofText? text
  let (e, _) ← ast.toExpr? startFlags
  if e.isTooLarge then none else some e

end Pattern

/-- Which texts are patterns and where they are found.  All that is built on patterns works with any
engine. -/
class PatternEngine where
  expr? : String → Option Pattern.Expr
  isFoundIn : Pattern.Expr → String → Bool

instance : PatternEngine := ⟨Pattern.expr?, Pattern.Expr.isFoundIn⟩

structure TextPattern where
  text : String
  expr : Pattern.Expr
  deriving Repr

namespace TextPattern

variable [PatternEngine]

/-- The length is looked at first, so that a long text is never read. -/
def compile (text : String) : Except PatternError TextPattern :=
  if text.utf8ByteSize > maxPatternBytes then .error (.tooLong text.utf8ByteSize)
  else match PatternEngine.expr? text with
    | some expr => .ok ⟨text, expr⟩
    | none => .error (.invalid text)

def isFoundIn (p : TextPattern) (text : String) : Bool :=
  PatternEngine.isFoundIn p.expr text

end TextPattern
end MailRules
