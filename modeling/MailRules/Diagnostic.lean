import MailRules.RuleError

/-!
# Diagnostic — what was left out of a rule set, and why

Compilation leaves out what it cannot use, and says so.  A list loses the items that cannot be used
and keeps its rule; a side that cannot be used as a whole costs the rule.
-/

namespace MailRules

inductive Loss where
  | rule
  | element
  deriving DecidableEq, Repr

def Loss.text : Loss → String
  | .rule => "rule dropped"
  | .element => "element dropped"

/-- A value that was left out of one side of a rule. -/
structure Drop where
  value : String
  error : RuleError
  loss : Loss
  deriving DecidableEq, Repr

structure Diagnostic where
  entry : Nat
  slot : Slot
  drop : Drop
  deriving DecidableEq, Repr

namespace Diagnostic

def text (d : Diagnostic) : String :=
  "entry " ++ toString d.entry ++ ": " ++ d.slot.text ++ " " ++ quoted d.drop.value ++ ": " ++
    d.drop.error.message ++ " (" ++ d.drop.loss.text ++ ")"

end Diagnostic
end MailRules
