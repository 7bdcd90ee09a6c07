import MailRules.Pattern

/-!
# RuleError — why a condition or an action cannot be built

The texts quote what was written.  What the reader of patterns objects to is not told: its place is
taken by a fixed mark.
-/

namespace MailRules

/-- The two sides of a rule. -/
inductive Slot where
  | condition
  | action
  deriving DecidableEq, Repr

def Slot.text : Slot → String
  | .condition => "condition"
  | .action => "action"

inductive RuleError where
  | invalidDescriptor (token : String)
  | unknownKeyword (slot : Slot) (keyword descriptor : String)
  | missingParameter (descriptor : String)
  | pattern (e : PatternError)
  | wildcardLabel (descriptor : String)
  | depthExceeded (depth : Nat)
  deriving DecidableEq, Repr

/-- How many lists may stand inside one another, a token in the innermost counting as one more. -/
def maxDepth : Nat := 32

/-- Stands for the reason that a reader of patterns or documents gives. -/
def withheldReason : String := "<reason>"

def quoted (s : String) : String := "\"" ++ s ++ "\""

def PatternError.message : PatternError → String
  | .tooLong bytes =>
      "pattern length is " ++ toString bytes ++ ", but maximum allowed is " ++ toString maxPatternBytes
  | .invalid text => "invalid pattern " ++ quoted text ++ ": " ++ withheldReason

def RuleError.message : RuleError → String
  | .invalidDescriptor token => "invalid descriptor " ++ quoted token
  | .unknownKeyword slot keyword descriptor =>
      "unknown " ++ slot.text ++ " keyword " ++ quoted keyword ++ " in " ++ quoted descriptor
  | .missingParameter descriptor => quoted descriptor ++ " requires a parameter"
  | .pattern e => e.message
  | .wildcardLabel descriptor =>
      quoted descriptor ++ " cannot add the wildcard label; only \"-label:*\" is allowed"
  | .depthExceeded depth =>
      "descriptor nesting depth is at least " ++ toString depth ++ ", but maximum allowed is " ++
        toString maxDepth

end MailRules
