import MailRules.Action
import MailRules.Condition

/-!
# Rule — a condition and what to do where it holds

A rule set is run over a message in one pass: every rule is tried once, in order, and a rule that
fires carries out its action at once, so that the rules after it see the labels it left.

* `Rule.fires` and `Rule.apply` are one rule on one message;
* `RuleSet.pass` is the pass, with the positions of the rules that fired.
-/

namespace MailRules

variable [PatternEngine]

structure Rule where
  condition : Condition
  action : Action
  deriving Repr

namespace Rule

def text (r : Rule) : String := r.condition.text ++ " => " ++ r.action.text

def fires (r : Rule) (m : Message) : Bool := r.condition.holds m

def apply (r : Rule) (m : Message) : Message := if r.fires m then r.action.apply m else m

end Rule

abbrev RuleSet := List Rule

/-- What a pass leaves: the positions of the rules that fired, in ascending order, and the
message. -/
structure Pass where
  fired : List Nat
  message : Message
  deriving Repr

namespace RuleSet

/-- A pass over rules of which the first has the given position. -/
def passFrom (position : Nat) : List Rule → Message → Pass
  | [], m => ⟨[], m⟩
  | r :: rs, m =>
      let rest := passFrom (position + 1) rs (r.apply m)
      if r.fires m then { rest with fired := position :: rest.fired } else rest

def pass (rules : RuleSet) (m : Message) : Pass := passFrom 0 rules m

end RuleSet
end MailRules
