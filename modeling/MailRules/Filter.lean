import MailRules.Loader
import MailRules.Trace

/-!
# Filter — applying the rules of a source to a message

Without rules a message stays as it is.
-/

namespace MailRules

variable [PatternEngine]

namespace RuleSet

/-- The rules that fired in a pass. -/
def firedEvents (rules : RuleSet) (p : Pass) : List Event :=
  p.fired.map fun n => .ruleFired n ((rules[n]?.map Rule.text).getD "")

end RuleSet

structure Filtered where
  fired : Nat
  message : Message
  resolution : Resolution
  events : List Event

structure FilteredTrace where
  trace : Option Trace
  message : Message
  resolution : Resolution

namespace Filter

def apply (s : Source) (cache : Cache) (source : RuleSource) (m : Message) : Filtered :=
  let r := Loader.resolve s cache source
  match r.rules with
  | none => ⟨0, m, r, r.events ++ [.leftUnchanged source.text]⟩
  | some shared =>
      let p := shared.rules.pass m
      ⟨p.fired.length, p.message, r, r.events ++ shared.rules.firedEvents p⟩

def applyWithTrace (s : Source) (cache : Cache) (source : RuleSource) (m : Message) :
    FilteredTrace :=
  let r := Loader.resolve s cache source
  match r.rules with
  | none => ⟨none, m, r⟩
  | some shared =>
      let t := Trace.pass shared.rules m
      ⟨some t.1, t.2, r⟩

end Filter
end MailRules
