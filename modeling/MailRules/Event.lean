import MailRules.Diagnostic
import MailRules.Source

/-!
# Event — what is told along the way

While rules are looked up and applied, every step that may surprise is told as an event: a message
with a level and named fields.
-/

namespace MailRules

inductive Level where
  | debug
  | info
  | warn
  deriving DecidableEq, Repr

def Level.text : Level → String
  | .debug => "DEBUG"
  | .info => "INFO"
  | .warn => "WARN"

inductive Event where
  | cacheHit (id : String)
  | cacheMiss (id : String)
  | sourceAbsent (id : String)
  /-- The source knew of a document and had none when it was asked for it. -/
  | sourceVanished (id : String)
  | sourceUnusable (id : String) (error : SourceError)
  | ruleSkipped (diagnostic : Diagnostic)
  | noRulesLeft
  | rulesCached (id : String) (rules : Nat)
  | noDefault
  | leftUnchanged (source : String)
  | ruleFired (index : Nat) (rule : String)
  deriving Repr

namespace Event

def level : Event → Level
  | sourceUnusable .. => .warn
  | ruleSkipped _ => .warn
  | rulesCached .. => .info
  | _ => .debug

def message : Event → String
  | cacheHit _ => "rule set cache hit"
  | cacheMiss _ => "rule set cache miss"
  | sourceAbsent _ => "rule source absent"
  | sourceVanished _ => "rule source vanished before load"
  | sourceUnusable .. => "ignoring unusable rule source"
  | ruleSkipped _ => "rule skipped"
  | noRulesLeft => "rule set is empty"
  | rulesCached .. => "rule set compiled and cached"
  | noDefault => "no default rule source configured"
  | leftUnchanged _ => "no rules, record left unchanged"
  | ruleFired .. => "rule fired"

def fields : Event → List (String × String)
  | cacheHit id => [("id", id)]
  | cacheMiss id => [("id", id)]
  | sourceAbsent id => [("id", id)]
  | sourceVanished id => [("id", id)]
  | sourceUnusable id error => [("id", id), ("error", error.message)]
  | ruleSkipped diagnostic => [("diagnostic", diagnostic.text)]
  | noRulesLeft => []
  | rulesCached id rules => [("id", id), ("rules", toString rules)]
  | noDefault => []
  | leftUnchanged source => [("source", source)]
  | ruleFired index rule => [("index", toString index), ("rule", rule)]

end Event
end MailRules
