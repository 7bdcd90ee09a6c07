import MailRules.Cache
import MailRules.Compiled
import MailRules.Event
import MailRules.Text.Dump

/-!
# Loader — from a source to a rule set

Rules are asked for by the identifier of a document, by naming none, or by giving the entries
themselves.  The first document under an identifier that yields rules is kept in the cache and
answers from then on; all else is asked for again every time.  Whatever goes wrong, there are just
no rules.
-/

namespace MailRules

/-- Where rules are to come from. -/
inductive RuleSource where
  | standard
  | named (id : String)
  | inline (entries : List Entry)
  deriving DecidableEq, Repr

def RuleSource.text : RuleSource → String
  | .standard => "default"
  | .named id => id
  | .inline entries => "inline (" ++ toString entries.length ++ " entries)"

/-- A question put to a source. -/
inductive SourceCall where
  | holds (id : String)
  | load (id : String)
  deriving DecidableEq, Repr

/-- What came of asking for rules, with the questions it took. -/
structure Resolution where
  rules : Option SharedRules
  cache : Cache
  calls : List SourceCall := []
  events : List Event := []

namespace Loader

variable [PatternEngine]

/-- The rules of a document, if there are any. -/
def usable (entries : List Entry) : Option RuleSet × List Event :=
  let c := Compiled.ofEntries entries
  let skipped := c.diagnostics.map Event.ruleSkipped
  if c.rules.isEmpty then (none, skipped ++ [.noRulesLeft]) else (some c.rules, skipped)

def resolveInline (cache : Cache) (entries : List Entry) : Resolution :=
  match usable entries with
  | (none, events) => { rules := none, cache, events }
  | (some rules, events) =>
      let (shared, cache) := cache.stamped rules
      { rules := some shared, cache, events }

/-- Loads the document of an identifier whose slot is empty. -/
def loadInto (s : Source) (cache : Cache) (key : String) : Resolution :=
  if !s.holds key then
    { rules := none, cache, calls := [.holds key], events := [.cacheMiss key, .sourceAbsent key] }
  else
    let calls := [SourceCall.holds key, .load key]
    match s.load key with
    | .error e =>
        let event := if e.isAbsent then Event.sourceVanished key else .sourceUnusable key e
        { rules := none, cache, calls, events := [.cacheMiss key, event] }
    | .ok entries =>
        match usable entries with
        | (none, events) => { rules := none, cache, calls, events := .cacheMiss key :: events }
        | (some rules, events) =>
            let (shared, cache) := cache.stamped rules
            { rules := some shared, cache := cache.fill key shared, calls,
              events := .cacheMiss key :: events ++ [.rulesCached key rules.length] }

def resolveNamed (s : Source) (cache : Cache) (id : String) : Resolution :=
  let key := s.canonicalId id
  let cache := cache.openSlot key
  match cache.get? key with
  | some shared => { rules := some shared, cache, events := [.cacheHit key] }
  | none => loadInto s cache key

def resolve (s : Source) (cache : Cache) : RuleSource → Resolution
  | .inline entries => resolveInline cache entries
  | .named id => resolveNamed s cache id
  | .standard =>
      match s.defaultId with
      | some id => resolveNamed s cache id
      | none => { rules := none, cache, events := [.noDefault] }

/-- Whether rules are kept for an identifier, in whichever way it is spelled. -/
def isCached (s : Source) (cache : Cache) (id : String) : Bool := cache.contains (s.canonicalId id)

/-- A short note on a loader. -/
def dump (cache : Cache) : Dump :=
  .record "RuleLoader" [("source", .word "Source"), ("cached", .word (toString cache.size))]

end Loader
end MailRules
