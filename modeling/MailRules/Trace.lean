import MailRules.Rule
import MailRules.Text.Dump

/-!
# Trace — how a pass came out, rule by rule

A trace keeps, for every rule of a pass, how each part of its condition came out on the message as
it was just before.  A list is looked at to its end even when an early item fails.

* `ConditionTrace.of` is the trace of one condition;
* `Trace.pass` runs a rule set and keeps the trace;
* `Trace.dump` lays a trace out for printing.
-/

namespace MailRules

variable [PatternEngine]

/-! ## Conditions -/

inductive ConditionTrace where
  /-- A test, how it came out before inversion and how after it. -/
  | test (descriptor : String) (tested matched : Bool)
  | list (matched : Bool) (items : List ConditionTrace)
  deriving Repr

namespace ConditionTrace

def matched : ConditionTrace → Bool
  | test _ _ matched => matched
  | list matched _ => matched

mutual

def of (m : Message) : Condition → ConditionTrace
  | .leaf t => test t.text (t.tested m) (t.holds m)
  | .list items =>
      let traces := ofAll m items
      list (traces.all matched) traces

def ofAll (m : Message) : List Condition → List ConditionTrace
  | [] => []
  | c :: cs => of m c :: ofAll m cs

end

mutual

def dump : ConditionTrace → Dump
  | test descriptor tested matched =>
      .record "Leaf"
        [("descriptor", .quoted descriptor), ("tested", .truth tested), ("matched", .truth matched)]
  | list matched items =>
      .record "Multi" [("matched", .truth matched), ("children", .list (dumpAll items))]

def dumpAll : List ConditionTrace → List Dump
  | [] => []
  | t :: ts => dump t :: dumpAll ts

end

end ConditionTrace

/-! ## Passes -/

/-- One rule of a pass, with the trace of its condition. -/
structure TraceStep where
  index : Nat
  condition : String
  action : String
  trace : ConditionTrace
  fired : Bool
  deriving Repr

structure Trace where
  steps : List TraceStep
  deriving Repr

namespace Trace

/-- Runs rules of which the first has the given position. -/
def passFrom (position : Nat) : List Rule → Message → List TraceStep × Message
  | [], m => ([], m)
  | r :: rs, m =>
      let trace := ConditionTrace.of m r.condition
      let fired := trace.matched
      let rest := passFrom (position + 1) rs (if fired then r.action.apply m else m)
      (⟨position, r.condition.text, r.action.text, trace, fired⟩ :: rest.1, rest.2)

def pass (rules : RuleSet) (m : Message) : Trace × Message :=
  let p := passFrom 0 rules m
  (⟨p.1⟩, p.2)

def firedIndices (t : Trace) : List Nat := (t.steps.filter (·.fired)).map (·.index)

def fired (t : Trace) : Nat := (t.steps.filter (·.fired)).length

def dump (t : Trace) : Dump :=
  .record "EvalTrace"
    [("steps", .list (t.steps.map fun s =>
      .record "RuleStep"
        [("index", .word (toString s.index)), ("condition", .quoted s.condition),
          ("action", .quoted s.action), ("trace", s.trace.dump), ("fired", .truth s.fired)]))]

end Trace
end MailRules
