import MailRules.Compiled
import MailRules.Text.Quoted

/-!
# Fixture — rules with messages to try them on

A fixture holds rules and cases, each a message and the labels it should have after one pass.  It
may also say how many diagnostics the rules give.

* `Fixture.run` tries every case on a fresh message;
* `Fixture.failure?` is the first thing that is not as it should be.
-/

namespace MailRules

/-- The texts of a message and its labels in any order. -/
structure MessageDraft where
  sender : String := ""
  recipient : String := ""
  subject : String := ""
  listAddress : String := ""
  body : String := ""
  labels : List String := []
  deriving DecidableEq, Repr, Inhabited

def MessageDraft.message (d : MessageDraft) : Message :=
  { sender := d.sender, recipient := d.recipient, subject := d.subject, listAddress := d.listAddress,
    body := d.body, labels := StringSet.ofList d.labels }

structure FixtureCase where
  name : String := ""
  draft : MessageDraft := {}
  /-- The labels after a pass, in any order. -/
  expect : List String := []
  deriving DecidableEq, Repr, Inhabited

structure Fixture where
  name : String := ""
  description : String := ""
  entries : List Entry := []
  diagnostics : Option Nat := none
  cases : List FixtureCase := []
  deriving Repr, Inhabited

structure CaseResult where
  name : String
  expected : StringSet
  actual : StringSet
  deriving DecidableEq, Repr

def CaseResult.passed (r : CaseResult) : Bool := decide (r.actual = r.expected)

namespace FixtureCase

variable [PatternEngine]

def run (rules : RuleSet) (c : FixtureCase) : CaseResult :=
  ⟨c.name, StringSet.ofList c.expect, (rules.pass c.draft.message).message.labels⟩

end FixtureCase

/-- What is wrong with a fixture. -/
inductive FixtureFailure where
  | diagnostics (expected : Nat)
  | result (r : CaseResult)
  deriving DecidableEq, Repr

namespace Fixture

variable [PatternEngine]

def compiled (f : Fixture) : Compiled := Compiled.ofEntries f.entries

def run (f : Fixture) : List CaseResult := f.cases.map (FixtureCase.run f.compiled.rules)

/-- The number of diagnostics comes first, then the cases in order. -/
def failure? (f : Fixture) : Option FixtureFailure :=
  let cases := (f.run.find? fun r => !r.passed).map FixtureFailure.result
  match f.diagnostics with
  | some n => if f.compiled.diagnostics.length = n then cases else some (.diagnostics n)
  | none => cases

/-- The text of a failure; of a wrong number of diagnostics it tells the number that was
expected. -/
def failureText (f : Fixture) : FixtureFailure → String
  | .diagnostics expected =>
      "assertion `left == right` failed: Fixture '" ++ f.name ++ "' expected " ++ toString expected
  | .result r =>
      "Fixture '" ++ f.name ++ "' case '" ++ r.name ++ "' failed: expected " ++
        Quoted.list r.expected.toList ++ ", got " ++ Quoted.list r.actual.toList

end Fixture
end MailRules
