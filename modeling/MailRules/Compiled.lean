import MailRules.Diagnostic
import MailRules.Rule

/-!
# Compiled — rules from the entries of a document

An entry becomes a rule when both of its sides can be built.  Compilation never fails: it goes on
with the next entry and keeps a diagnostic for all that was left out.

* `Side.build` builds one side, given how a token is read;
* `Compiled.ofEntries` compiles a document.
-/

namespace MailRules

variable [PatternEngine]

/-! ## One side of a rule -/

/-- What came of one side of an entry: nothing, if it cannot be used. -/
structure Side (α : Type) where
  built : Option (Nested α)
  drops : List Drop
  deriving Repr

namespace Side

variable {α : Type} (parse : String → Except RuleError α)

mutual

/-- A list is built from those of its items that can be built. -/
def buildNested : Spec → Except RuleError (Nested α × List Drop)
  | .leaf token =>
      match parse token with
      | .ok a => .ok (.leaf a, [])
      | .error e => .error e
  | .list items =>
      let rest := buildItems items
      .ok (.list rest.1, rest.2)

def buildItems : List Spec → List (Nested α) × List Drop
  | [] => ([], [])
  | s :: rest =>
      let after := buildItems rest
      match buildNested s with
      | .ok (x, drops) => (x :: after.1, drops ++ after.2)
      | .error e => (after.1, ⟨s.text, e, .element⟩ :: after.2)

end

/-- A side nested too deep is not looked into: its text shows the outer lists only. -/
def build (s : Spec) : Side α :=
  let depth := s.depthUpTo maxDepth
  if maxDepth < depth then ⟨none, [⟨s.elided id maxDepth, .depthExceeded depth, .rule⟩]⟩
  else
    match buildNested parse s with
    | .ok (x, drops) => ⟨some x, drops⟩
    | .error e => ⟨none, [⟨s.text, e, .rule⟩]⟩

def condition (s : Spec) : Side Test := build Test.parse s

def action (s : Spec) : Side Change := build Change.parse s

end Side

/-! ## Documents -/

structure Compiled where
  rules : RuleSet
  diagnostics : List Diagnostic
  deriving Repr

namespace Compiled

/-- Both sides of an entry are built, so that both are reported on. -/
def ofEntry (entry : Nat) (e : Entry) : Compiled :=
  let condition := Side.condition e.1
  let action := Side.action e.2
  let rules := match condition.built, action.built with
    | some c, some a => [⟨c, a⟩]
    | _, _ => []
  ⟨rules, condition.drops.map (⟨entry, .condition, ·⟩) ++ action.drops.map (⟨entry, .action, ·⟩)⟩

/-- Compiles entries of which the first has the given number. -/
def ofEntriesFrom (entry : Nat) : List Entry → Compiled
  | [] => ⟨[], []⟩
  | e :: es =>
      let first := ofEntry entry e
      let rest := ofEntriesFrom (entry + 1) es
      ⟨first.rules ++ rest.rules, first.diagnostics ++ rest.diagnostics⟩

def ofEntries (es : List Entry) : Compiled := ofEntriesFrom 0 es

end Compiled
end MailRules
