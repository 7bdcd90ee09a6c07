import MailRules.Yaml.Node
import MailRules.Yaml.Schema

/-!
# Expansion — the value of a document

Aliases are replaced by the nodes they stand for and scalars by their values.  Lists and maps may be
nested 128 deep, and a document may follow its aliases a hundred times as often as it has parts;
past these bounds it cannot be read.
-/

namespace MailRules
namespace Yaml

def maxNesting : Nat := 128

namespace Node

/-! ## Size -/

mutual

/-- How many parts a node has: one for a scalar and an alias, and for a list or a map two more than
its parts. -/
def size : Node → Nat
  | scalar .. => 1
  | reference _ => 1
  | list _ items => sizes items + 2
  | map _ pairs => pairSizes pairs + 2
  | void => 1
  | broken => 0

def sizes : List Node → Nat
  | [] => 0
  | n :: ns => size n + sizes ns

def pairSizes : List (Node × Node) → Nat
  | [] => 0
  | (k, v) :: rest => size k + size v + pairSizes rest

end

end Node

/-! ## Expansion -/

/-- A value with how many aliases may still be followed; none once the value is broken. -/
abbrev Expanded (α : Type) := α × Option Nat

namespace Expanded

/-- Values one after the other, up to the first that is broken. -/
def all (expand : Nat → Node → Expanded Value) : Nat → List Node → Expanded (List Value)
  | jumps, [] => ([], some jumps)
  | jumps, n :: ns =>
      match expand jumps n with
      | (v, none) => ([v], none)
      | (v, some jumps) =>
          let rest := all expand jumps ns
          (v :: rest.1, rest.2)

def allPairs (expand : Nat → Node → Expanded Value) :
    Nat → List (Node × Node) → Expanded (List (Value × Value))
  | jumps, [] => ([], some jumps)
  | jumps, (k, v) :: rest =>
      match expand jumps k with
      | (k, none) => ([(k, .broken)], none)
      | (k, some jumps) =>
          match expand jumps v with
          | (v, none) => ([(k, v)], none)
          | (v, some jumps) =>
              let rest := allPairs expand jumps rest
              ((k, v) :: rest.1, rest.2)

end Expanded

namespace Tree

/-- The node that is meant, and the aliases left to follow. -/
def follow? (t : Tree) (jumps : Nat) : Node → Option (Node × Nat)
  | .reference n =>
      match jumps, t.anchors.node? n with
      | jumps + 1, some target => some (target, jumps)
      | _, _ => none
  | n => some (n, jumps)

/-- The value of a node inside of which lists and maps may be nested as deep as the first number
says. -/
def expand (t : Tree) : Nat → Nat → Node → Expanded Value
  | depth, jumps, n =>
      match t.follow? jumps n with
      | none => (.broken, none)
      | some (.scalar s style tag, jumps) =>
          match Schema.scalar s (style == .plain) tag with
          | .broken => (.broken, none)
          | v => (v, some jumps)
      | some (.list tag items, jumps) =>
          if Schema.isOwnTag tag then (.tagged, some jumps)
          else
            match depth with
            | 0 => (.broken, none)
            | depth + 1 =>
                let r := Expanded.all (expand t depth) jumps items
                (.list r.1, r.2)
      | some (.map tag pairs, jumps) =>
          if Schema.isOwnTag tag then (.tagged, some jumps)
          else
            match depth with
            | 0 => (.broken, none)
            | depth + 1 =>
                let r := Expanded.allPairs (expand t depth) jumps pairs
                (.map r.1, r.2)
      | some (.void, jumps) => (.null, some jumps)
      | some (.reference _, _) => (.broken, none)
      | some (.broken, _) => (.broken, none)

def maxJumps (t : Tree) : Nat := 100 * t.root.size

def value (t : Tree) : Value := (t.expand maxNesting t.maxJumps t.root).1

end Tree

/-- The value of a text, and whether it is one document that could be read to its end. -/
def document (text : String) : Value × Bool :=
  match Tree.all text with
  | [t] => (t.value, t.complete)
  | t :: _ => (t.value, false)
  | [] => (.broken, false)

end Yaml
end MailRules
