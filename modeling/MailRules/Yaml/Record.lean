import MailRules.Document.Entries
import MailRules.Yaml.Expansion

/-!
# Record — values of a known form in a YAML document

Where the form of a value is known, a scalar that is to be a text is taken as it is written, nothing
written stands for an empty list and for a record without fields, and fields that are not known are
passed over.

* `Decoder.text`, `Decoder.count?` and `Decoder.items` read a text, a number that may be missing,
  and a list;
* `Decoder.fields` reads a record, field by field in the order of the document.
-/

namespace MailRules
namespace Yaml

/-- Reading a value, with how many aliases may still be followed. -/
abbrev Decoder (α : Type) := StateT Nat (Except DataError) α

namespace Node

mutual

/-- Whether the text could be read to the end of the node. -/
def isWhole : Node → Bool
  | list _ items => areWhole items
  | map _ pairs => pairsAreWhole pairs
  | broken => false
  | _ => true

def areWhole : List Node → Bool
  | [] => true
  | n :: ns => isWhole n && areWhole ns

def pairsAreWhole : List (Node × Node) → Bool
  | [] => true
  | (k, v) :: rest => isWhole k && isWhole v && pairsAreWhole rest

end

end Node

namespace Decoder

variable {α : Type}

def follow (t : Tree) (n : Node) : Decoder Node := do
  match t.follow? (← get) n with
  | some (n, jumps) =>
      set jumps
      return n
  | none => throw .unreadable

/-! ## Wrong types -/

/-- The value of a scalar, whatever tag of its own the document gives it. -/
def looseValue (s : String) (plain : Bool) (tag : Option String) : Value :=
  if Schema.isOwnTag tag then Schema.scalar s plain none else Schema.scalar s plain tag

def refuse (expected : String) : Node → DataError
  | .scalar s style tag => Value.refuse .yaml expected (looseValue s (style == .plain) tag)
  | .list .. => Value.refuse .yaml expected (.list [])
  | .map .. => Value.refuse .yaml expected (.map [])
  | _ => .unreadable

/-- Whether nothing is written. -/
def isNothing : Node → Bool
  | .scalar s style _ => s.isEmpty && style == .plain
  | .void => true
  | _ => false

/-! ## Scalars -/

def textAs (expected : String) (t : Tree) (n : Node) : Decoder String := do
  match ← follow t n with
  | .scalar s _ _ => return s
  | n => throw (refuse expected n)

def text (t : Tree) (n : Node) : Decoder String := textAs "a string" t n

/-- Whether a node stands for no value at all; only a plain scalar can. -/
def isMissing : Node → Except DataError Bool
  | .scalar s style tag =>
      if style ≠ .plain then .ok false
      else
        match tag with
        | some tag =>
            if tag = Schema.typeTag "null" then
              if Schema.isNull s then .ok true else .error .unreadable
            else .ok false
        | none => .ok (s.isEmpty || Schema.isNull s)
  | .void => .ok true
  | .broken => .error .unreadable
  | _ => .ok false

/-- Whether a number may be written so: plain, whatever the tag, or in full lines with the tag of a
whole number. -/
def isNumeral (style : ScalarStyle) (tag : Option String) : Bool :=
  match style with
  | .plain => true
  | .literal => tag == some (Schema.typeTag "int")
  | _ => false

def count (n : Node) : Except DataError Nat :=
  match n with
  | .scalar s style tag =>
      match if isNumeral style tag && !s.startsWith "-" then Schema.integer? s.toList else none with
      | some v => if v < 0x10000000000000000 then .ok v.toNat else .error (refuse "usize" n)
      | none => .error (refuse "usize" n)
  | _ => .error (refuse "usize" n)

def count? (t : Tree) (n : Node) : Decoder (Option Nat) := do
  let n ← follow t n
  if ← isMissing n then return none
  return some (← count n)

/-! ## Lists -/

def items (t : Tree) (item : Node → Decoder α) (n : Node) : Decoder (List α) := do
  match ← follow t n with
  | .list _ ns => ns.mapM item
  | n => if isNothing n then return [] else throw (refuse "a sequence" n)

def texts (t : Tree) (n : Node) : Decoder (List String) := items t (text t) n

/-! ## Records -/

/-- Reads the fields in order, passing over those that are not known, and says which there were. -/
def pairs (t : Tree) (known : List String) (put : α → String → Node → Decoder α) (a : α)
    (seen : List String) : List (Node × Node) → Decoder (α × List String)
  | [] => return (a, seen)
  | (k, v) :: rest => do
      let name ← textAs "field identifier" t k
      if known.contains name then
        if seen.contains name then throw (.duplicateField name)
        pairs t known put (← put a name v) (name :: seen) rest
      else if v.isWhole then pairs t known put a seen rest
      else throw .unreadable

def require (seen : List String) : List String → Decoder Unit
  | [] => return ()
  | name :: rest => if seen.contains name then require seen rest else throw (.missingField name)

/-- Reads a record into a value that holds what a field without an entry stands for. -/
def fields (t : Tree) (name : String) (known required : List String)
    (put : α → String → Node → Decoder α) (a : α) (n : Node) : Decoder α := do
  let ps ← match ← follow t n with
    | .map _ ps => pure ps
    | n => if isNothing n then pure [] else throw (refuse ("struct " ++ name) n)
  let (a, seen) ← pairs t known put a [] ps
  require seen required
  return a

end Decoder
end Yaml
end MailRules
