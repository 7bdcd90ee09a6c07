import MailRules.Yaml.Token

/-!
# Node — the tree of a YAML document

A node is a scalar, a list or a map, or stands for another node by an anchor.  A tree ends in
`broken` where the text cannot be read; what stands before that place is still there.

* `Node.read` takes a node off the front of the tokens;
* `Tree.all` reads the documents of a text.
-/

namespace MailRules
namespace Yaml

inductive Node where
  | scalar (text : String) (style : ScalarStyle) (tag : Option String)
  | list (tag : Option String) (items : List Node)
  | map (tag : Option String) (pairs : List (Node × Node))
  | reference (anchor : Nat)
  /-- The document of a text without any. -/
  | void
  | broken
  deriving Repr, Inhabited

namespace Node

/-- What stands where nothing is written. -/
def empty : Node := scalar "" .plain none

end Node

/-! ## Anchors -/

/-- The anchors of a document.  A name is given a number, which is how many names there were before;
the number leads to the node that was given it last. -/
structure Anchors where
  names : List (String × Nat) := []
  /-- Numbers of anchors with the position of their node, the last first. -/
  places : List (Nat × Nat) := []
  nodes : List (Nat × Node) := []
  deriving Repr, Inhabited

namespace Anchors

def number? (a : Anchors) (name : String) : Option Nat := List.lookup name a.names

/-- Names a node that begins here and gives its position. -/
def enter (a : Anchors) (name : String) : Nat × Anchors :=
  let number := a.names.length
  let position := a.places.length
  (position, { a with
    names := (name, number) :: a.names.filter fun n => n.1 != name
    places := (number, position) :: a.places })

def leave (a : Anchors) (position : Nat) (n : Node) : Anchors :=
  { a with nodes := (position, n) :: a.nodes }

def node? (a : Anchors) (number : Nat) : Option Node := do
  let position ← List.lookup number a.places
  List.lookup position a.nodes

end Anchors

/-! ## Reading nodes -/

/-- What is left of the tokens.  After a failure nothing is left. -/
structure Remaining where
  tokens : List Token
  handles : List TagHandle := Tag.builtIn
  anchors : Anchors := {}
  deriving Repr

namespace Remaining

def past (r : Remaining) (tokens : List Token) : Remaining := { r with tokens }

def fail (r : Remaining) : Remaining := r.past []

def nextIs (r : Remaining) (ts : List Token) : Bool :=
  match r.tokens with
  | t :: _ => ts.contains t
  | [] => false

/-- Anchor and tag, in either order. -/
def properties (r : Remaining) : Option String × Option Tag × Remaining :=
  match r.tokens with
  | .anchor a :: .tag t :: rest => (some a, some t, r.past rest)
  | .tag t :: .anchor a :: rest => (some a, some t, r.past rest)
  | .anchor a :: rest => (some a, none, r.past rest)
  | .tag t :: rest => (none, some t, r.past rest)
  | _ => (none, none, r)

end Remaining

namespace Node

/-- Where a node may stand: inside brackets, as an item of a block or as a part of a pair. -/
inductive Place where
  | flow
  | item
  | pair
  deriving DecidableEq, Repr

mutual

/-- Every turn takes a token or goes one step further into a node. -/
def read (place : Place) : Nat → Remaining → Node × Remaining
  | 0, r => (broken, r.fail)
  | turns + 1, r =>
      match r.tokens with
      | .reference name :: rest =>
          match r.anchors.number? name with
          | some n => (reference n, r.past rest)
          | none => (broken, r.fail)
      | _ =>
          let (anchor, tag, r) := r.properties
          match anchor with
          | none => content place tag none turns r
          | some name =>
              let (position, anchors) := r.anchors.enter name
              let (n, r) := content place tag (some name) turns { r with anchors }
              (n, { r with anchors := r.anchors.leave position n })

/-- A node after its properties. -/
def content (place : Place) (written : Option Tag) (anchor : Option String) :
    Nat → Remaining → Node × Remaining
  | 0, r => (broken, r.fail)
  | turns + 1, r =>
      match written.map (Tag.resolve? r.handles) with
      | some none => (broken, r.fail)
      | resolved =>
          let tag := resolved.join
          match r.tokens with
          | .scalar text style :: rest => (scalar text style tag, r.past rest)
          | .flowSequenceStart :: rest =>
              let (items, r) := flowItems true turns (r.past rest)
              (list tag items, r)
          | .flowMappingStart :: rest =>
              let (pairs, r) := flowPairs true turns (r.past rest)
              (map tag pairs, r)
          | t :: rest =>
              if t = .blockEntry ∧ place = .pair then
                let (items, r) := plainItems turns r
                (list tag items, r)
              else if t = .blockSequenceStart ∧ place ≠ .flow then
                let (items, r) := blockItems turns (r.past rest)
                (list tag items, r)
              else if t = .blockMappingStart ∧ place ≠ .flow then
                let (pairs, r) := blockPairs turns (r.past rest)
                (map tag pairs, r)
              else if tag.isSome || anchor.isSome then (scalar "" .plain tag, r)
              else (broken, r.fail)
          | [] => (broken, r.fail)

/-- A node, or nothing before one of the given tokens. -/
def optional (place : Place) (ends : List Token) : Nat → Remaining → Node × Remaining
  | 0, r => (broken, r.fail)
  | turns + 1, r => if r.nextIs ends then (empty, r) else read place turns r

/-- Items of a block of their own, up to its end. -/
def blockItems : Nat → Remaining → List Node × Remaining
  | 0, r => ([broken], r.fail)
  | turns + 1, r =>
      match r.tokens with
      | .blockEntry :: rest =>
          let (n, r) := optional .item [.blockEntry, .blockEnd] turns (r.past rest)
          let (more, r) := blockItems turns r
          (n :: more, r)
      | .blockEnd :: rest => ([], r.past rest)
      | _ => ([broken], r.fail)

/-- Items that are not indented further than the pair they belong to. -/
def plainItems : Nat → Remaining → List Node × Remaining
  | 0, r => ([broken], r.fail)
  | turns + 1, r =>
      match r.tokens with
      | .blockEntry :: rest =>
          let (n, r) := optional .item [.blockEntry, .key, .value, .blockEnd] turns (r.past rest)
          let (more, r) := plainItems turns r
          (n :: more, r)
      | [] => ([broken], r.fail)
      | _ => ([], r)

/-- What follows a key: a value, or nothing. -/
def valueAfter (place : Place) (ends : List Token) : Nat → Remaining → Node × Remaining
  | 0, r => (broken, r.fail)
  | turns + 1, r =>
      match r.tokens with
      | .value :: rest => optional place ends turns (r.past rest)
      | [] => (broken, r.fail)
      | _ => (empty, r)

def blockPairs : Nat → Remaining → List (Node × Node) × Remaining
  | 0, r => ([(broken, broken)], r.fail)
  | turns + 1, r =>
      match r.tokens with
      | .key :: rest =>
          let (k, r) := optional .pair [.key, .value, .blockEnd] turns (r.past rest)
          let (v, r) := valueAfter .pair [.key, .value, .blockEnd] turns r
          let (more, r) := blockPairs turns r
          ((k, v) :: more, r)
      | .blockEnd :: rest => ([], r.past rest)
      | _ => ([(broken, broken)], r.fail)

/-- Items between brackets; a pair among them is a map of its own. -/
def flowItems (first : Bool) : Nat → Remaining → List Node × Remaining
  | 0, r => ([broken], r.fail)
  | turns + 1, r =>
      match r.tokens with
      | .flowSequenceEnd :: rest => ([], r.past rest)
      | .flowEntry :: rest =>
          if first then ([broken], r.fail)
          else
            match rest with
            | .flowSequenceEnd :: rest => ([], r.past rest)
            | _ => flowItem turns (r.past rest)
      | _ => if first then flowItem turns r else ([broken], r.fail)

/-- The next item between brackets and those after it. -/
def flowItem : Nat → Remaining → List Node × Remaining
  | 0, r => ([broken], r.fail)
  | turns + 1, r =>
      match r.tokens with
      | .key :: rest =>
          let (k, r) := flowKey turns (r.past rest)
          let (v, r) := valueAfter .flow [.flowEntry, .flowSequenceEnd] turns r
          let (more, r) := flowItems false turns r
          (map none [(k, v)] :: more, r)
      | _ =>
          let (n, r) := read .flow turns r
          let (more, r) := flowItems false turns r
          (n :: more, r)

/-- The key of a pair that is an item.  Where it is missing, the token in its place is lost. -/
def flowKey : Nat → Remaining → Node × Remaining
  | 0, r => (broken, r.fail)
  | turns + 1, r =>
      if r.nextIs [.value, .flowEntry, .flowSequenceEnd] then (empty, r.past (r.tokens.drop 1))
      else read .flow turns r

/-- Pairs between braces; a key alone has nothing for its value. -/
def flowPairs (first : Bool) : Nat → Remaining → List (Node × Node) × Remaining
  | 0, r => ([(broken, broken)], r.fail)
  | turns + 1, r =>
      match r.tokens with
      | .flowMappingEnd :: rest => ([], r.past rest)
      | .flowEntry :: rest =>
          if first then ([(broken, broken)], r.fail)
          else
            match rest with
            | .flowMappingEnd :: rest => ([], r.past rest)
            | _ => flowPair turns (r.past rest)
      | _ => if first then flowPair turns r else ([(broken, broken)], r.fail)

def flowPair : Nat → Remaining → List (Node × Node) × Remaining
  | 0, r => ([(broken, broken)], r.fail)
  | turns + 1, r =>
      match r.tokens with
      | .key :: rest =>
          let (k, r) := optional .flow [.value, .flowEntry, .flowMappingEnd] turns (r.past rest)
          let (v, r) := valueAfter .flow [.flowEntry, .flowMappingEnd] turns r
          let (more, r) := flowPairs false turns r
          ((k, v) :: more, r)
      | _ =>
          let (k, r) := read .flow turns r
          let v := if r.tokens.isEmpty then broken else empty
          let (more, r) := flowPairs false turns r
          ((k, v) :: more, r)

end

end Node

/-! ## Documents -/

/-- A document with its anchors.  One that cannot be read to its end is not complete. -/
structure Tree where
  root : Node
  anchors : Anchors
  complete : Bool
  deriving Repr

namespace Tree

/-- The directives before a document: at most one version, which has to be 1.1 or 1.2, and handles,
none twice. -/
def directives? (version : Bool) (handles : List TagHandle) :
    List Token → Option (List TagHandle × List Token)
  | .version major minor :: rest =>
      if version || major != 1 || (minor != 1 && minor != 2) then none
      else directives? true handles rest
  | .tagDirective h :: rest =>
      if handles.any fun g => g.handle == h.handle then none
      else directives? version (handles ++ [h]) rest
  | rest => some (handles, rest)

def isBoundary : Token → Bool
  | .version .. | .tagDirective _ | .documentStart | .documentEnd | .streamEnd => true
  | _ => false

/-- Marks of an end that stand before the next document. -/
def skipEnds : List Token → List Token
  | .documentEnd :: rest => skipEnds rest
  | ts => ts

/-- The end of a document. -/
def close (n : Node) (r : Remaining) : Tree × List Token :=
  match r.tokens with
  | [] => (⟨n, r.anchors, false⟩, [])
  | .documentEnd :: rest => (⟨n, r.anchors, true⟩, rest)
  | ts => (⟨n, r.anchors, true⟩, ts)

def unreadable : Tree := ⟨.broken, {}, false⟩

/-- A document that begins without a mark. -/
def bare (turns : Nat) (ts : List Token) : Tree × List Token :=
  let (n, r) := Node.read .item turns { tokens := ts }
  close n r

/-- A document after its directives, which begins with a mark. -/
def marked (turns : Nat) (ts : List Token) : Tree × List Token :=
  match directives? false [] ts with
  | some (handles, .documentStart :: rest) =>
      let r : Remaining := { tokens := rest, handles := handles ++ Tag.builtIn }
      match rest with
      | [] => (unreadable, [])
      | t :: _ =>
          if isBoundary t then close .empty r
          else
            let (n, r) := Node.read .item turns r
            close n r
  | _ => (unreadable, [])

/-- The documents after the first. -/
def further : Nat → List Token → List Tree
  | 0, _ => []
  | turns + 1, ts =>
      match skipEnds ts with
      | [.streamEnd] => []
      | ts =>
          let (tree, rest) := marked turns ts
          if tree.complete then tree :: further turns rest else [tree]

/-- The documents of a text.  A text without any has one that holds nothing. -/
def all (text : String) : List Tree :=
  let ts := Token.scan text
  let turns := 4 * ts.length + 8
  match ts with
  | [.streamEnd] => [⟨.void, {}, true⟩]
  | t :: _ =>
      let (tree, rest) := if isBoundary t && t != .documentEnd then marked turns ts else bare turns ts
      if tree.complete then tree :: further turns rest else [tree]
  | [] => [unreadable]

end Tree
end Yaml
end MailRules
