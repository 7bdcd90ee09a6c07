import MailRules.Source

/-!
# Scalars — documents without maps inside

Below the one map of a document of rules there may be any scalars and lists of them; a scalar that
is no text becomes the token it is written as.  Whole numbers of more than 64 bits are left out of
this: one of them, anywhere in the document, costs all of it.  This file defines:

* `Yaml.Scalar`, a scalar without a tag, with the token it becomes;
* `Yaml.Node.ofNested`, scalars in nested lists as a part of a document;
* `Yaml.pairs?`, the content of a text that is one such map;

and proves `Document.read_scalars`: such a text is read into one entry for each pair, in order,
unless it holds a number that is too wide, and then not at all.
-/

namespace MailRules
namespace Yaml

/-! ## Scalars -/

/-- A scalar without a tag. -/
structure Scalar where
  text : String
  style : ScalarStyle
  deriving DecidableEq, Repr

namespace Scalar

def value (s : Scalar) : Value := Schema.scalar s.text (s.style == .plain) none

/-- The token of a value that is no list and no map. -/
def tokenOf : Value → String
  | .bool b => Value.boolText b
  | .int n => toString n
  | .wide n => toString n
  | .float x => Shortest.positional x
  | .string s => s
  | _ => ""

def token (s : Scalar) : String := tokenOf s.value

/-- Whether a scalar is a whole number that does not fit into 64 bits, but into 128. -/
def isWide (s : Scalar) : Bool :=
  match s.value with
  | .wide _ => true
  | _ => false

/-- The error for the first of some scalars that is too wide. -/
def refusal? (scalars : List Scalar) : Option DataError :=
  (scalars.find? isWide).map fun s => .wrongType (s.value.shape .yaml) Value.specWanted

theorem refusal?_append (scalars more : List Scalar) :
    refusal? (scalars ++ more) = (refusal? scalars).or (refusal? more) := by
  simp only [refusal?, List.find?_append]
  cases scalars.find? isWide <;> rfl

end Scalar

/-- The values a scalar without a tag can have. -/
inductive IsScalarValue : Value → Prop where
  | null : IsScalarValue .null
  | bool (b : Bool) : IsScalarValue (.bool b)
  | int (n : Int) : IsScalarValue (.int n)
  | wide (n : Int) : IsScalarValue (.wide n)
  | float (x : Binary64) : IsScalarValue (.float x)
  | string (s : String) : IsScalarValue (.string s)

theorem isScalarValue_of_int? {s : String} {v : Value} (h : Schema.int? s = some v) :
    IsScalarValue v := by
  unfold Schema.int? at h
  split at h
  · simp at h
  · next n _ =>
      split at h
      · obtain rfl : Value.int n = v := by simpa using h
        exact .int n
      · split at h
        · obtain rfl : Value.wide n = v := by simpa using h
          exact .wide n
        · simp at h

theorem isScalarValue_plain (s : String) : IsScalarValue (Schema.plain s) := by
  unfold Schema.plain
  split
  · exact .null
  · split
    · next b _ => exact .bool b
    · split
      · next v hv => exact isScalarValue_of_int? hv
      · split
        · next x _ => exact .float x
        · exact .string s

theorem Scalar.isScalarValue (s : Scalar) : IsScalarValue s.value := by
  simp only [Scalar.value, Schema.scalar, Schema.isOwnTag]
  cases s.style == ScalarStyle.plain with
  | true => exact isScalarValue_plain s.text
  | false => exact .string s.text

/-- A scalar becomes its token unless it is too wide. -/
theorem Scalar.spec?_value (s : Scalar) : s.value.spec? .yaml =
    match refusal? [s] with
    | none => .ok (.leaf s.token)
    | some e => .error e := by
  have hvalue := s.isScalarValue
  simp only [refusal?, token, isWide, List.find?_cons, List.find?_nil]
  cases h : s.value with
  | list items => rw [h] at hvalue; cases hvalue
  | map pairs => rw [h] at hvalue; cases hvalue
  | tagged => rw [h] at hvalue; cases hvalue
  | broken => rw [h] at hvalue; cases hvalue
  | wide n => simp [Value.spec?, Value.refuse, h]
  | _ => simp [Value.spec?, tokenOf]

/-! ## Scalars in nested lists -/

namespace Node

mutual

/-- Scalars in nested lists, as a part of a document. -/
def ofNested : Nested Scalar → Node
  | .leaf s => scalar s.text s.style none
  | .list items => list none (ofNestedAll items)

def ofNestedAll : List (Nested Scalar) → List Node
  | [] => []
  | x :: xs => ofNested x :: ofNestedAll xs

end

mutual

/-- A part of a document as scalars in nested lists, if it is made of nothing else. -/
def scalars? : Node → Option (Nested Scalar)
  | scalar text style none => some (.leaf ⟨text, style⟩)
  | list none items => (allScalars? items).map .list
  | _ => none

def allScalars? : List Node → Option (List (Nested Scalar))
  | [] => some []
  | n :: ns =>
      match scalars? n, allScalars? ns with
      | some x, some xs => some (x :: xs)
      | _, _ => none

end

mutual

theorem eq_ofNested_of_scalars? :
    ∀ {n : Node} {x : Nested Scalar}, scalars? n = some x → n = ofNested x
  | scalar text style none, x, h => by
      obtain rfl : Nested.leaf ⟨text, style⟩ = x := by simpa [scalars?] using h
      rfl
  | list none items, x, h => by
      cases hitems : allScalars? items with
      | none => simp [scalars?, hitems] at h
      | some xs =>
          obtain rfl : Nested.list xs = x := by simpa [scalars?, hitems] using h
          rw [ofNested, ← eq_ofNestedAll_of_allScalars? hitems]
  | scalar _ _ (some _), _, h => by simp [scalars?] at h
  | list (some _) _, _, h => by simp [scalars?] at h
  | map _ _, _, h => by simp [scalars?] at h
  | reference _, _, h => by simp [scalars?] at h
  | void, _, h => by simp [scalars?] at h
  | broken, _, h => by simp [scalars?] at h

theorem eq_ofNestedAll_of_allScalars? : ∀ {ns : List Node} {xs : List (Nested Scalar)},
    allScalars? ns = some xs → ns = ofNestedAll xs
  | [], xs, h => by
      obtain rfl : [] = xs := by simpa [allScalars?] using h
      rfl
  | n :: ns, xs, h => by
      cases hn : scalars? n with
      | none => simp [allScalars?, hn] at h
      | some y =>
          cases hns : allScalars? ns with
          | none => simp [allScalars?, hn, hns] at h
          | some ys =>
              obtain rfl : y :: ys = xs := by simpa [allScalars?, hn, hns] using h
              rw [ofNestedAll, ← eq_ofNested_of_scalars? hn, ← eq_ofNestedAll_of_allScalars? hns]

end

end Node

mutual

def valueOf : Nested Scalar → Value
  | .leaf s => s.value
  | .list items => .list (valuesOf items)

def valuesOf : List (Nested Scalar) → List Value
  | [] => []
  | x :: xs => valueOf x :: valuesOf xs

end

mutual

theorem spec?_valueOf : ∀ x : Nested Scalar, (valueOf x).spec? .yaml =
    match Scalar.refusal? x.leaves with
    | none => .ok (x.map Scalar.token)
    | some e => .error e
  | .leaf s => by
      simpa [valueOf, Nested.leaves, Nested.map] using s.spec?_value
  | .list items => by
      have hitems := specs?_valuesOf items
      simp only [valueOf, Value.spec?, Nested.leaves, Nested.map, hitems]
      cases Scalar.refusal? (Nested.leavesAll items) <;> rfl

/-- The first item that is refused decides. -/
theorem specs?_valuesOf : ∀ xs : List (Nested Scalar), Value.specs? .yaml (valuesOf xs) =
    match Scalar.refusal? (Nested.leavesAll xs) with
    | none => .ok (Nested.mapAll Scalar.token xs)
    | some e => .error e
  | [] => rfl
  | x :: xs => by
      have hx := spec?_valueOf x
      have hxs := specs?_valuesOf xs
      simp only [valuesOf, Value.specs?, Nested.leavesAll, Nested.mapAll, Scalar.refusal?_append,
        hx, hxs]
      cases Scalar.refusal? x.leaves with
      | some e => rfl
      | none => cases Scalar.refusal? (Nested.leavesAll xs) <;> rfl

end

mutual

/-- Without aliases nothing is followed, so that only the depth could stand in the way. -/
theorem expand_ofNested (t : Tree) : ∀ (x : Nested Scalar) (depth jumps : Nat), x.depth ≤ depth →
    t.expand depth jumps (Node.ofNested x) = (valueOf x, some jumps)
  | .leaf s, depth, jumps, _ => by
      have hvalue := s.isScalarValue
      unfold Tree.expand
      simp only [Node.ofNested, Tree.follow?, valueOf]
      split
      · next hbroken =>
          have hs : s.value = .broken := hbroken
          rw [hs] at hvalue
          cases hvalue
      · rfl
  | .list items, 0, jumps, h => by
      -- even an empty list is one deep
      simp [Nested.depth] at h
  | .list items, depth + 1, jumps, h => by
      have hitems := expandAll_ofNestedAll t items depth jumps (by simpa [Nested.depth] using h)
      unfold Tree.expand
      simp [Node.ofNested, Tree.follow?, Schema.isOwnTag, valueOf, hitems]

theorem expandAll_ofNestedAll (t : Tree) : ∀ (xs : List (Nested Scalar)) (depth jumps : Nat),
    Nested.depthAll xs ≤ depth →
      Expanded.all (t.expand depth) jumps (Node.ofNestedAll xs) = (valuesOf xs, some jumps)
  | [], depth, jumps, _ => rfl
  | x :: xs, depth, jumps, h => by
      have hboth : x.depth ≤ depth ∧ Nested.depthAll xs ≤ depth := by
        simpa [Nested.depthAll, Nat.max_le] using h
      have hx := expand_ofNested t x depth jumps hboth.1
      have hxs := expandAll_ofNestedAll t xs depth jumps hboth.2
      simp [Node.ofNestedAll, Expanded.all, valuesOf, hx, hxs]

end

/-! ## Maps of scalars -/

/-- The two sides of a pair. -/
abbrev ScalarPair := Nested Scalar × Nested Scalar

namespace ScalarPair

def nodes (p : ScalarPair) : Node × Node := (.ofNested p.1, .ofNested p.2)

/-- The entry that a pair becomes. -/
def entry (p : ScalarPair) : Entry := (p.1.map Scalar.token, p.2.map Scalar.token)

def leaves (p : ScalarPair) : List Scalar := p.1.leaves ++ p.2.leaves

/-- Neither side is nested as deep as a document can be, of which the map takes one step. -/
def IsShallow (p : ScalarPair) : Prop := p.1.depth < maxNesting ∧ p.2.depth < maxNesting

instance (p : ScalarPair) : Decidable p.IsShallow := inferInstanceAs (Decidable (_ ∧ _))

end ScalarPair

def Node.scalarPairs? : List (Node × Node) → Option (List ScalarPair)
  | [] => some []
  | (k, v) :: rest =>
      match k.scalars?, v.scalars?, scalarPairs? rest with
      | some x, some y, some pairs => some ((x, y) :: pairs)
      | _, _, _ => none

theorem Node.eq_nodes_of_scalarPairs? {nodes : List (Node × Node)} : ∀ {pairs : List ScalarPair},
    scalarPairs? nodes = some pairs → nodes = pairs.map ScalarPair.nodes := by
  induction nodes with
  | nil =>
      intro pairs h
      obtain rfl : [] = pairs := by simpa [scalarPairs?] using h
      rfl
  | cons node nodes ih =>
      intro pairs h
      rcases node with ⟨k, v⟩
      simp only [scalarPairs?] at h
      split at h
      · next x y more hx hy hmore =>
          obtain rfl : (x, y) :: more = pairs := by simpa using h
          rw [List.map_cons, ← ih hmore, ScalarPair.nodes, ← eq_ofNested_of_scalars? hx,
            ← eq_ofNested_of_scalars? hy]
      · simp at h

theorem expandAllPairs_nodes (t : Tree) (depth jumps : Nat) (pairs : List ScalarPair)
    (h : ∀ p ∈ pairs, p.1.depth ≤ depth ∧ p.2.depth ≤ depth) :
    Expanded.allPairs (t.expand depth) jumps (pairs.map ScalarPair.nodes) =
      (pairs.map fun p => (valueOf p.1, valueOf p.2), some jumps) := by
  induction pairs with
  | nil => rfl
  | cons p pairs ih =>
      have hp := h p (List.mem_cons_self ..)
      have hkey := expand_ofNested t p.1 depth jumps hp.1
      have hvalue := expand_ofNested t p.2 depth jumps hp.2
      have hrest := ih (fun q hq => h q (List.mem_cons_of_mem _ hq))
      simp [Expanded.allPairs, ScalarPair.nodes, hkey, hvalue, hrest]

theorem expand_map_nodes (t : Tree) (depth jumps : Nat) (pairs : List ScalarPair)
    (h : ∀ p ∈ pairs, p.1.depth ≤ depth ∧ p.2.depth ≤ depth) :
    t.expand (depth + 1) jumps (.map none (pairs.map ScalarPair.nodes)) =
      (.map (pairs.map fun p => (valueOf p.1, valueOf p.2)), some jumps) := by
  have hpairs := expandAllPairs_nodes t depth jumps pairs h
  unfold Tree.expand
  simp [Tree.follow?, Schema.isOwnTag, hpairs]

theorem pairs?_values (pairs : List ScalarPair) :
    Value.pairs? .yaml (pairs.map fun p => (valueOf p.1, valueOf p.2)) =
      match Scalar.refusal? (pairs.flatMap ScalarPair.leaves) with
      | none => .ok (pairs.map ScalarPair.entry)
      | some e => .error e := by
  induction pairs with
  | nil => rfl
  | cons p pairs ih =>
      simp only [List.map_cons, List.flatMap_cons, Value.pairs?, ScalarPair.leaves,
        Scalar.refusal?_append, spec?_valueOf, ih]
      -- the key is read first, then the value, then the pairs that follow
      cases Scalar.refusal? p.1.leaves with
      | some e => rfl
      | none =>
          cases Scalar.refusal? p.2.leaves with
          | some e => rfl
          | none => cases Scalar.refusal? (pairs.flatMap ScalarPair.leaves) <;> rfl

/-! ## Texts -/

/-- The pairs of a text that holds a single document, which is a map of scalars and lists of them;
none of them has a tag or stands for another.  A blank text holds nothing. -/
def pairs? (text : String) : Option (List ScalarPair) :=
  if isBlankText text then none
  else
    match Tree.all text with
    | [⟨.map none pairs, _, true⟩] => Node.scalarPairs? pairs
    | _ => none

theorem document_of_pairs? {text : String} {pairs : List ScalarPair} (h : pairs? text = some pairs)
    (hshallow : ∀ p ∈ pairs, p.IsShallow) :
    isBlankText text = false ∧
      document text = (.map (pairs.map fun p => (valueOf p.1, valueOf p.2)), true) := by
  cases hblank : isBlankText text with
  | true => simp [pairs?, hblank] at h
  | false =>
      refine ⟨rfl, ?_⟩
      simp only [pairs?, hblank] at h
      split at h
      · simp at h
      · split at h
        · next nodes anchors htree =>
            have hnodes := Node.eq_nodes_of_scalarPairs? h
            have hdepth : ∀ p ∈ pairs, p.1.depth ≤ 127 ∧ p.2.depth ≤ 127 := by
              intro p hp
              exact ⟨Nat.le_of_lt_add_one (hshallow p hp).1, Nat.le_of_lt_add_one (hshallow p hp).2⟩
            have hvalue : Tree.value ⟨.map none nodes, anchors, true⟩ =
                .map (pairs.map fun p => (valueOf p.1, valueOf p.2)) := by
              -- the map itself takes one step
              have hnesting : maxNesting = 127 + 1 := rfl
              rw [Tree.value, hnesting, hnodes, expand_map_nodes _ 127 _ pairs hdepth]
            unfold document
            rw [htree]
            show (Tree.value _, true) = _
            rw [hvalue]
        · simp at h

end Yaml

namespace Document

open Yaml

/-- A map of scalars and lists of them is read into one entry for each of its pairs, in order, with
each scalar as a token.  Only a number that is too wide stands in the way, and then there is no
entry at all. -/
theorem read_scalars (id text : String) (pairs : List ScalarPair) (hid : formatOf id = .yaml)
    (h : pairs? text = some pairs) (hshallow : ∀ p ∈ pairs, p.IsShallow) :
    read id text =
      match Scalar.refusal? (pairs.flatMap ScalarPair.leaves) with
      | none => .ok (pairs.map ScalarPair.entry)
      | some e => .error (.malformed id .yaml e) := by
  rcases document_of_pairs? h hshallow with ⟨hblank, hdocument⟩
  have hentries : entries? .yaml text =
      match Scalar.refusal? (pairs.flatMap ScalarPair.leaves) with
      | none => .ok (pairs.map ScalarPair.entry)
      | some e => .error e := by
    simp only [entries?, valueOf, hdocument, Value.entries?, pairs?_values]
    cases Scalar.refusal? (pairs.flatMap ScalarPair.leaves) <;> rfl
  simp only [read, hblank, hid, hentries]
  cases Scalar.refusal? (pairs.flatMap ScalarPair.leaves) <;> rfl

/-- Scalars of several kinds, lists inside a list and a key that comes again. -/
theorem read_scalars_mixed :
    ∃ pairs, formatOf "rules.yaml" = .yaml ∧
      pairs? "42: [~, [1.5, yes]]\n42: 'true'\n" = some pairs ∧ (∀ p ∈ pairs, p.IsShallow) ∧
      read "rules.yaml" "42: [~, [1.5, yes]]\n42: 'true'\n" = .ok
        [(.leaf "42", .list [.leaf "", .list [.leaf "1.5", .leaf "yes"]]),
          (.leaf "42", .leaf "true")] := by
  let pairs : List ScalarPair :=
    [(.leaf ⟨"42", .plain⟩,
        .list [.leaf ⟨"~", .plain⟩, .list [.leaf ⟨"1.5", .plain⟩, .leaf ⟨"yes", .plain⟩]]),
      (.leaf ⟨"42", .plain⟩, .leaf ⟨"true", .quoted⟩)]
  have hid : formatOf "rules.yaml" = .yaml := by decide +kernel
  have hpairs : pairs? "42: [~, [1.5, yes]]\n42: 'true'\n" = some pairs := by decide +kernel
  have hshallow : ∀ p ∈ pairs, p.IsShallow := by decide
  have hnarrow : Scalar.refusal? (pairs.flatMap ScalarPair.leaves) = none := by decide +kernel
  have hentries : pairs.map ScalarPair.entry =
      [(.leaf "42", .list [.leaf "", .list [.leaf "1.5", .leaf "yes"]]),
        (.leaf "42", .leaf "true")] := by
    decide +kernel
  have hread := read_scalars "rules.yaml" _ pairs hid hpairs hshallow
  rw [hnarrow, hentries] at hread
  exact ⟨pairs, hid, hpairs, hshallow, hread⟩

/-- A key that is a number of more than 64 bits costs the document, the good pair after it
included. -/
theorem read_wide_number :
    ∃ pairs, formatOf "rules.yaml" = .yaml ∧
      pairs? "18446744073709551616: star\ninbox: read" = some pairs ∧ (∀ p ∈ pairs, p.IsShallow) ∧
      ¬ ∃ es, read "rules.yaml" "18446744073709551616: star\ninbox: read" = .ok es := by
  let pairs : List ScalarPair :=
    [(.leaf ⟨"18446744073709551616", .plain⟩, .leaf ⟨"star", .plain⟩),
      (.leaf ⟨"inbox", .plain⟩, .leaf ⟨"read", .plain⟩)]
  have hid : formatOf "rules.yaml" = .yaml := by decide +kernel
  have hpairs : pairs? "18446744073709551616: star\ninbox: read" = some pairs := by decide +kernel
  have hshallow : ∀ p ∈ pairs, p.IsShallow := by decide
  have hrefused : (read "rules.yaml" "18446744073709551616: star\ninbox: read").isOk = false := by
    decide +kernel
  refine ⟨pairs, hid, hpairs, hshallow, ?_⟩
  rintro ⟨es, hes⟩
  rw [hes] at hrefused
  cases hrefused

end Document
end MailRules
