import MailRules.Pattern.Expr

/-!
# Shape — an expression in the simplified form that automata are made from

A `Shape` says the same as an `Expr` with fewer parts.  Each of its constructors that has parts is
reached through one function, which takes simplified parts and gives a simplified whole:

* `Shape.ofSet`: a set with a single member is a literal;
* `Shape.ofCat`: no part of a sequence is empty or a sequence, and neighbouring literals are one;
* `Shape.ofAlt`: no alternative is a choice, characters or sets to choose from are one set, and what
  sequences have in common at their beginning stands before the choice;
* `Shape.ofRepeated`: a repetition of what is always empty has one round at most, and a single round
  is no repetition.
-/

namespace MailRules
namespace Pattern

/-- A literal has at least one character, a sequence and a choice have at least two parts. -/
inductive Shape where
  | empty
  | literal (cs : List Char)
  | set (s : CharSet)
  | look (l : Look)
  | repeated (e : Shape) (min : Nat) (max : Option Nat) (reluctant : Bool)
  | capture (e : Shape)
  | cat (es : List Shape)
  | alt (es : List Shape)
  deriving Repr, Inhabited

namespace Shape

/-! ## Lengths -/

mutual

/-- Whether no match has a character in it. -/
def isEmptyOnly : Shape → Bool
  | empty => true
  | literal _ => false
  | set _ => false
  | look _ => true
  | repeated e _ max _ => max.isSome && isEmptyOnly e
  | capture e => isEmptyOnly e
  | cat es => areEmptyOnly es
  | alt es => areEmptyOnly es

def areEmptyOnly : List Shape → Bool
  | [] => true
  | e :: es => isEmptyOnly e && areEmptyOnly es

end

mutual

/-- The fewest characters of a match; nothing where a part can never match, whatever stands beside
it. -/
def minLength : Shape → Option Nat
  | empty => some 0
  | literal cs => some cs.length
  | set s => if s.isEmpty then none else some 1
  | look _ => some 0
  | repeated e min _ _ => (minLength e).map (· * min)
  | capture e => minLength e
  | cat es => minLengths es >>= fun ns => some ns.sum
  | alt es => minLengths es >>= List.min?

def minLengths : List Shape → Option (List Nat)
  | [] => some []
  | e :: es => do return (← minLength e) :: (← minLengths es)

end

/-- Whether every match is known to have a character in it. -/
def isNeverEmpty (e : Shape) : Bool := e.minLength.any (0 < ·)

/-! ## Ends that are tied down -/

mutual

/-- Whether every match begins where the condition holds, as far as the parts tell. -/
def beginsAt (l : Look) : Shape → Bool
  | look k => k == l
  | repeated e min _ _ => min != 0 && beginsAt l e
  | capture e => beginsAt l e
  | cat es => beginAt l es
  | alt es => allBeginAt l es
  | _ => false

/-- A sequence begins with all its parts up to the first that can have a character in it. -/
def beginAt (l : Look) : List Shape → Bool
  | [] => false
  | e :: es => beginsAt l e || (isEmptyOnly e && beginAt l es)

def allBeginAt (l : Look) : List Shape → Bool
  | [] => true
  | e :: es => beginsAt l e && allBeginAt l es

end

mutual

/-- Whether every match ends where the condition holds, as far as the parts tell. -/
def endsAt (l : Look) : Shape → Bool
  | look k => k == l
  | repeated e min _ _ => min != 0 && endsAt l e
  | capture e => endsAt l e
  | cat es => endAt l es
  | alt es => allEndAt l es
  | _ => false

/-- A sequence ends with all its parts from the last on that can have a character in it. -/
def endAt (l : Look) : List Shape → Bool
  | [] => false
  | e :: es => endAt l es || (areEmptyOnly es && endsAt l e)

def allEndAt (l : Look) : List Shape → Bool
  | [] => true
  | e :: es => endsAt l e && allEndAt l es

end

/-! ## Sameness -/

mutual

/-- Whether two shapes are the same; two groups never are, since each captures for itself. -/
def same : Shape → Shape → Bool
  | empty, empty => true
  | literal cs, literal ds => cs == ds
  | set s, set t => s == t
  | look l, look k => l == k
  | repeated e min max reluctant, repeated e' min' max' reluctant' =>
      min == min' && max == max' && reluctant == reluctant' && same e e'
  | cat es, cat fs => areSame es fs
  | alt es, alt fs => areSame es fs
  | _, _ => false

def areSame : List Shape → List Shape → Bool
  | [], [] => true
  | e :: es, f :: fs => same e f && areSame es fs
  | _, _ => false

end

/-- How many parts two sequences share at their beginning. -/
def commonLength : List Shape → List Shape → Nat
  | e :: es, f :: fs => if same e f then commonLength es fs + 1 else 0
  | _, _ => 0

/-! ## Sets and sequences -/

def surrogates : CharSet := CharSet.range 0xD800 0xDFFF

def ofSet (s : CharSet) : Shape :=
  let chars := s.diff surrogates
  match chars.ranges with
  | [(a, b)] => if a == b then literal [Char.ofNat a] else set chars
  | _ => set chars

/-- The parts that a shape brings into a sequence. -/
def parts : Shape → List Shape
  | empty => []
  | cat es => es
  | e => [e]

/-- Puts a part in front; a literal in front of a literal becomes one with it. -/
def prepend (e : Shape) (es : List Shape) : List Shape :=
  match e, es with
  | literal cs, literal ds :: rest => literal (cs ++ ds) :: rest
  | e, es => e :: es

def ofCat (es : List Shape) : Shape :=
  match (es.flatMap parts).foldr prepend [] with
  | [] => empty
  | [e] => e
  | es => cat es

/-! ## Choices -/

/-- The alternatives that a shape brings into a choice. -/
def alternatives : Shape → List Shape
  | alt es => es
  | e => [e]

def char? : Shape → Option Char
  | literal [c] => some c
  | _ => none

def set? : Shape → Option CharSet
  | set s => some s
  | _ => none

def cat? : Shape → Option (List Shape)
  | cat es => some es
  | _ => none

/-- A choice whose alternatives are looked at whole. -/
def choice (es : List Shape) : Shape :=
  match es.flatMap alternatives with
  | [] => set CharSet.empty
  | [e] => e
  | es =>
      match es.mapM char? with
      | some cs => ofSet (CharSet.ofChars cs)
      | none =>
          match es.mapM set? with
          | some ss => ofSet (CharSet.unions ss)
          | none => alt es

/-- Once the common beginning is taken away nothing is left in common, so the rest is a plain
choice. -/
def ofAlt (es : List Shape) : Shape :=
  match choice es with
  | alt es =>
      match es.mapM cat? with
      | some (first :: others) =>
          let shared := others.foldl (fun n es => min n (commonLength first es)) first.length
          if shared == 0 then alt es
          else
            let rests := (first :: others).map fun es => ofCat (es.drop shared)
            ofCat (first.take shared ++ [choice rests])
      | _ => alt es
  | e => e

/-! ## Repetitions -/

def ofRepeated (e : Shape) (min : Nat) (max : Option Nat) (reluctant : Bool) : Shape :=
  let atMostOne (n : Nat) := Nat.min n 1
  let min := if isEmptyOnly e then atMostOne min else min
  let max := if isEmptyOnly e then some ((max.map atMostOne).getD 1) else max
  if max == some 0 then empty
  else if min == 1 && max == some 1 then e
  else repeated e min max reluctant

end Shape

/-! ## Simplification -/

namespace Expr

mutual

def shape : Expr → Shape
  | empty => .empty
  | set s => .ofSet s
  | look l => .look l
  | repeated e min max reluctant => .ofRepeated (shape e) min max reluctant
  | capture e => .capture (shape e)
  | cat es => .ofCat (shapes es)
  | alt es => .ofAlt (shapes es)

def shapes : List Expr → List Shape
  | [] => []
  | e :: es => shape e :: shapes es

end

end Expr
end Pattern
end MailRules
