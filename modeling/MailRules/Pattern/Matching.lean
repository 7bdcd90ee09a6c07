import MailRules.Pattern.Expr

/-!
# Matching — whether a pattern is found in a text

A place is a number from zero to the length of the text.  An expression relates the place where a
match of it starts to the places where that match can end, and the question whether a pattern is
found at all only needs the image of a set of places under that relation:

* a set of places is a number, whose bit `i` says whether place `i` belongs;
* `Plan` is an expression in which every leaf has been replaced by the set of places where it
  applies;
* `Plan.image` maps a set of starting places to the set of places that can be reached.

Every step works on all places at once, so the work is bounded by the size of the plan and the
length of the text, whatever the pattern.
-/

namespace MailRules
namespace Pattern

/-- A list of answers as binary digits, the first of which counts one. -/
def bits : List Bool → Nat
  | [] => 0
  | b :: bs => 2 * bits bs + b.toNat

/-- The set of places of a list of answers, the first of which is about place zero.  It is `bits`,
put together a block at a time, which keeps most of the work on small numbers. -/
def placesOf (answers : List Bool) : Nat :=
  if h : answers.drop 32 = [] then bits answers
  else
    have : (answers.drop 32).length < answers.length := by
      rw [List.drop_eq_nil_iff] at h
      rw [List.length_drop]
      omega
    bits (answers.take 32) + placesOf (answers.drop 32) <<< 32
termination_by answers.length

/-! ## Conditions on a place -/

def isWordChar (unicode : Bool) (c : Char) : Bool :=
  if unicode then Unicode.word.contains c else NamedClass.word.set.contains c

/-- Whether a condition holds between the character before and the character after. -/
def Look.holds (l : Look) (before after : Option Char) : Bool :=
  let wordBefore (u : Bool) := before.any (isWordChar u)
  let wordAfter (u : Bool) := after.any (isWordChar u)
  match l with
  | .textStart => before.isNone
  | .textEnd => after.isNone
  | .lineStart false => before.isNone || before == some '\n'
  | .lineStart true =>
      before.isNone || before == some '\n' || (before == some '\r' && after != some '\n')
  | .lineEnd false => after.isNone || after == some '\n'
  | .lineEnd true =>
      after.isNone || after == some '\r' || (after == some '\n' && before != some '\r')
  | .wordBoundary u => wordBefore u != wordAfter u
  | .notWordBoundary u => wordBefore u == wordAfter u
  | .wordStart u => !wordBefore u && wordAfter u
  | .wordEnd u => wordBefore u && !wordAfter u
  | .wordStartHalf u => !wordBefore u
  | .wordEndHalf u => !wordAfter u

/-- The answers for all places, from the one after `before` on. -/
def Look.answers (l : Look) (before : Option Char) : List Char → List Bool
  | [] => [l.holds before none]
  | c :: cs => l.holds before (some c) :: l.answers (some c) cs

/-! ## Plans -/

inductive Plan where
  | stay
  | step (places : Nat)
  | guarded (places : Nat)
  | repeated (p : Plan) (min extra : Nat)
  | cat (ps : List Plan)
  | alt (ps : List Plan)
  deriving Repr, Inhabited

namespace Expr

mutual

/-- An expression laid over a text.  An unbounded repetition never needs more rounds than there are
places, since a round that reaches no new place can be left out. -/
def plan (text : List Char) : Expr → Plan
  | empty => .stay
  | set s => .step (placesOf (text.map s.contains))
  | look l => .guarded (placesOf (l.answers none text))
  | repeated e min (some max) _ => .repeated (plan text e) min (max - min)
  | repeated e min none _ => .repeated (plan text e) min (text.length + 1)
  | capture e => plan text e
  | cat es => .cat (plans text es)
  | alt es => .alt (plans text es)

def plans (text : List Char) : List Expr → List Plan
  | [] => []
  | e :: es => plan text e :: plans text es

end

end Expr

/-! ## Images -/

/-- Exactly `n` rounds; a set that a round does not change stays as it is. -/
def rounds (f : Nat → Nat) : Nat → Nat → Nat
  | 0, s => s
  | n + 1, s =>
      let t := f s
      if t == s then s else rounds f n t

/-- Up to `n` further rounds, each from the places that the round before was the first to reach. -/
def spread (f : Nat → Nat) : Nat → Nat → Nat → Nat
  | 0, _, reached => reached
  | n + 1, newest, reached =>
      let t := f newest
      let fresh := t ^^^ (t &&& reached)
      if fresh == 0 then reached else spread f n fresh (reached ||| fresh)

namespace Plan

mutual

def image : Plan → Nat → Nat
  | stay, s => s
  | step places, s => (s &&& places) <<< 1
  | guarded places, s => s &&& places
  | repeated p min extra, s =>
      let start := rounds (fun t => image p t) min s
      spread (fun t => image p t) extra start start
  | cat ps, s => imageCat ps s
  | alt ps, s => imageAlt ps s

def imageCat : List Plan → Nat → Nat
  | [], s => s
  | p :: ps, s => imageCat ps (image p s)

def imageAlt : List Plan → Nat → Nat
  | [], _ => 0
  | p :: ps, s => image p s ||| imageAlt ps s

end

end Plan

/-- Whether some stretch of the text matches. -/
def Expr.isFoundIn (e : Expr) (text : String) : Bool :=
  let cs := text.toList
  (e.plan cs).image (1 <<< (cs.length + 1) - 1) != 0

end Pattern
end MailRules
