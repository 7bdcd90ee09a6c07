/-!
# Ast — the written form of a pattern

What a pattern says, before flags are applied and classes are worked out:

* `Ast` is a pattern as written, with its groups, repetitions and flag directives;
* `ClassSet` is what stands between the brackets of a character class;
* `Ast.depth` counts how deep one construct sits inside another.

How groups are numbered and named does not change which texts a pattern is found in, so it is not
kept.  Whether a repetition prefers few rounds to many does not change that either, but two
repetitions that differ in it are not the same when alternatives are searched for a common
beginning.
-/

namespace MailRules
namespace Pattern

/-! ## Flags -/

inductive Flag where
  | caseInsensitive
  | multiLine
  | dotAll
  | swapGreed
  | unicode
  | crlf
  | verbose
  deriving DecidableEq, Repr

/-- The flags that a directive switches on and off. -/
structure FlagEdit where
  on : List Flag
  off : List Flag
  deriving DecidableEq, Repr

namespace FlagEdit

def none : FlagEdit := ⟨[], []⟩

/-- The state of a flag after the edit, given its state before. -/
def apply (e : FlagEdit) (f : Flag) (before : Bool) : Bool :=
  if e.on.contains f then true else if e.off.contains f then false else before

end FlagEdit

/-! ## Leaves -/

/-- A character, and whether it was written by its value in two hexadecimal digits. -/
structure Literal where
  char : Char
  byHex : Bool
  deriving DecidableEq, Repr

inductive Assertion where
  | lineStart
  | lineEnd
  | textStart
  | textEnd
  | wordBoundary
  | notWordBoundary
  | wordStart
  | wordEnd
  | wordStartHalf
  | wordEndHalf
  deriving DecidableEq, Repr

inductive LetterClass where
  | digit
  | space
  | word
  deriving DecidableEq, Repr

inductive NamedClass where
  | alnum
  | alpha
  | ascii
  | blank
  | cntrl
  | digit
  | graph
  | lower
  | print
  | punct
  | space
  | upper
  | word
  | xdigit
  deriving DecidableEq, Repr

def NamedClass.ofName? : String → Option NamedClass
  | "alnum" => some .alnum
  | "alpha" => some .alpha
  | "ascii" => some .ascii
  | "blank" => some .blank
  | "cntrl" => some .cntrl
  | "digit" => some .digit
  | "graph" => some .graph
  | "lower" => some .lower
  | "print" => some .print
  | "punct" => some .punct
  | "space" => some .space
  | "upper" => some .upper
  | "word" => some .word
  | "xdigit" => some .xdigit
  | _ => none

inductive PropertyQuery where
  | byName (name : String)
  | byValue (name value : String)
  deriving DecidableEq, Repr

inductive SetOp where
  | inter
  | diff
  | symmDiff
  deriving DecidableEq, Repr

/-! ## Classes and patterns -/

inductive ClassSet where
  | literal (l : Literal)
  | range (lo hi : Literal)
  | named (k : NamedClass) (negated : Bool)
  | property (q : PropertyQuery) (negated : Bool)
  | letter (k : LetterClass) (negated : Bool)
  | bracketed (negated : Bool) (s : ClassSet)
  | union (items : List ClassSet)
  | op (o : SetOp) (lhs rhs : ClassSet)
  deriving Repr, Inhabited

inductive Ast where
  | empty
  | flags (e : FlagEdit)
  | literal (l : Literal)
  | dot
  | assertion (a : Assertion)
  | property (q : PropertyQuery) (negated : Bool)
  | letter (k : LetterClass) (negated : Bool)
  | bracketed (negated : Bool) (s : ClassSet)
  | repeated (e : Ast) (min : Nat) (max : Option Nat) (reluctant : Bool)
  | capture (e : Ast)
  | group (f : FlagEdit) (e : Ast)
  | alt (es : List Ast)
  | concat (es : List Ast)
  deriving Repr, Inhabited

namespace ClassSet

/-- A list of items as one: a single item stands for itself. -/
def ofItems : List ClassSet → ClassSet
  | [s] => s
  | ss => union ss

mutual

def depth : ClassSet → Nat
  | bracketed _ s => depth s + 1
  | union [] => 0
  | union (s :: ss) => max (depth s) (depthAll ss) + 1
  | op _ l r => max (depth l) (depth r) + 1
  | _ => 0

def depthAll : List ClassSet → Nat
  | [] => 0
  | s :: ss => max (depth s) (depthAll ss)

end

end ClassSet

namespace Ast

def ofConcat : List Ast → Ast
  | [] => empty
  | [e] => e
  | es => concat es

def ofAlt : List Ast → Ast
  | [e] => e
  | es => alt es

mutual

def depth : Ast → Nat
  | bracketed _ s => s.depth + 1
  | repeated e _ _ _ => depth e + 1
  | capture e => depth e + 1
  | group _ e => depth e + 1
  | alt es => depthAll es + 1
  | concat es => depthAll es + 1
  | _ => 0

def depthAll : List Ast → Nat
  | [] => 0
  | e :: es => max (depth e) (depthAll es)

end

/-- Only something that can be repeated may stand before a repetition sign. -/
def isRepeatable : Ast → Bool
  | empty => false
  | flags _ => false
  | _ => true

end Ast
end Pattern
end MailRules
