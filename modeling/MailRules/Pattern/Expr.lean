import MailRules.Pattern.Ast
import MailRules.Unicode.Property

/-!
# Expr — the meaning of a pattern

An `Expr` is a pattern with its flags applied and its classes worked out to sets of characters.
This file defines `Expr` and the reading of an `Ast` as one:

* under the case-insensitive flag every set is closed under case folding, before it is negated and
  before it is combined with another set;
* without the Unicode flag classes hold ASCII characters only, and whatever would reach beyond them
  (a dot, a negated class, a property, an escape for one byte above ASCII) is refused, because it
  could stop between the bytes of one character.
-/

namespace MailRules
namespace Pattern

/-- A condition on the place between two characters.  The Boolean of the word conditions says
whether word characters are taken from all of Unicode. -/
inductive Look where
  | textStart
  | textEnd
  | lineStart (crlf : Bool)
  | lineEnd (crlf : Bool)
  | wordBoundary (unicode : Bool)
  | notWordBoundary (unicode : Bool)
  | wordStart (unicode : Bool)
  | wordEnd (unicode : Bool)
  | wordStartHalf (unicode : Bool)
  | wordEndHalf (unicode : Bool)
  deriving DecidableEq, Repr

inductive Expr where
  | empty
  | set (s : CharSet)
  | look (l : Look)
  | repeated (e : Expr) (min : Nat) (max : Option Nat) (reluctant : Bool)
  | capture (e : Expr)
  | cat (es : List Expr)
  | alt (es : List Expr)
  deriving Repr, Inhabited

/-! ## Flags in force -/

structure Flags where
  caseInsensitive : Bool := false
  multiLine : Bool := false
  dotAll : Bool := false
  swapGreed : Bool := false
  unicode : Bool := true
  crlf : Bool := false
  deriving DecidableEq, Repr

namespace Flags

def edit (f : Flags) (e : FlagEdit) : Flags where
  caseInsensitive := e.apply .caseInsensitive f.caseInsensitive
  multiLine := e.apply .multiLine f.multiLine
  dotAll := e.apply .dotAll f.dotAll
  swapGreed := e.apply .swapGreed f.swapGreed
  unicode := e.apply .unicode f.unicode
  crlf := e.apply .crlf f.crlf

/-- ASCII letters with their other case. -/
def foldAscii (s : CharSet) : CharSet :=
  let upper := s.inter (CharSet.range 0x41 0x5A)
  let lower := s.inter (CharSet.range 0x61 0x7A)
  CharSet.ofRanges
    (s.ranges ++ upper.ranges.map (fun r => (r.1 + 32, r.2 + 32))
      ++ lower.ranges.map (fun r => (r.1 - 32, r.2 - 32)))

def fold (f : Flags) (s : CharSet) : CharSet :=
  if f.caseInsensitive then
    if f.unicode then Unicode.foldCase s else foldAscii s
  else s

/-- Negation leaves ASCII, so it needs the Unicode flag. -/
def negate? (f : Flags) (negated : Bool) (s : CharSet) : Option CharSet :=
  if negated then if f.unicode then some s.compl else none else some s

end Flags

/-! ## Classes -/

/-- The character a literal stands for, unless it is a byte above ASCII. -/
def Literal.char? (f : Flags) (l : Literal) : Option Char :=
  if !f.unicode && l.byHex && 0x80 ≤ l.char.toNat then none else some l.char

/-- Inside a class the Unicode flag is needed for everything above ASCII. -/
def Literal.member? (f : Flags) (l : Literal) : Option Char :=
  if !f.unicode && 0x80 ≤ l.char.toNat then none else some l.char

def NamedClass.set : NamedClass → CharSet
  | .alnum => CharSet.ofRanges [(0x30, 0x39), (0x41, 0x5A), (0x61, 0x7A)]
  | .alpha => CharSet.ofRanges [(0x41, 0x5A), (0x61, 0x7A)]
  | .ascii => CharSet.range 0 0x7F
  | .blank => CharSet.ofRanges [(0x09, 0x09), (0x20, 0x20)]
  | .cntrl => CharSet.ofRanges [(0, 0x1F), (0x7F, 0x7F)]
  | .digit => CharSet.range 0x30 0x39
  | .graph => CharSet.range 0x21 0x7E
  | .lower => CharSet.range 0x61 0x7A
  | .print => CharSet.range 0x20 0x7E
  | .punct => CharSet.ofRanges [(0x21, 0x2F), (0x3A, 0x40), (0x5B, 0x60), (0x7B, 0x7E)]
  | .space => CharSet.ofRanges [(0x09, 0x0D), (0x20, 0x20)]
  | .upper => CharSet.range 0x41 0x5A
  | .word => CharSet.ofRanges [(0x30, 0x39), (0x41, 0x5A), (0x5F, 0x5F), (0x61, 0x7A)]
  | .xdigit => CharSet.ofRanges [(0x30, 0x39), (0x41, 0x46), (0x61, 0x66)]

/-- The letter classes are closed under case folding as they stand. -/
def LetterClass.set (unicode : Bool) : LetterClass → CharSet
  | .digit => if unicode then Unicode.digit else NamedClass.set .digit
  | .space => if unicode then Unicode.space else NamedClass.set .space
  | .word => if unicode then Unicode.word else NamedClass.set .word

def PropertyQuery.set? : PropertyQuery → Option CharSet
  | .byName n => Unicode.property? n
  | .byValue n v => Unicode.propertyValue? n v

def propertySet? (f : Flags) (q : PropertyQuery) (negated : Bool) : Option CharSet := do
  if !f.unicode then none
  f.negate? negated (f.fold (← q.set?))

def letterSet? (f : Flags) (k : LetterClass) (negated : Bool) : Option CharSet :=
  f.negate? negated (k.set f.unicode)

def SetOp.apply : SetOp → CharSet → CharSet → CharSet
  | .inter => CharSet.inter
  | .diff => CharSet.diff
  | .symmDiff => CharSet.symmDiff

namespace ClassSet

mutual

/-- The characters of a class, its own negation left to whoever encloses it. -/
def toSet? (f : Flags) : ClassSet → Option CharSet
  | literal l => do return CharSet.single (← l.member? f)
  | range lo hi => do
      let lo ← lo.member? f
      let hi ← hi.member? f
      return CharSet.range lo.toNat hi.toNat
  | named k negated => f.negate? negated (f.fold k.set)
  | property q negated => propertySet? f q negated
  | letter k negated => letterSet? f k negated
  | bracketed negated s => do f.negate? negated (f.fold (← toSet? f s))
  | union items => do return CharSet.unions (← toSets? f items)
  | op o l r => do
      let l ← toSet? f l
      let r ← toSet? f r
      return o.apply (f.fold l) (f.fold r)

def toSets? (f : Flags) : List ClassSet → Option (List CharSet)
  | [] => some []
  | s :: ss => do return (← toSet? f s) :: (← toSets? f ss)

end

end ClassSet

/-! ## Patterns -/

/-- A dot is any character, or any but a line feed, or with carriage returns as line ends any but
those two. -/
def dotSet? (f : Flags) : Option CharSet :=
  if !f.unicode then none
  else if f.dotAll then some CharSet.all
  else if f.crlf then some (CharSet.ofChars ['\n', '\r']).compl
  else some (CharSet.single '\n').compl

def Assertion.look (f : Flags) : Assertion → Look
  | .lineStart => if f.multiLine then .lineStart f.crlf else .textStart
  | .lineEnd => if f.multiLine then .lineEnd f.crlf else .textEnd
  | .textStart => .textStart
  | .textEnd => .textEnd
  | .wordBoundary => .wordBoundary f.unicode
  | .notWordBoundary => .notWordBoundary f.unicode
  | .wordStart => .wordStart f.unicode
  | .wordEnd => .wordEnd f.unicode
  | .wordStartHalf => .wordStartHalf f.unicode
  | .wordEndHalf => .wordEndHalf f.unicode

namespace Ast

mutual

/-- The meaning of a pattern under the flags in force, and the flags in force after it: a directive
holds until the group it stands in is closed. -/
def toExpr? (f : Flags) : Ast → Option (Expr × Flags)
  | empty => some (.empty, f)
  | flags e => some (.empty, f.edit e)
  | literal l => do return (.set (f.fold (CharSet.single (← l.char? f))), f)
  | dot => do return (.set (← dotSet? f), f)
  | assertion a => some (.look (a.look f), f)
  | property q negated => do return (.set (← propertySet? f q negated), f)
  | letter k negated => do return (.set (← letterSet? f k negated), f)
  | bracketed negated s => do return (.set (← f.negate? negated (f.fold (← s.toSet? f))), f)
  | repeated e min max reluctant => do
      let (e, f) ← toExpr? f e
      return (.repeated e min max (reluctant != f.swapGreed), f)
  | capture e => do return (.capture (← toExpr? f e).1, f)
  | group edit e => do return ((← toExpr? (f.edit edit) e).1, f)
  | alt es => do
      let (es, f) ← toExprs? f es
      return (.alt es, f)
  | concat es => do
      let (es, f) ← toExprs? f es
      return (.cat es, f)

def toExprs? (f : Flags) : List Ast → Option (List Expr × Flags)
  | [] => some ([], f)
  | e :: es => do
      let (e, f) ← toExpr? f e
      let (es, f) ← toExprs? f es
      return (e :: es, f)

end

end Ast
end Pattern
end MailRules
