import MailRules.Pattern.Shape
import Std.Data.HashMap.Basic

/-!
# Size — the memory that the automata of a pattern take

Two automata over UTF-8 bytes are made from a pattern, one that reads forwards and one that reads
backwards, and a pattern is refused when one of them takes more than `Size.limit` bytes.  A state
takes 32 bytes, a transition of a branching state 8 and an alternative of a choice of states 4.

Only the amounts are worked out here: `Shape.build` adds up what the states of a shape take and
stops at the limit.  Counted repetitions are written out, so nested counts multiply.  States of a
set that reaches beyond ASCII are shared where their transitions are known to be the same.  What is
known is kept in a table with few slots, so the sharing, and with it the size, depends on the
numbers of the states.
-/

namespace MailRules
namespace Pattern

/-! ## Adding up -/

/-- What the states made so far take. -/
structure Size where
  states : Nat
  transitions : Nat
  alternatives : Nat

namespace Size

def zero : Size := ⟨0, 0, 0⟩

def bytes (s : Size) : Nat := 32 * s.states + 8 * s.transitions + 4 * s.alternatives

def limit : Nat := 10 * 1024 * 1024

end Size

/-- A step of making an automaton; there is none that goes past the limit. -/
abbrev Build := StateT Size Option

namespace Build

def add (more : Size) : Build Unit := fun s =>
  let sum : Size :=
    ⟨s.states + more.states, s.transitions + more.transitions, s.alternatives + more.alternatives⟩
  if sum.bytes ≤ Size.limit then some ((), sum) else none

def states (n : Nat) : Build Unit := add ⟨n, 0, 0⟩

/-- One state with so many transitions, by its number. -/
def branching (transitions : Nat) : Build Nat := do
  let s ← get
  add ⟨1, transitions, 0⟩
  return s.states

def times (step : Build Unit) : Nat → Build Unit
  | 0 => pure ()
  | n + 1 => do
      step
      times step n

end Build

/-! ## Byte sequences of a set -/

abbrev ByteRange := Nat × Nat

/-- The bytes of a code point in UTF-8. -/
def utf8 (n : Nat) : List Nat :=
  if n < 0x80 then [n]
  else if n < 0x800 then [0xC0 + n / 0x40, 0x80 + n % 0x40]
  else if n < 0x10000 then [0xE0 + n / 0x1000, 0x80 + n / 0x40 % 0x40, 0x80 + n % 0x40]
  else [0xF0 + n / 0x40000, 0x80 + n / 0x1000 % 0x40, 0x80 + n / 0x40 % 0x40, 0x80 + n % 0x40]

/-- Where a range has to be cut so that each part is one product of byte ranges: at changes of
length, around the surrogates, and at the ends that do not fill a block of continuation bytes. -/
def cut? (lo hi : Nat) : Option Nat :=
  let lengths := [0x7F, 0x7FF, 0xD7FF, 0xDFFF, 0xFFFF].find? fun m => lo ≤ m && m < hi
  let block (m : Nat) : Option Nat :=
    if lo / m != hi / m then
      if lo % m != 0 then some (lo / m * m + m - 1)
      else if hi % m != m - 1 then some (hi / m * m - 1)
      else none
    else none
  if lengths.isSome then lengths
  else if hi < 0x80 then none
  else block 0x40 <|> block 0x1000 <|> block 0x40000

def sequences : Nat → Nat → Nat → List (List ByteRange)
  | 0, _, _ => []
  | fuel + 1, lo, hi =>
      if 0xD800 ≤ lo && hi ≤ 0xDFFF then []
      else match cut? lo hi with
        | some m => sequences fuel lo m ++ sequences fuel (m + 1) hi
        | none => [(utf8 lo).zip (utf8 hi)]

def sequencesOf (s : CharSet) : List (List ByteRange) :=
  s.ranges.flatMap fun r => sequences 32 r.1 r.2

/-! ## Known states -/

/-- States that can be used again, each under the numbers that tell it from others.  Those numbers
choose a slot, and a slot holds the last state that was put into it. -/
structure Known where
  slots : Nat
  table : Std.HashMap Nat (List Nat × Nat)

namespace Known

def empty (slots : Nat) : Known := ⟨slots, {}⟩

/-- The numbers are mixed in one after the other, by an exclusive or and a product modulo 2 to the
64th. -/
def mix (ns : List Nat) : UInt64 :=
  ns.foldl (fun h n => (h ^^^ n.toUInt64) * 1099511628211) 14695981039346656037

/-- The state with the given numbers, which is made if it is not known. -/
def find (known : Known) (ns : List Nat) (transitions : Nat) : Build (Nat × Known) := do
  let slot := (mix ns).toNat % known.slots
  match known.table[slot]? with
  | some (ms, state) =>
      if ms == ns then return (state, known)
  | none => pure ()
  let state ← Build.branching transitions
  return (state, { known with table := known.table.insert slot (ns, state) })

end Known

/-! ## Sets -/

/-- The state from which the rests of some sequences are read.  Sequences that begin alike share a
transition; no sequence has more ranges than the first argument says. -/
def readFrom (target : Nat) : Nat → List (List ByteRange) → Known → Build (Nat × Known)
  | 0, _, known => pure (target, known)
  | length + 1, seqs, known => do
      if seqs.all List.isEmpty then return (target, known)
      let groups := seqs.splitBy fun a b => a.head? == b.head?
      let (numbers, known) ← groups.foldlM (fun (numbers, known) group => do
        let (next, known) ← readFrom target length (group.map List.tail) known
        let (lo, hi) := (group.head?.bind List.head?).getD (0, 0)
        return (next :: hi :: lo :: numbers, known)) (([] : List Nat), known)
      known.find numbers.reverse groups.length

/-- Forwards, states with the same transitions are shared. -/
def forwards (seqs : List (List ByteRange)) : Build Unit := do
  let target ← Build.branching 0
  let _ ← readFrom target 4 seqs (Known.empty 10000)

/-- The state where reading a sequence backwards begins.  The first range is read last, so the
states are made from that one on. -/
def readBackFrom (target : Nat) (seq : List ByteRange) (known : Known) : Build (Nat × Known) :=
  seq.foldlM (fun (state, known) (lo, hi) => known.find [state, lo, hi] 0) (target, known)

/-- Backwards, beginnings of sequences that are the same are shared. -/
def backwards (seqs : List (List ByteRange)) : Build Unit := do
  Build.states 1
  let target ← Build.branching 0
  Build.add ⟨0, 0, seqs.length⟩
  let _ ← seqs.foldlM (fun known seq => do return (← readBackFrom target seq known).2)
    (Known.empty 1000)

def CharSet.build (backward : Bool) (s : CharSet) : Build Unit :=
  if s.isAscii then Build.add ⟨2, s.ranges.length, 0⟩
  else if backward then backwards (sequencesOf s)
  else forwards (sequencesOf s)

/-! ## Words to choose from -/

/-- The stretches between the words that are over. -/
def stretches : List (List Nat) → List (List (List Nat))
  | [] => [[]]
  | [] :: words => [] :: stretches words
  | word :: words =>
      match stretches words with
      | [] => [[word]]
      | stretch :: more => (word :: stretch) :: more

/-- The states of a tree whose words begin at its root.  At every place where a word is over the
order of the words matters, so those before it and those after it branch apart; within a stretch
words with the same next byte share a branch.  No word is longer than the first argument says. -/
def tree : Nat → List (List Nat) → Build Unit
  | 0, _ => pure ()
  | length + 1, words => do
      if words.all List.isEmpty then return
      let overAtOnce := words.head?.any List.isEmpty
      let rest := words.dropWhile List.isEmpty
      let branches := (stretches rest).filter fun stretch => !stretch.isEmpty
      branches.forM fun stretch => do
        let firsts := (stretch.filterMap List.head?).eraseDups
        firsts.forM fun b =>
          tree length (stretch.filterMap fun word =>
            if word.head? == some b then some word.tail else none)
        Build.add ⟨1, if firsts.length == 1 then 0 else firsts.length, 0⟩
      Build.add ⟨1, 0, branches.length + rest.countP List.isEmpty + overAtOnce.toNat⟩

def buildWords (words : List (List Nat)) : Build Unit := do
  Build.states 1
  tree (words.foldl (fun n word => max n word.length) 0) words

/-! ## Shapes -/

namespace Shape

def bytesOf (cs : List Char) : List Nat := cs.flatMap fun c => utf8 c.toNat

/-- The bytes of a literal. -/
def bytes? : Shape → Option (List Nat)
  | literal cs => some (bytesOf cs)
  | _ => none

/-- The states of a repetition, given how one round is made and whether it always reads something: a
state to leave or go on from, and where rounds can be left out one to go to instead. -/
def buildRepeated (round : Build Unit) (neverEmpty : Bool) (min : Nat) : Option Nat → Build Unit
  | none =>
      if min != 0 then do
        Build.times round min
        Build.add ⟨1, 0, 2⟩
      else if neverEmpty then do
        Build.add ⟨1, 0, 2⟩
        round
      else do
        round
        Build.add ⟨3, 0, 4⟩
  | some max =>
      if min == 0 && max == 1 then do
        Build.add ⟨1, 0, 2⟩
        round
        Build.states 1
      else do
        if min == 0 then Build.states 1
        Build.times round min
        if min != max then
          Build.states 1
          Build.times (do Build.add ⟨1, 0, 2⟩; round) (max - min)

mutual

/-- The states of a shape.  Only the automaton that reads forwards has states for groups. -/
def build (backward : Bool) : Shape → Build Unit
  | empty => Build.states 1
  | literal cs => Build.states (bytesOf cs).length
  | set s => CharSet.build backward s
  | look _ => Build.states 1
  | repeated e min max _ =>
      buildRepeated (build backward e) (isNeverEmpty e) min max
  | capture e =>
      if backward then build backward e
      else do
        Build.states 1
        build backward e
        Build.states 1
  | cat es => if backward then buildFromLast backward es else buildEach backward es
  | alt es =>
      match es.mapM bytes? with
      | some words => buildWords (if backward then words.map List.reverse else words)
      | none => buildAlt backward es

def buildEach (backward : Bool) : List Shape → Build Unit
  | [] => pure ()
  | e :: es => do
      build backward e
      buildEach backward es

def buildFromLast (backward : Bool) : List Shape → Build Unit
  | [] => pure ()
  | e :: es => do
      buildFromLast backward es
      build backward e

/-- The states where the alternatives part and where they meet come after the first two. -/
def buildAlt (backward : Bool) : List Shape → Build Unit
  | [] => Build.states 1
  | [e] => build backward e
  | e :: f :: es => do
      build backward e
      build backward f
      Build.add ⟨2, 0, es.length + 2⟩
      buildEach backward es

end

/-- The whole automaton.  A pattern that is tied to the place where reading starts has no states
that read up to the match. -/
def automaton (backward : Bool) (e : Shape) : Build Unit := do
  let tied := if backward then e.endsAt .textEnd else e.beginsAt .textStart
  Build.add (if tied then ⟨1, 0, 0⟩ else ⟨3, 1, 2⟩)
  (capture e).build backward
  Build.states 1

end Shape

namespace Expr

def isTooLarge (e : Expr) : Bool :=
  let isBeyond (backward : Bool) : Bool := ((e.shape.automaton backward).run Size.zero).isNone
  isBeyond false || isBeyond true

end Expr
end Pattern
end MailRules
