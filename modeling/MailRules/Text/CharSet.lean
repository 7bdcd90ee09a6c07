/-!
# CharSet — sets of code points

A set is kept as the closed ranges that make it up, in ascending order and with a gap between any
two.  This file defines:

* `CharSet.ofRanges`, which brings any list of ranges into that form;
* the set operations used by character classes: union, complement, intersection, difference and
  symmetric difference;
* `CharSet.ofRuns`, which reads a set from the run lengths in which the tables are written.
-/

namespace MailRules

/-- Closed ranges of code points, ascending, no two of which meet or touch. -/
structure CharSet where
  ranges : List (Nat × Nat)
  deriving DecidableEq, Repr, Inhabited

namespace CharSet

/-- The last code point there is. -/
def lastCode : Nat := 0x10FFFF

/-! ## Construction -/

/-- Joins neighbours that meet or touch, in a list sorted by lower end. -/
def join : List (Nat × Nat) → List (Nat × Nat)
  | [] => []
  | [r] => [r]
  | (a, b) :: (c, d) :: rest =>
      if c ≤ b + 1 then join ((a, max b d) :: rest) else (a, b) :: join ((c, d) :: rest)
termination_by rs => rs.length

def ofRanges (rs : List (Nat × Nat)) : CharSet :=
  ⟨join (rs.mergeSort (fun r s => decide (r.1 ≤ s.1)))⟩

def empty : CharSet := ⟨[]⟩

def all : CharSet := ⟨[(0, lastCode)]⟩

def range (lo hi : Nat) : CharSet := ⟨[(lo, hi)]⟩

def single (c : Char) : CharSet := range c.toNat c.toNat

def ofChars (cs : List Char) : CharSet := ofRanges (cs.map fun c => (c.toNat, c.toNat))

/-! ## Membership -/

def holds : List (Nat × Nat) → Nat → Bool
  | [], _ => false
  | (a, b) :: rest, n => a ≤ n && (n ≤ b || holds rest n)

def contains (s : CharSet) (c : Char) : Bool := holds s.ranges c.toNat

def isEmpty (s : CharSet) : Bool := s.ranges.isEmpty

/-- Whether every member is below U+0080. -/
def isAscii (s : CharSet) : Bool := s.ranges.all fun r => r.2 < 0x80

/-! ## Set operations -/

def union (s t : CharSet) : CharSet := ofRanges (s.ranges ++ t.ranges)

def unions (ss : List CharSet) : CharSet := ofRanges (ss.flatMap ranges)

/-- What lies between the ranges, from `lo` on. -/
def gaps : Nat → List (Nat × Nat) → List (Nat × Nat)
  | lo, [] => if lo ≤ lastCode then [(lo, lastCode)] else []
  | lo, (a, b) :: rest => if lo < a then (lo, a - 1) :: gaps (b + 1) rest else gaps (b + 1) rest

def compl (s : CharSet) : CharSet := ⟨gaps 0 s.ranges⟩

def inter (s t : CharSet) : CharSet := (s.compl.union t.compl).compl

def diff (s t : CharSet) : CharSet := s.inter t.compl

def symmDiff (s t : CharSet) : CharSet := (s.union t).diff (s.inter t)

/-! ## Run lengths -/

/-- The decimal numbers in a text, whatever stands between them. -/
def numbers (text : String) : List Nat :=
  go text.toList none
where
  go : List Char → Option Nat → List Nat
    | [], none => []
    | [], some n => [n]
    | c :: cs, acc =>
        if c.isDigit then go cs (some (acc.getD 0 * 10 + (c.toNat - '0'.toNat)))
        else match acc with
          | none => go cs none
          | some n => n :: go cs none

/-- Ranges from alternating lengths of what is left out and what belongs. -/
def rangesOfRuns : Nat → List Nat → List (Nat × Nat)
  | start, skip :: take :: rest =>
      (start + skip, start + skip + take - 1) :: rangesOfRuns (start + skip + take) rest
  | _, _ => []

def ofRuns (text : String) : CharSet := ⟨rangesOfRuns 0 (numbers text)⟩

end CharSet
end MailRules
