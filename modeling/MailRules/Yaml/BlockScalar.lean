import MailRules.Yaml.Cursor

/-!
# BlockScalar — scalars made of indented lines

A header tells whether lines are kept or folded, by how much they are indented, and what becomes of
the line ends after the last line.  Without a number in the header the first line that is not empty
tells the indentation.
-/

namespace MailRules
namespace Yaml
namespace BlockScalar

/-- What becomes of the line ends after the last line: all are dropped, one is kept, all are
kept. -/
inductive Chomping where
  | strip
  | clip
  | keep
  deriving DecidableEq, Repr

/-! ## The header -/

def chomping? : Char → Option Chomping
  | '+' => some .keep
  | '-' => some .strip
  | _ => none

/-- A digit, which must not be zero, if there is one. -/
def increment? (c : Cursor) : Option (Nat × Cursor) :=
  match c.peek? with
  | some d =>
      if d.isDigit then if d = '0' then none else some (d.toNat - '0'.toNat, c.skip 1)
      else some (0, c)
  | none => some (0, c)

def sign (c : Cursor) : Chomping × Cursor :=
  match c.peek?.bind chomping? with
  | some s => (s, c.skip 1)
  | none => (.clip, c)

/-- Sign and digit, in either order. -/
def header? (c : Cursor) : Option (Chomping × Nat × Cursor) :=
  if (c.peek?.bind chomping?).isSome then
    let (s, c) := sign c
    (increment? c).map fun (n, c) => (s, n, c)
  else
    match increment? c with
    | none => none
    | some (0, c) => some (.clip, 0, c)
    | some (n, c) =>
        let (s, c) := sign c
        some (s, n, c)

/-! ## Empty lines -/

/-- The line ends of empty lines, the place after them, and the rightmost column reached.  While the
indentation is not known every blank counts as indentation; a tab does not.  Every turn takes at
least one character. -/
def emptyLines? (indent : Option Nat) (breaks : List Char) (widest : Nat) :
    Nat → Cursor → Option (List Char × Cursor × Nat)
  | 0, c => some (breaks, c, widest)
  | turns + 1, c =>
      let blanks := (c.rest.takeWhile (· == ' ')).length
      let c := c.skip (match indent with
        | some n => min blanks (n - c.column)
        | none => blanks)
      let widest := max widest c.column
      let left := match indent with
        | some n => decide (c.column < n)
        | none => true
      if left && c.peek? = some '\t' then none
      else
        match c.lineEnd? with
        | some (b, after) => emptyLines? indent (breaks ++ [b]) widest turns after
        | none => some (breaks, c, widest)

/-! ## Lines -/

/-- What was read so far: the text in reverse, the line end after the last line, the ends of the
empty lines after that, and whether the last line begins with a blank. -/
structure Progress where
  text : List Char := []
  lineEnd : Option Char := none
  empty : List Char := []
  indented : Bool := false
  deriving Repr

/-- What stands before the next line.  A folded line end becomes a blank, unless empty lines follow
it or one of the two lines begins with a blank. -/
def Progress.join (p : Progress) (literal nextIndented : Bool) : List Char :=
  if !literal && p.lineEnd = some '\n' && !p.indented && !nextIndented then
    if p.empty.isEmpty then [' '] else p.empty
  else p.lineEnd.toList ++ p.empty

/-- Reads lines that begin at the column of the indentation. -/
def lines? (literal : Bool) (indent : Nat) (p : Progress) :
    Nat → Cursor → Option (Progress × Cursor)
  | 0, c => some (p, c)
  | turns + 1, c =>
      if c.column ≠ indent ∨ c.rest.isEmpty then some (p, c)
      else
        let indented := (c.peek?.map isBlank).getD false
        let line := c.rest.takeWhile fun ch => !isBreak ch
        let text := line.reverse ++ ((p.join literal indented).reverse ++ p.text)
        let c := c.skip line.length
        let (lineEnd, c) := match c.lineEnd? with
          | some (b, after) => (some b, after)
          | none => (none, c)
        match emptyLines? (some indent) [] 0 (c.size + 1) c with
        | none => none
        | some (empty, c, _) => lines? literal indent ⟨text, lineEnd, empty, indented⟩ turns c

def Progress.finish (p : Progress) : Chomping → List Char
  | .strip => p.text.reverse
  | .clip => p.text.reverse ++ p.lineEnd.toList
  | .keep => p.text.reverse ++ p.lineEnd.toList ++ p.empty

/-! ## Scalars -/

/-- Reads a scalar from its indicator on, inside a block of the given indentation. -/
def read? (literal : Bool) (parent : Int) (c : Cursor) : Option (List Char × Cursor) := do
  let (chomping, increment, c) ← header? (c.skip 1)
  let c ← c.restOfLine?
  let given : Option Nat :=
    if increment = 0 then none else some (if 0 ≤ parent then parent.toNat + increment else increment)
  let (empty, c, widest) ← emptyLines? given [] 0 (c.size + 1) c
  let indent := given.getD (max widest (max 1 (parent + 1).toNat))
  let (p, c) ← lines? literal indent { empty } (c.size + 1) c
  return (p.finish chomping, c)

end BlockScalar
end Yaml
end MailRules
