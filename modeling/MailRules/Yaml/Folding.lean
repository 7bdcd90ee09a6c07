import MailRules.Yaml.Cursor

/-!
# Folding — the white space inside a scalar

Between two words of a scalar that runs over lines, blanks on one line stand for themselves, a
single line end becomes a blank, and of several line ends the first is left out.

* `Gap` is the white space between two words and `Gap.text` what it stands for;
* `Gap.read?` reads it.
-/

namespace MailRules
namespace Yaml

structure Gap where
  /-- Blanks, up to the first line end. -/
  blanks : List Char := []
  /-- The first line end, when it counts as text. -/
  first : Option Char := none
  later : List Char := []
  brokeLine : Bool := false
  deriving Repr

namespace Gap

def text (g : Gap) : List Char :=
  if !g.brokeLine then g.blanks
  else
    match g.first with
    | some '\n' => if g.later.isEmpty then [' '] else g.later
    | some b => b :: g.later
    | none => g.later

/-- Reads white space to its end.  Blanks at the start of a line are dropped; a tab among them that
stands left of the given column is refused.  Every turn takes at least one character. -/
def readFrom? (indent : Int) (g : Gap) : Nat → Cursor → Option (Gap × Cursor)
  | 0, c => some (g, c)
  | turns + 1, c =>
      match c.lineEnd? with
      | some (b, after) =>
          if g.brokeLine then readFrom? indent { g with later := g.later ++ [b] } turns after
          else readFrom? indent { g with blanks := [], first := some b, brokeLine := true } turns after
      | none =>
          match c.peek? with
          | some ch =>
              if !isBlank ch then some (g, c)
              else if !g.brokeLine then
                readFrom? indent { g with blanks := g.blanks ++ [ch] } turns (c.skip 1)
              else if ch == '\t' && decide ((c.column : Int) < indent) then none
              else readFrom? indent g turns (c.skip 1)
          | none => some (g, c)

def read? (indent : Int) (g : Gap) (c : Cursor) : Option (Gap × Cursor) :=
  readFrom? indent g (c.size + 1) c

end Gap
end Yaml
end MailRules
