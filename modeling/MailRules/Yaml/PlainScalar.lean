import MailRules.Yaml.Folding

/-!
# PlainScalar — scalars without quotes

A plain scalar goes on until a colon that ends a word, a comment, the mark of a document or a line
that is not indented enough; inside brackets also until a comma or a bracket.
-/

namespace MailRules
namespace Yaml

/-- What was read of a plain scalar, where it stops, and whether white space with a line end follows
it. -/
structure PlainScalar where
  text : List Char
  stop : Cursor
  brokeLine : Bool
  deriving Repr

namespace PlainScalar

def isFlowIndicator (c : Char) : Bool := c == ',' || c == '[' || c == ']' || c == '{' || c == '}'

/-- One word and how many characters it has.  Inside brackets a colon right before a bracket, a
comma or a question mark is refused. -/
def word? (flow : Bool) : List Char → Option (List Char)
  | [] => some []
  | c :: cs =>
      if isBlank c || isBreak c then some []
      else if flow && c == ':' && (cs.head?.map fun d => isFlowIndicator d || d == '?').getD false then
        none
      else if (c == ':' && endsWord cs) || (flow && isFlowIndicator c) then some []
      else (word? flow cs).map (c :: ·)

/-- Reads words as long as they belong to the scalar.  The text so far is kept in reverse; every
turn takes at least one character. -/
def readFrom? (flow : Bool) (indent : Int) (text : List Char) (gap : Gap) :
    Nat → Cursor → Option PlainScalar
  | 0, c => some ⟨text.reverse, c, gap.brokeLine⟩
  | turns + 1, c =>
      if c.atDocumentMark || c.peek? = some '#' then some ⟨text.reverse, c, gap.brokeLine⟩
      else
        match word? flow c.rest with
        | none => none
        | some [] => some ⟨text.reverse, c, gap.brokeLine⟩
        | some w =>
            let text := w.reverse ++ (gap.text.reverse ++ text)
            let c := c.skip w.length
            match Gap.read? indent {} c with
            | none => none
            | some (gap, after) =>
                if after.index = c.index then some ⟨text.reverse, c, false⟩
                else if !flow && decide ((after.column : Int) < indent) then
                  some ⟨text.reverse, after, gap.brokeLine⟩
                else readFrom? flow indent text gap turns after

def read? (flow : Bool) (indent : Int) (c : Cursor) : Option PlainScalar :=
  readFrom? flow indent [] {} (c.size + 1) c

end PlainScalar
end Yaml
end MailRules
