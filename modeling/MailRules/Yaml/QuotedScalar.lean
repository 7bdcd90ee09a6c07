import MailRules.Yaml.Folding

/-!
# QuotedScalar — scalars in quotes

Between single quotes only the quote itself is special and is written twice.  Between double quotes
a backslash starts an escape, and at the end of a line it takes the line end away.  White space with
a line end in it is folded.
-/

namespace MailRules
namespace Yaml
namespace QuotedScalar

/-! ## Escapes -/

def namedEscape? : Char → Option Char
  | '0' => some '\x00'
  | 'a' => some '\x07'
  | 'b' => some '\x08'
  | 't' => some '\t'
  | '\t' => some '\t'
  | 'n' => some '\n'
  | 'v' => some '\x0b'
  | 'f' => some '\x0c'
  | 'r' => some '\r'
  | 'e' => some '\x1b'
  | ' ' => some ' '
  | '"' => some '"'
  | '/' => some '/'
  | '\\' => some '\\'
  | 'N' => some '\x85'
  | '_' => some '\xa0'
  | 'L' => some '\u2028'
  | 'P' => some '\u2029'
  | _ => none

/-- How many hexadecimal digits follow a letter. -/
def codeLength? : Char → Option Nat
  | 'x' => some 2
  | 'u' => some 4
  | 'U' => some 8
  | _ => none

def hexValue? (c : Char) : Option Nat :=
  if c.isDigit then some (c.toNat - '0'.toNat)
  else if 'a' ≤ c ∧ c ≤ 'f' then some (c.toNat - 'a'.toNat + 10)
  else if 'A' ≤ c ∧ c ≤ 'F' then some (c.toNat - 'A'.toNat + 10)
  else none

/-- A number of so many hexadecimal digits. -/
def hexNumber? (n : Nat) : Nat → List Char → Option Nat
  | 0, _ => some n
  | length + 1, c :: cs =>
      match hexValue? c with
      | some d => hexNumber? (n * 16 + d) length cs
      | none => none
  | _ + 1, [] => none

/-- The character of an escape, after the backslash, and the length of what stands for it. -/
def escape? : List Char → Option (Char × Nat)
  | [] => none
  | e :: cs =>
      match codeLength? e with
      | some length =>
          match hexNumber? 0 length cs with
          | some n => if n.isValidChar then some (Char.ofNat n, length + 1) else none
          | none => none
      | none => (namedEscape? e).map fun c => (c, 1)

/-! ## Words -/

/-- How a word ends. -/
inductive Ending where
  /-- Before white space, at the closing quote or at the end of the text. -/
  | plain
  /-- By a line end that was taken away. -/
  | joined
  deriving DecidableEq, Repr

/-- The characters up to white space or to the closing quote, in reverse.  Every turn takes at least
one character. -/
def word? (double : Bool) (text : List Char) : Nat → Cursor → Option (List Char × Cursor × Ending)
  | 0, c => some (text, c, .plain)
  | turns + 1, c =>
      match c.rest with
      | [] => some (text, c, .plain)
      | ch :: after =>
          if isBlank ch || isBreak ch then some (text, c, .plain)
          else if !double && ch == '\'' && after.head? = some '\'' then
            word? double ('\'' :: text) turns (c.skip 2)
          else if ch == (if double then '"' else '\'') then some (text, c, .plain)
          else if double && ch == '\\' then
            match after with
            | d :: _ =>
                if isBreak d then some (text, (c.skip 1).skipLineEnd, .joined)
                else
                  match escape? after with
                  | some (e, length) => word? double (e :: text) turns (c.skip (length + 1))
                  | none => none
            | [] => none
          else word? double (ch :: text) turns (c.skip 1)

/-! ## Scalars -/

/-- Reads words and the white space between them up to the closing quote. -/
def readFrom? (double : Bool) (text : List Char) : Nat → Cursor → Option (List Char × Cursor)
  | 0, _ => none
  | turns + 1, c =>
      if c.atDocumentMark || c.rest.isEmpty then none
      else
        match word? double text (c.size + 1) c with
        | none => none
        | some (text, after, ending) =>
            if ending = .plain ∧ after.peek? = some (if double then '"' else '\'') then
              some (text.reverse, after.skip 1)
            else
              match Gap.read? 0 { brokeLine := decide (ending = .joined) } after with
              | none => none
              | some (gap, after) => readFrom? double (gap.text.reverse ++ text) turns after

/-- Reads a scalar from its opening quote on. -/
def read? (double : Bool) (c : Cursor) : Option (List Char × Cursor) :=
  readFrom? double [] (c.size + 1) (c.skip 1)

end QuotedScalar
end Yaml
end MailRules
