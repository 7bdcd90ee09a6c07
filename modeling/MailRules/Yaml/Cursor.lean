/-!
# Cursor — a place in a text

A place is the text that is still to come, with the number of bytes passed, the line and the column.
A line ends with a carriage return, a line feed, both in this order, a next-line character or one of
the two Unicode separators.  The two separators stay what they are; any other line end reads as a
line feed.
-/

namespace MailRules
namespace Yaml

/-! ## Characters -/

def isBlank (c : Char) : Bool := c == ' ' || c == '\t'

def isBreak (c : Char) : Bool :=
  c == '\r' || c == '\n' || c == '\x85' || c == '\u2028' || c == '\u2029'

/-- Whether a word ends here: before a blank, before a line end and at the end of the text. -/
def endsWord : List Char → Bool
  | [] => true
  | c :: _ => isBlank c || isBreak c

def endsLine : List Char → Bool
  | [] => true
  | c :: _ => isBreak c

/-- The letters, digits, underscores and hyphens of names. -/
def isNameChar (c : Char) : Bool := c.isAlphanum || c == '_' || c == '-'

/-! ## Places -/

structure Cursor where
  rest : List Char
  /-- At least as many as there are characters in the text; no loop takes more turns. -/
  size : Nat
  index : Nat := 0
  line : Nat := 0
  column : Nat := 0
  deriving Repr

namespace Cursor

def peek? (c : Cursor) : Option Char := c.rest.head?

def start (cs : List Char) : Cursor := { rest := cs, size := cs.length }

/-- How many bytes the next characters take. -/
def bytes (c : Cursor) (n : Nat) : Nat := (c.rest.take n).foldl (fun b ch => b + ch.utf8Size) 0

/-- Passes characters none of which ends a line. -/
def skip (c : Cursor) (n : Nat) : Cursor :=
  { c with rest := c.rest.drop n, index := c.index + c.bytes n, column := c.column + n }

def skipWhile (p : Char → Bool) (c : Cursor) : Cursor := c.skip (c.rest.takeWhile p).length

/-- Passes the characters that end a line. -/
def nextLine (c : Cursor) (n : Nat) : Cursor :=
  { c with rest := c.rest.drop n, index := c.index + c.bytes n, line := c.line + 1, column := 0 }

/-- The line end that stands here and the place after it. -/
def lineEnd? (c : Cursor) : Option (Char × Cursor) :=
  match c.rest with
  | '\r' :: '\n' :: _ => some ('\n', c.nextLine 2)
  | b :: _ =>
      if b == '\u2028' || b == '\u2029' then some (b, c.nextLine 1)
      else if isBreak b then some ('\n', c.nextLine 1)
      else none
  | [] => none

def skipLineEnd (c : Cursor) : Cursor :=
  match c.lineEnd? with
  | some (_, after) => after
  | none => c

/-- Whether a line begins here with the mark of a document's start or end. -/
def atDocumentMark (c : Cursor) : Bool :=
  c.column == 0 &&
    match c.rest with
    | '-' :: '-' :: '-' :: after => endsWord after
    | '.' :: '.' :: '.' :: after => endsWord after
    | _ => false

/-- Passes a comment, if one begins here. -/
def skipComment (c : Cursor) : Cursor :=
  if c.peek? = some '#' then c.skipWhile fun ch => !isBreak ch else c

/-- Passes blanks, a comment and the end of the line; fails where something else stands. -/
def restOfLine? (c : Cursor) : Option Cursor :=
  let c := (c.skipWhile isBlank).skipComment
  if endsLine c.rest then some c.skipLineEnd else none

end Cursor
end Yaml
end MailRules
