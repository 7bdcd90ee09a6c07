import MailRules.Json.Numeral

/-!
# Reader — JSON texts

A text holds one value between white space.  Lists and maps may be nested 127 deep.

* `Json.string?` reads a string after its opening quote;
* `Json.value` reads a value, which is `broken` where the text fails;
* `Json.document` reads a whole text.

No loop takes more turns than the text has characters, and `size` stands for their number.
-/

namespace MailRules
namespace Json

def isSpace (c : Char) : Bool := c == ' ' || c == '\n' || c == '\t' || c == '\r'

def skipSpace (cs : List Char) : List Char := cs.dropWhile isSpace

/-! ## Strings -/

def hexValue? (c : Char) : Option Nat :=
  if c.isDigit then some (c.toNat - '0'.toNat)
  else if 'a' ≤ c ∧ c ≤ 'f' then some (c.toNat - 'a'.toNat + 10)
  else if 'A' ≤ c ∧ c ≤ 'F' then some (c.toNat - 'A'.toNat + 10)
  else none

/-- A number of four hexadecimal digits. -/
def hex4? : List Char → Read Nat
  | a :: b :: c :: d :: rest =>
      match hexValue? a, hexValue? b, hexValue? c, hexValue? d with
      | some a, some b, some c, some d => some (((a * 16 + b) * 16 + c) * 16 + d, rest)
      | _, _, _, _ => none
  | _ => none

/-- A character by its code, after the letter `u`; one beyond the first plane is written as a
pair. -/
def codePoint? (cs : List Char) : Read Char :=
  match hex4? cs with
  | none => none
  | some (n, rest) =>
      if 0xDC00 ≤ n ∧ n ≤ 0xDFFF then none
      else if 0xD800 ≤ n ∧ n ≤ 0xDBFF then
        match rest with
        | '\\' :: 'u' :: rest =>
            match hex4? rest with
            | none => none
            | some (low, rest) =>
                if 0xDC00 ≤ low ∧ low ≤ 0xDFFF then
                  some (Char.ofNat (0x10000 + (n - 0xD800) * 0x400 + (low - 0xDC00)), rest)
                else none
        | _ => none
      else some (Char.ofNat n, rest)

def plainEscape? : Char → Option Char
  | '"' => some '"'
  | '\\' => some '\\'
  | '/' => some '/'
  | 'b' => some '\x08'
  | 'f' => some '\x0c'
  | 'n' => some '\n'
  | 'r' => some '\r'
  | 't' => some '\t'
  | _ => none

/-- The rest of a string, up to the quote that closes it.  Every turn takes at least one
character. -/
def stringFrom? (done : List Char) : Nat → List Char → Read String
  | _ + 1, '"' :: rest => some (String.ofList done.reverse, rest)
  | turns + 1, '\\' :: 'u' :: rest =>
      match codePoint? rest with
      | some (c, rest) => stringFrom? (c :: done) turns rest
      | none => none
  | turns + 1, '\\' :: c :: rest =>
      match plainEscape? c with
      | some e => stringFrom? (e :: done) turns rest
      | none => none
  | turns + 1, c :: rest =>
      if c = '\\' ∨ c.toNat < 0x20 then none else stringFrom? (c :: done) turns rest
  | _, _ => none

def string? (size : Nat) (cs : List Char) : Read String := stringFrom? [] size cs

/-! ## Values -/

/-- A value with the rest of the text, which is missing where the text failed. -/
abbrev Progress (α : Type) := α × Option (List Char)

def ofRead : Read Value → Progress Value
  | some (v, rest) => (v, some rest)
  | none => (.broken, none)

/-- A fixed word. -/
def word (w : List Char) (v : Value) (cs : List Char) : Progress Value :=
  if w.isPrefixOf cs then (v, some (cs.drop w.length)) else (.broken, none)

/-- What stands before the next item: its first character, or the end of the list.  A comma stands
between two items and nowhere else. -/
def nextItem? (closing : Char) (first : Bool) (cs : List Char) : Option (Option (List Char)) :=
  match skipSpace cs with
  | c :: rest =>
      if c = closing then some none
      else if first then some (some (c :: rest))
      else if c = ',' then
        match skipSpace rest with
        | d :: rest => if d = closing then none else some (some (d :: rest))
        | [] => none
      else none
  | [] => none

/-- Items up to the closing bracket.  Every turn takes at least one character. -/
def items (read : List Char → Progress Value) (first : Bool) :
    Nat → List Char → Progress (List Value)
  | 0, _ => ([.broken], none)
  | turns + 1, cs =>
      match nextItem? ']' first cs with
      | none => ([.broken], none)
      | some none => ([], some ((skipSpace cs).drop 1))
      | some (some cs) =>
          match read cs with
          | (v, none) => ([v], none)
          | (v, some rest) =>
              let more := items read false turns rest
              (v :: more.1, more.2)

/-- Pairs up to the closing brace.  A key is a string. -/
def pairs (size : Nat) (read : List Char → Progress Value) (first : Bool) :
    Nat → List Char → Progress (List (Value × Value))
  | 0, _ => ([(.broken, .broken)], none)
  | turns + 1, cs =>
      match nextItem? '}' first cs with
      | some none => ([], some ((skipSpace cs).drop 1))
      | some (some ('"' :: cs)) =>
          match string? size cs with
          | none => ([(.broken, .broken)], none)
          | some (key, rest) =>
              match skipSpace rest with
              | ':' :: rest =>
                  match read rest with
                  | (v, none) => ([(.string key, v)], none)
                  | (v, some rest) =>
                      let more := pairs size read false turns rest
                      ((.string key, v) :: more.1, more.2)
              | _ => ([(.string key, .broken)], none)
      | _ => ([(.broken, .broken)], none)

/-- Reads a value that may hold lists and maps as deep as the first number says. -/
def value (size : Nat) : Nat → List Char → Progress Value
  | depth, cs =>
      match skipSpace cs with
      | 'n' :: rest => word ['u', 'l', 'l'] .null rest
      | 't' :: rest => word ['r', 'u', 'e'] (.bool true) rest
      | 'f' :: rest => word ['a', 'l', 's', 'e'] (.bool false) rest
      | '"' :: rest => ofRead ((string? size rest).map fun s => (.string s.1, s.2))
      | '-' :: rest => ofRead (number? true rest)
      | '[' :: rest =>
          match depth with
          | 0 => (.broken, none)
          | depth + 1 =>
              let read := items (value size depth) true size rest
              (.list read.1, read.2)
      | '{' :: rest =>
          match depth with
          | 0 => (.broken, none)
          | depth + 1 =>
              let read := pairs size (value size depth) true size rest
              (.map read.1, read.2)
      | cs => ofRead (number? false cs)

/-! ## Documents -/

/-- How deep lists and maps may be nested. -/
def maxNesting : Nat := 127

/-- The value of a text, and whether nothing but white space follows it. -/
def document (text : String) : Value × Bool :=
  let cs := text.toList
  match value cs.length maxNesting cs with
  | (v, some rest) => (v, (skipSpace rest).isEmpty)
  | (v, none) => (v, true)

end Json
end MailRules
