import MailRules.Yaml.BlockScalar
import MailRules.Yaml.PlainScalar
import MailRules.Yaml.Tag

/-!
# Token — the words of a YAML text

Indentation becomes tokens of its own: a block opens where a line is indented further than the block
around it, and closes where a line is indented less.  Whether something is the key of a pair shows
only at the colon after it; up to there it is a pending key, which the scanner drops when its line
ends or when it grows longer than 1024 bytes.

* `Scanner.step?` reads the next token, with those that indentation puts in front of it;
* `Token.scan` reads a whole text.  A token is handed on only when it can no longer turn out to be
  the beginning of a key, so that a text that cannot be read yields the tokens before its last
  pending key.  A text is decoded portion by portion, and what stands before a portion that cannot
  be decoded is scanned all the same.
-/

namespace MailRules
namespace Yaml

/-- How a scalar is written. -/
inductive ScalarStyle where
  | plain
  | quoted
  | literal
  | folded
  deriving DecidableEq, Repr

inductive Token where
  | streamEnd
  | version (major minor : Nat)
  | tagDirective (handle : TagHandle)
  | documentStart
  | documentEnd
  | blockSequenceStart
  | blockMappingStart
  | blockEnd
  | flowSequenceStart
  | flowSequenceEnd
  | flowMappingStart
  | flowMappingEnd
  | blockEntry
  | flowEntry
  | key
  | value
  | reference (name : String)
  | anchor (name : String)
  | tag (t : Tag)
  | scalar (text : String) (style : ScalarStyle)
  deriving DecidableEq, Repr

/-! ## The state of a scan -/

/-- Something that becomes a key if a colon follows it. -/
structure PendingKey where
  /-- How many tokens come before it. -/
  token : Nat
  /-- Whether nothing but a key can stand in its place. -/
  required : Bool
  index : Nat
  line : Nat
  column : Nat
  deriving Repr

structure Scanner where
  cursor : Cursor
  /-- The tokens that are not handed on yet, the last first. -/
  tokens : List Token := []
  /-- How many tokens there were in all. -/
  count : Nat := 0
  /-- The pending key outside of all brackets. -/
  outerKey : Option PendingKey := none
  /-- The pending keys inside the open brackets, the innermost first. -/
  flowKeys : List (Option PendingKey) := []
  keyAllowed : Bool := true
  /-- The column of the innermost block, and of those around it. -/
  indent : Int := -1
  indents : List Int := []
  deriving Repr

namespace Scanner

def inFlow (s : Scanner) : Bool := !s.flowKeys.isEmpty

def emit (s : Scanner) (t : Token) : Scanner :=
  { s with tokens := t :: s.tokens, count := s.count + 1 }

/-- Puts a token behind the first ones, as many as the number says. -/
def insertAt (s : Scanner) (place : Nat) (t : Token) : Scanner :=
  let later := s.count - place
  { s with tokens := s.tokens.take later ++ t :: s.tokens.drop later, count := s.count + 1 }

def skip (s : Scanner) (n : Nat) : Scanner := { s with cursor := s.cursor.skip n }

/-! ## Pending keys -/

def pending (s : Scanner) : Option PendingKey :=
  match s.flowKeys with
  | k :: _ => k
  | [] => s.outerKey

def setPending (s : Scanner) (k : Option PendingKey) : Scanner :=
  match s.flowKeys with
  | _ :: rest => { s with flowKeys := k :: rest }
  | [] => { s with outerKey := k }

/-- Gives a pending key up, unless it is required. -/
def dropPending? (s : Scanner) : Option Scanner :=
  match s.pending with
  | some k => if k.required then none else some (s.setPending none)
  | none => some s

/-- Notes that what comes next may be a key. -/
def expectKey? (s : Scanner) : Option Scanner :=
  if s.keyAllowed then do
    let s ← s.dropPending?
    let c := s.cursor
    let required := !s.inFlow && s.indent == c.column
    return s.setPending (some ⟨s.count, required, c.index, c.line, c.column⟩)
  else some s

def longestKey : Nat := 1024

def PendingKey.isStale (k : PendingKey) (c : Cursor) : Bool :=
  decide (k.line < c.line) || decide (k.index + longestKey < c.index)

def fresh (c : Cursor) (k : Option PendingKey) : Option PendingKey :=
  k.filter fun k => !PendingKey.isStale k c

/-- Gives up the pending keys that lie too far back. -/
def dropStale? (s : Scanner) : Option Scanner :=
  let lost (k : Option PendingKey) : Bool :=
    (k.map fun k => k.required && PendingKey.isStale k s.cursor).getD false
  if lost s.outerKey || s.flowKeys.any lost then none
  else some { s with
    outerKey := fresh s.cursor s.outerKey
    flowKeys := s.flowKeys.map (fresh s.cursor) }

/-- How many tokens can be handed on: those before the first pending key. -/
def ready (s : Scanner) : Nat :=
  (s.outerKey :: s.flowKeys).foldl (fun n k => (k.map fun k => min n k.token).getD n) s.count

/-- Hands on the tokens that are ready, the last first. -/
def release (s : Scanner) : List Token × Scanner :=
  let waiting := s.count - s.ready
  (s.tokens.drop waiting, { s with tokens := s.tokens.take waiting })

/-! ## Indentation -/

/-- Opens a block at a column right of the current one. -/
def openBlock (s : Scanner) (column : Nat) (place : Nat) (start : Token) : Scanner :=
  if !s.inFlow && decide (s.indent < column) then
    { s.insertAt place start with indents := s.indent :: s.indents, indent := column }
  else s

/-- Closes blocks around the innermost one, as long as it is right of a column, and counts them. -/
def closeBlocks (column : Int) (closed : Nat) (indent : Int) : List Int → Nat × Int × List Int
  | [] => (closed, indent, [])
  | outer :: rest =>
      if column < indent then closeBlocks column (closed + 1) outer rest
      else (closed, indent, outer :: rest)

def closeBlocksTo (s : Scanner) (column : Int) : Scanner :=
  if s.inFlow then s
  else
    let (closed, indent, indents) := closeBlocks column 0 s.indent s.indents
    { s with
      tokens := List.replicate closed .blockEnd ++ s.tokens
      count := s.count + closed
      indent
      indents }

/-! ## White space -/

/-- Passes white space and comments.  A tab is white space only where no key can stand.  Every turn
takes at least one character. -/
def skipSpaceFrom (s : Scanner) : Nat → Scanner
  | 0 => s
  | turns + 1 =>
      let c := s.cursor
      let c := if c.column = 0 ∧ c.peek? = some '\ufeff' then c.skip 1 else c
      let tabs := s.inFlow || !s.keyAllowed
      let c := (c.skipWhile fun ch => ch == ' ' || (tabs && ch == '\t')).skipComment
      match c.lineEnd? with
      | some (_, after) =>
          skipSpaceFrom { s with cursor := after, keyAllowed := s.keyAllowed || !s.inFlow } turns
      | none => { s with cursor := c }

def skipSpace (s : Scanner) : Scanner := s.skipSpaceFrom (s.cursor.size + 1)

/-! ## Directives -/

/-- A number of at most nine digits. -/
def versionNumber? (c : Cursor) : Option (Nat × Cursor) :=
  let digits := c.rest.takeWhile Char.isDigit
  if digits.isEmpty || decide (9 < digits.length) then none
  else some (digits.foldl (fun n d => n * 10 + (d.toNat - '0'.toNat)) 0, c.skip digits.length)

def versionDirective? (c : Cursor) : Option (Token × Cursor) := do
  let (major, c) ← versionNumber? (c.skipWhile isBlank)
  if c.peek? ≠ some '.' then none
  let (minor, c) ← versionNumber? (c.skip 1)
  return (.version major minor, c)

def directive? (c : Cursor) : Option (Token × Cursor) := do
  let name := c.rest.takeWhile isNameChar
  let c := c.skip name.length
  if !endsWord c.rest then none
  let (t, c) ←
    if name == ['Y', 'A', 'M', 'L'] then versionDirective? c
    else if name == ['T', 'A', 'G'] then (Tag.directive? c).map fun (h, c) => (Token.tagDirective h, c)
    else none
  let c ← c.restOfLine?
  return (t, c)

/-! ## Names -/

/-- The name of an anchor, which ends with a word or before one of a few indicators. -/
def name? (c : Cursor) : Option (String × Cursor) :=
  let name := c.rest.takeWhile isNameChar
  let after := c.skip name.length
  let ended := match after.peek? with
    | none => true
    | some ch => isBlank ch || isBreak ch || ['?', ':', ',', ']', '}', '%', '@', '`'].contains ch
  if name.isEmpty || !ended then none else some (String.ofList name, after)

/-! ## Tokens -/

/-- A token that ends all blocks and takes so many characters. -/
def boundary? (s : Scanner) (t : Token) (length : Nat) : Option Scanner := do
  let s ← (s.closeBlocksTo (-1)).dropPending?
  return { (s.emit t).skip length with keyAllowed := false }

def openFlow? (s : Scanner) (t : Token) : Option Scanner := do
  let s ← s.expectKey?
  return { (s.emit t).skip 1 with flowKeys := none :: s.flowKeys, keyAllowed := true }

def closeFlow? (s : Scanner) (t : Token) : Option Scanner := do
  let s ← s.dropPending?
  return { (s.emit t).skip 1 with flowKeys := s.flowKeys.drop 1, keyAllowed := false }

def flowEntry? (s : Scanner) : Option Scanner := do
  let s ← s.dropPending?
  return { (s.emit .flowEntry).skip 1 with keyAllowed := true }

def blockEntry? (s : Scanner) : Option Scanner := do
  if !s.inFlow && !s.keyAllowed then none
  let s := s.openBlock s.cursor.column s.count .blockSequenceStart
  let s ← s.dropPending?
  return { (s.emit .blockEntry).skip 1 with keyAllowed := true }

def keyMark? (s : Scanner) : Option Scanner := do
  if !s.inFlow && !s.keyAllowed then none
  let s := s.openBlock s.cursor.column s.count .blockMappingStart
  let s ← s.dropPending?
  return { (s.emit .key).skip 1 with keyAllowed := !s.inFlow }

/-- A colon makes the pending key a key; without one it stands for an empty key. -/
def valueMark? (s : Scanner) : Option Scanner :=
  match s.pending with
  | some k =>
      let s := ((s.insertAt k.token .key).openBlock k.column k.token .blockMappingStart).setPending none
      some { (s.emit .value).skip 1 with keyAllowed := false }
  | none =>
      if !s.inFlow && !s.keyAllowed then none
      else
        let s := s.openBlock s.cursor.column s.count .blockMappingStart
        some { (s.emit .value).skip 1 with keyAllowed := !s.inFlow }

/-- Something that may be a key, read by the given function. -/
def keyable? (s : Scanner) (read? : Cursor → Option (Token × Cursor)) : Option Scanner := do
  let s ← s.expectKey?
  let (t, c) ← read? s.cursor
  return { s.emit t with cursor := c, keyAllowed := false }

def plain? (s : Scanner) : Option Scanner := do
  let s ← s.expectKey?
  let p ← PlainScalar.read? s.inFlow (s.indent + 1) s.cursor
  return { s.emit (.scalar (String.ofList p.text) .plain) with
    cursor := p.stop, keyAllowed := p.brokeLine }

def block? (s : Scanner) (literal : Bool) : Option Scanner := do
  let s ← s.dropPending?
  let (text, c) ← BlockScalar.read? literal s.indent s.cursor
  let style := if literal then ScalarStyle.literal else .folded
  return { s.emit (.scalar (String.ofList text) style) with cursor := c, keyAllowed := true }

def quoted? (double : Bool) (c : Cursor) : Option (Token × Cursor) :=
  (QuotedScalar.read? double c).map fun (text, c) => (.scalar (String.ofList text) .quoted, c)

def named? (make : String → Token) (c : Cursor) : Option (Token × Cursor) :=
  (name? (c.skip 1)).map fun (name, c) => (make name, c)

/-- At the end of the text a line is ended that was not. -/
def finish? (s : Scanner) : Option Scanner := do
  let c := s.cursor
  let c := if c.column = 0 then c else { c with column := 0, line := c.line + 1 }
  ({ s with cursor := c }).boundary? .streamEnd 0

/-- The indicators that cannot begin a plain scalar. -/
def isIndicator (c : Char) : Bool :=
  ['-', '?', ':', ',', '[', ']', '{', '}', '#', '&', '*', '!', '|', '>', '\'', '"', '%', '@',
    '`'].contains c

/-- Three of them can, if a word goes on after them. -/
def beginsPlain (flow : Bool) (ch : Char) (after : List Char) : Bool :=
  !(isBlank ch || isBreak ch || isIndicator ch) ||
    (ch == '-' && !(after.head?.map isBlank).getD false) ||
    (!flow && (ch == '?' || ch == ':') && !endsWord after)

/-- The next token, with those that indentation puts before it. -/
def step? (s : Scanner) : Option Scanner := do
  let s ← s.skipSpace.dropStale?
  let s := s.closeBlocksTo s.cursor.column
  let c := s.cursor
  match c.rest with
  | [] => s.finish?
  | ch :: after =>
      let mark := s.inFlow || endsWord after
      if c.column = 0 ∧ ch = '%' then
        let s ← (s.closeBlocksTo (-1)).dropPending?
        let (t, c) ← directive? (c.skip 1)
        return { s.emit t with cursor := c, keyAllowed := false }
      else if c.atDocumentMark then
        s.boundary? (if ch = '-' then .documentStart else .documentEnd) 3
      else if ch = '[' then s.openFlow? .flowSequenceStart
      else if ch = '{' then s.openFlow? .flowMappingStart
      else if ch = ']' then s.closeFlow? .flowSequenceEnd
      else if ch = '}' then s.closeFlow? .flowMappingEnd
      else if ch = ',' then s.flowEntry?
      else if ch = '-' ∧ endsWord after then s.blockEntry?
      else if ch = '?' ∧ mark then s.keyMark?
      else if ch = ':' ∧ mark then s.valueMark?
      else if ch = '*' then s.keyable? (named? .reference)
      else if ch = '&' then s.keyable? (named? .anchor)
      else if ch = '!' then s.keyable? fun c => (Tag.read? s.inFlow c).map fun (t, c) => (.tag t, c)
      else if ch = '|' ∧ s.inFlow = false then s.block? true
      else if ch = '>' ∧ s.inFlow = false then s.block? false
      else if ch = '\'' then s.keyable? (quoted? false)
      else if ch = '"' then s.keyable? (quoted? true)
      else if beginsPlain s.inFlow ch after then s.plain?
      else none

end Scanner

/-! ## Texts -/

namespace Token

/-- How many characters have to be decoded beyond a token. -/
def lookahead : Nat := 4

/-- The tokens that are handed on after the given ones, the last first, until the scan ends or
fails.  In a text of which only a part was decoded the scan fails where that part ends.  Every turn
takes at least one character or reaches the end. -/
def scanFrom (isPart : Bool) (s : Scanner) (before : List Token) : Nat → List Token
  | 0 => before
  | turns + 1 =>
      match s.step?.bind Scanner.dropStale? with
      | none => before
      | some s =>
          if isPart && (s.cursor.rest.take lookahead).length < lookahead then before
          else if s.tokens.head? = some .streamEnd then s.tokens ++ before
          else
            let (ready, s) := s.release
            scanFrom isPart s (ready ++ before) turns

/-- Characters that may stand in a text. -/
def isAllowed (c : Char) : Bool :=
  let n := c.toNat
  n == 0x09 || n == 0x0A || n == 0x0D || (0x20 ≤ n && n ≤ 0x7E) || n == 0x85 ||
    (0xA0 ≤ n && n ≤ 0xD7FF) || (0xE000 ≤ n && n ≤ 0xFFFD) || 0x10000 ≤ n

/-- The most bytes of a portion of a text that is decoded at once. -/
def portionBytes : Nat := 16384

/-- The portions of a text up to the first that holds a character that may not stand in a text.
`portion` is the current one so far, and `before` what comes before it, both in reverse. -/
def decodedFrom (before portion : List Char) (bytes : Nat) : List Char → List Char
  | [] => portion ++ before
  | c :: cs =>
      let portions := if bytes + c.utf8Size ≤ portionBytes then (before, portion, bytes)
        else (portion ++ before, [], 0)
      if isAllowed c then
        decodedFrom portions.1 (c :: portions.2.1) (portions.2.2 + c.utf8Size) cs
      else portions.1

/-- The part of a text that can be decoded. -/
def decoded (cs : List Char) : List Char := (decodedFrom [] [] 0 cs).reverse

def scan (text : String) : List Token :=
  let all := text.toList
  let part := decoded all
  let cursor := Cursor.start part
  (scanFrom (cursor.size < all.length) { cursor } [] (2 * cursor.size + 2)).reverse

end Token
end Yaml
end MailRules
