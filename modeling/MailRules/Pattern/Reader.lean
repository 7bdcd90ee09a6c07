import MailRules.Pattern.Ast
import MailRules.Text.Blank
import MailRules.Unicode.Property

/-!
# Reader — reading the written form of a pattern

`Ast.ofText?` reads a whole pattern, or nothing if the text breaks a rule of the notation.  Under
the verbose flag blanks and comments between the parts of a pattern are skipped, also inside classes
and inside the longer escapes, but not inside the flags of a group.

Look-around, back references and atomic groups are not part of the notation.
-/

namespace MailRules
namespace Pattern

/-- What is left to read, whether blanks are skipped, and the group names used so far. -/
structure Reader.State where
  rest : List Char
  verbose : Bool
  names : List String

abbrev Reader := StateT Reader.State Option

namespace Reader

/-! ## Single steps -/

def fail {α : Type} : Reader α := fun _ => none

def peek : Reader (Option Char) := fun s => some (s.rest.head?, s)

def atEnd : Reader Bool := fun s => some (s.rest.isEmpty, s)

/-- Takes the next character; there has to be one. -/
def next : Reader Char := fun s =>
  match s.rest with
  | [] => none
  | c :: rest => some (c, { s with rest })

def startsWith (text : List Char) : Reader Bool := fun s => some (text.isPrefixOf s.rest, s)

/-- Takes a text if it comes next. -/
def accept (text : List Char) : Reader Bool := fun s =>
  if text.isPrefixOf s.rest then some (true, { s with rest := s.rest.drop text.length })
  else some (false, s)

def dropSpace : Bool → List Char → List Char
  | _, [] => []
  | true, c :: cs => dropSpace (c != '\n') cs
  | false, c :: cs =>
      if isBlankChar c then dropSpace false cs
      else if c == '#' then dropSpace true cs
      else c :: cs

/-- Skips blanks and comments if the pattern is verbose. -/
def space : Reader Unit := fun s =>
  some ((), if s.verbose then { s with rest := dropSpace false s.rest } else s)

/-- Skips blanks whatever the flags say. -/
def blanks : Reader Unit := fun s => some ((), { s with rest := s.rest.dropWhile isBlankChar })

/-- Steps over the current character and what may be skipped after it; more has to follow. -/
def step : Reader Unit := do
  let _ ← next
  space
  if ← atEnd then fail

/-! ## Numbers -/

def isHexDigit (c : Char) : Bool :=
  c.isDigit || ('a' ≤ c && c ≤ 'f') || ('A' ≤ c && c ≤ 'F')

def hexValue (c : Char) : Nat :=
  if c.isDigit then c.toNat - '0'.toNat
  else if 'a' ≤ c then c.toNat - 'a'.toNat + 10
  else c.toNat - 'A'.toNat + 10

def ofDigits (base : Nat) (ds : List Nat) : Nat := ds.foldl (fun n d => n * base + d) 0

def digitsFrom : Nat → Reader (List Nat)
  | 0 => pure []
  | fuel + 1 => do
      match ← peek with
      | some c =>
          if c.isDigit then
            let _ ← next
            space
            let ds ← digitsFrom fuel
            return (c.toNat - '0'.toNat) :: ds
          else return []
      | none => return []

def blanksFrom : Nat → Reader Unit
  | 0 => pure ()
  | fuel + 1 => do
      match ← peek with
      | some c =>
          if isBlankChar c then
            let _ ← next
            space
            blanksFrom fuel
          else return ()
      | none => return ()

/-- How many characters are left, which bounds every loop below. -/
def left : Reader Nat := fun s => some (s.rest.length, s)

/-- A count of at most 32 bits, with blanks around it. -/
def decimal : Reader Nat := do
  blanks
  let ds ← digitsFrom (← left)
  blanksFrom (← left)
  if ds.isEmpty then fail
  let n := ofDigits 10 ds
  if n < 0x100000000 then return n else fail

/-! ## Escapes -/

/-- A scalar value by its number. -/
def scalar? (n : Nat) : Option Char :=
  if n < 0xD800 || (0xDFFF < n && n ≤ 0x10FFFF) then some (Char.ofNat n) else none

def scalar (n : Nat) : Reader Char :=
  match scalar? n with
  | some c => pure c
  | none => fail

def hexDigits : Nat → Reader (List Nat)
  | 0 => pure []
  | k + 1 => do
      match ← peek with
      | none => fail
      | some c =>
          if isHexDigit c then
            let _ ← next
            space
            let ds ← hexDigits k
            return hexValue c :: ds
          else fail

def bracedHex : Nat → Reader (List Nat)
  | 0 => fail
  | fuel + 1 => do
      match ← peek with
      | none => fail
      | some c =>
          if c == '}' then return []
          else if isHexDigit c then
            let _ ← next
            space
            let ds ← bracedHex fuel
            return hexValue c :: ds
          else fail

/-- The value after `x`, `u` or `U`: a fixed number of digits, or any number in braces. -/
def hexLiteral (letter : Char) : Reader Literal := do
  step
  match ← peek with
  | some '{' =>
      let _ ← next
      space
      let ds ← bracedHex (← left)
      let _ ← next
      space
      if ds.isEmpty then fail
      return ⟨← scalar (ofDigits 16 ds), false⟩
  | _ =>
      let ds ← hexDigits (if letter == 'x' then 2 else if letter == 'u' then 4 else 8)
      return ⟨← scalar (ofDigits 16 ds), letter == 'x'⟩

def bracedName : Nat → Reader (List Char)
  | 0 => fail
  | fuel + 1 => do
      match ← peek with
      | none => fail
      | some c =>
          if c == '}' then return []
          else
            let _ ← next
            space
            let cs ← bracedName fuel
            return c :: cs

/-- Cuts a name at the first occurrence of a separator. -/
def cut? (sep : List Char) : List Char → Option (List Char × List Char)
  | [] => none
  | c :: cs =>
      if sep.isPrefixOf (c :: cs) then some ([], (c :: cs).drop sep.length)
      else (cut? sep cs).map fun p => (c :: p.1, p.2)

/-- What a name in braces asks for, and whether it is put in the negative by the sign between the
name of a property and its value. -/
def queryOf (cs : List Char) : PropertyQuery × Bool :=
  let byValue (p : List Char × List Char) : PropertyQuery :=
    .byValue (String.ofList p.1) (String.ofList p.2)
  match cut? ['!', '='] cs with
  | some p => (byValue p, true)
  | none =>
      match cut? [':'] cs <|> cut? ['='] cs with
      | some p => (byValue p, false)
      | none => (.byName (String.ofList cs), false)

/-- What stands after the letter of a property; `negated` says which letter that is. -/
def property (negated : Bool) : Reader Ast := do
  step
  match ← peek with
  | some '{' =>
      let _ ← next
      space
      let cs ← bracedName (← left)
      let _ ← next
      let (query, opposite) := queryOf cs
      return .property query (negated != opposite)
  | some '\\' => fail
  | some c =>
      let _ ← next
      space
      return .property (.byName (String.singleton c)) negated
  | none => fail

def isMeta (c : Char) : Bool :=
  ['\\', '.', '+', '*', '?', '(', ')', '|', '[', ']', '{', '}', '^', '$', '#', '&', '-', '~'].contains c

/-- A backslash may stand before every ASCII character but letters, digits and angle brackets. -/
def isEscapable (c : Char) : Bool :=
  isMeta c || (c.toNat < 0x80 && !c.isAlphanum && c != '<' && c != '>')

def wordName : Nat → Reader (List Char)
  | 0 => pure []
  | fuel + 1 => do
      match ← peek with
      | some c =>
          if c.isAlpha || c == '-' then
            let _ ← next
            space
            let cs ← wordName fuel
            return c :: cs
          else return []
      | none => return []

/-- The braces after `\b` name a kind of boundary if a letter or hyphen comes first in them;
otherwise they are a repetition and stay unread. -/
def boundary : Reader Assertion := do
  let before ← get
  if (← peek) != some '{' then return .wordBoundary
  step
  match ← peek with
  | some c =>
      if c.isAlpha || c == '-' then
        let name ← wordName (← left)
        if (← peek) != some '}' then fail
        let _ ← next
        match String.ofList name with
        | "start" => return .wordStart
        | "end" => return .wordEnd
        | "start-half" => return .wordStartHalf
        | "end-half" => return .wordEndHalf
        | _ => fail
      else
        set before
        return .wordBoundary
  | none => fail

def plain (c : Char) : Ast := .literal ⟨c, false⟩

def letterClass? : Char → Option (LetterClass × Bool)
  | 'd' => some (.digit, false)
  | 'D' => some (.digit, true)
  | 's' => some (.space, false)
  | 'S' => some (.space, true)
  | 'w' => some (.word, false)
  | 'W' => some (.word, true)
  | _ => none

def controlChar? : Char → Option Char
  | 'a' => some '\x07'
  | 'f' => some '\x0c'
  | 't' => some '\t'
  | 'n' => some '\n'
  | 'r' => some '\r'
  | 'v' => some '\x0b'
  | _ => none

/-- What stands after a backslash. -/
def escape : Reader Ast := do
  let _ ← next
  match ← peek with
  | none => fail
  | some c =>
      if c.isDigit then fail
      else if c == 'x' || c == 'u' || c == 'U' then return .literal (← hexLiteral c)
      else if c == 'p' then property false
      else if c == 'P' then property true
      else
        let _ ← next
        match letterClass? c with
        | some (k, negated) => return .letter k negated
        | none =>
            if isEscapable c then return plain c
            match controlChar? c with
            | some d => return plain d
            | none =>
                match c with
                | 'A' => return .assertion .textStart
                | 'z' => return .assertion .textEnd
                | 'b' => return .assertion (← boundary)
                | 'B' => return .assertion .notWordBoundary
                | '<' => return .assertion .wordStart
                | '>' => return .assertion .wordEnd
                | _ => fail

/-! ## Classes -/

/-- One character or escape inside a class. -/
def classAtom : Reader Ast := do
  if (← peek) == some '\\' then escape else return plain (← next)

def classItem : Ast → Reader ClassSet
  | .literal l => pure (.literal l)
  | .property q negated => pure (.property q negated)
  | .letter k negated => pure (.letter k negated)
  | _ => fail

/-- What comes after the current character.  In a verbose pattern blanks do not count, and neither
does the sign that opens a comment; the text of the comment does. -/
def glance : Reader (Option Char) := fun s =>
  let after := s.rest.drop 1
  if s.verbose then
    match after.dropWhile isBlankChar with
    | '#' :: comment => some ((comment.dropWhile isBlankChar).head?, s)
    | more => some (more.head?, s)
  else some (after.head?, s)

/-- An item, or a range if a hyphen follows that is not the last thing in the class and not the
first half of a difference sign. -/
def classRange : Reader ClassSet := do
  let first ← classAtom
  space
  if ← atEnd then fail
  if (← peek) != some '-' then classItem first
  else
    let after ← glance
    if after == some ']' || after == some '-' then classItem first
    else
      step
      let second ← classAtom
      match first, second with
      | .literal lo, .literal hi =>
          if lo.char ≤ hi.char then return .range lo hi else fail
      | _, _ => fail

/-- A class by name, such as `[:alpha:]`; what does not have that form stays unread. -/
def namedClass? : Reader (Option ClassSet) := fun s =>
  match s.rest with
  | '[' :: ':' :: more =>
      let negated := more.head? == some '^'
      let more := if negated then more.drop 1 else more
      let name := more.takeWhile (· != ':')
      match more.dropWhile (· != ':') with
      | ':' :: ']' :: rest =>
          match NamedClass.ofName? (String.ofList name) with
          | some k => some (some (.named k negated), { s with rest })
          | none => some (none, s)
      | _ => some (none, s)
  | _ => some (none, s)

def leadingHyphens : Nat → Reader (List ClassSet)
  | 0 => pure []
  | fuel + 1 => do
      if (← peek) == some '-' then
        step
        let more ← leadingHyphens fuel
        return .literal ⟨'-', false⟩ :: more
      else return []

/-- Opens a class: whether it is negated, and the hyphens or the bracket that stand first in it and
so for themselves. -/
def openClass : Reader (Bool × List ClassSet) := do
  step
  let negated := (← peek) == some '^'
  if negated then step
  let hyphens ← leadingHyphens (← left)
  if hyphens.isEmpty && (← peek) == some ']' then
    step
    return (negated, [.literal ⟨']', false⟩])
  return (negated, hyphens)

def setOp? : List Char → Option SetOp
  | '&' :: '&' :: _ => some .inter
  | '-' :: '-' :: _ => some .diff
  | '~' :: '~' :: _ => some .symmDiff
  | _ => none

/-- Applies the operator that is waiting for its right side. -/
def close (pending : Option (SetOp × ClassSet)) (items : List ClassSet) : ClassSet :=
  let rhs := ClassSet.ofItems items
  match pending with
  | none => rhs
  | some (o, lhs) => .op o lhs rhs

/-- The inside of a class up to and including its closing bracket.  Items side by side are united;
operators bind less and group to the left. -/
def classBody : Nat → Option (SetOp × ClassSet) → List ClassSet → Reader ClassSet
  | 0, _, _ => fail
  | fuel + 1, pending, items => do
      space
      let s ← get
      match s.rest with
      | [] => fail
      | ']' :: _ =>
          let _ ← next
          return close pending items
      | '[' :: _ =>
          match ← namedClass? with
          | some k => classBody fuel pending (items ++ [k])
          | none =>
              let (negated, first) ← openClass
              let inner ← classBody fuel none first
              classBody fuel pending (items ++ [.bracketed negated inner])
      | rest =>
          match setOp? rest with
          | some o =>
              let _ ← next
              let _ ← next
              classBody fuel (some (o, close pending items)) []
          | none =>
              let item ← classRange
              classBody fuel pending (items ++ [item])

def bracketedClass : Reader Ast := do
  let fuel ← left
  let (negated, first) ← openClass
  return .bracketed negated (← classBody fuel none first)

/-! ## Groups and repetitions -/

def flagOf? : Char → Option Flag
  | 'i' => some .caseInsensitive
  | 'm' => some .multiLine
  | 's' => some .dotAll
  | 'U' => some .swapGreed
  | 'u' => some .unicode
  | 'R' => some .crlf
  | 'x' => some .verbose
  | _ => none

/-- The flags of a group up to the colon or parenthesis that ends them.  No flag may come twice, nor
may the sign that switches off, which has to have a flag after it. -/
def flagItems : Nat → Bool → FlagEdit → Reader FlagEdit
  | 0, _, _ => fail
  | fuel + 1, negated, e => do
      match ← peek with
      | none => fail
      | some ':' => if negated && e.off.isEmpty then fail else return e
      | some ')' => if negated && e.off.isEmpty then fail else return e
      | some '-' =>
          if negated then fail
          let _ ← next
          flagItems fuel true e
      | some c =>
          match flagOf? c with
          | none => fail
          | some f =>
              if e.on.contains f || e.off.contains f then fail
              let _ ← next
              flagItems fuel negated
                (if negated then { e with off := e.off ++ [f] } else { e with on := e.on ++ [f] })

def isNameChar (first : Bool) (c : Char) : Bool :=
  if first then c == '_' || Unicode.alphabetic.contains c
  else c == '_' || c == '.' || c == '[' || c == ']' || Unicode.alphanumeric.contains c

/-- The name of a group up to the closing angle bracket; no two groups share one. -/
def groupName : Reader Unit := do
  let s ← get
  let name := s.rest.takeWhile (· != '>')
  match name, s.rest.drop name.length with
  | c :: cs, _ :: rest =>
      let text := String.ofList name
      if isNameChar true c && cs.all (isNameChar false) && !s.names.contains text then
        set { s with rest, names := text :: s.names }
      else fail
  | _, _ => fail

/-- How a parenthesis goes on. -/
inductive Opening where
  | directive (e : FlagEdit)
  | capturing
  | plain (e : FlagEdit)

def opening : Reader Opening := do
  let _ ← next
  space
  if (← startsWith ['?', '=']) || (← startsWith ['?', '!']) || (← startsWith ['?', '<', '='])
      || (← startsWith ['?', '<', '!']) then fail
  if ← accept ['?', 'P', '<'] then
    groupName
    return .capturing
  else if ← accept ['?', '<'] then
    groupName
    return .capturing
  else if ← accept ['?'] then
    let e ← flagItems (← left) false FlagEdit.none
    if (← next) == ')' then
      if e.on.isEmpty && e.off.isEmpty then fail
      return .directive e
    else return .plain e
  else return .capturing

def uncounted (min : Nat) (max : Option Nat) (e : Ast) : Reader Ast := do
  let _ ← next
  return .repeated e min max (← accept ['?'])

def counted (e : Ast) : Reader Ast := do
  step
  let lo ← decimal
  let hi ← match ← peek with
    | some ',' => do
        step
        if (← peek) == some '}' then pure none else pure (some (← decimal))
    | _ => pure (some lo)
  if (← peek) != some '}' then fail
  let _ ← next
  space
  let reluctant ← accept ['?']
  if hi.all (lo ≤ ·) then return .repeated e lo hi reluctant else fail

/-- Repeats the last of the parts read so far, which are in reverse order. -/
def repeatLast (read : Ast → Reader Ast) : List Ast → Reader (List Ast)
  | [] => fail
  | e :: es => if e.isRepeatable then return (← read e) :: es else fail

/-! ## Whole patterns -/

def setVerbose (v : Bool) : Reader Unit := modify fun s => { s with verbose := v }

/-- Alternatives up to the end or to a closing parenthesis, which stays unread.  `branches` and
`parts` hold, in reverse order, the alternatives before this one and what this one has so far. -/
def alternatives : Nat → List Ast → List Ast → Reader Ast
  | 0, _, _ => fail
  | fuel + 1, branches, parts => do
      space
      let finish := Ast.ofAlt ((Ast.ofConcat parts.reverse :: branches).reverse)
      match ← peek with
      | none => return finish
      | some ')' => return finish
      | some '|' =>
          let _ ← next
          alternatives fuel (Ast.ofConcat parts.reverse :: branches) []
      | some '(' =>
          let verbose := (← get).verbose
          match ← opening with
          | .directive e =>
              setVerbose (e.apply .verbose verbose)
              alternatives fuel branches (.flags e :: parts)
          | .capturing =>
              let inner ← alternatives fuel [] []
              if (← next) != ')' then fail
              setVerbose verbose
              alternatives fuel branches (.capture inner :: parts)
          | .plain e =>
              setVerbose (e.apply .verbose verbose)
              let inner ← alternatives fuel [] []
              if (← next) != ')' then fail
              setVerbose verbose
              alternatives fuel branches (.group e inner :: parts)
      | some '[' => alternatives fuel branches ((← bracketedClass) :: parts)
      | some '?' => alternatives fuel branches (← repeatLast (uncounted 0 (some 1)) parts)
      | some '*' => alternatives fuel branches (← repeatLast (uncounted 0 none) parts)
      | some '+' => alternatives fuel branches (← repeatLast (uncounted 1 none) parts)
      | some '{' => alternatives fuel branches (← repeatLast counted parts)
      | some '\\' => alternatives fuel branches ((← escape) :: parts)
      | some '.' =>
          let _ ← next
          alternatives fuel branches (.dot :: parts)
      | some '^' =>
          let _ ← next
          alternatives fuel branches (.assertion .lineStart :: parts)
      | some '$' =>
          let _ ← next
          alternatives fuel branches (.assertion .lineEnd :: parts)
      | some c =>
          let _ ← next
          alternatives fuel branches (plain c :: parts)

end Reader

/-- How deep constructs may sit inside one another. -/
def maxDepth : Nat := 250

/-- Reads a whole pattern. -/
def Ast.ofText? (text : String) : Option Ast :=
  let cs := text.toList
  match Reader.alternatives (cs.length + 1) [] [] ⟨cs, false, []⟩ with
  | some (ast, s) => if s.rest.isEmpty && ast.depth ≤ maxDepth then some ast else none
  | none => none

end Pattern
end MailRules
