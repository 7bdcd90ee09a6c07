import MailRules.Document.Value

/-!
# Schema — what plain scalars stand for

A plain scalar is nothing, a truth value, a whole number or a double if it is written like one, and
a text otherwise.  Whole numbers may be hexadecimal, octal or binary.  A number with a zero in front
of further digits is a text.
-/

namespace MailRules
namespace Yaml
namespace Schema

/-! ## Constants -/

def isNull (s : String) : Bool := ["null", "Null", "NULL", "~"].contains s

def bool? (s : String) : Option Bool :=
  if ["true", "True", "TRUE"].contains s then some true
  else if ["false", "False", "FALSE"].contains s then some false
  else none

/-! ## Whole numbers -/

def digitOf? (base : Nat) (c : Char) : Option Nat :=
  let d : Option Nat :=
    if c.isDigit then some (c.toNat - '0'.toNat)
    else if 'a' ≤ c ∧ c ≤ 'z' then some (c.toNat - 'a'.toNat + 10)
    else if 'A' ≤ c ∧ c ≤ 'Z' then some (c.toNat - 'A'.toNat + 10)
    else none
  d.filter (· < base)

def digitsFrom? (base : Nat) (n : Nat) : List Char → Option Nat
  | [] => some n
  | c :: cs =>
      match digitOf? base c with
      | some d => digitsFrom? base (n * base + d) cs
      | none => none

/-- A number without a sign, of one digit at least. -/
def digits? (base : Nat) (cs : List Char) : Option Nat :=
  if cs.isEmpty then none else digitsFrom? base 0 cs

/-- The base that a beginning stands for, and the digits after it. -/
def based? : List Char → Option (Nat × List Char)
  | '0' :: 'x' :: rest => some (16, rest)
  | '0' :: 'o' :: rest => some (8, rest)
  | '0' :: 'b' :: rest => some (2, rest)
  | _ => none

def unsigned (cs : List Char) : List Char :=
  match cs with
  | '-' :: rest => rest
  | '+' :: rest => rest
  | _ => cs

/-- Digits with a zero in front are no number. -/
def isPadded (cs : List Char) : Bool :=
  match unsigned cs with
  | '0' :: d :: rest => (d :: rest).all Char.isDigit
  | _ => false

/-- The value of digits that stand behind a sign. -/
def magnitude? (cs : List Char) : Option Nat :=
  match (based? cs).bind fun b => digits? b.1 b.2 with
  | some n => some n
  | none => if isPadded cs then none else digits? 10 cs

def integer? (cs : List Char) : Option Int :=
  match cs with
  | '-' :: rest => (magnitude? rest).map fun n => -(n : Int)
  | '+' :: rest => (magnitude? rest).map fun n => (n : Int)
  | _ => (magnitude? cs).map fun n => (n : Int)

/-- A whole number by its size.  One that does not fit into 128 bits is none. -/
def int? (s : String) : Option Value :=
  match integer? s.toList with
  | none => none
  | some n =>
      if -0x8000000000000000 ≤ n ∧ n < 0x10000000000000000 then some (.int n)
      else if
        -0x80000000000000000000000000000000 ≤ n ∧ n < 0x100000000000000000000000000000000
      then some (.wide n)
      else none

/-! ## Doubles -/

/-- The exponent after a mantissa, with its letter. -/
def exponent? : List Char → Option Int
  | [] => some 0
  | c :: rest =>
      if c == 'e' || c == 'E' then
        match rest with
        | '-' :: ds => (digits? 10 ds).map fun n => -(n : Int)
        | '+' :: ds => (digits? 10 ds).map fun n => (n : Int)
        | ds => (digits? 10 ds).map fun n => (n : Int)
      else none

def decimal? (negative : Bool) (cs : List Char) : Option Binary64 :=
  let whole := cs.takeWhile Char.isDigit
  let rest := cs.dropWhile Char.isDigit
  let (fraction, rest) := match rest with
    | '.' :: after => (after.takeWhile Char.isDigit, after.dropWhile Char.isDigit)
    | _ => ([], rest)
  match digits? 10 (whole ++ fraction), exponent? rest with
  | some n, some e => some (Binary64.ofDecimal negative n (e - fraction.length))
  | _, _ => none

def infinities : List String := [".inf", ".Inf", ".INF"]

/-- A double; only the words for it stand for an infinite one. -/
def float? (s : String) : Option Binary64 :=
  let cs := s.toList
  let (negative, body) := match cs with
    | '-' :: rest => (true, rest)
    | '+' :: rest => (false, rest)
    | _ => (false, cs)
  if infinities.contains (String.ofList body) then some (.infinite negative)
  else if [".nan", ".NaN", ".NAN"].contains s then some .nan
  else (decimal? negative body).filter Binary64.isFinite

/-! ## Scalars -/

def plain (s : String) : Value :=
  if s.isEmpty || isNull s then .null
  else
    match bool? s with
    | some b => .bool b
    | none =>
        match int? s with
        | some v => v
        | none =>
            match if isPadded s.toList then none else float? s with
            | some x => .float x
            | none => .string s

/-- The tags that ask for a type of their own. -/
def typeTag (name : String) : String := "tag:yaml.org,2002:" ++ name

/-- A scalar with a tag that is not the document's own.  A text that does not fit the type of its
tag cannot be read. -/
def tagged (tag s : String) : Value :=
  if tag = typeTag "bool" then ((bool? s).map Value.bool).getD .broken
  else if tag = typeTag "int" then (int? s).getD .broken
  else if tag = typeTag "float" then ((float? s).map Value.float).getD .broken
  else if tag = typeTag "null" then if isNull s then .null else .broken
  else .string s

/-- Whether a tag is of the document's own making. -/
def isOwnTag (tag : Option String) : Bool := (tag.map fun t => t.startsWith "!").getD false

def scalar (s : String) (isPlain : Bool) (tag : Option String) : Value :=
  if isOwnTag tag then .tagged
  else
    match tag with
    | some t => tagged t s
    | none => if isPlain then plain s else .string s

end Schema
end Yaml
end MailRules
