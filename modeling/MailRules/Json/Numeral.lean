import MailRules.Document.Value

/-!
# Numeral — numbers in JSON

A number without a fraction and an exponent is whole as long as it fits into 64 bits.  Any other is
a double: of its digits only those count that fit into 64 bits, and the number they form is
multiplied or divided by a power of ten that is itself a double.  A number too large for a double is
refused.
-/

namespace MailRules
namespace Json

def digitValue (c : Char) : Nat := c.toNat - '0'.toNat

/-- A number read off the front of a text. -/
abbrev Read (α : Type) := Option (α × List Char)

/-! ## Digits -/

/-- Appends digits to a number as long as it stays below 2 ^ 64, and counts them. -/
def collect (n count : Nat) : List Char → Nat × Nat × List Char
  | [] => (n, count, [])
  | c :: cs =>
      if c.isDigit ∧ n * 10 + digitValue c < 0x10000000000000000 then
        collect (n * 10 + digitValue c) (count + 1) cs
      else (n, count, c :: cs)

def digitCount (cs : List Char) : Nat := (cs.takeWhile Char.isDigit).length

def skipDigits (cs : List Char) : List Char := cs.dropWhile Char.isDigit

def greatestExponent : Int := 0x7FFFFFFF

/-! ## Doubles -/

/-- Multiplies by a power of ten, dividing by the greatest power there is as often as needed.  Three
divisions leave nothing of a number below 2 ^ 64. -/
def scaled (x : Binary64) (e : Int) : Nat → Option Binary64
  | 0 => some x
  | turns + 1 =>
      if e.natAbs ≤ 308 then
        if 0 ≤ e then
          let y := x.mul (Binary64.powerOfTen e.natAbs)
          if y.isFinite then some y else none
        else some (x.div (Binary64.powerOfTen e.natAbs))
      else if x.isZero then some x
      else if 0 ≤ e then none
      else scaled (x.div (Binary64.powerOfTen 308)) (e + 308) turns

def double? (negative : Bool) (digits : Nat) (e : Int) : Option Binary64 :=
  (scaled (Binary64.ofNat digits) e 5).map fun x => if negative then x.neg else x

/-- The number with the exponent that follows, after its letter. -/
def withExponent? (negative : Bool) (digits : Nat) (start : Int) (cs : List Char) : Read Value :=
  let (down, cs) := match cs with
    | '+' :: rest => (false, rest)
    | '-' :: rest => (true, rest)
    | _ => (false, cs)
  let written := cs.takeWhile Char.isDigit
  let rest := skipDigits cs
  if written.isEmpty then none
  else
    let size : Int := (collect 0 0 (written.dropWhile (· == '0'))).1
    if greatestExponent < size then
      if digits ≠ 0 ∧ down = false then none else some (.float (Binary64.zero negative), rest)
    else
      let e := start + (if down then -size else size)
      let e := max (-greatestExponent - 1) (min greatestExponent e)
      (double? negative digits e).map fun x => (.float x, rest)

def isExponentMark (c : Char) : Bool := c == 'e' || c == 'E'

/-- The number with the exponent that may follow. -/
def finish? (negative : Bool) (digits : Nat) (e : Int) : List Char → Read Value
  | c :: cs =>
      if isExponentMark c then withExponent? negative digits e cs
      else (double? negative digits e).map fun x => (.float x, c :: cs)
  | [] => (double? negative digits e).map fun x => (.float x, [])

/-- The number with the fraction that follows, after its point. -/
def withFraction? (negative : Bool) (digits : Nat) (e : Int) (cs : List Char) : Read Value :=
  if digitCount cs = 0 then none
  else
    let (digits, count, rest) := collect digits 0 cs
    finish? negative digits (e - count) (skipDigits rest)

/-! ## Numbers -/

def whole (negative : Bool) (digits : Nat) : Value :=
  if negative then
    if digits = 0 ∨ 0x8000000000000000 < digits then .float (Binary64.ofNat digits).neg
    else .int (-digits)
  else .int digits

def number? (negative : Bool) (cs : List Char) : Read Value :=
  match cs with
  | [] => none
  | c :: after =>
      if !c.isDigit ∨ (c = '0' ∧ 0 < digitCount after) then none
      else
        let (digits, _, rest) := collect 0 0 cs
        let skipped := digitCount rest
        match skipDigits rest with
        | '.' :: fraction => withFraction? negative digits skipped fraction
        | rest =>
            if 0 < skipped ∨ (rest.head?.map isExponentMark).getD false then
              finish? negative digits skipped rest
            else some (whole negative digits, rest)

end Json
end MailRules
