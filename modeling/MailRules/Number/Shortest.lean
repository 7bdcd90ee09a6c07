import MailRules.Number.Binary64

/-!
# Shortest — the fewest digits that read back

The digits of a double are those of the shortest decimal numeral that is read back as the same
double, and of those of that length of the one nearest to it.

* `Shortest.decimal` finds them as a whole number and a power of ten;
* `Shortest.positional` writes them without an exponent;
* `Shortest.pointed` and `Shortest.scientific` are the two ways in which a message shows a number.
-/

namespace MailRules
namespace Shortest

open Binary64 (powRatio ratioLE)

/-! ## Digits -/

/-- Which of two numerals at the same distance is taken. -/
inductive Tie where
  | upper
  | even
  deriving DecidableEq, Repr

/-- `digits * 10 ^ exponent`. -/
structure Decimal where
  digits : Nat
  exponent : Int
  deriving DecidableEq, Repr

/-- The greatest `e` with `10 ^ e ≤ num / den`. -/
def decade (num den : Nat) : Int :=
  let guess : Int := (((Nat.log2 num : Int) - Nat.log2 den) * 30103) / 100000
  let reaches (e : Int) : Bool :=
    let p := powRatio 10 e
    ratioLE p.1 p.2 num den
  if reaches (guess + 1) then guess + 1
  else if reaches guess then guess
  else guess - 1

/-- The numbers that are read as one double, as quotients by `den`.  The ends belong to it when its
mantissa is even. -/
structure Interval where
  den : Nat
  low : Nat
  value : Nat
  high : Nat
  closed : Bool
  deriving Repr

/-- Below the least mantissa of a decade of two the next number is only half as far. -/
def interval (mantissa : Nat) (exponent : Int) : Interval :=
  let p := powRatio 2 (exponent - 2)
  let below := if mantissa = Binary64.leastFull ∧ Binary64.leastExponent < exponent then 1 else 2
  ⟨p.2, (4 * mantissa - below) * p.1, 4 * mantissa * p.1, (4 * mantissa + 2) * p.1, mantissa % 2 == 0⟩

/-- The multiple of a power of ten that lies in the interval and is nearest to its value. -/
def onGrid? (tie : Tie) (i : Interval) (e : Int) : Option Decimal :=
  let p := powRatio 10 e
  let unit := p.1 * i.den
  let scale := p.2
  let inside (d : Nat) : Bool :=
    if i.closed then i.low * scale ≤ d * unit && d * unit ≤ i.high * scale
    else i.low * scale < d * unit && d * unit < i.high * scale
  let d := i.value * scale / unit
  let rest := 2 * (i.value * scale % unit)
  let upper := rest > unit || (rest == unit && (tie == .upper || d % 2 == 1))
  if inside d && inside (d + 1) then some ⟨if upper then d + 1 else d, e⟩
  else if inside d then some ⟨d, e⟩
  else if inside (d + 1) then some ⟨d + 1, e⟩
  else none

/-- Leaves out the zeros at the end. -/
def trim (digits : Nat) (e : Int) : Decimal :=
  go digits e 400
where
  go (digits : Nat) (e : Int) : Nat → Decimal
    | 0 => ⟨digits, e⟩
    | fuel + 1 => if digits % 10 = 0 then go (digits / 10) (e + 1) fuel else ⟨digits, e⟩

/-- The shortest numeral for a mantissa other than zero.  Seventeen digits always read back. -/
def decimal (tie : Tie) (mantissa : Nat) (exponent : Int) : Decimal :=
  let i := interval mantissa exponent
  let top := decade i.value i.den
  let found := (List.range 17).findSome? fun (n : Nat) => onGrid? tie i (top - n)
  let d := found.getD ⟨0, 0⟩
  if d.digits = 0 then d else trim d.digits d.exponent

/-! ## Text -/

def digitText (n : Nat) : String := String.ofList (Nat.toDigits 10 n)

def zeros (n : Nat) : String := String.ofList (List.replicate n '0')

def Decimal.text (d : Decimal) : String :=
  let ds := Nat.toDigits 10 d.digits
  if 0 ≤ d.exponent then String.ofList ds ++ zeros d.exponent.toNat
  else
    let places := (-d.exponent).toNat
    if ds.length ≤ places then "0." ++ zeros (places - ds.length) ++ String.ofList ds
    else
      String.ofList (ds.take (ds.length - places)) ++ "." ++
        String.ofList (ds.drop (ds.length - places))

def signText (negative : Bool) : String := if negative then "-" else ""

/-- All digits, without an exponent. -/
def positional : Binary64 → String
  | .nan => "NaN"
  | .infinite negative => signText negative ++ "inf"
  | .finite negative m e =>
      signText negative ++ if m = 0 then "0" else (decimal .upper m e).text

def hasPoint (s : String) : Bool := s.toList.contains '.'

def withPoint (s : String) : String := if hasPoint s then s else s ++ ".0"

/-- All digits, with a point in any case. -/
def pointed (x : Binary64) : String := if x.isFinite then withPoint (positional x) else positional x

/-- Without an exponent as long as at most sixteen digits stand before the point, or at most four
zeros after it; else one digit, the others behind a point, and an exponent with its sign. -/
def scientific : Binary64 → String
  | .finite negative m e =>
      signText negative ++
        if m = 0 then "0.0"
        else
          let d := decimal .even m e
          let ds := Nat.toDigits 10 d.digits
          let size : Int := ds.length + d.exponent
          if -5 < size ∧ size ≤ 16 then withPoint d.text
          else
            String.ofList (ds.take 1) ++
              (if ds.length = 1 then "" else "." ++ String.ofList (ds.drop 1)) ++
              (if size < 1 then "e" else "e+") ++ toString (size - 1)
  | x => positional x

end Shortest
end MailRules
