/-!
# Binary64 — double-precision numbers, exactly

A finite number is a mantissa below 2 ^ 53 times a power of two not below 2 ^ -1074, with a sign of
its own so that zero has two.  All arithmetic is on natural numbers; a result that is no double is
rounded to the nearest, a half to the even neighbour.

* `Binary64.ofRatio` rounds a quotient;
* `Binary64.ofDecimal` rounds a decimal numeral;
* `Binary64.mul` and `Binary64.div` round a product and a quotient of doubles.
-/

namespace MailRules

inductive Binary64 where
  | finite (negative : Bool) (mantissa : Nat) (exponent : Int)
  | infinite (negative : Bool)
  | nan
  deriving DecidableEq, Repr, Inhabited

namespace Binary64

/-! ## Powers as quotients -/

/-- Numerator and denominator of a power with an integer exponent. -/
def powRatio (base : Nat) (e : Int) : Nat × Nat :=
  if 0 ≤ e then (Nat.pow base e.toNat, 1) else (1, Nat.pow base (-e).toNat)

/-- Whether `a / b ≤ c / d`. -/
def ratioLE (a b c d : Nat) : Bool := a * d ≤ c * b

/-! ## Rounding -/

/-- The least mantissa of 53 bits. -/
def leastFull : Nat := 0x10000000000000

def leastExponent : Int := -1074

def greatestExponent : Int := 971

def zero (negative : Bool) : Binary64 := finite negative 0 leastExponent

/-- The quotient to the nearest integer, a half to the even one. -/
def divRound (num den : Nat) : Nat :=
  let q := num / den
  let r := num % den
  if den < 2 * r ∨ (den = 2 * r ∧ q % 2 = 1) then q + 1 else q

/-- The exponent of two in which a quotient has a mantissa of 53 bits, if that is not too small. -/
def exponentOf (num den : Nat) : Int :=
  let d : Int := (Nat.log2 num : Int) - Nat.log2 den
  let p := powRatio 2 d
  let floorLog := if ratioLE p.1 p.2 num den then d else d - 1
  max (floorLog - 52) leastExponent

def ofRatio (negative : Bool) (num den : Nat) : Binary64 :=
  if num = 0 then zero negative
  else
    let e := exponentOf num den
    let p := powRatio 2 e
    let m := divRound (num * p.2) (den * p.1)
    let (m, e) := if m = 2 * leastFull then (leastFull, e + 1) else (m, e)
    if greatestExponent < e then infinite negative else finite negative m e

def ofNat (n : Nat) : Binary64 := ofRatio false n 1

/-- The double nearest to `digits * 10 ^ exponent`.  Exponents far outside the range of doubles are
told by the number of digits alone. -/
def ofDecimal (negative : Bool) (digits : Nat) (exponent : Int) : Binary64 :=
  if digits = 0 then zero negative
  else
    let size : Int := exponent + (Nat.toDigits 10 digits).length
    if 310 < size then infinite negative
    else if size < -326 then zero negative
    else
      let p := powRatio 10 exponent
      ofRatio negative (digits * p.1) p.2

def powerOfTen (e : Nat) : Binary64 := ofDecimal false 1 e

/-! ## Arithmetic -/

def isNegative : Binary64 → Bool
  | finite negative _ _ => negative
  | infinite negative => negative
  | nan => false

def isZero : Binary64 → Bool
  | finite _ m _ => m == 0
  | _ => false

def isFinite : Binary64 → Bool
  | finite .. => true
  | _ => false

def neg : Binary64 → Binary64
  | finite negative m e => finite (!negative) m e
  | infinite negative => infinite (!negative)
  | nan => nan

/-- The product of two finite numbers. -/
def mul : Binary64 → Binary64 → Binary64
  | finite s m e, finite s' m' e' =>
      let p := powRatio 2 (e + e')
      ofRatio (s != s') (m * m' * p.1) p.2
  | _, _ => nan

/-- The quotient of a finite number by one that is not zero. -/
def div : Binary64 → Binary64 → Binary64
  | finite s m e, finite s' m' e' =>
      let p := powRatio 2 (e - e')
      ofRatio (s != s') (m * p.1) (m' * p.2)
  | _, _ => nan

end Binary64
end MailRules
