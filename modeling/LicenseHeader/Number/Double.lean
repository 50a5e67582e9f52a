import LicenseHeader.Text.Basic

/-!
# Double precision numbers

A number of the binary format with 53 digits and an exponent from -1074, as it is read from a
decimal text and written back.  All arithmetic is on natural numbers.

* `Double.ofDecimal` rounds a decimal to the nearest number, a tie to the even one;
* `Double.shortest` gives the fewest decimal digits that are read back as the same number, and of
  those the nearest to it;
* `Double.text` writes them without an exponent.
-/

namespace LicenseHeader

/-- A double precision number; a finite one is `mantissa * 2 ^ exponent`. -/
inductive Double where
  | finite (negative : Bool) (mantissa : Nat) (exponent : Int)
  | infinite (negative : Bool)
  | nan
  deriving DecidableEq, Repr

namespace Double

/-- The quotient rounded to the nearest natural number, a half to the even one. -/
def roundDiv (num den : Nat) : Nat :=
  let quotient := num / den
  let twice := 2 * (num % den)
  if twice < den then quotient
  else if den < twice then quotient + 1
  else quotient + quotient % 2

/-- The fraction `num / den * b ^ e` as a numerator and a denominator. -/
def scale (b : Nat) (num den : Nat) (e : Int) : Nat × Nat :=
  if 0 ≤ e then (num * Nat.pow b e.toNat, den) else (num, den * Nat.pow b (-e).toNat)

/-- The exponent for which a positive fraction has 53 binary digits before the point, but no less
than the least exponent of the format. -/
def binaryExponent (num den : Nat) : Int :=
  let guess : Int := (Nat.log2 num : Int) - (Nat.log2 den : Int)
  -- the fraction is below `2 ^ (guess + 1)` and at least `2 ^ (guess - 1)`
  let (n, d) := scale 2 num den (-guess)
  let top := if d ≤ n then guess else guess - 1
  max (top - 52) (-1074)

/-- The number nearest to a positive fraction. -/
def ofFraction (negative : Bool) (num den : Nat) : Double :=
  let e := binaryExponent num den
  let (n, d) := scale 2 num den (-e)
  let m := roundDiv n d
  let (m, e) := if m = Nat.pow 2 53 then (Nat.pow 2 52, e + 1) else (m, e)
  if 971 < e then .infinite negative else .finite negative m e

/-- The number nearest to `digits * 10 ^ exponent`.  Decimals far outside of the range of the
format are decided by their exponent alone. -/
def ofDecimal (negative : Bool) (digits : Nat) (exponent : Int) : Double :=
  let magnitude := exponent + ((Nat.toDigits 10 digits).length : Int)
  if digits = 0 ∨ magnitude < -400 then .finite negative 0 (-1074)
  else if 400 < magnitude then .infinite negative
  else
    let (n, d) := scale 10 digits 1 exponent
    ofFraction negative n d

/-- The number of decimal digits before the point of a positive fraction, zero or less for one
below one tenth or one: the `k` with `10 ^ (k - 1) ≤ num / den < 10 ^ k`. -/
def decimalPoint (num den : Nat) : Int :=
  if den ≤ num then ((Nat.toDigits 10 (num / den)).length : Int)
  else
    -- the quotient the other way is at least one
    let inverse := ((Nat.toDigits 10 (den / num)).length : Int)
    let (n, d) := scale 10 num den inverse
    if d ≤ n then 1 - inverse else -inverse

/-- The first of the candidate lengths for which a decimal is read back as the number: its digits
and the power of ten of the last one. -/
def shortestFrom (negative : Bool) (mantissa : Nat) (exponent : Int) : Nat → Nat → Nat × Int
  | 0, _ => (0, 0)
  | fuel + 1, length =>
    let (num, den) := scale 2 mantissa 1 exponent
    let last := decimalPoint num den - (length : Int)
    let (n, d) := scale 10 num den (-last)
    let below := n / d
    let reads := fun (digits : Nat) =>
      ofDecimal negative digits last == .finite negative mantissa exponent
    let nearer := roundDiv n d
    let farther := if nearer = below then below + 1 else below
    if reads nearer then (nearer, last)
    else if reads farther then (farther, last)
    else shortestFrom negative mantissa exponent fuel (length + 1)

/-- The fewest digits that are read back as the number, and the power of ten of the last one. -/
def shortest (negative : Bool) (mantissa : Nat) (exponent : Int) : Nat × Int :=
  shortestFrom negative mantissa exponent 17 1

/-- A decimal without an exponent, and without zeros at the end of its fraction. -/
def positional (digits : Nat) (last : Int) : Text :=
  let written := Nat.toDigits 10 digits
  if 0 ≤ last then written ++ List.replicate last.toNat '0'
  else
    let places := (-last).toNat
    let padded := List.replicate (places + 1 - written.length) '0' ++ written
    let whole := padded.take (padded.length - places)
    let fraction := ((padded.drop (padded.length - places)).reverse.dropWhile (· == '0')).reverse
    if fraction.isEmpty then whole else whole ++ '.' :: fraction

def text : Double → Text
  | .nan => "NaN".toList
  | .infinite negative => if negative then "-inf".toList else "inf".toList
  | .finite negative mantissa exponent =>
    let sign := if negative then ['-'] else []
    if mantissa = 0 then sign ++ ['0']
    else
      let (digits, last) := shortest negative mantissa exponent
      sign ++ positional digits last

end Double

end LicenseHeader
