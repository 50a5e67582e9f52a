import LicenseHeader.Number.Double

/-!
# Elapsed times

The time that a run took, in seconds, as it is written in reports.
-/

namespace LicenseHeader

namespace Double

/-- The number with a fixed count of decimal places, a half going to the even digit. -/
def fixed (places : Nat) : Double → Text
  | .nan => "NaN".toList
  | .infinite negative => if negative then "-inf".toList else "inf".toList
  | .finite negative mantissa exponent =>
    let (num, den) := scale 2 mantissa 1 exponent
    let units := roundDiv (num * Nat.pow 10 places) den
    (if negative then ['-'] else []) ++ Text.ofNat (units / Nat.pow 10 places)
      ++ '.' :: Text.ofNatPadded places (units % Nat.pow 10 places)

/-- The number as a JSON document has it: with a point, and with an exponent if it is below 0.00001
or has more than sixteen digits before the point. -/
def scientific : Double → Text
  | .finite negative mantissa exponent =>
    let sign := if negative then ['-'] else []
    if mantissa = 0 then sign ++ "0.0".toList
    else
      let (value, last) := shortest negative mantissa exponent
      let digits := Text.ofNat value
      let point := (digits.length : Int) + last
      if 0 < point ∧ point ≤ 16 then
        if 0 ≤ last then sign ++ digits ++ List.replicate last.toNat '0' ++ ".0".toList
        else sign ++ digits.take point.toNat ++ '.' :: digits.drop point.toNat
      else if -5 < point ∧ point ≤ 0 then
        sign ++ "0.".toList ++ List.replicate (-point).toNat '0' ++ digits
      else
        let power := point - 1
        let tail := if digits.length = 1 then [] else '.' :: digits.drop 1
        sign ++ digits.take 1 ++ tail ++ 'e' :: (if power < 0 then ['-'] else [])
          ++ Text.ofNat power.natAbs
  | _ => "null".toList

/-- The seconds of a time in nanoseconds: the sum of the whole seconds and of the number nearest to
the rest. -/
def ofNanoseconds (nanoseconds : Nat) : Double :=
  let whole := nanoseconds / Nat.pow 10 9
  match ofDecimal false (nanoseconds % Nat.pow 10 9) (-9) with
  | .finite _ mantissa exponent =>
    let (num, den) := scale 2 mantissa 1 exponent
    if whole * den + num = 0 then .finite false 0 (-1074)
    else ofFraction false (whole * den + num) den
  | other => other

end Double

end LicenseHeader
