import LicenseHeader.Keyed
import LicenseHeader.Number.Double

/-!
# TOML values

The values of a TOML document, and the written form of its dates and times.
-/

namespace LicenseHeader.Toml

structure Date where
  year : Nat
  month : Nat
  day : Nat
  deriving DecidableEq, Repr

structure Time where
  hour : Nat
  minute : Nat
  second : Nat
  nanosecond : Nat
  deriving DecidableEq, Repr

/-- The distance of a local time from universal time. -/
inductive Offset where
  | utc
  | minutes (count : Int)
  deriving DecidableEq, Repr

/-- A date, a time of day, or both, the latter perhaps with an offset. -/
inductive Datetime where
  | date (d : Date)
  | time (t : Time)
  | dateTime (d : Date) (t : Time) (offset : Option Offset)
  deriving DecidableEq, Repr

def Date.text (d : Date) : Text :=
  Text.ofNatPadded 4 d.year ++ '-' :: Text.ofNatPadded 2 d.month ++ '-' :: Text.ofNatPadded 2 d.day

/-- The written form of a time; a fraction of a second only if there is one. -/
def Time.text (t : Time) : Text :=
  let fraction := ((Text.ofNatPadded 9 t.nanosecond).reverse.dropWhile (· == '0')).reverse
  Text.ofNatPadded 2 t.hour ++ ':' :: Text.ofNatPadded 2 t.minute
    ++ ':' :: Text.ofNatPadded 2 t.second
    ++ (if fraction.isEmpty then [] else '.' :: fraction)

def Offset.text : Offset → Text
  | .utc => ['Z']
  | .minutes count =>
    (if count < 0 then '-' else '+') :: Text.ofNatPadded 2 (count.natAbs / 60)
      ++ ':' :: Text.ofNatPadded 2 (count.natAbs % 60)

def Datetime.text : Datetime → Text
  | .date d => d.text
  | .time t => t.text
  | .dateTime d t offset =>
    d.text ++ 'T' :: t.text ++ (offset.map Offset.text).getD []

/-- A value of a TOML document. -/
inductive Value where
  | string (text : Text)
  | integer (number : Int)
  | float (number : Double)
  | boolean (value : Bool)
  | datetime (value : Datetime)
  | array (items : List Value)
  | table (entries : List (Text × Value))

end LicenseHeader.Toml
