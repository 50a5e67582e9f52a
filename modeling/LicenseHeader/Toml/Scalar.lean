import LicenseHeader.Toml.Value
import LicenseHeader.Regex.Reader

/-!
# Numbers, truth values, dates and times in TOML

A value that is not quoted or bracketed is one token.  `Toml.scalar?` gives the value that a whole
token is the written form of.
-/

namespace LicenseHeader.Toml

/-- The number that digits stand for in a base. -/
def valueOf (base : Nat) (digits : List Nat) : Nat := digits.foldl (fun n d => n * base + d) 0

/-- The digits of a text in a base; single low lines may stand between two digits. -/
def digits? (base : Nat) (t : Text) : Option (List Nat) :=
  let parts := splitAt '_' t
  if parts.any List.isEmpty then none
  else
    parts.flatten.mapM fun c =>
      match RegexReader.hexDigit? c with
      | some d => if d < base then some d else none
      | none => none

/-- Splits off a sign; `true` is minus. -/
def sign : Text → Bool × Text
  | '-' :: t => (true, t)
  | '+' :: t => (false, t)
  | t => (false, t)

/-- A decimal number without zeros in front. -/
def decimal? (t : Text) : Option (List Nat) :=
  match digits? 10 t with
  | some [0] => some [0]
  | some (0 :: _) => none
  | other => other

/-- An integer; only those of 128 bits are values. -/
def integer? (t : Text) : Option Int :=
  let magnitude : Option Int :=
    match t with
    | '0' :: 'x' :: ds => (digits? 16 ds).map fun d => (valueOf 16 d : Int)
    | '0' :: 'o' :: ds => (digits? 8 ds).map fun d => (valueOf 8 d : Int)
    | '0' :: 'b' :: ds => (digits? 2 ds).map fun d => (valueOf 2 d : Int)
    | _ =>
      let (negative, ds) := sign t
      (decimal? ds).map fun d =>
        if negative then -(valueOf 10 d : Int) else (valueOf 10 d : Int)
  magnitude.filter fun i => -(Int.pow 2 127) ≤ i && i < Int.pow 2 128

/-- The exponent of a float. -/
def exponent? (t : Text) : Option Int :=
  let (negative, ds) := sign t
  (digits? 10 ds).map fun d => if negative then -(valueOf 10 d : Int) else (valueOf 10 d : Int)

/-- A float.  One that is too large for the format is no value. -/
def float? (t : Text) : Option Double :=
  let (negative, body) := sign t
  if body = "inf".toList then some (.infinite negative)
  else if body = "nan".toList then some .nan
  else
    let isMark := fun c => c == 'e' || c == 'E'
    let mantissa := body.takeWhile fun c => !isMark c
    let whole := mantissa.takeWhile (· != '.')
    let fraction : Option (List Nat) :=
      match mantissa.dropWhile (· != '.') with
      | [] => some []
      | _ :: ds => digits? 10 ds
    let exponent : Option Int :=
      match body.dropWhile fun c => !isMark c with
      | [] => some 0
      | _ :: ds => exponent? ds
    let isFloat := body.any fun c => c == '.' || isMark c
    match isFloat, decimal? whole, fraction, exponent with
    | true, some w, some f, some e =>
      match Double.ofDecimal negative (valueOf 10 (w ++ f)) (e - f.length) with
      | .infinite _ => none
      | number => some number
    | _, _, _, _ => none

/-- The number of days of a month. -/
def daysInMonth (year month : Nat) : Nat :=
  if month = 2 then
    if (year % 4 = 0 ∧ year % 100 ≠ 0) ∨ year % 400 = 0 then 29 else 28
  else if month = 4 ∨ month = 6 ∨ month = 9 ∨ month = 11 then 30
  else 31

/-- A number of exactly `width` digits at the front of a text. -/
def fixedNumber (width : Nat) (t : Text) : Option (Nat × Text) :=
  let front := t.take width
  if front.length = width ∧ front.all Char.isDigit then
    some (valueOf 10 (front.map fun c => c.toNat - 0x30), t.drop width)
  else none

def expect (c : Char) : Text → Option Text
  | d :: t => if d = c then some t else none
  | [] => none

def date? (t : Text) : Option (Date × Text) := do
  let (year, t) ← fixedNumber 4 t
  let t ← expect '-' t
  let (month, t) ← fixedNumber 2 t
  let t ← expect '-' t
  let (day, t) ← fixedNumber 2 t
  if 1 ≤ month ∧ month ≤ 12 ∧ 1 ≤ day ∧ day ≤ daysInMonth year month then
    some (⟨year, month, day⟩, t)
  else none

/-- The nanoseconds that the digits of a fraction stand for; those after the ninth are dropped. -/
def nanoseconds (digits : Text) : Nat :=
  let nine := (digits ++ List.replicate 9 '0').take 9
  valueOf 10 (nine.map fun c => c.toNat - 0x30)

/-- A time of day at the front of a text; the seconds may be left out. -/
def time? (t : Text) : Option (Time × Text) := do
  let (hour, t) ← fixedNumber 2 t
  let t ← expect ':' t
  let (minute, t) ← fixedNumber 2 t
  let (second, nanosecond, t) ←
    match t with
    | ':' :: t =>
      match fixedNumber 2 t with
      | some (second, '.' :: t) =>
        let fraction := t.takeWhile Char.isDigit
        if fraction.isEmpty then none
        else some (second, nanoseconds fraction, t.dropWhile Char.isDigit)
      | some (second, t) => some (second, 0, t)
      | none => none
    | _ => some (0, 0, t)
  if hour ≤ 23 ∧ minute ≤ 59 ∧ second ≤ 60 then some (⟨hour, minute, second, nanosecond⟩, t)
  else none

/-- An offset that is a whole text; nothing for the empty text. -/
def offset? : Text → Option (Option Offset)
  | [] => some none
  | ['Z'] => some (some .utc)
  | ['z'] => some (some .utc)
  | c :: t => do
    if c ≠ '+' ∧ c ≠ '-' then none
    else
      let (hours, t) ← fixedNumber 2 t
      let t ← expect ':' t
      let (minutes, t) ← fixedNumber 2 t
      if t = [] ∧ hours ≤ 23 ∧ minutes ≤ 59 then
        let count : Int := (hours * 60 + minutes : Nat)
        some (some (.minutes (if c = '-' then -count else count)))
      else none

def datetime? (t : Text) : Option Datetime :=
  match date? t with
  | some (d, []) => some (.date d)
  | some (d, c :: rest) =>
    if c = 'T' ∨ c = 't' ∨ c = ' ' then
      match time? rest with
      | some (clock, left) => (offset? left).map fun o => .dateTime d clock o
      | none => none
    else none
  | none =>
    match time? t with
    | some (clock, []) => some (.time clock)
    | _ => none

def scalar? (t : Text) : Option Value :=
  if t = "true".toList then some (.boolean true)
  else if t = "false".toList then some (.boolean false)
  else
    match integer? t with
    | some i => some (.integer i)
    | none =>
      match float? t with
      | some f => some (.float f)
      | none => (datetime? t).map .datetime

/-- Whether a character can be part of such a token. -/
def isScalarChar (c : Char) : Bool :=
  c.isAlphanum || c == '+' || c == '-' || c == '_' || c == '.' || c == ':'

/-- Reads a token.  A time may follow a date after one space. -/
def readScalar (t : Text) : Option (Value × Text) :=
  let token := t.takeWhile isScalarChar
  let rest := t.dropWhile isScalarChar
  let joined : Text × Text :=
    match date? token, rest with
    | some (_, []), ' ' :: c :: more =>
      if c.isDigit then
        let clock := (c :: more).takeWhile isScalarChar
        (token ++ ' ' :: clock, (c :: more).dropWhile isScalarChar)
      else (token, rest)
    | _, _ => (token, rest)
  (scalar? joined.1).map fun v => (v, joined.2)

end LicenseHeader.Toml
