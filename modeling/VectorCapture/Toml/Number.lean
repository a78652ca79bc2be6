import VectorCapture.Toml.Cursor
import VectorCapture.Decimal.Shortest
/-!
# Numbers, dates and times in TOML text

Integers are decimal, with an optional sign and single underscores between digits, or
hexadecimal, octal or binary after `0x`, `0o` or `0b`; each must fit in 64 signed bits. Floats
have a fraction, an exponent or both, and read as the nearest double; one that reads as
positive infinity is refused, as are the words `inf` and `nan` only when misspelt. Dates and
times follow RFC 3339, each part checked against its range and the days of its month.

Each step returns the position after what it read; a value that starts like a number is tried
as a date or time first, then as a float, then as an integer.
-/

namespace VectorCapture.Toml

open VectorCapture.Decimal

/-- Digits of class `ok` after a first one, each underscore followed by a digit. -/
def digitRun (s : ByteArray) (ok : UInt8 → Bool) (p : Nat) : Except Failure Nat :=
  if h : p < s.size then
    if ok s[p] then digitRun s ok (p + 1)
    else if s[p] == 0x5F then
      if (s[p + 1]?.map ok).getD false then digitRun s ok (p + 2)
      else .error ((Failure.here (p + 1)).within (.expected "digit")).final
    else .ok p
  else .ok p
termination_by s.size - p

/-- A digit of class `ok` and the digits after it. -/
def digitsFrom (s : ByteArray) (ok : UInt8 → Bool) (p : Nat) : Except Failure Nat :=
  if (s[p]?.map ok).getD false then digitRun s ok (p + 1) else .error (.here p)

/-- The position after an optional sign. -/
def afterSign (s : ByteArray) (p : Nat) : Nat :=
  if s[p]? == some 0x2B || s[p]? == some 0x2D then p + 1 else p

/-- A decimal integer: an optional sign, then `0` or digits that do not start with `0`. -/
def decimalInt (s : ByteArray) (p : Nat) : Except Failure Nat :=
  let q := afterSign s p
  let r : Except Failure Nat :=
    match s[q]? with
    | some b =>
      if inRange 0x31 0x39 b then digitRun s isDigitByte (q + 1)
      else if b == 0x30 then .ok (q + 1)
      else .error (.here q)
    | none => .error (.here q)
  Step.within (.label "integer") r

/-- The value of digits in a base, underscores and signs aside. -/
def digitsValue (base : Nat) (cs : List Char) : Nat :=
  cs.foldl (fun acc c =>
    if c.isDigit then acc * base + (c.toNat - 48)
    else if 'a' ≤ c && c ≤ 'f' then acc * base + (c.toNat - 87)
    else if 'A' ≤ c && c ≤ 'F' then acc * base + (c.toNat - 55)
    else acc) 0

/-- The largest integer that fits in 64 signed bits. -/
def maxInt64 : Nat := Nat.pow 2 63 - 1

/-- Digits in base 16, 8 or 2 after their prefix, which must fit in 64 signed bits. -/
def radixInt (s : ByteArray) (p : Nat) (base : Nat) (ok : UInt8 → Bool) (what : String) :
    Step Int :=
  match Step.final (Step.within (.label what) (digitsFrom s ok (p + 2))) with
  | .error e => .error e
  | .ok q =>
    let n := digitsValue base (slice s (p + 2) q).toList
    if n > maxInt64 then .error (Failure.because p "number too large to fit in target type").final
    else .ok (n, q)

/-- An integer, in any of its bases. -/
def integer (s : ByteArray) (p : Nat) : Step Int :=
  if looksAt s p [0x30, 0x78] then radixInt s p 16 isHexByte "hexadecimal integer"
  else if looksAt s p [0x30, 0x6F] then radixInt s p 8 (inRange 0x30 0x37) "octal integer"
  else if looksAt s p [0x30, 0x62] then radixInt s p 2 (inRange 0x30 0x31) "binary integer"
  else
    match decimalInt s p with
    | .error e => .error e
    | .ok q =>
      let text := (slice s p q).toList
      let n := digitsValue 10 text
      if text.head? == some '-' then
        if n > maxInt64 + 1 then
          .error (Failure.because p "number too small to fit in target type").final
        else .ok (-(n : Int), q)
      else if n > maxInt64 then
        .error (Failure.because p "number too large to fit in target type").final
      else .ok (n, q)

/-! ## Floats -/

/-- An exponent: `e` or `E`, an optional sign, and digits. -/
def exponent (s : ByteArray) (p : Nat) : Except Failure Nat :=
  if s[p]? == some 0x65 || s[p]? == some 0x45 then
    Step.final (digitsFrom s isDigitByte (afterSign s (p + 1)))
  else .error (.here p)

/-- A fraction: a point and digits. -/
def fraction (s : ByteArray) (p : Nat) : Except Failure Nat :=
  if s[p]? == some 0x2E then
    Step.final (Step.within (.expected "digit") (digitsFrom s isDigitByte (p + 1)))
  else .error (.here p)

/-- The text of a float with digits: an integer part, then an exponent, or a fraction and an
optional exponent. -/
def floatText (s : ByteArray) (p : Nat) : Except Failure Nat := do
  let q ← decimalInt s p
  match exponent s q with
  | .ok r => .ok r
  | .error e =>
    if e.cut then .error e else
    let r ← fraction s q
    match exponent s r with
    | .ok t => .ok t
    | .error e => if e.cut then .error e else .ok r

/-- The nearest double to a decimal written with a sign, digits, a fraction and an exponent;
magnitudes far beyond the range of doubles are settled without computing them. -/
def Double.ofText (text : List Char) : Double :=
  let negative := text.head? == some '-'
  let body := text.filter (· != '_') |>.dropWhile (fun c => c == '+' || c == '-')
  let mantissa := body.takeWhile (fun c => c != 'e' && c != 'E')
  let expPart := (body.dropWhile (fun c => c != 'e' && c != 'E')).drop 1
  let intDigits := mantissa.takeWhile (· != '.')
  let fracDigits := (mantissa.dropWhile (· != '.')).drop 1
  let expValue : Int :=
    if expPart.head? == some '-' then -(digitsValue 10 expPart : Int) else digitsValue 10 expPart
  let digits := (intDigits ++ fracDigits).dropWhile (· == '0')
  let n := digitsValue 10 digits
  let p := expValue - fracDigits.length
  if n = 0 then .finite negative 0 0
  else
    let lead := p + digits.length - 1
    if lead > 310 then .infinite negative
    else if lead < -400 then .finite negative 0 0
    else Double.ofDecimal negative n p

/-- `inf` or `nan` after an optional sign. -/
def specialFloat (s : ByteArray) (p : Nat) : Step Double :=
  let q := afterSign s p
  let negative := s[p]? == some 0x2D
  if looksAt s q [0x69, 0x6E, 0x66] then .ok (.infinite negative, q + 3)
  else if looksAt s q [0x6E, 0x61, 0x6E] then .ok (.nan, q + 3)
  else .error (.here q)

/-- A float. -/
def float (s : ByteArray) (p : Nat) : Step Double :=
  Step.within (.label "floating-point number") <|
    match floatText s p with
    | .ok q =>
      match Double.ofText (slice s p q).toList with
      | .infinite false => .error (Failure.here p).final
      | d => .ok (d, q)
    | .error e => if e.cut then .error e else specialFloat s p

/-! ## Dates and times -/

/-- The value of exactly `n` digits at `p`, if they are there. -/
def fixedDigits (s : ByteArray) (p n : Nat) : Option Nat :=
  if skipUpTo s isDigitByte p n = p + n then some (digitsValue 10 (slice s p (p + n)).toList)
  else none

/-- Two digits at `p` with a value of at most `most`. -/
def twoDigits (s : ByteArray) (p least most : Nat) : Except Failure Nat :=
  match fixedDigits s p 2 with
  | none => .error (.here p)
  | some v => if least ≤ v && v ≤ most then .ok (p + 2) else .error (Failure.because p outOfRange)

/-- The number of days in a month of a year. -/
def daysInMonth (year month : Nat) : Nat :=
  let leap := year % 4 = 0 && (year % 100 != 0 || year % 400 = 0)
  if month = 2 then (if leap then 29 else 28)
  else if month = 4 || month = 6 || month = 9 || month = 11 then 30
  else 31

/-- A date: four digits of year, two of month and two of day, joined by dashes. -/
def fullDate (s : ByteArray) (p : Nat) : Except Failure Nat := do
  let some year := fixedDigits s p 4 | .error (.here p)
  if s[p + 4]? != some 0x2D then .error (.here (p + 4))
  let _ ← Step.final (twoDigits s (p + 5) 1 12)
  if s[p + 7]? != some 0x2D then .error (Failure.here (p + 7)).final
  let _ ← Step.final (twoDigits s (p + 8) 1 31)
  let month := (fixedDigits s (p + 5) 2).getD 0
  let day := (fixedDigits s (p + 8) 2).getD 0
  if day > daysInMonth year month then .error (Failure.because (p + 8) outOfRange).final
  .ok (p + 10)

/-- A time of day: hours, minutes and seconds, and an optional fraction of a second. -/
def partialTime (s : ByteArray) (p : Nat) : Except Failure Nat := do
  let _ ← twoDigits s p 0 23
  if s[p + 2]? != some 0x3A then .error (.here (p + 2))
  let _ ← Step.final (twoDigits s (p + 3) 0 59)
  if s[p + 5]? != some 0x3A then .error (Failure.here (p + 5)).final
  let _ ← Step.final (twoDigits s (p + 6) 0 60)
  let q := p + 8
  if s[q]? == some 0x2E then
    let r := skipWhile s isDigitByte (q + 1)
    if r > q + 1 then .ok r else .ok q
  else .ok q

/-- An offset from UTC: `Z`, or a sign, hours and minutes. -/
def timeOffset (s : ByteArray) (p : Nat) : Except Failure Nat :=
  Step.within (.label "time offset") <|
    if s[p]? == some 0x5A || s[p]? == some 0x7A then .ok (p + 1)
    else if s[p]? == some 0x2B || s[p]? == some 0x2D then
      Step.final <| do
        let _ ← twoDigits s (p + 1) 0 23
        if s[p + 3]? != some 0x3A then .error (.here (p + 3))
        twoDigits s (p + 4) 0 59
    else .error (.here p)

/-- A date with an optional time and offset, or a time alone. -/
def dateTime (s : ByteArray) (p : Nat) : Except Failure Nat :=
  let withDate : Except Failure Nat :=
    Step.within (.label "date-time") <| do
      let q ← fullDate s p
      if s[q]? == some 0x54 || s[q]? == some 0x74 || s[q]? == some 0x20 then
        match partialTime s (q + 1) with
        | .ok r =>
          match timeOffset s r with
          | .ok t => .ok t
          | .error e => if e.cut then .error e else .ok r
        | .error e => if e.cut then .error e else .ok q
      else .ok q
  match withDate with
  | .error e => if e.cut then .error e else Step.within (.label "time") (partialTime s p)
  | ok => ok

end VectorCapture.Toml
