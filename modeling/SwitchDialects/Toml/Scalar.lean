import SwitchDialects.Text.Number

/-!
# TOML numbers, truth values, dates and times

A value that is neither quoted nor bracketed is one token, and this module says which tokens are
values: truth values, integers of 64 bits in four bases, decimal fractions that do not round to
infinity, and dates and times of the calendar. Digits may be grouped by single underscores.
-/

namespace SwitchDialects.Toml

/-- The digits of a number, the underscores between them gone. -/
def digits? (isDigit : Char → Bool) (t : Text) : Option Text :=
  let groups := t.splitOn '_'
  if groups.all fun group => !group.isEmpty && group.all isDigit then some groups.flatten
  else none

/-- Whether a number has a minus, and what follows its sign. -/
def unsigned : Text → Bool × Text
  | '-' :: t => (true, t)
  | '+' :: t => (false, t)
  | t => (false, t)

/-- The digits of a whole number without a sign; a leading zero stands alone. -/
def wholeDigits? (t : Text) : Option Text :=
  if t = ['0'] || t.head? != some '0' then digits? Char.isDigit t else none

def isHexDigit (c : Char) : Bool :=
  c.isDigit || ('A' ≤ c && c ≤ 'F') || ('a' ≤ c && c ≤ 'f')

def isOctalDigit (c : Char) : Bool := '0' ≤ c && c ≤ '7'

def isBinaryDigit (c : Char) : Bool := c = '0' || c = '1'

def bitLength (bitsPerDigit : Nat) (digits : Text) : Nat :=
  match digits.dropWhile (· = '0') with
  | [] => 0
  | first :: rest =>
    let leading := if first = '1' then 1 else if first = '2' || first = '3' then 2
      else if first.isDigit && first ≤ '7' then 3 else 4
    leading + bitsPerDigit * rest.length

/-- The integers of 64 bits are those below this one and not below its negative. -/
def integerLimit : Nat := 9223372036854775808

def isInteger : Text → Bool
  | '0' :: 'x' :: t => (digits? isHexDigit t).any fun digits => bitLength 4 digits ≤ 63
  | '0' :: 'o' :: t => (digits? isOctalDigit t).any fun digits => bitLength 3 digits ≤ 63
  | '0' :: 'b' :: t => (digits? isBinaryDigit t).any fun digits => bitLength 1 digits ≤ 63
  | t =>
    let (negative, t) := unsigned t
    (wholeDigits? t).any fun digits =>
      Decimal.value digits < integerLimit + if negative then 1 else 0

/-- The least number that rounds to infinity, halfway above the largest one of 64 bits. -/
def infinityBound : Nat := 18014398509481983 <<< 970

/-- Whether a decimal number, given by its digits and the power of ten they count, is so large. -/
def roundsToInfinity (digits : Text) (exponent : Int) : Bool :=
  let significant := digits.dropWhile (· = '0')
  let magnitude := significant.length + exponent
  if significant.isEmpty || magnitude < 300 then false
  else if 310 < magnitude then true
  else if 0 ≤ exponent then
    infinityBound ≤ Decimal.value significant * Nat.pow 10 exponent.toNat
  else infinityBound * Nat.pow 10 (-exponent).toNat ≤ Decimal.value significant

def fractionDigits? : Text → Option Text
  | [] => some []
  | '.' :: t => digits? Char.isDigit t
  | _ => none

/-- The power of ten that a number is multiplied by, zero if none is given. -/
def exponent? : Text → Option Int
  | [] => some 0
  | _ :: t =>
    let (negative, t) := unsigned t
    (digits? Char.isDigit t).map fun digits =>
      if negative then -(Decimal.value digits : Int) else Decimal.value digits

/-- Whether a token is a number with a fraction or an exponent, or one of the special numbers. -/
def isFloat (token : Text) : Bool :=
  let (negative, t) := unsigned token
  let significand := t.takeWhile fun c => c != 'e' && c != 'E'
  let power := t.dropWhile fun c => c != 'e' && c != 'E'
  let whole := significand.takeWhile (· != '.')
  let fraction := significand.dropWhile (· != '.')
  if t = "inf".toList || t = "nan".toList then true
  else if fraction.isEmpty && power.isEmpty then false
  else
    match wholeDigits? whole, fractionDigits? fraction, exponent? power with
    | some whole, some fraction, some exponent =>
      negative || !roundsToInfinity (whole ++ fraction) (exponent - fraction.length)
    | _, _, _ => false

def twoDigits? : Text → Option (Nat × Text)
  | a :: b :: rest =>
    if a.isDigit && b.isDigit then some (Decimal.value [a, b], rest) else none
  | _ => none

def daysIn (year month : Nat) : Nat :=
  if month = 2 then
    if year % 4 = 0 && (year % 100 != 0 || year % 400 = 0) then 29 else 28
  else if [4, 6, 9, 11].contains month then 30
  else 31

def afterDate? (t : Text) : Option Text := do
  let (century, t) ← twoDigits? t
  let (year, t) ← twoDigits? t
  let '-' :: t := t | none
  let (month, t) ← twoDigits? t
  let '-' :: t := t | none
  let (day, t) ← twoDigits? t
  if 1 ≤ month && month ≤ 12 && 1 ≤ day && day ≤ daysIn (100 * century + year) month then some t
  else none

def afterMinute? (t : Text) : Option Text := do
  let (hour, t) ← twoDigits? t
  let ':' :: t := t | none
  let (minute, t) ← twoDigits? t
  if hour ≤ 23 && minute ≤ 59 then some t else none

/-- What follows a time of day; a second may be a leap second and have a fraction. -/
def afterTime? (t : Text) : Option Text := do
  let t ← afterMinute? t
  let ':' :: t := t | none
  let (second, t) ← twoDigits? t
  if 60 < second then none
  else
    match t with
    | '.' :: t =>
      if (t.takeWhile Char.isDigit).isEmpty then none else some (t.dropWhile Char.isDigit)
    | t => some t

/-- Whether a text is the distance from universal time, or nothing. -/
def isOffset : Text → Bool
  | [] => true
  | ['Z'] | ['z'] => true
  | c :: t => (c = '+' || c = '-') && afterMinute? t == some []

def isDate (token : Text) : Bool := afterDate? token == some []

def isTime (offset : Bool) (token : Text) : Bool :=
  (afterTime? token).any fun rest => if offset then isOffset rest else rest.isEmpty

def isDateTime (token : Text) : Bool :=
  isTime false token ||
    match afterDate? token with
    | some [] => true
    | some (c :: t) => (c = 'T' || c = 't') && isTime true t
    | none => false

def isScalar (token : Text) : Bool :=
  token = "true".toList || token = "false".toList || isDateTime token || isFloat token ||
    isInteger token

end SwitchDialects.Toml
