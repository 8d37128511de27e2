import Highlighter.Yaml.Fields

namespace Highlighter.Yaml

def isTruth (text : String) : Bool := ["true", "True", "TRUE", "false", "False", "FALSE"].contains text

/-- The value of digits to a base up to 16, if there are any and all are such digits. -/
def digitsToBase (base : Nat) (digits : List Char) : Option Nat :=
  if digits.isEmpty then none
  else digits.foldlM (fun n c => (hexDigit? c).bind fun d => if d < base then some (base * n + d) else none) 0

/-- The value of a number that is written with the mark of its base. -/
def markedNumber : List Char → Option Nat
  | '0' :: 'x' :: digits => digitsToBase 16 digits
  | '0' :: 'o' :: digits => digitsToBase 8 digits
  | '0' :: 'b' :: digits => digitsToBase 2 digits
  | _ => none

/-- Whether the number is an integer of 128 bits, written with the mark of its base. -/
def isMarkedInteger : List Char → Bool
  | '-' :: rest => (markedNumber rest).any (· ≤ Nat.pow 2 127)
  | '+' :: rest => (markedNumber rest).any (· < Nat.pow 2 128)
  | text => (markedNumber text).any (· < Nat.pow 2 128)

/-- A decimal: its digits as one number, and the power of ten that it is to be multiplied by. -/
structure Decimal where
  digits : Nat
  exponent : Int

def digitsValue (digits : List Char) : Nat := digits.foldl (fun n c => 10 * n + (c.toNat - '0'.toNat)) 0

/-- An exponent: a sign, which may be left out, and digits. -/
def readExponent (text : List Char) : Option Int :=
  let (negative, digits) := match text with
    | '-' :: digits => (true, digits)
    | '+' :: digits => (false, digits)
    | digits => (false, digits)
  if digits.isEmpty || !digits.all Char.isDigit then none
  else some (if negative then -digitsValue digits else digitsValue digits)

/-- A decimal without a sign: digits with at most one point among them, and an exponent, which may be left out. -/
def Decimal.read (text : List Char) : Option Decimal := do
  let whole := text.takeWhile Char.isDigit
  let rest := text.dropWhile Char.isDigit
  let (fraction, rest) := match rest with
    | '.' :: rest => (rest.takeWhile Char.isDigit, rest.dropWhile Char.isDigit)
    | rest => ([], rest)
  guard (!(whole.isEmpty && fraction.isEmpty))
  let exponent ← match rest with
    | [] => some 0
    | e :: rest => if e = 'e' || e = 'E' then readExponent rest else none
  return ⟨digitsValue (whole ++ fraction), exponent - fraction.length⟩

/-- Whether the nearest number of double precision is a finite one. -/
def Decimal.isFinite (d : Decimal) : Bool :=
  let limit := Nat.pow 2 1024 - Nat.pow 2 970
  let size := (Nat.toDigits 10 d.digits).length
  if d.digits = 0 then true
  else if d.exponent + size ≤ 300 then true
  else if 400 < d.exponent + size then false
  else if 0 ≤ d.exponent then d.digits * Nat.pow 10 d.exponent.toNat < limit
  else d.digits < limit * Nat.pow 10 (-d.exponent).toNat

def isInfinity (text : List Char) : Bool := [".inf", ".Inf", ".INF"].contains (String.ofList text)

def isFloat : List Char → Bool
  | '-' :: rest => isInfinity rest || (Decimal.read rest).any (·.isFinite)
  | '+' :: rest => isInfinity rest || (Decimal.read rest).any (·.isFinite)
  | text =>
    isInfinity text || [".nan", ".NaN", ".NAN"].contains (String.ofList text) || (Decimal.read text).any (·.isFinite)

/-- Whether more digits follow a zero and nothing else does: such a text is no number. -/
def hasLeadingZero (text : List Char) : Bool :=
  let digits := match text with
    | '-' :: digits => digits
    | '+' :: digits => digits
    | digits => digits
  1 < digits.length && digits.head? = some '0' && digits.all Char.isDigit

/-- Whether a plain scalar is not taken for a text. -/
def isUntagged (text : String) : Bool :=
  text.isEmpty || isNull text || isTruth text || isMarkedInteger text.toList
    || (!hasLeadingZero text.toList && isFloat text.toList)

end Highlighter.Yaml
