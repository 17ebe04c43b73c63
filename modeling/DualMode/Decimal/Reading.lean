import DualMode.Decimal.Digits

/-! Reading a decimal numeral as the nearest double. -/

namespace DualMode
namespace Decimal

/-- The double nearest to `coefficient · 10 ^ exponent`. Exponents out of reach of every
double are settled without computing the power: ten bits of the coefficient make three digits
or more, three bits at most one. -/
def nearestDouble (coefficient : Nat) (exponent : Int) : Float :=
  if coefficient = 0 then 0.0
  else
    let bits := coefficient.log2
    if 400 < exponent + 3 * (bits / 10) then 1.0 / 0.0
    else if exponent + (bits / 3 + 1) < -400 then 0.0
    else Float.ofScientific coefficient (decide (exponent < 0)) exponent.natAbs

def splitSign : List Char → Bool × List Char
  | '-' :: rest => (true, rest)
  | '+' :: rest => (false, rest)
  | rest => (false, rest)

def allDigits (s : List Char) : Bool := !s.isEmpty && s.all Char.isDigit

/-- The exponent after a mark `e`, zero when nothing is left. -/
def readExponent? : List Char → Option Int
  | [] => some 0
  | mark :: rest =>
    let (negative, s) := splitSign rest
    if (mark == 'e' || mark == 'E') && allDigits s then
      some (if negative then -(value s : Int) else value s)
    else none

def readMagnitude? (s : List Char) : Option Float :=
  let whole := s.takeWhile Char.isDigit
  let afterWhole := s.dropWhile Char.isDigit
  let (fraction, afterFraction) := match afterWhole with
    | '.' :: rest => (rest.takeWhile Char.isDigit, rest.dropWhile Char.isDigit)
    | rest => ([], rest)
  if (whole ++ fraction).isEmpty then none
  else (readExponent? afterFraction).map fun e =>
    nearestDouble (value (whole ++ fraction)) (e - fraction.length)

/-- Numerals, and the names of infinity and of the undefined result in any letter case. -/
def readDouble? (text : String) : Option Float :=
  let (negative, s) := splitSign text.toList
  let size := match String.ofList (s.map Char.toLower) with
    | "nan" => some (0.0 / 0.0)
    | "inf" => some (1.0 / 0.0)
    | "infinity" => some (1.0 / 0.0)
    | _ => readMagnitude? s
  size.map fun x => if negative then -x else x

end Decimal
end DualMode
